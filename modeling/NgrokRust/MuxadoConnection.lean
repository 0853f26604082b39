import NgrokRust.MuxadoSessionRuns

/-!
# Two connected sessions

A client session and a server session, joined by a link that carries what each side
has written to the other in order.  Each step is a step of one side, or some bytes
arrive; the link may also end or fail at any time, since `readEnd` and a failing
write are steps of a session.

The stream end that a SYN creates and the end that has sent the SYN are twins: the
two ends of one stream.
-/

namespace NgrokRust

namespace Muxado

open LabelledRuns

inductive Side where
  | client
  | server
deriving DecidableEq, Repr

namespace Side

def other : Side → Side
  | client => server
  | server => client

@[simp] theorem other_other (side : Side) : side.other.other = side := by cases side <;> rfl

theorem other_ne (side : Side) : side.other ≠ side := by cases side <;> simp [other]

theorem eq_other_of_ne {first second : Side} (ne : first ≠ second) : first = second.other := by
  cases first <;> cases second <;> simp_all [other]

end Side

/-- What `SessionBuilder` sets. -/
structure SessionBuilder where
  window : Nat
  acceptQueueSize : Nat
  streamLimit : Nat
deriving DecidableEq, Repr

abbrev Connection := Side → Session

inductive ConnectionOp where
  | act (side : Side) (op : SessionOp)
  /-- The first bytes that the other side has written arrive at a side. -/
  | transport (side : Side) (count : Nat)
deriving DecidableEq, Repr

namespace Session

def handOver (session : Session) (count : Nat) : Session :=
  { session with tx := session.tx.drop count }

def inFlight (peer session : Session) : List (Option StreamKey × Frame) :=
  peer.hub.emitted.drop session.handled.length

/-- An id is registered at the peer, or a frame of one of its streams with the id is
on the way. -/
def Uses (peer session : Session) (id : StreamID) : Prop :=
  (∃ handle, peer.hub.getStream id = some handle) ∨
    ∃ key frame, (some key, frame) ∈ inFlight peer session ∧ frame.header.streamId = id

/-- A local open fails, or takes an id that is not live in either direction. -/
def opensUnused (peer session : Session) : SessionOp → Prop
  | .serveOpen => session.callsCreateStream .serveOpen →
      session.hub.len = session.hub.manager.streamLimit ∨
        ¬ Uses peer session (session.hub.chosenId none) ∧
          ¬ Uses session peer (session.hub.chosenId none)
  | _ => True

/-- A local open under one id fails, or finds that the id is not live in either
direction. -/
def opensUnusedAt (id : StreamID) (peer session : Session) : SessionOp → Prop
  | .serveOpen => session.callsCreateStream .serveOpen →
      session.hub.len ≠ session.hub.manager.streamLimit → session.hub.chosenId none = id →
        ¬ Uses peer session id ∧ ¬ Uses session peer id
  | _ => True

theorem opensUnused.at {peer session : Session} {op : SessionOp}
    (unused : opensUnused peer session op) (id : StreamID) : opensUnusedAt id peer session op := by
  cases op with
  | serveOpen =>
      rintro calls room rfl
      exact (unused calls).resolve_left room
  | _ => trivial

def Accepted (peer session : Session) (key' key : StreamKey) : Prop :=
  key < session.hub.nextKey ∧ (session.hub.ends key).opener = false ∧
    ∃ frame, peer.hub.emitted[session.born key]? = some (some key', frame)

def Twins (peer session : Session) (key' key : StreamKey) : Prop :=
  Accepted peer session key' key ∨ Accepted session peer key key'

theorem Twins.symm {peer session : Session} {key' key : StreamKey}
    (twins : Twins peer session key' key) : Twins session peer key key' :=
  Or.symm twins

/-- Neither task has ended, and no RST or GOAWAY was sent: none is on its way to the
system channel, in it, or yielded from it. -/
structure Undisturbed (session : Session) : Prop where
  reader : session.reader.ended = false
  writer : session.writer = .running
  noReply : ∀ frame, session.reader ≠ .sysSending frame
  noneQueued : session.hub.manager.sysRx = []
  noneSent : ∀ frame, (none, frame) ∉ session.hub.emitted

end Session

namespace Connection

def new (builder : Side → SessionBuilder) : Connection := fun side =>
  Session.new (builder side).window (builder side).acceptQueueSize (builder side).streamLimit
    (side == .client)

/-- Bytes arrive by `transport` only. -/
def step (conn : Connection) : ConnectionOp → Connection
  | .act _ (.recv _) => conn
  | .act side op => Function.update conn side ((conn side).step op)
  | .transport side count =>
      let arrived := (conn side).step (.recv ((conn side.other).tx.take count))
      Function.update (Function.update conn side.other ((conn side.other).handOver count))
        side arrived

def opensUnused (conn : Connection) : ConnectionOp → Prop
  | .act side op => Session.opensUnused (conn side.other) (conn side) op
  | .transport _ _ => True

def opensUnusedAt (id : StreamID) (conn : Connection) : ConnectionOp → Prop
  | .act side op => Session.opensUnusedAt id (conn side.other) (conn side) op
  | .transport _ _ => True

def Twins (conn : Connection) (side : Side) (key' key : StreamKey) : Prop :=
  Session.Twins (conn side.other) (conn side) key' key

def Undisturbed (conn : Connection) : Prop := ∀ side, (conn side).Undisturbed

end Connection

/-- The runs of a connection whose ids are not opened again while they are live. -/
abbrev Connection.Runs (builder : Side → SessionBuilder) (conn : Connection) : Prop :=
  Reaches Connection.step Connection.opensUnused (Connection.new builder) conn

/-- The runs in which one id is not opened again while it is live, whatever happens to
the others. -/
abbrev Connection.RunsAt (id : StreamID) (builder : Side → SessionBuilder)
    (conn : Connection) : Prop :=
  Reaches Connection.step (Connection.opensUnusedAt id) (Connection.new builder) conn

theorem Connection.Runs.at {builder : Side → SessionBuilder} {conn : Connection}
    (runs : Connection.Runs builder conn) (id : StreamID) : Connection.RunsAt id builder conn := by
  refine Reaches.mono (fun conn op unused => ?_) runs
  cases op with
  | act side op => exact Session.opensUnused.at unused id
  | transport side count => trivial

namespace Session

/-- What every reachable session obeys by itself. -/
structure Lawful (session : Session) : Prop where
  sending : session.SendingSound
  hub : ∃ streamLimit client,
    Reaches Hub.step anyLabel (Hub.new streamLimit client) session.hub

namespace Lawful

variable {session : Session}

theorem new (window acceptQueueSize streamLimit : Nat) (client : Bool) :
    (Session.new window acceptQueueSize streamLimit client).Lawful :=
  ⟨.new window acceptQueueSize streamLimit client, streamLimit, client, .refl⟩

theorem step (lawful : session.Lawful) (op : SessionOp) : (session.step op).Lawful := by
  obtain ⟨sending, streamLimit, client, reaches⟩ := lawful
  refine ⟨sending.step op, streamLimit, client, ?_⟩
  rcases (step_spec sending op).hub with same | ⟨hubOp, step, -⟩
  · rw [same]
    exact reaches
  · exact reaches.tail ⟨hubOp, trivial, step⟩

theorem addressed (lawful : session.Lawful) : session.hub.Addressed :=
  have ⟨_, _, reaches⟩ := lawful.hub
  .of_reaches reaches

theorem readHistory (lawful : session.Lawful) (key : StreamKey) :
    ReadHistory (session.hub.ends key) :=
  have ⟨_, _, reaches⟩ := lawful.hub
  Hub.ends_invariant ReadHistory ReadHistory.create ReadHistory.change reaches key

theorem writeHistory (lawful : session.Lawful) (key : StreamKey) :
    WriteHistory (session.hub.ends key) :=
  have ⟨_, _, reaches⟩ := lawful.hub
  Hub.ends_invariant WriteHistory WriteHistory.create WriteHistory.change reaches key

theorem creditHistory (lawful : session.Lawful) (key : StreamKey) :
    CreditHistory (session.hub.ends key) :=
  have ⟨_, _, reaches⟩ := lawful.hub
  Hub.ends_invariant CreditHistory CreditHistory.create CreditHistory.change reaches key

end Lawful

end Session

namespace Connection

variable {builder : Side → SessionBuilder} {conn : Connection}
  {admits : Connection → ConnectionOp → Prop}

theorem step_act {side : Side} {op : SessionOp} (notRecv : ∀ bytes, op ≠ .recv bytes) :
    conn.step (.act side op) = Function.update conn side ((conn side).step op) := by
  cases op with
  | recv bytes => exact absurd rfl (notRecv bytes)
  | _ => rfl

/-- A relation of the two sessions holds in both directions in every run if it is
symmetric and the steps of one side and the link keep it. What is known of every
reachable pair may be used before and after the step. -/
theorem pairs_invariant (Known Holds : Session → Session → Prop)
    (allows : Session → Session → SessionOp → Prop)
    (allowed : ∀ {conn side op}, admits conn (.act side op) →
      allows (conn side.other) (conn side) op)
    (known : ∀ {conn}, Reaches step admits (new builder) conn →
      ∀ side, Known (conn side.other) (conn side))
    (symm : ∀ {peer session}, Holds peer session → Holds session peer)
    (new : ∀ side, Holds (Connection.new builder side.other) (Connection.new builder side))
    (act : ∀ {peer session op}, (∀ bytes, op ≠ .recv bytes) →
      allows peer session op → Known peer session →
      Known peer (session.step op) → Holds peer session → Holds peer (session.step op))
    (transport : ∀ {peer session} count, Known peer session → Holds peer session →
      Holds (peer.handOver count) (session.step (.recv (peer.tx.take count))))
    (runs : Reaches step admits (Connection.new builder) conn) (side : Side) :
    Holds (conn side.other) (conn side) := by
  induction runs generalizing side with
  | refl => exact new side
  | @tail conn later earlier edge ih =>
      have reached : Reaches step admits (Connection.new builder) later := earlier.tail edge
      obtain ⟨op, admitted, rfl⟩ := edge
      -- it is enough to look from the side that acts
      have from_actor (actor : Side)
          (holds : Holds (conn.step op actor.other) (conn.step op actor)) :
          Holds (conn.step op side.other) (conn.step op side) := by
        by_cases own : side = actor
        · exact own ▸ holds
        · rw [Side.eq_other_of_ne own, Side.other_other]
          exact symm holds
      cases op with
      | transport actor count =>
          refine from_actor actor ?_
          simp only [step, Function.update_self, Function.update_of_ne actor.other_ne]
          exact transport count (known earlier actor) (ih actor)
      | act actor op =>
          by_cases recv : ∃ bytes, op = .recv bytes
          · obtain ⟨bytes, rfl⟩ := recv
            exact ih side
          · have notRecv : ∀ bytes, op ≠ .recv bytes := fun bytes is => recv ⟨bytes, is⟩
            refine from_actor actor ?_
            have after := known reached actor
            simp only [step_act notRecv, Function.update_self,
              Function.update_of_ne actor.other_ne] at after ⊢
            exact act notRecv (allowed admitted) (known earlier actor) after (ih actor)

end Connection

end Muxado

end NgrokRust
