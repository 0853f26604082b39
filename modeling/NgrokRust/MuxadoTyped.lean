import NgrokRust.BigEndianWords
import NgrokRust.MuxadoFlowControl
import NgrokRust.MuxadoStreamUse
import NgrokRust.MuxadoWriteProgress

/-!
# Typed streams

`open_typed` puts the type of a stream, four bytes, before everything else that is written,
and `accept_typed` reads them off again.  The reader goes on until it has four bytes.  The
writer writes once, and a write may take fewer bytes than it is offered: a window of less
than four bytes leaves the rest of the type unsent.
-/

namespace NgrokRust

namespace Muxado

open LabelledRuns

abbrev StreamType := Constrained (2 ^ 32 - 1)

namespace StreamType

def bytes (typ : StreamType) : List UInt8 := BigEndian.putU32 typ.val

def ofBytes (bytes : List UInt8) : StreamType :=
  Constrained.clamp ((BigEndian.getU32 bytes).elim 0 Prod.fst)

theorem length_bytes (typ : StreamType) : typ.bytes.length = 4 := rfl

theorem ofBytes_bytes (typ : StreamType) : ofBytes typ.bytes = typ := by
  have fits : typ.val < 2 ^ 32 := by
    have le := typ.val_le
    omega
  have read := BigEndian.getU32_putU32 fits []
  rw [List.append_nil] at read
  apply Constrained.ext
  simp only [ofBytes, bytes, read, Option.elim_some, Constrained.clamp_val]
  exact Nat.min_eq_left typ.val_le

end StreamType

/-- What has become of a stream at one side: a call that waits for its write or its read,
the `TypedStream` that a call has returned, or the end of the call.  What `open_typed` has
sent is counted. -/
inductive TypedCall where
  | free
  | opening (typ : StreamType)
  | accepting (buf : List UInt8)
  | opened (typ : StreamType) (sent : Nat)
  | accepted (typ : StreamType)
  | openFailed
  | acceptFailed
  | cancelled
deriving DecidableEq, Repr

inductive TypedOp where
  /-- Anything but a use of a stream. -/
  | session (op : ConnectionOp)
  /-- `open` has returned a stream to `open_typed`. -/
  | openTyped (side : Side) (key : StreamKey) (typ : StreamType)
  /-- `accept` has returned a stream to `accept_typed`. -/
  | acceptTyped (side : Side) (key : StreamKey)
  | poll (side : Side) (key : StreamKey) (cx : Waker)
  /-- The call is dropped, and its stream with it. -/
  | cancel (side : Side) (key : StreamKey)
  | use (side : Side) (key : StreamKey) (op : StreamOp)
deriving DecidableEq, Repr

/-- Two sessions whose streams are all typed. -/
structure TypedConnection where
  conn : Connection
  calls : Side → StreamKey → TypedCall

namespace TypedConnection

def new (builder : Side → SessionBuilder) : TypedConnection where
  conn := Connection.new builder
  calls := fun _ _ => .free

def set (system : TypedConnection) (side : Side) (key : StreamKey) (call : TypedCall) :
    TypedConnection :=
  { system with
    calls := Function.update system.calls side (Function.update (system.calls side) key call) }

def useStream (system : TypedConnection) (side : Side) (key : StreamKey) (op : StreamOp) :
    TypedConnection :=
  { system with conn := system.conn.step (.act side (.stream key op)) }

def dropStream (system : TypedConnection) (side : Side) (key : StreamKey) : TypedConnection :=
  system.useStream side key .drop

def holds (system : TypedConnection) (side : Side) (key : StreamKey) : Bool :=
  (system.conn side).owns key && (system.conn side).hub.held key

/-- The one write of `open_typed`. -/
def pollOpen (system : TypedConnection) (side : Side) (key : StreamKey) (typ : StreamType)
    (cx : Waker) : TypedConnection :=
  let after := system.useStream side key (.pollWrite cx typ.bytes)
  match ((system.conn side).hub.ends key).stream.pollWrite cx typ.bytes with
  | .ok (.pending, _) => after
  | .ok (.ready (.ok sent), _) => after.set side key (.opened typ sent)
  | .ok (.ready (.error _), _) => (after.set side key .openFailed).dropStream side key
  | .error _ => (after.set side key .cancelled).dropStream side key

/-- One read of `read_exact` in `accept_typed`. -/
def pollAccept (system : TypedConnection) (side : Side) (key : StreamKey) (buf : List UInt8)
    (cx : Waker) : TypedConnection :=
  let after := system.useStream side key (.pollRead cx (4 - buf.length))
  match ((system.conn side).hub.ends key).stream.pollRead cx (4 - buf.length) with
  | .ok (.pending, _) => after
  | .ok (.ready (.ok []), _) => (after.set side key .acceptFailed).dropStream side key
  | .ok (.ready (.ok bytes), _) =>
      if (buf ++ bytes).length = 4 then
        after.set side key (.accepted (StreamType.ofBytes (buf ++ bytes)))
      else after.set side key (.accepting (buf ++ bytes))
  | .ok (.ready (.error _), _) => (after.set side key .acceptFailed).dropStream side key
  | .error _ => (after.set side key .cancelled).dropStream side key

def step (system : TypedConnection) : TypedOp → TypedConnection
  | .session (.act _ (.stream _ _)) => system
  | .session op => { system with conn := system.conn.step op }
  | .openTyped side key typ =>
      if system.holds side key ∧ ((system.conn side).hub.ends key).opener = true ∧
          system.calls side key = .free then
        system.set side key (.opening typ)
      else system
  | .acceptTyped side key =>
      if system.holds side key ∧ ((system.conn side).hub.ends key).opener = false ∧
          system.calls side key = .free then
        system.set side key (.accepting [])
      else system
  | .poll side key cx =>
      if system.holds side key then
        match system.calls side key with
        | .opening typ => system.pollOpen side key typ cx
        | .accepting buf => system.pollAccept side key buf cx
        | _ => system
      else system
  | .cancel side key =>
      match system.calls side key with
      | .opening _ => (system.set side key .cancelled).dropStream side key
      | .accepting _ => (system.set side key .cancelled).dropStream side key
      | _ => system
  | .use side key op =>
      match system.calls side key with
      | .opened _ _ => system.useStream side key op
      | .accepted _ => system.useStream side key op
      | _ => system

def opensUnused (system : TypedConnection) : TypedOp → Prop
  | .session op => system.conn.opensUnused op
  | _ => True

/-- The two calls on a stream agree: `accept_typed` returns the type that `open_typed` was
called with, and afterwards the reads return what was written after `open_typed` had
returned.  While the connection is undisturbed nothing of it is missing at the end, and the
end does not come before the type. -/
structure Agrees (system : TypedConnection) (side : Side) (key' key : StreamKey) : Prop where
  types : ∀ typ sent typ', system.calls side.other key' = .opened typ sent →
    system.calls side key = .accepted typ' → typ' = typ
  payload : ∀ typ sent typ', system.calls side.other key' = .opened typ sent →
    system.calls side key = .accepted typ' →
      ((system.conn side).hub.ends key).returned.drop 4 <+:
        ((system.conn side.other).hub.ends key').accepted.drop sent
  whole : ∀ typ sent typ', system.calls side.other key' = .opened typ sent →
    system.calls side key = .accepted typ' → system.conn.Undisturbed →
      ((system.conn side).hub.ends key).stream.EndReached →
        ((system.conn side).hub.ends key).returned.drop 4 =
          ((system.conn side.other).hub.ends key').accepted.drop sent
  accepts : ∀ typ sent, system.calls side.other key' = .opened typ sent →
    system.conn.Undisturbed → system.calls side key ≠ .acceptFailed ∧
      ∀ buf, system.calls side key = .accepting buf →
        ¬ ((system.conn side).hub.ends key).stream.EndReached

end TypedConnection

/-- With windows of this size typed streams agree in every run. -/
def TypedAgreement (window : Nat) : Prop :=
  ∀ (builder : Side → SessionBuilder), (∀ side, (builder side).window = window) →
    ∀ system, Reaches TypedConnection.step TypedConnection.opensUnused
      (TypedConnection.new builder) system →
      ∀ side key' key, Session.Accepted (system.conn side.other) (system.conn side) key' key →
        system.Agrees side key' key

/-- What has passed through a stream whose call is at this stage, where the windows have
this size. -/
def TypedCall.Law (window : Nat) (target : StreamEnd) : TypedCall → Prop
  | free => target.accepted = [] ∧ target.returned = []
  | opening _ => target.accepted = []
  | accepting buf => target.returned = buf ∧ buf.length < 4
  | opened typ sent => sent = min window 4 ∧ typ.bytes.take sent <+: target.accepted
  | accepted typ => ∃ head, head.length = 4 ∧ head <+: target.returned ∧
      typ = StreamType.ofBytes head
  | acceptFailed => target.stream.EndReached ∧ target.returned.length < 4
  | _ => True

namespace TypedCall

variable {window : Nat} {before after : StreamEnd} {call : TypedCall}

theorem Law.rests (law : call.Law window before) (rests : StreamEnd.Rests before after) :
    call.Law window after := by
  cases call with
  | free => exact ⟨rests.accepted.trans law.1, rests.returned.trans law.2⟩
  | opening typ => exact rests.accepted.trans law
  | accepting buf => exact ⟨rests.returned.trans law.1, law.2⟩
  | opened typ sent => exact ⟨law.1, rests.accepted ▸ law.2⟩
  | accepted typ =>
      obtain ⟨head, length, front, same⟩ := law
      exact ⟨head, length, rests.returned ▸ front, same⟩
  | openFailed => trivial
  | acceptFailed => exact ⟨rests.ended law.1, rests.returned ▸ law.2⟩
  | cancelled => trivial

/-- Whatever is done with a `TypedStream`, its front stays as it is. -/
theorem Law.changes {actor : StreamEnd.Actor} (law : call.Law window before)
    (changes : StreamEnd.Changes actor before after)
    (handed : (∃ typ sent, call = .opened typ sent) ∨ ∃ typ, call = .accepted typ) :
    call.Law window after := by
  obtain ⟨typ, sent, rfl⟩ | ⟨typ, rfl⟩ := handed
  · exact ⟨law.1, law.2.trans (StreamEnd.Changes.grows changes).2.1⟩
  · obtain ⟨head, length, front, same⟩ := law
    exact ⟨head, length, front.trans (StreamEnd.Changes.returned_grows changes), same⟩

end TypedCall

/-- A read waits or returns bytes; it does not fail. -/
theorem Stream.readLoop_ne_error {stream after : Stream} {cx : Waker} {rounds remaining : Nat}
    {error : IoError} :
    readLoop cx remaining rounds stream ≠ .ok (.ready (.error error), after) := by
  have buffered (stream : Stream) : stream.readBuffered remaining ≠ (.ready (.error error), after) := by
    intro read
    unfold readBuffered at read
    split at read
    · cases read
    · simp only at read
      split at read
      · split at read <;> cases read
      · cases read
  induction rounds generalizing stream with
  | zero =>
      unfold readLoop
      split
      · exact fun read => buffered stream (Except.ok.inj read)
      · rintro ⟨⟩
  | succ rounds ih =>
      unfold readLoop
      split
      · exact fun read => buffered stream (Except.ok.inj read)
      · cases received : ({ stream with readWaker := some cx }.pollRecvData cx) with
        | error panic => simp [bind, Except.bind]
        | ok outcome =>
            obtain ⟨polled, taken⟩ := outcome
            simp only [bind, Except.bind]
            cases polled with
            | pending => rintro ⟨⟩
            | ready => exact ih

namespace TypedConnection

variable {system : TypedConnection} {side other : Side} {key other' : StreamKey}
  {call : TypedCall} {op : StreamOp}

@[simp]
theorem set_conn : (system.set side key call).conn = system.conn := rfl

@[simp]
theorem useStream_calls : (system.useStream side key op).calls = system.calls := rfl

@[simp]
theorem dropStream_calls : (system.dropStream side key).calls = system.calls := rfl

@[simp]
theorem set_calls_self : (system.set side key call).calls side key = call := by
  simp [set]

theorem set_calls_of_ne (elsewhere : (other, other') ≠ (side, key)) :
    (system.set side key call).calls other other' = system.calls other other' := by
  by_cases own : other = side
  · subst own
    have ne : other' ≠ key := fun same => elsewhere (by rw [same])
    simp [set, Function.update_of_ne ne]
  · simp [set, Function.update_of_ne own]

/-- The stages of all calls are lawful, and a stream that was not created has none. -/
structure CallsLawful (window : Nat) (system : TypedConnection) : Prop where
  existing : ∀ side key, system.calls side key ≠ .free → key < (system.conn side).hub.nextKey
  law : ∀ side key, (system.calls side key).Law window ((system.conn side).hub.ends key)

section Parts

variable {window : Nat} (lawful : system.CallsLawful window)
  (sessions : ∀ side, (system.conn side).Lawful)

include lawful

/-- A call goes on to another stage. -/
theorem CallsLawful.set (existing : key < (system.conn side).hub.nextKey)
    (law : call.Law window ((system.conn side).hub.ends key)) :
    (system.set side key call).CallsLawful window := by
  constructor
  · intro other other' active
    by_cases own : (other, other') = (side, key)
    · cases own
      exact existing
    · rw [set_calls_of_ne own] at active
      exact lawful.existing other other' active
  · intro other other'
    by_cases own : (other, other') = (side, key)
    · cases own
      rw [set_calls_self]
      exact law
    · rw [set_calls_of_ne own]
      exact lawful.law other other'

include sessions

theorem CallsLawful.later {step : ConnectionOp} (unpolled : ∀ use,
    step = .act side (.stream key use) → (use.toHubOp key).polls = none) :
    (system.calls side key).Law window ((system.conn.step step side).hub.ends key) := by
  obtain rests | ⟨new, accepted, returned⟩ := Connection.rests_of_unpolled sessions unpolled
  · exact (lawful.law side key).rests rests
  · have free : system.calls side key = .free := by
      by_contra active
      exact absurd (lawful.existing side key active) (by rw [new]; exact Nat.lt_irrefl _)
    rw [free]
    exact ⟨accepted, returned⟩

theorem CallsLawful.session {step : ConnectionOp}
    (unused : ∀ side key use, step ≠ .act side (.stream key use)) :
    ({ system with conn := system.conn.step step } : TypedConnection).CallsLawful window where
  existing := fun side key active =>
    (lawful.existing side key active).trans_le (Connection.step_nextKey_le sessions step side)
  law := fun side key => lawful.later sessions fun use is => absurd is (unused side key use)

/-- A use of one stream, after which its call is at a lawful stage. -/
theorem CallsLawful.use (existing : key < (system.conn side).hub.nextKey)
    (law : call.Law window ((system.useStream side key op).conn side |>.hub.ends key)) :
    ((system.useStream side key op).set side key call).CallsLawful window := by
  have grown (other : Side) : (system.conn other).hub.nextKey ≤
      ((system.useStream side key op).conn other).hub.nextKey :=
    Connection.step_nextKey_le sessions _ other
  constructor
  · intro other other' active
    by_cases own : (other, other') = (side, key)
    · cases own
      exact existing.trans_le (grown side)
    · rw [set_calls_of_ne own] at active
      exact (lawful.existing other other' active).trans_le (grown other)
  · intro other other'
    by_cases own : (other, other') = (side, key)
    · cases own
      rw [set_calls_self]
      exact law
    · rw [set_calls_of_ne own]
      refine lawful.later sessions fun use is => ?_
      cases is
      exact absurd rfl own

theorem CallsLawful.drop : (system.dropStream side key).CallsLawful window where
  existing := fun other other' active => (lawful.existing other other' active).trans_le
    (Connection.step_nextKey_le sessions _ other)
  law := fun other other' => lawful.later sessions fun use is => by
    cases is
    rfl

end Parts

theorem set_calls_same : system.set side key (system.calls side key) = system := by
  simp [set]

section Uses

variable {cx : Waker} {buf : List UInt8} {remaining : Nat}

theorem hub_of_holds (holds : system.holds side key = true) :
    ((system.useStream side key op).conn side).hub =
      (system.conn side).hub.step (op.toHubOp key) := by
  simp only [TypedConnection.holds, Bool.and_eq_true] at holds
  have same : (system.useStream side key op).conn side =
      (system.conn side).step (.stream key op) := Function.update_self _ _ _
  rw [same]
  simp only [Session.step, holds.1, if_true]

theorem ends_of_pollWrite (holds : system.holds side key = true)
    {polled : Poll (Except IoError Nat)}
    {stream : Stream} (written : ((system.conn side).hub.ends key).stream.pollWrite cx buf =
      .ok (polled, stream)) :
    ((system.useStream side key (.pollWrite cx buf)).conn side).hub.ends key =
      { (system.conn side).hub.ends key with
        stream := stream
        accepted := ((system.conn side).hub.ends key).accepted ++ bytesWritten buf polled } := by
  rw [hub_of_holds holds]
  simp only [TypedConnection.holds, Bool.and_eq_true] at holds
  simp only [StreamOp.toHubOp, Hub.step, holds.2, if_true, Hub.pollWrite, written, bind,
    Except.bind]
  exact Function.update_self _ _ _

theorem ends_of_pollRead (holds : system.holds side key = true)
    {polled : Poll (Except IoError (List UInt8))} {stream : Stream}
    (read : ((system.conn side).hub.ends key).stream.pollRead cx remaining =
      .ok (polled, stream)) :
    ((system.useStream side key (.pollRead cx remaining)).conn side).hub.ends key =
      { (system.conn side).hub.ends key with
        stream := stream
        returned := ((system.conn side).hub.ends key).returned ++ bytesRead polled } := by
  rw [hub_of_holds holds]
  simp only [TypedConnection.holds, Bool.and_eq_true] at holds
  simp only [StreamOp.toHubOp, Hub.step, holds.2, if_true, Hub.pollRead, read, bind,
    Except.bind]
  exact Function.update_self _ _ _

end Uses

end TypedConnection

theorem Stream.count_of_pollWrite {stream after : Stream} {cx : Waker} {buf : List UInt8}
    {count : Nat} (room : 0 < stream.window.size)
    (written : stream.pollWrite cx buf = .ok (.ready (.ok count), after)) :
    count = min stream.window.size (min (buf.length % 2 ^ 32) lengthMax) := by
  unfold pollWrite at written
  split at written
  · cases written
  · have filled : stream.window.capacity ≠ 0 := Nat.ne_of_gt room
    rw [if_neg filled] at written
    obtain ⟨-, answered, -⟩ | ⟨-, unanswered, -⟩ := stream.writeFrame_spec buf
    · rw [Except.ok.inj written] at answered
      exact Except.ok.inj (Poll.ready.inj answered)
    · exact absurd (congrArg Prod.fst (Except.ok.inj written)) (unanswered count)

namespace TypedConnection

variable {builder : Side → SessionBuilder} {window : Nat} {system : TypedConnection}
  {side : Side} {key : StreamKey} {op : StreamOp}

/-- A connection of a run, with its calls. -/
structure Sound (builder : Side → SessionBuilder) (window : Nat) (system : TypedConnection) :
    Prop where
  runs : Connection.Runs builder system.conn
  calls : system.CallsLawful window

theorem Sound.sessions (sound : system.Sound builder window) (side : Side) :
    (system.conn side).Lawful :=
  (Connection.linked_of_reaches sound.runs side).lawful

theorem Sound.runs_use (sound : system.Sound builder window) :
    Connection.Runs builder (system.useStream side key op).conn :=
  sound.runs.tail ⟨.act side (.stream key op), trivial, rfl⟩

theorem Sound.drop (sound : system.Sound builder window) :
    (system.dropStream side key).Sound builder window :=
  ⟨sound.runs_use, sound.calls.drop sound.sessions⟩

theorem Sound.use (sound : system.Sound builder window) (call : TypedCall)
    (existing : key < (system.conn side).hub.nextKey)
    (law : call.Law window ((system.useStream side key op).conn side |>.hub.ends key)) :
    ((system.useStream side key op).set side key call).Sound builder window :=
  ⟨sound.runs_use, sound.calls.use sound.sessions existing law⟩

theorem Sound.useAgain (sound : system.Sound builder window) {call : TypedCall}
    (calls : system.calls side key = call) (existing : key < (system.conn side).hub.nextKey)
    (law : call.Law window ((system.useStream side key op).conn side |>.hub.ends key)) :
    (system.useStream side key op).Sound builder window := by
  have same : (system.useStream side key op).set side key call = system.useStream side key op := by
    rw [← calls]
    exact set_calls_same
  rw [← same]
  exact sound.use call existing law

theorem existing_of_holds (holds : system.holds side key = true) :
    key < (system.conn side).hub.nextKey := by
  simp only [TypedConnection.holds, Hub.held, Bool.and_eq_true, decide_eq_true_eq] at holds
  exact holds.2.1

theorem Sound.window_size (sound : system.Sound builder window)
    (equal : ∀ side, (builder side).window = window)
    (existing : key < (system.conn side).hub.nextKey)
    (nothing : ((system.conn side).hub.ends key).accepted = []) :
    ((system.conn side).hub.ends key).stream.window.size = window := by
  obtain ⟨_, _, reaches⟩ := (sound.sessions side).hub
  have untouched := Hub.ends_invariant StreamEnd.Untouched StreamEnd.Untouched.create
    StreamEnd.Untouched.change reaches key
  rw [untouched nothing]
  exact Connection.maxSize_of_reaches (sound.runs.at _) equal side existing rfl

theorem Sound.pollOpen (sound : system.Sound builder window)
    (equal : ∀ side, (builder side).window = window) (pos : 0 < window)
    (holds : system.holds side key = true) {typ : StreamType}
    (calls : system.calls side key = .opening typ) (cx : Waker) :
    (system.pollOpen side key typ cx).Sound builder window := by
  have existing := existing_of_holds holds
  have law := sound.calls.law side key
  rw [calls] at law
  change ((system.conn side).hub.ends key).accepted = [] at law
  unfold TypedConnection.pollOpen
  cases written : ((system.conn side).hub.ends key).stream.pollWrite cx typ.bytes with
  | error panic => exact (sound.use .cancelled existing trivial).drop
  | ok outcome =>
      obtain ⟨polled, stream⟩ := outcome
      have ends := ends_of_pollWrite holds written
      cases polled with
      | pending =>
          refine sound.useAgain calls existing ?_
          rw [ends]
          exact List.append_eq_nil_iff.2 ⟨law, rfl⟩
      | ready res =>
          cases res with
          | error error => exact (sound.use .openFailed existing trivial).drop
          | ok sent =>
              have size := sound.window_size equal existing law
              have count := Stream.count_of_pollWrite (by rw [size]; exact pos) written
              refine sound.use _ existing ⟨?_, ?_⟩
              · rw [count, size, StreamType.length_bytes]
                rfl
              · rw [ends]
                change _ <+: _ ++ typ.bytes.take sent
                rw [law]
                exact List.prefix_rfl

theorem Sound.pollAccept (sound : system.Sound builder window)
    (holds : system.holds side key = true) {buf : List UInt8}
    (calls : system.calls side key = .accepting buf) (cx : Waker) :
    (system.pollAccept side key buf cx).Sound builder window := by
  have existing := existing_of_holds holds
  have law := sound.calls.law side key
  rw [calls] at law
  obtain ⟨returned, short⟩ := law
  unfold TypedConnection.pollAccept
  cases read : ((system.conn side).hub.ends key).stream.pollRead cx (4 - buf.length) with
  | error panic => exact (sound.use .cancelled existing trivial).drop
  | ok outcome =>
      obtain ⟨polled, stream⟩ := outcome
      have ends := ends_of_pollRead holds read
      rw [returned] at ends
      cases polled with
      | pending =>
          refine sound.useAgain calls existing ?_
          rw [ends]
          exact ⟨List.append_nil buf, short⟩
      | ready res =>
          cases res with
          | error error => exact absurd read Stream.readLoop_ne_error
          | ok bytes =>
              have fits := Stream.length_readLoop read
              cases bytes with
              | nil =>
                  have reached := Stream.endReached_of_pollRead (by omega) (by omega) read
                  refine (sound.use .acceptFailed existing ?_).drop
                  rw [ends]
                  exact ⟨reached, by simpa [bytesRead] using short⟩
              | cons byte bytes =>
                  simp only
                  split
                  · rename_i full
                    refine sound.use _ existing ⟨_, full, ?_, rfl⟩
                    rw [ends]
                    exact List.prefix_rfl
                  · rename_i short'
                    refine sound.use _ existing ?_
                    rw [ends]
                    refine ⟨rfl, ?_⟩
                    rw [List.length_append] at short' ⊢
                    omega

theorem Sound.useHanded (sound : system.Sound builder window)
    (handed : (∃ typ sent, system.calls side key = .opened typ sent) ∨
      ∃ typ, system.calls side key = .accepted typ) :
    (system.useStream side key op).Sound builder window := by
  have active : system.calls side key ≠ .free := by
    obtain ⟨typ, sent, is⟩ | ⟨typ, is⟩ := handed
    · rw [is]
      nofun
    · rw [is]
      nofun
  have existing := sound.calls.existing side key active
  have law : (system.calls side key).Law window
      ((system.useStream side key op).conn side |>.hub.ends key) := by
    have acts : (system.useStream side key op).conn side =
        (system.conn side).step (.stream key op) := Function.update_self _ _ _
    rw [acts, Session.step]
    split
    · obtain ⟨actor, changes⟩ :=
        Hub.step_changes (sound.sessions side).addressed (op.toHubOp key) existing
      exact (sound.calls.law side key).changes changes handed
    · exact sound.calls.law side key
  exact sound.useAgain rfl existing law

theorem Sound.set (sound : system.Sound builder window) (call : TypedCall)
    (existing : key < (system.conn side).hub.nextKey)
    (law : call.Law window ((system.conn side).hub.ends key)) :
    (system.set side key call).Sound builder window :=
  ⟨sound.runs, sound.calls.set existing law⟩

theorem Sound.step (sound : system.Sound builder window)
    (equal : ∀ side, (builder side).window = window) (pos : 0 < window) {op : TypedOp}
    (unused : system.opensUnused op) : (system.step op).Sound builder window := by
  have cancel {side : Side} {key : StreamKey} (active : system.calls side key ≠ .free) :
      ((system.set side key .cancelled).dropStream side key).Sound builder window :=
    (sound.set .cancelled (sound.calls.existing side key active) trivial).drop
  cases op with
  | session op =>
      by_cases uses : ∃ side key use, op = .act side (.stream key use)
      · obtain ⟨side, key, use, rfl⟩ := uses
        exact sound
      · have unused' : ∀ side key use, op ≠ .act side (.stream key use) :=
          fun side key use is => uses ⟨side, key, use, is⟩
        have steps : system.step (.session op) = { system with conn := system.conn.step op } := by
          unfold TypedConnection.step
          split
          · rename_i side key use is
            cases is
            exact absurd rfl (unused' _ _ _)
          · rename_i is
            cases is
            rfl
          all_goals rename_i is; cases is
        rw [steps]
        exact ⟨sound.runs.tail ⟨op, unused, rfl⟩, sound.calls.session sound.sessions unused'⟩
  | openTyped side key typ =>
      simp only [TypedConnection.step]
      split
      · rename_i ready
        have law := sound.calls.law side key
        rw [ready.2.2] at law
        exact sound.set _ (existing_of_holds ready.1) law.1
      · exact sound
  | acceptTyped side key =>
      simp only [TypedConnection.step]
      split
      · rename_i ready
        have law := sound.calls.law side key
        rw [ready.2.2] at law
        exact sound.set _ (existing_of_holds ready.1) ⟨law.2, by decide⟩
      · exact sound
  | poll side key cx =>
      simp only [TypedConnection.step]
      split
      · rename_i holds
        cases calls : system.calls side key with
        | opening typ => exact sound.pollOpen equal pos holds calls cx
        | accepting buf => exact sound.pollAccept holds calls cx
        | _ => exact sound
      · exact sound
  | cancel side key =>
      simp only [TypedConnection.step]
      cases calls : system.calls side key with
      | opening typ => exact cancel (by rw [calls]; nofun)
      | accepting buf => exact cancel (by rw [calls]; nofun)
      | _ => exact sound
  | use side key op =>
      simp only [TypedConnection.step]
      cases calls : system.calls side key with
      | opened typ sent => exact sound.useHanded (.inl ⟨typ, sent, calls⟩)
      | accepted typ => exact sound.useHanded (.inr ⟨typ, calls⟩)
      | _ => exact sound

theorem sound_new (builder : Side → SessionBuilder) (window : Nat) :
    (TypedConnection.new builder).Sound builder window := by
  refine ⟨.refl, fun side key active => absurd rfl active, fun side key => ?_⟩
  exact ⟨rfl, rfl⟩

theorem sound_of_reaches (equal : ∀ side, (builder side).window = window) (pos : 0 < window)
    (runs : Reaches TypedConnection.step opensUnused (TypedConnection.new builder) system) :
    system.Sound builder window :=
  runs.invariant (Sound builder window) (fun _ _ unused sound => sound.step equal pos unused)
    (sound_new builder window)

section Agreement

variable {key' : StreamKey}

/-- If the write of `open_typed` has taken all four bytes, the calls agree. -/
theorem Sound.agrees (sound : system.Sound builder window) (enough : 4 ≤ window)
    (accepted : Session.Accepted (system.conn side.other) (system.conn side) key' key) :
    system.Agrees side key' key := by
  have twins : system.conn.Twins side key' key := .inl accepted
  have returned := Connection.returned_of_twins (sound.runs.at _) accepted.1 rfl twins
  have opened {typ : StreamType} {sent : Nat}
      (calls : system.calls side.other key' = .opened typ sent) :
      sent = 4 ∧ typ.bytes <+: ((system.conn side.other).hub.ends key').accepted := by
    have law := sound.calls.law side.other key'
    rw [calls] at law
    obtain ⟨count, front⟩ := law
    have four : sent = 4 := count.trans (Nat.min_eq_right enough)
    rw [four, show typ.bytes.take 4 = typ.bytes from rfl] at front
    exact ⟨four, front⟩
  have whole (calm : system.conn.Undisturbed)
      (reached : ((system.conn side).hub.ends key).stream.EndReached) :
      ((system.conn side).hub.ends key).returned =
        ((system.conn side.other).hub.ends key').accepted :=
    Connection.returned_eq_of_twins (sound.runs.at _) calm accepted.1 rfl twins reached
  -- fewer than four bytes are not all that was written
  have complete {typ : StreamType} {sent : Nat} (calm : system.conn.Undisturbed)
      (calls : system.calls side.other key' = .opened typ sent)
      (short : ((system.conn side).hub.ends key).returned.length < 4) :
      ¬ ((system.conn side).hub.ends key).stream.EndReached := by
    intro reached
    have long := (opened calls).2.length_le
    rw [← whole calm reached, StreamType.length_bytes] at long
    omega
  constructor
  · intro typ sent typ' calls calls'
    have law := sound.calls.law side key
    rw [calls'] at law
    obtain ⟨head, length, front, rfl⟩ := law
    obtain ⟨-, front'⟩ := opened calls
    have same : head = typ.bytes :=
      (List.prefix_of_prefix_length_le (front.trans returned) front'
        (by rw [length, StreamType.length_bytes])).eq_of_length
          (by rw [length, StreamType.length_bytes])
    rw [same, StreamType.ofBytes_bytes]
  · intro typ sent typ' calls calls'
    rw [(opened calls).1]
    exact returned.drop 4
  · intro typ sent typ' calls calls' calm reached
    rw [(opened calls).1, whole calm reached]
  · intro typ sent calls calm
    have law := sound.calls.law side key
    constructor
    · intro failed
      rw [failed] at law
      exact complete calm calls law.2 law.1
    · intro buf waits
      rw [waits] at law
      exact complete calm calls (by rw [law.1]; exact law.2)

end Agreement

end TypedConnection

theorem typedAgreement_of_four_le {window : Nat} (enough : 4 ≤ window) :
    TypedAgreement window := by
  intro builder equal system runs side key' key accepted
  exact (TypedConnection.sound_of_reaches equal (by omega) runs).agrees enough accepted

def shortType : StreamType := ⟨0x01020304, by decide⟩

/-- The client opens a stream and ends its side without a payload; the server accepts the
stream and reads to the end. -/
def shortWindow : List TypedOp :=
  [.session (.act .client .open), .session (.act .client .serveOpen),
    .openTyped .client 0 shortType, .poll .client 0 0, .use .client 0 .pollShutdown,
    .session (.act .client (.pollNext (some 0) 0 none)),
    .session (.act .client (.pollNext (some 0) 0 none)),
    .session (.transport .server 32),
    .session (.act .server .readFrame), .session (.act .server .readerStep),
    .session (.act .server .readerStep), .session (.act .server .readerStep),
    .session (.act .server .readerStep), .session (.act .server .readerStep),
    .session (.act .server .readFrame), .session (.act .server .readerStep),
    .session (.act .server .readerStep), .session (.act .server .readerStep),
    .session (.act .server (.accept 0)),
    .acceptTyped .server 0, .poll .server 0 0, .poll .server 0 0]

def shortRun (window : Nat) : TypedConnection :=
  run TypedConnection.step (TypedConnection.new fun _ => ⟨window, 4, 4⟩) shortWindow

theorem reaches_shortRun (window : Nat) :
    Reaches TypedConnection.step TypedConnection.opensUnused
      (TypedConnection.new fun _ => ⟨window, 4, 4⟩) (shortRun window) := by
  apply reaches_run
  refine ⟨trivial, fun _ => Or.inr ⟨?_, ?_⟩, trivial, trivial, trivial, trivial, trivial, trivial,
    trivial, trivial, trivial, trivial, trivial, trivial, trivial, trivial, trivial, trivial,
    trivial, trivial, trivial, trivial, trivial⟩
  · rintro (⟨handle, found⟩ | ⟨key, frame, flies, -⟩)
    · cases found
    · cases flies
  · rintro (⟨handle, found⟩ | ⟨key, frame, flies, -⟩)
    · cases found
    · cases flies

def Session.Quiet (session : Session) : Prop :=
  session.reader = .idle ∧ session.writer = .running ∧ session.hub.manager.sysRx = [] ∧
    session.hub.emitted.all (fun sent => sent.1.isSome) = true

instance (session : Session) : Decidable session.Quiet :=
  inferInstanceAs (Decidable (_ ∧ _ ∧ _ ∧ _))

theorem Session.Quiet.undisturbed {session : Session} (quiet : session.Quiet) :
    session.Undisturbed := by
  obtain ⟨reader, writer, sysRx, emitted⟩ := quiet
  refine ⟨by rw [reader]; rfl, writer, by rw [reader]; nofun, sysRx, fun frame member => ?_⟩
  exact absurd (List.all_eq_true.1 emitted _ member) Bool.false_ne_true

/-- The client has sent a part of the type and `open_typed` has returned; the server misses
the rest. -/
theorem shortRun_spec {window : Nat} (pos : 0 < window) (small : window < 4) :
    ((shortRun window).calls .client 0 = .opened shortType window ∧
      (shortRun window).calls .server 0 = .acceptFailed) ∧
    (((shortRun window).conn .client).Quiet ∧ ((shortRun window).conn .server).Quiet) ∧
    0 < ((shortRun window).conn .server).hub.nextKey ∧
    (((shortRun window).conn .server).hub.ends 0).opener = false ∧
    (((shortRun window).conn .client).hub.emitted[((shortRun window).conn .server).born 0]?.map
      Prod.fst) = some (some 0) := by
  obtain rfl | rfl | rfl : window = 1 ∨ window = 2 ∨ window = 3 := by omega
  · decide +kernel
  · decide +kernel
  · decide +kernel

theorem not_typedAgreement_of_lt {window : Nat} (pos : 0 < window) (small : window < 4) :
    ¬ TypedAgreement window := by
  intro agreement
  have spec := shortRun_spec pos small
  have reaches := reaches_shortRun window
  generalize shortRun window = system at spec reaches
  obtain ⟨⟨opened, failed⟩, ⟨client, server⟩, existing, opener, first⟩ := spec
  obtain ⟨⟨origin, frame⟩, found, rfl⟩ := Option.map_eq_some_iff.1 first
  have accepted : Session.Accepted (system.conn .client) (system.conn .server) 0 0 :=
    ⟨existing, opener, frame, found⟩
  have agrees := agreement _ (fun _ => rfl) system reaches .server 0 0 accepted
  have calm : system.conn.Undisturbed := by
    intro side
    cases side with
    | client => exact client.undisturbed
    | server => exact server.undisturbed
  exact (agrees.accepts shortType window opened calm).1 failed

/-- Typed streams agree in every run exactly if a window holds a type. -/
theorem typedAgreement_iff {window : Nat} (pos : 0 < window) :
    TypedAgreement window ↔ 4 ≤ window := by
  constructor
  · intro agreement
    by_contra small
    exact not_typedAgreement_of_lt pos (by omega) agreement
  · exact typedAgreement_of_four_le

theorem typedAgreement_iff_four : TypedAgreement 4 :=
  (typedAgreement_iff (by decide)).2 (by decide)

theorem not_typedAgreement_three : ¬ ∀ window, 1 ≤ window → TypedAgreement window := by
  intro always
  exact not_typedAgreement_of_lt (by decide) (by decide) (always 3 (by decide))

end Muxado

end NgrokRust
