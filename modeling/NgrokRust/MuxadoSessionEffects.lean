import NgrokRust.MuxadoSessionSteps
import NgrokRust.MuxadoStreamTable

/-!
# What a step of a session leaves alone

Only `create_stream` adds a stream, only `poll_next` yields a frame, only
`send_to_stream` delivers one, and a frame of the system channel was put there by the
session.  The facts are stated for one operation of the hub first and then for one
step of a session, which is at most one such operation.
-/

namespace NgrokRust

namespace Muxado

open LabelledRuns

namespace Hub

/-- No stream is created between two states: existing ends change by elementary
changes, and handles are kept or removed. -/
structure Evolves (hub hub' : Hub) : Prop where
  nextKey : hub'.nextKey = hub.nextKey
  ends : ∀ key, key < hub.nextKey →
    ∃ actor, StreamEnd.Changes actor (hub.ends key) (hub'.ends key)
  handle : ∀ id handle', hub'.getStream id = some handle' →
    ∃ handle, hub.getStream id = some handle ∧ HandleKept handle handle'
  tasks : hub.TasksMatch → hub'.TasksMatch

theorem Evolves.refl (hub : Hub) : hub.Evolves hub :=
  ⟨rfl, fun _ _ => ⟨.manager, .refl⟩, fun _ handle found => ⟨handle, found, .refl handle⟩, id⟩

theorem evolves_step {hub : Hub} (addressed : hub.Addressed) {op : HubOp}
    (notCreate : ∀ id window needsSyn, op ≠ .createStream id window needsSyn) :
    hub.Evolves (hub.step op) where
  nextKey := step_nextKey notCreate
  ends := fun _ existing => step_changes addressed op existing
  handle := by
    intro id handle' found'
    rcases step_handle found' with kept | ⟨remote, window, needsSyn, is, -⟩
    · exact kept
    · exact absurd is (notCreate remote window needsSyn)
  tasks := by
    intro matched
    refine matched.step ?_
    cases op with
    | createStream id window needsSyn => exact absurd rfl (notCreate id window needsSyn)
    | _ => trivial

theorem step_pollNext_sysRx {hub : Hub} {pick : Option Nat} {cx : Waker}
    (quiet : (hub.step (.pollNext pick cx)).emitted = hub.emitted) :
    (hub.step (.pollNext pick cx)).manager.sysRx = hub.manager.sysRx := by
  have spec := hub.step_spec (.pollNext pick cx)
  generalize hub.step (.pollNext pick cx) = hub' at spec quiet
  cases spec with
  | system _ _ _ frame rest _ =>
      rw [(SystemFrames.nextSystemFrame_eq _ frame).1] at quiet
      have length := congrArg List.length quiet
      simp [setSysRx, storeWaker] at length
  | next _ _ _ _ index id key task item sink answer handle found polled hub' spec =>
      exact (next_rest spec).1
  | user _ key held target changes => rfl
  | _ => rfl

/-- A yielded frame is the next system frame, or it belongs to the stream of a pending
task. -/
inductive Yields (hub hub' : Hub) (frame : Frame) : Prop where
  | system (head : Frame) (rest : List Frame) (queued : hub.manager.sysRx = head :: rest)
      (before : Hub) (own : frame = (before.nextSystemFrame head).1)
      (emitted : hub'.emitted = hub.emitted ++ [(none, frame)])
      (sysRx : hub'.manager.sysRx = rest)
  | stream (key : StreamKey) (id : StreamID) (handle : StreamHandle) (index : Nat)
      (alive : hub.manager.goneAway = false)
      (task : hub.manager.tasks[index]? = some (id, key))
      (registered : hub.getStream id = some handle)
      (emitted : hub'.emitted = hub.emitted ++ [(some key, frame)])
      (sysRx : hub'.manager.sysRx = hub.manager.sysRx)
      (noSystem : hub.manager.sysRx = [])

theorem yields_of_pollNext {hub hub' : Hub} {pick : Option Nat} {cx : Waker} {frame : Frame}
    (next : hub.pollNext pick cx = .ok (.ready (some frame), hub')) : hub.Yields hub' frame := by
  have spec := hub.pollNext_spec pick cx
  rw [next] at spec
  generalize outcomeEq : Except.ok (ε := Panic) (Poll.ready (some frame), hub') = outcome at spec
  cases spec with
  | unknown _ _ _ _ _ _ => cases outcomeEq
  | goneAway _ => cases outcomeEq
  | waiting _ _ => cases outcomeEq
  | system _ head rest queued =>
      obtain ⟨same, rfl⟩ := Prod.mk.inj (Except.ok.inj outcomeEq)
      obtain rfl := Option.some.inj (Poll.ready.inj same)
      obtain ⟨emitted, sysRx⟩ := SystemFrames.nextSystemFrame_eq
        ((hub.storeWaker cx).setSysRx rest) head
      exact .system head rest queued _ rfl emitted sysRx
  | next alive noSystem index id key task item sink answer handle found polled hub'' spec =>
      obtain ⟨rfl, rfl⟩ := Prod.mk.inj (Except.ok.inj outcomeEq)
      obtain ⟨sysRx, -, -, -, emitted⟩ := next_rest spec
      exact .stream key id handle index alive task found emitted sysRx noSystem

theorem Moves.emitted {hub hub' : Hub} (moves : Moves HubOp.neutral hub hub') :
    hub'.emitted = hub.emitted := by
  rcases moves with rfl | ⟨op, neutral, rfl⟩
  · rfl
  · exact (step_emitted fun _ _ is => by rw [is] at neutral; cases neutral).1

theorem Moves.sysRx {hub hub' : Hub} (moves : Moves HubOp.neutral hub hub') :
    hub'.manager.sysRx = hub.manager.sysRx := by
  rcases moves with rfl | ⟨op, neutral, rfl⟩
  · rfl
  · have notPoll (pick : Option Nat) (cx : Waker) : op ≠ .pollNext pick cx := by
      rintro rfl
      cases neutral
    rcases (step_emitted notPoll).2 with same | ⟨system, is, -⟩
    · exact same
    · rw [is] at neutral
      cases neutral

end Hub

namespace Reader

def follows : Reader → Bool
  | routing frame => frame.header.typ != .goAway
  | reader => reader.reads

theorem reads_of_follows {reader : Reader} (follows : reader.follows = true) :
    reader.reads = true := by
  cases reader <;> first | rfl | exact follows

theorem follows_of_reads {reader : Reader} (reads : reader.reads = true)
    (typ : ∀ frame, reader = .routing frame → frame.header.typ ≠ .goAway) :
    reader.follows = true := by
  cases reader with
  | routing frame => simpa [follows] using typ frame rfl
  | _ => exact reads

/-- The read task has a frame in its hand, and has created the stream if that is a
SYN. -/
def past : Reader → Bool
  | accepting _ _ | flushing _ | routing _ | sending _ => true
  | _ => false

theorem past_of_hand {reader : Reader} {frame : Frame} (hand : reader.hand = some frame)
    (created : ∀ frame, reader ≠ .opening frame) : reader.past = true := by
  cases reader with
  | opening frame => exact absurd rfl (created frame)
  | accepting _ _ => rfl
  | flushing _ => rfl
  | routing _ => rfl
  | sending _ => rfl
  | _ => cases hand

theorem hand_of_past {reader : Reader} (past : reader.past = true) :
    ∃ frame, reader.hand = some frame := by
  cases reader with
  | accepting frame _ => exact ⟨frame, rfl⟩
  | flushing frame => exact ⟨frame, rfl⟩
  | routing frame => exact ⟨frame, rfl⟩
  | sending frame => exact ⟨frame, rfl⟩
  | _ => cases past

theorem past_of_not_reads {reader : Reader} (left : reader.reads = false) :
    reader.past = false := by
  cases reader <;> first | rfl | cases left

end Reader

namespace Session

/-- A step creates no stream, or accepts one of the remote, or opens one. -/
inductive Opens (session session' : Session) : Prop where
  | evolves (hub : session.hub.Evolves session'.hub) (born : session'.born = session.born)
  | accepts (frame : Frame) (reader : session.reader = .opening frame)
      (newId : StreamID) (key : StreamKey)
      (created : session.hub.createStream (some frame.header.streamId) session.window false =
        .ok (newId, key, session'.hub))
      (born : session'.born = Function.update session.born key session.handled.length)
      (reader' : session'.reader = .accepting frame key)
      (handled : session'.handled = session.handled)
  | serves (running : session.writer = .running) (requested : 0 < session.openReqs)
      (newId : StreamID) (key : StreamKey)
      (created : session.hub.createStream none session.window true =
        .ok (newId, key, session'.hub))
      (born : session'.born = session.born)
      (reader : session'.reader = session.reader)
      (handled : session'.handled = session.handled)

theorem StepSpec.opens {session session' : Session} {op : SessionOp}
    (spec : StepSpec session op session') (addressed : session.hub.Addressed) :
    session.Opens session' := by
  have same (hub : session'.hub = session.hub) (born : session'.born = session.born) :
      session.Opens session' :=
    .evolves (hub ▸ Hub.Evolves.refl session.hub) born
  have of_step (hubOp : HubOp) (hub : session'.hub = session.hub.step hubOp)
      (notCreate : ∀ id window needsSyn, hubOp ≠ .createStream id window needsSyn)
      (born : session'.born = session.born) : session.Opens session' :=
    .evolves (hub ▸ Hub.evolves_step addressed notCreate) born
  have of_moves (moves : Hub.Moves HubOp.neutral session.hub session'.hub)
      (born : session'.born = session.born) : session.Opens session' := by
    rcases moves with stays | ⟨hubOp, neutral, step⟩
    · exact same stays born
    · refine of_step hubOp step (fun id window needsSyn is => ?_) born
      rw [is] at neutral
      cases neutral
  cases spec with
  | recv _ => exact same rfl rfl
  | waits _ _ _ _ => exact same rfl rfl
  | takes _ _ _ _ _ => exact same rfl rfl
  | accepts frame reader newId key hub created =>
      exact .accepts frame reader newId key created rfl rfl rfl
  | advances _ _ _ _ _ _ _ _ _ hub rest => exact same hub rest.born
  | routes frame _ _ free routable =>
      refine of_step (.sendToStream frame) ?_ (by simp) rfl
      simp only [Hub.step, free, Hub.startSendToStream, dif_pos routable]
  | pends frame _ sending current _ hub polled =>
      refine of_step .pollSendToStream ?_ (by simp) rfl
      simp only [Hub.step, current, polled]
  | delivers frame _ sending current _ hub polled =>
      refine of_step .pollSendToStream ?_ (by simp) rfl
      simp only [Hub.step, current, polled]
  | refuses frame _ sending current _ error hub polled =>
      refine of_step .pollSendToStream ?_ (by simp) rfl
      simp only [Hub.step, current, polled, answer]
  | answers _ _ _ _ _ _ => exact same rfl rfl
  | closes streamId _ => exact of_step (.closeDataWrite streamId) rfl (by simp) rfl
  | replies frame _ => exact of_step (.sysSend frame) rfl (by simp) rfl
  | closeSends error message => exact of_step (.sysSend (.goaway _ error message)) rfl (by simp) rfl
  | leaves _ _ _ _ _ _ hub rest =>
      rcases hub with moves | ⟨error, -, gone⟩
      · exact of_moves moves.neutral rest.born
      · exact of_step (.goAway error) gone (by simp) rest.born
  | ends _ _ _ _ hub rest => exact of_moves hub rest.born
  | polls pick cx _ _ _ hub _ _ rest => exact of_step (.pollNext pick cx) hub (by simp) rest.born
  | emits pick cx _ _ frame hub polled _ _ _ _ =>
      refine of_step (.pollNext pick cx) ?_ (by simp) rfl
      simp only [Hub.step, polled]
  | serves running requested newId key hub created =>
      exact .serves running requested newId key created rfl rfl rfl
  | outside _ _ _ hub rest =>
      rcases hub with moves | ⟨-, dropped⟩
      · exact of_moves moves.neutral rest.born
      · exact of_step .dropManager dropped (by simp) rest.born

/-- A step that creates no stream keeps the handled frames, or settles the frame in the
hand of the read task. -/
inductive Handles (session session' : Session) : Prop where
  | keeps (handled : session'.handled = session.handled)
      (opening : ∀ frame, session'.reader = .opening frame →
        session.reader = .opening frame ∨ frame.isSyn = true)
      (later : session'.reader.reads = true → session'.reader.past = false →
        session.reader.reads = true ∧ session.reader.past = false)
      (passed : session'.reader.past = true → session'.reader.follows = true →
        session.reader.past = true ∧ session.reader.follows = true ∨
          ∃ frame, session'.reader.hand = some frame ∧ frame.isSyn = false)
  | settles (frame : Frame) (hand : session.reader.hand = some frame)
      (past : session.reader.past = true) (follows : session.reader.follows = true)
      (handled : session'.handled = session.handled ++ [frame])
      (past' : session'.reader.past = false)
      (opened : ∀ frame, session'.reader ≠ .opening frame)

theorem StepSpec.handles {session session' : Session} {op : SessionOp}
    (spec : StepSpec session op session') (evolves : session.hub.Evolves session'.hub) :
    session.Handles session' := by
  have same (handled : session'.handled = session.handled)
      (reader : session'.reader = session.reader) : session.Handles session' := by
    refine .keeps handled (fun frame is => Or.inl (reader ▸ is)) ?_ ?_
    · rw [reader]
      exact And.intro
    · rw [reader]
      exact fun past follows => Or.inl ⟨past, follows⟩
  have halts (handled : session'.handled = session.handled)
      (left : session'.reader.reads = false) : session.Handles session' := by
    refine .keeps handled (fun frame is => ?_) (fun reads => ?_) (fun past => ?_)
    · rw [is] at left
      cases left
    · rw [left] at reads
      cases reads
    · rw [Reader.past_of_not_reads left] at past
      cases past
  -- the frame stays in the hand of a read task that has created its stream
  have stays (handled : session'.handled = session.handled)
      (past : session.reader.past = true) (follows : session.reader.follows = true)
      (past' : session'.reader.past = true) : session.Handles session' := by
    refine .keeps handled (fun frame is => ?_) (fun _ notPast => ?_) (fun _ _ => Or.inl ⟨past, follows⟩)
    · rw [is] at past'
      cases past'
    · rw [past'] at notPast
      cases notPast
  cases spec with
  | recv _ => exact same rfl rfl
  | waits _ _ _ _ => exact same rfl rfl
  | takes idle frame codec rx decoded =>
      cases isSyn : frame.isSyn with
      | true =>
          refine .keeps rfl (fun other is => Or.inr ?_) (fun _ _ => ?_) (fun past => ?_)
          · simp only [if_true] at is
            obtain rfl := Reader.opening.inj is
            exact isSyn
          · rw [idle]
            exact ⟨rfl, rfl⟩
          · simp only [if_true] at past
            cases past
      | false =>
          refine .keeps rfl (fun other is => ?_) (fun _ _ => ?_) (fun _ _ => Or.inr ⟨frame, ?_, isSyn⟩)
          · simp at is
          · rw [idle]
            exact ⟨rfl, rfl⟩
          · simp [Reader.hand]
  | accepts frame reader newId key hub created =>
      have nextKey := evolves.nextKey
      simp only [(Hub.createStream_eq_ok created).2.2.1] at nextKey
      exact absurd nextKey (Nat.succ_ne_self _)
  | advances _ frame hand hand' unrouted created created' _ _ _ rest =>
      refine stays rest.handled (Reader.past_of_hand hand created) ?_ (Reader.past_of_hand hand' created')
      exact Reader.follows_of_reads (Reader.reads_of_hand hand) fun other is => absurd is (unrouted other)
  | routes frame reader typ _ _ =>
      refine stays rfl (by rw [reader]; rfl) ?_ rfl
      rw [reader]
      simpa [Reader.follows] using typ
  | pends frame reader sending current own hub polled => exact same rfl rfl
  | delivers frame reader sending current own hub polled =>
      refine .settles frame (by rw [reader]; rfl) (by rw [reader]; rfl) (by rw [reader]; rfl) rfl ?_ ?_
      · simp only
        split <;> rfl
      · intro other
        simp only
        split <;> simp
  | refuses frame reader sending current own error hub polled =>
      exact .settles frame (by rw [reader]; rfl) (by rw [reader]; rfl) (by rw [reader]; rfl) rfl rfl
        (by simp [answer])
  | answers frame reader reply typ _ _ =>
      refine .settles frame (by rw [reader]; rfl) (by rw [reader]; rfl) ?_ rfl rfl (by simp [answer])
      rw [reader]
      simpa [Reader.follows] using typ
  | closes streamId reader =>
      refine .keeps rfl (by simp) (fun _ _ => ?_) (fun past => by cases past)
      rw [reader]
      exact ⟨rfl, rfl⟩
  | replies frame reader =>
      refine .keeps rfl (by simp) (fun _ _ => ?_) (fun past => by cases past)
      rw [reader]
      exact ⟨rfl, rfl⟩
  | closeSends _ _ => exact same rfl rfl
  | leaves _ _ left _ _ _ _ rest => exact halts rest.handled left
  | ends _ _ ended _ _ rest => exact halts rest.handled (Reader.reads_of_ended ended)
  | polls _ _ _ _ _ _ _ reader rest => exact same rest.handled reader
  | emits _ _ _ _ _ _ _ _ _ _ _ => exact same rfl rfl
  | serves _ _ _ _ _ _ => exact same rfl rfl
  | outside _ _ reader _ rest => exact same rest.handled reader

/-- What the write task does to the link. -/
inductive Writes (session session' : Session) : Prop where
  | nothing (emitted : session'.hub.emitted = session.hub.emitted)
      (tx : session'.tx = session.tx)
      (writer : session'.writer = .running → session.writer = .running)
  | frame (frame : Frame) (running : session.writer = .running)
      (yields : session.hub.Yields session'.hub frame) (taken : Nat)
      (tx : session'.tx = session.tx ++ (encodeBytes frame).take taken)
      (whole : session'.writer = .running → (encodeBytes frame).length ≤ taken ∧
        validateHeader frame.header = .ok () ∧ frame.header.typ ≠ .goAway)
      (valid : 0 < taken → validateHeader frame.header = .ok ())

theorem StepSpec.writes {session session' : Session} {op : SessionOp}
    (spec : StepSpec session op session') : session.Writes session' := by
  have sends {sending : Sending} {polled : Poll (Except Error Unit)} {hub : Hub}
      (current : session.hub.sending = some sending)
      (polledEq : session.hub.pollSendToStream sending = (polled, hub)) :
      hub.emitted = session.hub.emitted := by
    have acts : session.hub.step .pollSendToStream = hub := by
      simp only [Hub.step, current, polledEq]
    exact acts ▸ (Hub.step_emitted (by simp)).1
  have creates {id : Option StreamID} {window : Nat} {needsSyn : Bool} {newId : StreamID}
      {key : StreamKey} {hub : Hub}
      (created : session.hub.createStream id window needsSyn = .ok (newId, key, hub)) :
      hub.emitted = session.hub.emitted :=
    (Hub.createStream_eq_ok created).2.2.2.2.2.2.2.2.2.2.1
  cases spec with
  | recv _ => exact .nothing rfl rfl id
  | waits _ _ _ _ => exact .nothing rfl rfl id
  | takes _ _ _ _ _ => exact .nothing rfl rfl id
  | accepts _ _ _ _ hub created => exact .nothing (creates created) rfl id
  | advances _ _ _ _ _ _ _ _ _ hub rest => exact .nothing (by rw [hub]) rest.tx rest.writer
  | routes _ _ _ _ _ => exact .nothing rfl rfl id
  | pends _ _ _ current _ hub polled => exact .nothing (sends current polled) rfl id
  | delivers _ _ _ current _ hub polled => exact .nothing (sends current polled) rfl id
  | refuses _ _ _ current _ _ hub polled => exact .nothing (sends current polled) rfl id
  | answers _ _ _ _ _ _ => exact .nothing rfl rfl id
  | closes _ _ => exact .nothing (Hub.step_emitted (by simp)).1 rfl id
  | replies _ _ => exact .nothing (Hub.step_emitted (by simp)).1 rfl id
  | closeSends _ _ => exact .nothing (Hub.step_emitted (by simp)).1 rfl id
  | leaves _ _ _ _ _ _ hub rest =>
      rcases hub with moves | ⟨error, -, gone⟩
      · exact .nothing moves.neutral.emitted rest.tx rest.writer
      · exact .nothing (by rw [gone]; exact (Hub.step_emitted (by simp)).1) rest.tx rest.writer
  | ends _ _ _ _ hub rest => exact .nothing hub.emitted rest.tx rest.writer
  | polls _ _ _ _ _ _ quiet _ rest => exact .nothing quiet rest.tx rest.writer
  | emits pick cx link running frame hub polled taken writer whole valid =>
      exact .frame frame running (Hub.yields_of_pollNext polled) taken rfl whole valid
  | serves _ _ _ _ hub created => exact .nothing (creates created) rfl id
  | outside _ _ _ hub rest =>
      rcases hub with moves | ⟨-, dropped⟩
      · exact .nothing moves.neutral.emitted rest.tx rest.writer
      · have acts : session'.hub = session.hub.step .dropManager := dropped
        exact .nothing (by rw [acts]; exact (Hub.step_emitted (by simp)).1) rest.tx rest.writer

/-- What a step does to the system channel. -/
inductive Queues (session session' : Session) : Prop where
  | same (sysRx : session'.hub.manager.sysRx = session.hub.manager.sysRx)
  | replies (system : SystemFrame) (reader : session.reader = .sysSending system)
      (sysRx : session'.hub.manager.sysRx = session.hub.manager.sysRx ++ [system.toFrame])
  | closes (lastStreamId : StreamID) (error : Error) (message : List UInt8)
      (sysRx : session'.hub.manager.sysRx =
        session.hub.manager.sysRx ++ [(SystemFrame.goaway lastStreamId error message).toFrame])
  | takes (head : Frame) (rest : List Frame) (queued : session.hub.manager.sysRx = head :: rest)
      (before : Hub)
      (emitted : session'.hub.emitted =
        session.hub.emitted ++ [(none, (before.nextSystemFrame head).1)])
      (sysRx : session'.hub.manager.sysRx = rest)

theorem StepSpec.queues {session session' : Session} {op : SessionOp}
    (spec : StepSpec session op session') : session.Queues session' := by
  have of_step (hubOp : HubOp) (hub : session'.hub = session.hub.step hubOp)
      (notPoll : ∀ pick cx, hubOp ≠ .pollNext pick cx)
      (notSend : ∀ system, hubOp ≠ .sysSend system) : session.Queues session' := by
    rcases (Hub.step_emitted notPoll).2 with same | ⟨system, is, -⟩
    · exact .same (hub ▸ same)
    · exact absurd is (notSend system)
  have sends {sending : Sending} {polled : Poll (Except Error Unit)} {hub : Hub}
      (current : session.hub.sending = some sending)
      (polledEq : session.hub.pollSendToStream sending = (polled, hub))
      (same : session'.hub = hub) : session.Queues session' := by
    refine of_step .pollSendToStream ?_ (by simp) (by simp)
    simp only [same, Hub.step, current, polledEq]
  have creates {id : Option StreamID} {window : Nat} {needsSyn : Bool} {newId : StreamID}
      {key : StreamKey} {hub : Hub}
      (created : session.hub.createStream id window needsSyn = .ok (newId, key, hub)) :
      hub.manager.sysRx = session.hub.manager.sysRx :=
    (Hub.createStream_eq_ok created).2.2.2.2.2.2.2.2.2.1
  cases spec with
  | recv _ => exact .same rfl
  | waits _ _ _ _ => exact .same rfl
  | takes _ _ _ _ _ => exact .same rfl
  | accepts _ _ _ _ hub created => exact .same (creates created)
  | advances _ _ _ _ _ _ _ _ _ hub rest => exact .same (by rw [hub])
  | routes _ _ _ _ _ => exact .same rfl
  | pends _ _ _ current _ hub polled => exact sends current polled rfl
  | delivers _ _ _ current _ hub polled => exact sends current polled rfl
  | refuses _ _ _ current _ _ hub polled => exact sends current polled rfl
  | answers _ _ _ _ _ _ => exact .same rfl
  | closes streamId _ => exact of_step (.closeDataWrite streamId) rfl (by simp) (by simp)
  | replies system reader => exact .replies system reader rfl
  | closeSends error message => exact .closes _ error message rfl
  | leaves _ _ _ _ _ _ hub rest =>
      rcases hub with moves | ⟨error, -, gone⟩
      · exact .same moves.neutral.sysRx
      · exact of_step (.goAway error) gone (by simp) (by simp)
  | ends _ _ _ _ hub rest => exact .same hub.sysRx
  | polls pick cx _ _ _ hub quiet _ rest =>
      rw [hub] at quiet
      exact .same (by rw [hub]; exact Hub.step_pollNext_sysRx quiet)
  | emits pick cx link running frame hub polled taken writer whole valid =>
      cases Hub.yields_of_pollNext polled with
      | system head rest queued before own emitted sysRx =>
          exact .takes head rest queued before (own ▸ emitted) sysRx
      | stream key id handle index alive task registered emitted sysRx noSystem => exact .same sysRx
  | serves _ _ _ _ hub created => exact .same (creates created)
  | outside _ _ _ hub rest =>
      rcases hub with moves | ⟨-, dropped⟩
      · exact .same moves.neutral.sysRx
      · exact of_step .dropManager dropped (by simp) (by simp)

/-- The read task is about to send only what it has decided to answer to the frame in
its hand. -/
theorem StepSpec.replying {session session' : Session} {op : SessionOp}
    (spec : StepSpec session op session') {system : SystemFrame}
    (replying : session'.reader = .sysSending system) :
    session.reader = .sysSending system ∨
      ∃ frame, session.reader.hand = some frame ∧
        (session.reader = .sending frame ∨ frame.header.typ ≠ .goAway) ∧
        ∀ id error, system = .rst id error → id = frame.header.streamId := by
  cases spec with
  | takes _ frame _ _ _ => simp only at replying; split at replying <;> cases replying
  | accepts _ _ _ _ _ _ => cases replying
  | advances _ _ _ hand' _ _ _ _ _ _ _ => rw [replying] at hand'; cases hand'
  | routes _ _ _ _ _ => cases replying
  | delivers _ _ _ _ _ _ _ => simp only at replying; split at replying <;> cases replying
  | refuses frame reader _ _ _ error _ _ =>
      obtain rfl := Reader.sysSending.inj replying
      refine Or.inr ⟨frame, by rw [reader]; rfl, Or.inl reader, ?_⟩
      rintro id error' ⟨⟩
      rfl
  | answers frame reader reply typ _ own =>
      obtain rfl := Reader.sysSending.inj replying
      exact Or.inr ⟨frame, by rw [reader]; rfl, Or.inr typ, own⟩
  | closes _ _ => cases replying
  | replies _ _ => cases replying
  | leaves _ _ left _ _ _ _ _ => rw [replying] at left; cases left
  | ends _ _ ended _ _ _ => rw [replying] at ended; cases ended
  | polls _ _ _ _ _ _ _ reader _ => exact Or.inl (reader ▸ replying)
  | outside _ _ reader _ _ => exact Or.inl (reader ▸ replying)
  | _ => exact Or.inl replying

end Session

end Muxado

end NgrokRust
