import NgrokRust.MuxadoLink
import NgrokRust.MuxadoRouting

/-!
# The resets that a session answers with

A frame that no stream can take is answered with a reset under the stream id of that
frame.  A reset for stream zero is one that the codec refuses to encode, and the write
task ends when it is asked to.  Which frames lead to that is settled here for all runs.
-/

namespace NgrokRust

namespace Muxado

open LabelledRuns

/-- The frame types that `handle_frame` passes on to `send_to_stream`. -/
def HeaderType.streamSpecific : HeaderType → Bool
  | .data | .rst | .wndInc => true
  | .goAway | .invalid _ => false

theorem exists_invalid_of_streamId_zero {header : Header}
    (specific : header.typ.streamSpecific = true) (zero : header.streamId.val = 0) :
    ∃ error, validateHeader header = .error error := by
  cases valid : validateHeader header with
  | error error => exact ⟨error, rfl⟩
  | ok _ =>
      have demands := (validateHeader_eq_ok_iff header).1 valid
      cases typ : header.typ with
      | data => exact absurd zero (by rw [typ] at demands; exact demands)
      | rst => exact absurd zero (by rw [typ] at demands; exact demands.1)
      | wndInc => exact absurd zero (by rw [typ] at demands; exact demands.1)
      | goAway => rw [typ] at specific; cases specific
      | invalid value => rw [typ] at specific; cases specific

theorem encode_rst {id : StreamID} (nonzero : id.val ≠ 0) (error : Error) :
    validateHeader (Frame.rst id error).header = .ok () ∧
      ∃ bytes, encode (Frame.rst id error) [] = .ok bytes := by
  have valid : validateHeader (Frame.rst id error).header = .ok () :=
    (validateHeader_eq_ok_iff _).2 ⟨nonzero, rfl⟩
  exact ⟨valid, _, by simp only [encode, valid]; rfl⟩

namespace Session

/-- A reset that the read task enqueues can be encoded, and the write task goes on after
every reset that the manager yields. -/
structure ResetsEncodable (session : Session) : Prop where
  enqueued : ∀ id error, session.reader = .sysSending (.rst id error) →
    validateHeader (Frame.rst id error).header = .ok () ∧
      ∃ bytes, encode (Frame.rst id error) [] = .ok bytes
  survives : ∀ pick cx frame hub error, session.writer = .running → session.terminated = false →
    session.hub.pollNext pick cx = .ok (.ready (some frame), hub) → frame.body = .rst error →
      (session.step (.pollNext pick cx none)).writer = .running

/-- No frame of a type that belongs to streams comes to the match of `handle_frame`
without a stream id. -/
def namesStreams (session : Session) : SessionOp → Prop
  | .readerStep => ∀ frame, session.reader = .routing frame →
      frame.header.typ.streamSpecific = true → frame.header.streamId.val ≠ 0
  | _ => True

/-- The resets that are on their way to the write task name streams. -/
structure RepliesSendable (session : Session) : Prop where
  replying : ∀ system, session.reader = .sysSending system → system.Sendable
  queued : ∀ frame ∈ session.hub.manager.sysRx,
    ∃ system : SystemFrame, system.Sendable ∧ frame = system.toFrame

/-- The match answers with a reset only a frame of a type that belongs to streams, and
under the id of that frame. -/
theorem route_rst {session : Session} {frame : Frame} {id : StreamID} {error : Error}
    (replies : (session.route frame).reader = .sysSending (.rst id error)) :
    frame.header.typ.streamSpecific = true ∧ id = frame.header.streamId := by
  unfold route at replies
  cases typ : frame.header.typ with
  | goAway =>
      simp only [typ] at replies
      split at replies <;> cases replies
  | invalid value =>
      simp only [typ, answer] at replies
      cases replies
  | _ =>
      simp only [typ] at replies
      split at replies
      · cases replies
      · cases replies
        exact ⟨rfl, rfl⟩

/-- A decoded frame of such a type without a stream id is answered with a reset that has
none either. -/
theorem route_of_streamId_zero (session : Session) {frame : Frame} (decoded : frame.Decoded)
    (specific : frame.header.typ.streamSpecific = true) (zero : frame.header.streamId.val = 0) :
    (session.route frame).reader = .sysSending (.rst frame.header.streamId .internal) := by
  obtain ⟨error, fails⟩ := exists_invalid_of_streamId_zero specific zero
  have unroutable := decoded.unroutable fails
  have refused : session.hub.startSendToStream frame = .error .internal := by
    rw [Hub.startSendToStream, dif_neg (by rw [unroutable]; exact Bool.false_ne_true)]
  unfold route
  cases typ : frame.header.typ with
  | goAway => rw [typ] at specific; cases specific
  | invalid value => rw [typ] at specific; cases specific
  | _ => simp only [refused, answer]

/-- A reset answers a frame that the match or `send_to_stream` has refused. -/
theorem StepSpec.replying_rst {session session' : Session} {op : SessionOp}
    (spec : StepSpec session op session') {id : StreamID} {error : Error}
    (replying : session'.reader = .sysSending (.rst id error)) :
    session.reader = .sysSending (.rst id error) ∨
      (∃ frame, session.reader = .sending frame ∧ id = frame.header.streamId) ∨
      op = .readerStep ∧ ∃ frame, session.reader = .routing frame := by
  cases spec with
  | takes _ frame _ _ _ => simp only at replying; split at replying <;> cases replying
  | advances _ _ _ hand' _ _ _ _ _ _ _ => rw [replying] at hand'; cases hand'
  | delivers _ _ _ _ _ _ _ => simp only at replying; split at replying <;> cases replying
  | refuses frame reader _ _ _ _ _ _ =>
      cases replying
      exact .inr (.inl ⟨frame, reader, rfl⟩)
  | answers frame reader _ _ _ _ => exact .inr (.inr ⟨rfl, frame, reader⟩)
  | leaves _ _ left _ _ _ _ _ => rw [replying] at left; cases left
  | ends _ _ ended _ _ _ => rw [replying] at ended; cases ended
  | polls _ _ _ _ _ _ _ reader _ => exact .inl (reader ▸ replying)
  | outside _ _ reader _ _ => exact .inl (reader ▸ replying)
  | accepts _ _ _ _ _ _ => cases replying
  | routes _ _ _ _ _ => cases replying
  | closes _ _ => cases replying
  | replies _ _ => cases replying
  | _ => exact .inl replying

/-- A frame in progress has a header that validates, and so it names a stream. -/
theorem streamId_ne_zero_of_sending {session : Session} (sound : session.SendingSound)
    (decoded : session.HoldsDecoded) {frame : Frame} (reader : session.reader = .sending frame) :
    frame.header.streamId.val ≠ 0 := by
  unfold SendingSound at sound
  rw [reader] at sound
  obtain ⟨sending, -, rfl⟩ := sound
  have fromDecoder := decoded.hand sending.frame (by rw [reader]; rfl)
  have specific : sending.frame.header.typ.streamSpecific = true := by
    have routable := sending.routable
    rw [fromDecoder.headerType routable]
    cases body : sending.frame.body with
    | goAway _ _ _ => rw [body] at routable; cases routable
    | invalid _ _ => rw [body] at routable; cases routable
    | _ => rfl
  intro zero
  obtain ⟨error, fails⟩ := exists_invalid_of_streamId_zero specific zero
  have unroutable := fromDecoder.unroutable fails
  rw [sending.routable] at unroutable
  cases unroutable

theorem RepliesSendable.step {session : Session} (sendable : session.RepliesSendable)
    (lawful : session.Lawful) (decoded : session.HoldsDecoded) {op : SessionOp}
    (names : session.namesStreams op) : (session.step op).RepliesSendable := by
  have spec := session.step_spec lawful.sending op
  refine ⟨?_, ?_⟩
  · intro system replying
    cases system with
    | goaway _ _ _ => trivial
    | rst id error =>
        obtain same | ⟨frame, reader, rfl⟩ | ⟨rfl, frame, reader⟩ := spec.replying_rst replying
        · exact sendable.replying _ same
        · exact streamId_ne_zero_of_sending lawful.sending decoded reader
        · simp only [Session.step, readerStep, reader] at replying
          obtain ⟨specific, rfl⟩ := route_rst replying
          exact names frame reader specific
  · exact spec.queues.sendable sendable.replying sendable.queued

/-- A reset that the manager yields comes from the system channel. -/
theorem RepliesSendable.yielded {session : Session} (sendable : session.RepliesSendable)
    (lawful : session.Lawful) {pick : Option Nat} {cx : Waker} {frame : Frame} {hub : Hub}
    {error : Error} (polled : session.hub.pollNext pick cx = .ok (.ready (some frame), hub))
    (body : frame.body = .rst error) : ∃ id :
    StreamID, id.val ≠ 0 ∧ frame = Frame.rst id error := by
  have step : session.hub.step (.pollNext pick cx) = hub := by
    simp only [Hub.step, polled]
  cases Hub.yields_of_pollNext polled with
  | system head rest queued before own _ _ =>
      obtain ⟨system, isSendable, rfl⟩ :=
        sendable.queued head (by rw [queued]; exact List.mem_cons_self)
      obtain ⟨system', isSendable', same⟩ := isSendable.nextSystemFrame before
      rw [same] at own
      cases system' with
      | rst id error' =>
          rw [own] at body
          cases body
          exact ⟨id, isSendable', own⟩
      | goaway _ _ _ =>
          rw [own] at body
          cases body
  | stream key id handle index alive task registered emitted _ _ =>
      -- a stream sends no resets
      obtain ⟨_, _, reaches⟩ := lawful.hub
      have reaches' : Reaches Hub.step anyLabel _ hub := reaches.tail ⟨_, trivial, step.symm⟩
      have history := Hub.ends_invariant WriteHistory WriteHistory.create WriteHistory.change
        reaches' key
      have sent : frame ∈ (hub.ends key).sent := by
        rw [(Hub.Addressed.of_reaches reaches').sent key, Hub.mem_framesOf, emitted]
        exact List.mem_append_right _ List.mem_cons_self
      obtain ⟨bytes, data⟩ | ⟨increment, data⟩ :=
        (history.shape frame (List.mem_append_left _ sent)).deliverable
      · rw [body] at data
        cases data
      · rw [body] at data
        cases data

theorem RepliesSendable.resetsEncodable {session : Session} (sendable : session.RepliesSendable)
    (lawful : session.Lawful) : session.ResetsEncodable where
  enqueued := fun id error replying => encode_rst (sendable.replying _ replying) error
  survives := by
    intro pick cx frame hub error running alive polled body
    obtain ⟨id, nonzero, rfl⟩ := sendable.yielded lawful polled body
    obtain ⟨-, bytes, encoded⟩ := encode_rst nonzero error
    simp only [Session.step, running, alive, and_self, if_true, pollNext, polled, encoded]
    rfl

/-- For every run: all resets can be encoded, and the write task survives them, exactly
when every stream-specific frame that comes to the match names a stream. -/
theorem resetsEncodable_iff (window acceptQueueSize streamLimit : Nat) (client : Bool)
    (ops : List SessionOp) :
    (∀ earlier later, ops = earlier ++ later → (run Session.step
        (Session.new window acceptQueueSize streamLimit client) earlier).ResetsEncodable) ↔
      Admitted Session.step namesStreams
        (Session.new window acceptQueueSize streamLimit client) ops := by
  have carried := carries_run window acceptQueueSize streamLimit client
  constructor
  · intro encodable
    rw [admitted_iff_forall]
    rintro earlier op later rfl
    cases op with
    | readerStep =>
        intro frame reader specific zero
        have decoded := (carried earlier).decoded.hand frame (by rw [reader]; rfl)
        have reset := (encodable (earlier ++ [.readerStep]) later (by simp)).enqueued
          frame.header.streamId .internal
        rw [run_append, run_cons, run_nil] at reset
        have replying := route_of_streamId_zero (run Session.step
          (Session.new window acceptQueueSize streamLimit client) earlier) decoded specific zero
        have valid := (reset (by simpa only [Session.step, readerStep, reader] using replying)).1
        exact ((validateHeader_eq_ok_iff _).1 valid).1 zero
    | _ => trivial
  · rintro names earlier later rfl
    have sendable : (run Session.step (Session.new window acceptQueueSize streamLimit client)
        earlier).RepliesSendable := by
      induction earlier using List.reverseRecOn generalizing later with
      | nil => exact ⟨by simp [Session.new], by simp [Session.new, Hub.new]⟩
      | append_singleton earlier op ih =>
          rw [List.append_assoc] at names
          have admitted := (admitted_append.1 names).2.1
          rw [run_append, run_cons, run_nil]
          exact (ih _ names).step (carried earlier).lawful (carried earlier).decoded admitted
    exact sendable.resetsEncodable (carried earlier).lawful

/-- A data frame for stream zero. -/
theorem not_resetsEncodable_zero :
    ¬ (run Session.step (Session.new 1 1 1 true)
      [.recv [0, 0, 0, 0x10, 0, 0, 0, 0], .readFrame, .readerStep]).ResetsEncodable := by
  intro encodable
  have reset := encodable.enqueued (Constrained.clamp 0) .internal (by decide)
  exact absurd reset.1 (by decide)

end Session

end Muxado

end NgrokRust
