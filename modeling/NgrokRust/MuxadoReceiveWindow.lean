import NgrokRust.MuxadoSession
import NgrokRust.MuxadoStreamEntry
import NgrokRust.MuxadoStreamHistory

/-!
# The receive window

`send_to_stream` takes a frame's bytes out of the window of the handle it finds at
its first poll, and `poll_next` puts the increments of the stream back.  What was
received is then bounded by the window and the increments sent, whatever the remote
does, unless a stream is opened under the id of a frame that waits and has paid
already: the frame goes to the new stream, which is not charged for it.
-/

namespace NgrokRust

namespace Muxado

open LabelledRuns StreamEnd

namespace Sending

def charged (sending : Sending) : Nat := sending.frame.payload.length - sending.shrinkWindow

theorem new_shrinkWindow (frame : Frame) (routable : frame.body.routable = true) :
    (new frame routable).shrinkWindow = frame.payload.length := by
  unfold new Frame.payload Body.payload
  cases frame.body <;> rfl

end Sending

namespace Hub

theorem StreamHandle.afterFrame_window (handle : StreamHandle) (frame : Frame) :
    (StreamHandle.afterFrame handle frame).window = handle.window + frame.credit := by
  unfold StreamHandle.afterFrame Frame.credit Body.credit
  cases frame.body <;> rfl

def charged (hub : Hub) (id : StreamID) : Nat :=
  match hub.sending with
  | some sending => if sending.frame.header.streamId = id then sending.charged else 0
  | none => 0

/-- A stream is opened under the id with the configured window, while the id is not
registered and no frame for it waits that has shrunk the window of an earlier stream. -/
def opensUncharged (window : Nat) (id : StreamID) (hub : Hub) : HubOp → Prop
  | .createStream remote window' _ =>
      hub.len ≠ hub.manager.streamLimit → hub.chosenId remote = id →
        window' = window ∧ hub.getStream id = none ∧ hub.charged id = 0
  | _ => True

theorem opensIdle_of_opensUncharged {hub : Hub} {window : Nat} {id : StreamID} {op : HubOp}
    (uncharged : hub.opensUncharged window id op) : hub.opensIdle id op := by
  cases op <;> first | trivial | exact fun room own => (uncharged room own).2.1

/-- Only a poll of `send_to_stream` charges a window or settles the charge. -/
theorem step_charged {hub : Hub} {id : StreamID} {op : HubOp}
    (notSend : op = .pollSendToStream → ∀ sending, hub.sending = some sending →
      sending.frame.header.streamId ≠ id) : (hub.step op).charged id = hub.charged id := by
  by_cases start : ∃ frame, op = .sendToStream frame
  · obtain ⟨frame, rfl⟩ := start
    have spec := hub.step_spec (.sendToStream frame)
    generalize hub.step (.sendToStream frame) = hub' at spec
    cases spec with
    | idle _ => rfl
    | panicked _ _ => rfl
    | user _ _ _ _ _ => rfl
    | startSend _ free routable =>
        have none : (Sending.new frame routable).charged = 0 := by
          rw [Sending.charged, Sending.new_shrinkWindow]
          exact Nat.sub_self _
        simp [charged, free, none]
  by_cases poll : op = .pollSendToStream
  · subst poll
    cases current : hub.sending with
    | none => simp [Hub.step, current]
    | some sending =>
        have other := notSend rfl sending current
        have kept : (hub.pollSendToStream sending).2.sending = none ∨
            ∃ sending', (hub.pollSendToStream sending).2.sending = some sending' ∧
              sending'.frame = sending.frame := by
          have spec := hub.pollSendToStream_spec sending
          generalize hub.pollSendToStream sending = outcome at spec
          cases spec <;> first | exact Or.inl rfl | exact Or.inr ⟨_, rfl, rfl⟩
        simp only [Hub.step, current, charged, if_neg other]
        rcases kept with free | ⟨sending', still, same⟩
        · rw [free]
        · rw [still]
          simp only [same, if_neg other]
  · have spec := hub.step_spec op
    generalize hub.step op = hub' at spec
    have same : hub'.sending = hub.sending → hub'.charged id = hub.charged id := by
      intro sending
      rw [charged, charged, sending]
    cases spec with
    | created remote window needsSyn newId newKey hub' opened =>
        exact same (createStream_eq_ok opened).2.2.2.2.2.2.2.2.2.2.2.1
    | startSend frame _ _ => exact (start ⟨frame, rfl⟩).elim
    | pollSend _ _ _ _ _ => exact (poll rfl).elim
    | system _ cx _ frame rest _ => apply same; unfold nextSystemFrame; split <;> rfl
    | next _ cx _ _ index id taskKey task item sink answer handle found polled hub' spec =>
        exact same (next_rest spec).2.2.2.1
    | _ => exact same rfl

theorem charged_of_current {hub : Hub} {id : StreamID} {sending : Sending}
    (current : hub.sending = some sending) (own : sending.frame.header.streamId = id) :
    hub.charged id = sending.charged := by
  simp only [charged, current, if_pos own]

/-- What the streams of one id have received is bounded by their windows and the
increments they have sent. -/
structure ReceiveLaw (window : Nat) (id : StreamID) (hub : Hub) : Prop where
  received : ∀ key, key < hub.nextKey → (hub.ends key).id = id →
    (payloads (hub.ends key).recvd).length ≤ window + credits (hub.ends key).sent
  balance : ∀ key handle, (hub.ends key).id = id → hub.entry key = some handle →
    (payloads (hub.ends key).recvd).length + handle.window + hub.charged id ≤
      window + credits (hub.ends key).sent

namespace ReceiveLaw

variable {hub : Hub} {window : Nat} {id : StreamID} {op : HubOp}

theorem credits_le {target : StreamEnd} (credit : CreditHistory target)
    (history : ReadHistory target) :
    credits target.sent ≤ target.returned.length ∧
      target.returned.length ≤ (payloads target.recvd).length := by
  obtain ⟨taken, left, split⟩ := history
  have le := credit.credit_le
  simp only [StreamEnd.outgoing, credits_append] at le
  have bytes := congrArg List.length split.bytes
  rw [split.recvd, payloads_append, List.length_append]
  rw [List.length_append] at bytes
  omega

/-- A poll for the stream moves bytes from its window to what it has received, or to the
charge of the frame that waits. -/
theorem sends {sending : Sending} {handle handle' : StreamHandle} {target target' : StreamEnd}
    {polled : Poll (Except Error Unit)} {sending' : Option Sending}
    (spec : SendSpec sending handle target polled handle' target' sending') :
    target'.sent = target.sent ∧
      (payloads target'.recvd).length + handle'.window +
          (sending'.elim 0 fun waiting => waiting.charged) ≤
        (payloads target.recvd).length + handle.window + sending.charged ∧
      (∀ waiting, sending' = some waiting → waiting.frame = sending.frame) := by
  unfold Sending.charged
  cases spec with
  | reset error body =>
      refine ⟨rfl, ?_, fun _ is => by cases is⟩
      simp only [StreamEnd.closeWith, Option.elim_none]
      omega
  | waiting accepts body fits =>
      refine ⟨rfl, ?_, ?_⟩
      · simp only [Option.elim_some]
        omega
      · rintro waiting ⟨⟩
        rfl
  | delivered accepts body fits isOpen =>
      refine ⟨rfl, ?_, fun _ is => by cases is⟩
      simp only [StreamEnd.receive, payloads_append, payloads_cons, payloads_nil,
        List.append_nil, List.length_append, Option.elim_none]
      omega
  | ignored error left refusal keeps =>
      refine ⟨rfl, ?_, fun _ is => by cases is⟩
      simp only [Option.elim_none]
      cases refusal <;> omega
  | refused error left refusal resets =>
      refine ⟨rfl, ?_, fun _ is => by cases is⟩
      simp only [StreamEnd.closeWith, Option.elim_none]
      cases refusal <;> omega

theorem created (law : hub.ReceiveLaw window id) {key : StreamKey}
    (uncharged : hub.opensUncharged window id op) (new : hub.nextKey ≤ key)
    (existing : key < (hub.step op).nextKey) (own : ((hub.step op).ends key).id = id) :
    ∃ needsSyn, (hub.step op).ends key = StreamEnd.create id window needsSyn ∧
      (hub.step op).entry key = some ⟨key, true, false, window⟩ ∧
      (hub.step op).charged id = 0 := by
  obtain ⟨remote, window', needsSyn, rfl, room, is, entry⟩ := entry_created new existing
  rw [is] at own
  obtain ⟨rfl, -, free⟩ := uncharged room own
  refine ⟨needsSyn, own ▸ is, entry, ?_⟩
  rw [step_charged (by simp)]
  exact free

/-- What an existing stream has received stays within the bound. -/
theorem step_received (law : hub.ReceiveLaw window id) {key : StreamKey}
    (existing : key < hub.nextKey) (own : (hub.ends key).id = id)
    (step : hub.EntryStep key op (hub.step op)) :
    (payloads ((hub.step op).ends key).recvd).length ≤
      window + credits ((hub.step op).ends key).sent := by
  have received := law.received key existing own
  cases step with
  | keeps _ _ changes =>
      obtain ⟨-, -, sent, recvd, -⟩ := changes.application_keeps
      rw [sent, recvd]
      exact received
  | emits _ _ _ frame rest _ _ target =>
      rw [target, credits_append]
      exact received.trans (Nat.add_le_add_left (Nat.le_add_right _ _) _)
  | finishes _ _ _ _ _ _ _ _ target =>
      rw [target, credits_append]
      exact received.trans (Nat.add_le_add_left (Nat.le_add_right _ _) _)
  | ends _ _ _ _ _ _ _ target => rw [target]; exact received
  | leaves _ _ sent recvd _ => rw [sent, recvd]; exact received
  | sends _ sending current sendingOwn handle found _ _ spec _ _ =>
      obtain ⟨sent, moved, -⟩ := sends spec
      have balance := law.balance key handle own found
      rw [charged_of_current current (sendingOwn.trans own)] at balance
      rw [sent]
      omega
  | closesWrite _ _ _ _ target => rw [target]; exact received
  | silences _ _ target => rw [target]; exact received

/-- What an existing stream has received, its window and the charge of a frame that
waits stay within the bound together. -/
theorem step_balance (law : hub.ReceiveLaw window id) {key : StreamKey}
    (own : (hub.ends key).id = id) (step : hub.EntryStep key op (hub.step op))
    {handle' : StreamHandle} (found' : (hub.step op).entry key = some handle') :
    (payloads ((hub.step op).ends key).recvd).length + handle'.window + (hub.step op).charged id ≤
      window + credits ((hub.step op).ends key).sent := by
  -- a charge for the id is settled only by a poll for this stream
  have charge {handle : StreamHandle} (unsent : hub.Undelivered key op)
      (found : hub.entry key = some handle) : (hub.step op).charged id = hub.charged id := by
    refine step_charged fun poll sending current => ?_
    rcases unsent poll with none | other
    · rw [found] at none
      cases none
    · rw [← own]
      exact other sending current
  cases step with
  | keeps unsent same changes =>
      have found := same.symm.trans found'
      obtain ⟨-, -, sent, recvd, -⟩ := changes.application_keeps
      rw [sent, recvd, charge unsent found]
      exact law.balance key handle' own found
  | emits polls handle found frame rest _ after target =>
      obtain rfl := Option.some.inj (after.symm.trans found')
      have notSend : op ≠ .pollSendToStream := by
        obtain ⟨pick, cx, rfl⟩ := polls
        simp
      have balance := law.balance key handle own found
      rw [charge (.of_ne notSend) found, target, credits_append, StreamHandle.afterFrame_window]
      simp only [credits_cons, credits_nil, Frame.withStreamId_credit]
      omega
  | finishes _ _ _ _ _ _ _ gone _ => rw [gone] at found'; cases found'
  | ends _ _ _ _ _ _ gone _ => rw [gone] at found'; cases found'
  | leaves gone _ _ _ _ => rw [gone] at found'; cases found'
  | sends _ sending current sendingOwn handle found other waiting spec after settled =>
      obtain rfl := Option.some.inj (after.symm.trans found')
      obtain ⟨sent, moved, same⟩ := sends spec
      have balance := law.balance key handle own found
      rw [charged_of_current current (sendingOwn.trans own)] at balance
      have charged : (hub.step op).charged id = waiting.elim 0 fun waiting => waiting.charged := by
        cases waiting with
        | none => simp [Hub.charged, settled]
        | some next =>
            apply charged_of_current settled
            rw [same next rfl]
            exact sendingOwn.trans own
      rw [charged, sent]
      omega
  | closesWrite notSend handle found after target =>
      obtain rfl := Option.some.inj (after.symm.trans found')
      rw [charge (.of_ne notSend) found, target]
      exact law.balance key handle own found
  | silences notSend same target =>
      have found := same.symm.trans found'
      rw [charge (.of_ne notSend) found, target]
      exact law.balance key handle' own found

theorem step (law : hub.ReceiveLaw window id) (addressed : hub.Addressed)
    (owned : hub.TasksOwned id) (uncharged : hub.opensUncharged window id op) :
    (hub.step op).ReceiveLaw window id := by
  have steps (key : StreamKey) (existing : key < hub.nextKey) (own : (hub.ends key).id = id) :
      hub.EntryStep key op (hub.step op) := by
    subst own
    exact step_entry addressed owned existing (opensIdle_of_opensUncharged uncharged)
  constructor
  · intro key existing own
    rcases Nat.lt_or_ge key hub.nextKey with before | new
    · rw [step_id addressed op before] at own
      exact law.step_received before own (steps key before own)
    · obtain ⟨needsSyn, is, -⟩ := law.created uncharged new existing own
      rw [is]
      exact Nat.zero_le _
  · intro key handle' own found'
    obtain ⟨registered, is⟩ := entry_eq_some.mp found'
    have existing := ((addressed.step op).handle _ _ registered).1
    rw [is] at existing
    rcases Nat.lt_or_ge key hub.nextKey with before | new
    · rw [step_id addressed op before] at own
      exact law.step_balance own (steps key before own) found'
    · obtain ⟨needsSyn, created, entry, free⟩ := law.created uncharged new existing own
      obtain rfl := Option.some.inj (entry.symm.trans found')
      rw [created, free]
      simp [StreamEnd.create]

theorem new (window streamLimit : Nat) (client : Bool) (id : StreamID) :
    (Hub.new streamLimit client).ReceiveLaw window id where
  received := fun _ existing => absurd existing (Nat.not_lt_zero _)
  balance := by
    intro key handle _ found
    simp [entry, Hub.new, getStream] at found

theorem of_reaches {streamLimit : Nat} {client : Bool}
    (reaches : Reaches Hub.step (opensUncharged window id) (Hub.new streamLimit client) hub) :
    hub.ReceiveLaw window id := by
  have all : hub.Addressed ∧ hub.TasksOwned id ∧ hub.ReceiveLaw window id := by
    refine reaches.invariant (fun hub =>
      hub.Addressed ∧ hub.TasksOwned id ∧ hub.ReceiveLaw window id) ?_
      ⟨.new streamLimit client, .new streamLimit client id, .new window streamLimit client id⟩
    rintro hub op uncharged ⟨addressed, owned, law⟩
    exact ⟨addressed.step op, owned.step addressed (opensIdle_of_opensUncharged uncharged),
      law.step addressed owned uncharged⟩
  exact all.2.2

end ReceiveLaw

/-- What the remote can make of the streams of an id that are configured with a window. -/
structure ReceiveBounded (window : Nat) (id : StreamID) (hub : Hub) : Prop where
  unread : ∀ key, key < hub.nextKey → (hub.ends key).id = id →
    (payloads (hub.ends key).recvd).length ≤ (hub.ends key).returned.length + window
  window_le : ∀ handle, hub.getStream id = some handle → handle.window ≤ window
  /-- A poll takes no more out of the window than there is. -/
  shrinks : ∀ sending handle handle', sending.frame.header.streamId = id →
    hub.getStream id = some handle →
    (hub.pollSendToStream sending).2.getStream id = some handle' →
    handle'.window = handle.window ∨ handle'.window + sending.shrinkWindow = handle.window
  refuses : ∀ frame bytes routable handle, frame.header.streamId = id →
    frame.header.typ = .data → frame.body = .data bytes →
    hub.getStream id = some handle → handle.dataWriteClosed = false →
    ((hub.pollSendToStream (Sending.new frame routable)).1 = .ready (.error .flowControl) ↔
      handle.window < bytes.length)

/-- A poll lowers the window by the charge, or not at all. -/
theorem shrinks_of_send {hub : Hub} {sending : Sending} {handle handle' : StreamHandle}
    (found : hub.getStream sending.frame.header.streamId = some handle)
    (found' : (hub.pollSendToStream sending).2.getStream sending.frame.header.streamId =
      some handle') :
    handle'.window = handle.window ∨ handle'.window + sending.shrinkWindow = handle.window := by
  obtain ⟨updated, target, waiting, spec, after⟩ := (hub.pollSendToStream_spec sending).send found
  obtain rfl : updated = handle' := by
    rw [after] at found'
    simpa [afterSend, getStream, setHandle] using found'
  generalize (hub.pollSendToStream sending).1 = polled at spec
  cases spec with
  | reset _ _ => exact Or.inl rfl
  | waiting _ _ fits => exact Or.inr (Nat.sub_add_cancel fits)
  | delivered _ _ fits _ => exact Or.inr (Nat.sub_add_cancel fits)
  | ignored _ _ refusal _ =>
      cases refusal with
      | closed _ _ => exact Or.inl rfl
      | overflow _ _ => exact Or.inl rfl
      | disconnected fits _ => exact Or.inr (Nat.sub_add_cancel fits)
  | refused _ _ refusal _ =>
      cases refusal with
      | closed _ _ => exact Or.inl rfl
      | overflow _ _ => exact Or.inl rfl
      | disconnected fits _ => exact Or.inr (Nat.sub_add_cancel fits)

/-- At its first poll a data frame for an open remote side violates flow control exactly
if it is longer than the window. -/
theorem flowControl_iff {hub : Hub} {frame : Frame} {bytes : List UInt8}
    (routable : frame.body.routable = true) {handle : StreamHandle}
    (typ : frame.header.typ = .data) (body : frame.body = .data bytes)
    (found : hub.getStream frame.header.streamId = some handle)
    (isOpen : handle.dataWriteClosed = false) :
    (hub.pollSendToStream (Sending.new frame routable)).1 = .ready (.error .flowControl) ↔
      handle.window < bytes.length := by
  have cost : (Sending.new frame routable).shrinkWindow = bytes.length := by
    rw [Sending.new_shrinkWindow, Frame.payload, body]
    rfl
  obtain ⟨updated, target, waiting, spec, -⟩ :=
    (hub.pollSendToStream_spec (Sending.new frame routable)).send found
  generalize (hub.pollSendToStream (Sending.new frame routable)).1 = polled at spec
  rw [← cost]
  cases spec with
  | reset error is =>
      rw [show (Sending.new frame routable).frame.body = frame.body from rfl, body] at is
      cases is
  | waiting _ _ fits => exact iff_of_false (fun is => by cases is) (Nat.not_lt.mpr fits)
  | delivered _ _ fits _ => exact iff_of_false (fun is => by cases is) (Nat.not_lt.mpr fits)
  | ignored error window refusal keeps =>
      refine iff_of_false (fun is => by cases is) fun exceeds => ?_
      rw [cost] at exceeds
      have long : bytes.length ≠ 0 := by omega
      simp [Sending.resets, Sending.isFin, Sending.new, typ, body, Body.len, long] at keeps
  | refused error window refusal resets =>
      cases refusal with
      | closed _ closed =>
          rw [isOpen] at closed
          cases closed
      | overflow _ exceeds => exact iff_of_true rfl exceeds
      | disconnected fits _ => exact iff_of_false (fun is => by cases is) (Nat.not_lt.mpr fits)

/-- If no stream is opened under the id of a frame that waits and is charged already, the
remote cannot make a stream of the id hold more than its window. -/
theorem receiveBounded {window : Nat} {id : StreamID} {streamLimit : Nat} {client : Bool}
    {hub : Hub}
    (reaches : Reaches Hub.step (opensUncharged window id) (Hub.new streamLimit client) hub) :
    hub.ReceiveBounded window id := by
  have law := ReceiveLaw.of_reaches reaches
  have addressed := Addressed.of_reaches reaches
  have counts (key : StreamKey) := ReceiveLaw.credits_le
    (ends_invariant CreditHistory CreditHistory.create CreditHistory.change reaches key)
    (ends_invariant ReadHistory ReadHistory.create ReadHistory.change reaches key)
  constructor
  · intro key existing own
    have received := law.received key existing own
    have := counts key
    omega
  · intro handle found
    have own := (addressed.handle id handle found).2
    have balance := law.balance handle.stream handle own (entry_of_getStream addressed found)
    have := counts handle.stream
    omega
  · intro sending handle handle' own found found'
    subst own
    exact shrinks_of_send found found'
  · intro frame bytes routable handle own typ body found isOpen
    subst own
    exact flowControl_iff routable typ body found isOpen

/-- A stream of the remote that has received three bytes of its window of four. -/
theorem receiveBounded_threeBytes :
    (run Hub.step (Hub.new 4 true)
      [.createStream (some (Constrained.clamp 2)) 4 false,
        .sendToStream ((Frame.ofBody (.data [1, 2, 3])).withStreamId (Constrained.clamp 2)),
        .pollSendToStream]).ReceiveBounded 4 (Constrained.clamp 2) :=
  receiveBounded (reaches_run ⟨fun _ _ => ⟨rfl, rfl, rfl⟩, trivial, trivial, trivial⟩)

/-- The remote opens stream 3 of a client, fills its channel of two places and sends a
byte, which waits; the application then drops the stream. -/
def chargedFrame : Session :=
  run Session.step (Session.new 1 4 4 true)
    [.recv (encodeBytes ((Frame.ofBody (.data [])).syn.withStreamId (Constrained.clamp 3)) ++
        encodeBytes ((Frame.ofBody (.wndInc (Constrained.clamp 1))).withStreamId
          (Constrained.clamp 3)) ++
        encodeBytes ((Frame.ofBody (.data [7])).withStreamId (Constrained.clamp 3)) ++
        encodeBytes ((Frame.ofBody (.data [8])).withStreamId (Constrained.clamp 3))),
      .readFrame, .readerStep, .readerStep, .readerStep, .readerStep, .readerStep,
      .readFrame, .readerStep, .readerStep,
      .readFrame, .readerStep, .readerStep,
      .accept 0, .stream 0 .drop, .pollNext (some 0) 0 none, .open]

/-- The client opens a stream of its own, also under the id 3, which is free again. The
byte that waits goes to it without a charge, and the next one after it. -/
theorem not_receiveBounded_reused :
    chargedFrame.hub.getStream (Constrained.clamp 3) = none ∧
      ¬ (run Session.step chargedFrame
        [.serveOpen, .readerStep, .readFrame, .readerStep, .readerStep]).hub.ReceiveBounded 1
          (Constrained.clamp 3) := by
  constructor
  · decide +kernel
  · intro bounded
    have unread := bounded.unread 1 (by decide +kernel) (by decide +kernel)
    exact absurd unread (by decide +kernel)

end Hub

end Muxado

end NgrokRust
