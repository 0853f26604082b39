import Mathlib.Algebra.Order.BigOperators.Group.List
import NgrokRust.MuxadoAnnouncement
import NgrokRust.MuxadoDelivery

/-!
# Flow control between two sessions

A stream's send credit is in its `Window`, and its peer keeps the room that is left in the
window of its handle.  Both follow the same frames: data lowers them and increments raise
them, each at its own end of the link.  So the credit, the bytes that are not read yet and
the increments that are not back yet add up to the window size, and a sender never
exceeds the room at the other end.
-/

namespace NgrokRust

namespace Muxado

open LabelledRuns StreamEnd

namespace StreamEnd

theorem Changes.grows {actor : Actor} {before after : StreamEnd}
    (changes : Changes actor before after) :
    before.recvd <+: after.recvd ∧ before.accepted <+: after.accepted ∧
      (after.dropped = false → before.dropped = false) := by
  induction changes with
  | refl => exact ⟨List.prefix_rfl, List.prefix_rfl, fun held => held⟩
  | tail _ change ih =>
      obtain ⟨recvd, accepted, held⟩ := ih
      cases change with
      | receive frame _ _ => exact ⟨recvd.trans (List.prefix_append _ _), accepted, held⟩
      | write _ _ _ _ _ _ _ _ _ => exact ⟨recvd, accepted.trans (List.prefix_append _ _), held⟩
      | drop _ => exact ⟨recvd, accepted, fun held' => by cases held'⟩
      | _ => exact ⟨recvd, accepted, held⟩

def Unopened (target : StreamEnd) : Prop :=
  target.stream.needsSyn = true → target.accepted = []

theorem Unopened.create (id : StreamID) (window : Nat) (needsSyn : Bool) :
    (StreamEnd.create id window needsSyn).Unopened := fun _ => rfl

theorem Unopened.change {actor : Actor} {before after : StreamEnd}
    (change : Change actor before after) (law : before.Unopened) : after.Unopened := by
  cases change with
  | write _ _ _ _ _ _ _ _ _ => exact fun needsSyn => by cases needsSyn
  | _ => exact law

/-- Nothing that comes before the SYN of an opened stream carries bytes. -/
theorem Announced.empty_of_synless {target : StreamEnd} (law : Announced target)
    (opener : target.opener = true) (unopened : target.Unopened) {frames : List Frame}
    (before : frames <+: target.sent) (synless : ∀ frame ∈ frames, frame.isSyn = false) :
    payloads frames = [] := by
  cases needsSyn : target.stream.needsSyn with
  | true =>
      have bytes := (payloads_grow before).trans law.history.sent
      rw [unopened needsSyn] at bytes
      exact List.prefix_nil.mp bytes
  | false =>
      have dataless : ∀ frame ∈ frames, frame.isData = false := by
        cases first : frames.find? Frame.isData with
        | none => simpa using first
        | some frame =>
            obtain ⟨rest, split⟩ := before
            have found : target.outgoing.find? Frame.isData = some frame := by
              rw [StreamEnd.outgoing, ← split, List.append_assoc, List.find?_append, first]
              rfl
            have syn := law.first opener needsSyn frame found
            rw [synless frame (List.mem_of_find?_eq_some first)] at syn
            cases syn
      exact List.flatMap_eq_nil_iff.mpr fun frame member =>
        WriteHistory.payload_of_not_data (dataless frame member)

/-- The bytes that a running stream has accepted are sent or wait for the manager, and so
are the increments for the bytes that it has returned. -/
theorem Running.sent {target : StreamEnd} (running : target.Running) (held : target.dropped = false)
    (write : WriteHistory target) (credit : CreditHistory target) :
    target.accepted.length =
        (payloads target.sent).length + (payloads target.stream.fout.sink.queue).length ∧
      target.returned.length = credits target.sent + credits target.stream.fout.sink.queue := by
  obtain ⟨code, -, isOpen⟩ := running held
  have alive : target.stream.fout.sink.receiverAlive = true := by
    by_contra gone
    rw [(write.gone (by simpa using gone)).1] at isOpen
    cases isOpen
  rw [← write.alive alive, List.length_append, ← credit.credit_eq code alive, outgoing,
    credits_append]
  exact ⟨rfl, rfl⟩

theorem length_recvd {target : StreamEnd} (history : ReadHistory target)
    (held : target.dropped = false) :
    (payloads target.recvd).length = target.returned.length + target.stream.readBuf.length +
      (payloads target.stream.fin.queue).length := by
  obtain ⟨taken, left, frames⟩ := history
  rw [frames.recvd, frames.queue held, payloads_append, ← frames.bytes]
  simp only [List.length_append]

end StreamEnd

theorem credits_sublist {first second : List Frame} (some_ : first.Sublist second) :
    credits first ≤ credits second :=
  (some_.map Frame.credit).sum_le_sum fun _ _ => Nat.zero_le _

theorem payload_le_of_mem {frame : Frame} {frames : List Frame} (member : frame ∈ frames) :
    frame.payload.length ≤ (payloads frames).length := by
  obtain ⟨before, after, rfl⟩ := List.append_of_mem member
  simp only [payloads_append, payloads_cons, List.length_append]
  omega

theorem StreamFrame.typ_of_payload {frame : Frame} (shape : StreamFrame frame)
    (carries : frame.payload ≠ []) : frame.header.typ = .data := by
  rw [shape.typ_eq]
  rcases shape.deliverable with ⟨bytes, body⟩ | ⟨increment, body⟩
  · rw [body]
    rfl
  · exact absurd (by simp [Frame.payload, body, Body.payload]) carries

/-- A flow control error is the answer to a frame that is longer than the window of its
handle. -/
theorem Hub.overflow_of_flowControl {hub : Hub} {sending : Sending}
    (refused : (hub.pollSendToStream sending).1 = .ready (.error .flowControl)) :
    ∃ handle, hub.getStream sending.frame.header.streamId = some handle ∧
      ¬ (sending.frame.header.typ = .data ∧ handle.dataWriteClosed = true) ∧
      handle.window < sending.shrinkWindow := by
  have spec := hub.pollSendToStream_spec sending
  generalize hub.pollSendToStream sending = outcome at spec refused
  cases spec with
  | unregistered absent =>
      dsimp only at refused
      split at refused <;> cases refused
  | refused handle registered error window refusal resets =>
      cases refusal with
      | overflow accepts overflow => exact ⟨handle, registered, accepts, overflow⟩
      | _ => cases refused
  | _ => cases refused

/-- A window stays exact as long as the credit that it receives is that of bytes it has
taken. -/
theorem WindowExact.changes {actor : Actor} {before after : StreamEnd}
    (changes : Changes actor before after)
    (bounded : credits before.recvd ≤ before.accepted.length)
    (bounded' : credits after.recvd ≤ after.accepted.length) (held : after.dropped = false)
    (law : before.dropped = false → WindowExact before) : WindowExact after := by
  induction changes with
  | refl => exact law held
  | @tail middle after earlier change ih =>
      have next : Changes actor middle after := .single change
      obtain ⟨recvd, -, held'⟩ := next.grows
      have between : credits middle.recvd ≤ middle.accepted.length := by
        cases actor with
        | application =>
            obtain ⟨-, -, -, same, -⟩ := Changes.application_keeps earlier
            rw [same]
            exact bounded.trans (Changes.grows earlier).2.1.length_le
        | manager =>
            obtain ⟨-, -, -, same, -⟩ := Changes.manager_keeps next
            rw [← same]
            exact (credits_sublist recvd.sublist).trans bounded'
      exact (ih between (held' held)).change change between held

namespace Hub

/-- A handle has at least the room that its stream's window and increments leave after the
frames heard, and after the charge of a frame in progress. -/
structure RoomLeft (window : Nat) (hub : Hub) (key : StreamKey) (frames : List Frame) : Prop where
  maxSize : (hub.ends key).stream.window.maxSize = window
  room : ∀ handle, hub.entry key = some handle → handle.dataWriteClosed = false →
    window + credits (hub.ends key).sent ≤
      handle.window + (payloads frames).length + hub.charged (hub.ends key).id

theorem changes_maxSize {actor : Actor} {before after : StreamEnd}
    (changes : Changes actor before after) :
    after.stream.window.maxSize = before.stream.window.maxSize := by
  induction changes with
  | refl => rfl
  | tail _ change same =>
      cases change with
      | ingest frame _ _ _ _ => exact (Window.inc_maxSize _ _).trans same
      | _ => exact same

namespace RoomLeft

variable {window : Nat} {hub : Hub} {key : StreamKey} {frames : List Frame}

theorem of_same (left : hub.RoomLeft window key frames) {hub' : Hub}
    (maxSize : (hub'.ends key).stream.window.maxSize = (hub.ends key).stream.window.maxSize)
    (entry : ∀ handle', hub'.entry key = some handle' → handle'.dataWriteClosed = false →
      hub.entry key = some handle' ∧ (hub'.ends key).sent = (hub.ends key).sent ∧
        hub'.charged (hub'.ends key).id = hub.charged (hub.ends key).id) :
    hub'.RoomLeft window key frames where
  maxSize := maxSize.trans left.maxSize
  room := by
    intro handle' found' accepts'
    obtain ⟨found, sent, charged⟩ := entry handle' found' accepts'
    rw [sent, charged]
    exact left.room handle' found accepts'

theorem of_closed (left : hub.RoomLeft window key frames) {hub' : Hub} (frames' : List Frame)
    (maxSize : (hub'.ends key).stream.window.maxSize = (hub.ends key).stream.window.maxSize)
    (closed : ∀ handle', hub'.entry key = some handle' → handle'.dataWriteClosed = true) :
    hub'.RoomLeft window key frames' where
  maxSize := maxSize.trans left.maxSize
  room := by
    intro handle' found' accepts'
    rw [closed handle' found'] at accepts'
    cases accepts'

theorem of_gone (left : hub.RoomLeft window key frames) {hub' : Hub} (frames' : List Frame)
    (maxSize : (hub'.ends key).stream.window.maxSize = (hub.ends key).stream.window.maxSize)
    (gone : hub'.entry key = none) : hub'.RoomLeft window key frames' := by
  apply left.of_closed frames' maxSize
  intro handle' found'
  rw [gone] at found'
  cases found'

/-- A poll for the stream takes bytes out of its window. -/
theorem of_shrunk (left : hub.RoomLeft window key frames) {hub' : Hub} {sending : Sending}
    {handle : StreamHandle} {sending' : Option Sending}
    (current : hub.sending = some sending)
    (own : sending.frame.header.streamId = (hub.ends key).id)
    (shrinks : sending.shrinkWindow ≤ sending.frame.payload.length)
    (fits : sending.shrinkWindow ≤ handle.window) (found : hub.entry key = some handle)
    (found' : hub'.entry key = some { handle with window := handle.window - sending.shrinkWindow })
    (target : (hub'.ends key).stream.window.maxSize = (hub.ends key).stream.window.maxSize ∧
      (hub'.ends key).sent = (hub.ends key).sent ∧ (hub'.ends key).id = (hub.ends key).id)
    (after : hub'.sending = sending') {frames' : List Frame}
    (moved : (payloads frames').length + (sending'.elim 0 fun waiting => waiting.charged) =
      (payloads frames).length + sending.frame.payload.length)
    (same : ∀ waiting, sending' = some waiting → waiting.frame = sending.frame) :
    hub'.RoomLeft window key frames' where
  maxSize := target.1.trans left.maxSize
  room := by
    intro handle' is accepts'
    obtain rfl := Option.some.inj (found'.symm.trans is)
    have before := left.room handle found accepts'
    have charged : hub'.charged (hub.ends key).id = sending'.elim 0 fun waiting => waiting.charged := by
      cases sending' with
      | none => simp [Hub.charged, after]
      | some waiting =>
          apply charged_of_current after
          rw [same waiting rfl]
          exact own
    rw [charged_of_current current own, Sending.charged] at before
    rw [target.2.1, target.2.2, charged]
    simp only
    omega

theorem passes (left : hub.RoomLeft window key frames) {op : HubOp}
    (unheard : Session.Unheard hub key op)
    (shrinks : ∀ sending, hub.sending = some sending →
      sending.shrinkWindow ≤ sending.frame.payload.length)
    (step : hub.EntryStep key op (hub.step op)) : (hub.step op).RoomLeft window key frames := by
  -- a charge for the id is settled only by a poll for this stream
  have charge {handle : StreamHandle} (unsent : hub.Undelivered key op)
      (found : hub.entry key = some handle) :
      (hub.step op).charged (hub.ends key).id = hub.charged (hub.ends key).id := by
    refine step_charged fun poll sending current => ?_
    rcases unsent poll with none | other
    · rw [found] at none
      cases none
    · exact other sending current
  cases step with
  | keeps unsent same changes =>
      apply left.of_same (changes_maxSize changes)
      intro handle' found' _
      have found := same.symm.trans found'
      obtain ⟨id, -, sent, -⟩ := changes.application_keeps
      rw [id]
      exact ⟨found, sent, charge unsent found⟩
  | emits polls handle found frame rest queue found' target =>
      have notSend : op ≠ .pollSendToStream := by
        obtain ⟨pick, cx, rfl⟩ := polls
        simp
      refine ⟨by rw [target]; exact left.maxSize, fun handle' is accepts' => ?_⟩
      obtain rfl := Option.some.inj (found'.symm.trans is)
      have before := left.room handle found accepts'
      have charged := charge (.of_ne notSend) found
      rw [target, StreamHandle.afterFrame_window, credits_append]
      simp only [credits_cons, credits_nil, Frame.withStreamId_credit, charged]
      omega
  | finishes _ _ _ _ _ _ _ gone target => exact left.of_gone frames (by rw [target]; rfl) gone
  | ends _ _ _ _ _ _ gone target => exact left.of_gone frames (by rw [target]; rfl) gone
  | leaves gone _ _ _ changes => exact left.of_gone frames (changes_maxSize changes) gone
  | sends is sending current own handle found handle' sending' spec found' after =>
      have nothing := unheard is sending current
      rw [found] at nothing
      have shrinks := shrinks sending current
      generalize polledEq : (hub.pollSendToStream sending).1 = polled at spec nothing
      generalize targetEq : (hub.step op).ends key = target at spec
      cases spec with
      | waiting accepts body fits =>
          apply left.of_shrunk current own shrinks fits found found' _ after
          · simp [Sending.charged]
          · rintro waiting ⟨⟩
            rfl
          · rw [targetEq]
            exact ⟨rfl, rfl, rfl⟩
      | reset error body =>
          apply left.of_closed frames (by rw [targetEq]; rfl)
          intro last foundLast
          obtain rfl := Option.some.inj (found'.symm.trans foundLast)
          rfl
      | delivered accepts body fits isOpen =>
          rcases nothing with absent | other | pending | ⟨error, reset⟩
          · cases absent
          · exact absurd own other
          · cases pending
          · exact absurd reset (body error)
      | ignored error window refusal keeps =>
          have empty : sending.frame.payload = [] := by
            rcases nothing with absent | other | pending | ⟨error, reset⟩
            · cases absent
            · exact absurd own other
            · cases pending
            · simp [Frame.payload, reset, Body.payload]
          cases refusal with
          | closed typ closed =>
              apply left.of_closed frames (by rw [targetEq])
              intro last foundLast
              obtain rfl := Option.some.inj (found'.symm.trans foundLast)
              exact closed
          | overflow _ overflow =>
              rw [empty, List.length_nil] at shrinks
              omega
          | disconnected fits closed =>
              apply left.of_shrunk current own shrinks fits found found' _ after
              · simp [empty]
              · rintro waiting ⟨⟩
              · rw [targetEq]
                exact ⟨rfl, rfl, rfl⟩
      | refused error window refusal resets =>
          apply left.of_closed frames (by rw [targetEq]; rfl)
          intro last foundLast
          obtain rfl := Option.some.inj (found'.symm.trans foundLast)
          rfl
  | closesWrite notSend handle found found' target =>
      apply left.of_closed frames (by rw [target])
      intro handle' is
      obtain rfl := Option.some.inj (found'.symm.trans is)
      rfl
  | silences notSend same target =>
      apply left.of_same (by rw [target]; rfl)
      intro handle' found' _
      have found := same.symm.trans found'
      have charged := charge (.of_ne notSend) found
      rw [target]
      exact ⟨found, rfl, charged⟩

theorem hears (left : hub.RoomLeft window key frames) {sending : Sending}
    (current : hub.sending = some sending) (shape : StreamFrame sending.frame)
    (own : sending.frame.header.streamId = (hub.ends key).id)
    (shrinks : sending.shrinkWindow ≤ sending.frame.payload.length)
    (answered : (hub.pollSendToStream sending).1 ≠ .pending) {hub' : Hub}
    (step : hub.EntryStep key .pollSendToStream hub') :
    hub'.RoomLeft window key (frames ++ [sending.frame]) := by
  cases step with
  | keeps unsent same changes =>
      apply left.of_gone _ (changes_maxSize changes)
      rcases unsent rfl with absent | other
      · exact same.trans absent
      · exact absurd own (other sending current)
  | emits polls => obtain ⟨_, _, is⟩ := polls; cases is
  | finishes polls => obtain ⟨_, _, is⟩ := polls; cases is
  | ends polls => obtain ⟨_, _, is⟩ := polls; cases is
  | leaves gone _ _ _ changes => exact left.of_gone _ (changes_maxSize changes) gone
  | closesWrite other => exact absurd rfl other
  | silences other => exact absurd rfl other
  | sends _ sending' current' _ handle found handle' after spec found' settled =>
      obtain rfl := Option.some.inj (current.symm.trans current')
      generalize polledEq : (hub.pollSendToStream sending).1 = polled at spec answered
      generalize targetEq : hub'.ends key = target at spec
      cases spec with
      | waiting _ _ _ => exact absurd rfl answered
      | reset error body => exact absurd body (shape.body_ne_rst error)
      | delivered accepts body fits isOpen =>
          apply left.of_shrunk current own shrinks fits found found' _ settled
          · simp
          · rintro waiting ⟨⟩
          · rw [targetEq]
            exact ⟨rfl, rfl, rfl⟩
      | refused error window refusal resets =>
          apply left.of_closed _ (by rw [targetEq]; rfl)
          intro last foundLast
          obtain rfl := Option.some.inj (found'.symm.trans foundLast)
          rfl
      | ignored error window refusal keeps =>
          cases refusal with
          | closed typ closed =>
              apply left.of_closed _ (by rw [targetEq])
              intro last foundLast
              obtain rfl := Option.some.inj (found'.symm.trans foundLast)
              exact closed
          | overflow _ overflow =>
              rw [Sending.resets_of_overflow shape shrinks overflow] at keeps
              cases keeps
          | disconnected fits closed =>
              apply left.of_shrunk current own shrinks fits found found' _ settled
              · simp
              · rintro waiting ⟨⟩
              · rw [targetEq]
                exact ⟨rfl, rfl, rfl⟩

end RoomLeft

end Hub

namespace Session

variable {peer session : Session} {op : SessionOp}

theorem step_window (lawful : session.Lawful) (op : SessionOp) :
    (session.step op).window = session.window := by
  have spec := session.step_spec lawful.sending op
  generalize session.step op = session' at spec
  cases spec with
  | advances _ _ _ _ _ _ _ _ _ _ rest => exact rest.window
  | leaves _ _ _ _ _ _ _ rest => exact rest.window
  | ends _ _ _ _ _ rest => exact rest.window
  | polls _ _ _ _ _ _ _ _ rest => exact rest.window
  | outside _ _ _ _ rest => exact rest.window
  | _ => rfl

theorem Lawful.announced (lawful : session.Lawful) (key : StreamKey) :
    Announced (session.hub.ends key) :=
  have ⟨_, _, reaches⟩ := lawful.hub
  Hub.ends_invariant Announced Announced.create Announced.change reaches key

theorem Lawful.unopened (lawful : session.Lawful) (key : StreamKey) :
    (session.hub.ends key).Unopened :=
  have ⟨_, _, reaches⟩ := lawful.hub
  Hub.ends_invariant Unopened Unopened.create Unopened.change reaches key

theorem SynsAccepted.twins (syns : session.SynsAccepted) (linked : Linked peer session)
    {key' : StreamKey} {frame : Frame} (member : frame ∈ handledOf peer session key')
    (syn : frame.isSyn = true) : ∃ key, Twins peer session key' key := by
  obtain ⟨index, at_⟩ := List.mem_iff_getElem?.mp (Hub.mem_framesOf.mp member)
  have handled : session.handled[index]? = some frame := by
    rw [linked.forth.handled, List.getElem?_map, at_]
    rfl
  obtain ⟨key, existing, acceptor, born⟩ := syns.handled index frame handled syn
  refine ⟨key, Or.inl ⟨existing, acceptor, frame, ?_⟩⟩
  rw [born]
  exact getElem?_of_longer (List.take_prefix _ _) at_

end Session

namespace Connection

variable {builder : Side → SessionBuilder} {conn : Connection} {id : StreamID} {side : Side}
  {key' key : StreamKey}

open Session

theorem window_of_reaches {admits : Connection → ConnectionOp → Prop}
    (runs : Reaches Connection.step admits (new builder) conn) (side : Side) :
    (conn side).window = (builder side).window := by
  induction runs with
  | refl => rfl
  | @tail conn later earlier edge ih =>
      obtain ⟨op, -, rfl⟩ := edge
      have keeps (op : SessionOp) (actor : Side) : ((conn actor).step op).window = (conn actor).window :=
        step_window (linked_of_reaches earlier actor).lawful op
      cases op with
      | transport actor count =>
          simp only [step, Function.update_apply]
          split
          · next own => exact own ▸ ih
          · split
            · next own => exact own ▸ ih
            · exact ih
      | act actor op =>
          by_cases recv : ∃ bytes, op = .recv bytes
          · obtain ⟨bytes, rfl⟩ := recv
            exact ih
          · rw [step_act fun bytes is => recv ⟨bytes, is⟩, Function.update_apply]
            split
            · next own =>
                rw [keeps, ← own]
                exact ih
            · exact ih

/-- In every run the handles of an id have the room that their streams need. -/
theorem roomLeft_of_reaches (runs : RunsAt id builder conn) (side : Side) {key : StreamKey}
    (existing : key < (conn side).hub.nextKey) (own : ((conn side).hub.ends key).id = id)
    {window : Nat} (equal : ∀ side, (builder side).window = window)
    {frames : List Frame} (heard : Heard (conn side.other) (conn side) key frames) :
    (conn side).hub.RoomLeft window key frames := by
  refine heard_invariant (Hub.RoomLeft window) (fun _ session => session.window = window)
    (Session.opensUnusedAt id) (fun unused => unused) (fun unused => unused)
    (fun runs side => (window_of_reaches runs side).trans (equal side)) ?_ runs side existing own heard
  intro peer session op key frames unused sized _ coupled own meets left
  have shrinks (sending : Sending) (current : session.hub.sending = some sending) :=
    (coupled.progress sending current).2
  cases meets with
  | opens needsSyn target found silent =>
      subst silent
      constructor
      · rw [target]
        exact sized
      · intro handle found' _
        obtain rfl := Option.some.inj (found.symm.trans found')
        rw [target]
        simp [StreamEnd.create, sized]
  | stays existing heard hub =>
      rw [hub]
      exact left frames existing heard
  | passes existing heard hubOp hub unheard closing step =>
      rw [hub] at step ⊢
      exact (left frames existing heard).passes unheard shrinks step
  | hears existing frames heard sending current shape frames_eq own shrinks answered replies hub step =>
      subst frames_eq
      exact (left frames existing heard).hears current shape own shrinks answered step

theorem Twins.symm (twins : conn.Twins side key' key) : conn.Twins side.other key key' := by
  rw [Connection.Twins, Side.other_other]
  exact Session.Twins.symm twins

theorem Twins.same_id (runs : RunsAt id builder conn) (twins : conn.Twins side key' key) :
    key' < (conn side.other).hub.nextKey ∧ key < (conn side).hub.nextKey ∧
      ((conn side.other).hub.ends key').id = ((conn side).hub.ends key).id :=
  (related_of_reaches runs side).twins_id twins

theorem credits_of_twins (runs : RunsAt id builder conn) (twins : conn.Twins side key' key)
    (own : ((conn side).hub.ends key).id = id) :
    credits ((conn side).hub.ends key).recvd ≤ credits ((conn side.other).hub.ends key').sent := by
  have receipt := receipt_of_reaches runs side (twins.same_id runs).2.1 own (Or.inl ⟨key', twins, rfl⟩)
  exact credits_sublist (receipt.sublist.trans (handledOf_grows runs side key').sublist)

/-- A stream only gets increments for bytes that it has accepted. -/
theorem credits_le_accepted (runs : RunsAt id builder conn) (side : Side) {key : StreamKey}
    (existing : key < (conn side).hub.nextKey) (own : ((conn side).hub.ends key).id = id) :
    credits ((conn side).hub.ends key).recvd ≤ ((conn side).hub.ends key).accepted.length := by
  by_cases alone : ∀ key', ¬ conn.Twins side key' key
  · have receipt := receipt_of_reaches runs side existing own (Or.inr ⟨alone, rfl⟩)
    rw [List.sublist_nil.mp receipt.sublist]
    exact Nat.zero_le _
  · obtain ⟨key', twins⟩ := not_forall_not.mp alone
    obtain ⟨existing', -, same⟩ := twins.same_id runs
    have peerLawful := (linked_of_reaches runs side).peerLawful
    have returned := returned_of_twins runs existing' (same.trans own) twins.symm
    rw [Side.other_other] at returned
    calc credits ((conn side).hub.ends key).recvd
        ≤ credits ((conn side.other).hub.ends key').sent := credits_of_twins runs twins own
      _ ≤ ((conn side.other).hub.ends key').returned.length :=
          (Hub.ReceiveLaw.credits_le (peerLawful.creditHistory key') (peerLawful.readHistory key')).1
      _ ≤ ((conn side).hub.ends key).accepted.length := returned.length_le

/-- The window of a stream that is not dropped is exact in every run. -/
theorem windowExact_of_reaches (runs : RunsAt id builder conn) (side : Side) {key : StreamKey}
    (existing : key < (conn side).hub.nextKey) (own : ((conn side).hub.ends key).id = id)
    (held : ((conn side).hub.ends key).dropped = false) :
    WindowExact ((conn side).hub.ends key) := by
  obtain ⟨frames, heard⟩ := exists_heard (conn side.other) (conn side) key
  let Acknowledged (_ session : Session) : Prop := ∀ key < session.hub.nextKey,
    (session.hub.ends key).id = id →
      credits (session.hub.ends key).recvd ≤ (session.hub.ends key).accepted.length
  refine heard_invariant (fun hub key _ => (hub.ends key).dropped = false → WindowExact (hub.ends key))
    Acknowledged (Session.opensUnusedAt id) (fun unused => unused) (fun unused => unused)
    (fun runs side key existing own => credits_le_accepted runs side existing own)
    ?_ runs side existing own heard held
  intro peer session op key frames unused known known' coupled own' meets law held
  have lawful := coupled.related.linked.lawful
  have of_step (existing : key < session.hub.nextKey) {hubOp : HubOp}
      (hub : (session.step op).hub = session.hub.step hubOp)
      (before : (session.hub.ends key).dropped = false → WindowExact (session.hub.ends key)) :
      WindowExact ((session.step op).hub.ends key) := by
    have bounded' := known' key
    rw [hub] at own' held bounded' ⊢
    have own := (Hub.step_id lawful.addressed hubOp existing).symm.trans own'
    obtain ⟨actor, changes⟩ := Hub.step_changes lawful.addressed hubOp existing
    exact .changes changes (known key existing own)
      (bounded' (existing.trans_le (Hub.step_nextKey_le _ _)) own') held before
  cases meets with
  | opens needsSyn target found silent =>
      rw [target]
      rfl
  | stays existing heard hub =>
      rw [hub] at held ⊢
      exact law frames existing heard held
  | passes existing heard hubOp hub => exact of_step existing hub (law frames existing heard)
  | hears existing frames heard _ _ _ _ _ _ _ _ hub =>
      exact of_step existing hub (law frames existing heard)

theorem maxSize_of_reaches (runs : RunsAt id builder conn) {window : Nat}
    (equal : ∀ side, (builder side).window = window) (side : Side) {key : StreamKey}
    (existing : key < (conn side).hub.nextKey) (own : ((conn side).hub.ends key).id = id) :
    ((conn side).hub.ends key).stream.window.maxSize = window := by
  obtain ⟨frames, heard⟩ := exists_heard (conn side.other) (conn side) key
  exact (roomLeft_of_reaches runs side existing own equal heard).maxSize

/-- What a stream has sent and the other side has handled, together with the frame that it
handles next, is within what the stream was allowed to send. -/
theorem sent_le (runs : RunsAt id builder conn) {window : Nat}
    (equal : ∀ side, (builder side).window = window) (twins : conn.Twins side key' key)
    (own : ((conn side).hub.ends key).id = id) {frame : Frame}
    (next : (conn side.other).hub.emitted[(conn side).handled.length]? = some (some key', frame)) :
    (payloads (handledOf (conn side.other) (conn side) key')).length + frame.payload.length ≤
      window + credits ((conn side).hub.ends key).sent := by
  obtain ⟨existing', existing, same⟩ := twins.same_id runs
  have peerLawful := (linked_of_reaches runs side).peerLawful
  have history := peerLawful.writeHistory key'
  have credit := peerLawful.creditHistory key'
  have back := credits_of_twins runs twins.symm (same.trans own)
  have maxSize := maxSize_of_reaches runs equal side.other existing' (same.trans own)
  rw [Side.other_other] at back
  -- both are part of what the stream has yielded
  have part : (payloads (handledOf (conn side.other) (conn side) key')).length +
      frame.payload.length ≤ (payloads ((conn side.other).hub.ends key').sent).length := by
    rw [peerLawful.addressed.sent key', framesOf_emitted (conn side.other) (conn side) key',
      payloads_append, List.length_append]
    apply Nat.add_le_add_left
    exact payload_le_of_mem (Hub.mem_framesOf.mpr (mem_inFlight next))
  have accepted := history.sent.length_le
  have window_le := credit.window_le
  omega

/-- A session that has the window size of its peer never answers a frame of the peer for
the id with a flow control error. -/
theorem respected_of_reaches (runs : RunsAt id builder conn) {window : Nat}
    (equal : ∀ side, (builder side).window = window) (side : Side) {sending : Sending}
    (current : (conn side).hub.sending = some sending)
    (own : sending.frame.header.streamId = id) :
    ((conn side).hub.pollSendToStream sending).1 ≠ .ready (.error .flowControl) := by
  intro refused
  have coupled : Coupled id (conn side.other) (conn side) :=
    coupled_of_reaches (fun unused => unused) runs side
  have linked := coupled.related.linked
  obtain ⟨handle, registered, accepts, overflow⟩ := Hub.overflow_of_flowControl refused
  have shrinks := (coupled.progress sending current).2
  have carries : sending.frame.payload ≠ [] := by
    intro empty
    rw [empty, List.length_nil] at shrinks
    omega
  rcases coupled.progress.origin linked current with ⟨key', next, shape⟩ | ⟨-, error, body⟩
  · have isOpen : handle.dataWriteClosed = false := by
      by_contra closed
      exact accepts ⟨shape.typ_of_payload carries, by simpa using closed⟩
    have found := Hub.entry_of_getStream linked.lawful.addressed registered
    have ownKey := (linked.lawful.addressed.handle _ handle registered).2
    have twins := coupled.paired.twins_of_progress next ownKey.symm (ownKey.trans own) found
    have existing := (coupled.related.twins_id twins).2.1
    have left := roomLeft_of_reaches runs side existing (ownKey.trans own) equal
      (Or.inl ⟨key', twins, rfl⟩)
    have room := left.room handle found isOpen
    have sent := sent_le runs equal twins (ownKey.trans own) next
    rw [Hub.charged_of_current current ownKey.symm, Sending.charged] at room
    omega
  · exact carries (by simp [Frame.payload, body, Body.payload])

/-- Of a stream without a twin nothing has been handled that carries bytes. -/
theorem handled_of_alone (runs : RunsAt id builder conn) {side : Side} {key : StreamKey}
    (existing : key < (conn side).hub.nextKey) (alone : ∀ key', ¬ conn.Twins side key' key) :
    payloads (handledOf (conn side) (conn side.other) key) = [] := by
  have related := related_of_reaches runs side
  have lawful := related.linked.lawful
  have before := handledOf_grows runs side.other key
  rw [Side.other_other] at before
  have opener : ((conn side).hub.ends key).opener = true := by
    by_contra acceptor
    have acceptor : ((conn side).hub.ends key).opener = false := by simpa using acceptor
    obtain ⟨key', frame, at_, -⟩ := related.forth.syn key existing acceptor
    exact alone key' (Or.inl ⟨existing, acceptor, frame, at_⟩)
  apply (lawful.announced key).empty_of_synless opener (lawful.unopened key) before
  intro frame member
  by_contra syn
  obtain ⟨key', twins⟩ := (synsAccepted_of_reaches runs side.other).twins related.linked.symm
    member (by simpa using syn)
  exact alone key' twins.symm

/-- The bytes of data of a stream that its manager has not taken or that are on the
link. -/
def unhandled (conn : Connection) (side : Side) (key : StreamKey) : Nat :=
  (payloads ((conn side).hub.ends key).stream.fout.sink.queue).length +
    (payloads (Hub.framesOf key (inFlight (conn side) (conn side.other)))).length

def unread (conn : Connection) (side : Side) (key : StreamKey) : Nat :=
  (payloads ((conn side).hub.ends key).stream.fin.queue).length +
    ((conn side).hub.ends key).stream.readBuf.length

/-- The increments on their way to a stream: those that the manager of its twin has not
taken, those on the link and those in its own channel. -/
def returning (conn : Connection) (side : Side) (key' key : StreamKey) : Nat :=
  credits ((conn side.other).hub.ends key').stream.fout.sink.queue +
    credits (Hub.framesOf key' (inFlight (conn side.other) (conn side))) +
      credits ((conn side).hub.ends key).stream.fin.queue

/-- What an undisturbed stream has accepted is handled or unhandled, and so are the
increments that it has sent. -/
theorem sent_of_calm (runs : RunsAt id builder conn) (calm : conn.Undisturbed) (side : Side)
    {key : StreamKey} (existing : key < (conn side).hub.nextKey)
    (own : ((conn side).hub.ends key).id = id) (held : ((conn side).hub.ends key).dropped = false) :
    ((conn side).hub.ends key).accepted.length =
        (payloads (handledOf (conn side) (conn side.other) key)).length +
          conn.unhandled side key ∧
      ((conn side).hub.ends key).returned.length =
        credits (handledOf (conn side) (conn side.other) key) +
          credits (Hub.framesOf key (inFlight (conn side) (conn side.other))) +
            credits ((conn side).hub.ends key).stream.fout.sink.queue := by
  have lawful := (linked_of_reaches runs side).lawful
  obtain ⟨frames, heard⟩ := exists_heard (conn side.other) (conn side) key
  have intact := intact_of_reaches (calm_of_runs runs calm) side existing own heard
  obtain ⟨accepted, returned⟩ := intact.running.sent held (lawful.writeHistory key)
    (lawful.creditHistory key)
  rw [lawful.addressed.sent key, framesOf_emitted (conn side) (conn side.other) key] at accepted returned
  rw [payloads_append, List.length_append] at accepted
  rw [credits_append] at returned
  refine ⟨?_, returned⟩
  rw [accepted, unhandled]
  omega

/-- Of the window of a running stream, what is not credit of the sender is on its way to
the reader, or on its way back. -/
theorem conserved_of_twins (runs : RunsAt id builder conn) {window : Nat}
    (equal : ∀ side, (builder side).window = window) (calm : conn.Undisturbed)
    (twins : conn.Twins side key' key) (own : ((conn side).hub.ends key).id = id)
    (held : ((conn side).hub.ends key).dropped = false)
    (held' : ((conn side.other).hub.ends key').dropped = false) :
    ((conn side).hub.ends key).stream.window.size + conn.unhandled side key +
      conn.unread side.other key' + conn.returning side key' key = window := by
  obtain ⟨existing', existing, same⟩ := twins.same_id runs
  have own' := same.trans own
  have calmRuns := calm_of_runs runs calm
  have twins' := twins.symm
  have intact := intact_of_reaches calmRuns side existing own (Or.inl ⟨key', twins, rfl⟩)
  have intact' := intact_of_reaches calmRuns side.other existing' own' (Or.inl ⟨key, twins', rfl⟩)
  have sent := (sent_of_calm runs calm side existing own held).1
  have returned := (sent_of_calm runs calm side.other existing' own' held').2
  have recvd := length_recvd ((linked_of_reaches runs side).peerLawful.readHistory key') held'
  have exact_ := windowExact_of_reaches runs side existing own held
  have bytes := (intact'.whole held').1
  have credit := (intact.whole held).2
  rw [Side.other_other] at returned bytes
  rw [bytes] at recvd
  rw [WindowExact, maxSize_of_reaches runs equal side existing own, credit, sent] at exact_
  rw [unread, returning]
  omega

/-- The window of a stream without a twin is its credit and what it has sent. -/
theorem conserved_of_alone (runs : RunsAt id builder conn) {window : Nat}
    (equal : ∀ side, (builder side).window = window) (calm : conn.Undisturbed)
    (existing : key < (conn side).hub.nextKey) (own : ((conn side).hub.ends key).id = id)
    (held : ((conn side).hub.ends key).dropped = false)
    (alone : ∀ key', ¬ conn.Twins side key' key) :
    ((conn side).hub.ends key).stream.window.size + conn.unhandled side key = window := by
  have receipt := receipt_of_reaches runs side existing own (Or.inr ⟨alone, rfl⟩)
  have recvd := List.sublist_nil.mp receipt.sublist
  have sent := (sent_of_calm runs calm side existing own held).1
  have exact_ := windowExact_of_reaches runs side existing own held
  rw [handled_of_alone runs existing alone] at sent
  rw [WindowExact, maxSize_of_reaches runs equal side existing own, recvd, sent] at exact_
  have queue : ((conn side).hub.ends key).stream.fin.queue = [] := by
    obtain ⟨taken, left, frames⟩ := (linked_of_reaches runs side).lawful.readHistory key
    have both := frames.recvd.symm.trans recvd
    rw [frames.queue held]
    exact (List.append_eq_nil_iff.mp both).2
  rw [queue, List.length_nil, credits_nil] at exact_
  omega

/-- The credit of a sender, the bytes on their way to the reader and the increments on
their way back are one window, until a stream of the two is dropped or the sessions are
disturbed.  No frame of the peer is ever too long for the window of its handle. -/
structure FlowControlled (conn : Connection) (window : Nat) (id : StreamID) (side : Side) :
    Prop where
  conserved : conn.Undisturbed → ∀ key key', conn.Twins side key' key →
    ((conn side).hub.ends key).id = id → ((conn side).hub.ends key).dropped = false →
    ((conn side.other).hub.ends key').dropped = false →
      ((conn side).hub.ends key).stream.window.size + conn.unhandled side key +
        conn.unread side.other key' + conn.returning side key' key = window
  /-- The peer has not created its end yet. -/
  opening : conn.Undisturbed → ∀ key < (conn side).hub.nextKey,
    (∀ key', ¬ conn.Twins side key' key) → ((conn side).hub.ends key).id = id →
    ((conn side).hub.ends key).dropped = false →
      ((conn side).hub.ends key).stream.window.size + conn.unhandled side key = window
  full : conn.Undisturbed → ∀ key key', conn.Twins side key' key →
    ((conn side).hub.ends key).id = id → ((conn side).hub.ends key).dropped = false →
    ((conn side.other).hub.ends key').dropped = false →
    conn.unhandled side key = 0 → conn.unread side.other key' = 0 →
    conn.returning side key' key = 0 →
      ((conn side).hub.ends key).stream.window.size = window
  respected : ∀ sending, (conn side).hub.sending = some sending →
    sending.frame.header.streamId = id →
      ((conn side).hub.pollSendToStream sending).1 ≠ .ready (.error .flowControl)

/-- Flow control between two sessions with one window size, for either side of every
stream with an id that is not opened again while it is live. -/
theorem flowControlled (runs : RunsAt id builder conn) {window : Nat}
    (equal : ∀ side, (builder side).window = window) (side : Side) :
    conn.FlowControlled window id side where
  conserved := by
    intro calm key key' twins own held held'
    exact conserved_of_twins runs equal calm twins own held held'
  opening := by
    intro calm key existing alone own held
    exact conserved_of_alone runs equal calm existing own held alone
  full := by
    intro calm key key' twins own held held' handled read returned
    have all := conserved_of_twins runs equal calm twins own held held'
    omega
  respected := by
    intro sending current own
    exact respected_of_reaches runs equal side current own

theorem flowControlled_threeBytes :
    (run Connection.step (Connection.new fourBytes) threeBytes).FlowControlled 4
      (Constrained.clamp 3) .client :=
  flowControlled (runs_threeBytes.at _) (fun _ => rfl) .client

-- the client has one byte of credit left, and the increment for three is with the server
example : let conn := run Connection.step (Connection.new fourBytes) threeBytes
    ((conn .client).hub.ends 0).id = Constrained.clamp 3 ∧
      ((conn .client).hub.ends 0).stream.window.size = 1 ∧ conn.unhandled .client 0 = 0 ∧
        conn.unread .server 0 = 0 ∧ conn.returning .client 0 0 = 3 := by
  decide +kernel

end Connection

end Muxado

end NgrokRust
