import NgrokRust.MuxadoReceiveWindow

/-!
# Room in the channels of streams

The channel of a stream has one place more than its window has bytes, and the window counts
bytes while the channel holds frames.  Frames with data take at least a byte each, so those
of a remote that keeps to the window always find a place.  Window increments, final frames
and other empty data frames take a place and no byte.  One of them fits into the place that is
left over; each further one needs a byte of the window that the remote leaves unused.
-/

namespace NgrokRust

namespace Muxado

open LabelledRuns

def freeFrames (frames : List Frame) : List Frame :=
  frames.filter fun frame => frame.payload.isEmpty

theorem length_le_freeFrames_add (frames : List Frame) :
    frames.length ≤ (freeFrames frames).length + (payloads frames).length := by
  induction frames with
  | nil => exact Nat.zero_le _
  | cons frame frames ih =>
      cases empty : frame.payload with
      | nil =>
          simp only [freeFrames, List.filter_cons, empty, List.isEmpty_nil, if_true,
            List.length_cons, payloads_cons, List.nil_append] at ih ⊢
          omega
      | cons byte bytes =>
          simp only [freeFrames, List.filter_cons, empty, List.isEmpty_cons, Bool.false_eq_true,
            if_false, List.length_cons, payloads_cons, List.length_append] at ih ⊢
          omega

/-- With a byte in each of them they take no more. -/
theorem length_eq_freeFrames_add {frames : List Frame}
    (single : ∀ frame ∈ frames, frame.payload.length ≤ 1) :
    frames.length = (freeFrames frames).length + (payloads frames).length := by
  induction frames with
  | nil => rfl
  | cons frame frames ih =>
      have rest := ih fun other mem => single other (List.mem_cons_of_mem _ mem)
      have small := single frame List.mem_cons_self
      cases empty : frame.payload with
      | nil =>
          simp only [freeFrames, List.filter_cons, empty, List.isEmpty_nil, if_true,
            List.length_cons, payloads_cons, List.nil_append] at rest ⊢
          omega
      | cons byte bytes =>
          rw [empty, List.length_cons] at small
          simp only [freeFrames, List.filter_cons, empty, List.isEmpty_cons, Bool.false_eq_true,
            if_false, List.length_cons, payloads_cons, List.length_append] at rest ⊢
          omega

namespace StreamEnd

/-- The remote keeps to the rules with its next frame: no data behind its end or beyond the
window and the increments that it was sent, and increments for bytes that it was sent. -/
structure Expects (target : StreamEnd) (frame : Frame) : Prop where
  unfinished : frame.header.typ = .data → ∀ earlier ∈ target.recvd, earlier.isFin = false
  window : (payloads (target.recvd ++ [frame])).length ≤
    target.stream.window.maxSize + credits target.sent
  acknowledges : frame.header.typ = .wndInc →
    0 < frame.credit ∧ credits (target.recvd ++ [frame]) ≤ (payloads target.sent).length

/-- Of the frames that wait for the application with this one, those that take no window are,
but for one, no more than the bytes that the others leave of it. -/
def LeavesRoom (target : StreamEnd) (frame : Frame) : Prop :=
  (freeFrames (target.stream.fin.queue ++ [frame])).length ≤
    1 + (target.stream.window.maxSize -
      (payloads (target.stream.fin.queue ++ [frame])).length)

instance (target : StreamEnd) (frame : Frame) : Decidable (target.Expects frame) :=
  decidable_of_iff
    ((frame.header.typ = .data → ∀ earlier ∈ target.recvd, earlier.isFin = false) ∧
      (payloads (target.recvd ++ [frame])).length ≤
        target.stream.window.maxSize + credits target.sent ∧
      (frame.header.typ = .wndInc →
        0 < frame.credit ∧ credits (target.recvd ++ [frame]) ≤ (payloads target.sent).length))
    ⟨fun ⟨unfinished, window, acknowledges⟩ => ⟨unfinished, window, acknowledges⟩,
      fun ⟨unfinished, window, acknowledges⟩ => ⟨unfinished, window, acknowledges⟩⟩

instance (target : StreamEnd) (frame : Frame) : Decidable (target.LeavesRoom frame) :=
  inferInstanceAs (Decidable (_ ≤ _))

theorem buffer_change {actor : Actor} {before after : StreamEnd}
    (change : Change actor before after)
    (law : before.stream.fin.buffer = before.stream.window.maxSize) :
    after.stream.fin.buffer = after.stream.window.maxSize := by
  cases change with
  | ingest frame rest _ _ _ => simpa only [Stream.ingest, Window.inc_maxSize] using law
  | write _ _ _ _ _ _ _ _ _ => simpa only [Window.dec_maxSize] using law
  | _ => exact law

/-- Of a stream that is not dropped no more waits than the window allows. -/
theorem waiting_le {target : StreamEnd} {frame : Frame} (history : ReadHistory target)
    (credit : CreditHistory target) (expects : target.Expects frame)
    (isOpen : target.stream.fin.isOpen = true) :
    (payloads (target.stream.fin.queue ++ [frame])).length ≤ target.stream.window.maxSize := by
  have counts := Hub.ReceiveLaw.credits_le credit history
  obtain ⟨taken, left, parts⟩ := history
  have held : target.dropped = false := by
    by_contra dropped
    rw [parts.gone (by simpa using dropped)] at isOpen
    cases isOpen
  have returned := congrArg List.length parts.bytes
  have window := expects.window
  rw [parts.recvd] at window
  rw [parts.queue held]
  simp only [payloads_append, List.length_append] at window returned ⊢
  omega

end StreamEnd

namespace Hub

variable {hub : Hub} {streamLimit : Nat} {client : Bool}

/-- The frame that `send_to_stream` works on, with the stream that it is for. -/
def inHand (hub : Hub) : Option (StreamEnd × Frame) :=
  hub.sending.bind fun sending =>
    (hub.getStream sending.frame.header.streamId).map fun handle =>
      (hub.ends handle.stream, sending.frame)

/-- The remote has sent no frame but those that its stream expects. -/
def remoteConforms (hub : Hub) (op : HubOp) : Prop :=
  op = .pollSendToStream → ∀ current ∈ hub.inHand, current.1.Expects current.2

def remoteLeavesRoom (hub : Hub) (op : HubOp) : Prop :=
  op = .pollSendToStream → ∀ current ∈ hub.inHand, current.1.LeavesRoom current.2

instance (hub : Hub) (op : HubOp) : Decidable (hub.remoteConforms op) :=
  inferInstanceAs (Decidable (_ → _))

instance (hub : Hub) (op : HubOp) : Decidable (hub.remoteLeavesRoom op) :=
  inferInstanceAs (Decidable (_ → _))

/-- In a run no poll of `send_to_stream` waits for room in the channel of a stream. -/
def NeverBlocks (hub : Hub) (ops : List HubOp) : Prop :=
  ∀ before after sending, ops = before ++ .pollSendToStream :: after →
    (run Hub.step hub before).sending = some sending →
      ((run Hub.step hub before).pollSendToStream sending).1 ≠ .pending

theorem buffer_of_reaches (reaches : Reaches Hub.step anyLabel (Hub.new streamLimit client) hub)
    (key : StreamKey) :
    (hub.ends key).stream.fin.buffer = (hub.ends key).stream.window.maxSize :=
  ends_invariant (fun target => target.stream.fin.buffer = target.stream.window.maxSize)
    (fun _ _ _ => rfl) StreamEnd.buffer_change reaches key

/-- Wherever the manager has got to, a frame that its stream expects finds room if it
leaves room. -/
theorem pollSendToStream_ne_pending
    (reaches : Reaches Hub.step anyLabel (Hub.new streamLimit client) hub) {sending : Sending}
    (current : hub.sending = some sending) (conforms : hub.remoteConforms .pollSendToStream)
    (leavesRoom : hub.remoteLeavesRoom .pollSendToStream) :
    (hub.pollSendToStream sending).1 ≠ .pending := by
  intro waits
  obtain ⟨handle, found, isOpen, full⟩ := full_of_pending waits
  have inHand : hub.inHand = some (hub.ends handle.stream, sending.frame) := by
    simp [Hub.inHand, current, found]
  have expects : (hub.ends handle.stream).Expects sending.frame := conforms rfl _ inHand
  have room : (hub.ends handle.stream).LeavesRoom sending.frame := leavesRoom rfl _ inHand
  have history := ends_invariant ReadHistory ReadHistory.create ReadHistory.change reaches
    handle.stream
  have credit := ends_invariant CreditHistory CreditHistory.create CreditHistory.change reaches
    handle.stream
  have bytes := StreamEnd.waiting_le history credit expects isOpen
  have places := length_le_freeFrames_add
    ((hub.ends handle.stream).stream.fin.queue ++ [sending.frame])
  have buffer := buffer_of_reaches reaches handle.stream
  unfold StreamEnd.LeavesRoom at room
  rw [List.length_append, List.length_singleton] at places
  omega

/-- Where every waiting frame has a byte at most, room is needed as well. -/
theorem pollSendToStream_eq_pending
    (reaches : Reaches Hub.step anyLabel (Hub.new streamLimit client) hub) {sending : Sending}
    {handle : StreamHandle} (found : hub.getStream sending.frame.header.streamId = some handle)
    (isOpen : (hub.ends handle.stream).stream.fin.isOpen = true)
    (accepts : ¬ (sending.frame.header.typ = .data ∧ handle.dataWriteClosed = true))
    (body : ∀ error, sending.frame.body ≠ .rst error)
    (fits : sending.shrinkWindow ≤ handle.window)
    (single : ∀ frame ∈ (hub.ends handle.stream).stream.fin.queue ++ [sending.frame],
      frame.payload.length ≤ 1)
    (crowded : ¬ (hub.ends handle.stream).LeavesRoom sending.frame) :
    (hub.pollSendToStream sending).1 = .pending := by
  refine pollSendToStream_of_full found isOpen accepts body fits ?_
  have places := length_eq_freeFrames_add single
  have buffer := buffer_of_reaches reaches handle.stream
  unfold StreamEnd.LeavesRoom at crowded
  rw [List.length_append, List.length_singleton] at places
  omega

/-- The read task never waits for the application in a run in which the remote keeps to the
rules and each of its frames leaves room. -/
theorem neverBlocks_of_leavesRoom {ops : List HubOp}
    (conforms : Admitted Hub.step remoteConforms (Hub.new streamLimit client) ops)
    (leavesRoom : Admitted Hub.step remoteLeavesRoom (Hub.new streamLimit client) ops) :
    NeverBlocks (Hub.new streamLimit client) ops := by
  intro before after sending split current
  exact pollSendToStream_ne_pending (reaches_run_anyLabel _ before) current
    (admitted_iff_forall.1 conforms before _ after split)
    (admitted_iff_forall.1 leavesRoom before _ after split)

/-- The remote sends two of three bytes and acknowledges the two that it gets one by one. -/
theorem neverBlocks_of_leavesRoom_increments :
    NeverBlocks (Hub.new 4 true)
      [.createStream (some (Constrained.clamp 2)) 3 false,
        .sendToStream ((Frame.ofBody (.data [1, 2])).syn.withStreamId (Constrained.clamp 2)),
        .pollSendToStream, .pollWrite 0 0 [8, 9], .pollNext (some 0) 0,
        .sendToStream ((Frame.ofBody (.wndInc (Constrained.clamp 1))).withStreamId
          (Constrained.clamp 2)), .pollSendToStream,
        .sendToStream ((Frame.ofBody (.wndInc (Constrained.clamp 1))).withStreamId
          (Constrained.clamp 2)), .pollSendToStream] :=
  neverBlocks_of_leavesRoom (by decide) (by decide)

/-- With a window of one, the remote sends a byte, acknowledges the byte that it was sent
and ends its side: the final frame does not fit, and the read task waits. -/
theorem not_neverBlocks_final :
    let ops : List HubOp :=
      [.createStream (some (Constrained.clamp 2)) 1 false,
        .sendToStream ((Frame.ofBody (.data [1])).syn.withStreamId (Constrained.clamp 2)),
        .pollSendToStream, .pollWrite 0 0 [9], .pollNext (some 0) 0,
        .sendToStream ((Frame.ofBody (.wndInc (Constrained.clamp 1))).withStreamId
          (Constrained.clamp 2)), .pollSendToStream,
        .sendToStream (Stream.finFrame.withStreamId (Constrained.clamp 2)), .pollSendToStream]
    Admitted Hub.step remoteConforms (Hub.new 4 true) ops ∧
      ¬ NeverBlocks (Hub.new 4 true) ops := by
  intro ops
  refine ⟨by decide, fun never => ?_⟩
  exact never (ops.take 8) [] (Sending.new (Stream.finFrame.withStreamId (Constrained.clamp 2)) rfl)
    rfl (by decide) (by decide)

end Hub

end Muxado

end NgrokRust
