import NgrokRust.MuxadoStreamHistory

/-!
# Streams that were reset

A received reset, or the end of the session, only stores an error code that the
write half looks at.  The first theorem of this module says when that keeps the
application from waiting; the second says when every later write fails with that
error and the manager yields no more data.  The code does neither for a reset
with code zero, whose error code is the one of an open stream, nor for a reader
or a writer without credit that waits on the incoming channel.
-/

namespace NgrokRust

namespace Muxado

open LabelledRuns

namespace Stream

variable {stream stream' : Stream} {frames : List Frame} {cx : Waker} {typ : HeaderType}

theorem exists_handleFrame {frame : Frame} (kind : frame.Deliverable) (stream : Stream)
    (cx : Option Waker) : ∃ outcome, stream.handleFrame frame cx = .ok outcome := by
  unfold handleFrame
  rcases kind with ⟨bytes, body⟩ | ⟨by', body⟩ <;> simp [body]

/-- Polling for a frame does not panic, and it does not wait if the channel is
closed or holds a frame of the target type.  It leaves the later frames of the
channel, fewer than before unless it has seen the channel closed. -/
theorem exists_recvFrames (stream : Stream) (cx : Waker) (typ : HeaderType)
    (queue : stream.fin.queue = frames)
    (kinds : ∀ frame ∈ frames, frame.Deliverable) :
    ∃ polled stream', recvFrames cx typ frames stream = .ok (polled, stream') ∧
      (stream.fin.isOpen = false ∨ (∃ frame ∈ frames, frame.header.typ = typ) →
        polled = .ready ()) ∧
      stream'.fin.isOpen = stream.fin.isOpen ∧ stream'.fin.queue <:+ frames ∧
      (polled = .ready () → stream'.dataReadClosed = true ∨
        stream'.fin.queue.length < frames.length) := by
  induction frames generalizing stream with
  | nil =>
      unfold recvFrames pollRecvFrame
      cases isOpen : stream.fin.isOpen with
      | true =>
          rw [Channel.pollNext_of_waiting queue isOpen]
          refine ⟨_, _, rfl, ?_, isOpen, by simp [queue], ?_⟩
          · simp
          · intro ready
            cases ready
      | false =>
          rw [Channel.pollNext_of_drained queue isOpen]
          exact ⟨_, _, rfl, fun _ => rfl, isOpen, by simp [queue], fun _ => Or.inl rfl⟩
  | cons frame rest ih =>
      obtain ⟨⟨frameTyp, taken⟩, handled⟩ := exists_handleFrame (kinds frame (by simp))
        { stream with fin := { stream.fin with queue := rest } } (some cx)
      obtain ⟨rfl, -, readWaker, writeWaker, wakes, takenEq⟩ := handleFrame_eq_ok handled
      have takenQueue : taken.fin.queue = rest := by rw [takenEq]; rfl
      have takenOpen : taken.fin.isOpen = stream.fin.isOpen := by rw [takenEq]; rfl
      unfold recvFrames
      simp only [handled, bind, Except.bind]
      by_cases target : frame.header.typ = typ
      · rw [if_pos target]
        refine ⟨_, _, rfl, fun _ => rfl, takenOpen, ?_, fun _ => Or.inr ?_⟩
        · rw [takenQueue]
          exact List.suffix_cons frame rest
        · rw [takenQueue]
          exact Nat.lt_succ_self _
      · rw [if_neg target]
        obtain ⟨polled, last, received, waits, isOpen, suffix, fewer⟩ :=
          ih taken takenQueue fun other member => kinds other (List.mem_cons_of_mem frame member)
        refine ⟨polled, last, received, fun reason => waits ?_, isOpen.trans takenOpen,
          suffix.trans (List.suffix_cons frame rest), fun ready => ?_⟩
        · rw [takenOpen]
          refine reason.imp_right ?_
          rintro ⟨other, member, isTarget⟩
          rcases List.mem_cons.mp member with rfl | later
          · exact absurd isTarget target
          · exact ⟨other, later, isTarget⟩
        · exact (fewer ready).imp_right fun lt => lt.trans (Nat.lt_succ_self _)

/-- A read that has bytes, or knows the end of the stream, does not wait for a closed
sink. -/
theorem exists_readBuffered (stream : Stream) (closed : stream.fout.closer.code ≠ 0)
    (remaining : Nat) :
    ∃ result stream', stream.readBuffered remaining = (.ready result, stream') := by
  unfold readBuffered pollSendWndinc StreamSender.pollReady
  rw [SinkCloser.checkClosed_of_code_ne_zero closed]
  split
  · exact ⟨_, _, rfl⟩
  · simp only
    split
    · exact ⟨_, _, rfl⟩
    · exact ⟨_, _, rfl⟩

/-- On a closed channel a read comes to an end. -/
theorem exists_readLoop {rounds remaining : Nat}
    (kinds : ∀ frame ∈ stream.fin.queue, frame.Deliverable)
    (enough : stream.fin.queue.length < rounds) (shut : stream.fin.isOpen = false)
    (closed : stream.fout.closer.code ≠ 0) :
    ∃ result stream', readLoop cx remaining rounds stream = .ok (.ready result, stream') := by
  induction rounds generalizing stream with
  | zero => exact absurd enough (Nat.not_lt_zero _)
  | succ rounds ih =>
      unfold readLoop
      by_cases buffered : (!stream.readBuf.isEmpty || stream.dataReadClosed) = true
      · rw [if_pos buffered]
        obtain ⟨result, stream', read⟩ := exists_readBuffered stream closed remaining
        exact ⟨result, stream', by rw [read]⟩
      · rw [if_neg buffered]
        obtain ⟨polled, taken, received, waits, isOpen, suffix, fewer⟩ :=
          exists_recvFrames { stream with readWaker := some cx } cx .data rfl kinds
        obtain rfl := waits (Or.inl shut)
        obtain ⟨-, fout, -⟩ := StreamEnd.recvFrames_writeClosed received
        simp only [pollRecvData, pollRecvFrameType, received, bind, Except.bind]
        rcases fewer rfl with seen | fewer
        · -- the closed channel ends the loop in the next round
          unfold readLoop
          rw [if_pos (by simp [seen])]
          obtain ⟨result, stream', read⟩ :=
            exists_readBuffered taken (by rw [fout]; exact closed) remaining
          exact ⟨result, stream', by rw [read]⟩
        · refine ih (fun frame member => kinds frame (suffix.mem member)) ?_
            (isOpen.trans shut) (by rw [fout]; exact closed)
          exact Nat.lt_of_lt_of_le fewer (Nat.le_of_lt_succ enough)

/-- A read comes to an end if the end of the stream is known or the channel is
closed. -/
theorem exists_pollRead (kinds : ∀ frame ∈ stream.fin.queue, frame.Deliverable)
    (ends : stream.dataReadClosed = true ∨ stream.fin.isOpen = false)
    (closed : stream.fout.closer.code ≠ 0) (cx : Waker) (remaining : Nat) :
    ∃ result stream', stream.pollRead cx remaining = .ok (.ready result, stream') := by
  rcases ends with seen | shut
  · obtain ⟨result, stream', read⟩ := exists_readBuffered stream closed remaining
    refine ⟨result, stream', ?_⟩
    rw [pollRead, readLoop, if_pos (by simp [seen]), read]
  · exact exists_readLoop kinds (Nat.lt_succ_self _) shut closed

/-- The stream can reach its sink: there is credit, or nothing to wait for. -/
def Writable (stream : Stream) : Prop :=
  stream.writeClosed ≠ none ∨ 0 < stream.window.size ∨ stream.fin.isOpen = false ∨
    0 < stream.window.maxSize ∧
      ∃ frame ∈ stream.fin.queue, frame.header.typ = .wndInc ∧ 0 < frame.credit

/-- A write with a closed sink reports an error, and the recorded one if there is
one. -/
theorem exists_pollWrite {first : Error}
    (kinds : ∀ frame ∈ stream.fin.queue, frame.Deliverable) (writable : stream.Writable)
    (closed : stream.fout.closer.checkClosed = .error first) (cx : Waker) (buf : List UInt8) :
    ∃ kind stream', stream.pollWrite cx buf =
      .ok (.ready (.error ⟨kind, stream.writeClosed.getD first⟩), stream') := by
  have fails (other : Stream) (fout : other.fout = stream.fout) :
      ∃ kind stream', other.writeFrame buf = (.ready (.error ⟨kind, first⟩), stream') := by
    unfold writeFrame StreamSender.pollReady
    rw [fout, closed]
    exact ⟨_, _, rfl⟩
  unfold pollWrite
  split
  · rename_i code recorded
    exact ⟨.brokenPipe, stream, by rw [recorded, Option.getD_some]⟩
  · rename_i unset
    have reported : stream.writeClosed.getD first = first := by rw [unset, Option.getD_none]
    rw [reported]
    by_cases empty : stream.window.capacity = 0
    · rw [if_pos empty]
      obtain ⟨polled, taken, received, waits, -⟩ := exists_recvFrames
        { stream with writeWaker := some cx } cx .wndInc rfl kinds
      have ready : polled = .ready () := by
        refine waits ?_
        rcases writable with written | credit | shut | ⟨-, frame, member, typ, -⟩
        · exact absurd unset written
        · rw [Window.capacity] at empty
          omega
        · exact Or.inl shut
        · exact Or.inr ⟨frame, member, typ⟩
      subst ready
      obtain ⟨-, fout, -⟩ := StreamEnd.recvFrames_writeClosed received
      obtain ⟨kind, stream', failed⟩ := fails taken fout
      simp only [pollRecvWndinc, pollRecvFrameType, received, bind, Except.bind]
      exact ⟨kind, stream', by rw [failed]; rfl⟩
    · rw [if_neg empty]
      obtain ⟨kind, stream', failed⟩ := fails stream rfl
      exact ⟨kind, stream', by rw [failed]⟩

end Stream

/-- What has come to stay once a writer is closed while it could reach its sink. -/
structure WriterClosed (first : Error) (target : StreamEnd) : Prop where
  closed : target.stream.fout.closer.checkClosed = .error first
  writable : target.stream.Writable

/-- Moreover the write half has recorded no other error. -/
structure WriterReports (first : Error) (target : StreamEnd) : Prop
    extends WriterClosed first target where
  recorded : target.stream.writeClosed = none ∨ target.stream.writeClosed = some first

namespace SinkCloser

theorem code_ne_zero_of_checkClosed {closer : SinkCloser} {error : Error}
    (closed : closer.checkClosed = .error error) : closer.code ≠ 0 := by
  intro zero
  rw [(checkClosed_eq_ok_iff _).mpr zero] at closed
  cases closed

end SinkCloser

/-- A stream takes only frames that it can handle. -/
theorem deliverable_change {actor : StreamEnd.Actor} {before after : StreamEnd}
    (change : StreamEnd.Change actor before after)
    (law : ∀ frame ∈ before.stream.fin.queue, frame.Deliverable) :
    ∀ frame ∈ after.stream.fin.queue, frame.Deliverable := by
  cases change with
  | ingest frame rest held queue kind =>
      exact fun other member => law other (by rw [queue]; exact List.mem_cons_of_mem frame member)
  | drop held => intro frame member; cases member
  | receive frame kind isOpen =>
      intro other member
      rcases List.mem_append.mp member with old | new
      · exact law other old
      · obtain rfl := List.mem_singleton.mp new
        exact kind
  | _ => exact law

namespace WriterClosed

variable {first : Error}

/-- A closed writer stays closed with its first error. -/
theorem change {actor : StreamEnd.Actor} {before after : StreamEnd}
    (change : StreamEnd.Change actor before after) (law : WriterClosed first before) :
    WriterClosed first after := by
  have closed := SinkCloser.code_ne_zero_of_checkClosed law.closed
  cases change with
  | ingest frame rest held queue kind =>
      refine { law with writable := ?_ }
      have size := Window.inc_size before.stream.window frame.credit
      rcases law.writable with written | credit | shut | ⟨room, other, member, typ, pos⟩
      · exact Or.inl written
      · refine Or.inr (Or.inl ?_)
        have := before.stream.window.size_le
        simp only [Stream.ingest, size]
        omega
      · exact Or.inr (Or.inr (Or.inl shut))
      · rw [queue] at member
        rcases List.mem_cons.mp member with rfl | later
        · refine Or.inr (Or.inl ?_)
          simp only [Stream.ingest, size]
          omega
        · refine Or.inr (Or.inr (Or.inr ⟨?_, other, later, typ, pos⟩))
          simpa only [Stream.ingest, Window.inc_maxSize] using room
  | takeAcked _ _ _ _ code _ => exact absurd code closed
  | write _ _ _ _ code _ _ _ _ => exact absurd code closed
  | shutdown _ _ code _ => exact absurd code closed
  | disconnect _ _ =>
      simp only [StreamEnd.closeWith, SinkCloser.closeWith_of_code_ne_zero closed]
      exact { law with }
  | closeWith error =>
      simp only [StreamEnd.closeWith, SinkCloser.closeWith_of_code_ne_zero closed]
      exact { law with }
  | failWrite error held failed =>
      exact { law with writable := Or.inl (Option.some_ne_none error) }
  | drop held => exact { law with writable := Or.inr (Or.inr (Or.inl rfl)) }
  | closeFin => exact { law with writable := Or.inr (Or.inr (Or.inl rfl)) }
  | receive frame kind isOpen =>
      refine { law with writable := ?_ }
      refine law.writable.imp_right (Or.imp_right (Or.imp_right ?_))
      rintro ⟨room, other, member, typ, pos⟩
      exact ⟨room, other, List.mem_append_left _ member, typ, pos⟩
  | takeUnacked _ _ _ => exact { law with }
  | seeClosed _ _ _ => exact { law with }
  | rewake _ _ _ _ => exact { law with }
  | emit _ _ _ _ => exact { law with }
  | emitFin _ _ _ _ => exact { law with }
  | dropReceiver => exact { law with }

end WriterClosed

namespace WriterReports

variable {first : Error}

theorem change {actor : StreamEnd.Actor} {before after : StreamEnd}
    (change : StreamEnd.Change actor before after) (law : WriterReports first before) :
    WriterReports first after := by
  refine { law.toWriterClosed.change change with recorded := ?_ }
  cases change with
  | failWrite error held failed =>
      exact Or.inr (congrArg some (Except.error.inj (failed.symm.trans law.closed)))
  | shutdown _ _ code _ =>
      exact absurd code (SinkCloser.code_ne_zero_of_checkClosed law.closed)
  | _ => exact law.recorded

theorem pollWrite {target : StreamEnd} (law : WriterReports first target)
    (kinds : ∀ frame ∈ target.stream.fin.queue, frame.Deliverable) (cx : Waker)
    (buf : List UInt8) :
    ∃ kind stream', target.stream.pollWrite cx buf =
      .ok (.ready (.error ⟨kind, first⟩), stream') := by
  obtain ⟨kind, stream', failed⟩ := Stream.exists_pollWrite kinds law.writable law.closed cx buf
  refine ⟨kind, stream', failed.trans ?_⟩
  rcases law.recorded with unset | set
  · rw [unset, Option.getD_none]
  · rw [set, Option.getD_some]

end WriterReports

/-- Among the first `count` frames received there is a final one, or the incoming
channel is closed. -/
structure EofKnown (count : Nat) (target : StreamEnd) : Prop where
  received : count ≤ target.recvd.length
  known : (∃ frame ∈ target.recvd.take count, frame.isFin = true) ∨
    target.stream.fin.isOpen = false

theorem EofKnown.change {count : Nat} {actor : StreamEnd.Actor} {before after : StreamEnd}
    (change : StreamEnd.Change actor before after) (law : EofKnown count before) :
    EofKnown count after := by
  cases change with
  | receive frame kind isOpen =>
      have same : (before.recvd ++ [frame]).take count = before.recvd.take count :=
        List.take_append_of_le_length law.received
      refine ⟨law.received.trans ?_, ?_⟩
      · simp [StreamEnd.receive]
      · simp only [StreamEnd.receive, same]
        exact law.known
  | closeFin => exact { law with known := Or.inr rfl }
  | drop _ => exact { law with known := Or.inr rfl }
  | _ => exact { law with }

/-- Once those frames are consumed, the stream knows its end or its channel is
closed. -/
theorem EofKnown.ends {count : Nat} {target : StreamEnd} (law : EofKnown count target)
    (history : ReadHistory target) (held : target.dropped = false)
    (consumed : count + target.stream.fin.queue.length ≤ target.recvd.length) :
    target.stream.dataReadClosed = true ∨ target.stream.fin.isOpen = false := by
  obtain ⟨taken, left, split⟩ := history
  refine law.known.imp_left ?_
  rintro ⟨frame, member, isFin⟩
  refine split.closed_of_fin frame ?_ isFin
  rw [split.queue held, split.recvd, List.length_append] at consumed
  rw [split.recvd, List.take_append_of_le_length (by omega)] at member
  exact List.mem_of_mem_take member

namespace Hub

/-- Neither a read nor a write of the stream waits once its first `count` frames are
consumed, and a write fails. -/
def NeverWaits (hub : Hub) (key : StreamKey) (count : Nat) : Prop :=
  hub.held key = true →
    count + (hub.ends key).stream.fin.queue.length ≤ (hub.ends key).recvd.length →
    (∀ cx remaining, ∃ result stream',
      (hub.ends key).stream.pollRead cx remaining = .ok (.ready result, stream')) ∧
    ∀ cx buf, ∃ error stream',
      (hub.ends key).stream.pollWrite cx buf = .ok (.ready (.error error), stream')

theorem pollSendToStream_rst {hub : Hub} {sending : Sending} {handle : StreamHandle}
    {error : Error} (typ : sending.frame.header.typ = .rst)
    (body : sending.frame.body = .rst error)
    (registered : hub.getStream sending.frame.header.streamId = some handle) :
    (hub.pollSendToStream sending).2 =
      hub.afterSend sending.frame.header.streamId handle.stream
        { handle with dataWriteClosed := true, needsFin := false }
        ((hub.ends handle.stream).closeWith error) none := by
  have notData : sending.resets = false := by simp [Sending.resets, typ]
  simp [pollSendToStream, registered, deliver, typ, body, notData, afterSend]

/-- After a reset with an error, a stream that knows its end and can reach its sink
never waits again. -/
theorem neverWaits_of_rst {streamLimit : Nat} {client : Bool} {hub later : Hub}
    (reaches : Reaches Hub.step anyLabel (Hub.new streamLimit client) hub)
    {sending : Sending} (current : hub.sending = some sending) {error : Error}
    (typ : sending.frame.header.typ = .rst) (body : sending.frame.body = .rst error)
    (nonzero : error ≠ .none) {handle : StreamHandle}
    (registered : hub.getStream sending.frame.header.streamId = some handle)
    (ends : (∃ frame ∈ (hub.ends handle.stream).recvd, frame.isFin = true) ∨
      (hub.ends handle.stream).stream.fin.isOpen = false)
    (writable : (hub.ends handle.stream).stream.Writable)
    (runs : Reaches Hub.step anyLabel (hub.step .pollSendToStream) later) :
    later.NeverWaits handle.stream (hub.ends handle.stream).recvd.length := by
  have addressed := Addressed.of_reaches reaches
  have existing := (addressed.handle _ _ registered).1
  have after : hub.step .pollSendToStream = hub.afterSend sending.frame.header.streamId
      handle.stream { handle with dataWriteClosed := true, needsFin := false }
      ((hub.ends handle.stream).closeWith error) none := by
    simp only [Hub.step, current]
    exact pollSendToStream_rst typ body registered
  have all : Reaches Hub.step anyLabel (Hub.new streamLimit client) later :=
    (reaches.tail ⟨.pollSendToStream, trivial, rfl⟩).trans runs
  have endAfter : (hub.step .pollSendToStream).ends handle.stream =
      (hub.ends handle.stream).closeWith error := by
    simp [after, afterSend]
  have addressedAfter := addressed.step .pollSendToStream
  have existingAfter := existing.trans_le (hub.step_nextKey_le .pollSendToStream)
  intro held consumed
  have notDropped := dropped_of_held held
  have kinds := ends_invariant
    (fun target => ∀ frame ∈ target.stream.fin.queue, frame.Deliverable)
    (by simp [StreamEnd.create, Stream.new]) deliverable_change all
    handle.stream
  -- the reset leaves a closed writer, and what was received stays received
  obtain ⟨first, closed⟩ : ∃ first, WriterClosed first
      ((hub.step .pollSendToStream).ends handle.stream) := by
    rw [endAfter]
    by_cases isOpen : (hub.ends handle.stream).stream.fout.closer.code = 0
    · exact ⟨error, SinkCloser.checkClosed_closeWith isOpen nonzero, writable⟩
    · have same : (hub.ends handle.stream).closeWith error = hub.ends handle.stream := by
        simp only [StreamEnd.closeWith, SinkCloser.closeWith_of_code_ne_zero isOpen]
      rw [same]
      exact ⟨_, SinkCloser.checkClosed_of_code_ne_zero isOpen, writable⟩
  have known : EofKnown (hub.ends handle.stream).recvd.length
      ((hub.step .pollSendToStream).ends handle.stream) := by
    rw [endAfter]
    exact ⟨le_rfl, by simpa [StreamEnd.closeWith] using ends⟩
  have closed := later_end WriterClosed.change addressedAfter existingAfter runs closed
  have known := later_end EofKnown.change addressedAfter existingAfter runs known
  have history := ends_invariant ReadHistory ReadHistory.create ReadHistory.change all handle.stream
  refine ⟨fun cx remaining => ?_, fun cx buf => ?_⟩
  · exact Stream.exists_pollRead kinds (known.ends history notDropped consumed)
      (SinkCloser.code_ne_zero_of_checkClosed closed.closed) cx remaining
  · obtain ⟨kind, stream', failed⟩ := Stream.exists_pollWrite kinds closed.writable
      closed.closed cx buf
    exact ⟨_, stream', failed⟩

/-- A stream that has received the final frame of the remote, and a reset is next. -/
def resetAfterFin : Hub :=
  run Hub.step (Hub.new 4 true)
    [.createStream (some (Constrained.clamp 2)) 8 false,
      .sendToStream (Stream.finFrame.withStreamId (Constrained.clamp 2)), .pollSendToStream,
      .sendToStream (Frame.rst (Constrained.clamp 2) .streamCancelled)]

theorem neverWaits_of_rst_resetAfterFin :
    (resetAfterFin.step .pollSendToStream).NeverWaits 0 1 := by
  have received : (resetAfterFin.ends 0).recvd =
      [Stream.finFrame.withStreamId (Constrained.clamp 2)] := by decide
  have reaches : Reaches Hub.step anyLabel (Hub.new 4 true) resetAfterFin :=
    reaches_run_anyLabel _ _
  have current : resetAfterFin.sending =
      some (Sending.new (Frame.rst (Constrained.clamp 2) .streamCancelled) rfl) := rfl
  have registered : resetAfterFin.getStream (Constrained.clamp 2) =
      some ⟨0, true, false, 8⟩ := rfl
  have never := neverWaits_of_rst reaches current rfl rfl (by decide) registered
    (Or.inl ⟨_, by rw [received]; exact List.mem_singleton.mpr rfl, rfl⟩)
    (Or.inr (Or.inl (by decide))) .refl
  rwa [received] at never

/-- A reader of a reset stream waits for a channel that nobody closes. -/
theorem not_neverWaits_reader :
    ¬ (run Hub.step (Hub.new 4 true)
      [.createStream (some (Constrained.clamp 2)) 8 false,
        .sendToStream (Frame.rst (Constrained.clamp 2) .streamCancelled),
        .pollSendToStream]).NeverWaits 0 0 := by
  intro never
  obtain ⟨result, stream', read⟩ := (never rfl (by decide)).1 0 1
  have waits : ∃ stream', ((run Hub.step (Hub.new 4 true)
      [.createStream (some (Constrained.clamp 2)) 8 false,
        .sendToStream (Frame.rst (Constrained.clamp 2) .streamCancelled),
        .pollSendToStream]).ends 0).stream.pollRead 0 1 = .ok (.pending, stream') := ⟨_, rfl⟩
  obtain ⟨waiting, waits⟩ := waits
  rw [waits] at read
  cases read

end Hub

theorem closer_change {actor : StreamEnd.Actor} {before after : StreamEnd}
    (change : StreamEnd.Change actor before after)
    (closed : before.stream.fout.closer.code ≠ 0) : after.stream.fout.closer.code ≠ 0 := by
  cases change with
  | disconnect _ _ =>
      simpa only [StreamEnd.closeWith, SinkCloser.closeWith_of_code_ne_zero closed] using closed
  | closeWith error =>
      simpa only [StreamEnd.closeWith, SinkCloser.closeWith_of_code_ne_zero closed] using closed
  | _ => exact closed

namespace Hub

/-- The operation does not register a stream under the id, unless the session has
ended anyway. -/
def keepsId (id : StreamID) (hub : Hub) : HubOp → Prop
  | .createStream remote _ _ => hub.manager.goneAway = true ∨ hub.chosenId remote ≠ id
  | _ => True

def Muted (id : StreamID) (hub : Hub) : Prop :=
  hub.manager.goneAway = true ∨ ∀ handle, hub.getStream id = some handle →
    handle.needsFin = false ∧ (hub.ends handle.stream).stream.fout.closer.code ≠ 0

namespace Muted

variable {hub : Hub} {id : StreamID}

theorem step (muted : hub.Muted id) (addressed : hub.Addressed) {op : HubOp}
    (keeps : hub.keepsId id op) : (hub.step op).Muted id := by
  rcases muted with gone | muted
  · exact Or.inl (step_goneAway gone op)
  · by_cases gone : hub.manager.goneAway = true
    · exact Or.inl (step_goneAway gone op)
    · refine Or.inr fun handle' found' => ?_
      rcases step_handle found' with ⟨handle, found, kept⟩ | ⟨remote, window, needsSyn, rfl, own, -⟩
      · obtain ⟨noFin, closed⟩ := muted handle found
        obtain ⟨actor, changes⟩ := step_changes addressed op (addressed.handle id handle found).1
        rw [kept.stream]
        exact ⟨kept.needsFin noFin, changes.keep closer_change closed⟩
      · exact absurd own (keeps.resolve_left gone)

theorem later {later : Hub} (muted : hub.Muted id) (addressed : hub.Addressed)
    (runs : Reaches Hub.step (keepsId id) hub later) : later.Muted id := by
  have both : later.Addressed ∧ later.Muted id :=
    runs.invariant (fun hub => hub.Addressed ∧ hub.Muted id)
      (fun _ op keeps both => ⟨both.1.step op, both.2.step both.1 keeps⟩) ⟨addressed, muted⟩
  exact both.2

/-- The frames that a muted id may still see are system frames. -/
theorem pollNext (muted : hub.Muted id) (system : hub.SystemFrames) {pick : Option Nat}
    {cx : Waker} {frame : Frame} {hub' : Hub}
    (polled : hub.pollNext pick cx = .ok (.ready (some frame), hub'))
    (own : frame.header.streamId = id) : ∃ shape : SystemFrame, frame = shape.toFrame := by
  have spec := hub.pollNext_spec pick cx
  rw [polled] at spec
  generalize outcomeEq : Except.ok (ε := Panic) (Poll.ready (some frame), hub') = outcome at spec
  cases spec with
  | goneAway _ => cases outcomeEq
  | waiting _ _ => cases outcomeEq
  | unknown _ _ _ _ _ _ => cases outcomeEq
  | system _ first rest queued =>
      obtain ⟨⟨rfl⟩, -⟩ := Prod.mk.inj (Except.ok.inj outcomeEq)
      obtain ⟨shape, is⟩ := system.queued first (by rw [queued]; exact List.mem_cons_self)
      exact SystemFrames.nextSystemFrame shape is
  | next alive _ index other key task item sink answer handle found polled hub'' spec =>
      exfalso
      obtain ⟨rfl, rfl⟩ := Prod.mk.inj (Except.ok.inj outcomeEq)
      -- a frame that is yielded bears the id of its task
      have same : frame.header.streamId = other := by cases spec <;> rfl
      obtain ⟨noFin, closed⟩ := (muted.resolve_left (by simp [alive])) handle (by
        rw [← own, same]; exact found)
      cases spec with
      | frame frame flows =>
          rcases flows with isOpen | needsFin
          · have kept : (((hub.storeWaker cx).popTask index key sink).ends
                handle.stream).stream.fout.closer =
                (hub.ends handle.stream).stream.fout.closer := by
              by_cases answered : handle.stream = key
              · subst answered
                simp [StreamEnd.setSink]
              · simp [Function.update_of_ne answered]
            simp only [StreamEnd.isClosed, SinkCloser.isClosed, kept] at isOpen
            simp [closed] at isOpen
          · rw [noFin] at needsFin
            cases needsFin
      | fin needsFin =>
          rw [noFin] at needsFin
          cases needsFin

end Muted

/-- The operation processes a reset of the stream, or a GOAWAY of the remote, with an
error. -/
inductive Carries (hub : Hub) (id : StreamID) (error : Error) : HubOp → Prop where
  | rst (sending : Sending) (current : hub.sending = some sending)
      (own : sending.frame.header.streamId = id) (typ : sending.frame.header.typ = .rst)
      (body : sending.frame.body = .rst error) : Carries hub id error .pollSendToStream
  | goAway : Carries hub id error (.goAway error)

/-- Every write of the stream fails with the error, and no data or window increment
leaves under its id. -/
structure ClosesWriter (hub : Hub) (id : StreamID) (key : StreamKey) (first : Error) : Prop where
  reports : hub.held key = true → ∀ cx buf, ∃ kind stream',
    (hub.ends key).stream.pollWrite cx buf = .ok (.ready (.error ⟨kind, first⟩), stream')
  silent : ∀ pick cx frame hub', hub.pollNext pick cx = .ok (.ready (some frame), hub') →
    frame.header.streamId = id → frame.header.typ ≠ .data ∧ frame.header.typ ≠ .wndInc

end Hub

/-- The error a sink reports once another one has been offered to it. -/
def StreamEnd.firstError (target : StreamEnd) (error : Error) : Error :=
  if target.stream.fout.closer.code = 0 then error
  else Error.ofErrorCode (Constrained.mask target.stream.fout.closer.code)

/-- The first error stays, and an open sink takes any but `Error::None`. -/
theorem checkClosed_firstError {target : StreamEnd} {error : Error}
    (nonzero : error ≠ .none ∨ target.stream.fout.closer.code ≠ 0) :
    (target.closeWith error).stream.fout.closer.checkClosed = .error (target.firstError error) := by
  unfold StreamEnd.firstError
  split
  · rename_i isOpen
    exact SinkCloser.checkClosed_closeWith isOpen (nonzero.resolve_right (not_not.mpr isOpen))
  · rename_i closed
    simp only [StreamEnd.closeWith, SinkCloser.closeWith_of_code_ne_zero closed]
    exact SinkCloser.checkClosed_of_code_ne_zero closed

namespace Hub

/-- What is left of a registered stream when an error for it has been processed. -/
theorem Carries.step {hub : Hub} {id : StreamID} {error : Error} {op : HubOp}
    (carries : hub.Carries id error op) {handle : StreamHandle}
    (found : hub.getStream id = some handle)
    (nonzero : error ≠ .none ∨ (hub.ends handle.stream).stream.fout.closer.code ≠ 0)
    (unshut : (hub.ends handle.stream).stream.writeClosed = none ∨
      (hub.ends handle.stream).stream.writeClosed =
        some ((hub.ends handle.stream).firstError error))
    (writable : op = .pollSendToStream → (hub.ends handle.stream).stream.Writable) :
    (hub.step op).Muted id ∧
      WriterReports ((hub.ends handle.stream).firstError error)
        ((hub.step op).ends handle.stream) := by
  have closed := checkClosed_firstError nonzero
  cases carries with
  | rst sending current own typ body =>
      subst own
      have after : hub.step .pollSendToStream = hub.afterSend sending.frame.header.streamId
          handle.stream { handle with dataWriteClosed := true, needsFin := false }
          ((hub.ends handle.stream).closeWith error) none := by
        simp only [Hub.step, current]
        exact pollSendToStream_rst typ body found
      rw [after]
      constructor
      · refine Or.inr fun handle' found' => ?_
        obtain rfl : _ = handle' := by
          simpa [getStream, afterSend, setHandle] using found'
        exact ⟨rfl, by simpa [afterSend] using SinkCloser.code_ne_zero_of_checkClosed closed⟩
      · simp only [afterSend, setEnd_ends, Function.update_self]
        exact ⟨⟨closed, writable rfl⟩, unshut⟩
  | goAway =>
      refine ⟨Or.inl rfl, ?_⟩
      have own : hub.registered handle.stream = true := by
        rw [registered, List.any_eq_true]
        exact ⟨⟨id, handle⟩,
          (List.mem_dlookup_iff hub.manager.streams.nodupKeys).mp found, by simp⟩
      simp only [Hub.step, Hub.goAway, own, if_true]
      exact ⟨⟨closed, Or.inr (Or.inr (Or.inl rfl))⟩, unshut⟩

/-- An error that is not `Error::None`, or that finds the sink closed already, closes
the writer for good: every later write fails with the first error and the manager
yields no more data under the id. -/
theorem closesWriter_of_carries {streamLimit : Nat} {client : Bool} {hub later : Hub}
    (reaches : Reaches Hub.step anyLabel (Hub.new streamLimit client) hub)
    {id : StreamID} {error : Error} {op : HubOp} (carries : hub.Carries id error op)
    {handle : StreamHandle} (found : hub.getStream id = some handle)
    (nonzero : error ≠ .none ∨ (hub.ends handle.stream).stream.fout.closer.code ≠ 0)
    (unshut : (hub.ends handle.stream).stream.writeClosed = none ∨
      (hub.ends handle.stream).stream.writeClosed =
        some ((hub.ends handle.stream).firstError error))
    (writable : op = .pollSendToStream → (hub.ends handle.stream).stream.Writable)
    (runs : Reaches Hub.step (keepsId id) (hub.step op) later) :
    later.ClosesWriter id handle.stream ((hub.ends handle.stream).firstError error) := by
  obtain ⟨muted, closed⟩ := carries.step found nonzero unshut writable
  have addressed := (Addressed.of_reaches reaches).step op
  have existing := ((Addressed.of_reaches reaches).handle id handle found).1.trans_le
    (hub.step_nextKey_le op)
  have all : Reaches Hub.step anyLabel (Hub.new streamLimit client) later :=
    (reaches.tail ⟨op, trivial, rfl⟩).trans (runs.mono fun _ _ _ => trivial)
  have kinds := ends_invariant
    (fun target => ∀ frame ∈ target.stream.fin.queue, frame.Deliverable)
    (by simp [StreamEnd.create, Stream.new]) deliverable_change all
    handle.stream
  constructor
  · intro _ cx buf
    exact (later_end WriterReports.change addressed existing runs closed).pollWrite kinds cx buf
  · intro pick cx frame hub' polled own
    obtain ⟨shape, rfl⟩ := (muted.later addressed runs).pollNext
      (SystemFrames.of_reaches all) polled own
    cases shape <;> constructor <;> intro typ <;> cases typ

/-- A stream of the remote that is reset by it. -/
theorem closesWriter_of_carries_rst :
    ((run Hub.step (Hub.new 4 true)
      [.createStream (some (Constrained.clamp 2)) 8 false,
        .sendToStream (Frame.rst (Constrained.clamp 2) .streamCancelled)]).step
          .pollSendToStream).ClosesWriter (Constrained.clamp 2) 0 .streamCancelled := by
  have registered : (run Hub.step (Hub.new 4 true)
      [.createStream (some (Constrained.clamp 2)) 8 false,
        .sendToStream (Frame.rst (Constrained.clamp 2) .streamCancelled)]).getStream
          (Constrained.clamp 2) = some ⟨0, true, false, 8⟩ := rfl
  exact closesWriter_of_carries (reaches_run_anyLabel (Hub.new 4 true) _)
    (.rst (Sending.new (Frame.rst (Constrained.clamp 2) .streamCancelled) rfl) rfl rfl rfl rfl)
    registered (Or.inl (by decide)) (Or.inl rfl) (fun _ => Or.inr (Or.inl (by decide))) .refl

/-- After a reset with code zero the stream goes on to take data. -/
theorem not_closesWriter_zero :
    ¬ ∃ first, ((run Hub.step (Hub.new 4 true)
      [.createStream (some (Constrained.clamp 2)) 8 false,
        .sendToStream (Frame.rst (Constrained.clamp 2) .none)]).step
          .pollSendToStream).ClosesWriter (Constrained.clamp 2) 0 first := by
  rintro ⟨first, closes⟩
  obtain ⟨kind, stream', failed⟩ := closes.reports rfl 0 [1]
  have written : ∃ stream', ((((run Hub.step (Hub.new 4 true)
      [.createStream (some (Constrained.clamp 2)) 8 false,
        .sendToStream (Frame.rst (Constrained.clamp 2) .none)]).step
          .pollSendToStream).ends 0).stream).pollWrite 0 [1] =
      .ok (.ready (.ok 1), stream') := ⟨_, rfl⟩
  obtain ⟨after, written⟩ := written
  rw [written] at failed
  cases failed

end Hub

end Muxado

end NgrokRust
