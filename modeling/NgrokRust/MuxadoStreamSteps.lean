import NgrokRust.MuxadoStreamManager

/-!
# What can happen to one stream end

Every operation on the hub acts on each stream end by a few elementary changes:
a frame or the closed channel is taken in, bytes are returned with or without a
window increment, data or the final frame is sent, and the manager's side
delivers, emits and closes.  `Change` lists them with the conditions under which
the code makes them, and `Hub.step_changes` shows that it makes no others.  Facts
about a single stream are then proved by cases on `Change` alone.
-/

namespace NgrokRust

namespace Muxado

open LabelledRuns

namespace SinkCloser

theorem checkClosed_eq_ok_iff (closer : SinkCloser) :
    closer.checkClosed = .ok () ↔ closer.code = 0 := by
  unfold checkClosed
  split <;> simp_all

theorem checkClosed_of_code_ne_zero {closer : SinkCloser} (closed : closer.code ≠ 0) :
    closer.checkClosed = .error (Error.ofErrorCode (Constrained.mask closer.code)) :=
  if_pos closed

theorem closeWith_of_code_ne_zero {closer : SinkCloser} (closed : closer.code ≠ 0)
    (error : Error) : closer.closeWith error = closer :=
  if_neg closed

theorem closeWith_code_of_code_eq_zero {closer : SinkCloser} (isOpen : closer.code = 0)
    (error : Error) : (closer.closeWith error).code = error.toU32 := by
  simp [closeWith, isOpen, ErrorCode.ofError_val]

theorem checkClosed_closeWith {closer : SinkCloser} (isOpen : closer.code = 0) {error : Error}
    (nonzero : error ≠ .none) : (closer.closeWith error).checkClosed = .error error := by
  have code := closeWith_code_of_code_eq_zero isOpen error
  have closed : (closer.closeWith error).code ≠ 0 := by
    rw [code]
    exact fun zero => nonzero ((Error.toU32_eq_zero_iff error).mp zero)
  rw [checkClosed_of_code_ne_zero closed, code]
  simp [← ErrorCode.ofError_val]

end SinkCloser

namespace StreamSender

/-- The outcomes of `poll_ready`. -/
inductive PollReadySpec (sender : StreamSender) :
    Poll (Except Error Unit) × StreamSender → Prop where
  | closed (error : Error) (closed : sender.closer.checkClosed = .error error) :
      PollReadySpec sender (.ready (.error error), sender)
  | waiting (code : sender.closer.code = 0) (isOpen : sender.sink.isOpen = true)
      (full : sender.sink.pollReady = .pending) :
      PollReadySpec sender (.pending, sender)
  | ready (code : sender.closer.code = 0)
      (room : sender.sink.pollReady = .ready (.ok ())) :
      PollReadySpec sender (.ready (.ok ()), sender)
  | disconnected (code : sender.closer.code = 0) (closed : sender.sink.isOpen = false) :
      PollReadySpec sender (.ready (.error .sessionClosed), sender.sessionClosed)

theorem pollReady_spec (sender : StreamSender) : PollReadySpec sender sender.pollReady := by
  unfold pollReady
  cases check : sender.closer.checkClosed with
  | error error => exact .closed error check
  | ok _ =>
      have code := (SinkCloser.checkClosed_eq_ok_iff _).mp check
      cases isOpen : sender.sink.isOpen with
      | false =>
          have polled : sender.sink.pollReady = .ready (.error .disconnected) := by
            simp [Channel.pollReady, isOpen]
          simp only [polled]
          exact .disconnected code isOpen
      | true =>
          by_cases room : sender.sink.queue.length ≤ sender.sink.buffer
          · have polled : sender.sink.pollReady = .ready (.ok ()) := by
              simp [Channel.pollReady, isOpen, room]
            simp only [polled]
            exact .ready code polled
          · have polled : sender.sink.pollReady = .pending := by
              simp [Channel.pollReady, isOpen, room]
            simp only [polled]
            exact .waiting code isOpen polled

/-- Nothing comes between `poll_ready` and `start_send` in one poll. -/
theorem startSend_of_room {sender : StreamSender} (code : sender.closer.code = 0)
    (room : sender.sink.pollReady = .ready (.ok ())) (item : Frame) :
    sender.startSend item = (.ok (), { sender with sink := sender.sink.push item }) := by
  simp [startSend, (SinkCloser.checkClosed_eq_ok_iff _).mpr code,
    Channel.startSend_of_pollReady item room]

/-- `poll_flush` changes nothing: a disconnected receiver counts as flushed. -/
theorem pollFlush_eq (sender : StreamSender) :
    sender.pollFlush.2 = sender ∧
      ∀ error, sender.pollFlush.1 = .ready (.error error) →
        sender.closer.checkClosed = .error error := by
  unfold pollFlush
  cases check : sender.closer.checkClosed with
  | error error => simp
  | ok _ =>
      have flushes : sender.sink.pollFlush = .pending ∨
          sender.sink.pollFlush = .ready (.ok ()) := by
        unfold Channel.pollFlush
        split
        · split <;> simp
        · simp
      rcases flushes with flushed | flushed <;> simp [flushed]

end StreamSender

namespace Stream

/-- Take a frame from the channel into the buffer or the window. -/
def ingest (stream : Stream) (frame : Frame) (rest : List Frame) : Stream :=
  { stream with
    fin := { stream.fin with queue := rest }
    readBuf := stream.readBuf ++ frame.payload
    window := stream.window.inc frame.credit
    dataReadClosed := stream.dataReadClosed || frame.isFin }

end Stream

namespace StreamEnd

/-- Who changes a stream end: the application that holds it, or the manager. -/
inductive Actor where
  | application
  | manager

/-- An elementary change of a stream end. -/
inductive Change : Actor → StreamEnd → StreamEnd → Prop where
  /-- Wakers are stored, taken or called. -/
  | rewake {target : StreamEnd} (readWaker writeWaker recvTask : Option Waker)
      (wakes : List Waker) :
      Change .application target { target with
        stream := { target.stream with
          readWaker := readWaker
          writeWaker := writeWaker
          wakes := wakes
          fin := { target.stream.fin with recvTask := recvTask } } }
  | ingest {target : StreamEnd} (frame : Frame) (rest : List Frame)
      (held : target.dropped = false) (queue : target.stream.fin.queue = frame :: rest)
      (kind : frame.Deliverable) :
      Change .application target { target with stream := target.stream.ingest frame rest }
  | seeClosed {target : StreamEnd}
      (held : target.dropped = false) (queue : target.stream.fin.queue = [])
      (closed : target.stream.fin.isOpen = false) :
      Change .application target { target with stream := { target.stream with dataReadClosed := true } }
  /-- Bytes are returned and acknowledged with a window increment. -/
  | takeAcked {target : StreamEnd} (by' : WndInc)
      (held : target.dropped = false) (pos : 0 < by'.val)
      (le : by'.val ≤ target.stream.readBuf.length)
      (code : target.stream.fout.closer.code = 0)
      (isOpen : target.stream.fout.sink.isOpen = true) :
      Change .application target { target with
        stream := { target.stream with
          readBuf := target.stream.readBuf.drop by'.val
          fout := { target.stream.fout with
            sink := target.stream.fout.sink.push (Frame.ofBody (.wndInc by')) } }
        returned := target.returned ++ target.stream.readBuf.take by'.val }
  /-- Bytes are returned, but nobody can take the increment any more. -/
  | takeUnacked {target : StreamEnd} (count : Nat)
      (held : target.dropped = false)
      (gone : target.stream.fout.closer.code ≠ 0) :
      Change .application target { target with
        stream := { target.stream with readBuf := target.stream.readBuf.drop count }
        returned := target.returned ++ target.stream.readBuf.take count }
  /-- The sink finds its channel disconnected. -/
  | disconnect {target : StreamEnd}
      (held : target.dropped = false) (closed : target.stream.fout.sink.isOpen = false) :
      Change .application target (target.closeWith .sessionClosed)
  | failWrite {target : StreamEnd} (error : Error)
      (held : target.dropped = false)
      (closed : target.stream.fout.closer.checkClosed = .error error) :
      Change .application target { target with
        stream := { target.stream with writeClosed := some error } }
  | write {target : StreamEnd} (buf : List UInt8) (count : Nat)
      (held : target.dropped = false)
      (writable : target.stream.writeClosed = none)
      (code : target.stream.fout.closer.code = 0)
      (isOpen : target.stream.fout.sink.isOpen = true)
      (credit : count ≤ target.stream.window.size) (le : count ≤ buf.length)
      (fits : count ≤ lengthMax) :
      Change .application target { target with
        stream := { target.stream with
          needsSyn := false
          window := (target.stream.window.dec count).1
          fout := { target.stream.fout with
            sink := target.stream.fout.sink.push
              (if target.stream.needsSyn then (Frame.ofBody (.data (buf.take count))).syn
                else Frame.ofBody (.data (buf.take count))) } }
        accepted := target.accepted ++ buf.take count }
  | shutdown {target : StreamEnd}
      (held : target.dropped = false)
      (writable : target.stream.writeClosed = none)
      (code : target.stream.fout.closer.code = 0)
      (isOpen : target.stream.fout.sink.isOpen = true) :
      Change .application target { target with
        stream := { target.stream with
          writeClosed := some .streamClosed
          fout := { target.stream.fout with
            sink := target.stream.fout.sink.push Stream.finFrame } } }
  | drop {target : StreamEnd} (held : target.dropped = false) :
      Change .application target { target with stream := target.stream.drop, dropped := true }
  /-- The manager puts a frame on the channel to the stream. -/
  | receive {target : StreamEnd} (frame : Frame) (kind : frame.Deliverable)
      (isOpen : target.stream.fin.isOpen = true) :
      Change .manager target (target.receive (target.stream.fin.push frame) frame)
  | closeFin {target : StreamEnd} : Change .manager target target.closeFin
  /-- The manager closes the writer with an error. -/
  | closeWith {target : StreamEnd} (error : Error) : Change .manager target (target.closeWith error)
  /-- The manager takes a frame of the stream and yields it. -/
  | emit {target : StreamEnd} (frame : Frame) (rest : List Frame) (id : StreamID)
      (queue : target.stream.fout.sink.queue = frame :: rest) :
      Change .manager target { target with
        stream := { target.stream with
          fout := { target.stream.fout with
            sink := { target.stream.fout.sink with queue := rest } } }
        sent := target.sent ++ [frame.withStreamId id] }
  /-- The manager finds the drained channel of a dropped stream and ends it. -/
  | emitFin {target : StreamEnd} (id : StreamID)
      (alive : target.stream.fout.sink.receiverAlive = true)
      (queue : target.stream.fout.sink.queue = [])
      (closed : target.stream.fout.sink.isOpen = false) :
      Change .manager target { target with
        stream := { target.stream with
          fout := { target.stream.fout with sink := target.stream.fout.sink.dropReceiver } }
        sent := target.sent ++ [Stream.finFrame.withStreamId id] }
  /-- The manager drops its receiver and the frames in it. -/
  | dropReceiver {target : StreamEnd} : Change .manager target target.dropReceiver

abbrev Changes (actor : Actor) : StreamEnd → StreamEnd → Prop :=
  Relation.ReflTransGen (Change actor)

theorem Changes.keep {actor : Actor} {Law : StreamEnd → Prop}
    (kept : ∀ {before after}, Change actor before after → Law before → Law after)
    {before after : StreamEnd} (changes : Changes actor before after) (law : Law before) :
    Law after := by
  induction changes with
  | refl => exact law
  | tail _ change ih => exact kept change ih

theorem Changes.application_keeps {before after : StreamEnd}
    (changes : Changes .application before after) :
    after.id = before.id ∧ after.opener = before.opener ∧ after.sent = before.sent ∧
      after.recvd = before.recvd ∧
      after.stream.fout.sink.receiverAlive = before.stream.fout.sink.receiverAlive := by
  induction changes with
  | refl => exact ⟨rfl, rfl, rfl, rfl, rfl⟩
  | tail _ change ih => cases change <;> exact ih

theorem Changes.manager_keeps {before after : StreamEnd}
    (changes : Changes .manager before after) :
    after.id = before.id ∧ after.opener = before.opener ∧ after.dropped = before.dropped ∧
      after.accepted = before.accepted ∧ after.returned = before.returned := by
  induction changes with
  | refl => exact ⟨rfl, rfl, rfl, rfl, rfl⟩
  | tail _ change ih => cases change <;> exact ih

theorem changes_rewake (target : StreamEnd) (readWaker writeWaker recvTask : Option Waker)
    (wakes : List Waker) :
    Changes .application target { target with
      stream := { target.stream with
        readWaker := readWaker
        writeWaker := writeWaker
        wakes := wakes
        fin := { target.stream.fin with recvTask := recvTask } } } :=
  .single (.rewake readWaker writeWaker recvTask wakes)

end StreamEnd

namespace Stream

theorem pollSendWndinc_readBuf (stream : Stream) (by' : WndInc) :
    (stream.pollSendWndinc by').2.readBuf = stream.readBuf := by
  unfold pollSendWndinc
  split <;> rfl

/-- A frame is either taken in, or it is one that a stream never receives. -/
theorem handleFrame_eq_ok {stream stream' : Stream} {frame : Frame} {rest : List Frame}
    {cx : Option Waker} {typ : HeaderType}
    (handled : { stream with fin := { stream.fin with queue := rest } }.handleFrame frame cx =
      .ok (typ, stream')) :
    typ = frame.header.typ ∧
      frame.Deliverable ∧
      ∃ readWaker writeWaker wakes,
        stream' = { stream.ingest frame rest with
          readWaker := readWaker, writeWaker := writeWaker, wakes := wakes } := by
  unfold handleFrame at handled
  cases body : frame.body with
  | data bytes =>
      simp only [body, Except.ok.injEq, Prod.mk.injEq] at handled
      obtain ⟨rfl, rfl⟩ := handled
      refine ⟨rfl, Or.inl ⟨bytes, body⟩, none, stream.writeWaker,
        stream.wakes ++ maybeWake cx stream.readWaker, ?_⟩
      cases fin : frame.isFin <;>
        simp [ingest, maybeWakeRead, Frame.payload, Frame.credit, Body.payload, Body.credit,
          body, fin, Window.inc]
  | wndInc by' =>
      simp only [body, Except.ok.injEq, Prod.mk.injEq] at handled
      obtain ⟨rfl, rfl⟩ := handled
      refine ⟨rfl, Or.inr ⟨by', body⟩, stream.readWaker, none,
        stream.wakes ++ maybeWake cx stream.writeWaker, ?_⟩
      cases fin : frame.isFin <;>
        simp [ingest, maybeWakeWrite, Frame.payload, Frame.credit, Body.payload, Body.credit,
          body, fin]
  | rst error => simp [body] at handled
  | goAway lastStreamId error message => simp [body] at handled
  | invalid error bytes => simp [body] at handled

end Stream

namespace StreamEnd

variable {cx : Waker} {typ : HeaderType} {remaining : Nat} {buf : List UInt8}

theorem changes_recvFrames {frames : List Frame} {target : StreamEnd} {polled : Poll Unit}
    {stream' : Stream} (held : target.dropped = false)
    (queue : target.stream.fin.queue = frames)
    (received : Stream.recvFrames cx typ frames target.stream = .ok (polled, stream')) :
    Changes .application target { target with stream := stream' } := by
  induction frames generalizing target with
  | nil =>
      unfold Stream.recvFrames Stream.pollRecvFrame at received
      cases isOpen : target.stream.fin.isOpen with
      | true =>
          simp only [Channel.pollNext_of_waiting queue isOpen, Except.ok.injEq,
            Prod.mk.injEq] at received
          obtain ⟨-, rfl⟩ := received
          exact changes_rewake target target.stream.readWaker target.stream.writeWaker (some cx)
            target.stream.wakes
      | false =>
          simp only [Channel.pollNext_of_drained queue isOpen, Except.ok.injEq,
            Prod.mk.injEq] at received
          obtain ⟨-, rfl⟩ := received
          exact .single (.seeClosed held queue isOpen)
  | cons frame rest ih =>
      unfold Stream.recvFrames at received
      cases handled : ({ target.stream with
          fin := { target.stream.fin with queue := rest } }.handleFrame frame (some cx)) with
      | error panic => simp [handled, bind, Except.bind] at received
      | ok outcome =>
          obtain ⟨frameTyp, taken⟩ := outcome
          obtain ⟨-, kind, readWaker, writeWaker, wakes, takenEq⟩ :=
            Stream.handleFrame_eq_ok handled
          have ingested : Changes .application target { target with stream := taken } := by
            rw [takenEq]
            exact (Relation.ReflTransGen.single (.ingest frame rest held queue kind)).trans
              (changes_rewake { target with stream := target.stream.ingest frame rest }
                readWaker writeWaker target.stream.fin.recvTask wakes)
          have takenQueue : taken.fin.queue = rest := by
            rw [takenEq]
            rfl
          simp only [handled, bind, Except.bind] at received
          split at received
          · simp only [pure, Except.pure, Except.ok.injEq, Prod.mk.injEq] at received
            obtain ⟨-, rfl⟩ := received
            exact ingested
          · exact ingested.trans (@ih { target with stream := taken } held takenQueue received)

theorem changes_pollRecvFrameType (target : StreamEnd) {polled : Poll Unit} {stream' : Stream}
    (held : target.dropped = false)
    (received : target.stream.pollRecvFrameType cx typ = .ok (polled, stream')) :
    Changes .application target { target with stream := stream' } :=
  changes_recvFrames held rfl received

theorem changes_sessionClosed {target : StreamEnd} (held : target.dropped = false)
    (closed : target.stream.fout.sink.isOpen = false) :
    Changes .application target { target with
      stream := { target.stream with fout := target.stream.fout.sessionClosed } } :=
  .single (.disconnect held closed)

variable (remaining) in
theorem changes_readBuffered {target : StreamEnd} (held : target.dropped = false) :
    Changes .application target { target with
      stream := (target.stream.readBuffered remaining).2
      returned := target.returned ++ bytesRead (target.stream.readBuffered remaining).1 } := by
  unfold Stream.readBuffered
  split
  · simpa [bytesRead] using Relation.ReflTransGen.refl
  · rename_i nonempty
    simp only
    split
    · rename_i pos
      generalize byEq : (Constrained.clamp (asU32 (min target.stream.readBuf.length remaining)) :
        WndInc) = by' at pos
      have le : by'.val ≤ target.stream.readBuf.length := by
        rw [← byEq, Constrained.clamp_val, asU32]
        have := Nat.mod_le (min target.stream.readBuf.length remaining) (2 ^ 32)
        omega
      unfold Stream.pollSendWndinc
      have spec := target.stream.fout.pollReady_spec
      generalize target.stream.fout.pollReady = outcome at spec
      cases spec with
      | closed error closed =>
          have code : target.stream.fout.closer.code ≠ 0 := by
            intro zero
            rw [(SinkCloser.checkClosed_eq_ok_iff _).mpr zero] at closed
            cases closed
          exact .single (.takeUnacked by'.val held code)
      | waiting code isOpen full => simpa [bytesRead] using Relation.ReflTransGen.refl
      | ready code room =>
          simp only [StreamSender.startSend_of_room code room]
          exact .single (.takeAcked by' held pos le code
            (Channel.isOpen_of_pollReady room))
      | disconnected code closed =>
          have closedCode : target.stream.fout.sessionClosed.closer.code ≠ 0 := by
            simp [StreamSender.sessionClosed, SinkCloser.closeWith_code_of_code_eq_zero code,
              Error.toU32]
          exact (changes_sessionClosed held closed).trans
            (.single (.takeUnacked by'.val held closedCode))
    · simpa [bytesRead] using Relation.ReflTransGen.refl

theorem changes_readLoop {rounds : Nat} {target : StreamEnd}
    {polled : Poll (Except IoError (List UInt8))} {stream' : Stream}
    (held : target.dropped = false)
    (read : Stream.readLoop cx remaining rounds target.stream = .ok (polled, stream')) :
    Changes .application target { target with
      stream := stream', returned := target.returned ++ bytesRead polled } := by
  induction rounds generalizing target with
  | zero =>
      unfold Stream.readLoop at read
      split at read
      · have buffered := changes_readBuffered remaining held
        rw [Except.ok.inj read] at buffered
        exact buffered
      · simp only [Except.ok.injEq, Prod.mk.injEq] at read
        obtain ⟨rfl, rfl⟩ := read
        simpa [bytesRead] using Relation.ReflTransGen.refl
  | succ rounds ih =>
      unfold Stream.readLoop at read
      split at read
      · have buffered := changes_readBuffered remaining held
        rw [Except.ok.inj read] at buffered
        exact buffered
      · cases received : ({ target.stream with readWaker := some cx }.pollRecvData cx) with
        | error panic => simp [received, bind, Except.bind] at read
        | ok outcome =>
            obtain ⟨polledData, taken⟩ := outcome
            have before := changes_rewake target (some cx) target.stream.writeWaker
              target.stream.fin.recvTask target.stream.wakes
            have arrives : Changes .application target { target with stream := taken } :=
              before.trans (changes_pollRecvFrameType { target with
                stream := { target.stream with readWaker := some cx } } held received)
            simp only [received, bind, Except.bind] at read
            cases polledData with
            | pending =>
                simp only [pure, Except.pure, Except.ok.injEq, Prod.mk.injEq] at read
                obtain ⟨rfl, rfl⟩ := read
                simpa [bytesRead] using arrives
            | ready _ =>
                exact arrives.trans (@ih { target with stream := taken } held read)

theorem changes_pollRead {target : StreamEnd} {polled : Poll (Except IoError (List UInt8))}
    {stream' : Stream} (held : target.dropped = false)
    (read : target.stream.pollRead cx remaining = .ok (polled, stream')) :
    Changes .application target { target with
      stream := stream', returned := target.returned ++ bytesRead polled } :=
  changes_readLoop held read

private theorem changes_closedErr (target : StreamEnd) (held : target.dropped = false)
    {error : Error} (closed : target.stream.fout.closer.checkClosed = .error error) :
    Changes .application target { target with stream := (target.stream.closedErr error).2 } :=
  .single (.failWrite error held closed)

private theorem changes_disconnected {target : StreamEnd} (held : target.dropped = false)
    (code : target.stream.fout.closer.code = 0)
    (closed : target.stream.fout.sink.isOpen = false) :
    Changes .application target { target with
      stream := ({ target.stream with fout := target.stream.fout.sessionClosed }.closedErr
        .sessionClosed).2 } :=
  (changes_sessionClosed held closed).trans
    (changes_closedErr { target with
      stream := { target.stream with fout := target.stream.fout.sessionClosed } } held
      (SinkCloser.checkClosed_closeWith code (by decide)))

theorem changes_writeFrame (buf : List UInt8) (target : StreamEnd) (held : target.dropped = false)
    (writable : target.stream.writeClosed = none) :
    Changes .application target { target with
      stream := (target.stream.writeFrame buf).2
      accepted := target.accepted ++ bytesWritten buf (target.stream.writeFrame buf).1 } := by
  unfold Stream.writeFrame
  have spec := target.stream.fout.pollReady_spec
  generalize target.stream.fout.pollReady = outcome at spec
  cases spec with
  | closed error closed => simpa [bytesWritten] using changes_closedErr target held closed
  | waiting code isOpen full => simpa [bytesWritten] using Relation.ReflTransGen.refl
  | disconnected code closed => simpa [bytesWritten] using changes_disconnected held code closed
  | ready code room =>
      simp only [StreamSender.startSend_of_room code room]
      refine .single (.write buf _ held writable code (Channel.isOpen_of_pollReady room)
        (min_le_left _ _) ?_ ?_)
      · rw [Constrained.clamp_val, asU32]
        have := Nat.mod_le buf.length (2 ^ 32)
        omega
      · exact (min_le_right _ _).trans (Constrained.val_le _)

/-- Taking in frames does not touch the write half. -/
theorem recvFrames_writeClosed {frames : List Frame} {stream stream' : Stream}
    {polled : Poll Unit}
    (received : Stream.recvFrames cx typ frames stream = .ok (polled, stream')) :
    stream'.writeClosed = stream.writeClosed ∧ stream'.fout = stream.fout ∧
      stream'.needsSyn = stream.needsSyn := by
  induction frames generalizing stream with
  | nil =>
      unfold Stream.recvFrames Stream.pollRecvFrame at received
      generalize stream.fin.pollNext cx = outcome at received
      obtain ⟨result, fin⟩ := outcome
      cases result <;> simp only [Except.ok.injEq, Prod.mk.injEq] at received <;>
        obtain ⟨-, rfl⟩ := received <;> exact ⟨rfl, rfl, rfl⟩
  | cons frame rest ih =>
      unfold Stream.recvFrames at received
      cases handled : ({ stream with
          fin := { stream.fin with queue := rest } }.handleFrame frame (some cx)) with
      | error panic => simp [handled, bind, Except.bind] at received
      | ok outcome =>
          obtain ⟨frameTyp, taken⟩ := outcome
          obtain ⟨-, -, readWaker, writeWaker, wakes, rfl⟩ := Stream.handleFrame_eq_ok handled
          simp only [handled, bind, Except.bind] at received
          split at received
          · simp only [pure, Except.pure, Except.ok.injEq, Prod.mk.injEq] at received
            obtain ⟨-, rfl⟩ := received
            exact ⟨rfl, rfl, rfl⟩
          · exact @ih { stream.ingest frame rest with
              readWaker := readWaker, writeWaker := writeWaker, wakes := wakes } received

theorem changes_pollWrite {target : StreamEnd} {polled : Poll (Except IoError Nat)}
    {stream' : Stream} (held : target.dropped = false)
    (written : target.stream.pollWrite cx buf = .ok (polled, stream')) :
    Changes .application target { target with
      stream := stream', accepted := target.accepted ++ bytesWritten buf polled } := by
  unfold Stream.pollWrite at written
  split at written
  · simp only [Except.ok.injEq, Prod.mk.injEq] at written
    obtain ⟨rfl, rfl⟩ := written
    simpa [bytesWritten] using Relation.ReflTransGen.refl
  · rename_i writable
    split at written
    · cases received : ({ target.stream with writeWaker := some cx }.pollRecvWndinc cx) with
      | error panic => simp [received, bind, Except.bind] at written
      | ok outcome =>
          obtain ⟨polledWndinc, taken⟩ := outcome
          have before := changes_rewake target target.stream.readWaker (some cx)
            target.stream.fin.recvTask target.stream.wakes
          have arrives : Changes .application target { target with stream := taken } :=
            before.trans (changes_pollRecvFrameType { target with
              stream := { target.stream with writeWaker := some cx } } held received)
          have stillWritable : taken.writeClosed = none :=
            (recvFrames_writeClosed received).1.trans writable
          simp only [received, bind, Except.bind] at written
          cases polledWndinc with
          | pending =>
              simp only [pure, Except.pure, Except.ok.injEq, Prod.mk.injEq] at written
              obtain ⟨rfl, rfl⟩ := written
              simpa [bytesWritten] using arrives
          | ready _ =>
              simp only [pure, Except.pure, Except.ok.injEq] at written
              have writes := changes_writeFrame buf { target with stream := taken } held
                stillWritable
              rw [written] at writes
              exact arrives.trans writes
    · have writes := changes_writeFrame buf target held writable
      rw [Except.ok.inj written] at writes
      exact writes

theorem changes_pollFlush (target : StreamEnd) (held : target.dropped = false) :
    Changes .application target { target with stream := target.stream.pollFlush.2 } := by
  unfold Stream.pollFlush
  obtain ⟨unchanged, reports⟩ := target.stream.fout.pollFlush_eq
  generalize target.stream.fout.pollFlush = outcome at unchanged reports
  obtain ⟨result, fout⟩ := outcome
  obtain rfl : fout = target.stream.fout := unchanged
  match result with
  | .pending => exact .refl
  | .ready (.ok ()) => exact .refl
  | .ready (.error error) => exact changes_closedErr target held (reports error rfl)

theorem changes_pollShutdown {target : StreamEnd} (held : target.dropped = false) :
    Changes .application target { target with stream := target.stream.pollShutdown.2 } := by
  unfold Stream.pollShutdown
  split
  · exact changes_pollFlush target held
  · rename_i writable
    have spec := target.stream.fout.pollReady_spec
    generalize target.stream.fout.pollReady = outcome at spec
    cases spec with
    | closed error closed => exact changes_closedErr target held closed
    | waiting code isOpen full => exact .refl
    | disconnected code closed => exact changes_disconnected held code closed
    | ready code room =>
        simp only [StreamSender.startSend_of_room code room]
        have finished : Changes .application target _ :=
          .single (.shutdown held writable code (Channel.isOpen_of_pollReady room))
        exact finished.trans (changes_pollFlush { target with
          stream := { target.stream with
            writeClosed := some .streamClosed
            fout := { target.stream.fout with
              sink := target.stream.fout.sink.push Stream.finFrame } } } held)

end StreamEnd

end Muxado

end NgrokRust
