import NgrokRust.BoundedChannel
import NgrokRust.MuxadoFrame

/-!
# Muxado streams

`muxado/src/stream.rs` with its window (`window.rs`) and its outgoing sink
(`stream_output.rs`).  A stream owns the receiving half of the channel `fin` and
the sending half of the channel `fout`; the other halves belong to the stream
manager.  The record below is the one home of both channels and of the atomic
error code, so the manager's side of them is a change to the same record.

Poll functions take the waker of their context and return the new stream.  The
wakers that the code calls are collected in `wakes`.
-/

namespace NgrokRust

namespace Muxado

/-- Send credit, which never exceeds its initial value. -/
@[ext]
structure Window where
  maxSize : Nat
  size : Nat
  size_le : size ≤ maxSize
deriving Repr

namespace Window

instance : DecidableEq Window := fun window other =>
  decidable_of_iff (window.maxSize = other.maxSize ∧ window.size = other.size) Window.ext_iff.symm

def new (capacity : Nat) : Window := ⟨capacity, capacity, le_rfl⟩

def inc (window : Window) (by' : Nat) : Window :=
  if by' = 0 then window
  else ⟨window.maxSize, min (window.size + by') window.maxSize, min_le_right _ _⟩

def capacity (window : Window) : Nat := window.size

def dec (window : Window) (by' : Nat) : Window × Nat :=
  let actual := min window.size by'
  (⟨window.maxSize, window.size - actual, (Nat.sub_le _ _).trans window.size_le⟩, actual)

@[simp] theorem new_size (capacity : Nat) : (new capacity).size = capacity := rfl
@[simp] theorem new_maxSize (capacity : Nat) : (new capacity).maxSize = capacity := rfl

@[simp]
theorem inc_maxSize (window : Window) (by' : Nat) : (window.inc by').maxSize = window.maxSize := by
  unfold inc
  split <;> rfl

theorem inc_size (window : Window) (by' : Nat) :
    (window.inc by').size = min (window.size + by') window.maxSize := by
  have := window.size_le
  unfold inc
  split <;> simp_all

@[simp]
theorem dec_maxSize (window : Window) (by' : Nat) :
    (window.dec by').1.maxSize = window.maxSize := rfl

theorem dec_size (window : Window) (by' : Nat) :
    (window.dec by').1.size = window.size - by' := by
  simp only [dec]
  omega

end Window

inductive ErrorKind where
  | brokenPipe
  | connectionReset
deriving DecidableEq, Repr

/-- An `io::Error` that wraps a muxado error. -/
structure IoError where
  kind : ErrorKind
  code : Error
deriving DecidableEq, Repr

/-- The atomic error code shared by a stream's sink and its manager. -/
structure SinkCloser where
  code : Nat
deriving DecidableEq, Repr

namespace SinkCloser

/-- Store the code of an error unless one is stored already: a compare-exchange
from zero. -/
def closeWith (closer : SinkCloser) (error : Error) : SinkCloser :=
  if closer.code = 0 then ⟨(ErrorCode.ofError error).val⟩ else closer

def checkClosed (closer : SinkCloser) : Except Error Unit :=
  if closer.code ≠ 0 then .error (Error.ofErrorCode (Constrained.mask closer.code))
  else .ok ()

def isClosed (closer : SinkCloser) : Bool := closer.code != 0

end SinkCloser

/-- The outgoing sink of a stream. -/
structure StreamSender where
  sink : Channel Frame
  closer : SinkCloser
deriving DecidableEq, Repr

namespace StreamSender

def wrap (sink : Channel Frame) : StreamSender := ⟨sink, ⟨0⟩⟩

def sessionClosed (sender : StreamSender) : StreamSender :=
  { sender with closer := sender.closer.closeWith .sessionClosed }

def pollReady (sender : StreamSender) : Poll (Except Error Unit) × StreamSender :=
  match sender.closer.checkClosed with
  | .error error => (.ready (.error error), sender)
  | .ok () =>
      match sender.sink.pollReady with
      | .pending => (.pending, sender)
      | .ready (.ok ()) => (.ready (.ok ()), sender)
      | .ready (.error _) => (.ready (.error .sessionClosed), sender.sessionClosed)

def startSend (sender : StreamSender) (item : Frame) : Except Error Unit × StreamSender :=
  match sender.closer.checkClosed with
  | .error error => (.error error, sender)
  | .ok () =>
      match sender.sink.startSend item with
      | .ok sink => (.ok (), { sender with sink := sink })
      | .error _ => (.error .sessionClosed, sender.sessionClosed)

def pollFlush (sender : StreamSender) : Poll (Except Error Unit) × StreamSender :=
  match sender.closer.checkClosed with
  | .error error => (.ready (.error error), sender)
  | .ok () =>
      match sender.sink.pollFlush with
      | .pending => (.pending, sender)
      | .ready (.ok ()) => (.ready (.ok ()), sender)
      | .ready (.error _) => (.ready (.error .sessionClosed), sender.sessionClosed)

end StreamSender

structure Stream where
  window : Window
  readBuf : List UInt8
  fin : Channel Frame
  fout : StreamSender
  readWaker : Option Waker
  writeWaker : Option Waker
  writeClosed : Option Error
  dataReadClosed : Bool
  needsSyn : Bool
  wakes : List Waker
deriving DecidableEq, Repr

/-- Which wakers `maybe_wake(me, other)` calls. -/
def maybeWake (me other : Option Waker) : List Waker :=
  match me, other with
  | some me, some other => if other ≠ me then [other] else []
  | none, some other => [other]
  | _, none => []

namespace Stream

def new (fout : StreamSender) (fin : Channel Frame) (windowSize : Nat) (needsSyn : Bool) :
    Stream where
  window := Window.new windowSize
  readBuf := []
  fin := fin
  fout := fout
  readWaker := none
  writeWaker := none
  writeClosed := none
  dataReadClosed := false
  needsSyn := needsSyn
  wakes := []

def pollRecvFrame (stream : Stream) (cx : Waker) : Poll (Option Frame) × Stream :=
  let (polled, fin) := stream.fin.pollNext cx
  (polled, { stream with fin := fin })

def maybeWakeRead (stream : Stream) (cx : Option Waker) : Stream :=
  { stream with readWaker := none, wakes := stream.wakes ++ maybeWake cx stream.readWaker }

def maybeWakeWrite (stream : Stream) (cx : Option Waker) : Stream :=
  { stream with writeWaker := none, wakes := stream.wakes ++ maybeWake cx stream.writeWaker }

def handleFrame (stream : Stream) (frame : Frame) (cx : Option Waker) :
    Except Panic (HeaderType × Stream) :=
  let stream := if frame.isFin then { stream with dataReadClosed := true } else stream
  match frame.body with
  | .data bytes =>
      .ok (frame.header.typ,
        { stream with readBuf := stream.readBuf ++ bytes }.maybeWakeRead cx)
  | .wndInc by' =>
      .ok (frame.header.typ,
        { stream with window := stream.window.inc by'.val }.maybeWakeWrite cx)
  | _ => .error .streamHandleFrame

/-- The loop of `poll_recv_frame_type` over the frames in the channel: the receiver
hands them out in order and then waits or reports the closed channel. -/
def recvFrames (cx : Waker) (targetTyp : HeaderType) :
    List Frame → Stream → Except Panic (Poll Unit × Stream)
  | [], stream =>
      match stream.pollRecvFrame cx with
      | (.pending, stream) => .ok (.pending, stream)
      | (.ready _, stream) => .ok (.ready (), { stream with dataReadClosed := true })
  | frame :: rest, stream => do
      let taken := { stream with fin := { stream.fin with queue := rest } }
      let (typ, stream) ← taken.handleFrame frame (some cx)
      if typ = targetTyp then return (.ready (), stream)
      else recvFrames cx targetTyp rest stream

/-- The `io::Result` inside is always `Ok(())`, so `ready ()` stands for it. -/
def pollRecvFrameType (stream : Stream) (cx : Waker) (targetTyp : HeaderType) :
    Except Panic (Poll Unit × Stream) :=
  recvFrames cx targetTyp stream.fin.queue stream

def pollRecvData (stream : Stream) (cx : Waker) : Except Panic (Poll Unit × Stream) :=
  stream.pollRecvFrameType cx .data

def pollRecvWndinc (stream : Stream) (cx : Waker) : Except Panic (Poll Unit × Stream) :=
  stream.pollRecvFrameType cx .wndInc

/-- A closed send channel counts as success. -/
def pollSendWndinc (stream : Stream) (by' : WndInc) : Poll Unit × Stream :=
  match stream.fout.pollReady with
  | (.pending, fout) => (.pending, { stream with fout := fout })
  | (.ready (.error _), fout) => (.ready (), { stream with fout := fout })
  | (.ready (.ok ()), fout) =>
      (.ready (), { stream with fout := (fout.startSend (Frame.ofBody (.wndInc by'))).2 })

def closedErr (stream : Stream) (code : Error) : IoError × Stream :=
  (⟨.connectionReset, code⟩, { stream with writeClosed := some code })

/-- One round of the loop of `poll_read` that does not need another frame: return
buffered bytes, or the end of the stream. `remaining` is the room in the output
buffer, and the result is what was put there. -/
def readBuffered (stream : Stream) (remaining : Nat) :
    Poll (Except IoError (List UInt8)) × Stream :=
  if stream.readBuf.isEmpty then (.ready (.ok []), stream)
  else
    let max := min stream.readBuf.length remaining
    let clamped : WndInc := Constrained.clamp (asU32 max)
    let n := clamped.val
    if n > 0 then
      match stream.pollSendWndinc clamped with
      | (.pending, stream) => (.pending, stream)
      | (.ready (), stream) =>
          (.ready (.ok (stream.readBuf.take n)),
            { stream with readBuf := stream.readBuf.drop n })
    else (.ready (.ok []), stream)

/-- The loop of `poll_read`. Every further round has taken a frame from the channel
or has seen it closed, so one round more than there are frames is enough. -/
def readLoop (cx : Waker) (remaining : Nat) :
    Nat → Stream → Except Panic (Poll (Except IoError (List UInt8)) × Stream)
  | rounds, stream =>
      if !stream.readBuf.isEmpty || stream.dataReadClosed then
        .ok (stream.readBuffered remaining)
      else
        match rounds with
        | 0 => .ok (.pending, stream)
        | rounds + 1 => do
            let (polled, stream) ← { stream with readWaker := some cx }.pollRecvData cx
            match polled with
            | .pending => return (.pending, stream)
            | .ready () => readLoop cx remaining rounds stream

def pollRead (stream : Stream) (cx : Waker) (remaining : Nat) :
    Except Panic (Poll (Except IoError (List UInt8)) × Stream) :=
  readLoop cx remaining (stream.fin.queue.length + 1) stream

/-- The second half of `poll_write`, once there may be window capacity. -/
def writeFrame (stream : Stream) (buf : List UInt8) :
    Poll (Except IoError Nat) × Stream :=
  match stream.fout.pollReady with
  | (.pending, fout) => (.pending, { stream with fout := fout })
  | (.ready (.error error), fout) =>
      let (error, stream) := { stream with fout := fout }.closedErr error
      (.ready (.error error), stream)
  | (.ready (.ok ()), fout) =>
      let maxLen : Length := Constrained.clamp (asU32 buf.length)
      let sendLen := min stream.window.capacity maxLen.val
      let frame := Frame.ofBody (.data (buf.take sendLen))
      let frame := if stream.needsSyn then frame.syn else frame
      let stream := { stream with needsSyn := false }
      match fout.startSend frame with
      | (.error error, fout) =>
          let (error, stream) := { stream with fout := fout }.closedErr error
          (.ready (.error error), stream)
      | (.ok (), fout) =>
          (.ready (.ok sendLen),
            { stream with fout := fout, window := (stream.window.dec sendLen).1 })

def pollWrite (stream : Stream) (cx : Waker) (buf : List UInt8) :
    Except Panic (Poll (Except IoError Nat) × Stream) :=
  match stream.writeClosed with
  | some code => .ok (.ready (.error ⟨.brokenPipe, code⟩), stream)
  | none =>
      if stream.window.capacity = 0 then do
        let (polled, stream) ← { stream with writeWaker := some cx }.pollRecvWndinc cx
        match polled with
        | .pending => return (.pending, stream)
        | .ready () => return stream.writeFrame buf
      else .ok (stream.writeFrame buf)

def pollFlush (stream : Stream) : Poll (Except IoError Unit) × Stream :=
  match stream.fout.pollFlush with
  | (.pending, fout) => (.pending, { stream with fout := fout })
  | (.ready (.ok ()), fout) => (.ready (.ok ()), { stream with fout := fout })
  | (.ready (.error error), fout) =>
      let (error, stream) := { stream with fout := fout }.closedErr error
      (.ready (.error error), stream)

def finFrame : Frame := (Frame.ofBody (.data [])).fin

def pollShutdown (stream : Stream) : Poll (Except IoError Unit) × Stream :=
  match stream.writeClosed with
  | some _ => stream.pollFlush
  | none =>
      match stream.fout.pollReady with
      | (.pending, fout) => (.pending, { stream with fout := fout })
      | (.ready (.error error), fout) =>
          let (error, stream) := { stream with fout := fout }.closedErr error
          (.ready (.error error), stream)
      | (.ready (.ok ()), fout) =>
          match fout.startSend finFrame with
          | (.error error, fout) =>
              let (error, stream) := { stream with fout := fout }.closedErr error
              (.ready (.error error), stream)
          | (.ok (), fout) =>
              { stream with fout := fout, writeClosed := some .streamClosed }.pollFlush

def drop (stream : Stream) : Stream :=
  { stream with
    fin := stream.fin.dropReceiver
    fout := { stream.fout with sink := stream.fout.sink.close } }

end Stream

end Muxado

end NgrokRust
