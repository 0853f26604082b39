import NgrokRust.MuxadoCodec
import NgrokRust.MuxadoStreamManager

/-!
# Sessions

`muxado/src/session.rs`: the read task, the write task and the two halves that the
application holds, around one stream manager.  A task is a program that stops at
every `await`, so the read task is a state machine over the points where it waits,
and any other step may come between two of its steps.  The steps are the labels of
`SessionOp`; one that is not enabled changes nothing.

The bytes of the link are two queues: `rx` holds what has arrived and is not decoded
yet, and `tx` what was written.  Sending on the system channel and on the channel of
open requests may take any time, so their bounds need no state of their own.

Two fields only record history: `handled` lists the frames that the read task has
passed on or answered, and `born` how many there were when an incoming stream was
created.
-/

namespace NgrokRust

namespace Muxado

/-- Where the read task waits. -/
inductive Reader where
  /-- For the next frame. -/
  | idle
  /-- For the manager, to create the stream of a SYN. -/
  | opening (frame : Frame)
  /-- For room in the accept queue. -/
  | accepting (frame : Frame) (key : StreamKey)
  /-- For the accept queue to be flushed. -/
  | flushing (frame : Frame)
  /-- Before the match on the frame type. -/
  | routing (frame : Frame)
  /-- In `send_to_stream`. -/
  | sending (frame : Frame)
  /-- For the manager, to set `data_write_closed`. -/
  | closing (streamId : StreamID)
  /-- For room in the system channel. -/
  | sysSending (frame : SystemFrame)
  /-- For the manager, to process a GOAWAY. -/
  | goingAway (error : Error)
  /-- After the loop, before `close_senders`. -/
  | leaving
  | exited
  | cancelled
  | panicked (panic : Panic)
deriving DecidableEq, Repr

namespace Reader

/-- The frame that the read task is working on. -/
def hand : Reader → Option Frame
  | opening frame => some frame
  | accepting frame _ => some frame
  | flushing frame => some frame
  | routing frame => some frame
  | sending frame => some frame
  | _ => none

/-- The accepted stream that the read task still owns. -/
def stream : Reader → Option StreamKey
  | accepting _ key => some key
  | _ => none

def ended : Reader → Bool
  | exited | cancelled | panicked _ => true
  | _ => false

end Reader

inductive Writer where
  | running
  | exited
  | cancelled
  | panicked (panic : Panic)
deriving DecidableEq, Repr

structure Session where
  hub : Hub
  window : Nat
  codec : FrameCodec
  rx : List UInt8
  tx : List UInt8
  acceptTx : Channel StreamKey
  lastStreamProcessed : StreamID
  reader : Reader
  writer : Writer
  terminated : Bool
  closing : Bool
  closed : Bool
  openReqs : Nat
  opened : List (Except Error StreamKey)
  handled : List Frame
  born : StreamKey → Nat

/-- What the application does with a stream it owns. -/
inductive StreamOp where
  | pollRead (cx : Waker) (remaining : Nat)
  | pollWrite (cx : Waker) (buf : List UInt8)
  | pollFlush
  | pollShutdown
  | drop
deriving DecidableEq, Repr

def StreamOp.toHubOp (key : StreamKey) : StreamOp → HubOp
  | pollRead cx remaining => .pollRead key cx remaining
  | pollWrite cx buf => .pollWrite key cx buf
  | pollFlush => .pollFlush key
  | pollShutdown => .pollShutdown key
  | drop => .dropStream key

inductive SessionOp where
  /-- Bytes arrive on the link. -/
  | recv (bytes : List UInt8)
  | readFrame
  /-- The link ends or fails. -/
  | readEnd
  | readerStep
  | cancelReader
  /-- The write task polls the manager. If `link` is a number, the link fails after
  that many bytes of the frame. -/
  | pollNext (pick : Option Nat) (cx : Waker) (link : Option Nat)
  | cancelWriter
  | serveOpen
  | open
  /-- `close` sends its GOAWAY, and afterwards sets the flag. -/
  | closeSend (error : Error) (message : List UInt8)
  | closeStore
  | accept (cx : Waker)
  /-- The accept half goes away, and then the streams in its queue. -/
  | dropAccept
  | dropAccepted
  | stream (key : StreamKey) (op : StreamOp)
  /-- Both tasks have ended. -/
  | dropManager
deriving DecidableEq, Repr

namespace Session

/-- `SessionBuilder::start`. -/
def new (window acceptQueueSize streamLimit : Nat) (client : Bool) : Session where
  hub := Hub.new streamLimit client
  window := window
  codec := FrameCodec.default
  rx := []
  tx := []
  acceptTx := Channel.new acceptQueueSize
  lastStreamProcessed := Constrained.clamp 0
  reader := .idle
  writer := .running
  terminated := false
  closing := false
  closed := false
  openReqs := 0
  opened := []
  handled := []
  born := fun _ => 0

/-- The decoder yields a frame, or waits for more bytes. -/
def readFrame (session : Session) : Session :=
  match session.codec.decode session.rx with
  | .error panic =>
      { session with acceptTx := session.acceptTx.close, reader := .panicked panic }
  | .ok (none, codec, rx) => { session with codec := codec, rx := rx }
  | .ok (some frame, codec, rx) =>
      { session with
        codec := codec
        rx := rx
        reader := if frame.isSyn then .opening frame else .routing frame }

/-- `handle_frame` is done with a frame and answers it on the system channel. -/
def answer (session : Session) (frame : Frame) (reply : SystemFrame) : Session :=
  { session with reader := .sysSending reply, handled := session.handled ++ [frame] }

def invalidFrame : List UInt8 := "invalid frame".toUTF8.toList

/-- The match of `handle_frame` on the frame type. -/
def route (session : Session) (frame : Frame) : Session :=
  match frame.header.typ with
  | .data | .rst | .wndInc =>
      match session.hub.startSendToStream frame with
      | .ok hub => { session with hub := hub, reader := .sending frame }
      | .error error => session.answer frame (.rst frame.header.streamId error)
  | .goAway =>
      match frame.body with
      | .goAway _ error _ => { session with terminated := true, reader := .goingAway error }
      | _ =>
          { session with acceptTx := session.acceptTx.close, reader := .panicked .readerGoAway }
  | .invalid _ =>
      session.answer frame (.goaway session.lastStreamProcessed .protocol invalidFrame)

/-- A poll of `send_to_stream` and what `handle_frame` does with its answer. -/
def pollSend (session : Session) (frame : Frame) (sending : Sending) : Session :=
  match session.hub.pollSendToStream sending with
  | (.pending, hub) => { session with hub := hub }
  | (.ready (.ok ()), hub) =>
      { session with
        hub := hub
        lastStreamProcessed := frame.header.streamId
        reader := if frame.isFin then .closing frame.header.streamId else .idle
        handled := session.handled ++ [frame] }
  | (.ready (.error error), hub) =>
      { session with hub := hub }.answer frame (.rst frame.header.streamId error)

/-- `Reader::run` goes on from where it waits; an error ends its loop. -/
def readerStep (session : Session) : Session :=
  match session.reader with
  | .opening frame =>
      match session.hub.createStream (some frame.header.streamId) session.window false with
      | .ok (_, key, hub) =>
          { session with
            hub := hub
            reader := .accepting frame key
            born := Function.update session.born key session.handled.length }
      | .error _ => { session with reader := .leaving }
  | .accepting frame key =>
      match session.acceptTx.pollReady with
      | .pending => session
      | .ready (.ok ()) =>
          { session with acceptTx := session.acceptTx.push key, reader := .flushing frame }
      | .ready (.error _) =>
          { session with hub := session.hub.step (.dropStream key), reader := .leaving }
  | .flushing frame =>
      match session.acceptTx.pollFlush with
      | .pending => session
      | .ready _ => { session with reader := .routing frame }
  | .routing frame => session.route frame
  | .sending frame =>
      match session.hub.sending with
      | some sending => session.pollSend frame sending
      | none => session
  | .closing streamId =>
      { session with hub := session.hub.closeDataWrite streamId, reader := .idle }
  | .sysSending frame =>
      { session with hub := session.hub.sysSend frame.toFrame, reader := .idle }
  | .goingAway error => { session with hub := session.hub.goAway error, reader := .leaving }
  | .leaving =>
      { session with
        hub := session.hub.closeSenders
        acceptTx := session.acceptTx.close
        reader := .exited }
  | _ => session

/-- The read task is dropped where it waits, with the stream it owns. -/
def cancelReader (session : Session) : Session :=
  match session.reader with
  | .accepting _ key =>
      { session with
        hub := session.hub.step (.dropStream key)
        acceptTx := session.acceptTx.close
        reader := .cancelled }
  | _ => { session with acceptTx := session.acceptTx.close, reader := .cancelled }

/-- The first branch of the loop of `Writer::run`. -/
def pollNext (session : Session) (pick : Option Nat) (cx : Waker) (link : Option Nat) :
    Session :=
  match session.hub.pollNext pick cx with
  | .error panic =>
      { session with hub := session.hub.panicked panic, writer := .panicked panic }
  | .ok (.ready (some frame), hub) =>
      match encode frame [], link with
      | .error _, _ => { session with hub := hub, writer := .exited }
      | .ok bytes, some sent =>
          { session with hub := hub, tx := session.tx ++ bytes.take sent, writer := .exited }
      | .ok bytes, none =>
          { session with
            hub := hub
            tx := session.tx ++ bytes
            writer := if frame.header.typ = .goAway then .exited else .running }
  | .ok (_, hub) => { session with hub := hub }

/-- The second branch of the loop of `Writer::run`. -/
def serveOpen (session : Session) : Session :=
  match session.hub.createStream none session.window true with
  | .ok (_, key, hub) =>
      { session with
        hub := hub
        openReqs := session.openReqs - 1
        opened := session.opened ++ [.ok key] }
  | .error error =>
      { session with
        openReqs := session.openReqs - 1
        opened := session.opened ++ [.error error] }

def owns (session : Session) (key : StreamKey) : Bool :=
  !session.acceptTx.queue.contains key && session.reader.stream != some key

def step (session : Session) : SessionOp → Session
  | .recv bytes => { session with rx := session.rx ++ bytes }
  | .readFrame => if session.reader = .idle then session.readFrame else session
  | .readEnd => if session.reader = .idle then { session with reader := .leaving } else session
  | .readerStep => session.readerStep
  | .cancelReader => if session.reader.ended then session else session.cancelReader
  | .pollNext pick cx link =>
      if session.writer = .running ∧ session.terminated = false then
        session.pollNext pick cx link
      else session
  | .cancelWriter =>
      if session.writer = .running then { session with writer := .cancelled } else session
  | .serveOpen =>
      if session.writer = .running ∧ 0 < session.openReqs then session.serveOpen else session
  | .open =>
      if session.closed ∨ session.writer ≠ .running then
        { session with opened := session.opened ++ [.error .sessionClosed] }
      else { session with openReqs := session.openReqs + 1 }
  | .closeSend error message =>
      { session with
        hub := session.hub.sysSend (Frame.goaway (Constrained.clamp 0) error message)
        closing := true }
  | .closeStore => if session.closing then { session with closed := true } else session
  | .accept cx =>
      if session.acceptTx.receiverAlive then
        { session with acceptTx := (session.acceptTx.pollNext cx).2 }
      else session
  | .dropAccept =>
      { session with
        acceptTx := { session.acceptTx with isOpen := false, receiverAlive := false } }
  | .dropAccepted =>
      match session.acceptTx.receiverAlive, session.acceptTx.queue with
      | false, key :: rest =>
          { session with
            hub := session.hub.step (.dropStream key)
            acceptTx := { session.acceptTx with queue := rest } }
      | _, _ => session
  | .stream key op =>
      if session.owns key then { session with hub := session.hub.step (op.toHubOp key) }
      else session
  | .dropManager =>
      if session.reader.ended ∧ session.writer ≠ .running then
        { session with hub := session.hub.dropManager }
      else session

end Session

end Muxado

end NgrokRust
