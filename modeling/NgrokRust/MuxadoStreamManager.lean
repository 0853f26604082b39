import Mathlib.Data.List.AList
import Mathlib.Logic.Function.Basic
import NgrokRust.LabelledRuns
import NgrokRust.MuxadoStream

/-!
# The stream manager

`muxado/src/stream_manager.rs`: the table of registered streams, the set of
pending stream futures and the system channel, together with the stream ends
that the manager shares its channels with.  A `Hub` is the manager and every
stream end created so far, addressed by a key; the table and the tasks refer to
an end by its key.

The set of futures is unordered, so polling it takes the index of the task that
happens to answer.  The manager's own waker is recorded but needs no step of its
own: every poll may happen at any time.
-/

namespace NgrokRust

namespace Muxado

abbrev StreamKey := Nat

/-- The manager's handle of a registered stream. Its channel to the stream and its
sink closer both belong to the end at `stream`. -/
structure StreamHandle where
  stream : StreamKey
  needsFin : Bool
  dataWriteClosed : Bool
  window : Nat
deriving DecidableEq, Repr

structure StreamManager where
  streamLimit : Nat
  streams : AList (fun _ : StreamID => StreamHandle)
  sysRx : List Frame
  tasks : List (StreamID × StreamKey)
  lastLocalId : StreamID
  lastRemoteId : StreamID
  goneAway : Bool
  newStreams : Option Waker

/-- A stream with what has passed through it: the bytes `poll_write` accepted and
`poll_read` returned, the frames put on its incoming channel, and the frames the
manager has yielded for it.  `opener` tells the side that opened the stream. -/
structure StreamEnd where
  id : StreamID
  opener : Bool
  stream : Stream
  dropped : Bool
  accepted : List UInt8
  returned : List UInt8
  recvd : List Frame
  sent : List Frame
deriving DecidableEq, Repr

namespace StreamEnd

/-- Both ends of `OpenReq::create`, registered under an id. -/
def create (id : StreamID) (window : Nat) (needsSyn : Bool) : StreamEnd where
  id := id
  opener := needsSyn
  stream := Stream.new (StreamSender.wrap (Channel.new window)) (Channel.new window) window needsSyn
  dropped := false
  accepted := []
  returned := []
  recvd := []
  sent := []

/-- `sink_closer.close_with(error)`. -/
def closeWith (target : StreamEnd) (error : Error) : StreamEnd :=
  { target with
    stream := { target.stream with
      fout := { target.stream.fout with
        closer := target.stream.fout.closer.closeWith error } } }

def isClosed (target : StreamEnd) : Bool := target.stream.fout.closer.isClosed

/-- The channel to the stream is closed from the manager's side. -/
def closeFin (target : StreamEnd) : StreamEnd :=
  { target with
    stream := { target.stream with
      fin := target.stream.fin.close
      wakes := target.stream.wakes ++ target.stream.fin.recvTask.toList } }

def dropReceiver (target : StreamEnd) : StreamEnd :=
  { target with
    stream := { target.stream with
      fout := { target.stream.fout with sink := target.stream.fout.sink.dropReceiver } } }

/-- A frame has gone onto the channel to the stream and wakes its last reader. -/
def receive (target : StreamEnd) (fin : Channel Frame) (frame : Frame) : StreamEnd :=
  { target with
    stream := { target.stream with
      fin := fin
      wakes := target.stream.wakes ++ target.stream.fin.recvTask.toList }
    recvd := target.recvd ++ [frame] }

def setSink (target : StreamEnd) (sink : Channel Frame) : StreamEnd :=
  { target with
    stream := { target.stream with fout := { target.stream.fout with sink := sink } } }

end StreamEnd

/-- What `send_to_stream` keeps between two polls: the frame, which has passed its
first check, and the part of the window it still has to take. -/
structure Sending where
  frame : Frame
  shrinkWindow : Nat
  routable : frame.body.routable = true
deriving DecidableEq, Repr

namespace Sending

def new (frame : Frame) (routable : frame.body.routable = true) : Sending where
  frame := frame
  shrinkWindow :=
    match frame.body with
    | .data bytes => bytes.length
    | _ => 0
  routable := routable

def isFin (sending : Sending) : Bool :=
  sending.frame.isFin && sending.frame.body.len == 0

def resets (sending : Sending) : Bool :=
  sending.frame.header.typ == .data && !sending.isFin

end Sending

/-- Result of the `handle_frame` closure, with the variables it captures. -/
structure Delivery where
  result : Poll (Except Error Unit)
  sending : Sending
  handle : StreamHandle
  target : StreamEnd

/-- The closure `handle_frame` of `send_to_stream`. -/
def deliver (sending : Sending) (handle : StreamHandle) (target : StreamEnd) : Delivery :=
  if sending.frame.header.typ = .data ∧ handle.dataWriteClosed = true then
    ⟨.ready (.error .streamClosed), sending, handle, target⟩
  else
    match sending.frame.body with
    | .rst error =>
        ⟨.ready (.ok ()), sending, { handle with dataWriteClosed := true, needsFin := false },
          target.closeWith error⟩
    | _ =>
        if sending.shrinkWindow ≤ handle.window then
          let handle := { handle with window := handle.window - sending.shrinkWindow }
          let sending := { sending with shrinkWindow := 0 }
          let failed : Except Error Unit := if sending.isFin then .ok () else .error .streamClosed
          match target.stream.fin.pollReady with
          | .pending => ⟨.pending, sending, handle, target⟩
          | .ready (.error _) => ⟨.ready failed, sending, handle, target⟩
          | .ready (.ok ()) =>
              match target.stream.fin.startSend sending.frame with
              | .error _ => ⟨.ready failed, sending, handle, target⟩
              | .ok fin => ⟨.ready (.ok ()), sending, handle, target.receive fin sending.frame⟩
        else ⟨.ready (.error .flowControl), sending, handle, target⟩

def bytesRead : Poll (Except IoError (List UInt8)) → List UInt8
  | .ready (.ok bytes) => bytes
  | _ => []

def bytesWritten (buf : List UInt8) : Poll (Except IoError Nat) → List UInt8
  | .ready (.ok count) => buf.take count
  | _ => []

structure Hub where
  manager : StreamManager
  ends : StreamKey → StreamEnd
  nextKey : StreamKey
  sending : Option Sending
  emitted : List (Option StreamKey × Frame)
  panics : List Panic

namespace Hub

def new (streamLimit : Nat) (client : Bool) : Hub where
  manager :=
    { streamLimit := streamLimit
      streams := ∅
      sysRx := []
      tasks := []
      lastLocalId := Constrained.clamp (if client then 1 else 0)
      lastRemoteId := Constrained.clamp (if client then 0 else 1)
      goneAway := false
      newStreams := none }
  ends := fun _ => StreamEnd.create (Constrained.clamp 0) 0 false
  nextKey := 0
  sending := none
  emitted := []
  panics := []

def getStream (hub : Hub) (id : StreamID) : Option StreamHandle :=
  hub.manager.streams.lookup id

def len (hub : Hub) : Nat := hub.manager.streams.entries.length

def setEnd (hub : Hub) (key : StreamKey) (target : StreamEnd) : Hub :=
  { hub with ends := Function.update hub.ends key target }

def setHandle (hub : Hub) (id : StreamID) (handle : StreamHandle) : Hub :=
  { hub with manager := { hub.manager with streams := hub.manager.streams.insert id handle } }

def pushTask (hub : Hub) (id : StreamID) (key : StreamKey) : Hub :=
  { hub with manager := { hub.manager with tasks := hub.manager.tasks ++ [(id, key)] } }

def removeStream (hub : Hub) (id : StreamID) : Hub :=
  match hub.getStream id with
  | none => hub
  | some handle =>
      { hub with
        manager := { hub.manager with streams := hub.manager.streams.erase id }
        ends := Function.update hub.ends handle.stream (hub.ends handle.stream).closeFin }

/-- Some registered handle belongs to the end at a key. -/
def registered (hub : Hub) (key : StreamKey) : Bool :=
  hub.manager.streams.entries.any fun entry => entry.2.stream == key

def hasTask (hub : Hub) (key : StreamKey) : Bool :=
  hub.manager.tasks.any fun task => task.2 == key

/-- `StreamManager::go_away`: every handle is closed with the error and dropped. -/
def goAway (hub : Hub) (error : Error) : Hub :=
  { hub with
    manager := { hub.manager with goneAway := true, streams := ∅ }
    ends := fun key =>
      if hub.registered key then ((hub.ends key).closeWith error).closeFin else hub.ends key }

/-- `tasks().clear()` drops the receivers of all streams. -/
def clearTasks (hub : Hub) : Hub :=
  { hub with
    manager := { hub.manager with tasks := [] }
    ends := fun key =>
      if hub.hasTask key then (hub.ends key).dropReceiver else hub.ends key }

def closeSenders (hub : Hub) : Hub :=
  { hub with
    ends := fun key => if hub.registered key then (hub.ends key).closeFin else hub.ends key }

def dropManager (hub : Hub) : Hub :=
  let hub := { hub.closeSenders with manager := { hub.manager with streams := ∅ } }
  hub.clearTasks

def sysSend (hub : Hub) (frame : Frame) : Hub :=
  { hub with manager := { hub.manager with sysRx := hub.manager.sysRx ++ [frame] } }

def emit (hub : Hub) (origin : Option StreamKey) (frame : Frame) : Hub :=
  { hub with emitted := hub.emitted ++ [(origin, frame)] }

def emitFor (hub : Hub) (key : StreamKey) (frame : Frame) : Hub :=
  (hub.setEnd key { hub.ends key with sent := (hub.ends key).sent ++ [frame] }).emit
    (some key) frame

/-- `StreamManager::create_stream` with the request of `OpenReq::create`; the key
is where the stream of the request lives. -/
def createStream (hub : Hub) (id : Option StreamID) (window : Nat) (needsSyn : Bool) :
    Except Error (StreamID × StreamKey × Hub) :=
  if hub.len = hub.manager.streamLimit then .error .streamsExhausted
  else
    let (newId, manager) : StreamID × StreamManager :=
      match id with
      | some remoteId => (remoteId, { hub.manager with lastRemoteId := remoteId })
      | none =>
          let newId := Constrained.clamp (hub.manager.lastLocalId.val + 2)
          (newId, { hub.manager with lastLocalId := newId })
    let key := hub.nextKey
    let hub := { hub with manager := manager, nextKey := key + 1 }
    -- inserting drops the handle that the id had before
    let hub := hub.removeStream newId
    let hub := hub.setEnd key (StreamEnd.create newId window needsSyn)
    let hub := hub.setHandle newId
      { stream := key, needsFin := true, dataWriteClosed := false, window := window }
    let hub := hub.pushTask newId key
    .ok (newId, key, { hub with manager := { hub.manager with newStreams := none } })

def popTask (hub : Hub) (index : Nat) (key : StreamKey) (sink : Channel Frame) : Hub :=
  { hub with
    manager := { hub.manager with tasks := hub.manager.tasks.eraseIdx index }
    ends := Function.update hub.ends key ((hub.ends key).setSink sink) }

/-- Poll the set of stream futures: the task at the index answers if it has a frame
or its channel is closed and drained. -/
def pollTasks (hub : Hub) (pick : Option Nat) :
    Option (StreamID × StreamKey × Option Frame × Hub) :=
  match pick with
  | none => none
  | some index =>
      match hub.manager.tasks[index]? with
      | none => none
      | some (id, key) =>
          match (hub.ends key).stream.fout.sink.pollNext 0 with
          | (.pending, _) => none
          | (.ready item, sink) => some (id, key, item, hub.popTask index key sink)

/-- The entry of a stream leaves the table, and the receiver of the task that
answered is not polled again. -/
def endTask (hub : Hub) (id : StreamID) (key : StreamKey) : Hub :=
  let hub := hub.removeStream id
  hub.setEnd key (hub.ends key).dropReceiver

/-- The handle after a frame of its stream has been yielded. -/
def StreamHandle.afterFrame (handle : StreamHandle) (frame : Frame) : StreamHandle :=
  { handle with
    window :=
      match frame.body with
      | .wndInc increment => handle.window + increment.val
      | _ => handle.window
    needsFin := handle.needsFin && !frame.isFin }

/-- `poll_next` after the set of futures has answered. -/
def nextFrame (hub : Hub) (id : StreamID) (key : StreamKey) (item : Option Frame) :
    Except Panic (Poll (Option Frame) × Hub) :=
  match hub.getStream id with
  | none => .error .pollNext
  | some handle =>
      if (hub.ends handle.stream).isClosed && !handle.needsFin then
        .ok (.pending, hub.endTask id key)
      else
        match item with
        | some frame =>
            let hub := (hub.setHandle id (StreamHandle.afterFrame handle frame)).pushTask id key
            let frame := frame.withStreamId id
            .ok (.ready (some frame), hub.emitFor key frame)
        | none =>
            let hub := hub.endTask id key
            if handle.needsFin then
              let frame := Stream.finFrame.withStreamId id
              .ok (.ready (some frame), hub.emitFor key frame)
            else .ok (.pending, hub)

def storeWaker (hub : Hub) (cx : Waker) : Hub :=
  { hub with manager := { hub.manager with newStreams := some cx } }

def setSysRx (hub : Hub) (frames : List Frame) : Hub :=
  { hub with manager := { hub.manager with sysRx := frames } }

/-- `poll_next` when the system channel holds a frame. -/
def nextSystemFrame (hub : Hub) (frame : Frame) : Frame × Hub :=
  match frame.body with
  | .goAway _ error message =>
      let frame := { frame with body := .goAway hub.manager.lastRemoteId error message }
      (frame, (hub.clearTasks.goAway .sessionClosed).emit none frame)
  | _ => (frame, hub.emit none frame)

def pollNext (hub : Hub) (pick : Option Nat) (cx : Waker) :
    Except Panic (Poll (Option Frame) × Hub) :=
  if hub.manager.goneAway then .ok (.ready none, hub)
  else
    let hub := hub.storeWaker cx
    match hub.manager.sysRx with
    | frame :: rest =>
        let (frame, hub) := (hub.setSysRx rest).nextSystemFrame frame
        .ok (.ready (some frame), hub)
    | [] =>
        match hub.pollTasks pick with
        | none => .ok (.pending, hub)
        | some (id, key, item, hub) => hub.nextFrame id key item

/-- The synchronous start of `send_to_stream`. -/
def startSendToStream (hub : Hub) (frame : Frame) : Except Error Hub :=
  if routable : frame.body.routable = true then
    .ok { hub with sending := some (Sending.new frame routable) }
  else .error .internal

def refuse (handle : StreamHandle) (target : StreamEnd) : StreamHandle × StreamEnd :=
  ({ handle with dataWriteClosed := true, needsFin := false }, target.closeWith .streamClosed)

/-- One poll of the `poll_fn` in `send_to_stream`. -/
def pollSendToStream (hub : Hub) (sending : Sending) :
    Poll (Except Error Unit) × Hub :=
  let id := sending.frame.header.streamId
  match hub.getStream id with
  | none =>
      (.ready (if sending.resets then .error .streamClosed else .ok ()),
        { hub with sending := none })
  | some handle =>
      let delivery := deliver sending handle (hub.ends handle.stream)
      match delivery.result with
      | .pending =>
          (.pending,
            { (hub.setHandle id delivery.handle).setEnd handle.stream delivery.target with
              sending := some delivery.sending })
      | .ready result =>
          let (result, handle', target) : Except Error Unit × StreamHandle × StreamEnd :=
            if sending.resets then
              match result with
              | .error error =>
                  let (handle', target) := refuse delivery.handle delivery.target
                  (.error error, handle', target)
              | .ok () => (.ok (), delivery.handle, delivery.target)
            else (.ok (), delivery.handle, delivery.target)
          (.ready result,
            { (hub.setHandle id handle').setEnd handle.stream target with sending := none })

def closeDataWrite (hub : Hub) (id : StreamID) : Hub :=
  match hub.getStream id with
  | none => hub
  | some handle => hub.setHandle id { handle with dataWriteClosed := true }

/-- The application still holds the stream at a key. -/
def held (hub : Hub) (key : StreamKey) : Bool :=
  decide (key < hub.nextKey) && !(hub.ends key).dropped

def pollRead (hub : Hub) (key : StreamKey) (cx : Waker) (remaining : Nat) :
    Except Panic (Poll (Except IoError (List UInt8)) × Hub) := do
  let (polled, stream) ← (hub.ends key).stream.pollRead cx remaining
  return (polled, hub.setEnd key
    { hub.ends key with
      stream := stream
      returned := (hub.ends key).returned ++ bytesRead polled })

def pollWrite (hub : Hub) (key : StreamKey) (cx : Waker) (buf : List UInt8) :
    Except Panic (Poll (Except IoError Nat) × Hub) := do
  let (polled, stream) ← (hub.ends key).stream.pollWrite cx buf
  return (polled, hub.setEnd key
    { hub.ends key with
      stream := stream
      accepted := (hub.ends key).accepted ++ bytesWritten buf polled })

def pollFlush (hub : Hub) (key : StreamKey) : Hub :=
  hub.setEnd key { hub.ends key with stream := (hub.ends key).stream.pollFlush.2 }

def pollShutdown (hub : Hub) (key : StreamKey) : Hub :=
  hub.setEnd key { hub.ends key with stream := (hub.ends key).stream.pollShutdown.2 }

def dropStream (hub : Hub) (key : StreamKey) : Hub :=
  hub.setEnd key { hub.ends key with stream := (hub.ends key).stream.drop, dropped := true }

def panicked (hub : Hub) (panic : Panic) : Hub :=
  { hub with panics := hub.panics ++ [panic] }

end Hub

/-- The frames that the session puts on the system channel. -/
inductive SystemFrame where
  | rst (streamId : StreamID) (error : Error)
  | goaway (lastStreamId : StreamID) (error : Error) (message : List UInt8)
deriving DecidableEq, Repr

def SystemFrame.toFrame : SystemFrame → Frame
  | rst streamId error => Frame.rst streamId error
  | goaway lastStreamId error message => Frame.goaway lastStreamId error message

/-- Everything that can happen to the manager and its streams, in any order. -/
inductive HubOp where
  | createStream (id : Option StreamID) (window : Nat) (needsSyn : Bool)
  | sendToStream (frame : Frame)
  | pollSendToStream
  | closeDataWrite (id : StreamID)
  | pollNext (pick : Option Nat) (cx : Waker)
  | sysSend (frame : SystemFrame)
  | goAway (error : Error)
  | closeSenders
  | dropManager
  | pollRead (key : StreamKey) (cx : Waker) (remaining : Nat)
  | pollWrite (key : StreamKey) (cx : Waker) (buf : List UInt8)
  | pollFlush (key : StreamKey)
  | pollShutdown (key : StreamKey)
  | dropStream (key : StreamKey)
deriving DecidableEq, Repr

/-- One operation. An operation that fails or does not apply changes nothing; a
panic is recorded. -/
def Hub.step (hub : Hub) : HubOp → Hub
  | .createStream id window needsSyn =>
      match hub.createStream id window needsSyn with
      | .ok (_, _, hub) => hub
      | .error _ => hub
  | .sendToStream frame =>
      match hub.sending, hub.startSendToStream frame with
      | none, .ok hub => hub
      | _, _ => hub
  | .pollSendToStream =>
      match hub.sending with
      | some sending => (hub.pollSendToStream sending).2
      | none => hub
  | .closeDataWrite id => hub.closeDataWrite id
  | .pollNext pick cx =>
      match hub.pollNext pick cx with
      | .ok (_, hub) => hub
      | .error panic => hub.panicked panic
  | .sysSend frame => hub.sysSend frame.toFrame
  | .goAway error => hub.goAway error
  | .closeSenders => hub.closeSenders
  | .dropManager => hub.dropManager
  | .pollRead key cx remaining =>
      if hub.held key then
        match hub.pollRead key cx remaining with
        | .ok (_, hub) => hub
        | .error panic => hub.panicked panic
      else hub
  | .pollWrite key cx buf =>
      if hub.held key then
        match hub.pollWrite key cx buf with
        | .ok (_, hub) => hub
        | .error panic => hub.panicked panic
      else hub
  | .pollFlush key => if hub.held key then hub.pollFlush key else hub
  | .pollShutdown key => if hub.held key then hub.pollShutdown key else hub
  | .dropStream key => if hub.held key then hub.dropStream key else hub

end Muxado

end NgrokRust
