import NgrokRust.ProxyProtoDuplex
import NgrokRust.UpstreamDialing

/-!
# Forwarding a connection

A task forwards one connection of a tunnel: it detects the PROXY header of the visitor,
dials the upstream, and copies both ways until both ends have ended or one of them fails.
The copying reads while its source is open, writes what it has read, and shuts its target
down when there is nothing left; the order of all that is up to the schedule, and so are
the connections.  A TLS session may do anything with the connection below it.
-/

namespace NgrokRust

namespace Forward

open Agent LabelledRuns PolledWriter

variable {Header ParseError Name σ τ : Type}

/-- A connection of the tunnel, where it goes, and what it goes through. -/
structure Setup (Header ParseError Name σ τ : Type) where
  conn : Conn
  url : Url
  parser : ProxyProto.Parser Header ParseError
  describe : ParseError → String
  outside : Outside Header Name
  visitor : Duplex σ UInt8 IoError
  upstream : Duplex τ UInt8 IoError

inductive Phase (Header : Type) where
  | detecting
  | dialing (address : Address) (backendTls : Bool) (header : Option Header)
  | handshaking
  | copying
  | ended (result : Except IoError Unit)
  | panicked

def Phase.isEarly : Phase Header → Bool
  | .detecting | .dialing _ _ _ => true
  | _ => false

/-- The upstream, as a stream over a connection that records what was read from it and what
was asked of it. Without a header the stream does nothing of its own. -/
structure Upstream (Header ParseError Name τ : Type) where
  header : Option Header
  layers : Layers Name
  history : ProxyProto.WriteHistory Header ParseError (τ × List UInt8)

/-- The upstream behind its layers. -/
def Upstream.start (header : Option Header) (layers : Layers Name) (conn : τ) :
    Upstream Header ParseError Name τ where
  header := header
  layers := layers
  history :=
    match header with
    | none => ⟨.disabled ((conn, []), []), []⟩
    | some _ => .start layers.header (conn, [])

/-- A task that forwards a connection. -/
structure Forwarding (Header ParseError Name σ τ : Type) where
  phase : Phase Header
  visitor : ProxyProto.History Header ParseError (σ × List (WriteRequest UInt8))
  upstream : Option (Upstream Header ParseError Name τ)
  toUpstream : Copy UInt8
  toVisitor : Copy UInt8
  gatewayError : Option IoError

/-- A poll of the task, with the answers from outside. With TLS the connection to the
upstream is up to the TLS session, and the copying meets the session. -/
inductive Label (τ : Type) where
  | pollProxyHeader
  | dialed (answer : Except IoError τ)
  | handshaken (answer : Except IoError Unit)
  | readVisitor (room : Nat)
  | writeUpstream (passes : Nat)
  | flushUpstream
  | shutdownUpstream
  | readUpstream (room : Nat)
  | writeVisitor
  | flushVisitor
  | shutdownVisitor
  | finish
  | layerCalls (call : ProxyProto.WriteCall)
  | layerReads (room : Nat)
  | layerTakes (answer : Except IoError Nat)
  | layerYields (attempt : ReadAttempt UInt8 IoError)
  | layerCloses (answer : Except IoError Unit)

namespace Forwarding

variable (setup : Setup Header ParseError Name σ τ)
  (task : Forwarding Header ParseError Name σ τ)

abbrev visitorReader : PolledReader (σ × List (WriteRequest UInt8)) UInt8 IoError :=
  setup.visitor.reader.beside (List (WriteRequest UInt8))

abbrev visitorWriter :
    PolledWriter ((σ × List (WriteRequest UInt8)) × List UInt8) UInt8 IoError :=
  setup.visitor.writer.recorded.beside (List UInt8)

abbrev upstreamWriter : PolledWriter (τ × List UInt8) UInt8 IoError :=
  setup.upstream.writer.beside (List UInt8)

abbrev upstreamReader :
    PolledReader ((τ × List UInt8) × List (WriteRequest UInt8)) UInt8 IoError :=
  setup.upstream.reader.recorded.beside (List (WriteRequest UInt8))

def fail (error : IoError) : Forwarding Header ParseError Name σ τ :=
  { task with phase := .ended (.error error) }

def failDial (error : IoError) : Forwarding Header ParseError Name σ τ :=
  { task with
    phase := .ended (.error error)
    gatewayError := if setup.conn.servesGatewayError then some error else none }

def dial (header : Option Header) : Forwarding Header ParseError Name σ τ :=
  match setup.url.upstream with
  | .ok (address, backendTls) => { task with phase := .dialing address backendTls header }
  | .error error => task.failDial setup error

/-- `forward_to`, for a connection in this state. -/
def start (source : σ) : Forwarding Header ParseError Name σ τ :=
  let task (stream : ProxyProto.Stream Header ParseError
      ((σ × List (WriteRequest UInt8)) × List UInt8)) : Forwarding Header ParseError Name σ τ :=
    ⟨.detecting, .start stream, none, .new, .new, none⟩
  match setup.conn.proxyProto with
  | .none => (task (.disabled ((source, []), []))).dial setup none
  | _ => task (.incoming ((source, []), []))

/-- A poll of `proxy_header` in a task that detects a header. -/
def pollProxyHeader : Forwarding Header ParseError Name σ τ :=
  let polled := task.visitor.stream.pollProxyHeader setup.parser (visitorReader setup).recorded
  let task := { task with
    visitor := task.visitor.step setup.parser (visitorReader setup) .pollProxyHeader }
  match polled with
  | some (.ready (.error error), _) => task.fail error
  | some (.ready (.ok (.error error)), _) =>
      task.fail (.new .invalidData
        ("invalid proxy-protocol header: " ++ setup.describe error))
  | some (.ready (.ok (.ok header)), _) => task.dial setup header
  | _ => task

/-- `connect` goes on with a connection, or without one. -/
def dialed (backendTls : Bool) (header : Option Header) (answer : Except IoError τ) :
    Forwarding Header ParseError Name σ τ :=
  match answer with
  | .error error => task.failDial setup error
  | .ok conn =>
      match setup.outside.layers setup.conn backendTls header setup.url with
      | none => { task with phase := .panicked }
      | some (.error error) => task.failDial setup error
      | some (.ok layers) =>
          { task with
            phase := if layers.tls.isSome then .handshaking else .copying
            upstream := some (.start header layers conn) }

/-- The task goes on unless a call has failed. -/
def orFail {α : Type} (polled : Option (Poll (Except IoError α))) :
    Forwarding Header ParseError Name σ τ :=
  match polled with
  | some (.ready (.error error)) => task.fail error
  | _ => task

def readVisitor (room : Nat) : Forwarding Header ParseError Name σ τ :=
  if 0 < room ∧ task.toUpstream.isRunning = true then
    match task.visitor.stream.pollRead setup.parser (visitorReader setup).recorded room with
    | none => task
    | some (attempt, _) =>
        orFail
          { task with
            visitor := task.visitor.step setup.parser (visitorReader setup) (.pollRead room)
            toUpstream := task.toUpstream.read attempt }
          (some attempt.polled)
  else task

def withVisitor (stream : ProxyProto.Stream Header ParseError
    ((σ × List (WriteRequest UInt8)) × List UInt8)) : Forwarding Header ParseError Name σ τ :=
  { task with visitor := { task.visitor with stream := stream } }

def writeVisitor : Forwarding Header ParseError Name σ τ :=
  if task.toVisitor.buffered ≠ [] then
    let write := task.visitor.stream.pollWrite (visitorWriter setup) 1 task.toVisitor.buffered
    orFail
      { task.withVisitor write.2 with toVisitor := task.toVisitor.wrote (written write.1) }
      write.1
  else task

def flushVisitor : Forwarding Header ParseError Name σ τ :=
  let flush := task.visitor.stream.pollFlush (visitorWriter setup)
  (task.withVisitor flush.2).orFail (some flush.1)

def shutdownVisitor : Forwarding Header ParseError Name σ τ :=
  if task.toVisitor.isDrained then
    let shutdown := task.visitor.stream.pollShutdown (visitorWriter setup)
    orFail
      { task.withVisitor shutdown.2 with toVisitor := task.toVisitor.shutdown shutdown.1 }
      (some shutdown.1)
  else task

/-- A call on the connection to the upstream, behind its header. -/
def callUpstream (upstream : Upstream Header ParseError Name τ) (call : ProxyProto.WriteCall) :
    Forwarding Header ParseError Name σ τ :=
  { task with
    upstream := some { upstream with
      history := upstream.history.call (upstreamWriter setup) call } }

def writeUpstream (upstream : Upstream Header ParseError Name τ) (passes : Nat) :
    Forwarding Header ParseError Name σ τ :=
  if task.toUpstream.buffered ≠ [] then
    let buffered := task.toUpstream.buffered
    let write := upstream.history.stream.pollWrite (upstreamWriter setup).recorded passes buffered
    orFail
      { task.callUpstream setup upstream (.pollWrite passes buffered) with
        toUpstream := task.toUpstream.wrote (written write.1) }
      write.1
  else task

def flushUpstream (upstream : Upstream Header ParseError Name τ) :
    Forwarding Header ParseError Name σ τ :=
  (task.callUpstream setup upstream .pollFlush).orFail
    (some (upstream.history.stream.pollFlush (upstreamWriter setup).recorded).1)

def shutdownUpstream (upstream : Upstream Header ParseError Name τ) :
    Forwarding Header ParseError Name σ τ :=
  if task.toUpstream.isDrained then
    let shutdown := upstream.history.stream.pollShutdown (upstreamWriter setup).recorded
    orFail
      { task.callUpstream setup upstream .pollShutdown with
        toUpstream := task.toUpstream.shutdown shutdown.1 }
      (some shutdown.1)
  else task

def withUpstream (upstream : Upstream Header ParseError Name τ)
    (stream : ProxyProto.Stream Header ParseError
      ((τ × List UInt8) × List (WriteRequest UInt8))) : Forwarding Header ParseError Name σ τ :=
  { task with
    upstream := some { upstream with history := { upstream.history with stream := stream } } }

def readUpstream (upstream : Upstream Header ParseError Name τ) (room : Nat) :
    Forwarding Header ParseError Name σ τ :=
  if 0 < room ∧ task.toVisitor.isRunning = true then
    match upstream.history.stream.pollRead setup.parser (upstreamReader setup) room with
    | none => task
    | some (attempt, stream) =>
        orFail
          { task.withUpstream upstream stream with toVisitor := task.toVisitor.read attempt }
          (some attempt.polled)
  else task

/-- The TLS session reads from its connection. -/
def layerReads (upstream : Upstream Header ParseError Name τ) (room : Nat) :
    Forwarding Header ParseError Name σ τ :=
  match upstream.history.stream.pollRead setup.parser (upstreamReader setup) room with
  | none => task
  | some (_, stream) => task.withUpstream upstream stream

/-- The copying writes to the TLS session. -/
def layerTakes (answer : Except IoError Nat) : Forwarding Header ParseError Name σ τ :=
  if task.toUpstream.buffered ≠ [] then
    orFail
      { task with toUpstream := task.toUpstream.wrote (written (some (.ready answer))) }
      (some (.ready answer))
  else task

def layerYields (attempt : ReadAttempt UInt8 IoError) : Forwarding Header ParseError Name σ τ :=
  if task.toVisitor.isRunning then
    orFail { task with toVisitor := task.toVisitor.read attempt } (some attempt.polled)
  else task

/-- The copying shuts the TLS session down. -/
def layerCloses (answer : Except IoError Unit) : Forwarding Header ParseError Name σ τ :=
  if task.toUpstream.isDrained then
    orFail { task with toUpstream := task.toUpstream.shutdown (.ready answer) }
      (some (.ready answer))
  else task

def handshake (upstream : Upstream Header ParseError Name τ) :
    Label τ → Forwarding Header ParseError Name σ τ
  | .handshaken (.ok ()) => { task with phase := .copying }
  | .handshaken (.error error) => task.failDial setup error
  | .layerCalls call => task.callUpstream setup upstream call
  | .layerReads room => task.layerReads setup upstream room
  | _ => task

/-- A poll of `copy_bidirectional`, which is tokio's: it may do with the two ends whatever its
documentation allows, in any order. -/
def copy (upstream : Upstream Header ParseError Name τ) :
    Label τ → Forwarding Header ParseError Name σ τ
  | .readVisitor room => task.readVisitor setup room
  | .writeVisitor => task.writeVisitor setup
  | .flushVisitor => task.flushVisitor setup
  | .shutdownVisitor => task.shutdownVisitor setup
  | .finish =>
      if task.toUpstream.isDone && task.toVisitor.isDone then
        { task with phase := .ended (.ok ()) }
      else task
  | .writeUpstream passes =>
      if upstream.layers.tls.isNone then task.writeUpstream setup upstream passes else task
  | .flushUpstream =>
      if upstream.layers.tls.isNone then task.flushUpstream setup upstream else task
  | .shutdownUpstream =>
      if upstream.layers.tls.isNone then task.shutdownUpstream setup upstream else task
  | .readUpstream room =>
      if upstream.layers.tls.isNone then task.readUpstream setup upstream room else task
  | .layerCalls call =>
      if upstream.layers.tls.isSome then task.callUpstream setup upstream call else task
  | .layerReads room =>
      if upstream.layers.tls.isSome then task.layerReads setup upstream room else task
  | .layerTakes answer => if upstream.layers.tls.isSome then task.layerTakes answer else task
  | .layerYields attempt => if upstream.layers.tls.isSome then task.layerYields attempt else task
  | .layerCloses answer => if upstream.layers.tls.isSome then task.layerCloses answer else task
  | _ => task

def step (label : Label τ) : Forwarding Header ParseError Name σ τ :=
  match task.phase with
  | .detecting =>
      match label with
      | .pollProxyHeader => task.pollProxyHeader setup
      | _ => task
  | .dialing _ backendTls header =>
      match label with
      | .dialed answer => task.dialed setup backendTls header answer
      | _ => task
  | .handshaking => task.upstream.elim task fun upstream => task.handshake setup upstream label
  | .copying => task.upstream.elim task fun upstream => task.copy setup upstream label
  | .ended _ | .panicked => task

end Forwarding

end Forward

end NgrokRust
