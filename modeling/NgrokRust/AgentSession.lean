import Mathlib.Data.List.AList
import Mathlib.Data.List.Perm.Basic
import NgrokRust.IncomingStreams
import NgrokRust.LabelledRuns

/-!
# The agent session

A `Session` is a pointer to the current `SessionInner`.  Calls of `start_tunnel`,
`close_tunnel` and `close` load the pointer once and then work on the `SessionInner` they
have loaded, while the accept loop replaces it by a new one at every reconnect.  One
step of the model takes a call, or the accept loop, from one of its awaits to the next.

The client mutex of a `SessionInner` is held by a call for the length of an RPC, and by
`start_tunnel` until it returns.  The accept loop holds the lock of the tunnels while it
sends to a tunnel and while it rebinds; the calls hold it only within a step.  What
servers answer, what the remote sends and when it is delivered is up to the schedule.
-/

namespace NgrokRust

namespace Agent

abbrev Task := Nat

/-- The channel of a tunnel, which also says which tunnel it is. -/
abbrev Tx := Nat

inductive RpcError where
  | openStream (error : Muxado.Error)
  | transport (error : Muxado.Error)
  | send
  | receive
  | invalidResponse
  | response (message : String)
deriving DecidableEq

inductive ConnectError where
  | tcp
  | tls
  | start
  | auth (error : RpcError)
  | rebind (error : RpcError)
  | proxyConnect
  | canceled
deriving DecidableEq

inductive AcceptError where
  | transport (error : Muxado.Error)
  | reconnect (error : ConnectError)
  | listenerClosed (message : String) (errorCode : Option String)
deriving DecidableEq

inductive ProxyProto where
  | none
  | v1
  | v2
deriving DecidableEq

/-- The endpoint options, as far as the agent looks into them. -/
inductive BindOpts where
  | http (proxyProto : ProxyProto)
  | tcp (proxyProto : ProxyProto)
  | tls (proxyProto : ProxyProto) (tlsTermination : Bool)
deriving DecidableEq

def BindOpts.proxyProto : BindOpts → ProxyProto
  | .http proxyProto => proxyProto
  | .tcp proxyProto => proxyProto
  | .tls proxyProto _ => proxyProto

structure BindExtra where
  token : String
  ipPolicyRef : String
  metadata : String
  bindings : List String
  poolingEnabled : Bool
deriving DecidableEq

/-- What a `TunnelConfig` answers. Labeled tunnels have no protocol, and the other ones
have options. -/
structure TunnelConfig where
  proto : String
  opts : Option BindOpts
  extra : BindExtra
  labels : List (String × String)
  forwardsTo : String
  forwardsProto : String
  verifyUpstreamTls : Bool
  hasOpts : proto ≠ "" → opts.isSome
deriving DecidableEq

structure BoundTunnel where
  proto : String
  opts : Option BindOpts
  extra : BindExtra
  labels : List (String × String)
  forwardsTo : String
  forwardsProto : String
  verifyUpstreamTls : Bool
  tx : Tx
  hasOpts : proto ≠ "" → opts.isSome
deriving DecidableEq

abbrev TunnelConns := AList fun _ : String => BoundTunnel

structure TunnelInnerInfo where
  id : String
  proto : String
  url : String
  labels : List (String × String)
  forwardsTo : String
  metadata : String
deriving DecidableEq

structure BindResp where
  clientId : String
  url : String
  proto : String
  bindOpts : BindOpts
  token : String
deriving DecidableEq

structure AuthResp where
  clientId : String
  cookie : String
deriving DecidableEq

/-- The requests of the agent, with the address that the connector is called with. -/
inductive Request where
  | connect (serverHost : String) (serverPort : Nat)
  | auth (clientId cookie : String)
  | bind (clientId proto forwardsTo forwardsProto : String) (opts : BindOpts) (extra : BindExtra)
  | startTunnelWithLabel (labels : List (String × String))
      (metadata forwardsTo forwardsProto : String)
  | unbind (clientId : String)
  | goAway
deriving DecidableEq

structure SessionBuilder where
  serverHost : String
  serverPort : Nat
  cookie : Option String
  id : Option String
deriving DecidableEq

/-- `bindings` is on record only: for each tunnel that was bound over the transport of this
`SessionInner`, the id that the server uses for it. -/
structure SessionInner where
  closed : Bool
  tunnels : TunnelConns
  builder : SessionBuilder
  bindings : List (Tx × String)

structure ConnInner where
  header : ProxyHeader
  proxyProto : ProxyProto
  appProtocol : Option String
  verifyUpstreamTls : Bool
deriving DecidableEq

/-- `mpsc::channel(64)`, with all messages it ever took on record. -/
structure TunnelChannel where
  queue : List (Except AcceptError ConnInner)
  receiverOpen : Bool
  taken : List (Except AcceptError ConnInner)

def channelCapacity : Nat := 64

namespace TunnelChannel

def new : TunnelChannel where
  queue := []
  receiverOpen := true
  taken := []

/-- A sender has to wait. -/
def Full (channel : TunnelChannel) : Prop :=
  channel.receiverOpen ∧ channelCapacity ≤ channel.queue.length

instance (channel : TunnelChannel) : Decidable channel.Full :=
  inferInstanceAs (Decidable (_ ∧ _))

def push (channel : TunnelChannel) (message : Except AcceptError ConnInner) : TunnelChannel :=
  { channel with queue := channel.queue ++ [message], taken := channel.taken ++ [message] }

end TunnelChannel

/-- What has become of a tunnel that `start_tunnel` returned: a `close_tunnel` for its id
has returned `Ok`, or the accept loop has removed it because the remote stopped it, because
its receiver was gone, or because the session came to an end. -/
inductive Fate where
  | live
  | closed
  | ended
deriving DecidableEq

/-- The `TunnelInner` that a task has got from `start_tunnel`. -/
structure TunnelHandle where
  info : TunnelInnerInfo
  owner : Task
  dropped : Bool
  fate : Fate
deriving DecidableEq

/-- Who awaits a `close_tunnel`: the caller of the session, `TunnelInner::close`, or the
task that the drop of a `TunnelInner` has spawned. -/
inductive Via where
  | session
  | tunnel (tx : Tx)
  | dropped (tx : Tx)
deriving DecidableEq

/-- Where a call is. `Lock` waits for the client mutex, `Rpc` for an answer while holding
it, and `Insert` and `Remove` wait for the tunnels. -/
inductive Call where
  | startLock (inner : Nat) (cfg : TunnelConfig)
  | startRpc (inner : Nat) (cfg : TunnelConfig) (tx : Tx)
  | startInsert (inner : Nat) (info : TunnelInnerInfo) (bound : BoundTunnel)
  | closeSpawned (tx : Tx)
  | closeLock (inner : Nat) (id : String) (via : Via)
  | closeRpc (inner : Nat) (id : String) (via : Via)
  | closeRemove (inner : Nat) (id : String) (via : Via)
  | sessionLock (inner : Nat)
  | sessionGoAway (inner : Nat)
  | sessionStore (inner : Nat) (res : Except RpcError Unit)
deriving DecidableEq

/-- Where the accept loop is. `reading` waits for more of a stream that sends no more.
`stopSending`, `sending`, `binding`, `awaiting` and `draining` hold the tunnels of their
`SessionInner`. -/
inductive AcceptLoop where
  | accepting
  | reading
  | stopping (inner : Nat) (req : StopTunnel)
  | stopSending (inner : Nat) (tx : Tx) (error : AcceptError)
  | delivering (inner : Nat) (header : ProxyHeader)
  | sending (inner : Nat) (id : String) (tx : Tx) (conn : ConnInner)
  | pruning (inner : Nat) (id : String)
  | retrying (error : AcceptError)
  | connecting (old : Nat)
  | authenticating (old : Nat)
  | locking (old : Nat) (newInner : SessionInner)
  | binding (old : Nat) (newInner : SessionInner) (rest : List (Σ _ : String, BoundTunnel))
  | awaiting (old : Nat) (newInner : SessionInner) (entry : Σ _ : String, BoundTunnel)
      (rest : List (Σ _ : String, BoundTunnel))
  | swapping (old : Nat) (newInner : SessionInner)
  | givingUp (error : AcceptError)
  | draining (inner : Nat) (error : AcceptError) (rest : List Tx)
  | finished
  | panicked

/-- The `SessionInner` whose tunnels are locked. -/
def AcceptLoop.locks : AcceptLoop → Option Nat
  | .stopSending inner _ _ => some inner
  | .sending inner _ _ _ => some inner
  | .binding old _ _ => some old
  | .awaiting old _ _ _ => some old
  | .draining inner _ _ => some inner
  | _ => none

/-- What happened, for the statements about runs. A request names the number of its
transport and the tunnel it is for. -/
inductive Event where
  | sent (transport : Nat) (request : Request) (tunnel : Option Tx)
  | acceptFailed (error : AcceptError)
  | reconnectFailed (error : ConnectError)
  | reconnected
  | sessionClosed (res : Except RpcError Unit)
  | closeRan (tx : Tx)
deriving DecidableEq

/-- `inners` are the successive values of the pointer up to `current`, and `client` says
which task holds the mutex of the RPC client. The newest event is the first of the log. -/
structure Session where
  inners : Nat → SessionInner
  current : Nat
  client : Nat → Option Task
  calls : Task → Option Call
  channels : Tx → TunnelChannel
  nextTx : Nat
  handles : Tx → Option TunnelHandle
  incomingSession : Bool
  accept : AcceptLoop
  log : List Event

inductive Label where
  | startTunnel (task : Task) (cfg : TunnelConfig)
  | closeTunnel (task : Task) (id : String)
  | closeHandle (task : Task) (tx : Tx)
  | closeSession (task : Task)
  | dropTunnel (tx : Tx) (spawned : Task)
  | resume (task : Task)
  | bindAnswer (task : Task) (answer : Except RpcError BindResp)
  | labelAnswer (task : Task) (answer : Except RpcError String)
  | unbindAnswer (task : Task) (answer : Except RpcError Unit)
  | goAwayAnswer (task : Task) (answer : Except RpcError Unit)
  | receive (tx : Tx)
  | incoming (stream : Option RemoteStream)
  | acceptResume (order : List (Σ _ : String, BoundTunnel))
  | connectorAnswer (answer : Except ConnectError Unit)
  | authAnswer (answer : Except RpcError AuthResp)
  | rebindAnswer (answer : Except RpcError String)

/-- The connection that a tunnel gets. Whether TLS passes through is up to the edge, except
for TLS endpoints, where it is up to the options of the tunnel. -/
def BoundTunnel.connInner (tun : BoundTunnel) (header : ProxyHeader) : ConnInner where
  header :=
    match tun.opts with
    | some (.tls _ tlsTermination) => { header with passthroughTls := !tlsTermination }
    | _ => header
  proxyProto := (tun.opts.map BindOpts.proxyProto).getD .none
  appProtocol := if tun.forwardsProto = "" then none else some tun.forwardsProto
  verifyUpstreamTls := tun.verifyUpstreamTls

/-- The request of `listen` or `listen_label` for a tunnel under its id. -/
def BoundTunnel.rebindRequest (tun : BoundTunnel) (id : String) : Request :=
  if named : tun.proto ≠ "" then
    .bind id tun.proto tun.forwardsTo tun.forwardsProto (tun.opts.get (tun.hasOpts named)) tun.extra
  else .startTunnelWithLabel tun.labels tun.extra.metadata tun.forwardsTo tun.forwardsProto

/-- The key of a tunnel after its request was answered: labeled tunnels take the id of the
response, unless it is empty. -/
def BoundTunnel.rebindKey (tun : BoundTunnel) (id respId : String) : String :=
  if tun.proto ≠ "" then id else if respId ≠ "" then respId else id

/-- The tunnel is bound again, under the key that its response determines. -/
def rebound (newInner : SessionInner) (entry : Σ _ : String, BoundTunnel)
    (respId : String) : SessionInner :=
  { newInner with
    tunnels := newInner.tunnels.insert (entry.2.rebindKey entry.1 respId) entry.2
    bindings := newInner.bindings ++ [(entry.2.tx, entry.2.rebindKey entry.1 respId)] }

def TunnelConfig.request (cfg : TunnelConfig) : Request :=
  if named : cfg.proto ≠ "" then
    .bind "" cfg.proto cfg.forwardsTo cfg.forwardsProto (cfg.opts.get (cfg.hasOpts named)) cfg.extra
  else .startTunnelWithLabel cfg.labels cfg.extra.metadata cfg.forwardsTo cfg.forwardsProto

/-- The two values that `start_tunnel` builds from the response to a `Bind`. -/
def TunnelConfig.endpoint (cfg : TunnelConfig) (resp : BindResp) (tx : Tx) :
    TunnelInnerInfo × BoundTunnel :=
  ({ id := resp.clientId
     proto := resp.proto
     url := resp.url
     labels := []
     forwardsTo := cfg.forwardsTo
     metadata := cfg.extra.metadata },
   { proto := resp.proto
     opts := some resp.bindOpts
     extra := { cfg.extra with token := resp.token }
     labels := cfg.labels
     forwardsTo := cfg.forwardsTo
     forwardsProto := cfg.forwardsProto
     verifyUpstreamTls := cfg.verifyUpstreamTls
     tx := tx
     hasOpts := fun _ => rfl })

def TunnelConfig.labeled (cfg : TunnelConfig) (respId : String) (tx : Tx) :
    TunnelInnerInfo × BoundTunnel :=
  ({ id := respId
     proto := ""
     url := ""
     labels := cfg.labels
     forwardsTo := cfg.forwardsTo
     metadata := cfg.extra.metadata },
   { proto := ""
     opts := none
     extra := cfg.extra
     labels := cfg.labels
     forwardsTo := cfg.forwardsTo
     forwardsProto := cfg.forwardsProto
     verifyUpstreamTls := cfg.verifyUpstreamTls
     tx := tx
     hasOpts := fun labeled => absurd rfl labeled })

def TunnelHandle.close (id : String) (handle : TunnelHandle) : TunnelHandle :=
  if handle.info.id = id ∧ handle.fate = .live then { handle with fate := .closed } else handle

def TunnelHandle.ended (handle : TunnelHandle) : TunnelHandle :=
  if handle.fate = .live then { handle with fate := .ended } else handle

def Via.ran : Via → List Event
  | .dropped tx => [.closeRan tx]
  | _ => []

namespace Session

/-- `SessionBuilder::connect` has returned: the accept loop runs with a reference to the
session. -/
def connected (builder : SessionBuilder) : Session where
  inners := fun _ => { closed := false, tunnels := ∅, builder := builder, bindings := [] }
  current := 0
  client := fun _ => none
  calls := fun _ => none
  channels := fun _ => .new
  nextTx := 0
  handles := fun _ => none
  incomingSession := true
  accept := .accepting
  log := []

variable (session : Session)

def setCall (task : Task) (call : Option Call) : Session :=
  { session with calls := Function.update session.calls task call }

def setInner (inner : Nat) (change : SessionInner → SessionInner) : Session :=
  { session with inners := Function.update session.inners inner (change (session.inners inner)) }

def setChannel (tx : Tx) (change : TunnelChannel → TunnelChannel) : Session :=
  { session with channels := Function.update session.channels tx (change (session.channels tx)) }

def setHandle (tx : Tx) (change : TunnelHandle → TunnelHandle) : Session :=
  { session with handles :=
      Function.update session.handles tx ((session.handles tx).map change) }

def lockClient (inner : Nat) (task : Task) : Session :=
  { session with client := Function.update session.client inner (some task) }

def unlockClient (inner : Nat) : Session :=
  { session with client := Function.update session.client inner none }

def record (events : List Event) : Session :=
  { session with log := events ++ session.log }

def setAccept (accept : AcceptLoop) : Session :=
  { session with accept := accept }

/-- `start_tunnel` has got the client, makes the channel and sends its request. -/
def startRequest (task : Task) (inner : Nat) (cfg : TunnelConfig) : Session :=
  { ((session.lockClient inner task).setCall task
      (some (.startRpc inner cfg session.nextTx))).record
        [.sent inner cfg.request (some session.nextTx)] with
    channels := Function.update session.channels session.nextTx .new
    nextTx := session.nextTx + 1 }

def startBound (task : Task) (inner : Nat) (tunnel : TunnelInnerInfo × BoundTunnel) : Session :=
  (session.setInner inner fun value =>
      { value with bindings := value.bindings ++ [(tunnel.2.tx, tunnel.1.id)] }).setCall task
    (some (.startInsert inner tunnel.1 tunnel.2))

def failCall (task : Task) (inner : Nat) : Session :=
  (session.unlockClient inner).setCall task none

/-- `start_tunnel` has got the tunnels and returns. -/
def insertTunnel (task : Task) (inner : Nat) (info : TunnelInnerInfo) (bound : BoundTunnel) :
    Session :=
  { ((session.setInner inner fun value =>
        { value with tunnels := value.tunnels.insert info.id bound }).unlockClient
      inner).setCall task none with
    handles := Function.update session.handles bound.tx
      (some { info := info, owner := task, dropped := false, fate := .live }) }

def closeRequest (task : Task) (inner : Nat) (id : String) (via : Via) : Session :=
  ((session.lockClient inner task).setCall task (some (.closeRpc inner id via))).record
    [.sent inner (.unbind id) none]

def closeFailed (task : Task) (inner : Nat) (via : Via) : Session :=
  (session.failCall task inner).record via.ran

/-- `close_tunnel` has got the tunnels and returns `Ok`; `TunnelInner::close` then closes its
receiver. -/
def removeTunnel (task : Task) (inner : Nat) (id : String) (via : Via) : Session :=
  let removed := ((session.setInner inner fun value =>
    { value with tunnels := value.tunnels.erase id }).setCall task none).record via.ran
  let closed := { removed with handles := fun tx => (session.handles tx).map (·.close id) }
  match via with
  | .tunnel tx => closed.setChannel tx fun channel => { channel with receiverOpen := false }
  | _ => closed

def goAwayRequest (task : Task) (inner : Nat) : Session :=
  ((session.lockClient inner task).setCall task (some (.sessionGoAway inner))).record
    [.sent inner .goAway none]

/-- `Session::close` stores the flag and returns. -/
def storeClosed (task : Task) (inner : Nat) (res : Except RpcError Unit) : Session :=
  ((session.setInner inner fun value => { value with closed := true }).setCall task none).record
    [.sessionClosed res]

/-- A `TunnelInner` is dropped with its receiver, and a task is spawned to close it. The copies
that `make_info` gives a forwarder have no receiver: dropping one only spawns a `close_tunnel`
for its id. -/
def dropHandle (tx : Tx) (spawned : Task) : Session :=
  ((session.setHandle tx fun handle => { handle with dropped := true }).setChannel tx
    fun channel => { channel with queue := [], receiverOpen := false }).setCall spawned
      (some (.closeSpawned tx))

/-- A call goes on to its next await. -/
def resume (task : Task) : Session :=
  match session.calls task with
  | some (.startLock inner cfg) =>
      if session.client inner = none then session.startRequest task inner cfg else session
  | some (.startInsert inner info bound) =>
      if session.accept.locks = some inner then session
      else session.insertTunnel task inner info bound
  | some (.closeSpawned tx) =>
      match session.handles tx with
      | some handle =>
          session.setCall task (some (.closeLock session.current handle.info.id (.dropped tx)))
      | none => session
  | some (.closeLock inner id via) =>
      if session.client inner = none then session.closeRequest task inner id via else session
  | some (.closeRemove inner id via) =>
      if session.accept.locks = some inner then session
      else session.removeTunnel task inner id via
  | some (.sessionLock inner) =>
      if session.client inner = none then session.goAwayRequest task inner else session
  | some (.sessionStore inner res) => session.storeClosed task inner res
  | _ => session

def bindAnswer (task : Task) (answer : Except RpcError BindResp) : Session :=
  match session.calls task with
  | some (.startRpc inner cfg tx) =>
      if cfg.proto ≠ "" then
        match answer with
        | .ok resp => session.startBound task inner (cfg.endpoint resp tx)
        | .error _ => session.failCall task inner
      else session
  | _ => session

def labelAnswer (task : Task) (answer : Except RpcError String) : Session :=
  match session.calls task with
  | some (.startRpc inner cfg tx) =>
      if cfg.proto ≠ "" then session
      else
        match answer with
        | .ok respId => session.startBound task inner (cfg.labeled respId tx)
        | .error _ => session.failCall task inner
  | _ => session

def unbindAnswer (task : Task) (answer : Except RpcError Unit) : Session :=
  match session.calls task with
  | some (.closeRpc inner id via) =>
      match answer with
      | .ok () => (session.unlockClient inner).setCall task (some (.closeRemove inner id via))
      | .error _ => session.closeFailed task inner via
  | _ => session

def goAwayAnswer (task : Task) (answer : Except RpcError Unit) : Session :=
  match session.calls task with
  | some (.sessionGoAway inner) =>
      (session.unlockClient inner).setCall task (some (.sessionStore inner answer))
  | _ => session

def begin (task : Task) (call : Call) : Session :=
  if session.calls task = none then session.setCall task (some call) else session

def closeHandle (task : Task) (tx : Tx) : Session :=
  match session.handles tx with
  | some handle =>
      if handle.dropped then session
      else session.begin task (.closeLock session.current handle.info.id (.tunnel tx))
  | none => session

def dropTunnel (tx : Tx) (spawned : Task) : Session :=
  match session.handles tx with
  | some handle =>
      if handle.dropped = false ∧ session.calls spawned = none then session.dropHandle tx spawned
      else session
  | none => session

/-- `accept_one` has returned an error. -/
def acceptFailed (error : AcceptError) : Session :=
  (session.setAccept (.retrying error)).record [.acceptFailed error]

/-- One pass of `accept` over the next stream, or the end of the accept channel. Errors of
a single stream only lead to a warning, and `accept_one` is called again. -/
def incoming {Value : Type*} (json : Json Value) (stream : Option RemoteStream) : Session :=
  match session.accept, stream with
  | .accepting, none => session.acceptFailed (.transport .sessionClosed)
  | .accepting, some stream =>
      match acceptPass json session.incomingSession stream.reads with
      | none => session.setAccept .reading
      | some .again => session
      | some (.stopTunnel req) => session.setAccept (.stopping session.current req)
      | some (.conn header) => session.setAccept (.delivering session.current header)
      | some (.failed (.transport error)) => session.acceptFailed (.transport error)
      | some (.failed (.header _)) => session
      | some (.failed (.invalidType _)) => session
      | some .panicked => session.setAccept .panicked
  | _, _ => session

/-- `close_tunnel_with_error` has got the tunnels and found its tunnel. -/
def stopTunnel (inner : Nat) (req : StopTunnel) (tun : BoundTunnel) : Session :=
  ((session.setInner inner fun value =>
      { value with tunnels := value.tunnels.erase req.clientId }).setHandle tun.tx
    TunnelHandle.ended).setAccept
      (.stopSending inner tun.tx (.listenerClosed req.message req.errorCode))

def send (tx : Tx) (message : Except AcceptError ConnInner) (accept : AcceptLoop) : Session :=
  (session.setChannel tx (·.push message)).setAccept accept

/-- Remove the tunnel that a send has failed for. Its fate is sealed when it is a tunnel
without a receiver. -/
def pruneTunnel (inner : Nat) (id : String) : Session :=
  let pruned := (session.setInner inner fun value =>
    { value with tunnels := value.tunnels.erase id }).setAccept .accepting
  match (session.inners inner).tunnels.lookup id with
  | some tun =>
      if (session.channels tun.tx).receiverOpen then pruned
      else pruned.setHandle tun.tx TunnelHandle.ended
  | none => pruned

/-- `try_reconnect` returns an error. Only `Canceled` ends the retries. -/
def reconnectFailed (error : ConnectError) : Session :=
  (session.setAccept
    (if error = .canceled then .givingUp (.reconnect error)
      else .retrying (.reconnect error))).record [.reconnectFailed error]

/-- The flag is checked, and the connector is called. -/
def startReconnect : Session :=
  if (session.inners session.current).closed then session.reconnectFailed .canceled
  else
    (session.setAccept (.connecting session.current)).record
      [.sent (session.current + 1)
        (.connect (session.inners session.current).builder.serverHost
          (session.inners session.current).builder.serverPort) none]

def sendRebind (old : Nat) (newInner : SessionInner) (entry : Σ _ : String, BoundTunnel)
    (rest : List (Σ _ : String, BoundTunnel)) : Session :=
  (session.setAccept (.awaiting old newInner entry rest)).record
    [.sent (old + 1) (entry.2.rebindRequest entry.1) (some entry.2.tx)]

/-- The new `SessionInner` replaces the old one, and the accept loop goes on with its
`IncomingStreams`, which have no session. -/
def swap (old : Nat) (newInner : SessionInner) : Session :=
  { (session.setAccept .accepting).record [.reconnected] with
    inners := Function.update session.inners (old + 1) newInner
    current := old + 1
    incomingSession := false }

/-- All tunnels of the last `SessionInner` are drained. -/
def startDrain (error : AcceptError) (order : List (Σ _ : String, BoundTunnel)) : Session :=
  { (session.setInner session.current fun value => { value with tunnels := ∅ }).setAccept
      (.draining session.current error (order.map (·.2.tx))) with
    handles := fun tx =>
      if tx ∈ order.map (·.2.tx) then (session.handles tx).map TunnelHandle.ended
      else session.handles tx }

/-- The accept loop goes on to its next await. Where it iterates over the tunnels, `order`
has to be some order of them. -/
def acceptResume (order : List (Σ _ : String, BoundTunnel)) : Session :=
  match session.accept with
  | .stopping inner req =>
      match (session.inners inner).tunnels.lookup req.clientId with
      | some tun => session.stopTunnel inner req tun
      | none => session.setAccept .accepting
  | .stopSending _ tx error =>
      if (session.channels tx).Full then session
      else if (session.channels tx).receiverOpen then session.send tx (.error error) .accepting
      else session.setAccept .accepting
  | .delivering inner header =>
      match (session.inners inner).tunnels.lookup header.id with
      | some tun =>
          session.setAccept (.sending inner header.id tun.tx (tun.connInner header))
      | none => session.setAccept .accepting
  | .sending inner id tx conn =>
      if (session.channels tx).Full then session
      else if (session.channels tx).receiverOpen then session.send tx (.ok conn) .accepting
      else session.setAccept (.pruning inner id)
  | .pruning inner id => session.pruneTunnel inner id
  | .retrying _ => session.startReconnect
  | .locking old newInner =>
      if order.Perm (session.inners old).tunnels.entries then
        session.setAccept (.binding old newInner order)
      else session
  | .binding old newInner (entry :: rest) => session.sendRebind old newInner entry rest
  | .binding old newInner [] => session.setAccept (.swapping old newInner)
  | .swapping old newInner => session.swap old newInner
  | .givingUp error =>
      if order.Perm (session.inners session.current).tunnels.entries then
        session.startDrain error order
      else session
  | .draining inner error (tx :: rest) =>
      if (session.channels tx).Full then session
      else if (session.channels tx).receiverOpen then
        session.send tx (.error error) (.draining inner error rest)
      else session.setAccept (.draining inner error rest)
  | .draining _ _ [] => session.setAccept .finished
  | _ => session

def connectorAnswer (answer : Except ConnectError Unit) : Session :=
  match session.accept, answer with
  | .connecting old, .ok () =>
      (session.setAccept (.authenticating old)).record
        [.sent (old + 1) (.auth ((session.inners old).builder.id.getD "")
          ((session.inners old).builder.cookie.getD "")) none]
  | .connecting _, .error error => session.reconnectFailed error
  | _, _ => session

/-- The new `SessionInner` has no tunnels yet. -/
def authAnswer (answer : Except RpcError AuthResp) : Session :=
  match session.accept, answer with
  | .authenticating old, .ok resp =>
      session.setAccept (.locking old
        { closed := false
          tunnels := ∅
          builder := { (session.inners old).builder with
            cookie := some resp.cookie
            id := some resp.clientId }
          bindings := [] })
  | .authenticating _, .error error => session.reconnectFailed (.auth error)
  | _, _ => session

def rebindAnswer (answer : Except RpcError String) : Session :=
  match session.accept, answer with
  | .awaiting old newInner entry rest, .ok respId =>
      session.setAccept (.binding old (rebound newInner entry respId) rest)
  | .awaiting _ _ _ _, .error error => session.reconnectFailed (.rebind error)
  | _, _ => session

def receive (tx : Tx) : Session :=
  session.setChannel tx fun channel => { channel with queue := channel.queue.tail }

def step {Value : Type*} (json : Json Value) (session : Session) : Label → Session
  | .startTunnel task cfg => session.begin task (.startLock session.current cfg)
  | .closeTunnel task id => session.begin task (.closeLock session.current id .session)
  | .closeHandle task tx => session.closeHandle task tx
  | .closeSession task => session.begin task (.sessionLock session.current)
  | .dropTunnel tx spawned => session.dropTunnel tx spawned
  | .resume task => session.resume task
  | .bindAnswer task answer => session.bindAnswer task answer
  | .labelAnswer task answer => session.labelAnswer task answer
  | .unbindAnswer task answer => session.unbindAnswer task answer
  | .goAwayAnswer task answer => session.goAwayAnswer task answer
  | .receive tx => session.receive tx
  | .incoming stream => session.incoming json stream
  | .acceptResume order => session.acceptResume order
  | .connectorAnswer answer => session.connectorAnswer answer
  | .authAnswer answer => session.authAnswer answer
  | .rebindAnswer answer => session.rebindAnswer answer

theorem startBound_inners (task : Task) (inner : Nat) (tunnel : TunnelInnerInfo × BoundTunnel) :
    (session.startBound task inner tunnel).inners = (session.setInner inner fun value =>
      { value with bindings := value.bindings ++ [(tunnel.2.tx, tunnel.1.id)] }).inners := rfl

theorem insertTunnel_inners (task : Task) (inner : Nat) (info : TunnelInnerInfo)
    (bound : BoundTunnel) :
    (session.insertTunnel task inner info bound).inners = (session.setInner inner fun value =>
      { value with tunnels := value.tunnels.insert info.id bound }).inners := rfl

theorem storeClosed_inners (task : Task) (inner : Nat) (res : Except RpcError Unit) :
    (session.storeClosed task inner res).inners = (session.setInner inner fun value =>
      { value with closed := true }).inners := rfl

theorem stopTunnel_inners (inner : Nat) (req : StopTunnel) (tun : BoundTunnel) :
    (session.stopTunnel inner req tun).inners = (session.setInner inner fun value =>
      { value with tunnels := value.tunnels.erase req.clientId }).inners := rfl

theorem startDrain_inners (error : AcceptError) (order : List (Σ _ : String, BoundTunnel)) :
    (session.startDrain error order).inners = (session.setInner session.current fun value =>
      { value with tunnels := ∅ }).inners := rfl

section RemoveTunnel

variable (task : Task) (inner : Nat) (id : String) (via : Via)

@[simp]
theorem removeTunnel_inners : (session.removeTunnel task inner id via).inners =
    (session.setInner inner fun value =>
      { value with tunnels := value.tunnels.erase id }).inners := by
  cases via <;> rfl

@[simp]
theorem removeTunnel_current :
    (session.removeTunnel task inner id via).current = session.current := by
  cases via <;> rfl

@[simp]
theorem removeTunnel_accept :
    (session.removeTunnel task inner id via).accept = session.accept := by
  cases via <;> rfl

@[simp]
theorem removeTunnel_calls : (session.removeTunnel task inner id via).calls =
    Function.update session.calls task none := by
  cases via <;> rfl

@[simp]
theorem removeTunnel_handles : (session.removeTunnel task inner id via).handles =
    fun tx => (session.handles tx).map (·.close id) := by
  cases via <;> rfl

@[simp]
theorem removeTunnel_nextTx :
    (session.removeTunnel task inner id via).nextTx = session.nextTx := by
  cases via <;> rfl

@[simp]
theorem removeTunnel_client :
    (session.removeTunnel task inner id via).client = session.client := by
  cases via <;> rfl

@[simp]
theorem removeTunnel_log :
    (session.removeTunnel task inner id via).log = via.ran ++ session.log := by
  cases via <;> rfl

end RemoveTunnel

section PruneTunnel

variable (inner : Nat) (id : String)

theorem pruneTunnel_eq : ∃ handles, session.pruneTunnel inner id =
    { (session.setInner inner fun value =>
        { value with tunnels := value.tunnels.erase id }).setAccept .accepting with
      handles := handles } := by
  unfold pruneTunnel
  dsimp only
  split
  · split
    · exact ⟨_, rfl⟩
    · exact ⟨_, rfl⟩
  · exact ⟨_, rfl⟩

@[simp]
theorem pruneTunnel_inners : (session.pruneTunnel inner id).inners =
    (session.setInner inner fun value =>
      { value with tunnels := value.tunnels.erase id }).inners := by
  obtain ⟨handles, same⟩ := session.pruneTunnel_eq inner id
  rw [same]
  rfl

@[simp]
theorem pruneTunnel_current : (session.pruneTunnel inner id).current = session.current := by
  obtain ⟨handles, same⟩ := session.pruneTunnel_eq inner id
  rw [same]
  rfl

@[simp]
theorem pruneTunnel_accept : (session.pruneTunnel inner id).accept = .accepting := by
  obtain ⟨handles, same⟩ := session.pruneTunnel_eq inner id
  rw [same]
  rfl

@[simp]
theorem pruneTunnel_calls : (session.pruneTunnel inner id).calls = session.calls := by
  obtain ⟨handles, same⟩ := session.pruneTunnel_eq inner id
  rw [same]
  rfl

@[simp]
theorem pruneTunnel_channels : (session.pruneTunnel inner id).channels = session.channels := by
  obtain ⟨handles, same⟩ := session.pruneTunnel_eq inner id
  rw [same]
  rfl

@[simp]
theorem pruneTunnel_nextTx : (session.pruneTunnel inner id).nextTx = session.nextTx := by
  obtain ⟨handles, same⟩ := session.pruneTunnel_eq inner id
  rw [same]
  rfl

@[simp]
theorem pruneTunnel_incomingSession :
    (session.pruneTunnel inner id).incomingSession = session.incomingSession := by
  obtain ⟨handles, same⟩ := session.pruneTunnel_eq inner id
  rw [same]
  rfl

@[simp]
theorem pruneTunnel_log : (session.pruneTunnel inner id).log = session.log := by
  obtain ⟨handles, same⟩ := session.pruneTunnel_eq inner id
  rw [same]
  rfl

end PruneTunnel

variable {session} in
/-- What a change of one `SessionInner` keeps, it keeps for all of them. -/
theorem setInner_field {next : Session} {inner : Nat} {change : SessionInner → SessionInner}
    {Field : Type*} (inners : next.inners = (session.setInner inner change).inners)
    (field : SessionInner → Field) (same : ∀ value, field (change value) = field value)
    (other : Nat) : field (next.inners other) = field (session.inners other) := by
  simp only [inners, setInner, Function.update_apply]
  split
  · rename_i equal
    rw [same, equal]
  · rfl

end Session

def noJson : Json Unit where
  fromSlice := fun _ => none
  stopTunnel := fun _ => none
  proxyHeader := fun _ => none

def someBuilder : SessionBuilder where
  serverHost := "connect.ngrok-agent.com"
  serverPort := 443
  cookie := none
  id := none

def httpConfig : TunnelConfig where
  proto := "http"
  opts := some (.http .none)
  extra := ⟨"", "", "", [], false⟩
  labels := []
  forwardsTo := "localhost:8080"
  forwardsProto := ""
  verifyUpstreamTls := true
  hasOpts := fun _ => rfl

def edgeConfig : TunnelConfig where
  proto := ""
  opts := none
  extra := ⟨"", "", "", [], false⟩
  labels := [("edge", "edghts_1")]
  forwardsTo := "localhost:8080"
  forwardsProto := ""
  verifyUpstreamTls := true
  hasOpts := fun labeled => absurd rfl labeled

def httpResp (id : String) : BindResp where
  clientId := id
  url := "https://example.ngrok.app"
  proto := "http"
  bindOpts := .http .none
  token := "token"

/-- The entry of the current map after `Label.startHttp`. -/
def httpEntry (id : String) (tx : Tx) : Σ _ : String, BoundTunnel :=
  ⟨id, (httpConfig.endpoint (httpResp id) tx).2⟩

/-- The entry of the current map after `Label.startEdge`. -/
def edgeEntry (id : String) (tx : Tx) : Σ _ : String, BoundTunnel :=
  ⟨id, (edgeConfig.labeled id tx).2⟩

namespace Label

def startHttp (task : Task) (id : String) : List Label :=
  [.startTunnel task httpConfig, .resume task, .bindAnswer task (.ok (httpResp id)), .resume task]

def startEdge (task : Task) (id : String) : List Label :=
  [.startTunnel task edgeConfig, .resume task, .labelAnswer task (.ok id), .resume task]

def reconnect : List Label :=
  [.incoming none, .acceptResume [], .connectorAnswer (.ok ()), .authAnswer (.ok ⟨"id", "cookie"⟩)]

def rebindOne (entry : Σ _ : String, BoundTunnel) (respId : String) : List Label :=
  [.acceptResume [entry], .acceptResume [], .rebindAnswer (.ok respId), .acceptResume [],
    .acceptResume []]

end Label

end Agent

end NgrokRust
