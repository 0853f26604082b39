import NgrokRust.AgentSession

/-!
# The transitions of the agent session

Every step of the session is one of the transitions below, each with the conditions
under which it is taken.  The invariants of the session go through them case by case.
-/

namespace NgrokRust

namespace Agent

open Session

variable {Value : Type*} {json : Json Value} {session : Session}

/-- One step, by the label that leads to it. A label that does not apply does nothing. -/
inductive Transition (json : Json Value) (session : Session) : Label → Session → Prop where
  | idle (label : Label) : Transition json session label session
  | startTunnel {task : Task} {cfg : TunnelConfig} (free : session.calls task = none) :
      Transition json session (.startTunnel task cfg)
        (session.setCall task (some (.startLock session.current cfg)))
  | closeTunnel {task : Task} {id : String} (free : session.calls task = none) :
      Transition json session (.closeTunnel task id)
        (session.setCall task (some (.closeLock session.current id .session)))
  | closeHandle {task : Task} {tx : Tx} {handle : TunnelHandle}
      (found : session.handles tx = some handle) (kept : handle.dropped = false)
      (free : session.calls task = none) :
      Transition json session (.closeHandle task tx)
        (session.setCall task (some (.closeLock session.current handle.info.id (.tunnel tx))))
  | closeSession {task : Task} (free : session.calls task = none) :
      Transition json session (.closeSession task)
        (session.setCall task (some (.sessionLock session.current)))
  | dropTunnel {tx : Tx} {spawned : Task} {handle : TunnelHandle}
      (found : session.handles tx = some handle) (kept : handle.dropped = false)
      (free : session.calls spawned = none) :
      Transition json session (.dropTunnel tx spawned) (session.dropHandle tx spawned)
  | startRequest {task : Task} {inner : Nat} {cfg : TunnelConfig}
      (call : session.calls task = some (.startLock inner cfg))
      (unlocked : session.client inner = none) :
      Transition json session (.resume task) (session.startRequest task inner cfg)
  | insertTunnel {task : Task} {inner : Nat} {info : TunnelInnerInfo} {bound : BoundTunnel}
      (call : session.calls task = some (.startInsert inner info bound))
      (unlocked : session.accept.locks ≠ some inner) :
      Transition json session (.resume task) (session.insertTunnel task inner info bound)
  | closeSpawned {task : Task} {tx : Tx} {handle : TunnelHandle}
      (call : session.calls task = some (.closeSpawned tx))
      (found : session.handles tx = some handle) :
      Transition json session (.resume task)
        (session.setCall task (some (.closeLock session.current handle.info.id (.dropped tx))))
  | closeRequest {task : Task} {inner : Nat} {id : String} {via : Via}
      (call : session.calls task = some (.closeLock inner id via))
      (unlocked : session.client inner = none) :
      Transition json session (.resume task) (session.closeRequest task inner id via)
  | removeTunnel {task : Task} {inner : Nat} {id : String} {via : Via}
      (call : session.calls task = some (.closeRemove inner id via))
      (unlocked : session.accept.locks ≠ some inner) :
      Transition json session (.resume task) (session.removeTunnel task inner id via)
  | goAwayRequest {task : Task} {inner : Nat}
      (call : session.calls task = some (.sessionLock inner))
      (unlocked : session.client inner = none) :
      Transition json session (.resume task) (session.goAwayRequest task inner)
  | storeClosed {task : Task} {inner : Nat} {res : Except RpcError Unit}
      (call : session.calls task = some (.sessionStore inner res)) :
      Transition json session (.resume task) (session.storeClosed task inner res)
  | startBound {label : Label} {task : Task} {inner : Nat} {cfg : TunnelConfig} {tx : Tx}
      {tunnel : TunnelInnerInfo × BoundTunnel}
      (call : session.calls task = some (.startRpc inner cfg tx)) (same : tunnel.2.tx = tx) :
      Transition json session label (session.startBound task inner tunnel)
  | startFailed {label : Label} {task : Task} {inner : Nat} {cfg : TunnelConfig} {tx : Tx}
      (call : session.calls task = some (.startRpc inner cfg tx)) :
      Transition json session label (session.failCall task inner)
  | closeAnswered {task : Task} {inner : Nat} {id : String} {via : Via}
      (call : session.calls task = some (.closeRpc inner id via)) :
      Transition json session (.unbindAnswer task (.ok ()))
        ((session.unlockClient inner).setCall task (some (.closeRemove inner id via)))
  | closeFailed {task : Task} {error : RpcError} {inner : Nat} {id : String} {via : Via}
      (call : session.calls task = some (.closeRpc inner id via)) :
      Transition json session (.unbindAnswer task (.error error))
        (session.closeFailed task inner via)
  | goAwayAnswered {task : Task} {answer : Except RpcError Unit} {inner : Nat}
      (call : session.calls task = some (.sessionGoAway inner)) :
      Transition json session (.goAwayAnswer task answer)
        ((session.unlockClient inner).setCall task (some (.sessionStore inner answer)))
  | receive {tx : Tx} : Transition json session (.receive tx) (session.receive tx)
  | acceptEnded (accept : session.accept = .accepting) :
      Transition json session (.incoming none)
        (session.acceptFailed (.transport .sessionClosed))
  | transportFailed {stream : RemoteStream} {error : Muxado.Error}
      (accept : session.accept = .accepting)
      (pass : acceptPass json session.incomingSession stream.reads =
        some (.failed (.transport error))) :
      Transition json session (.incoming (some stream)) (session.acceptFailed (.transport error))
  | stopRequested {stream : RemoteStream} {req : StopTunnel}
      (accept : session.accept = .accepting)
      (pass : acceptPass json session.incomingSession stream.reads = some (.stopTunnel req)) :
      Transition json session (.incoming (some stream))
        (session.setAccept (.stopping session.current req))
  | connArrived {stream : RemoteStream} {header : ProxyHeader}
      (accept : session.accept = .accepting)
      (pass : acceptPass json session.incomingSession stream.reads = some (.conn header)) :
      Transition json session (.incoming (some stream))
        (session.setAccept (.delivering session.current header))
  | stalled {stream : RemoteStream} (accept : session.accept = .accepting)
      (pass : acceptPass json session.incomingSession stream.reads = none) :
      Transition json session (.incoming (some stream)) (session.setAccept .reading)
  | panicked {stream : RemoteStream} (accept : session.accept = .accepting)
      (pass : acceptPass json session.incomingSession stream.reads = some .panicked) :
      Transition json session (.incoming (some stream)) (session.setAccept .panicked)
  | stopTunnel {order : List (Σ _ : String, BoundTunnel)} {inner : Nat} {req : StopTunnel}
      {tun : BoundTunnel} (accept : session.accept = .stopping inner req)
      (found : (session.inners inner).tunnels.lookup req.clientId = some tun) :
      Transition json session (.acceptResume order) (session.stopTunnel inner req tun)
  | stopSent {order : List (Σ _ : String, BoundTunnel)} {inner : Nat} {tx : Tx}
      {error : AcceptError} (accept : session.accept = .stopSending inner tx error)
      (room : ¬ (session.channels tx).Full) (receives : (session.channels tx).receiverOpen) :
      Transition json session (.acceptResume order) (session.send tx (.error error) .accepting)
  | deliver {order : List (Σ _ : String, BoundTunnel)} {inner : Nat} {header : ProxyHeader}
      {tun : BoundTunnel} (accept : session.accept = .delivering inner header)
      (found : (session.inners inner).tunnels.lookup header.id = some tun) :
      Transition json session (.acceptResume order)
        (session.setAccept (.sending inner header.id tun.tx (tun.connInner header)))
  | sent {order : List (Σ _ : String, BoundTunnel)} {inner : Nat} {id : String} {tx : Tx}
      {conn : ConnInner} (accept : session.accept = .sending inner id tx conn)
      (room : ¬ (session.channels tx).Full) (receives : (session.channels tx).receiverOpen) :
      Transition json session (.acceptResume order) (session.send tx (.ok conn) .accepting)
  | sendFailed {order : List (Σ _ : String, BoundTunnel)} {inner : Nat} {id : String} {tx : Tx}
      {conn : ConnInner} (accept : session.accept = .sending inner id tx conn)
      (closed : (session.channels tx).receiverOpen = false) :
      Transition json session (.acceptResume order) (session.setAccept (.pruning inner id))
  | prune {order : List (Σ _ : String, BoundTunnel)} {inner : Nat} {id : String}
      (accept : session.accept = .pruning inner id) :
      Transition json session (.acceptResume order) (session.pruneTunnel inner id)
  /-- A stop request without its tunnel, a message to a tunnel without its receiver, or a
  connection without its tunnel. -/
  | nothingToDo {order : List (Σ _ : String, BoundTunnel)}
      (accept : (∃ inner req, session.accept = .stopping inner req) ∨
        (∃ inner tx error, session.accept = .stopSending inner tx error ∧
          (session.channels tx).receiverOpen = false) ∨
          ∃ inner header, session.accept = .delivering inner header) :
      Transition json session (.acceptResume order) (session.setAccept .accepting)
  | canceled {order : List (Σ _ : String, BoundTunnel)} {error : AcceptError}
      (accept : session.accept = .retrying error)
      (closed : (session.inners session.current).closed = true) :
      Transition json session (.acceptResume order) (session.reconnectFailed .canceled)
  | connect {order : List (Σ _ : String, BoundTunnel)} {error : AcceptError}
      (accept : session.accept = .retrying error)
      (isOpen : (session.inners session.current).closed = false) :
      Transition json session (.acceptResume order)
        ((session.setAccept (.connecting session.current)).record
          [.sent (session.current + 1)
            (.connect (session.inners session.current).builder.serverHost
              (session.inners session.current).builder.serverPort) none])
  | authenticate {old : Nat} (accept : session.accept = .connecting old) :
      Transition json session (.connectorAnswer (.ok ()))
        ((session.setAccept (.authenticating old)).record
          [.sent (old + 1) (.auth ((session.inners old).builder.id.getD "")
            ((session.inners old).builder.cookie.getD "")) none])
  | authenticated {old : Nat} {resp : AuthResp} (accept : session.accept = .authenticating old) :
      Transition json session (.authAnswer (.ok resp))
        (session.setAccept (.locking old
          { closed := false
            tunnels := ∅
            builder := { (session.inners old).builder with
              cookie := some resp.cookie
              id := some resp.clientId }
            bindings := [] }))
  | lock {order : List (Σ _ : String, BoundTunnel)} {old : Nat} {newInner : SessionInner}
      (accept : session.accept = .locking old newInner)
      (perm : order.Perm (session.inners old).tunnels.entries) :
      Transition json session (.acceptResume order)
        (session.setAccept (.binding old newInner order))
  | sendRebind {order : List (Σ _ : String, BoundTunnel)} {old : Nat} {newInner : SessionInner}
      {entry : Σ _ : String, BoundTunnel} {rest : List (Σ _ : String, BoundTunnel)}
      (accept : session.accept = .binding old newInner (entry :: rest)) :
      Transition json session (.acceptResume order) (session.sendRebind old newInner entry rest)
  | rebindAnswered {old : Nat} {newInner : SessionInner} {entry : Σ _ : String, BoundTunnel}
      {rest : List (Σ _ : String, BoundTunnel)} {respId : String}
      (accept : session.accept = .awaiting old newInner entry rest) :
      Transition json session (.rebindAnswer (.ok respId))
        (session.setAccept (.binding old (rebound newInner entry respId) rest))
  | unlock {order : List (Σ _ : String, BoundTunnel)} {old : Nat} {newInner : SessionInner}
      (accept : session.accept = .binding old newInner []) :
      Transition json session (.acceptResume order)
        (session.setAccept (.swapping old newInner))
  | swap {order : List (Σ _ : String, BoundTunnel)} {old : Nat} {newInner : SessionInner}
      (accept : session.accept = .swapping old newInner) :
      Transition json session (.acceptResume order) (session.swap old newInner)
  /-- The connector, the authentication or one of the requests for tunnels has failed. -/
  | reconnectFailed {label : Label} {error : ConnectError}
      (accept : (∃ old, session.accept = .connecting old) ∨
        (∃ old, session.accept = .authenticating old) ∨
          ∃ old newInner entry rest, session.accept = .awaiting old newInner entry rest) :
      Transition json session label (session.reconnectFailed error)
  | startDrain {order : List (Σ _ : String, BoundTunnel)} {error : AcceptError}
      (accept : session.accept = .givingUp error)
      (perm : order.Perm (session.inners session.current).tunnels.entries) :
      Transition json session (.acceptResume order) (session.startDrain error order)
  | drainSent {order : List (Σ _ : String, BoundTunnel)} {inner : Nat} {error : AcceptError}
      {tx : Tx} {rest : List Tx} (accept : session.accept = .draining inner error (tx :: rest))
      (room : ¬ (session.channels tx).Full) (receives : (session.channels tx).receiverOpen) :
      Transition json session (.acceptResume order)
        (session.send tx (.error error) (.draining inner error rest))
  | drainLost {order : List (Σ _ : String, BoundTunnel)} {inner : Nat} {error : AcceptError}
      {tx : Tx} {rest : List Tx} (accept : session.accept = .draining inner error (tx :: rest))
      (closed : (session.channels tx).receiverOpen = false) :
      Transition json session (.acceptResume order)
        (session.setAccept (.draining inner error rest))
  | drained {order : List (Σ _ : String, BoundTunnel)} {inner : Nat} {error : AcceptError}
      (accept : session.accept = .draining inner error []) :
      Transition json session (.acceptResume order) (session.setAccept .finished)

theorem transition_begin {label : Label} {task : Task} {call : Call}
    (starts : session.calls task = none →
      Transition json session label (session.setCall task (some call))) :
    Transition json session label (session.begin task call) := by
  unfold Session.begin
  split
  · exact starts ‹_›
  · exact .idle _

theorem transition_resume (task : Task) :
    Transition json session (.resume task) (session.resume task) := by
  unfold Session.resume
  split
  · split
    · exact .startRequest ‹_› ‹_›
    · exact .idle _
  · split
    · exact .idle _
    · exact .insertTunnel ‹_› ‹_›
  · split
    · exact .closeSpawned ‹_› ‹_›
    · exact .idle _
  · split
    · exact .closeRequest ‹_› ‹_›
    · exact .idle _
  · split
    · exact .idle _
    · exact .removeTunnel ‹_› ‹_›
  · split
    · exact .goAwayRequest ‹_› ‹_›
    · exact .idle _
  · exact .storeClosed ‹_›
  · exact .idle _

theorem transition_bindAnswer (task : Task) (answer : Except RpcError BindResp) :
    Transition json session (.bindAnswer task answer) (session.bindAnswer task answer) := by
  unfold Session.bindAnswer
  split
  · split
    · split
      · exact .startBound ‹_› rfl
      · exact .startFailed ‹_›
    · exact .idle _
  · exact .idle _

theorem transition_labelAnswer (task : Task) (answer : Except RpcError String) :
    Transition json session (.labelAnswer task answer) (session.labelAnswer task answer) := by
  unfold Session.labelAnswer
  split
  · split
    · exact .idle _
    · split
      · exact .startBound ‹_› rfl
      · exact .startFailed ‹_›
  · exact .idle _

theorem transition_incoming (stream : Option RemoteStream) :
    Transition json session (.incoming stream) (session.incoming json stream) := by
  unfold Session.incoming
  split
  · exact .acceptEnded ‹_›
  · split
    · exact .stalled ‹_› ‹_›
    · exact .idle _
    · exact .stopRequested ‹_› ‹_›
    · exact .connArrived ‹_› ‹_›
    · exact .transportFailed ‹_› ‹_›
    · exact .idle _
    · exact .idle _
    · exact .panicked ‹_› ‹_›
  · exact .idle _

theorem transition_acceptResume (order : List (Σ _ : String, BoundTunnel)) :
    Transition json session (.acceptResume order) (session.acceptResume order) := by
  unfold Session.acceptResume
  split
  · split
    · exact .stopTunnel ‹_› ‹_›
    · exact .nothingToDo (.inl ⟨_, _, ‹_›⟩)
  · split
    · exact .idle _
    · split
      · exact .stopSent ‹_› ‹_› ‹_›
      · exact .nothingToDo (.inr (.inl ⟨_, _, _, ‹_›, Bool.eq_false_of_not_eq_true ‹_›⟩))
  · split
    · exact .deliver ‹_› ‹_›
    · exact .nothingToDo (.inr (.inr ⟨_, _, ‹_›⟩))
  · split
    · exact .idle _
    · split
      · exact .sent ‹_› ‹_› ‹_›
      · exact .sendFailed ‹_› (Bool.eq_false_of_not_eq_true ‹_›)
  · exact .prune ‹_›
  · unfold Session.startReconnect
    split
    · exact .canceled ‹_› ‹_›
    · exact .connect ‹_› (Bool.eq_false_of_not_eq_true ‹_›)
  · split
    · exact .lock ‹_› ‹_›
    · exact .idle _
  · exact .sendRebind ‹_›
  · exact .unlock ‹_›
  · exact .swap ‹_›
  · split
    · exact .startDrain ‹_› ‹_›
    · exact .idle _
  · split
    · exact .idle _
    · split
      · exact .drainSent ‹_› ‹_› ‹_›
      · exact .drainLost ‹_› (Bool.eq_false_of_not_eq_true ‹_›)
  · exact .drained ‹_›
  · exact .idle _

/-- Every step is a transition. -/
theorem transition_step (json : Json Value) (session : Session) (label : Label) :
    Transition json session label (session.step json label) := by
  cases label with
  | startTunnel task cfg => exact transition_begin .startTunnel
  | closeTunnel task id => exact transition_begin .closeTunnel
  | closeHandle task tx =>
      simp only [Session.step, Session.closeHandle]
      split
      · split
        · exact .idle _
        · exact transition_begin (.closeHandle ‹_› (Bool.eq_false_of_not_eq_true ‹_›))
      · exact .idle _
  | closeSession task => exact transition_begin .closeSession
  | dropTunnel tx spawned =>
      simp only [Session.step, Session.dropTunnel]
      split
      · split
        · rename_i found enabled
          exact .dropTunnel found enabled.1 enabled.2
        · exact .idle _
      · exact .idle _
  | resume task => exact transition_resume task
  | bindAnswer task answer => exact transition_bindAnswer task answer
  | labelAnswer task answer => exact transition_labelAnswer task answer
  | unbindAnswer task answer =>
      simp only [Session.step, Session.unbindAnswer]
      split
      · split
        · exact .closeAnswered ‹_›
        · exact .closeFailed ‹_›
      · exact .idle _
  | goAwayAnswer task answer =>
      simp only [Session.step, Session.goAwayAnswer]
      split
      · exact .goAwayAnswered ‹_›
      · exact .idle _
  | receive tx => exact .receive
  | incoming stream => exact transition_incoming stream
  | acceptResume order => exact transition_acceptResume order
  | connectorAnswer answer =>
      simp only [Session.step, Session.connectorAnswer]
      split
      · exact .authenticate ‹_›
      · exact .reconnectFailed (.inl ⟨_, ‹_›⟩)
      · exact .idle _
  | authAnswer answer =>
      simp only [Session.step, Session.authAnswer]
      split
      · exact .authenticated ‹_›
      · exact .reconnectFailed (.inr (.inl ⟨_, ‹_›⟩))
      · exact .idle _
  | rebindAnswer answer =>
      simp only [Session.step, Session.rebindAnswer]
      split
      · exact .rebindAnswered ‹_›
      · exact .reconnectFailed (.inr (.inr ⟨_, _, _, _, ‹_›⟩))
      · exact .idle _

end Agent

end NgrokRust
