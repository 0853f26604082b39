import NgrokRust.AgentRegistryRuns

/-!
# Stop requests for tunnels

`IncomingStreams::accept` closes a tunnel through its reference to the session.
`SessionBuilder::connect` sets this reference; the `IncomingStreams` that `try_reconnect`
returns have none, and with them every stop request is dropped unread.
-/

namespace NgrokRust

namespace Agent

open KeyedRoutes LabelledRuns

/-- The tunnels that the accept loop still has to send to. -/
def AcceptLoop.sendsTo : AcceptLoop → List Tx
  | .stopSending _ tx _ => [tx]
  | .sending _ _ tx _ => [tx]
  | .draining _ _ rest => rest
  | _ => []

/-- The remote opens a stream of the type `STOP_TUNNEL_REQ` with a `StopTunnel`. -/
def RequestsStop {Value : Type*} (json : Json Value) (stream : RemoteStream) (req : StopTunnel) :
    Prop :=
  ∃ typed, heartbeatPass stream.reads = some (.ok (some typed)) ∧ typed.typ = stopTunnelReq ∧
    readReq json (typed.inner.symbols.length + 2) [] typed.inner = some (.ok req)

theorem acceptPass_of_requestsStop {Value : Type*} {json : Json Value} {stream : RemoteStream}
    {req : StopTunnel} (request : RequestsStop json stream req) (hasSession : Bool) :
    acceptPass json hasSession stream.reads =
      some (if hasSession then .stopTunnel req else .again) := by
  obtain ⟨typed, passed, typ, read⟩ := request
  have other : ¬ (stopTunnelReq = restartReq ∨ stopTunnelReq = updateReq ∨
      stopTunnelReq = stopReq) := by decide
  simp only [acceptPass, passed, typ, other, if_false, if_true, read]
  cases hasSession <;> rfl

namespace Session

variable {Value : Type*} {json : Json Value} {session next : Session} {label : Label}

/-- The messages that the channel of a tunnel ever took. -/
def taken (session : Session) (tx : Tx) : List (Except AcceptError ConnInner) :=
  (session.channels tx).taken

/-- A tunnel is told that it was stopped. Until its channel has room the accept loop waits
with the error, unless the receiver goes away. -/
def Told (json : Json Value) (inner : Nat) (tx : Tx) (error : AcceptError)
    (before : List (Except AcceptError ConnInner)) (session : Session) : Prop :=
  session.taken tx = before ++ [.error error] ∨
    (session.channels tx).receiverOpen = false ∧ session.taken tx = before ∨
      session.accept = .stopSending inner tx error ∧ session.taken tx = before ∧
        (¬ (session.channels tx).Full → ∀ order,
          (session.step json (.acceptResume order)).taken tx = before ++ [.error error])

/-- The stop request is obeyed: the tunnel leaves the current map, and from then on gets
exactly one error with the message and the code of the request. -/
def StopWorks (json : Json Value) (session : Session) (stream : RemoteStream) (req : StopTunnel)
    (tx : Tx) : Prop :=
  let stopped := run (Session.step json) session [.incoming (some stream), .acceptResume []]
  (stopped.inners stopped.current).tunnels.lookup req.clientId = none ∧
    ∀ later, Reaches (Session.step json) anyLabel stopped later →
      Told json session.current tx (.listenerClosed req.message req.errorCode)
        (session.taken tx) later

/-- The reference to the session is there until the first reconnect. -/
theorem incomingSession_step (transition : Transition json session label next)
    (before : session.incomingSession = true ↔ .reconnected ∉ session.log) :
    next.incomingSession = true ↔ .reconnected ∉ next.log := by
  have unlogged : ∀ events, .reconnected ∉ events → next.log = events ++ session.log →
      next.incomingSession = session.incomingSession →
        (next.incomingSession = true ↔ .reconnected ∉ next.log) := by
    intro events quiet log same
    rw [log, same, before, List.mem_append, not_or]
    exact (and_iff_right quiet).symm
  cases transition with
  | swap =>
      refine ⟨fun still => ?_, fun never => absurd List.mem_cons_self never⟩
      cases still
  | startRequest | closeRequest | goAwayRequest | storeClosed | acceptEnded | transportFailed
  | canceled | connect | authenticate | sendRebind | reconnectFailed =>
      exact unlogged [_] (by simp) rfl rfl
  | removeTunnel =>
      rename_i task inner id via call unlocked
      refine unlogged via.ran ?_ (removeTunnel_log ..) ?_
      · cases via <;> simp [Via.ran]
      · cases via <;> rfl
  | closeFailed =>
      rename_i task error inner id via call
      refine unlogged via.ran ?_ rfl rfl
      cases via <;> simp [Via.ran]
  | prune =>
      exact unlogged [] List.not_mem_nil (pruneTunnel_log ..) (pruneTunnel_incomingSession ..)
  | _ => exact unlogged [] List.not_mem_nil rfl rfl

theorem incomingSession_iff {builder : SessionBuilder}
    (reaches : Reaches (Session.step json) anyLabel (connected builder) session) :
    session.incomingSession = true ↔ .reconnected ∉ session.log :=
  Reaches.invariant (fun session => session.incomingSession = true ↔ .reconnected ∉ session.log)
    (fun _ _ _ before => incomingSession_step (transition_step ..) before) reaches
    (by simp [connected])

def Untold (session next : Session) (tx : Tx) : Prop :=
  next.taken tx = session.taken tx ∧
    ((session.channels tx).receiverOpen = false → (next.channels tx).receiverOpen = false)

theorem untold_of_channels {tx : Tx} (same : next.channels tx = session.channels tx) :
    Untold session next tx := by
  rw [Untold, taken, taken, same]
  exact ⟨rfl, id⟩

theorem untold_setChannel {tx other : Tx} (change : TunnelChannel → TunnelChannel)
    (channels : next.channels =
      Function.update session.channels other (change (session.channels other)))
    (taken : ∀ channel, (change channel).taken = channel.taken)
    (closed : ∀ channel, channel.receiverOpen = false → (change channel).receiverOpen = false) :
    Untold session next tx := by
  simp only [Untold, Session.taken, channels, Function.update_apply]
  split
  · rename_i same
    rw [same]
    exact ⟨taken _, closed _⟩
  · exact ⟨rfl, id⟩

/-- The accept loop sends only to the tunnels that it has to send to, and then moves on. -/
theorem untold_step (transition : Transition json session label next) {tx : Tx}
    (known : tx < session.nextTx)
    (spared : tx ∈ session.accept.sendsTo → next.accept = session.accept) :
    Untold session next tx := by
  cases transition with
  | startRequest call =>
      refine untold_of_channels ?_
      exact Function.update_of_ne (Nat.ne_of_lt known) _ _
  | removeTunnel =>
      rename_i task inner id via call unlocked
      cases via with
      | session | dropped => exact untold_of_channels rfl
      | tunnel other =>
          exact untold_setChannel (fun channel => { channel with receiverOpen := false }) rfl
            (fun _ => rfl) (fun _ _ => rfl)
  | dropTunnel =>
      exact untold_setChannel (fun channel => { channel with queue := [], receiverOpen := false })
        rfl (fun _ => rfl) (fun _ _ => rfl)
  | receive =>
      exact untold_setChannel (fun channel => { channel with queue := channel.queue.tail }) rfl
        (fun _ => rfl) (fun _ closed => closed)
  | stopSent accept | sent accept =>
      refine untold_of_channels (Function.update_of_ne ?_ _ _)
      rintro rfl
      rw [accept] at spared
      cases spared (List.mem_singleton_self _)
  | drainSent accept =>
      refine untold_of_channels (Function.update_of_ne ?_ _ _)
      rintro rfl
      rw [accept] at spared
      have moved := spared List.mem_cons_self
      simp [send, setAccept] at moved
  | prune =>
      exact untold_of_channels (by rw [pruneTunnel_channels])
  | _ => exact untold_of_channels rfl

/-- What can happen to an accept loop that waits with the error for a stopped tunnel. -/
theorem waiting_cases (transition : Transition json session label next) {inner : Nat} {tx : Tx}
    {error : AcceptError} (waiting : session.accept = .stopSending inner tx error) :
    next.accept = session.accept ∨ next = session.send tx (.error error) .accepting ∨
      (session.channels tx).receiverOpen = false ∧ next = session.setAccept .accepting := by
  cases transition with
  | stopSent accept =>
      rw [waiting] at accept
      cases accept
      exact .inr (.inl rfl)
  | nothingToDo accept =>
      rw [waiting] at accept
      obtain ⟨_, _, other⟩ | ⟨inner', tx', error', same, closed⟩ | ⟨_, _, other⟩ := accept
      · cases other
      · cases same
        exact .inr (.inr ⟨closed, rfl⟩)
      · cases other
  | reconnectFailed accept =>
      rw [waiting] at accept
      obtain ⟨_, other⟩ | ⟨_, other⟩ | ⟨_, _, _, _, other⟩ := accept <;> cases other
  | acceptEnded accept | transportFailed accept | stopRequested accept | connArrived accept
  | stalled accept | panicked accept | stopTunnel accept | deliver accept | sent accept
  | sendFailed accept | prune accept | canceled accept | connect accept | authenticate accept
  | authenticated accept | lock accept | sendRebind accept | rebindAnswered accept | unlock accept
  | swap accept | startDrain accept | drainSent accept | drainLost accept | drained accept =>
      rw [waiting] at accept
      cases accept
  | removeTunnel => exact .inl (removeTunnel_accept ..)
  | _ => exact .inl rfl

/-- A tunnel that is gone gets no more messages. -/
theorem spared_step (transition : Transition json session label next) {tx : Tx}
    (registered : session.Registered) (gone : session.Gone tx)
    (spared : tx ∉ session.accept.sendsTo) : tx ∉ next.accept.sendsTo := by
  cases transition with
  | stopTunnel accept found =>
      rename_i order inner req tun
      obtain rfl : inner = session.current := registered.inner inner (by rw [accept]; rfl)
      intro mem
      cases List.mem_singleton.1 mem
      exact gone.unrouted req.clientId (mem_routes_iff.2 ⟨tun, found, rfl⟩)
  | deliver accept found =>
      rename_i order inner header tun
      obtain rfl : inner = session.current := registered.inner inner (by rw [accept]; rfl)
      intro mem
      cases List.mem_singleton.1 mem
      exact gone.unrouted header.id (mem_routes_iff.2 ⟨tun, found, rfl⟩)
  | startDrain accept perm =>
      intro mem
      obtain ⟨entry, entry_, rfl⟩ := List.mem_map.1 mem
      exact gone.unrouted entry.1 (List.mem_map.2 ⟨entry, perm.subset entry_, rfl⟩)
  | drainSent accept | drainLost accept =>
      intro mem
      exact spared (by rw [accept]; exact List.mem_cons_of_mem _ mem)
  | removeTunnel => rwa [removeTunnel_accept]
  | prune =>
      rw [pruneTunnel_accept]
      exact List.not_mem_nil
  | canceled | reconnectFailed =>
      simp only [reconnectFailed_accept]
      split <;> exact List.not_mem_nil
  | acceptEnded | transportFailed | stopRequested | connArrived | stalled | panicked | stopSent
  | sent | sendFailed | nothingToDo | connect | authenticate | authenticated | lock | sendRebind
  | rebindAnswered | unlock | swap | drained => exact List.not_mem_nil
  | _ => exact spared

/-- The tunnel was stopped: it is gone, and was told or will be. -/
structure Stopped (inner : Nat) (tx : Tx) (error : AcceptError)
    (before : List (Except AcceptError ConnInner)) (session : Session) : Prop where
  registered : session.Registered
  gone : session.Gone tx
  told : session.accept = .stopSending inner tx error ∧ session.taken tx = before ∨
    tx ∉ session.accept.sendsTo ∧ (session.taken tx = before ++ [.error error] ∨
      (session.channels tx).receiverOpen = false ∧ session.taken tx = before)

theorem Stopped.step {inner : Nat} {tx : Tx} {error : AcceptError}
    {before : List (Except AcceptError ConnInner)} (stopped : Stopped inner tx error before session)
    (transition : Transition json session label next) : Stopped inner tx error before next := by
  have step := registryStep_of_transition transition
  have known : tx < session.nextTx := stopped.registered.bounded tx stopped.gone.known
  refine ⟨stopped.registered.step step, stopped.gone.step stopped.registered step, ?_⟩
  obtain ⟨waiting, same⟩ | ⟨spared, told⟩ := stopped.told
  · obtain kept | rfl | ⟨closed, rfl⟩ := waiting_cases transition waiting
    · refine .inl ⟨kept.trans waiting, ?_⟩
      rw [(untold_step transition known fun _ => kept).1]
      exact same
    · refine .inr ⟨List.not_mem_nil, .inl ?_⟩
      simp only [taken, send, setAccept, setChannel, Function.update_self, TunnelChannel.push]
      rw [← same, taken]
    · exact .inr ⟨List.not_mem_nil, .inr ⟨closed, same⟩⟩
  · obtain ⟨taken, closed⟩ := untold_step transition known fun mem => absurd mem spared
    refine .inr ⟨spared_step transition stopped.registered stopped.gone spared, ?_⟩
    rw [taken]
    exact told.imp id fun lost => ⟨closed lost.1, lost.2⟩

theorem Stopped.toTold {inner : Nat} {tx : Tx} {error : AcceptError}
    {before : List (Except AcceptError ConnInner)}
    (stopped : Stopped inner tx error before session) :
    Told json inner tx error before session := by
  obtain ⟨waiting, same⟩ | ⟨-, told | lost⟩ := stopped.told
  · by_cases receives : (session.channels tx).receiverOpen = true
    · refine .inr (.inr ⟨waiting, same, fun room order => ?_⟩)
      simp only [Session.step, acceptResume, waiting, room, if_false, receives, if_true, taken,
        send, setAccept, setChannel, Function.update_self, TunnelChannel.push]
      rw [← same, taken]
    · exact .inr (.inl ⟨Bool.eq_false_of_not_eq_true receives, same⟩)
  · exact .inl told
  · exact .inr (.inl lost)

theorem run_stopTunnel {stream : RemoteStream} {req : StopTunnel} {tun : BoundTunnel}
    (accepting : session.accept = .accepting) (hasSession : session.incomingSession = true)
    (request : RequestsStop json stream req)
    (bound : (session.inners session.current).tunnels.lookup req.clientId = some tun) :
    run (Session.step json) session [.incoming (some stream), .acceptResume []] =
      (session.setAccept (.stopping session.current req)).stopTunnel session.current req tun := by
  have pass := acceptPass_of_requestsStop request session.incomingSession
  rw [hasSession] at pass
  simp only [run_cons, run_nil, step, incoming, accepting, hasSession, pass, if_true, acceptResume,
    setAccept, bound]

theorem stopped_of_stopTunnel (registered : session.Registered) (distinct : session.Distinct)
    {req : StopTunnel} {tun : BoundTunnel}
    (bound : (session.inners session.current).tunnels.lookup req.clientId = some tun)
    (next_ : next = (session.setAccept (.stopping session.current req)).stopTunnel
      session.current req tun) (registered' : next.Registered) :
    Stopped session.current tun.tx (.listenerClosed req.message req.errorCode)
      (session.taken tun.tx) next := by
  subst next_
  refine ⟨registered', ⟨?_, ?_, fun key => List.not_mem_nil⟩, .inl ⟨rfl, rfl⟩⟩
  · rw [stopTunnel_standing, if_pos rfl, isSome_endStanding]
    exact registered.known _ req.clientId _ (mem_routes_iff.2 ⟨tun, bound, rfl⟩)
  · intro key mem
    have left : (key, tun.tx) ∈ KeyedRoutes.routes BoundTunnel.tx
        ((session.inners session.current).tunnels.erase req.clientId) := by
      simpa [Session.routes, stopTunnel_inners, stopTunnel, setInner, setAccept, setHandle,
        SessionInner.routes] using mem
    have other := (mem_targets_erase bound distinct.routes).1 (List.mem_map_of_mem left)
    exact other.2 rfl

/-- A stop request works in a state that the agent has reached if and only if no reconnect
has succeeded. -/
theorem stopWorks_iff (json : Json Value) (builder : SessionBuilder)
    (reaches : Reaches (Session.step json) anyLabel (connected builder) session)
    (accepting : session.accept = .accepting) {stream : RemoteStream} {req : StopTunnel}
    (request : RequestsStop json stream req) {tun : BoundTunnel}
    (bound : (session.inners session.current).tunnels.lookup req.clientId = some tun) :
    session.StopWorks json stream req tun.tx ↔ .reconnected ∉ session.log := by
  have pass := acceptPass_of_requestsStop request session.incomingSession
  rw [← incomingSession_iff reaches]
  constructor
  · rintro ⟨removed, -⟩
    by_contra noSession
    rw [Bool.eq_false_of_not_eq_true noSession] at pass
    have ignored : run (Session.step json) session [.incoming (some stream), .acceptResume []] =
        session := by
      simp [step, incoming, accepting, pass, acceptResume, Bool.eq_false_of_not_eq_true noSession]
    rw [ignored, bound] at removed
    cases removed
  · intro hasSession
    have ran := run_stopTunnel accepting hasSession request bound
    have stopped := stopped_of_stopTunnel (registered_of_reaches reaches)
      (distinct_of_reaches reaches) bound ran
      (registered_of_reaches (reaches.trans (reaches_run_anyLabel _ _)))
    refine ⟨?_, fun later continues => ?_⟩
    · rw [ran]
      simp [stopTunnel, setInner, setAccept, setHandle]
    · refine Stopped.toTold (Reaches.invariant
        (Stopped session.current tun.tx (.listenerClosed req.message req.errorCode)
          (session.taken tun.tx)) ?_ continues stopped)
      exact fun _ _ _ stopped => stopped.step (transition_step ..)

/-- JSON of the kind that a stop request for `tn_1` comes in: one value of two bytes. -/
def stopJson : Json Unit where
  fromSlice := fun bytes => if bytes = [123, 125] then some () else none
  stopTunnel := fun _ => some ⟨"tn_1", "removed", some "ERR_NGROK_1"⟩
  proxyHeader := fun _ => none

def stopStream : RemoteStream := ⟨[[0, 0, 0, 9], [123, 125]], .fin⟩

theorem requestsStop_stopStream :
    RequestsStop stopJson stopStream ⟨"tn_1", "removed", some "ERR_NGROK_1"⟩ :=
  ⟨⟨9, ⟨[[], [123, 125]], .eof⟩⟩, by decide +kernel, rfl, by decide +kernel⟩

/-- A tunnel is stopped before any reconnect. -/
theorem stopWorks_firstSession :
    let session := run (Session.step stopJson) (connected someBuilder) (Label.startHttp 0 "tn_1")
    session.StopWorks stopJson stopStream ⟨"tn_1", "removed", some "ERR_NGROK_1"⟩ 0 := by
  intro session
  have accepting : session.accept = .accepting := by rfl
  have bound : (session.inners session.current).tunnels.lookup "tn_1" =
      some (httpConfig.endpoint (httpResp "tn_1") 0).2 := by rfl
  have reaches : Reaches (Session.step stopJson) anyLabel (connected someBuilder) session :=
    reaches_run_anyLabel _ _
  exact (stopWorks_iff stopJson someBuilder reaches accepting requestsStop_stopStream bound).2
    (by decide +kernel)

/-- After one reconnect the stop request of a bound tunnel is ignored. -/
theorem stopIgnored_afterReconnect :
    let session := run (Session.step stopJson) (connected someBuilder)
      (Label.startHttp 0 "tn_1" ++ Label.reconnect ++ Label.rebindOne (httpEntry "tn_1" 0) "")
    let stopped := run (Session.step stopJson) session
      [.incoming (some stopStream), .acceptResume []]
    session.accept = .accepting ∧
      RequestsStop stopJson stopStream ⟨"tn_1", "removed", some "ERR_NGROK_1"⟩ ∧
      session.routes = [("tn_1", 0)] ∧ stopped.routes = [("tn_1", 0)] ∧ stopped.taken 0 = [] ∧
        ¬ session.StopWorks stopJson stopStream ⟨"tn_1", "removed", some "ERR_NGROK_1"⟩ 0 := by
  intro session stopped
  refine ⟨rfl, requestsStop_stopStream, rfl, by decide +kernel, by decide +kernel, ?_⟩
  rintro ⟨removed, -⟩
  have stays : ((stopped.inners stopped.current).tunnels.lookup "tn_1").isSome = true := by
    decide +kernel
  change (stopped.inners stopped.current).tunnels.lookup "tn_1" = none at removed
  rw [removed] at stays
  cases stays

end Session

end Agent

end NgrokRust
