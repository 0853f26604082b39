import NgrokRust.AgentRegistryRuns

/-!
# Waiting for room and waiting for the tunnels

`accept_one` holds the tunnels of its `SessionInner` while it waits for room in the channel
of one tunnel, and `close_tunnel_with_error` does so, too.  `start_tunnel` and `close_tunnel`
wait for the tunnels, `start_tunnel` with the client in its hands.  The owner of a tunnel
makes room in its channel, but not while it awaits one of these calls.
-/

namespace NgrokRust

namespace Agent

open KeyedRoutes LabelledRuns

/-- The tunnel that a message of `accept_one` is for, and the `SessionInner` whose tunnels are
locked meanwhile. -/
def AcceptLoop.waitsOn : AcceptLoop → Option (Nat × Tx)
  | .stopSending inner tx _ => some (inner, tx)
  | .sending inner _ tx _ => some (inner, tx)
  | _ => none

/-- The id that `accept_one` looks up next. -/
def AcceptLoop.requested : AcceptLoop → Option (Nat × String)
  | .stopping inner req => some (inner, req.clientId)
  | .delivering inner header => some (inner, header.id)
  | _ => none

/-- The task that starts to await a call. -/
def Label.begins : Label → Option Task
  | .startTunnel task _ => some task
  | .closeTunnel task _ => some task
  | .closeHandle task _ => some task
  | .closeSession task => some task
  | .dropTunnel _ spawned => some spawned
  | _ => none

namespace Session

variable {Value : Type*} {json : Json Value} {session next : Session} {label : Label}

/-- `accept_one` waits for room in the channel of a tunnel. -/
def WaitsForRoom (session : Session) (inner : Nat) (tx : Tx) : Prop :=
  session.accept.waitsOn = some (inner, tx) ∧ (session.channels tx).Full

def WaitsForTunnels (session : Session) (task : Task) (inner : Nat) : Prop :=
  (∃ info bound, session.calls task = some (.startInsert inner info bound)) ∨
    ∃ id via, session.calls task = some (.closeRemove inner id via)

/-- A call waits for the client, which a `start_tunnel` holds that waits for the tunnels. -/
def WaitsBehindClient (session : Session) (task : Task) (inner : Nat) : Prop :=
  (∃ call, session.calls task = some call ∧ ((∃ cfg, call = .startLock inner cfg) ∨
    (∃ id via, call = .closeLock inner id via) ∨ call = .sessionLock inner)) ∧
  ∃ holder, session.client inner = some holder ∧
    ∃ info bound, session.calls holder = some (.startInsert inner info bound)

/-- `accept_one` waits for the owner of a tunnel, which waits for `accept_one`. -/
def Deadlocked (session : Session) : Prop :=
  ∃ inner tx handle, session.WaitsForRoom inner tx ∧ session.handles tx = some handle ∧
    (session.WaitsForTunnels handle.owner inner ∨ session.WaitsBehindClient handle.owner inner)

/-- When `accept_one` gets to a full channel the owner of its tunnel awaits no call, and as
long as it waits there the owner starts none. -/
def ownersReceive (session : Session) (label : Label) : Prop :=
  (∀ task, label.begins = some task → ∀ inner tx handle, session.WaitsForRoom inner tx →
    session.handles tx = some handle → handle.owner ≠ task) ∧
  ∀ order, label = .acceptResume order → ∀ inner id tun handle,
    session.accept.requested = some (inner, id) →
      (session.inners inner).tunnels.lookup id = some tun → (session.channels tun.tx).Full →
        session.handles tun.tx = some handle → session.calls handle.owner = none

/-- While `accept_one` neither waits for room nor looks a tunnel up, owners are free to do
what they like. -/
theorem ownersReceive_of_idle (waits : session.accept.waitsOn = none)
    (requested : session.accept.requested = none) : session.ownersReceive label := by
  refine ⟨fun task _ inner tx handle waiting => ?_, fun order _ inner id tun handle looksUp => ?_⟩
  · rw [WaitsForRoom, waits] at waiting
    cases waiting.1
  · rw [requested] at looksUp
    cases looksUp

/-- Owners for whose tunnels `accept_one` waits are free to receive. -/
structure Responsive (session : Session) : Prop where
  registered : session.Registered
  known : ∀ inner tx, session.accept.waitsOn = some (inner, tx) → (session.standing tx).isSome
  free : ∀ inner tx handle, session.WaitsForRoom inner tx → session.handles tx = some handle →
    session.calls handle.owner = none

theorem Responsive.not_deadlocked (responsive : session.Responsive) : ¬ session.Deadlocked := by
  rintro ⟨inner, tx, handle, waits, found, tunnels | ⟨⟨call, calls, -⟩, -⟩⟩
  · have free := responsive.free inner tx handle waits found
    obtain ⟨info, bound, call⟩ | ⟨id, via, call⟩ := tunnels
    · rw [free] at call
      cases call
    · rw [free] at call
      cases call
  · rw [responsive.free inner tx handle waits found] at calls
    cases calls

/-- A call comes from the task that starts it, or goes on. -/
theorem calls_step (transition : Transition json session label next) {task : Task}
    (idle : session.calls task = none) : next.calls task = none ∨ label.begins = some task := by
  have update : ∀ {other : Task} {call : Option Call},
      next.calls = Function.update session.calls other call →
        (call = none ∨ session.calls other ≠ none ∨ label.begins = some other) →
          next.calls task = none ∨ label.begins = some task := by
    intro other call calls reason
    rw [calls, Function.update_apply]
    split
    · rename_i same
      subst same
      obtain ended | busy | begins := reason
      · exact .inl ended
      · exact absurd idle busy
      · exact .inr begins
    · exact .inl idle
  cases transition with
  | startTunnel | closeTunnel | closeHandle | closeSession | dropTunnel =>
      exact update rfl (.inr (.inr rfl))
  | startRequest call | closeSpawned call | closeRequest call | goAwayRequest call
  | startBound call | closeAnswered call | goAwayAnswered call =>
      exact update rfl (.inr (.inl (by simp [call])))
  | insertTunnel | storeClosed | startFailed | closeFailed => exact update rfl (.inl rfl)
  | removeTunnel => exact update (removeTunnel_calls ..) (.inl rfl)
  | prune => exact .inl (by rw [pruneTunnel_calls]; exact idle)
  | _ => exact .inl idle

theorem owner_map {tx : Tx} {handle : TunnelHandle} {change : TunnelHandle → TunnelHandle}
    (owner : ∀ handle, (change handle).owner = handle.owner)
    (found : (session.handles tx).map change = some handle) :
    ∃ before, session.handles tx = some before ∧ before.owner = handle.owner := by
  obtain ⟨before, at_, rfl⟩ := Option.map_eq_some_iff.1 found
  exact ⟨before, at_, (owner before).symm⟩

theorem owner_ended (handle : TunnelHandle) : handle.ended.owner = handle.owner := by
  unfold TunnelHandle.ended
  split <;> rfl

theorem owner_setHandle {tx other : Tx} {handle : TunnelHandle}
    (change : TunnelHandle → TunnelHandle) (owner : ∀ handle, (change handle).owner = handle.owner)
    (found : (session.setHandle other change).handles tx = some handle) :
    ∃ before, session.handles tx = some before ∧ before.owner = handle.owner := by
  simp only [setHandle, Function.update_apply] at found
  split at found
  · rename_i same
    subst same
    exact owner_map owner found
  · exact ⟨handle, found, rfl⟩

/-- Handles stay with their owners. -/
theorem handles_step (transition : Transition json session label next) {tx : Tx}
    (known : (session.standing tx).isSome) (registered : session.Registered)
    {handle : TunnelHandle} (found : next.handles tx = some handle) :
    ∃ before, session.handles tx = some before ∧ before.owner = handle.owner := by
  cases transition with
  | insertTunnel call unlocked =>
      rename_i task inner info bound
      have starts : session.starting task = some bound.tx := starting_of_call call
      have different : tx ≠ bound.tx := by
        rintro rfl
        rw [(registered.new task _ starts).2] at known
        cases known
      exact ⟨handle, (Function.update_of_ne different _ _).symm.trans found, rfl⟩
  | removeTunnel =>
      rw [removeTunnel_handles] at found
      refine owner_map (fun handle => ?_) found
      unfold TunnelHandle.close
      split <;> rfl
  | dropTunnel =>
      exact owner_setHandle (fun handle => { handle with dropped := true }) (fun _ => rfl) found
  | stopTunnel => exact owner_setHandle TunnelHandle.ended owner_ended found
  | prune =>
      unfold pruneTunnel at found
      dsimp only at found
      split at found
      · split at found
        · exact ⟨handle, found, rfl⟩
        · exact owner_setHandle TunnelHandle.ended owner_ended found
      · exact ⟨handle, found, rfl⟩
  | startDrain =>
      simp only [startDrain] at found
      split at found
      · exact owner_map owner_ended found
      · exact ⟨handle, found, rfl⟩
  | _ => exact ⟨handle, found, rfl⟩

theorem not_full_new : ¬ TunnelChannel.new.Full := by decide

theorem full_setChannel {tx other : Tx} (change : TunnelChannel → TunnelChannel)
    (before : ∀ channel, (change channel).Full → channel.Full)
    (full : ((session.setChannel other change).channels tx).Full) : (session.channels tx).Full := by
  simp only [setChannel, Function.update_apply] at full
  split at full
  · rename_i same
    rw [same]
    exact before _ full
  · exact full

/-- Only `accept_one` fills a channel, and then it does not wait any more. -/
theorem full_step (transition : Transition json session label next)
    (waits : next.accept.waitsOn ≠ none) {tx : Tx} (full : (next.channels tx).Full) :
    (session.channels tx).Full := by
  cases transition with
  | startRequest =>
      simp only [startRequest, Function.update_apply] at full
      split at full
      · exact absurd full not_full_new
      · exact full
  | removeTunnel =>
      rename_i task inner id via call unlocked
      cases via with
      | session | dropped => exact full
      | tunnel other =>
          refine full_setChannel (fun channel => { channel with receiverOpen := false })
            (fun channel closed => ?_) full
          cases closed.1
  | dropTunnel =>
      refine full_setChannel (fun channel => { channel with queue := [], receiverOpen := false })
        (fun channel closed => ?_) full
      cases closed.1
  | receive =>
      refine full_setChannel (fun channel => { channel with queue := channel.queue.tail })
        (fun channel filled => ⟨filled.1, filled.2.trans ?_⟩) full
      exact (List.tail_sublist channel.queue).length_le
  | stopSent | sent | drainSent => exact absurd rfl waits
  | prune =>
      rw [pruneTunnel_accept] at waits
      exact absurd rfl waits
  | _ => exact full

/-- `accept_one` gets to send only when it has looked a tunnel up. -/
theorem waitsOn_step (transition : Transition json session label next) {inner : Nat} {tx : Tx}
    (waitsOn : next.accept.waitsOn = some (inner, tx)) :
    session.accept.waitsOn = some (inner, tx) ∨ ∃ order id tun, label = .acceptResume order ∧
      session.accept.requested = some (inner, id) ∧
        (session.inners inner).tunnels.lookup id = some tun ∧ tun.tx = tx := by
  cases transition with
  | stopTunnel accept found | deliver accept found =>
      cases waitsOn
      exact .inr ⟨_, _, _, rfl, by rw [accept]; rfl, found, rfl⟩
  | removeTunnel =>
      rw [removeTunnel_accept] at waitsOn
      exact .inl waitsOn
  | prune =>
      rw [pruneTunnel_accept] at waitsOn
      cases waitsOn
  | canceled | reconnectFailed =>
      rw [reconnectFailed_accept] at waitsOn
      split at waitsOn <;> cases waitsOn
  | acceptEnded | transportFailed | stopRequested | connArrived | stalled | panicked | stopSent
  | sent | sendFailed | nothingToDo | connect | authenticate | authenticated | lock | sendRebind
  | rebindAnswered | unlock | swap | startDrain | drainSent | drainLost | drained => cases waitsOn
  | _ => exact .inl waitsOn

theorem Responsive.step (responsive : session.Responsive) (admitted : session.ownersReceive label)
    (transition : Transition json session label next) : next.Responsive := by
  have step := registryStep_of_transition transition
  obtain ⟨begins, looksUp⟩ := admitted
  have known : ∀ inner tx, next.accept.waitsOn = some (inner, tx) →
      (session.standing tx).isSome := by
    intro inner tx waitsOn
    obtain before | ⟨order, id, tun, -, -, found, rfl⟩ := waitsOn_step transition waitsOn
    · exact responsive.known inner tx before
    · exact responsive.registered.known inner id tun.tx (mem_routes_iff.2 ⟨tun, found, rfl⟩)
  refine ⟨responsive.registered.step step,
    fun inner tx waitsOn => known_step step (known inner tx waitsOn), ?_⟩
  rintro inner tx handle ⟨waitsOn, full⟩ found
  have full_ := full_step transition (by simp [waitsOn]) full
  obtain ⟨before, at_, owner⟩ :=
    handles_step transition (known inner tx waitsOn) responsive.registered found
  rw [← owner]
  obtain waited | ⟨order, id, tun, rfl, requested, lookup, rfl⟩ := waitsOn_step transition waitsOn
  · have waits : session.WaitsForRoom inner tx := ⟨waited, full_⟩
    obtain idle | starts := calls_step transition (responsive.free inner tx before waits at_)
    · exact idle
    · exact absurd rfl (begins _ starts inner tx before waits at_)
  · have free := looksUp order rfl inner id tun before requested lookup full_ at_
    obtain idle | starts := calls_step transition free
    · exact idle
    · cases starts

/-- As long as owners receive where `accept_one` waits for room, there is no deadlock. -/
theorem neverDeadlocked (json : Json Value) (builder : SessionBuilder)
    (reaches : Reaches (Session.step json) ownersReceive (connected builder) session) :
    ¬ session.Deadlocked := by
  have responsive : session.Responsive :=
    Reaches.invariant Responsive
      (fun _ _ admitted responsive => responsive.step admitted (transition_step ..)) reaches
      ⟨registered_connected builder, by simp [connected, AcceptLoop.waitsOn],
        by simp [WaitsForRoom, connected, AcceptLoop.waitsOn]⟩
  exact responsive.not_deadlocked

/-- Connections for `tn_1`, with a header of two bytes. -/
def proxyJson : Json Unit where
  fromSlice := fun _ => none
  stopTunnel := fun _ => none
  proxyHeader := fun _ => some ⟨"tn_1", "203.0.113.7:4711", "http", .https, false⟩

def connection : List Label :=
  [.incoming (some ⟨[[0, 0, 0, 3], [2, 0, 0, 0, 0, 0, 0, 0], [123, 125]], .fin⟩),
    .acceptResume [], .acceptResume []]

/-- The owner closes its tunnel when the connection is in its channel. -/
theorem neverDeadlocked_closing :
    let session := run (Session.step proxyJson) (connected someBuilder)
      (Label.startHttp 0 "tn_1" ++ connection ++
        [.closeHandle 0 0, .resume 0, .unbindAnswer 0 (.ok ())])
    (session.channels 0).queue.length = 1 ∧ session.WaitsForTunnels 0 0 ∧
      ¬ session.Deadlocked := by
  intro session
  refine ⟨by decide +kernel, .inr ⟨"tn_1", .tunnel 0, rfl⟩,
    neverDeadlocked proxyJson someBuilder (reaches_run ?_)⟩
  refine ⟨ownersReceive_of_idle rfl rfl, ownersReceive_of_idle rfl rfl,
    ownersReceive_of_idle rfl rfl, ownersReceive_of_idle rfl rfl, ownersReceive_of_idle rfl rfl,
    ⟨?_, ?_⟩, ⟨?_, ?_⟩, ownersReceive_of_idle rfl rfl, ownersReceive_of_idle rfl rfl,
    ownersReceive_of_idle rfl rfl, trivial⟩
  · rintro task ⟨⟩
  · rintro order - inner id tun handle requested found full
    cases requested
    cases found
    exact absurd full (by decide)
  · rintro task ⟨⟩
  · rintro order - inner id tun handle requested
    cases requested

/-- The channel has its 64 connections, the accept loop waits with another one, and the
owner of the tunnel waits for the accept loop in order to close the tunnel. -/
theorem deadlocked_whenFull :
    let session := run (Session.step proxyJson) (connected someBuilder)
      (Label.startHttp 0 "tn_1" ++ (List.replicate 65 connection).flatten ++
        [.closeHandle 0 0, .resume 0, .unbindAnswer 0 (.ok ())])
    (session.channels 0).queue.length = 64 ∧
      session.calls 0 = some (.closeRemove 0 "tn_1" (.tunnel 0)) ∧ session.Deadlocked := by
  intro session
  have call : session.calls 0 = some (.closeRemove 0 "tn_1" (.tunnel 0)) := by decide +kernel
  have waitsOn : session.accept.waitsOn = some (0, 0) := by decide +kernel
  have full : (session.channels 0).Full := by decide +kernel
  have handle : session.handles 0 = some
      ⟨(httpConfig.endpoint (httpResp "tn_1") 0).1, 0, false, .live⟩ := by decide +kernel
  have waits : session.WaitsForTunnels 0 0 := .inr ⟨"tn_1", .tunnel 0, call⟩
  exact ⟨by decide +kernel, call, 0, 0, _, ⟨waitsOn, full⟩, handle, .inl waits⟩

end Session

end Agent

end NgrokRust
