import Mathlib.Data.List.Induction
import NgrokRust.AgentAccept
import NgrokRust.AgentMessages

/-!
# The origins of tunnels

A tunnel is built once, from the answer to the request of its own `start_tunnel`.  After that
it only moves: into the map, from the map of one transport to that of the next, and out of it.
So all connections of a tunnel come with the same options, however often the agent
reconnects.
-/

namespace NgrokRust

namespace Agent

open LabelledRuns

/-- A tunnel as a call of `start_tunnel` builds it from the answer to its request. -/
inductive TunnelConfig.Makes (cfg : TunnelConfig) (task : Task) : Label → BoundTunnel → Prop where
  | endpoint (named : cfg.proto ≠ "") (resp : BindResp) (tx : Tx) :
      cfg.Makes task (.bindAnswer task (.ok resp)) (cfg.endpoint resp tx).2
  | labeled (unnamed : cfg.proto = "") (respId : String) (tx : Tx) :
      cfg.Makes task (.labelAnswer task (.ok respId)) (cfg.labeled respId tx).2

/-- A connection with the options of the answer: the edge passes TLS through unless the tunnel
is a TLS endpoint, and then unless the agent terminates it.  Labeled tunnels have no options. -/
inductive TunnelConfig.Serves (cfg : TunnelConfig) (task : Task) (header : ProxyHeader) :
    Label → ConnInner → Prop where
  | endpoint (named : cfg.proto ≠ "") (resp : BindResp) :
      cfg.Serves task header (.bindAnswer task (.ok resp))
        { header :=
            match resp.bindOpts with
            | .tls _ tlsTermination => { header with passthroughTls := !tlsTermination }
            | _ => header
          proxyProto := resp.bindOpts.proxyProto
          appProtocol := if cfg.forwardsProto = "" then none else some cfg.forwardsProto
          verifyUpstreamTls := cfg.verifyUpstreamTls }
  | labeled (unnamed : cfg.proto = "") (respId : String) :
      cfg.Serves task header (.labelAnswer task (.ok respId))
        { header := header
          proxyProto := .none
          appProtocol := if cfg.forwardsProto = "" then none else some cfg.forwardsProto
          verifyUpstreamTls := cfg.verifyUpstreamTls }

theorem TunnelConfig.Makes.serves {cfg : TunnelConfig} {task : Task} {label : Label}
    {bound : BoundTunnel} (makes : cfg.Makes task label bound) (header : ProxyHeader) :
    cfg.Serves task header label (bound.connInner header) := by
  cases makes with
  | endpoint named resp tx =>
      have conn : cfg.Serves task header (.bindAnswer task (.ok resp)) _ := .endpoint named resp
      simp only [BoundTunnel.connInner, TunnelConfig.endpoint]
      cases opts : resp.bindOpts with
      | http | tcp | tls =>
          rw [opts] at conn
          exact conn
  | labeled unnamed respId tx => exact .labeled unnamed respId

def SessionInner.bounds (value : SessionInner) : List BoundTunnel :=
  value.tunnels.entries.map Sigma.snd

/-- The tunnels of the new map, and those that are still to be bound. -/
def AcceptLoop.bounds : AcceptLoop → List BoundTunnel
  | .locking _ newInner => newInner.bounds
  | .binding _ newInner rest => newInner.bounds ++ rest.map Sigma.snd
  | .awaiting _ newInner entry rest => newInner.bounds ++ (entry :: rest).map Sigma.snd
  | .swapping _ newInner => newInner.bounds
  | _ => []

theorem AcceptLoop.bounds_eq_nil {accept : AcceptLoop} (idle : ¬ accept.Rebinding) :
    accept.bounds = [] := by
  cases accept with
  | locking | binding | awaiting | swapping => exact absurd trivial idle
  | _ => rfl

/-- Copied tunnels have copied routes. -/
theorem exists_copies_of_bounds {accept : AcceptLoop} {bound : BoundTunnel}
    (mem : bound ∈ accept.bounds) : ∃ key, (key, bound.tx) ∈ accept.copies := by
  have entries (list : List (Σ _ : String, BoundTunnel)) :
      (list.map Sigma.snd).map BoundTunnel.tx = (list.map entryRoute).map Prod.snd := by
    rw [List.map_map, List.map_map]
    rfl
  have bounds : accept.bounds.map BoundTunnel.tx = accept.copies.map Prod.snd := by
    cases accept with
    | locking | swapping => exact entries _
    | binding | awaiting =>
        rw [AcceptLoop.bounds, AcceptLoop.copies, List.map_append, List.map_append, entries]
        exact congrArg (· ++ _) (entries _)
    | _ => rfl
  have listed : bound.tx ∈ accept.copies.map Prod.snd := by
    rw [← bounds]
    exact List.mem_map_of_mem mem
  obtain ⟨⟨key, tx⟩, copied, rfl⟩ := List.mem_map.1 listed
  exact ⟨key, copied⟩

theorem mem_bounds_of_lookup {value : SessionInner} {key : String} {bound : BoundTunnel}
    (found : value.tunnels.lookup key = some bound) : bound ∈ value.bounds :=
  List.mem_map.2 ⟨⟨key, bound⟩, (List.mem_dlookup_iff value.tunnels.nodupKeys).1 found, rfl⟩

theorem mem_bounds_erase {value : SessionInner} {tunnels : TunnelConns} {key : String}
    {bound : BoundTunnel} (same : value.tunnels = tunnels.erase key)
    (mem : bound ∈ value.bounds) : bound ∈ tunnels.entries.map Sigma.snd := by
  rw [SessionInner.bounds, same] at mem
  exact ((List.kerase_sublist key tunnels.entries).map Sigma.snd).subset mem

theorem mem_bounds_insert {value : SessionInner} {tunnels : TunnelConns} {key : String}
    {bound other : BoundTunnel} (same : value.tunnels = tunnels.insert key other)
    (mem : bound ∈ value.bounds) : bound = other ∨ bound ∈ tunnels.entries.map Sigma.snd := by
  rw [SessionInner.bounds, same, AList.entries_insert, List.map_cons, List.mem_cons] at mem
  exact mem.imp_right fun mem =>
    ((List.kerase_sublist key tunnels.entries).map Sigma.snd).subset mem

namespace Session

variable {Value : Type*} {json : Json Value} {session next : Session} {label : Label}

/-- Where a tunnel is: in a map, in a copy of one, or with the call that has built it. -/
inductive Holds (session : Session) (bound : BoundTunnel) : Prop where
  | map {inner : Nat} (mem : bound ∈ (session.inners inner).bounds)
  | copy (mem : bound ∈ session.accept.bounds)
  | call {task : Task} {inner : Nat} {info : TunnelInnerInfo}
      (found : session.calls task = some (.startInsert inner info bound))

theorem mem_bounds_setInner {inner other : Nat} {change : SessionInner → SessionInner}
    {bound : BoundTunnel} (mem : bound ∈ ((session.setInner inner change).inners other).bounds) :
    bound ∈ (change (session.inners inner)).bounds ∨ bound ∈ (session.inners other).bounds := by
  simp only [setInner, Function.update_apply] at mem
  split at mem
  · exact .inl mem
  · exact .inr mem

section Building

variable {task : Task} {inner : Nat} {info : TunnelInnerInfo} {bound : BoundTunnel}

theorem builds_update {other : Task} {call : Option Call}
    (calls : next.calls = Function.update session.calls other call)
    (idle : call.bind Call.built = none)
    (builds : next.calls task = some (.startInsert inner info bound)) :
    session.calls task = some (.startInsert inner info bound) := by
  rw [calls, Function.update_apply] at builds
  split at builds
  · rw [builds] at idle
    cases idle
  · exact builds

theorem builds_begin {other : Task} {call : Call} (idle : (some call).bind Call.built = none)
    (builds : (session.begin other call).calls task = some (.startInsert inner info bound)) :
    session.calls task = some (.startInsert inner info bound) := by
  unfold Session.begin at builds
  split at builds
  · exact builds_update rfl idle builds
  · exact builds

theorem builds_resume {other : Task}
    (builds : (session.resume other).calls task = some (.startInsert inner info bound)) :
    session.calls task = some (.startInsert inner info bound) := by
  unfold Session.resume at builds
  split at builds
  · split at builds
    · exact builds_update rfl rfl builds
    · exact builds
  · split at builds
    · exact builds
    · exact builds_update rfl rfl builds
  · split at builds
    · exact builds_update rfl rfl builds
    · exact builds
  · split at builds
    · exact builds_update rfl rfl builds
    · exact builds
  · split at builds
    · exact builds
    · exact builds_update (removeTunnel_calls ..) rfl builds
  · split at builds
    · exact builds_update rfl rfl builds
    · exact builds
  · exact builds_update rfl rfl builds
  · exact builds

/-- The answer to a request builds the tunnel of the call that has sent it. -/
theorem builds_startBound {other : Task} {loaded : Nat} {cfg : TunnelConfig} {tx : Tx}
    {tunnel : TunnelInnerInfo × BoundTunnel}
    (call : session.calls other = some (.startRpc loaded cfg tx)) (same : tunnel.2.tx = tx)
    (makes : cfg.Makes other label tunnel.2)
    (builds : (session.startBound other loaded tunnel).calls task =
      some (.startInsert inner info bound)) :
    session.calls task = some (.startInsert inner info bound) ∨
      ∃ cfg, session.calls task = some (.startRpc inner cfg bound.tx) ∧
        cfg.Makes task label bound := by
  have calls : (session.startBound other loaded tunnel).calls = Function.update session.calls
      other (some (.startInsert loaded tunnel.1 tunnel.2)) := rfl
  rw [calls, Function.update_apply] at builds
  split at builds
  · rename_i here
    subst here
    cases builds
    exact .inr ⟨cfg, same ▸ call, makes⟩
  · exact .inl builds

theorem calls_incoming (json : Json Value) (stream : Option RemoteStream) :
    (session.incoming json stream).calls = session.calls := by
  unfold Session.incoming
  split
  · rfl
  · split <;> rfl
  · rfl

theorem calls_acceptResume (order : List (Σ _ : String, BoundTunnel)) :
    (session.acceptResume order).calls = session.calls := by
  unfold Session.acceptResume
  split
  · split <;> rfl
  · split
    · rfl
    · split <;> rfl
  · split <;> rfl
  · split
    · rfl
    · split <;> rfl
  · exact pruneTunnel_calls ..
  · unfold Session.startReconnect
    split <;> rfl
  · split <;> rfl
  · rfl
  · rfl
  · rfl
  · split <;> rfl
  · split
    · rfl
    · split <;> rfl
  · rfl
  · rfl

theorem builds_step (json : Json Value) (label : Label)
    (builds : (session.step json label).calls task = some (.startInsert inner info bound)) :
    session.calls task = some (.startInsert inner info bound) ∨
      ∃ cfg, session.calls task = some (.startRpc inner cfg bound.tx) ∧
        cfg.Makes task label bound := by
  cases label with
  | startTunnel | closeTunnel | closeSession => exact .inl (builds_begin rfl builds)
  | closeHandle other tx =>
      change (session.closeHandle other tx).calls task = _ at builds
      unfold Session.closeHandle at builds
      split at builds
      · split at builds
        · exact .inl builds
        · exact .inl (builds_begin rfl builds)
      · exact .inl builds
  | dropTunnel tx spawned =>
      change (session.dropTunnel tx spawned).calls task = _ at builds
      unfold Session.dropTunnel at builds
      split at builds
      · split at builds
        · exact .inl (builds_update rfl rfl builds)
        · exact .inl builds
      · exact .inl builds
  | resume other => exact .inl (builds_resume builds)
  | bindAnswer other answer =>
      change (session.bindAnswer other answer).calls task = _ at builds
      unfold Session.bindAnswer at builds
      split at builds
      · rename_i call
        split at builds
        · split at builds
          · exact builds_startBound call rfl (.endpoint ‹_› _ _) builds
          · exact .inl (builds_update rfl rfl builds)
        · exact .inl builds
      · exact .inl builds
  | labelAnswer other answer =>
      change (session.labelAnswer other answer).calls task = _ at builds
      unfold Session.labelAnswer at builds
      split at builds
      · rename_i call
        split at builds
        · exact .inl builds
        · split at builds
          · exact builds_startBound call rfl (.labeled (not_not.1 ‹_›) _ _) builds
          · exact .inl (builds_update rfl rfl builds)
      · exact .inl builds
  | unbindAnswer other answer =>
      change (session.unbindAnswer other answer).calls task = _ at builds
      unfold Session.unbindAnswer at builds
      split at builds
      · split at builds
        · exact .inl (builds_update rfl rfl builds)
        · exact .inl (builds_update rfl rfl builds)
      · exact .inl builds
  | goAwayAnswer other answer =>
      change (session.goAwayAnswer other answer).calls task = _ at builds
      unfold Session.goAwayAnswer at builds
      split at builds
      · exact .inl (builds_update rfl rfl builds)
      · exact .inl builds
  | receive => exact .inl builds
  | incoming stream =>
      change (session.incoming json stream).calls task = _ at builds
      rw [calls_incoming] at builds
      exact .inl builds
  | acceptResume order =>
      change (session.acceptResume order).calls task = _ at builds
      rw [calls_acceptResume] at builds
      exact .inl builds
  | connectorAnswer answer =>
      change (session.connectorAnswer answer).calls task = _ at builds
      unfold Session.connectorAnswer at builds
      split at builds <;> exact .inl builds
  | authAnswer answer =>
      change (session.authAnswer answer).calls task = _ at builds
      unfold Session.authAnswer at builds
      split at builds <;> exact .inl builds
  | rebindAnswer answer =>
      change (session.rebindAnswer answer).calls task = _ at builds
      unfold Session.rebindAnswer at builds
      split at builds <;> exact .inl builds

end Building

/-- A tunnel in a map was in one before, or in a copy of one, or comes from the call that has
built it. -/
theorem holds_of_map (step : RegistryStep session label next) {other : Nat} {bound : BoundTunnel}
    (mem : bound ∈ (next.inners other).bounds) : session.Holds bound := by
  cases step with
  | quiet quiet =>
      rw [SessionInner.bounds, quiet.tunnels] at mem
      exact .map mem
  | insert call =>
      rename_i task inner info new unlocked
      rw [insertTunnel_inners] at mem
      obtain changed | same := mem_bounds_setInner mem
      · obtain rfl | before := mem_bounds_insert rfl changed
        · exact .call call
        · exact .map before
      · exact .map same
  | bound call same =>
      rw [startBound_inners] at mem
      obtain changed | same := mem_bounds_setInner mem
      · exact .map changed
      · exact .map same
  | remove =>
      rw [removeTunnel_inners] at mem
      obtain changed | same := mem_bounds_setInner mem
      · exact .map (mem_bounds_erase rfl changed)
      · exact .map same
  | stop =>
      rw [stopTunnel_inners] at mem
      obtain changed | same := mem_bounds_setInner mem
      · exact .map (mem_bounds_erase rfl changed)
      · exact .map same
  | prune =>
      rw [pruneTunnel_inners] at mem
      obtain changed | same := mem_bounds_setInner mem
      · exact .map (mem_bounds_erase rfl changed)
      · exact .map same
  | drain =>
      rw [startDrain_inners] at mem
      obtain changed | same := mem_bounds_setInner mem
      · cases changed
      · exact .map same
  | swap accept =>
      rename_i old newInner
      simp only [swap, Function.update_apply] at mem
      split at mem
      · refine .copy ?_
        rw [accept]
        exact mem
      · exact .map mem
  | start | failed | authenticated | lock | send | answered | unlock => exact .map mem

/-- A tunnel in a copy of a map was in one before, or is copied from the current map. -/
theorem holds_of_copy (step : RegistryStep session label next) {bound : BoundTunnel}
    (mem : bound ∈ next.accept.bounds) : session.Holds bound := by
  cases step with
  | quiet quiet =>
      obtain same | idle := quiet.accept
      · rw [same] at mem
        exact .copy mem
      · rw [AcceptLoop.bounds_eq_nil idle] at mem
        cases mem
  | remove =>
      rw [removeTunnel_accept] at mem
      exact .copy mem
  | prune =>
      rw [pruneTunnel_accept] at mem
      cases mem
  | start | bound | insert | failed => exact .copy mem
  | stop | drain | swap => cases mem
  | authenticated accept empty =>
      simp [setAccept, AcceptLoop.bounds, SessionInner.bounds, empty] at mem
  | lock accept perm =>
      obtain new | copied := List.mem_append.1 mem
      · refine .copy ?_
        rw [accept]
        exact new
      · exact .map ((perm.map Sigma.snd).subset copied)
  | send accept =>
      refine .copy ?_
      rw [accept]
      exact mem
  | answered accept =>
      refine .copy ?_
      rw [accept]
      obtain new | rest := List.mem_append.1 mem
      · obtain rfl | before := mem_bounds_insert rfl new
        · exact List.mem_append_right _ List.mem_cons_self
        · exact List.mem_append_left _ before
      · exact List.mem_append_right _ (List.mem_cons_of_mem _ rest)
  | unlock accept =>
      refine .copy ?_
      rw [accept]
      exact List.mem_append_left _ mem

def Builds (session : Session) (label : Label) (next : Session) (bound : BoundTunnel) : Prop :=
  ∃ task inner info cfg, session.calls task = some (.startRpc inner cfg bound.tx) ∧
    next.calls task = some (.startInsert inner info bound) ∧ cfg.Makes task label bound

theorem holds_step (json : Json Value) (label : Label) {bound : BoundTunnel}
    (holds : (session.step json label).Holds bound) :
    session.Holds bound ∨ Builds session label (session.step json label) bound := by
  have step := registryStep_of_transition (transition_step json session label)
  cases holds with
  | map mem => exact .inl (holds_of_map step mem)
  | copy mem => exact .inl (holds_of_copy step mem)
  | call found =>
      obtain before | ⟨cfg, called, makes⟩ := builds_step json label found
      · exact .inl (.call before)
      · exact .inr ⟨_, _, _, cfg, called, found, makes⟩

theorem builds_unique (registered : session.Registered) {bound other : BoundTunnel}
    (builds : Builds session label next bound) (builds' : Builds session label next other)
    (same : bound.tx = other.tx) : bound = other := by
  obtain ⟨task, inner, info, cfg, call, built, -⟩ := builds
  obtain ⟨task', inner', info', cfg', call', built', -⟩ := builds'
  have here : task = task' := by
    refine registered.apart task task' bound.tx (starting_of_call call) ?_
    rw [same]
    exact starting_of_call call'
  subst here
  rw [built] at built'
  cases built'
  rfl

open Classical in
/-- The tunnel of a channel is the one that the step has built for it, if it has built one. -/
noncomputable def nextOrigin (session : Session) (label : Label) (next : Session)
    (origin : Tx → BoundTunnel) (tx : Tx) : BoundTunnel :=
  if built : ∃ bound, Builds session label next bound ∧ bound.tx = tx then built.choose
  else origin tx

theorem nextOrigin_of_builds (registered : session.Registered) {origin : Tx → BoundTunnel}
    {bound : BoundTunnel} (builds : Builds session label next bound) :
    nextOrigin session label next origin bound.tx = bound := by
  have built : ∃ other, Builds session label next other ∧ other.tx = bound.tx :=
    ⟨bound, builds, rfl⟩
  rw [nextOrigin, dif_pos built]
  exact builds_unique registered built.choose_spec.1 builds built.choose_spec.2

theorem nextOrigin_of_settled {origin : Tx → BoundTunnel} {tx : Tx}
    (settled : ∀ task inner cfg, session.calls task ≠ some (.startRpc inner cfg tx)) :
    nextOrigin session label next origin tx = origin tx := by
  rw [nextOrigin, dif_neg]
  rintro ⟨bound, ⟨task, inner, info, cfg, call, -⟩, rfl⟩
  exact settled task inner cfg call

/-- A connection was sent to a tunnel, or is about to be. -/
def Delivers (session : Session) (tx : Tx) (conn : ConnInner) : Prop :=
  .ok conn ∈ session.taken tx ∨ ∃ inner id, session.accept = .sending inner id tx conn

/-- The connection that the accept loop is about to send is one of a tunnel in its map. -/
theorem sending_step (transition : Transition json session label next) {inner : Nat}
    {id : String} {tx : Tx} {conn : ConnInner} (sends : next.accept = .sending inner id tx conn) :
    session.accept = .sending inner id tx conn ∨
      ∃ bound header, session.Holds bound ∧ bound.tx = tx ∧ conn = bound.connInner header := by
  cases transition with
  | deliver accept found =>
      rename_i order other header tun
      cases sends
      exact .inr ⟨tun, header, .map (mem_bounds_of_lookup found), rfl, rfl⟩
  | removeTunnel =>
      rw [removeTunnel_accept] at sends
      exact .inl sends
  | prune =>
      rw [pruneTunnel_accept] at sends
      cases sends
  | canceled | reconnectFailed =>
      rw [reconnectFailed_accept] at sends
      split at sends <;> cases sends
  | acceptEnded | transportFailed | stopRequested | connArrived | stalled | panicked | stopTunnel
  | stopSent | sent | sendFailed | nothingToDo | connect | authenticate | authenticated | lock
  | sendRebind | rebindAnswered | unlock | swap | startDrain | drainSent | drainLost | drained =>
      cases sends
  | _ => exact .inl sends

theorem delivers_step (transition : Transition json session label next) {tx : Tx}
    {conn : ConnInner} (delivers : next.Delivers tx conn) : session.Delivers tx conn ∨
      ∃ bound header, session.Holds bound ∧ bound.tx = tx ∧ conn = bound.connInner header := by
  obtain mem | ⟨inner, id, sends⟩ := delivers
  · refine .inl ?_
    obtain same | ⟨-, none⟩ | ⟨inner, id, sent, accept, -, taken⟩ |
      ⟨error, rest, -, -, -, -, taken⟩ := taken_step transition tx
    · rw [same] at mem
      exact .inl mem
    · rw [none] at mem
      cases mem
    · rw [taken] at mem
      obtain before | last := List.mem_append.1 mem
      · exact .inl before
      · cases List.mem_singleton.1 last
        exact .inr ⟨inner, id, accept⟩
    · rw [taken] at mem
      obtain before | last := List.mem_append.1 mem
      · exact .inl before
      · cases List.mem_singleton.1 last
  · exact (sending_step transition sends).imp_left fun before => .inr ⟨inner, id, before⟩

/-- Calls of `start_tunnel` that wait for the client. -/
theorem startLock_step (transition : Transition json session label next) {task : Task}
    {inner : Nat} {cfg : TunnelConfig}
    (found : next.calls task = some (.startLock inner cfg)) :
    session.calls task = some (.startLock inner cfg) ∨ label = .startTunnel task cfg := by
  have update {other : Task} {call : Option Call}
      (calls : next.calls = Function.update session.calls other call)
      (unlike : call ≠ some (.startLock inner cfg)) :
      session.calls task = some (.startLock inner cfg) := by
    rw [calls, Function.update_apply] at found
    split at found
    · exact absurd found unlike
    · exact found
  cases transition with
  | startTunnel free =>
      rename_i other config
      by_cases here : task = other
      · subst here
        have same : (session.setCall task (some (.startLock session.current config))).calls task =
            some (.startLock session.current config) := Function.update_self ..
        rw [same] at found
        cases found
        exact .inr rfl
      · refine .inl ?_
        have same : (session.setCall other (some (.startLock session.current config))).calls task =
            session.calls task := Function.update_of_ne here ..
        rw [same] at found
        exact found
  | closeTunnel | closeHandle | closeSession | dropTunnel | startRequest | insertTunnel
  | closeSpawned | closeRequest | goAwayRequest | storeClosed | startBound | startFailed
  | closeAnswered | closeFailed | goAwayAnswered => exact .inl (update rfl (by simp))
  | removeTunnel => exact .inl (update (removeTunnel_calls ..) (by simp))
  | prune =>
      rw [pruneTunnel_calls] at found
      exact .inl found
  | _ => exact .inl found

/-- Calls of `start_tunnel` that wait for an answer. -/
theorem startRpc_step (step : RegistryStep session label next) {task : Task} {inner : Nat}
    {cfg : TunnelConfig} {tx : Tx} (found : next.calls task = some (.startRpc inner cfg tx)) :
    session.calls task = some (.startRpc inner cfg tx) ∨
      session.calls task = some (.startLock inner cfg) ∧
        .sent inner cfg.request (some tx) ∈ next.log := by
  have update {other : Task} {call : Option Call}
      (calls : next.calls = Function.update session.calls other call)
      (unlike : call ≠ some (.startRpc inner cfg tx)) :
      session.calls task = some (.startRpc inner cfg tx) := by
    rw [calls, Function.update_apply] at found
    split at found
    · exact absurd found unlike
    · exact found
  cases step with
  | quiet quiet => exact .inl (quiet.starting task _ found (by simp [Call.startTx]))
  | start call =>
      rename_i other loaded config
      have calls : (session.startRequest other loaded config).calls = Function.update session.calls
          other (some (.startRpc loaded config session.nextTx)) := rfl
      rw [calls, Function.update_apply] at found
      split at found
      · rename_i here
        subst here
        cases found
        exact .inr ⟨call, List.mem_cons_self⟩
      · exact .inl found
  | bound | insert | failed => exact .inl (update rfl (by simp))
  | remove => exact .inl (update (removeTunnel_calls ..) (by simp))
  | prune =>
      rw [pruneTunnel_calls] at found
      exact .inl found
  | _ => exact .inl found

/-- In the run a call of `start_tunnel` has got the answer to its request and has built the
tunnel from it. -/
def Built (json : Json Value) (builder : SessionBuilder) (labels : List Label)
    (bound : BoundTunnel) : Prop :=
  ∃ earlier label later task inner cfg, labels = earlier ++ label :: later ∧
    .startTunnel task cfg ∈ earlier ∧
    (run (Session.step json) (connected builder) earlier).calls task =
      some (.startRpc inner cfg bound.tx) ∧
    .sent inner cfg.request (some bound.tx) ∈
      (run (Session.step json) (connected builder) earlier).log ∧
    cfg.Makes task label bound

theorem Built.append {builder : SessionBuilder} {labels : List Label} {bound : BoundTunnel}
    (built : Built json builder labels bound) (label : Label) :
    Built json builder (labels ++ [label]) bound := by
  obtain ⟨earlier, answer, later, task, inner, cfg, rfl, rest⟩ := built
  exact ⟨earlier, answer, later ++ [label], task, inner, cfg, by simp, rest⟩

/-- Every tunnel that is somewhere after a run is the one that was built for its channel, and
so is the one that sends to the channel. -/
structure Origins (json : Json Value) (builder : SessionBuilder) (labels : List Label)
    (session : Session) (origin : Tx → BoundTunnel) : Prop where
  reached : session = run (Session.step json) (connected builder) labels
  heard : ∀ tx, ∃ heard, session.Heard tx heard
  waiting : ∀ task inner cfg, session.calls task = some (.startLock inner cfg) →
    .startTunnel task cfg ∈ labels
  requests : ∀ task inner cfg tx, session.calls task = some (.startRpc inner cfg tx) →
    .startTunnel task cfg ∈ labels ∧ .sent inner cfg.request (some tx) ∈ session.log
  held : ∀ bound, session.Holds bound →
    bound = origin bound.tx ∧ Built json builder labels bound
  delivered : ∀ tx conn, session.Delivers tx conn → Built json builder labels (origin tx) ∧
    (origin tx).tx = tx ∧ ∃ header, conn = (origin tx).connInner header

theorem origins_connected (json : Json Value) (builder : SessionBuilder)
    (origin : Tx → BoundTunnel) : Origins json builder [] (connected builder) origin where
  reached := rfl
  heard := fun tx => ⟨[], heard_connected builder tx⟩
  waiting := by simp [connected]
  requests := by simp [connected]
  held := by
    intro bound holds
    cases holds with
    | map mem | copy mem => cases mem
    | call found => cases found
  delivered := by
    intro tx conn delivers
    obtain mem | ⟨inner, id, sends⟩ := delivers
    · cases mem
    · cases sends

/-- A tunnel that is somewhere is not one that a call still asks for. -/
theorem Holds.settled {bound : BoundTunnel} (holds : session.Holds bound)
    (registered : session.Registered) {task : Task} {inner : Nat} {cfg : TunnelConfig} :
    session.calls task ≠ some (.startRpc inner cfg bound.tx) := by
  intro call
  have starts : session.starting task = some bound.tx := starting_of_call call
  have new := (registered.new task bound.tx starts).2
  cases holds with
  | map mem =>
      obtain ⟨entry, listed, rfl⟩ := List.mem_map.1 mem
      have known := registered.known _ entry.1 entry.2.tx (List.mem_map.2 ⟨entry, listed, rfl⟩)
      rw [new] at known
      cases known
  | copy mem =>
      obtain ⟨key, copied⟩ := exists_copies_of_bounds mem
      have known := registered.copied key bound.tx copied
      rw [new] at known
      cases known
  | call found =>
      rename_i other inner' info
      have same := registered.apart task other bound.tx starts (starting_of_call found)
      subst same
      rw [call] at found
      cases found

theorem Delivers.settled {tx : Tx} {conn : ConnInner} (delivers : session.Delivers tx conn)
    {heard : List (Except AcceptError ConnInner)} (invariant : session.Heard tx heard)
    {task : Task} {inner : Nat} {cfg : TunnelConfig} :
    session.calls task ≠ some (.startRpc inner cfg tx) := by
  intro call
  have new := (invariant.lastWords.registered.new task tx (starting_of_call call)).2
  obtain mem | ⟨inner, id, sends⟩ := delivers
  · rw [(invariant.inOrder.fresh new).2] at mem
    cases mem
  · have known := invariant.known tx (by rw [sends]; exact List.mem_singleton_self _)
    rw [new] at known
    cases known

theorem Origins.step {builder : SessionBuilder} {labels : List Label}
    {origin : Tx → BoundTunnel} (origins : Origins json builder labels session origin)
    (label : Label) :
    Origins json builder (labels ++ [label]) (session.step json label)
      (nextOrigin session label (session.step json label) origin) := by
  have transition := transition_step json session label
  obtain ⟨heard, invariant⟩ := origins.heard 0
  have registered := invariant.lastWords.registered
  refine ⟨?_, fun tx => ?_, fun task inner cfg found => ?_, fun task inner cfg tx found => ?_,
    fun bound holds => ?_, fun tx conn delivers => ?_⟩
  · rw [run_append, ← origins.reached]
    rfl
  · obtain ⟨heard, before⟩ := origins.heard tx
    exact ⟨_, before.step json label⟩
  · obtain before | rfl := startLock_step transition found
    · exact List.mem_append_left _ (origins.waiting task inner cfg before)
    · exact List.mem_append_right _ List.mem_cons_self
  · obtain before | ⟨call, sent⟩ := startRpc_step (registryStep_of_transition transition) found
    · obtain ⟨started, sent⟩ := origins.requests task inner cfg tx before
      exact ⟨List.mem_append_left _ started, (log_suffix transition).subset sent⟩
    · exact ⟨List.mem_append_left _ (origins.waiting task inner cfg call), sent⟩
  · obtain before | builds := holds_step json label holds
    · obtain ⟨same, built⟩ := origins.held bound before
      rw [nextOrigin_of_settled fun _ _ _ => before.settled registered]
      exact ⟨same, built.append label⟩
    · refine ⟨(nextOrigin_of_builds registered builds).symm, ?_⟩
      obtain ⟨task, inner, info, cfg, call, built, makes⟩ := builds
      obtain ⟨started, sent⟩ := origins.requests task inner cfg bound.tx call
      rw [origins.reached] at call sent
      exact ⟨labels, label, [], task, inner, cfg, rfl, started, call, sent, makes⟩
  · obtain before | ⟨bound, header, holds, rfl, conn_⟩ := delivers_step transition delivers
    · obtain ⟨heard, invariant⟩ := origins.heard tx
      obtain ⟨built, same, header, conn_⟩ := origins.delivered tx conn before
      rw [nextOrigin_of_settled fun _ _ _ => before.settled invariant]
      exact ⟨built.append label, same, header, conn_⟩
    · obtain ⟨same, built⟩ := origins.held bound holds
      rw [nextOrigin_of_settled fun _ _ _ => holds.settled registered, ← same]
      exact ⟨built.append label, rfl, header, conn_⟩

theorem origins_run (json : Json Value) (builder : SessionBuilder) (labels : List Label) :
    ∃ origin, Origins json builder labels
      (LabelledRuns.run (Session.step json) (connected builder) labels) origin := by
  induction labels using List.reverseRecOn with
  | nil =>
      exact ⟨_, origins_connected json builder fun tx => (httpConfig.endpoint (httpResp "") tx).2⟩
  | append_singleton labels label ih =>
      obtain ⟨origin, origins⟩ := ih
      rw [run_append]
      exact ⟨_, origins.step label⟩

/-- In every run all connections of a tunnel come with the options of one answer, which is the
one that its own `start_tunnel` has got to its own request, over whatever transports they have
come. -/
theorem served (builder : SessionBuilder) (json : Json Value) (labels : List Label) (tx : Tx) :
    let session := run (Session.step json) (connected builder) labels
    (∀ conn, .ok conn ∉ session.taken tx) ∨
      ∃ earlier answer later task inner cfg, labels = earlier ++ answer :: later ∧
        .startTunnel task cfg ∈ earlier ∧
        (run (Session.step json) (connected builder) earlier).calls task =
          some (.startRpc inner cfg tx) ∧
        .sent inner cfg.request (some tx) ∈
          (run (Session.step json) (connected builder) earlier).log ∧
        ∀ conn, .ok conn ∈ session.taken tx → ∃ header, cfg.Serves task header answer conn := by
  intro session
  obtain ⟨origin, origins⟩ := origins_run json builder labels
  by_cases quiet : ∀ conn, .ok conn ∉ session.taken tx
  · exact .inl quiet
  · right
    obtain ⟨conn, mem⟩ : ∃ conn, .ok conn ∈ session.taken tx := by simpa using quiet
    obtain ⟨built, same, -⟩ := origins.delivered tx conn (.inl mem)
    obtain ⟨earlier, answer, later, task, inner, cfg, split, started, call, sent, makes⟩ := built
    rw [same] at call sent
    refine ⟨earlier, answer, later, task, inner, cfg, split, started, call, sent, ?_⟩
    intro conn mem
    obtain ⟨-, -, header, rfl⟩ := origins.delivered tx conn (.inl mem)
    exact ⟨header, makes.serves header⟩

end Session

end Agent

end NgrokRust
