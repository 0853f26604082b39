import NgrokRust.AgentUpdates

/-!
# Handles and the names of their tunnels

The handle of a tunnel keeps the id of the answer to its `start_tunnel`.  The key of its
entry and the id that the server uses are renewed at every reconnect, for labeled tunnels
under the id of the new answer.
-/

namespace NgrokRust

namespace Agent

open KeyedRoutes LabelledRuns

/-- The `SessionInner` of a reconnect that has authenticated. -/
def AcceptLoop.newInner : AcceptLoop → Option SessionInner
  | .locking _ newInner => some newInner
  | .binding _ newInner _ => some newInner
  | .awaiting _ newInner _ _ => some newInner
  | .swapping _ newInner => some newInner
  | _ => none

/-- An uninterrupted call of `close_tunnel` whose `Unbind` succeeds. -/
def Label.closing (task : Task) (id : String) : List Label :=
  [.closeTunnel task id, .resume task, .unbindAnswer task (.ok ()), .resume task]

namespace Session

variable {Value : Type*} {json : Json Value} {session next : Session} {label : Label}

def serverId (session : Session) (tx : Tx) : Option String :=
  ((session.inners session.current).bindings.reverse.find? fun binding => binding.1 = tx).map
    Prod.snd

/-- `close_tunnel` with the id of a live tunnel sends an `Unbind` for the id that the server
uses, and removes the tunnel from the current map. -/
def HandlesClose (json : Json Value) (session : Session) : Prop :=
  ∀ tx handle task, session.handles tx = some handle → handle.fate = .live →
    session.calls task = none → session.client session.current = none →
    session.accept.locks ≠ some session.current →
      let closed := run (Session.step json) session (Label.closing task handle.info.id)
      ∃ id, session.serverId tx = some id ∧
        closed.log = .sent session.current (.unbind id) none :: session.log ∧
        tx ∈ session.txs ∧ tx ∉ closed.txs

/-- No update is lost, and labeled tunnels get no new ids. -/
def keepsNames (session : Session) : Label → Prop
  | .rebindAnswer (.ok respId) => session.keepsUpdates (.rebindAnswer (.ok respId)) ∧
      ∀ old newInner entry rest, session.accept = .awaiting old newInner entry rest →
        entry.2.proto = "" → respId = "" ∨ respId = entry.1
  | label => session.keepsUpdates label

theorem keepsUpdates_of_keepsNames (admitted : session.keepsNames label) :
    session.keepsUpdates label := by
  cases label with
  | rebindAnswer answer =>
      cases answer with
      | ok respId => exact admitted.1
      | error error => exact admitted
  | _ => exact admitted

theorem rebindKey_of_kept {entry : Σ _ : String, BoundTunnel} {respId : String}
    (same : entry.2.proto = "" → respId = "" ∨ respId = entry.1) :
    entry.2.rebindKey entry.1 respId = entry.1 := by
  unfold BoundTunnel.rebindKey
  split
  · rfl
  · rename_i labeled
    split
    · rename_i given
      exact (same (not_not.1 labeled)).resolve_left given
    · rfl

def named (session : Session) (tx : Tx) : Option String :=
  (session.standing tx).map (·.1.id)

theorem named_of_standing {tx : Tx} (standing : next.standing tx = session.standing tx) :
    next.named tx = session.named tx := by
  rw [named, standing, named]

theorem map_closeStanding (id : String) (value : Option (TunnelInnerInfo × Fate)) :
    (value.map (closeStanding id)).map (·.1.id) = value.map (·.1.id) := by
  rw [Option.map_map]
  congr 1
  funext pair
  simp only [Function.comp_apply, closeStanding]
  split <;> rfl

theorem map_endStanding (value : Option (TunnelInnerInfo × Fate)) :
    (value.map endStanding).map (·.1.id) = value.map (·.1.id) := by
  rw [Option.map_map]
  congr 1
  funext pair
  simp only [Function.comp_apply, endStanding]
  split <;> rfl

theorem named_ended {tx : Tx} {ends : Prop} [Decidable ends]
    (standing : next.standing tx =
      if ends then (session.standing tx).map endStanding else session.standing tx) :
    next.named tx = session.named tx := by
  rw [named, standing, named]
  split
  · exact map_endStanding _
  · rfl

theorem pruneTunnel_named (session : Session) (inner : Nat) (id : String) (tx : Tx) :
    (session.pruneTunnel inner id).named tx = session.named tx := by
  obtain same | ends := session.pruneTunnel_standing_cases inner id tx
  · exact named_of_standing same
  · rw [named, ends]
    exact map_endStanding _

theorem named_insertTunnel (task : Task) (inner : Nat) (info : TunnelInnerInfo)
    (bound : BoundTunnel) (tx : Tx) :
    (session.insertTunnel task inner info bound).named tx =
      if tx = bound.tx then some info.id else session.named tx := by
  rw [named, insertTunnel_standing]
  split <;> rfl

/-- The id of a handle is the key of its entry in every map from the current one on, and
the id that the server has given the tunnel over every transport so far. -/
structure Named (session : Session) : Prop where
  keyed : ∀ key tx, (key, tx) ∈ session.routes →
    session.named tx = some key ∧ (tx, key) ∈ (session.inners session.current).bindings
  copied : ∀ key tx, (key, tx) ∈ session.accept.copies → session.named tx = some key
  renewed : ∀ newInner, session.accept.newInner = some newInner →
    (∀ key tx, (key, tx) ∈ newInner.routes → (tx, key) ∈ newInner.bindings) ∧
      ∀ tx id, (tx, id) ∈ newInner.bindings → session.named tx = some id
  bound : ∀ inner tx id, (tx, id) ∈ (session.inners inner).bindings →
    tx < session.nextTx ∧ ∀ name, session.named tx = some name → id = name
  unbound : ∀ task inner cfg tx, session.calls task = some (.startRpc inner cfg tx) →
    ∀ other id, (tx, id) ∉ (session.inners other).bindings
  answered : ∀ task inner info bound,
    session.calls task = some (.startInsert inner info bound) →
      (bound.tx, info.id) ∈ (session.inners inner).bindings ∧
        ∀ other id, (bound.tx, id) ∈ (session.inners other).bindings → id = info.id

theorem named_connected (builder : SessionBuilder) : (connected builder).Named where
  keyed := by simp [connected, Session.routes, SessionInner.routes]
  copied := by simp [connected, AcceptLoop.copies]
  renewed := by simp [connected, AcceptLoop.newInner]
  bound := by simp [connected]
  unbound := by simp [connected]
  answered := by simp [connected]

/-- No entry, no binding and no starting tunnel is new. -/
theorem Named.frame (names : session.Named) (current : next.current = session.current)
    (named : ∀ tx, next.named tx = session.named tx)
    (routes : ∀ route, route ∈ next.routes → route ∈ session.routes)
    (bindings : ∀ inner, (next.inners inner).bindings = (session.inners inner).bindings)
    (copied : ∀ route, route ∈ next.accept.copies →
      route ∈ session.accept.copies ∨ route ∈ session.routes)
    (renewed : ∀ newInner, next.accept.newInner = some newInner →
      session.accept.newInner = some newInner ∨ newInner.routes = [] ∧ newInner.bindings = [])
    (nextTx : next.nextTx = session.nextTx)
    (starting : ∀ task call, next.calls task = some call → call.startTx ≠ none →
      session.calls task = some call) : next.Named where
  keyed := by
    intro key tx mem
    rw [named, current, bindings]
    exact names.keyed key tx (routes _ mem)
  copied := by
    intro key tx mem
    rw [named]
    obtain before | route := copied _ mem
    · exact names.copied key tx before
    · exact (names.keyed key tx route).1
  renewed := by
    intro newInner at_
    obtain before | ⟨noRoutes, noBindings⟩ := renewed newInner at_
    · refine ⟨(names.renewed newInner before).1, fun tx id mem => ?_⟩
      rw [named]
      exact (names.renewed newInner before).2 tx id mem
    · simp [noRoutes, noBindings]
  bound := by
    intro inner tx id mem
    rw [bindings] at mem
    rw [named, nextTx]
    exact names.bound inner tx id mem
  unbound := by
    intro task inner cfg tx call other id
    rw [bindings]
    exact names.unbound task inner cfg tx (starting task _ call (by simp [Call.startTx])) other id
  answered := by
    intro task inner info bound call
    simp only [bindings]
    exact names.answered task inner info bound (starting task _ call (by simp [Call.startTx]))

theorem newInner_eq_none {accept : AcceptLoop} (idle : ¬ accept.Rebinding) :
    accept.newInner = none := by
  cases accept with
  | locking | binding | awaiting | swapping => exact absurd trivial idle
  | _ => rfl

theorem Named.quiet (names : session.Named) (quiet : Quiet session next) : next.Named := by
  refine names.frame quiet.current (fun tx => named_of_standing (quiet.standing tx)) ?_
    quiet.bindings ?_ ?_ quiet.nextTx quiet.starting
  · intro route mem
    rwa [routes_of_quiet quiet] at mem
  · intro route mem
    obtain same | idle := quiet.accept
    · exact .inl (same ▸ mem)
    · rw [AcceptLoop.copies_eq_nil idle] at mem
      cases mem
  · intro newInner at_
    obtain same | idle := quiet.accept
    · exact .inl (same ▸ at_)
    · rw [newInner_eq_none idle] at at_
      cases at_

/-- The start of an RPC makes a tunnel that no server knows. -/
theorem Named.startRequest (names : session.Named) {task : Task} {inner : Nat}
    {cfg : TunnelConfig} : (session.startRequest task inner cfg).Named := by
  refine ⟨names.keyed, names.copied, names.renewed, ?_, ?_, ?_⟩
  · intro other tx id mem
    exact ⟨Nat.lt_succ_of_lt (names.bound other tx id mem).1, (names.bound other tx id mem).2⟩
  · intro other inner' cfg' tx call inner'' id mem
    change Function.update session.calls task (some (.startRpc inner cfg session.nextTx)) other =
      _ at call
    rw [Function.update_apply] at call
    split at call
    · cases call
      exact absurd (names.bound inner'' _ id mem).1 (lt_irrefl _)
    · exact names.unbound other inner' cfg' tx call inner'' id mem
  · intro other inner' info bound call
    change Function.update session.calls task (some (.startRpc inner cfg session.nextTx)) other =
      _ at call
    rw [Function.update_apply] at call
    split at call
    · cases call
    · exact names.answered other inner' info bound call

/-- The bindings after an answer to `start_tunnel`. -/
theorem mem_bindings_startBound {task : Task} {inner other : Nat}
    {tunnel : TunnelInnerInfo × BoundTunnel} {binding : Tx × String} :
    binding ∈ ((session.startBound task inner tunnel).inners other).bindings ↔
      binding ∈ (session.inners other).bindings ∨
        other = inner ∧ binding = (tunnel.2.tx, tunnel.1.id) := by
  rw [startBound_inners]
  simp only [setInner, Function.update_apply]
  split
  · rename_i same
    simp [same]
  · rename_i different
    simp [different]

theorem Named.startBound (names : session.Named) (registered : session.Registered) {task : Task}
    {inner : Nat} {cfg : TunnelConfig} {tunnel : TunnelInnerInfo × BoundTunnel}
    (call : session.calls task = some (.startRpc inner cfg tunnel.2.tx)) :
    (session.startBound task inner tunnel).Named := by
  have starts : session.starting task = some tunnel.2.tx := starting_of_call call
  obtain ⟨small, unknown⟩ := registered.new task _ starts
  have noName : session.named tunnel.2.tx = none := by
    rw [named, unknown]
    rfl
  -- another starting tunnel is not the one that was answered
  have apart : ∀ other started, other ≠ task → session.starting other = some started →
      started ≠ tunnel.2.tx := by
    rintro other started different found rfl
    exact different (registered.apart other task _ found starts)
  refine ⟨?_, names.copied, names.renewed, ?_, ?_, ?_⟩
  · intro key tx mem
    have before : (key, tx) ∈ session.routes := by
      rwa [Session.routes, startBound_routes] at mem
    exact ⟨(names.keyed key tx before).1,
      mem_bindings_startBound.2 (.inl (names.keyed key tx before).2)⟩
  · intro other tx id mem
    obtain before | ⟨-, same⟩ := mem_bindings_startBound.1 mem
    · exact names.bound other tx id before
    · cases same
      refine ⟨small, fun name at_ => ?_⟩
      change session.named _ = _ at at_
      rw [noName] at at_
      cases at_
  · intro other inner' cfg' tx found inner'' id mem
    change Function.update session.calls task _ other = _ at found
    rw [Function.update_apply] at found
    split at found
    · cases found
    · rename_i different
      obtain before | ⟨-, same⟩ := mem_bindings_startBound.1 mem
      · exact names.unbound other inner' cfg' tx found inner'' id before
      · cases same
        exact apart other _ different (starting_of_call found) rfl
  · intro other inner' info bound found
    change Function.update session.calls task _ other = _ at found
    rw [Function.update_apply] at found
    split at found
    · cases found
      refine ⟨mem_bindings_startBound.2 (.inr ⟨rfl, rfl⟩), fun inner'' id mem => ?_⟩
      obtain before | ⟨-, same⟩ := mem_bindings_startBound.1 mem
      · exact absurd before (names.unbound task inner cfg _ call inner'' id)
      · cases same
        rfl
    · rename_i different
      have answered := names.answered other inner' info bound found
      refine ⟨mem_bindings_startBound.2 (.inl answered.1), fun inner'' id mem => ?_⟩
      obtain before | ⟨-, same⟩ := mem_bindings_startBound.1 mem
      · exact answered.2 inner'' id before
      · obtain ⟨same, -⟩ := Prod.mk.inj same
        exact absurd same (apart other _ different (starting_of_call found))

theorem Named.insertTunnel (names : session.Named) (registered : session.Registered) {task : Task}
    {info : TunnelInnerInfo} {bound : BoundTunnel}
    (call : session.calls task = some (.startInsert session.current info bound)) :
    (session.insertTunnel task session.current info bound).Named := by
  have starts : session.starting task = some bound.tx := starting_of_call call
  have noName : session.named bound.tx = none := by
    rw [Session.named, (registered.new task _ starts).2]
    rfl
  have answered := names.answered task _ info bound call
  have bindings : ∀ other, ((session.insertTunnel task session.current info bound).inners
      other).bindings = (session.inners other).bindings :=
    setInner_field (insertTunnel_inners ..) SessionInner.bindings fun _ => rfl
  -- the tunnels that had a name keep it
  have named : ∀ {tx name}, session.named tx = some name →
      (session.insertTunnel task session.current info bound).named tx = some name := by
    intro tx name at_
    rw [named_insertTunnel]
    split
    · rename_i same
      rw [same, noName] at at_
      cases at_
    · exact at_
  have calls : (session.insertTunnel task session.current info bound).calls =
    Function.update session.calls task none := rfl
  refine ⟨?_, fun key tx copy => named (names.copied key tx copy), ?_, ?_, ?_, ?_⟩
  · intro key tx mem
    change (key, tx) ∈
      ((session.insertTunnel task session.current info bound).inners session.current).routes at mem
    rw [insertTunnel_inners, routes_setInner_current] at mem
    rw [show (session.insertTunnel task session.current info bound).current = session.current
      from rfl, bindings]
    obtain same | before := mem_routes_insert mem
    · cases same
      refine ⟨?_, answered.1⟩
      rw [named_insertTunnel, if_pos rfl]
    · exact ⟨named (names.keyed key tx before).1, (names.keyed key tx before).2⟩
  · intro newInner at_
    have renewed := names.renewed newInner at_
    exact ⟨renewed.1, fun tx id mem => named (renewed.2 tx id mem)⟩
  · intro other tx id mem
    rw [bindings] at mem
    refine ⟨(names.bound other tx id mem).1, fun name at_ => ?_⟩
    rw [named_insertTunnel] at at_
    split at at_
    · rename_i same
      cases at_
      exact answered.2 other id (same ▸ mem)
    · exact (names.bound other tx id mem).2 name at_
  · intro other inner cfg tx found inner' id
    rw [bindings]
    exact names.unbound other inner cfg tx (call_of_over calls found) inner' id
  · intro other inner info' bound' found
    simp only [bindings]
    exact names.answered other inner info' bound' (call_of_over calls found)

theorem Named.rebindAnswered (names : session.Named) {old : Nat} {newInner : SessionInner}
    {entry : Σ _ : String, BoundTunnel} {rest : List (Σ _ : String, BoundTunnel)}
    {respId : String} (accept : session.accept = .awaiting old newInner entry rest)
    (key : entry.2.rebindKey entry.1 respId = entry.1) :
    (session.setAccept (.binding old (rebound newInner entry respId) rest)).Named := by
  have renewed := names.renewed newInner (by rw [accept]; rfl)
  have copied := names.copied
  rw [accept] at copied
  have entryNamed : session.named entry.2.tx = some entry.1 :=
    copied _ _ (mem_copies_awaiting ..)
  refine ⟨names.keyed, ?_, ?_, names.bound, names.unbound, names.answered⟩
  · intro key' tx mem
    obtain same | before := mem_copies_rebound mem
    · obtain ⟨rfl, rfl⟩ := Prod.mk.inj same
      rw [key]
      exact entryNamed
    · exact copied key' tx before
  · rintro newInner' ⟨⟩
    refine ⟨fun key' tx mem => ?_, fun tx id mem => ?_⟩
    · obtain same | before := mem_routes_insert mem
      · obtain ⟨rfl, rfl⟩ := Prod.mk.inj same
        exact List.mem_append_right _ List.mem_cons_self
      · exact List.mem_append_left _ (renewed.1 key' tx before)
    · obtain before | new := List.mem_append.1 mem
      · exact renewed.2 tx id before
      · obtain ⟨rfl, rfl⟩ := Prod.mk.inj (List.mem_singleton.1 new)
        rw [key]
        exact entryNamed

theorem Named.swap (names : session.Named) (registered : session.Registered) {old : Nat}
    {newInner : SessionInner} (accept : session.accept = .swapping old newInner) :
    (session.swap old newInner).Named := by
  have renewed := names.renewed newInner (by rw [accept]; rfl)
  have copied := names.copied
  rw [accept] at copied
  have bindings : ∀ other, ((session.swap old newInner).inners other).bindings =
      if other = old + 1 then newInner.bindings else (session.inners other).bindings := by
    intro other
    simp only [Session.swap, Function.update_apply]
    split <;> rfl
  have known : ∀ {tx id}, (tx, id) ∈ newInner.bindings → session.standing tx ≠ none := by
    intro tx id mem unknown
    have at_ := renewed.2 tx id mem
    rw [Session.named, unknown] at at_
    cases at_
  refine ⟨?_, by rintro key tx ⟨⟩, by rintro newInner' ⟨⟩, ?_, ?_, ?_⟩
  · intro key tx mem
    have route : (key, tx) ∈ newInner.routes := by rwa [swap_routes] at mem
    refine ⟨copied key tx route, ?_⟩
    rw [bindings, show (session.swap old newInner).current = old + 1 from rfl, if_pos rfl]
    exact renewed.1 key tx route
  · intro inner tx id mem
    rw [bindings] at mem
    split at mem
    · refine ⟨registered.bounded tx (Option.isSome_iff_ne_none.2 (known mem)), fun name at_ => ?_⟩
      have same := renewed.2 tx id mem
      change session.named tx = _ at at_
      rw [same] at at_
      exact Option.some.inj at_
    · exact names.bound inner tx id mem
  · intro task inner cfg tx call other id mem
    have starts : session.starting task = some tx := starting_of_call call
    rw [bindings] at mem
    split at mem
    · exact known mem (registered.new task tx starts).2
    · exact names.unbound task inner cfg tx call other id mem
  · intro task inner info bound call
    have call' : session.calls task = some (.startInsert inner info bound) := call
    have starts : session.starting task = some bound.tx := starting_of_call call'
    -- the call has loaded an older `SessionInner` than the new one
    have early : inner ≠ old + 1 := by
      have same : old = session.current := registered.inner old (by rw [accept]; rfl)
      have loaded : inner ≤ session.current :=
        registered.loaded task inner (loaded_of_call call')
      omega
    refine ⟨?_, fun other id mem => ?_⟩
    · rw [bindings, if_neg early]
      exact (names.answered task inner info bound call').1
    · rw [bindings] at mem
      split at mem
      · exact absurd (registered.new task _ starts).2 (known mem)
      · exact (names.answered task inner info bound call').2 other id mem

theorem Named.step (names : session.Named) (kept : session.Kept)
    (admitted : session.keepsNames label) (step : RegistryStep session label next) :
    next.Named := by
  cases step with
  | quiet quiet => exact names.quiet quiet
  | start call => exact names.startRequest
  | bound call same => exact names.startBound kept.registered (same ▸ call)
  | insert call unlocked =>
      obtain ⟨rfl, -, -⟩ := (keepsUpdates_of_keepsNames admitted).1 _ _ _ call
      exact names.insertTunnel kept.registered call
  | answered accept =>
      exact names.rebindAnswered accept (rebindKey_of_kept (admitted.2 _ _ _ _ accept))
  | swap accept => exact names.swap kept.registered accept
  | failed call =>
      rename_i task error inner tunnelId via
      have calls : (session.closeFailed task inner via).calls =
        Function.update session.calls task none := rfl
      exact names.frame rfl (fun _ => rfl) (fun _ => id) (fun _ => rfl) (fun _ => .inl)
        (fun _ => .inl) rfl (fun _ _ found _ => call_of_over calls found)
  | remove call unlocked =>
      rename_i task inner tunnelId via
      refine names.frame (removeTunnel_current ..) (fun tx => ?_) (fun route mem => ?_)
        (fun other => ?_) (fun route mem => ?_) (fun newInner at_ => ?_) (removeTunnel_nextTx ..)
        (fun _ _ found _ => call_of_over (removeTunnel_calls ..) found)
      · rw [named, removeTunnel_standing]
        exact map_closeStanding _ _
      · rw [Session.routes, removeTunnel_inners, removeTunnel_current] at mem
        exact mem_routes_setInner_erase mem
      · exact setInner_field (removeTunnel_inners ..) SessionInner.bindings (fun _ => rfl) other
      · rw [removeTunnel_accept] at mem
        exact .inl mem
      · rw [removeTunnel_accept] at at_
        exact .inl at_
  | stop accept found =>
      refine names.frame rfl (fun tx => named_ended (stopTunnel_standing ..)) (fun route mem => ?_)
        (fun other => ?_) (by rintro route ⟨⟩) (by rintro newInner ⟨⟩) rfl
        (fun _ _ found _ => found)
      · rw [Session.routes, stopTunnel_inners] at mem
        exact mem_routes_setInner_erase mem
      · exact setInner_field (stopTunnel_inners ..) SessionInner.bindings (fun _ => rfl) other
  | prune accept =>
      refine names.frame (pruneTunnel_current ..) (fun tx => ?_) (fun route mem => ?_)
        (fun other => ?_) (fun route mem => ?_) (fun newInner at_ => ?_) (pruneTunnel_nextTx ..)
        (fun task call found _ => ?_)
      · exact pruneTunnel_named ..
      · rw [Session.routes, pruneTunnel_inners, pruneTunnel_current] at mem
        exact mem_routes_setInner_erase mem
      · exact setInner_field (pruneTunnel_inners ..) SessionInner.bindings (fun _ => rfl) other
      · rw [pruneTunnel_accept] at mem
        cases mem
      · rw [pruneTunnel_accept] at at_
        cases at_
      · rwa [pruneTunnel_calls] at found
  | drain accept perm =>
      refine names.frame rfl (fun tx => named_ended (startDrain_standing ..)) (fun route mem => ?_)
        (fun other => ?_) (by rintro route ⟨⟩) (by rintro newInner ⟨⟩) rfl
        (fun _ _ found _ => found)
      · exact mem_routes_startDrain mem
      · exact setInner_field (startDrain_inners ..) SessionInner.bindings (fun _ => rfl) other
  | authenticated accept empty unbound =>
      refine names.frame rfl (fun _ => rfl) (fun _ => id) (fun _ => rfl) (fun route mem => ?_) ?_
        rfl (fun _ _ found _ => found)
      · simp [Session.setAccept, AcceptLoop.copies, SessionInner.routes, empty] at mem
      · rintro newInner' ⟨⟩
        exact .inr ⟨by rw [SessionInner.routes, empty]; rfl, unbound⟩
  | lock accept perm =>
      rename_i order old newInner
      obtain rfl : old = session.current := kept.registered.inner old (by rw [accept]; rfl)
      refine names.frame rfl (fun _ => rfl) (fun _ => id) (fun _ => rfl) (fun route mem => ?_)
        (fun newInner at_ => ?_) rfl (fun _ _ found _ => found)
      · obtain new | copied := List.mem_append.1 mem
        · rw [accept]
          exact .inl new
        · exact .inr ((perm.map entryRoute).subset copied)
      · rw [accept]
        exact .inl at_
  | send accept =>
      refine names.frame rfl (fun _ => rfl) (fun _ => id) (fun _ => rfl) (fun route mem => ?_)
        (fun newInner at_ => ?_) rfl (fun _ _ found _ => found)
      · rw [accept]
        exact .inl mem
      · rw [accept]
        exact .inl at_
  | unlock accept =>
      refine names.frame rfl (fun _ => rfl) (fun _ => id) (fun _ => rfl) (fun route mem => ?_)
        (fun newInner at_ => ?_) rfl (fun _ _ found _ => found)
      · rw [accept]
        exact .inl (List.mem_append_left _ mem)
      · rw [accept]
        exact .inl at_

/-- What an uninterrupted `close_tunnel` comes to. -/
theorem run_closing {task : Task} {id : String} (free : session.calls task = none)
    (client : session.client session.current = none)
    (unlocked : session.accept.locks ≠ some session.current) :
    run (Session.step json) session (Label.closing task id) =
      (((((session.setCall task (some (.closeLock session.current id .session))).closeRequest task
        session.current id .session).unlockClient session.current).setCall task
          (some (.closeRemove session.current id .session))).removeTunnel task session.current id
            .session) := by
  have begun : session.step json (.closeTunnel task id) =
      session.setCall task (some (.closeLock session.current id .session)) := by
    simp only [step, begin, free, if_true]
  have sent : (session.setCall task (some (.closeLock session.current id .session))).step json
      (.resume task) = (session.setCall task (some (.closeLock session.current id
        .session))).closeRequest task session.current id .session := by
    simp [step, resume, setCall, client]
  simp only [Label.closing, run_cons, run_nil, begun, sent]
  simp [step, unbindAnswer, resume, closeRequest, setCall, lockClient, unlockClient, record,
    unlocked]

theorem find?_of_only {bindings : List (Tx × String)} {tx : Tx} {id : String}
    (mem : (tx, id) ∈ bindings) (only : ∀ other, (tx, other) ∈ bindings → other = id) :
    (bindings.find? fun binding => binding.1 = tx).map Prod.snd = some id := by
  cases found : bindings.find? fun binding => binding.1 = tx with
  | none => simpa using List.find?_eq_none.1 found (tx, id) mem
  | some binding =>
      obtain ⟨tx', other⟩ := binding
      obtain rfl : tx' = tx := by simpa using List.find?_some found
      exact congrArg some (only other (List.mem_of_find?_eq_some found))

theorem Named.serverId_eq (names : session.Named) {key : String} {tx : Tx}
    (route : (key, tx) ∈ session.routes) : session.serverId tx = some key := by
  obtain ⟨named, binding⟩ := names.keyed key tx route
  refine find?_of_only (List.mem_reverse.2 binding) fun other mem => ?_
  exact (names.bound _ tx other (List.mem_reverse.1 mem)).2 key named

/-- In a run that keeps updates and names, handles close their tunnels. -/
theorem handlesClose (json : Json Value) (builder : SessionBuilder)
    (reaches : Reaches (Session.step json) keepsNames (connected builder) session) :
    session.HandlesClose json := by
  obtain ⟨kept, names⟩ : session.Kept ∧ session.Named := by
    refine Reaches.invariant (fun session => session.Kept ∧ session.Named) ?_ reaches
      ⟨kept_connected builder, named_connected builder⟩
    rintro session label admitted ⟨kept, names⟩
    have step := registryStep_of_transition (transition_step json session label)
    exact ⟨kept.step (keepsUpdates_of_keepsNames admitted) step, names.step kept admitted step⟩
  intro tx handle task found live free client unlocked closed
  have standing : session.standing tx = some (handle.info, .live) := by
    rw [Session.standing, found, ← live]
    rfl
  have mem := (kept.live tx).1 ⟨handle.info, standing⟩
  obtain ⟨⟨key, tx⟩, route, rfl⟩ := List.mem_map.1 mem
  have named : handle.info.id = key := by
    have at_ := (names.keyed key tx route).1
    rw [Session.named, standing] at at_
    exact Option.some.inj at_
  obtain ⟨tun, entry, same⟩ := lookup_of_route route
  have ran : closed = _ := run_closing free client unlocked
  refine ⟨key, names.serverId_eq route, ?_, mem, ?_⟩
  · rw [ran, named, removeTunnel_log]
    rfl
  · have left : closed.routes = KeyedRoutes.routes BoundTunnel.tx
        ((session.inners session.current).tunnels.erase key) := by
      rw [ran, named, Session.routes, removeTunnel_inners, removeTunnel_current]
      exact routes_setInner_current
    rw [txs, left]
    intro still
    exact ((mem_targets_erase entry kept.distinct.routes).1 still).2 same.symm

/-- A labeled tunnel keeps its id over a reconnect, and its handle closes it. -/
theorem handlesClose_sameId :
    let session := run (Session.step noJson) (connected someBuilder)
      (Label.startEdge 0 "tn_1" ++ Label.reconnect ++ Label.rebindOne (edgeEntry "tn_1" 0) "tn_1")
    let closed := run (Session.step noJson) session (Label.closing 0 "tn_1")
    session.txs = [0] ∧ session.serverId 0 = some "tn_1" ∧
      closed.log = .sent 1 (.unbind "tn_1") none :: session.log ∧ 0 ∉ closed.txs := by
  intro session closed
  have closes : session.HandlesClose noJson := by
    refine handlesClose noJson someBuilder (reaches_run ?_)
    refine ⟨trivial, ⟨?_, ?_⟩, trivial, ⟨?_, ?_⟩, trivial, ?_, trivial, trivial, ?_, ?_, ⟨?_, ?_⟩,
      ?_, ?_, trivial⟩
    · rintro inner info bound call
      cases call
    · rintro inner id via call
      cases call
    · rintro inner info bound call
      cases call
      exact ⟨rfl, fun copied => copied, rfl⟩
    · rintro inner id via call
      cases call
    · rintro inner id tun accept
      cases accept
    · rintro inner id tun accept
      cases accept
    · rintro inner id tun accept
      cases accept
    · rintro old newInner entry rest accept
      cases accept
      rfl
    · rintro old newInner entry rest accept
      cases accept
      exact fun _ => .inr rfl
    · rintro inner id tun accept
      cases accept
    · rintro inner id tun accept
      cases accept
  obtain ⟨id, server, log, -, gone⟩ := closes 0 _ 0 rfl rfl rfl rfl (by decide)
  have serverId : session.serverId 0 = some "tn_1" := by rfl
  rw [serverId] at server
  cases server
  exact ⟨rfl, serverId, log, gone⟩

/-- A labeled tunnel gets a new id at the reconnect: its handle makes the agent send an
`Unbind` for the old one, and nothing is removed. -/
theorem handle_afterNewId :
    let session := run (Session.step noJson) (connected someBuilder)
      (Label.startEdge 0 "tn_1" ++ Label.reconnect ++ Label.rebindOne (edgeEntry "tn_1" 0) "tn_2")
    let closed := run (Session.step noJson) session (Label.closing 0 "tn_1")
    session.serverId 0 = some "tn_2" ∧
      closed.log = .sent 1 (.unbind "tn_1") none :: session.log ∧ closed.txs = [0] ∧
        ¬ session.HandlesClose noJson := by
  intro session closed
  have stays : closed.txs = [0] := by rfl
  refine ⟨rfl, rfl, stays, fun closes => ?_⟩
  obtain ⟨id, -, -, -, gone⟩ := closes 0 _ 0 rfl rfl rfl rfl (by decide)
  change 0 ∉ closed.txs at gone
  rw [stays] at gone
  exact gone List.mem_cons_self

end Session

end Agent

end NgrokRust
