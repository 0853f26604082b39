import NgrokRust.AgentRegistry

/-!
# The registry in every run

The accept loop works on the current `SessionInner`, and the tunnels in its maps and
copies were all returned by `start_tunnel`, each at most once.  So a tunnel that is in
neither of them never comes back.
-/

namespace NgrokRust

namespace Agent

open KeyedRoutes LabelledRuns

namespace Session

variable {Value : Type*} {json : Json Value} {session next : Session} {label : Label}

/-- What holds of the registry in every run: the accept loop works on the current
`SessionInner`, all tunnels in maps were returned by `start_tunnel`, and those that it is
about to return are new. -/
structure Registered (session : Session) : Prop where
  inner : ∀ inner, session.accept.inner = some inner → inner = session.current
  known : ∀ inner key tx, (key, tx) ∈ (session.inners inner).routes →
    (session.standing tx).isSome
  copied : ∀ key tx, (key, tx) ∈ session.accept.copies → (session.standing tx).isSome
  bounded : ∀ tx, (session.standing tx).isSome → tx < session.nextTx
  new : ∀ task tx, session.starting task = some tx →
    tx < session.nextTx ∧ session.standing tx = none
  apart : ∀ task task' tx, session.starting task = some tx → session.starting task' = some tx →
    task = task'
  dropped : ∀ task tx, session.dropping task = some tx → (session.standing tx).isSome
  loaded : ∀ task inner, session.loaded task = some inner → inner ≤ session.current

theorem registered_connected (builder : SessionBuilder) : (connected builder).Registered where
  inner := by simp [connected, AcceptLoop.inner]
  known := by simp [connected, SessionInner.routes]
  copied := by simp [connected, AcceptLoop.copies]
  bounded := by simp [connected, standing]
  new := by simp [connected, starting]
  apart := by simp [connected, starting]
  dropped := by simp [connected, dropping]
  loaded := by simp [connected, loaded]

/-- Nothing new in the maps, among the handles or among the starting tunnels. -/
theorem Registered.frame (registered : session.Registered)
    (current : next.current = session.current)
    (inner : ∀ inner, next.accept.inner = some inner →
      session.accept.inner = some inner ∨ inner = session.current)
    (known : ∀ inner route, route ∈ (next.inners inner).routes →
      route ∈ (session.inners inner).routes)
    (copied : ∀ key tx, (key, tx) ∈ next.accept.copies →
      (∃ key, (key, tx) ∈ session.accept.copies) ∨
        ∃ inner key, (key, tx) ∈ (session.inners inner).routes)
    (standing : ∀ tx, (next.standing tx).isSome = (session.standing tx).isSome)
    (nextTx : next.nextTx = session.nextTx)
    (starting : ∀ task tx, next.starting task = some tx → session.starting task = some tx)
    (dropping : ∀ task tx, next.dropping task = some tx →
      session.dropping task = some tx ∨ (session.standing tx).isSome)
    (loaded : ∀ task inner, next.loaded task = some inner →
      session.loaded task = some inner ∨ inner = session.current) : next.Registered where
  inner := by
    intro other loaded
    rw [current]
    obtain same | same := inner other loaded
    · exact registered.inner other same
    · exact same
  known := by
    intro other key tx mem
    rw [standing]
    exact registered.known other key tx (known other _ mem)
  copied := by
    intro key tx mem
    rw [standing]
    obtain ⟨key, copy⟩ | ⟨other, key, route⟩ := copied key tx mem
    · exact registered.copied key tx copy
    · exact registered.known other key tx route
  bounded := by
    intro tx known
    rw [standing] at known
    rw [nextTx]
    exact registered.bounded tx known
  new := by
    intro task tx starts
    obtain ⟨small, fresh⟩ := registered.new task tx (starting task tx starts)
    have unknown := standing tx
    rw [fresh, Option.isSome_none, Option.isSome_eq_false_iff, Option.isNone_iff_eq_none] at unknown
    exact ⟨nextTx ▸ small, unknown⟩
  apart := fun task task' tx starts starts' =>
    registered.apart task task' tx (starting task tx starts) (starting task' tx starts')
  dropped := by
    intro task tx drops
    rw [standing]
    obtain before | known := dropping task tx drops
    · exact registered.dropped task tx before
    · exact known
  loaded := by
    intro task other loads
    rw [current]
    obtain before | rfl := loaded task other loads
    · exact registered.loaded task other before
    · exact le_refl _

theorem Registered.quiet (registered : session.Registered) (quiet : Quiet session next) :
    next.Registered := by
  refine registered.frame quiet.current quiet.inner ?_ ?_ ?_ quiet.nextTx ?_ quiet.dropping
    quiet.loaded
  · intro inner route mem
    rwa [routes_of_tunnels (quiet.tunnels inner)] at mem
  · intro key tx mem
    obtain same | idle := quiet.accept
    · rw [same] at mem
      exact .inl ⟨key, mem⟩
    · rw [AcceptLoop.copies_eq_nil idle] at mem
      cases mem
  · intro tx
    rw [quiet.standing]
  · intro task tx starts
    obtain ⟨call, found, started⟩ := Option.bind_eq_some_iff.1 starts
    rw [starting, quiet.starting task call found (by simp [started])]
    exact started

theorem Registered.setAccept (registered : session.Registered) {accept : AcceptLoop}
    (inner : accept.inner = session.accept.inner)
    (copied : ∀ key tx, (key, tx) ∈ accept.copies →
      (∃ key, (key, tx) ∈ session.accept.copies) ∨
        ∃ inner key, (key, tx) ∈ (session.inners inner).routes) :
    (session.setAccept accept).Registered :=
  registered.frame rfl (fun _ loaded => .inl (inner ▸ loaded)) (fun _ _ => id) copied
    (fun _ => rfl) rfl (fun _ _ => id) (fun _ _ => .inl) (fun _ _ => .inl)

theorem Registered.startRequest (registered : session.Registered) {task : Task} {inner : Nat}
    {cfg : TunnelConfig} (call : session.calls task = some (.startLock inner cfg)) :
    (session.startRequest task inner cfg).Registered := by
  have calls : (session.startRequest task inner cfg).calls = Function.update session.calls task
    (some (.startRpc inner cfg session.nextTx)) := rfl
  have starting : ∀ other, (session.startRequest task inner cfg).starting other =
      if other = task then some session.nextTx else session.starting other :=
    fun _ => starting_update calls
  have fresh : session.standing session.nextTx = none := by
    by_contra known
    exact absurd (registered.bounded _ (Option.isSome_iff_ne_none.2 known)) (lt_irrefl _)
  have small : ∀ other, session.starting other ≠ some session.nextTx :=
    fun other starts => absurd (registered.new other _ starts).1 (lt_irrefl _)
  refine ⟨registered.inner, registered.known, registered.copied, ?_, ?_, ?_, ?_, ?_⟩
  · exact fun tx known => Nat.lt_succ_of_lt (registered.bounded tx known)
  · intro other tx starts
    rw [starting] at starts
    split at starts
    · cases starts
      exact ⟨Nat.lt_succ_self _, fresh⟩
    · exact ⟨Nat.lt_succ_of_lt (registered.new other tx starts).1,
        (registered.new other tx starts).2⟩
  · intro other other' tx starts starts'
    rw [starting] at starts starts'
    split at starts <;> split at starts'
    · rename_i same same'
      rw [same, same']
    · cases starts
      exact absurd starts' (small other')
    · cases starts'
      exact absurd starts (small other)
    · exact registered.apart other other' tx starts starts'
  · intro other tx drops
    rw [dropping_update calls] at drops
    split at drops
    · cases drops
    · exact registered.dropped other tx drops
  · intro other loads at_
    rw [loaded_update calls] at at_
    split at at_
    · rename_i same
      exact registered.loaded task loads ((loaded_of_call call).trans at_)
    · exact registered.loaded other loads at_

theorem Registered.insertTunnel (registered : session.Registered) {task : Task} {inner : Nat}
    {info : TunnelInnerInfo} {bound : BoundTunnel}
    (call : session.calls task = some (.startInsert inner info bound)) :
    (session.insertTunnel task inner info bound).Registered := by
  have starts : session.starting task = some bound.tx := starting_of_call call
  have calls : (session.insertTunnel task inner info bound).calls =
    Function.update session.calls task none := rfl
  have starting : ∀ other, (session.insertTunnel task inner info bound).starting other =
      if other = task then none else session.starting other :=
    fun _ => starting_update calls
  have later : ∀ tx, (session.standing tx).isSome →
      ((session.insertTunnel task inner info bound).standing tx).isSome := by
    intro tx known
    rw [insertTunnel_standing]
    split
    · rfl
    · exact known
  refine ⟨registered.inner, ?_, fun key tx copy => later tx (registered.copied key tx copy),
    ?_, ?_, ?_, ?_, ?_⟩
  · intro other key tx mem
    rw [insertTunnel_inners] at mem
    obtain ⟨rfl, mem⟩ | mem := mem_routes_setInner mem
    · obtain same | mem := mem_routes_insert mem
      · obtain ⟨rfl, rfl⟩ := Prod.mk.inj same
        simp
      · exact later tx (registered.known other key tx mem)
    · exact later tx (registered.known other key tx mem)
  · intro tx known
    rw [insertTunnel_standing] at known
    split at known
    · rename_i same
      exact same ▸ (registered.new task _ starts).1
    · exact registered.bounded tx known
  · intro other tx found
    rw [starting] at found
    split at found
    · cases found
    · rename_i elsewhere
      have different : tx ≠ bound.tx := by
        rintro rfl
        exact elsewhere (registered.apart other task _ found starts)
      rw [insertTunnel_standing, if_neg different]
      exact registered.new other tx found
  · intro other other' tx found found'
    rw [starting] at found found'
    split at found
    · cases found
    · split at found'
      · cases found'
      · exact registered.apart other other' tx found found'
  · intro other tx drops
    exact later tx (registered.dropped other tx (dropping_of_over calls other tx drops))
  · intro other loads at_
    exact registered.loaded other loads (loaded_of_over calls other loads at_)

theorem Registered.swap (registered : session.Registered) {old : Nat} {newInner : SessionInner}
    (accept : session.accept = .swapping old newInner) :
    (session.swap old newInner).Registered := by
  refine ⟨?_, ?_, ?_, registered.bounded, registered.new, registered.apart, registered.dropped, ?_⟩
  · rintro inner ⟨⟩
  · intro inner key tx mem
    simp only [Session.swap, Function.update_apply] at mem
    split at mem
    · refine registered.copied key tx ?_
      rw [accept]
      exact mem
    · exact registered.known inner key tx mem
  · intro key tx mem
    cases mem
  · intro task inner loads
    have same : old = session.current := registered.inner old (by rw [accept]; rfl)
    have before : inner ≤ session.current := registered.loaded task inner loads
    exact same ▸ Nat.le_succ_of_le before

theorem Registered.startBound (registered : session.Registered) {task : Task} {inner : Nat}
    {cfg : TunnelConfig} {tx : Tx} {tunnel : TunnelInnerInfo × BoundTunnel}
    (call : session.calls task = some (.startRpc inner cfg tx)) (same : tunnel.2.tx = tx) :
    (session.startBound task inner tunnel).Registered := by
  have calls : (session.startBound task inner tunnel).calls = Function.update session.calls task
    (some (.startInsert inner tunnel.1 tunnel.2)) := rfl
  refine registered.frame rfl (fun _ => .inl) (fun other route mem => ?_)
    (fun key _ mem => .inl ⟨key, mem⟩) (fun _ => rfl) rfl (fun other started found => ?_)
    (fun other dropped found => ?_) (fun other loads found => ?_)
  · rwa [startBound_routes] at mem
  · rw [starting_update calls] at found
    split at found
    · rename_i equal
      rw [equal, starting_of_call call]
      exact same ▸ found
    · exact found
  · rw [dropping_update calls] at found
    split at found
    · cases found
    · exact .inl found
  · rw [loaded_update calls] at found
    split at found
    · rename_i equal
      rw [equal, loaded_of_call call]
      exact .inl found
    · exact .inl found

theorem Registered.closeFailed (registered : session.Registered) (task : Task) (inner : Nat)
    (via : Via) : (session.closeFailed task inner via).Registered := by
  have calls : (session.closeFailed task inner via).calls =
    Function.update session.calls task none := rfl
  exact registered.frame rfl (fun _ => .inl) (fun _ _ => id) (fun key _ mem => .inl ⟨key, mem⟩)
    (fun _ => rfl) rfl (starting_of_over calls)
    (fun other tx drops => .inl (dropping_of_over calls other tx drops))
    (fun other loads at_ => .inl (loaded_of_over calls other loads at_))

theorem Registered.removeTunnel (registered : session.Registered) (task : Task) (inner : Nat)
    (id : String) (via : Via) : (session.removeTunnel task inner id via).Registered := by
  have calls : (session.removeTunnel task inner id via).calls =
    Function.update session.calls task none := removeTunnel_calls ..
  refine registered.frame (by simp) (fun inner loaded => ?_) (fun other route mem => ?_)
    (fun key tx mem => ?_) (fun tx => ?_) (by simp) (starting_of_over calls)
    (fun other tx drops => .inl (dropping_of_over calls other tx drops))
    (fun other loads at_ => .inl (loaded_of_over calls other loads at_))
  · rw [removeTunnel_accept] at loaded
    exact .inl loaded
  · rw [removeTunnel_inners] at mem
    exact mem_routes_setInner_erase mem
  · rw [removeTunnel_accept] at mem
    exact .inl ⟨key, mem⟩
  · simp

theorem Registered.stopTunnel (registered : session.Registered) {inner : Nat} {req : StopTunnel}
    (tun : BoundTunnel) (accept : session.accept = .stopping inner req) :
    (session.stopTunnel inner req tun).Registered := by
  refine registered.frame rfl (fun inner loaded => .inl (accept ▸ loaded))
    (fun other route mem => ?_) (fun key tx mem => by cases mem) (fun tx => ?_) rfl
    (fun _ _ => id) (fun _ _ => .inl) (fun _ _ => .inl)
  · rw [stopTunnel_inners] at mem
    exact mem_routes_setInner_erase mem
  · rw [stopTunnel_standing]
    split
    · exact isSome_endStanding _
    · rfl

theorem Registered.pruneTunnel (registered : session.Registered) (inner : Nat) (id : String) :
    (session.pruneTunnel inner id).Registered := by
  refine registered.frame (by simp) (fun inner loaded => ?_) (fun other route mem => ?_)
    (fun key tx mem => ?_) (fun tx => ?_) (by simp) (fun other tx => ?_) (fun other tx => ?_)
    (fun other inner => ?_)
  · rw [pruneTunnel_accept] at loaded
    cases loaded
  · rw [pruneTunnel_inners] at mem
    exact mem_routes_setInner_erase mem
  · rw [pruneTunnel_accept] at mem
    cases mem
  · exact pruneTunnel_known session _ _ tx
  · rw [starting, starting, pruneTunnel_calls]
    exact fun starts => starts
  · rw [dropping, dropping, pruneTunnel_calls]
    exact .inl
  · rw [Session.loaded, Session.loaded, pruneTunnel_calls]
    exact .inl

theorem Registered.startDrain (registered : session.Registered) (error : AcceptError)
    (order : List (Σ _ : String, BoundTunnel)) : (session.startDrain error order).Registered := by
  refine registered.frame rfl (fun inner loaded => ?_) (fun other route mem => ?_)
    (fun key tx mem => by cases mem) (fun tx => ?_) rfl (fun _ _ => id) (fun _ _ => .inl)
    (fun _ _ => .inl)
  · cases loaded
    exact .inr rfl
  · exact mem_routes_startDrain mem
  · rw [startDrain_standing]
    split
    · exact isSome_endStanding _
    · rfl

theorem Registered.sendRebind (registered : session.Registered) {old : Nat}
    {newInner : SessionInner} {entry : Σ _ : String, BoundTunnel}
    {rest : List (Σ _ : String, BoundTunnel)}
    (accept : session.accept = .binding old newInner (entry :: rest)) :
    (session.sendRebind old newInner entry rest).Registered := by
  have same : (session.setAccept (.awaiting old newInner entry rest)).Registered :=
    registered.setAccept (by rw [accept]; rfl)
      fun key tx mem => .inl ⟨key, by rw [accept]; exact mem⟩
  exact same.frame rfl (fun _ => .inl) (fun _ _ => id) (fun key _ mem => .inl ⟨key, mem⟩)
    (fun _ => rfl) rfl (fun _ _ => id) (fun _ _ => .inl) (fun _ _ => .inl)

theorem Registered.step (registered : session.Registered)
    (step : RegistryStep session label next) : next.Registered := by
  cases step with
  | quiet quiet => exact registered.quiet quiet
  | start call => exact registered.startRequest call
  | bound call same => exact registered.startBound call same
  | insert call unlocked => exact registered.insertTunnel call
  | failed call => exact registered.closeFailed ..
  | remove call unlocked => exact registered.removeTunnel ..
  | stop accept found => exact registered.stopTunnel _ accept
  | prune accept => exact registered.pruneTunnel ..
  | drain accept perm => exact registered.startDrain ..
  | authenticated accept empty unbound =>
      refine registered.setAccept (by rw [accept]; rfl) fun key tx mem => ?_
      simp [AcceptLoop.copies, SessionInner.routes, empty] at mem
  | lock accept perm =>
      rename_i old newInner
      refine registered.setAccept (by rw [accept]; rfl) fun key tx mem => ?_
      obtain new | copied := List.mem_append.1 mem
      · rw [accept]
        exact .inl ⟨key, new⟩
      · exact .inr ⟨old, key, (perm.map entryRoute).subset copied⟩
  | send accept => exact registered.sendRebind accept
  | answered accept =>
      refine registered.setAccept (by rw [accept]; rfl) fun key tx mem => .inl ?_
      rw [accept]
      obtain same | before := mem_copies_rebound mem
      · obtain ⟨-, rfl⟩ := Prod.mk.inj same
        exact ⟨_, mem_copies_awaiting ..⟩
      · exact ⟨key, before⟩
  | unlock accept =>
      refine registered.setAccept (by rw [accept]; rfl) fun key tx mem => .inl ⟨key, ?_⟩
      rw [accept]
      exact List.mem_append_left _ mem
  | swap accept => exact registered.swap accept

theorem registered_of_reaches {admits : Session → Label → Prop} {builder : SessionBuilder}
    (reaches : Reaches (Session.step json) admits (connected builder) session) :
    session.Registered :=
  Reaches.invariant Registered
    (fun _ _ _ registered => registered.step (registryStep_of_transition (transition_step ..)))
    reaches (registered_connected builder)

/-- Where the copied tunnels come from. -/
theorem copies_step (registered : session.Registered) (step : RegistryStep session label next)
    {key : String} {tx : Tx} (mem : (key, tx) ∈ next.accept.copies) :
    (∃ key, (key, tx) ∈ session.accept.copies) ∨ ∃ key, (key, tx) ∈ session.routes := by
  cases step with
  | quiet quiet =>
      obtain same | idle := quiet.accept
      · rw [same] at mem
        exact .inl ⟨key, mem⟩
      · rw [AcceptLoop.copies_eq_nil idle] at mem
        cases mem
  | remove =>
      rw [removeTunnel_accept] at mem
      exact .inl ⟨key, mem⟩
  | prune =>
      rw [pruneTunnel_accept] at mem
      cases mem
  | start | bound | insert | failed => exact .inl ⟨key, mem⟩
  | stop | drain | swap => cases mem
  | authenticated accept empty =>
      simp [Session.setAccept, AcceptLoop.copies, SessionInner.routes, empty] at mem
  | lock accept perm =>
      rename_i order old newInner
      obtain rfl : old = session.current := registered.inner old (by rw [accept]; rfl)
      rw [accept]
      obtain new | copied := List.mem_append.1 mem
      · exact .inl ⟨key, new⟩
      · exact .inr ⟨key, (perm.map entryRoute).subset copied⟩
  | send accept =>
      rw [accept]
      exact .inl ⟨key, mem⟩
  | answered accept =>
      rw [accept]
      obtain same | before := mem_copies_rebound mem
      · obtain ⟨-, rfl⟩ := Prod.mk.inj same
        exact .inl ⟨_, mem_copies_awaiting ..⟩
      · exact .inl ⟨key, before⟩
  | unlock accept =>
      rw [accept]
      exact .inl ⟨key, List.mem_append_left _ mem⟩

/-- A tunnel that was returned, and is neither in the current map nor in a copy of it. -/
structure Gone (session : Session) (tx : Tx) : Prop where
  known : (session.standing tx).isSome
  unrouted : ∀ key, (key, tx) ∉ session.routes
  uncopied : ∀ key, (key, tx) ∉ session.accept.copies

theorem Gone.step {tx : Tx} (gone : session.Gone tx) (registered : session.Registered)
    (step : RegistryStep session label next) : next.Gone tx where
  known := known_step step gone.known
  unrouted := by
    intro key mem
    obtain route | copy | ⟨task, starts⟩ := routes_step step mem
    · exact gone.unrouted key route
    · exact gone.uncopied key copy
    · have known := gone.known
      rw [(registered.new task tx starts).2] at known
      cases known
  uncopied := by
    intro key mem
    obtain ⟨key, copy⟩ | ⟨key, route⟩ := copies_step registered step mem
    · exact gone.uncopied key copy
    · exact gone.unrouted key route

structure Distinct (session : Session) : Prop where
  routes : session.txs.Nodup
  copies : (session.accept.copies.map Prod.snd).Nodup
  empty : ∀ old newInner, session.accept = .locking old newInner → newInner.routes = []

theorem distinct_connected (builder : SessionBuilder) : (connected builder).Distinct where
  routes := List.nodup_nil
  copies := List.nodup_nil
  empty := by simp [connected]

theorem Distinct.of_idle (routes : session.txs.Nodup) (idle : ¬ session.accept.Rebinding) :
    session.Distinct where
  routes := routes
  copies := by
    rw [AcceptLoop.copies_eq_nil idle]
    exact List.nodup_nil
  empty := by
    intro old newInner accept
    rw [accept] at idle
    exact absurd trivial idle

theorem Distinct.erase (distinct : session.Distinct) {inner : Nat} {id : String}
    (routes : next.routes = ((session.setInner inner fun value =>
      { value with tunnels := value.tunnels.erase id }).inners session.current).routes) :
    next.txs.Nodup := by
  rw [txs, routes]
  by_cases here : session.current = inner
  · subst here
    rw [routes_setInner_current]
    exact nodup_targets_erase distinct.routes
  · rw [routes_setInner_other here]
    exact distinct.routes

theorem Distinct.insertTunnel (distinct : session.Distinct) (registered : session.Registered)
    {task : Task} {inner : Nat} {info : TunnelInnerInfo} {bound : BoundTunnel}
    (call : session.calls task = some (.startInsert inner info bound)) :
    (session.insertTunnel task inner info bound).Distinct := by
  have starts : session.starting task = some bound.tx := starting_of_call call
  refine ⟨?_, distinct.copies, distinct.empty⟩
  change (((session.insertTunnel task inner info bound).inners session.current).routes.map
    Prod.snd).Nodup
  rw [insertTunnel_inners]
  by_cases here : session.current = inner
  · subst here
    rw [routes_setInner_current]
    refine (List.nodup_cons.2 ⟨fun mem => ?_, distinct.routes⟩).sublist targets_insert_sublist
    obtain ⟨⟨key, tx⟩, route, rfl⟩ := List.mem_map.1 mem
    have known := registered.known _ _ _ route
    rw [(registered.new task _ starts).2] at known
    cases known
  · rw [routes_setInner_other here]
    exact distinct.routes

theorem Distinct.rebindAnswered (distinct : session.Distinct) {old : Nat}
    {newInner : SessionInner} {entry : Σ _ : String, BoundTunnel}
    {rest : List (Σ _ : String, BoundTunnel)} {respId : String}
    (accept : session.accept = .awaiting old newInner entry rest) :
    (session.setAccept (.binding old (rebound newInner entry respId) rest)).Distinct := by
  refine ⟨distinct.routes, ?_, by rintro old newInner ⟨⟩⟩
  have copies := distinct.copies
  rw [accept] at copies
  simp only [AcceptLoop.copies, List.map_append, List.map_cons, Session.setAccept] at copies ⊢
  have moved := (List.perm_middle.nodup_iff).1 copies
  refine moved.sublist ?_
  rw [← List.cons_append]
  exact targets_insert_sublist.append (.refl _)

theorem Distinct.step (distinct : session.Distinct) (registered : session.Registered)
    (step : RegistryStep session label next) : next.Distinct := by
  cases step with
  | quiet quiet =>
      have routes : next.txs = session.txs := by rw [txs, routes_of_quiet quiet, txs]
      obtain same | idle := quiet.accept
      · exact ⟨routes ▸ distinct.routes, same ▸ distinct.copies, same ▸ distinct.empty⟩
      · exact .of_idle (routes ▸ distinct.routes) idle
  | start | failed => exact ⟨distinct.routes, distinct.copies, distinct.empty⟩
  | bound =>
      refine ⟨?_, distinct.copies, distinct.empty⟩
      rw [txs, Session.routes, startBound_routes]
      exact distinct.routes
  | insert call unlocked => exact distinct.insertTunnel registered call
  | remove call unlocked =>
      refine ⟨distinct.erase (by rw [Session.routes, removeTunnel_inners, removeTunnel_current]),
        ?_, ?_⟩
      · rw [removeTunnel_accept]
        exact distinct.copies
      · rw [removeTunnel_accept]
        exact distinct.empty
  | stop accept found =>
      exact .of_idle (distinct.erase (by rw [Session.routes, stopTunnel_inners]; rfl)) id
  | prune accept =>
      refine .of_idle (distinct.erase (by rw [Session.routes, pruneTunnel_inners,
        pruneTunnel_current])) ?_
      rw [pruneTunnel_accept]
      exact id
  | drain accept perm =>
      rename_i order error
      refine .of_idle ?_ id
      change (((session.startDrain error order).inners session.current).routes.map Prod.snd).Nodup
      rw [startDrain_inners, routes_setInner_current]
      exact List.nodup_nil
  | authenticated accept empty unbound =>
      rename_i old newInner
      have none_ : newInner.routes = [] := by
        rw [SessionInner.routes, empty]
        rfl
      refine ⟨distinct.routes, ?_, ?_⟩
      · change (newInner.routes.map Prod.snd).Nodup
        rw [none_]
        exact List.nodup_nil
      · rintro old' newInner' ⟨⟩
        exact none_
  | lock accept perm =>
      rename_i order old newInner
      obtain rfl : old = session.current := registered.inner old (by rw [accept]; rfl)
      refine ⟨distinct.routes, ?_, by rintro old newInner ⟨⟩⟩
      change ((newInner.routes ++ order.map entryRoute).map Prod.snd).Nodup
      rw [distinct.empty _ _ accept, List.nil_append]
      exact ((perm.map entryRoute).map Prod.snd).nodup_iff.2 distinct.routes
  | send accept =>
      have copies := distinct.copies
      rw [accept] at copies
      exact ⟨distinct.routes, copies, by rintro old newInner ⟨⟩⟩
  | answered accept => exact distinct.rebindAnswered accept
  | unlock accept =>
      have copies := distinct.copies
      rw [accept] at copies
      refine ⟨distinct.routes, ?_, by rintro old newInner ⟨⟩⟩
      rwa [AcceptLoop.copies, List.map_nil, List.append_nil] at copies
  | swap accept =>
      have copies := distinct.copies
      rw [accept] at copies
      refine .of_idle ?_ id
      rw [txs, swap_routes]
      exact copies

theorem distinct_of_reaches {admits : Session → Label → Prop} {builder : SessionBuilder}
    (reaches : Reaches (Session.step json) admits (connected builder) session) :
    session.Distinct := by
  have both : session.Registered ∧ session.Distinct := by
    refine Reaches.invariant (fun session => session.Registered ∧ session.Distinct) ?_ reaches
      ⟨registered_connected builder, distinct_connected builder⟩
    rintro session label - ⟨registered, distinct⟩
    have step := registryStep_of_transition (transition_step json session label)
    exact ⟨registered.step step, distinct.step registered step⟩
  exact both.2

end Session

end Agent

end NgrokRust
