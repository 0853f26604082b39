import NgrokRust.AgentClose
import NgrokRust.AgentRegistryRuns

/-!
# Updates of the registry across a reconnect

`start_tunnel` and `close_tunnel` update the tunnels of the `SessionInner` that they loaded
when they began.  The update counts only where that is still the current `SessionInner`,
and where `try_reconnect` does not hold a copy of its tunnels that it has yet to store.
-/

namespace NgrokRust

namespace Agent

open KeyedRoutes LabelledRuns

def AcceptLoop.Copied : AcceptLoop → Prop
  | .swapping _ _ => True
  | _ => False

/-- Some or all tunnels are in the new map, and the others will be. -/
def AcceptLoop.Copying : AcceptLoop → Prop
  | .binding _ _ _ => True
  | .awaiting _ _ _ _ => True
  | .swapping _ _ => True
  | _ => False

namespace Session

variable {Value : Type*} {json : Json Value} {session next : Session} {label : Label}

/-- No call and no `try_reconnect` is in progress. -/
def Settled (session : Session) : Prop :=
  (∀ task, session.calls task = none) ∧ ¬ session.accept.PastCheck

/-- The current map has the tunnels that were started and not closed, and none that was
closed. -/
def NoLostUpdate (session : Session) : Prop :=
  session.Settled → ∀ tx handle, session.handles tx = some handle →
    (handle.fate = .live → tx ∈ session.txs) ∧ (handle.fate = .closed → tx ∉ session.txs)

/-- A `start_tunnel` returns. -/
def insertsCurrent (session : Session) (task : Task) : Prop :=
  ∀ inner info bound, session.calls task = some (.startInsert inner info bound) →
    inner = session.current ∧ ¬ session.accept.Copied ∧
      (session.inners session.current).tunnels.lookup info.id = none

/-- A `close_tunnel` returns. -/
def removesCurrent (session : Session) (task : Task) : Prop :=
  ∀ inner id via, session.calls task = some (.closeRemove inner id via) →
    (∀ tx, session.Live tx id →
      inner = session.current ∧ ¬ session.accept.Copied ∧ (id, tx) ∈ session.routes) ∧
    (inner = session.current → ∀ tx, (id, tx) ∈ session.routes → session.Live tx id)

/-- A `start_tunnel` inserts under a new key, and a `close_tunnel` removes the tunnel of its
id; both do so in the current map, while no copy of it waits to be stored. The keys of a
new map are distinct, and what is pruned has no receiver. -/
def keepsUpdates (session : Session) : Label → Prop
  | .resume task => session.insertsCurrent task ∧ session.removesCurrent task
  | .rebindAnswer (.ok respId) => ∀ old newInner entry rest,
      session.accept = .awaiting old newInner entry rest →
        newInner.tunnels.lookup (entry.2.rebindKey entry.1 respId) = none
  | .acceptResume _ => ∀ inner id tun, session.accept = .pruning inner id →
      (session.inners inner).tunnels.lookup id = some tun →
        (session.channels tun.tx).receiverOpen = false
  | _ => True

/-- The tunnels of the current map are those that are live, and a copy has the same
tunnels. -/
structure Kept (session : Session) : Prop where
  registered : session.Registered
  distinct : session.Distinct
  live : ∀ tx, (∃ info, session.standing tx = some (info, .live)) ↔ tx ∈ session.txs
  copied : session.accept.Copying → (session.accept.copies.map Prod.snd).Perm session.txs

theorem kept_connected (builder : SessionBuilder) : (connected builder).Kept where
  registered := registered_connected builder
  distinct := distinct_connected builder
  live := by simp [connected, standing, txs, routes, SessionInner.routes]
  copied := False.elim

theorem copying_rebinding {accept : AcceptLoop} (copying : accept.Copying) : accept.Rebinding := by
  cases accept with
  | binding | awaiting | swapping => trivial
  | _ => exact copying.elim

/-- While the current tunnels are unlocked, a copy of them exists only when it waits to be
stored. -/
theorem Registered.not_copying (registered : session.Registered)
    (unlocked : session.accept.locks ≠ some session.current)
    (notCopied : ¬ session.accept.Copied) : ¬ session.accept.Copying := by
  intro copying
  cases accept : session.accept with
  | binding old newInner rest =>
      have same : old = session.current := registered.inner old (by rw [accept]; rfl)
      exact unlocked (by rw [accept, same]; rfl)
  | awaiting old newInner entry rest =>
      have same : old = session.current := registered.inner old (by rw [accept]; rfl)
      exact unlocked (by rw [accept, same]; rfl)
  | swapping => exact notCopied (by rw [accept]; trivial)
  | _ => rw [accept] at copying; exact copying.elim

theorem Kept.frame (kept : session.Kept) (registered : next.Registered)
    (distinct : next.Distinct) (standing : ∀ tx, next.standing tx = session.standing tx)
    (routes : next.routes.Perm session.routes)
    (copied : next.accept.Copying → (next.accept.copies.map Prod.snd).Perm session.txs) :
    next.Kept := by
  have same : next.txs.Perm session.txs := routes.map Prod.snd
  refine ⟨registered, distinct, fun tx => ?_, fun copying => (copied copying).trans same.symm⟩
  rw [standing, same.mem_iff]
  exact kept.live tx

theorem Kept.erase (kept : session.Kept) {id : String} {tun : BoundTunnel}
    (found : (session.inners session.current).tunnels.lookup id = some tun)
    (registered : next.Registered) (distinct : next.Distinct)
    (standing : ∀ tx, (∃ info, next.standing tx = some (info, .live)) ↔
      (∃ info, session.standing tx = some (info, .live)) ∧ tx ≠ tun.tx)
    (routes : next.routes =
      KeyedRoutes.routes BoundTunnel.tx ((session.inners session.current).tunnels.erase id))
    (copying : ¬ next.accept.Copying) : next.Kept := by
  refine ⟨registered, distinct, fun tx => ?_, fun still => absurd still copying⟩
  rw [standing, kept.live]
  change _ ↔ tx ∈ next.routes.map Prod.snd
  rw [routes]
  exact (mem_targets_erase found kept.distinct.routes).symm

theorem live_endStanding {value : Option (TunnelInnerInfo × Fate)} :
    ¬ ∃ info, value.map endStanding = some (info, .live) := by
  rintro ⟨info, still⟩
  obtain ⟨⟨info', fate⟩, -, ended⟩ := Option.map_eq_some_iff.1 still
  cases fate <;> cases ended

theorem live_ended {tx target : Tx} {value value' : Option (TunnelInnerInfo × Fate)}
    (standing : value' = if tx = target then value.map endStanding else value) :
    (∃ info, value' = some (info, .live)) ↔ (∃ info, value = some (info, .live)) ∧ tx ≠ target := by
  rw [standing]
  split
  · rename_i same
    exact ⟨fun still => absurd still live_endStanding, fun both => absurd same both.2⟩
  · rename_i different
    exact ⟨fun still => ⟨still, different⟩, fun both => both.1⟩

theorem live_iff {tx : Tx} {id : String} :
    session.Live tx id ↔ ∃ info, session.standing tx = some (info, .live) ∧ info.id = id := by
  constructor
  · rintro ⟨handle, found, live, named⟩
    exact ⟨handle.info, by rw [standing, found, ← live]; rfl, named⟩
  · rintro ⟨info, standing, named⟩
    obtain ⟨handle, found, same⟩ := Option.map_eq_some_iff.1 standing
    obtain ⟨rfl, live⟩ := Prod.mk.inj same
    exact ⟨handle, found, live, named⟩

theorem lookup_of_route {tx : Tx} {id : String} (route : (id, tx) ∈ session.routes) :
    ∃ tun, (session.inners session.current).tunnels.lookup id = some tun ∧ tun.tx = tx :=
  mem_routes_iff.1 route

theorem Kept.insertTunnel (kept : session.Kept) {task : Task} {inner : Nat}
    {info : TunnelInnerInfo} {bound : BoundTunnel}
    (call : session.calls task = some (.startInsert inner info bound))
    (unlocked : session.accept.locks ≠ some inner) (admitted : session.insertsCurrent task) :
    (session.insertTunnel task inner info bound).Kept := by
  obtain ⟨rfl, notCopied, fresh⟩ := admitted _ _ _ call
  have notCopying := kept.registered.not_copying unlocked notCopied
  have routes : (session.insertTunnel task session.current info bound).txs =
      bound.tx :: session.txs := by
    have grown : (session.insertTunnel task session.current info bound).routes =
        (info.id, bound.tx) :: session.routes := by
      change ((session.insertTunnel task session.current info bound).inners
        session.current).routes = _
      rw [insertTunnel_inners, routes_setInner_current]
      exact routes_insert_fresh fresh
    rw [txs, grown]
    rfl
  refine ⟨kept.registered.insertTunnel call, kept.distinct.insertTunnel kept.registered call,
    fun tx => ?_, fun copying => absurd copying notCopying⟩
  rw [insertTunnel_standing, routes, List.mem_cons]
  split
  · rename_i same
    exact ⟨fun _ => .inl same, fun _ => ⟨info, rfl⟩⟩
  · rename_i different
    rw [kept.live]
    exact ⟨.inr, fun mem => mem.resolve_left different⟩

/-- What a `close_tunnel` leaves live. -/
theorem live_closed {id : String} {tx : Tx} {task : Task} {inner : Nat} {via : Via} :
    (∃ info, (session.removeTunnel task inner id via).standing tx = some (info, .live)) ↔
      (∃ info, session.standing tx = some (info, .live)) ∧ ¬ session.Live tx id := by
  rw [removeTunnel_standing, live_iff]
  constructor
  · rintro ⟨info, still⟩
    obtain ⟨⟨info', fate⟩, before, closed⟩ := Option.map_eq_some_iff.1 still
    simp only [closeStanding] at closed
    split at closed
    · cases closed
    · rename_i spared
      cases closed
      refine ⟨⟨info, before⟩, ?_⟩
      rintro ⟨info', live, named⟩
      rw [before] at live
      cases live
      exact spared ⟨named, rfl⟩
  · rintro ⟨⟨info, live⟩, spared⟩
    refine ⟨info, ?_⟩
    have other : ¬ (info.id = id ∧ Fate.live = Fate.live) := fun both => spared ⟨info, live, both.1⟩
    rw [live, Option.map_some, closeStanding, if_neg other]

theorem Kept.removeTunnel (kept : session.Kept) {task : Task} {inner : Nat} {id : String}
    {via : Via} (call : session.calls task = some (.closeRemove inner id via))
    (unlocked : session.accept.locks ≠ some inner) (admitted : session.removesCurrent task)
    (registered : (session.removeTunnel task inner id via).Registered)
    (distinct : (session.removeTunnel task inner id via).Distinct) :
    (session.removeTunnel task inner id via).Kept := by
  obtain ⟨closes, only⟩ := admitted _ _ _ call
  have routes : (session.removeTunnel task inner id via).routes =
      ((session.setInner inner fun value =>
        { value with tunnels := value.tunnels.erase id }).inners session.current).routes := by
    rw [Session.routes, removeTunnel_inners, removeTunnel_current]
  by_cases reached : inner = session.current ∧
      ∃ tun, (session.inners session.current).tunnels.lookup id = some tun
  · -- the entry belongs to the tunnel that was returned under this id
    obtain ⟨rfl, tun, found⟩ := reached
    have named : session.Live tun.tx id :=
      only rfl tun.tx (mem_routes_iff.2 ⟨tun, found, rfl⟩)
    have notCopying := kept.registered.not_copying unlocked (closes _ named).2.1
    refine kept.erase found registered distinct (fun tx => ?_) ?_ (by rwa [removeTunnel_accept])
    · rw [live_closed]
      refine and_congr_right fun live => not_congr ⟨fun named => ?_, ?_⟩
      · obtain ⟨tun', found', rfl⟩ := lookup_of_route (closes tx named).2.2
        rw [found] at found'
        cases found'
        rfl
      · rintro rfl
        exact named
    · rw [routes, routes_setInner_current]
      rfl
  · -- no live tunnel has this id, and the current map stays as it is
    have spared : ∀ tx, ¬ session.Live tx id := by
      intro tx named
      obtain ⟨same, -, route⟩ := closes tx named
      obtain ⟨tun, found, -⟩ := lookup_of_route route
      exact reached ⟨same, tun, found⟩
    have same : (session.removeTunnel task inner id via).routes = session.routes := by
      rw [routes]
      by_cases here : inner = session.current
      · have absent : (session.inners session.current).tunnels.lookup id = none := by
          by_contra present
          obtain ⟨tun, found⟩ := Option.ne_none_iff_exists'.1 present
          exact reached ⟨here, tun, found⟩
        subst here
        rw [routes_setInner_current]
        exact routes_erase_absent absent
      · exact routes_setInner_other (Ne.symm here)
    have txs : (session.removeTunnel task inner id via).txs = session.txs := by
      rw [Session.txs, same, Session.txs]
    refine ⟨registered, distinct, fun tx => ?_, ?_⟩
    · rw [live_closed, txs, ← kept.live]
      exact and_iff_left (spared tx)
    · rw [removeTunnel_accept, txs]
      exact kept.copied

theorem Kept.step (kept : session.Kept) (admitted : session.keepsUpdates label)
    (step : RegistryStep session label next) : next.Kept := by
  have registered := kept.registered.step step
  have distinct := kept.distinct.step kept.registered step
  cases step with
  | quiet quiet =>
      refine kept.frame registered distinct quiet.standing (.of_eq (routes_of_quiet quiet)) ?_
      intro copying
      obtain same | idle := quiet.accept
      · rw [same] at copying ⊢
        exact kept.copied copying
      · exact absurd (copying_rebinding copying) idle
  | start | failed =>
      exact kept.frame registered distinct (fun _ => rfl) (.refl _) kept.copied
  | bound =>
      exact kept.frame registered distinct (fun _ => rfl) (.of_eq (startBound_routes ..))
        kept.copied
  | insert call unlocked => exact kept.insertTunnel call unlocked admitted.1
  | remove call unlocked => exact kept.removeTunnel call unlocked admitted.2 registered distinct
  | stop accept found =>
      rename_i inner req tun
      obtain rfl : inner = session.current := kept.registered.inner inner (by rw [accept]; rfl)
      refine kept.erase found registered distinct (fun tx => live_ended (stopTunnel_standing ..)) ?_
        id
      change ((session.stopTunnel session.current req tun).inners session.current).routes = _
      rw [stopTunnel_inners, routes_setInner_current]
      rfl
  | prune accept =>
      rename_i order inner id
      obtain rfl : inner = session.current := kept.registered.inner inner (by rw [accept]; rfl)
      have routes : (session.pruneTunnel session.current id).routes =
          KeyedRoutes.routes BoundTunnel.tx
            ((session.inners session.current).tunnels.erase id) := by
        rw [Session.routes, pruneTunnel_inners, pruneTunnel_current, routes_setInner_current]
        rfl
      have idle : ¬ (session.pruneTunnel session.current id).accept.Copying := by
        rw [pruneTunnel_accept]
        exact fun copying => copying
      cases found : (session.inners session.current).tunnels.lookup id with
      | some tun =>
          have closed := admitted _ _ _ accept found
          exact kept.erase found registered distinct
            (fun tx => live_ended (pruneTunnel_standing_of_closed found closed tx)) routes idle
      | none =>
          refine kept.frame registered distinct (pruneTunnel_standing_of_kept (by simp [found]))
            (.of_eq ?_) (fun copying => absurd copying idle)
          rw [routes]
          exact routes_erase_absent found
  | drain accept perm =>
      rename_i order error
      have routes : (session.startDrain error order).routes = [] := by
        change ((session.startDrain error order).inners session.current).routes = _
        rw [startDrain_inners, routes_setInner_current]
        rfl
      have gone : ∀ tx, ¬ ∃ info, (session.startDrain error order).standing tx =
          some (info, .live) := by
        intro tx still
        rw [startDrain_standing] at still
        split at still
        · exact live_endStanding still
        · rename_i spared
          refine spared ?_
          obtain ⟨⟨key, tx⟩, route, rfl⟩ := List.mem_map.1 ((kept.live tx).1 still)
          obtain ⟨entry, mem, same⟩ := List.mem_map.1 route
          exact List.mem_map.2 ⟨entry, perm.symm.subset mem, congrArg Prod.snd same⟩
      refine ⟨registered, distinct, fun tx => ?_, False.elim⟩
      rw [txs, routes]
      exact ⟨fun still => absurd still (gone tx), fun mem => absurd mem List.not_mem_nil⟩
  | authenticated =>
      exact kept.frame registered distinct (fun _ => rfl) (.refl _) False.elim
  | lock accept perm =>
      rename_i order old newInner
      obtain rfl : old = session.current := kept.registered.inner old (by rw [accept]; rfl)
      refine kept.frame registered distinct (fun _ => rfl) (.refl _) fun _ => ?_
      change ((newInner.routes ++ order.map entryRoute).map Prod.snd).Perm session.txs
      rw [kept.distinct.empty _ _ accept, List.nil_append]
      exact (perm.map entryRoute).map Prod.snd
  | send accept =>
      have copied := kept.copied (by rw [accept]; trivial)
      rw [accept] at copied
      exact kept.frame registered distinct (fun _ => rfl) (.refl _) fun _ => copied
  | answered accept =>
      rename_i old newInner entry rest respId
      have copied := kept.copied (by rw [accept]; trivial)
      rw [accept] at copied
      have routes : (rebound newInner entry respId).routes =
          (entry.2.rebindKey entry.1 respId, entry.2.tx) :: newInner.routes :=
        routes_insert_fresh (admitted _ _ _ _ accept)
      refine kept.frame registered distinct (fun _ => rfl) (.refl _) fun _ => .trans ?_ copied
      simp only [Session.setAccept, AcceptLoop.copies, routes, List.map_append, List.map_cons,
        entryRoute]
      exact List.perm_middle.symm
  | unlock accept =>
      have copied := kept.copied (by rw [accept]; trivial)
      rw [accept] at copied
      refine kept.frame registered distinct (fun _ => rfl) (.refl _) fun _ => ?_
      rwa [AcceptLoop.copies, List.map_nil, List.append_nil] at copied
  | swap accept =>
      rename_i old newInner
      have copied := kept.copied (by rw [accept]; trivial)
      rw [accept] at copied
      have same : (session.swap old newInner).txs.Perm session.txs := by
        rw [txs, swap_routes]
        exact copied
      refine ⟨registered, distinct, fun tx => ?_, False.elim⟩
      rw [same.mem_iff]
      exact kept.live tx

/-- In a run that keeps updates, none is lost. -/
theorem noLostUpdate (json : Json Value) (builder : SessionBuilder)
    (reaches : Reaches (Session.step json) keepsUpdates (connected builder) session) :
    session.NoLostUpdate := by
  have kept : session.Kept :=
    Reaches.invariant Kept (fun _ _ admitted kept =>
      kept.step admitted (registryStep_of_transition (transition_step ..)))
      reaches (kept_connected builder)
  intro _ tx handle found
  have standing : session.standing tx = some (handle.info, handle.fate) := by
    rw [Session.standing, found]
    rfl
  refine ⟨fun live => (kept.live tx).1 ⟨handle.info, live ▸ standing⟩, fun closed mem => ?_⟩
  obtain ⟨info, live⟩ := (kept.live tx).2 mem
  rw [standing, closed] at live
  cases live

/-- A tunnel is started, and is still there after a reconnect. -/
theorem noLostUpdate_rebound :
    let session := run (Session.step noJson) (connected someBuilder)
      (Label.startHttp 0 "tn_1" ++ Label.reconnect ++ Label.rebindOne (httpEntry "tn_1" 0) "")
    session.Settled ∧ session.current = 1 ∧ session.NoLostUpdate := by
  intro session
  have settled : session.Settled := by
    refine ⟨fun task => ?_, fun past => past⟩
    cases task <;> rfl
  refine ⟨settled, rfl, noLostUpdate noJson someBuilder (reaches_run ?_)⟩
  refine ⟨trivial, ⟨?_, ?_⟩, trivial, ⟨?_, ?_⟩, trivial, ?_, trivial, trivial, ?_, ?_, ?_, ?_, ?_,
    trivial⟩
  · rintro inner info bound call
    cases call
  · rintro inner id via call
    cases call
  · rintro inner info bound call
    cases call
    exact ⟨rfl, fun copied => copied, rfl⟩
  · rintro inner id via call
    cases call
  · rintro inner id tun accept
    cases accept
  · rintro inner id tun accept
    cases accept
  · rintro inner id tun accept
    cases accept
  · rintro old newInner entry rest accept
    cases accept
    rfl
  · rintro inner id tun accept
    cases accept
  · rintro inner id tun accept
    cases accept

/-- Two calls that work on the `SessionInner` from before a reconnect: the tunnel of a
`start_tunnel` is missing afterwards, and the tunnel of a `close_tunnel` is back. -/
theorem lostUpdates_ofOldInner :
    let started := run (Session.step noJson) (connected someBuilder)
      ([.startTunnel 0 httpConfig, .resume 0, .bindAnswer 0 (.ok (httpResp "tn_1"))] ++
        Label.reconnect ++ [.acceptResume [], .acceptResume [], .acceptResume [], .resume 0])
    let closed := run (Session.step noJson) (connected someBuilder)
      (Label.startHttp 0 "tn_1" ++
        [.closeTunnel 0 "tn_1", .resume 0, .unbindAnswer 0 (.ok ())] ++ Label.reconnect ++
        Label.rebindOne (httpEntry "tn_1" 0) "" ++ [.resume 0])
    (started.Settled ∧ started.txs = [] ∧ (started.handles 0).map TunnelHandle.fate = some .live ∧
      ¬ started.NoLostUpdate) ∧
    closed.Settled ∧ closed.txs = [0] ∧ (closed.handles 0).map TunnelHandle.fate = some .closed ∧
      ¬ closed.NoLostUpdate := by
  intro started closed
  have settled : started.Settled := by
    refine ⟨fun task => ?_, fun past => past⟩
    cases task <;> rfl
  have settled' : closed.Settled := by
    refine ⟨fun task => ?_, fun past => past⟩
    cases task <;> rfl
  have empty : started.txs = [] := by rfl
  have back : closed.txs = [0] := by rfl
  refine ⟨⟨settled, empty, rfl, fun kept => ?_⟩, settled', back, rfl, fun kept => ?_⟩
  · have mem := (kept settled 0 _ rfl).1 rfl
    rw [empty] at mem
    cases mem
  · have gone := (kept settled' 0 _ rfl).2 rfl
    rw [back] at gone
    exact gone List.mem_cons_self

end Session

end Agent

end NgrokRust
