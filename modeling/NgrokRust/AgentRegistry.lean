import NgrokRust.AgentTransitions
import NgrokRust.KeyedRoutes

/-!
# The registry of tunnels

The tunnels of the agent are the entries of the maps of its `SessionInner` values, the
copies that `try_reconnect` makes of them, and the handles that `start_tunnel` has
returned.  Most transitions leave all of these alone; the others are listed below, and
the invariants of the registry go through this shorter list.
-/

namespace NgrokRust

namespace Agent

open KeyedRoutes LabelledRuns

def SessionInner.routes (value : SessionInner) : List (String × Tx) :=
  KeyedRoutes.routes BoundTunnel.tx value.tunnels

def entryRoute (entry : Σ _ : String, BoundTunnel) : String × Tx := (entry.1, entry.2.tx)

/-- The accept loop is at work on a new map. -/
def AcceptLoop.Rebinding : AcceptLoop → Prop
  | .locking _ _ => True
  | .binding _ _ _ => True
  | .awaiting _ _ _ _ => True
  | .swapping _ _ => True
  | _ => False

/-- The routes of the new map and those that are still to be bound. -/
def AcceptLoop.copies : AcceptLoop → List (String × Tx)
  | .locking _ newInner => newInner.routes
  | .binding _ newInner rest => newInner.routes ++ rest.map entryRoute
  | .awaiting _ newInner entry rest => newInner.routes ++ (entry :: rest).map entryRoute
  | .swapping _ newInner => newInner.routes
  | _ => []

/-- The `SessionInner` that the accept loop has loaded. -/
def AcceptLoop.inner : AcceptLoop → Option Nat
  | .stopping inner _ => some inner
  | .stopSending inner _ _ => some inner
  | .delivering inner _ => some inner
  | .sending inner _ _ _ => some inner
  | .pruning inner _ => some inner
  | .connecting old => some old
  | .authenticating old => some old
  | .locking old _ => some old
  | .binding old _ _ => some old
  | .awaiting old _ _ _ => some old
  | .swapping old _ => some old
  | .draining inner _ _ => some inner
  | _ => none

theorem AcceptLoop.copies_eq_nil {accept : AcceptLoop} (idle : ¬ accept.Rebinding) :
    accept.copies = [] := by
  cases accept with
  | locking | binding | awaiting | swapping => exact absurd trivial idle
  | _ => rfl

/-- The tunnel that a call of `start_tunnel` is about to return. -/
def Call.startTx : Call → Option Tx
  | .startRpc _ _ tx => some tx
  | .startInsert _ _ bound => some bound.tx
  | _ => none

def Via.droppedTx : Via → Option Tx
  | .dropped tx => some tx
  | _ => none

/-- The dropped tunnel that a spawned call is about to close. -/
def Call.droppedTx : Call → Option Tx
  | .closeSpawned tx => some tx
  | .closeLock _ _ via => via.droppedTx
  | .closeRpc _ _ via => via.droppedTx
  | .closeRemove _ _ via => via.droppedTx
  | _ => none

/-- The `SessionInner` that a call has loaded. -/
def Call.inner : Call → Option Nat
  | .startLock inner _ => some inner
  | .startRpc inner _ _ => some inner
  | .startInsert inner _ _ => some inner
  | .closeSpawned _ => none
  | .closeLock inner _ _ => some inner
  | .closeRpc inner _ _ => some inner
  | .closeRemove inner _ _ => some inner
  | .sessionLock inner => some inner
  | .sessionGoAway inner => some inner
  | .sessionStore inner _ => some inner

namespace Session

variable {Value : Type*} {json : Json Value} {session next : Session} {label : Label}

def routes (session : Session) : List (String × Tx) := (session.inners session.current).routes

def txs (session : Session) : List Tx := session.routes.map Prod.snd

/-- What `start_tunnel` returned for a tunnel, and what has become of it. -/
def standing (session : Session) (tx : Tx) : Option (TunnelInnerInfo × Fate) :=
  (session.handles tx).map fun handle => (handle.info, handle.fate)

/-- A tunnel that `start_tunnel` has returned under this id and that is neither closed nor
ended. -/
def Live (session : Session) (tx : Tx) (id : String) : Prop :=
  ∃ handle, session.handles tx = some handle ∧ handle.fate = .live ∧ handle.info.id = id

def starting (session : Session) (task : Task) : Option Tx :=
  (session.calls task).bind Call.startTx

def dropping (session : Session) (task : Task) : Option Tx :=
  (session.calls task).bind Call.droppedTx

def loaded (session : Session) (task : Task) : Option Nat :=
  (session.calls task).bind Call.inner

theorem starting_of_call {task : Task} {call : Call} (found : session.calls task = some call) :
    session.starting task = call.startTx := by
  rw [starting, found]
  rfl

theorem dropping_of_call {task : Task} {call : Call} (found : session.calls task = some call) :
    session.dropping task = call.droppedTx := by
  rw [dropping, found]
  rfl

theorem loaded_of_call {task : Task} {call : Call} (found : session.calls task = some call) :
    session.loaded task = call.inner := by
  rw [loaded, found]
  rfl

theorem starting_update {task other : Task} {call : Option Call}
    (calls : next.calls = Function.update session.calls task call) :
    next.starting other =
      if other = task then call.bind Call.startTx else session.starting other := by
  simp only [starting, calls, Function.update_apply]
  split <;> rfl

theorem dropping_update {task other : Task} {call : Option Call}
    (calls : next.calls = Function.update session.calls task call) :
    next.dropping other =
      if other = task then call.bind Call.droppedTx else session.dropping other := by
  simp only [dropping, calls, Function.update_apply]
  split <;> rfl

theorem loaded_update {task other : Task} {call : Option Call}
    (calls : next.calls = Function.update session.calls task call) :
    next.loaded other = if other = task then call.bind Call.inner else session.loaded other := by
  simp only [loaded, calls, Function.update_apply]
  split <;> rfl

section CallOver

variable {task : Task} (calls : next.calls = Function.update session.calls task none)
include calls

theorem call_of_over {other : Task} {call : Call} (found : next.calls other = some call) :
    session.calls other = some call := by
  rw [calls, Function.update_apply] at found
  split at found
  · cases found
  · exact found

theorem starting_of_over (other : Task) (tx : Tx) (starts : next.starting other = some tx) :
    session.starting other = some tx := by
  rw [starting_update calls] at starts
  split at starts
  · cases starts
  · exact starts

theorem dropping_of_over (other : Task) (tx : Tx) (drops : next.dropping other = some tx) :
    session.dropping other = some tx := by
  rw [dropping_update calls] at drops
  split at drops
  · cases drops
  · exact drops

theorem loaded_of_over (other : Task) (inner : Nat) (loads : next.loaded other = some inner) :
    session.loaded other = some inner := by
  rw [loaded_update calls] at loads
  split at loads
  · cases loads
  · exact loads

end CallOver

/-- A step that the registry does not notice. -/
structure Quiet (session next : Session) : Prop where
  current : next.current = session.current
  tunnels : ∀ inner, (next.inners inner).tunnels = (session.inners inner).tunnels
  bindings : ∀ inner, (next.inners inner).bindings = (session.inners inner).bindings
  standing : ∀ tx, next.standing tx = session.standing tx
  nextTx : next.nextTx = session.nextTx
  starting : ∀ task call, next.calls task = some call → call.startTx ≠ none →
    session.calls task = some call
  dropping : ∀ task tx, next.dropping task = some tx →
    session.dropping task = some tx ∨ (session.standing tx).isSome
  loaded : ∀ task inner, next.loaded task = some inner →
    session.loaded task = some inner ∨ inner = session.current
  accept : next.accept = session.accept ∨ ¬ next.accept.Rebinding
  inner : ∀ inner, next.accept.inner = some inner →
    session.accept.inner = some inner ∨ inner = session.current
  log : ∃ events, next.log = events ++ session.log ∧ ∀ event ∈ events,
    (∀ tx, event ≠ .closeRan tx) ∧ ∀ transport request tx, event ≠ .sent transport request (some tx)

/-- The steps that change the registry, among all steps. -/
inductive RegistryStep (session : Session) : Label → Session → Prop where
  | quiet {label : Label} {next : Session} (quiet : Quiet session next) :
      RegistryStep session label next
  | start {task : Task} {inner : Nat} {cfg : TunnelConfig}
      (call : session.calls task = some (.startLock inner cfg)) :
      RegistryStep session (.resume task) (session.startRequest task inner cfg)
  | bound {label : Label} {task : Task} {inner : Nat} {cfg : TunnelConfig} {tx : Tx}
      {tunnel : TunnelInnerInfo × BoundTunnel}
      (call : session.calls task = some (.startRpc inner cfg tx)) (same : tunnel.2.tx = tx) :
      RegistryStep session label (session.startBound task inner tunnel)
  | insert {task : Task} {inner : Nat} {info : TunnelInnerInfo} {bound : BoundTunnel}
      (call : session.calls task = some (.startInsert inner info bound))
      (unlocked : session.accept.locks ≠ some inner) :
      RegistryStep session (.resume task) (session.insertTunnel task inner info bound)
  | failed {task : Task} {error : RpcError} {inner : Nat} {id : String} {via : Via}
      (call : session.calls task = some (.closeRpc inner id via)) :
      RegistryStep session (.unbindAnswer task (.error error))
        (session.closeFailed task inner via)
  | remove {task : Task} {inner : Nat} {id : String} {via : Via}
      (call : session.calls task = some (.closeRemove inner id via))
      (unlocked : session.accept.locks ≠ some inner) :
      RegistryStep session (.resume task) (session.removeTunnel task inner id via)
  | stop {label : Label} {inner : Nat} {req : StopTunnel} {tun : BoundTunnel}
      (accept : session.accept = .stopping inner req)
      (found : (session.inners inner).tunnels.lookup req.clientId = some tun) :
      RegistryStep session label (session.stopTunnel inner req tun)
  | prune {order : List (Σ _ : String, BoundTunnel)} {inner : Nat} {id : String}
      (accept : session.accept = .pruning inner id) :
      RegistryStep session (.acceptResume order) (session.pruneTunnel inner id)
  | drain {label : Label} {order : List (Σ _ : String, BoundTunnel)} {error : AcceptError}
      (accept : session.accept = .givingUp error)
      (perm : order.Perm (session.inners session.current).tunnels.entries) :
      RegistryStep session label (session.startDrain error order)
  | authenticated {label : Label} {old : Nat} {newInner : SessionInner}
      (accept : session.accept = .authenticating old) (empty : newInner.tunnels = ∅)
      (unbound : newInner.bindings = []) :
      RegistryStep session label (session.setAccept (.locking old newInner))
  | lock {label : Label} {order : List (Σ _ : String, BoundTunnel)} {old : Nat}
      {newInner : SessionInner} (accept : session.accept = .locking old newInner)
      (perm : order.Perm (session.inners old).tunnels.entries) :
      RegistryStep session label (session.setAccept (.binding old newInner order))
  | send {label : Label} {old : Nat} {newInner : SessionInner}
      {entry : Σ _ : String, BoundTunnel} {rest : List (Σ _ : String, BoundTunnel)}
      (accept : session.accept = .binding old newInner (entry :: rest)) :
      RegistryStep session label (session.sendRebind old newInner entry rest)
  | answered {old : Nat} {newInner : SessionInner} {entry : Σ _ : String, BoundTunnel}
      {rest : List (Σ _ : String, BoundTunnel)} {respId : String}
      (accept : session.accept = .awaiting old newInner entry rest) :
      RegistryStep session (.rebindAnswer (.ok respId))
        (session.setAccept (.binding old (rebound newInner entry respId) rest))
  | unlock {label : Label} {old : Nat} {newInner : SessionInner}
      (accept : session.accept = .binding old newInner []) :
      RegistryStep session label (session.setAccept (.swapping old newInner))
  | swap {label : Label} {old : Nat} {newInner : SessionInner}
      (accept : session.accept = .swapping old newInner) :
      RegistryStep session label (session.swap old newInner)

/-- A step of one call, none of whose events is about a tunnel. -/
theorem quiet_call {task : Task} {call : Option Call} (events : List Event)
    (inners : ∀ inner, (next.inners inner).tunnels = (session.inners inner).tunnels ∧
      (next.inners inner).bindings = (session.inners inner).bindings)
    (current : next.current = session.current)
    (standing : ∀ tx, next.standing tx = session.standing tx)
    (nextTx : next.nextTx = session.nextTx)
    (calls : next.calls = Function.update session.calls task call)
    (starts : call.bind Call.startTx = none)
    (drops : ∀ tx, call.bind Call.droppedTx = some tx →
      session.dropping task = some tx ∨ (session.standing tx).isSome)
    (loads : ∀ inner, call.bind Call.inner = some inner →
      session.loaded task = some inner ∨ inner = session.current)
    (accept : next.accept = session.accept) (log : next.log = events ++ session.log)
    (events_ : ∀ event ∈ events, (∀ tx, event ≠ .closeRan tx) ∧
      ∀ transport request tx, event ≠ .sent transport request (some tx)) :
    Quiet session next where
  current := current
  tunnels := fun inner => (inners inner).1
  bindings := fun inner => (inners inner).2
  standing := standing
  nextTx := nextTx
  starting := by
    intro other value found started
    rw [calls, Function.update_apply] at found
    split at found
    · rw [found] at starts
      exact absurd starts started
    · exact found
  dropping := by
    intro other tx found
    rw [dropping_update calls] at found
    split at found
    · rename_i same
      exact same ▸ drops tx found
    · exact .inl found
  loaded := by
    intro other inner found
    rw [loaded_update calls] at found
    split at found
    · rename_i same
      exact same ▸ loads inner found
    · exact .inl found
  accept := .inl accept
  inner := fun inner loaded => .inl (accept ▸ loaded)
  log := ⟨events, log, events_⟩

/-- A step of the accept loop away from any new map. -/
theorem quiet_accept (events : List Event) (inners : next.inners = session.inners)
    (current : next.current = session.current) (handles : next.handles = session.handles)
    (nextTx : next.nextTx = session.nextTx) (calls : next.calls = session.calls)
    (idle : ¬ next.accept.Rebinding)
    (inner : ∀ inner, next.accept.inner = some inner →
      session.accept.inner = some inner ∨ inner = session.current)
    (log : next.log = events ++ session.log)
    (events_ : ∀ event ∈ events, (∀ tx, event ≠ .closeRan tx) ∧
      ∀ transport request tx, event ≠ .sent transport request (some tx)) :
    Quiet session next where
  current := current
  tunnels := fun inner => by rw [inners]
  bindings := fun inner => by rw [inners]
  standing := fun tx => by rw [standing, handles, standing]
  nextTx := nextTx
  starting := fun task call found _ => by rwa [calls] at found
  dropping := fun task tx found => .inl (by rwa [dropping, calls] at found)
  loaded := fun task inner found => .inl (by rwa [loaded, calls] at found)
  accept := .inr idle
  inner := inner
  log := ⟨events, log, events_⟩

theorem reconnectFailed_accept (error : ConnectError) :
    (session.reconnectFailed error).accept =
      if error = .canceled then .givingUp (.reconnect error) else .retrying (.reconnect error) :=
  rfl

theorem registryStep_of_transition (transition : Transition json session label next) :
    RegistryStep session label next := by
  cases transition with
  | startRequest call unlocked => exact .start call
  | insertTunnel call unlocked => exact .insert call unlocked
  | removeTunnel call unlocked => exact .remove call unlocked
  | startBound call same => exact .bound call same
  | closeFailed call => exact .failed call
  | stopTunnel accept found => exact .stop accept found
  | prune accept => exact .prune accept
  | startDrain accept perm => exact .drain accept perm
  | authenticated accept => exact .authenticated accept rfl rfl
  | lock accept perm => exact .lock accept perm
  | sendRebind accept => exact .send accept
  | rebindAnswered accept => exact .answered accept
  | unlock accept => exact .unlock accept
  | swap accept => exact .swap accept
  | idle =>
      exact .quiet ⟨rfl, fun _ => rfl, fun _ => rfl, fun _ => rfl, rfl, fun _ _ found _ => found,
        fun _ _ => .inl, fun _ _ => .inl, .inl rfl, fun _ loaded => .inl loaded, [], rfl, by simp⟩
  | startTunnel | closeTunnel | closeHandle | closeSession =>
      exact .quiet (quiet_call [] (fun _ => ⟨rfl, rfl⟩) rfl (fun _ => rfl) rfl rfl rfl
        (by rintro tx ⟨⟩) (by rintro inner ⟨⟩; exact .inr rfl) rfl rfl (by simp))
  | goAwayAnswered call =>
      exact .quiet (quiet_call [] (fun _ => ⟨rfl, rfl⟩) rfl (fun _ => rfl) rfl rfl rfl
        (by rintro tx ⟨⟩) (fun inner loads => .inl ((loaded_of_call call).trans loads)) rfl rfl
        (by simp))
  | goAwayRequest call =>
      exact .quiet (quiet_call [_] (fun _ => ⟨rfl, rfl⟩) rfl (fun _ => rfl) rfl rfl rfl
        (by rintro tx ⟨⟩) (fun inner loads => .inl ((loaded_of_call call).trans loads)) rfl rfl
        (by simp))
  | closeSpawned call =>
      exact .quiet (quiet_call [] (fun _ => ⟨rfl, rfl⟩) rfl (fun _ => rfl) rfl rfl rfl
        (fun tx drops => .inl ((dropping_of_call call).trans drops))
        (by rintro inner ⟨⟩; exact .inr rfl) rfl rfl (by simp))
  | closeAnswered call =>
      exact .quiet (quiet_call [] (fun _ => ⟨rfl, rfl⟩) rfl (fun _ => rfl) rfl rfl rfl
        (fun tx drops => .inl ((dropping_of_call call).trans drops))
        (fun inner loads => .inl ((loaded_of_call call).trans loads)) rfl rfl (by simp))
  | closeRequest call =>
      exact .quiet (quiet_call [_] (fun _ => ⟨rfl, rfl⟩) rfl (fun _ => rfl) rfl rfl rfl
        (fun tx drops => .inl ((dropping_of_call call).trans drops))
        (fun inner loads => .inl ((loaded_of_call call).trans loads)) rfl rfl (by simp))
  | startFailed =>
      exact .quiet (quiet_call [] (fun _ => ⟨rfl, rfl⟩) rfl (fun _ => rfl) rfl rfl rfl (by simp)
        (by simp) rfl rfl (by simp))
  | storeClosed =>
      refine .quiet (quiet_call [_] (fun inner => ⟨?_, ?_⟩) rfl (fun _ => rfl) rfl rfl rfl (by simp)
        (by simp) rfl rfl (by simp))
      · exact setInner_field (storeClosed_inners ..) SessionInner.tunnels (fun _ => rfl) inner
      · exact setInner_field (storeClosed_inners ..) SessionInner.bindings (fun _ => rfl) inner
  | dropTunnel found =>
      refine .quiet (quiet_call [] (fun _ => ⟨rfl, rfl⟩) rfl (fun tx => ?_) rfl rfl rfl ?_
        (by rintro inner ⟨⟩) rfl rfl (by simp))
      · simp only [standing, dropHandle, setCall, setChannel, setHandle, Function.update_apply]
        split
        · rename_i same
          rw [same, Option.map_map]
          rfl
        · rfl
      · rintro tx ⟨⟩
        exact .inr (by rw [standing, found]; rfl)
  | receive =>
      exact .quiet ⟨rfl, fun _ => rfl, fun _ => rfl, fun _ => rfl, rfl, fun _ _ found _ => found,
        fun _ _ => .inl, fun _ _ => .inl, .inl rfl, fun _ loaded => .inl loaded, [], rfl, by simp⟩
  | acceptEnded | transportFailed =>
      exact .quiet (quiet_accept [_] rfl rfl rfl rfl rfl id (by simp [acceptFailed, record,
        setAccept, AcceptLoop.inner]) rfl (by simp))
  | stopRequested | connArrived =>
      exact .quiet (quiet_accept [] rfl rfl rfl rfl rfl id
        (fun _ loaded => by cases loaded; exact .inr rfl) rfl (by simp))
  | stalled | panicked | nothingToDo =>
      exact .quiet (quiet_accept [] rfl rfl rfl rfl rfl id (by simp [setAccept, AcceptLoop.inner])
        rfl (by simp))
  | stopSent | sent =>
      exact .quiet (quiet_accept [] rfl rfl rfl rfl rfl id (by simp [send, setChannel, setAccept,
        AcceptLoop.inner]) rfl (by simp))
  | deliver accept | sendFailed accept =>
      exact .quiet (quiet_accept [] rfl rfl rfl rfl rfl id
        (fun _ loaded => by rw [accept]; exact .inl loaded) rfl (by simp))
  | drainSent accept | drainLost accept =>
      exact .quiet (quiet_accept [] rfl rfl rfl rfl rfl id
        (fun _ loaded => by rw [accept]; exact .inl loaded) rfl (by simp))
  | drained =>
      exact .quiet (quiet_accept [] rfl rfl rfl rfl rfl id (by simp [setAccept, AcceptLoop.inner])
        rfl (by simp))
  | connect =>
      exact .quiet (quiet_accept [_] rfl rfl rfl rfl rfl id
        (fun _ loaded => by cases loaded; exact .inr rfl) rfl (by simp))
  | authenticate accept =>
      exact .quiet (quiet_accept [_] rfl rfl rfl rfl rfl id
        (fun _ loaded => by rw [accept]; exact .inl loaded) rfl (by simp))
  | canceled | reconnectFailed =>
      refine .quiet (quiet_accept [_] rfl rfl rfl rfl rfl ?_ ?_ rfl (by simp))
      · simp only [reconnectFailed_accept]
        split <;> exact id
      · simp only [reconnectFailed_accept]
        split <;> simp [AcceptLoop.inner]

theorem routes_of_tunnels {value value' : SessionInner} (same : value.tunnels = value'.tunnels) :
    value.routes = value'.routes := by
  rw [SessionInner.routes, SessionInner.routes, same]

theorem startBound_routes (task : Task) (inner other : Nat)
    (tunnel : TunnelInnerInfo × BoundTunnel) :
    ((session.startBound task inner tunnel).inners other).routes =
      (session.inners other).routes :=
  setInner_field (startBound_inners ..) SessionInner.routes (fun _ => rfl) other

theorem routes_of_quiet (quiet : Quiet session next) : next.routes = session.routes := by
  rw [routes, routes, quiet.current]
  exact routes_of_tunnels (quiet.tunnels _)

/-- Where the routes after a change of one `SessionInner` come from. -/
theorem mem_routes_setInner {inner other : Nat} {change : SessionInner → SessionInner}
    {route : String × Tx} (mem : route ∈ ((session.setInner inner change).inners other).routes) :
    other = inner ∧ route ∈ (change (session.inners inner)).routes ∨
      route ∈ (session.inners other).routes := by
  simp only [setInner, Function.update_apply] at mem
  split at mem
  · exact .inl ⟨‹_›, mem⟩
  · exact .inr mem

theorem mem_routes_setInner_erase {inner other : Nat} {id : String} {route : String × Tx}
    (mem : route ∈ ((session.setInner inner fun value =>
      { value with tunnels := value.tunnels.erase id }).inners other).routes) :
    route ∈ (session.inners other).routes := by
  obtain ⟨rfl, mem⟩ | mem := mem_routes_setInner mem
  · exact mem_of_mem_routes_erase mem
  · exact mem

theorem mem_routes_startDrain {error : AcceptError} {order : List (Σ _ : String, BoundTunnel)}
    {other : Nat} {route : String × Tx}
    (mem : route ∈ ((session.startDrain error order).inners other).routes) :
    route ∈ (session.inners other).routes := by
  rw [startDrain_inners] at mem
  obtain ⟨-, none_⟩ | before := mem_routes_setInner mem
  · exact absurd none_ List.not_mem_nil
  · exact before

theorem routes_setInner_current {change : SessionInner → SessionInner} :
    ((session.setInner session.current change).inners session.current).routes =
      (change (session.inners session.current)).routes := by
  simp [setInner]

theorem routes_setInner_other {inner other : Nat} {change : SessionInner → SessionInner}
    (different : other ≠ inner) :
    ((session.setInner inner change).inners other).routes = (session.inners other).routes := by
  simp [setInner, different]

theorem swap_routes (old : Nat) (newInner : SessionInner) :
    (session.swap old newInner).routes = newInner.routes := by
  simp [routes, Session.swap]

/-- Where the routes of the current map come from. -/
theorem routes_step (step : RegistryStep session label next) {key : String} {tx : Tx}
    (mem : (key, tx) ∈ next.routes) :
    (key, tx) ∈ session.routes ∨ (key, tx) ∈ session.accept.copies ∨
      ∃ task, session.starting task = some tx := by
  cases step with
  | quiet quiet =>
      rw [routes_of_quiet quiet] at mem
      exact .inl mem
  | bound call =>
      rw [routes, startBound_routes] at mem
      exact .inl mem
  | insert call unlocked =>
      rename_i task inner info bound
      rw [routes, insertTunnel_inners] at mem
      obtain ⟨same, mem⟩ | mem := mem_routes_setInner mem
      · change session.current = inner at same
        obtain new | old := mem_routes_insert mem
        · obtain ⟨-, rfl⟩ := Prod.mk.inj new
          exact .inr (.inr ⟨task, starting_of_call call⟩)
        · rw [routes, same]
          exact .inl old
      · exact .inl mem
  | remove call unlocked =>
      rw [routes, removeTunnel_inners, removeTunnel_current] at mem
      exact .inl (mem_routes_setInner_erase mem)
  | stop accept found =>
      rw [routes, stopTunnel_inners] at mem
      exact .inl (mem_routes_setInner_erase mem)
  | prune accept =>
      rw [routes, pruneTunnel_inners, pruneTunnel_current] at mem
      exact .inl (mem_routes_setInner_erase mem)
  | drain accept perm => exact .inl (mem_routes_startDrain mem)
  | swap accept =>
      rw [swap_routes] at mem
      rw [accept]
      exact .inr (.inl mem)
  | start | failed | authenticated | lock | send | answered | unlock => exact .inl mem

theorem mem_copies_awaiting (old : Nat) (newInner : SessionInner)
    (entry : Σ _ : String, BoundTunnel) (rest : List (Σ _ : String, BoundTunnel)) :
    (entry.1, entry.2.tx) ∈ (AcceptLoop.awaiting old newInner entry rest).copies :=
  List.mem_append_right _ List.mem_cons_self

theorem mem_copies_rebound {old : Nat} {newInner : SessionInner}
    {entry : Σ _ : String, BoundTunnel} {rest : List (Σ _ : String, BoundTunnel)}
    {respId key : String} {tx : Tx}
    (mem : (key, tx) ∈ (AcceptLoop.binding old (rebound newInner entry respId) rest).copies) :
    (key, tx) = (entry.2.rebindKey entry.1 respId, entry.2.tx) ∨
      (key, tx) ∈ (AcceptLoop.awaiting old newInner entry rest).copies := by
  obtain new | left := List.mem_append.1 mem
  · obtain same | before := mem_routes_insert new
    · exact .inl same
    · exact .inr (List.mem_append_left _ before)
  · exact .inr (List.mem_append_right _ (List.mem_cons_of_mem _ left))

@[simp]
theorem insertTunnel_standing (task : Task) (inner : Nat) (info : TunnelInnerInfo)
    (bound : BoundTunnel) (tx : Tx) :
    (session.insertTunnel task inner info bound).standing tx =
      if tx = bound.tx then some (info, .live) else session.standing tx := by
  simp only [standing, insertTunnel, setCall, unlockClient, setInner, Function.update_apply]
  split <;> rfl

/-- A `close_tunnel` closes the live tunnels that were returned under its id. -/
def closeStanding (id : String) (value : TunnelInnerInfo × Fate) : TunnelInnerInfo × Fate :=
  if value.1.id = id ∧ value.2 = .live then (value.1, .closed) else value

@[simp]
theorem removeTunnel_standing (task : Task) (inner : Nat) (id : String) (via : Via) (tx : Tx) :
    (session.removeTunnel task inner id via).standing tx =
      (session.standing tx).map (closeStanding id) := by
  simp only [standing, removeTunnel_handles, Option.map_map]
  congr 1
  funext handle
  simp only [Function.comp_apply, TunnelHandle.close, closeStanding]
  split <;> rfl

def endStanding (value : TunnelInnerInfo × Fate) : TunnelInnerInfo × Fate :=
  if value.2 = .live then (value.1, .ended) else value

theorem map_ended (handle : Option TunnelHandle) :
    (handle.map TunnelHandle.ended).map (fun handle => (handle.info, handle.fate)) =
      (handle.map fun handle => (handle.info, handle.fate)).map endStanding := by
  simp only [Option.map_map]
  congr 1
  funext handle
  simp only [Function.comp_apply, TunnelHandle.ended, endStanding]
  split <;> rfl

@[simp]
theorem stopTunnel_standing (inner : Nat) (req : StopTunnel) (tun : BoundTunnel) (tx : Tx) :
    (session.stopTunnel inner req tun).standing tx =
      if tx = tun.tx then (session.standing tx).map endStanding else session.standing tx := by
  simp only [standing, stopTunnel, setAccept, setHandle, setInner, Function.update_apply]
  split
  · rename_i same
    rw [same]
    exact map_ended _
  · rfl

theorem pruneTunnel_standing_of_closed {inner : Nat} {id : String} {tun : BoundTunnel}
    (found : (session.inners inner).tunnels.lookup id = some tun)
    (closed : (session.channels tun.tx).receiverOpen = false) (tx : Tx) :
    (session.pruneTunnel inner id).standing tx =
      if tx = tun.tx then (session.standing tx).map endStanding else session.standing tx := by
  simp only [pruneTunnel, found, closed, Bool.false_eq_true, if_false, standing, setHandle,
    setAccept, setInner, Function.update_apply]
  split
  · rename_i same
    rw [same]
    exact map_ended _
  · rfl

theorem pruneTunnel_standing_of_kept {inner : Nat} {id : String}
    (kept : ∀ tun, (session.inners inner).tunnels.lookup id = some tun →
      (session.channels tun.tx).receiverOpen = true) (tx : Tx) :
    (session.pruneTunnel inner id).standing tx = session.standing tx := by
  unfold pruneTunnel
  dsimp only
  split
  · rename_i tun found
    rw [if_pos (kept tun found)]
    rfl
  · rfl

theorem isSome_endStanding (value : Option (TunnelInnerInfo × Fate)) :
    (value.map endStanding).isSome = value.isSome := Option.isSome_map

theorem pruneTunnel_standing_cases (session : Session) (inner : Nat) (id : String) (tx : Tx) :
    (session.pruneTunnel inner id).standing tx = session.standing tx ∨
      (session.pruneTunnel inner id).standing tx = (session.standing tx).map endStanding := by
  by_cases kept : ∀ tun, (session.inners inner).tunnels.lookup id = some tun →
      (session.channels tun.tx).receiverOpen = true
  · exact .inl (pruneTunnel_standing_of_kept kept tx)
  · push Not at kept
    obtain ⟨tun, found, closed⟩ := kept
    rw [pruneTunnel_standing_of_closed found (Bool.eq_false_of_not_eq_true closed)]
    split
    · exact .inr rfl
    · exact .inl rfl

theorem pruneTunnel_known (session : Session) (inner : Nat) (id : String) (tx : Tx) :
    ((session.pruneTunnel inner id).standing tx).isSome = (session.standing tx).isSome := by
  obtain same | ends := session.pruneTunnel_standing_cases inner id tx
  · rw [same]
  · rw [ends, isSome_endStanding]

@[simp]
theorem startDrain_standing (error : AcceptError) (order : List (Σ _ : String, BoundTunnel))
    (tx : Tx) :
    (session.startDrain error order).standing tx =
      if tx ∈ order.map (·.2.tx) then (session.standing tx).map endStanding
      else session.standing tx := by
  simp only [standing, startDrain, setAccept, setInner]
  split
  · exact map_ended _
  · rfl

/-- What `start_tunnel` has returned stays known. -/
theorem known_step (step : RegistryStep session label next) {tx : Tx}
    (known : (session.standing tx).isSome) : (next.standing tx).isSome := by
  cases step with
  | quiet quiet => rwa [quiet.standing]
  | insert call unlocked =>
      rw [insertTunnel_standing]
      split
      · rfl
      · exact known
  | remove call unlocked =>
      rw [removeTunnel_standing, Option.isSome_map]
      exact known
  | stop accept found =>
      rw [stopTunnel_standing]
      split
      · rwa [isSome_endStanding]
      · exact known
  | prune accept => rwa [pruneTunnel_known]
  | drain accept perm =>
      rw [startDrain_standing]
      split
      · rwa [isSome_endStanding]
      · exact known
  | _ => exact known

end Session

end Agent

end NgrokRust
