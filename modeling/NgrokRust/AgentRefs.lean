import Mathlib.Data.Finset.Basic
import NgrokRust.AgentDeadlock

/-!
# The references to the agent session

Every `Session` value holds a clone of the `_dropref` that `SessionBuilder::connect` makes.
The application clones sessions, also into its builders; `start_tunnel` and `make_info` clone
them into tunnels, and the drop of a tunnel clones its session into the task that closes the
tunnel.  `connect` itself clones the session into the `IncomingStreams` of the accept loop.
-/

namespace NgrokRust

namespace Agent

/-- What holds a clone of the `_dropref`: a `Session` of the application, a `TunnelInner` from
`start_tunnel`, one from `make_info`, a task that closes a dropped tunnel, or the
`IncomingStreams` of the accept loop. -/
inductive Holder where
  | session (name : Nat)
  | tunnel (tx : Tx)
  | info (name : Nat)
  | closer (task : Task)
  | incoming
deriving DecidableEq

/-- The accept task is at its end, and has dropped what it owned. -/
def AcceptLoop.Over : AcceptLoop → Prop
  | .finished => True
  | .panicked => True
  | _ => False

/-- A call of `close_tunnel`, possibly one that its task has not made yet. -/
def Call.closes : Call → Bool
  | .closeSpawned _ => true
  | .closeLock _ _ _ => true
  | .closeRpc _ _ _ => true
  | .closeRemove _ _ _ => true
  | _ => false

/-- The `TunnelInner` that a call of `start_tunnel` has built. -/
def Call.built : Call → Option Tx
  | .startInsert _ _ bound => some bound.tx
  | _ => none

namespace Session

variable {Value : Type*}

/-- The application has the `TunnelInner` that `start_tunnel` returned. -/
def inUse (session : Session) (tx : Tx) : Prop :=
  (session.handles tx).map TunnelHandle.dropped = some false

instance (session : Session) (tx : Tx) : Decidable (session.inUse tx) :=
  inferInstanceAs (Decidable (_ = _))

def building (session : Session) (task : Task) : Option Tx :=
  (session.calls task).bind Call.built

/-- Somebody has the `TunnelInner`. -/
def Owns (session : Session) (tx : Tx) : Prop :=
  session.inUse tx ∨ ∃ task, session.building task = some tx

def Attached (session : Session) : Prop :=
  session.incomingSession = true ∧ ¬ session.accept.Over

/-- The references after a step of the session. A task that has finished its `close_tunnel`
drops the clone that it may own. -/
def refsAfter (json : Json Value) (session : Session) (refs : Finset Holder) :
    Label → Finset Holder
  | .bindAnswer task (.ok _) =>
      match session.calls task with
      | some (.startRpc _ cfg tx) =>
          if cfg.proto ≠ "" then insert (.tunnel tx) refs else refs
      | _ => refs
  | .labelAnswer task (.ok _) =>
      match session.calls task with
      | some (.startRpc _ cfg tx) =>
          if cfg.proto ≠ "" then refs else insert (.tunnel tx) refs
      | _ => refs
  | .dropTunnel tx spawned => insert (.closer spawned) (refs.erase (.tunnel tx))
  | .unbindAnswer task (.error _) =>
      match session.calls task with
      | some (.closeRpc _ _ _) => refs.erase (.closer task)
      | _ => refs
  | .resume task =>
      match session.calls task with
      | some (.closeRemove inner _ _) =>
          if session.accept.locks = some inner then refs else refs.erase (.closer task)
      | _ => refs
  | .incoming (some stream) =>
      match session.accept, acceptPass json session.incomingSession stream.reads with
      | .accepting, some .panicked => refs.erase .incoming
      | _, _ => refs
  | .acceptResume _ =>
      match session.accept with
      | .swapping _ _ => refs.erase .incoming
      | .draining _ _ [] => refs.erase .incoming
      | _ => refs
  | _ => refs

variable {json : Json Value} {session next : Session} {refs : Finset Holder}

/-- The tunnels in use and the reference of the accept task stay as they are. -/
structure Frame (session next : Session) : Prop where
  inUse : ∀ tx, next.inUse tx ↔ session.inUse tx
  attached : next.Attached ↔ session.Attached

/-- The steps of the session that start no call, as far as references and their holders are
concerned. The last argument is what the references become. -/
inductive RefStep (session : Session) (refs : Finset Holder) (next : Session) :
    Finset Holder → Prop where
  | kept (frame : Frame session next) (calls : next.calls = session.calls) :
      RefStep session refs next refs
  | detached (inUse : ∀ tx, next.inUse tx ↔ session.inUse tx) (gone : ¬ next.Attached)
      (calls : next.calls = session.calls) :
      RefStep session refs next (refs.erase .incoming)
  | moved {task : Task} {call call' : Call} (frame : Frame session next)
      (found : session.calls task = some call)
      (calls : next.calls = Function.update session.calls task (some call'))
      (closes : call'.closes = call.closes) (built : call'.built = call.built) :
      RefStep session refs next refs
  | bound {task : Task} {inner : Nat} {cfg : TunnelConfig} {info : TunnelInnerInfo}
      {bound : BoundTunnel} (frame : Frame session next)
      (found : session.calls task = some (.startRpc inner cfg bound.tx))
      (calls : next.calls =
        Function.update session.calls task (some (.startInsert inner info bound))) :
      RefStep session refs next (insert (.tunnel bound.tx) refs)
  | inserted {task : Task} {inner : Nat} {info : TunnelInnerInfo} {bound : BoundTunnel}
      (inUse : ∀ other, next.inUse other ↔ other = bound.tx ∨ session.inUse other)
      (attached : next.Attached ↔ session.Attached)
      (found : session.calls task = some (.startInsert inner info bound))
      (calls : next.calls = Function.update session.calls task none) :
      RefStep session refs next refs
  | ended {task : Task} {call : Call} (frame : Frame session next)
      (found : session.calls task = some call)
      (calls : next.calls = Function.update session.calls task none)
      (plain : call.closes = false) (unbuilt : call.built = none) :
      RefStep session refs next refs
  | closed {task : Task} {call : Call} (frame : Frame session next)
      (found : session.calls task = some call)
      (calls : next.calls = Function.update session.calls task none)
      (closes : call.closes = true) :
      RefStep session refs next (refs.erase (.closer task))

theorem refStep_idle : RefStep session refs session refs :=
  .kept ⟨fun _ => .rfl, .rfl⟩ rfl

@[simp]
theorem dropped_close (id : String) (handle : TunnelHandle) :
    (handle.close id).dropped = handle.dropped := by
  unfold TunnelHandle.close
  split <;> rfl

@[simp]
theorem dropped_ended (handle : TunnelHandle) : handle.ended.dropped = handle.dropped := by
  unfold TunnelHandle.ended
  split <;> rfl

theorem inUse_of_map {tx : Tx} {change : TunnelHandle → TunnelHandle}
    (keeps : ∀ handle, (change handle).dropped = handle.dropped)
    (handles : next.handles tx = (session.handles tx).map change) :
    next.inUse tx ↔ session.inUse tx := by
  have same : TunnelHandle.dropped ∘ change = TunnelHandle.dropped := funext keeps
  rw [inUse, handles, Option.map_map, same, inUse]

theorem inUse_setHandle {tx : Tx} {change : TunnelHandle → TunnelHandle}
    (keeps : ∀ handle, (change handle).dropped = handle.dropped) (other : Tx) :
    (session.setHandle tx change).inUse other ↔ session.inUse other := by
  by_cases same : other = tx
  · subst same
    exact inUse_of_map keeps (by simp [setHandle])
  · simp [inUse, setHandle, same]

theorem inUse_pruneTunnel (inner : Nat) (id : String) (tx : Tx) :
    (session.pruneTunnel inner id).inUse tx ↔ session.inUse tx := by
  unfold pruneTunnel
  dsimp only
  split
  · split
    · rfl
    · exact inUse_setHandle dropped_ended tx
  · rfl

theorem inUse_startDrain (error : AcceptError) (order : List (Σ _ : String, BoundTunnel))
    (tx : Tx) : (session.startDrain error order).inUse tx ↔ session.inUse tx := by
  by_cases listed : tx ∈ order.map (·.2.tx)
  · exact inUse_of_map dropped_ended (if_pos listed)
  · rw [inUse, inUse, startDrain]
    simp only [if_neg listed]

theorem frame_of_running (inUse : ∀ tx, next.inUse tx ↔ session.inUse tx)
    (incoming : next.incomingSession = session.incomingSession)
    (before : ¬ session.accept.Over) (after : ¬ next.accept.Over) : Frame session next where
  inUse := inUse
  attached := by simp [Attached, incoming, before, after]

theorem reconnectFailed_running (error : ConnectError) :
    ¬ (session.reconnectFailed error).accept.Over := by
  rw [reconnectFailed_accept]
  split <;> exact id

theorem refStep_running (accept : ¬ session.accept.Over)
    (inUse : ∀ tx, next.inUse tx ↔ session.inUse tx)
    (incoming : next.incomingSession = session.incomingSession)
    (after : ¬ next.accept.Over) (calls : next.calls = session.calls) :
    RefStep session refs next refs :=
  .kept (frame_of_running inUse incoming accept after) calls

theorem dropTunnel_of_inUse {tx : Tx} {spawned : Task} (used : session.inUse tx)
    (free : session.calls spawned = none) :
    session.dropTunnel tx spawned = session.dropHandle tx spawned := by
  obtain ⟨handle, found, kept⟩ := Option.map_eq_some_iff.1 used
  simp only [dropTunnel, found, kept, free, and_self, if_true]

theorem inUse_dropHandle {tx : Tx} {spawned : Task} (other : Tx) :
    (session.dropHandle tx spawned).inUse other ↔ other ≠ tx ∧ session.inUse other := by
  by_cases same : other = tx
  · subst same
    cases found : session.handles other <;>
      simp [inUse, dropHandle, setCall, setChannel, setHandle, found]
  · simp [inUse, dropHandle, setCall, setChannel, setHandle, same]

/-- The handle of a tunnel that `start_tunnel` returns is new, and not dropped. -/
theorem inUse_insertTunnel (task : Task) (inner : Nat) (info : TunnelInnerInfo)
    (bound : BoundTunnel) (other : Tx) :
    (session.insertTunnel task inner info bound).inUse other ↔
      other = bound.tx ∨ session.inUse other := by
  by_cases same : other = bound.tx
  · subst same
    simp [inUse, insertTunnel]
  · simp [inUse, insertTunnel, setCall, unlockClient, setInner, same]

theorem frame_removeTunnel (task : Task) (inner : Nat) (id : String) (via : Via) :
    Frame session (session.removeTunnel task inner id via) where
  inUse := fun tx => inUse_of_map (dropped_close id) (by rw [removeTunnel_handles])
  attached := by cases via <;> rfl

theorem refStep_resume (task : Task) :
    RefStep session refs (session.resume task)
      (session.refsAfter json refs (.resume task)) := by
  cases found : session.calls task with
  | none =>
      simp only [resume, refsAfter, found]
      exact refStep_idle
  | some call =>
      cases call with
      | startLock inner cfg | closeLock inner id via | sessionLock inner =>
          simp only [resume, refsAfter, found]
          split
          · exact .moved ⟨fun _ => .rfl, .rfl⟩ found rfl rfl rfl
          · exact refStep_idle
      | startInsert inner info bound =>
          simp only [resume, refsAfter, found]
          split
          · exact refStep_idle
          · exact .inserted (fun other => inUse_insertTunnel ..) .rfl found rfl
      | closeSpawned tx =>
          simp only [resume, refsAfter, found]
          split
          · exact .moved ⟨fun _ => .rfl, .rfl⟩ found rfl rfl rfl
          · exact refStep_idle
      | closeRemove inner id via =>
          simp only [resume, refsAfter, found]
          split
          · exact refStep_idle
          · exact .closed (frame_removeTunnel ..) found (removeTunnel_calls ..) rfl
      | sessionStore inner res =>
          simp only [resume, refsAfter, found]
          exact .ended ⟨fun _ => .rfl, .rfl⟩ found rfl rfl rfl
      | startRpc inner cfg tx | closeRpc inner id via | sessionGoAway inner =>
          simp only [resume, refsAfter, found]
          exact refStep_idle

/-- A call of `start_tunnel` has built its `TunnelInner`. -/
theorem refStep_startBound {task : Task} {inner : Nat} {cfg : TunnelConfig}
    {tx : Tx} {tunnel : TunnelInnerInfo × BoundTunnel}
    (found : session.calls task = some (.startRpc inner cfg tx)) (same : tunnel.2.tx = tx) :
    RefStep session refs (session.startBound task inner tunnel)
      (insert (.tunnel tx) refs) := by
  subst same
  exact .bound ⟨fun _ => .rfl, .rfl⟩ found rfl

theorem refStep_failCall {task : Task} {inner : Nat} {cfg : TunnelConfig} {tx : Tx}
    (found : session.calls task = some (.startRpc inner cfg tx)) :
    RefStep session refs (session.failCall task inner) refs :=
  .ended ⟨fun _ => .rfl, .rfl⟩ found rfl rfl rfl

theorem refStep_bindAnswer (task : Task) (answer : Except RpcError BindResp) :
    RefStep session refs (session.bindAnswer task answer)
      (session.refsAfter json refs (.bindAnswer task answer)) := by
  cases found : session.calls task with
  | none =>
      cases answer <;> simp only [bindAnswer, refsAfter, found] <;>
        exact refStep_idle
  | some call =>
      cases call with
      | startRpc inner cfg tx =>
          by_cases named : cfg.proto ≠ ""
          · cases answer with
            | ok resp =>
                simp only [bindAnswer, refsAfter, found, if_pos named]
                exact refStep_startBound found rfl
            | error error =>
                simp only [bindAnswer, refsAfter, found, if_pos named]
                exact refStep_failCall found
          · cases answer <;> simp only [bindAnswer, refsAfter, found, if_neg named] <;>
              exact refStep_idle
      | _ =>
          cases answer <;> simp only [bindAnswer, refsAfter, found] <;>
            exact refStep_idle

theorem refStep_labelAnswer (task : Task) (answer : Except RpcError String) :
    RefStep session refs (session.labelAnswer task answer)
      (session.refsAfter json refs (.labelAnswer task answer)) := by
  cases found : session.calls task with
  | none =>
      cases answer <;> simp only [labelAnswer, refsAfter, found] <;>
        exact refStep_idle
  | some call =>
      cases call with
      | startRpc inner cfg tx =>
          by_cases named : cfg.proto ≠ ""
          · cases answer <;> simp only [labelAnswer, refsAfter, found, if_pos named] <;>
              exact refStep_idle
          · cases answer with
            | ok respId =>
                simp only [labelAnswer, refsAfter, found, if_neg named]
                exact refStep_startBound found rfl
            | error error =>
                simp only [labelAnswer, refsAfter, found, if_neg named]
                exact refStep_failCall found
      | _ =>
          cases answer <;> simp only [labelAnswer, refsAfter, found] <;>
            exact refStep_idle

theorem refStep_unbindAnswer (task : Task) (answer : Except RpcError Unit) :
    RefStep session refs (session.unbindAnswer task answer)
      (session.refsAfter json refs (.unbindAnswer task answer)) := by
  cases found : session.calls task with
  | none =>
      cases answer <;> simp only [unbindAnswer, refsAfter, found] <;>
        exact refStep_idle
  | some call =>
      cases call with
      | closeRpc inner id via =>
          cases answer with
          | ok =>
              simp only [unbindAnswer, refsAfter, found]
              exact .moved ⟨fun _ => .rfl, .rfl⟩ found rfl rfl rfl
          | error error =>
              simp only [unbindAnswer, refsAfter, found]
              exact .closed ⟨fun _ => .rfl, .rfl⟩ found rfl rfl
      | _ =>
          cases answer <;> simp only [unbindAnswer, refsAfter, found] <;>
            exact refStep_idle

theorem refStep_goAwayAnswer (task : Task) (answer : Except RpcError Unit) :
    RefStep session refs (session.goAwayAnswer task answer) refs := by
  unfold goAwayAnswer
  split
  · rename_i inner found
    exact .moved ⟨fun _ => .rfl, .rfl⟩ found rfl rfl rfl
  · exact refStep_idle

/-- A stream that makes the accept loop panic takes its reference with it. -/
theorem refStep_incoming (stream : Option RemoteStream) :
    RefStep session refs (session.incoming json stream)
      (session.refsAfter json refs (.incoming stream)) := by
  cases accept : session.accept with
  | accepting =>
      have running : ¬ session.accept.Over := by rw [accept]; exact id
      cases stream with
      | none =>
          simp only [incoming, refsAfter, accept]
          exact refStep_running running (fun _ => .rfl) rfl id rfl
      | some stream =>
          simp only [incoming, refsAfter, accept]
          split
          · rename_i pass
            simp only [pass]
            exact refStep_running running (fun _ => .rfl) rfl id rfl
          · rename_i pass
            simp only [pass]
            exact refStep_idle
          · rename_i req pass
            simp only [pass]
            exact refStep_running running (fun _ => .rfl) rfl id rfl
          · rename_i header pass
            simp only [pass]
            exact refStep_running running (fun _ => .rfl) rfl id rfl
          · rename_i error pass
            simp only [pass]
            exact refStep_running running (fun _ => .rfl) rfl id rfl
          · rename_i error pass
            simp only [pass]
            exact refStep_idle
          · rename_i typ pass
            simp only [pass]
            exact refStep_idle
          · rename_i pass
            simp only [pass]
            exact .detached (fun _ => .rfl) (fun attached => attached.2 trivial) rfl
  | _ =>
      cases stream <;> simp only [incoming, refsAfter, accept] <;>
        exact refStep_idle

theorem refStep_acceptResume (order : List (Σ _ : String, BoundTunnel)) :
    RefStep session refs (session.acceptResume order)
      (session.refsAfter json refs (.acceptResume order)) := by
  have running : ∀ place : AcceptLoop, session.accept = place → ¬ place.Over →
      ¬ session.accept.Over := fun place accept isOn => accept ▸ isOn
  cases accept : session.accept with
  | accepting | reading | connecting | authenticating | awaiting | finished | panicked =>
      simp only [acceptResume, refsAfter, accept]
      exact refStep_idle
  | stopping inner req =>
      simp only [acceptResume, refsAfter, accept]
      split
      · exact refStep_running (running _ accept id) (inUse_setHandle dropped_ended) rfl id rfl
      · exact refStep_running (running _ accept id) (fun _ => .rfl) rfl id rfl
  | stopSending inner tx error =>
      simp only [acceptResume, refsAfter, accept]
      split
      · exact refStep_idle
      · split <;> exact refStep_running (running _ accept id) (fun _ => .rfl) rfl id rfl
  | delivering inner header =>
      simp only [acceptResume, refsAfter, accept]
      split <;> exact refStep_running (running _ accept id) (fun _ => .rfl) rfl id rfl
  | sending inner id_ tx conn =>
      simp only [acceptResume, refsAfter, accept]
      split
      · exact refStep_idle
      · split <;> exact refStep_running (running _ accept id) (fun _ => .rfl) rfl id rfl
  | pruning inner id_ =>
      simp only [acceptResume, refsAfter, accept]
      exact refStep_running (running _ accept id) (inUse_pruneTunnel inner id_)
        (pruneTunnel_incomingSession ..) (by rw [pruneTunnel_accept]; exact id)
        (pruneTunnel_calls ..)
  | retrying error =>
      simp only [acceptResume, refsAfter, accept, startReconnect]
      split
      · exact refStep_running (running _ accept id) (fun _ => .rfl) rfl
          (reconnectFailed_running _) rfl
      · exact refStep_running (running _ accept id) (fun _ => .rfl) rfl id rfl
  | locking old newInner =>
      simp only [acceptResume, refsAfter, accept]
      split
      · exact refStep_running (running _ accept id) (fun _ => .rfl) rfl id rfl
      · exact refStep_idle
  | binding old newInner rest =>
      cases rest <;> simp only [acceptResume, refsAfter, accept] <;>
        exact refStep_running (running _ accept id) (fun _ => .rfl) rfl id rfl
  | swapping old newInner =>
      simp only [acceptResume, refsAfter, accept]
      refine .detached (fun _ => .rfl) ?_ rfl
      rintro ⟨⟨⟩, -⟩
  | givingUp error =>
      simp only [acceptResume, refsAfter, accept]
      split
      · exact refStep_running (running _ accept id) (inUse_startDrain error order) rfl id rfl
      · exact refStep_idle
  | draining inner error rest =>
      cases rest with
      | nil =>
          simp only [acceptResume, refsAfter, accept]
          exact .detached (fun _ => .rfl) (fun attached => attached.2 trivial) rfl
      | cons tx rest =>
          simp only [acceptResume, refsAfter, accept]
          split
          · exact refStep_idle
          · split <;> exact refStep_running (running _ accept id) (fun _ => .rfl) rfl id rfl

theorem refStep_connectorAnswer (answer : Except ConnectError Unit) :
    RefStep session refs (session.connectorAnswer answer) refs := by
  unfold connectorAnswer
  split
  · rename_i accept
    exact refStep_running (accept ▸ id) (fun _ => .rfl) rfl id rfl
  · rename_i error accept
    exact refStep_running (accept ▸ id) (fun _ => .rfl) rfl (reconnectFailed_running error) rfl
  · exact refStep_idle

theorem refStep_authAnswer (answer : Except RpcError AuthResp) :
    RefStep session refs (session.authAnswer answer) refs := by
  unfold authAnswer
  split
  · rename_i accept
    exact refStep_running (accept ▸ id) (fun _ => .rfl) rfl id rfl
  · rename_i error accept
    exact refStep_running (accept ▸ id) (fun _ => .rfl) rfl (reconnectFailed_running _) rfl
  · exact refStep_idle

theorem refStep_rebindAnswer (answer : Except RpcError String) :
    RefStep session refs (session.rebindAnswer answer) refs := by
  unfold rebindAnswer
  split
  · rename_i accept
    exact refStep_running (accept ▸ id) (fun _ => .rfl) rfl id rfl
  · rename_i error accept
    exact refStep_running (accept ▸ id) (fun _ => .rfl) rfl (reconnectFailed_running _) rfl
  · exact refStep_idle

/-- Every step that starts no call. -/
theorem refStep_of_steady {label : Label} (steady : label.begins = none) :
    RefStep session refs (session.step json label) (session.refsAfter json refs label) := by
  cases label with
  | startTunnel | closeTunnel | closeHandle | closeSession | dropTunnel => cases steady
  | resume task => exact refStep_resume task
  | bindAnswer task answer => exact refStep_bindAnswer task answer
  | labelAnswer task answer => exact refStep_labelAnswer task answer
  | unbindAnswer task answer => exact refStep_unbindAnswer task answer
  | goAwayAnswer task answer => exact refStep_goAwayAnswer task answer
  | receive tx => exact .kept ⟨fun _ => .rfl, .rfl⟩ rfl
  | incoming stream => exact refStep_incoming stream
  | acceptResume order => exact refStep_acceptResume order
  | connectorAnswer answer => exact refStep_connectorAnswer answer
  | authAnswer answer => exact refStep_authAnswer answer
  | rebindAnswer answer => exact refStep_rebindAnswer answer

theorem Call.built_of_closes {call : Call} (closes : call.closes = true) : call.built = none := by
  cases call with
  | startInsert => cases closes
  | _ => rfl

theorem building_update {task : Task} {call : Option Call}
    (calls : next.calls = Function.update session.calls task call) (other : Task) :
    next.building other =
      if other = task then call.bind Call.built else session.building other := by
  simp only [building, calls, Function.update_apply]
  split <;> rfl

theorem building_of_call {task : Task} {call : Call} (found : session.calls task = some call) :
    session.building task = call.built := by
  rw [building, found]
  rfl

theorem building_eq_of_update {task : Task} {call : Option Call}
    (calls : next.calls = Function.update session.calls task call)
    (same : call.bind Call.built = session.building task) : next.building = session.building := by
  funext other
  rw [building_update calls]
  split
  · rename_i equal
    rw [same, equal]
  · rfl

theorem owns_congr (inUse : ∀ tx, next.inUse tx ↔ session.inUse tx)
    (building : next.building = session.building) (tx : Tx) :
    next.Owns tx ↔ session.Owns tx := by
  simp only [Owns, inUse, building]

theorem not_building_of_inUse (registered : session.Registered) {tx : Tx}
    (used : session.inUse tx) (task : Task) : session.building task ≠ some tx := by
  intro built
  have starts : session.starting task = some tx := by
    obtain ⟨call, found, builds⟩ := Option.bind_eq_some_iff.1 built
    cases call with
    | startInsert inner info bound => exact (starting_of_call found).trans builds
    | _ => cases builds
  obtain ⟨handle, found, -⟩ := Option.map_eq_some_iff.1 used
  have unknown := (registered.new task tx starts).2
  rw [standing, found] at unknown
  cases unknown

namespace RefStep

variable {refs' : Finset Holder} (step : RefStep session refs next refs')
include step

theorem session_mem (name : Nat) : .session name ∈ refs' ↔ .session name ∈ refs := by
  cases step <;> simp

theorem info_mem (name : Nat) : .info name ∈ refs' ↔ .info name ∈ refs := by
  cases step <;> simp

theorem incoming_mem (attached : .incoming ∈ refs ↔ session.Attached) :
    .incoming ∈ refs' ↔ next.Attached := by
  cases step with
  | detached inUse gone calls => simp [gone]
  | inserted inUse same found calls => rw [attached, same]
  | kept frame | moved frame | ended frame => rw [attached, frame.attached]
  | bound frame | closed frame => simp [attached, frame.attached]

theorem tunnel_mem (owned : ∀ tx, .tunnel tx ∈ refs ↔ session.Owns tx) (tx : Tx) :
    .tunnel tx ∈ refs' ↔ next.Owns tx := by
  cases step with
  | kept frame calls =>
      have building : next.building = session.building := by
        funext task
        rw [Session.building, calls, Session.building]
      rw [owned, owns_congr frame.inUse building]
  | detached inUse gone calls =>
      have building : next.building = session.building := by
        funext task
        rw [Session.building, calls, Session.building]
      simp [owned, owns_congr inUse building]
  | moved frame found calls closes built =>
      have building := building_eq_of_update calls (built.trans (building_of_call found).symm)
      rw [owned, owns_congr frame.inUse building]
  | ended frame found calls plain unbuilt =>
      have building :=
        building_eq_of_update calls (unbuilt.symm.trans (building_of_call found).symm)
      rw [owned, owns_congr frame.inUse building]
  | closed frame found calls closes =>
      have unbuilt := Call.built_of_closes closes
      have building :=
        building_eq_of_update calls (unbuilt.symm.trans (building_of_call found).symm)
      simp [owned, owns_congr frame.inUse building]
  | bound frame found calls =>
      rename_i task inner cfg info bound
      have before : session.building task = none := building_of_call found
      have after := building_update calls
      rw [Finset.mem_insert, owned, Owns, Owns, frame.inUse]
      constructor
      · rintro (same | used | ⟨other, built⟩)
        · cases same
          exact .inr ⟨task, by rw [after, if_pos rfl]; rfl⟩
        · exact .inl used
        · refine .inr ⟨other, ?_⟩
          have different : other ≠ task := by
            rintro rfl
            rw [before] at built
            cases built
          rwa [after, if_neg different]
      · rintro (used | ⟨other, built⟩)
        · exact .inr (.inl used)
        · rw [after] at built
          split at built
          · cases built
            exact .inl rfl
          · exact .inr (.inr ⟨other, built⟩)
  | inserted inUse same found calls =>
      rename_i task inner info bound
      have before : session.building task = some bound.tx := building_of_call found
      have after := building_update calls
      rw [owned, Owns, Owns, inUse]
      constructor
      · rintro (used | ⟨other, built⟩)
        · exact .inl (.inr used)
        · by_cases different : other = task
          · rw [different, before] at built
            cases built
            exact .inl (.inl rfl)
          · exact .inr ⟨other, by rwa [after, if_neg different]⟩
      · rintro ((rfl | used) | ⟨other, built⟩)
        · exact .inr ⟨task, before⟩
        · exact .inl used
        · rw [after] at built
          split at built
          · cases built
          · exact .inr ⟨other, built⟩

/-- The calls go on as what they are. -/
theorem call_of_next {task : Task} {call : Call} (found : next.calls task = some call) :
    ∃ before, session.calls task = some before ∧ before.closes = call.closes := by
  have still : ∀ other, next.calls = Function.update session.calls other none →
      ∃ before, session.calls task = some before ∧ before.closes = call.closes :=
    fun other calls => ⟨call, call_of_over calls found, rfl⟩
  cases step with
  | kept _ calls | detached _ _ calls => exact ⟨call, by rwa [← calls], rfl⟩
  | inserted _ _ _ calls | ended _ _ calls | closed _ _ calls => exact still _ calls
  | moved _ own calls closes =>
      rw [calls, Function.update_apply] at found
      split at found
      · rename_i same
        cases found
        exact ⟨_, same ▸ own, closes.symm⟩
      · exact ⟨call, found, rfl⟩
  | bound _ own calls =>
      rw [calls, Function.update_apply] at found
      split at found
      · rename_i same
        cases found
        exact ⟨_, (congrArg session.calls same).trans own, rfl⟩
      · exact ⟨call, found, rfl⟩

theorem calls_eq_none {task : Task} (idle : session.calls task = none) :
    next.calls task = none := by
  by_contra busy
  obtain ⟨call, found⟩ := Option.ne_none_iff_exists'.1 busy
  obtain ⟨before, was, -⟩ := step.call_of_next found
  rw [idle] at was
  cases was

/-- The end of a `close_tunnel` gives up the reference of its task, and no other call that
ends has one. -/
theorem closer_mem (task : Task) :
    .closer task ∈ refs' ↔ .closer task ∈ refs ∧ ∀ call, session.calls task = some call →
      call.closes = true → next.calls task ≠ none := by
  have others : ∀ {other : Task} {after : Option Call} {call : Call}, task ≠ other →
      next.calls = Function.update session.calls other after → session.calls task = some call →
        next.calls task ≠ none := by
    intro other after call different calls found
    rw [calls, Function.update_of_ne different, found]
    exact Option.some_ne_none call
  cases step with
  | kept _ calls =>
      refine (and_iff_left fun call found _ => ?_).symm
      rw [calls, found]
      exact Option.some_ne_none call
  | detached _ _ calls =>
      rw [Finset.mem_erase, and_iff_right (by simp)]
      refine (and_iff_left fun call found _ => ?_).symm
      rw [calls, found]
      exact Option.some_ne_none call
  | moved frame own calls closes built =>
      rename_i other call call'
      refine (and_iff_left fun call found _ => ?_).symm
      by_cases same : task = other
      · rw [calls, same, Function.update_self]
        exact Option.some_ne_none call'
      · exact others same calls found
  | bound frame own calls =>
      rename_i other inner cfg info bound
      rw [Finset.mem_insert, or_iff_right (by simp)]
      refine (and_iff_left fun call found _ => ?_).symm
      by_cases same : task = other
      · rw [calls, same, Function.update_self]
        exact Option.some_ne_none _
      · exact others same calls found
  | inserted inUse attached own calls =>
      rename_i other inner info bound
      refine (and_iff_left fun call found closes => ?_).symm
      by_cases same : task = other
      · rw [same, own] at found
        cases found
        cases closes
      · exact others same calls found
  | ended frame own calls plain unbuilt =>
      rename_i other call
      refine (and_iff_left fun call found closes => ?_).symm
      by_cases same : task = other
      · rw [same, own] at found
        cases found
        exact absurd closes (by simp [plain])
      · exact others same calls found
  | closed frame own calls closes =>
      rename_i other call
      by_cases same : task = other
      · subst same
        refine iff_of_false (Finset.notMem_erase _ _) fun kept => ?_
        exact kept.2 _ own closes (by rw [calls, Function.update_self])
      · rw [Finset.mem_erase, and_iff_right fun equal => same (by cases equal; rfl)]
        exact (and_iff_left fun call found _ => others same calls found).symm

end RefStep

end Session

end Agent

end NgrokRust
