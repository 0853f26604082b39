import NgrokRust.AgentRefs
import NgrokRust.AgentStop

/-!
# The application and its session

`connect` runs the accept loop until the last clone of the `_dropref` is dropped.  The model
of the session is extended by an application that holds sessions and tunnels.  What it may do
is what the borrow checker lets it do: a value is used only while it is held, and it is not
dropped during a call that borrows it.
-/

namespace NgrokRust

namespace Agent

open LabelledRuns

/-- The application and its session. `infos` are the tunnels that `make_info` has made, and
`unstarted` are the tasks that the drop of such a tunnel has spawned and that have not run
yet, with the id to close. `through` is the value that the call of a task borrows. -/
structure App where
  agent : Session
  refs : Finset Holder
  sessions : Finset Nat
  infos : Nat → Option TunnelInnerInfo
  unstarted : Task → Option String
  through : Task → Option Holder
  canceled : Bool

/-- A call of the session borrows `via`. `closeInfo` and `dropInfo` are what becomes of the
tunnel in a `Forwarder`, and `startClose` is the first poll of the task that a `dropInfo` has
spawned. -/
inductive App.Label where
  | agent (via : Holder) (label : Agent.Label)
  | clone (name copy : Nat)
  | drop (name : Nat)
  | makeInfo (tx : Tx) (name : Nat)
  | closeInfo (name : Nat) (task : Task)
  | dropInfo (name : Nat) (task : Task)
  | startClose (task : Task)
  | dropped

namespace App

variable {Value : Type*}

/-- `connect` returns the session. -/
def connected (builder : SessionBuilder) : App where
  agent := .connected builder
  refs := {.session 0, .incoming}
  sessions := {0}
  infos := fun _ => none
  unstarted := fun _ => none
  through := fun _ => none
  canceled := false

/-- The values that the calls borrow after a step of the session. -/
def throughAfter (app : App) (via : Holder) : Agent.Label → Task → Option Holder
  | .dropTunnel _ spawned => Function.update app.through spawned (some (.closer spawned))
  | label =>
      match label.begins with
      | some task => Function.update app.through task (some via)
      | none => app.through

/-- `dropped` is the end of `dropped.wait()`: the accept loop is dropped. -/
def step (json : Json Value) (app : App) : Label → App
  | .agent via label =>
      { app with
        agent := app.agent.step json label
        refs := app.agent.refsAfter json app.refs label
        through := app.throughAfter via label }
  | .clone _ copy =>
      { app with
        sessions := insert copy app.sessions
        refs := insert (.session copy) app.refs }
  | .drop name =>
      { app with
        sessions := app.sessions.erase name
        refs := app.refs.erase (.session name) }
  | .makeInfo tx name =>
      { app with
        infos := Function.update app.infos name ((app.agent.handles tx).map TunnelHandle.info)
        refs := insert (.info name) app.refs }
  | .closeInfo name task =>
      match app.infos name with
      | some info =>
          { app with
            agent := app.agent.step json (.closeTunnel task info.id)
            through := Function.update app.through task (some (.info name)) }
      | none => app
  | .dropInfo name task =>
      match app.infos name with
      | some info =>
          { app with
            infos := Function.update app.infos name none
            unstarted := Function.update app.unstarted task (some info.id)
            through := Function.update app.through task (some (.closer task))
            refs := insert (.closer task) (app.refs.erase (.info name)) }
      | none => app
  | .startClose task =>
      match app.unstarted task with
      | some id =>
          { app with
            agent := app.agent.step json (.closeTunnel task id)
            unstarted := Function.update app.unstarted task none }
      | none => app
  | .dropped => { app with refs := app.refs.erase .incoming, canceled := true }

def Busy (app : App) (task : Task) : Prop :=
  app.agent.calls task ≠ none ∨ app.unstarted task ≠ none

def Borrowed (app : App) (holder : Holder) : Prop :=
  ∃ task, app.Busy task ∧ app.through task = some holder

def Closing (app : App) (task : Task) : Prop :=
  app.through task = some (.closer task) ∧ app.Busy task

def Accepting (app : App) : Prop := app.canceled = false ∧ ¬ app.agent.accept.Over

/-- What the application, and the tasks, can do. -/
def Allows (app : App) : Label → Prop
  | .agent via label =>
      match label with
      | .startTunnel task _ | .closeTunnel task _ | .closeSession task =>
          (∃ name ∈ app.sessions, via = .session name) ∧ ¬ app.Busy task
      | .closeHandle task tx => via = .tunnel tx ∧ app.agent.inUse tx ∧ ¬ app.Busy task
      | .dropTunnel tx spawned =>
          app.agent.inUse tx ∧ ¬ app.Borrowed (.tunnel tx) ∧ ¬ app.Busy spawned
      | .incoming _ | .acceptResume _ | .connectorAnswer _ | .authAnswer _ | .rebindAnswer _ =>
          app.canceled = false
      | _ => True
  | .clone name copy => name ∈ app.sessions ∧ copy ∉ app.sessions
  | .drop name => name ∈ app.sessions ∧ ¬ app.Borrowed (.session name)
  | .makeInfo tx name => app.agent.inUse tx ∧ app.infos name = none
  | .closeInfo name task => app.infos name ≠ none ∧ ¬ app.Busy task
  | .dropInfo name task =>
      app.infos name ≠ none ∧ ¬ app.Borrowed (.info name) ∧ ¬ app.Busy task
  | .startClose task => app.unstarted task ≠ none
  | .dropped => app.refs = ∅

/-- The application holds no session and no tunnel, and the tasks that close its tunnels
have finished. -/
structure Unheld (app : App) : Prop where
  sessions : app.sessions = ∅
  tunnels : ∀ tx, ¬ app.agent.inUse tx
  infos : ∀ name, app.infos name = none
  closed : ∀ task, ¬ app.Closing task

/-- No clone of the `_dropref` is left. Whatever happens next, `dropped.wait()` can resolve,
and then the accept task is gone. -/
def EndsSession (json : Json Value) (app : App) : Prop :=
  app.refs = ∅ ∧ ∀ later, Reaches (step json) Allows app later →
    later.Allows .dropped ∧ ¬ (later.step json .dropped).Accepting

open Session

variable {json : Json Value} {app : App}

theorem calls_of_idle {task : Task} (idle : ¬ app.Busy task) : app.agent.calls task = none :=
  not_not.1 fun busy => idle (.inl busy)

/-- The session of the application runs as a session does. -/
theorem agent_step (json : Json Value) (app : App) (label : Label) :
    (app.step json label).agent = app.agent ∨
      ∃ own, (app.step json label).agent = app.agent.step json own := by
  cases label with
  | agent via label => exact .inr ⟨label, rfl⟩
  | clone | drop | makeInfo | dropped => exact .inl rfl
  | closeInfo name task =>
      cases found : app.infos name with
      | none => exact .inl (by simp only [step, found])
      | some info => exact .inr ⟨.closeTunnel task info.id, by simp only [step, found]⟩
  | dropInfo name task => cases found : app.infos name <;> exact .inl (by simp only [step, found])
  | startClose task =>
      cases found : app.unstarted task with
      | none => exact .inl (by simp only [step, found])
      | some id => exact .inr ⟨.closeTunnel task id, by simp only [step, found]⟩

theorem agent_reaches_step {first : Session}
    (reaches : Reaches (Session.step json) anyLabel first app.agent) (label : Label) :
    Reaches (Session.step json) anyLabel first (app.step json label).agent := by
  obtain same | ⟨own, same⟩ := agent_step json app label
  · rwa [same]
  · rw [same]
    exact reaches.tail ⟨own, trivial, rfl⟩

theorem agent_reaches {builder : SessionBuilder}
    (reaches : Reaches (step json) Allows (connected builder) app) :
    Reaches (Session.step json) anyLabel (.connected builder) app.agent :=
  Reaches.invariant
    (fun app => Reaches (Session.step json) anyLabel (.connected builder) app.agent)
    (fun _ label _ before => agent_reaches_step before label) reaches .refl

/-- Who holds the references, and what the tasks do with them. -/
structure Tracked (app : App) : Prop where
  sessions : ∀ name, .session name ∈ app.refs ↔ name ∈ app.sessions
  infos : ∀ name, .info name ∈ app.refs ↔ app.infos name ≠ none
  tunnels : ∀ tx, .tunnel tx ∈ app.refs ↔ app.agent.Owns tx
  closers : ∀ task, .closer task ∈ app.refs ↔ app.Closing task
  incoming : .incoming ∈ app.refs ↔ app.agent.Attached
  works : ∀ task call, app.agent.calls task = some call → call.closes = false →
    ∃ name ∈ app.sessions, app.through task = some (.session name)
  unstarted : ∀ task, app.unstarted task ≠ none →
    app.agent.calls task = none ∧ app.through task = some (.closer task)

theorem tracked_connected (builder : SessionBuilder) : (connected builder).Tracked where
  sessions := by simp [connected]
  infos := by simp [connected]
  tunnels := by simp [connected, Owns, inUse, building, Session.connected]
  closers := by simp [connected, Closing]
  incoming := by simp [connected, Attached, Session.connected, AcceptLoop.Over]
  works := by simp [connected, Session.connected]
  unstarted := by simp [connected]

theorem not_closing_of_idle {task : Task} (idle : ¬ app.Busy task) : ¬ app.Closing task :=
  fun closing => idle closing.2

theorem Tracked.closes_of_closing (tracked : app.Tracked) {task : Task} {call : Call}
    (closing : app.Closing task) (found : app.agent.calls task = some call) :
    call.closes = true := by
  by_contra plain
  obtain ⟨name, -, through⟩ := tracked.works task call found (Bool.eq_false_of_not_eq_true plain)
  rw [closing.1] at through
  cases through

theorem Tracked.steady (tracked : app.Tracked) {next : Session} {refs : Finset Holder}
    (step : RefStep app.agent app.refs next refs) :
    { app with agent := next, refs := refs }.Tracked where
  sessions := fun name => (step.session_mem name).trans (tracked.sessions name)
  infos := fun name => (step.info_mem name).trans (tracked.infos name)
  tunnels := step.tunnel_mem tracked.tunnels
  incoming := step.incoming_mem tracked.incoming
  closers := by
    intro task
    rw [step.closer_mem, tracked.closers]
    constructor
    · rintro ⟨⟨through, busy⟩, kept⟩
      refine ⟨through, ?_⟩
      cases found : app.agent.calls task with
      | none => exact .inr (busy.resolve_left (not_not.2 found))
      | some call => exact .inl (kept call found (tracked.closes_of_closing ⟨through, busy⟩ found))
    · rintro ⟨through, busy⟩
      refine ⟨⟨through, ?_⟩, fun call found _ ended => ?_⟩
      · exact busy.imp_left fun calls idle => calls (step.calls_eq_none idle)
      · have waits := busy.resolve_left (not_not.2 ended)
        rw [(tracked.unstarted task waits).1] at found
        cases found
  works := by
    intro task call found plain
    obtain ⟨before, was, same⟩ := step.call_of_next found
    exact tracked.works task before was (same.trans plain)
  unstarted := by
    intro task waits
    obtain ⟨idle, through⟩ := tracked.unstarted task waits
    exact ⟨step.calls_eq_none idle, through⟩

/-- A task starts a call that borrows `via`. -/
theorem Tracked.begun (tracked : app.Tracked) {task : Task} (call : Call) (via : Holder)
    (free : app.agent.calls task = none) (unbuilt : call.built = none)
    (closes : via = .closer task ↔ app.Closing task)
    (works : call.closes = false → ∃ name ∈ app.sessions, via = .session name) :
    { app with
      agent := app.agent.setCall task (some call)
      unstarted := Function.update app.unstarted task none
      through := Function.update app.through task (some via) }.Tracked where
  sessions := tracked.sessions
  infos := tracked.infos
  tunnels := by
    intro tx
    have unbuilding : app.agent.building task = none := by
      rw [building, free]
      rfl
    have building : (app.agent.setCall task (some call)).building = app.agent.building :=
      building_eq_of_update rfl (unbuilt.trans unbuilding.symm)
    have used : ∀ tx, (app.agent.setCall task (some call)).inUse tx ↔ app.agent.inUse tx :=
      fun _ => .rfl
    exact (tracked.tunnels tx).trans (owns_congr used building tx).symm
  incoming := tracked.incoming
  closers := by
    intro other
    rw [tracked.closers]
    by_cases same : other = task
    · subst same
      rw [← closes]
      simp [Closing, Busy, setCall]
    · simp [Closing, Busy, setCall, same]
  works := by
    intro other call' found plain
    by_cases same : other = task
    · subst same
      simp only [setCall, Function.update_self, Option.some.injEq] at found ⊢
      subst found
      exact works plain
    · simp only [setCall, Function.update_of_ne same] at found ⊢
      exact tracked.works other call' found plain
  unstarted := by
    intro other waits
    by_cases same : other = task
    · subst same
      exact absurd (Function.update_self ..) waits
    · simp only [setCall, Function.update_of_ne same] at waits ⊢
      exact tracked.unstarted other waits

theorem Tracked.call (tracked : app.Tracked) {task : Task} (call : Call) (via : Holder)
    (idle : ¬ app.Busy task) (unbuilt : call.built = none) (own : via ≠ .closer task)
    (works : call.closes = false → ∃ name ∈ app.sessions, via = .session name) :
    { app with
      agent := app.agent.begin task call
      through := Function.update app.through task (some via) }.Tracked := by
  have free := calls_of_idle idle
  have none_ : app.unstarted task = none := not_not.1 fun waits => idle (.inr waits)
  have begun := tracked.begun call via free unbuilt
    (iff_of_false own (not_closing_of_idle idle)) works
  rw [← none_, Function.update_eq_self] at begun
  rwa [Session.begin, if_pos free]

/-- A tunnel is dropped: its clone of the session is left to the spawned task. -/
theorem Tracked.dropTunnel (tracked : app.Tracked) (registered : app.agent.Registered) {tx : Tx}
    {spawned : Task} (used : app.agent.inUse tx) (idle : ¬ app.Busy spawned) :
    { app with
      agent := app.agent.dropHandle tx spawned
      refs := insert (Holder.closer spawned) (app.refs.erase (.tunnel tx))
      through := Function.update app.through spawned (some (.closer spawned)) }.Tracked where
  sessions := by simpa using tracked.sessions
  infos := by simpa using tracked.infos
  incoming := by
    rw [Finset.mem_insert, or_iff_right (by simp), Finset.mem_erase, and_iff_right (by simp)]
    exact tracked.incoming
  tunnels := by
    intro other
    have unbuilding : app.agent.building spawned = none := by
      rw [building, calls_of_idle idle]
      rfl
    have building : (app.agent.dropHandle tx spawned).building = app.agent.building :=
      building_eq_of_update rfl unbuilding.symm
    simp only [Finset.mem_insert, Finset.mem_erase, reduceCtorEq, false_or, ne_eq,
      Holder.tunnel.injEq, tracked.tunnels, Owns, inUse_dropHandle, building]
    constructor
    · rintro ⟨different, known | built⟩
      · exact .inl ⟨different, known⟩
      · exact .inr built
    · rintro (⟨different, known⟩ | ⟨task, built⟩)
      · exact ⟨different, .inl known⟩
      · refine ⟨?_, .inr ⟨task, built⟩⟩
        rintro rfl
        exact not_building_of_inUse registered used task built
  closers := by
    intro other
    by_cases same : other = spawned
    · subst same
      simp [Closing, Busy, dropHandle, setCall]
    · simp [Closing, Busy, dropHandle, setCall, setChannel, setHandle, same, tracked.closers]
  works := by
    intro other call found plain
    by_cases same : other = spawned
    · subst same
      simp only [dropHandle, setCall, Function.update_self, Option.some.injEq] at found
      subst found
      cases plain
    · simp only [dropHandle, setCall, Function.update_of_ne same] at found ⊢
      exact tracked.works other call found plain
  unstarted := by
    intro other waits
    have same : other ≠ spawned := by
      rintro rfl
      exact idle (.inr waits)
    simp only [dropHandle, setCall, Function.update_of_ne same]
    exact tracked.unstarted other waits

theorem Tracked.clone (tracked : app.Tracked) (copy : Nat) :
    { app with
      sessions := insert copy app.sessions
      refs := insert (Holder.session copy) app.refs }.Tracked where
  sessions := by simp [tracked.sessions]
  infos := by simpa using tracked.infos
  tunnels := by simpa using tracked.tunnels
  closers := by simpa [Closing, Busy] using tracked.closers
  incoming := by simpa using tracked.incoming
  works := by
    intro task call found plain
    obtain ⟨name, held, through⟩ := tracked.works task call found plain
    exact ⟨name, Finset.mem_insert_of_mem held, through⟩
  unstarted := tracked.unstarted

/-- No call borrows a session that is dropped. -/
theorem Tracked.drop (tracked : app.Tracked) {name : Nat}
    (free : ¬ app.Borrowed (.session name)) :
    { app with
      sessions := app.sessions.erase name
      refs := app.refs.erase (.session name) }.Tracked where
  sessions := by simp [tracked.sessions]
  infos := by simpa using tracked.infos
  tunnels := by simpa using tracked.tunnels
  closers := by simpa [Closing, Busy] using tracked.closers
  incoming := by simpa using tracked.incoming
  works := by
    intro task call found plain
    obtain ⟨other, held, through⟩ := tracked.works task call found plain
    refine ⟨other, Finset.mem_erase.2 ⟨?_, held⟩, through⟩
    rintro rfl
    exact free ⟨task, .inl (Option.ne_none_iff_exists'.2 ⟨call, found⟩), through⟩
  unstarted := tracked.unstarted

theorem Tracked.makeInfo (tracked : app.Tracked) {tx : Tx} (name : Nat)
    (used : app.agent.inUse tx) :
    { app with
      infos := Function.update app.infos name ((app.agent.handles tx).map TunnelHandle.info)
      refs := insert (Holder.info name) app.refs }.Tracked where
  sessions := by simpa using tracked.sessions
  infos := by
    intro other
    obtain ⟨handle, found, -⟩ := Option.map_eq_some_iff.1 used
    by_cases same : other = name
    · subst same
      simp [found]
    · simp [same, tracked.infos]
  tunnels := by simpa using tracked.tunnels
  closers := by simpa [Closing, Busy] using tracked.closers
  incoming := by simpa using tracked.incoming
  works := tracked.works
  unstarted := tracked.unstarted

theorem Tracked.dropInfo (tracked : app.Tracked) {name : Nat} {task : Task} (id : String)
    (idle : ¬ app.Busy task) :
    { app with
      infos := Function.update app.infos name none
      unstarted := Function.update app.unstarted task (some id)
      through := Function.update app.through task (some (.closer task))
      refs := insert (Holder.closer task) (app.refs.erase (.info name)) }.Tracked where
  sessions := by simpa using tracked.sessions
  infos := by
    intro other
    by_cases same : other = name
    · subst same
      simp
    · simp [same, tracked.infos]
  tunnels := by simpa using tracked.tunnels
  closers := by
    intro other
    by_cases same : other = task
    · subst same
      simp [Closing, Busy]
    · simp [Closing, Busy, same, tracked.closers]
  incoming := by simpa using tracked.incoming
  works := by
    intro other call found plain
    have same : other ≠ task := by
      rintro rfl
      exact idle (.inl (Option.ne_none_iff_exists'.2 ⟨call, found⟩))
    simp only [Function.update_of_ne same]
    exact tracked.works other call found plain
  unstarted := by
    intro other waits
    by_cases same : other = task
    · subst same
      have free := calls_of_idle idle
      exact ⟨free, Function.update_self ..⟩
    · simp only [Function.update_of_ne same] at waits ⊢
      exact tracked.unstarted other waits

theorem Tracked.step (tracked : app.Tracked) (registered : app.agent.Registered) {label : Label}
    (allowed : app.Allows label) : (app.step json label).Tracked := by
  cases label with
  | agent via label =>
      cases label with
      | startTunnel task cfg | closeTunnel task id | closeSession task =>
          obtain ⟨⟨name, held, rfl⟩, idle⟩ := allowed
          exact tracked.call _ _ idle rfl (by simp) fun _ => ⟨name, held, rfl⟩
      | closeHandle task tx =>
          obtain ⟨rfl, used, idle⟩ := allowed
          obtain ⟨handle, found, kept⟩ := Option.map_eq_some_iff.1 used
          have begins : app.agent.closeHandle task tx = app.agent.begin task
              (.closeLock app.agent.current handle.info.id (.tunnel tx)) := by
            simp only [closeHandle, found, kept, Bool.false_eq_true, if_false]
          have called := tracked.call (.closeLock app.agent.current handle.info.id (.tunnel tx))
            (.tunnel tx) idle rfl (by simp) (by rintro ⟨⟩)
          rw [← begins] at called
          exact called
      | dropTunnel tx spawned =>
          have dropped := tracked.dropTunnel registered allowed.1 allowed.2.2
          rw [← dropTunnel_of_inUse allowed.1 (calls_of_idle allowed.2.2)] at dropped
          exact dropped
      | _ => exact tracked.steady (refStep_of_steady rfl)
  | clone name copy => exact tracked.clone copy
  | drop name => exact tracked.drop allowed.2
  | makeInfo tx name => exact tracked.makeInfo name allowed.1
  | closeInfo name task =>
      obtain ⟨info, found⟩ := Option.ne_none_iff_exists'.1 allowed.1
      simp only [App.step, found]
      exact tracked.call _ _ allowed.2 rfl (by simp) (by rintro ⟨⟩)
  | dropInfo name task =>
      obtain ⟨info, found⟩ := Option.ne_none_iff_exists'.1 allowed.1
      simp only [App.step, found]
      exact tracked.dropInfo info.id allowed.2.2
  | startClose task =>
      obtain ⟨id, found⟩ := Option.ne_none_iff_exists'.1 allowed
      obtain ⟨free, through⟩ := tracked.unstarted task allowed
      have closing : app.Closing task := ⟨through, .inr allowed⟩
      simp only [App.step, found, Session.step, Session.begin, if_pos free]
      have begun := tracked.begun (.closeLock app.agent.current id .session) (.closer task) free
        rfl (iff_of_true rfl closing) (by rintro ⟨⟩)
      rw [← through, Function.update_eq_self] at begun
      exact begun
  | dropped =>
      have none_ : app.refs = ∅ := allowed
      have same : app.refs.erase .incoming = app.refs := by rw [none_, Finset.erase_empty]
      simp only [App.step, same]
      exact ⟨tracked.sessions, tracked.infos, tracked.tunnels, tracked.closers, tracked.incoming,
        tracked.works, tracked.unstarted⟩

theorem tracked_of_reaches {builder : SessionBuilder}
    (reaches : Reaches (App.step json) Allows (connected builder) app) : app.Tracked := by
  have both : Reaches (Session.step json) anyLabel (.connected builder) app.agent ∧ app.Tracked :=
    Reaches.invariant
      (fun app => Reaches (Session.step json) anyLabel (.connected builder) app.agent ∧ app.Tracked)
      (fun _ label allowed before => ⟨agent_reaches_step before.1 label,
        before.2.step (registered_of_reaches before.1) allowed⟩) reaches
      ⟨.refl, tracked_connected builder⟩
  exact both.2

/-- The application, its tunnels and its tasks hold all references but one. -/
theorem Tracked.refs_eq_empty_iff (tracked : app.Tracked) :
    app.refs = ∅ ↔ app.Unheld ∧ ¬ app.agent.Attached := by
  constructor
  · intro none_
    have gone : ∀ holder, holder ∉ app.refs := by simp [none_]
    refine ⟨⟨?_, fun tx used => ?_, fun name => ?_, fun task closing => ?_⟩, fun attached => ?_⟩
    · exact Finset.eq_empty_of_forall_notMem fun name held =>
        gone _ ((tracked.sessions name).2 held)
    · exact gone _ ((tracked.tunnels tx).2 (.inl used))
    · exact not_not.1 fun known => gone _ ((tracked.infos name).2 known)
    · exact gone _ ((tracked.closers task).2 closing)
    · exact gone _ (tracked.incoming.2 attached)
  · rintro ⟨unheld, detached⟩
    refine Finset.eq_empty_of_forall_notMem fun holder alive => ?_
    cases holder with
    | session name => simpa [unheld.sessions] using (tracked.sessions name).1 alive
    | info name => exact (tracked.infos name).1 alive (unheld.infos name)
    | closer task => exact unheld.closed task ((tracked.closers task).1 alive)
    | incoming => exact detached (tracked.incoming.1 alive)
    | tunnel tx =>
        obtain used | ⟨task, built⟩ := (tracked.tunnels tx).1 alive
        · exact unheld.tunnels tx used
        · -- the call that builds the tunnel borrows a session
          obtain ⟨call, found, builds⟩ := Option.bind_eq_some_iff.1 built
          have plain : call.closes = false := by
            cases call with
            | startInsert => rfl
            | _ => cases builds
          obtain ⟨name, held, -⟩ := tracked.works task call found plain
          simp [unheld.sessions] at held

theorem Tracked.refs_steady (tracked : app.Tracked) {next : Session} {refs : Finset Holder}
    (step : RefStep app.agent app.refs next refs) (none_ : app.refs = ∅) : refs = ∅ := by
  cases step with
  | kept | moved | inserted | ended => exact none_
  | detached | closed => rw [none_, Finset.erase_empty]
  | bound frame found calls =>
      have unheld := (tracked.refs_eq_empty_iff.1 none_).1
      obtain ⟨name, held, -⟩ := tracked.works _ _ found rfl
      simp [unheld.sessions] at held

theorem Tracked.refsAfter_eq_empty (tracked : app.Tracked) {label : Agent.Label}
    (steady : label.begins = none) (none_ : app.refs = ∅) :
    app.agent.refsAfter json app.refs label = ∅ :=
  tracked.refs_steady (refStep_of_steady steady) none_

/-- Without a reference nobody can make one. -/
theorem Tracked.refs_step (tracked : app.Tracked) {label : Label} (allowed : app.Allows label)
    (none_ : app.refs = ∅) : (app.step json label).refs = ∅ := by
  have unheld := (tracked.refs_eq_empty_iff.1 none_).1
  cases label with
  | agent via label =>
      by_cases steady : label.begins = none
      · exact tracked.refsAfter_eq_empty steady none_
      · cases label with
        | startTunnel | closeTunnel | closeHandle | closeSession => exact none_
        | dropTunnel tx spawned => exact absurd allowed.1 (unheld.tunnels tx)
        | _ => exact absurd rfl steady
  | clone name copy => simp [unheld.sessions, Allows] at allowed
  | drop name => simp [App.step, none_]
  | makeInfo tx name => exact absurd allowed.1 (unheld.tunnels tx)
  | closeInfo name task => exact absurd (unheld.infos name) allowed.1
  | dropInfo name task => exact absurd (unheld.infos name) allowed.1
  | startClose task =>
      exact absurd ⟨(tracked.unstarted task allowed).2, .inr allowed⟩ (unheld.closed task)
  | dropped => simp [App.step, none_]

/-- Once `dropped.wait()` resolves it does so for good, and the accept task is gone. -/
theorem endsSession_iff_refs {builder : SessionBuilder}
    (reaches : Reaches (App.step json) Allows (connected builder) app) :
    app.EndsSession json ↔ app.refs = ∅ := by
  refine and_iff_left_of_imp fun none_ later reached => ?_
  have still : Reaches (App.step json) Allows (connected builder) later ∧ later.refs = ∅ := by
    induction reached with
    | refl => exact ⟨reaches, none_⟩
    | tail _ edge ih =>
        refine ⟨ih.1.tail edge, ?_⟩
        obtain ⟨label, allowed, rfl⟩ := edge
        exact (tracked_of_reaches ih.1).refs_step allowed ih.2
  refine ⟨still.2, ?_⟩
  rintro ⟨⟨⟩, -⟩

/-- Once nothing of the session is held any more, it ends exactly when it has reconnected
before: the `IncomingStreams` of `connect` keep it, and those of a reconnect do not. When
the accept task is at its end already there is nothing left to wait for. -/
theorem endsSession_iff {builder : SessionBuilder}
    (reaches : Reaches (App.step json) Allows (connected builder) app) (unheld : app.Unheld) :
    app.EndsSession json ↔ .reconnected ∈ app.agent.log ∨ app.agent.accept.Over := by
  have tracked := tracked_of_reaches reaches
  have incoming : app.agent.incomingSession = true ↔ .reconnected ∉ app.agent.log :=
    incomingSession_iff (agent_reaches reaches)
  rw [endsSession_iff_refs reaches, tracked.refs_eq_empty_iff, and_iff_right unheld,
    Attached, incoming, not_and_or, not_not, not_not]

/-- The transport fails, the session reconnects, and the application drops it. -/
theorem endsSession_iff_reconnected :
    let app := run (App.step noJson) (connected someBuilder)
      ((Agent.Label.reconnect ++ List.replicate 3 (Agent.Label.acceptResume [])).map
        (.agent .incoming) ++
        [.drop 0])
    app.EndsSession noJson := by
  intro app
  have reaches : Reaches (App.step noJson) Allows (connected someBuilder) app := by
    refine reaches_run ⟨rfl, rfl, rfl, rfl, rfl, rfl, rfl, ⟨?_, ?_⟩, trivial⟩
    · exact Finset.mem_singleton_self 0
    · rintro ⟨task, -, ⟨⟩⟩
  have unheld : app.Unheld := by
    refine ⟨rfl, fun tx => ?_, fun _ => rfl, fun task => ?_⟩
    · rintro ⟨⟩
    · rintro ⟨⟨⟩, -⟩
  have reconnected : .reconnected ∈ app.agent.log := by decide +kernel
  exact (endsSession_iff reaches unheld).2 (.inl reconnected)

/-- The application drops the session that it has just connected. -/
theorem not_endsSession_dropped :
    ¬ ∀ app, Reaches (App.step noJson) Allows (connected someBuilder) app → app.Unheld →
      app.EndsSession noJson := by
  intro ends
  have allowed : (connected someBuilder).Allows (.drop 0) := by
    refine ⟨Finset.mem_singleton_self 0, ?_⟩
    rintro ⟨task, -, ⟨⟩⟩
  have unheld : ((connected someBuilder).step noJson (.drop 0)).Unheld := by
    refine ⟨rfl, fun tx => ?_, fun _ => rfl, fun task => ?_⟩
    · rintro ⟨⟩
    · rintro ⟨⟨⟩, -⟩
  have held : .incoming ∈ ((connected someBuilder).step noJson (.drop 0)).refs := by decide
  have none_ := (ends _ (.single ⟨_, allowed, rfl⟩) unheld).1
  rw [none_] at held
  exact Finset.notMem_empty _ held

end App

end Agent

end NgrokRust
