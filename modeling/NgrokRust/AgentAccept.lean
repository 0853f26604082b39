import NgrokRust.AgentTransitions

/-!
# Errors of the accept loop

`accept_one` takes the error of a muxado session for the end of the session and passes
on everything else with a warning.  A stream that comes to its end before its type is there
has an error of the first kind.  A stream that is reset mostly has no error at all: the
accept loop waits for the rest of its type.
-/

namespace NgrokRust

namespace Agent

open LabelledRuns

namespace Session

variable {Value : Type*} {json : Json Value} {session next : Session} {label : Label}

def Stuck (session : Session) : Prop :=
  session.accept = .reading ∨ session.accept = .panicked

theorem accept_of_stuck (transition : Transition json session label next)
    (stuck : session.Stuck) : next.accept = session.accept := by
  unfold Stuck at stuck
  cases transition with
  | removeTunnel => exact removeTunnel_accept ..
  | idle | startTunnel | closeTunnel | closeHandle | closeSession | dropTunnel | insertTunnel
  | closeSpawned | startBound | startFailed | closeAnswered | goAwayAnswered | receive
  | startRequest | closeRequest | goAwayRequest | storeClosed | closeFailed => rfl
  | acceptEnded | transportFailed | stopRequested | connArrived | stalled | panicked
  | stopTunnel | stopSent | deliver | sent | sendFailed | prune | nothingToDo | canceled
  | connect | authenticate | authenticated | lock | sendRebind | rebindAnswered | unlock | swap
  | reconnectFailed | startDrain | drainSent | drainLost | drained =>
      obtain reading | panic := stuck
      · simp_all
      · simp_all

theorem accept_run_of_stuck (labels : List Label) (stuck : session.Stuck) :
    (run (Session.step json) session labels).accept = session.accept := by
  induction labels generalizing session with
  | nil => rfl
  | cons label labels ih =>
      have same := accept_of_stuck (transition_step json session label) stuck
      have later : (session.step json label).Stuck := by
        rw [Stuck, same]
        exact stuck
      rw [run_cons, ih later, same]

theorem log_suffix (transition : Transition json session label next) :
    session.log <:+ next.log := by
  cases transition with
  | removeTunnel => rw [removeTunnel_log]; exact List.suffix_append _ _
  | prune => exact ⟨[], (pruneTunnel_log ..).symm⟩
  | idle | startTunnel | closeTunnel | closeHandle | closeSession | dropTunnel | insertTunnel
  | closeSpawned | startBound | startFailed | closeAnswered | goAwayAnswered | receive
  | stopRequested | connArrived | stalled | panicked | stopTunnel | stopSent | deliver | sent
  | sendFailed | nothingToDo | authenticated | lock | rebindAnswered | unlock | startDrain
  | drainSent | drainLost | drained => exact List.suffix_rfl
  | startRequest | closeRequest | goAwayRequest | storeClosed | closeFailed | acceptEnded
  | transportFailed | canceled | connect | authenticate | sendRebind | swap | reconnectFailed =>
      exact List.suffix_append _ _

/-- Where an error of `accept_one` comes from. -/
theorem acceptFailed_cases (transition : Transition json session label next)
    {error : AcceptError} (failed : .acceptFailed error ∈ next.log) :
    .acceptFailed error ∈ session.log ∨ session.accept = .accepting ∧
      (label = .incoming none ∨
        ∃ stream, label = .incoming (some stream) ∧ EndsUntyped stream) := by
  cases transition with
  | acceptEnded accept => exact .inr ⟨accept, .inl rfl⟩
  | transportFailed accept pass =>
      exact .inr ⟨accept, .inr ⟨_, rfl, (acceptPass_transport_iff.1 pass).1⟩⟩
  | removeTunnel =>
      rename_i task inner id via call unlocked
      left
      rw [removeTunnel_log] at failed
      cases via <;> simpa [Via.ran] using failed
  | closeFailed =>
      rename_i task error inner id via call
      left
      change _ ∈ via.ran ++ session.log at failed
      cases via <;> simpa [Via.ran] using failed
  | prune => rw [pruneTunnel_log] at failed; exact .inl failed
  | idle | startTunnel | closeTunnel | closeHandle | closeSession | dropTunnel | insertTunnel
  | closeSpawned | startBound | startFailed | closeAnswered | goAwayAnswered | receive
  | stopRequested | connArrived | stalled | panicked | stopTunnel | stopSent | deliver | sent
  | sendFailed | nothingToDo | authenticated | lock | rebindAnswered | unlock | startDrain
  | drainSent | drainLost | drained => exact .inl failed
  | startRequest | closeRequest | goAwayRequest | storeClosed | canceled | connect | authenticate
  | sendRebind | swap | reconnectFailed =>
      obtain new | old := List.mem_cons.1 failed
      · cases new
      · exact .inl old

theorem acceptFailed_of_untyped {stream : RemoteStream} (accept : session.accept = .accepting)
    (untyped : EndsUntyped stream) :
    .acceptFailed (.transport .streamClosed) ∈
      (session.step json (.incoming (some stream))).log := by
  have pass : acceptPass json session.incomingSession stream.reads =
      some (.failed (.transport .streamClosed)) :=
    acceptPass_transport_iff.2 ⟨untyped, rfl⟩
  simp only [step, incoming, accept, pass]
  exact List.mem_cons_self

theorem acceptFailed_run (labels : List Label) (alive : .incoming none ∉ labels) :
    (∀ error, .acceptFailed error ∉ (run (Session.step json) session labels).log) ↔
      (∀ error, .acceptFailed error ∉ session.log) ∧
      ∀ before stream after, labels = before ++ .incoming (some stream) :: after →
        (run (Session.step json) session before).accept = .accepting → ¬ EndsUntyped stream := by
  induction labels generalizing session with
  | nil => simp
  | cons label labels ih =>
      rw [run_cons, ih (fun mem => alive (List.mem_cons_of_mem _ mem))]
      constructor
      · rintro ⟨quiet, typed⟩
        refine ⟨fun error failed => ?_, ?_⟩
        · exact quiet error ((log_suffix (transition_step json session label)).subset failed)
        · intro before stream after split accept untyped
          cases before with
          | nil =>
              obtain ⟨rfl, rfl⟩ := List.cons.inj split
              exact quiet _ (acceptFailed_of_untyped accept untyped)
          | cons first before =>
              obtain ⟨rfl, rest⟩ := List.cons.inj split
              exact typed before stream after rest accept untyped
      · rintro ⟨quiet, typed⟩
        refine ⟨fun error failed => ?_, ?_⟩
        · obtain old | ⟨accept, rfl | ⟨stream, rfl, untyped⟩⟩ :=
            acceptFailed_cases (transition_step json session label) failed
          · exact quiet error old
          · exact alive List.mem_cons_self
          · exact typed [] stream labels rfl accept untyped
        · intro before stream after split
          exact typed (label :: before) stream after (by rw [split]; rfl)

end Session

end Agent

end NgrokRust
