import NgrokRust.AgentTransitions

/-!
# Closing the session

`Session::close` sends its GOAWAY first and stores the flag afterwards, in the
`SessionInner` that it loaded before both.  The accept loop looks at the flag once, when
`try_reconnect` begins.
-/

namespace NgrokRust

namespace Agent

open LabelledRuns

/-- `try_reconnect` has looked at the flag and has not returned. -/
def AcceptLoop.PastCheck : AcceptLoop → Prop
  | .connecting _ => True
  | .authenticating _ => True
  | .locking _ _ => True
  | .binding _ _ _ => True
  | .awaiting _ _ _ _ => True
  | .swapping _ _ => True
  | _ => False

namespace Session

variable {Value : Type*} {json : Json Value} {session next : Session} {label : Label}

/-- The flag of the current `SessionInner`. -/
def isClosed (session : Session) : Bool := (session.inners session.current).closed

/-- Once `close` has returned the current flag is set, and no reconnect has succeeded
since. -/
def StaysClosed (session : Session) : Prop :=
  (∀ res, .sessionClosed res ∈ session.log → session.isClosed = true) ∧
    ∀ newer res older, session.log = newer ++ .sessionClosed res :: older →
      Event.reconnected ∉ newer

/-- `close` stores the flag where it counts: in the current `SessionInner`, while no
`try_reconnect` is past its look at the flag. -/
def closesInTime (session : Session) : Label → Prop
  | .resume task => ∀ inner res, session.calls task = some (.sessionStore inner res) →
      inner = session.current ∧ ¬ session.accept.PastCheck
  | _ => True

/-- `StaysClosed`, with the reason for it. -/
structure Shut (session : Session) : Prop where
  flag : ∀ res, .sessionClosed res ∈ session.log →
    session.isClosed = true ∧ ¬ session.accept.PastCheck
  last : ∀ newer res older, session.log = newer ++ .sessionClosed res :: older →
    Event.reconnected ∉ newer

theorem isClosed_of_setInner {inner : Nat} {change : SessionInner → SessionInner}
    (current : next.current = session.current)
    (inners : next.inners = (session.setInner inner change).inners)
    (same : ∀ value, (change value).closed = value.closed) :
    next.isClosed = session.isClosed := by
  rw [isClosed, isClosed, current]
  exact setInner_field inners SessionInner.closed same session.current

@[simp]
theorem startBound_isClosed (task : Task) (inner : Nat) (tunnel : TunnelInnerInfo × BoundTunnel) :
    (session.startBound task inner tunnel).isClosed = session.isClosed :=
  isClosed_of_setInner rfl (startBound_inners ..) fun _ => rfl

@[simp]
theorem insertTunnel_isClosed (task : Task) (inner : Nat) (info : TunnelInnerInfo)
    (bound : BoundTunnel) :
    (session.insertTunnel task inner info bound).isClosed = session.isClosed :=
  isClosed_of_setInner rfl (insertTunnel_inners ..) fun _ => rfl

@[simp]
theorem removeTunnel_isClosed (task : Task) (inner : Nat) (id : String) (via : Via) :
    (session.removeTunnel task inner id via).isClosed = session.isClosed :=
  isClosed_of_setInner (removeTunnel_current ..) (removeTunnel_inners ..) fun _ => rfl

@[simp]
theorem stopTunnel_isClosed (inner : Nat) (req : StopTunnel) (tun : BoundTunnel) :
    (session.stopTunnel inner req tun).isClosed = session.isClosed :=
  isClosed_of_setInner rfl (stopTunnel_inners ..) fun _ => rfl

@[simp]
theorem pruneTunnel_isClosed (inner : Nat) (id : String) :
    (session.pruneTunnel inner id).isClosed = session.isClosed :=
  isClosed_of_setInner (pruneTunnel_current ..) (pruneTunnel_inners ..) fun _ => rfl

@[simp]
theorem startDrain_isClosed (error : AcceptError) (order : List (Σ _ : String, BoundTunnel)) :
    (session.startDrain error order).isClosed = session.isClosed :=
  isClosed_of_setInner rfl (startDrain_inners ..) fun _ => rfl

theorem reconnectFailed_notPastCheck (error : ConnectError) :
    ¬ (session.reconnectFailed error).accept.PastCheck := by
  unfold reconnectFailed
  dsimp only [record, setAccept]
  split <;> exact fun past => past

theorem last_record {events log : List Event}
    (last : ∀ newer res older, log = newer ++ .sessionClosed res :: older →
      Event.reconnected ∉ newer)
    (quiet : Event.reconnected ∉ events) :
    ∀ newer res older, events ++ log = newer ++ .sessionClosed res :: older →
      Event.reconnected ∉ newer := by
  intro newer res older split
  obtain ⟨between, rfl, rest⟩ | ⟨between, rfl, rest⟩ := List.append_eq_append_iff.1 split
  · intro mem
    obtain early | late := List.mem_append.1 mem
    · exact quiet early
    · exact last between res older rest late
  · exact fun mem => quiet (List.mem_append_left _ mem)

/-- A step that neither clears the flag nor goes past the check. -/
theorem Shut.of_quiet (shut : session.Shut) (events : List Event)
    (log : next.log = events ++ session.log) (quiet : Event.reconnected ∉ events)
    (open_ : ∀ res, .sessionClosed res ∉ events)
    (flag : next.isClosed = session.isClosed)
    (accept : next.accept.PastCheck → session.accept.PastCheck) : next.Shut where
  flag := by
    intro res mem
    rw [log] at mem
    obtain new | old := List.mem_append.1 mem
    · exact absurd new (open_ res)
    · rw [flag]
      exact ⟨(shut.flag res old).1, fun past => (shut.flag res old).2 (accept past)⟩
  last := by
    rw [log]
    exact last_record shut.last quiet

theorem Shut.step (shut : session.Shut) (admitted : session.closesInTime label)
    (transition : Transition json session label next) : next.Shut := by
  cases transition with
  | idle | startTunnel | closeTunnel | closeHandle | closeSession | closeSpawned | dropTunnel
  | startFailed | closeAnswered | goAwayAnswered | receive =>
      exact shut.of_quiet [] rfl (by simp) (by simp) rfl id
  | startRequest | closeRequest | goAwayRequest =>
      exact shut.of_quiet [_] rfl (by simp) (by simp) rfl id
  | insertTunnel | startBound =>
      exact shut.of_quiet [] rfl (by simp) (by simp) (by simp) id
  | removeTunnel =>
      rename_i task inner id via call unlocked
      refine shut.of_quiet via.ran (by simp) ?_ ?_ (by simp) (by simp)
      · cases via <;> simp [Via.ran]
      · cases via <;> simp [Via.ran]
  | closeFailed =>
      rename_i task error inner id via call
      refine shut.of_quiet via.ran rfl ?_ ?_ rfl fun past => past
      · cases via <;> simp [Via.ran]
      · cases via <;> simp [Via.ran]
  | storeClosed call =>
      obtain ⟨rfl, early⟩ := admitted _ _ call
      refine ⟨fun res _ => ⟨?_, early⟩, last_record shut.last (by simp)⟩
      simp [isClosed, storeClosed, setInner, setCall, record]
  | acceptEnded | transportFailed =>
      exact shut.of_quiet [_] rfl (by simp) (by simp) rfl False.elim
  | stopRequested | connArrived | stalled | panicked | deliver | sendFailed | nothingToDo
  | drainLost | drained =>
      exact shut.of_quiet [] rfl (by simp) (by simp) rfl False.elim
  | stopTunnel => exact shut.of_quiet [] rfl (by simp) (by simp) (by simp) False.elim
  | stopSent | sent | drainSent => exact shut.of_quiet [] rfl (by simp) (by simp) rfl False.elim
  | prune accept =>
      refine shut.of_quiet [] (pruneTunnel_log ..) (by simp) (by simp) (by simp) ?_
      rw [pruneTunnel_accept]
      exact False.elim
  | canceled | reconnectFailed =>
      refine shut.of_quiet [_] rfl (by simp) (by simp) rfl fun past => ?_
      exact absurd past (reconnectFailed_notPastCheck _)
  | startDrain => exact shut.of_quiet [] rfl (by simp) (by simp) (by simp) False.elim
  | authenticate accept =>
      exact shut.of_quiet [_] rfl (by simp) (by simp) rfl fun _ => by rw [accept]; trivial
  | sendRebind accept =>
      exact shut.of_quiet [_] rfl (by simp) (by simp) rfl fun _ => by rw [accept]; trivial
  | authenticated accept | rebindAnswered accept | unlock accept | lock accept =>
      exact shut.of_quiet [] rfl (by simp) (by simp) rfl fun _ => by rw [accept]; trivial
  | connect accept isOpen =>
      refine ⟨?_, last_record shut.last (by simp)⟩
      intro res mem
      obtain new | old := List.mem_append.1 mem
      · simp at new
      · have closed := (shut.flag res old).1
        rw [isClosed, isOpen] at closed
        cases closed
  | swap accept =>
      have never : ∀ res, .sessionClosed res ∉ session.log := by
        intro res mem
        have early := (shut.flag res mem).2
        rw [accept] at early
        exact early trivial
      refine ⟨?_, ?_⟩
      · intro res mem
        obtain new | old := List.mem_cons.1 mem
        · cases new
        · exact absurd old (never res)
      · intro newer res older split
        have mem : .sessionClosed res ∈ Event.reconnected :: session.log := by
          change Event.reconnected :: session.log = _ at split
          simp [split]
        obtain new | old := List.mem_cons.1 mem
        · cases new
        · exact absurd old (never res)

/-- When every `close` stores its flag in time, a closed session stays closed. -/
theorem staysClosed (json : Json Value) (builder : SessionBuilder)
    (reaches : Reaches (Session.step json) closesInTime (connected builder) session) :
    session.StaysClosed := by
  have shut : session.Shut :=
    Reaches.invariant Shut (fun _ _ admitted shut => shut.step admitted (transition_step ..))
      reaches ⟨by simp [connected], by simp [connected]⟩
  exact ⟨fun res mem => (shut.flag res mem).1, shut.last⟩

/-- The session is closed, and the reconnect gives up. -/
theorem staysClosed_calm :
    let session := run (Session.step noJson) (connected someBuilder)
      [.closeSession 0, .resume 0, .goAwayAnswer 0 (.ok ()), .resume 0, .incoming none,
        .acceptResume []]
    session.isClosed = true ∧ session.StaysClosed := by
  intro session
  refine ⟨by decide +kernel, staysClosed noJson someBuilder (reaches_run ?_)⟩
  refine ⟨trivial, ?_, trivial, ?_, trivial, trivial, trivial⟩
  · rintro inner res call
    cases call
  · rintro inner res call
    cases call
    exact ⟨rfl, id⟩

/-- The remote answers the GOAWAY by ending the session before the flag is stored: the
accept loop finds the flag unset and reconnects. -/
theorem reconnects_afterGoAway :
    let session := run (Session.step noJson) (connected someBuilder)
      [.closeSession 0, .resume 0, .goAwayAnswer 0 (.ok ()), .incoming none, .acceptResume [],
        .resume 0, .connectorAnswer (.ok ()), .authAnswer (.ok ⟨"id", "cookie"⟩),
        .acceptResume [], .acceptResume [], .acceptResume []]
    session.isClosed = false ∧ session.current = 1 ∧
      session.log.take 3 = [.reconnected, .sent 1 (.auth "" "") none, .sessionClosed (.ok ())] ∧
      ¬ session.StaysClosed := by
  intro session
  have log : session.log.take 3 =
      [.reconnected, .sent 1 (.auth "" "") none, .sessionClosed (.ok ())] := by decide +kernel
  refine ⟨by decide +kernel, by decide +kernel, log, ?_⟩
  intro staysClosed
  have mem : Event.sessionClosed (.ok ()) ∈ session.log := by
    apply List.mem_of_mem_take (i := 3)
    simp [log]
  have closed := staysClosed.1 _ mem
  exact absurd closed (by decide +kernel)

end Session

end Agent

end NgrokRust
