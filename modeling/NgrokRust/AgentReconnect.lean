import Mathlib.Data.List.Induction
import NgrokRust.AgentTransitions

/-!
# One attempt to reconnect

`try_reconnect` fills the map of a `SessionInner` that nobody else can see and stores it
at its very end.  The tunnels are bound in the order in which the old map is iterated.
-/

namespace NgrokRust

namespace Agent

open LabelledRuns

/-- The ids that the server has answered with. -/
def answeredIds (labels : List Label) : List String :=
  labels.filterMap fun label =>
    match label with
    | .rebindAnswer (.ok respId) => some respId
    | _ => none

theorem answeredIds_cons (label : Label) (labels : List Label) :
    answeredIds (label :: labels) = answeredIds [label] ++ answeredIds labels := by
  simp only [answeredIds, ← List.filterMap_append, List.singleton_append]

/-- How a tunnel is bound again: the request for it, and its key when the server has answered
with an id. -/
inductive Rebinds (id : String) (tun : BoundTunnel) : String → Request → String → Prop where
  | endpoint {opts : BindOpts} (respId : String) (named : tun.proto ≠ "")
      (options : tun.opts = some opts) :
      Rebinds id tun respId
        (.bind id tun.proto tun.forwardsTo tun.forwardsProto opts tun.extra) id
  | renamed {respId : String} (labeled : tun.proto = "") (given : respId ≠ "") :
      Rebinds id tun respId
        (.startTunnelWithLabel tun.labels tun.extra.metadata tun.forwardsTo tun.forwardsProto)
        respId
  | kept (labeled : tun.proto = "") :
      Rebinds id tun ""
        (.startTunnelWithLabel tun.labels tun.extra.metadata tun.forwardsTo tun.forwardsProto) id

theorem rebinds (id : String) (tun : BoundTunnel) (respId : String) :
    Rebinds id tun respId (tun.rebindRequest id) (tun.rebindKey id respId) := by
  by_cases named : tun.proto = ""
  · have request : tun.rebindRequest id = .startTunnelWithLabel tun.labels tun.extra.metadata
        tun.forwardsTo tun.forwardsProto := by
      rw [BoundTunnel.rebindRequest, dif_neg (not_not.2 named)]
    rw [request]
    by_cases given : respId = ""
    · subst given
      simp only [BoundTunnel.rebindKey, named, ne_eq, not_true_eq_false, if_false]
      exact .kept named
    · simp only [BoundTunnel.rebindKey, named, given, ne_eq, not_true_eq_false, not_false_eq_true,
        if_false, if_true]
      exact .renamed named given
  · rw [BoundTunnel.rebindRequest, dif_pos named, BoundTunnel.rebindKey, if_pos named]
    exact .endpoint respId named (Option.some_get _).symm

abbrev Answered := List ((Σ _ : String, BoundTunnel) × String)

def answeredKey (answer : (Σ _ : String, BoundTunnel) × String) : String :=
  answer.1.2.rebindKey answer.1.1 answer.2

def rebindAll (fresh : SessionInner) (answered : Answered) : SessionInner :=
  answered.foldl (fun value answer => rebound value answer.1 answer.2) fresh

def rebindEvent (old : Nat) (entry : Σ _ : String, BoundTunnel) : Event :=
  .sent (old + 1) (entry.2.rebindRequest entry.1) (some entry.2.tx)

@[simp]
theorem rebindAll_concat (fresh : SessionInner) (answered : Answered)
    (answer : (Σ _ : String, BoundTunnel) × String) :
    rebindAll fresh (answered ++ [answer]) =
      rebound (rebindAll fresh answered) answer.1 answer.2 := by
  simp [rebindAll]

theorem mem_rebindAll_keys {fresh : SessionInner} {answered : Answered} {key : String}
    (empty : fresh.tunnels = ∅) (mem : key ∈ (rebindAll fresh answered).tunnels) :
    key ∈ answered.map answeredKey := by
  induction answered using List.reverseRecOn with
  | nil => simp [rebindAll, empty] at mem
  | append_singleton answered answer ih =>
      rw [rebindAll_concat] at mem
      simp only [rebound, AList.mem_insert] at mem
      rw [List.map_append, List.mem_append]
      obtain same | earlier := mem
      · exact .inr (by simp [same, answeredKey])
      · exact .inl (ih earlier)

/-- With distinct keys no tunnel overwrites another one. -/
theorem rebindAll_entries {fresh : SessionInner} {answered : Answered}
    (empty : fresh.tunnels = ∅) (distinct : (answered.map answeredKey).Nodup) :
    (rebindAll fresh answered).tunnels.entries.Perm
      (answered.map fun answer => ⟨answeredKey answer, answer.1.2⟩) := by
  induction answered using List.reverseRecOn with
  | nil => simp [rebindAll, empty]
  | append_singleton answered answer ih =>
      rw [List.map_append, List.nodup_append] at distinct
      obtain ⟨earlier, -, apart⟩ := distinct
      have unused : answeredKey answer ∉ (rebindAll fresh answered).tunnels := by
        intro mem
        exact apart _ (mem_rebindAll_keys empty mem) _ (by simp) rfl
      rw [rebindAll_concat, List.map_append]
      have inserted : (rebound (rebindAll fresh answered) answer.1 answer.2).tunnels.entries =
          ⟨answeredKey answer, answer.1.2⟩ :: (rebindAll fresh answered).tunnels.entries :=
        AList.entries_insert_of_notMem unused
      rw [inserted]
      exact (List.Perm.cons _ (ih earlier)).trans (List.perm_append_singleton _ _).symm

namespace Session

variable {Value : Type*} {json : Json Value} {session next : Session} {label : Label}

/-- The steps of `try_reconnect` itself: those of the accept loop, up to the return. -/
def isOwnStep (session : Session) (label : Label) : Bool :=
  match session.accept, label with
  | .connecting _, .connectorAnswer _ => true
  | .authenticating _, .authAnswer _ => true
  | .locking _ _, .acceptResume _ => true
  | .binding _ _ _, .acceptResume _ => true
  | .awaiting _ _ _ _, .rebindAnswer _ => true
  | .swapping _ _, .acceptResume _ => true
  | _, _ => false

def ownSteps (session : Session) (label : Label) : Prop := session.isOwnStep label = true

instance (session : Session) (label : Label) : Decidable (session.ownSteps label) :=
  inferInstanceAs (Decidable (_ = true))

/-- A `SessionInner` of the new transport without tunnels. -/
structure FreshInner (before : Session) (fresh : SessionInner) : Prop where
  isOpen : fresh.closed = false
  empty : fresh.tunnels = ∅
  sameHost : fresh.builder.serverHost =
    (before.inners before.current).builder.serverHost
  samePort : fresh.builder.serverPort =
    (before.inners before.current).builder.serverPort

def connectEvent (before : Session) : Event :=
  .sent (before.current + 1)
    (.connect (before.inners before.current).builder.serverHost
      (before.inners before.current).builder.serverPort) none

def authEvent (before : Session) : Event :=
  .sent (before.current + 1)
    (.auth ((before.inners before.current).builder.id.getD "")
      ((before.inners before.current).builder.cookie.getD "")) none

def attemptLog (before : Session) (bound : List (Σ _ : String, BoundTunnel)) : List Event :=
  (bound.map (rebindEvent before.current)).reverse ++
    authEvent before :: connectEvent before :: before.log

/-- The state of an attempt that has not returned `Ok`: nothing is stored. While it binds
tunnels it has sent one request for each tunnel that it has taken from the old map, and has
paired each with its own answer. -/
structure Attempting (before : Session) (ids : List String) (session : Session) : Prop where
  inners : session.inners = before.inners
  current : session.current = before.current
  place : match session.accept with
    | .connecting old => old = before.current ∧ ids = [] ∧
        session.log = connectEvent before :: before.log
    | .authenticating old => old = before.current ∧ ids = [] ∧
        session.log = attemptLog before []
    | .locking old newInner => old = before.current ∧ ids = [] ∧ FreshInner before newInner ∧
        session.log = attemptLog before []
    | .binding old newInner rest => old = before.current ∧
        ∃ fresh answered, FreshInner before fresh ∧ newInner = rebindAll fresh answered ∧
          answered.map Prod.snd = ids ∧
          (answered.map Prod.fst ++ rest).Perm (before.inners old).tunnels.entries ∧
          session.log = attemptLog before (answered.map Prod.fst)
    | .awaiting old newInner entry rest => old = before.current ∧
        ∃ fresh answered, FreshInner before fresh ∧ newInner = rebindAll fresh answered ∧
          answered.map Prod.snd = ids ∧
          (answered.map Prod.fst ++ entry :: rest).Perm (before.inners old).tunnels.entries ∧
          session.log = attemptLog before (answered.map Prod.fst ++ [entry])
    | .swapping old newInner => old = before.current ∧
        ∃ fresh answered, FreshInner before fresh ∧ newInner = rebindAll fresh answered ∧
          answered.map Prod.snd = ids ∧
          (answered.map Prod.fst).Perm (before.inners old).tunnels.entries ∧
          session.log = attemptLog before (answered.map Prod.fst)
    | .accepting => False
    | _ => True

/-- The attempt has returned `Ok`. -/
structure Reconnected (before : Session) (ids : List String) (session : Session) : Prop where
  accept : session.accept = .accepting
  replaced : ∃ fresh answered, FreshInner before fresh ∧ answered.map Prod.snd = ids ∧
    (answered.map Prod.fst).Perm (before.inners before.current).tunnels.entries ∧
    session.current = before.current + 1 ∧
    session.inners = Function.update before.inners (before.current + 1)
      (rebindAll fresh answered) ∧
    session.log = .reconnected :: attemptLog before (answered.map Prod.fst)

theorem attempting_start {error : AcceptError} (retrying : session.accept = .retrying error)
    (order : List (Σ _ : String, BoundTunnel)) :
    Attempting session [] (session.step json (.acceptResume order)) := by
  simp only [step, acceptResume, retrying, startReconnect]
  split
  · exact ⟨rfl, rfl, by simp [reconnectFailed, record, setAccept]⟩
  · exact ⟨rfl, rfl, by simp [record, setAccept, connectEvent]⟩

theorem attempting_reconnectFailed {before : Session} {ids later : List String}
    (attempting : Attempting before ids session) (error : ConnectError) :
    Attempting before later (session.reconnectFailed error) := by
  refine ⟨attempting.inners, attempting.current, ?_⟩
  unfold reconnectFailed
  dsimp only [record, setAccept]
  by_cases last : error = .canceled
  · simp [last]
  · simp [last]

/-- One step of the attempt. -/
theorem attempting_step {before : Session} {ids : List String}
    (attempting : Attempting before ids session) (own : session.ownSteps label) :
    Attempting before (ids ++ answeredIds [label]) (session.step json label) ∨
      Reconnected before (ids ++ answeredIds [label]) (session.step json label) := by
  have failed (error : ConnectError) :
      Attempting before (ids ++ answeredIds [label]) (session.reconnectFailed error) :=
    attempting_reconnectFailed attempting error
  obtain ⟨inners, current, place⟩ := attempting
  unfold ownSteps isOwnStep at own
  split at own
  · rename_i old answer accept
    rw [accept] at place
    obtain ⟨rfl, rfl, log⟩ := place
    left
    cases answer with
    | error error =>
        simp only [step, connectorAnswer, accept]
        exact failed error
    | ok =>
        simp only [step, connectorAnswer, accept]
        refine ⟨inners, current, rfl, rfl, ?_⟩
        simp [record, setAccept, attemptLog, authEvent, log, inners]
  · rename_i old answer accept
    rw [accept] at place
    obtain ⟨rfl, rfl, log⟩ := place
    left
    cases answer with
    | error error =>
        simp only [step, authAnswer, accept]
        exact failed (.auth error)
    | ok resp =>
        simp only [step, authAnswer, accept, inners]
        exact ⟨inners, current, rfl, rfl, ⟨rfl, rfl, rfl, rfl⟩, log⟩
  · rename_i old newInner order accept
    rw [show ids ++ answeredIds [.acceptResume order] = ids from List.append_nil ids]
    have same := place
    rw [accept] at place
    obtain ⟨rfl, rfl, fresh, log⟩ := place
    left
    simp only [step, acceptResume, accept]
    split
    · rename_i perm
      rw [inners] at perm
      exact ⟨inners, current, rfl, newInner, [], fresh, rfl, rfl, perm, log⟩
    · exact ⟨inners, current, same⟩
  · rename_i old newInner rest order accept
    rw [show ids ++ answeredIds [.acceptResume order] = ids from List.append_nil ids]
    rw [accept] at place
    obtain ⟨rfl, fresh, answered, isFresh, rfl, paired, perm, log⟩ := place
    left
    cases rest with
    | nil =>
        simp only [step, acceptResume, accept]
        rw [List.append_nil] at perm
        exact ⟨inners, current, rfl, fresh, answered, isFresh, rfl, paired, perm, log⟩
    | cons entry rest =>
        simp only [step, acceptResume, accept]
        refine ⟨inners, current, rfl, fresh, answered, isFresh, rfl, paired, perm, ?_⟩
        simp [sendRebind, record, setAccept, attemptLog, rebindEvent, log]
  · rename_i old newInner entry rest answer accept
    rw [accept] at place
    obtain ⟨rfl, fresh, answered, isFresh, rfl, paired, perm, log⟩ := place
    left
    cases answer with
    | error error =>
        simp only [step, rebindAnswer, accept]
        exact failed (.rebind error)
    | ok respId =>
        simp only [step, rebindAnswer, accept]
        refine ⟨inners, current, rfl, fresh, answered ++ [(entry, respId)], isFresh, ?_, ?_, ?_, ?_⟩
        · rw [rebindAll_concat]
        · rw [List.map_append, paired]
          rfl
        · simpa using perm
        · simpa [setAccept] using log
  · rename_i old newInner order accept
    rw [show ids ++ answeredIds [.acceptResume order] = ids from List.append_nil ids]
    rw [accept] at place
    obtain ⟨rfl, fresh, answered, isFresh, rfl, paired, perm, log⟩ := place
    right
    simp only [step, acceptResume, accept]
    refine ⟨rfl, fresh, answered, isFresh, paired, perm, rfl, ?_, ?_⟩
    · simp [swap, inners]
    · simp [swap, record, setAccept, log]
  · cases own

/-- The attempt after all of its steps. -/
theorem attempting_run {before : Session} {ids : List String} {labels : List Label}
    (attempting : Attempting before ids session)
    (own : Admitted (Session.step json) ownSteps session labels) :
    Attempting before (ids ++ answeredIds labels) (run (Session.step json) session labels) ∨
      Reconnected before (ids ++ answeredIds labels)
        (run (Session.step json) session labels) := by
  induction labels generalizing session ids with
  | nil =>
      left
      rw [show ids ++ answeredIds [] = ids from List.append_nil ids]
      exact attempting
  | cons label labels ih =>
      obtain ⟨first, rest⟩ := own
      rw [answeredIds_cons, ← List.append_assoc, run_cons]
      have step : Attempting before (ids ++ answeredIds [label]) (session.step json label) ∨
          Reconnected before (ids ++ answeredIds [label]) (session.step json label) :=
        attempting_step attempting first
      obtain attempting | reconnected := step
      · exact ih attempting rest
      · -- an attempt that has returned has no further steps
        cases labels with
        | nil =>
            right
            rw [show ids ++ answeredIds [label] ++ answeredIds [] = _ from List.append_nil _]
            exact reconnected
        | cons next labels =>
            have idle : ¬ (session.step json label).ownSteps next := by
              simp [ownSteps, isOwnStep, reconnected.accept]
            exact absurd rest.1 idle

/-- `try_reconnect` is all or nothing, for every map, every order of it, all answers and
every point of failure: as long as it has not returned `Ok` nothing is stored. When it has,
one request was sent for each tunnel of the old map, and with distinct keys each tunnel is in
the new map under the key that its own answer determines, as it was. -/
theorem tryReconnect_allOrNothing (json : Json Value) {error : AcceptError}
    (retrying : session.accept = .retrying error) (order : List (Σ _ : String, BoundTunnel))
    {labels : List Label}
    (attempt : Admitted (Session.step json) ownSteps (session.step json (.acceptResume order))
      labels) :
    let next := run (Session.step json) (session.step json (.acceptResume order)) labels
    (next.accept ≠ .accepting → next.inners = session.inners ∧ next.current = session.current) ∧
      (next.accept = .accepting → ∃ answered : Answered,
        answered.map Prod.snd = answeredIds labels ∧
        (answered.map Prod.fst).Perm (session.inners session.current).tunnels.entries ∧
        (∀ answer ∈ answered, Rebinds answer.1.1 answer.1.2 answer.2
          (answer.1.2.rebindRequest answer.1.1) (answeredKey answer)) ∧
        next.log = .reconnected :: attemptLog session (answered.map Prod.fst) ∧
        next.current = session.current + 1 ∧ next.inners session.current =
          session.inners session.current ∧
        ((answered.map answeredKey).Nodup →
          (next.inners next.current).tunnels.entries.Perm
            (answered.map fun answer => ⟨answeredKey answer, answer.1.2⟩))) := by
  intro next
  have state := attempting_run (attempting_start retrying order) attempt
  rw [List.nil_append] at state
  obtain attempting | reconnected := state
  · refine ⟨fun _ => ⟨attempting.inners, attempting.current⟩, fun accept => ?_⟩
    have place := attempting.place
    rw [accept] at place
    exact place.elim
  · obtain ⟨accept, fresh, answered, isFresh, paired, perm, current, inners, log⟩ := reconnected
    refine ⟨fun failed => absurd accept failed, fun _ => ⟨answered, paired, perm,
      fun answer _ => rebinds _ _ _, log, current, ?_, ?_⟩⟩
    · rw [inners, Function.update_of_ne (by omega)]
    · intro distinct
      rw [inners, current, Function.update_self]
      exact rebindAll_entries isFresh.empty distinct

/-- Two tunnels, where the one with labels is bound first and gets a new id. -/
theorem tryReconnect_twoTunnels :
    let session := run (Session.step noJson) (connected someBuilder)
      (Label.startHttp 0 "tn_1" ++ Label.startEdge 1 "tn_2" ++ [.incoming none])
    let order := (session.inners session.current).tunnels.entries
    let labels : List Label := [.connectorAnswer (.ok ()), .authAnswer (.ok ⟨"id", "cookie"⟩),
      .acceptResume order, .acceptResume [], .rebindAnswer (.ok "tn_3"), .acceptResume [],
      .rebindAnswer (.ok ""), .acceptResume [], .acceptResume []]
    let next := run (Session.step noJson) (session.step noJson (.acceptResume [])) labels
    (∃ answered : Answered, answered.map Prod.snd = ["tn_3", ""] ∧
      (answered.map Prod.fst).Perm order) ∧
    (next.inners next.current).tunnels.entries.map Sigma.fst = ["tn_1", "tn_3"] ∧
      next.current = session.current + 1 := by
  intro session order labels next
  have retrying : session.accept = .retrying (.transport .sessionClosed) := by rfl
  have accept : next.accept = .accepting := by rfl
  have attempt : Admitted (Session.step noJson) ownSteps
      (session.step noJson (.acceptResume [])) labels := by
    decide +kernel
  obtain ⟨answered, paired, perm, -, -, current, -⟩ :=
    (tryReconnect_allOrNothing noJson retrying [] attempt).2 accept
  exact ⟨⟨answered, paired, perm⟩, by decide +kernel, current⟩

end Session

end Agent

end NgrokRust
