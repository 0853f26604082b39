import NgrokRust.AgentRegistryRuns

/-!
# Dropped tunnels

The drop of a `TunnelInner` spawns one `close_tunnel`, whose result nobody looks at.  It
removes the entry of the tunnel only behind a successful `Unbind`, and `try_reconnect` binds
whatever entries there are.
-/

namespace NgrokRust

namespace Agent

open LabelledRuns

def Event.InOrder (newer older : Event) : Prop :=
  ∀ tx, older = .closeRan tx → ∀ transport request, newer ≠ .sent transport request (some tx)

/-- A `TunnelInner` is dropped, and its spawned task gets an answer to its `Unbind`. -/
def Label.dropping (tx : Tx) (spawned : Task) (answer : Except RpcError Unit) : List Label :=
  [.dropTunnel tx spawned, .resume spawned, .resume spawned, .unbindAnswer spawned answer]

namespace Session

variable {Value : Type*} {json : Json Value} {session next : Session} {label : Label}

/-- Once the close of a dropped tunnel has run, no request for the tunnel is sent. -/
def NeverRebound (session : Session) : Prop := session.log.Pairwise Event.InOrder

/-- The entry of a dropped tunnel is removed, at the latest by its spawned close: it is
where that looks for it, or it was not there any more when the `Unbind` failed. No
reconnect has copied it. -/
def dropsForGood (session : Session) : Label → Prop
  | .unbindAnswer task (.error _) => ∀ inner id tx,
      session.calls task = some (.closeRpc inner id (.dropped tx)) →
        (∀ key, (key, tx) ∉ session.routes) ∧ ∀ key, (key, tx) ∉ session.accept.copies
  | .resume task => ∀ inner id tx,
      session.calls task = some (.closeRemove inner id (.dropped tx)) →
        (∀ key, (key, tx) ∈ session.routes → inner = session.current ∧ key = id) ∧
          ∀ key, (key, tx) ∉ session.accept.copies
  | _ => True

/-- `NeverRebound`, with the reason for it. -/
structure Buried (session : Session) : Prop where
  registered : session.Registered
  gone : ∀ tx, .closeRan tx ∈ session.log → session.Gone tx
  order : session.NeverRebound

/-- A step that leaves the ends of closes alone, and sends only for tunnels without one. -/
theorem Buried.of_events (buried : session.Buried) (registered : next.Registered)
    (still : ∀ tx, session.Gone tx → next.Gone tx) (events : List Event)
    (log : next.log = events ++ session.log)
    (noClose : ∀ event ∈ events, ∀ tx, event ≠ .closeRan tx)
    (sends : ∀ event ∈ events, ∀ transport request tx,
      event = .sent transport request (some tx) → ¬ session.Gone tx) : next.Buried where
  registered := registered
  gone := by
    intro tx mem
    rw [log] at mem
    obtain new | old := List.mem_append.1 mem
    · exact absurd rfl (noClose _ new tx)
    · exact still tx (buried.gone tx old)
  order := by
    rw [NeverRebound, log, List.pairwise_append]
    refine ⟨?_, buried.order, ?_⟩
    · refine List.pairwise_of_forall_mem_list fun newer _ older mem tx same => ?_
      exact absurd same (noClose older mem tx)
    · rintro newer new older old tx rfl transport request rfl
      exact sends _ new transport request tx rfl (buried.gone tx old)

/-- A spawned close has run: its tunnel is gone. -/
theorem Buried.of_ran (buried : session.Buried) (registered : next.Registered)
    (still : ∀ tx, session.Gone tx → next.Gone tx) {via : Via}
    (log : next.log = via.ran ++ session.log) (gone : ∀ tx, via = .dropped tx → next.Gone tx) :
    next.Buried where
  registered := registered
  gone := by
    intro tx mem
    rw [log] at mem
    obtain new | old := List.mem_append.1 mem
    · refine gone tx ?_
      cases via with
      | session | tunnel => cases new
      | dropped tx' =>
          cases List.mem_singleton.1 new
          rfl
    · exact still tx (buried.gone tx old)
  order := by
    rw [NeverRebound, log]
    cases via with
    | session | tunnel => exact buried.order
    | dropped tx =>
        refine List.pairwise_cons.2 ⟨?_, buried.order⟩
        rintro older - tx' rfl transport request ⟨⟩

theorem Buried.step (buried : session.Buried) (admitted : session.dropsForGood label)
    (step : RegistryStep session label next) : next.Buried := by
  have registered := buried.registered.step step
  have still : ∀ tx, session.Gone tx → next.Gone tx :=
    fun tx gone => gone.step buried.registered step
  cases step with
  | quiet quiet =>
      obtain ⟨events, log, plain⟩ := quiet.log
      exact buried.of_events registered still events log (fun event mem => (plain event mem).1)
        (fun event mem transport request tx same => absurd same ((plain event mem).2 _ _ _))
  | start call =>
      refine buried.of_events registered still [_] rfl (by simp) ?_
      rintro event mem transport request tx rfl gone
      obtain rfl : tx = session.nextTx := by
        cases List.mem_singleton.1 mem
        rfl
      exact absurd (buried.registered.bounded _ gone.known) (lt_irrefl _)
  | send accept =>
      rename_i old newInner entry rest
      refine buried.of_events registered still [_] rfl (by simp) ?_
      rintro event mem transport request tx rfl gone
      obtain rfl : tx = entry.2.tx := by
        cases List.mem_singleton.1 mem
        rfl
      refine gone.uncopied entry.1 ?_
      rw [accept]
      exact List.mem_append_right _ List.mem_cons_self
  | failed call =>
      rename_i task error inner id via
      refine buried.of_ran registered still rfl ?_
      rintro tx rfl
      obtain ⟨unrouted, uncopied⟩ := admitted _ _ _ call
      refine ⟨?_, unrouted, uncopied⟩
      exact buried.registered.dropped task tx (dropping_of_call call)
  | remove call unlocked =>
      rename_i task inner id via
      refine buried.of_ran registered still (removeTunnel_log ..) ?_
      rintro tx rfl
      obtain ⟨unrouted, uncopied⟩ := admitted _ _ _ call
      have known : (session.standing tx).isSome :=
        buried.registered.dropped task tx (dropping_of_call call)
      refine ⟨by rwa [removeTunnel_standing, Option.isSome_map], fun key mem => ?_,
        fun key mem => ?_⟩
      · rw [routes, removeTunnel_inners, removeTunnel_current] at mem
        obtain ⟨rfl, rfl⟩ := unrouted key (mem_routes_setInner_erase mem)
        simp only [setInner, Function.update_self] at mem
        exact KeyedRoutes.ne_of_mem_routes_erase mem rfl
      · rw [removeTunnel_accept] at mem
        exact uncopied key mem
  | bound | insert | stop | drain | authenticated | lock | answered | unlock =>
      exact buried.of_events registered still [] rfl (by simp) (by simp)
  | prune => exact buried.of_events registered still [] (pruneTunnel_log ..) (by simp) (by simp)
  | swap => exact buried.of_events registered still [_] rfl (by simp) (by simp)

/-- When dropped tunnels lose their entries in time, none of them is bound again. -/
theorem neverRebound (json : Json Value) (builder : SessionBuilder)
    (reaches : Reaches (Session.step json) dropsForGood (connected builder) session) :
    session.NeverRebound := by
  have buried : session.Buried :=
    Reaches.invariant Buried (fun _ _ admitted buried =>
      buried.step admitted (registryStep_of_transition (transition_step ..)))
      reaches ⟨registered_connected builder, by simp [connected], List.Pairwise.nil⟩
  exact buried.order

/-- A tunnel is dropped, its `Unbind` succeeds, and the session reconnects without it. -/
theorem neverRebound_unbound :
    let session := run (Session.step noJson) (connected someBuilder)
      (Label.startHttp 0 "tn_1" ++ Label.dropping 0 1 (.ok ()) ++ [.resume 1] ++ Label.reconnect ++
        [.acceptResume [], .acceptResume [], .acceptResume []])
    session.current = 1 ∧ .closeRan 0 ∈ session.log ∧ session.NeverRebound := by
  intro session
  refine ⟨rfl, by decide +kernel, neverRebound noJson someBuilder (reaches_run ?_)⟩
  refine ⟨trivial, ?_, trivial, ?_, trivial, ?_, ?_, trivial, ?_, trivial, trivial, trivial,
    trivial, trivial, trivial, trivial, trivial⟩
  · rintro inner id tx call
    cases call
  · rintro inner id tx call
    cases call
  · rintro inner id tx call
    cases call
  · rintro inner id tx call
    cases call
  · rintro inner id tx call
    cases call
    refine ⟨fun key mem => ?_, fun key mem => by cases mem⟩
    cases List.mem_singleton.1 mem
    exact ⟨rfl, rfl⟩

/-- The answer to the `Unbind` is no response, and the reconnect binds the tunnel again. -/
theorem reboundAfterDrop_unanswered :
    let session := run (Session.step noJson) (connected someBuilder)
      (Label.startHttp 0 "tn_1" ++ Label.dropping 0 1 (.error .invalidResponse) ++ Label.reconnect ++
        Label.rebindOne (httpEntry "tn_1" 0) "")
    .closeRan 0 ∈ session.log ∧
      session.log.head? = some .reconnected ∧ (session.handles 0).map TunnelHandle.dropped =
        some true ∧ session.routes = [("tn_1", 0)] ∧ ¬ session.NeverRebound := by
  intro session
  have later : [.sent 1 ((httpEntry "tn_1" 0).2.rebindRequest "tn_1") (some 0),
      .closeRan 0].Sublist session.log := by decide +kernel
  refine ⟨by decide +kernel, by decide +kernel, rfl, rfl, fun order => ?_⟩
  exact (List.pairwise_cons.1 (order.sublist later)).1 _ List.mem_cons_self 0 rfl _ _ rfl

end Session

end Agent

end NgrokRust
