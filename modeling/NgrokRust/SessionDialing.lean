import NgrokRust.AgentHandles
import NgrokRust.SessionBuilder
import Std.Data.String.ToNat

/-!
# The address that a session dials

`connect_inner` calls the connector with the host and the port of its builder, and the
session keeps a copy of the builder for the next time.  So all calls of a session have the
address that `server_addr` has stored, which for one port is not the given one.
-/

namespace NgrokRust

namespace Agent

open LabelledRuns

def Request.address : Request → Option (String × Nat)
  | .connect serverHost serverPort => some (serverHost, serverPort)
  | _ => none

def Event.address : Event → Option (String × Nat)
  | .sent _ request _ => request.address
  | _ => none

def SessionBuilder.address (builder : SessionBuilder) : String × Nat :=
  (builder.serverHost, builder.serverPort)

@[simp]
theorem BoundTunnel.rebindRequest_address (tun : BoundTunnel) (id : String) :
    (tun.rebindRequest id).address = none := by
  unfold rebindRequest
  split <;> rfl

@[simp]
theorem TunnelConfig.request_address (cfg : TunnelConfig) : cfg.request.address = none := by
  unfold request
  split <;> rfl

namespace Session

variable {Value : Type*} {json : Json Value} {session next : Session} {label : Label}

def dialled (session : Session) : List (String × Nat) :=
  session.log.filterMap Event.address

/-- Every copy of the builder has this address, and so has every call. -/
structure Dialling (address : String × Nat) (session : Session) : Prop where
  inners : ∀ inner, (session.inners inner).builder.address = address
  fresh : ∀ newInner, session.accept.newInner = some newInner →
    newInner.builder.address = address
  dialled : ∀ called ∈ session.dialled, called = address

variable {address : String × Nat}

theorem Dialling.keep (dialling : session.Dialling address)
    (inners : ∀ inner, (next.inners inner).builder = (session.inners inner).builder)
    (fresh : ∀ newInner, next.accept.newInner = some newInner →
      session.accept.newInner = some newInner)
    (dialled : next.dialled = session.dialled) : next.Dialling address where
  inners := fun inner => by rw [inners inner, dialling.inners inner]
  fresh := fun newInner found => dialling.fresh newInner (fresh newInner found)
  dialled := by
    rw [dialled]
    exact dialling.dialled

theorem Dialling.step (dialling : session.Dialling address)
    (transition : Transition json session label next) : next.Dialling address := by
  cases transition with
  | idle => exact dialling
  | startTunnel | closeTunnel | closeHandle | closeSession | dropTunnel | closeSpawned
  | closeAnswered | goAwayAnswered | receive | startFailed | closeRequest | goAwayRequest =>
      exact dialling.keep (fun _ => rfl) (fun _ same => same) rfl
  | startRequest =>
      refine dialling.keep (fun _ => rfl) (fun _ same => same) ?_
      simp [Session.dialled, Session.startRequest, Session.record, Session.setCall,
        Session.lockClient, Event.address]
  | removeTunnel =>
      rename_i task inner id via call unlocked
      apply dialling.keep
      · exact setInner_field (removeTunnel_inners ..) SessionInner.builder fun _ => rfl
      · intro newInner found
        rwa [removeTunnel_accept] at found
      · rw [Session.dialled, removeTunnel_log]
        cases via <;> rfl
  | closeFailed =>
      rename_i task error inner id via call
      refine dialling.keep (fun _ => rfl) (fun _ same => same) ?_
      cases via <;> rfl
  | insertTunnel =>
      refine dialling.keep ?_ (fun _ same => same) rfl
      exact setInner_field (insertTunnel_inners ..) SessionInner.builder fun _ => rfl
  | startBound =>
      refine dialling.keep ?_ (fun _ same => same) rfl
      exact setInner_field (startBound_inners ..) SessionInner.builder fun _ => rfl
  | storeClosed =>
      refine dialling.keep ?_ (fun _ same => same) rfl
      exact setInner_field (storeClosed_inners ..) SessionInner.builder fun _ => rfl
  | acceptEnded | transportFailed | stopRequested | connArrived | stalled | panicked | stopSent
  | deliver | sent | sendFailed | nothingToDo | canceled | authenticate | drainSent | drainLost
  | drained =>
      refine dialling.keep (fun _ => rfl) ?_ rfl
      intro newInner found
      cases found
  | stopTunnel =>
      refine dialling.keep ?_ ?_ rfl
      · exact setInner_field (stopTunnel_inners ..) SessionInner.builder fun _ => rfl
      · intro newInner found
        cases found
  | startDrain =>
      refine dialling.keep ?_ ?_ rfl
      · exact setInner_field (startDrain_inners ..) SessionInner.builder fun _ => rfl
      · intro newInner found
        cases found
  | prune =>
      apply dialling.keep
      · exact setInner_field (pruneTunnel_inners ..) SessionInner.builder fun _ => rfl
      · intro newInner found
        rw [pruneTunnel_accept] at found
        cases found
      · rw [Session.dialled, pruneTunnel_log]
        rfl
  | reconnectFailed =>
      rename_i error accept
      refine dialling.keep (fun _ => rfl) ?_ rfl
      intro newInner found
      simp only [Session.reconnectFailed, Session.record, Session.setAccept] at found
      split at found <;> cases found
  -- The connector is called with a copy, and copies are only made from others.
  | connect accept isOpen =>
      refine ⟨dialling.inners, fun _ found => (by cases found), ?_⟩
      intro called mem
      obtain rfl | earlier := List.mem_cons.1 mem
      · exact dialling.inners session.current
      · exact dialling.dialled called earlier
  | authenticated accept =>
      rename_i old resp
      refine ⟨dialling.inners, ?_, dialling.dialled⟩
      intro newInner found
      cases found
      exact dialling.inners old
  | lock accept | unlock accept =>
      refine dialling.keep (fun _ => rfl) ?_ rfl
      intro newInner found
      cases found
      simp [accept, AcceptLoop.newInner]
  | sendRebind accept =>
      refine dialling.keep (fun _ => rfl) ?_ ?_
      · intro newInner found
        cases found
        simp [accept, AcceptLoop.newInner]
      · simp [Session.dialled, Session.sendRebind, Session.record, Session.setAccept,
          Event.address]
  | rebindAnswered accept =>
      rename_i old newInner entry rest respId
      refine ⟨dialling.inners, ?_, dialling.dialled⟩
      intro bound found
      cases found
      exact dialling.fresh newInner (by rw [accept]; rfl)
  | swap accept =>
      rename_i order old newInner
      refine ⟨?_, fun _ found => (by cases found), dialling.dialled⟩
      intro inner
      simp only [Session.swap, Function.update_apply]
      split
      · exact dialling.fresh newInner (by rw [accept]; rfl)
      · exact dialling.inners inner

variable (json) in
theorem Dialling.run (dialling : session.Dialling address) (labels : List Label) :
    (LabelledRuns.run (Session.step json) session labels).Dialling address := by
  induction labels generalizing session with
  | nil => exact dialling
  | cons label labels ih => exact ih (dialling.step (transition_step json session label))

theorem dialling_connected (builder : SessionBuilder) :
    (connected builder).Dialling builder.address where
  inners := fun _ => rfl
  fresh := fun _ found => by cases found
  dialled := fun _ mem => by cases mem

end Session

end Agent

namespace Builder

/-- How a URL stands for a server name: a host is brought into a form of its own, which is
one of the same host, and a port that is the default of `http` is no port. -/
structure Names.ReadsUrls (names : Names) (hostOf : String → Option String) : Prop where
  hostOf_hostOf : ∀ {host name : String}, hostOf host = some name → hostOf name = some name
  parseUrl_host : ∀ {host : String} {url : Url}, names.serverName host = true →
    names.parseUrl ("http://" ++ host) = some url →
      ∃ name, hostOf host = some name ∧ url.hostStr = some name ∧ url.port = none
  parseUrl_port : ∀ {host : String} {port : UInt16} {url : Url}, names.serverName host = true →
    port ≠ 0 → names.parseUrl ("http://" ++ hostAndPort host port) = some url →
      ∃ name, hostOf host = some name ∧ url.hostStr = some name ∧
        url.port = if port = 80 then none else some port

theorem hostAndPort_inj {host : String} {first second : UInt16} :
    hostAndPort host first = hostAndPort host second ↔ first = second := by
  rw [hostAndPort, hostAndPort, String.append_right_inj]
  exact Nat.repr_inj.trans UInt16.toNat_inj

def addressText (host : String) : Option UInt16 → String
  | some port => hostAndPort host port
  | none => host

namespace SessionBuilder

variable (builder : SessionBuilder)

/-- What `connect_inner` calls the connector with. -/
def connectorCall : String × UInt16 := (builder.serverHost, builder.serverPort)

/-- The copy of the builder that `connect_inner` keeps. -/
def authenticated (resp : Agent.AuthResp) : SessionBuilder :=
  { builder with cookie := some resp.cookie, id := some resp.clientId }

/-- What the session uses of its copy. -/
def forSession : Agent.SessionBuilder where
  serverHost := builder.serverHost
  serverPort := builder.serverPort.toNat
  cookie := builder.cookie
  id := builder.id

/-- The session that `connect` returns, after it was used. -/
def session {Value : Type*} (json : Agent.Json Value) (resp : Agent.AuthResp)
    (labels : List Agent.Label) : Agent.Session :=
  LabelledRuns.run (Agent.Session.step json)
    (Agent.Session.connected (builder.authenticated resp).forSession) labels

end SessionBuilder

def GoesTo (hostOf : String → Option String) (host : String) (port : Option UInt16)
    (address : String × Nat) : Prop :=
  (∃ name, hostOf host = some name ∧ hostOf address.1 = some name) ∧
    address.2 = (port.getD 443).toNat

/-- The first call of the connector and all that follow go to the given host and port. -/
structure DialsGiven {Value : Type*} (json : Agent.Json Value) (hostOf : String → Option String)
    (host : String) (port : Option UInt16) (builder : SessionBuilder) : Prop where
  first : GoesTo hostOf host port (builder.connectorCall.1, builder.connectorCall.2.toNat)
  reconnects : ∀ resp labels, ∀ address ∈ (builder.session json resp labels).dialled,
    GoesTo hostOf host port address

variable {Value : Type*} {json : Agent.Json Value} {names : Names} {hostOf : String → Option String}
  {host : String} {port : Option UInt16} {before builder : SessionBuilder}

theorem dialsGiven_iff_first :
    DialsGiven json hostOf host port builder ↔
      GoesTo hostOf host port (builder.connectorCall.1, builder.connectorCall.2.toNat) := by
  refine ⟨DialsGiven.first, fun first => ⟨first, ?_⟩⟩
  intro resp labels address called
  have dialling := (Agent.Session.dialling_connected
    (builder.authenticated resp).forSession).run json labels
  rw [dialling.dialled address called]
  exact first

/-- No call but `server_addr` changes what the connector is called with. -/
theorem connectorCall_run {calls : List Call} (others : ∀ addr, .serverAddr addr ∉ calls) :
    (LabelledRuns.run (SessionBuilder.step names) builder calls).connectorCall =
      builder.connectorCall := by
  induction calls generalizing builder with
  | nil => rfl
  | cons call calls ih =>
      have other : ∀ addr, call ≠ .serverAddr addr :=
        fun addr same => others addr (same ▸ List.mem_cons_self)
      obtain ⟨host, port⟩ := SessionBuilder.step_address names builder call other
      rw [LabelledRuns.run_cons, ih fun addr mem => others addr (List.mem_cons_of_mem _ mem),
        SessionBuilder.connectorCall, SessionBuilder.connectorCall, host, port]

/-- A `server_addr` that succeeds stores the host in its own form and the port of the
URL. -/
theorem connectorCall_of_ok (reads : names.ReadsUrls hostOf)
    (valid : names.serverName host = true) (explicit : port ≠ some 0)
    (ok : before.serverAddr names (addressText host port) = (builder, .ok ())) :
    ∃ name, hostOf host = some name ∧ builder.connectorCall =
      (name, if port = some 80 then 443 else port.getD 443) := by
  obtain ⟨error, refused⟩ | ⟨url, stored, parsed, named, ⟨-, rejected⟩ | ⟨-, accepted⟩⟩ :=
    SessionBuilder.serverAddr_cases before names (addressText host port)
  · rw [refused] at ok
    cases ok
  · rw [rejected] at ok
    cases ok
  · rw [accepted] at ok
    cases ok
    cases port with
    | none =>
        obtain ⟨name, own, hostStr, noPort⟩ := reads.parseUrl_host valid parsed
        rw [named] at hostStr
        cases hostStr
        refine ⟨stored, own, ?_⟩
        simp [SessionBuilder.connectorCall, noPort]
    | some port =>
        have positive : port ≠ 0 := fun zero => explicit (congrArg some zero)
        obtain ⟨name, own, hostStr, urlPort⟩ := reads.parseUrl_port valid positive parsed
        rw [named] at hostStr
        cases hostStr
        refine ⟨stored, own, ?_⟩
        by_cases http : port = 80
        · simp [SessionBuilder.connectorCall, urlPort, http]
        · simp [SessionBuilder.connectorCall, urlPort, http]

/-- After a `server_addr` that has succeeded, and any calls but another one, the connector is
always called with the given host and port, unless the port is 80. -/
theorem dialsGiven_iff (reads : names.ReadsUrls hostOf) (valid : names.serverName host = true)
    (explicit : port ≠ some 0)
    (ok : before.serverAddr names (addressText host port) = (builder, .ok ()))
    (later : List Call) (others : ∀ addr, .serverAddr addr ∉ later) :
    DialsGiven json hostOf host port (LabelledRuns.run (SessionBuilder.step names) builder later) ↔
      port ≠ some 80 := by
  obtain ⟨name, own, stored⟩ := connectorCall_of_ok reads valid explicit ok
  rw [dialsGiven_iff_first, connectorCall_run others, stored]
  constructor
  · rintro ⟨-, same⟩ rfl
    have differs : (443 : UInt16).toNat ≠ (80 : UInt16).toNat := by decide
    exact differs same
  · intro other
    exact ⟨⟨name, own, reads.hostOf_hostOf own⟩, by simp [other]⟩

def exampleNames : Names where
  parseUrl := fun text =>
    if text = "http://example.com:4443" then
      some ⟨"http://example.com:4443/", "http", "example.com", some 4443⟩
    else if text = "http://example.com:80" then
      some ⟨"http://example.com/", "http", "example.com", none⟩
    else none
  parseUri := fun _ => true
  serverName := fun host => host = "example.com"

theorem exampleNames_readsUrls : exampleNames.ReadsUrls some where
  hostOf_hostOf := by simp
  parseUrl_host := by
    intro host url valid parsed
    have known : host = "example.com" := by simpa [exampleNames] using valid
    simp [exampleNames, known] at parsed
  parseUrl_port := by
    intro host port url valid positive parsed
    have known : host = "example.com" := by simpa [exampleNames] using valid
    have port4443 : "http://example.com:4443" = "http://" ++ hostAndPort "example.com" 4443 := by
      decide
    have port80 : "http://example.com:80" = "http://" ++ hostAndPort "example.com" 80 := by
      decide
    simp only [exampleNames, known, port4443, port80, String.append_right_inj, hostAndPort_inj]
      at parsed
    split at parsed
    · rename_i same
      cases parsed
      exact ⟨_, by rw [known], rfl, by simp [same]⟩
    · split at parsed
      · rename_i same
        cases parsed
        exact ⟨_, by rw [known], rfl, by simp [same]⟩
      · cases parsed

theorem dialsGiven_4443 :
    DialsGiven Agent.noJson some "example.com" (some 4443)
      (SessionBuilder.built exampleNames [.serverAddr "example.com:4443", .metadata "m"]) := by
  have ok : SessionBuilder.default.serverAddr exampleNames (addressText "example.com" (some 4443)) =
      ({ SessionBuilder.default with serverHost := "example.com", serverPort := 4443 }, .ok ()) := by
    decide
  have explicit : some (4443 : UInt16) ≠ some 0 := by decide
  exact (dialsGiven_iff exampleNames_readsUrls (by decide) explicit ok [.metadata "m"]
    (by simp)).2 (by decide)

/-- With port 80 the connector is called with port 443. -/
theorem not_dialsGiven_80 :
    let called := SessionBuilder.default.serverAddr exampleNames "example.com:80"
    called.2 = .ok () ∧ ¬ DialsGiven Agent.noJson some "example.com" (some 80) called.1 := by
  intro called
  refine ⟨by decide, fun dials => ?_⟩
  exact absurd dials.first.2 (by decide)

end Builder

end NgrokRust
