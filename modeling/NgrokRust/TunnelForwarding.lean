import NgrokRust.AgentMessages
import NgrokRust.BoundedChannel
import NgrokRust.UpstreamDialing

/-!
# Forwarding a tunnel

`forward_tunnel` is a loop that takes the connections of a tunnel and calls `forward_to` with
each of them, without awaiting the task that this spawns.  It runs beside everything else
that happens to the session, and ends with the first error of the tunnel, or with the end of
its connections.
-/

namespace NgrokRust

namespace Forward

open Agent LabelledRuns

def acceptErrorText : AcceptError → String
  | .transport _ => "transport error"
  | .reconnect _ => "reconnect error"
  | .listenerClosed message errorCode =>
      "listener closed: " ++ message ++ (errorCode.map (", " ++ ·)).getD ""

/-- The error that `forward_tunnel` makes of one of the tunnel. -/
def notConnected (error : AcceptError) : IoError := .new .notConnected (acceptErrorText error)

/-- What `poll_next` of a `TunnelInner` finds in the channel, which ends when its receiver is
closed or no sender is left. -/
def pollNext (channel : TunnelChannel) (senders : Bool) :
    Poll (Option (Except AcceptError ConnInner)) :=
  match channel.queue with
  | message :: _ => .ready (some message)
  | [] => if channel.receiverOpen && senders then .pending else .ready none

/-- The loop beside its session: the connections that it has called `forward_to` with, and
what it returned. -/
structure TunnelForwarder where
  session : Session
  forwarded : List ConnInner
  result : Option (Except IoError Unit)

namespace TunnelForwarder

/-- A step of the session, or one of the loop, which depends on whether the channel still has
a sender. -/
inductive Label where
  | session (label : Agent.Label)
  | poll (senders : Bool)

def start (session : Session) : TunnelForwarder where
  session := session
  forwarded := []
  result := none

def poll (task : TunnelForwarder) (tx : Tx) (senders : Bool) : TunnelForwarder :=
  match task.result, pollNext (task.session.channels tx) senders with
  | none, .ready (some (.ok conn)) =>
      { task with
        session := task.session.receive tx
        forwarded := task.forwarded ++ [conn] }
  | none, .ready (some (.error error)) =>
      { task with
        session := task.session.receive tx
        result := some (.error (notConnected error)) }
  | none, .ready none => { task with result := some (.ok ()) }
  | _, _ => task

def step {Value : Type*} (json : Json Value) (tx : Tx) (task : TunnelForwarder) :
    Label → TunnelForwarder
  | .session label => { task with session := task.session.step json label }
  | .poll senders => task.poll tx senders

def Spares (tx : Tx) : Agent.Label → Prop
  | .receive other => other ≠ tx
  | .dropTunnel other _ => other ≠ tx
  | _ => True

/-- The loop has the tunnel for itself until it returns. Senders of the channel are in the
current map, in its copies and with the accept loop. -/
def Allowed (tx : Tx) (task : TunnelForwarder) : Label → Prop
  | .session label => task.result = none → Spares tx label
  | .poll senders => senders = false →
      task.session.Gone tx ∧ tx ∉ task.session.accept.sendsTo

/-- What a result says about the last message that the loop has taken. -/
inductive Returned : Option (Except IoError Unit) → List (Except AcceptError ConnInner) → Prop where
  | running : Returned none []
  | ended : Returned (some (.ok ())) []
  | failed (error : AcceptError) : Returned (some (.error (notConnected error))) [.error error]

/-- What the loop has taken so far, after what was taken before it: connections, and the
error that it returned for. It has then taken everything. -/
structure Forwards (tx : Tx) (before : List (Except AcceptError ConnInner))
    (last : List (Except AcceptError ConnInner)) (task : TunnelForwarder) : Prop where
  heard : task.session.Heard tx (before ++ task.forwarded.map .ok ++ last)
  returned : Returned task.result last
  running : task.result = none → task.session.inUse tx
  ended : task.result ≠ none → task.session.Silent tx ∧
    before ++ task.forwarded.map .ok ++ last = task.session.taken tx

variable {Value : Type*} {json : Json Value} {task : TunnelForwarder} {tx : Tx}
  {before last : List (Except AcceptError ConnInner)}

theorem Returned.last_eq_nil {result : Option (Except IoError Unit)}
    (returned : Returned result last) (isOn : result = none) : last = [] := by
  cases returned with
  | running | ended => rfl
  | failed => cases isOn

theorem not_conns {front rest : List (Except AcceptError ConnInner)} {error : AcceptError} :
    ¬ Conns (front ++ .error error :: rest) := by
  rintro ⟨conns, same⟩
  have mem : Except.error error ∈ conns.map Except.ok := by
    rw [← same]
    simp
  simp at mem

theorem rest_eq_nil {front rest : List (Except AcceptError ConnInner)} {error : AcceptError}
    (ended : Ended (front ++ .error error :: rest)) : rest = [] := by
  obtain ⟨conns, last, same⟩ := ended
  cases rest using List.reverseRecOn with
  | nil => rfl
  | append_singleton rest final =>
      have ends : (front ++ .error error :: rest) ++ [final] =
          conns.map Except.ok ++ [.error last] := by
        rw [← same]
        simp
      exact absurd ⟨conns, (List.append_inj' ends rfl).1⟩ not_conns

/-- A step of the session takes nothing from the tunnel. -/
theorem Forwards.session (forwards : Forwards tx before last task) (json : Json Value)
    {label : Agent.Label} (allowed : Allowed tx task (.session label)) :
    Forwards tx before last (task.step json tx (.session label)) := by
  obtain ⟨heard, returned, running, ended⟩ := forwards
  have transition := transition_step json task.session label
  have registered := heard.lastWords.registered
  have nothing : task.session.takes tx label = [] := by
    cases label with
    | receive other =>
        rw [Session.takes]
        split
        · rename_i here
          subst here
          by_cases isOn : task.result = none
          · exact absurd rfl (allowed isOn)
          · have all := (ended isOn).2
            obtain order | ⟨-, idle, -⟩ := heard.inOrder.order
            · rw [← all, List.append_right_eq_self] at order
              rw [order]
              rfl
            · rw [idle]
              rfl
        · rfl
    | _ => rfl
  have later := heard.step json label
  rw [nothing, List.append_nil] at later
  refine ⟨later, returned, fun isOn => ?_, fun off => ?_⟩
  · refine Session.inUse_step transition registered (running isOn) fun spawned same => ?_
    subst same
    exact absurd rfl (allowed isOn)
  · obtain ⟨silent, same⟩ := (ended off).1.step transition registered
    exact ⟨silent, (ended off).2.trans same.symm⟩

/-- The loop takes the oldest message, or learns that there will be none. -/
theorem Forwards.poll (forwards : Forwards tx before last task) (json : Json Value)
    {senders : Bool} (allowed : Allowed tx task (.poll senders)) :
    ∃ last', Forwards tx before last' (task.step json tx (.poll senders)) := by
  change ∃ last', Forwards tx before last' (task.poll tx senders)
  by_cases isOn : task.result = none
  · have none := forwards.returned.last_eq_nil isOn
    have heard := forwards.heard
    have used := forwards.running isOn
    rw [none, List.append_nil] at heard
    have waiting := heard.waiting used
    have later := heard.step json (.receive tx)
    cases queue : (task.session.channels tx).queue with
    | cons message rest =>
        have took : task.session.takes tx (.receive tx) = [message] := by
          rw [Session.takes, if_pos rfl, queue]
          rfl
        rw [took] at later
        rw [queue] at waiting
        have same : (task.session.receive tx).taken tx = task.session.taken tx := by
          simp [Session.taken, Session.receive, Session.setChannel]
        cases message with
        | ok conn =>
            have polled : task.poll tx senders =
                { task with
                  session := task.session.receive tx
                  forwarded := task.forwarded ++ [conn] } := by
              simp [TunnelForwarder.poll, pollNext, queue, isOn]
            rw [polled]
            refine ⟨[], ?_, isOn ▸ .running, fun _ => used, fun off => absurd isOn off⟩
            rw [List.append_nil, List.map_append, ← List.append_assoc]
            exact later
        | error error =>
            have polled : task.poll tx senders =
                { task with
                  session := task.session.receive tx
                  result := some (.error (notConnected error)) } := by
              simp [TunnelForwarder.poll, pollNext, queue, isOn]
            rw [polled]
            have words := heard.lastWords.words tx
            rw [← waiting] at words
            obtain ⟨ended, gone, spared⟩ := words.resolve_left not_conns
            refine ⟨[.error error], later, .failed error, by rintro ⟨⟩, fun _ => ⟨.inl ?_, ?_⟩⟩
            · exact ⟨⟨gone.known, gone.unrouted, gone.uncopied⟩, spared⟩
            · rw [same, ← waiting, rest_eq_nil ended]
    | nil =>
        by_cases open_ : ((task.session.channels tx).receiverOpen && senders) = true
        · have polled : task.poll tx senders = task := by
            simp [TunnelForwarder.poll, pollNext, queue, isOn, open_]
          rw [polled]
          exact ⟨last, forwards⟩
        · have polled : task.poll tx senders = { task with result := some (.ok ()) } := by
            simp [TunnelForwarder.poll, pollNext, queue, isOn, open_]
          rw [polled]
          refine ⟨[], ?_, .ended, by rintro ⟨⟩, fun _ => ⟨?_, ?_⟩⟩
          · simpa using heard
          · cases senders with
            | false => exact .inl (allowed rfl)
            | true =>
                refine .inr ⟨?_, by simpa using open_⟩
                obtain ⟨handle, found, -⟩ := Option.map_eq_some_iff.1 used
                rw [Session.standing, found]
                rfl
          · rw [queue, List.append_nil] at waiting
            simpa using waiting
  · have polled : task.poll tx senders = task := by
      unfold TunnelForwarder.poll
      cases result : task.result with
      | none => exact absurd result isOn
      | some => rfl
    rw [polled]
    exact ⟨last, forwards⟩

theorem Forwards.step (forwards : Forwards tx before last task) (json : Json Value)
    {label : Label} (allowed : Allowed tx task label) :
    ∃ last', Forwards tx before last' (task.step json tx label) := by
  cases label with
  | session label => exact ⟨last, forwards.session json allowed⟩
  | poll senders => exact forwards.poll json allowed

theorem Forwards.run {labels : List Label} (forwards : Forwards tx before last task)
    (json : Json Value)
    (admitted : Admitted (TunnelForwarder.step json tx) (Allowed tx) task labels) :
    ∃ last', Forwards tx before last'
      (LabelledRuns.run (TunnelForwarder.step json tx) task labels) := by
  induction labels generalizing task last with
  | nil => exact ⟨last, forwards⟩
  | cons label labels ih =>
      obtain ⟨allowed, admitted⟩ := admitted
      obtain ⟨last', forwards⟩ := forwards.step json allowed
      exact ih forwards admitted

/-- Whatever happens to the session meanwhile, `forward_tunnel` calls `forward_to` with every
connection of its tunnel, in order and once. It returns an error when the tunnel gets one,
and when it has returned then no connection was left behind, and none follows. -/
theorem forwards_all (builder : SessionBuilder) (json : Json Value) (tx : Tx)
    (earlier : List Agent.Label) (labels : List Label)
    (used : (run (Session.step json) (.connected builder) earlier).inUse tx)
    (admitted : Admitted (step json tx) (Allowed tx)
      (start (run (Session.step json) (.connected builder) earlier)) labels) :
    let task := run (step json tx)
      (start (run (Session.step json) (.connected builder) earlier)) labels
    let before := Session.received json tx (.connected builder) earlier
    ∃ last, Returned task.result last ∧
      before ++ task.forwarded.map .ok ++ last ++
        (if task.result = none then (task.session.channels tx).queue else []) =
          task.session.taken tx := by
  intro task before
  have heard := (Session.heard_connected builder tx).run json earlier
  have began : Forwards tx before []
      (start (run (Session.step json) (.connected builder) earlier)) :=
    ⟨by simpa [start] using heard, .running, fun _ => used, fun off => absurd rfl off⟩
  obtain ⟨last, forwards⟩ := began.run json admitted
  refine ⟨last, forwards.returned, ?_⟩
  split
  · rename_i isOn
    rw [forwards.returned.last_eq_nil isOn, List.append_nil]
    have heard := forwards.heard
    rw [forwards.returned.last_eq_nil isOn, List.append_nil] at heard
    exact heard.waiting (forwards.running isOn)
  · rename_i off
    rw [List.append_nil]
    exact (forwards.ended off).2

def closedSession : List Label :=
  Agent.Session.connection.map .session ++ [.poll true] ++
    [.session (.closeSession 1), .session (.resume 1), .session (.goAwayAnswer 1 (.ok ())),
      .session (.resume 1), .session (.incoming none), .session (.acceptResume []),
      .session (.acceptResume [httpEntry "tn_1" 0]), .session (.acceptResume []), .poll true]

/-- The loop forwards the connection, and ends with the error of the session. -/
theorem forwards_all_closedSession :
    let task := run (step Agent.Session.proxyJson 0)
      (start (run (Session.step Agent.Session.proxyJson) (.connected someBuilder)
        (Agent.Label.startHttp 0 "tn_1"))) closedSession
    task.forwarded.length = 1 ∧
      task.result = some (.error ⟨.notConnected, some "reconnect error"⟩) ∧
      ∃ last, Returned task.result last ∧
        task.forwarded.map .ok ++ last = task.session.taken 0 := by
  intro task
  have off : task.result ≠ none := by decide +kernel
  obtain ⟨last, returned, all⟩ := forwards_all someBuilder Agent.Session.proxyJson 0
    (Agent.Label.startHttp 0 "tn_1") closedSession (by decide +kernel)
    ⟨fun _ => trivial, fun _ => trivial, fun _ => trivial, by rintro ⟨⟩, fun _ => trivial,
      fun _ => trivial, fun _ => trivial, fun _ => trivial, fun _ => trivial, fun _ => trivial,
      fun _ => trivial, fun _ => trivial, by rintro ⟨⟩, trivial⟩
  rw [if_neg off, List.append_nil] at all
  exact ⟨by decide +kernel, by decide +kernel, last, returned, all⟩

end TunnelForwarder

end Forward

end NgrokRust
