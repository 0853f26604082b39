import NgrokRust.AgentRefs
import NgrokRust.AgentStop

/-!
# The messages of a tunnel

A tunnel gets connections, and at most one error after them: before the accept loop tells a
tunnel that it has ended it takes the tunnel out of its map, so that no connection can
follow.  The owner of the tunnel gets the messages in the order in which they were sent.
-/

namespace NgrokRust

namespace Agent

open KeyedRoutes LabelledRuns

def AcceptLoop.tells : AcceptLoop → List Tx
  | .stopSending _ tx _ => [tx]
  | .draining _ _ rest => rest
  | _ => []

def Conns (messages : List (Except AcceptError ConnInner)) : Prop :=
  ∃ conns : List ConnInner, messages = conns.map .ok

def Ended (messages : List (Except AcceptError ConnInner)) : Prop :=
  ∃ (conns : List ConnInner) (error : AcceptError), messages = conns.map .ok ++ [.error error]

theorem Conns.ok {messages : List (Except AcceptError ConnInner)} (conns : Conns messages)
    (conn : ConnInner) : Conns (messages ++ [.ok conn]) := by
  obtain ⟨conns, rfl⟩ := conns
  exact ⟨conns ++ [conn], by simp⟩

theorem Conns.error {messages : List (Except AcceptError ConnInner)} (conns : Conns messages)
    (error : AcceptError) : Ended (messages ++ [.error error]) := by
  obtain ⟨conns, rfl⟩ := conns
  exact ⟨conns, error, rfl⟩

namespace Session

variable {Value : Type*} {json : Json Value} {session next : Session} {label : Label}

/-- What a step adds to the messages of a tunnel: nothing, except that a new channel has
none, or the message that the accept loop is waiting to send. -/
theorem taken_step (transition : Transition json session label next) (tx : Tx) :
    next.taken tx = session.taken tx ∨
    tx = session.nextTx ∧ next.taken tx = [] ∨
    (∃ inner id conn, session.accept = .sending inner id tx conn ∧
      (session.channels tx).receiverOpen = true ∧
      next.taken tx = session.taken tx ++ [.ok conn]) ∨
    ∃ error rest, session.accept.tells = tx :: rest ∧
      session.accept.sendsTo = tx :: rest ∧ next.accept.sendsTo = rest ∧
      (session.channels tx).receiverOpen = true ∧
      next.taken tx = session.taken tx ++ [.error error] := by
  have moved (change : TunnelChannel → TunnelChannel) (other : Tx)
      (same : ∀ channel, (change channel).taken = channel.taken) :
      (session.setChannel other change).taken tx = session.taken tx := by
    simp only [taken, setChannel, Function.update_apply]
    split
    · rename_i here
      rw [here, same]
    · rfl
  have pushed (message : Except AcceptError ConnInner) (other : Tx) (accept : AcceptLoop) :
      (session.send other message accept).taken tx =
        if tx = other then session.taken tx ++ [message] else session.taken tx := by
    simp only [taken, send, setAccept, setChannel, Function.update_apply]
    split
    · rename_i here
      rw [here]
      rfl
    · rfl
  cases transition with
  | startRequest call =>
      by_cases here : tx = session.nextTx
      · refine .inr (.inl ⟨here, ?_⟩)
        simp [taken, startRequest, here, TunnelChannel.new]
      · refine .inl ?_
        simp [taken, startRequest, Function.update_of_ne here, record, setCall, lockClient]
  | removeTunnel =>
      rename_i task inner id via call unlocked
      cases via with
      | session | dropped => exact .inl rfl
      | tunnel other =>
          exact .inl (moved (fun channel => { channel with receiverOpen := false }) other
            fun _ => rfl)
  | dropTunnel =>
      exact .inl (moved (fun channel => { channel with queue := [], receiverOpen := false }) _
        fun _ => rfl)
  | receive =>
      exact .inl (moved (fun channel => { channel with queue := channel.queue.tail }) _
        fun _ => rfl)
  | sent accept =>
      rename_i order inner id other conn room receives
      by_cases here : tx = other
      · subst here
        exact .inr (.inr (.inl ⟨inner, id, conn, accept, receives, by rw [pushed, if_pos rfl]⟩))
      · exact .inl (by rw [pushed, if_neg here])
  | stopSent accept =>
      rename_i order inner other error room receives
      by_cases here : tx = other
      · subst here
        refine .inr (.inr (.inr ⟨error, [], ?_, ?_, rfl, receives, by rw [pushed, if_pos rfl]⟩))
        · rw [accept]
          rfl
        · rw [accept]
          rfl
      · exact .inl (by rw [pushed, if_neg here])
  | drainSent accept =>
      rename_i order inner error other rest room receives
      by_cases here : tx = other
      · subst here
        refine .inr (.inr (.inr ⟨error, rest, ?_, ?_, rfl, receives, by rw [pushed, if_pos rfl]⟩))
        · rw [accept]
          rfl
        · rw [accept]
          rfl
      · exact .inl (by rw [pushed, if_neg here])
  | prune => exact .inl (by rw [taken, pruneTunnel_channels, taken])
  | _ => exact .inl rfl

/-- The accept loop tells a tunnel only once that it has ended. -/
theorem nodup_sendsTo_step (transition : Transition json session label next)
    (distinct : session.Distinct)
    (once : session.accept.sendsTo.Nodup) : next.accept.sendsTo.Nodup := by
  cases transition with
  | stopTunnel | deliver => exact List.nodup_singleton _
  | startDrain accept perm =>
      have nodup := ((perm.map entryRoute).map Prod.snd).nodup_iff.2 distinct.routes
      rwa [List.map_map] at nodup
  | drainSent accept | drainLost accept =>
      rw [accept] at once
      exact (List.nodup_cons.1 once).2
  | removeTunnel => rwa [removeTunnel_accept]
  | prune =>
      rw [pruneTunnel_accept]
      exact List.nodup_nil
  | canceled | reconnectFailed =>
      simp only [reconnectFailed_accept]
      split <;> exact List.nodup_nil
  | acceptEnded | transportFailed | stopRequested | connArrived | stalled | panicked | stopSent
  | sent | sendFailed | nothingToDo | connect | authenticate | authenticated | lock | sendRebind
  | rebindAnswered | unlock | swap | drained => exact List.nodup_nil
  | _ => exact once

/-- Whoever is told that it has ended is gone. -/
theorem gone_of_tells_step (transition : Transition json session label next)
    (registered : session.Registered) (distinct : session.Distinct)
    (gone : ∀ tx ∈ session.accept.tells, session.Gone tx) :
    ∀ tx ∈ next.accept.tells, next.Gone tx := by
  have step := registryStep_of_transition transition
  have kept (same : ∀ tx ∈ next.accept.tells, tx ∈ session.accept.tells) :
      ∀ tx ∈ next.accept.tells, next.Gone tx :=
    fun tx mem => (gone tx (same tx mem)).step registered step
  have nobody (none : next.accept.tells = []) : ∀ tx ∈ next.accept.tells, next.Gone tx := by
    rw [none]
    exact fun _ mem => absurd mem List.not_mem_nil
  cases transition with
  | stopTunnel accept found =>
      rename_i order inner req tun
      obtain rfl : inner = session.current := registered.inner inner (by rw [accept]; rfl)
      have same : session = session.setAccept (.stopping session.current req) := by
        rw [← accept]
        rfl
      have stopped := stopped_of_stopTunnel registered distinct found
        (congrArg (fun session' => session'.stopTunnel session.current req tun) same)
        (registered.step step)
      rintro tx mem
      cases List.mem_singleton.1 mem
      exact stopped.gone
  | startDrain accept perm =>
      rename_i order error
      rintro tx mem
      obtain ⟨entry, entry_, rfl⟩ := List.mem_map.1 mem
      refine ⟨known_step step ?_, fun key mem => ?_, fun key => List.not_mem_nil⟩
      · exact registered.known _ _ _ (List.mem_map.2 ⟨entry, perm.subset entry_, rfl⟩)
      · rw [Session.routes, startDrain_inners] at mem
        simp [setInner, SessionInner.routes, startDrain, setAccept] at mem
  | drainSent accept | drainLost accept =>
      refine kept fun tx mem => ?_
      rw [accept]
      exact List.mem_cons_of_mem _ mem
  | removeTunnel =>
      refine kept fun tx mem => ?_
      rwa [removeTunnel_accept] at mem
  | prune => exact nobody (by rw [pruneTunnel_accept]; rfl)
  | canceled | reconnectFailed =>
      refine nobody ?_
      simp only [reconnectFailed_accept]
      split <;> rfl
  | acceptEnded | transportFailed | stopRequested | connArrived | stalled | panicked | stopSent
  | deliver | sent | sendFailed | nothingToDo | connect | authenticate | authenticated | lock
  | sendRebind | rebindAnswered | unlock | swap | drained => exact nobody rfl
  | _ => exact kept fun _ => id

/-- An error is the last word to a tunnel, which is gone by then. -/
structure LastWords (session : Session) : Prop where
  registered : session.Registered
  distinct : session.Distinct
  words : ∀ tx, Conns (session.taken tx) ∨
    Ended (session.taken tx) ∧ session.Gone tx ∧ tx ∉ session.accept.sendsTo
  gone : ∀ tx ∈ session.accept.tells, session.Gone tx
  once : session.accept.sendsTo.Nodup

theorem lastWords_connected (builder : SessionBuilder) : (connected builder).LastWords where
  registered := registered_connected builder
  distinct := distinct_connected builder
  words := fun _ => .inl ⟨[], rfl⟩
  gone := fun _ mem => absurd mem List.not_mem_nil
  once := List.nodup_nil

theorem LastWords.step (lastWords : session.LastWords)
    (transition : Transition json session label next) : next.LastWords := by
  have step := registryStep_of_transition transition
  refine ⟨lastWords.registered.step step,
    lastWords.distinct.step lastWords.registered step, fun tx => ?_,
    gone_of_tells_step transition lastWords.registered lastWords.distinct lastWords.gone,
    nodup_sendsTo_step transition lastWords.distinct lastWords.once⟩
  obtain same | ⟨-, none⟩ | ⟨inner, id, conn, sending, -, sent⟩ |
    ⟨error, rest, tells, sends, left, -, told⟩ := taken_step transition tx
  · rw [same]
    refine (lastWords.words tx).imp_right fun words => ⟨words.1, ?_, ?_⟩
    · exact words.2.1.step lastWords.registered step
    · exact spared_step transition lastWords.registered words.2.1 words.2.2
  · rw [none]
    exact .inl ⟨[], rfl⟩
  · rw [sent]
    refine .inl (((lastWords.words tx).resolve_right fun words => ?_).ok conn)
    rw [sending] at words
    exact words.2.2 (List.mem_singleton_self _)
  · rw [told]
    refine .inr ⟨((lastWords.words tx).resolve_right fun words => ?_).error error, ?_, ?_⟩
    · rw [sends] at words
      exact words.2.2 List.mem_cons_self
    · exact (lastWords.gone tx (by rw [tells]; exact List.mem_cons_self)).step
        lastWords.registered step
    · have once := lastWords.once
      rw [sends] at once
      rw [left]
      exact (List.nodup_cons.1 once).1

/-- A receiver that is closed stays closed. -/
theorem closed_step (transition : Transition json session label next) {tx : Tx}
    (known : tx < session.nextTx) (closed : (session.channels tx).receiverOpen = false) :
    (next.channels tx).receiverOpen = false := by
  have moved (change : TunnelChannel → TunnelChannel) (other : Tx)
      (keeps : ∀ channel, channel.receiverOpen = false → (change channel).receiverOpen = false) :
      ((session.setChannel other change).channels tx).receiverOpen = false := by
    simp only [setChannel, Function.update_apply]
    split
    · rename_i here
      exact keeps _ (here ▸ closed)
    · exact closed
  cases transition with
  | startRequest call =>
      have same := Function.update_of_ne (Nat.ne_of_lt known) TunnelChannel.new session.channels
      exact (congrArg TunnelChannel.receiverOpen same).trans closed
  | removeTunnel =>
      rename_i task inner id via call unlocked
      cases via with
      | session | dropped => exact closed
      | tunnel other =>
          exact moved (fun channel => { channel with receiverOpen := false }) other fun _ _ => rfl
  | dropTunnel =>
      exact moved (fun channel => { channel with queue := [], receiverOpen := false }) _
        fun _ _ => rfl
  | receive =>
      exact moved (fun channel => { channel with queue := channel.queue.tail }) _ fun _ => id
  | sent | stopSent | drainSent => exact moved (·.push _) _ fun _ => id
  | prune =>
      rw [pruneTunnel_channels]
      exact closed
  | _ => exact closed

def Silent (session : Session) (tx : Tx) : Prop :=
  session.Gone tx ∧ tx ∉ session.accept.sendsTo ∨
    (session.standing tx).isSome ∧ (session.channels tx).receiverOpen = false

theorem Silent.step {tx : Tx} (silent : session.Silent tx)
    (transition : Transition json session label next) (registered : session.Registered) :
    next.Silent tx ∧ next.taken tx = session.taken tx := by
  have step := registryStep_of_transition transition
  obtain ⟨gone, spared⟩ | ⟨known, closed⟩ := silent
  · have small := registered.bounded tx gone.known
    refine ⟨.inl ⟨gone.step registered step, spared_step transition registered gone spared⟩, ?_⟩
    exact (untold_step transition small fun mem => absurd mem spared).1
  · have small := registered.bounded tx known
    refine ⟨.inr ⟨known_step step known, closed_step transition small closed⟩, ?_⟩
    obtain same | ⟨new, -⟩ | ⟨-, -, -, -, receives, -⟩ | ⟨-, -, -, -, -, receives, -⟩ :=
      taken_step transition tx
    · exact same
    · exact absurd new (Nat.ne_of_lt small)
    · rw [closed] at receives
      cases receives
    · rw [closed] at receives
      cases receives

def takes (session : Session) (tx : Tx) : Label → List (Except AcceptError ConnInner)
  | .receive other => if other = tx then (session.channels tx).queue.head?.toList else []
  | _ => []

/-- What the owner of a tunnel receives in a run. -/
def received (json : Json Value) (tx : Tx) :
    Session → List Label → List (Except AcceptError ConnInner)
  | _, [] => []
  | session, label :: labels =>
      session.takes tx label ++ received json tx (session.step json label) labels

def Dropped (session : Session) (tx : Tx) : Prop :=
  (session.handles tx).map TunnelHandle.dropped = some true

/-- Only the drop of a tunnel drops it. -/
theorem dropped_kept (transition : Transition json session label next)
    (registered : session.Registered) {tx : Tx} (returned : (session.handles tx).isSome)
    (calm : ∀ spawned, label ≠ .dropTunnel tx spawned) :
    (next.handles tx).map TunnelHandle.dropped =
      (session.handles tx).map TunnelHandle.dropped := by
  have changed (change : TunnelHandle → TunnelHandle)
      (keeps : ∀ handle, (change handle).dropped = handle.dropped) :
      ((session.handles tx).map change).map TunnelHandle.dropped =
        (session.handles tx).map TunnelHandle.dropped := by
    rw [Option.map_map]
    exact congrArg (Option.map · (session.handles tx)) (funext keeps)
  have one (change : TunnelHandle → TunnelHandle)
      (keeps : ∀ handle, (change handle).dropped = handle.dropped) (other : Tx) :
      ((session.setHandle other change).handles tx).map TunnelHandle.dropped =
        (session.handles tx).map TunnelHandle.dropped := by
    have handles : (session.setHandle other change).handles =
        Function.update session.handles other ((session.handles other).map change) := rfl
    rw [handles, Function.update_apply]
    split
    · rename_i here
      rw [← here, changed change keeps]
    · rfl
  cases transition with
  | dropTunnel =>
      rename_i other spawned handle found kept free
      have apart : tx ≠ other := by
        rintro rfl
        exact calm spawned rfl
      exact congrArg (Option.map TunnelHandle.dropped) (Function.update_of_ne apart _ _)
  | insertTunnel call unlocked =>
      rename_i task inner info bound
      have apart : tx ≠ bound.tx := by
        rintro rfl
        have new := (registered.new task bound.tx (starting_of_call call)).2
        rw [standing, Option.map_eq_none_iff] at new
        rw [new] at returned
        cases returned
      exact congrArg (Option.map TunnelHandle.dropped) (Function.update_of_ne apart _ _)
  | removeTunnel =>
      rename_i task inner id via call unlocked
      rw [removeTunnel_handles]
      exact changed _ (dropped_close id)
  | stopTunnel => exact one _ dropped_ended _
  | prune =>
      unfold pruneTunnel
      dsimp only
      split
      · split
        · rfl
        · exact one _ dropped_ended _
      · rfl
  | startDrain accept perm =>
      rename_i order error
      by_cases listed : tx ∈ order.map (·.2.tx)
      · exact (congrArg (Option.map TunnelHandle.dropped) (if_pos listed)).trans
          (changed _ dropped_ended)
      · exact congrArg (Option.map TunnelHandle.dropped) (if_neg listed)
  | _ => rfl

theorem Dropped.step {tx : Tx} (dropped : session.Dropped tx)
    (transition : Transition json session label next) (registered : session.Registered) :
    next.Dropped tx := by
  have returned : (session.handles tx).isSome := by
    obtain ⟨handle, found, -⟩ := Option.map_eq_some_iff.1 dropped
    rw [found]
    rfl
  by_cases drops : ∃ spawned, label = .dropTunnel tx spawned
  · obtain ⟨spawned, rfl⟩ := drops
    cases transition with
    | dropTunnel found kept free =>
        rw [Dropped, found, Option.map_some, kept] at dropped
        cases dropped
    | _ => exact dropped
  · rw [Dropped, dropped_kept transition registered returned fun spawned same =>
      drops ⟨spawned, same⟩]
    exact dropped

theorem inUse_step (transition : Transition json session label next)
    (registered : session.Registered) {tx : Tx} (used : session.inUse tx)
    (calm : ∀ spawned, label ≠ .dropTunnel tx spawned) : next.inUse tx := by
  have returned : (session.handles tx).isSome := by
    obtain ⟨handle, found, -⟩ := Option.map_eq_some_iff.1 used
    rw [found]
    rfl
  rw [inUse, dropped_kept transition registered returned calm]
  exact used

/-- Messages are sent to tunnels that were returned. -/
theorem known_sendsTo_step (transition : Transition json session label next)
    (registered : session.Registered)
    (known : ∀ tx ∈ session.accept.sendsTo, (session.standing tx).isSome) :
    ∀ tx ∈ next.accept.sendsTo, (next.standing tx).isSome := by
  have step := registryStep_of_transition transition
  have kept (same : ∀ tx ∈ next.accept.sendsTo, tx ∈ session.accept.sendsTo) :
      ∀ tx ∈ next.accept.sendsTo, (next.standing tx).isSome :=
    fun tx mem => known_step step (known tx (same tx mem))
  have nobody (none : next.accept.sendsTo = []) :
      ∀ tx ∈ next.accept.sendsTo, (next.standing tx).isSome := by
    rw [none]
    exact fun _ mem => absurd mem List.not_mem_nil
  have routed (key : String) (tun : BoundTunnel)
      (found : (session.inners session.current).tunnels.lookup key = some tun) :
      ∀ tx ∈ [tun.tx], (next.standing tx).isSome := by
    rintro tx mem
    cases List.mem_singleton.1 mem
    exact known_step step (registered.known _ key _ (mem_routes_iff.2 ⟨tun, found, rfl⟩))
  cases transition with
  | stopTunnel accept found =>
      rename_i order inner req tun
      obtain rfl : inner = session.current := registered.inner inner (by rw [accept]; rfl)
      exact routed _ tun found
  | deliver accept found =>
      rename_i order inner header tun
      obtain rfl : inner = session.current := registered.inner inner (by rw [accept]; rfl)
      exact routed _ tun found
  | startDrain accept perm =>
      intro tx mem
      obtain ⟨entry, entry_, rfl⟩ := List.mem_map.1 mem
      exact known_step step (registered.known session.current entry.1 _
        (List.mem_map.2 ⟨entry, perm.subset entry_, rfl⟩))
  | drainSent accept | drainLost accept =>
      refine kept fun tx mem => ?_
      rw [accept]
      exact List.mem_cons_of_mem _ mem
  | removeTunnel =>
      refine kept fun tx mem => ?_
      rwa [removeTunnel_accept] at mem
  | prune => exact nobody (by rw [pruneTunnel_accept]; rfl)
  | canceled | reconnectFailed =>
      refine nobody ?_
      simp only [reconnectFailed_accept]
      split <;> rfl
  | acceptEnded | transportFailed | stopRequested | connArrived | stalled | panicked | stopSent
  | sent | sendFailed | nothingToDo | connect | authenticate | authenticated | lock | sendRebind
  | rebindAnswered | unlock | swap | drained => exact nobody rfl
  | _ => exact kept fun _ => id

/-- The queue of a tunnel holds what is still to be received, unless its receiver was
dropped with it. -/
structure InOrder (session : Session) (tx : Tx) (heard : List (Except AcceptError ConnInner)) :
    Prop where
  order : heard ++ (session.channels tx).queue = session.taken tx ∨
    session.Dropped tx ∧ (session.channels tx).queue = [] ∧
      (session.channels tx).receiverOpen = false ∧ heard <+: session.taken tx
  fresh : session.standing tx = none →
    (session.channels tx).queue = [] ∧ session.taken tx = []

/-- What a step leaves alone for the messages of a tunnel. -/
structure Lasting (session next : Session) (tx : Tx) : Prop where
  dropped : session.Dropped tx → next.Dropped tx
  known : (session.standing tx).isSome → (next.standing tx).isSome

theorem Lasting.fresh {tx : Tx} (lasting : Lasting session next tx)
    (new : next.standing tx = none) : session.standing tx = none := by
  by_contra known
  have later := lasting.known (Option.isSome_iff_ne_none.2 known)
  rw [new] at later
  cases later

theorem lasting_of_transition (transition : Transition json session label next)
    (registered : session.Registered) (tx : Tx) : Lasting session next tx where
  dropped := fun dropped => dropped.step transition registered
  known := known_step (registryStep_of_transition transition)

theorem InOrder.of_channel {tx : Tx} {heard : List (Except AcceptError ConnInner)}
    (inOrder : session.InOrder tx heard) (same : next.channels tx = session.channels tx)
    (lasting : Lasting session next tx) : next.InOrder tx heard := by
  obtain ⟨order, fresh⟩ := inOrder
  refine ⟨?_, fun new => ?_⟩
  · rw [taken, same]
    exact order.imp_right fun ended => ⟨lasting.dropped ended.1, ended.2⟩
  · rw [taken, same]
    exact fresh (lasting.fresh new)

/-- A change of one channel that keeps the messages in order. -/
theorem InOrder.setChannel {tx other : Tx} {heard : List (Except AcceptError ConnInner)}
    (inOrder : session.InOrder tx heard) (change : TunnelChannel → TunnelChannel)
    (channels : next.channels =
      Function.update session.channels other (change (session.channels other)))
    (lasting : Lasting session next tx)
    (order : tx = other → heard ++ (change (session.channels tx)).queue =
        (change (session.channels tx)).taken ∨
      next.Dropped tx ∧ (change (session.channels tx)).queue = [] ∧
        (change (session.channels tx)).receiverOpen = false ∧
        heard <+: (change (session.channels tx)).taken)
    (fresh : tx = other → session.standing tx = none →
      (change (session.channels tx)).queue = [] ∧ (change (session.channels tx)).taken = []) :
    next.InOrder tx heard := by
  by_cases here : tx = other
  · subst here
    have changed : next.channels tx = change (session.channels tx) := by
      rw [channels, Function.update_self]
    refine ⟨?_, fun new => ?_⟩
    · rw [taken, changed]
      exact order rfl
    · rw [taken, changed]
      exact fresh rfl (lasting.fresh new)
  · exact inOrder.of_channel (by rw [channels, Function.update_of_ne here]) lasting

/-- A message is put at the end of the queue of a receiver. -/
theorem InOrder.push {tx other : Tx} {heard : List (Except AcceptError ConnInner)}
    (inOrder : session.InOrder tx heard) (known : (session.standing other).isSome)
    (receives : (session.channels other).receiverOpen = true)
    (message : Except AcceptError ConnInner) (accept : AcceptLoop) :
    (session.send other message accept).InOrder tx heard := by
  refine inOrder.setChannel (·.push message) rfl ⟨id, id⟩ ?_ ?_
  · rintro rfl
    obtain order | ⟨-, -, closed, -⟩ := inOrder.order
    · refine .inl ?_
      change heard ++ ((session.channels tx).queue ++ [message]) = session.taken tx ++ [message]
      rw [← order, List.append_assoc]
    · rw [receives] at closed
      cases closed
  · rintro rfl new
    rw [new] at known
    cases known

/-- All steps but the ones that take a message leave what was heard as it is. -/
theorem InOrder.calm {tx : Tx} {heard : List (Except AcceptError ConnInner)}
    (inOrder : session.InOrder tx heard) (transition : Transition json session label next)
    (registered : session.Registered)
    (known : ∀ tx ∈ session.accept.sendsTo, (session.standing tx).isSome)
    (calm : ∀ other, label ≠ .receive other) : next.InOrder tx heard := by
  have lasting := lasting_of_transition transition registered tx
  have sender {accept : AcceptLoop} {other : Tx} (accepts : session.accept = accept)
      (sends : other ∈ accept.sendsTo) : (session.standing other).isSome :=
    known other (accepts ▸ sends)
  cases transition with
  | startRequest call =>
      rename_i task inner cfg unlocked
      have channels : (session.startRequest task inner cfg).channels =
          Function.update session.channels session.nextTx .new := rfl
      by_cases here : tx = session.nextTx
      · have new : session.standing tx = none := by
          by_contra known
          have small := registered.bounded tx (Option.isSome_iff_ne_none.2 known)
          exact absurd here (Nat.ne_of_lt small)
        obtain ⟨idle, none⟩ := inOrder.fresh new
        have silent : heard = [] := by
          obtain order | ⟨-, -, -, order⟩ := inOrder.order
          · rw [none] at order
            exact (List.append_eq_nil_iff.1 order).1
          · rw [none] at order
            exact List.prefix_nil.1 order
        subst silent
        have empty : (session.startRequest task inner cfg).channels tx = .new := by
          rw [channels, here, Function.update_self]
        refine ⟨.inl ?_, fun _ => ?_⟩
        · rw [taken, empty]
          rfl
        · rw [taken, empty]
          exact ⟨rfl, rfl⟩
      · refine inOrder.of_channel ?_ lasting
        rw [channels, Function.update_of_ne here]
  | removeTunnel =>
      rename_i task inner id via call unlocked
      cases via with
      | session | dropped => exact inOrder.of_channel rfl lasting
      | tunnel other =>
          refine inOrder.setChannel (fun channel => { channel with receiverOpen := false }) rfl
            lasting (fun _ => ?_) (fun _ => inOrder.fresh)
          refine inOrder.order.imp_right fun ended => ?_
          exact ⟨lasting.dropped ended.1, ended.2.1, rfl, ended.2.2.2⟩
  | dropTunnel found kept free =>
      rename_i other spawned handle
      have handles : (session.dropHandle other spawned).handles = Function.update session.handles
          other ((session.handles other).map fun handle => { handle with dropped := true }) := rfl
      have dropped : tx = other → (session.dropHandle other spawned).Dropped tx := by
        rintro rfl
        rw [Dropped, handles, Function.update_self, found]
        rfl
      refine inOrder.setChannel
        (fun channel => { channel with queue := [], receiverOpen := false }) rfl lasting
        (fun here => .inr ⟨dropped here, rfl, rfl, ?_⟩)
        (fun _ new => ⟨rfl, (inOrder.fresh new).2⟩)
      obtain order | ⟨-, -, -, order⟩ := inOrder.order
      · exact ⟨_, order⟩
      · exact order
  | receive => exact absurd rfl (calm _)
  | sent accept room receives =>
      exact inOrder.push (sender accept (List.mem_singleton_self _)) receives _ _
  | stopSent accept room receives =>
      exact inOrder.push (sender accept (List.mem_singleton_self _)) receives _ _
  | drainSent accept room receives =>
      exact inOrder.push (sender accept List.mem_cons_self) receives _ _
  | prune =>
      refine inOrder.of_channel ?_ lasting
      rw [pruneTunnel_channels]
  | _ => exact inOrder.of_channel rfl lasting

/-- The owner of a tunnel hears the oldest message that it did not hear yet. -/
theorem InOrder.receive {tx : Tx} {heard : List (Except AcceptError ConnInner)}
    (inOrder : session.InOrder tx heard) (other : Tx) :
    (session.receive other).InOrder tx (heard ++ session.takes tx (.receive other)) := by
  have channels : (session.receive other).channels = Function.update session.channels other
      ((fun channel => { channel with queue := channel.queue.tail })
        (session.channels other)) := rfl
  by_cases here : other = tx
  · subst here
    have self : (session.receive other).channels other =
        { session.channels other with queue := (session.channels other).queue.tail } := by
      rw [channels, Function.update_self]
    refine ⟨?_, fun new => ?_⟩
    · rw [takes, if_pos rfl, taken, self]
      cases queue : (session.channels other).queue with
      | nil =>
          rw [List.head?_nil, Option.toList_none, List.append_nil]
          refine inOrder.order.imp (fun order => ?_) fun ended => ⟨ended.1, rfl, ended.2.2⟩
          rw [queue] at order
          exact order
      | cons message rest =>
          refine .inl ?_
          obtain order | ⟨-, idle, -⟩ := inOrder.order
          · rw [queue] at order
            rw [List.append_assoc]
            exact order
          · rw [queue] at idle
            cases idle
    · rw [taken, self]
      obtain ⟨idle, none⟩ := inOrder.fresh new
      exact ⟨by rw [idle]; rfl, none⟩
  · rw [takes, if_neg here, List.append_nil]
    refine inOrder.of_channel ?_ ⟨id, id⟩
    rw [channels, Function.update_of_ne (Ne.symm here)]

/-- All invariants of the messages of a tunnel. -/
structure Heard (session : Session) (tx : Tx) (heard : List (Except AcceptError ConnInner)) :
    Prop where
  lastWords : session.LastWords
  known : ∀ tx ∈ session.accept.sendsTo, (session.standing tx).isSome
  inOrder : session.InOrder tx heard

theorem heard_connected (builder : SessionBuilder) (tx : Tx) : (connected builder).Heard tx [] where
  lastWords := lastWords_connected builder
  known := fun _ mem => absurd mem List.not_mem_nil
  inOrder := ⟨.inl rfl, fun _ => ⟨rfl, rfl⟩⟩

theorem Heard.step {tx : Tx} {heard : List (Except AcceptError ConnInner)}
    (before : session.Heard tx heard) (json : Json Value) (label : Label) :
    (session.step json label).Heard tx (heard ++ session.takes tx label) := by
  have transition := transition_step json session label
  have registered := before.lastWords.registered
  refine ⟨before.lastWords.step transition, known_sendsTo_step transition registered before.known,
    ?_⟩
  cases label with
  | receive other => exact before.inOrder.receive other
  | _ =>
      refine (List.append_nil heard).symm ▸
        before.inOrder.calm transition registered before.known ?_
      rintro other ⟨⟩

theorem Heard.run {tx : Tx} {heard : List (Except AcceptError ConnInner)}
    (before : session.Heard tx heard) (json : Json Value) (labels : List Label) :
    (run (Session.step json) session labels).Heard tx
      (heard ++ received json tx session labels) := by
  induction labels generalizing session heard with
  | nil => simpa [received] using before
  | cons label labels ih =>
      rw [run_cons, received, ← List.append_assoc]
      exact ih (before.step json label)

theorem Heard.received {tx : Tx} {heard : List (Except AcceptError ConnInner)}
    (after : session.Heard tx heard) : heard <+: session.taken tx := by
  obtain order | ⟨-, -, -, order⟩ := after.inOrder.order
  · exact ⟨_, order⟩
  · exact order

theorem Heard.waiting {tx : Tx} {heard : List (Except AcceptError ConnInner)}
    (after : session.Heard tx heard) (used : session.inUse tx) :
    heard ++ (session.channels tx).queue = session.taken tx := by
  obtain order | ⟨dropped, -⟩ := after.inOrder.order
  · exact order
  · rw [Dropped, used] at dropped
    cases dropped

/-- In every run the owner of a tunnel receives the messages that were sent to it, in order
and each once, and what it did not receive yet waits for it until it drops the tunnel. The
messages are connections, with at most one error, which is the last of them. -/
theorem messages (builder : SessionBuilder) (json : Json Value) (labels : List Label) (tx : Tx) :
    let session := run (Session.step json) (connected builder) labels
    let heard := received json tx (connected builder) labels
    (Conns (session.taken tx) ∨ Ended (session.taken tx)) ∧ heard <+: session.taken tx ∧
      (session.inUse tx → heard ++ (session.channels tx).queue = session.taken tx) := by
  have heard := (heard_connected builder tx).run json labels
  rw [List.nil_append] at heard
  exact ⟨(heard.lastWords.words tx).imp_right And.left, heard.received, heard.waiting⟩

end Session

end Agent

end NgrokRust
