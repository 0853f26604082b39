import NgrokRust.MuxadoHeard

/-!
# Undisturbed runs

A session that is undisturbed has been so from the start: a task that has ended does not
come back, and an RST or a GOAWAY that is about to be sent stays on its way.  In a run of
undisturbed sessions every stream that is not dropped is registered with open channels,
and all that its twin has sent and the session has handled is on its side.
-/

namespace NgrokRust

namespace Muxado

open LabelledRuns StreamEnd

namespace Session

variable {peer session : Session} {op : SessionOp}

/-- A read task that has ended does nothing any more. -/
theorem step_reader_of_ended (ended : session.reader.ended = true) (op : SessionOp) :
    (session.step op).reader = session.reader := by
  have notIdle : session.reader ≠ .idle := by
    intro idle
    rw [idle] at ended
    cases ended
  cases op with
  | readFrame => rw [step, if_neg notIdle]
  | readEnd => rw [step, if_neg notIdle]
  | cancelReader => rw [step, if_pos ended]
  | readerStep =>
      have stays : session.readerStep = session := by
        cases reader : session.reader <;> rw [reader] at ended <;>
          first
            | (cases ended; done)
            | simp only [readerStep, reader]
      rw [step, stays]
  | pollNext pick cx link =>
      rw [step]
      split
      · rw [pollNext]
        split
        · rfl
        · split <;> rfl
        · rfl
      · rfl
  | serveOpen =>
      rw [step]
      split
      · rw [serveOpen]
        split <;> rfl
      · rfl
  | dropAccepted =>
      rw [step]
      split <;> rfl
  | recv _ => rfl
  | closeSend _ _ => rfl
  | dropAccept => rfl
  | _ =>
      rw [step]
      split <;> rfl

namespace Undisturbed

theorem of_step (lawful : session.Lawful) (calm : (session.step op).Undisturbed) :
    session.Undisturbed := by
  have spec := session.step_spec lawful.sending op
  have stays := fun ended => @step_reader_of_ended session ended op
  generalize session.step op = session' at spec calm stays
  have longer := spec.emitted_grows
  have silent : ∀ frame, (none, frame) ∉ session.hub.emitted := fun frame member =>
    calm.noneSent frame (longer.subset member)
  have queue : session.hub.manager.sysRx ⊆ session'.hub.manager.sysRx := by
    cases spec.queues with
    | same sysRx => rw [sysRx]; exact List.Subset.refl _
    | replies _ _ sysRx => rw [sysRx]; exact List.subset_append_left _ _
    | closes _ _ _ sysRx => rw [sysRx]; exact List.subset_append_left _ _
    | takes head rest queued before emitted sysRx =>
        exact absurd (by simp [emitted]) (calm.noneSent (before.nextSystemFrame head).1)
  constructor
  case reader =>
    by_contra ended
    have ended := Bool.eq_true_of_not_eq_false ended
    have after := calm.reader
    rw [stays ended, ended] at after
    cases after
  case writer =>
    cases spec.writes with
    | nothing _ _ writer => exact writer calm.writer
    | frame _ running _ _ _ _ _ => exact running
  case noneQueued =>
    rw [calm.noneQueued] at queue
    exact List.subset_nil.mp queue
  case noneSent => exact silent
  case noReply =>
    intro frame replying
    have noHand : ∀ hand, session.reader.hand ≠ some hand := by
      rw [replying]
      exact fun _ is => by cases is
    have different {reader : Reader} (is : session.reader = reader)
        (other : reader ≠ .sysSending frame) : False := other (is.symm.trans replying)
    have same (reader : session'.reader = session.reader) : False :=
      calm.noReply frame (reader.trans replying)
    cases spec with
    | recv _ => exact same rfl
    | waits idle _ _ _ => exact different idle (by simp)
    | takes idle _ _ _ _ => exact different idle (by simp)
    | accepts _ reader _ _ _ _ => exact different reader (by simp)
    | advances _ frame hand _ _ _ _ _ _ _ _ => exact noHand frame hand
    | routes _ reader _ _ _ => exact different reader (by simp)
    | pends _ reader _ _ _ _ _ => exact different reader (by simp)
    | delivers _ reader _ _ _ _ _ => exact different reader (by simp)
    | refuses _ reader _ _ _ _ _ _ => exact different reader (by simp)
    | answers _ reader _ _ _ _ => exact different reader (by simp)
    | closes _ reader => exact different reader (by simp)
    | replies system reader =>
        have queued := calm.noneQueued
        simp [Hub.step, Hub.sysSend] at queued
    | leaves _ _ _ _ noReply _ _ _ => exact noReply frame replying
    | ends _ _ ended _ _ _ =>
        have running := calm.reader
        rw [ended] at running
        cases running
    | polls _ _ _ _ _ _ _ reader _ => exact same reader
    | emits _ _ _ _ _ _ _ _ _ _ _ => exact same rfl
    | serves _ _ _ _ _ _ => exact same rfl
    | closeSends _ _ => exact same rfl
    | outside _ _ reader _ _ => exact same reader

end Undisturbed

end Session

namespace Connection

variable {builder : Side → SessionBuilder} {conn : Connection} {id : StreamID}

/-- The guard of runs in which the id is not opened again while it is live, and that stay
undisturbed. -/
def staysCalm (id : StreamID) (conn : Connection) (op : ConnectionOp) : Prop :=
  conn.opensUnusedAt id op ∧ conn.Undisturbed ∧ (conn.step op).Undisturbed

theorem undisturbed_of_step (lawful : ∀ side, (conn side).Lawful) {op : ConnectionOp}
    (calm : (conn.step op).Undisturbed) : conn.Undisturbed := by
  intro side
  cases op with
  | transport actor count =>
      have after := calm side
      by_cases own : side = actor
      · subst own
        simp only [step, Function.update_self] at after
        exact { after with }
      · obtain rfl := Side.eq_other_of_ne own
        simp only [step, Function.update_of_ne (Side.other_ne actor), Function.update_self] at after
        exact { after with }
  | act actor op =>
      by_cases recv : ∃ bytes, op = .recv bytes
      · obtain ⟨bytes, rfl⟩ := recv
        exact calm side
      · have after := calm side
        rw [step_act fun bytes is => recv ⟨bytes, is⟩] at after
        by_cases own : side = actor
        · subst own
          rw [Function.update_self] at after
          exact .of_step (lawful side) after
        · rw [Function.update_of_ne own] at after
          exact after

theorem calm_of_runs (runs : RunsAt id builder conn) (calm : conn.Undisturbed) :
    Reaches step (staysCalm id) (new builder) conn := by
  induction runs with
  | refl => exact .refl
  | @tail conn later earlier edge ih =>
      obtain ⟨op, unused, rfl⟩ := edge
      have before := undisturbed_of_step (fun side => (linked_of_reaches earlier side).lawful) calm
      exact (ih before).tail ⟨op, ⟨unused, before, calm⟩, rfl⟩

end Connection

def Session.staysCalm (id : StreamID) (peer session : Session) (op : SessionOp) : Prop :=
  opensUnusedAt id peer session op ∧ peer.Undisturbed ∧ (session.step op).Undisturbed

theorem Connection.staysCalm.session {conn : Connection} {id : StreamID} {side : Side}
    {op : SessionOp} (calm : conn.staysCalm id (.act side op)) :
    Session.staysCalm id (conn side.other) (conn side) op := by
  obtain ⟨unused, before, after⟩ := calm
  refine ⟨unused, before side.other, ?_⟩
  by_cases recv : ∃ bytes, op = .recv bytes
  · obtain ⟨bytes, rfl⟩ := recv
    exact { before side with }
  · have after := after side
    rw [Connection.step_act fun bytes is => recv ⟨bytes, is⟩, Function.update_self] at after
    exact after

namespace Hub

/-- The manager goes away only if the session closes it or it yields a GOAWAY. -/
theorem step_alive {hub : Hub} {op : HubOp} (alive : hub.manager.goneAway = false)
    (keeps : op.closing = false) (silent : ∀ frame, (none, frame) ∉ (hub.step op).emitted) :
    (hub.step op).manager.goneAway = false := by
  have spec := hub.step_spec op
  generalize hub.step op = hub' at spec silent
  cases spec with
  | created _ _ _ _ _ _ opened =>
      obtain ⟨-, -, -, -, -, -, -, gone, -⟩ := createStream_eq_ok opened
      rw [gone]
      exact alive
  | pollSend _ _ _ _ spec => cases spec <;> exact alive
  | system _ _ _ frame rest queued =>
      obtain ⟨emitted, -⟩ := SystemFrames.nextSystemFrame_eq ((hub.storeWaker _).setSysRx rest) frame
      rw [emitted] at silent
      exact absurd (List.mem_append_right _ (List.mem_singleton_self _)) (silent _)
  | next _ _ _ _ _ _ _ _ _ _ _ _ _ _ _ spec =>
      rw [(next_rest spec).2.1]
      exact alive
  | goAway _ => cases keeps
  | _ => exact alive

end Hub

/-- The manager is there, and the channel to every registered stream that is not dropped
is open. -/
structure Session.Standing (session : Session) : Prop where
  alive : session.hub.manager.goneAway = false
  isOpen : session.hub.ChannelsOpen

namespace Session

variable {peer session : Session} {op : SessionOp} {id : StreamID}

theorem staysCalm.closing (calm : staysCalm id peer session op) (linked : Linked peer session)
    {hubOp : HubOp} (closing : hubOp.closing = true →
      (session.step op).reader.ended = true ∨ ∃ error, session.reader = .goingAway error) :
    hubOp.closing = false := by
  by_contra closes
  rcases closing (by simpa using closes) with ended | ⟨error, reader⟩
  · have running := calm.2.2.reader
    rw [ended] at running
    cases running
  · obtain ⟨frame, sent⟩ := linked.forth.goAway (Or.inr ⟨error, reader⟩)
    exact calm.2.1.noneSent frame sent

theorem Standing.step (standing : session.Standing) (linked : Linked peer session)
    (calm : staysCalm id peer session op) : (session.step op).Standing := by
  have addressed := linked.lawful.addressed
  have spec := session.step_spec linked.lawful.sending op
  have silent := calm.2.2.noneSent
  have of_step {hubOp : HubOp} (hub : (session.step op).hub = session.hub.step hubOp)
      (keeps : hubOp.closing = false) : (session.step op).Standing := by
    rw [hub] at silent
    constructor
    · rw [hub]
      exact Hub.step_alive standing.alive keeps silent
    · rw [hub]
      refine standing.isOpen.step addressed ?_
      rintro rfl
      cases keeps
  cases spec.progresses with
  | keeps _ _ hub =>
      rcases hub with same | ⟨hubOp, hub, -, closing⟩
      · exact ⟨same ▸ standing.alive, same ▸ standing.isOpen⟩
      · exact of_step hub (calm.closing linked closing)
  | routes _ _ _ _ _ _ hub => exact of_step hub rfl
  | waits _ _ _ _ hub => exact of_step hub rfl
  | settles _ _ _ _ hub _ => exact of_step hub rfl
  | answers _ _ _ _ _ hub => exact ⟨hub ▸ standing.alive, hub ▸ standing.isOpen⟩

end Session

open Session in
theorem Connection.standing_of_reaches {builder : Side → SessionBuilder} {conn : Connection}
    {id : StreamID} (runs : Reaches Connection.step (staysCalm id) (new builder) conn)
    (side : Side) : (conn side).Standing := by
  refine (pairs_invariant Linked (fun peer session => peer.Standing ∧ session.Standing)
    (Session.staysCalm id) staysCalm.session linked_of_reaches And.symm ?_ ?_ ?_ runs side).2
  · intro side
    have standing (builder : SessionBuilder) (client : Bool) :
        (Session.new builder.window builder.acceptQueueSize builder.streamLimit client).Standing :=
      ⟨rfl, fun id handle found => by simp [Session.new, Hub.new, Hub.getStream] at found⟩
    exact ⟨standing _ _, standing _ _⟩
  · rintro peer session op _ calm linked _ ⟨peerStanding, standing⟩
    exact ⟨peerStanding, standing.step linked calm⟩
  · rintro peer session count _ ⟨peerStanding, standing⟩
    exact ⟨{ peerStanding with }, { standing with }⟩

namespace StreamEnd

def Running (target : StreamEnd) : Prop :=
  target.dropped = false → target.stream.fout.closer.code = 0 ∧
    target.stream.fin.isOpen = true ∧ target.stream.fout.sink.isOpen = true

def EndsWithFin (target : StreamEnd) : Prop :=
  target.stream.dataReadClosed = true → ∃ frame ∈ target.recvd, frame.isFin = true

theorem Running.change {before after : StreamEnd} (change : Change .application before after)
    (running : before.Running) : after.Running := by
  intro held'
  cases change with
  | disconnect held closed =>
      have isOpen := (running held).2.2
      rw [closed] at isOpen
      cases isOpen
  | drop held => cases held'
  | _ => exact running held'

theorem EndsWithFin.change {before after : StreamEnd} (change : Change .application before after)
    (history : ReadHistory before) (running : before.Running) (law : before.EndsWithFin) :
    after.EndsWithFin := by
  intro closed'
  cases change with
  | ingest frame rest held queue kind =>
      rcases Bool.or_eq_true _ _ ▸ closed' with closed | isFin
      · exact law closed
      · obtain ⟨taken, left, frames⟩ := history
        refine ⟨frame, ?_, isFin⟩
        have waiting : frame ∈ left := by
          rw [← frames.queue held, queue]
          exact List.mem_cons_self
        simp only [frames.recvd]
        exact List.mem_append_right _ waiting
  | seeClosed held queue closed =>
      have isOpen := (running held).2.1
      rw [closed] at isOpen
      cases isOpen
  | _ => exact law closed'

theorem Running.changes {before after : StreamEnd} (changes : Changes .application before after)
    (history : ReadHistory before) (running : before.Running) (law : before.EndsWithFin) :
    after.Running ∧ after.EndsWithFin := by
  have all : ReadHistory after ∧ after.Running ∧ after.EndsWithFin := by
    induction changes with
    | refl => exact ⟨history, running, law⟩
    | tail _ change ih =>
        obtain ⟨history, running, law⟩ := ih
        exact ⟨history.change change, running.change change, law.change change history running⟩
  exact all.2

end StreamEnd

namespace Hub

/-- A stream that is not dropped is registered, can read and write, and has received all
that it has heard. -/
structure Intact (hub : Hub) (key : StreamKey) (frames : List Frame) : Prop where
  registered : (hub.ends key).dropped = false → ∃ handle, hub.entry key = some handle
  running : (hub.ends key).Running
  ended : (hub.ends key).EndsWithFin
  whole : (hub.ends key).dropped = false →
    payloads (hub.ends key).recvd = payloads frames ∧ credits (hub.ends key).recvd = credits frames

namespace Intact

variable {hub hub' : Hub} {key : StreamKey} {frames : List Frame}

theorem of_dropped (intact : hub.Intact key frames) (frames' : List Frame)
    (dropped : (hub'.ends key).dropped = true)
    (closed : (hub'.ends key).stream.dataReadClosed = (hub.ends key).stream.dataReadClosed)
    (recvd : (hub'.ends key).recvd = (hub.ends key).recvd) : hub'.Intact key frames' := by
  have notHeld (held : (hub'.ends key).dropped = false) : False := by
    rw [dropped] at held
    cases held
  refine ⟨fun held => (notHeld held).elim, fun held => (notHeld held).elim, ?_,
    fun held => (notHeld held).elim⟩
  intro closed'
  rw [recvd]
  exact intact.ended (closed ▸ closed')

/-- The stream stays registered, and its end keeps what the application sees of it. -/
theorem of_entry (intact : hub.Intact key frames) {handle' : StreamHandle}
    (found' : hub'.entry key = some handle')
    (dropped : (hub'.ends key).dropped = (hub.ends key).dropped)
    (code : (hub'.ends key).stream.fout.closer = (hub.ends key).stream.fout.closer)
    (fin : (hub'.ends key).stream.fin.isOpen = (hub.ends key).stream.fin.isOpen)
    (sink : (hub'.ends key).stream.fout.sink.isOpen = (hub.ends key).stream.fout.sink.isOpen)
    (closed : (hub'.ends key).stream.dataReadClosed = (hub.ends key).stream.dataReadClosed)
    (more : List Frame) {frames' : List Frame}
    (recvd : (hub'.ends key).recvd = (hub.ends key).recvd ++ more)
    (whole : payloads frames' = payloads frames ++ payloads more ∧
      credits frames' = credits frames + credits more) : hub'.Intact key frames' where
  registered := fun _ => ⟨handle', found'⟩
  running := by
    rw [Running, dropped, code, fin, sink]
    exact intact.running
  ended := by
    intro closed'
    obtain ⟨frame, member, isFin⟩ := intact.ended (closed ▸ closed')
    rw [recvd]
    exact ⟨frame, List.mem_append_left _ member, isFin⟩
  whole := by
    intro held
    obtain ⟨bytes, credit⟩ := intact.whole (dropped ▸ held)
    rw [recvd, payloads_append, credits_append, bytes, credit]
    exact ⟨whole.1.symm, whole.2.symm⟩

theorem keeps (intact : hub.Intact key frames) (history : ReadHistory (hub.ends key))
    (frames' : List Frame) (same : hub'.entry key = hub.entry key)
    (changes : Changes .application (hub.ends key) (hub'.ends key))
    (whole : (hub.ends key).dropped = false → payloads frames' = payloads frames ∧
      credits frames' = credits frames) : hub'.Intact key frames' := by
  obtain ⟨running, ended⟩ := StreamEnd.Running.changes changes history intact.running intact.ended
  have before (held : (hub'.ends key).dropped = false) := (isOpen_of_application changes held).1
  refine ⟨fun held => ?_, running, ended, fun held => ?_⟩
  · rw [same]
    exact intact.registered (before held)
  · rw [changes.application_keeps.2.2.2.1, (whole (before held)).1, (whole (before held)).2]
    exact intact.whole (before held)

theorem dropped_of_ended (intact : hub.Intact key frames)
    (reason : (hub.ends key).isClosed = true ∨ (hub.ends key).stream.fout.sink.queue = [] ∧
      (hub.ends key).stream.fout.sink.isOpen = false) : (hub.ends key).dropped = true := by
  by_contra held
  obtain ⟨code, -, isOpen⟩ := intact.running (by simpa using held)
  rcases reason with closed | ⟨-, closed⟩
  · simp [StreamEnd.isClosed, SinkCloser.isClosed, code] at closed
  · rw [isOpen] at closed
    cases closed

theorem passes (intact : hub.Intact key frames) (history : ReadHistory (hub.ends key)) {op : HubOp}
    (unheard : Session.Unheard hub key op) (notClosing : op.closing = false)
    (noReset : ∀ sending, hub.sending = some sending → ∀ error, sending.frame.body ≠ .rst error)
    (alive' : hub'.manager.goneAway = false) (isOpen' : hub'.ChannelsOpen)
    (step : hub.EntryStep key op hub') : hub'.Intact key frames := by
  cases step with
  | keeps unsent same changes => exact intact.keeps history frames same changes fun _ => ⟨rfl, rfl⟩
  | emits polls handle found frame rest queue found' target =>
      apply intact.of_entry found' _ _ _ _ _ [] <;> simp [target]
  | finishes polls handle found needsFin alive queue closed gone target =>
      apply intact.of_dropped frames _ (by rw [target]; rfl) (by rw [target]; rfl)
      rw [target]
      exact intact.dropped_of_ended (Or.inr ⟨queue, closed⟩)
  | ends polls handle found noFin reason _ gone target =>
      apply intact.of_dropped frames _ (by rw [target]; rfl) (by rw [target]; rfl)
      rw [target]
      exact intact.dropped_of_ended reason
  | leaves gone reason _ _ _ =>
      rcases reason with goneAway | rfl
      · rw [alive'] at goneAway
        cases goneAway
      · cases notClosing
  | sends is sending current own handle found handle' sending' spec found' after =>
      have nothing := unheard is sending current
      rw [found] at nothing
      have noReset := noReset sending current
      generalize polledEq : (hub.pollSendToStream sending).1 = polled at spec nothing
      generalize targetEq : hub'.ends key = target at spec
      have pending : polled = .pending := by
        rcases nothing with absent | other | pending | ⟨error, reset⟩
        · cases absent
        · exact absurd own other
        · exact pending
        · exact absurd reset (noReset error)
      cases spec with
      | waiting accepts body fits =>
          apply intact.of_entry found' _ _ _ _ _ [] <;> simp [targetEq]
      | _ => cases pending
  | closesWrite other handle found found' target =>
      apply intact.of_entry found' _ _ _ _ _ [] <;> simp [target]
  | silences other same target =>
      apply intact.of_dropped frames _ (by rw [target]; rfl) (by rw [target]; rfl)
      by_contra held
      have held : (hub'.ends key).dropped = false := by simpa using held
      obtain ⟨handle, found⟩ := intact.registered (by rw [target] at held; exact held)
      obtain ⟨registered, own⟩ := entry_eq_some.mp (same.trans found)
      have isOpen := isOpen' _ handle registered (by rw [own]; exact held)
      rw [own, target] at isOpen
      cases isOpen

/-- A frame that is not refused carries nothing, or is received. -/
theorem hears (intact : hub.Intact key frames) (history : ReadHistory (hub.ends key))
    {sending : Sending} (current : hub.sending = some sending) (shape : StreamFrame sending.frame)
    (own : sending.frame.header.streamId = (hub.ends key).id)
    (shrinks : sending.shrinkWindow ≤ sending.frame.payload.length)
    (answered : (hub.pollSendToStream sending).1 ≠ .pending)
    (served : ∀ error, (hub.pollSendToStream sending).1 ≠ .ready (.error error))
    (alive' : hub'.manager.goneAway = false)
    (step : hub.EntryStep key .pollSendToStream hub') : hub'.Intact key
    (frames ++ [sending.frame]) := by
  cases step with
  | keeps unsent same changes =>
      refine intact.keeps history _ same changes fun held => ?_
      obtain ⟨handle, found⟩ := intact.registered held
      rcases unsent rfl with absent | other
      · rw [absent] at found
        cases found
      · exact absurd own (other sending current)
  | emits polls => obtain ⟨_, _, is⟩ := polls; cases is
  | finishes polls => obtain ⟨_, _, is⟩ := polls; cases is
  | ends polls => obtain ⟨_, _, is⟩ := polls; cases is
  | leaves _ reason _ _ _ =>
      rcases reason with goneAway | is
      · rw [alive'] at goneAway
        cases goneAway
      · cases is
  | closesWrite other => exact absurd rfl other
  | silences other => exact absurd rfl other
  | sends _ sending' current' _ handle found handle' after spec found' _ =>
      obtain rfl := Option.some.inj (current.symm.trans current')
      generalize polledEq : (hub.pollSendToStream sending).1 = polled at spec answered served
      generalize targetEq : hub'.ends key = target at spec
      cases spec with
      | waiting _ _ _ => exact absurd rfl answered
      | reset error body => exact absurd body (shape.body_ne_rst error)
      | delivered accepts body fits isOpen =>
          apply intact.of_entry found' _ _ _ _ _ [sending.frame] <;>
            simp [targetEq, StreamEnd.receive]
      | refused error _ _ _ => exact absurd rfl (served error)
      | ignored error window refusal keeps =>
          have nothing (empty : sending.frame.payload = [] ∧ sending.frame.credit = 0) :
              hub'.Intact key (frames ++ [sending.frame]) := by
            apply intact.of_entry found' _ _ _ _ _ [] <;> simp [targetEq, empty.1, empty.2]
          cases refusal with
          | closed typ _ => exact nothing (Sending.empty_of_keeps shape typ keeps)
          | overflow _ overflow =>
              rw [Sending.resets_of_overflow shape shrinks overflow] at keeps
              cases keeps
          | disconnected _ closed =>
              apply intact.of_dropped _ _ (by rw [targetEq]) (by rw [targetEq])
              rw [targetEq]
              by_contra held
              have isOpen := (intact.running (by simpa using held)).2.1
              rw [closed] at isOpen
              cases isOpen

end Intact

end Hub

open Session in
/-- In an undisturbed run every stream is intact. -/
theorem Connection.intact_of_reaches {builder : Side → SessionBuilder} {conn : Connection}
    {id : StreamID} (runs : Reaches Connection.step (staysCalm id) (new builder) conn)
    (side : Side) {key : StreamKey} (existing : key < (conn side).hub.nextKey)
    (own : ((conn side).hub.ends key).id = id) {frames : List Frame}
    (heard : Heard (conn side.other) (conn side) key frames) :
    (conn side).hub.Intact key frames := by
  refine heard_invariant Hub.Intact
    (fun peer session => session.Lawful ∧ session.Standing) (Session.staysCalm id)
    staysCalm.session And.left
    (fun runs side => ⟨(linked_of_reaches runs side).lawful, standing_of_reaches runs side⟩)
    ?_ runs side existing own heard
  intro peer session op key frames calm ⟨lawful, _⟩ ⟨_, standing'⟩ coupled own meets intact
  cases meets with
  | opens needsSyn target found silent =>
      subst silent
      refine ⟨fun _ => ⟨_, found⟩, ?_, ?_, ?_⟩
      · rw [target]
        exact fun _ => ⟨rfl, rfl, rfl⟩
      · rw [target]
        exact fun closed => by cases closed
      · rw [target]
        exact fun _ => ⟨rfl, rfl⟩
  | stays existing heard hub =>
      rw [hub]
      exact intact frames existing heard
  | passes existing heard hubOp hub unheard closing step =>
      refine (intact frames existing heard).passes (lawful.readHistory key) unheard
        (calm.closing coupled.related.linked closing) ?_ standing'.alive standing'.isOpen step
      -- a reset would have been sent by the peer
      intro sending current error reset
      rcases coupled.progress.origin coupled.related.linked current with ⟨_, _, shape⟩ | ⟨at_, -⟩
      · exact shape.body_ne_rst error reset
      · exact calm.2.1.noneSent _ (List.mem_of_getElem? at_)
  | hears existing frames heard sending current shape frames_eq own shrinks answered replies hub step =>
      subst frames_eq
      refine (intact frames existing heard).hears (lawful.readHistory key) current shape own shrinks
        answered ?_ standing'.alive step
      intro error refused
      obtain ⟨reply, replying⟩ := replies error refused
      exact calm.2.2.noReply reply replying

end Muxado

end NgrokRust
