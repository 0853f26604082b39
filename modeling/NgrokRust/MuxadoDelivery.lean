import NgrokRust.MuxadoUndisturbed

/-!
# Reliable ordered delivery

What `poll_read` returns at one end of a stream is a prefix of what `poll_write` has
accepted at the other end.  As long as no task has ended and nothing was reset, a reader
that finds the end of the stream has got all of it.
-/

namespace NgrokRust

namespace Muxado

open LabelledRuns StreamEnd

theorem StreamEnd.Changes.fin_isOpen {actor : Actor} {before after : StreamEnd}
    (changes : Changes actor before after) (isOpen : after.stream.fin.isOpen = true) :
    before.stream.fin.isOpen = true := by
  induction changes with
  | refl => exact isOpen
  | tail _ change ih =>
      apply ih
      cases change <;> first | exact isOpen | cases isOpen

theorem payloads_filter_isData (frames : List Frame) :
    payloads (frames.filter Frame.isData) = payloads frames := by
  induction frames with
  | nil => rfl
  | cons frame rest ih =>
      cases isData : frame.isData with
      | true => rw [List.filter_cons_of_pos isData, payloads_cons, payloads_cons, ih]
      | false =>
          rw [List.filter_cons_of_neg (by simp [isData]), payloads_cons, ih,
            WriteHistory.payload_of_not_data isData, List.nil_append]

theorem payloads_grow {first second : List Frame} (longer : first <+: second) :
    payloads first <+: payloads second := by
  obtain ⟨rest, rfl⟩ := longer
  exact ⟨payloads rest, (payloads_append first rest).symm⟩

namespace Hub

/-- What a stream has received of the frames it has heard: its data is a prefix of theirs,
and nothing is missing while it is registered and no frame was refused. -/
structure Receipt (hub : Hub) (key : StreamKey) (frames : List Frame) : Prop where
  sublist : (hub.ends key).recvd.Sublist frames
  data : (hub.ends key).recvd.filter Frame.isData <+: frames.filter Frame.isData
  whole : ∀ handle, hub.entry key = some handle → handle.dataWriteClosed = false →
    (hub.ends key).stream.fin.isOpen = true → (hub.ends key).recvd = frames

namespace Receipt

variable {hub hub' : Hub} {key : StreamKey} {frames : List Frame}

/-- Nothing is received, and the stream stays as closed as it is. -/
theorem of_same (receipt : hub.Receipt key frames)
    (recvd : (hub'.ends key).recvd = (hub.ends key).recvd)
    (closed : ∀ handle', hub'.entry key = some handle' → handle'.dataWriteClosed = false →
      (hub'.ends key).stream.fin.isOpen = true → ∃ handle, hub.entry key = some handle ∧
        handle.dataWriteClosed = false ∧ (hub.ends key).stream.fin.isOpen = true) :
    hub'.Receipt key frames where
  sublist := by
    rw [recvd]
    exact receipt.sublist
  data := by
    rw [recvd]
    exact receipt.data
  whole := by
    intro handle' found' accepts' isOpen'
    obtain ⟨handle, found, accepts, isOpen⟩ := closed handle' found' accepts' isOpen'
    rw [recvd]
    exact receipt.whole handle found accepts isOpen

theorem of_missed (receipt : hub.Receipt key frames) (frame : Frame)
    (recvd : (hub'.ends key).recvd = (hub.ends key).recvd)
    (closed : ∀ handle', hub'.entry key = some handle' → handle'.dataWriteClosed = false →
      (hub'.ends key).stream.fin.isOpen = false) : hub'.Receipt key (frames ++ [frame]) where
  sublist := by
    rw [recvd]
    exact receipt.sublist.trans (List.sublist_append_left _ _)
  data := by
    rw [recvd, List.filter_append]
    exact receipt.data.trans (List.prefix_append _ _)
  whole := by
    intro handle' found' accepts' isOpen'
    rw [closed handle' found' accepts'] at isOpen'
    cases isOpen'

theorem passes (receipt : hub.Receipt key frames) {op : HubOp}
    (unheard : Session.Unheard hub key op)
    (step : hub.EntryStep key op hub') : hub'.Receipt key frames := by
  cases step with
  | keeps unsent same changes =>
      apply receipt.of_same changes.application_keeps.2.2.2.1
      intro handle' found' accepts' isOpen'
      exact ⟨handle', same ▸ found', accepts', changes.fin_isOpen isOpen'⟩
  | emits polls handle found frame rest queue found' target =>
      apply receipt.of_same (by rw [target])
      intro handle' is accepts' isOpen'
      rw [found'] at is
      obtain rfl := Option.some.inj is
      rw [target] at isOpen'
      exact ⟨handle, found, accepts', isOpen'⟩
  | finishes _ _ _ _ _ _ _ gone target =>
      apply receipt.of_same (by rw [target]; rfl)
      intro handle' found'
      rw [gone] at found'
      cases found'
  | ends _ _ _ _ _ _ gone target =>
      apply receipt.of_same (by rw [target]; rfl)
      intro handle' found'
      rw [gone] at found'
      cases found'
  | leaves gone _ _ recvd _ =>
      apply receipt.of_same recvd
      intro handle' found'
      rw [gone] at found'
      cases found'
  | sends is sending current own handle found handle' sending' spec found' after =>
      have nothing := unheard is sending current
      rw [found] at nothing
      generalize polledEq : (hub.pollSendToStream sending).1 = polled at spec nothing
      generalize targetEq : hub'.ends key = target at spec
      cases spec with
      | waiting accepts body fits =>
          apply receipt.of_same (by rw [targetEq])
          intro last foundLast accepts' isOpen'
          rw [found'] at foundLast
          obtain rfl := Option.some.inj foundLast
          rw [targetEq] at isOpen'
          exact ⟨handle, found, accepts', isOpen'⟩
      | reset error body =>
          apply receipt.of_same (by rw [targetEq]; rfl)
          intro last foundLast accepts'
          rw [found'] at foundLast
          obtain rfl := Option.some.inj foundLast
          cases accepts'
      | delivered accepts body fits isOpen =>
          rcases nothing with absent | other | pending | ⟨error, reset⟩
          · cases absent
          · exact absurd own other
          · cases pending
          · exact absurd reset (body error)
      | ignored error window refusal keeps =>
          apply receipt.of_same (by rw [targetEq])
          intro last foundLast accepts' isOpen'
          rw [found'] at foundLast
          obtain rfl := Option.some.inj foundLast
          rw [targetEq] at isOpen'
          exact ⟨handle, found, accepts', isOpen'⟩
      | refused error window refusal resets =>
          apply receipt.of_same (by rw [targetEq]; rfl)
          intro last foundLast accepts'
          rw [found'] at foundLast
          obtain rfl := Option.some.inj foundLast
          cases accepts'
  | closesWrite other handle found found' target =>
      apply receipt.of_same (by rw [target])
      intro handle' is accepts'
      rw [found'] at is
      obtain rfl := Option.some.inj is
      cases accepts'
  | silences other same target =>
      apply receipt.of_same (by rw [target]; rfl)
      intro handle' _ _ isOpen'
      rw [target] at isOpen'
      cases isOpen'

theorem hears (receipt : hub.Receipt key frames) {sending : Sending}
    (current : hub.sending = some sending) (shape : StreamFrame sending.frame)
    (own : sending.frame.header.streamId = (hub.ends key).id)
    (shrinks : sending.shrinkWindow ≤ sending.frame.payload.length)
    (answered : (hub.pollSendToStream sending).1 ≠ .pending)
    (step : hub.EntryStep key .pollSendToStream hub') : hub'.Receipt key
    (frames ++ [sending.frame]) := by
  cases step with
  | keeps unsent same changes =>
      apply receipt.of_missed _ changes.application_keeps.2.2.2.1
      intro handle' found'
      rcases unsent rfl with absent | other
      · rw [same, absent] at found'
        cases found'
      · exact absurd own (other sending current)
  | emits polls => obtain ⟨_, _, is⟩ := polls; cases is
  | finishes polls => obtain ⟨_, _, is⟩ := polls; cases is
  | ends polls => obtain ⟨_, _, is⟩ := polls; cases is
  | leaves gone _ _ recvd _ =>
      apply receipt.of_missed _ recvd
      intro handle' found'
      rw [gone] at found'
      cases found'
  | closesWrite other => exact absurd rfl other
  | silences other => exact absurd rfl other
  | sends _ sending' current' _ handle found handle' after spec found' _ =>
      obtain rfl := Option.some.inj (current.symm.trans current')
      generalize polledEq : (hub.pollSendToStream sending).1 = polled at spec answered
      generalize targetEq : hub'.ends key = target at spec
      have isHandle {last : StreamHandle} (foundLast : hub'.entry key = some last) : last = handle' :=
        Option.some.inj (foundLast.symm.trans found')
      cases spec with
      | waiting _ _ _ => exact absurd rfl answered
      | reset error body => exact absurd body (shape.body_ne_rst error)
      | delivered accepts body fits isOpen =>
          have recvd : (hub'.ends key).recvd = (hub.ends key).recvd ++ [sending.frame] := by
            rw [targetEq]
            rfl
          constructor
          · rw [recvd]
            exact receipt.sublist.append (List.Sublist.refl _)
          · rw [recvd, List.filter_append, List.filter_append]
            cases isData : sending.frame.isData with
            | false =>
                rw [List.filter_cons_of_neg (by simp [isData]), List.filter_nil, List.append_nil,
                  List.append_nil]
                exact receipt.data
            | true =>
                have typ : sending.frame.header.typ = .data := by
                  rw [shape.typ_eq]
                  rcases shape.deliverable with ⟨bytes, body⟩ | ⟨increment, body⟩
                  · rw [body]
                    rfl
                  · simp [Frame.isData, body] at isData
                have open_ : handle.dataWriteClosed = false := by
                  by_contra closed
                  exact accepts ⟨typ, by simpa using closed⟩
                rw [receipt.whole handle found open_ isOpen]
          · intro last foundLast accepts' _
            obtain rfl := isHandle foundLast
            rw [recvd, receipt.whole handle found accepts' isOpen]
      | ignored error window refusal keeps =>
          apply receipt.of_missed _ (by rw [targetEq])
          intro last foundLast accepts'
          obtain rfl := isHandle foundLast
          cases refusal with
          | closed typ closed =>
              rw [closed] at accepts'
              cases accepts'
          | overflow _ overflow =>
              rw [Sending.resets_of_overflow shape shrinks overflow] at keeps
              cases keeps
          | disconnected fits closed =>
              rw [targetEq]
              exact closed
      | refused error window refusal resets =>
          apply receipt.of_missed _ (by rw [targetEq]; rfl)
          intro last foundLast accepts'
          obtain rfl := isHandle foundLast
          cases accepts'

end Receipt

end Hub

namespace Connection

variable {builder : Side → SessionBuilder} {conn : Connection} {id : StreamID}

open Session

/-- If an id is not opened again while it is live, its streams receive the data that was
sent in order. -/
theorem receipt_of_reaches (runs : RunsAt id builder conn) (side : Side) {key : StreamKey}
    (existing : key < (conn side).hub.nextKey) (own : ((conn side).hub.ends key).id = id)
    {frames : List Frame} (heard : Heard (conn side.other) (conn side) key frames) :
    (conn side).hub.Receipt key frames := by
  refine heard_invariant Hub.Receipt (fun _ _ => True) (Session.opensUnusedAt id) (fun unused => unused)
    (fun unused => unused)
    (fun _ _ => trivial) ?_ runs side existing own heard
  intro peer session op key frames unused _ _ coupled own meets receipt
  cases meets with
  | opens needsSyn target found silent =>
      subst silent
      have recvd : ((session.step op).hub.ends key).recvd = [] := by
        rw [target]
        rfl
      exact ⟨by rw [recvd], by rw [recvd], fun _ _ _ _ => recvd⟩
  | stays existing heard hub =>
      rw [hub]
      exact receipt frames existing heard
  | passes existing heard hubOp hub unheard closing step =>
      exact (receipt frames existing heard).passes unheard step
  | hears existing frames heard sending current shape frames_eq own shrinks answered replies hub step =>
      subst frames_eq
      exact (receipt frames existing heard).hears current shape own shrinks answered step

theorem handledOf_grows (runs : RunsAt id builder conn) (side : Side) (key' : StreamKey) :
    handledOf (conn side.other) (conn side) key' <+: ((conn side.other).hub.ends key').sent := by
  rw [(linked_of_reaches runs side).peerLawful.addressed.sent key',
    framesOf_emitted (conn side.other) (conn side) key']
  exact List.prefix_append _ _

end Connection

/-- The buffer is empty and no further data is expected, which is what `poll_read` reports
as the end of the stream. -/
def Stream.EndReached (stream : Stream) : Prop :=
  stream.readBuf = [] ∧ stream.dataReadClosed = true

theorem Stream.endReached_of_pollRead {stream stream' : Stream} {cx : Waker} {remaining : Nat}
    (pos : 0 < remaining) (small : remaining < 2 ^ 32)
    (read : stream.pollRead cx remaining = .ok (.ready (.ok []), stream')) : stream'.EndReached :=
  ended_of_readLoop_nil pos small read

namespace StreamEnd

theorem returned_of_recvd {target : StreamEnd} (history : ReadHistory target) :
    target.returned <+: payloads target.recvd := by
  obtain ⟨taken, left, frames⟩ := history
  rw [frames.recvd, payloads_append, ← frames.bytes, List.append_assoc]
  exact List.prefix_append _ _

theorem exists_taken_fin {target : StreamEnd} (history : ReadHistory target)
    (ends : target.EndsWithFin) (reached : target.stream.EndReached) :
    ∃ taken, taken <+: target.recvd ∧ target.returned = payloads taken ∧
      ∃ frame ∈ taken, frame.isFin = true := by
  obtain ⟨taken, left, frames⟩ := history
  have bytes := frames.bytes
  rw [reached.1, List.append_nil] at bytes
  refine ⟨taken, ⟨left, frames.recvd.symm⟩, bytes, ?_⟩
  rcases frames.fin_or_closed reached.2 with fin | ⟨-, drained⟩
  · exact fin
  · have recvd := frames.recvd
    rw [drained, List.append_nil] at recvd
    exact recvd ▸ ends reached.2

/-- All that a stream has accepted comes before its first final frame. -/
theorem payloads_of_fin {sender : StreamEnd} (history : WriteHistory sender)
    {frames : List Frame} (data : frames.filter Frame.isData <+: sender.sent.filter Frame.isData)
    (sublist : frames.Sublist sender.sent) (fin : ∃ frame ∈ frames, frame.isFin = true) :
    payloads frames = sender.accepted := by
  obtain ⟨frame, member, isFin⟩ := fin
  have inSent := sublist.subset member
  rw [← history.finSent frame inSent isFin, ← payloads_filter_isData frames,
    ← payloads_filter_isData sender.sent]
  have isData := ((history.shape frame (List.mem_append_left _ inSent)).fin_data isFin).1
  obtain ⟨rest, split⟩ := data
  -- what is left after a final frame carries nothing
  have empty : payloads rest = [] := by
    have finLast : FinLast (sender.sent.filter Frame.isData) :=
      history.finLast.sublist (List.filter_sublist.trans (List.sublist_append_left _ _))
    rw [FinLast, ← split, List.pairwise_append] at finLast
    refine List.flatMap_eq_nil_iff.mpr fun later inRest => ?_
    have inData : later ∈ sender.sent.filter Frame.isData := by
      rw [← split]
      exact List.mem_append_right _ inRest
    exact (finLast.2.2 frame (List.mem_filter.mpr ⟨member, isData⟩) later inRest isFin
      (List.mem_filter.mp inData).2).2
  rw [← split, payloads_append, empty, List.append_nil]

end StreamEnd

namespace Connection

variable {builder : Side → SessionBuilder} {conn : Connection}

open Session StreamEnd in
theorem returned_of_twins {id : StreamID} (runs : RunsAt id builder conn) {side : Side}
    {key' key : StreamKey} (existing : key < (conn side).hub.nextKey)
    (own : ((conn side).hub.ends key).id = id) (twins : conn.Twins side key' key) :
    ((conn side).hub.ends key).returned <+: ((conn side.other).hub.ends key').accepted := by
  have linked := linked_of_reaches runs side
  have receipt := receipt_of_reaches runs side existing own (Or.inl ⟨key', twins, rfl⟩)
  have received : payloads ((conn side).hub.ends key).recvd <+:
      payloads (handledOf (conn side.other) (conn side) key') := by
    rw [← payloads_filter_isData, ← payloads_filter_isData (handledOf _ _ key')]
    exact payloads_grow receipt.data
  have sent := payloads_grow (handledOf_grows runs side key')
  exact (returned_of_recvd (linked.lawful.readHistory key)).trans
    (received.trans (sent.trans (linked.peerLawful.writeHistory key').sent))

open Session StreamEnd in
/-- While the connection is undisturbed, a stream that has reached its end has returned all
bytes that its twin has accepted. -/
theorem returned_eq_of_twins {id : StreamID} (runs : RunsAt id builder conn)
    (calm : conn.Undisturbed) {side : Side} {key' key : StreamKey}
    (existing : key < (conn side).hub.nextKey) (own : ((conn side).hub.ends key).id = id)
    (twins : conn.Twins side key' key)
    (reached : ((conn side).hub.ends key).stream.EndReached) :
    ((conn side).hub.ends key).returned = ((conn side.other).hub.ends key').accepted := by
  have linked := linked_of_reaches runs side
  have heard : Heard (conn side.other) (conn side) key _ := Or.inl ⟨key', twins, rfl⟩
  have receipt := receipt_of_reaches runs side existing own heard
  have intact := intact_of_reaches (calm_of_runs runs calm) side existing own heard
  obtain ⟨taken, before, returned, fin⟩ :=
    exists_taken_fin (linked.lawful.readHistory key) intact.ended reached
  have sent := handledOf_grows runs side key'
  rw [returned]
  apply payloads_of_fin (linked.peerLawful.writeHistory key') _ _ fin
  · exact (before.filter _).trans (receipt.data.trans (sent.filter _))
  · exact before.sublist.trans (receipt.sublist.trans sent.sublist)

/-- What a stream has returned is what its twin has accepted, in order and up to some
point, and a stream without a twin has returned nothing.  As long as the connection is
undisturbed, nothing is missing at the end. -/
structure Delivers (conn : Connection) (side : Side) (key : StreamKey) : Prop where
  inOrder : ∀ key', conn.Twins side key' key →
    ((conn side).hub.ends key).returned <+: ((conn side.other).hub.ends key').accepted
  alone : (∀ key', ¬ conn.Twins side key' key) → ((conn side).hub.ends key).returned = []
  whole : ∀ key', conn.Twins side key' key → conn.Undisturbed →
    ((conn side).hub.ends key).stream.EndReached →
      ((conn side).hub.ends key).returned = ((conn side.other).hub.ends key').accepted

open Session StreamEnd in
/-- Reliable ordered delivery, for every stream of either side in every run. -/
theorem delivers (runs : Runs builder conn) {side : Side} {key : StreamKey}
    (existing : key < (conn side).hub.nextKey) : conn.Delivers side key := by
  have runsAt := runs.at ((conn side).hub.ends key).id
  have linked := linked_of_reaches runs side
  have reads := linked.lawful.readHistory key
  constructor
  case inOrder => exact fun key' twins => returned_of_twins runsAt existing rfl twins
  case alone =>
    intro alone
    have receipt := receipt_of_reaches runsAt side existing rfl (Or.inr ⟨alone, rfl⟩)
    have returned := returned_of_recvd reads
    rw [List.sublist_nil.mp receipt.sublist] at returned
    exact List.prefix_nil.mp returned
  case whole =>
    intro key' twins calm reached
    exact returned_eq_of_twins runsAt calm existing rfl twins reached

/-- The client opens a stream, writes three bytes and ends its side; the server accepts
the stream and reads to the end. -/
def threeBytes : List ConnectionOp :=
  [.act .client .open, .act .client .serveOpen,
    .act .client (.stream 0 (.pollWrite 0 [1, 2, 3])), .act .client (.stream 0 .pollShutdown),
    .act .client (.pollNext (some 0) 0 none), .act .client (.pollNext (some 0) 0 none),
    .transport .server 19, .act .server .readFrame, .act .server .readerStep,
    .act .server .readerStep, .act .server .readerStep, .act .server .readerStep,
    .act .server .readerStep, .act .server .readFrame, .act .server .readerStep,
    .act .server .readerStep, .act .server .readerStep, .act .server (.accept 0),
    .act .server (.stream 0 (.pollRead 0 8)), .act .server (.stream 0 (.pollRead 0 8))]

/-- Both sides have windows of four bytes. -/
def fourBytes : Side → SessionBuilder := fun _ => ⟨4, 4, 4⟩

theorem runs_threeBytes :
    Runs fourBytes (run Connection.step (Connection.new fourBytes) threeBytes) := by
  apply reaches_run
  refine ⟨trivial, fun _ => Or.inr ⟨?_, ?_⟩, trivial, trivial, trivial, trivial, trivial, trivial,
    trivial, trivial, trivial, trivial, trivial, trivial, trivial, trivial, trivial, trivial,
    trivial, trivial, trivial⟩
  · rintro (⟨handle, found⟩ | ⟨key, frame, flies, -⟩)
    · cases found
    · cases flies
  · rintro (⟨handle, found⟩ | ⟨key, frame, flies, -⟩)
    · cases found
    · cases flies

theorem delivers_threeBytes :
    (run Connection.step (Connection.new fourBytes) threeBytes).Delivers .server 0 :=
  delivers runs_threeBytes (by decide +kernel)

-- the server has read to the end and returned what the client has accepted
example : let conn := run Connection.step (Connection.new fourBytes) threeBytes
    ((conn .server).hub.ends 0).stream.readBuf = [] ∧
      ((conn .server).hub.ends 0).stream.dataReadClosed = true ∧
      ((conn .server).hub.ends 0).returned = [1, 2, 3] := by
  decide +kernel

end Connection

end Muxado

end NgrokRust
