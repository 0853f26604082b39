import NgrokRust.MuxadoHeard
import NgrokRust.MuxadoStreamReset

/-!
# Frames on the channels of streams

The read task hands a frame to `send_to_stream`, which looks at its body, at its type and
at the handle of its stream before it puts the frame on the channel of that stream.  All
frames that come from the decoder are followed here: what gets onto a channel is data or a
window increment, and no frame gets there twice.
-/

namespace NgrokRust

namespace Muxado

open LabelledRuns

namespace Frame

def Decoded (frame : Frame) : Prop :=
  ∃ header body, decodeFrame header body = .ok frame

theorem Decoded.headerType {frame : Frame} (decoded : frame.Decoded)
    (routable : frame.body.routable = true) : frame.header.typ = frame.body.headerType := by
  obtain ⟨header, body, decodes⟩ := decoded
  obtain ⟨rfl, ⟨-, typ⟩ | ⟨error, -, invalid⟩⟩ := headerType_of_decodeFrame decodes
  · exact typ.symm
  · rw [invalid] at routable
    cases routable

theorem Decoded.unroutable {frame : Frame} (decoded : frame.Decoded) {error : InvalidHeader}
    (fails : validateHeader frame.header = .error error) : frame.body.routable = false := by
  obtain ⟨header, body, decodes⟩ := decoded
  obtain ⟨rfl, ⟨valid, -⟩ | ⟨_, -, invalid⟩⟩ := headerType_of_decodeFrame decodes
  · rw [valid] at fails
    cases fails
  · rw [invalid]
    rfl

theorem Deliverable.routable {frame : Frame} (kind : frame.Deliverable) :
    frame.body.routable = true := by
  rcases kind with ⟨bytes, body⟩ | ⟨increment, body⟩ <;> rw [body] <;> rfl

end Frame

namespace Stream

/-- Reading never meets a frame that it cannot handle. -/
theorem exists_readLoop_of_kinds {stream : Stream} (cx : Waker) (rounds remaining : Nat)
    (kinds : ∀ frame ∈ stream.fin.queue, frame.Deliverable) :
    ∃ outcome, readLoop cx remaining rounds stream = .ok outcome := by
  induction rounds generalizing stream with
  | zero =>
      unfold readLoop
      split <;> exact ⟨_, rfl⟩
  | succ rounds ih =>
      unfold readLoop
      split
      · exact ⟨_, rfl⟩
      · obtain ⟨polled, taken, received, -, -, suffix, -⟩ :=
          exists_recvFrames { stream with readWaker := some cx } cx .data rfl kinds
        simp only [pollRecvData, pollRecvFrameType, received, bind, Except.bind]
        cases polled with
        | pending => exact ⟨_, rfl⟩
        | ready => exact ih fun frame member => kinds frame (suffix.mem member)

theorem exists_pollWrite_of_kinds {stream : Stream} (cx : Waker) (buf : List UInt8)
    (kinds : ∀ frame ∈ stream.fin.queue, frame.Deliverable) :
    ∃ outcome, stream.pollWrite cx buf = .ok outcome := by
  unfold pollWrite
  split
  · exact ⟨_, rfl⟩
  · split
    · obtain ⟨polled, taken, received, -⟩ :=
        exists_recvFrames { stream with writeWaker := some cx } cx .wndInc rfl kinds
      simp only [pollRecvWndinc, pollRecvFrameType, received, bind, Except.bind]
      cases polled <;> exact ⟨_, rfl⟩
    · exact ⟨_, rfl⟩

end Stream

namespace Hub

theorem deliverable_of_reaches {streamLimit : Nat} {client : Bool} {hub : Hub}
    {admits : Hub → HubOp → Prop}
    (reaches : Reaches Hub.step admits (Hub.new streamLimit client) hub) (key : StreamKey) :
    ∀ frame ∈ (hub.ends key).stream.fin.queue, frame.Deliverable :=
  ends_invariant (fun target => ∀ frame ∈ target.stream.fin.queue, frame.Deliverable)
    (by simp [StreamEnd.create, Stream.new]) deliverable_change reaches key

/-- What has gone onto a channel is data or a window increment. -/
theorem deliverable_recvd_of_reaches {streamLimit : Nat} {client : Bool} {hub : Hub}
    {admits : Hub → HubOp → Prop}
    (reaches : Reaches Hub.step admits (Hub.new streamLimit client) hub) (key : StreamKey) :
    ∀ frame ∈ (hub.ends key).recvd, frame.Deliverable := by
  refine ends_invariant (fun target => ∀ frame ∈ target.recvd, frame.Deliverable)
    (by simp [StreamEnd.create]) ?_ reaches key
  intro actor before after change law
  cases change with
  | receive frame kind isOpen =>
      intro other member
      rcases List.mem_append.1 member with old | new
      · exact law other old
      · obtain rfl := List.mem_singleton.1 new
        exact kind
  | _ => exact law

/-- The manager has an `unreachable!()` of its own. -/
theorem panics_pollNext (hub : Hub) (pick : Option Nat) (cx : Waker) :
    (hub.step (.pollNext pick cx)).panics = hub.panics ∨
      (hub.step (.pollNext pick cx)).panics = hub.panics ++ [.pollNext] := by
  have spec := hub.pollNext_spec pick cx
  simp only [Hub.step]
  generalize hub.pollNext pick cx = outcome at spec
  cases spec with
  | goneAway _ => exact .inl rfl
  | waiting _ _ => exact .inl rfl
  | unknown _ _ _ _ _ _ => exact .inr rfl
  | system _ frame rest _ =>
      left
      simp only [nextSystemFrame]
      split <;> rfl
  | next _ _ index id key _ item sink _ handle _ polled hub' spec =>
      left
      cases spec with
      | removed _ _ _ => exact removeStream_panics _ id
      | frame frame _ => rfl
      | fin _ => exact removeStream_panics _ id
      | ended _ => exact removeStream_panics _ id

/-- A stream that is polled has only frames that it can handle, so no step reaches its
`unreachable!()`. -/
theorem step_panics {hub : Hub} (op : HubOp)
    (kinds : ∀ key, ∀ frame ∈ (hub.ends key).stream.fin.queue, frame.Deliverable)
    (free : .streamHandleFrame ∉ hub.panics) : .streamHandleFrame ∉ (hub.step op).panics := by
  cases op with
  | pollRead key cx remaining =>
      obtain ⟨outcome, read⟩ := Stream.exists_readLoop_of_kinds cx
        ((hub.ends key).stream.fin.queue.length + 1) remaining (kinds key)
      simp only [Hub.step, Hub.pollRead, Stream.pollRead, read, bind, Except.bind]
      split <;> exact free
  | pollWrite key cx buf =>
      obtain ⟨outcome, written⟩ := Stream.exists_pollWrite_of_kinds cx buf (kinds key)
      simp only [Hub.step, Hub.pollWrite, written, bind, Except.bind]
      split <;> exact free
  | pollNext pick cx =>
      obtain same | more := panics_pollNext hub pick cx
      · rw [same]
        exact free
      · rw [more]
        simp [free]
  | createStream id window needsSyn =>
      simp only [Hub.step]
      split
      · rename_i created
        obtain ⟨-, -, -, -, -, -, -, -, -, -, -, -, panics⟩ := createStream_eq_ok created
        rw [panics]
        exact free
      · exact free
  | sendToStream frame =>
      simp only [Hub.step, startSendToStream]
      split
      · rename_i hub' _ started
        split at started
        · cases started
          exact free
        · cases started
      · exact free
  | pollSendToStream =>
      simp only [Hub.step]
      split
      · rename_i sending _
        have spec := hub.pollSendToStream_spec sending
        generalize hub.pollSendToStream sending = outcome at spec
        cases spec <;> exact free
      · exact free
  | closeDataWrite id =>
      simp only [Hub.step, Hub.closeDataWrite]
      split <;> exact free
  | sysSend _ => exact free
  | goAway _ => exact free
  | closeSenders => exact free
  | dropManager => exact free
  | pollFlush key => simp only [Hub.step]; split <;> exact free
  | pollShutdown key => simp only [Hub.step]; split <;> exact free
  | dropStream key => simp only [Hub.step]; split <;> exact free

theorem update_recvd (ends : StreamKey → StreamEnd) {changed : StreamKey} {target : StreamEnd}
    (same : target.recvd = (ends changed).recvd) (key : StreamKey) :
    (Function.update ends changed target key).recvd = (ends key).recvd := by
  by_cases own : key = changed
  · rw [own, Function.update_self, same]
  · rw [Function.update_of_ne own]

theorem endTask_recvd (hub : Hub) (id : StreamID) (taskKey key : StreamKey) :
    ((hub.endTask id taskKey).ends key).recvd = (hub.ends key).recvd := by
  refine Eq.trans ?_ (hub.removeStream_keeps id key).2.2
  exact update_recvd (hub.removeStream id).ends (by rfl) key

theorem nextFrame_recvd {hub : Hub} {id : StreamID} {taskKey : StreamKey} {handle : StreamHandle}
    {item : Option Frame} {outcome : Poll (Option Frame) × Hub}
    (spec : hub.NextFrameSpec id taskKey handle item outcome) (key : StreamKey) :
    (outcome.2.ends key).recvd = (hub.ends key).recvd := by
  cases spec with
  | removed _ _ _ => exact hub.endTask_recvd id taskKey key
  | frame frame _ => exact update_recvd hub.ends (by rfl) key
  | fin _ =>
      refine Eq.trans ?_ (hub.endTask_recvd id taskKey key)
      exact update_recvd (hub.endTask id taskKey).ends (by rfl) key
  | ended _ => exact hub.endTask_recvd id taskKey key

/-- Nothing but `send_to_stream` puts frames on channels. -/
theorem step_recvd {hub : Hub} {op : HubOp} (notSend : op ≠ .pollSendToStream)
    (key : StreamKey) : ((hub.step op).ends key).recvd = (hub.ends key).recvd ∨
      key = hub.nextKey ∧ ((hub.step op).ends key).recvd = [] := by
  have spec := hub.step_spec op
  generalize hub.step op = hub' at spec
  cases spec with
  | created id window needsSyn newId newKey hub' opened =>
      obtain ⟨-, rfl, -, -, ends, -⟩ := createStream_eq_ok opened
      by_cases new : key = hub.nextKey
      · exact .inr ⟨new, by simp [ends, new, StreamEnd.create]⟩
      · rw [ends, Function.update_of_ne new]
        exact .inl (hub.removeStream_keeps newId key).2.2
  | pollSend _ _ _ _ _ => exact absurd rfl notSend
  | system _ cx _ frame rest _ =>
      left
      simp only [nextSystemFrame]
      split
      · exact (goAway_keeps _ _ key).2.2.1.trans (clearTasks_keeps _ key).2.2
      · rfl
  | next _ cx _ _ index id taskKey task item sink answer handle _ polled hub' spec =>
      left
      refine (nextFrame_recvd spec key).trans ?_
      exact update_recvd (hub.storeWaker cx).ends (by rfl) key
  | goAway error => exact .inl (hub.goAway_keeps error key).2.2.1
  | closeSenders => exact .inl (hub.closeSenders_keeps key).2.2.1
  | dropManager =>
      exact .inl ((clearTasks_keeps _ key).2.2.trans (hub.closeSenders_keeps key).2.2.1)
  | user op userKey _ target changes =>
      exact .inl (update_recvd hub.ends changes.application_keeps.2.2.2.1 key)
  | _ => exact .inl rfl

/-- A frame goes onto the channel of at most one stream, and `send_to_stream` is then done
with it. -/
theorem pollSend_recvd {hub : Hub} {sending : Sending} (current : hub.sending = some sending) :
    (∀ key, ((hub.step .pollSendToStream).ends key).recvd = (hub.ends key).recvd) ∨
      (hub.pollSendToStream sending).1 = .ready (.ok ()) ∧
        ∃ id handle, hub.getStream id = some handle ∧
          (hub.step .pollSendToStream).ends = Function.update hub.ends handle.stream
            ((hub.ends handle.stream).receive
              ((hub.ends handle.stream).stream.fin.push sending.frame) sending.frame) := by
  have spec := hub.pollSendToStream_spec sending
  have step : hub.step .pollSendToStream = (hub.pollSendToStream sending).2 := by
    simp only [Hub.step, current]
  rw [step]
  generalize hub.pollSendToStream sending = outcome at spec
  cases spec with
  | unregistered absent => exact .inl fun _ => rfl
  | reset handle registered error body => exact .inl (update_recvd hub.ends (by rfl))
  | waiting handle registered accepts body fits => exact .inl (update_recvd hub.ends (by rfl))
  | delivered handle registered accepts body fits isOpen =>
      exact .inr ⟨rfl, _, handle, registered, rfl⟩
  | ignored handle registered error window refusal keeps => exact .inl (update_recvd hub.ends (by rfl))
  | refused handle registered error window refusal resets =>
      exact .inl (update_recvd hub.ends (by rfl))

end Hub

namespace Session

/-- The frames that the read task is done with, each with the stream on whose channel it
was put. -/
structure Routed (session : Session) (routed : List (Option StreamKey × Frame)) : Prop where
  handled : routed.map Prod.snd = session.handled
  recvd : ∀ key, Hub.framesOf key routed = (session.hub.ends key).recvd
  known : ∀ key frame, (some key, frame) ∈ routed → key < session.hub.nextKey

namespace Routed

variable {session session' : Session} {routed : List (Option StreamKey × Frame)}

theorem keeps (sound : session.Routed routed) (handled : session'.handled = session.handled)
    (recvd : ∀ key, (session'.hub.ends key).recvd = (session.hub.ends key).recvd ∨
      key = session.hub.nextKey ∧ (session'.hub.ends key).recvd = [])
    (nextKey : session.hub.nextKey ≤ session'.hub.nextKey) : session'.Routed routed where
  handled := sound.handled.trans handled.symm
  recvd := by
    intro key
    obtain same | ⟨rfl, empty⟩ := recvd key
    · rw [same]
      exact sound.recvd key
    · rw [empty, List.eq_nil_iff_forall_not_mem]
      intro frame member
      exact Nat.lt_irrefl _ (sound.known _ frame (Hub.mem_framesOf.1 member))
  known := fun key frame member => (sound.known key frame member).trans_le nextKey

/-- The read task is done with a frame that was put on no channel. -/
theorem settles (sound : session.Routed routed) {frame : Frame}
    (handled : session'.handled = session.handled ++ [frame])
    (recvd : ∀ key, (session'.hub.ends key).recvd = (session.hub.ends key).recvd)
    (nextKey : session'.hub.nextKey = session.hub.nextKey) :
    session'.Routed (routed ++ [(none, frame)]) where
  handled := by rw [List.map_append, sound.handled, handled]; rfl
  recvd := by
    intro key
    rw [Hub.framesOf_append, Hub.framesOf_other (by simp), List.append_nil, recvd]
    exact sound.recvd key
  known := by
    intro key other member
    rw [nextKey]
    simp only [List.mem_append, List.mem_singleton, Prod.mk.injEq, reduceCtorEq, false_and,
      or_false] at member
    exact sound.known key other member

/-- The read task is done with a frame that was put on the channel of a stream. -/
theorem handed (sound : session.Routed routed) {frame : Frame} {key : StreamKey}
    (known : key < session.hub.nextKey) {target : StreamEnd}
    (grown : target.recvd = (session.hub.ends key).recvd ++ [frame])
    (handled : session'.handled = session.handled ++ [frame])
    (ends : session'.hub.ends = Function.update session.hub.ends key target)
    (nextKey : session'.hub.nextKey = session.hub.nextKey) :
    session'.Routed (routed ++ [(some key, frame)]) where
  handled := by rw [List.map_append, sound.handled, handled]; rfl
  recvd := by
    intro other
    rw [Hub.framesOf_append, ends, sound.recvd]
    by_cases own : other = key
    · rw [own, Hub.framesOf_own, Function.update_self, grown]
    · rw [Hub.framesOf_other (by simpa using Ne.symm own), Function.update_of_ne own,
        List.append_nil]
  known := by
    intro other later member
    rw [nextKey]
    simp only [List.mem_append, List.mem_singleton, Prod.mk.injEq, Option.some.injEq] at member
    obtain old | ⟨rfl, -⟩ := member
    · exact sound.known other later old
    · exact known

end Routed

/-- Every step extends the record by the frame that it settles. -/
theorem exists_routed_step {session : Session} (lawful : session.Lawful)
    (sound : ∃ routed, session.Routed routed) (op : SessionOp) :
    ∃ routed, (session.step op).Routed routed := by
  obtain ⟨routed, sound⟩ := sound
  have progresses := (session.step_spec lawful.sending op).progresses
  generalize session.step op = session' at progresses
  cases progresses with
  | keeps handled _ hub =>
      obtain same | ⟨hubOp, stepped, notSend, -⟩ := hub
      · exact ⟨routed, sound.keeps handled (fun key => .inl (by rw [same])) (by rw [same])⟩
      · refine ⟨routed, sound.keeps handled ?_ ?_⟩
        · rw [stepped]
          exact Hub.step_recvd notSend
        · rw [stepped]
          exact session.hub.step_nextKey_le hubOp
  | routes frame _ _ _ handled _ hub =>
      refine ⟨routed, sound.keeps handled ?_ ?_⟩
      · rw [hub]
        exact Hub.step_recvd (by simp)
      · rw [hub]
        exact session.hub.step_nextKey_le _
  | waits sending current pending handled hub =>
      obtain same | ⟨ready, -⟩ := Hub.pollSend_recvd current
      · refine ⟨routed, sound.keeps handled (fun key => .inl ?_) ?_⟩
        · rw [hub]
          exact same key
        · rw [hub]
          exact session.hub.step_nextKey_le _
      · rw [pending] at ready
        cases ready
  | settles sending current _ handled hub _ =>
      have nextKey : session'.hub.nextKey = session.hub.nextKey := by
        rw [hub]
        exact Hub.step_nextKey (by simp)
      obtain same | ⟨-, id, handle, registered, ends⟩ := Hub.pollSend_recvd current
      · exact ⟨_, sound.settles handled (by rw [hub]; exact same) nextKey⟩
      · have known := (lawful.addressed.handle id handle registered).1
        exact ⟨_, sound.handed known rfl handled (by rw [hub]; exact ends) nextKey⟩
  | answers frame _ _ _ handled hub =>
      exact ⟨_, sound.settles handled (fun key => by rw [hub]) (by rw [hub])⟩

/-- The frames that the read task has or had in its hand come from the decoder. -/
structure HoldsDecoded (session : Session) : Prop where
  hand : ∀ frame, session.reader.hand = some frame → frame.Decoded
  handled : ∀ frame ∈ session.handled, frame.Decoded

theorem HoldsDecoded.step {session : Session} (decoded : session.HoldsDecoded)
    (lawful : session.Lawful) (op : SessionOp) : (session.step op).HoldsDecoded := by
  have spec := session.step_spec lawful.sending op
  generalize session.step op = session' at spec
  refine ⟨fun frame hand => ?_, fun frame member => ?_⟩
  · obtain held | ⟨-, codec, rx, decodes⟩ := spec.hand hand
    · exact decoded.hand frame held
    · exact exists_of_decode decodes
  · obtain handled | ⟨first, held, handled⟩ := spec.settled
    · exact decoded.handled frame (handled ▸ member)
    · rw [handled, List.mem_append, List.mem_singleton] at member
      obtain old | rfl := member
      · exact decoded.handled frame old
      · exact decoded.hand frame held

/-- What holds of the channels of streams in every reachable state. -/
structure Channelled (session : Session) : Prop where
  /-- Only data and window increments were ever put on a channel, and are on it. -/
  recvd : ∀ key, ∀ frame ∈ (session.hub.ends key).recvd,
    frame.Deliverable ∧ frame.header.typ = frame.body.headerType
  queued : ∀ key, ∀ frame ∈ (session.hub.ends key).stream.fin.queue,
    frame.Deliverable ∧ frame.header.typ = frame.body.headerType
  /-- What is on a channel are the last frames that were put there, each as often. -/
  untaken : ∀ key, (session.hub.ends key).stream.fin.queue <:+ (session.hub.ends key).recvd
  /-- The `unreachable!()` of `handle_frame` has not been reached. -/
  neverPanics : .streamHandleFrame ∉ session.hub.panics
  /-- Every frame that was handled is put on at most one channel, and once. -/
  once : ∃ routed, session.Routed routed
  /-- A reset goes onto no channel and closes the handle and the sink of its stream, or does
  nothing if its id has no handle. -/
  resets : ∀ frame error, session.reader = .sending frame → frame.body = .rst error →
    session.hub.getStream frame.header.streamId = none ∧
        (session.step .readerStep).hub = { session.hub with sending := none } ∨
      ∃ handle, session.hub.getStream frame.header.streamId = some handle ∧
        (session.step .readerStep).hub =
          session.hub.afterSend frame.header.streamId handle.stream
            { handle with dataWriteClosed := true, needsFin := false }
            ((session.hub.ends handle.stream).closeWith error) none

/-- A reset is taken by the handle and the sink of its stream. -/
theorem readerStep_of_rst {session : Session} (sound : session.SendingSound) {frame : Frame}
    {error : Error} (reader : session.reader = .sending frame) (body : frame.body = .rst error)
    (typ : frame.header.typ = .rst) :
    session.hub.getStream frame.header.streamId = none ∧
        (session.step .readerStep).hub = { session.hub with sending := none } ∨
      ∃ handle, session.hub.getStream frame.header.streamId = some handle ∧
        (session.step .readerStep).hub =
          session.hub.afterSend frame.header.streamId handle.stream
            { handle with dataWriteClosed := true, needsFin := false }
            ((session.hub.ends handle.stream).closeWith error) none := by
  unfold SendingSound at sound
  rw [reader] at sound
  obtain ⟨sending, current, rfl⟩ := sound
  have hub : (session.step .readerStep).hub = (session.hub.pollSendToStream sending).2 := by
    simp only [Session.step, readerStep, reader, current, pollSend]
    split <;> simp [answer, *]
  rw [hub]
  cases registered : session.hub.getStream sending.frame.header.streamId with
  | none =>
      refine .inl ⟨rfl, ?_⟩
      simp only [Hub.pollSendToStream, registered]
  | some handle => exact .inr ⟨handle, rfl, Hub.pollSendToStream_rst typ body registered⟩

theorem untaken_of_change {actor : StreamEnd.Actor} {before after : StreamEnd}
    (change : StreamEnd.Change actor before after)
    (law : before.stream.fin.queue <:+ before.recvd) : after.stream.fin.queue <:+ after.recvd := by
  cases change with
  | ingest frame rest held queue kind =>
      rw [queue] at law
      exact (List.suffix_cons frame rest).trans law
  | drop held => exact List.nil_suffix
  | receive frame kind isOpen =>
      obtain ⟨taken, recvd⟩ := law
      refine ⟨taken, ?_⟩
      change taken ++ (before.stream.fin.queue ++ [frame]) = before.recvd ++ [frame]
      rw [← List.append_assoc, recvd]
  | _ => exact law

/-- The invariants that a run carries. -/
structure Carries (session : Session) : Prop where
  lawful : session.Lawful
  decoded : session.HoldsDecoded
  routed : ∃ routed, session.Routed routed
  neverPanics : .streamHandleFrame ∉ session.hub.panics

theorem carries_run (window acceptQueueSize streamLimit : Nat) (client : Bool)
    (ops : List SessionOp) : (run Session.step
      (Session.new window acceptQueueSize streamLimit client) ops).Carries := by
  refine (reaches_run_anyLabel _ ops).invariant Carries ?_ ?_
  · intro session op _ carries
    refine ⟨carries.lawful.step op, carries.decoded.step carries.lawful op,
      exists_routed_step carries.lawful carries.routed op, ?_⟩
    obtain ⟨_, _, reaches⟩ := carries.lawful.hub
    obtain same | ⟨hubOp, stepped, -⟩ := (step_spec carries.lawful.sending op).hub
    · rw [same]
      exact carries.neverPanics
    · rw [stepped]
      exact Hub.step_panics hubOp (Hub.deliverable_of_reaches reaches) carries.neverPanics
  · refine ⟨.new window acceptQueueSize streamLimit client, ⟨?_, ?_⟩, ⟨[], rfl, ?_, ?_⟩, ?_⟩
    · simp [Session.new, Reader.hand]
    · simp [Session.new]
    · intro key
      rfl
    · simp
    · simp [Session.new, Hub.new]

theorem Carries.recvd {session : Session} (carries : session.Carries) (key : StreamKey) :
    ∀ frame ∈ (session.hub.ends key).recvd,
      frame.Deliverable ∧ frame.header.typ = frame.body.headerType := by
  obtain ⟨lawful, decoded, ⟨routed, sound⟩, -⟩ := carries
  obtain ⟨_, _, reaches⟩ := lawful.hub
  intro frame member
  have kind := Hub.deliverable_recvd_of_reaches reaches key frame member
  have handled : frame ∈ session.handled := by
    rw [← sound.recvd key] at member
    rw [← sound.handled]
    exact List.mem_map_of_mem (Hub.mem_framesOf.1 member)
  exact ⟨kind, (decoded.handled frame handled).headerType kind.routable⟩

theorem Carries.untaken {session : Session} (carries : session.Carries) (key : StreamKey) :
    (session.hub.ends key).stream.fin.queue <:+ (session.hub.ends key).recvd := by
  obtain ⟨_, _, reaches⟩ := carries.lawful.hub
  exact Hub.ends_invariant (fun target => target.stream.fin.queue <:+ target.recvd)
    (fun _ _ _ => List.nil_suffix) untaken_of_change reaches key

theorem Carries.queued {session : Session} (carries : session.Carries) (key : StreamKey) :
    ∀ frame ∈ (session.hub.ends key).stream.fin.queue,
      frame.Deliverable ∧ frame.header.typ = frame.body.headerType :=
  fun frame member => carries.recvd key frame ((carries.untaken key).mem member)

/-- Every run keeps to it: whatever the remote sends, a stream receives only what it can
handle, and no frame twice. -/
theorem channelled (window acceptQueueSize streamLimit : Nat) (client : Bool)
    (ops : List SessionOp) : (run Session.step
      (Session.new window acceptQueueSize streamLimit client) ops).Channelled := by
  have carries := carries_run window acceptQueueSize streamLimit client ops
  generalize run Session.step (Session.new window acceptQueueSize streamLimit client) ops =
    session at carries
  refine ⟨carries.recvd, carries.queued, carries.untaken, carries.neverPanics, carries.routed, ?_⟩
  intro frame error reader body
  have typ := (carries.decoded.hand frame (by rw [reader]; rfl)).headerType (by rw [body]; rfl)
  rw [body] at typ
  exact readerStep_of_rst carries.lawful.sending reader body typ

end Session

end Muxado

end NgrokRust
