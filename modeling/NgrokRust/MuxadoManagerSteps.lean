import NgrokRust.KeyedRoutes
import NgrokRust.MuxadoStreamSteps

/-!
# What one operation does to the manager

`StepSpec` lists the outcomes of every operation on the hub, with the conditions
under which the code reaches them.  Invariants of the table, of the tasks and of
the frames on their way are proved by cases on it.  On each single stream end an
operation acts by the elementary changes only, so a law of the stream ends needs
no look at the manager at all.
-/

namespace NgrokRust

namespace Muxado

open LabelledRuns

namespace Hub

@[simp] theorem setEnd_manager (hub : Hub) (key : StreamKey) (target : StreamEnd) :
    (hub.setEnd key target).manager = hub.manager := rfl
@[simp] theorem setEnd_ends (hub : Hub) (key : StreamKey) (target : StreamEnd) :
    (hub.setEnd key target).ends = Function.update hub.ends key target := rfl
@[simp] theorem setHandle_ends (hub : Hub) (id : StreamID) (handle : StreamHandle) :
    (hub.setHandle id handle).ends = hub.ends := rfl
@[simp] theorem pushTask_ends (hub : Hub) (id : StreamID) (key : StreamKey) :
    (hub.pushTask id key).ends = hub.ends := rfl
@[simp] theorem emit_ends (hub : Hub) (origin : Option StreamKey) (frame : Frame) :
    (hub.emit origin frame).ends = hub.ends := rfl
@[simp] theorem emitFor_ends (hub : Hub) (key : StreamKey) (frame : Frame) :
    (hub.emitFor key frame).ends =
      Function.update hub.ends key
        { hub.ends key with sent := (hub.ends key).sent ++ [frame] } := rfl

@[simp] theorem storeWaker_ends (hub : Hub) (cx : Waker) :
    (hub.storeWaker cx).ends = hub.ends := rfl
@[simp] theorem setSysRx_ends (hub : Hub) (frames : List Frame) :
    (hub.setSysRx frames).ends = hub.ends := rfl
@[simp] theorem popTask_ends (hub : Hub) (index : Nat) (key : StreamKey) (sink : Channel Frame) :
    (hub.popTask index key sink).ends =
      Function.update hub.ends key ((hub.ends key).setSink sink) := rfl

/-- The answer of a stream future: the first frame of its channel, or that the
channel is closed and drained. -/
inductive Answer (sink : Channel Frame) : Option Frame → Channel Frame → Prop where
  | frame (frame : Frame) (rest : List Frame) (queue : sink.queue = frame :: rest) :
      Answer sink (some frame) { sink with queue := rest }
  | drained (queue : sink.queue = []) (closed : sink.isOpen = false) : Answer sink none sink

theorem Answer.queued_or_closed {sink sink' : Channel Frame} {item : Option Frame}
    (answer : Answer sink item sink') : sink.queue ≠ [] ∨ sink.isOpen = false := by
  cases answer with
  | frame frame rest queue =>
      left
      rw [queue]
      exact List.cons_ne_nil _ _
  | drained _ closed => exact Or.inr closed

inductive PollTasksSpec (hub : Hub) :
    Option (StreamID × StreamKey × Option Frame × Hub) → Prop where
  | waiting : PollTasksSpec hub none
  | answered (index : Nat) (id : StreamID) (key : StreamKey)
      (task : hub.manager.tasks[index]? = some (id, key))
      (item : Option Frame) (sink : Channel Frame)
      (answer : Answer (hub.ends key).stream.fout.sink item sink) :
      PollTasksSpec hub (some (id, key, item, hub.popTask index key sink))

theorem pollTasks_spec (hub : Hub) (pick : Option Nat) :
    hub.PollTasksSpec (hub.pollTasks pick) := by
  unfold pollTasks
  split
  · exact .waiting
  · rename_i index
    split
    · exact .waiting
    · rename_i id key task
      generalize sinkEq : (hub.ends key).stream.fout.sink = sink
      cases queue : sink.queue with
      | cons frame rest =>
          rw [Channel.pollNext_of_cons queue]
          subst sinkEq
          exact .answered index id key task _ _ (.frame frame rest queue)
      | nil =>
          cases isOpen : sink.isOpen with
          | true =>
              rw [Channel.pollNext_of_waiting queue isOpen]
              exact .waiting
          | false =>
              rw [Channel.pollNext_of_drained queue isOpen]
              subst sinkEq
              exact .answered index id key task _ _ (.drained queue isOpen)

/-- The exits of `poll_next` after the task of a registered stream has answered. -/
inductive NextFrameSpec (hub : Hub) (id : StreamID) (key : StreamKey) (handle : StreamHandle) :
    Option Frame → Poll (Option Frame) × Hub → Prop where
  | removed (item : Option Frame)
      (closed : (hub.ends handle.stream).isClosed = true) (noFin : handle.needsFin = false) :
      NextFrameSpec hub id key handle item (.pending, hub.endTask id key)
  | frame (frame : Frame)
      (flows : (hub.ends handle.stream).isClosed = false ∨ handle.needsFin = true) :
      NextFrameSpec hub id key handle (some frame)
        (.ready (some (frame.withStreamId id)),
          ((hub.setHandle id (StreamHandle.afterFrame handle frame)).pushTask id key).emitFor key
            (frame.withStreamId id))
  | fin (needsFin : handle.needsFin = true) :
      NextFrameSpec hub id key handle none
        (.ready (some (Stream.finFrame.withStreamId id)),
          (hub.endTask id key).emitFor key (Stream.finFrame.withStreamId id))
  | ended (noFin : handle.needsFin = false) :
      NextFrameSpec hub id key handle none (.pending, hub.endTask id key)

theorem nextFrame_spec (hub : Hub) {id : StreamID} {handle : StreamHandle}
    (registered : hub.getStream id = some handle) (key : StreamKey) (item : Option Frame) :
    ∃ outcome, hub.nextFrame id key item = .ok outcome ∧
      hub.NextFrameSpec id key handle item outcome := by
  unfold nextFrame
  rw [registered]
  simp only
  split
  · rename_i shut
    simp only [Bool.and_eq_true, Bool.not_eq_true'] at shut
    exact ⟨_, rfl, .removed item shut.1 shut.2⟩
  · rename_i flows
    have flows : (hub.ends handle.stream).isClosed = false ∨ handle.needsFin = true := by
      simpa only [Bool.and_eq_true, Bool.not_eq_true', not_and_or, Bool.not_eq_true,
        Bool.not_eq_false] using flows
    cases item with
    | some frame => exact ⟨_, rfl, .frame frame flows⟩
    | none =>
        simp only
        split
        · rename_i needsFin
          exact ⟨_, rfl, .fin needsFin⟩
        · rename_i noFin
          exact ⟨_, rfl, .ended (by simpa using noFin)⟩

/-- The exits of `poll_next`. -/
inductive PollNextSpec (hub : Hub) (cx : Waker) :
    Except Panic (Poll (Option Frame) × Hub) → Prop where
  | goneAway (gone : hub.manager.goneAway = true) :
      PollNextSpec hub cx (.ok (.ready none, hub))
  | system (alive : hub.manager.goneAway = false) (frame : Frame) (rest : List Frame)
      (queued : hub.manager.sysRx = frame :: rest) :
      PollNextSpec hub cx
        (.ok (.ready (some (((hub.storeWaker cx).setSysRx rest).nextSystemFrame frame).1),
          (((hub.storeWaker cx).setSysRx rest).nextSystemFrame frame).2))
  | waiting (alive : hub.manager.goneAway = false) (noSystem : hub.manager.sysRx = []) :
      PollNextSpec hub cx (.ok (.pending, hub.storeWaker cx))
  | unknown (alive : hub.manager.goneAway = false) (index : Nat) (id : StreamID)
      (key : StreamKey) (task : hub.manager.tasks[index]? = some (id, key))
      (absent : hub.getStream id = none) : PollNextSpec hub cx (.error .pollNext)
  | next (alive : hub.manager.goneAway = false) (noSystem : hub.manager.sysRx = [])
      (index : Nat) (id : StreamID) (key : StreamKey)
      (task : hub.manager.tasks[index]? = some (id, key))
      (item : Option Frame) (sink : Channel Frame)
      (answer : Answer (hub.ends key).stream.fout.sink item sink)
      (handle : StreamHandle) (registered : hub.getStream id = some handle)
      (polled : Poll (Option Frame)) (hub' : Hub)
      (spec : ((hub.storeWaker cx).popTask index key sink).NextFrameSpec id key handle item
        (polled, hub')) :
      PollNextSpec hub cx (.ok (polled, hub'))

theorem pollNext_spec (hub : Hub) (pick : Option Nat) (cx : Waker) :
    hub.PollNextSpec cx (hub.pollNext pick cx) := by
  unfold pollNext
  split
  · rename_i gone
    exact .goneAway gone
  · rename_i alive
    have alive : hub.manager.goneAway = false := by simpa using alive
    simp only
    split
    · rename_i frame rest queued
      exact .system alive frame rest queued
    · rename_i noSystem
      have spec := (hub.storeWaker cx).pollTasks_spec pick
      generalize (hub.storeWaker cx).pollTasks pick = answer at spec
      cases spec with
      | waiting => exact .waiting alive noSystem
      | answered index id key task item sink answer =>
          simp only
          cases registered : hub.getStream id with
          | none =>
              have absent : ((hub.storeWaker cx).popTask index key sink).getStream id = none :=
                registered
              simp only [nextFrame, absent]
              exact .unknown alive index id key task registered
          | some handle =>
              obtain ⟨outcome, next, spec⟩ := nextFrame_spec
                ((hub.storeWaker cx).popTask index key sink) registered key item
              rw [next]
              exact .next alive noSystem index id key task item sink answer handle registered
                _ _ spec

@[simp]
theorem removeStream_manager (hub : Hub) (id : StreamID) :
    (hub.removeStream id).manager =
      { hub.manager with streams := hub.manager.streams.erase id } := by
  unfold removeStream
  split
  · rename_i absent
    have erased : hub.manager.streams.erase id = hub.manager.streams :=
      AList.ext (List.kerase_of_notMem_keys (AList.lookup_eq_none.mp absent))
    rw [erased]
  · rfl

@[simp] theorem removeStream_nextKey (hub : Hub) (id : StreamID) :
    (hub.removeStream id).nextKey = hub.nextKey := by
  unfold removeStream; split <;> rfl
@[simp] theorem removeStream_sending (hub : Hub) (id : StreamID) :
    (hub.removeStream id).sending = hub.sending := by
  unfold removeStream; split <;> rfl
@[simp] theorem removeStream_emitted (hub : Hub) (id : StreamID) :
    (hub.removeStream id).emitted = hub.emitted := by
  unfold removeStream; split <;> rfl
@[simp] theorem removeStream_panics (hub : Hub) (id : StreamID) :
    (hub.removeStream id).panics = hub.panics := by
  unfold removeStream; split <;> rfl

@[simp] theorem endTask_manager (hub : Hub) (id : StreamID) (key : StreamKey) :
    (hub.endTask id key).manager =
      { hub.manager with streams := hub.manager.streams.erase id } := by
  simp [endTask]
@[simp] theorem endTask_nextKey (hub : Hub) (id : StreamID) (key : StreamKey) :
    (hub.endTask id key).nextKey = hub.nextKey :=
  removeStream_nextKey hub id
@[simp] theorem endTask_sending (hub : Hub) (id : StreamID) (key : StreamKey) :
    (hub.endTask id key).sending = hub.sending :=
  removeStream_sending hub id
@[simp] theorem endTask_emitted (hub : Hub) (id : StreamID) (key : StreamKey) :
    (hub.endTask id key).emitted = hub.emitted :=
  removeStream_emitted hub id

theorem removeStream_ends_congr {hub hub' : Hub} (id : StreamID)
    (streams : hub.manager.streams = hub'.manager.streams) (ends : hub.ends = hub'.ends) :
    (hub.removeStream id).ends = (hub'.removeStream id).ends := by
  unfold removeStream getStream
  rw [streams, ends]
  split
  · exact ends
  · rfl

theorem insert_erase (streams : AList (fun _ : StreamID => StreamHandle)) (id : StreamID)
    (handle : StreamHandle) : (streams.erase id).insert id handle = streams.insert id handle := by
  refine AList.ext ?_
  rw [AList.entries_insert, AList.entries_insert]
  exact congrArg _ (List.kerase_of_notMem_keys
    (List.notMem_keys_kerase id streams.nodupKeys))

open StreamEnd

theorem removeStream_ends (hub : Hub) (id : StreamID) (key : StreamKey) :
    (hub.removeStream id).ends key = hub.ends key ∨
      (hub.removeStream id).ends key = (hub.ends key).closeFin := by
  unfold removeStream
  split
  · exact Or.inl rfl
  · rename_i handle _
    by_cases same : key = handle.stream
    · subst same
      exact Or.inr (by simp)
    · exact Or.inl (by simp [Function.update_of_ne same])

theorem changes_removeStream (hub : Hub) (id : StreamID) (key : StreamKey) :
    Changes .manager (hub.ends key) ((hub.removeStream id).ends key) := by
  rcases hub.removeStream_ends id key with same | closed
  · rw [same]
  · rw [closed]
    exact .single .closeFin

@[simp]
theorem removeStream_fout (hub : Hub) (id : StreamID) (key : StreamKey) :
    ((hub.removeStream id).ends key).stream.fout = (hub.ends key).stream.fout := by
  rcases hub.removeStream_ends id key with same | closed
  · rw [same]
  · rw [closed]
    rfl

theorem removeStream_keeps (hub : Hub) (id : StreamID) (key : StreamKey) :
    ((hub.removeStream id).ends key).id = (hub.ends key).id ∧
      ((hub.removeStream id).ends key).sent = (hub.ends key).sent ∧
      ((hub.removeStream id).ends key).recvd = (hub.ends key).recvd := by
  rcases hub.removeStream_ends id key with same | closed
  · rw [same]
    exact ⟨rfl, rfl, rfl⟩
  · rw [closed]
    exact ⟨rfl, rfl, rfl⟩

theorem goAway_keeps (hub : Hub) (error : Error) (key : StreamKey) :
    ((hub.goAway error).ends key).id = (hub.ends key).id ∧
      ((hub.goAway error).ends key).sent = (hub.ends key).sent ∧
      ((hub.goAway error).ends key).recvd = (hub.ends key).recvd ∧
      ((hub.goAway error).ends key).stream.fout.sink = (hub.ends key).stream.fout.sink := by
  simp only [goAway]
  split <;> exact ⟨rfl, rfl, rfl, rfl⟩

theorem clearTasks_keeps (hub : Hub) (key : StreamKey) :
    (hub.clearTasks.ends key).id = (hub.ends key).id ∧
      (hub.clearTasks.ends key).sent = (hub.ends key).sent ∧
      (hub.clearTasks.ends key).recvd = (hub.ends key).recvd := by
  simp only [clearTasks]
  split <;> exact ⟨rfl, rfl, rfl⟩

theorem closeSenders_keeps (hub : Hub) (key : StreamKey) :
    (hub.closeSenders.ends key).id = (hub.ends key).id ∧
      (hub.closeSenders.ends key).sent = (hub.ends key).sent ∧
      (hub.closeSenders.ends key).recvd = (hub.ends key).recvd ∧
      (hub.closeSenders.ends key).stream.fout = (hub.ends key).stream.fout := by
  simp only [closeSenders]
  split <;> exact ⟨rfl, rfl, rfl, rfl⟩

theorem changes_goAway (hub : Hub) (error : Error) (key : StreamKey) :
    Changes .manager (hub.ends key) ((hub.goAway error).ends key) := by
  simp only [goAway]
  split
  · exact (Relation.ReflTransGen.single (.closeWith error)).tail .closeFin
  · exact .refl

theorem changes_clearTasks (hub : Hub) (key : StreamKey) :
    Changes .manager (hub.ends key) (hub.clearTasks.ends key) := by
  simp only [clearTasks]
  split
  · exact .single .dropReceiver
  · exact .refl

theorem changes_closeSenders (hub : Hub) (key : StreamKey) :
    Changes .manager (hub.ends key) (hub.closeSenders.ends key) := by
  simp only [closeSenders]
  split
  · exact .single .closeFin
  · exact .refl

/-- Why a frame does not go onto the channel of its stream, with the window that
is left. -/
inductive Refusal (sending : Sending) (handle : StreamHandle) (target : StreamEnd) :
    Error → Nat → Prop where
  | closed (typ : sending.frame.header.typ = .data) (closed : handle.dataWriteClosed = true) :
      Refusal sending handle target .streamClosed handle.window
  | overflow (accepts : ¬ (sending.frame.header.typ = .data ∧ handle.dataWriteClosed = true))
      (overflow : handle.window < sending.shrinkWindow) :
      Refusal sending handle target .flowControl handle.window
  | disconnected (fits : sending.shrinkWindow ≤ handle.window)
      (closed : target.stream.fin.isOpen = false) :
      Refusal sending handle target .streamClosed (handle.window - sending.shrinkWindow)

/-- The hub once `send_to_stream` is done with a handle and its stream end. -/
def afterSend (hub : Hub) (id : StreamID) (key : StreamKey) (handle : StreamHandle)
    (target : StreamEnd) (sending : Option Sending) : Hub :=
  { (hub.setHandle id handle).setEnd key target with sending := sending }

/-- The outcomes of a poll of `send_to_stream`. -/
inductive PollSendSpec (hub : Hub) (sending : Sending) :
    Poll (Except Error Unit) × Hub → Prop where
  | unregistered (absent : hub.getStream sending.frame.header.streamId = none) :
      PollSendSpec hub sending
        (.ready (if sending.resets then .error .streamClosed else .ok ()),
          { hub with sending := none })
  | reset (handle : StreamHandle)
      (registered : hub.getStream sending.frame.header.streamId = some handle)
      (error : Error) (body : sending.frame.body = .rst error) :
      PollSendSpec hub sending
        (.ready (.ok ()),
          hub.afterSend sending.frame.header.streamId handle.stream
            { handle with dataWriteClosed := true, needsFin := false }
            ((hub.ends handle.stream).closeWith error) none)
  | waiting (handle : StreamHandle)
      (registered : hub.getStream sending.frame.header.streamId = some handle)
      (accepts : ¬ (sending.frame.header.typ = .data ∧ handle.dataWriteClosed = true))
      (body : ∀ error, sending.frame.body ≠ .rst error)
      (fits : sending.shrinkWindow ≤ handle.window) :
      PollSendSpec hub sending
        (.pending,
          hub.afterSend sending.frame.header.streamId handle.stream
            { handle with window := handle.window - sending.shrinkWindow }
            (hub.ends handle.stream) (some { sending with shrinkWindow := 0 }))
  | delivered (handle : StreamHandle)
      (registered : hub.getStream sending.frame.header.streamId = some handle)
      (accepts : ¬ (sending.frame.header.typ = .data ∧ handle.dataWriteClosed = true))
      (body : ∀ error, sending.frame.body ≠ .rst error)
      (fits : sending.shrinkWindow ≤ handle.window)
      (isOpen : (hub.ends handle.stream).stream.fin.isOpen = true) :
      PollSendSpec hub sending
        (.ready (.ok ()),
          hub.afterSend sending.frame.header.streamId handle.stream
            { handle with window := handle.window - sending.shrinkWindow }
            ((hub.ends handle.stream).receive
              ((hub.ends handle.stream).stream.fin.push sending.frame) sending.frame) none)
  | ignored (handle : StreamHandle)
      (registered : hub.getStream sending.frame.header.streamId = some handle)
      (error : Error) (window : Nat)
      (refusal : Refusal sending handle (hub.ends handle.stream) error window)
      (keeps : sending.resets = false) :
      PollSendSpec hub sending
        (.ready (.ok ()),
          hub.afterSend sending.frame.header.streamId handle.stream
            { handle with window := window } (hub.ends handle.stream) none)
  | refused (handle : StreamHandle)
      (registered : hub.getStream sending.frame.header.streamId = some handle)
      (error : Error) (window : Nat)
      (refusal : Refusal sending handle (hub.ends handle.stream) error window)
      (resets : sending.resets = true) :
      PollSendSpec hub sending
        (.ready (.error error),
          hub.afterSend sending.frame.header.streamId handle.stream
            (refuse { handle with window := window } (hub.ends handle.stream)).1
            ((hub.ends handle.stream).closeWith .streamClosed) none)

/-- The outcomes of the closure `handle_frame`. -/
inductive DeliverSpec (sending : Sending) (handle : StreamHandle) (target : StreamEnd) :
    Delivery → Prop where
  | reset (error : Error) (body : sending.frame.body = .rst error) :
      DeliverSpec sending handle target
        ⟨.ready (.ok ()), sending, { handle with dataWriteClosed := true, needsFin := false },
          target.closeWith error⟩
  | waiting (accepts : ¬ (sending.frame.header.typ = .data ∧ handle.dataWriteClosed = true))
      (body : ∀ error, sending.frame.body ≠ .rst error)
      (fits : sending.shrinkWindow ≤ handle.window) :
      DeliverSpec sending handle target
        ⟨.pending, { sending with shrinkWindow := 0 },
          { handle with window := handle.window - sending.shrinkWindow }, target⟩
  | delivered (accepts : ¬ (sending.frame.header.typ = .data ∧ handle.dataWriteClosed = true))
      (body : ∀ error, sending.frame.body ≠ .rst error)
      (fits : sending.shrinkWindow ≤ handle.window)
      (isOpen : target.stream.fin.isOpen = true) :
      DeliverSpec sending handle target
        ⟨.ready (.ok ()), { sending with shrinkWindow := 0 },
          { handle with window := handle.window - sending.shrinkWindow },
          target.receive (target.stream.fin.push sending.frame) sending.frame⟩
  | refused (error : Error) (window : Nat) (refusal : Refusal sending handle target error window)
      (result : Except Error Unit) (sending' : Sending)
      (failed : sending.resets = true → result = .error error) :
      DeliverSpec sending handle target
        ⟨.ready result, sending', { handle with window := window }, target⟩

theorem deliver_spec (sending : Sending) (handle : StreamHandle) (target : StreamEnd) :
    DeliverSpec sending handle target (deliver sending handle target) := by
  unfold deliver
  split
  · rename_i closed
    exact .refused _ _ (.closed closed.1 closed.2) _ _ fun _ => rfl
  · rename_i accepts
    split
    · rename_i error body
      exact .reset error body
    · rename_i body
      split
      · rename_i fits
        -- a closed channel fails the delivery of every frame but an empty FIN
        have disconnected (closed : target.stream.fin.isOpen = false) :
            DeliverSpec sending handle target
              ⟨.ready (if sending.isFin then .ok () else .error .streamClosed),
                { sending with shrinkWindow := 0 },
                { handle with window := handle.window - sending.shrinkWindow }, target⟩ := by
          refine .refused _ _ (.disconnected fits closed) _ _ fun resets => ?_
          simp only [Sending.resets, Bool.and_eq_true, Bool.not_eq_true'] at resets
          rw [resets.2]
          rfl
        simp only
        split
        · exact .waiting accepts body fits
        · rename_i polled
          refine disconnected ?_
          unfold Channel.pollReady at polled
          split at polled
          · split at polled <;> cases polled
          · simp_all
        · rename_i ready
          rw [Channel.startSend_of_pollReady sending.frame ready]
          exact .delivered accepts body fits (Channel.isOpen_of_pollReady ready)
      · rename_i overflow
        exact .refused _ _ (.overflow accepts (Nat.lt_of_not_le overflow)) _ _ fun _ => rfl

theorem pollSendToStream_spec (hub : Hub) (sending : Sending) :
    hub.PollSendSpec sending (hub.pollSendToStream sending) := by
  unfold pollSendToStream
  simp only
  split
  · rename_i absent
    exact .unregistered absent
  · rename_i handle registered
    have spec := deliver_spec sending handle (hub.ends handle.stream)
    generalize deliver sending handle (hub.ends handle.stream) = delivery at spec
    cases spec with
    | reset error body =>
        have done := PollSendSpec.reset handle registered error body
        simpa [afterSend] using done
    | waiting accepts body fits => exact .waiting handle registered accepts body fits
    | delivered accepts body fits isOpen =>
        have done := PollSendSpec.delivered handle registered accepts body fits isOpen
        simpa [afterSend] using done
    | refused error window refusal result sending' failed =>
        cases resets : sending.resets with
        | true =>
            obtain rfl := failed resets
            exact .refused handle registered error window refusal resets
        | false =>
            have done := PollSendSpec.ignored handle registered error window refusal resets
            simpa [afterSend] using done

theorem changes_nextSystemFrame (hub : Hub) (frame : Frame) (key : StreamKey) :
    Changes .manager (hub.ends key) ((hub.nextSystemFrame frame).2.ends key) := by
  unfold nextSystemFrame
  split
  · exact (changes_clearTasks hub key).trans (changes_goAway _ _ key)
  · exact .refl

theorem changes_update (ends : StreamKey → StreamEnd) {changed : StreamKey}
    {target : StreamEnd} {actor : Actor} (changes : Changes actor (ends changed) target)
    (key : StreamKey) : Changes actor (ends key) (Function.update ends changed target key) := by
  by_cases same : key = changed
  · subst same
    simpa using changes
  · simpa [Function.update_of_ne same] using Relation.ReflTransGen.refl

theorem changes_pollSendToStream {hub : Hub} {sending : Sending}
    {outcome : Poll (Except Error Unit) × Hub} (spec : hub.PollSendSpec sending outcome)
    (key : StreamKey) : Changes .manager (hub.ends key) (outcome.2.ends key) := by
  cases spec with
  | unregistered _ => exact .refl
  | reset handle _ error _ => exact changes_update _ (.single (.closeWith error)) key
  | waiting handle _ _ _ _ => exact changes_update _ .refl key
  | delivered handle _ _ body _ isOpen =>
      exact changes_update _ (.single (.receive sending.frame
        (Frame.deliverable_of_routable sending.routable body) isOpen)) key
  | ignored handle _ _ _ _ _ => exact changes_update _ .refl key
  | refused handle _ _ _ _ _ => exact changes_update _ (.single (.closeWith _)) key

theorem changes_endTask {hub : Hub} {id : StreamID} {key : StreamKey} (other : StreamKey) :
    Changes .manager (hub.ends other) ((hub.endTask id key).ends other) :=
  (changes_removeStream hub id other).trans
    (changes_update _ (.single .dropReceiver) other)

/-- Removing a stream does not look at the sink of the task that answered. -/
theorem endTask_popTask_ends {hub : Hub} {index : Nat} {id : StreamID} {key : StreamKey}
    {item : Option Frame} {sink : Channel Frame}
    (answer : Answer (hub.ends key).stream.fout.sink item sink) :
    ((hub.popTask index key sink).endTask id key).ends = (hub.endTask id key).ends := by
  have dropped : sink.dropReceiver = (hub.ends key).stream.fout.sink.dropReceiver := by
    cases answer <;> rfl
  funext other
  simp only [endTask, removeStream, getStream, popTask]
  split
  · by_cases same : other = key
    · subst same
      simp [StreamEnd.dropReceiver, StreamEnd.setSink, dropped]
    · simp [Function.update_of_ne same]
  · rename_i handle _
    by_cases same : other = key
    · subst same
      by_cases own : other = handle.stream
      · subst own
        simp [StreamEnd.dropReceiver, StreamEnd.setSink, StreamEnd.closeFin, dropped]
      · simp [Function.update_of_ne own, StreamEnd.dropReceiver, StreamEnd.setSink, dropped]
    · by_cases own : other = handle.stream
      · subst own
        simp [Function.update_of_ne same]
      · simp [Function.update_of_ne same, Function.update_of_ne own]

theorem changes_endTask_emitFor (hub : Hub) (id : StreamID) {key : StreamKey}
    (alive : (hub.ends key).stream.fout.sink.receiverAlive = true)
    (queue : (hub.ends key).stream.fout.sink.queue = [])
    (closed : (hub.ends key).stream.fout.sink.isOpen = false) (other : StreamKey) :
    Changes .manager (hub.ends other)
      (((hub.endTask id key).emitFor key (Stream.finFrame.withStreamId id)).ends other) := by
  refine (changes_removeStream hub id other).trans ?_
  have finished := changes_update (hub.removeStream id).ends
    (.single (.emitFin id
      (by rw [removeStream_fout]; exact alive)
      (by rw [removeStream_fout]; exact queue)
      (by rw [removeStream_fout]; exact closed))) other
  simpa [endTask, StreamEnd.dropReceiver] using finished

theorem changes_next (hub : Hub) {index : Nat} {id : StreamID} {key : StreamKey}
    {item : Option Frame} {sink : Channel Frame} {handle : StreamHandle}
    {outcome : Poll (Option Frame) × Hub}
    (alive : (hub.ends key).stream.fout.sink.receiverAlive = true)
    (answer : Answer (hub.ends key).stream.fout.sink item sink)
    (spec : (hub.popTask index key sink).NextFrameSpec id key handle item outcome)
    (other : StreamKey) : Changes .manager (hub.ends other) (outcome.2.ends other) := by
  cases spec with
  | removed item _ _ =>
      simp only [endTask_popTask_ends answer]
      exact changes_endTask other
  | ended _ =>
      simp only [endTask_popTask_ends answer]
      exact changes_endTask other
  | frame frame _ =>
      cases answer with
      | frame frame rest queue =>
          have emitted := changes_update hub.ends
            (.single (.emit frame rest id queue)) other
          simpa [StreamEnd.setSink] using emitted
  | fin _ =>
      cases answer with
      | drained queue closed =>
          have popped : (hub.popTask index key (hub.ends key).stream.fout.sink).ends = hub.ends := by
            simp [StreamEnd.setSink]
          have ended := changes_endTask_emitFor
            (hub.popTask index key (hub.ends key).stream.fout.sink) id
            (by rw [popped]; exact alive) (by rw [popped]; exact queue)
            (by rw [popped]; exact closed) other
          rwa [popped] at ended

theorem dropped_of_held {hub : Hub} {key : StreamKey} (held : hub.held key = true) :
    (hub.ends key).dropped = false := by
  simp only [Hub.held, Bool.and_eq_true, Bool.not_eq_true'] at held
  exact held.2

/-- The id under which `create_stream` registers a stream. -/
def chosenId (hub : Hub) (id : Option StreamID) : StreamID :=
  id.getD (Constrained.clamp (hub.manager.lastLocalId.val + 2))

/-- A created stream takes the next free key; the handle that its id had before is
dropped. -/
theorem createStream_eq_ok {hub hub' : Hub} {id : Option StreamID} {window : Nat}
    {needsSyn : Bool} {newId : StreamID} {key : StreamKey}
    (created : hub.createStream id window needsSyn = .ok (newId, key, hub')) :
    hub.len ≠ hub.manager.streamLimit ∧ key = hub.nextKey ∧ hub'.nextKey = hub.nextKey + 1 ∧
      newId = hub.chosenId id ∧
      hub'.ends = Function.update (hub.removeStream newId).ends key
        (StreamEnd.create newId window needsSyn) ∧
      hub'.manager.streams = hub.manager.streams.insert newId ⟨key, true, false, window⟩ ∧
      hub'.manager.tasks = hub.manager.tasks ++ [(newId, key)] ∧
      hub'.manager.goneAway = hub.manager.goneAway ∧
      hub'.manager.streamLimit = hub.manager.streamLimit ∧
      hub'.manager.sysRx = hub.manager.sysRx ∧
      hub'.emitted = hub.emitted ∧ hub'.sending = hub.sending ∧ hub'.panics = hub.panics := by
  unfold createStream at created
  split at created
  · cases created
  · rename_i room
    refine ⟨room, ?_⟩
    cases id with
    | none =>
        simp only [Except.ok.injEq, Prod.mk.injEq] at created
        obtain ⟨rfl, rfl, rfl⟩ := created
        have removed (id : StreamID) : (Hub.removeStream { hub with
            manager := { hub.manager with
              lastLocalId := Constrained.clamp (hub.manager.lastLocalId.val + 2) }
            nextKey := hub.nextKey + 1 } id).ends = (hub.removeStream id).ends :=
          removeStream_ends_congr id rfl rfl
        refine ⟨rfl, ?_, rfl, ?_, ?_, ?_, ?_, ?_, ?_, ?_, ?_, ?_⟩ <;>
          simp [setHandle, setEnd, pushTask, insert_erase, removed]
    | some remoteId =>
        simp only [Except.ok.injEq, Prod.mk.injEq] at created
        obtain ⟨rfl, rfl, rfl⟩ := created
        have removed (id : StreamID) : (Hub.removeStream { hub with
            manager := { hub.manager with lastRemoteId := remoteId }
            nextKey := hub.nextKey + 1 } id).ends = (hub.removeStream id).ends :=
          removeStream_ends_congr id rfl rfl
        refine ⟨rfl, ?_, rfl, ?_, ?_, ?_, ?_, ?_, ?_, ?_, ?_, ?_⟩ <;>
          simp [setHandle, setEnd, pushTask, insert_erase, removed]

/-- The outcomes of one operation. -/
inductive StepSpec (hub : Hub) : HubOp → Hub → Prop where
  /-- The operation fails or does not apply. -/
  | idle (op : HubOp) : StepSpec hub op hub
  | panicked (op : HubOp) (panic : Panic) : StepSpec hub op (hub.panicked panic)
  | created (id : Option StreamID) (window : Nat) (needsSyn : Bool) (newId : StreamID)
      (key : StreamKey) (hub' : Hub)
      (created : hub.createStream id window needsSyn = .ok (newId, key, hub')) :
      StepSpec hub (.createStream id window needsSyn) hub'
  | startSend (frame : Frame) (free : hub.sending = none)
      (routable : frame.body.routable = true) :
      StepSpec hub (.sendToStream frame)
        { hub with sending := some (Sending.new frame routable) }
  | pollSend (sending : Sending) (current : hub.sending = some sending)
      (polled : Poll (Except Error Unit)) (hub' : Hub)
      (spec : hub.PollSendSpec sending (polled, hub')) :
      StepSpec hub .pollSendToStream hub'
  | closeDataWrite (id : StreamID) (handle : StreamHandle)
      (registered : hub.getStream id = some handle) :
      StepSpec hub (.closeDataWrite id)
        (hub.setHandle id { handle with dataWriteClosed := true })
  | waiting (pick : Option Nat) (cx : Waker) :
      StepSpec hub (.pollNext pick cx) (hub.storeWaker cx)
  | system (pick : Option Nat) (cx : Waker)
      (alive : hub.manager.goneAway = false) (frame : Frame) (rest : List Frame)
      (queued : hub.manager.sysRx = frame :: rest) :
      StepSpec hub (.pollNext pick cx)
        (((hub.storeWaker cx).setSysRx rest).nextSystemFrame frame).2
  | next (pick : Option Nat) (cx : Waker)
      (alive : hub.manager.goneAway = false) (noSystem : hub.manager.sysRx = [])
      (index : Nat) (id : StreamID) (key : StreamKey)
      (task : hub.manager.tasks[index]? = some (id, key))
      (item : Option Frame) (sink : Channel Frame)
      (answer : Answer (hub.ends key).stream.fout.sink item sink)
      (handle : StreamHandle) (registered : hub.getStream id = some handle)
      (polled : Poll (Option Frame)) (hub' : Hub)
      (spec : ((hub.storeWaker cx).popTask index key sink).NextFrameSpec id key handle item
        (polled, hub')) :
      StepSpec hub (.pollNext pick cx) hub'
  | sysSend (frame : SystemFrame) : StepSpec hub (.sysSend frame) (hub.sysSend frame.toFrame)
  | goAway (error : Error) : StepSpec hub (.goAway error) (hub.goAway error)
  | closeSenders : StepSpec hub .closeSenders hub.closeSenders
  | dropManager : StepSpec hub .dropManager hub.dropManager
  /-- The application uses a stream that it holds. -/
  | user (op : HubOp) (key : StreamKey) (held : hub.held key = true) (target : StreamEnd)
      (changes : Changes .application (hub.ends key) target) :
      StepSpec hub op (hub.setEnd key target)

theorem step_spec (hub : Hub) (op : HubOp) : hub.StepSpec op (hub.step op) := by
  cases op with
  | createStream id window needsSyn =>
      simp only [Hub.step]
      split
      · rename_i created
        exact .created id window needsSyn _ _ _ created
      · exact .idle _
  | sendToStream frame =>
      simp only [Hub.step]
      cases free : hub.sending with
      | some sending => exact .idle _
      | none =>
          by_cases routable : frame.body.routable = true
          · simp only [startSendToStream, dif_pos routable]
            exact .startSend frame free routable
          · simp only [startSendToStream, dif_neg routable]
            exact .idle _
  | pollSendToStream =>
      simp only [Hub.step]
      split
      · rename_i sending current
        exact .pollSend sending current _ _ (hub.pollSendToStream_spec sending)
      · exact .idle _
  | closeDataWrite id =>
      simp only [Hub.step, Hub.closeDataWrite]
      split
      · exact .idle _
      · rename_i handle registered
        exact .closeDataWrite id handle registered
  | pollNext pick cx =>
      simp only [Hub.step]
      have spec := hub.pollNext_spec pick cx
      generalize hub.pollNext pick cx = outcome at spec
      cases spec with
      | goneAway _ => exact .idle _
      | system alive frame rest queued => exact .system pick cx alive frame rest queued
      | waiting _ _ => exact .waiting pick cx
      | unknown _ _ _ _ _ _ => exact .panicked _ _
      | next alive noSystem index id key task item sink answer handle registered polled hub' spec =>
          exact .next pick cx alive noSystem index id key task item sink answer handle registered
            polled hub' spec
  | sysSend frame => exact .sysSend frame
  | goAway error => exact .goAway error
  | closeSenders => exact .closeSenders
  | dropManager => exact .dropManager
  | pollRead key cx remaining =>
      simp only [Hub.step, Hub.pollRead]
      split
      · rename_i held
        cases read : (hub.ends key).stream.pollRead cx remaining with
        | error panic => exact .panicked _ panic
        | ok outcome =>
            exact .user _ key held _ (changes_pollRead (dropped_of_held held) read)
      · exact .idle _
  | pollWrite key cx buf =>
      simp only [Hub.step, Hub.pollWrite]
      split
      · rename_i held
        cases written : (hub.ends key).stream.pollWrite cx buf with
        | error panic => exact .panicked _ panic
        | ok outcome =>
            exact .user _ key held _ (changes_pollWrite (dropped_of_held held) written)
      · exact .idle _
  | pollFlush key =>
      simp only [Hub.step]
      split
      · rename_i held
        exact .user _ key held _ (changes_pollFlush _ (dropped_of_held held))
      · exact .idle _
  | pollShutdown key =>
      simp only [Hub.step]
      split
      · rename_i held
        exact .user _ key held _ (changes_pollShutdown (dropped_of_held held))
      · exact .idle _
  | dropStream key =>
      simp only [Hub.step]
      split
      · rename_i held
        exact .user _ key held _ (.single (.drop (dropped_of_held held)))
      · exact .idle _

theorem getStream_setHandle (hub : Hub) (Kept : StreamHandle → StreamHandle → Prop)
    (refl : ∀ handle, Kept handle handle) {id : StreamID} {handle handle' : StreamHandle}
    (found : hub.getStream id = some handle) {other : StreamID} {last : StreamHandle}
    (foundLast : (hub.setHandle id handle').getStream other = some last)
    (kept : Kept handle handle') :
    ∃ old, hub.getStream other = some old ∧ Kept old last := by
  by_cases own : other = id
  · subst own
    obtain rfl : handle' = last := by simpa [getStream, setHandle] using foundLast
    exact ⟨handle, found, kept⟩
  · refine ⟨last, ?_, refl last⟩
    simpa [getStream, setHandle, AList.lookup_insert_ne own] using foundLast

theorem getStream_erase (hub : Hub) {id other : StreamID} {handle : StreamHandle}
    (found : (hub.manager.streams.erase id).lookup other = some handle) :
    other ≠ id ∧ hub.getStream other = some handle := by
  have different : other ≠ id := by
    rintro rfl
    rw [AList.lookup_erase] at found
    cases found
  rw [AList.lookup_erase_ne different] at found
  exact ⟨different, found⟩

/-- The frames yielded on behalf of the stream at a key. -/
def framesOf (key : StreamKey) (emitted : List (Option StreamKey × Frame)) : List Frame :=
  (emitted.filter fun entry => entry.1 == some key).map Prod.snd

@[simp] theorem framesOf_append (key : StreamKey)
    (first second : List (Option StreamKey × Frame)) :
    framesOf key (first ++ second) = framesOf key first ++ framesOf key second := by
  simp [framesOf]

@[simp]
theorem framesOf_own (key : StreamKey) (frame : Frame) :
    framesOf key [(some key, frame)] = [frame] := by
  simp [framesOf]

theorem framesOf_other {key : StreamKey} {origin : Option StreamKey} (other : origin ≠ some key)
    (frame : Frame) : framesOf key [(origin, frame)] = [] := by
  simp [framesOf, other]

theorem mem_framesOf {key : StreamKey} {emitted : List (Option StreamKey × Frame)}
    {frame : Frame} : frame ∈ framesOf key emitted ↔ (some key, frame) ∈ emitted := by
  simp [framesOf]

/-- The table, the tasks and the yielded frames refer to created stream ends by the
right id, and every pending task holds the receiver of its stream. -/
structure Addressed (hub : Hub) : Prop where
  taskKeys : (hub.manager.tasks.map Prod.snd).Nodup
  task : ∀ task ∈ hub.manager.tasks, task.2 < hub.nextKey ∧ (hub.ends task.2).id = task.1 ∧
    (hub.ends task.2).stream.fout.sink.receiverAlive = true
  handle : ∀ id handle, hub.getStream id = some handle →
    handle.stream < hub.nextKey ∧ (hub.ends handle.stream).id = id
  emitted : ∀ key frame, (some key, frame) ∈ hub.emitted →
    key < hub.nextKey ∧ frame.header.streamId = (hub.ends key).id
  sent : ∀ key, (hub.ends key).sent = framesOf key hub.emitted

namespace Addressed

variable {hub : Hub}

/-- The parts of the ends that addresses depend on stay the same. -/
theorem congr (addressed : hub.Addressed) {hub' : Hub}
    (nextKey : hub'.nextKey = hub.nextKey) (emitted : hub'.emitted = hub.emitted)
    (tasks : hub'.manager.tasks = hub.manager.tasks)
    (handle : ∀ id handle', hub'.getStream id = some handle' →
      ∃ handle, hub.getStream id = some handle ∧ handle'.stream = handle.stream)
    (ends : ∀ key, (hub'.ends key).id = (hub.ends key).id ∧
      (hub'.ends key).sent = (hub.ends key).sent ∧
      (hub'.ends key).stream.fout.sink.receiverAlive =
        (hub.ends key).stream.fout.sink.receiverAlive) :
    hub'.Addressed := by
  constructor
  case taskKeys => rw [tasks]; exact addressed.taskKeys
  case task =>
    rw [tasks, nextKey]
    intro task member
    rw [(ends task.2).1, (ends task.2).2.2]
    exact addressed.task task member
  case handle =>
    intro id handle' found
    obtain ⟨old, oldFound, same⟩ := handle id handle' found
    rw [nextKey, same, (ends old.stream).1]
    exact addressed.handle id old oldFound
  case emitted =>
    rw [emitted, nextKey]
    intro key frame member
    rw [(ends key).1]
    exact addressed.emitted key frame member
  case sent =>
    intro key
    rw [(ends key).2.1, emitted]
    exact addressed.sent key

/-- The answering task leaves the set and the receiver of its stream is dropped. -/
theorem endTask (addressed : hub.Addressed) {index : Nat} {id : StreamID} {key : StreamKey}
    (task : hub.manager.tasks[index]? = some (id, key)) (sink : Channel Frame) :
    ((hub.popTask index key sink).endTask id key).Addressed := by
  have split := KeyedRoutes.perm_cons_eraseIdx task
  have keys := (split.map Prod.snd).nodup_iff.mp addressed.taskKeys
  rw [List.map_cons, List.nodup_cons] at keys
  have keeps (other : StreamKey) :
      (((hub.popTask index key sink).endTask id key).ends other).id = (hub.ends other).id ∧
        (((hub.popTask index key sink).endTask id key).ends other).sent =
          (hub.ends other).sent := by
    have removed := removeStream_keeps (hub.popTask index key sink) id other
    by_cases same : other = key
    · subst same
      simp only [popTask_ends, Function.update_self, StreamEnd.setSink] at removed
      simpa [Hub.endTask, StreamEnd.dropReceiver] using ⟨removed.1, removed.2.1⟩
    · simp only [popTask_ends, Function.update_of_ne same] at removed
      simpa [Hub.endTask, Function.update_of_ne same] using ⟨removed.1, removed.2.1⟩
  constructor
  case taskKeys => simpa [popTask] using keys.2
  case task =>
    intro other member
    have member : other ∈ hub.manager.tasks.eraseIdx index := by
      simpa [popTask] using member
    have different : other.2 ≠ key := by
      intro same
      exact keys.1 (List.mem_map.mpr ⟨other, member, same⟩)
    obtain ⟨created, right, alive⟩ := addressed.task other (List.mem_of_mem_eraseIdx member)
    refine ⟨by simpa [popTask] using created, (keeps other.2).1.trans right, ?_⟩
    simpa [Hub.endTask, Function.update_of_ne different] using alive
  case handle =>
    intro other handle found
    obtain ⟨-, found⟩ := getStream_erase hub
      (show (hub.manager.streams.erase id).lookup other = some handle by
        simpa [popTask, getStream] using found)
    rw [(keeps handle.stream).1]
    simpa [popTask] using addressed.handle other handle found
  case emitted =>
    intro other frame member
    rw [(keeps other).1]
    simpa [popTask] using addressed.emitted other frame (by simpa [popTask] using member)
  case sent =>
    intro other
    rw [(keeps other).2, addressed.sent other]
    simp [popTask]

/-- The answering task is put back and the handle is updated. -/
theorem requeue (addressed : hub.Addressed) {index : Nat} {id : StreamID} {key : StreamKey}
    (task : hub.manager.tasks[index]? = some (id, key)) {item : Option Frame}
    {sink : Channel Frame} (answer : Answer (hub.ends key).stream.fout.sink item sink)
    {handle handle' : StreamHandle} (found : hub.getStream id = some handle)
    (same : handle'.stream = handle.stream) :
    (((hub.popTask index key sink).setHandle id handle').pushTask id key).Addressed := by
  have order : ((hub.manager.tasks.eraseIdx index) ++ [(id, key)]).Perm hub.manager.tasks :=
    KeyedRoutes.perm_eraseIdx_append task
  have alive : sink.receiverAlive = (hub.ends key).stream.fout.sink.receiverAlive := by
    cases answer <;> rfl
  have keeps (other : StreamKey) :
      ((hub.popTask index key sink).ends other).id = (hub.ends other).id ∧
        ((hub.popTask index key sink).ends other).sent = (hub.ends other).sent ∧
        ((hub.popTask index key sink).ends other).stream.fout.sink.receiverAlive =
          (hub.ends other).stream.fout.sink.receiverAlive := by
    by_cases own : other = key
    · subst own
      simp [StreamEnd.setSink, alive]
    · simp [Function.update_of_ne own]
  constructor
  case taskKeys => exact (order.map Prod.snd).nodup_iff.mpr addressed.taskKeys
  case task =>
    intro other member
    have old := addressed.task other (order.mem_iff.mp member)
    refine ⟨old.1, (keeps other.2).1.trans old.2.1, (keeps other.2).2.2.trans old.2.2⟩
  case handle =>
    intro other handle'' found'
    by_cases own : other = id
    · subst own
      obtain rfl : handle' = handle'' := by
        simpa [getStream, pushTask, Hub.setHandle] using found'
      rw [same]
      have old := addressed.handle other handle found
      exact ⟨old.1, (keeps handle.stream).1.trans old.2⟩
    · have old := addressed.handle other handle'' (by
        simpa [getStream, pushTask, Hub.setHandle, popTask, AList.lookup_insert_ne own] using found')
      exact ⟨old.1, (keeps handle''.stream).1.trans old.2⟩
  case emitted =>
    intro other frame member
    have old := addressed.emitted other frame member
    exact ⟨old.1, old.2.trans (keeps other).1.symm⟩
  case sent => exact fun other => (keeps other).2.1.trans (addressed.sent other)

/-- A frame is yielded on behalf of a created stream under its own id. -/
theorem emitFor (addressed : hub.Addressed) {key : StreamKey} {frame : Frame}
    (created : key < hub.nextKey) (own : frame.header.streamId = (hub.ends key).id) :
    (hub.emitFor key frame).Addressed := by
  have keeps (other : StreamKey) :
      ((hub.emitFor key frame).ends other).id = (hub.ends other).id ∧
        ((hub.emitFor key frame).ends other).stream = (hub.ends other).stream := by
    by_cases same : other = key
    · subst same
      simp
    · simp [Function.update_of_ne same]
  constructor
  case taskKeys => exact addressed.taskKeys
  case task =>
    intro task member
    rw [(keeps task.2).1, (keeps task.2).2]
    exact addressed.task task member
  case handle =>
    intro id handle found
    rw [(keeps handle.stream).1]
    exact addressed.handle id handle found
  case emitted =>
    intro other frame' member
    rw [(keeps other).1]
    rcases List.mem_append.mp member with old | new
    · exact addressed.emitted other frame' old
    · obtain ⟨rfl, rfl⟩ : other = key ∧ frame' = frame := by simpa using new
      exact ⟨created, own⟩
  case sent =>
    intro other
    by_cases same : other = key
    · subst same
      simp [addressed.sent other, Hub.emitFor, Hub.emit, setEnd, framesOf]
    · have different : ¬ key = other := fun eq => same eq.symm
      simp [addressed.sent other, Hub.emitFor, Hub.emit, setEnd, framesOf,
        Function.update_of_ne same, different]

theorem emitSystem (addressed : hub.Addressed) (frame : Frame) :
    (hub.emit none frame).Addressed :=
  { addressed with
    emitted := fun key frame' member => addressed.emitted key frame' (by
      simpa [Hub.emit] using member)
    sent := fun key => by simpa [Hub.emit, framesOf] using addressed.sent key }

theorem next (addressed : hub.Addressed) {index : Nat} {id : StreamID} {key : StreamKey}
    (task : hub.manager.tasks[index]? = some (id, key)) {item : Option Frame}
    {sink : Channel Frame} (answer : Answer (hub.ends key).stream.fout.sink item sink)
    {handle : StreamHandle} (found : hub.getStream id = some handle)
    {outcome : Poll (Option Frame) × Hub}
    (spec : (hub.popTask index key sink).NextFrameSpec id key handle item outcome) :
    outcome.2.Addressed := by
  obtain ⟨created, right, -⟩ := addressed.task (id, key) (List.mem_of_getElem? task)
  have ended := addressed.endTask task sink
  cases spec with
  | removed _ _ _ => exact ended
  | ended _ => exact ended
  | frame frame _ =>
      refine (addressed.requeue task answer found
        (show (StreamHandle.afterFrame handle frame).stream = handle.stream from rfl)).emitFor
        created ?_
      simpa [StreamEnd.setSink] using right.symm
  | fin _ =>
      refine ended.emitFor (by simpa [popTask] using created) ?_
      have kept := removeStream_keeps (hub.popTask index key sink) id key
      simp only [popTask_ends, Function.update_self, StreamEnd.setSink] at kept
      simpa [Hub.endTask, StreamEnd.dropReceiver] using (kept.1.trans right).symm

theorem afterSend (addressed : hub.Addressed) {id : StreamID} {handle handle' : StreamHandle}
    {target : StreamEnd} (sending : Option Sending) (found : hub.getStream id = some handle)
    (same : handle'.stream = handle.stream)
    (keeps : target.id = (hub.ends handle.stream).id ∧
      target.sent = (hub.ends handle.stream).sent ∧
      target.stream.fout.sink.receiverAlive =
        (hub.ends handle.stream).stream.fout.sink.receiverAlive) :
    (hub.afterSend id handle.stream handle' target sending).Addressed := by
  refine addressed.congr rfl rfl rfl (fun _ _ found' => getStream_setHandle hub
    (fun old last => last.stream = old.stream) (fun _ => rfl) found found' same) fun key => ?_
  by_cases own : key = handle.stream
  · subst own
    simpa [Hub.afterSend] using keeps
  · simp [Hub.afterSend, Function.update_of_ne own]

theorem pollSend (addressed : hub.Addressed) {sending : Sending}
    {outcome : Poll (Except Error Unit) × Hub} (spec : hub.PollSendSpec sending outcome) :
    outcome.2.Addressed := by
  cases spec with
  | unregistered _ => exact { addressed with }
  | reset _ found _ _ => exact addressed.afterSend none found rfl ⟨rfl, rfl, rfl⟩
  | waiting _ found _ _ _ => exact addressed.afterSend _ found rfl ⟨rfl, rfl, rfl⟩
  | delivered _ found _ _ _ _ => exact addressed.afterSend none found rfl ⟨rfl, rfl, rfl⟩
  | ignored _ found _ _ _ _ => exact addressed.afterSend none found rfl ⟨rfl, rfl, rfl⟩
  | refused _ found _ _ _ _ => exact addressed.afterSend none found rfl ⟨rfl, rfl, rfl⟩

theorem created (addressed : hub.Addressed) {remote : Option StreamID} {window : Nat}
    {needsSyn : Bool} {newId : StreamID} {key : StreamKey} {hub' : Hub}
    (opened : hub.createStream remote window needsSyn = .ok (newId, key, hub')) :
    hub'.Addressed := by
  obtain ⟨-, rfl, nextKey, -, ends, streams, tasks, -, -, -, emitted, -⟩ :=
    createStream_eq_ok opened
  have new : hub'.ends hub.nextKey = StreamEnd.create newId window needsSyn := by simp [ends]
  have old (other : StreamKey) (created : other < hub.nextKey) :
      (hub'.ends other).id = (hub.ends other).id ∧ (hub'.ends other).sent = (hub.ends other).sent ∧
        (hub'.ends other).stream.fout = (hub.ends other).stream.fout := by
    have kept := removeStream_keeps hub newId other
    have fout := removeStream_fout hub newId other
    rw [ends, Function.update_of_ne (Nat.ne_of_lt created)]
    exact ⟨kept.1, kept.2.1, fout⟩
  constructor
  case taskKeys =>
    rw [tasks, List.map_append, List.nodup_append]
    refine ⟨addressed.taskKeys, by simp, ?_⟩
    intro first member second single same
    obtain ⟨task, inTasks, rfl⟩ := List.mem_map.mp member
    have created := (addressed.task task inTasks).1
    simp only [List.map_cons, List.map_nil, List.mem_singleton] at single
    exact Nat.ne_of_lt created (same.trans single)
  case task =>
    rw [tasks, nextKey]
    intro task member
    rcases List.mem_append.mp member with inTasks | single
    · obtain ⟨created, right, alive⟩ := addressed.task task inTasks
      obtain ⟨id, -, fout⟩ := old task.2 created
      exact ⟨Nat.lt_succ_of_lt created, id.trans right, by rw [fout]; exact alive⟩
    · obtain rfl := List.mem_singleton.mp single
      exact ⟨Nat.lt_succ_self _, by rw [new]; rfl, by rw [new]; rfl⟩
  case handle =>
    rw [nextKey]
    intro id handle found
    rw [getStream, streams] at found
    by_cases own : id = newId
    · subst own
      rw [AList.lookup_insert] at found
      obtain rfl := Option.some.inj found
      exact ⟨Nat.lt_succ_self _, by rw [new]; rfl⟩
    · rw [AList.lookup_insert_ne own] at found
      obtain ⟨created, right⟩ := addressed.handle id handle found
      exact ⟨Nat.lt_succ_of_lt created, (old handle.stream created).1.trans right⟩
  case emitted =>
    rw [emitted, nextKey]
    intro other frame member
    obtain ⟨created, right⟩ := addressed.emitted other frame member
    exact ⟨Nat.lt_succ_of_lt created, right.trans (old other created).1.symm⟩
  case sent =>
    intro other
    rw [emitted]
    by_cases own : other = hub.nextKey
    · subst own
      have none : framesOf hub.nextKey hub.emitted = [] := by
        refine List.map_eq_nil_iff.mpr (List.filter_eq_nil_iff.mpr ?_)
        rintro ⟨origin, frame⟩ member isOwn
        obtain rfl : origin = some hub.nextKey := by simpa using isOwn
        exact Nat.lt_irrefl _ (addressed.emitted hub.nextKey frame member).1
      rw [new, none]
      rfl
    · have kept := removeStream_keeps hub newId other
      rw [ends, Function.update_of_ne own, kept.2.1]
      exact addressed.sent other

/-- The manager drops its whole table and its tasks. -/
theorem cleared (addressed : hub.Addressed) (hub' : Hub)
    (nextKey : hub'.nextKey = hub.nextKey) (emitted : hub'.emitted = hub.emitted)
    (tasks : hub'.manager.tasks = []) (streams : hub'.manager.streams = ∅)
    (ends : ∀ key, (hub'.ends key).id = (hub.ends key).id ∧
      (hub'.ends key).sent = (hub.ends key).sent) :
    hub'.Addressed where
  taskKeys := by simp [tasks]
  task := by simp [tasks]
  handle := by simp [getStream, streams]
  emitted := by
    rw [emitted, nextKey]
    intro key frame member
    rw [(ends key).1]
    exact addressed.emitted key frame member
  sent := fun key => by rw [(ends key).2, emitted]; exact addressed.sent key

theorem step (addressed : hub.Addressed) (op : HubOp) : (hub.step op).Addressed := by
  have spec := hub.step_spec op
  generalize hub.step op = hub' at spec
  cases spec with
  | idle _ => exact addressed
  | panicked _ _ => exact { addressed with }
  | created remote window needsSyn newId key hub' opened => exact addressed.created opened
  | startSend _ _ _ => exact { addressed with }
  | pollSend sending _ polled hub' spec => exact addressed.pollSend spec
  | closeDataWrite id handle found =>
      exact addressed.congr rfl rfl rfl (fun _ _ found' => getStream_setHandle hub
        (fun old last => last.stream = old.stream) (fun _ => rfl) found found' rfl)
        fun _ => ⟨rfl, rfl, rfl⟩
  | waiting _ _ => exact { addressed with }
  | system _ cx _ frame rest _ =>
      have stored : ((hub.storeWaker cx).setSysRx rest).Addressed := { addressed with }
      unfold nextSystemFrame
      split
      · refine (stored.cleared (((hub.storeWaker cx).setSysRx rest).clearTasks.goAway
          .sessionClosed) rfl rfl rfl rfl fun key => ?_).emitSystem _
        have away := goAway_keeps ((hub.storeWaker cx).setSysRx rest).clearTasks .sessionClosed key
        have clear := clearTasks_keeps ((hub.storeWaker cx).setSysRx rest) key
        exact ⟨away.1.trans clear.1, away.2.1.trans clear.2.1⟩
      · exact stored.emitSystem frame
  | next _ cx _ _ index id taskKey task item sink answer handle found polled hub' spec =>
      have stored : (hub.storeWaker cx).Addressed := { addressed with }
      exact stored.next task answer found spec
  | sysSend _ => exact { addressed with }
  | goAway error =>
      refine addressed.congr rfl rfl rfl (fun id handle found => ?_) fun key => ?_
      · simp [getStream, Hub.goAway] at found
      · obtain ⟨id, sent, -, sink⟩ := goAway_keeps hub error key
        exact ⟨id, sent, by rw [sink]⟩
  | closeSenders =>
      refine addressed.congr rfl rfl rfl (fun id handle found => ⟨handle, found, rfl⟩) fun key => ?_
      obtain ⟨id, sent, -, fout⟩ := closeSenders_keeps hub key
      exact ⟨id, sent, by rw [fout]⟩
  | dropManager =>
      refine addressed.cleared _ rfl rfl rfl rfl fun key => ?_
      have clear := clearTasks_keeps
        { hub.closeSenders with manager := { hub.manager with streams := ∅ } } key
      have close := closeSenders_keeps hub key
      exact ⟨clear.1.trans close.1, clear.2.1.trans close.2.1⟩
  | user _ key _ target changes =>
      refine addressed.congr rfl rfl rfl (fun id handle found => ⟨handle, found, rfl⟩)
        fun other => ?_
      obtain ⟨id, -, sent, -, alive⟩ := changes.application_keeps
      by_cases own : other = key
      · subst own
        simpa using ⟨id, sent, alive⟩
      · simp [Function.update_of_ne own]

theorem new (streamLimit : Nat) (client : Bool) : (Hub.new streamLimit client).Addressed where
  taskKeys := List.nodup_nil
  task := by simp [Hub.new]
  handle := by simp [Hub.new, getStream]
  emitted := by simp [Hub.new]
  sent := fun _ => rfl

theorem of_reaches {streamLimit : Nat} {client : Bool} {admits : Hub → HubOp → Prop}
    (reaches : Reaches Hub.step admits (Hub.new streamLimit client) hub) : hub.Addressed :=
  reaches.invariant Addressed (fun _ op _ addressed => addressed.step op)
    (new streamLimit client)

end Addressed

/-- No operation acts on a stream end except by elementary changes of one actor, or
by creating it at the next free key. -/
theorem step_changes_or_creates {hub : Hub} (addressed : hub.Addressed) (op : HubOp)
    (key : StreamKey) :
    (∃ actor, Changes actor (hub.ends key) ((hub.step op).ends key)) ∨
      key = hub.nextKey ∧ ∃ id window needsSyn,
        (hub.step op).ends key = StreamEnd.create id window needsSyn := by
  have spec := hub.step_spec op
  generalize hub.step op = hub' at spec
  cases spec with
  | idle _ => exact .inl ⟨.manager, .refl⟩
  | panicked _ _ => exact .inl ⟨.manager, .refl⟩
  | created remote window needsSyn newId newKey hub' opened =>
      obtain ⟨-, rfl, -, -, ends, -⟩ := createStream_eq_ok opened
      by_cases new : key = hub.nextKey
      · exact .inr ⟨new, newId, window, needsSyn, by simp [ends, new]⟩
      · exact .inl ⟨.manager, by
          simpa [ends, Function.update_of_ne new] using changes_removeStream hub newId key⟩
  | startSend _ _ _ => exact .inl ⟨.manager, .refl⟩
  | pollSend sending _ polled hub' spec => exact .inl ⟨.manager, changes_pollSendToStream spec key⟩
  | closeDataWrite _ _ _ => exact .inl ⟨.manager, .refl⟩
  | waiting _ _ => exact .inl ⟨.manager, .refl⟩
  | system _ cx _ frame rest _ =>
      exact .inl ⟨.manager, changes_nextSystemFrame ((hub.storeWaker cx).setSysRx rest) frame key⟩
  | next _ cx _ _ index id taskKey task item sink answer handle _ polled hub' spec =>
      have alive := (addressed.task (id, taskKey) (List.mem_of_getElem? task)).2.2
      exact .inl ⟨.manager, changes_next (hub.storeWaker cx) alive answer spec key⟩
  | sysSend _ => exact .inl ⟨.manager, .refl⟩
  | goAway error => exact .inl ⟨.manager, changes_goAway hub error key⟩
  | closeSenders => exact .inl ⟨.manager, changes_closeSenders hub key⟩
  | dropManager =>
      exact .inl ⟨.manager, (changes_closeSenders hub key).trans (changes_clearTasks
        { hub.closeSenders with manager := { hub.manager with streams := ∅ } } key)⟩
  | user _ userKey _ target changes => exact .inl ⟨.application, changes_update _ changes key⟩

def yielded (key : StreamKey) : Poll (Option Frame) → List (Option StreamKey × Frame)
  | .ready (some frame) => [(some key, frame)]
  | _ => []

/-- The answer of a stream future touches its stream, its entry and what was
yielded, and nothing else. -/
theorem next_rest {hub : Hub} {index : Nat} {id : StreamID} {key : StreamKey}
    {item : Option Frame} {sink : Channel Frame} {handle : StreamHandle}
    {polled : Poll (Option Frame)} {hub' : Hub}
    (spec : (hub.popTask index key sink).NextFrameSpec id key handle item (polled, hub')) :
    hub'.manager.sysRx = hub.manager.sysRx ∧ hub'.manager.goneAway = hub.manager.goneAway ∧
      hub'.nextKey = hub.nextKey ∧ hub'.sending = hub.sending ∧
      hub'.emitted = hub.emitted ++ yielded key polled := by
  cases spec with
  | removed _ _ _ => simp [popTask, yielded]
  | frame frame _ => exact ⟨rfl, rfl, rfl, rfl, rfl⟩
  | fin _ => simp [popTask, emitFor, emit, setEnd, yielded]
  | ended _ => simp [popTask, yielded]

theorem step_nextKey {hub : Hub} {op : HubOp}
    (notCreate : ∀ id window needsSyn, op ≠ .createStream id window needsSyn) :
    (hub.step op).nextKey = hub.nextKey := by
  have spec := hub.step_spec op
  generalize hub.step op = hub' at spec
  cases spec with
  | created id window needsSyn _ _ _ _ => exact absurd rfl (notCreate id window needsSyn)
  | pollSend sending _ polled hub' spec => cases spec <;> rfl
  | system _ cx _ frame rest _ => unfold nextSystemFrame; split <;> rfl
  | next _ cx _ _ index id taskKey task item sink answer handle found polled hub' spec =>
      exact (next_rest spec).2.2.1
  | _ => rfl

/-- A key that is new after an operation is the one of the stream it has created. -/
theorem created_of_nextKey {hub : Hub} {op : HubOp} {key : StreamKey} (new : hub.nextKey ≤ key)
    (existing : key < (hub.step op).nextKey) :
    ∃ remote window needsSyn newId, op = .createStream remote window needsSyn ∧
      hub.createStream remote window needsSyn = .ok (newId, key, hub.step op) := by
  by_cases creates : ∃ remote window needsSyn, op = .createStream remote window needsSyn
  · obtain ⟨remote, window, needsSyn, rfl⟩ := creates
    cases opened : hub.createStream remote window needsSyn with
    | error error =>
        simp only [Hub.step, opened] at existing
        exact absurd existing (Nat.not_lt.mpr new)
    | ok result =>
        obtain ⟨newId, newKey, hub'⟩ := result
        obtain ⟨-, rfl, nextKey, -⟩ := createStream_eq_ok opened
        simp only [Hub.step, opened, nextKey] at existing
        obtain rfl : key = hub.nextKey := Nat.le_antisymm (Nat.le_of_lt_succ existing) new
        refine ⟨remote, window, needsSyn, newId, rfl, ?_⟩
        simp only [Hub.step, opened]
  · rw [step_nextKey fun id window needsSyn is => creates ⟨id, window, needsSyn, is⟩] at existing
    exact absurd existing (Nat.not_lt.mpr new)

theorem step_nextKey_le (hub : Hub) (op : HubOp) : hub.nextKey ≤ (hub.step op).nextKey := by
  by_cases creates : ∃ remote window needsSyn, op = .createStream remote window needsSyn
  · obtain ⟨remote, window, needsSyn, rfl⟩ := creates
    cases opened : hub.createStream remote window needsSyn with
    | error error => simp only [Hub.step, opened, le_refl]
    | ok result =>
        have nextKey := (createStream_eq_ok opened).2.2.1
        simp only [Hub.step, opened, nextKey]
        exact Nat.le_succ _
  · exact (step_nextKey fun id window needsSyn is => creates ⟨id, window, needsSyn, is⟩).ge

/-- How a handle may change while its stream stays registered. -/
structure HandleKept (handle handle' : StreamHandle) : Prop where
  stream : handle'.stream = handle.stream
  needsFin : handle.needsFin = false → handle'.needsFin = false
  dataWriteClosed : handle.dataWriteClosed = true → handle'.dataWriteClosed = true

theorem HandleKept.refl (handle : StreamHandle) : HandleKept handle handle :=
  ⟨rfl, id, id⟩

/-- A registered handle was registered before, or the operation has created it. -/
theorem step_handle {hub : Hub} {op : HubOp} {id : StreamID} {handle' : StreamHandle}
    (found' : (hub.step op).getStream id = some handle') :
    (∃ handle, hub.getStream id = some handle ∧ HandleKept handle handle') ∨
      ∃ remote window needsSyn, op = .createStream remote window needsSyn ∧
        hub.chosenId remote = id ∧ handle' = ⟨hub.nextKey, true, false, window⟩ := by
  have spec := hub.step_spec op
  generalize hub.step op = hub' at spec found'
  cases spec with
  | idle _ => exact .inl ⟨handle', found', .refl _⟩
  | panicked _ _ => exact .inl ⟨handle', found', .refl _⟩
  | created remote window needsSyn newId key hub' opened =>
      obtain ⟨-, rfl, -, rfl, -, streams, -⟩ := createStream_eq_ok opened
      rw [getStream, streams] at found'
      by_cases own : id = hub.chosenId remote
      · subst own
        rw [AList.lookup_insert] at found'
        exact .inr ⟨remote, window, needsSyn, rfl, rfl, (Option.some.inj found').symm⟩
      · rw [AList.lookup_insert_ne own] at found'
        exact .inl ⟨handle', found', .refl _⟩
  | startSend _ _ _ => exact .inl ⟨handle', found', .refl _⟩
  | pollSend sending _ polled hub' spec =>
      left
      cases spec with
      | unregistered _ => exact ⟨handle', found', .refl _⟩
      | reset _ found _ _ =>
          exact getStream_setHandle hub HandleKept .refl found found' ⟨rfl, fun _ => rfl, fun _ => rfl⟩
      | waiting _ found _ _ _ =>
          exact getStream_setHandle hub HandleKept .refl found found' ⟨rfl, fun same => same, fun same => same⟩
      | delivered _ found _ _ _ _ =>
          exact getStream_setHandle hub HandleKept .refl found found' ⟨rfl, fun same => same, fun same => same⟩
      | ignored _ found _ _ _ _ =>
          exact getStream_setHandle hub HandleKept .refl found found' ⟨rfl, fun same => same, fun same => same⟩
      | refused _ found _ _ _ _ =>
          exact getStream_setHandle hub HandleKept .refl found found' ⟨rfl, fun _ => rfl, fun _ => rfl⟩
  | closeDataWrite other handle found =>
      exact .inl (getStream_setHandle hub HandleKept .refl found found' ⟨rfl, fun same => same, fun _ => rfl⟩)
  | waiting _ _ => exact .inl ⟨handle', found', .refl _⟩
  | system _ cx _ frame rest _ =>
      left
      unfold nextSystemFrame at found'
      split at found'
      · simp [getStream, goAway, emit] at found'
      · exact ⟨handle', found', .refl _⟩
  | next _ cx _ _ index other taskKey task item sink answer handle found polled hub' spec =>
      left
      cases spec with
      | removed _ _ _ =>
          exact ⟨handle', (getStream_erase hub (by
            simpa [getStream, popTask, storeWaker] using found')).2, .refl _⟩
      | frame frame _ =>
          refine getStream_setHandle hub HandleKept .refl found found'
            ⟨rfl, fun noFin => ?_, fun same => same⟩
          simp [StreamHandle.afterFrame, noFin]
      | fin _ =>
          exact ⟨handle', (getStream_erase hub (by
            simpa [getStream, emitFor, emit, popTask, storeWaker] using found')).2, .refl _⟩
      | ended _ =>
          exact ⟨handle', (getStream_erase hub (by
            simpa [getStream, popTask, storeWaker] using found')).2, .refl _⟩
  | sysSend _ => exact .inl ⟨handle', found', .refl _⟩
  | goAway error => simp [getStream, goAway] at found'
  | closeSenders => exact .inl ⟨handle', found', .refl _⟩
  | dropManager => simp [getStream, dropManager, clearTasks] at found'
  | user _ _ _ _ _ => exact .inl ⟨handle', found', .refl _⟩

/-- A manager that has gone away does not come back. -/
theorem step_goneAway {hub : Hub} (gone : hub.manager.goneAway = true) (op : HubOp) :
    (hub.step op).manager.goneAway = true := by
  have spec := hub.step_spec op
  generalize hub.step op = hub' at spec
  cases spec with
  | created remote window needsSyn newId newKey hub' opened =>
      exact (createStream_eq_ok opened).2.2.2.2.2.2.2.1.trans gone
  | pollSend sending _ polled hub' spec => cases spec <;> exact gone
  | system _ cx _ frame rest _ =>
      unfold nextSystemFrame
      split
      · rfl
      · exact gone
  | next _ cx alive _ _ _ _ _ _ _ _ _ _ _ _ _ =>
      rw [gone] at alive
      cases alive
  | goAway _ => rfl
  | _ => exact gone

/-- The system channel and the frames yielded from it hold what the session has put
there. -/
structure SystemFrames (hub : Hub) : Prop where
  queued : ∀ frame ∈ hub.manager.sysRx, ∃ system : SystemFrame, frame = system.toFrame
  emitted : ∀ frame, (none, frame) ∈ hub.emitted → ∃ system : SystemFrame, frame = system.toFrame

namespace SystemFrames

variable {hub : Hub}

theorem nextSystemFrame {frame : Frame} (system : SystemFrame)
    (own : frame = system.toFrame) : ∃ system : SystemFrame,
      (hub.nextSystemFrame frame).1 = system.toFrame := by
  subst own
  cases system with
  | rst streamId error => exact ⟨.rst streamId error, rfl⟩
  | goaway lastStreamId error message =>
      exact ⟨.goaway hub.manager.lastRemoteId error message, rfl⟩

theorem nextSystemFrame_eq (hub : Hub) (frame : Frame) :
    (hub.nextSystemFrame frame).2.emitted = hub.emitted ++ [(none, (hub.nextSystemFrame frame).1)] ∧
      (hub.nextSystemFrame frame).2.manager.sysRx = hub.manager.sysRx := by
  unfold Hub.nextSystemFrame
  split <;> exact ⟨rfl, rfl⟩

theorem step (system : hub.SystemFrames) (op : HubOp) : (hub.step op).SystemFrames := by
  have spec := hub.step_spec op
  generalize hub.step op = hub' at spec
  cases spec with
  | created remote window needsSyn newId newKey hub' opened =>
      obtain ⟨-, -, -, -, -, -, -, -, -, sysRx, emitted, -⟩ := createStream_eq_ok opened
      exact ⟨by rw [sysRx]; exact system.queued, by rw [emitted]; exact system.emitted⟩
  | pollSend sending _ polled hub' spec => cases spec <;> exact { system with }
  | system _ cx _ frame rest queued =>
      obtain ⟨emitted, sysRx⟩ := nextSystemFrame_eq ((hub.storeWaker cx).setSysRx rest) frame
      obtain ⟨own, shape⟩ := system.queued frame (by rw [queued]; exact List.mem_cons_self)
      constructor
      · rw [sysRx]
        intro other member
        exact system.queued other (by rw [queued]; exact List.mem_cons_of_mem frame member)
      · rw [emitted]
        intro other member
        rcases List.mem_append.mp member with old | new
        · exact system.emitted other old
        · obtain rfl : other = _ := (Prod.mk.inj (List.mem_singleton.mp new)).2
          exact nextSystemFrame own shape
  | next _ cx _ _ index id key task item sink answer handle found polled hub' spec =>
      obtain ⟨sysRx, -, -, -, emitted⟩ := next_rest spec
      refine ⟨by rw [sysRx]; exact system.queued, ?_⟩
      rw [emitted]
      intro other member
      rcases List.mem_append.mp member with old | new
      · exact system.emitted other old
      · unfold yielded at new
        split at new <;> simp at new
  | sysSend frame =>
      refine { system with queued := fun other member => ?_ }
      rcases List.mem_append.mp member with old | new
      · exact system.queued other old
      · exact ⟨frame, List.mem_singleton.mp new⟩
  | _ => exact { system with }

theorem of_reaches {streamLimit : Nat} {client : Bool} {admits : Hub → HubOp → Prop}
    (reaches : Reaches Hub.step admits (Hub.new streamLimit client) hub) : hub.SystemFrames :=
  reaches.invariant SystemFrames (fun _ op _ system => system.step op)
    ⟨by simp [Hub.new], by simp [Hub.new]⟩

end SystemFrames

def polledFrames : Poll (Option Frame) → List Frame
  | .ready (some frame) => [frame]
  | _ => []

/-- Exactly the frame that a poll answers with is recorded. -/
theorem pollNext_emitted {hub hub' : Hub} {pick : Option Nat} {cx : Waker}
    {polled : Poll (Option Frame)} (next : hub.pollNext pick cx = .ok (polled, hub')) :
    ∃ origin, hub'.emitted = hub.emitted ++ (polledFrames polled).map (Prod.mk origin) := by
  have spec := hub.pollNext_spec pick cx
  rw [next] at spec
  generalize outcomeEq : Except.ok (ε := Panic) (polled, hub') = outcome at spec
  cases spec with
  | unknown _ _ _ _ _ _ => cases outcomeEq
  | goneAway _ =>
      obtain ⟨rfl, rfl⟩ := Prod.mk.inj (Except.ok.inj outcomeEq)
      exact ⟨none, (List.append_nil _).symm⟩
  | waiting _ _ =>
      obtain ⟨rfl, rfl⟩ := Prod.mk.inj (Except.ok.inj outcomeEq)
      exact ⟨none, (List.append_nil _).symm⟩
  | system _ frame rest _ =>
      obtain ⟨rfl, rfl⟩ := Prod.mk.inj (Except.ok.inj outcomeEq)
      exact ⟨none, (SystemFrames.nextSystemFrame_eq _ frame).1⟩
  | next _ _ index id key task item sink answer handle found polled' hub'' spec =>
      obtain ⟨rfl, rfl⟩ := Prod.mk.inj (Except.ok.inj outcomeEq)
      refine ⟨some key, ((next_rest spec).2.2.2.2).trans ?_⟩
      unfold yielded polledFrames
      split <;> rfl

/-- Only a poll yields frames or takes them from the system channel. -/
theorem step_emitted {hub : Hub} {op : HubOp} (notPoll : ∀ pick cx, op ≠ .pollNext pick cx) :
    (hub.step op).emitted = hub.emitted ∧
      ((hub.step op).manager.sysRx = hub.manager.sysRx ∨
        ∃ system, op = .sysSend system ∧
          (hub.step op).manager.sysRx = hub.manager.sysRx ++ [system.toFrame]) := by
  have spec := hub.step_spec op
  generalize hub.step op = hub' at spec
  cases spec with
  | created id window needsSyn _ _ _ opened =>
      obtain ⟨-, -, -, -, -, -, -, -, -, sysRx, emitted, -⟩ := createStream_eq_ok opened
      exact ⟨emitted, Or.inl sysRx⟩
  | pollSend sending _ polled hub' spec => cases spec <;> exact ⟨rfl, Or.inl rfl⟩
  | waiting pick cx => exact absurd rfl (notPoll pick cx)
  | system pick cx _ _ _ _ => exact absurd rfl (notPoll pick cx)
  | next pick cx _ _ _ _ _ _ _ _ _ _ _ _ _ _ => exact absurd rfl (notPoll pick cx)
  | sysSend system => exact ⟨rfl, Or.inr ⟨system, rfl, rfl⟩⟩
  | _ => exact ⟨rfl, Or.inl rfl⟩

theorem step_changes {hub : Hub} (addressed : hub.Addressed) (op : HubOp) {key : StreamKey}
    (existing : key < hub.nextKey) :
    ∃ actor, Changes actor (hub.ends key) ((hub.step op).ends key) := by
  rcases step_changes_or_creates addressed op key with changes | ⟨new, -⟩
  · exact changes
  · exact absurd (new ▸ existing) (Nat.lt_irrefl _)

theorem step_id {hub : Hub} (addressed : hub.Addressed) (op : HubOp) {key : StreamKey}
    (existing : key < hub.nextKey) : ((hub.step op).ends key).id = (hub.ends key).id := by
  obtain ⟨actor, changes⟩ := step_changes addressed op existing
  cases actor with
  | application => exact changes.application_keeps.1
  | manager => exact changes.manager_keeps.1

/-- One operation keeps a law of the stream ends that every new end obeys and every
elementary change keeps. -/
theorem step_ends {Law : StreamEnd → Prop}
    (created : ∀ id window needsSyn, Law (StreamEnd.create id window needsSyn))
    (kept : ∀ {actor before after}, Change actor before after → Law before → Law after)
    {hub : Hub} (addressed : hub.Addressed) (op : HubOp) (laws : ∀ key, Law (hub.ends key))
    (key : StreamKey) : Law ((hub.step op).ends key) := by
  rcases step_changes_or_creates addressed op key with
    ⟨actor, changes⟩ | ⟨-, id, window, needsSyn, new⟩
  · exact StreamEnd.Changes.keep kept changes (laws key)
  · rw [new]
    exact created id window needsSyn

theorem later_end {Law : StreamEnd → Prop}
    (kept : ∀ {actor before after}, Change actor before after → Law before → Law after)
    {admits : Hub → HubOp → Prop} {hub later : Hub} (addressed : hub.Addressed)
    {key : StreamKey} (existing : key < hub.nextKey)
    (reaches : Reaches Hub.step admits hub later) (law : Law (hub.ends key)) :
    Law (later.ends key) := by
  have all : later.Addressed ∧ key < later.nextKey ∧ Law (later.ends key) := by
    refine reaches.invariant (fun hub =>
      hub.Addressed ∧ key < hub.nextKey ∧ Law (hub.ends key)) ?_ ⟨addressed, existing, law⟩
    rintro hub op - ⟨addressed, existing, law⟩
    obtain ⟨actor, changes⟩ := step_changes addressed op existing
    exact ⟨addressed.step op, existing.trans_le (hub.step_nextKey_le op),
      StreamEnd.Changes.keep kept changes law⟩
  exact all.2.2

theorem ends_invariant (Law : StreamEnd → Prop)
    (created : ∀ id window needsSyn, Law (StreamEnd.create id window needsSyn))
    (kept : ∀ {actor before after}, Change actor before after → Law before → Law after)
    {streamLimit : Nat} {client : Bool} {hub : Hub} {admits : Hub → HubOp → Prop}
    (reaches : Reaches Hub.step admits (Hub.new streamLimit client) hub) (key : StreamKey) :
    Law (hub.ends key) := by
  have both : hub.Addressed ∧ ∀ key, Law (hub.ends key) := by
    refine reaches.invariant (fun hub => hub.Addressed ∧ ∀ key, Law (hub.ends key)) ?_
      ⟨Addressed.new streamLimit client, fun _ => created _ _ _⟩
    rintro hub op - ⟨addressed, laws⟩
    exact ⟨addressed.step op, step_ends created kept addressed op laws⟩
  exact both.2 key

end Hub

end Muxado

end NgrokRust
