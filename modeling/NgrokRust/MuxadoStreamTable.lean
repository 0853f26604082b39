import NgrokRust.KeyedRoutes
import NgrokRust.MuxadoManagerSteps

/-!
# The stream table and the stream futures

While the manager has not gone away, its tasks are a permutation of the routes of
its table, provided that no stream is opened under an id that is registered.  The
code does not check this for an id that comes off the wire, nor for its own
counter, and then the new stream takes the place of the old one.
-/

namespace NgrokRust

namespace Muxado

open LabelledRuns KeyedRoutes

namespace Hub

/-- A call to `create_stream` fails, or its id is not registered. -/
def opensFresh (hub : Hub) : HubOp → Prop
  | .createStream id _ _ =>
      hub.len = hub.manager.streamLimit ∨ hub.getStream (hub.chosenId id) = none
  | _ => True

def TasksMatch (hub : Hub) : Prop :=
  hub.manager.goneAway = false →
    hub.manager.tasks.Perm (routes StreamHandle.stream hub.manager.streams)

namespace TasksMatch

variable {hub : Hub} {index : Nat} {id : StreamID} {key : StreamKey}

theorem registered (matched : hub.TasksMatch) (alive : hub.manager.goneAway = false)
    (task : hub.manager.tasks[index]? = some (id, key)) :
    ∃ handle, hub.getStream id = some handle ∧ handle.stream = key :=
  mem_routes_iff.mp ((matched alive).mem_iff.mp (List.mem_of_getElem? task))

/-- The `unreachable!()` of `poll_next` is not reached from a matching table. -/
theorem exists_pollNext (matched : hub.TasksMatch) (pick : Option Nat) (cx : Waker) :
    ∃ outcome, hub.pollNext pick cx = .ok outcome := by
  have spec := hub.pollNext_spec pick cx
  generalize hub.pollNext pick cx = outcome at spec
  cases spec with
  | unknown alive index id key task absent =>
      obtain ⟨handle, found, -⟩ := matched.registered alive task
      rw [absent] at found
      cases found
  | goneAway _ => exact ⟨_, rfl⟩
  | system _ _ _ _ => exact ⟨_, rfl⟩
  | waiting _ _ => exact ⟨_, rfl⟩
  | next _ _ _ _ _ _ _ _ _ _ _ _ _ _ => exact ⟨_, rfl⟩

theorem setHandle (matched : hub.TasksMatch) {handle handle' : StreamHandle}
    (found : hub.getStream id = some handle) (same : handle'.stream = handle.stream) :
    (hub.setHandle id handle').TasksMatch :=
  fun alive => (matched alive).trans (routes_insert_same found same).symm

theorem endTask (matched : hub.TasksMatch) (alive : hub.manager.goneAway = false)
    (task : hub.manager.tasks[index]? = some (id, key)) (sink : Channel Frame) :
    ((hub.popTask index key sink).endTask id key).TasksMatch := by
  obtain ⟨handle, found, rfl⟩ := matched.registered alive task
  intro _
  have split := (perm_cons_eraseIdx task).symm.trans
    ((matched alive).trans (routes_perm_erase found))
  simpa [Hub.endTask, popTask] using split.cons_inv

theorem requeue (matched : hub.TasksMatch) (alive : hub.manager.goneAway = false)
    (task : hub.manager.tasks[index]? = some (id, key)) {handle handle' : StreamHandle}
    (found : hub.getStream id = some handle) (same : handle'.stream = handle.stream)
    (sink : Channel Frame) (frame : Frame) :
    ((((hub.popTask index key sink).setHandle id handle').pushTask id key).emitFor key
      frame).TasksMatch := by
  intro _
  refine ((perm_eraseIdx_append task).trans (matched alive)).trans ?_
  exact (routes_insert_same found same).symm

theorem next (hub : Hub) (matched : hub.TasksMatch) (alive : hub.manager.goneAway = false)
    (task : hub.manager.tasks[index]? = some (id, key)) {item : Option Frame}
    {sink : Channel Frame} {handle : StreamHandle} (found : hub.getStream id = some handle)
    {outcome : Poll (Option Frame) × Hub}
    (spec : (hub.popTask index key sink).NextFrameSpec id key handle item outcome) :
    outcome.2.TasksMatch := by
  cases spec with
  | removed _ _ _ => exact matched.endTask alive task sink
  | frame frame _ => exact matched.requeue alive task found rfl sink (frame.withStreamId id)
  | fin _ => exact matched.endTask alive task sink
  | ended _ => exact matched.endTask alive task sink

theorem pollSend (matched : hub.TasksMatch) {sending : Sending}
    {outcome : Poll (Except Error Unit) × Hub} (spec : hub.PollSendSpec sending outcome) :
    outcome.2.TasksMatch := by
  cases spec with
  | unregistered _ => exact matched
  | reset _ found _ _ => exact matched.setHandle found rfl
  | waiting _ found _ _ _ => exact matched.setHandle found rfl
  | delivered _ found _ _ _ _ => exact matched.setHandle found rfl
  | ignored _ found _ _ _ _ => exact matched.setHandle found rfl
  | refused _ found _ _ _ _ => exact matched.setHandle found rfl

theorem created (matched : hub.TasksMatch) {remote : Option StreamID} {window : Nat}
    {needsSyn : Bool} {hub' : Hub}
    (fresh : hub.opensFresh (.createStream remote window needsSyn))
    (opened : hub.createStream remote window needsSyn = .ok (id, key, hub')) :
    hub'.TasksMatch := by
  obtain ⟨room, rfl, -, rfl, -, streams, tasks, gone, -⟩ := createStream_eq_ok opened
  have absent := fresh.resolve_left room
  intro alive
  rw [tasks, streams, routes_insert_fresh absent]
  exact (List.perm_append_singleton _ _).trans ((matched (gone ▸ alive)).cons _)

/-- One operation keeps the tasks and the table matched, unless it opens a stream
under a registered id. -/
theorem step (matched : hub.TasksMatch) {op : HubOp} (fresh : hub.opensFresh op) :
    (hub.step op).TasksMatch := by
  have spec := hub.step_spec op
  generalize hub.step op = hub' at spec
  cases spec with
  | idle _ => exact matched
  | panicked _ _ => exact matched
  | created remote window needsSyn newId newKey hub' opened => exact matched.created fresh opened
  | startSend _ _ _ => exact matched
  | pollSend sending _ polled hub' spec => exact matched.pollSend spec
  | closeDataWrite id handle found => exact matched.setHandle found rfl
  | waiting _ _ => exact matched
  | system _ cx _ frame rest _ =>
      unfold nextSystemFrame
      split
      · intro alive
        simp [Hub.goAway, Hub.emit] at alive
      · exact matched
  | next _ cx alive _ index id taskKey task item sink _ handle found polled hub' spec =>
      exact TasksMatch.next (hub.storeWaker cx) matched alive task found spec
  | sysSend _ => exact matched
  | goAway error =>
      intro alive
      simp [Hub.goAway] at alive
  | closeSenders => exact matched
  | dropManager =>
      intro _
      simp [Hub.dropManager, clearTasks]
  | user _ _ _ _ _ => exact matched

theorem of_reaches {streamLimit : Nat} {client : Bool}
    (reaches : Reaches Hub.step opensFresh (Hub.new streamLimit client) hub) :
    hub.TasksMatch :=
  reaches.invariant TasksMatch (fun _ _ fresh matched => matched.step fresh)
    (fun _ => .nil)

end TasksMatch

theorem setHandle_len {hub : Hub} {id : StreamID} {handle handle' : StreamHandle}
    (found : hub.getStream id = some handle) : (hub.setHandle id handle').len = hub.len :=
  length_insert_same found

theorem endTask_len_le (hub : Hub) (id : StreamID) (key : StreamKey) :
    (hub.endTask id key).len ≤ hub.len := by
  simp only [len, endTask, setEnd_manager, removeStream_manager]
  exact length_erase_le

/-- The table keeps within the limit. -/
theorem step_len_le {hub : Hub} (op : HubOp) (within : hub.len ≤ hub.manager.streamLimit) :
    (hub.step op).len ≤ hub.manager.streamLimit := by
  have spec := hub.step_spec op
  generalize hub.step op = hub' at spec
  cases spec with
  | idle _ => exact within
  | panicked _ _ => exact within
  | created remote window needsSyn newId newKey hub' opened =>
      obtain ⟨room, -, -, -, -, streams, -⟩ := createStream_eq_ok opened
      have grown : hub'.len ≤ hub.len + 1 := by
        simp only [len, streams]
        exact length_insert_le
      omega
  | startSend _ _ _ => exact within
  | pollSend sending _ polled hub' spec =>
      cases spec with
      | unregistered _ => exact within
      | reset _ found _ _ => exact (setHandle_len found).trans_le within
      | waiting _ found _ _ _ => exact (setHandle_len found).trans_le within
      | delivered _ found _ _ _ _ => exact (setHandle_len found).trans_le within
      | ignored _ found _ _ _ _ => exact (setHandle_len found).trans_le within
      | refused _ found _ _ _ _ => exact (setHandle_len found).trans_le within
  | closeDataWrite id handle found => exact (setHandle_len found).trans_le within
  | waiting _ _ => exact within
  | system _ cx _ frame rest _ =>
      unfold nextSystemFrame
      split
      · exact Nat.zero_le _
      · exact within
  | next _ cx alive _ index id taskKey task item sink _ handle found polled hub' spec =>
      cases spec with
      | removed _ _ _ => exact (endTask_len_le _ _ taskKey).trans within
      | frame frame _ => exact (setHandle_len found).trans_le within
      | fin _ => exact (endTask_len_le _ _ taskKey).trans within
      | ended _ => exact (endTask_len_le _ _ taskKey).trans within
  | sysSend _ => exact within
  | goAway error => exact Nat.zero_le _
  | closeSenders => exact within
  | dropManager => exact Nat.zero_le _
  | user _ _ _ _ _ => exact within

theorem step_streamLimit (hub : Hub) (op : HubOp) :
    (hub.step op).manager.streamLimit = hub.manager.streamLimit := by
  have spec := hub.step_spec op
  generalize hub.step op = hub' at spec
  cases spec with
  | created remote window needsSyn newId newKey hub' opened =>
      exact (createStream_eq_ok opened).2.2.2.2.2.2.2.2.1
  | pollSend sending _ polled hub' spec => cases spec <;> rfl
  | system _ cx _ frame rest _ => unfold nextSystemFrame; split <;> rfl
  | next _ cx alive _ index id taskKey task item sink _ handle found polled hub' spec =>
      cases spec <;> simp [endTask, emitFor, emit, setEnd, setHandle, pushTask, popTask, storeWaker]
  | _ => rfl

theorem len_le_of_reaches {streamLimit : Nat} {client : Bool} {admits : Hub → HubOp → Prop}
    {hub : Hub} (reaches : Reaches Hub.step admits (Hub.new streamLimit client) hub) :
    hub.len ≤ streamLimit := by
  have both : hub.len ≤ hub.manager.streamLimit ∧ hub.manager.streamLimit = streamLimit := by
    refine reaches.invariant (fun hub =>
      hub.len ≤ hub.manager.streamLimit ∧ hub.manager.streamLimit = streamLimit) ?_
      ⟨Nat.zero_le _, rfl⟩
    rintro hub op - ⟨within, limit⟩
    rw [step_streamLimit]
    exact ⟨step_len_le op within, limit⟩
  exact both.1.trans_eq both.2

/-- A dropped stream has closed its sender. -/
theorem sink_closed_of_dropped {streamLimit : Nat} {client : Bool}
    {admits : Hub → HubOp → Prop} {hub : Hub}
    (reaches : Reaches Hub.step admits (Hub.new streamLimit client) hub) {key : StreamKey}
    (dropped : (hub.ends key).dropped = true) :
    (hub.ends key).stream.fout.sink.isOpen = false := by
  refine ends_invariant (fun target => target.dropped = true →
    target.stream.fout.sink.isOpen = false) ?_ ?_ reaches key dropped
  · intro id window needsSyn isDropped
    cases isDropped
  · intro actor before after change law isDropped
    cases change with
    | drop _ => rfl
    | ingest _ _ held _ _ => simp_all
    | seeClosed held _ _ => simp_all
    | takeAcked _ held _ _ _ _ => simp_all
    | takeUnacked _ held _ => simp_all
    | disconnect _ closed => exact closed
    | failWrite _ held _ => simp_all
    | write _ _ held _ _ _ _ _ _ => simp_all
    | shutdown held _ _ _ => simp_all
    | emitFin _ _ _ _ => rfl
    | dropReceiver => rfl
    | rewake _ _ _ _ => exact law isDropped
    | receive _ _ _ => exact law isDropped
    | closeFin => exact law isDropped
    | closeWith _ => exact law isDropped
    | emit _ _ _ _ => exact law isDropped

/-- Polling a task whose channel is closed and drained frees the slot of its stream. -/
theorem step_pollNext_frees {hub : Hub} (alive : hub.manager.goneAway = false)
    (noSystem : hub.manager.sysRx = []) {index : Nat} {id : StreamID} {handle : StreamHandle}
    (found : hub.getStream id = some handle)
    (task : hub.manager.tasks[index]? = some (id, handle.stream))
    (queue : (hub.ends handle.stream).stream.fout.sink.queue = [])
    (closed : (hub.ends handle.stream).stream.fout.sink.isOpen = false) (cx : Waker) :
    (hub.step (.pollNext (some index) cx)).getStream id = none := by
  have answers : (hub.storeWaker cx).pollTasks (some index) =
      some (id, handle.stream, none, (hub.storeWaker cx).popTask index handle.stream
        (hub.ends handle.stream).stream.fout.sink) := by
    simp [pollTasks, storeWaker, task, Channel.pollNext_of_drained queue closed]
  obtain ⟨⟨polled, hub'⟩, next, spec⟩ := nextFrame_spec
    ((hub.storeWaker cx).popTask index handle.stream
      (hub.ends handle.stream).stream.fout.sink) found handle.stream none
  have polls : hub.pollNext (some index) cx = .ok (polled, hub') := by
    simp only [pollNext, alive, Bool.false_eq_true, if_false]
    simp only [storeWaker, noSystem] at answers next ⊢
    rw [answers]
    exact next
  simp only [Hub.step, polls]
  have freed (key : StreamKey) (other : Hub) : (other.endTask id key).getStream id = none := by
    simp [getStream, endTask]
  cases spec with
  | removed _ _ _ => exact freed _ _
  | fin _ => exact freed handle.stream _
  | ended _ => exact freed _ _

theorem run_pollNext_of_goneAway {hub : Hub} (gone : hub.manager.goneAway = true)
    (pick : Option Nat) (cx : Waker) (rounds : Nat) :
    run Hub.step hub (List.replicate rounds (.pollNext pick cx)) = hub := by
  induction rounds with
  | zero => rfl
  | succ rounds ih =>
      have stays : hub.step (.pollNext pick cx) = hub := by
        simp [Hub.step, pollNext, gone]
      rw [List.replicate_succ, run_cons, stays, ih]

/-- After the system frames, one poll of its task frees the slot of a stream whose
channel is closed and drained. -/
theorem run_pollNext_frees {hub : Hub} (alive : hub.manager.goneAway = false)
    {index : Nat} {id : StreamID} {handle : StreamHandle}
    (found : hub.getStream id = some handle)
    (task : hub.manager.tasks[index]? = some (id, handle.stream))
    (queue : (hub.ends handle.stream).stream.fout.sink.queue = [])
    (closed : (hub.ends handle.stream).stream.fout.sink.isOpen = false) (cx : Waker) :
    (run Hub.step hub (List.replicate (hub.manager.sysRx.length + 1)
      (.pollNext (some index) cx))).getStream id = none := by
  generalize sysEq : hub.manager.sysRx = frames
  induction frames generalizing hub with
  | nil => exact step_pollNext_frees alive sysEq found task queue closed cx
  | cons frame rest ih =>
      rw [List.length_cons, List.replicate_succ, run_cons]
      have polls : hub.step (.pollNext (some index) cx) =
          (((hub.storeWaker cx).setSysRx rest).nextSystemFrame frame).2 := by
        simp only [Hub.step, pollNext, alive, Bool.false_eq_true, if_false]
        simp only [storeWaker, sysEq]
      rw [polls]
      unfold nextSystemFrame
      split
      · rw [run_pollNext_of_goneAway rfl]
        rfl
      · exact ih alive found task queue closed rfl

theorem isOpen_of_application {before after : StreamEnd}
    (changes : StreamEnd.Changes .application before after) (held : after.dropped = false) :
    before.dropped = false ∧ after.stream.fin.isOpen = before.stream.fin.isOpen := by
  induction changes with
  | refl => exact ⟨held, rfl⟩
  | tail _ change ih => cases change <;> first | exact ih held | cases held

/-- The channel to every registered stream that is not dropped is open. -/
def ChannelsOpen (hub : Hub) : Prop :=
  ∀ id handle, hub.getStream id = some handle → (hub.ends handle.stream).dropped = false →
    (hub.ends handle.stream).stream.fin.isOpen = true

theorem Addressed.stream_ne {hub : Hub} (addressed : hub.Addressed) {id other : StreamID}
    {handle handle' : StreamHandle} (found : hub.getStream id = some handle)
    (found' : hub.getStream other = some handle') (different : other ≠ id) :
    handle'.stream ≠ handle.stream := by
  intro same
  apply different
  rw [← (addressed.handle other handle' found').2, same, (addressed.handle id handle found).2]

theorem removeStream_ends_of_other {hub : Hub} (addressed : hub.Addressed) {id other : StreamID}
    {handle' : StreamHandle} (found' : hub.getStream other = some handle')
    (different : other ≠ id) :
    (hub.removeStream id).ends handle'.stream = hub.ends handle'.stream := by
  unfold removeStream
  split
  · rfl
  · rename_i handle found
    exact Function.update_of_ne (addressed.stream_ne found found' different) _ _

namespace ChannelsOpen

variable {hub : Hub} {id : StreamID} {key : StreamKey}

theorem congr (isOpen : hub.ChannelsOpen) {hub' : Hub}
    (handle : ∀ id handle', hub'.getStream id = some handle' →
      ∃ handle, hub.getStream id = some handle ∧ handle'.stream = handle.stream)
    (ends : ∀ key, (hub'.ends key).dropped = false → (hub.ends key).dropped = false ∧
      ((hub.ends key).stream.fin.isOpen = true → (hub'.ends key).stream.fin.isOpen = true)) :
    hub'.ChannelsOpen := by
  intro id handle' found' held
  obtain ⟨old, found, same⟩ := handle id handle' found'
  rw [same] at held ⊢
  obtain ⟨heldBefore, stays⟩ := ends old.stream held
  exact stays (isOpen id old found heldBefore)

theorem afterSend (isOpen : hub.ChannelsOpen) {handle handle' : StreamHandle} {target : StreamEnd}
    (sending : Option Sending) (found : hub.getStream id = some handle)
    (same : handle'.stream = handle.stream)
    (dropped : target.dropped = (hub.ends handle.stream).dropped)
    (stays : target.stream.fin.isOpen = (hub.ends handle.stream).stream.fin.isOpen) :
    (hub.afterSend id handle.stream handle' target sending).ChannelsOpen := by
  refine isOpen.congr (fun _ _ found' => getStream_setHandle hub
    (fun old last => last.stream = old.stream) (fun _ => rfl) found found' same) fun key held => ?_
  by_cases own : key = handle.stream
  · subst own
    simp only [Hub.afterSend, setEnd_ends, Function.update_self] at held ⊢
    rw [dropped] at held
    exact ⟨held, fun isOpen => stays.trans isOpen⟩
  · simp only [Hub.afterSend, setEnd_ends, Function.update_of_ne own, setHandle_ends] at held ⊢
    exact ⟨held, fun isOpen => isOpen⟩

theorem pollSend (isOpen : hub.ChannelsOpen) {sending : Sending}
    {outcome : Poll (Except Error Unit) × Hub} (spec : hub.PollSendSpec sending outcome) :
    outcome.2.ChannelsOpen := by
  cases spec with
  | unregistered _ => exact isOpen
  | reset _ found _ _ => exact isOpen.afterSend none found rfl rfl rfl
  | waiting _ found _ _ _ => exact isOpen.afterSend _ found rfl rfl rfl
  | delivered _ found _ _ _ _ => exact isOpen.afterSend none found rfl rfl rfl
  | ignored _ found _ _ _ _ => exact isOpen.afterSend none found rfl rfl rfl
  | refused _ found _ _ _ _ => exact isOpen.afterSend none found rfl rfl rfl

theorem created (isOpen : hub.ChannelsOpen) (addressed : hub.Addressed)
    {remote : Option StreamID} {window : Nat} {needsSyn : Bool} {hub' : Hub}
    (opened : hub.createStream remote window needsSyn = .ok (id, key, hub')) :
    hub'.ChannelsOpen := by
  obtain ⟨-, rfl, -, -, ends, streams, -⟩ := createStream_eq_ok opened
  intro other handle found held
  rw [getStream, streams] at found
  by_cases own : other = id
  · subst own
    rw [AList.lookup_insert] at found
    obtain rfl := Option.some.inj found
    simp only [ends, Function.update_self]
    rfl
  · rw [AList.lookup_insert_ne own] at found
    have old := Nat.ne_of_lt (addressed.handle other handle found).1
    have same := removeStream_ends_of_other addressed found own
    simp only [ends, Function.update_of_ne old, same] at held ⊢
    exact isOpen other handle found held

/-- The entry of the answering task leaves the table. -/
theorem endTask (isOpen : hub.ChannelsOpen) (addressed : hub.Addressed) (index : Nat)
    {item : Option Frame} {sink : Channel Frame}
    (answer : Answer (hub.ends key).stream.fout.sink item sink) :
    ((hub.popTask index key sink).endTask id key).ChannelsOpen := by
  intro other handle remains
  obtain ⟨different, found⟩ := getStream_erase hub
    (show (hub.manager.streams.erase id).lookup other = some handle by
      simpa [popTask, getStream] using remains)
  have same := removeStream_ends_of_other addressed found different
  rw [endTask_popTask_ends answer]
  intro held
  by_cases own : handle.stream = key
  · subst own
    simp only [Hub.endTask, setEnd_ends, Function.update_self, same] at held ⊢
    exact isOpen other handle found held
  · simp only [Hub.endTask, setEnd_ends, Function.update_of_ne own, same] at held ⊢
    exact isOpen other handle found held

theorem next (isOpen : hub.ChannelsOpen) (addressed : hub.Addressed) {index : Nat}
    {item : Option Frame} {sink : Channel Frame} {handle : StreamHandle}
    (answer : Answer (hub.ends key).stream.fout.sink item sink)
    (found : hub.getStream id = some handle) {outcome : Poll (Option Frame) × Hub}
    (spec : (hub.popTask index key sink).NextFrameSpec id key handle item outcome) :
    outcome.2.ChannelsOpen := by
  have emits (hub' : Hub) (frame : Frame) (isOpen : hub'.ChannelsOpen) :
      (hub'.emitFor key frame).ChannelsOpen := by
    refine isOpen.congr (fun _ handle found => ⟨handle, found, rfl⟩) fun other held => ?_
    by_cases own : other = key
    · subst own
      simp only [emitFor_ends, Function.update_self] at held ⊢
      exact ⟨held, fun isOpen => isOpen⟩
    · simp only [emitFor_ends, Function.update_of_ne own] at held ⊢
      exact ⟨held, fun isOpen => isOpen⟩
  cases spec with
  | removed _ _ _ => exact isOpen.endTask addressed index answer
  | ended _ => exact isOpen.endTask addressed index answer
  | fin _ => exact emits _ _ (isOpen.endTask addressed index answer)
  | frame frame _ =>
      apply emits
      refine isOpen.congr (fun _ _ found' => getStream_setHandle hub
        (fun old last => last.stream = old.stream) (fun _ => rfl) found found' rfl)
        fun other held => ?_
      by_cases own : other = key
      · subst own
        simp only [pushTask_ends, setHandle_ends, popTask_ends, Function.update_self] at held ⊢
        exact ⟨held, fun isOpen => isOpen⟩
      · simp only [pushTask_ends, setHandle_ends, popTask_ends, Function.update_of_ne own] at held ⊢
        exact ⟨held, fun isOpen => isOpen⟩

/-- Only `close_senders` closes the channels of streams that stay registered. -/
theorem step (isOpen : hub.ChannelsOpen) (addressed : hub.Addressed) {op : HubOp}
    (keeps : op ≠ .closeSenders) : (hub.step op).ChannelsOpen := by
  have spec := hub.step_spec op
  generalize hub.step op = hub' at spec
  cases spec with
  | idle _ => exact isOpen
  | panicked _ _ => exact isOpen
  | created remote window needsSyn newId newKey hub' opened => exact isOpen.created addressed opened
  | startSend _ _ _ => exact isOpen
  | pollSend sending _ polled hub' spec => exact isOpen.pollSend spec
  | closeDataWrite id handle found =>
      exact isOpen.congr (fun _ _ found' => getStream_setHandle hub
        (fun old last => last.stream = old.stream) (fun _ => rfl) found found' rfl)
        fun _ held => ⟨held, fun isOpen => isOpen⟩
  | waiting _ _ => exact isOpen
  | system _ cx _ frame rest _ =>
      unfold nextSystemFrame
      split
      · intro id handle found
        simp [getStream, Hub.goAway, Hub.emit] at found
      · exact isOpen
  | next _ cx _ _ index id taskKey task item sink answer handle found polled hub' spec =>
      have stored : (hub.storeWaker cx).Addressed := { addressed with }
      have storedOpen : (hub.storeWaker cx).ChannelsOpen := isOpen
      exact storedOpen.next stored answer found spec
  | sysSend _ => exact isOpen
  | goAway error =>
      intro id handle found
      simp [getStream, Hub.goAway] at found
  | closeSenders => exact absurd rfl keeps
  | dropManager =>
      intro id handle found
      simp [getStream, Hub.dropManager, clearTasks] at found
  | user _ userKey _ target changes =>
      refine isOpen.congr (fun _ handle found => ⟨handle, found, rfl⟩) fun other held => ?_
      by_cases own : other = userKey
      · subst own
        simp only [setEnd_ends, Function.update_self] at held ⊢
        obtain ⟨heldBefore, same⟩ := isOpen_of_application changes held
        exact ⟨heldBefore, fun isOpen => same.trans isOpen⟩
      · simp only [setEnd_ends, Function.update_of_ne own] at held ⊢
        exact ⟨held, fun isOpen => isOpen⟩

end ChannelsOpen

/-- The only error of `create_stream` is a full table. -/
theorem createStream_fails_iff (hub : Hub) (id : Option StreamID) (window : Nat)
    (needsSyn : Bool) : (∃ error, hub.createStream id window needsSyn = .error error) ↔
      hub.len = hub.manager.streamLimit := by
  constructor
  · rintro ⟨error, failed⟩
    by_contra room
    cases id <;> simp [createStream, room] at failed
  · intro full
    exact ⟨.streamsExhausted, by simp [createStream, full]⟩

/-- What holds of the table and the tasks in a run that opens fresh ids only. -/
structure TableSound (streamLimit : Nat) (hub : Hub) : Prop where
  within_limit : hub.len ≤ streamLimit
  /-- The `unreachable!()` is not reached by the next poll. -/
  pollNext_ok : ∀ pick cx, ∃ outcome, hub.pollNext pick cx = .ok outcome
  one_task : hub.manager.goneAway = false → ∀ id, (hub.getStream id).isSome = true →
    (hub.manager.tasks.map Prod.fst).count id = 1
  tasks_registered : hub.manager.goneAway = false → ∀ task ∈ hub.manager.tasks,
    (hub.getStream task.1).isSome = true
  /-- Once the system frames are sent, one poll of its task frees the slot of a
  dropped stream with a drained queue. -/
  frees_dropped : hub.manager.goneAway = false → ∀ id handle,
    hub.getStream id = some handle → (hub.ends handle.stream).dropped = true →
    (hub.ends handle.stream).stream.fout.sink.queue = [] →
    ∃ index, hub.manager.tasks[index]? = some (id, handle.stream) ∧
      ∀ cx, (run Hub.step hub (List.replicate (hub.manager.sysRx.length + 1)
        (.pollNext (some index) cx))).getStream id = none

/-- The table and the set of futures stay in bijection. -/
theorem tableSound {streamLimit : Nat} {client : Bool} {hub : Hub}
    (reaches : Reaches Hub.step opensFresh (Hub.new streamLimit client) hub) :
    hub.TableSound streamLimit := by
  have matched := TasksMatch.of_reaches reaches
  refine ⟨len_le_of_reaches reaches, matched.exists_pollNext, ?_, ?_, ?_⟩
  · intro alive id isRegistered
    have keys := (matched alive).map Prod.fst
    rw [keys.count_eq, routes_keys]
    exact List.count_eq_one_of_mem hub.manager.streams.keys_nodup
      (AList.lookup_isSome.mp isRegistered)
  · rintro alive ⟨id, key⟩ task
    obtain ⟨handle, found, -⟩ := mem_routes_iff.mp ((matched alive).mem_iff.mp task)
    exact Option.isSome_iff_exists.mpr ⟨handle, found⟩
  · intro alive id handle found dropped queue
    have task : (id, handle.stream) ∈ hub.manager.tasks :=
      (matched alive).mem_iff.mpr (mem_routes_iff.mpr ⟨handle, found, rfl⟩)
    obtain ⟨index, within, at_⟩ := List.mem_iff_getElem.mp task
    have answers : hub.manager.tasks[index]? = some (id, handle.stream) := by
      rw [List.getElem?_eq_getElem within, at_]
    exact ⟨index, answers, fun cx => run_pollNext_frees alive found answers queue
      (sink_closed_of_dropped reaches dropped) cx⟩

/-- A stream of the remote that is dropped at once. -/
theorem tableSound_dropped :
    (run Hub.step (Hub.new 4 true)
      [.createStream (some (Constrained.clamp 2)) 8 false, .dropStream 0]).TableSound 4 :=
  tableSound (reaches_run ⟨Or.inr rfl, trivial, trivial⟩)

/-- Opening a stream keeps every registered id at its handle and takes an id that is
not in use. -/
def OpensUndisturbed (hub : Hub) (id : Option StreamID) (window : Nat) (needsSyn : Bool) : Prop :=
  (∀ other handle, hub.getStream other = some handle →
    (hub.step (.createStream id window needsSyn)).getStream other = some handle) ∧
  ∀ newId key hub', hub.createStream id window needsSyn = .ok (newId, key, hub') →
    hub.getStream newId = none ∧
      ∃ handle, hub'.getStream newId = some handle ∧ handle.stream = key

/-- `create_stream` inserts without a look at the table, so it is undisturbed exactly
if the id happens to be free or the call fails. -/
theorem opensUndisturbed_iff (hub : Hub) (id : Option StreamID) (window : Nat)
    (needsSyn : Bool) :
    hub.OpensUndisturbed id window needsSyn ↔
      hub.opensFresh (.createStream id window needsSyn) := by
  cases opened : hub.createStream id window needsSyn with
  | error error =>
      have full := (createStream_fails_iff hub id window needsSyn).mp ⟨error, opened⟩
      refine iff_of_true ⟨fun other handle found => ?_, fun _ _ _ ok => ?_⟩ (Or.inl full)
      · simpa only [Hub.step, opened] using found
      · rw [opened] at ok
        cases ok
  | ok result =>
      obtain ⟨newId, key, hub'⟩ := result
      obtain ⟨room, -, -, rfl, -, streams, -⟩ := createStream_eq_ok opened
      constructor
      · rintro ⟨-, fresh⟩
        exact Or.inr (fresh _ _ _ opened).1
      · intro fresh
        have absent := fresh.resolve_left room
        refine ⟨fun other handle found => ?_, fun newId' key' hub'' ok => ?_⟩
        · have different : other ≠ hub.chosenId id := by
            rintro rfl
            rw [absent] at found
            cases found
          simp only [Hub.step, opened, getStream, streams]
          rwa [AList.lookup_insert_ne different]
        · obtain ⟨rfl, rfl, rfl⟩ : hub.chosenId id = newId' ∧ key = key' ∧ hub' = hub'' := by
            simpa using Except.ok.inj (opened.symm.trans ok)
          refine ⟨absent, ⟨key, true, false, window⟩, ?_, rfl⟩
          simp [getStream, streams]

/-- The remote sends a second SYN for the same id, and the first stream loses its
entry. -/
theorem not_opensUndisturbed_second_syn :
    ¬ (run Hub.step (Hub.new 4 true)
      [.createStream (some (Constrained.clamp 2)) 8 false]).OpensUndisturbed
        (some (Constrained.clamp 2)) 8 false := by
  rintro ⟨kept, -⟩
  have registered := kept (Constrained.clamp 2) ⟨0, true, false, 8⟩ rfl
  have replaced : ((run Hub.step (Hub.new 4 true)
      [.createStream (some (Constrained.clamp 2)) 8 false]).step
        (.createStream (some (Constrained.clamp 2)) 8 false)).getStream (Constrained.clamp 2) =
      some ⟨1, true, false, 8⟩ := rfl
  rw [replaced] at registered
  simp at registered

-- the first of the two tasks removes the entry, and the second does not find it
example : (run Hub.step (Hub.new 4 true)
    [.createStream (some (Constrained.clamp 2)) 8 false,
      .createStream (some (Constrained.clamp 2)) 8 false, .dropStream 0, .dropStream 1,
      .pollNext (some 0) 0, .pollNext (some 0) 0]).panics = [.pollNext] := by
  decide

end Hub

end Muxado

end NgrokRust
