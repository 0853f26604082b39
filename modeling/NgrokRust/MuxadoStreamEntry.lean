import NgrokRust.MuxadoStreamTable

/-!
# One registered stream

What an operation does to the handle and the end of one stream, provided that no
stream is opened under its id while that id is registered.  `EntryStep` lists the
cases; facts about one stream that involve its handle are proved by cases on it.
-/

namespace NgrokRust

namespace Muxado

open LabelledRuns StreamEnd

namespace Hub

/-- The handle of the stream at a key, while it is registered. -/
def entry (hub : Hub) (key : StreamKey) : Option StreamHandle :=
  (hub.getStream (hub.ends key).id).filter fun handle => handle.stream == key

theorem entry_eq_some {hub : Hub} {key : StreamKey} {handle : StreamHandle} :
    hub.entry key = some handle ↔
      hub.getStream (hub.ends key).id = some handle ∧ handle.stream = key := by
  simp [entry, Option.filter_eq_some_iff]

theorem entry_of_getStream {hub : Hub} (addressed : hub.Addressed) {id : StreamID}
    {handle : StreamHandle} (found : hub.getStream id = some handle) :
    hub.entry handle.stream = some handle := by
  rw [entry_eq_some, (addressed.handle id handle found).2]
  exact ⟨found, rfl⟩

theorem entry_eq_none {hub : Hub} {key : StreamKey} {handle : StreamHandle}
    (found : hub.getStream (hub.ends key).id = some handle) (other : handle.stream ≠ key) :
    hub.entry key = none := by
  simp [entry, found, other]

theorem entry_eq_none_of_absent {hub : Hub} {key : StreamKey}
    (absent : hub.getStream (hub.ends key).id = none) : hub.entry key = none := by
  simp [entry, absent]

theorem entry_congr {hub hub' : Hub} {key : StreamKey}
    (id : (hub'.ends key).id = (hub.ends key).id)
    (found : hub'.getStream (hub.ends key).id = hub.getStream (hub.ends key).id) :
    hub'.entry key = hub.entry key := by
  rw [entry, entry, id, found]

/-- No stream is opened under the id while it is registered. -/
def opensIdle (id : StreamID) (hub : Hub) : HubOp → Prop
  | .createStream remote _ _ =>
      hub.len ≠ hub.manager.streamLimit → hub.chosenId remote = id → hub.getStream id = none
  | _ => True

def TasksOwned (id : StreamID) (hub : Hub) : Prop :=
  hub.manager.goneAway = false → ∀ key, (id, key) ∈ hub.manager.tasks →
    ∃ handle, hub.getStream id = some handle ∧ handle.stream = key

namespace TasksOwned

variable {hub : Hub} {id other : StreamID} {key : StreamKey} {index : Nat}

theorem setHandle (owned : hub.TasksOwned id) {handle handle' : StreamHandle}
    (found : hub.getStream other = some handle) (same : handle'.stream = handle.stream) :
    (hub.setHandle other handle').TasksOwned id := by
  intro alive key task
  obtain ⟨old, oldFound, own⟩ := owned alive key task
  by_cases is : id = other
  · subst is
    obtain rfl : handle = old := Option.some.inj (found.symm.trans oldFound)
    exact ⟨handle', by simp [getStream, Hub.setHandle], same.trans own⟩
  · exact ⟨old, by simpa [getStream, Hub.setHandle, AList.lookup_insert_ne is] using oldFound, own⟩

/-- The tasks that are left when one has answered are of other streams. -/
theorem endTask (owned : hub.TasksOwned id) (addressed : hub.Addressed)
    (task : hub.manager.tasks[index]? = some (other, key)) (sink : Channel Frame) :
    ((hub.popTask index key sink).endTask other key).TasksOwned id := by
  intro still rest member
  have alive : hub.manager.goneAway = false := by simpa [popTask] using still
  have left : (id, rest) ∈ hub.manager.tasks.eraseIdx index := by simpa [popTask] using member
  obtain ⟨handle, found, own⟩ := owned alive rest (List.mem_of_mem_eraseIdx left)
  have different : id ≠ other := by
    rintro rfl
    obtain ⟨handle', found', own'⟩ := owned alive key (List.mem_of_getElem? task)
    obtain rfl : handle = handle' := Option.some.inj (found.symm.trans found')
    have split := KeyedRoutes.perm_cons_eraseIdx task
    have keys := (split.map Prod.snd).nodup_iff.mp addressed.taskKeys
    rw [List.map_cons, List.nodup_cons] at keys
    exact keys.1 (List.mem_map.mpr ⟨(id, rest), left, own.symm.trans own'⟩)
  exact ⟨handle, by
    simpa [getStream, popTask, AList.lookup_erase_ne different] using found, own⟩

theorem next (owned : hub.TasksOwned id) (addressed : hub.Addressed)
    (task : hub.manager.tasks[index]? = some (other, key)) {item : Option Frame}
    {sink : Channel Frame} {handle : StreamHandle} (found : hub.getStream other = some handle)
    {outcome : Poll (Option Frame) × Hub}
    (spec : (hub.popTask index key sink).NextFrameSpec other key handle item outcome) :
    outcome.2.TasksOwned id := by
  cases spec with
  | removed _ _ _ => exact owned.endTask addressed task sink
  | fin _ => exact owned.endTask addressed task sink
  | ended _ => exact owned.endTask addressed task sink
  | frame frame _ =>
      have updated := owned.setHandle found
        (show (StreamHandle.afterFrame handle frame).stream = handle.stream from rfl)
      intro alive rest member
      refine updated alive rest ?_
      exact (KeyedRoutes.perm_eraseIdx_append task).mem_iff.mp member

theorem created (owned : hub.TasksOwned id) {remote : Option StreamID} {window : Nat}
    {needsSyn : Bool} {hub' : Hub} (idle : hub.opensIdle id (.createStream remote window needsSyn))
    (opened : hub.createStream remote window needsSyn = .ok (other, key, hub')) :
    hub'.TasksOwned id := by
  obtain ⟨room, rfl, -, chosen, -, streams, tasks, gone, -⟩ := createStream_eq_ok opened
  intro alive rest member
  rw [gone] at alive
  rw [tasks] at member
  rw [getStream, streams]
  by_cases is : id = other
  · subst is
    rcases List.mem_append.mp member with old | new
    · obtain ⟨handle, found, -⟩ := owned alive rest old
      rw [idle room chosen.symm] at found
      cases found
    · obtain ⟨-, rfl⟩ := Prod.mk.inj (List.mem_singleton.mp new)
      exact ⟨_, AList.lookup_insert _, rfl⟩
  · rw [AList.lookup_insert_ne is]
    rcases List.mem_append.mp member with old | new
    · exact owned alive rest old
    · exact absurd (Prod.mk.inj (List.mem_singleton.mp new)).1 is

theorem step (owned : hub.TasksOwned id) (addressed : hub.Addressed) {op : HubOp}
    (idle : hub.opensIdle id op) : (hub.step op).TasksOwned id := by
  have spec := hub.step_spec op
  generalize hub.step op = hub' at spec
  cases spec with
  | idle _ => exact owned
  | panicked _ _ => exact owned
  | created remote window needsSyn newId newKey hub' opened => exact owned.created idle opened
  | startSend _ _ _ => exact owned
  | pollSend sending _ polled hub' spec =>
      cases spec with
      | unregistered _ => exact owned
      | reset _ found _ _ => exact owned.setHandle found rfl
      | waiting _ found _ _ _ => exact owned.setHandle found rfl
      | delivered _ found _ _ _ _ => exact owned.setHandle found rfl
      | ignored _ found _ _ _ _ => exact owned.setHandle found rfl
      | refused _ found _ _ _ _ => exact owned.setHandle found rfl
  | closeDataWrite other handle found => exact owned.setHandle found rfl
  | waiting _ _ => exact owned
  | system _ cx _ frame rest _ =>
      unfold nextSystemFrame
      split
      · intro alive
        simp [Hub.goAway, Hub.emit] at alive
      · exact owned
  | next _ cx _ _ index other key task item sink _ handle found polled hub' spec =>
      have stored : (hub.storeWaker cx).Addressed := { addressed with }
      have storedOwned : (hub.storeWaker cx).TasksOwned id := owned
      exact storedOwned.next stored task found spec
  | sysSend _ => exact owned
  | goAway error =>
      intro alive
      simp [Hub.goAway] at alive
  | closeSenders => exact owned
  | dropManager =>
      intro _ key member
      simp [Hub.dropManager, clearTasks] at member
  | user _ _ _ _ _ => exact owned

theorem new (streamLimit : Nat) (client : Bool) (id : StreamID) :
    (Hub.new streamLimit client).TasksOwned id := by
  intro _ key member
  simp [Hub.new] at member

theorem of_reaches {streamLimit : Nat} {client : Bool}
    (reaches : Reaches Hub.step (opensIdle id) (Hub.new streamLimit client) hub) :
    hub.TasksOwned id := by
  have both : hub.Addressed ∧ hub.TasksOwned id := by
    refine reaches.invariant (fun hub => hub.Addressed ∧ hub.TasksOwned id) ?_
      ⟨.new streamLimit client, .new streamLimit client id⟩
    rintro hub op idle ⟨addressed, owned⟩
    exact ⟨addressed.step op, owned.step addressed idle⟩
  exact both.2

end TasksOwned

/-- What a poll of `send_to_stream` makes of the handle and the end of its stream, and
of the frame in progress. -/
inductive SendSpec (sending : Sending) (handle : StreamHandle) (target : StreamEnd) :
    Poll (Except Error Unit) → StreamHandle → StreamEnd → Option Sending → Prop where
  | reset (error : Error) (body : sending.frame.body = .rst error) :
      SendSpec sending handle target (.ready (.ok ()))
        { handle with dataWriteClosed := true, needsFin := false } (target.closeWith error) none
  | waiting (accepts : ¬ (sending.frame.header.typ = .data ∧ handle.dataWriteClosed = true))
      (body : ∀ error, sending.frame.body ≠ .rst error)
      (fits : sending.shrinkWindow ≤ handle.window) :
      SendSpec sending handle target .pending
        { handle with window := handle.window - sending.shrinkWindow } target
        (some { sending with shrinkWindow := 0 })
  | delivered (accepts : ¬ (sending.frame.header.typ = .data ∧ handle.dataWriteClosed = true))
      (body : ∀ error, sending.frame.body ≠ .rst error)
      (fits : sending.shrinkWindow ≤ handle.window)
      (isOpen : target.stream.fin.isOpen = true) :
      SendSpec sending handle target (.ready (.ok ()))
        { handle with window := handle.window - sending.shrinkWindow }
        (target.receive (target.stream.fin.push sending.frame) sending.frame) none
  | ignored (error : Error) (window : Nat) (refusal : Refusal sending handle target error window)
      (keeps : sending.resets = false) :
      SendSpec sending handle target (.ready (.ok ())) { handle with window := window } target none
  | refused (error : Error) (window : Nat) (refusal : Refusal sending handle target error window)
      (resets : sending.resets = true) :
      SendSpec sending handle target (.ready (.error error))
        { handle with window := window, dataWriteClosed := true, needsFin := false }
        (target.closeWith .streamClosed) none

/-- A poll for a registered stream acts on its handle and its end only. -/
theorem PollSendSpec.send {hub : Hub} {sending : Sending}
    {outcome : Poll (Except Error Unit) × Hub} (spec : hub.PollSendSpec sending outcome)
    {handle : StreamHandle}
    (found : hub.getStream sending.frame.header.streamId = some handle) :
    ∃ handle' target' sending', SendSpec sending handle (hub.ends handle.stream) outcome.1
        handle' target' sending' ∧ outcome.2 = hub.afterSend sending.frame.header.streamId
          handle.stream handle' target' sending' := by
  cases spec with
  | unregistered absent =>
      rw [found] at absent
      cases absent
  | reset other registered error body =>
      obtain rfl : handle = other := Option.some.inj (found.symm.trans registered)
      exact ⟨_, _, _, .reset error body, rfl⟩
  | waiting other registered accepts body fits =>
      obtain rfl : handle = other := Option.some.inj (found.symm.trans registered)
      exact ⟨_, _, _, .waiting accepts body fits, rfl⟩
  | delivered other registered accepts body fits isOpen =>
      obtain rfl : handle = other := Option.some.inj (found.symm.trans registered)
      exact ⟨_, _, _, .delivered accepts body fits isOpen, rfl⟩
  | ignored other registered error window refusal keeps =>
      obtain rfl : handle = other := Option.some.inj (found.symm.trans registered)
      exact ⟨_, _, _, .ignored error window refusal keeps, rfl⟩
  | refused other registered error window refusal resets =>
      obtain rfl : handle = other := Option.some.inj (found.symm.trans registered)
      exact ⟨_, _, _, .refused error window refusal resets, rfl⟩

theorem SendSpec.stream {sending : Sending} {handle handle' : StreamHandle}
    {target target' : StreamEnd} {polled : Poll (Except Error Unit)} {sending' : Option Sending}
    (spec : SendSpec sending handle target polled handle' target' sending') :
    handle'.stream = handle.stream ∧ target'.id = target.id := by
  cases spec <;> exact ⟨rfl, rfl⟩

section

variable {hub : Hub} {sending : Sending} {handle : StreamHandle}

/-- A frame that the stream may receive is put on its open channel if there is room. -/
theorem pollSendToStream_of_room
    (registered : hub.getStream sending.frame.header.streamId = some handle)
    (isOpen : (hub.ends handle.stream).stream.fin.isOpen = true)
    (accepts : ¬ (sending.frame.header.typ = .data ∧ handle.dataWriteClosed = true))
    (body : ∀ error, sending.frame.body ≠ .rst error)
    (fits : sending.shrinkWindow ≤ handle.window)
    (room : (hub.ends handle.stream).stream.fin.queue.length ≤
      (hub.ends handle.stream).stream.fin.buffer) :
    (hub.pollSendToStream sending).1 = .ready (.ok ()) ∧
      ((hub.pollSendToStream sending).2.ends handle.stream).recvd =
        (hub.ends handle.stream).recvd ++ [sending.frame] := by
  have delivers : deliver sending handle (hub.ends handle.stream) =
      ⟨.ready (.ok ()), { sending with shrinkWindow := 0 },
        { handle with window := handle.window - sending.shrinkWindow },
        (hub.ends handle.stream).receive
          ((hub.ends handle.stream).stream.fin.push sending.frame) sending.frame⟩ := by
    unfold deliver
    rw [if_neg accepts]
    split
    · rename_i error is
      exact absurd is (body error)
    · simp [fits, Channel.pollReady, Channel.startSend, isOpen, room]
  unfold pollSendToStream
  simp only [registered, delivers]
  split_ifs <;> simp [StreamEnd.receive]

/-- It waits if the channel is full. -/
theorem pollSendToStream_of_full
    (registered : hub.getStream sending.frame.header.streamId = some handle)
    (isOpen : (hub.ends handle.stream).stream.fin.isOpen = true)
    (accepts : ¬ (sending.frame.header.typ = .data ∧ handle.dataWriteClosed = true))
    (body : ∀ error, sending.frame.body ≠ .rst error)
    (fits : sending.shrinkWindow ≤ handle.window)
    (full : (hub.ends handle.stream).stream.fin.buffer <
      (hub.ends handle.stream).stream.fin.queue.length) :
    (hub.pollSendToStream sending).1 = .pending := by
  have waits : (deliver sending handle (hub.ends handle.stream)).result = .pending := by
    unfold deliver
    rw [if_neg accepts]
    split
    · rename_i error is
      exact absurd is (body error)
    · simp [fits, Channel.pollReady, isOpen, Nat.not_le.mpr full]
  unfold pollSendToStream
  simp only [registered, waits]

/-- A frame waits only for room on an open channel. -/
theorem full_of_pending (waits : (hub.pollSendToStream sending).1 = .pending) :
    ∃ handle, hub.getStream sending.frame.header.streamId = some handle ∧
      (hub.ends handle.stream).stream.fin.isOpen = true ∧
      (hub.ends handle.stream).stream.fin.buffer <
        (hub.ends handle.stream).stream.fin.queue.length := by
  unfold pollSendToStream at waits
  cases registered : hub.getStream sending.frame.header.streamId with
  | none => simp [registered] at waits
  | some handle =>
      refine ⟨handle, rfl, ?_⟩
      have pending : (deliver sending handle (hub.ends handle.stream)).result = .pending := by
        simp only [registered] at waits
        split at waits
        · assumption
        · cases waits
      unfold deliver at pending
      split at pending
      · cases pending
      · split at pending
        · cases pending
        · split at pending
          · simp only [Channel.pollReady] at pending
            split at pending
            · rename_i polled
              split at polled
              · rename_i isOpen
                split at polled
                · cases polled
                · rename_i full
                  exact ⟨isOpen, Nat.lt_of_not_le full⟩
              · cases polled
            · cases pending
            · split at pending <;> cases pending
          · cases pending

end

def Undelivered (hub : Hub) (key : StreamKey) (op : HubOp) : Prop :=
  op = .pollSendToStream → hub.entry key = none ∨
    ∀ sending, hub.sending = some sending →
      sending.frame.header.streamId ≠ (hub.ends key).id

theorem Undelivered.of_ne {hub : Hub} {key : StreamKey} {op : HubOp}
    (other : op ≠ .pollSendToStream) : hub.Undelivered key op :=
  fun is => absurd is other

/-- What one operation does to the entry and the end of an existing stream. -/
inductive EntryStep (hub : Hub) (key : StreamKey) (op : HubOp) (hub' : Hub) : Prop where
  /-- Only the application touches the stream, if anybody does. -/
  | keeps (unsent : hub.Undelivered key op) (same : hub'.entry key = hub.entry key)
      (changes : Changes .application (hub.ends key) (hub'.ends key))
  /-- The manager yields a frame of the stream. -/
  | emits (polls : ∃ pick cx, op = .pollNext pick cx)
      (handle : StreamHandle) (found : hub.entry key = some handle)
      (frame : Frame) (rest : List Frame)
      (queue : (hub.ends key).stream.fout.sink.queue = frame :: rest)
      (found' : hub'.entry key = some (StreamHandle.afterFrame handle frame))
      (target : hub'.ends key = { hub.ends key with
        stream := { (hub.ends key).stream with
          fout := { (hub.ends key).stream.fout with
            sink := { (hub.ends key).stream.fout.sink with queue := rest } } }
        sent := (hub.ends key).sent ++ [frame.withStreamId (hub.ends key).id] })
  /-- The manager ends the stream with a frame of its own. -/
  | finishes (polls : ∃ pick cx, op = .pollNext pick cx)
      (handle : StreamHandle) (found : hub.entry key = some handle)
      (needsFin : handle.needsFin = true)
      (alive : (hub.ends key).stream.fout.sink.receiverAlive = true)
      (queue : (hub.ends key).stream.fout.sink.queue = [])
      (closed : (hub.ends key).stream.fout.sink.isOpen = false)
      (gone : hub'.entry key = none)
      (target : hub'.ends key = { (hub.ends key).closeFin.dropReceiver with
        sent := (hub.ends key).sent ++ [Stream.finFrame.withStreamId (hub.ends key).id] })
  /-- The manager removes the stream without a frame. -/
  | ends (polls : ∃ pick cx, op = .pollNext pick cx)
      (handle : StreamHandle) (found : hub.entry key = some handle)
      (noFin : handle.needsFin = false)
      (reason : (hub.ends key).isClosed = true ∨ (hub.ends key).stream.fout.sink.queue = [] ∧
        (hub.ends key).stream.fout.sink.isOpen = false)
      (answered : (hub.ends key).stream.fout.sink.queue ≠ [] ∨
        (hub.ends key).stream.fout.sink.isOpen = false)
      (gone : hub'.entry key = none)
      (target : hub'.ends key = (hub.ends key).closeFin.dropReceiver)
  /-- The session goes away, and the table with it. -/
  | leaves (gone : hub'.entry key = none)
      (reason : hub'.manager.goneAway = true ∨ op = .dropManager)
      (sent : (hub'.ends key).sent = (hub.ends key).sent)
      (recvd : (hub'.ends key).recvd = (hub.ends key).recvd)
      (changes : Changes .manager (hub.ends key) (hub'.ends key))
  /-- A frame of the remote meets the stream. -/
  | sends (is : op = .pollSendToStream) (sending : Sending)
      (current : hub.sending = some sending)
      (own : sending.frame.header.streamId = (hub.ends key).id)
      (handle : StreamHandle) (found : hub.entry key = some handle)
      (handle' : StreamHandle) (sending' : Option Sending)
      (spec : SendSpec sending handle (hub.ends key) (hub.pollSendToStream sending).1
        handle' (hub'.ends key) sending')
      (found' : hub'.entry key = some handle') (after : hub'.sending = sending')
  | closesWrite (other : op ≠ .pollSendToStream) (handle : StreamHandle)
      (found : hub.entry key = some handle)
      (found' : hub'.entry key = some { handle with dataWriteClosed := true })
      (target : hub'.ends key = hub.ends key)
  | silences (other : op ≠ .pollSendToStream) (same : hub'.entry key = hub.entry key)
      (target : hub'.ends key = (hub.ends key).closeFin)

namespace EntryStep

variable {hub hub' : Hub} {key : StreamKey} {op : HubOp}

theorem of_end (unsent : hub.Undelivered key op) (same : hub'.entry key = hub.entry key)
    (ends : hub'.ends key = hub.ends key) : hub.EntryStep key op hub' :=
  .keeps unsent same (by rw [ends])

theorem of_same (unsent : hub.Undelivered key op) (ends : hub'.ends key = hub.ends key)
    (found : hub'.getStream (hub.ends key).id = hub.getStream (hub.ends key).id) :
    hub.EntryStep key op hub' :=
  of_end unsent (entry_congr (by rw [ends]) found) ends

/-- The case depends on the ends and the table before the operation only. -/
theorem congr {other : Hub} (step : hub.EntryStep key op hub') (ends : other.ends = hub.ends)
    (entry : other.entry key = hub.entry key) (notSend : op ≠ .pollSendToStream) :
    other.EntryStep key op hub' := by
  cases step with
  | keeps _ same changes =>
      exact .keeps (.of_ne notSend) (same.trans entry.symm) (by rw [ends]; exact changes)
  | emits polls handle found frame rest queue found' target =>
      exact .emits polls handle (entry.trans found) frame rest (by rw [ends]; exact queue) found'
        (by rw [ends]; exact target)
  | finishes polls handle found needsFin alive queue closed gone target =>
      exact .finishes polls handle (entry.trans found) needsFin (by rw [ends]; exact alive)
        (by rw [ends]; exact queue) (by rw [ends]; exact closed) gone (by rw [ends]; exact target)
  | ends polls handle found noFin reason answered gone target =>
      exact .ends polls handle (entry.trans found) noFin (by rw [ends]; exact reason)
        (by rw [ends]; exact answered) gone (by rw [ends]; exact target)
  | leaves gone reason sent recvd changes =>
      exact .leaves gone reason (by rw [ends]; exact sent) (by rw [ends]; exact recvd)
        (by rw [ends]; exact changes)
  | sends is _ _ _ _ _ _ _ _ _ _ => exact absurd is notSend
  | closesWrite _ handle found found' target =>
      exact .closesWrite notSend handle (entry.trans found) found' (by rw [ends]; exact target)
  | silences _ same target => exact .silences notSend (same.trans entry.symm) (by rw [ends]; exact target)

end EntryStep

section

variable {hub : Hub} {key : StreamKey}

theorem Addressed.stream_ne_of_id {hub : Hub} (addressed : hub.Addressed) {id : StreamID}
    {handle : StreamHandle} (found : hub.getStream id = some handle) {key : StreamKey}
    (different : id ≠ (hub.ends key).id) : handle.stream ≠ key := by
  rintro rfl
  exact different (addressed.handle id handle found).2.symm

theorem entryStep_created (addressed : hub.Addressed) {remote : Option StreamID} {window : Nat}
    {needsSyn : Bool} {newId : StreamID} {newKey : StreamKey} {hub' : Hub}
    (existing : key < hub.nextKey)
    (idle : hub.opensIdle (hub.ends key).id (.createStream remote window needsSyn))
    (opened : hub.createStream remote window needsSyn = .ok (newId, newKey, hub')) :
    hub.EntryStep key (.createStream remote window needsSyn) hub' := by
  obtain ⟨room, rfl, -, chosen, ends, streams, -⟩ := createStream_eq_ok opened
  have old : key ≠ hub.nextKey := Nat.ne_of_lt existing
  by_cases own : newId = (hub.ends key).id
  · have absent : hub.getStream (hub.ends key).id = none := idle room (chosen.symm.trans own)
    have same : hub'.ends key = hub.ends key := by
      rw [ends, Function.update_of_ne old, removeStream, own, absent]
    refine .of_end (.of_ne (by simp)) ?_ same
    rw [entry_eq_none_of_absent absent]
    refine @entry_eq_none _ key ⟨hub.nextKey, true, false, window⟩ ?_ old.symm
    rw [same, getStream, streams, own, AList.lookup_insert]
  · have same : hub'.ends key = hub.ends key := by
      rw [ends, Function.update_of_ne old]
      unfold removeStream
      split
      · rfl
      · rename_i handle found
        exact Function.update_of_ne (addressed.stream_ne_of_id found own).symm _ _
    refine .of_same (.of_ne (by simp)) same ?_
    rw [getStream, streams, AList.lookup_insert_ne (Ne.symm own)]
    rfl

theorem entryStep_pollSend (addressed : hub.Addressed) {sending : Sending}
    (current : hub.sending = some sending) :
    hub.EntryStep key .pollSendToStream (hub.pollSendToStream sending).2 := by
  have spec := hub.pollSendToStream_spec sending
  cases found : hub.getStream sending.frame.header.streamId with
  | none =>
      have nothing : (hub.pollSendToStream sending).2 = { hub with sending := none } := by
        simp [pollSendToStream, found]
      rw [nothing]
      refine .of_same (fun _ => ?_) rfl rfl
      by_cases own : sending.frame.header.streamId = (hub.ends key).id
      · exact Or.inl (entry_eq_none_of_absent (by rw [← own]; exact found))
      · refine Or.inr fun other is => ?_
        obtain rfl : sending = other := Option.some.inj (current.symm.trans is)
        exact own
  | some handle =>
      obtain ⟨handle', target', sending', send, after⟩ := spec.send found
      obtain ⟨stream, id⟩ := send.stream
      by_cases own : sending.frame.header.streamId = (hub.ends key).id
      · by_cases is : handle.stream = key
        · subst is
          have target : (hub.pollSendToStream sending).2.ends handle.stream = target' := by
            rw [after]
            simp [afterSend]
          refine .sends rfl sending current own handle (entry_of_getStream addressed found)
            handle' sending' (target ▸ send) ?_ (by rw [after]; rfl)
          rw [entry_eq_some, target, id, ← own, after]
          exact ⟨by simp [afterSend, getStream, setHandle], stream⟩
        · have same : (hub.pollSendToStream sending).2.ends key = hub.ends key := by
            rw [after]
            simp [afterSend, Function.update_of_ne (Ne.symm is)]
          have before : hub.entry key = none := entry_eq_none (by rw [← own]; exact found) is
          refine .of_end (fun _ => Or.inl before) ?_ same
          rw [before]
          refine @entry_eq_none _ key handle' ?_ (by rw [stream]; exact is)
          rw [same, ← own, after]
          simp [afterSend, getStream, setHandle]
      · have is := addressed.stream_ne_of_id found own
        have same : (hub.pollSendToStream sending).2.ends key = hub.ends key := by
          rw [after]
          simp [afterSend, Function.update_of_ne (Ne.symm is)]
        refine .of_same (fun _ => Or.inr fun other is => ?_) same ?_
        · obtain rfl : sending = other := Option.some.inj (current.symm.trans is)
          exact own
        rw [after]
        simp [afterSend, getStream, setHandle, AList.lookup_insert_ne (Ne.symm own)]

theorem entryStep_closeDataWrite (addressed : hub.Addressed) {id : StreamID}
    {handle : StreamHandle} (found : hub.getStream id = some handle) :
    hub.EntryStep key (.closeDataWrite id) (hub.setHandle id { handle with dataWriteClosed := true }) := by
  by_cases own : id = (hub.ends key).id
  · subst own
    by_cases is : handle.stream = key
    · subst is
      refine .closesWrite (by simp) handle (entry_of_getStream addressed found) ?_ rfl
      rw [entry_eq_some]
      exact ⟨by simp [getStream, setHandle], rfl⟩
    · refine .of_end (.of_ne (by simp)) ?_ rfl
      rw [entry_eq_none found is]
      refine @entry_eq_none _ key { handle with dataWriteClosed := true } ?_ is
      simp [getStream, setHandle]
  · refine .of_same (.of_ne (by simp)) rfl ?_
    simp [getStream, setHandle, AList.lookup_insert_ne (Ne.symm own)]

/-- An answer of another stream's task. -/
theorem entryStep_next_of_other (addressed : hub.Addressed) {index : Nat} {id : StreamID}
    {taskKey : StreamKey} {item : Option Frame} {sink : Channel Frame} {handle : StreamHandle}
    (answer : Answer (hub.ends taskKey).stream.fout.sink item sink)
    (found : hub.getStream id = some handle) {outcome : Poll (Option Frame) × Hub}
    {pick : Option Nat}
    {cx : Waker}
    (spec : (hub.popTask index taskKey sink).NextFrameSpec id taskKey handle item outcome)
    (different : id ≠ (hub.ends key).id) (other : key ≠ taskKey) :
    hub.EntryStep key (.pollNext pick cx) outcome.2 := by
  have is := addressed.stream_ne_of_id found different
  have ended : ((hub.popTask index taskKey sink).endTask id taskKey).ends key = hub.ends key := by
    rw [endTask_popTask_ends answer]
    simp only [endTask, setEnd_ends, Function.update_of_ne other, removeStream, found]
    exact Function.update_of_ne (Ne.symm is) _ _
  have erased : (hub.manager.streams.erase id).lookup (hub.ends key).id =
      hub.getStream (hub.ends key).id :=
    AList.lookup_erase_ne (Ne.symm different)
  cases spec with
  | removed _ _ _ =>
      exact .of_same (.of_ne (by simp)) ended (by simpa [getStream, popTask] using erased)
  | ended _ =>
      exact .of_same (.of_ne (by simp)) ended (by simpa [getStream, popTask] using erased)
  | fin _ =>
      refine .of_same (.of_ne (by simp)) ?_ (by simpa [getStream, popTask, emitFor, emit, setEnd] using erased)
      simpa only [emitFor_ends, Function.update_of_ne other] using ended
  | frame frame _ =>
      refine .of_same (.of_ne (by simp)) ?_ ?_
      · simp [Function.update_of_ne other]
      · simp [getStream, emitFor, emit, setEnd, pushTask, setHandle, popTask,
          AList.lookup_insert_ne (Ne.symm different)]

/-- An answer of the task of a stream that has taken over the id. -/
theorem entryStep_next_of_sibling {index : Nat}
    {taskKey : StreamKey} {item : Option Frame} {sink : Channel Frame} {handle : StreamHandle}
    (answer : Answer (hub.ends taskKey).stream.fout.sink item sink)
    (found : hub.getStream (hub.ends key).id = some handle) (own : handle.stream = taskKey)
    (different : taskKey ≠ key) {outcome : Poll (Option Frame) × Hub} {pick : Option Nat}
    {cx : Waker}
    (spec : (hub.popTask index taskKey sink).NextFrameSpec (hub.ends key).id taskKey handle item
      outcome) : hub.EntryStep key (.pollNext pick cx) outcome.2 := by
  have before : hub.entry key = none := entry_eq_none found (own ▸ different)
  have ended : ((hub.popTask index taskKey sink).endTask (hub.ends key).id taskKey).ends key =
      hub.ends key := by
    rw [endTask_popTask_ends answer]
    simp only [endTask, setEnd_ends, Function.update_of_ne (Ne.symm different), removeStream, found]
    exact Function.update_of_ne (own ▸ Ne.symm different) _ _
  have gone (hub' : Hub) (ends : hub'.ends key = hub.ends key)
      (erased : hub'.manager.streams = hub.manager.streams.erase (hub.ends key).id) :
      hub'.entry key = none := by
    apply entry_eq_none_of_absent
    rw [ends, getStream, erased]
    exact AList.lookup_erase _ _
  cases spec with
  | removed _ _ _ =>
      exact .of_end (.of_ne (by simp)) ((gone _ ended (by simp [popTask])).trans before.symm) ended
  | ended _ =>
      exact .of_end (.of_ne (by simp)) ((gone _ ended (by simp [popTask])).trans before.symm) ended
  | fin _ =>
      have same : (((hub.popTask index taskKey sink).endTask (hub.ends key).id taskKey).emitFor
          taskKey (Stream.finFrame.withStreamId (hub.ends key).id)).ends key = hub.ends key := by
        simpa only [emitFor_ends, Function.update_of_ne (Ne.symm different)] using ended
      refine .of_end (.of_ne (by simp)) ((gone _ same ?_).trans before.symm) same
      simp [emitFor, emit, setEnd, popTask]
  | frame frame _ =>
      have same : ((((hub.popTask index taskKey sink).setHandle (hub.ends key).id
          (StreamHandle.afterFrame handle frame)).pushTask (hub.ends key).id taskKey).emitFor
          taskKey (frame.withStreamId (hub.ends key).id)).ends key = hub.ends key := by
        simp [Function.update_of_ne (Ne.symm different)]
      refine .of_end (.of_ne (by simp)) (Eq.trans ?_ before.symm) same
      refine @entry_eq_none _ key (StreamHandle.afterFrame handle frame) ?_ (own ▸ different)
      rw [same]
      simp [getStream, emitFor, emit, setEnd, pushTask, setHandle]

/-- An answer of the task of the stream itself. -/
theorem entryStep_next_own (addressed : hub.Addressed) {index : Nat} {id : StreamID}
    {item : Option Frame} {sink : Channel Frame} {handle : StreamHandle}
    (task : hub.manager.tasks[index]? = some (id, key))
    (answer : Answer (hub.ends key).stream.fout.sink item sink)
    (found : hub.getStream id = some handle) (own : handle.stream = key)
    {outcome : Poll (Option Frame) × Hub} {pick : Option Nat}
    {cx : Waker}
    (spec : (hub.popTask index key sink).NextFrameSpec id key handle item outcome) :
    hub.EntryStep key (.pollNext pick cx) outcome.2 := by
  subst own
  obtain ⟨-, idEq, alive⟩ := addressed.task _ (List.mem_of_getElem? task)
  simp only at idEq alive
  have entry := entry_of_getStream addressed found
  have ended : ((hub.popTask index handle.stream sink).endTask id handle.stream).ends
      handle.stream = (hub.ends handle.stream).closeFin.dropReceiver := by
    rw [endTask_popTask_ends answer]
    simp [endTask, removeStream, found]
  have gone (hub' : Hub) (ends : (hub'.ends handle.stream).id = id)
      (erased : hub'.manager.streams = hub.manager.streams.erase id) :
      hub'.entry handle.stream = none := by
    apply entry_eq_none_of_absent
    rw [ends, getStream, erased]
    exact AList.lookup_erase _ _
  have fout : (hub.popTask index handle.stream sink).ends handle.stream =
      (hub.ends handle.stream).setSink sink := by simp
  cases spec with
  | removed _ closed noFin =>
      refine .ends ⟨pick, cx, rfl⟩ handle entry noFin (Or.inl ?_) answer.queued_or_closed
        (gone _ ?_ (by simp [popTask])) ended
      · simpa [fout, StreamEnd.isClosed, StreamEnd.setSink] using closed
      · rw [ended]
        exact idEq
  | ended noFin =>
      cases answer with
      | drained queue closed =>
          refine .ends ⟨pick, cx, rfl⟩ handle entry noFin (Or.inr ⟨queue, closed⟩) (Or.inr closed)
            (gone _ ?_ (by simp [popTask])) ended
          rw [ended]
          exact idEq
  | fin needsFin =>
      cases answer with
      | drained queue closed =>
          refine .finishes ⟨pick, cx, rfl⟩ handle entry needsFin alive queue closed (gone _ ?_ ?_) ?_
          · simp only [emitFor_ends, Function.update_self, ended]
            exact idEq
          · simp [emitFor, emit, setEnd, popTask]
          · simp only [emitFor_ends, Function.update_self, ended, idEq]
            rfl
  | frame frame flows =>
      cases answer with
      | frame frame rest queue =>
          refine .emits ⟨pick, cx, rfl⟩ handle entry frame rest queue ?_ ?_
          · rw [entry_eq_some]
            simp only [emitFor_ends, Function.update_self, pushTask_ends, setHandle_ends, fout,
              StreamEnd.setSink]
            refine ⟨?_, rfl⟩
            rw [idEq]
            simp [getStream, emitFor, emit, setEnd, pushTask, setHandle]
          · simp [StreamEnd.setSink, idEq]

/-- Every operation is one of these for every existing stream. -/
theorem step_entry (addressed : hub.Addressed) (owned : hub.TasksOwned (hub.ends key).id)
    (existing : key < hub.nextKey) {op : HubOp} (idle : hub.opensIdle (hub.ends key).id op) :
    hub.EntryStep key op (hub.step op) := by
  by_cases poll : op = .pollSendToStream ∧ ∃ sending, hub.sending = some sending
  · obtain ⟨rfl, sending, current⟩ := poll
    simpa only [Hub.step, current] using entryStep_pollSend addressed current
  have unsent : hub.Undelivered key op :=
    fun is => Or.inr fun sending current => (poll ⟨is, sending, current⟩).elim
  have spec := hub.step_spec op
  generalize hub.step op = hub' at spec
  cases spec with
  | idle _ => exact .of_same unsent rfl rfl
  | panicked _ _ => exact .of_same unsent rfl rfl
  | created remote window needsSyn newId newKey hub' opened =>
      exact entryStep_created addressed existing idle opened
  | startSend _ _ _ => exact .of_same unsent rfl rfl
  | pollSend sending current polled hub' spec => exact (poll ⟨rfl, sending, current⟩).elim
  | closeDataWrite id handle found => exact entryStep_closeDataWrite addressed found
  | waiting _ _ => exact .of_same unsent rfl rfl
  | system _ cx _ frame rest _ =>
      have changes := changes_nextSystemFrame ((hub.storeWaker cx).setSysRx rest) frame key
      unfold nextSystemFrame at changes ⊢
      split at changes
      · have away := goAway_keeps ((hub.storeWaker cx).setSysRx rest).clearTasks .sessionClosed key
        have clear := clearTasks_keeps ((hub.storeWaker cx).setSysRx rest) key
        refine .leaves ?_ (Or.inl rfl) (away.2.1.trans clear.2.1) (away.2.2.1.trans clear.2.2)
          changes
        exact entry_eq_none_of_absent (by simp [getStream, Hub.goAway, Hub.emit])
      · exact .of_same unsent rfl rfl
  | next pick cx alive _ index id taskKey task item sink answer handle found polled hub' spec =>
      have stored : (hub.storeWaker cx).Addressed := { addressed with }
      have idEq := (addressed.task _ (List.mem_of_getElem? task)).2.1
      have ofStored (step : (hub.storeWaker cx).EntryStep key (.pollNext pick cx) hub') :
          hub.EntryStep key (.pollNext pick cx) hub' :=
        step.congr rfl rfl (by simp)
      apply ofStored
      by_cases own : id = (hub.ends key).id
      · obtain ⟨handle', found', is⟩ := owned alive taskKey (own ▸ List.mem_of_getElem? task)
        obtain rfl : handle = handle' := by
          rw [own] at found
          exact Option.some.inj (found.symm.trans found')
        by_cases same : taskKey = key
        · subst same
          exact entryStep_next_own stored task answer found is spec
        · exact @entryStep_next_of_sibling (hub.storeWaker cx) key index taskKey item sink handle
            answer (own ▸ found) is same _ _ _ (own ▸ spec)
      · have other : key ≠ taskKey := by
          rintro rfl
          exact own idEq.symm
        exact entryStep_next_of_other stored answer found spec own other
  | sysSend _ => exact .of_same unsent rfl rfl
  | goAway error =>
      obtain ⟨-, sent, recvd, -⟩ := goAway_keeps hub error key
      exact .leaves (entry_eq_none_of_absent (by simp [getStream, Hub.goAway])) (Or.inl rfl) sent
        recvd (changes_goAway hub error key)
  | closeSenders =>
      by_cases is : hub.registered key = true
      · have closed : hub.closeSenders.ends key = (hub.ends key).closeFin := by
          simp [Hub.closeSenders, is]
        exact .silences (by simp) (entry_congr (by rw [closed]; rfl) rfl) closed
      · exact .of_same unsent (by simp [Hub.closeSenders, is]) rfl
  | dropManager =>
      have clear := clearTasks_keeps
        { hub.closeSenders with manager := { hub.manager with streams := ∅ } } key
      have close := closeSenders_keeps hub key
      exact .leaves (entry_eq_none_of_absent (by simp [getStream, Hub.dropManager, clearTasks]))
        (Or.inr rfl) (clear.2.1.trans close.2.1) (clear.2.2.trans close.2.2.1)
        ((changes_closeSenders hub key).trans (changes_clearTasks
          { hub.closeSenders with manager := { hub.manager with streams := ∅ } } key))
  | user op userKey _ target changes =>
      have ends := changes_update hub.ends changes key
      refine .keeps unsent (entry_congr ?_ rfl) ends
      exact ends.application_keeps.1

/-- A key that is new after an operation is that of a stream the operation has opened
and registered. -/
theorem entry_created {op : HubOp} (new : hub.nextKey ≤ key)
    (existing : key < (hub.step op).nextKey) :
    ∃ remote window needsSyn, op = .createStream remote window needsSyn ∧
      hub.len ≠ hub.manager.streamLimit ∧
      (hub.step op).ends key = StreamEnd.create (hub.chosenId remote) window needsSyn ∧
      (hub.step op).entry key = some ⟨key, true, false, window⟩ := by
  obtain ⟨remote, window, needsSyn, newId, rfl, opened⟩ := created_of_nextKey new existing
  obtain ⟨room, -, -, rfl, ends, streams, -⟩ := createStream_eq_ok opened
  have created : (hub.step (.createStream remote window needsSyn)).ends key =
      StreamEnd.create (hub.chosenId remote) window needsSyn := by
    rw [ends, Function.update_self]
  refine ⟨remote, window, needsSyn, rfl, room, created, ?_⟩
  rw [entry_eq_some, created, getStream, streams]
  exact ⟨AList.lookup_insert _, rfl⟩

end

/-- A law of one stream and its entry that holds when the stream is opened, and that
every case of `EntryStep` keeps, holds in every run in which the id is opened idle. -/
theorem entry_invariant (Law : Hub → Prop) {id : StreamID} {streamLimit : Nat} {client : Bool}
    {admits : Hub → HubOp → Prop} {key : StreamKey}
    (idle : ∀ (hub : Hub) op, admits hub op → hub.opensIdle id op)
    (created : ∀ (hub : Hub) window needsSyn,
      hub.ends key = StreamEnd.create id window needsSyn →
      hub.entry key = some ⟨key, true, false, window⟩ → Law hub)
    (kept : ∀ (hub : Hub) op, Reaches Hub.step admits (Hub.new streamLimit client) hub →
      (hub.ends key).id = id → admits hub op → hub.EntryStep key op (hub.step op) → Law hub →
      Law (hub.step op))
    {hub : Hub} (reaches : Reaches Hub.step admits (Hub.new streamLimit client) hub)
    (existing : key < hub.nextKey) (own : (hub.ends key).id = id) : Law hub := by
  have all : hub.Addressed ∧ hub.TasksOwned id ∧
      (key < hub.nextKey → (hub.ends key).id = id → Law hub) := by
    clear existing own
    induction reaches with
    | refl =>
        refine ⟨.new streamLimit client, .new streamLimit client id, fun existing => ?_⟩
        exact absurd existing (Nat.not_lt_zero _)
    | tail reached edge ih =>
        obtain ⟨op, admitted, rfl⟩ := edge
        obtain ⟨addressed, owned, law⟩ := ih
        have idle := idle _ _ admitted
        refine ⟨addressed.step op, owned.step addressed idle, fun existing own => ?_⟩
        rcases Nat.lt_or_ge key (Hub.nextKey _) with before | new
        · rw [step_id addressed op before] at own
          subst own
          exact kept _ op reached rfl admitted (step_entry addressed owned before idle)
            (law before rfl)
        · obtain ⟨remote, window, needsSyn, -, -, opened, entry⟩ := entry_created new existing
          rw [opened] at own
          obtain rfl : Hub.chosenId _ remote = id := own
          exact created _ window needsSyn opened entry
  exact all.2.2 existing own

end Hub

end Muxado

end NgrokRust
