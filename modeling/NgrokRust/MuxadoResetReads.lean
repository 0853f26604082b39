import NgrokRust.IncomingStreams
import NgrokRust.MuxadoHeard
import NgrokRust.MuxadoStreamReset

/-!
# Reads of a stream that was reset

A reset closes the sink of a stream and ends its data, but nobody tells the reader.  It waits
for a channel that stays open, until the manager comes to a frame of the stream that was
left on the way to the remote: then the stream is removed, and the reader finds the end of
the channel.  This is what the agent reads of the streams that the remote resets.
-/

namespace NgrokRust

namespace Muxado

open LabelledRuns

/-- A reader takes the frame without a byte and without an end. -/
structure Frame.Bare (frame : Frame) : Prop where
  kind : frame.Deliverable
  typ : frame.header.typ ≠ .data
  payload : frame.payload = []
  notFin : frame.isFin = false

namespace Stream

/-- There is nothing left to read on the channel. -/
structure AllRead (stream : Stream) : Prop where
  buffer : stream.readBuf = []
  channel : ∀ frame ∈ stream.fin.queue, frame.Bare

variable {stream : Stream} {frames : List Frame}

theorem recvFrames_of_bare (stream : Stream) (cx : Waker) (buffer : stream.readBuf = [])
    (queue : stream.fin.queue = frames) (bare : ∀ frame ∈ frames, frame.Bare) :
    ∃ stream', recvFrames cx .data frames stream =
        .ok (if stream.fin.isOpen then .pending else .ready (), stream') ∧
      stream'.readBuf = [] ∧
      stream'.dataReadClosed = (stream.dataReadClosed || !stream.fin.isOpen) := by
  induction frames generalizing stream with
  | nil =>
      unfold recvFrames pollRecvFrame
      cases isOpen : stream.fin.isOpen with
      | true =>
          rw [Channel.pollNext_of_waiting queue isOpen]
          exact ⟨_, rfl, buffer, by simp⟩
      | false =>
          rw [Channel.pollNext_of_drained queue isOpen]
          exact ⟨_, rfl, buffer, by simp⟩
  | cons frame rest ih =>
      have first := bare frame List.mem_cons_self
      obtain ⟨⟨typ, taken⟩, handled⟩ := exists_handleFrame first.kind
        { stream with fin := { stream.fin with queue := rest } } (some cx)
      obtain ⟨rfl, -, readWaker, writeWaker, wakes, rfl⟩ := handleFrame_eq_ok handled
      unfold recvFrames
      simp only [handled, bind, Except.bind, if_neg first.typ]
      obtain ⟨stream', received, empty, ended⟩ := ih
        { stream.ingest frame rest with
          readWaker := readWaker, writeWaker := writeWaker, wakes := wakes }
        (by simp [ingest, buffer, first.payload]) rfl
        fun other member => bare other (List.mem_cons_of_mem frame member)
      refine ⟨stream', received, empty, ?_⟩
      simpa [ingest, first.notFin] using ended

theorem readBuffered_of_empty (buffer : stream.readBuf = []) (remaining : Nat) :
    stream.readBuffered remaining = (.ready (.ok []), stream) := by
  simp [readBuffered, buffer]

/-- Behind all bytes a read finds the end if there was one, or waits. -/
theorem AllRead.pollRead (allRead : stream.AllRead) (cx : Waker) (remaining : Nat) :
    ∃ stream', stream.pollRead cx remaining =
      .ok (if stream.dataReadClosed || !stream.fin.isOpen then .ready (.ok []) else .pending,
        stream') := by
  unfold Stream.pollRead readLoop
  by_cases ended : stream.dataReadClosed = true
  · exact ⟨stream, by simp [ended, readBuffered_of_empty allRead.buffer]⟩
  · obtain ⟨stream', received, buffer, closed⟩ := recvFrames_of_bare
      { stream with readWaker := some cx } cx allRead.buffer rfl allRead.channel
    rw [if_neg (by simp [allRead.buffer, ended])]
    simp only [pollRecvData, pollRecvFrameType, received, bind, Except.bind]
    refine ⟨stream', ?_⟩
    cases isOpen : stream.fin.isOpen with
    | true => simp [ended, pure, Except.pure]
    | false =>
        have known : stream'.dataReadClosed = true := by simp [closed, isOpen]
        -- the closed channel ends the loop in the next round
        unfold readLoop
        simp [known, readBuffered_of_empty buffer]

end Stream

namespace StreamEnd

/-- How the stream goes on for a reader that has read all there is. -/
def EndsAs (target : StreamEnd) : ArrivalEnd Empty → Prop
  | .eof => ∀ cx remaining, ∃ stream',
      target.stream.pollRead cx remaining = .ok (.ready (.ok []), stream')
  | .silence => ∀ cx remaining, ∃ stream',
      target.stream.pollRead cx remaining = .ok (.pending, stream')
  | .failed error => error.elim

/-- The sink is closed, and no final frame is on the channel. -/
structure CutOff (target : StreamEnd) : Prop where
  closed : target.stream.fout.closer.code ≠ 0
  noFin : ∀ frame ∈ target.stream.fin.queue, frame.isFin = false

variable {before after target : StreamEnd}

theorem held_of_changes {actor : Actor} (changes : Changes actor before after)
    (held : after.dropped = false) : before.dropped = false := by
  cases actor with
  | application => exact (Hub.isOpen_of_application changes held).1
  | manager => exact changes.manager_keeps.2.2.1.symm.trans held

/-- The application adds nothing to a closed sink, and it learns of an end only from a closed
channel. -/
theorem CutOff.application (cut : before.CutOff) (changes : Changes .application before after)
    (held : after.dropped = false) :
    after.CutOff ∧ after.stream.fout.sink = before.stream.fout.sink ∧
      (before.stream.fin.isOpen = true →
        after.stream.dataReadClosed = before.stream.dataReadClosed) := by
  induction changes with
  | refl => exact ⟨cut, rfl, fun _ => rfl⟩
  | @tail mid last earlier change ih =>
      have heldMid := (Hub.isOpen_of_application (.single change) held).1
      obtain ⟨⟨closed, noFin⟩, sink, ended⟩ := ih heldMid
      have openMid := (Hub.isOpen_of_application earlier heldMid).2
      cases change with
      | ingest frame rest _ queue _ =>
          have first := noFin frame (by rw [queue]; exact List.mem_cons_self)
          refine ⟨⟨closed, fun other member => ?_⟩, sink, ?_⟩
          · exact noFin other (by rw [queue]; exact List.mem_cons_of_mem frame member)
          · simpa [Stream.ingest, first] using ended
      | seeClosed _ _ shut =>
          refine ⟨⟨closed, noFin⟩, sink, fun isOpen => ?_⟩
          rw [openMid, isOpen] at shut
          cases shut
      | takeAcked _ _ _ _ code _ => exact absurd code closed
      | disconnect _ _ =>
          refine ⟨⟨?_, noFin⟩, sink, ended⟩
          simpa only [closeWith, SinkCloser.closeWith_of_code_ne_zero closed] using closed
      | write _ _ _ _ code _ _ _ _ => exact absurd code closed
      | shutdown _ _ code _ => exact absurd code closed
      | drop _ => cases held
      | _ => exact ⟨⟨closed, noFin⟩, sink, ended⟩

theorem CutOff.closeWith (cut : target.CutOff) (error : Error) :
    target.closeWith error = target := by
  simp only [StreamEnd.closeWith, SinkCloser.closeWith_of_code_ne_zero cut.closed]

theorem CutOff.receive (cut : target.CutOff) {frame : Frame} (notFin : frame.isFin = false) :
    (target.receive (target.stream.fin.push frame) frame).CutOff := by
  refine ⟨cut.closed, fun other member => ?_⟩
  rcases List.mem_append.mp member with old | new
  · exact cut.noFin other old
  · obtain rfl := List.mem_singleton.mp new
    exact notFin

/-- Behind all bytes an unfinished stream ends as its channel does. -/
theorem endsAs_of_allRead (allRead : target.stream.AllRead)
    (unended : target.stream.fin.isOpen = true → target.stream.dataReadClosed = false) :
    target.EndsAs (if target.stream.fin.isOpen then .silence else .eof) := by
  cases isOpen : target.stream.fin.isOpen with
  | true =>
      intro cx remaining
      simpa [isOpen, unended isOpen] using allRead.pollRead cx remaining
  | false =>
      intro cx remaining
      simpa [isOpen] using allRead.pollRead cx remaining

end StreamEnd

namespace Hub

variable {hub hub' : Hub} {id : StreamID} {key : StreamKey} {increment : Bool} {op : HubOp}

/-- A stream that was reset.  Without an increment it has nothing on the way to the remote. -/
structure WasReset (hub : Hub) (key : StreamKey) (increment : Bool) : Prop where
  cut : (hub.ends key).CutOff
  registered : ∀ handle, hub.entry key = some handle →
    handle.dataWriteClosed = true ∧ handle.needsFin = false ∧
      (hub.ends key).stream.dataReadClosed = false
  removed : hub.entry key = none → (hub.ends key).stream.fin.isOpen = false
  unsent : increment = false → hub.entry key ≠ none ∧
    (hub.ends key).stream.fout.sink.queue = [] ∧ (hub.ends key).stream.fout.sink.isOpen = true

/-- The id is not opened while it is in use, and the session does not end. -/
def goesOn (id : StreamID) (hub : Hub) (op : HubOp) : Prop :=
  hub.opensIdle id op ∧ op ≠ .closeSenders ∧ op ≠ .dropManager

def Unfinished (id : StreamID) (frame : Frame) : Prop :=
  frame.header.streamId = id → frame.isFin = false

/-- The remote neither ends the stream nor opens another one in its place. -/
def staysReset (id : StreamID) (hub : Hub) (op : HubOp) : Prop :=
  hub.goesOn id op ∧ ∀ frame, op = .sendToStream frame → Unfinished id frame

theorem ChannelsOpen.of_entry (isOpen : hub.ChannelsOpen) {handle : StreamHandle}
    (found : hub.entry key = some handle) (held : (hub.ends key).dropped = false) :
    (hub.ends key).stream.fin.isOpen = true := by
  obtain ⟨registered, rfl⟩ := entry_eq_some.mp found
  exact isOpen _ handle registered held

/-- Only `send_to_stream` takes up a new frame. -/
theorem unfinished_step
    (unfinished : ∀ sending, hub.sending = some sending → Unfinished id sending.frame)
    (sends : ∀ frame, op = .sendToStream frame → Unfinished id frame) {sending : Sending}
    (current : (hub.step op).sending = some sending) : Unfinished id sending.frame := by
  cases op with
  | sendToStream frame =>
      simp only [Hub.step] at current
      split at current
      · rename_i started
        unfold startSendToStream at started
        split at started
        · cases started
          cases current
          exact sends frame rfl
        · cases started
      · exact unfinished sending current
  | pollSendToStream =>
      simp only [Hub.step] at current
      split at current
      · rename_i before found
        have spec := hub.pollSendToStream_spec before
        generalize hub.pollSendToStream before = outcome at spec current
        cases spec with
        | waiting _ _ _ _ _ =>
            cases current
            exact unfinished before found
        | _ => cases current
      · exact unfinished sending current
  | _ =>
      rw [step_sending (fun _ is => by cases is) (fun is => by cases is)] at current
      exact unfinished sending current

namespace WasReset

theorem sends (reset : hub.WasReset key increment) {sending : Sending}
    (unfinished : Unfinished (hub.ends key).id sending.frame)
    (own : sending.frame.header.streamId = (hub.ends key).id) {handle handle' : StreamHandle}
    {polled : Poll (Except Error Unit)} {sending' : Option Sending}
    (found : hub.entry key = some handle)
    (spec : SendSpec sending handle (hub.ends key) polled handle' (hub'.ends key) sending')
    (found' : hub'.entry key = some handle') : hub'.WasReset key increment := by
  obtain ⟨closed, noFin, unended⟩ := reset.registered handle found
  -- nothing but a received frame changes the end of the stream
  have settled (same : hub'.ends key = hub.ends key ∨ ∃ frame : Frame, frame.isFin = false ∧
        hub'.ends key = (hub.ends key).receive ((hub.ends key).stream.fin.push frame) frame)
      (write : handle'.dataWriteClosed = true) (fin : handle'.needsFin = false) :
      hub'.WasReset key increment := by
    refine ⟨?_, fun last found => ?_, fun gone => ?_, fun none => ?_⟩
    · rcases same with same | ⟨frame, notFin, received⟩
      · exact same ▸ reset.cut
      · exact received ▸ reset.cut.receive notFin
    · obtain rfl := Option.some.inj (found'.symm.trans found)
      refine ⟨write, fin, ?_⟩
      rcases same with same | ⟨frame, -, received⟩
      · exact same ▸ unended
      · exact received ▸ unended
    · rw [gone] at found'
      cases found'
    · obtain ⟨-, queue, isOpen⟩ := reset.unsent none
      refine ⟨by simp [found'], ?_⟩
      rcases same with same | ⟨frame, -, received⟩
      · exact same ▸ ⟨queue, isOpen⟩
      · exact received ▸ ⟨queue, isOpen⟩
  generalize targetEq : hub'.ends key = target at spec settled
  cases spec with
  | reset error body => exact settled (.inl (reset.cut.closeWith error)) rfl rfl
  | waiting _ _ _ => exact settled (.inl rfl) closed noFin
  | delivered _ _ _ _ => exact settled (.inr ⟨_, unfinished own, rfl⟩) closed noFin
  | ignored _ _ _ _ => exact settled (.inl rfl) closed noFin
  | refused _ _ _ _ => exact settled (.inl (reset.cut.closeWith _)) rfl rfl

theorem step (reset : hub.WasReset key increment) (isOpen : hub.ChannelsOpen)
    (isOpen' : hub'.ChannelsOpen)
    (unfinished : ∀ sending, hub.sending = some sending →
      Unfinished (hub.ends key).id sending.frame)
    (alive' : hub'.manager.goneAway = false) (held' : (hub'.ends key).dropped = false)
    (stays : op ≠ .dropManager) (step : hub.EntryStep key op hub') :
    hub'.WasReset key increment := by
  have ⟨⟨shut, silent⟩, registered, removed, unsent⟩ := reset
  cases step with
  | keeps _ same changes =>
      obtain ⟨cut, sink, ended⟩ := reset.cut.application changes held'
      obtain ⟨held, finOpen⟩ := isOpen_of_application changes held'
      refine ⟨cut, fun handle found => ?_, fun gone => ?_, fun none => ?_⟩
      · rw [same] at found
        obtain ⟨closed, noFin, unended⟩ := registered handle found
        exact ⟨closed, noFin, (ended (isOpen.of_entry found held)).trans unended⟩
      · rw [finOpen]
        exact removed (same.symm.trans gone)
      · rw [same, sink]
        exact unsent none
  | emits _ handle found frame rest queue found' target =>
      obtain ⟨closed, noFin, unended⟩ := registered handle found
      refine ⟨?_, fun handle' last => ?_, fun gone => ?_, fun none => ?_⟩
      · rw [target]
        exact ⟨shut, silent⟩
      · obtain rfl := Option.some.inj (found'.symm.trans last)
        rw [target]
        exact ⟨closed, by simp [StreamHandle.afterFrame, noFin], unended⟩
      · rw [gone] at found'
        cases found'
      · rw [(unsent none).2.1] at queue
        cases queue
  | finishes _ handle found needsFin _ _ _ _ _ =>
      rw [(registered handle found).2.1] at needsFin
      cases needsFin
  | ends _ handle found _ _ answered gone target =>
      refine ⟨?_, fun handle' last => ?_, fun _ => ?_, fun none => ?_⟩
      · rw [target]
        exact ⟨shut, silent⟩
      · rw [gone] at last
        cases last
      · rw [target]
        rfl
      · obtain ⟨-, queue, sinkOpen⟩ := unsent none
        simp [queue, sinkOpen] at answered
  | leaves _ reason _ _ _ =>
      rcases reason with goneAway | is
      · rw [alive'] at goneAway
        cases goneAway
      · exact absurd is stays
  | sends _ sending current own handle found handle' sending' spec found' _ =>
      exact reset.sends (unfinished sending current) own found spec found'
  | closesWrite _ handle found found' target =>
      obtain ⟨closed, noFin, unended⟩ := registered handle found
      refine ⟨by rw [target]; exact reset.cut, fun handle' last => ?_, fun gone => ?_,
        fun none => ?_⟩
      · obtain rfl := Option.some.inj (found'.symm.trans last)
        rw [target]
        exact ⟨rfl, noFin, unended⟩
      · rw [gone] at found'
        cases found'
      · rw [target]
        exact ⟨by simp [found'], (unsent none).2⟩
  | silences _ same target =>
      -- a channel that is closed is that of a removed stream
      have gone : hub'.entry key = none := by
        cases found : hub'.entry key with
        | none => rfl
        | some handle =>
            have still := isOpen'.of_entry found held'
            rw [target] at still
            cases still
      refine ⟨?_, fun handle last => ?_, fun _ => ?_, fun none => ?_⟩
      · rw [target]
        exact ⟨shut, silent⟩
      · rw [gone] at last
        cases last
      · rw [target]
        rfl
      · exact absurd (same.symm.trans gone) (unsent none).1

/-- The stream stays as it is while the session goes on and the application holds it. -/
theorem later {last : Hub} (reset : hub.WasReset key increment) (addressed : hub.Addressed)
    (owned : hub.TasksOwned id) (isOpen : hub.ChannelsOpen) (existing : key < hub.nextKey)
    (own : (hub.ends key).id = id)
    (unfinished : ∀ sending, hub.sending = some sending → Unfinished id sending.frame)
    (runs : Reaches Hub.step (staysReset id) hub last)
    (alive : last.manager.goneAway = false) (held : (last.ends key).dropped = false) :
    last.ChannelsOpen ∧ last.WasReset key increment := by
  have all : (last.Addressed ∧ last.TasksOwned id ∧ last.ChannelsOpen) ∧
      (key < last.nextKey ∧ (last.ends key).id = id) ∧
      (∀ sending, last.sending = some sending → Unfinished id sending.frame) ∧
      (last.manager.goneAway = false → (last.ends key).dropped = false →
        last.WasReset key increment) := by
    refine runs.invariant (fun hub : Hub =>
      (hub.Addressed ∧ hub.TasksOwned id ∧ hub.ChannelsOpen) ∧
      (key < hub.nextKey ∧ (hub.ends key).id = id) ∧
      (∀ sending, hub.sending = some sending → Unfinished id sending.frame) ∧
      (hub.manager.goneAway = false → (hub.ends key).dropped = false →
        hub.WasReset key increment)) ?_
      ⟨⟨addressed, owned, isOpen⟩, ⟨existing, own⟩, unfinished, fun _ _ => reset⟩
    rintro hub op ⟨⟨idle, noClose, noDrop⟩, sends⟩
      ⟨⟨addressed, owned, isOpen⟩, ⟨existing, rfl⟩, unfinished, reset⟩
    have isOpen' := isOpen.step addressed noClose
    refine ⟨⟨addressed.step op, owned.step addressed idle, isOpen'⟩,
      ⟨existing.trans_le (hub.step_nextKey_le op), step_id addressed op existing⟩,
      fun sending current => ?_, fun alive held => ?_⟩
    · exact unfinished_step unfinished sends current
    · have aliveBefore : hub.manager.goneAway = false := by
        by_contra gone
        rw [step_goneAway (by simpa using gone) op] at alive
        cases alive
      obtain ⟨actor, changes⟩ := step_changes addressed op existing
      have heldBefore := StreamEnd.held_of_changes changes held
      exact (reset aliveBefore heldBefore).step isOpen isOpen' unfinished alive held noDrop
        (step_entry addressed owned existing idle)
  exact ⟨all.1.2.2, all.2.2.2 alive held⟩

/-- If something of the stream was left to send, the manager removes the stream when it comes
to it. -/
theorem removed_of_polled (reset : hub.WasReset key increment) (addressed : hub.Addressed)
    (owned : hub.TasksOwned id) (alive : hub.manager.goneAway = false)
    (noSystem : hub.manager.sysRx = []) {index : Nat}
    (task : hub.manager.tasks[index]? = some (id, key))
    (queued : (hub.ends key).stream.fout.sink.queue ≠ []) (cx : Waker) :
    (hub.step (.pollNext (some index) cx)).entry key = none := by
  obtain ⟨handle, found, rfl⟩ := owned alive key (List.mem_of_getElem? task)
  have entry := entry_of_getStream addressed found
  obtain ⟨frame, rest, queue⟩ := List.exists_cons_of_ne_nil queued
  obtain ⟨-, noFin, -⟩ := reset.registered handle entry
  have idEq : (hub.ends handle.stream).id = id := (addressed.handle id handle found).2
  obtain ⟨sink, sinkEq⟩ : ∃ sink, sink =
      { (hub.ends handle.stream).stream.fout.sink with queue := rest } := ⟨_, rfl⟩
  have answer : Answer ((hub.storeWaker cx).ends handle.stream).stream.fout.sink (some frame)
      sink := sinkEq ▸ .frame frame rest queue
  have answers : (hub.storeWaker cx).pollTasks (some index) =
      some (id, handle.stream, some frame,
        (hub.storeWaker cx).popTask index handle.stream sink) := by
    have stored : (hub.storeWaker cx).manager.tasks[index]? = some (id, handle.stream) := task
    simp only [pollTasks, stored, storeWaker_ends, Channel.pollNext_of_cons queue, sinkEq]
  have removes : ((hub.storeWaker cx).popTask index handle.stream sink).nextFrame id
      handle.stream (some frame) = .ok (.pending,
        ((hub.storeWaker cx).popTask index handle.stream sink).endTask id handle.stream) := by
    have still : ((hub.storeWaker cx).popTask index handle.stream sink).getStream id =
      some handle := found
    simp [nextFrame, still, noFin, StreamEnd.isClosed, StreamEnd.setSink, SinkCloser.isClosed,
      reset.cut.closed]
  have stepped : hub.step (.pollNext (some index) cx) =
      ((hub.storeWaker cx).popTask index handle.stream sink).endTask id handle.stream := by
    have system : (hub.storeWaker cx).manager.sysRx = [] := noSystem
    simp only [Hub.step, pollNext, alive, Bool.false_eq_true, if_false, system, answers, removes]
  have ended : (hub.step (.pollNext (some index) cx)).ends handle.stream =
      (hub.ends handle.stream).closeFin.dropReceiver := by
    have still : (hub.storeWaker cx).getStream id = some handle := found
    rw [stepped, endTask_popTask_ends answer]
    simp [endTask, removeStream, still]
  apply entry_eq_none_of_absent
  rw [ended, StreamEnd.dropReceiver, StreamEnd.closeFin, idEq, stepped]
  simp [getStream, popTask, storeWaker]

end WasReset

theorem wasReset_of_rst {sending : Sending} {error : Error} {handle : StreamHandle}
    (addressed : hub.Addressed) (current : hub.sending = some sending)
    (own : sending.frame.header.streamId = id) (typ : sending.frame.header.typ = .rst)
    (body : sending.frame.body = .rst error) (nonzero : error ≠ .none)
    (registered : hub.getStream id = some handle)
    (noFin : ∀ frame ∈ (hub.ends handle.stream).stream.fin.queue, frame.isFin = false)
    (unended : (hub.ends handle.stream).stream.dataReadClosed = false)
    (unsent : increment = false → (hub.ends handle.stream).stream.fout.sink.queue = [] ∧
      (hub.ends handle.stream).stream.fout.sink.isOpen = true) :
    (hub.step .pollSendToStream).WasReset handle.stream increment ∧
      (hub.step .pollSendToStream).sending = none := by
  subst own
  have after : hub.step .pollSendToStream = hub.afterSend sending.frame.header.streamId
      handle.stream { handle with dataWriteClosed := true, needsFin := false }
      ((hub.ends handle.stream).closeWith error) none := by
    simp only [Hub.step, current]
    exact pollSendToStream_rst typ body registered
  have ends : (hub.step .pollSendToStream).ends handle.stream =
      (hub.ends handle.stream).closeWith error := by
    simp [after, afterSend]
  have entry : (hub.step .pollSendToStream).entry handle.stream =
      some { handle with dataWriteClosed := true, needsFin := false } := by
    rw [entry_eq_some, ends, StreamEnd.closeWith,
      (addressed.handle _ handle registered).2, after]
    exact ⟨by simp [afterSend, getStream, setHandle], rfl⟩
  have closed : ((hub.ends handle.stream).closeWith error).stream.fout.closer.code ≠ 0 :=
    SinkCloser.code_ne_zero_of_checkClosed (checkClosed_firstError (Or.inl nonzero))
  refine ⟨⟨?_, fun last found => ?_, fun gone => ?_, fun none => ?_⟩, by rw [after]; rfl⟩
  · rw [ends]
    exact ⟨closed, noFin⟩
  · obtain rfl := Option.some.inj (entry.symm.trans found)
    rw [ends]
    exact ⟨rfl, rfl, unended⟩
  · rw [gone] at entry
    cases entry
  · rw [ends, entry]
    exact ⟨by simp, unsent none⟩

/-- Behind the bytes of a stream that was reset there is what the agent takes there to be:
nothing, or the end as soon as the manager has come to what was left to send. -/
theorem endsAs_of_rst {streamLimit : Nat} {client : Bool} {last : Hub}
    (reaches : Reaches Hub.step (goesOn id) (Hub.new streamLimit client) hub)
    {sending : Sending} (current : hub.sending = some sending)
    (own : sending.frame.header.streamId = id) {error : Error}
    (typ : sending.frame.header.typ = .rst) (body : sending.frame.body = .rst error)
    (nonzero : error ≠ .none) {handle : StreamHandle}
    (registered : hub.getStream id = some handle)
    (noFin : ∀ frame ∈ (hub.ends handle.stream).stream.fin.queue, frame.isFin = false)
    (unended : (hub.ends handle.stream).stream.dataReadClosed = false)
    (unsent : increment = false → (hub.ends handle.stream).stream.fout.sink.queue = [] ∧
      (hub.ends handle.stream).stream.fout.sink.isOpen = true)
    (runs : Reaches Hub.step (staysReset id) (hub.step .pollSendToStream) last)
    (alive : last.manager.goneAway = false) (held : (last.ends handle.stream).dropped = false)
    (allRead : (last.ends handle.stream).stream.AllRead)
    {stream : Agent.RemoteStream} (ending : stream.ending = .rst increment)
    (taken : increment = true → stream.symbols ≠ [])
    (settled : increment = true → last.entry handle.stream = none) :
    (last.ends handle.stream).EndsAs stream.reads.ending := by
  have kept : (hub.Addressed ∧ hub.TasksOwned id) ∧ hub.ChannelsOpen := by
    refine reaches.invariant (fun hub : Hub => (hub.Addressed ∧ hub.TasksOwned id) ∧
      hub.ChannelsOpen) ?_ ⟨⟨.new streamLimit client, .new streamLimit client id⟩, ?_⟩
    · rintro hub op ⟨idle, noClose, -⟩ ⟨⟨addressed, owned⟩, isOpen⟩
      exact ⟨⟨addressed.step op, owned.step addressed idle⟩, isOpen.step addressed noClose⟩
    · intro id handle found
      cases found
  obtain ⟨⟨addressed, owned⟩, isOpen⟩ := kept
  have existing := (addressed.handle _ _ registered).1
  have same := step_id addressed .pollSendToStream existing
  obtain ⟨reset, free⟩ := wasReset_of_rst addressed current own typ body nonzero registered
    noFin unended unsent
  obtain ⟨channels, later⟩ := reset.later (addressed.step .pollSendToStream)
    (owned.step addressed trivial) (isOpen.step addressed (by simp))
    (existing.trans_le (hub.step_nextKey_le .pollSendToStream))
    (same.trans (addressed.handle _ _ registered).2)
    (fun sending current => by rw [free] at current; cases current) runs alive held
  cases increment with
  | false =>
      obtain ⟨handle', found⟩ := Option.ne_none_iff_exists'.1 (later.unsent rfl).1
      have stillOpen := channels.of_entry found held
      have ends := StreamEnd.endsAs_of_allRead allRead fun _ => (later.registered handle' found).2.2
      rw [if_pos stillOpen] at ends
      simpa [Agent.RemoteStream.reads, ending] using ends
  | true =>
      have shut := later.removed (settled rfl)
      have ends := StreamEnd.endsAs_of_allRead allRead fun isOpen => by rw [shut] at isOpen; cases isOpen
      rw [if_neg (by simp [shut])] at ends
      simpa [Agent.RemoteStream.reads, ending, taken rfl] using ends

/-- A stream with one byte, which was read, and a reset is next. -/
def resetAfterByte : Hub :=
  run Hub.step (Hub.new 4 true)
    [.createStream (some (Constrained.clamp 2)) 8 false,
      .sendToStream ((Frame.ofBody (.data [7])).withStreamId (Constrained.clamp 2)),
      .pollSendToStream, .pollRead 0 1 4,
      .sendToStream (Frame.rst (Constrained.clamp 2) .streamCancelled)]

example : ((resetAfterByte.step .pollSendToStream).step (.pollNext (some 0) 1)).ends 0 |>.EndsAs
    (Agent.RemoteStream.reads ⟨[[7]], .rst true⟩).ending := by
  have reaches : Reaches Hub.step (goesOn (Constrained.clamp 2)) (Hub.new 4 true)
      resetAfterByte :=
    reaches_run ⟨⟨fun _ _ => rfl, by simp⟩, ⟨trivial, by simp⟩, ⟨trivial, by simp⟩,
      ⟨trivial, by simp⟩, ⟨trivial, by simp⟩, trivial⟩
  have current : resetAfterByte.sending =
      some (Sending.new (Frame.rst (Constrained.clamp 2) .streamCancelled) rfl) := rfl
  have registered : resetAfterByte.getStream (Constrained.clamp 2) =
      some ⟨0, true, false, 7⟩ := by decide
  have queue : (resetAfterByte.ends 0).stream.fin.queue = [] := by decide
  have queueLast : (((resetAfterByte.step .pollSendToStream).step
      (.pollNext (some 0) 1)).ends 0).stream.fin.queue = [] := by decide
  have runs : Reaches Hub.step (staysReset (Constrained.clamp 2))
      (resetAfterByte.step .pollSendToStream)
      ((resetAfterByte.step .pollSendToStream).step (.pollNext (some 0) 1)) :=
    .single ⟨.pollNext (some 0) 1, ⟨⟨trivial, by simp⟩, by simp⟩, rfl⟩
  exact endsAs_of_rst reaches current rfl rfl rfl (by decide) registered
    (fun frame member => by rw [queue] at member; cases member) (by decide)
    (fun none => by cases none) runs (by decide) (by decide)
    ⟨by decide, fun frame member => by rw [queueLast] at member; cases member⟩ rfl
    (fun _ => by decide) fun _ => by decide

end Hub

end Muxado

end NgrokRust
