import NgrokRust.MuxadoStreamHistory

/-!
# The first frame of an opened stream

A stream is opened by its first data frame, which carries SYN.  `poll_write` is the one
place that sets it: the final frames of `poll_shutdown` and of the manager never carry
SYN.  So a stream announces itself exactly as long as neither of them ends it before it
has written anything.
-/

namespace NgrokRust

namespace Muxado

open LabelledRuns StreamEnd

namespace Stream

variable {stream stream' : Stream} {cx : Waker}

/-- Returning bytes sends no data. -/
theorem readBuffered_queue (stream : Stream) (remaining : Nat) :
    (stream.readBuffered remaining).2.needsSyn = stream.needsSyn ∧
      ∀ frame ∈ (stream.readBuffered remaining).2.fout.sink.queue, frame.isData = true →
        frame ∈ stream.fout.sink.queue := by
  unfold readBuffered
  split
  · exact ⟨rfl, fun _ member _ => member⟩
  · simp only
    split
    · unfold pollSendWndinc
      have spec := stream.fout.pollReady_spec
      generalize stream.fout.pollReady = outcome at spec
      cases spec with
      | closed error closed => exact ⟨rfl, fun _ member _ => member⟩
      | waiting code isOpen full => exact ⟨rfl, fun _ member _ => member⟩
      | disconnected code closed => exact ⟨rfl, fun _ member _ => member⟩
      | ready code room =>
          simp only [StreamSender.startSend_of_room code room]
          refine ⟨trivial, fun frame member isData => ?_⟩
          rcases List.mem_append.mp member with old | new
          · exact old
          · obtain rfl := List.mem_singleton.mp new
            cases isData
    · exact ⟨rfl, fun _ member _ => member⟩

/-- Neither does reading. -/
theorem readLoop_queue {rounds remaining : Nat} {polled : Poll (Except IoError (List UInt8))}
    (read : readLoop cx remaining rounds stream = .ok (polled, stream')) :
    stream'.needsSyn = stream.needsSyn ∧
      ∀ frame ∈ stream'.fout.sink.queue, frame.isData = true →
        frame ∈ stream.fout.sink.queue := by
  induction rounds generalizing stream with
  | zero =>
      unfold readLoop at read
      split at read
      · have kept := stream.readBuffered_queue remaining
        rw [Except.ok.inj read] at kept
        exact kept
      · obtain ⟨rfl, rfl⟩ := Prod.mk.inj (Except.ok.inj read)
        exact ⟨rfl, fun _ member _ => member⟩
  | succ rounds ih =>
      unfold readLoop at read
      split at read
      · have kept := stream.readBuffered_queue remaining
        rw [Except.ok.inj read] at kept
        exact kept
      · cases received : ({ stream with readWaker := some cx }.pollRecvData cx) with
        | error panic => simp [received, bind, Except.bind] at read
        | ok outcome =>
            obtain ⟨polledData, taken⟩ := outcome
            obtain ⟨-, fout, needsSyn⟩ := recvFrames_writeClosed received
            simp only [received, bind, Except.bind] at read
            cases polledData with
            | pending =>
                obtain ⟨rfl, rfl⟩ := Prod.mk.inj (Except.ok.inj read)
                exact ⟨needsSyn, fun _ member _ => fout ▸ member⟩
            | ready _ =>
                obtain ⟨later, old⟩ := ih read
                exact ⟨later.trans needsSyn, fun frame member isData =>
                  fout ▸ old frame member isData⟩

theorem writeFrame_sink (stream : Stream) (buf : List UInt8)
    (unwritten : (stream.writeFrame buf).2.needsSyn = true) :
    stream.needsSyn = true ∧ (stream.writeFrame buf).2.fout.sink = stream.fout.sink := by
  unfold writeFrame at unwritten ⊢
  have spec := stream.fout.pollReady_spec
  generalize stream.fout.pollReady = outcome at spec unwritten
  cases spec with
  | closed error closed => exact ⟨unwritten, rfl⟩
  | waiting code isOpen full => exact ⟨unwritten, rfl⟩
  | disconnected code closed => exact ⟨unwritten, rfl⟩
  | ready code room =>
      simp only [StreamSender.startSend_of_room code room] at unwritten
      cases unwritten

/-- A stream that has not written after a poll has sent nothing in it. -/
theorem pollWrite_sink {buf : List UInt8} {polled : Poll (Except IoError Nat)}
    (written : stream.pollWrite cx buf = .ok (polled, stream'))
    (unwritten : stream'.needsSyn = true) :
    stream.needsSyn = true ∧ stream'.fout.sink = stream.fout.sink := by
  unfold pollWrite at written
  split at written
  · obtain ⟨rfl, rfl⟩ := Prod.mk.inj (Except.ok.inj written)
    exact ⟨unwritten, rfl⟩
  · split at written
    · cases received : ({ stream with writeWaker := some cx }.pollRecvWndinc cx) with
      | error panic => simp [received, bind, Except.bind] at written
      | ok outcome =>
          obtain ⟨polledWndinc, taken⟩ := outcome
          obtain ⟨-, fout, needsSyn⟩ := recvFrames_writeClosed received
          simp only [received, bind, Except.bind] at written
          cases polledWndinc with
          | pending =>
              obtain ⟨rfl, rfl⟩ := Prod.mk.inj (Except.ok.inj written)
              exact ⟨needsSyn.symm.trans unwritten, by rw [fout]⟩
          | ready _ =>
              have kept := taken.writeFrame_sink buf
              simp only [pure, Except.pure, Except.ok.injEq] at written
              rw [written] at kept
              obtain ⟨first, same⟩ := kept unwritten
              exact ⟨needsSyn.symm.trans first, by rw [same, fout]⟩
    · have kept := stream.writeFrame_sink buf
      rw [Except.ok.inj written] at kept
      exact kept unwritten

theorem pollFlush_sink (stream : Stream) :
    stream.pollFlush.2.needsSyn = stream.needsSyn ∧
      stream.pollFlush.2.fout.sink = stream.fout.sink := by
  unfold pollFlush
  obtain ⟨unchanged, -⟩ := stream.fout.pollFlush_eq
  generalize stream.fout.pollFlush = outcome at unchanged
  obtain ⟨result, fout⟩ := outcome
  obtain rfl : fout = stream.fout := unchanged
  match result with
  | .pending => exact ⟨rfl, rfl⟩
  | .ready (.ok ()) => exact ⟨rfl, rfl⟩
  | .ready (.error _) => exact ⟨rfl, rfl⟩

/-- A shutdown that is not the first one, or that finds no room, sends nothing. -/
theorem pollShutdown_sink (stream : Stream) :
    stream.pollShutdown.2.needsSyn = stream.needsSyn ∧
      (¬ (stream.writeClosed = none ∧ stream.fout.pollReady.1 = .ready (.ok ())) →
        stream.pollShutdown.2.fout.sink = stream.fout.sink) := by
  unfold pollShutdown
  split
  · exact ⟨stream.pollFlush_sink.1, fun _ => stream.pollFlush_sink.2⟩
  · rename_i writable
    have spec := stream.fout.pollReady_spec
    generalize stream.fout.pollReady = outcome at spec
    cases spec with
    | closed error closed => exact ⟨rfl, fun _ => rfl⟩
    | waiting code isOpen full => exact ⟨rfl, fun _ => rfl⟩
    | disconnected code closed => exact ⟨rfl, fun _ => rfl⟩
    | ready code room =>
        refine ⟨?_, fun idle => (idle ⟨writable, rfl⟩).elim⟩
        simp only [StreamSender.startSend_of_room code room]
        exact (pollFlush_sink _).1

end Stream

namespace StreamEnd

def Unwritten (target : StreamEnd) : Prop :=
  target.stream.needsSyn = true → ∀ frame ∈ target.outgoing, frame.isData = false

/-- Nothing that is on the way afterwards is new data. -/
theorem Unwritten.of_queue {before after : StreamEnd} (law : before.Unwritten)
    (needsSyn : after.stream.needsSyn = true → before.stream.needsSyn = true)
    (sent : after.stream.needsSyn = true → ∀ frame ∈ after.sent, frame.isData = true →
      frame ∈ before.sent)
    (queue : after.stream.needsSyn = true → ∀ frame ∈ after.stream.fout.sink.queue,
      frame.isData = true → frame ∈ before.stream.fout.sink.queue) : after.Unwritten := by
  intro unwritten frame member
  by_contra isData
  have isData : frame.isData = true := by simpa using isData
  have old : frame ∈ before.outgoing := by
    rcases List.mem_append.mp member with inSent | inQueue
    · exact List.mem_append_left _ (sent unwritten frame inSent isData)
    · exact List.mem_append_right _ (queue unwritten frame inQueue isData)
  have noData := law (needsSyn unwritten) frame old
  rw [isData] at noData
  cases noData

/-- The manager adds nothing to the channel of a stream. -/
theorem Changes.manager_queue {before after : StreamEnd}
    (changes : Changes .manager before after) :
    after.stream.needsSyn = before.stream.needsSyn ∧
      after.stream.fout.sink.queue ⊆ before.stream.fout.sink.queue := by
  induction changes with
  | refl => exact ⟨rfl, fun _ member => member⟩
  | tail _ change ih =>
      obtain ⟨needsSyn, queue⟩ := ih
      cases change with
      | emit frame rest id is =>
          rw [is] at queue
          exact ⟨needsSyn, fun _ member => queue (List.mem_cons_of_mem _ member)⟩
      | emitFin id alive drained closed => exact ⟨needsSyn, fun _ member => by cases member⟩
      | dropReceiver => exact ⟨needsSyn, fun _ member => by cases member⟩
      | receive _ _ _ => exact ⟨needsSyn, queue⟩
      | closeFin => exact ⟨needsSyn, queue⟩
      | closeWith _ => exact ⟨needsSyn, queue⟩

/-- A stream that has announced itself did so with its first data frame. -/
structure Announced (target : StreamEnd) : Prop where
  history : WriteHistory target
  first : target.opener = true → target.stream.needsSyn = false →
    ∀ frame, target.outgoing.find? Frame.isData = some frame → frame.isSyn = true
  written : target.opener = true → target.stream.needsSyn = false →
    target.stream.fout.sink.receiverAlive = true → ∃ frame ∈ target.outgoing, frame.isData = true

namespace Announced

theorem create (id : StreamID) (window : Nat) (needsSyn : Bool) :
    Announced (StreamEnd.create id window needsSyn) := by
  refine ⟨WriteHistory.create id window needsSyn, fun opener written => ?_, fun opener written => ?_⟩
  · cases opener.symm.trans written
  · cases opener.symm.trans written

/-- A frame behind the first data frame does not change which one that is. -/
theorem push {before after : StreamEnd} (law : Announced before) (history : WriteHistory after)
    (opener : after.opener = before.opener)
    (needsSyn : after.stream.needsSyn = before.stream.needsSyn)
    (alive : before.stream.fout.sink.receiverAlive = true) (frames : List Frame)
    (outgoing : after.outgoing = before.outgoing ++ frames) : Announced after where
  history := history
  first := by
    rw [opener, needsSyn, outgoing]
    intro isOpener done frame found
    obtain ⟨data, member, isData⟩ := law.written isOpener done alive
    rw [List.find?_append] at found
    cases first : before.outgoing.find? Frame.isData with
    | none =>
        rw [List.find?_eq_none] at first
        exact absurd isData (first data member)
    | some other =>
        rw [first, Option.some_or] at found
        obtain rfl := Option.some.inj found
        exact law.first isOpener done other first
  written := by
    rw [opener, needsSyn, outgoing]
    intro isOpener done _
    obtain ⟨data, member, isData⟩ := law.written isOpener done alive
    exact ⟨data, List.mem_append_left _ member, isData⟩

/-- The manager takes the next frame and stamps the id on it. -/
theorem emit {before after : StreamEnd} (law : Announced before) (history : WriteHistory after)
    (opener : after.opener = before.opener)
    (needsSyn : after.stream.needsSyn = before.stream.needsSyn)
    (alive : after.stream.fout.sink.receiverAlive = before.stream.fout.sink.receiverAlive)
    {frame : Frame} {rest : List Frame} (id : StreamID)
    (queue : before.stream.fout.sink.queue = frame :: rest)
    (outgoing : after.outgoing = before.sent ++ frame.withStreamId id :: rest) :
    Announced after where
  history := history
  first := by
    rw [opener, needsSyn, outgoing]
    intro isOpener done other found
    have stamped : (frame.withStreamId id).isData = frame.isData := rfl
    have first := law.first isOpener done
    rw [StreamEnd.outgoing, queue] at first
    rw [List.find?_append] at first found
    cases early : before.sent.find? Frame.isData with
    | some data =>
        rw [early, Option.some_or] at first found
        exact first other found
    | none =>
        rw [early, Option.none_or, List.find?_cons] at first found
        cases isData : frame.isData with
        | true =>
            rw [isData] at first
            rw [stamped, isData] at found
            obtain rfl := Option.some.inj found
            exact first frame rfl
        | false =>
            rw [isData] at first
            rw [stamped, isData] at found
            exact first other found
  written := by
    rw [opener, needsSyn, alive, outgoing]
    intro isOpener done isAlive
    obtain ⟨data, member, isData⟩ := law.written isOpener done isAlive
    rw [StreamEnd.outgoing, queue] at member
    rcases List.mem_append.mp member with inSent | inQueue
    · exact ⟨data, List.mem_append_left _ inSent, isData⟩
    · rcases List.mem_cons.mp inQueue with rfl | later
      · exact ⟨data.withStreamId id, by simp, isData⟩
      · exact ⟨data, by simp [later], isData⟩

theorem change {actor : Actor} {before after : StreamEnd} (change : Change actor before after)
    (law : Announced before) : Announced after := by
  have history := law.history.change change
  have alive (isOpen : before.stream.fout.sink.isOpen = true) :
      before.stream.fout.sink.receiverAlive = true := by
    by_contra gone
    rw [(law.history.gone (by simpa using gone)).1] at isOpen
    cases isOpen
  cases change with
  | takeAcked by' held pos le code isOpen =>
      refine law.push history rfl rfl (alive isOpen) [Frame.ofBody (.wndInc by')] ?_
      simp [StreamEnd.outgoing]
  | write buf count held writable code isOpen credit le fits =>
      by_cases unwritten : before.stream.needsSyn = true
      · -- nothing before was data, so this is the first data frame
        have noData := law.history.unopened unwritten writable isOpen
        have nothing : before.outgoing.find? Frame.isData = none := by
          rw [List.find?_eq_none]
          intro frame member isData
          rw [noData frame member] at isData
          cases isData
        have isData : (Frame.ofBody (.data (buf.take count))).syn.isData = true := rfl
        refine ⟨history, fun _ _ frame found => ?_, fun _ _ _ => ?_⟩
        · simp only [StreamEnd.outgoing, Channel.push_queue, if_pos unwritten] at found
          rw [← List.append_assoc, List.find?_append] at found
          rw [StreamEnd.outgoing] at nothing
          rw [nothing, Option.none_or, List.find?_cons_of_pos isData] at found
          obtain rfl := Option.some.inj found
          rfl
        · refine ⟨_, ?_, isData⟩
          simp [StreamEnd.outgoing, unwritten]
      · have done : before.stream.needsSyn = false := by simpa using unwritten
        refine law.push history rfl done.symm (alive isOpen)
          [Frame.ofBody (.data (buf.take count))] ?_
        simp [StreamEnd.outgoing, done]
  | shutdown held writable code isOpen =>
      refine law.push history rfl rfl (alive isOpen) [Stream.finFrame] ?_
      simp [StreamEnd.outgoing]
  | emit frame rest id queue =>
      refine law.emit history rfl rfl rfl id queue ?_
      simp [StreamEnd.outgoing]
  | emitFin id alive queue _ =>
      refine law.push history rfl rfl alive [Stream.finFrame.withStreamId id] ?_
      simp [StreamEnd.outgoing, queue]
  | dropReceiver =>
      refine ⟨history, fun opener done frame found => ?_, fun _ _ alive => by cases alive⟩
      apply law.first opener done
      have sent : before.sent.find? Frame.isData = some frame := by
        simpa [StreamEnd.outgoing, StreamEnd.dropReceiver] using found
      rw [StreamEnd.outgoing, List.find?_append, sent, Option.some_or]
  | drop _ => exact { law with history := history }
  | rewake _ _ _ _ => exact { law with history := history }
  | ingest _ _ _ _ _ => exact { law with history := history }
  | seeClosed _ _ _ => exact { law with history := history }
  | takeUnacked _ _ _ => exact { law with history := history }
  | disconnect _ _ => exact { law with history := history }
  | failWrite _ _ _ => exact { law with history := history }
  | receive _ _ _ => exact { law with history := history }
  | closeFin => exact { law with history := history }
  | closeWith _ => exact { law with history := history }

end Announced

end StreamEnd

namespace Hub

variable {hub : Hub} {key : StreamKey}

/-- The operation ends the stream at a key before it has announced itself: a shutdown
sends the final frame, or the manager finds the stream dropped and yields one. -/
def endsUnwritten (key : StreamKey) (hub : Hub) : HubOp → Prop
  | .pollShutdown other =>
      other = key ∧ hub.held key = true ∧ (hub.ends key).stream.needsSyn = true ∧
        (hub.ends key).stream.writeClosed = none ∧
        (hub.ends key).stream.fout.pollReady.1 = .ready (.ok ())
  | .pollNext pick _ =>
      hub.manager.goneAway = false ∧ hub.manager.sysRx = [] ∧
        (hub.ends key).stream.needsSyn = true ∧
        (hub.ends key).stream.fout.sink.queue = [] ∧
        (hub.ends key).stream.fout.sink.isOpen = false ∧
        ∃ index id handle, pick = some index ∧ hub.manager.tasks[index]? = some (id, key) ∧
          hub.getStream id = some handle ∧ handle.needsFin = true
  | _ => False

/-- The guard of runs in which the stream at a key is not ended before it has written. -/
def writesFirst (key : StreamKey) (hub : Hub) (op : HubOp) : Prop := ¬ hub.endsUnwritten key op

theorem unwritten_of_manager {hub' : Hub} (law : (hub.ends key).Unwritten)
    (addressed : hub.Addressed) (addressed' : hub'.Addressed)
    (changes : Changes .manager (hub.ends key) (hub'.ends key))
    (emitted : (hub'.ends key).stream.needsSyn = true →
      ∀ frame ∈ framesOf key hub'.emitted, frame.isData = true →
        frame ∈ framesOf key hub.emitted) : (hub'.ends key).Unwritten := by
  obtain ⟨needsSyn, queue⟩ := changes.manager_queue
  apply law.of_queue
  · rw [needsSyn]
    exact id
  · rw [addressed.sent key, addressed'.sent key]
    exact emitted
  · exact fun _ frame member _ => queue member

theorem pollTasks_pick {pick : Option Nat} {id : StreamID} {item : Option Frame} {hub' : Hub}
    (answers : hub.pollTasks pick = some (id, key, item, hub')) :
    ∃ index, pick = some index ∧ hub.manager.tasks[index]? = some (id, key) := by
  unfold pollTasks at answers
  cases pick with
  | none => cases answers
  | some index =>
      refine ⟨index, rfl, ?_⟩
      simp only at answers
      split at answers
      · cases answers
      · rename_i other taskKey task
        split at answers
        · cases answers
        · simp only [Option.some.injEq, Prod.mk.injEq] at answers
          obtain ⟨rfl, rfl, -, -⟩ := answers
          exact task

/-- A poll that finds no system frame waits, or takes up the task that it picks. -/
theorem pollNext_picks {pick : Option Nat} {cx : Waker} {polled : Poll (Option Frame)} {hub' : Hub}
    (alive : hub.manager.goneAway = false) (noSystem : hub.manager.sysRx = [])
    (next : hub.pollNext pick cx = .ok (polled, hub')) :
    hub' = hub.storeWaker cx ∨ ∃ index id key item sink handle,
      pick = some index ∧ hub.manager.tasks[index]? = some (id, key) ∧
        Answer (hub.ends key).stream.fout.sink item sink ∧ hub.getStream id = some handle ∧
        ∃ other, ((hub.storeWaker cx).popTask other key sink).NextFrameSpec id key handle item
          (polled, hub') := by
  have noFrame : (hub.storeWaker cx).manager.sysRx = [] := noSystem
  simp only [pollNext, alive, Bool.false_eq_true, if_false, noFrame] at next
  have spec := (hub.storeWaker cx).pollTasks_spec pick
  cases answers : (hub.storeWaker cx).pollTasks pick with
  | none =>
      simp only [answers] at next
      exact Or.inl (Prod.mk.inj (Except.ok.inj next)).2.symm
  | some answer =>
      right
      obtain ⟨id, key, item, popped⟩ := answer
      obtain ⟨index, picked, task⟩ := pollTasks_pick answers
      rw [answers] at spec
      simp only [answers] at next
      cases spec with
      | answered other _ _ _ _ sink answer =>
          cases registered : ((hub.storeWaker cx).popTask other key sink).getStream id with
          | none => simp [nextFrame, registered] at next
          | some handle =>
              obtain ⟨outcome, is, spec⟩ := nextFrame_spec _ registered key item
              rw [is] at next
              obtain rfl := Except.ok.inj next
              exact ⟨index, id, key, item, sink, handle, picked, task, answer, registered, other,
                spec⟩

theorem unwritten_pollNext (law : (hub.ends key).Unwritten) (addressed : hub.Addressed)
    {pick : Option Nat} {cx : Waker} (fine : hub.writesFirst key (.pollNext pick cx)) :
    ((hub.step (.pollNext pick cx)).ends key).Unwritten := by
  have addressed' := addressed.step (.pollNext pick cx)
  simp only [Hub.step] at addressed' ⊢
  cases next : hub.pollNext pick cx with
  | error panic => exact law
  | ok outcome =>
      obtain ⟨polled, hub'⟩ := outcome
      simp only [next] at addressed' ⊢
      cases gone : hub.manager.goneAway with
      | true =>
          simp only [pollNext, gone, if_true] at next
          rw [← (Prod.mk.inj (Except.ok.inj next)).2]
          exact law
      | false =>
          cases queued : hub.manager.sysRx with
          | cons frame rest =>
              have waits : (hub.storeWaker cx).manager.sysRx = frame :: rest := queued
              simp only [pollNext, gone, Bool.false_eq_true, if_false, waits] at next
              rw [← (Prod.mk.inj (Except.ok.inj next)).2] at addressed' ⊢
              apply unwritten_of_manager law addressed addressed'
              · exact changes_nextSystemFrame ((hub.storeWaker cx).setSysRx rest) frame key
              · intro _ other member _
                rw [(SystemFrames.nextSystemFrame_eq _ frame).1, framesOf_append,
                  framesOf_other (by simp), List.append_nil] at member
                exact member
          | nil =>
              rcases pollNext_picks gone queued next with rfl | ⟨index, id, taskKey, item, sink,
                handle, picked, task, answer, registered, other, spec⟩
              · exact law
              · have open' := (addressed.task _ (List.mem_of_getElem? task)).2.2
                have changes := changes_next (hub.storeWaker cx) open' answer spec key
                apply unwritten_of_manager law addressed addressed' changes
                intro unwritten frame member isData
                rw [changes.manager_queue.1] at unwritten
                rw [(next_rest spec).2.2.2.2, framesOf_append] at member
                rcases List.mem_append.mp member with old | new
                · exact old
                exfalso
                by_cases own : taskKey = key
                · subst own
                  cases spec with
                  | removed _ _ _ => cases new
                  | ended _ => cases new
                  | fin needsFin =>
                      cases answer with
                      | drained queue closed =>
                          exact fine ⟨gone, queued, unwritten, queue, closed, index, id, handle,
                            picked, task, registered, needsFin⟩
                  | frame taken _ =>
                      cases answer with
                      | frame taken rest queue =>
                          have first : taken ∈ (hub.ends taskKey).outgoing := by
                            apply List.mem_append_right
                            rw [show (hub.ends taskKey).stream.fout.sink.queue = taken :: rest
                              from queue]
                            exact List.mem_cons_self
                          have noData := law unwritten taken first
                          rw [yielded, framesOf_own] at new
                          obtain rfl := List.mem_singleton.mp new
                          rw [show (taken.withStreamId id).isData = taken.isData from rfl,
                            noData] at isData
                          cases isData
                · have none : framesOf key (yielded taskKey polled) = [] := by
                    unfold yielded
                    split
                    · exact framesOf_other (by simpa using own) _
                    · rfl
                  rw [none] at new
                  cases new

theorem unwritten_other (law : (hub.ends key).Unwritten) (addressed : hub.Addressed) {op : HubOp}
    (notPoll : ∀ pick cx, op ≠ .pollNext pick cx)
    (changes : Changes .manager (hub.ends key) ((hub.step op).ends key)) :
    ((hub.step op).ends key).Unwritten := by
  apply unwritten_of_manager law addressed (addressed.step op) changes
  rw [(step_emitted notPoll).1]
  exact fun _ _ member _ => member

theorem unwritten_setEnd {other : StreamKey} {target : StreamEnd} (law : (hub.ends key).Unwritten)
    (used : other = key → target.Unwritten) : ((hub.setEnd other target).ends key).Unwritten := by
  rw [setEnd_ends]
  by_cases own : key = other
  · subst own
    rw [Function.update_self]
    exact used rfl
  · rw [Function.update_of_ne own]
    exact law

theorem unwritten_step (law : (hub.ends key).Unwritten) (addressed : hub.Addressed) {op : HubOp}
    (fine : hub.writesFirst key op) : ((hub.step op).ends key).Unwritten := by
  cases op with
  | pollNext pick cx => exact unwritten_pollNext law addressed fine
  | pollRead other cx remaining =>
      simp only [Hub.step, pollRead]
      split_ifs
      · cases read : (hub.ends other).stream.pollRead cx remaining with
        | error panic => exact law
        | ok outcome =>
            obtain ⟨polled, stream'⟩ := outcome
            simp only [bind, Except.bind, pure, Except.pure]
            apply unwritten_setEnd law
            rintro rfl
            obtain ⟨needsSyn, queue⟩ := Stream.readLoop_queue read
            exact law.of_queue (fun unwritten => needsSyn.symm.trans unwritten)
              (fun _ _ member _ => member) (fun _ => queue)
      · exact law
  | pollWrite other cx buf =>
      simp only [Hub.step, pollWrite]
      split_ifs
      · cases written : (hub.ends other).stream.pollWrite cx buf with
        | error panic => exact law
        | ok outcome =>
            obtain ⟨polled, stream'⟩ := outcome
            simp only [bind, Except.bind, pure, Except.pure]
            apply unwritten_setEnd law
            rintro rfl
            refine law.of_queue (fun unwritten => (Stream.pollWrite_sink written unwritten).1)
              (fun _ _ member _ => member) (fun unwritten frame member _ => ?_)
            rw [← (Stream.pollWrite_sink written unwritten).2]
            exact member
      · exact law
  | pollFlush other =>
      simp only [Hub.step, pollFlush]
      split_ifs
      · apply unwritten_setEnd law
        rintro rfl
        obtain ⟨needsSyn, sink⟩ := (hub.ends other).stream.pollFlush_sink
        refine law.of_queue (fun unwritten => needsSyn.symm.trans unwritten)
          (fun _ _ member _ => member) (fun _ frame member _ => ?_)
        rw [← sink]
        exact member
      · exact law
  | pollShutdown other =>
      simp only [Hub.step, pollShutdown]
      split_ifs with held
      · apply unwritten_setEnd law
        rintro rfl
        obtain ⟨needsSyn, sink⟩ := (hub.ends other).stream.pollShutdown_sink
        refine law.of_queue (fun unwritten => needsSyn.symm.trans unwritten)
          (fun _ _ member _ => member) (fun unwritten frame member _ => ?_)
        have idle : ¬ ((hub.ends other).stream.writeClosed = none ∧
            (hub.ends other).stream.fout.pollReady.1 = .ready (.ok ())) :=
          fun sends => fine ⟨rfl, held, needsSyn.symm.trans unwritten, sends.1, sends.2⟩
        rw [← sink idle]
        exact member
      · exact law
  | dropStream other =>
      simp only [Hub.step, dropStream]
      split_ifs
      · apply unwritten_setEnd law
        rintro rfl
        exact law
      · exact law
  | createStream remote window needsSyn =>
      cases opened : hub.createStream remote window needsSyn with
      | error error =>
          simp only [Hub.step, opened]
          exact law
      | ok result =>
          obtain ⟨newId, newKey, hub'⟩ := result
          obtain ⟨-, -, -, -, ends, -⟩ := createStream_eq_ok opened
          have after : (hub.step (.createStream remote window needsSyn)).ends = hub'.ends := by
            simp only [Hub.step, opened]
          by_cases new : key = newKey
          · subst new
            rw [after, ends, Function.update_self]
            exact fun _ _ member => by cases member
          · apply unwritten_other law addressed (by simp)
            rw [after, ends, Function.update_of_ne new]
            exact changes_removeStream hub newId key
  | sendToStream frame =>
      simp only [Hub.step, startSendToStream]
      split
      · rename_i started
        split at started
        · obtain rfl := Except.ok.inj started
          exact law
        · cases started
      · exact law
  | pollSendToStream =>
      apply unwritten_other law addressed (by simp)
      simp only [Hub.step]
      split
      · rename_i sending _
        exact changes_pollSendToStream (hub.pollSendToStream_spec sending) key
      · exact .refl
  | closeDataWrite id =>
      simp only [Hub.step, closeDataWrite]
      split <;> exact law
  | sysSend frame => exact law
  | goAway error => exact unwritten_other law addressed (by simp) (changes_goAway hub error key)
  | closeSenders => exact unwritten_other law addressed (by simp) (changes_closeSenders hub key)
  | dropManager =>
      exact unwritten_other law addressed (by simp) ((changes_closeSenders hub key).trans
        (changes_clearTasks
          { hub.closeSenders with manager := { hub.manager with streams := ∅ } } key))

theorem unwritten_of_reaches {streamLimit : Nat} {client : Bool}
    (reaches : Reaches Hub.step (writesFirst key) (Hub.new streamLimit client) hub) :
    (hub.ends key).Unwritten := by
  have both : hub.Addressed ∧ (hub.ends key).Unwritten := by
    refine reaches.invariant (fun hub => hub.Addressed ∧ (hub.ends key).Unwritten) ?_
      ⟨.new streamLimit client, fun unwritten => by cases unwritten⟩
    rintro hub op fine ⟨addressed, law⟩
    exact ⟨addressed.step op, unwritten_step law addressed fine⟩
  exact both.2

/-- A locally opened stream announces itself with its first data frame and never again,
and a stream of the remote never does. -/
structure Announces (hub : Hub) (key : StreamKey) : Prop where
  own : ∀ frame ∈ framesOf key hub.emitted, frame.header.streamId = (hub.ends key).id
  first : (hub.ends key).opener = true →
    ∀ frame, (framesOf key hub.emitted).find? Frame.isData = some frame → frame.isSyn = true
  once : (framesOf key hub.emitted).Pairwise fun earlier later =>
    earlier.isData = true → later.isSyn = false
  accepted : (hub.ends key).opener = false →
    ∀ frame ∈ framesOf key hub.emitted, frame.isSyn = false

/-- If neither a shutdown nor the manager ends the stream before it has written, then it
announces itself. -/
theorem announces_of_writesFirst {streamLimit : Nat} {client : Bool} {hub : Hub} {key : StreamKey}
    (reaches : Reaches Hub.step (writesFirst key) (Hub.new streamLimit client) hub) :
    hub.Announces key := by
  have addressed := Addressed.of_reaches reaches
  have law := ends_invariant Announced Announced.create Announced.change reaches key
  have unwritten := unwritten_of_reaches reaches
  have fewer : (hub.ends key).sent.Sublist (hub.ends key).outgoing := List.sublist_append_left _ _
  refine ⟨fun frame mem => (addressed.emitted key frame (mem_framesOf.1 mem)).2, ?_, ?_, ?_⟩
  · rw [← addressed.sent key]
    intro opener frame found
    have isData := List.find?_some found
    cases needsSyn : (hub.ends key).stream.needsSyn with
    | true =>
        have noData := unwritten needsSyn frame (fewer.mem (List.mem_of_find?_eq_some found))
        rw [isData] at noData
        cases noData
    | false =>
        apply law.first opener needsSyn
        rw [StreamEnd.outgoing, List.find?_append, found, Option.some_or]
  · rw [← addressed.sent key]
    refine (law.history.synFirst.sublist fewer).imp fun first isData => ?_
    by_contra isSyn
    have notData := (first (by simpa using isSyn)).1
    rw [isData] at notData
    cases notData
  · rw [← addressed.sent key]
    exact fun opener frame member => law.history.synless (Or.inl opener) frame (fewer.mem member)

/-- A stream that writes before it is shut down. -/
theorem announces_of_writesFirst_written :
    (run Hub.step (Hub.new 4 true)
      [.createStream none 4 true, .pollWrite 0 7 [1, 2, 3], .pollShutdown 0,
        .pollNext (some 0) 0, .pollNext (some 0) 0]).Announces 0 :=
  announces_of_writesFirst (reaches_run ⟨fun never => never, fun never => never,
    fun ends => absurd ends.2.2.1 (by decide), fun ends => absurd ends.2.2.1 (by decide),
    fun ends => absurd ends.2.2.1 (by decide), trivial⟩)

/-- A stream that is shut down, or dropped, before it has written: the final frame is all
that the remote gets to see of it, and has no SYN. -/
theorem not_announces_unwritten :
    ¬ (run Hub.step (Hub.new 4 true)
        [.createStream none 4 true, .pollShutdown 0, .pollNext (some 0) 0]).Announces 0 ∧
      ¬ (run Hub.step (Hub.new 4 true)
        [.createStream none 4 true, .dropStream 0, .pollNext (some 0) 0]).Announces 0 := by
  constructor
  · intro announces
    exact absurd (announces.first (by decide) _ rfl) (by decide)
  · intro announces
    exact absurd (announces.first (by decide) _ rfl) (by decide)

end Hub

end Muxado

end NgrokRust
