import NgrokRust.MuxadoFraming
import NgrokRust.MuxadoRouting

/-!
# Progress of writes

`poll_write` of a stream without credit takes in frames until a window increment is among
them or the channel is closed, and then sends what fits into the window.  A caller relies
on a count of zero for nothing but an empty buffer, so it matters when the wait ends
without any credit.
-/

namespace NgrokRust

namespace Muxado

open LabelledRuns

def firstIncrement : List Frame → Option WndInc
  | [] => none
  | frame :: rest =>
      match frame.body with
      | .wndInc increment => some increment
      | _ => firstIncrement rest

namespace Stream

/-- What `poll_write` does before it sends: it waits for an increment if there is no
credit. -/
def awaitCapacity (stream : Stream) (cx : Waker) : Except Panic (Poll Unit × Stream) :=
  if stream.window.capacity = 0 then { stream with writeWaker := some cx }.pollRecvWndinc cx
  else .ok (.ready (), stream)

/-- A write that returns a count has sent that many bytes in one frame and taken as much
credit, and one that returns anything else has sent nothing and taken nothing. -/
def MakesProgress (stream : Stream) (cx : Waker) (buf : List UInt8) : Prop :=
  ∃ polled after, stream.pollWrite cx buf = .ok (polled, after) ∧
    match polled with
    | .ready (.ok count) =>
        1 ≤ count ∧ count ≤ buf.length ∧
          (∃ frame, after.fout.sink.queue = stream.fout.sink.queue ++ [frame] ∧
            frame.header.typ = .data ∧ frame.body = .data (buf.take count)) ∧
          ∃ ready, stream.awaitCapacity cx = .ok (.ready (), ready) ∧
            count ≤ ready.window.capacity ∧
            after.window.capacity = ready.window.capacity - count
    | _ => after.fout.sink.queue = stream.fout.sink.queue ∧
        stream.window.capacity ≤ after.window.capacity

def Starved (stream : Stream) : Prop :=
  stream.window.capacity = 0 ∧ firstIncrement stream.fin.queue = none ∧
    stream.fin.isOpen = true

/-- The wait for credit ends without any: with an increment that adds nothing, or because
the channel is closed. -/
def Uncredited (stream : Stream) : Prop :=
  stream.window.capacity = 0 ∧
    match firstIncrement stream.fin.queue with
    | some increment => increment.val = 0 ∨ stream.window.maxSize = 0
    | none => stream.fin.isOpen = false

/-- The sink takes a frame, and nothing can go into it: there is no credit, or the length
of the buffer is zero in 32 bits. -/
def Stalls (stream : Stream) (buf : List UInt8) : Prop :=
  stream.writeClosed = none ∧ stream.fout.pollReady.1 = .ready (.ok ()) ∧
    (stream.Uncredited ∨ buf.length % 2 ^ 32 = 0 ∧ ¬ stream.Starved)

variable {stream : Stream} {cx : Waker} {buf : List UInt8}

theorem pollWrite_of_writable (writable : stream.writeClosed = none) :
    stream.pollWrite cx buf = do
      let (polled, ready) ← stream.awaitCapacity cx
      match polled with
      | .pending => return (.pending, ready)
      | .ready () => return ready.writeFrame buf := by
  unfold pollWrite
  split
  · rename_i code closed
    rw [writable] at closed
    cases closed
  · by_cases empty : stream.window.capacity = 0
    · have awaited : stream.awaitCapacity cx =
          { stream with writeWaker := some cx }.pollRecvWndinc cx := if_pos empty
      rw [awaited]
      exact if_pos empty
    · have awaited : stream.awaitCapacity cx = .ok (.ready (), stream) := if_neg empty
      rw [awaited]
      exact if_neg empty

/-- The wait takes in frames up to the first increment, and leaves the sink alone. -/
theorem recvFrames_wndInc (cx : Waker) {frames : List Frame} (queue : stream.fin.queue = frames)
    (kinds : ∀ frame ∈ frames, frame.Deliverable ∧ frame.header.typ = frame.body.headerType) :
    ∃ polled after, recvFrames cx .wndInc frames stream = .ok (polled, after) ∧
      (polled = .pending ↔ firstIncrement frames = none ∧ stream.fin.isOpen = true) ∧
      after.window = match firstIncrement frames with
        | some increment => stream.window.inc increment.val
        | none => stream.window := by
  induction frames generalizing stream with
  | nil =>
      unfold recvFrames pollRecvFrame
      cases isOpen : stream.fin.isOpen with
      | true =>
          rw [Channel.pollNext_of_waiting queue isOpen]
          exact ⟨_, _, rfl, by simp [firstIncrement], rfl⟩
      | false =>
          rw [Channel.pollNext_of_drained queue isOpen]
          exact ⟨_, _, rfl, by simp, rfl⟩
  | cons frame rest ih =>
      obtain ⟨kind, typ⟩ := kinds frame List.mem_cons_self
      obtain ⟨⟨frameTyp, taken⟩, handled⟩ := exists_handleFrame kind
        { stream with fin := { stream.fin with queue := rest } } (some cx)
      obtain ⟨rfl, -, readWaker, writeWaker, wakes, takenEq⟩ := handleFrame_eq_ok handled
      unfold recvFrames
      simp only [handled, bind, Except.bind]
      obtain ⟨bytes, body⟩ | ⟨increment, body⟩ := kind
      · rw [body] at typ
        have other : ¬ frame.header.typ = .wndInc := by rw [typ]; simp [Body.headerType]
        rw [if_neg other]
        obtain ⟨polled, after, received, waits, window⟩ :=
          ih (show taken.fin.queue = rest by rw [takenEq]; rfl)
            fun later member => kinds later (List.mem_cons_of_mem frame member)
        have uncredited : taken.window = stream.window := by
          rw [takenEq]
          simp [ingest, Frame.credit, Body.credit, body, Window.inc]
        have isOpen : taken.fin.isOpen = stream.fin.isOpen := by rw [takenEq]; rfl
        refine ⟨polled, after, received, ?_, ?_⟩
        · simp only [firstIncrement, body, waits, isOpen]
        · simp only [firstIncrement, body, window, uncredited]
      · rw [body] at typ
        have target : frame.header.typ = .wndInc := by rw [typ]; rfl
        rw [if_pos target]
        refine ⟨_, _, rfl, by simp [firstIncrement, body], ?_⟩
        rw [takenEq]
        simp [ingest, firstIncrement, Frame.credit, Body.credit, body]

/-- The wait for credit as a whole. -/
theorem awaitCapacity_spec (stream : Stream) (cx : Waker)
    (kinds : ∀ frame ∈ stream.fin.queue,
      frame.Deliverable ∧ frame.header.typ = frame.body.headerType) :
    ∃ polled ready, stream.awaitCapacity cx = .ok (polled, ready) ∧
      ready.fout = stream.fout ∧ stream.window.capacity ≤ ready.window.capacity ∧
      (polled = .pending ↔ stream.Starved) ∧
      (polled = .ready () → (ready.window.capacity = 0 ↔ stream.Uncredited)) := by
  by_cases empty : stream.window.capacity = 0
  · obtain ⟨polled, ready, received, waits, window⟩ :=
      recvFrames_wndInc cx
        (show ({ stream with writeWaker := some cx } : Stream).fin.queue = _ from rfl) kinds
    obtain ⟨-, fout, -⟩ := StreamEnd.recvFrames_writeClosed received
    refine ⟨polled, ready, ?_, fout, by rw [empty]; exact Nat.zero_le _, ?_, ?_⟩
    · simp only [awaitCapacity, if_pos empty, pollRecvWndinc, pollRecvFrameType]
      exact received
    · rw [waits]
      exact ⟨fun starved => ⟨empty, starved⟩, fun starved => starved.2⟩
    · intro answered
      have notStarved : ¬ (firstIncrement stream.fin.queue = none ∧ stream.fin.isOpen = true) := by
        intro starved
        rw [waits.2 starved] at answered
        cases answered
      simp only [Window.capacity] at empty ⊢
      simp only [Uncredited, Window.capacity, empty, true_and]
      cases first : firstIncrement stream.fin.queue with
      | none =>
          simp only [first] at window notStarved ⊢
          rw [window]
          simpa [empty] using notStarved
      | some increment =>
          simp only [first] at window ⊢
          rw [window, Window.inc_size, empty]
          omega
  · refine ⟨.ready (), stream, by simp only [awaitCapacity, if_neg empty], rfl, le_rfl, ?_, ?_⟩
    · exact ⟨(fun waits => by cases waits), fun starved => absurd starved.1 empty⟩
    · exact fun _ => ⟨fun none => absurd none empty, fun uncredited => absurd uncredited.1 empty⟩

/-- A sink that takes no frame is left as it is, and otherwise the frame goes onto it. -/
theorem writeFrame_spec (stream : Stream) (buf : List UInt8) :
    let count := min stream.window.capacity (min (buf.length % 2 ^ 32) lengthMax)
    let write := stream.writeFrame buf
    (stream.fout.pollReady.1 = .ready (.ok ()) ∧ write.1 = .ready (.ok count) ∧
        write.2.window.capacity = stream.window.capacity - count ∧
        ∃ frame, write.2.fout.sink.queue = stream.fout.sink.queue ++ [frame] ∧
          frame.header.typ = .data ∧ frame.body = .data (buf.take count)) ∨
      (stream.fout.pollReady.1 ≠ .ready (.ok ()) ∧ (∀ count, write.1 ≠ .ready (.ok count)) ∧
        write.2.window = stream.window ∧ write.2.fout.sink.queue = stream.fout.sink.queue) := by
  intro count write
  have spec := stream.fout.pollReady_spec
  generalize polled : stream.fout.pollReady = outcome at spec
  cases spec with
  | closed error closed =>
      right
      simp [write, writeFrame, polled, closedErr]
  | waiting code isOpen full =>
      right
      simp [write, writeFrame, polled]
  | ready code room =>
      left
      have count_eq : count = min stream.window.capacity
          (Constrained.clamp (asU32 buf.length) : Length).val := by
        rw [Constrained.clamp_val]
        rfl
      have fits : (buf.take count).length ≤ lengthMax := by
        rw [List.length_take]
        omega
      have body : (Frame.ofBody (.data (buf.take count))).body = .data (buf.take count) := by
        rw [ofBody_data, List.take_of_length_le fits]
      have sent := StreamSender.startSend_of_room code room
      simp only [write, writeFrame, polled, ← count_eq, sent]
      refine ⟨trivial, trivial, ?_, _, rfl, ?_, ?_⟩
      · exact Window.dec_size _ _
      · split <;> rfl
      · split <;> exact body
  | disconnected code closed =>
      right
      simp [write, writeFrame, polled, closedErr, StreamSender.sessionClosed]

theorem Starved.not_uncredited (starved : stream.Starved) : ¬ stream.Uncredited := by
  obtain ⟨-, first, isOpen⟩ := starved
  rintro ⟨-, none⟩
  rw [first] at none
  rw [isOpen] at none
  cases none

/-- A write makes progress unless it stalls. -/
theorem makesProgress_iff_of_kinds (kinds : ∀ frame ∈ stream.fin.queue,
      frame.Deliverable ∧ frame.header.typ = frame.body.headerType) :
    stream.MakesProgress cx buf ↔ ¬ stream.Stalls buf := by
  cases closed : stream.writeClosed with
  | some code =>
      have failed : stream.pollWrite cx buf =
          .ok (.ready (.error ⟨.brokenPipe, code⟩), stream) := by
        simp only [pollWrite, closed]
      refine iff_of_true ⟨_, _, failed, rfl, le_rfl⟩ ?_
      rintro ⟨writable, -⟩
      rw [closed] at writable
      cases writable
  | none =>
      obtain ⟨polled, ready, awaited, fout, grown, starved, uncredited⟩ :=
        stream.awaitCapacity_spec cx kinds
      cases polled with
      | pending =>
          have waits : stream.pollWrite cx buf = .ok (.pending, ready) := by
            rw [pollWrite_of_writable closed, awaited]
            rfl
          have isStarved := starved.1 rfl
          refine iff_of_true ⟨_, _, waits, by rw [fout], grown⟩ ?_
          rintro ⟨-, -, none | ⟨-, notStarved⟩⟩
          · exact isStarved.not_uncredited none
          · exact notStarved isStarved
      | ready =>
          have goesOn : stream.pollWrite cx buf = .ok (ready.writeFrame buf) := by
            rw [pollWrite_of_writable closed, awaited]
            rfl
          have notStarved : ¬ stream.Starved := fun waits => by cases starved.2 waits
          have spec := ready.writeFrame_spec buf
          generalize ready.writeFrame buf = write at goesOn spec
          obtain ⟨answer, after⟩ := write
          rcases spec with
            ⟨sinkReady, answered, window, sent⟩ | ⟨refused, unanswered, window, unsent⟩
          · rw [fout] at sinkReady sent
            generalize countEq :
              min ready.window.capacity (min (buf.length % 2 ^ 32) lengthMax) = count
              at answered window sent
            have stalls : stream.Stalls buf ↔ count = 0 := by
              constructor
              · rintro ⟨-, -, none | ⟨zero, -⟩⟩
                · have empty := (uncredited rfl).2 none
                  omega
                · omega
              · intro none
                refine ⟨closed, sinkReady, ?_⟩
                by_cases empty : ready.window.capacity = 0
                · exact .inl ((uncredited rfl).1 empty)
                · refine .inr ⟨?_, notStarved⟩
                  simp only [lengthMax] at countEq
                  omega
            rw [stalls]
            constructor
            · rintro ⟨polled, other, written, progress⟩ none
              rw [goesOn] at written
              cases written
              simp only at answered
              rw [answered] at progress
              exact absurd progress.1 (by omega)
            · intro some
              refine ⟨_, _, goesOn, ?_⟩
              simp only at answered
              rw [answered]
              refine ⟨Nat.one_le_iff_ne_zero.2 some, ?_, sent, ready, awaited, ?_, window⟩
              · have wraps := Nat.mod_le buf.length (2 ^ 32)
                omega
              · omega
          · rw [fout] at refused unsent
            refine iff_of_true ⟨_, _, goesOn, ?_⟩ fun stalls => refused stalls.2.1
            split
            · exact absurd rfl (unanswered _)
            · exact ⟨unsent, by rw [window]; exact grown⟩

end Stream

namespace Session

/-- For every stream of every run and every buffer: a write makes progress unless it
stalls. -/
theorem makesProgress_iff (window acceptQueueSize streamLimit : Nat) (client : Bool)
    (ops : List SessionOp) (key : StreamKey) (cx : Waker) (buf : List UInt8) :
    let session := run Session.step (Session.new window acceptQueueSize streamLimit client) ops
    (session.hub.ends key).stream.MakesProgress cx buf ↔
      ¬ (session.hub.ends key).stream.Stalls buf := by
  intro session
  have carries : session.Carries := carries_run window acceptQueueSize streamLimit client ops
  exact Stream.makesProgress_iff_of_kinds (carries.queued key)

/-- A stream that has used its window of one byte, and an increment of zero on the way to
it. -/
def uncreditedStream : List SessionOp :=
  [.open, .serveOpen, .stream 0 (.pollWrite 0 [7]),
    .recv (encodeBytes ((Frame.ofBody (.wndInc (Constrained.clamp 0))).withStreamId
      (Constrained.clamp 3))),
    .readFrame, .readerStep, .readerStep]

/-- The write takes the increment for credit and returns a count of zero. -/
theorem not_makesProgress_uncredited :
    ¬ ((run Session.step (Session.new 1 1 1 true) uncreditedStream).hub.ends 0).stream.MakesProgress
      0 [8] := by
  rintro ⟨polled, after, written, progress⟩
  have zero : ∃ after, ((run Session.step (Session.new 1 1 1 true)
      uncreditedStream).hub.ends 0).stream.pollWrite 0 [8] = .ok (.ready (.ok 0), after) :=
    ⟨_, rfl⟩
  obtain ⟨after', same⟩ := zero
  rw [same] at written
  cases written
  exact absurd progress.1 (by decide)

end Session

end Muxado

end NgrokRust
