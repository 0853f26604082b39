import NgrokRust.LabelledRuns
import NgrokRust.MuxadoStreamSteps

/-!
# Wakeups between the two halves of a stream

Both halves of a stream take frames from one channel, which remembers a single waker, so
each half passes on what it takes in for the other: `handle_frame` wakes the waker that
the other half has left.  The machine below runs the poll functions of a stream in any
order and with any wakers, between arrivals and the closing of the channel, and keeps
account of what a parked half is owed.  A wakeup is lost when the half that polls uses
the waker of the parked one, when it learns of the end from the channel itself or from a
final frame without data, and when the parked read has left no waker because it waits to
send an increment.
-/

namespace NgrokRust

namespace Muxado

open LabelledRuns

inductive Half where
  | read
  | write
deriving DecidableEq, Repr

namespace Half

def awaits : Half → HeaderType
  | read => .data
  | write => .wndInc

def waker : Half → Stream → Option Waker
  | read, stream => stream.readWaker
  | write, stream => stream.writeWaker

end Half

/-- What a poll takes from the channel: frames, and possibly the news that it is closed. -/
structure Intake where
  frames : List Frame
  closed : Bool
deriving DecidableEq, Repr

namespace Intake

def none : Intake := ⟨[], false⟩

def append (first second : Intake) : Intake :=
  ⟨first.frames ++ second.frames, first.closed || second.closed⟩

def meets (intake : Intake) (half : Half) : Bool :=
  intake.closed || intake.frames.any fun frame =>
    frame.header.typ == half.awaits || half == .read && frame.isFin

end Intake

namespace Stream

/-- The frames that `poll_recv_frame_type` takes: up to the first of the target type. -/
def recvTaken (targetTyp : HeaderType) : List Frame → List Frame
  | [] => []
  | frame :: rest =>
      if frame.header.typ = targetTyp then [frame] else frame :: recvTaken targetTyp rest

def recvIntake (stream : Stream) (targetTyp : HeaderType) : Intake where
  frames := recvTaken targetTyp stream.fin.queue
  closed := !stream.fin.isOpen && stream.fin.queue.all fun frame => frame.header.typ != targetTyp

/-- What the loop of `poll_read` takes in. -/
def readIntake (cx : Waker) : Nat → Stream → Intake
  | rounds, stream =>
      if !stream.readBuf.isEmpty || stream.dataReadClosed then .none
      else
        match rounds with
        | 0 => .none
        | rounds + 1 =>
            match { stream with readWaker := some cx }.pollRecvData cx with
            | .ok (.ready (), taken) => (stream.recvIntake .data).append (readIntake cx rounds taken)
            | _ => stream.recvIntake .data

/-- What `poll_write` takes in. -/
def writeIntake (stream : Stream) : Intake :=
  if stream.writeClosed = none ∧ stream.window.capacity = 0 then stream.recvIntake .wndInc
  else .none

/-- `poll_write` waits for window. -/
def lacksWindow (stream : Stream) (cx : Waker) : Bool :=
  match stream.writeClosed, { stream with writeWaker := some cx }.pollRecvWndinc cx with
  | none, .ok (.pending, _) => stream.window.capacity == 0
  | _, _ => false

end Stream

/-- A half of a stream whose latest poll returned `Pending`, with the number of wakes up
to then and whether the other half has since taken in what this one waits for. -/
structure Parked where
  waker : Waker
  since : Nat
  event : Bool
deriving DecidableEq, Repr

/-- A stream with its parked halves. -/
structure Watched where
  stream : Stream
  parked : Half → Option Parked

/-- What happens to a stream that is held by the application. The manager puts frames on
its channel, closes it, and changes the sink in any way. -/
inductive HalfOp where
  | pollRead (cx : Waker) (remaining : Nat)
  | pollWrite (cx : Waker) (buf : List UInt8)
  | pollFlush
  | pollShutdown
  | arrive (frame : Frame) (typed : frame.header.typ = frame.body.headerType)
  | closeChannel
  | changeSink (fout : StreamSender)

namespace Watched

/-- A stream as `OpenReq::create` makes it. -/
def new (window : Nat) (needsSyn : Bool) : Watched where
  stream := Stream.new (StreamSender.wrap (Channel.new window)) (Channel.new window) window needsSyn
  parked := fun _ => none

/-- One half has been polled: it is parked or not, and the other one is owed a wakeup for
what the poll has taken in. -/
def polled (watched : Watched) (half : Half) (intake : Intake) (stream : Stream)
    (parks : Option Waker) : Watched where
  stream := stream
  parked := fun other =>
    if other = half then parks.map fun waker => ⟨waker, stream.wakes.length, false⟩
    else (watched.parked other).map fun parked =>
      { parked with event := parked.event || intake.meets other }

/-- One operation. An arrival at a closed channel changes nothing. -/
def step (watched : Watched) : HalfOp → Watched
  | .pollRead cx remaining =>
      match watched.stream.pollRead cx remaining with
      | .error _ => watched
      | .ok (result, stream) =>
          watched.polled .read
            (watched.stream.readIntake cx (watched.stream.fin.queue.length + 1)) stream
            (match result with
              | .pending => some cx
              | .ready _ => none)
  | .pollWrite cx buf =>
      match watched.stream.pollWrite cx buf with
      | .error _ => watched
      | .ok (_, stream) =>
          watched.polled .write watched.stream.writeIntake stream
            (if watched.stream.lacksWindow cx then some cx else none)
  | .pollFlush => { watched with stream := watched.stream.pollFlush.2 }
  | .pollShutdown => { watched with stream := watched.stream.pollShutdown.2 }
  | .arrive frame _ =>
      if watched.stream.fin.isOpen then
        { watched with
          stream := { watched.stream with
            fin := watched.stream.fin.push frame
            wakes := watched.stream.wakes ++ watched.stream.fin.recvTask.toList } }
      else watched
  | .closeChannel =>
      { watched with
        stream := { watched.stream with
          fin := watched.stream.fin.close
          wakes := watched.stream.wakes ++ watched.stream.fin.recvTask.toList } }
  | .changeSink fout => { watched with stream := { watched.stream with fout := fout } }

/-- What the manager does to a stream end is an operation of this machine. -/
theorem step_of_manager {before after : StreamEnd} (change : StreamEnd.Change .manager before after)
    (typed : ∀ frame ∈ after.recvd, frame.header.typ = frame.body.headerType)
    (parked : Half → Option Parked) :
    ∃ op, step ⟨before.stream, parked⟩ op = ⟨after.stream, parked⟩ := by
  cases change with
  | receive frame kind isOpen =>
      refine ⟨.arrive frame (typed frame (by simp [StreamEnd.receive])), ?_⟩
      simp only [step, isOpen, if_true]
      rfl
  | closeFin => exact ⟨.closeChannel, rfl⟩
  | closeWith error => exact ⟨.changeSink (before.closeWith error).stream.fout, rfl⟩
  | emit frame rest id queue =>
      exact ⟨.changeSink { before.stream.fout with
        sink := { before.stream.fout.sink with queue := rest } }, rfl⟩
  | emitFin id alive queue closed =>
      exact ⟨.changeSink { before.stream.fout with
        sink := before.stream.fout.sink.dropReceiver }, rfl⟩
  | dropReceiver => exact ⟨.changeSink before.dropReceiver.stream.fout, rfl⟩

def Woken (watched : Watched) (parked : Parked) : Prop :=
  parked.waker ∈ watched.stream.wakes.drop parked.since

/-- A half that is parked while the other one takes in what it waits for is woken. -/
def NoLostWakeup (watched : Watched) : Prop :=
  ∀ half parked, watched.parked half = some parked → parked.event = true → watched.Woken parked

/-- A poll by the other half that takes in what a parked half waits for takes in a frame
of its type as well, uses another waker, and finds no bytes for a parked read. -/
def Passes (watched : Watched) (half : Half) (cx : Waker) (intake : Intake) : Prop :=
  ∀ parked, watched.parked half = some parked → ¬ watched.Woken parked →
    intake.meets half = true →
      parked.waker ≠ cx ∧ (∃ frame ∈ intake.frames, frame.header.typ = half.awaits) ∧
        (half = .read → watched.stream.readBuf = [])

/-- The guard of runs in which polls pass on what they take in. -/
def passesOn (watched : Watched) : HalfOp → Prop
  | .pollRead cx _ =>
      watched.Passes .write cx
        (watched.stream.readIntake cx (watched.stream.fin.queue.length + 1))
  | .pollWrite cx _ => watched.Passes .read cx watched.stream.writeIntake
  | _ => True

end Watched

/-- A poll with a waker has taken in some frames: unless there was one of the type that a
half waits for, it has left the half's waker, and otherwise called it. -/
structure Relays (half : Half) (cx : Waker) (frames : List Frame) (before after : Stream) :
    Prop where
  wakes : before.wakes <+: after.wakes
  keeps : (∀ frame ∈ frames, frame.header.typ ≠ half.awaits) →
    half.waker after = half.waker before
  calls : (∃ frame ∈ frames, frame.header.typ = half.awaits) → ∀ waker,
    half.waker before = some waker → waker ≠ cx →
      waker ∈ after.wakes.drop before.wakes.length

namespace Relays

variable {half : Half} {cx : Waker} {frames : List Frame} {before after : Stream}

theorem of_same (wakes : after.wakes = before.wakes)
    (waker : half.waker after = half.waker before) : Relays half cx [] before after where
  wakes := by rw [wakes]
  keeps := fun _ => waker
  calls := by simp

theorem trans {middle : Stream} {later : List Frame} (first : Relays half cx frames before middle)
    (second : Relays half cx later middle after) :
    Relays half cx (frames ++ later) before after where
  wakes := first.wakes.trans second.wakes
  keeps := by
    intro others
    rw [second.keeps fun frame member => others frame (List.mem_append_right _ member),
      first.keeps fun frame member => others frame (List.mem_append_left _ member)]
  calls := by
    rintro ⟨frame, member, awaited⟩ waker left other
    by_cases early : ∃ frame ∈ frames, frame.header.typ = half.awaits
    · have called := first.calls early waker left other
      exact (second.wakes.drop _).mem called
    · have kept : half.waker middle = some waker := by
        rw [first.keeps fun frame member awaited => early ⟨frame, member, awaited⟩]
        exact left
      have late : frame ∈ later :=
        (List.mem_append.mp member).resolve_left fun member => early ⟨frame, member, awaited⟩
      have called := second.calls ⟨frame, late, awaited⟩ waker kept other
      exact (List.drop_sublist_drop_left _ first.wakes.length_le).mem called

end Relays

namespace Stream

variable {stream stream' : Stream} {cx : Waker} {half : Half}

/-- `handle_frame` wakes the half that waits for frames of the type, unless it has left
the waker of the poll itself. -/
theorem handleFrame_relays {frame : Frame} {rest : List Frame} {typ : HeaderType}
    (typed : frame.header.typ = frame.body.headerType)
    (handled : { stream with fin := { stream.fin with queue := rest } }.handleFrame frame
      (some cx) = .ok (typ, stream')) (half : Half) : Relays half cx [frame] stream stream' := by
  have called (left : Option Waker) (waker : Waker) (is : left = some waker) (other : waker ≠ cx) :
      waker ∈ (stream.wakes ++ maybeWake (some cx) left).drop stream.wakes.length := by
    subst is
    simp [maybeWake, other]
  unfold handleFrame at handled
  cases body : frame.body with
  | data bytes =>
      have isData : frame.header.typ = .data := by rw [typed, body]; rfl
      simp only [body, Except.ok.injEq, Prod.mk.injEq] at handled
      obtain ⟨-, rfl⟩ := handled
      cases half with
      | read =>
          refine ⟨?_, fun others => ?_, fun _ waker left other => ?_⟩
          · split <;> exact List.prefix_append _ _
          · exact absurd isData (others frame (by simp))
          · have is := called stream.readWaker waker left other
            split <;> exact is
      | write =>
          refine ⟨?_, fun _ => ?_, ?_⟩
          · split <;> exact List.prefix_append _ _
          · split <;> rfl
          · rintro ⟨other, member, awaited⟩
            obtain rfl := List.mem_singleton.mp member
            rw [isData] at awaited
            cases awaited
  | wndInc by' =>
      have isWndInc : frame.header.typ = .wndInc := by rw [typed, body]; rfl
      simp only [body, Except.ok.injEq, Prod.mk.injEq] at handled
      obtain ⟨-, rfl⟩ := handled
      cases half with
      | write =>
          refine ⟨?_, fun others => ?_, fun _ waker left other => ?_⟩
          · split <;> exact List.prefix_append _ _
          · exact absurd isWndInc (others frame (by simp))
          · have is := called stream.writeWaker waker left other
            split <;> exact is
      | read =>
          refine ⟨?_, fun _ => ?_, ?_⟩
          · split <;> exact List.prefix_append _ _
          · split <;> rfl
          · rintro ⟨other, member, awaited⟩
            obtain rfl := List.mem_singleton.mp member
            rw [isWndInc] at awaited
            cases awaited
  | rst error => simp [body] at handled
  | goAway lastStreamId error message => simp [body] at handled
  | invalid error bytes => simp [body] at handled

/-- What a poll for frames of a type makes of the frames in the channel. -/
structure Received (cx : Waker) (typ : HeaderType) (frames : List Frame) (stream : Stream)
    (polled : Poll Unit) (stream' : Stream) : Prop where
  relays : ∀ half, Relays half cx (recvTaken typ frames) stream stream'
  queue : frames = recvTaken typ frames ++ stream'.fin.queue
  readBuf : stream.readBuf <+: stream'.readBuf
  waits : polled = .pending → ∀ frame ∈ recvTaken typ frames, frame.header.typ ≠ typ
  progress : polled = .ready () →
    stream'.dataReadClosed = true ∨ stream'.fin.queue.length < frames.length

theorem recvFrames_received {typ : HeaderType} {frames : List Frame} {polled : Poll Unit}
    (typed : ∀ frame ∈ frames, frame.header.typ = frame.body.headerType)
    (queue : stream.fin.queue = frames)
    (received : recvFrames cx typ frames stream = .ok (polled, stream')) :
    Received cx typ frames stream polled stream' := by
  induction frames generalizing stream with
  | nil =>
      unfold recvFrames pollRecvFrame at received
      cases isOpen : stream.fin.isOpen with
      | true =>
          rw [Channel.pollNext_of_waiting queue isOpen] at received
          obtain ⟨rfl, rfl⟩ := Prod.mk.inj (Except.ok.inj received)
          refine ⟨fun half => .of_same rfl ?_, queue.symm, List.prefix_rfl, by simp [recvTaken],
            fun ready => by cases ready⟩
          cases half <;> rfl
      | false =>
          rw [Channel.pollNext_of_drained queue isOpen] at received
          obtain ⟨rfl, rfl⟩ := Prod.mk.inj (Except.ok.inj received)
          refine ⟨fun half => .of_same rfl ?_, queue.symm, List.prefix_rfl, by simp [recvTaken],
            fun _ => Or.inl rfl⟩
          cases half <;> rfl
  | cons frame rest ih =>
      unfold recvFrames at received
      cases handled : ({ stream with
          fin := { stream.fin with queue := rest } }.handleFrame frame (some cx)) with
      | error panic => simp [handled, bind, Except.bind] at received
      | ok outcome =>
          obtain ⟨frameTyp, taken⟩ := outcome
          obtain ⟨rfl, -, readWaker, writeWaker, wakes, takenEq⟩ := handleFrame_eq_ok handled
          have takenQueue : taken.fin.queue = rest := by rw [takenEq]; rfl
          have takenBuf : stream.readBuf <+: taken.readBuf := by
            rw [takenEq]
            exact List.prefix_append _ _
          have first := handleFrame_relays (typed frame (by simp)) handled
          simp only [handled, bind, Except.bind] at received
          split at received
          · rename_i target
            obtain ⟨rfl, rfl⟩ := Prod.mk.inj (Except.ok.inj received)
            have takes : recvTaken typ (frame :: rest) = [frame] := by simp [recvTaken, target]
            refine ⟨?_, ?_, takenBuf, (fun waits => by cases waits), fun _ => ?_⟩
            · rw [takes]
              exact first
            · rw [takes, takenQueue]
              rfl
            · right
              rw [takenQueue]
              exact Nat.lt_succ_self _
          · rename_i other
            have takes : recvTaken typ (frame :: rest) = frame :: recvTaken typ rest := by
              simp [recvTaken, other]
            have later := ih (fun frame member => typed frame (List.mem_cons_of_mem _ member))
              takenQueue received
            refine ⟨fun half => ?_, ?_, takenBuf.trans later.readBuf, fun waits => ?_,
              fun ready => ?_⟩
            · rw [takes]
              exact (first half).trans (later.relays half)
            · rw [takes, List.cons_append, ← later.queue]
            · rw [takes, List.forall_mem_cons]
              exact ⟨other, later.waits waits⟩
            · exact (later.progress ready).imp_right fun shorter => shorter.trans (Nat.lt_succ_self _)

theorem readBuffered_wakers (stream : Stream) (remaining : Nat) :
    (stream.readBuffered remaining).2.wakes = stream.wakes ∧
      (∀ half : Half, half.waker (stream.readBuffered remaining).2 = half.waker stream) ∧
      (stream.readBuffered remaining).2.fin = stream.fin := by
  unfold readBuffered pollSendWndinc
  split
  · exact ⟨rfl, fun _ => rfl, rfl⟩
  · simp only
    split
    · generalize stream.fout.pollReady = outcome
      obtain ⟨result, fout⟩ := outcome
      match result with
      | .pending => exact ⟨rfl, fun half => by cases half <;> rfl, rfl⟩
      | .ready (.ok ()) => exact ⟨rfl, fun half => by cases half <;> rfl, rfl⟩
      | .ready (.error _) => exact ⟨rfl, fun half => by cases half <;> rfl, rfl⟩
    · exact ⟨rfl, fun _ => rfl, rfl⟩

/-- A read with bytes in its buffer keeps them while it waits to send the increment. -/
theorem readBuffered_pending {remaining : Nat}
    (waits : stream.readBuffered remaining = (.pending, stream')) : stream'.readBuf ≠ [] := by
  unfold readBuffered at waits
  split at waits
  · cases waits
  · rename_i nonempty
    simp only at waits
    split at waits
    · have kept := stream.pollSendWndinc_readBuf
        (Constrained.clamp (asU32 (min stream.readBuf.length remaining)))
      split at waits
      · rename_i sent
        obtain ⟨-, rfl⟩ := Prod.mk.inj waits
        rw [sent] at kept
        intro empty
        apply nonempty
        rw [← kept]
        exact List.isEmpty_iff.mpr empty
      · cases waits
    · cases waits

/-- A read passes on to the write half what it takes in, and leaves its own waker if it
waits for data. -/
theorem readLoop_relays {rounds remaining : Nat} {polled : Poll (Except IoError (List UInt8))}
    (typed : ∀ frame ∈ stream.fin.queue, frame.header.typ = frame.body.headerType)
    (enough : stream.fin.queue.length < rounds ∨ stream.dataReadClosed = true)
    (read : readLoop cx remaining rounds stream = .ok (polled, stream')) :
    Relays .write cx (readIntake cx rounds stream).frames stream stream' ∧
      stream'.fin.queue <:+ stream.fin.queue ∧
      (polled = .pending → stream'.readBuf = [] → stream'.readWaker = some cx) := by
  have buffered {stream : Stream} (read : stream.readBuffered remaining = (polled, stream')) :
      Relays .write cx [] stream stream' ∧ stream'.fin.queue <:+ stream.fin.queue ∧
        (polled = .pending → stream'.readBuf = [] → stream'.readWaker = some cx) := by
    obtain ⟨wakes, wakers, fin⟩ := stream.readBuffered_wakers remaining
    rw [read] at wakes wakers fin
    refine ⟨.of_same wakes (wakers .write), ?_, ?_⟩
    · rw [show stream'.fin = stream.fin from fin]
    · rintro rfl empty
      exact absurd empty (readBuffered_pending read)
  induction rounds generalizing stream with
  | zero =>
      have closed : stream.dataReadClosed = true := enough.resolve_left (Nat.not_lt_zero _)
      unfold readLoop at read
      unfold readIntake
      simp only [closed, Bool.or_true, if_true] at read ⊢
      exact buffered (Except.ok.inj read)
  | succ rounds ih =>
      unfold readLoop at read
      unfold readIntake
      split at read
      · rename_i ends
        rw [if_pos ends]
        exact buffered (Except.ok.inj read)
      · rename_i empty
        rw [if_neg empty]
        simp only at read ⊢
        cases received : ({ stream with readWaker := some cx }.pollRecvData cx) with
        | error panic => simp [received, bind, Except.bind] at read
        | ok outcome =>
            obtain ⟨polledData, taken⟩ := outcome
            have spec : Received cx .data stream.fin.queue { stream with readWaker := some cx }
                polledData taken := recvFrames_received typed rfl received
            have stores : Relays .write cx [] stream { stream with readWaker := some cx } :=
              .of_same rfl rfl
            have relays : Relays .write cx (recvTaken .data stream.fin.queue) stream taken :=
              stores.trans (spec.relays .write)
            have suffix' : taken.fin.queue <:+ stream.fin.queue := ⟨_, spec.queue.symm⟩
            simp only [received, bind, Except.bind] at read
            cases polledData with
            | pending =>
                obtain ⟨rfl, rfl⟩ := Prod.mk.inj (Except.ok.inj read)
                exact ⟨relays, suffix', fun _ _ => (spec.relays .read).keeps (spec.waits rfl)⟩
            | ready _ =>
                have left : taken.fin.queue.length < rounds ∨ taken.dataReadClosed = true := by
                  rcases spec.progress rfl with closed | shorter
                  · exact Or.inr closed
                  · rcases enough with enough | closed
                    · left
                      exact shorter.trans_le (Nat.le_of_lt_succ enough)
                    · simp [closed] at empty
                obtain ⟨later, suffix'', parks⟩ :=
                  ih (fun frame member => typed frame (suffix'.subset member)) left read
                exact ⟨relays.trans later, suffix''.trans suffix', parks⟩

theorem writeFrame_wakers (stream : Stream) (buf : List UInt8) :
    (stream.writeFrame buf).2.wakes = stream.wakes ∧
      (stream.writeFrame buf).2.readWaker = stream.readWaker ∧
      (stream.writeFrame buf).2.fin = stream.fin ∧
      (stream.writeFrame buf).2.readBuf = stream.readBuf := by
  unfold writeFrame
  have spec := stream.fout.pollReady_spec
  generalize stream.fout.pollReady = outcome at spec
  cases spec with
  | closed error closed => exact ⟨rfl, rfl, rfl, rfl⟩
  | waiting code isOpen full => exact ⟨rfl, rfl, rfl, rfl⟩
  | disconnected code closed => exact ⟨rfl, rfl, rfl, rfl⟩
  | ready code room => simp [StreamSender.startSend_of_room code room]

/-- A write passes on to the read half what it takes in, and leaves its own waker if it
waits for window. -/
theorem pollWrite_relays {buf : List UInt8} {polled : Poll (Except IoError Nat)}
    (typed : ∀ frame ∈ stream.fin.queue, frame.header.typ = frame.body.headerType)
    (written : stream.pollWrite cx buf = .ok (polled, stream')) :
    Relays .read cx stream.writeIntake.frames stream stream' ∧
      stream'.fin.queue <:+ stream.fin.queue ∧ stream.readBuf <+: stream'.readBuf ∧
      (stream.lacksWindow cx = true → stream'.writeWaker = some cx) := by
  unfold pollWrite at written
  unfold writeIntake lacksWindow
  split at written
  · rename_i code closed
    obtain ⟨rfl, rfl⟩ := Prod.mk.inj (Except.ok.inj written)
    simp only [closed, reduceCtorEq, false_and, if_false]
    exact ⟨.of_same rfl rfl, List.suffix_rfl, List.prefix_rfl, fun waits => by cases waits⟩
  · rename_i writable
    split at written
    · rename_i drained
      rw [if_pos ⟨writable, drained⟩]
      cases received : ({ stream with writeWaker := some cx }.pollRecvWndinc cx) with
      | error panic => simp [received, bind, Except.bind] at written
      | ok outcome =>
          obtain ⟨polledWndinc, taken⟩ := outcome
          have spec : Received cx .wndInc stream.fin.queue { stream with writeWaker := some cx }
              polledWndinc taken := recvFrames_received typed rfl received
          have stores : Relays .read cx [] stream { stream with writeWaker := some cx } :=
            .of_same rfl rfl
          have relays : Relays .read cx (recvTaken .wndInc stream.fin.queue) stream taken :=
            stores.trans (spec.relays .read)
          have suffix' : taken.fin.queue <:+ stream.fin.queue := ⟨_, spec.queue.symm⟩
          simp only [received, bind, Except.bind] at written
          simp only [writable]
          cases polledWndinc with
          | pending =>
              obtain ⟨rfl, rfl⟩ := Prod.mk.inj (Except.ok.inj written)
              exact ⟨relays, suffix', spec.readBuf,
                fun _ => (spec.relays .write).keeps (spec.waits rfl)⟩
          | ready _ =>
              obtain ⟨wakes, readWaker, fin, readBuf⟩ := taken.writeFrame_wakers buf
              rw [Except.ok.inj written] at wakes readWaker fin readBuf
              refine ⟨?_, ?_, ?_, fun waits => by cases waits⟩
              · rw [← List.append_nil (recvIntake _ _).frames]
                exact relays.trans (.of_same wakes readWaker)
              · rw [show stream'.fin = taken.fin from fin]
                exact suffix'
              · rw [show stream'.readBuf = taken.readBuf from readBuf]
                exact spec.readBuf
    · rename_i credit
      obtain ⟨wakes, readWaker, fin, readBuf⟩ := stream.writeFrame_wakers buf
      rw [Except.ok.inj written] at wakes readWaker fin readBuf
      rw [if_neg fun both => credit both.2]
      refine ⟨.of_same wakes readWaker, ?_, ?_, fun waits => ?_⟩
      · rw [show stream'.fin = stream.fin from fin]
      · rw [show stream'.readBuf = stream.readBuf from readBuf]
      · split at waits
        · exact absurd (by simpa using waits) credit
        · cases waits

theorem pollFlush_eq_with (stream : Stream) : ∃ fout writeClosed,
    stream.pollFlush.2 = { stream with fout := fout, writeClosed := writeClosed } := by
  unfold pollFlush
  generalize stream.fout.pollFlush = outcome
  obtain ⟨result, fout⟩ := outcome
  match result with
  | .pending => exact ⟨fout, stream.writeClosed, rfl⟩
  | .ready (.ok ()) => exact ⟨fout, stream.writeClosed, rfl⟩
  | .ready (.error error) => exact ⟨fout, some error, rfl⟩

theorem pollShutdown_eq_with (stream : Stream) : ∃ fout writeClosed,
    stream.pollShutdown.2 = { stream with fout := fout, writeClosed := writeClosed } := by
  unfold pollShutdown
  split
  · exact stream.pollFlush_eq_with
  · generalize stream.fout.pollReady = outcome
    obtain ⟨result, fout⟩ := outcome
    match result with
    | .pending => exact ⟨fout, stream.writeClosed, rfl⟩
    | .ready (.error error) => exact ⟨fout, some error, rfl⟩
    | .ready (.ok ()) =>
        simp only
        split
        · exact ⟨_, _, rfl⟩
        · obtain ⟨flushed, writeClosed, is⟩ := pollFlush_eq_with { stream with
            fout := _, writeClosed := some .streamClosed }
          exact ⟨flushed, writeClosed, is⟩

end Stream

namespace Watched

/-- A parked half has been woken, or nothing has arrived for it yet and it has left its
waker, unless it is a read that waits to send an increment. -/
structure Sound (watched : Watched) : Prop where
  typed : ∀ frame ∈ watched.stream.fin.queue, frame.header.typ = frame.body.headerType
  since_le : ∀ half parked, watched.parked half = some parked →
    parked.since ≤ watched.stream.wakes.length
  parked : ∀ half parked, watched.parked half = some parked → watched.Woken parked ∨
    parked.event = false ∧ ((half = .read → watched.stream.readBuf = []) →
      half.waker watched.stream = some parked.waker)

namespace Sound

variable {watched : Watched} {half other : Half} {cx : Waker} {intake : Intake} {stream : Stream}

/-- The stream changes without a poll that takes frames: no waker is taken, and nothing
comes out of the buffer. -/
theorem of_stream (sound : watched.Sound) (typed : ∀ frame ∈ stream.fin.queue,
      frame.header.typ = frame.body.headerType)
    (wakes : watched.stream.wakes <+: stream.wakes)
    (wakers : ∀ half : Half, half.waker stream = half.waker watched.stream)
    (readBuf : stream.readBuf = watched.stream.readBuf) :
    ({ watched with stream := stream } : Watched).Sound where
  typed := typed
  since_le := fun half parked found =>
    (sound.since_le half parked found).trans wakes.length_le
  parked := by
    intro half parked found
    rw [readBuf, wakers half]
    exact (sound.parked half parked found).imp_left fun woken => (wakes.drop _).mem woken

/-- A half has been polled: it is parked with its waker left behind, and the other one is
told of what was taken in. -/
theorem polled (sound : watched.Sound) (different : other ≠ half)
    (typed : ∀ frame ∈ stream.fin.queue, frame.header.typ = frame.body.headerType)
    (relays : Relays other cx intake.frames watched.stream stream)
    (readBuf : other = .read → stream.readBuf = [] → watched.stream.readBuf = [])
    (passes : watched.Passes other cx intake) (parks : Option Waker)
    (leaves : ∀ waker, parks = some waker →
      (half = .read → stream.readBuf = []) → half.waker stream = some waker) :
    (watched.polled half intake stream parks).Sound := by
  have cases_half (each : Half) : each = half ∨ each = other := by
    cases each <;> cases half <;> cases other <;> simp_all
  constructor
  · exact typed
  · intro each parked found
    simp only [Watched.polled] at found ⊢
    rcases cases_half each with rfl | rfl
    · simp only [if_true, Option.map_eq_some_iff] at found
      obtain ⟨waker, -, rfl⟩ := found
      exact le_rfl
    · simp only [different, if_false, Option.map_eq_some_iff] at found
      obtain ⟨before, found, rfl⟩ := found
      exact (sound.since_le each before found).trans relays.wakes.length_le
  · intro each parked found
    simp only [Watched.polled] at found
    rcases cases_half each with rfl | rfl
    · simp only [if_true, Option.map_eq_some_iff] at found
      obtain ⟨waker, is, rfl⟩ := found
      exact Or.inr ⟨rfl, leaves waker is⟩
    · simp only [different, if_false, Option.map_eq_some_iff] at found
      obtain ⟨before, found, rfl⟩ := found
      by_cases woken : watched.Woken before
      · exact Or.inl ((relays.wakes.drop _).mem woken)
      obtain ⟨noEvent, left⟩ := (sound.parked each before found).resolve_left woken
      cases meets : intake.meets each with
      | false =>
          right
          simp only [Intake.meets, Bool.or_eq_false_iff, List.any_eq_false, Bool.or_eq_true,
            beq_iff_eq, not_or] at meets
          refine ⟨by simp [noEvent], fun empty => ?_⟩
          show each.waker stream = some before.waker
          rw [relays.keeps fun frame member => (meets.2 frame member).1]
          exact left fun is => readBuf is (empty is)
      | true =>
          left
          obtain ⟨waker, arrived, empty⟩ := passes before found woken meets
          have called := relays.calls arrived before.waker (left empty) waker
          exact (List.drop_sublist_drop_left _ (sound.since_le each before found)).mem called

theorem step (sound : watched.Sound) {op : HalfOp} (passes : watched.passesOn op) :
    (watched.step op).Sound := by
  cases op with
  | pollRead cx remaining =>
      simp only [Watched.step]
      split
      · exact sound
      · rename_i result stream read
        obtain ⟨relays, suffix', leaves⟩ := Stream.readLoop_relays sound.typed
          (Or.inl (Nat.lt_succ_self _)) read
        apply sound.polled (by decide : Half.write ≠ .read)
          (fun frame member => sound.typed frame (suffix'.subset member)) relays
          (fun is => by cases is) passes
        intro waker parks empty
        split at parks
        · obtain rfl := Option.some.inj parks
          exact leaves rfl (empty rfl)
        · cases parks
  | pollWrite cx buf =>
      simp only [Watched.step]
      split
      · exact sound
      · rename_i result stream written
        obtain ⟨relays, suffix', readBuf, leaves⟩ := Stream.pollWrite_relays sound.typed written
        apply sound.polled (by decide : Half.read ≠ .write)
          (fun frame member => sound.typed frame (suffix'.subset member)) relays
          (fun _ empty => List.prefix_nil.mp (empty ▸ readBuf)) passes
        intro waker parks _
        split at parks
        · rename_i lacks
          obtain rfl := Option.some.inj parks
          exact leaves lacks
        · cases parks
  | pollFlush =>
      obtain ⟨fout, writeClosed, is⟩ := watched.stream.pollFlush_eq_with
      simp only [Watched.step, is]
      exact sound.of_stream sound.typed List.prefix_rfl (fun half => by cases half <;> rfl) rfl
  | pollShutdown =>
      obtain ⟨fout, writeClosed, is⟩ := watched.stream.pollShutdown_eq_with
      simp only [Watched.step, is]
      exact sound.of_stream sound.typed List.prefix_rfl (fun half => by cases half <;> rfl) rfl
  | arrive frame typed =>
      simp only [Watched.step]
      split
      · refine sound.of_stream ?_ (List.prefix_append _ _) (fun half => by cases half <;> rfl) rfl
        intro other member
        rcases List.mem_append.mp member with old | new
        · exact sound.typed other old
        · obtain rfl := List.mem_singleton.mp new
          exact typed
      · exact sound
  | closeChannel =>
      exact sound.of_stream sound.typed (List.prefix_append _ _) (fun half => by cases half <;> rfl) rfl
  | changeSink fout =>
      exact sound.of_stream sound.typed List.prefix_rfl (fun half => by cases half <;> rfl) rfl

theorem new (window : Nat) (needsSyn : Bool) : (Watched.new window needsSyn).Sound where
  typed := fun _ member => by cases member
  since_le := fun _ _ found => by cases found
  parked := fun _ _ found => by cases found

end Sound

/-- If every poll passes on what it takes in, no wakeup is lost. -/
theorem noLostWakeup {window : Nat} {needsSyn : Bool} {watched : Watched}
    (reaches : Reaches step passesOn (new window needsSyn) watched) : watched.NoLostWakeup := by
  have sound := reaches.invariant Sound (fun _ _ passes sound => sound.step passes)
    (.new window needsSyn)
  intro half parked found event
  refine (sound.parked half parked found).resolve_right fun still => ?_
  rw [still.1] at event
  cases event

/-- Two tasks share the stream: the writer takes in the data that the reader waits for. -/
theorem noLostWakeup_data :
    (run step (new 1 true)
      [.pollRead 1 8, .pollWrite 2 [7], .pollWrite 2 [7],
        .arrive (Frame.ofBody (.data [5])) rfl, .pollWrite 2 [7]]).NoLostWakeup := by
  apply noLostWakeup
  apply reaches_run
  refine ⟨fun _ found => (by cases found), fun _ _ _ meets => absurd meets (by decide),
    fun _ _ _ meets => absurd meets (by decide), trivial, ?_, trivial⟩
  intro parked found _ _
  obtain rfl : parked = ⟨1, 0, false⟩ := Option.some.inj (found.symm.trans rfl)
  exact ⟨by decide, ⟨Frame.ofBody (.data [5]), by decide, rfl⟩, fun _ => rfl⟩

/-- The write half sees the closed channel and the parked read does not hear of it, nor
the other way round; and a reader's data is taken in by a write with the same waker, after
the channel had come to remember another one. -/
theorem not_noLostWakeup :
    ¬ (run step (new 1 true)
        [.pollRead 1 8, .pollWrite 2 [7], .pollWrite 2 [7], .closeChannel,
          .pollWrite 2 [7]]).NoLostWakeup ∧
      ¬ (run step (new 1 true)
        [.pollWrite 2 [7], .pollWrite 2 [7], .pollRead 1 8, .closeChannel,
          .pollRead 1 8]).NoLostWakeup ∧
      ¬ (run step (new 1 true)
        [.pollRead 1 8, .pollWrite 2 [7], .pollWrite 2 [7],
          .arrive (Frame.ofBody (.data [5])) rfl, .pollWrite 1 [7]]).NoLostWakeup := by
  refine ⟨fun sound => ?_, fun sound => ?_, fun sound => ?_⟩
  · have woken := sound .read ⟨1, 0, true⟩ rfl rfl
    exact absurd (show 1 ∈ [2] from woken) (by decide)
  · have woken := sound .write ⟨2, 0, true⟩ rfl rfl
    exact absurd (show 2 ∈ [1] from woken) (by decide)
  · have woken := sound .read ⟨1, 0, true⟩ rfl rfl
    exact absurd (show 1 ∈ [2] from woken) (by decide)

end Watched

end Muxado

end NgrokRust
