import NgrokRust.LabelledRuns
import NgrokRust.MuxadoStreamUse
import NgrokRust.PolledReader
import NgrokRust.PolledWriter

/-!
# The heartbeat responder

The task of `start_responder` reads into a buffer of four bytes and writes the buffer back.
It does not look at how many bytes a read has put there, so it is an echo as long as every
read fills the buffer.
-/

namespace NgrokRust

namespace Muxado

open LabelledRuns

def heartbeatLen : Nat := 4

/-- Where the loop is: in `read` with its buffer, in `write_all` with what is left of the
buffer, or out of the loop. -/
inductive Responder where
  | reading (buf : List UInt8)
  | writing (buf : List UInt8)
  | exited
deriving DecidableEq, Repr

/-- A responder on its stream, with the bytes that the reads returned and the writes
accepted, and whether a read has returned none: the end of the stream. -/
structure EchoHistory (σ : Type*) where
  responder : Responder
  stream : σ
  received : List UInt8
  written : List UInt8
  ended : Bool
deriving DecidableEq

/-- A poll of the task, as far as one answer of the stream; `drop_waiter`, which takes the
task out of its loop; or a change of the stream by others. -/
inductive EchoStep (σ : Type*) where
  | poll
  | dropped
  | other (change : σ → σ)

namespace EchoHistory

variable {σ ε : Type*}

def start (stream : σ) : EchoHistory σ where
  responder := .reading (List.replicate heartbeatLen 0)
  stream := stream
  received := []
  written := []
  ended := false

def fill (buf filled : List UInt8) : List UInt8 := filled ++ buf.drop filled.length

/-- An answer to `read`, whose count is not looked at. -/
def read (reader : PolledReader σ UInt8 ε) (history : EchoHistory σ) (buf : List UInt8) :
    EchoHistory σ :=
  let read := reader.pollRead history.stream buf.length
  match read.1.polled with
  | .pending =>
      { history with stream := read.2, responder := .reading (fill buf read.1.filled) }
  | .ready (.error _) => { history with stream := read.2, responder := .exited }
  | .ready (.ok ()) =>
      { responder := .writing (fill buf read.1.filled)
        stream := read.2
        received := history.received ++ read.1.filled
        written := history.written
        ended := history.ended || read.1.filled.isEmpty }

/-- An answer to a write of `write_all`, for which accepting nothing is an error. -/
def write (writer : PolledWriter σ UInt8 ε) (history : EchoHistory σ) (buf : List UInt8) :
    EchoHistory σ :=
  let write := writer.pollWrite history.stream buf
  match write.1 with
  | .pending => { history with stream := write.2 }
  | .ready (.error _) => { history with stream := write.2, responder := .exited }
  | .ready (.ok count) =>
      { history with
        stream := write.2
        written := history.written ++ buf.take count
        responder :=
          if count = 0 then .exited
          else if (buf.drop count).isEmpty then .reading (List.replicate heartbeatLen 0)
          else .writing (buf.drop count) }

def step (reader : PolledReader σ UInt8 ε) (writer : PolledWriter σ UInt8 ε)
    (history : EchoHistory σ) : EchoStep σ → EchoHistory σ
  | .poll =>
      match history.responder with
      | .reading buf => history.read reader buf
      | .writing buf => history.write writer buf
      | .exited => history
  | .dropped => { history with responder := .exited }
  | .other change => { history with stream := change history.stream }

/-- The answer to a read, if it is one, leaves no room in the buffer. -/
def Whole (reader : PolledReader σ UInt8 ε) (history : EchoHistory σ) : EchoStep σ → Prop
  | .poll =>
      match history.responder with
      | .reading buf =>
          (reader.pollRead history.stream buf.length).1.polled = .ready (.ok ()) →
            (reader.pollRead history.stream buf.length).1.filled.length = buf.length
      | _ => True
  | _ => True

/-- What was written is what was received, as far as it was written; all of it when the
loop comes to its next read; and the loop is over with the stream. -/
structure Echoes (history : EchoHistory σ) : Prop where
  prefixed : history.written <+: history.received
  echoed : ∀ buf, history.responder = .reading buf → history.written = history.received
  ends : history.ended = true → history.responder = .exited

section Steps

variable {reader : PolledReader σ UInt8 ε} {writer : PolledWriter σ UInt8 ε}
  {history : EchoHistory σ} {buf : List UInt8}

theorem length_fill {filled : List UInt8} (fits : filled.length ≤ buf.length) :
    (fill buf filled).length = buf.length := by
  simp only [fill, List.length_append, List.length_drop]
  omega

theorem fill_of_whole {filled : List UInt8} (whole : filled.length = buf.length) :
    fill buf filled = filled := by
  rw [fill, whole, List.drop_length, List.append_nil]

/-- A read is still under way, has failed, or has returned some bytes. -/
theorem read_cases (reader : PolledReader σ UInt8 ε) (history : EchoHistory σ)
    (buf : List UInt8) :
    ((reader.pollRead history.stream buf.length).1.polled = .pending ∧
      ∃ stream filled, filled.length ≤ buf.length ∧ history.read reader buf =
        { history with stream := stream, responder := .reading (fill buf filled) }) ∨
    (∃ stream, history.read reader buf =
      { history with stream := stream, responder := .exited }) ∨
    ((reader.pollRead history.stream buf.length).1.polled = .ready (.ok ()) ∧
      ∃ stream filled, filled = (reader.pollRead history.stream buf.length).1.filled ∧
        filled.length ≤ buf.length ∧ history.read reader buf =
          { responder := .writing (fill buf filled)
            stream := stream
            received := history.received ++ filled
            written := history.written
            ended := history.ended || filled.isEmpty }) := by
  have fits := reader.fits history.stream buf.length
  cases polled : (reader.pollRead history.stream buf.length).1.polled with
  | pending =>
      refine .inl ⟨rfl, (reader.pollRead history.stream buf.length).2, _, fits, ?_⟩
      simp only [read, polled]
  | ready res =>
      cases res with
      | error err =>
          refine .inr (.inl ⟨(reader.pollRead history.stream buf.length).2, ?_⟩)
          simp only [read, polled]
      | ok =>
          refine .inr (.inr ⟨rfl, (reader.pollRead history.stream buf.length).2, _, rfl, fits, ?_⟩)
          simp only [read, polled]

/-- A write is still under way, has failed, or has accepted some bytes. -/
theorem write_cases (writer : PolledWriter σ UInt8 ε) (history : EchoHistory σ)
    (buf : List UInt8) :
    (∃ stream, history.write writer buf = { history with stream := stream }) ∨
    (∃ stream, history.write writer buf =
      { history with stream := stream, responder := .exited }) ∨
    (∃ stream count, 0 < count ∧ count ≤ buf.length ∧ history.write writer buf =
      { history with
        stream := stream
        written := history.written ++ buf.take count
        responder :=
          if (buf.drop count).isEmpty then .reading (List.replicate heartbeatLen 0)
          else .writing (buf.drop count) }) := by
  cases answer : (writer.pollWrite history.stream buf).1 with
  | pending =>
      refine .inl ⟨(writer.pollWrite history.stream buf).2, ?_⟩
      simp only [write, answer]
  | ready res =>
      cases res with
      | error err =>
          refine .inr (.inl ⟨(writer.pollWrite history.stream buf).2, ?_⟩)
          simp only [write, answer]
      | ok count =>
          by_cases nothing : count = 0
          · refine .inr (.inl ⟨(writer.pollWrite history.stream buf).2, ?_⟩)
            simp [write, answer, nothing]
          · refine .inr (.inr ⟨(writer.pollWrite history.stream buf).2, count,
              Nat.pos_of_ne_zero nothing, writer.fits answer, ?_⟩)
            simp only [write, answer, if_neg nothing]

theorem step_of_exited (reader : PolledReader σ UInt8 ε) (writer : PolledWriter σ UInt8 ε)
    (exited : history.responder = .exited) (label : EchoStep σ) :
    (history.step reader writer label).responder = .exited ∧
      (history.step reader writer label).written = history.written := by
  cases label with
  | poll => simp [step, exited]
  | dropped => exact ⟨rfl, rfl⟩
  | other change => exact ⟨exited, rfl⟩

theorem run_of_exited (exited : history.responder = .exited) (labels : List (EchoStep σ)) :
    (run (step reader writer) history labels).responder = .exited ∧
      (run (step reader writer) history labels).written = history.written := by
  induction labels generalizing history with
  | nil => exact ⟨exited, rfl⟩
  | cons label labels ih =>
      obtain ⟨still, same⟩ := step_of_exited reader writer exited label
      obtain ⟨last, same'⟩ := ih still
      exact ⟨last, same'.trans same⟩

/-- What the buffer holds is what of the bytes received was not written yet. -/
def Echoing (history : EchoHistory σ) : Prop :=
  history.ended = false ∧
    match history.responder with
    | .reading buf => buf.length = heartbeatLen ∧ history.written = history.received
    | .writing buf => buf ≠ [] ∧ history.written ++ buf = history.received
    | .exited => history.written <+: history.received

theorem Echoing.echoes (echoing : history.Echoing) : history.Echoes := by
  obtain ⟨open_, balance⟩ := echoing
  refine ⟨?_, ?_, fun ended => ?_⟩
  · cases place : history.responder with
    | reading buf =>
        rw [place] at balance
        rw [balance.2]
    | writing buf =>
        rw [place] at balance
        exact ⟨buf, balance.2⟩
    | exited =>
        rw [place] at balance
        exact balance
  · intro buf place
    rw [place] at balance
    exact balance.2
  · rw [open_] at ended
    exact absurd ended Bool.false_ne_true

theorem Echoing.exit (echoing : history.Echoing) (stream : σ) :
    ({ history with stream := stream, responder := .exited } : EchoHistory σ).Echoing :=
  ⟨echoing.1, echoing.echoes.prefixed⟩

theorem echoing_start (stream : σ) : (start stream).Echoing :=
  ⟨rfl, List.length_replicate, rfl⟩

/-- A step whose read fills the buffer keeps the echo. -/
theorem Echoing.step (echoing : history.Echoing) {label : EchoStep σ}
    (whole : history.Whole reader label) : (history.step reader writer label).Echoing := by
  cases label with
  | dropped => exact echoing.exit history.stream
  | other change => exact echoing
  | poll =>
      cases place : history.responder with
      | exited =>
          simp only [EchoHistory.step, place]
          exact echoing
      | reading buf =>
          obtain ⟨open_, balance⟩ := id echoing
          rw [place] at balance
          obtain ⟨length, balance⟩ := balance
          simp only [EchoHistory.step, place]
          obtain ⟨-, stream, filled, fits, same⟩ | ⟨stream, same⟩ |
            ⟨polled, stream, filled, bytes, -, same⟩ := history.read_cases reader buf
          · rw [same]
            exact ⟨open_, (length_fill fits).trans length, balance⟩
          · rw [same]
            exact echoing.exit stream
          · have full : filled.length = buf.length := by
              simp only [Whole, place] at whole
              rw [bytes]
              exact whole polled
            have some_ : filled ≠ [] := by
              rintro rfl
              rw [length] at full
              exact absurd full (by decide)
            rw [same, fill_of_whole full]
            refine ⟨?_, some_, ?_⟩
            · simp [open_, some_]
            · rw [balance]
      | writing buf =>
          obtain ⟨open_, balance⟩ := id echoing
          rw [place] at balance
          obtain ⟨some_, balance⟩ := balance
          simp only [EchoHistory.step, place]
          obtain ⟨stream, same⟩ | ⟨stream, same⟩ | ⟨stream, count, -, -, same⟩ :=
            history.write_cases writer buf
          · rw [same]
            refine ⟨open_, ?_⟩
            simp only [place]
            exact ⟨some_, balance⟩
          · rw [same]
            exact echoing.exit stream
          · rw [same]
            refine ⟨open_, ?_⟩
            have divided : history.written ++ buf.take count ++ buf.drop count =
                history.received := by
              rw [List.append_assoc, List.take_append_drop, balance]
            by_cases done : buf.drop count = []
            · rw [done, List.append_nil] at divided
              simp only [done, List.isEmpty_nil, if_true]
              exact ⟨List.length_replicate, divided⟩
            · simp only [List.isEmpty_iff, if_neg done]
              exact ⟨done, divided⟩

/-- The bytes of the buffer that were not received: how many more bytes are written than
received when the buffer is written. -/
def Exceeds (least : Nat) (history : EchoHistory σ) : Prop :=
  match history.responder with
  | .reading buf =>
      buf.length = heartbeatLen ∧ history.received.length + least ≤ history.written.length
  | .writing buf =>
      history.received.length + least ≤ history.written.length + buf.length
  | .exited => True

theorem exceeds_start (stream : σ) : (start stream).Exceeds 0 :=
  ⟨List.length_replicate, Nat.le_refl 0⟩

theorem Exceeds.write {least : Nat} (exceeds : history.Exceeds least)
    (place : history.responder = .writing buf) : (history.write writer buf).Exceeds least := by
  simp only [Exceeds, place] at exceeds
  obtain ⟨stream, same⟩ | ⟨stream, same⟩ | ⟨stream, count, -, fits, same⟩ :=
    history.write_cases writer buf
  · rw [same]
    simp only [Exceeds, place]
    exact exceeds
  · rw [same]
    trivial
  · rw [same]
    by_cases done : buf.drop count = []
    · have all : buf.length ≤ count := List.drop_eq_nil_iff.1 done
      simp only [Exceeds, done, List.isEmpty_nil, if_true, List.length_append,
        List.length_take]
      exact ⟨List.length_replicate, by omega⟩
    · simp only [Exceeds, List.isEmpty_iff, if_neg done, List.length_append, List.length_take,
        List.length_drop]
      omega

theorem Exceeds.step {least : Nat} (exceeds : history.Exceeds least) (label : EchoStep σ) :
    (history.step reader writer label).Exceeds least := by
  cases label with
  | dropped => trivial
  | other change => exact exceeds
  | poll =>
      cases place : history.responder with
      | exited =>
          simp only [EchoHistory.step, place]
          exact exceeds
      | writing buf =>
          simp only [EchoHistory.step, place]
          exact exceeds.write place
      | reading buf =>
          simp only [EchoHistory.step, place]
          simp only [Exceeds, place] at exceeds
          obtain ⟨-, stream, filled, fits, same⟩ | ⟨stream, same⟩ |
            ⟨-, stream, filled, -, fits, same⟩ := history.read_cases reader buf
          · rw [same]
            exact ⟨(length_fill fits).trans exceeds.1, exceeds.2⟩
          · rw [same]
            trivial
          · rw [same]
            simp only [Exceeds, List.length_append, length_fill fits]
            omega

variable (writer) in
/-- A read that does not fill the buffer has bytes written that were never received. -/
theorem Exceeds.short (exceeds : history.Exceeds 0) {label : EchoStep σ}
    (short : ¬ history.Whole reader label) :
    (history.step reader writer label).Exceeds 1 := by
  cases label with
  | dropped => exact absurd trivial short
  | other change => exact absurd trivial short
  | poll =>
      cases place : history.responder with
      | exited => simp [Whole, place] at short
      | writing buf => simp [Whole, place] at short
      | reading buf =>
          simp only [Whole, place, Classical.not_imp] at short
          simp only [EchoHistory.step, place]
          simp only [Exceeds, place] at exceeds
          obtain ⟨waits, -⟩ | ⟨stream, same⟩ |
            ⟨-, stream, filled, bytes, fits, same⟩ := history.read_cases reader buf
          · rw [waits] at short
            exact absurd short.1 nofun
          · rw [same]
            trivial
          · rw [same]
            rw [← bytes] at short
            simp only [Exceeds, List.length_append, length_fill fits]
            omega

end Steps

section Runs

variable (reader : PolledReader σ UInt8 ε) (writer : PolledWriter σ UInt8 ε) (stream : σ)
  (labels : List (EchoStep σ))

/-- In every state of the run what was written is an echo, and nothing more is written once
the end of the stream was returned. -/
def ExactEcho : Prop :=
  ∀ earlier later, labels = earlier ++ later →
    (run (step reader writer) (start stream) earlier).Echoes ∧
      ((run (step reader writer) (start stream) earlier).ended = true →
        (run (step reader writer) (start stream) labels).written =
          (run (step reader writer) (start stream) earlier).written)

variable {reader writer stream labels}

theorem exactEcho_of_echoes
    (echoes : ∀ earlier later, labels = earlier ++ later →
      (run (step reader writer) (start stream) earlier).Echoes) :
    ExactEcho reader writer stream labels := by
  intro earlier later split
  refine ⟨echoes earlier later split, fun ended => ?_⟩
  rw [split, run_append]
  exact (run_of_exited ((echoes earlier later split).ends ended) later).2

theorem exactEcho_of_whole
    (whole : Admitted (step reader writer) (Whole reader) (start stream) labels) :
    ExactEcho reader writer stream labels := by
  apply exactEcho_of_echoes
  intro earlier later split
  rw [split] at whole
  have reaches := reaches_run (admitted_append.1 whole).1
  exact (reaches.invariant Echoing (fun _ _ whole echoing => echoing.step whole)
    (echoing_start stream)).echoes

theorem exceeds_run (reader : PolledReader σ UInt8 ε) (writer : PolledWriter σ UInt8 ε)
    {least : Nat} {history : EchoHistory σ} (exceeds : history.Exceeds least)
    (labels : List (EchoStep σ)) :
    (run (step reader writer) history labels).Exceeds least :=
  (reaches_run_anyLabel history labels).invariant (Exceeds least)
    (fun _ label _ exceeds => exceeds.step label) exceeds

theorem whole_of_exactEcho {buf : List UInt8}
    (settled : (run (step reader writer) (start stream) labels).responder = .reading buf)
    (exact_ : ExactEcho reader writer stream labels) :
    Admitted (step reader writer) (Whole reader) (start stream) labels := by
  rw [admitted_iff_forall]
  intro earlier label later split
  by_contra short
  have balanced := exceeds_run reader writer (exceeds_start stream) earlier
  have excess := exceeds_run reader writer (balanced.short writer short) later
  rw [← run_cons, ← run_append, ← split] at excess
  have same := (exact_ labels [] (List.append_nil labels).symm).1.echoed buf settled
  simp only [Exceeds, settled, same] at excess
  omega

/-- The responder is an echo of the stream in every run in which each read fills its buffer;
and of the runs that end between two heartbeats, only in these. -/
theorem echoesExactly_iff (reader : PolledReader σ UInt8 ε) (writer : PolledWriter σ UInt8 ε)
    (stream : σ) (labels : List (EchoStep σ)) :
    (Admitted (step reader writer) (Whole reader) (start stream) labels →
        ExactEcho reader writer stream labels) ∧
      ∀ buf, (run (step reader writer) (start stream) labels).responder = .reading buf →
        (ExactEcho reader writer stream labels ↔
          Admitted (step reader writer) (Whole reader) (start stream) labels) :=
  ⟨exactEcho_of_whole, fun _ settled =>
    ⟨whole_of_exactEcho settled, exactEcho_of_whole⟩⟩

end Runs

end EchoHistory

namespace Stream

/-- A stream as the reader of one task, where a panic ends the task like an error. -/
def reader (cx : Waker) : PolledReader Stream UInt8 (Panic ⊕ IoError) where
  pollRead := fun stream room =>
    match stream.pollRead cx room with
    | .error panic => (⟨[], .ready (.error (.inl panic))⟩, stream)
    | .ok (.pending, after) => (⟨[], .pending⟩, after)
    | .ok (.ready (.error error), after) => (⟨[], .ready (.error (.inr error))⟩, after)
    | .ok (.ready (.ok bytes), after) => (⟨bytes, .ready (.ok ())⟩, after)
  fits := by
    intro stream room
    split
    · exact Nat.zero_le room
    · exact Nat.zero_le room
    · exact Nat.zero_le room
    · rename_i read
      exact length_readLoop read

theorem length_writeFrame {stream after : Stream} {buf : List UInt8} {count : Nat}
    (written : stream.writeFrame buf = (.ready (.ok count), after)) : count ≤ buf.length := by
  unfold writeFrame at written
  split at written
  · cases written
  · cases written
  · simp only at written
    split at written
    · cases written
    · cases written
      rw [Constrained.clamp_val, asU32]
      have small := Nat.mod_le buf.length (2 ^ 32)
      omega

theorem length_pollWrite {stream after : Stream} {cx : Waker} {buf : List UInt8} {count : Nat}
    (written : stream.pollWrite cx buf = .ok (.ready (.ok count), after)) :
    count ≤ buf.length := by
  unfold pollWrite at written
  split at written
  · cases written
  · split at written
    · cases received : ({ stream with writeWaker := some cx }.pollRecvWndinc cx) with
      | error panic => simp [received, bind, Except.bind] at written
      | ok outcome =>
          obtain ⟨polled, taken⟩ := outcome
          simp only [received, bind, Except.bind] at written
          cases polled with
          | pending => cases written
          | ready => exact length_writeFrame (Except.ok.inj written)
    · exact length_writeFrame (Except.ok.inj written)

def writer (cx : Waker) : PolledWriter Stream UInt8 (Panic ⊕ IoError) where
  pollWrite := fun stream buf =>
    match stream.pollWrite cx buf with
    | .error panic => (.ready (.error (.inl panic)), stream)
    | .ok (.pending, after) => (.pending, after)
    | .ok (.ready (.error error), after) => (.ready (.error (.inr error)), after)
    | .ok (.ready (.ok count), after) => (.ready (.ok count), after)
  pollFlush := fun stream =>
    match stream.pollFlush with
    | (.pending, after) => (.pending, after)
    | (.ready (.error error), after) => (.ready (.error (.inr error)), after)
    | (.ready (.ok ()), after) => (.ready (.ok ()), after)
  pollShutdown := fun stream =>
    match stream.pollShutdown with
    | (.pending, after) => (.pending, after)
    | (.ready (.error error), after) => (.ready (.error (.inr error)), after)
    | (.ready (.ok ()), after) => (.ready (.ok ()), after)
  fits := by
    intro stream buf count answered
    split at answered
    · cases answered
    · cases answered
    · cases answered
    · rename_i written
      cases answered
      exact length_pollWrite written

def holding (frames : List Frame) : Stream :=
  Stream.new (StreamSender.wrap (Channel.new 8))
    { (Channel.new 8 : Channel Frame) with queue := frames } 8 false

end Stream

namespace EchoHistory

/-- A heartbeat comes whole, and is written back. -/
theorem echoesExactly_iff_heartbeat :
    ExactEcho (Stream.reader 0) (Stream.writer 0)
        (Stream.holding [Frame.ofBody (.data [1, 2, 3, 4])]) [.poll, .poll] ∧
      (run (step (Stream.reader 0) (Stream.writer 0))
        (start (Stream.holding [Frame.ofBody (.data [1, 2, 3, 4])])) [.poll, .poll]).written =
          [1, 2, 3, 4] := by
  have whole : Admitted (step (Stream.reader 0) (Stream.writer 0)) (Whole (Stream.reader 0))
      (start (Stream.holding [Frame.ofBody (.data [1, 2, 3, 4])])) [.poll, .poll] :=
    ⟨fun _ => by decide +kernel, trivial, trivial⟩
  exact ⟨(echoesExactly_iff (Stream.reader 0) (Stream.writer 0)
    (Stream.holding [Frame.ofBody (.data [1, 2, 3, 4])]) [.poll, .poll]).1 whole,
    by decide +kernel⟩

/-- One byte of a heartbeat comes alone, and three zeros are written behind it. -/
theorem not_echoesExactly_fragment :
    ¬ ∀ (cx : Waker) (stream : Stream) (labels : List (EchoStep Stream)),
      ExactEcho (Stream.reader cx) (Stream.writer cx) stream labels := by
  intro always
  let last := run (step (Stream.reader 0) (Stream.writer 0))
    (start (Stream.holding [Frame.ofBody (.data [7])])) [.poll, .poll]
  have written : last.written = [7, 0, 0, 0] := by decide +kernel
  have received : last.received = [7] := by decide +kernel
  have prefixed := (always 0 (Stream.holding [Frame.ofBody (.data [7])])
    [.poll, .poll] [.poll, .poll] [] rfl).1.prefixed
  rw [show _ = _ from written, show _ = _ from received] at prefixed
  exact absurd prefixed.length_le (by decide)

end EchoHistory

end Muxado

end NgrokRust
