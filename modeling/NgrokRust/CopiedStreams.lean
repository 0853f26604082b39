import NgrokRust.PolledReader
import NgrokRust.PolledWriter

/-!
# Copied streams

A connection is read and written over one state.  Copying in one direction hands on what
was read, in order, and it shuts its target down once the source has ended and everything
was handed on.  It stands for one half of tokio's `copy_bidirectional`: how much that reads
and writes at once, and when it flushes, is left open.
-/

/-- The two halves of a connection. -/
structure Duplex (σ α ε : Type*) where
  reader : PolledReader σ α ε
  writer : PolledWriter σ α ε

/-- A connection over a fixed delivery, which accepts whatever is written to it. -/
def Duplex.ofDelivery (α ε : Type*) : Duplex (Delivery α) α ε where
  reader := Delivery.reader α ε
  writer :=
    { pollWrite := fun sink data => (.ready (.ok data.length), sink)
      pollFlush := fun sink => (.ready (.ok ()), sink)
      pollShutdown := fun sink => (.ready (.ok ()), sink)
      fits := by
        intro _ data written answered
        cases answered
        exact Nat.le_refl data.length }

namespace PolledReader

variable {σ α ε : Type*}

def beside (reader : PolledReader σ α ε) (τ : Type*) : PolledReader (σ × τ) α ε where
  pollRead := fun source room =>
    ((reader.pollRead source.1 room).1, (reader.pollRead source.1 room).2, source.2)
  fits := fun source room => reader.fits source.1 room

@[simp]
theorem beside_kept (reader : PolledReader σ α ε) (τ : Type*) (source : σ × τ) (room : Nat) :
    ((reader.beside τ).pollRead source room).2.2 = source.2 := rfl

end PolledReader

namespace PolledWriter

variable {σ α ε : Type*}

/-- The same writer, next to something that writing leaves alone. -/
def beside (writer : PolledWriter σ α ε) (τ : Type*) : PolledWriter (σ × τ) α ε where
  pollWrite := fun sink data =>
    ((writer.pollWrite sink.1 data).1, (writer.pollWrite sink.1 data).2, sink.2)
  pollFlush := fun sink => ((writer.pollFlush sink.1).1, (writer.pollFlush sink.1).2, sink.2)
  pollShutdown := fun sink =>
    ((writer.pollShutdown sink.1).1, (writer.pollShutdown sink.1).2, sink.2)
  fits := fun answered => writer.fits answered

/-- How much of its data a write has accepted; a write that has not returned has accepted
nothing. -/
def written (write : Option (Poll (Except ε Nat))) : Nat :=
  match write with
  | some (.ready (.ok count)) => count
  | _ => 0

theorem take_written (write : Option (Poll (Except ε Nat))) (data : List α) :
    (write.elim [] fun answer => acceptedBy answer data) = data.take (written write) := by
  unfold written
  split
  · rfl
  · rename_i other
    rw [List.take_zero]
    cases write with
    | none => rfl
    | some answer =>
        cases answer with
        | pending => rfl
        | ready res =>
            cases res with
            | error error => rfl
            | ok count => exact absurd rfl (other count)

end PolledWriter

/-- A read that fills nothing has met the end of its source. -/
def ReadAttempt.ends {α ε : Type*} (attempt : ReadAttempt α ε) : Bool :=
  match attempt.polled with
  | .ready (.ok ()) => attempt.filled.isEmpty
  | _ => false

/-- One direction of a copy: what the target was given, and what is waiting for it. -/
inductive Copy (α : Type*) where
  | running (given buffered : List α)
  | draining (given buffered : List α)
  | done (given : List α)
deriving DecidableEq

namespace Copy

variable {α ε : Type*}

def new : Copy α := .running [] []

def given : Copy α → List α
  | .running given _ | .draining given _ | .done given => given

def buffered : Copy α → List α
  | .running _ buffered | .draining _ buffered => buffered
  | .done _ => []

def taken (copy : Copy α) : List α := copy.given ++ copy.buffered

def isRunning : Copy α → Bool
  | .running _ _ => true
  | _ => false

def isDrained : Copy α → Bool
  | .draining _ [] => true
  | _ => false

def isDone : Copy α → Bool
  | .done _ => true
  | _ => false

def read (copy : Copy α) (attempt : ReadAttempt α ε) : Copy α :=
  match copy with
  | .running given buffered =>
      if attempt.ends then .draining given buffered
      else .running given (buffered ++ attempt.filled)
  | copy => copy

/-- So much of what is waiting was accepted. -/
def wrote (copy : Copy α) (count : Nat) : Copy α :=
  match copy with
  | .running given buffered =>
      .running (given ++ buffered.take count) (buffered.drop count)
  | .draining given buffered =>
      .draining (given ++ buffered.take count) (buffered.drop count)
  | .done given => .done given

def shutdown (copy : Copy α) (answer : Poll (Except ε Unit)) : Copy α :=
  match copy, answer with
  | .draining given [], .ready (.ok ()) => .done given
  | copy, _ => copy

@[simp]
theorem taken_new : (new : Copy α).taken = [] := rfl

@[simp]
theorem given_new : (new : Copy α).given = [] := rfl

theorem given_prefix (copy : Copy α) : copy.given <+: copy.taken :=
  List.prefix_append copy.given copy.buffered

theorem filled_of_ends {attempt : ReadAttempt α ε} (ends : attempt.ends = true) :
    attempt.filled = [] := by
  unfold ReadAttempt.ends at ends
  split at ends
  · exact List.isEmpty_iff.1 ends
  · cases ends

theorem given_read (copy : Copy α) (attempt : ReadAttempt α ε) :
    (copy.read attempt).given = copy.given := by
  cases copy with
  | running given buffered =>
      unfold read
      dsimp only
      split <;> rfl
  | draining => rfl
  | done => rfl

theorem taken_read {copy : Copy α} (running : copy.isRunning = true)
    (attempt : ReadAttempt α ε) : (copy.read attempt).taken = copy.taken ++ attempt.filled := by
  cases copy with
  | running given buffered =>
      unfold read
      dsimp only
      split
      · rename_i ends
        rw [filled_of_ends ends, List.append_nil]
        rfl
      · exact (List.append_assoc given buffered attempt.filled).symm
  | draining => cases running
  | done => cases running

theorem isRunning_read (copy : Copy α) (attempt : ReadAttempt α ε) :
    (copy.read attempt).isRunning = (copy.isRunning && !attempt.ends) := by
  cases copy with
  | running given buffered =>
      unfold read
      dsimp only
      split <;> simp_all [isRunning]
  | draining => rfl
  | done => rfl

@[simp]
theorem isRunning_wrote (copy : Copy α) (count : Nat) :
    (copy.wrote count).isRunning = copy.isRunning := by
  cases copy <;> rfl

@[simp]
theorem isRunning_shutdown (copy : Copy α) (answer : Poll (Except ε Unit)) :
    (copy.shutdown answer).isRunning = copy.isRunning := by
  unfold shutdown
  split <;> rfl

theorem given_wrote (copy : Copy α) (count : Nat) :
    (copy.wrote count).given = copy.given ++ copy.buffered.take count := by
  cases copy with
  | running => rfl
  | draining => rfl
  | done given => simp [wrote, Copy.given, buffered]

theorem taken_wrote (copy : Copy α) (count : Nat) : (copy.wrote count).taken = copy.taken := by
  cases copy with
  | running given buffered => simp [wrote, taken, Copy.given, Copy.buffered]
  | draining given buffered => simp [wrote, taken, Copy.given, Copy.buffered]
  | done => rfl

theorem given_shutdown (copy : Copy α) (answer : Poll (Except ε Unit)) :
    (copy.shutdown answer).given = copy.given := by
  unfold shutdown
  split <;> rfl

theorem taken_shutdown (copy : Copy α) (answer : Poll (Except ε Unit)) :
    (copy.shutdown answer).taken = copy.taken := by
  unfold shutdown
  split <;> rfl

theorem taken_of_isDone {copy : Copy α} (done : copy.isDone = true) :
    copy.taken = copy.given := by
  cases copy with
  | running => cases done
  | draining => cases done
  | done given => exact List.append_nil given

end Copy
