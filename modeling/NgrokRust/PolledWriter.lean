import NgrokRust.BoundedChannel

/-!
# Polled writers

A writer is polled with some data and accepts the beginning of it, or it answers that it
has to wait, or an error.  It can also be asked to flush what it has accepted and to shut
down; nothing is said about how the answers follow each other.
-/

/-- A writer never accepts more than the data it was given. -/
structure PolledWriter (σ α ε : Type*) where
  pollWrite : σ → List α → Poll (Except ε Nat) × σ
  pollFlush : σ → Poll (Except ε Unit) × σ
  pollShutdown : σ → Poll (Except ε Unit) × σ
  fits : ∀ {sink data written}, (pollWrite sink data).1 = .ready (.ok written) →
    written ≤ data.length

/-- What a writer was asked for; of a write only the data that it accepted is kept. -/
inductive WriteRequest (α : Type*) where
  | write (accepted : List α)
  | flush
  | shutdown
deriving DecidableEq

namespace PolledWriter

variable {σ α ε : Type*}

/-- The writer that never waits and accepts everything. -/
def eager (α ε : Type*) : PolledWriter Unit α ε where
  pollWrite := fun _ data => (.ready (.ok data.length), ())
  pollFlush := fun _ => (.ready (.ok ()), ())
  pollShutdown := fun _ => (.ready (.ok ()), ())
  fits := by
    intro _ data written answered
    cases answered
    exact Nat.le_refl data.length

def acceptedBy (answer : Poll (Except ε Nat)) (data : List α) : List α :=
  match answer with
  | .ready (.ok written) => data.take written
  | _ => []

/-- The same writer, with everything it was ever asked for on record. -/
def recorded (writer : PolledWriter σ α ε) : PolledWriter (σ × List (WriteRequest α)) α ε where
  pollWrite := fun sink data =>
    ((writer.pollWrite sink.1 data).1, (writer.pollWrite sink.1 data).2,
      sink.2 ++ [.write (acceptedBy (writer.pollWrite sink.1 data).1 data)])
  pollFlush := fun sink =>
    ((writer.pollFlush sink.1).1, (writer.pollFlush sink.1).2, sink.2 ++ [.flush])
  pollShutdown := fun sink =>
    ((writer.pollShutdown sink.1).1, (writer.pollShutdown sink.1).2, sink.2 ++ [.shutdown])
  fits := fun answered => writer.fits answered

def accepted (requests : List (WriteRequest α)) : List α :=
  requests.flatMap fun
    | .write accepted => accepted
    | _ => []

@[simp]
theorem accepted_append (earlier later : List (WriteRequest α)) :
    accepted (earlier ++ later) = accepted earlier ++ accepted later :=
  List.flatMap_append

@[simp]
theorem accepted_nil : accepted ([] : List (WriteRequest α)) = [] := rfl

@[simp]
theorem accepted_write (data : List α) : accepted [.write data] = data :=
  List.append_nil data

@[simp]
theorem accepted_flush : accepted ([.flush] : List (WriteRequest α)) = [] := rfl

@[simp]
theorem accepted_shutdown : accepted ([.shutdown] : List (WriteRequest α)) = [] := rfl

@[simp]
theorem recorded_pollWrite_log (writer : PolledWriter σ α ε) (sink : σ × List (WriteRequest α))
    (data : List α) :
    (writer.recorded.pollWrite sink data).2.2 =
      sink.2 ++ [.write (acceptedBy (writer.recorded.pollWrite sink data).1 data)] := rfl

@[simp]
theorem recorded_pollFlush_log (writer : PolledWriter σ α ε) (sink : σ × List (WriteRequest α)) :
    (writer.recorded.pollFlush sink).2.2 = sink.2 ++ [.flush] := rfl

@[simp]
theorem recorded_pollShutdown_log (writer : PolledWriter σ α ε)
    (sink : σ × List (WriteRequest α)) :
    (writer.recorded.pollShutdown sink).2.2 = sink.2 ++ [.shutdown] := rfl

end PolledWriter
