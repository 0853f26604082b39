import NgrokRust.BoundedChannel

/-!
# Polled readers

A reader is polled with some room in a buffer.  One poll fills a part of the room
and answers that it is done, that it has to wait, or an error; nothing is said about
how these answers follow each other.  Deliveries are the readers over a fixed list of
symbols that ends with the list: a script says how many symbols each poll hands out
and which polls have to wait.
-/

/-- The symbols one poll put into the buffer, and its answer. -/
structure ReadAttempt (α ε : Type*) where
  filled : List α
  polled : Poll (Except ε Unit)
deriving DecidableEq

/-- A reader never fills more than the room it was given. -/
structure PolledReader (σ α ε : Type*) where
  pollRead : σ → Nat → ReadAttempt α ε × σ
  fits : ∀ source room, (pollRead source room).1.filled.length ≤ room

namespace PolledReader

variable {σ α ε : Type*}

/-- The same reader, with everything it ever handed out on record. -/
def recorded (reader : PolledReader σ α ε) : PolledReader (σ × List α) α ε where
  pollRead := fun source room =>
    ((reader.pollRead source.1 room).1,
      (reader.pollRead source.1 room).2,
      source.2 ++ (reader.pollRead source.1 room).1.filled)
  fits := fun source room => reader.fits source.1 room

@[simp]
theorem recorded_record (reader : PolledReader σ α ε) (source : σ × List α) (room : Nat) :
    (reader.recorded.pollRead source room).2.2 =
      source.2 ++ (reader.recorded.pollRead source room).1.filled := rfl

end PolledReader

/-- Symbols that are still to be read, and a script for the next polls: `none` has to
wait, and `some extra` hands out up to `extra + 1` symbols. After the script every poll
hands out what fits. -/
structure Delivery (α : Type*) where
  rest : List α
  script : List (Option Nat)
deriving DecidableEq

namespace Delivery

variable {α : Type*}

def pollRead (ε : Type*) (delivery : Delivery α) (room : Nat) : ReadAttempt α ε × Delivery α :=
  match delivery.script with
  | none :: script => (⟨[], .pending⟩, ⟨delivery.rest, script⟩)
  | some extra :: script =>
      (⟨delivery.rest.take (min (extra + 1) room), .ready (.ok ())⟩,
        ⟨delivery.rest.drop (min (extra + 1) room), script⟩)
  | [] => (⟨delivery.rest.take room, .ready (.ok ())⟩, ⟨delivery.rest.drop room, []⟩)

def reader (α ε : Type*) : PolledReader (Delivery α) α ε where
  pollRead := pollRead ε
  fits := by
    intro delivery room
    unfold pollRead
    split
    · exact Nat.zero_le room
    · simp only [List.length_take]
      omega
    · simp only [List.length_take]
      omega

/-- A poll hands out a part of the rest, and of a rest that is not empty at least one
symbol unless it has to wait. -/
theorem pollRead_cases {ε : Type*} (delivery : Delivery α) {room : Nat} (space : 0 < room) :
    let read := (reader α ε).pollRead delivery room
    read.1.filled ++ read.2.rest = delivery.rest ∧
      (read.1.polled = .pending ∧ read.1.filled = [] ∧
          read.2.script.length < delivery.script.length ∨
        read.1.polled = .ready (.ok ()) ∧ (read.1.filled = [] → delivery.rest = []) ∧
          read.2.script.length ≤ delivery.script.length) := by
  obtain ⟨rest, script⟩ := delivery
  cases script with
  | nil =>
      refine ⟨List.take_append_drop room rest, .inr ⟨rfl, fun empty => ?_, Nat.le_refl 0⟩⟩
      exact (List.take_eq_nil_iff.1 empty).resolve_left (by omega)
  | cons entry script =>
      cases entry with
      | none => exact ⟨rfl, .inl ⟨rfl, rfl, Nat.lt_succ_self script.length⟩⟩
      | some extra =>
          refine ⟨List.take_append_drop (min (extra + 1) room) rest,
            .inr ⟨rfl, fun empty => ?_, Nat.le_succ script.length⟩⟩
          exact (List.take_eq_nil_iff.1 empty).resolve_left (by omega)

end Delivery
