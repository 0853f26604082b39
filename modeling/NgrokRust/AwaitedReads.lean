import Mathlib.Data.List.Basic

/-!
# Awaited reads

What a task sees of a stream that it reads to an answer, however long that takes: the
pieces in which the symbols arrive, and how the stream goes on behind them.  A read that
the stream never answers has no result.
-/

/-- Behind its pieces a stream is at its end, its reads fail, or it stays open for good. -/
inductive ArrivalEnd (ε : Type*) where
  | eof
  | failed (error : ε)
  | silence
deriving DecidableEq, Repr

inductive ReadFailure (ε : Type*) where
  | failed (error : ε)
  | unexpectedEof
deriving DecidableEq, Repr

structure Arrivals (α ε : Type*) where
  pieces : List (List α)
  ending : ArrivalEnd ε
deriving DecidableEq, Repr

namespace Arrivals

variable {α ε : Type*}

def symbols (arrivals : Arrivals α ε) : List α := arrivals.pieces.flatten

/-- Read up to `room` symbols, all from one piece; nothing stands for the end. -/
def read (room : Nat) (ending : ArrivalEnd ε) :
    List (List α) → Option (Except ε (List α × Arrivals α ε))
  | [] =>
      match ending with
      | .eof => some (.ok ([], ⟨[], .eof⟩))
      | .failed error => some (.error error)
      | .silence => none
  | [] :: pieces => read room ending pieces
  | piece :: pieces => some (.ok (piece.take room, ⟨piece.drop room :: pieces, ending⟩))

/-- Read exactly `need` symbols, with what was read so far put before them. -/
def readExact (ending : ArrivalEnd ε) (sofar : List α) (need : Nat) :
    List (List α) → Option (Except (ReadFailure ε) (List α × Arrivals α ε))
  | [] =>
      if need = 0 then some (.ok (sofar, ⟨[], ending⟩))
      else
        match ending with
        | .eof => some (.error .unexpectedEof)
        | .failed error => some (.error (.failed error))
        | .silence => none
  | piece :: pieces =>
      if need ≤ piece.length then
        some (.ok (sofar ++ piece.take need, ⟨piece.drop need :: pieces, ending⟩))
      else readExact ending (sofar ++ piece) (need - piece.length) pieces

/-- With enough symbols a read is answered by them, whatever the pieces. -/
theorem readExact_of_enough {ending : ArrivalEnd ε} {pieces : List (List α)} (sofar : List α)
    (need : Nat) (enough : need ≤ pieces.flatten.length) :
    ∃ rest : Arrivals α ε, readExact ending sofar need pieces =
        some (.ok (sofar ++ pieces.flatten.take need, rest)) ∧
      rest.symbols = pieces.flatten.drop need ∧ rest.ending = ending := by
  induction pieces generalizing sofar need with
  | nil =>
      have nothing : need = 0 := Nat.le_zero.1 enough
      exact ⟨⟨[], ending⟩, by simp [readExact, nothing], by simp [symbols], rfl⟩
  | cons piece pieces ih =>
      rw [List.flatten_cons, List.length_append] at enough
      rw [List.flatten_cons]
      by_cases inside : need ≤ piece.length
      · refine ⟨⟨piece.drop need :: pieces, ending⟩, ?_, ?_, rfl⟩
        · rw [readExact, if_pos inside, List.take_append_of_le_length inside]
        · rw [List.drop_append_of_le_length inside]
          rfl
      · have beyond : piece.length ≤ need := Nat.le_of_not_le inside
        obtain ⟨rest, answered, left, same⟩ :=
          ih (sofar ++ piece) (need - piece.length) (by omega)
        refine ⟨rest, ?_, ?_, same⟩
        · rw [readExact, if_neg inside, answered, List.take_append, List.take_of_length_le beyond,
            List.append_assoc]
        · rw [left, List.drop_append, List.drop_of_length_le beyond, List.nil_append]

theorem readExact_of_symbols {stream : Arrivals α ε} {need : Nat}
    (enough : need ≤ stream.symbols.length) :
    ∃ rest : Arrivals α ε, readExact stream.ending [] need stream.pieces =
        some (.ok (stream.symbols.take need, rest)) ∧
      rest.symbols = stream.symbols.drop need ∧ rest.ending = stream.ending :=
  readExact_of_enough [] need enough

/-- With too few symbols the answer depends on the end of the stream only. -/
theorem readExact_of_few {ending : ArrivalEnd ε} {sofar : List α} {need : Nat}
    {pieces : List (List α)} (few : pieces.flatten.length < need) :
    readExact ending sofar need pieces =
      match ending with
      | .eof => some (.error .unexpectedEof)
      | .failed error => some (.error (.failed error))
      | .silence => none := by
  induction pieces generalizing sofar need with
  | nil =>
      have more : need ≠ 0 := Nat.ne_of_gt few
      simp only [readExact, more, if_false]
  | cons piece pieces ih =>
      rw [List.flatten_cons, List.length_append] at few
      have beyond : ¬ need ≤ piece.length := by omega
      rw [readExact, if_neg beyond]
      exact ih (by omega)

/-- Read to the end, in at most so many passes. How much a pass asks for may depend on what
was read so far. -/
def readToEnd (room : List α → Nat) :
    Nat → List α → Arrivals α ε → Option (Except ε (List α))
  | 0, _, _ => none
  | passes + 1, buf, stream =>
      match read (room buf) stream.ending stream.pieces with
      | none => none
      | some (.error error) => some (.error error)
      | some (.ok (symbols, stream)) =>
          if symbols = [] then some (.ok buf) else readToEnd room passes (buf ++ symbols) stream

/-- All symbols, if the stream ends behind them. -/
def whole (stream : Arrivals α ε) : Option (Except ε (List α)) :=
  match stream.ending with
  | .eof => some (.ok stream.symbols)
  | .failed error => some (.error error)
  | .silence => none

theorem readToEnd_eq {room : List α → Nat} (positive : ∀ buf, 0 < room buf) {passes : Nat}
    {buf : List α} {stream : Arrivals α ε} (enough : stream.symbols.length < passes) :
    readToEnd room passes buf stream =
      (whole stream).map fun read => read.map (buf ++ ·) := by
  obtain ⟨pieces, ending⟩ := stream
  induction passes generalizing buf pieces with
  | zero => exact absurd enough (Nat.not_lt_zero _)
  | succ passes ih =>
      induction pieces with
      | nil => cases ending <;> simp [readToEnd, read, whole, symbols, Except.map]
      | cons piece pieces skip =>
          cases piece with
          | nil => exact skip enough
          | cons symbol piece =>
              obtain ⟨more, asked⟩ := Nat.exists_eq_add_of_lt (positive buf)
              have taken : (symbol :: piece).take (room buf) ≠ [] := by
                rw [asked, Nat.zero_add]
                exact List.cons_ne_nil _ _
              have split : (symbol :: piece).take (room buf) ++ (symbol :: piece).drop (room buf) =
                  symbol :: piece := List.take_append_drop _ _
              have fewer : (⟨(symbol :: piece).drop (room buf) :: pieces, ending⟩ :
                  Arrivals α ε).symbols.length < passes := by
                have lengths := congrArg List.length split
                have some := List.length_pos_iff.2 taken
                simp only [symbols, List.flatten_cons, List.length_append] at enough lengths ⊢
                omega
              simp only [readToEnd, read, taken, if_false]
              rw [ih _ fewer]
              have same : buf ++ (symbol :: piece).take (room buf) ++
                  ((symbol :: piece).drop (room buf) :: pieces).flatten =
                    buf ++ ((symbol :: piece) :: pieces).flatten := by
                rw [List.flatten_cons, List.flatten_cons, List.append_assoc,
                  ← List.append_assoc (List.take _ _), split]
              cases ending with
              | eof => simp only [whole, symbols, Option.map_some, Except.map, same]
              | failed | silence => rfl

theorem readToEnd_mono {room : List α → Nat} {passes later : Nat} {buf : List α}
    {stream : Arrivals α ε} {result : Except ε (List α)} (le : passes ≤ later)
    (returned : readToEnd room passes buf stream = some result) :
    readToEnd room later buf stream = some result := by
  induction passes generalizing later buf stream with
  | zero => cases returned
  | succ passes ih =>
      obtain ⟨later, rfl⟩ : ∃ earlier, later = earlier + 1 := ⟨later - 1, by omega⟩
      rw [readToEnd] at returned ⊢
      split at returned
      · cases returned
      · exact returned
      · split at returned
        · rename_i ended
          rw [if_pos ended]
          exact returned
        · rename_i more
          rw [if_neg more]
          exact ih (by omega) returned

/-- Reading to the end returns exactly if the stream ends, with all symbols or with the
failure. -/
theorem exists_readToEnd_iff {room : List α → Nat} (positive : ∀ buf, 0 < room buf)
    {stream : Arrivals α ε} {result : Except ε (List α)} :
    (∃ passes, readToEnd room passes [] stream = some result) ↔
      whole stream = some result := by
  have settled : ∀ passes, stream.symbols.length < passes →
      readToEnd room passes [] stream = whole stream := by
    intro passes enough
    rw [readToEnd_eq positive enough]
    cases whole stream with
    | none => rfl
    | some read => cases read <;> rfl
  constructor
  · rintro ⟨passes, returned⟩
    rw [← settled (passes + stream.symbols.length + 1) (by omega)]
    exact readToEnd_mono (by omega) returned
  · intro decided
    exact ⟨_, (settled _ (Nat.lt_succ_self _)).trans decided⟩

end Arrivals
