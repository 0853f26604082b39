import NgrokRust.AwaitedReads
import Mathlib.Data.List.Infix

/-!
# Reading until the bytes parse

A reader that asks for more until everything it has read parses.  Its only ways out are a
parse and a failed read.  So its result is decided by what it has after each read: the
first of these buffers that parses, or else how the stream ends behind the last.
-/

namespace Arrivals

variable {α β ε : Type*}

/-- Read until the whole buffer parses, in at most so many passes. At the end of the
stream a pass reads nothing and tries the same buffer again. -/
def readUntil (parse : List α → Option β) (room : Nat) :
    Nat → List α → Arrivals α ε → Option (Except ε β)
  | 0, _, _ => none
  | passes + 1, buf, stream =>
      match read room stream.ending stream.pieces with
      | none => none
      | some (.error error) => some (.error error)
      | some (.ok (symbols, stream)) =>
          match parse (buf ++ symbols) with
          | some value => some (.ok value)
          | none => readUntil parse room passes (buf ++ symbols) stream

/-- All that has been read after each read of at most one symbol and `more` others. -/
def buffers (more : Nat) (buf : List α) : List (List α) → List (List α)
  | [] => []
  | [] :: pieces => buffers more buf pieces
  | (symbol :: piece) :: pieces =>
      (buf ++ symbol :: piece.take more) ::
        buffers more (buf ++ symbol :: piece.take more) (piece.drop more :: pieces)
termination_by pieces => pieces.flatten.length + pieces.length

/-- The first of the buffers that parses, or else the end of the stream. -/
def outcome (parse : List α → Option β) (ending : ArrivalEnd ε) (bufs : List (List α)) :
    Option (Except ε β) :=
  match bufs.findSome? parse with
  | some value => some (.ok value)
  | none =>
      match ending with
      | .eof => none
      | .failed error => some (.error error)
      | .silence => none

theorem outcome_of_parsed {parse : List α → Option β} {ending : ArrivalEnd ε}
    {bufs : List (List α)} {value : β} (parsed : bufs.findSome? parse = some value) :
    outcome parse ending bufs = some (.ok value) := by
  simp only [outcome, parsed]

theorem outcome_of_unparsed {parse : List α → Option β} {ending : ArrivalEnd Empty}
    {bufs : List (List α)} (unparsed : bufs.findSome? parse = none) :
    outcome parse ending bufs = none := by
  simp only [outcome, unparsed]
  cases ending with
  | failed error => exact error.elim
  | eof | silence => rfl

theorem prefix_of_mem_buffers {more : Nat} {buf tried : List α} {pieces : List (List α)}
    (mem : tried ∈ buffers more buf pieces) : tried <+: buf ++ pieces.flatten := by
  induction buf, pieces using buffers.induct more with
  | case1 buf => simp [buffers] at mem
  | case2 buf pieces ih =>
      rw [buffers] at mem
      simpa using ih mem
  | case3 buf symbol piece pieces ih =>
      have split : buf ++ ((symbol :: piece) :: pieces).flatten =
          buf ++ symbol :: piece.take more ++ (piece.drop more :: pieces).flatten := by
        simp [← List.append_assoc (piece.take more)]
      rw [buffers, List.mem_cons] at mem
      rw [split]
      cases mem with
      | inl first => exact first ▸ List.prefix_append _ _
      | inr later => exact ih later

theorem length_buffers_le (more : Nat) (buf : List α) (pieces : List (List α)) :
    (buffers more buf pieces).length ≤ pieces.flatten.length := by
  induction buf, pieces using buffers.induct more with
  | case1 buf => simp [buffers]
  | case2 buf pieces ih =>
      rw [buffers]
      exact ih
  | case3 buf symbol piece pieces ih =>
      have taken : (piece.take more).length + (piece.drop more).length = piece.length := by
        rw [← List.length_append, List.take_append_drop]
      rw [buffers]
      simp only [List.length_cons, List.flatten_cons, List.length_append] at ih ⊢
      omega

/-- With the last piece the reader has everything. -/
theorem flatten_mem_buffers {more : Nat} {buf : List α} {pieces : List (List α)}
    (nonempty : pieces.flatten ≠ []) : buf ++ pieces.flatten ∈ buffers more buf pieces := by
  induction buf, pieces using buffers.induct more with
  | case1 buf => exact absurd rfl nonempty
  | case2 buf pieces ih =>
      rw [buffers]
      exact ih nonempty
  | case3 buf symbol piece pieces ih =>
      have split : buf ++ ((symbol :: piece) :: pieces).flatten =
          buf ++ symbol :: piece.take more ++ (piece.drop more :: pieces).flatten := by
        simp [← List.append_assoc (piece.take more)]
      rw [buffers, List.mem_cons, split]
      by_cases last : (piece.drop more :: pieces).flatten = []
      · left
        rw [last, List.append_nil]
      · right
        exact ih last

theorem readUntil_of_eof {parse : List α → Option β} {room : Nat} {buf : List α}
    (unparsed : parse buf = none) (passes : Nat) :
    readUntil parse room passes buf (⟨[], .eof⟩ : Arrivals α ε) = none := by
  induction passes with
  | zero => rfl
  | succ passes ih =>
      simp only [readUntil, read, List.append_nil, unparsed]
      exact ih

theorem readUntil_nil_cons {parse : List α → Option β} {room passes : Nat} {buf : List α}
    {pieces : List (List α)} {ending : ArrivalEnd ε} :
    readUntil parse room passes buf ⟨[] :: pieces, ending⟩ =
      readUntil parse room passes buf ⟨pieces, ending⟩ := by
  cases passes with
  | zero => rfl
  | succ passes => simp only [readUntil, read]

/-- With a pass for every read and one for the end, the loop has the outcome. -/
theorem readUntil_eq_outcome {parse : List α → Option β} {more passes : Nat} {buf : List α}
    {pieces : List (List α)} {ending : ArrivalEnd ε} (unparsed : parse buf = none)
    (enough : (buffers more buf pieces).length < passes) :
    readUntil parse (more + 1) passes buf ⟨pieces, ending⟩ =
      outcome parse ending (buffers more buf pieces) := by
  -- Along the reads the buffer never parses, or the loop would have ended before.
  induction buf, pieces using buffers.induct more generalizing passes with
  | case1 buf =>
      obtain ⟨passes, rfl⟩ : ∃ earlier, passes = earlier + 1 :=
        ⟨passes - 1, by omega⟩
      cases ending with
      | eof => simpa [buffers, outcome] using readUntil_of_eof unparsed (passes + 1)
      | failed error => simp [buffers, outcome, readUntil, read]
      | silence => simp [buffers, outcome, readUntil, read]
  | case2 buf pieces ih =>
      rw [buffers] at enough ⊢
      rw [readUntil_nil_cons]
      exact ih unparsed enough
  | case3 buf symbol piece pieces ih =>
      rw [buffers, List.length_cons] at enough
      rw [buffers]
      obtain ⟨passes, rfl⟩ : ∃ earlier, passes = earlier + 1 :=
        ⟨passes - 1, by omega⟩
      simp only [readUntil, read, List.take_succ_cons, List.drop_succ_cons]
      cases parsed : parse (buf ++ symbol :: piece.take more) with
      | some value => simp [outcome, parsed]
      | none =>
          rw [ih parsed (by omega)]
          simp [outcome, parsed]

theorem readUntil_mono {parse : List α → Option β} {room passes later : Nat} {buf : List α}
    {stream : Arrivals α ε} {result : Except ε β} (le : passes ≤ later)
    (returned : readUntil parse room passes buf stream = some result) :
    readUntil parse room later buf stream = some result := by
  induction passes generalizing later buf stream with
  | zero => cases returned
  | succ passes ih =>
      obtain ⟨later, rfl⟩ : ∃ earlier, later = earlier + 1 := ⟨later - 1, by omega⟩
      rw [readUntil] at returned ⊢
      split at returned
      · cases returned
      · exact returned
      · split at returned
        · exact returned
        · exact ih (by omega) returned

/-- The reader returns exactly the outcome of its buffers, and never if there is none. -/
theorem exists_readUntil_iff {parse : List α → Option β} {more : Nat} {stream : Arrivals α ε}
    {result : Except ε β} (unparsed : parse [] = none) :
    (∃ passes, readUntil parse (more + 1) passes [] stream = some result) ↔
      outcome parse stream.ending (buffers more [] stream.pieces) = some result := by
  have settled : ∀ passes, (buffers more [] stream.pieces).length < passes →
      readUntil parse (more + 1) passes [] stream =
        outcome parse stream.ending (buffers more [] stream.pieces) :=
    fun passes enough => readUntil_eq_outcome unparsed enough
  constructor
  · intro returns
    obtain ⟨passes, returned⟩ := returns
    rw [← settled (passes + (buffers more [] stream.pieces).length + 1) (by omega)]
    exact readUntil_mono (by omega) returned
  · intro decided
    exact ⟨_, (settled _ (Nat.lt_succ_self _)).trans decided⟩

end Arrivals
