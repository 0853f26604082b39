import Mathlib.Data.List.Basic

/-!
# Lines of a text

A text is cut into its lines at the line feeds, where a carriage return before the line feed
belongs to the ending.  A last line without an ending counts if it is not empty.
-/

namespace TextLines

def stripCr (line : List Char) : List Char :=
  if line.getLast? = some '\r' then line.dropLast else line

/-- The lines, where `line` is what the first one begins with. -/
def linesFrom (line : List Char) : List Char → List (List Char)
  | [] => if line = [] then [] else [line]
  | char :: text =>
      if char = '\n' then stripCr line :: linesFrom [] text
      else linesFrom (line ++ [char]) text

/-- `str::lines`. -/
def lines (text : List Char) : List (List Char) := linesFrom [] text

/-- `join("\n")`. -/
def joinLines : List (List Char) → List Char
  | [] => []
  | [line] => line
  | line :: next :: lines => line ++ '\n' :: joinLines (next :: lines)

def Clean (line : List Char) : Prop := '\n' ∉ line ∧ line.getLast? ≠ some '\r'

instance (line : List Char) : Decidable (Clean line) := inferInstanceAs (Decidable (_ ∧ _))

theorem stripCr_of_ne {line : List Char} (ends : line.getLast? ≠ some '\r') :
    stripCr line = line := if_neg ends

theorem linesFrom_append_lf {line more text : List Char} (one : '\n' ∉ more) :
    linesFrom line (more ++ '\n' :: text) = stripCr (line ++ more) :: linesFrom [] text := by
  induction more generalizing line with
  | nil => simp [linesFrom]
  | cons char more ih =>
      obtain ⟨differs, rest⟩ := not_or.1 (List.mem_cons.not.1 one)
      rw [List.cons_append, linesFrom, if_neg (Ne.symm differs), ih rest, List.append_assoc,
        List.singleton_append]

theorem linesFrom_of_no_lf {line more : List Char} (one : '\n' ∉ more) :
    linesFrom line more = if line ++ more = [] then [] else [line ++ more] := by
  induction more generalizing line with
  | nil => simp [linesFrom]
  | cons char more ih =>
      obtain ⟨differs, rest⟩ := not_or.1 (List.mem_cons.not.1 one)
      rw [linesFrom, if_neg (Ne.symm differs), ih rest, List.append_assoc,
        List.singleton_append]

theorem notMem_of_mem_linesFrom {line text found : List Char} (one : '\n' ∉ line)
    (mem : found ∈ linesFrom line text) : '\n' ∉ found := by
  induction text generalizing line with
  | nil =>
      rw [linesFrom] at mem
      split at mem
      · cases mem
      · exact List.mem_singleton.1 mem ▸ one
  | cons char text ih =>
      rw [linesFrom] at mem
      split at mem
      · cases mem with
        | head =>
            unfold stripCr
            split
            · exact fun inside => one (List.dropLast_subset line inside)
            · exact one
        | tail _ later => exact ih (by simp) later
      · rename_i differs
        refine ih ?_ mem
        rw [List.mem_append, List.mem_singleton]
        rintro (inside | same)
        · exact one inside
        · exact differs same.symm

theorem notMem_of_mem_lines {text line : List Char} (mem : line ∈ lines text) : '\n' ∉ line :=
  notMem_of_mem_linesFrom (by simp) mem

/-- Lines that are joined are read again, as long as the last one is not empty. -/
theorem lines_joinLines {rows : List (List Char)} (clean : ∀ row ∈ rows, Clean row)
    (last : rows.getLast? ≠ some []) : lines (joinLines rows) = rows := by
  induction rows with
  | nil => rfl
  | cons row rows ih =>
      obtain ⟨first, others⟩ := List.forall_mem_cons.1 clean
      cases rows with
      | nil =>
          have nonempty : row ≠ [] := by simpa using last
          rw [joinLines, lines, linesFrom_of_no_lf first.1, List.nil_append, if_neg nonempty]
      | cons next rows =>
          rw [List.getLast?_cons_cons] at last
          rw [joinLines, lines, linesFrom_append_lf first.1, List.nil_append,
            stripCr_of_ne first.2]
          exact congrArg (row :: ·) (ih others last)

theorem joinLines_append {first second : List (List Char)} (some : first ≠ [])
    (more : second ≠ []) :
    joinLines (first ++ second) = joinLines first ++ '\n' :: joinLines second := by
  induction first with
  | nil => exact absurd rfl some
  | cons row first ih =>
      cases first with
      | nil =>
          obtain ⟨next, rows, rfl⟩ := List.exists_cons_of_ne_nil more
          rfl
      | cons next rows =>
          rw [List.cons_append, List.cons_append, joinLines, joinLines, List.append_assoc,
            List.cons_append, ← ih (by simp), List.cons_append]

end TextLines
