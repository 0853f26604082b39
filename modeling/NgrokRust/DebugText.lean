import Mathlib.Data.List.Infix

/-!
# Debug text

The text that a derived `Debug` writes, as a list of characters.  Which text a value has
is decided by its type alone, so a type with a constant text hides its values, and a type
with unambiguous text shows them: whatever follows the text, the value can be read off.
-/

namespace DebugText

/-- What the formatter takes from tables: the characters that a quoted string keeps as they
are, and the decimal form of a float. -/
structure Formatter (Float64 : Type*) where
  plain : Char → Bool
  float : Float64 → List Char

class Debug (Float64 : Type*) (α : Type*) where
  fmt : Formatter Float64 → α → List Char

open Debug

section Builders

def escapes : List (Char × Char) :=
  [('\x00', '0'), ('\t', 't'), ('\r', 'r'), ('\n', 'n'), ('\\', '\\'), ('"', '"')]

/-- One character of a quoted string. -/
def escapeDebug (plain : Char → Bool) (c : Char) : List Char :=
  match escapes.lookup c with
  | some tag => ['\\', tag]
  | none =>
      if plain c then [c]
      else ['\\', 'u', '\x7b'] ++ Nat.toDigits 16 c.toNat ++ ['\x7d']

def debugStr (plain : Char → Bool) (text : List Char) : List Char :=
  '"' :: (text.flatMap (escapeDebug plain) ++ ['"'])

def commaSeparated : List (List Char) → List Char
  | [] => []
  | text :: texts => text ++ texts.flatMap (fun other => ", ".toList ++ other)

def debugList (texts : List (List Char)) : List Char :=
  '[' :: (commaSeparated texts ++ [']'])

def debugMap (entries : List (List Char × List Char)) : List Char :=
  ['\x7b'] ++ commaSeparated (entries.map fun entry => entry.1 ++ ": ".toList ++ entry.2) ++
    ['\x7d']

def debugTuple (name : String) (text : List Char) : List Char :=
  name.toList ++ ['('] ++ text ++ [')']

/-- A struct with named fields; one without fields is its name alone. -/
def debugStruct (name : String) (fields : List (String × List Char)) : List Char :=
  if fields.isEmpty then name.toList
  else name.toList ++ [' ', '\x7b', ' '] ++
    commaSeparated (fields.map fun field => field.1.toList ++ ": ".toList ++ field.2) ++
    [' ', '\x7d']

theorem debugTuple_inj (name : String) {text text' : List Char} :
    debugTuple name text = debugTuple name text' ↔ text = text' := by
  simp [debugTuple]

theorem debugStruct_field (name : String) (before after : List (String × List Char))
    (field : String) {text text' : List Char} :
    debugStruct name (before ++ (field, text) :: after) =
      debugStruct name (before ++ (field, text') :: after) ↔ text = text' := by
  cases before with
  | nil => simp [debugStruct, commaSeparated]
  | cons first others => simp [debugStruct, commaSeparated]

end Builders

section Instances

variable {Float64 α β : Type*}

instance : Debug Float64 String := ⟨fun f text => debugStr f.plain text.toList⟩

instance : Debug Float64 Bool := ⟨fun _ value => if value then "true".toList else "false".toList⟩

instance : Debug Float64 UInt8 := ⟨fun _ value => Nat.toDigits 10 value.toNat⟩

instance : Debug Float64 Int := ⟨fun _ value => (toString value).toList⟩

instance [Debug Float64 α] : Debug Float64 (Option α) :=
  ⟨fun f value => match value with
    | none => "None".toList
    | some value => debugTuple "Some" (fmt f value)⟩

instance [Debug Float64 α] : Debug Float64 (List α) :=
  ⟨fun f values => debugList (values.map (fmt f))⟩

theorem fmt_some_inj [Debug Float64 α] (f : Formatter Float64) (first second : α) :
    fmt f (some first) = fmt f (some second) ↔ fmt f first = fmt f second :=
  debugTuple_inj "Some"

theorem fmt_some_ne_none [Debug Float64 α] (f : Formatter Float64) (value : α) :
    fmt f (some value) ≠ fmt f (none : Option α) := by
  simp [fmt, debugTuple]

theorem fmt_option_injective [Debug Float64 α] {f : Formatter Float64}
    (injective : Function.Injective (fmt f : α → List Char)) :
    Function.Injective (fmt f : Option α → List Char) := by
  intro first second same
  cases first with
  | none =>
      cases second with
      | none => rfl
      | some value => exact absurd same.symm (fmt_some_ne_none f value)
  | some value =>
      cases second with
      | none => exact absurd same (fmt_some_ne_none f value)
      | some other => rw [injective ((fmt_some_inj f value other).1 same)]

end Instances

section Unambiguous

def Boundary (text : List Char) : Prop :=
  ∀ c rest, text = c :: rest → c ∈ [',', ' ', ']', ')']

/-- The value can be read off its text, whatever follows it, and no text begins like the
end of a list. -/
structure Unambiguous {α : Type*} (render : α → List Char) : Prop where
  reads : ∀ {first second : α} {rest other : List Char}, Boundary rest → Boundary other →
    render first ++ rest = render second ++ other → first = second ∧ rest = other
  opens : ∀ (value : α) (rest other : List Char), render value ++ rest ≠ ']' :: other

theorem boundary_nil : Boundary [] := by simp [Boundary]

theorem boundary_cons {c : Char} {rest : List Char} (closes : c ∈ [',', ' ', ']', ')']) :
    Boundary (c :: rest) := by
  intro d others same
  cases same
  exact closes

theorem Unambiguous.injective {α : Type*} {render : α → List Char}
    (unambiguous : Unambiguous render) : Function.Injective render := by
  intro first second same
  exact (unambiguous.reads boundary_nil boundary_nil
    (show render first ++ [] = render second ++ [] by rw [same])).1

/-- Digits end where something else than a digit begins. -/
theorem eq_of_append_eq {p : Char → Prop} {first second rest other : List Char}
    (digits : ∀ c ∈ first, p c) (digits' : ∀ c ∈ second, p c)
    (ends : ∀ c tail, rest = c :: tail → ¬ p c) (ends' : ∀ c tail, other = c :: tail → ¬ p c)
    (same : first ++ rest = second ++ other) : first = second ∧ rest = other := by
  induction first generalizing second with
  | nil =>
      cases second with
      | nil => exact ⟨rfl, same⟩
      | cons c tail => exact absurd (digits' c (by simp)) (ends c _ same)
  | cons c tail ih =>
      cases second with
      | nil => exact absurd (digits c (by simp)) (ends' c _ same.symm)
      | cons d tail' =>
          simp only [List.cons_append, List.cons.injEq] at same
          obtain ⟨tails, rests⟩ := ih (fun c member => digits c (by simp [member]))
            (fun c member => digits' c (by simp [member])) same.2
          exact ⟨by rw [same.1, tails], rests⟩

theorem digitChar_inj {m n : Nat} (hm : m < 16) (hn : n < 16)
    (same : m.digitChar = n.digitChar) : m = n := by
  have every : ∀ i j : Fin 16, i.val.digitChar = j.val.digitChar → i = j := by decide
  exact congrArg Fin.val (every ⟨m, hm⟩ ⟨n, hn⟩ same)

theorem digitChar_ne {n : Nat} (hn : n < 16) : n.digitChar ≠ '\x7d' ∧ n.digitChar ≠ ']' := by
  have every : ∀ i : Fin 16, i.val.digitChar ≠ '\x7d' ∧ i.val.digitChar ≠ ']' := by decide
  exact every ⟨n, hn⟩

theorem toDigits_ne {b n : Nat} (base : 1 < b) (small : b ≤ 16) :
    ∀ c ∈ Nat.toDigits b n, c ≠ '\x7d' ∧ c ≠ ']' := by
  induction n using Nat.strong_induction_on with
  | _ n ih =>
      intro c member
      rw [Nat.toDigits_eq_if base] at member
      split at member
      · simp only [List.mem_singleton] at member
        rw [member]
        exact digitChar_ne (by omega)
      · rcases List.mem_append.1 member with front | last
        · exact ih (n / b) (Nat.div_lt_self (by omega) base) c front
        · simp only [List.mem_singleton] at last
          rw [last]
          exact digitChar_ne (lt_of_lt_of_le (Nat.mod_lt n (by omega)) small)

theorem toDigits_injective {b : Nat} (base : 1 < b) (small : b ≤ 16) :
    Function.Injective (Nat.toDigits b) := by
  intro m
  induction m using Nat.strong_induction_on with
  | _ m ih =>
      intro n same
      rw [Nat.toDigits_eq_if base, Nat.toDigits_eq_if (n := n) base] at same
      split at same <;> split at same
      · exact digitChar_inj (by omega) (by omega) (by simpa using same)
      · have nonempty := List.length_pos_of_ne_nil
          (Nat.toDigits_ne_nil (n := n / b) (b := b))
        have lengths := congrArg List.length same
        simp only [List.length_append, List.length_singleton] at lengths
        omega
      · have nonempty := List.length_pos_of_ne_nil
          (Nat.toDigits_ne_nil (n := m / b) (b := b))
        have lengths := congrArg List.length same
        simp only [List.length_append, List.length_singleton] at lengths
        omega
      · obtain ⟨fronts, lasts⟩ := List.append_inj' same rfl
        have quotients := ih (m / b) (Nat.div_lt_self (by omega) base) fronts
        have remainders := digitChar_inj (lt_of_lt_of_le (Nat.mod_lt m (by omega)) small)
          (lt_of_lt_of_le (Nat.mod_lt n (by omega)) small) (by simpa using lasts)
        rw [← Nat.div_add_mod m b, ← Nat.div_add_mod n b, quotients, remainders]

theorem unambiguous_uint8 {Float64 : Type*} (f : Formatter Float64) :
    Unambiguous (fmt f : UInt8 → List Char) where
  reads := by
    intro first second rest other ends ends' same
    have digits (n : Nat) : ∀ c ∈ Nat.toDigits 10 n, c.isDigit = true :=
      fun c member => Nat.isDigit_of_mem_toDigits (by omega) (by omega) member
    have stops {text : List Char} (boundary : Boundary text) :
        ∀ c tail, text = c :: tail → ¬ c.isDigit = true := by
      intro c tail shape
      have closes := boundary c tail shape
      simp only [List.mem_cons, List.not_mem_nil, or_false] at closes
      rcases closes with rfl | rfl | rfl | rfl <;> decide
    obtain ⟨numbers, rests⟩ :=
      eq_of_append_eq (digits _) (digits _) (stops ends) (stops ends') same
    exact ⟨UInt8.toNat_inj.1 (toDigits_injective (by omega) (by omega) numbers), rests⟩
  opens := by
    intro value rest other same
    have nonempty : Nat.toDigits 10 value.toNat ≠ [] := Nat.toDigits_ne_nil
    obtain ⟨c, tail, shape⟩ := List.exists_cons_of_ne_nil nonempty
    have digit := (toDigits_ne (b := 10) (n := value.toNat) (by omega) (by omega) c
      (by rw [shape]; exact List.mem_cons_self)).2
    simp only [fmt, shape, List.cons_append, List.cons.injEq] at same
    exact digit same.1

theorem hexDigits_reads {m n : Nat} {rest other : List Char}
    (same : Nat.toDigits 16 m ++ '\x7d' :: rest = Nat.toDigits 16 n ++ '\x7d' :: other) :
    m = n ∧ rest = other := by
  obtain ⟨numbers, rests⟩ := eq_of_append_eq (p := fun c => c ≠ '\x7d')
    (fun c member => (toDigits_ne (by omega) (by omega) c member).1)
    (fun c member => (toDigits_ne (by omega) (by omega) c member).1)
    (by rintro _ _ ⟨⟩; simp) (by rintro _ _ ⟨⟩; simp) same
  exact ⟨toDigits_injective (by omega) (by omega) numbers, (List.cons.inj rests).2⟩

theorem mem_of_lookup {α β : Type*} [BEq α] [LawfulBEq α] {pairs : List (α × β)} {key : α}
    {value : β} (found : pairs.lookup key = some value) : (key, value) ∈ pairs := by
  obtain ⟨before, after, rfl, _⟩ := List.lookup_eq_some_iff.1 found
  simp

theorem ne_of_lookup {c : Char} (missing : escapes.lookup c = none) : c ≠ '\\' ∧ c ≠ '"' := by
  constructor
  · rintro rfl
    exact absurd missing (by decide)
  · rintro rfl
    exact absurd missing (by decide)

theorem escapeDebug_forms (plain : Char → Bool) (c : Char) :
    (∃ tag, (c, tag) ∈ escapes ∧ escapeDebug plain c = ['\\', tag]) ∨
      (c ≠ '\\' ∧ c ≠ '"' ∧ escapeDebug plain c = [c]) ∨
      escapeDebug plain c = '\\' :: 'u' :: '\x7b' :: (Nat.toDigits 16 c.toNat ++ ['\x7d']) := by
  cases found : escapes.lookup c with
  | some tag => exact .inl ⟨tag, mem_of_lookup found, by simp only [escapeDebug, found]⟩
  | none =>
      by_cases keeps : plain c = true
      · exact .inr (.inl ⟨(ne_of_lookup found).1, (ne_of_lookup found).2,
          by simp only [escapeDebug, found, keeps, if_true]⟩)
      · exact .inr (.inr (by simp [escapeDebug, found, keeps]))

/-- The escape of one character is read before anything else. -/
theorem escapeDebug_reads (plain : Char → Bool) {c d : Char} {rest other : List Char}
    (same : escapeDebug plain c ++ rest = escapeDebug plain d ++ other) :
    c = d ∧ rest = other := by
  have tags : ∀ p ∈ escapes, p.2 ≠ 'u' := by decide
  have pairs : ∀ p ∈ escapes, ∀ q ∈ escapes, p.2 = q.2 → p.1 = q.1 := by decide
  rcases escapeDebug_forms plain c with ⟨tag, listed, shape⟩ | ⟨slash, _, shape⟩ | shape <;>
    rcases escapeDebug_forms plain d with ⟨tag', listed', shape'⟩ | ⟨slash', _, shape'⟩ | shape' <;>
    simp only [shape, shape', List.cons_append, List.nil_append, List.append_assoc,
      List.cons.injEq, true_and] at same
  · exact ⟨pairs _ listed _ listed' same.1, same.2⟩
  · exact absurd same.1.symm slash'
  · exact absurd same.1 (tags _ listed)
  · exact absurd same.1 slash
  · exact same
  · exact absurd same.1 slash
  · exact absurd same.1.symm (tags _ listed')
  · exact absurd same.1.symm slash'
  · obtain ⟨numbers, rests⟩ := hexDigits_reads same
    exact ⟨Char.toNat_inj.1 numbers, rests⟩

theorem escapeDebug_ne (plain : Char → Bool) (c : Char) (rest other : List Char) :
    escapeDebug plain c ++ rest ≠ '"' :: other := by
  rcases escapeDebug_forms plain c with ⟨tag, _, shape⟩ | ⟨_, quote, shape⟩ | shape
  · simp [shape]
  · simp [shape, quote]
  · simp [shape]

theorem flatMap_escapeDebug_reads (plain : Char → Bool) {text text' rest other : List Char}
    (same : text.flatMap (escapeDebug plain) ++ '"' :: rest =
      text'.flatMap (escapeDebug plain) ++ '"' :: other) : text = text' ∧ rest = other := by
  induction text generalizing text' with
  | nil =>
      cases text' with
      | nil => simpa using same
      | cons d tail =>
          rw [List.flatMap_cons, List.append_assoc] at same
          exact absurd same.symm (escapeDebug_ne plain d _ _)
  | cons c tail ih =>
      cases text' with
      | nil =>
          rw [List.flatMap_cons, List.append_assoc] at same
          exact absurd same (escapeDebug_ne plain c _ _)
      | cons d tail' =>
          simp only [List.flatMap_cons, List.append_assoc] at same
          obtain ⟨rfl, tails⟩ := escapeDebug_reads plain same
          obtain ⟨rfl, rests⟩ := ih tails
          exact ⟨rfl, rests⟩

theorem unambiguous_string {Float64 : Type*} (f : Formatter Float64) :
    Unambiguous (fmt f : String → List Char) where
  reads := by
    intro first second rest other _ _ same
    simp only [fmt, debugStr, List.cons_append, List.append_assoc, List.cons.injEq,
      true_and, List.nil_append] at same
    obtain ⟨texts, rests⟩ := flatMap_escapeDebug_reads f.plain same
    exact ⟨String.toList_inj.1 texts, rests⟩
  opens := by
    intro value rest other
    simp [fmt, debugStr]

/-- The entries of a list after the first one, up to the closing bracket. -/
theorem flatMap_comma_reads {α : Type*} {render : α → List Char}
    (entries : Unambiguous render) {values values' : List α} {rest other : List Char}
    (same : (values.map render).flatMap (fun text => ", ".toList ++ text) ++ ']' :: rest =
      (values'.map render).flatMap (fun text => ", ".toList ++ text) ++ ']' :: other) :
    values = values' ∧ rest = other := by
  have boundary (values : List α) (rest : List Char) :
      Boundary ((values.map render).flatMap (fun text => ", ".toList ++ text) ++ ']' :: rest) := by
    cases values with
    | nil => exact boundary_cons (by simp)
    | cons value tail =>
        rw [List.map_cons, List.flatMap_cons]
        exact boundary_cons (c := ',') (by simp)
  induction values generalizing values' with
  | nil =>
      cases values' with
      | nil => simpa using same
      | cons value' tail' => simp at same
  | cons value tail ih =>
      cases values' with
      | nil => simp at same
      | cons value' tail' =>
          simp only [List.map_cons, List.flatMap_cons, List.append_assoc,
            List.append_cancel_left_eq] at same
          obtain ⟨rfl, tails⟩ := entries.reads (boundary tail rest) (boundary tail' other) same
          obtain ⟨rfl, rests⟩ := ih tails
          exact ⟨rfl, rests⟩

theorem commaSeparated_reads {α : Type*} {render : α → List Char}
    (entries : Unambiguous render) {values values' : List α} {rest other : List Char}
    (same : commaSeparated (values.map render) ++ ']' :: rest =
      commaSeparated (values'.map render) ++ ']' :: other) :
    values = values' ∧ rest = other := by
  -- an entry does not begin like the end of the list, so the tails begin with a comma
  have begun (value : α) (tail : List α) (rest : List Char) :
      ", ".toList ++ (commaSeparated ((value :: tail).map render) ++ ']' :: rest) =
        ((value :: tail).map render).flatMap (fun text => ", ".toList ++ text) ++
          ']' :: rest := by
    simp [commaSeparated]
  cases values with
  | nil =>
      cases values' with
      | nil => simpa [commaSeparated] using same
      | cons value' tail' =>
          simp only [List.map_nil, commaSeparated, List.nil_append, List.map_cons,
            List.append_assoc] at same
          exact absurd same.symm (entries.opens value' _ _)
  | cons value tail =>
      cases values' with
      | nil =>
          simp only [List.map_nil, commaSeparated, List.nil_append, List.map_cons,
            List.append_assoc] at same
          exact absurd same (entries.opens value _ _)
      | cons value' tail' =>
          apply flatMap_comma_reads entries
          rw [← begun, ← begun, same]

theorem unambiguous_list {Float64 α : Type*} [Debug Float64 α] {f : Formatter Float64}
    (entries : Unambiguous (fmt f : α → List Char)) :
    Unambiguous (fmt f : List α → List Char) where
  reads := by
    intro first second rest other _ _ same
    simp only [fmt, debugList, List.cons_append, List.append_assoc, List.nil_append,
      List.cons.injEq, true_and] at same
    exact commaSeparated_reads entries same
  opens := by
    intro value rest other
    simp [fmt, debugList]

end Unambiguous

end DebugText
