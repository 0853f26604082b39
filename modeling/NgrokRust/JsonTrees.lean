import Mathlib.Data.List.Basic
import Mathlib.Data.String.Basic

/-!
# JSON trees and records

A JSON text stands for a tree whose objects keep their entries in order, also where a key
comes twice.  As a value of its own an object is a map: later entries replace earlier ones
and the keys are sorted.  A record is read from the entries one by one, with a default for
what is missing.
-/

namespace JsonTrees

/-- Numbers are those of the reader. -/
inductive Json (Num : Type*) where
  | null
  | bool (bool : Bool)
  | number (number : Num)
  | string (string : String)
  | array (items : List (Json Num))
  | object (entries : List (String × Json Num))

variable {Num : Type*} {α β : Type*}

/-- Insert into a sorted list, in the place of an entry with the same key. -/
def insertEntry (key : String) (value : α) : List (String × α) → List (String × α)
  | [] => [(key, value)]
  | entry :: entries =>
      if key < entry.1 then (key, value) :: entry :: entries
      else if key = entry.1 then (key, value) :: entries
      else entry :: insertEntry key value entries

def collect (entries : List (String × α)) : List (String × α) :=
  entries.foldl (fun map entry => insertEntry entry.1 entry.2 map) []

def SortedKeys (entries : List (String × α)) : Prop :=
  entries.Pairwise fun first second => first.1 < second.1

theorem key_of_mem_insertEntry {key : String} {value : α} {entries : List (String × α)}
    {entry : String × α} (mem : entry ∈ insertEntry key value entries) :
    entry.1 = key ∨ entry ∈ entries := by
  induction entries with
  | nil =>
      rw [insertEntry, List.mem_singleton] at mem
      exact .inl (congrArg Prod.fst mem)
  | cons first entries ih =>
      rw [insertEntry] at mem
      split at mem
      · obtain rfl | old := List.mem_cons.1 mem
        · exact .inl rfl
        · exact .inr old
      · split at mem
        · obtain rfl | old := List.mem_cons.1 mem
          · exact .inl rfl
          · exact .inr (List.mem_cons_of_mem _ old)
        · obtain rfl | later := List.mem_cons.1 mem
          · exact .inr List.mem_cons_self
          · exact (ih later).imp_right (List.mem_cons_of_mem _)

theorem sortedKeys_insertEntry {key : String} {value : α} {entries : List (String × α)}
    (sorted : SortedKeys entries) : SortedKeys (insertEntry key value entries) := by
  induction entries with
  | nil => exact List.pairwise_singleton _ _
  | cons first entries ih =>
      obtain ⟨below, rest⟩ := List.pairwise_cons.1 sorted
      rw [insertEntry]
      split
      · rename_i less
        refine List.pairwise_cons.2 ⟨?_, sorted⟩
        intro entry mem
        obtain rfl | later := List.mem_cons.1 mem
        · exact less
        · exact lt_trans less (below entry later)
      · split
        · rename_i same
          exact List.pairwise_cons.2 ⟨fun entry mem => same ▸ below entry mem, rest⟩
        · rename_i notLess differs
          have greater : first.1 < key := lt_of_le_of_ne (not_lt.1 notLess) (Ne.symm differs)
          refine List.pairwise_cons.2 ⟨?_, ih rest⟩
          intro entry mem
          obtain same | old := key_of_mem_insertEntry mem
          · rw [same]
            exact greater
          · exact below entry old

theorem insertEntry_of_above {key : String} {value : α} {entries : List (String × α)}
    (above : ∀ entry ∈ entries, entry.1 < key) :
    insertEntry key value entries = entries ++ [(key, value)] := by
  induction entries with
  | nil => rfl
  | cons first entries ih =>
      have less : first.1 < key := above first List.mem_cons_self
      rw [insertEntry, if_neg (not_lt_of_gt less), if_neg (ne_of_gt less),
        ih fun entry mem => above entry (List.mem_cons_of_mem _ mem), List.cons_append]

theorem sortedKeys_collect (entries : List (String × α)) : SortedKeys (collect entries) := by
  have general : ∀ (entries map : List (String × α)), SortedKeys map →
      SortedKeys (entries.foldl (fun map entry => insertEntry entry.1 entry.2 map) map) := by
    intro entries
    induction entries with
    | nil => exact fun _ sorted => sorted
    | cons entry entries ih => exact fun map sorted => ih _ (sortedKeys_insertEntry sorted)
  exact general entries [] List.Pairwise.nil

theorem collect_of_sortedKeys {entries : List (String × α)} (sorted : SortedKeys entries) :
    collect entries = entries := by
  have general : ∀ (entries map : List (String × α)), SortedKeys (map ++ entries) →
      entries.foldl (fun map entry => insertEntry entry.1 entry.2 map) map = map ++ entries := by
    intro entries
    induction entries with
    | nil => exact fun map _ => (List.append_nil map).symm
    | cons entry entries ih =>
        intro map sorted
        have above : ∀ old ∈ map, old.1 < entry.1 := fun old mem =>
          (List.pairwise_append.1 sorted).2.2 old mem entry List.mem_cons_self
        rw [List.foldl_cons, insertEntry_of_above above, ih _ (by simpa using sorted)]
        simp
  exact general entries [] sorted

theorem insertEntry_map (change : α → β) (key : String) (value : α)
    (entries : List (String × α)) :
    insertEntry key (change value) (entries.map (Prod.map id change)) =
      (insertEntry key value entries).map (Prod.map id change) := by
  induction entries with
  | nil => rfl
  | cons first entries ih =>
      simp only [List.map_cons, insertEntry, Prod.map_fst, id_eq]
      split
      · rfl
      · split
        · rfl
        · rw [ih]
          rfl

theorem collect_map (change : α → β) (entries : List (String × α)) :
    collect (entries.map (Prod.map id change)) =
      (collect entries).map (Prod.map id change) := by
  have general : ∀ (entries map : List (String × α)),
      (entries.map (Prod.map id change)).foldl
          (fun map entry => insertEntry entry.1 entry.2 map) (map.map (Prod.map id change)) =
        (entries.foldl (fun map entry => insertEntry entry.1 entry.2 map) map).map
          (Prod.map id change) := by
    intro entries
    induction entries with
    | nil => exact fun _ => rfl
    | cons entry entries ih =>
        intro map
        simp only [List.map_cons, List.foldl_cons, Prod.map_fst, Prod.map_snd, id_eq,
          insertEntry_map]
        exact ih _
  exact general entries []

mutual

/-- The value of a tree: at every depth objects become maps. -/
def Json.normal : Json Num → Json Num
  | .null => .null
  | .bool bool => .bool bool
  | .number number => .number number
  | .string string => .string string
  | .array items => .array (normalItems items)
  | .object entries => .object (collect (normalEntries entries))

def normalItems : List (Json Num) → List (Json Num)
  | [] => []
  | item :: items => item.normal :: normalItems items

def normalEntries : List (String × Json Num) → List (String × Json Num)
  | [] => []
  | (key, value) :: entries => (key, value.normal) :: normalEntries entries

end

theorem normalEntries_eq_map (entries : List (String × Json Num)) :
    normalEntries entries = entries.map (Prod.map id Json.normal) := by
  induction entries with
  | nil => rw [normalEntries, List.map_nil]
  | cons entry entries ih =>
      rw [normalEntries, ih, List.map_cons]
      rfl

mutual

theorem Json.normal_normal : ∀ json : Json Num, json.normal.normal = json.normal
  | .null => rfl
  | .bool _ => rfl
  | .number _ => rfl
  | .string _ => rfl
  | .array items => by
      rw [Json.normal, Json.normal, normalItems_normalItems items]
  | .object entries => by
      rw [Json.normal, Json.normal, normalEntries_eq_map (collect _), ← collect_map,
        ← normalEntries_eq_map, normalEntries_normalEntries entries,
        collect_of_sortedKeys (sortedKeys_collect _)]

theorem normalItems_normalItems : ∀ items : List (Json Num),
    normalItems (normalItems items) = normalItems items
  | [] => rfl
  | item :: items => by
      rw [normalItems, normalItems, item.normal_normal, normalItems_normalItems items]

theorem normalEntries_normalEntries : ∀ entries : List (String × Json Num),
    normalEntries (normalEntries entries) = normalEntries entries
  | [] => rfl
  | (key, value) :: entries => by
      rw [normalEntries, normalEntries, value.normal_normal,
        normalEntries_normalEntries entries]

end

/-- A tree that is its own value. -/
abbrev Value (Num : Type*) := { json : Json Num // json.normal = json }

def Json.toValue (json : Json Num) : Value Num := ⟨json.normal, json.normal_normal⟩

theorem Value.toValue_val (value : Value Num) : value.val.toValue = value :=
  Subtype.ext value.property

def Json.isObject : Json Num → Bool
  | .object _ => true
  | _ => false

abbrev Fields (Num ρ : Type*) := List (String × (ρ → Json Num → Option ρ))

variable {ρ : Type*}

/-- Read the entries of an object. Unknown keys are passed over, and no field may come
twice. -/
def readEntries (fields : Fields Num ρ) (seen : List String) (record : ρ) :
    List (String × Json Num) → Option ρ
  | [] => some record
  | (key, json) :: entries =>
      match fields.lookup key with
      | none => readEntries fields seen record entries
      | some set =>
          if key ∈ seen then none
          else
            match set record json with
            | none => none
            | some record => readEntries fields (key :: seen) record entries

/-- Read the fields in their order from an array, which may end early. -/
def readItems : Fields Num ρ → ρ → List (Json Num) → Option ρ
  | _, record, [] => some record
  | [], _, _ :: _ => none
  | (_, set) :: fields, record, json :: items =>
      match set record json with
      | none => none
      | some record => readItems fields record items

/-- Read a record. What is missing stays as in `start`. -/
def readRecord (fields : Fields Num ρ) (start : ρ) : Json Num → Option ρ
  | .object entries => readEntries fields [] start entries
  | .array items => readItems fields start items
  | _ => none

def readString : Json Num → Option String
  | .string string => some string
  | _ => none

def readAll (read : Json Num → Option α) : List (Json Num) → Option (List α)
  | [] => some []
  | json :: items =>
      match read json, readAll read items with
      | some value, some values => some (value :: values)
      | _, _ => none

def readArray (read : Json Num → Option α) : Json Num → Option (List α)
  | .array items => readAll read items
  | _ => none

@[simp]
theorem readEntries_nil (fields : Fields Num ρ) (seen : List String) (record : ρ) :
    readEntries fields seen record [] = some record := rfl

theorem readEntries_cons {fields : Fields Num ρ} {seen : List String} {record : ρ}
    {key : String} {json : Json Num} {entries : List (String × Json Num)}
    {set : ρ → Json Num → Option ρ} (known : fields.lookup key = some set)
    (fresh : key ∉ seen) :
    readEntries fields seen record ((key, json) :: entries) =
      (set record json).bind fun record => readEntries fields (key :: seen) record entries := by
  rw [readEntries, known]
  simp only [fresh, if_false]
  cases set record json <;> rfl

/-- What was written item by item is read if each of the items is. -/
theorem readAll_map {read : Json Num → Option α} {write : β → Json Num} {value : β → α}
    {good : β → Prop} [DecidablePred good]
    (each : ∀ item, read (write item) = if good item then some (value item) else none)
    (items : List β) :
    readAll read (items.map write) =
      if ∀ item ∈ items, good item then some (items.map value) else none := by
  induction items with
  | nil => simp [readAll]
  | cons item items ih =>
      rw [List.map_cons, readAll, each, ih]
      simp only [List.forall_mem_cons]
      by_cases first : good item
      · by_cases rest : ∀ item ∈ items, good item
        · rw [if_pos first, if_pos rest, if_pos ⟨first, rest⟩]
          rfl
        · have notBoth : ¬ (good item ∧ ∀ item ∈ items, good item) := fun all => rest all.2
          rw [if_pos first, if_neg rest, if_neg notBoth]
      · have notBoth : ¬ (good item ∧ ∀ item ∈ items, good item) := fun all => first all.1
        rw [if_neg first, if_neg notBoth]

theorem readAll_string (strings : List String) :
    readAll readString (strings.map (Json.string : String → Json Num)) = some strings := by
  induction strings with
  | nil => rfl
  | cons string strings ih => rw [List.map_cons, readAll, ih, readString]

/-- A printer and a parser of texts. -/
structure Text (Num : Type*) where
  print : Json Num → String
  parse : String → Option (Json Num)

/-- The text of a tree is parsed to the tree again, and it is a text. -/
structure Text.ReadsBack (text : Text Num) (json : Json Num) : Prop where
  parse_print : text.parse (text.print json) = some json
  print_ne_empty : text.print json ≠ ""

end JsonTrees
