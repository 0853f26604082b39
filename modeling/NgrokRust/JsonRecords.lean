import Mathlib.Data.List.Forall2
import NgrokRust.JsonTrees

/-!
# Formats of records

A format says how the values of a type are written as JSON and how they are read.  A record
is written as an object, with a member for each of its fields that is not left out.  It is
read from the members of an object by their keys, where unknown keys are passed over and no
known key may come twice, or from the items of an array by their positions.

What is sent as one value and received as another is followed through the formats from the
fields to the record.  In which order an object has its members, and what it has besides
the fields, makes no difference.
-/

namespace JsonTrees

variable {Num α β ρ : Type}

/-- What cannot be written has an error. -/
structure Format (Num α : Type) where
  write : α → Except String (Json Num)
  read : Json Num → Option α

namespace Format

/-- What is sent as the one value is received as the other. -/
def Carries (format : Format Num α) (sent received : α) : Prop :=
  ∃ json, format.write sent = .ok json ∧ format.read json = some received

def string : Format Num String := ⟨fun string => .ok (.string string), readString⟩

def bool : Format Num Bool where
  write bool := .ok (.bool bool)
  read
    | .bool bool => some bool
    | _ => none

/-- A type around another one, written like it. -/
def transparent (wrap : α → β) (inner : β → α) (format : Format Num α) : Format Num β where
  write value := format.write (inner value)
  read json := (format.read json).map wrap

def writeOption (write : α → Except String (Json Num)) : Option α → Except String (Json Num)
  | none => .ok .null
  | some value => write value

def readOption (read : Json Num → Option α) : Json Num → Option (Option α)
  | .null => some none
  | json => (read json).map some

def option (format : Format Num α) : Format Num (Option α) :=
  ⟨writeOption format.write, readOption format.read⟩

def array (format : Format Num α) : Format Num (List α) where
  write items := (items.mapM format.write).map .array
  read := readArray format.read

/-- Read the entries of a map, in which a later entry replaces an earlier one with the same
key. -/
def readValues (read : Json Num → Option α) :
    List (String × Json Num) → Option (List (String × α))
  | [] => some []
  | (key, json) :: entries =>
      match read json, readValues read entries with
      | some value, some values =>
          some (if key ∈ values.map Prod.fst then values else (key, value) :: values)
      | _, _ => none

def map (format : Format Num α) : Format Num (List (String × α)) where
  write entries :=
    (entries.mapM fun entry => (format.write entry.2).map (entry.1, ·)).map .object
  read
    | .object entries => readValues format.read entries
    | _ => none

variable {format : Format Num α}

@[simp]
theorem string_carries {text : String} : (string : Format Num String).Carries text text :=
  ⟨_, rfl, rfl⟩

@[simp]
theorem bool_carries {value : Bool} : (bool : Format Num Bool).Carries value value :=
  ⟨_, rfl, rfl⟩

theorem Carries.newtype {wrap : α → β} {inner : β → α} {sent : β} {received : α}
    (carried : format.Carries (inner sent) received) :
    (format.transparent wrap inner).Carries sent (wrap received) := by
  obtain ⟨json, written, back⟩ := carried
  exact ⟨json, written, congrArg (Option.map wrap) back⟩

/-- Nothing but a missing value is written as `null`. -/
theorem Carries.option {sent received : Option α} (notNull : format.read .null = none)
    (carried : Option.Rel format.Carries sent received) :
    format.option.Carries sent received := by
  cases carried with
  | none => exact ⟨.null, rfl, rfl⟩
  | some carried =>
      obtain ⟨json, written, back⟩ := carried
      refine ⟨json, written, ?_⟩
      cases json with
      | null =>
          rw [notNull] at back
          cases back
      | bool | number | string | array | object => simp [Format.option, readOption, back]

theorem Carries.array {sent received : List α}
    (carried : List.Forall₂ format.Carries sent received) :
    format.array.Carries sent received := by
  have all : ∃ items, sent.mapM format.write = .ok items ∧
      readAll format.read items = some received := by
    induction carried with
    | nil => exact ⟨[], rfl, rfl⟩
    | cons first _ ih =>
        obtain ⟨json, written, back⟩ := first
        obtain ⟨items, writtenItems, backItems⟩ := ih
        exact ⟨json :: items, by rw [List.mapM_cons, written, writtenItems]; rfl,
          by rw [readAll, back, backItems]⟩
  obtain ⟨items, written, back⟩ := all
  exact ⟨.array items, congrArg (Except.map Json.array) written, back⟩

theorem Carries.arrayOf {items : List α} (carried : ∀ item ∈ items, format.Carries item item) :
    format.array.Carries items items :=
  .array (List.forall₂_same.2 carried)

theorem map_carries {entries : List (String × α)} (distinct : (entries.map Prod.fst).Nodup)
    (carried : ∀ entry ∈ entries, format.Carries entry.2 entry.2) :
    format.map.Carries entries entries := by
  have all : ∃ written,
      entries.mapM (fun entry => (format.write entry.2).map (entry.1, ·)) = .ok written ∧
        readValues format.read written = some entries := by
    induction entries with
    | nil => exact ⟨[], rfl, rfl⟩
    | cons entry entries ih =>
        obtain ⟨key, value⟩ := entry
        rw [List.map_cons, List.nodup_cons] at distinct
        obtain ⟨first, others⟩ := List.forall_mem_cons.1 carried
        obtain ⟨json, written, back⟩ := first
        obtain ⟨items, writtenItems, backItems⟩ := ih distinct.2 others
        refine ⟨(key, json) :: items, ?_, ?_⟩
        · rw [List.mapM_cons, written, writtenItems]
          rfl
        · rw [readValues, back, backItems]
          simp only [distinct.1, if_false]
  obtain ⟨written, writes, back⟩ := all
  exact ⟨.object written, congrArg (Except.map Json.object) writes, back⟩

end Format

/-- What a record is read from. An array has its items in the order of the fields. -/
structure Members (Num : Type) where
  lookup : String → Option (Json Num)
  positional : Bool

/-- How a field is written, if it is not left out, and read from its member, if there is
one, which may be the item of an array. -/
structure Field (Num α : Type) where
  write : α → Except String (Option (Json Num))
  read : Bool → Option (Json Num) → Option α

namespace Field

/-- What is sent in the member of an object, or by leaving it out, is received. -/
def Carries (field : Field Num α) (sent received : α) : Prop :=
  ∃ member, field.write sent = .ok member ∧ field.read false member = some received

def required (format : Format Num α) : Field Num α where
  write value := (format.write value).map some
  read _ member := member.bind format.read

/-- A field of the type `Option`, which an object need not have. -/
def optional (format : Format Num α) : Field Num (Option α) where
  write value := (format.option.write value).map some
  read positional member :=
    if positional then member.bind format.option.read
    else member.elim (some none) format.option.read

/-- A field with a default, `#[serde(default)]`. -/
def defaulting (default : α) (format : Format Num α) : Field Num α where
  write value := (format.write value).map some
  read _ member := member.elim (some default) format.read

/-- A field with a default that is left out if it has it, `skip_serializing_if`. -/
def skipping (isDefault : α → Bool) (default : α) (format : Format Num α) : Field Num α where
  write value := if isDefault value then .ok none else (format.write value).map some
  read _ member := member.elim (some default) format.read

def unlessDefault [DecidableEq α] (default : α) (format : Format Num α) : Field Num α :=
  skipping (fun value => decide (value = default)) default format

end Field

namespace Format.Carries

variable {format : Format Num α}

theorem required {sent received : α} (carried : format.Carries sent received) :
    (Field.required format).Carries sent received := by
  obtain ⟨json, written, back⟩ := carried
  exact ⟨some json, congrArg (Except.map some) written, back⟩

theorem defaulting {default sent received : α}
    (carried : format.Carries sent received) :
    (Field.defaulting default format).Carries sent received := by
  obtain ⟨json, written, back⟩ := carried
  exact ⟨some json, congrArg (Except.map some) written, back⟩

end Format.Carries

namespace Field

variable {format : Format Num α}

theorem write_required_ok {value : α}
    (written : ∃ member, (required format).write value = .ok member) :
    ∃ json, format.write value = .ok json := by
  obtain ⟨member, written⟩ := written
  cases result : format.write value with
  | error error => simp [required, result, Except.map] at written
  | ok json => exact ⟨json, rfl⟩

theorem write_optional_ok {value : Option α}
    (written : ∃ member, (optional format).write value = .ok member) :
    ∀ item ∈ value, ∃ json, format.write item = .ok json := by
  obtain ⟨member, written⟩ := written
  rintro item rfl
  cases result : format.write item with
  | error error =>
      simp [optional, Format.option, Format.writeOption, result, Except.map] at written
  | ok json => exact ⟨json, rfl⟩

end Field

namespace Field.Carries

variable {format : Format Num α}

theorem optional {sent received : Option α} (notNull : format.read .null = none)
    (carried : Option.Rel format.Carries sent received) :
    (Field.optional format).Carries sent received := by
  obtain ⟨json, written, back⟩ := Format.Carries.option notNull carried
  exact ⟨some json, congrArg (Except.map some) written, back⟩

theorem optionalOf {value : Option α} (notNull : format.read .null = none)
    (carried : ∀ item ∈ value, format.Carries item item) :
    (Field.optional format).Carries value value := by
  refine optional notNull ?_
  cases value with
  | none => exact .none
  | some item => exact .some (carried item rfl)

theorem skipping {isDefault : α → Bool} {default sent received : α}
    (left : isDefault sent = true → received = default)
    (carried : isDefault sent = false → format.Carries sent received) :
    (Field.skipping isDefault default format).Carries sent received := by
  cases skipped : isDefault sent with
  | true => exact ⟨none, by simp [Field.skipping, skipped], by simp [Field.skipping, left skipped]⟩
  | false =>
      obtain ⟨json, written, back⟩ := carried skipped
      exact ⟨some json, by simp [Field.skipping, skipped, written, Except.map], back⟩

theorem unlessDefault [DecidableEq α] {default value : α}
    (carried : value ≠ default → format.Carries value value) :
    (Field.unlessDefault default format).Carries value value :=
  skipping of_decide_eq_true fun differs => carried (of_decide_eq_false differs)

end Field.Carries

/-- The first fields of a record, with what is made of them. A field is read from what is
under its key. -/
structure Record (Num ρ α : Type) where
  keys : List String
  write : ρ → Except String (List (String × Option (Json Num)))
  read : Members Num → Option α
  named : ∀ {value : ρ} {fields : List (String × Option (Json Num))},
    write value = .ok fields → fields.map Prod.fst = keys
  read_congr : ∀ {positional : Bool} {lookup other : String → Option (Json Num)},
    (∀ key ∈ keys, lookup key = other key) →
      read ⟨lookup, positional⟩ = read ⟨other, positional⟩

namespace Record

def start (make : α) : Record Num ρ α where
  keys := []
  write _ := .ok []
  read _ := some make
  named := by
    intro _ _ written
    cases written
    rfl
  read_congr _ := rfl

/-- One more field. -/
def field (record : Record Num ρ (α → β)) (key : String) (get : ρ → α)
    (field : Field Num α) : Record Num ρ β where
  keys := record.keys ++ [key]
  write value := do
    let fields ← record.write value
    let member ← field.write (get value)
    return fields ++ [(key, member)]
  read members := do
    let make ← record.read members
    let value ← field.read members.positional (members.lookup key)
    return make value
  named := by
    intro value fields written
    cases before : record.write value with
    | error error => simp [before, bind, Except.bind] at written
    | ok earlier =>
        cases here : field.write (get value) with
        | error error => simp [before, here, bind, Except.bind] at written
        | ok member =>
            simp only [before, here, bind, Except.bind, pure, Except.pure, Except.ok.injEq]
              at written
            rw [← written, List.map_append, record.named before]
            rfl
  read_congr same := by
    simp only [record.read_congr fun other mem => same other (List.mem_append_left _ mem),
      same key (List.mem_append_right _ (List.mem_singleton_self key))]

@[simp]
theorem keys_start (make : α) : (start make : Record Num ρ α).keys = [] := rfl

@[simp]
theorem keys_field (record : Record Num ρ (α → β)) (key : String) (get : ρ → α)
    (last : Field Num α) : (record.field key get last).keys = record.keys ++ [key] := rfl

theorem write_field_congr {record : Record Num ρ (α → β)} {key : String} {get : ρ → α}
    {last : Field Num α} {value other : ρ} (before : record.write value = record.write other)
    (here : last.write (get value) = last.write (get other)) :
    (record.field key get last).write value = (record.field key get last).write other := by
  simp only [field, before, here]

def present (fields : List (String × Option α)) : List (String × α) :=
  fields.filterMap fun field => field.2.map (field.1, ·)

/-- What is read of an object with these fields, or of an array with as many items at
most. -/
def members (keys : List String) : Json Num → Option (Members Num)
  | .object entries =>
      if ((entries.map Prod.fst).filter (· ∈ keys)).Nodup then
        some ⟨fun key => entries.lookup key, false⟩
      else none
  | .array items =>
      if items.length ≤ keys.length then some ⟨fun key => (keys.zip items).lookup key, true⟩
      else none
  | _ => none

def format (record : Record Num ρ ρ) : Format Num ρ where
  write value := (record.write value).map fun fields => .object (present fields)
  read json := (members record.keys json).bind record.read

/-- With every field under its key the record is received. -/
def Carries (record : Record Num ρ α) (sent : ρ) (received : α) : Prop :=
  ∃ fields, record.write sent = .ok fields ∧
    ∀ lookup, (∀ field ∈ fields, lookup field.1 = field.2) →
      record.read ⟨lookup, false⟩ = some received

theorem Carries.start (make : α) (sent : ρ) : (start make : Record Num ρ α).Carries sent make :=
  ⟨[], rfl, fun _ _ => rfl⟩

theorem Carries.field {record : Record Num ρ (α → β)} {key : String} {get : ρ → α}
    {last : Field Num α} {sent : ρ} {make : α → β} {received : α}
    (before : record.Carries sent make) (carried : last.Carries (get sent) received) :
    (record.field key get last).Carries sent (make received) := by
  obtain ⟨fields, written, back⟩ := before
  obtain ⟨member, writtenMember, backMember⟩ := carried
  refine ⟨fields ++ [(key, member)], ?_, ?_⟩
  · simp only [Record.field, written, writtenMember]
    rfl
  · intro lookup found
    have first : record.read ⟨lookup, false⟩ = some make :=
      back lookup fun other mem => found other (List.mem_append_left _ mem)
    have here : lookup key = member :=
      found (key, member) (List.mem_append_right _ (List.mem_singleton_self _))
    simp only [Record.field, first, here, backMember]
    rfl

/-- A field that cannot be written keeps the record from being written. -/
theorem write_field_ok {record : Record Num ρ (α → β)} {key : String} {get : ρ → α}
    {last : Field Num α} {value : ρ}
    (written : ∃ fields, (record.field key get last).write value = .ok fields) :
    (∃ fields, record.write value = .ok fields) ∧
      ∃ member, last.write (get value) = .ok member := by
  obtain ⟨fields, written⟩ := written
  simp only [Record.field] at written
  cases before : record.write value with
  | error error =>
      rw [before] at written
      cases written
  | ok earlier =>
      cases here : last.write (get value) with
      | error error =>
          rw [before, here] at written
          cases written
      | ok member => exact ⟨⟨earlier, rfl⟩, ⟨member, rfl⟩⟩

theorem write_format_ok {record : Record Num ρ ρ} {value : ρ}
    (written : ∃ json, record.format.write value = .ok json) :
    ∃ fields, record.write value = .ok fields := by
  obtain ⟨json, written⟩ := written
  cases result : record.write value with
  | error error => simp [Record.format, result, Except.map] at written
  | ok fields => exact ⟨fields, rfl⟩

theorem lookup_cons_of_ne {key other : String} (differs : key ≠ other) (value : α)
    (entries : List (String × α)) :
    ((other, value) :: entries).lookup key = entries.lookup key := by
  rw [List.lookup_cons, beq_eq_false_iff_ne.2 differs]

theorem keys_present_sublist (fields : List (String × Option α)) :
    ((present fields).map Prod.fst).Sublist (fields.map Prod.fst) := by
  induction fields with
  | nil => exact List.Sublist.refl _
  | cons field fields ih =>
      obtain ⟨key, value⟩ := field
      cases value with
      | none => exact ih.cons key
      | some value => exact ih.cons_cons key

theorem lookup_eq_none_of_notMem {entries : List (String × α)} {key : String}
    (absent : key ∉ entries.map Prod.fst) : entries.lookup key = none := by
  rw [List.lookup_eq_none_iff]
  intro entry mem
  rw [bne_iff_ne]
  rintro rfl
  exact absent (List.mem_map_of_mem mem)

theorem lookup_eq_some_of_mem {entries : List (String × α)} {entry : String × α}
    (distinct : (entries.map Prod.fst).Nodup) (mem : entry ∈ entries) :
    entries.lookup entry.1 = some entry.2 := by
  induction entries with
  | nil => cases mem
  | cons first entries ih =>
      rw [List.map_cons, List.nodup_cons] at distinct
      cases mem with
      | head => exact List.lookup_cons_self
      | tail _ later =>
          have differs : entry.1 ≠ first.1 := by
            intro same
            exact distinct.1 (same ▸ List.mem_map_of_mem later)
          exact (lookup_cons_of_ne differs first.2 entries).trans (ih distinct.2 later)

/-- Under each key there is what was written for it, if anything. -/
theorem lookup_present {fields : List (String × Option α)} (key : String)
    (distinct : (fields.map Prod.fst).Nodup) :
    (present fields).lookup key = (fields.lookup key).join := by
  induction fields with
  | nil => rfl
  | cons field fields ih =>
      obtain ⟨other, value⟩ := field
      rw [List.map_cons, List.nodup_cons] at distinct
      by_cases same : key = other
      · subst same
        have absent : key ∉ (present fields).map Prod.fst := fun mem =>
          distinct.1 ((keys_present_sublist fields).subset mem)
        cases value with
        | none => simpa [present] using lookup_eq_none_of_notMem absent
        | some value => simp [present]
      · rw [lookup_cons_of_ne same, ← ih distinct.2]
        cases value with
        | none => rfl
        | some value => exact lookup_cons_of_ne same value (present fields)

theorem Carries.format {record : Record Num ρ ρ} {sent received : ρ}
    (distinct : record.keys.Nodup) (carried : record.Carries sent received) :
    record.format.Carries sent received := by
  obtain ⟨fields, written, back⟩ := carried
  have apart : (fields.map Prod.fst).Nodup := record.named written ▸ distinct
  have once : (((present fields).map Prod.fst).filter (· ∈ record.keys)).Nodup :=
    (apart.sublist (keys_present_sublist fields)).filter _
  refine ⟨.object (present fields),
    congrArg (Except.map fun fields => Json.object (present fields)) written, ?_⟩
  simp only [Record.format, members, once, if_true, Option.bind_some]
  apply back
  intro field mem
  exact (lookup_present field.1 apart).trans
    (congrArg Option.join (lookup_eq_some_of_mem apart mem))

theorem lookup_filter {keys : List String} {key : String} (known : key ∈ keys)
    (entries : List (String × α)) :
    (entries.filter (·.1 ∈ keys)).lookup key = entries.lookup key := by
  induction entries with
  | nil => rfl
  | cons entry entries ih =>
      obtain ⟨other, value⟩ := entry
      by_cases same : key = other
      · subst same
        rw [List.filter_cons_of_pos (by simpa using known), List.lookup_cons_self,
          List.lookup_cons_self]
      · rw [lookup_cons_of_ne same, ← ih, List.filter_cons]
        split
        · exact lookup_cons_of_ne same value _
        · rfl

theorem lookup_perm {entries others : List (String × α)} (perm : entries.Perm others)
    (distinct : (entries.map Prod.fst).Nodup) (key : String) :
    entries.lookup key = others.lookup key := by
  by_cases mem : key ∈ entries.map Prod.fst
  · obtain ⟨entry, among, rfl⟩ := List.mem_map.1 mem
    rw [lookup_eq_some_of_mem distinct among, lookup_eq_some_of_mem
      ((perm.map Prod.fst).nodup_iff.1 distinct) (perm.mem_iff.1 among)]
  · rw [lookup_eq_none_of_notMem mem,
      lookup_eq_none_of_notMem fun among => mem ((perm.map Prod.fst).mem_iff.2 among)]

theorem map_fst_filter (keys : List String) (entries : List (String × α)) :
    (entries.map Prod.fst).filter (· ∈ keys) =
      (entries.filter (·.1 ∈ keys)).map Prod.fst := by
  rw [List.filter_map]
  rfl

/-- Two objects with the same members for the fields, in any order and whatever else they
have, are read alike. -/
theorem read_object_perm {record : Record Num ρ ρ} {entries others : List (String × Json Num)}
    (perm : (entries.filter (·.1 ∈ record.keys)).Perm
      (others.filter (·.1 ∈ record.keys))) :
    record.format.read (.object entries) = record.format.read (.object others) := by
  have keysPerm := perm.map Prod.fst
  simp only [format, members, map_fst_filter, keysPerm.nodup_iff]
  split
  · rename_i once
    simp only [Option.bind_some]
    apply record.read_congr
    intro key known
    have found := lookup_perm perm (keysPerm.nodup_iff.2 once) key
    rwa [lookup_filter known, lookup_filter known] at found
  · rfl

theorem insertEntry_perm {key : String} {value : α} {entries : List (String × α)}
    (fresh : key ∉ entries.map Prod.fst) :
    (insertEntry key value entries).Perm ((key, value) :: entries) := by
  induction entries with
  | nil => exact List.Perm.refl _
  | cons first entries ih =>
      obtain ⟨differs, later⟩ := not_or.1 (List.mem_cons.not.1 fresh)
      rw [insertEntry]
      split
      · exact List.Perm.refl _
      · exact ((ih later).cons first).trans (List.Perm.swap _ _ _)

/-- A map has the entries that it was collected from, if no key comes twice. -/
theorem collect_perm {entries : List (String × α)} (distinct : (entries.map Prod.fst).Nodup) :
    (collect entries).Perm entries := by
  have general : ∀ (entries map : List (String × α)), ((map ++ entries).map Prod.fst).Nodup →
      (entries.foldl (fun map entry => insertEntry entry.1 entry.2 map) map).Perm
        (map ++ entries) := by
    intro entries
    induction entries with
    | nil => exact fun map _ => by simp
    | cons entry entries ih =>
        intro map distinct
        have moved : (map ++ entry :: entries).Perm (entry :: (map ++ entries)) :=
          List.perm_middle
        have apart := (moved.map Prod.fst).nodup_iff.1 distinct
        have fresh : entry.1 ∉ map.map Prod.fst := by
          intro mem
          refine (List.nodup_cons.1 apart).1 ?_
          rw [List.map_append]
          exact List.mem_append_left _ mem
        have grown : (insertEntry entry.1 entry.2 map).Perm (entry :: map) :=
          insertEntry_perm fresh
        have joined : (insertEntry entry.1 entry.2 map ++ entries).Perm
            (map ++ entry :: entries) := (grown.append_right entries).trans moved.symm
        refine (ih _ ?_).trans joined
        exact (joined.map Prod.fst).nodup_iff.2 distinct
  exact general entries [] distinct

/-- An object is read like its value, if no key comes twice and its members are values. -/
theorem read_normal {record : Record Num ρ ρ} {entries written : List (String × Json Num)}
    (distinct : (entries.map Prod.fst).Nodup)
    (perm : (entries.filter (·.1 ∈ record.keys)).Perm
      (written.filter (·.1 ∈ record.keys)))
    (normal : ∀ entry ∈ written, entry.2.normal = entry.2) :
    record.format.read (Json.object entries).normal = record.format.read (.object written) := by
  have keys : (entries.map (Prod.map id Json.normal)).map Prod.fst = entries.map Prod.fst := by
    rw [List.map_map]
    rfl
  rw [Json.normal, normalEntries_eq_map]
  refine read_object_perm (((collect_perm (by rwa [keys])).filter _).trans ?_)
  have same : (entries.map (Prod.map id Json.normal)).filter (·.1 ∈ record.keys) =
      (entries.filter (·.1 ∈ record.keys)).map (Prod.map id Json.normal) := by
    rw [List.filter_map]
    rfl
  have kept : (written.filter (·.1 ∈ record.keys)).map (Prod.map id Json.normal) =
      written.filter (·.1 ∈ record.keys) := by
    rw [List.map_congr_left fun entry mem => ?_, List.map_id]
    exact Prod.ext rfl (normal entry (List.mem_of_mem_filter mem))
  rw [same, ← kept]
  exact perm.map _

end Record

end JsonTrees
