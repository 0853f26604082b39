import NgrokRust.JsonTrees
import NgrokRust.ProtoMessages

/-!
# Traffic policies on the wire

A policy is sent as JSON in a string.  The configuration of an action travels as bytes: a
JSON value is printed into them, they are parsed and made part of the JSON that is sent,
and on the other side a JSON object is read and printed into bytes again.
-/

namespace NgrokRust

open JsonTrees

variable {Num : Type*}

/-- The bytes of a `String`. -/
def utf8 (string : String) : List UInt8 := string.toUTF8.data.toList

/-- `serde_json::from_slice`. -/
def fromSlice (text : Text Num) (bytes : List UInt8) : Option (Value Num) :=
  match String.fromUTF8? ⟨bytes.toArray⟩ with
  | none => none
  | some string => (text.parse string).map Json.toValue

theorem fromUTF8?_utf8 (string : String) :
    String.fromUTF8? ⟨(utf8 string).toArray⟩ = some string := by
  have same : (⟨(utf8 string).toArray⟩ : ByteArray) = string.toUTF8 := by
    simp [utf8]
  rw [same]
  exact dif_pos string.isValidUTF8

theorem utf8_ne_nil {string : String} (nonempty : string ≠ "") : utf8 string ≠ [] := by
  intro empty
  have decoded := fromUTF8?_utf8 string
  rw [empty, show String.fromUTF8? ⟨([] : List UInt8).toArray⟩ = some "" by decide] at decoded
  exact nonempty (Option.some.inj decoded).symm

namespace Policies

structure Action (Num : Type*) where
  type_ : String
  config : Option (Value Num)

structure Rule (Num : Type*) where
  name : String
  expressions : List String
  actions : List (Action Num)

structure Policy (Num : Type*) where
  inbound : List (Rule Num)
  outbound : List (Rule Num)

inductive InvalidPolicy where
  | serializationError
deriving DecidableEq

def Action.new (text : Text Num) (type_ : String) :
    Option String → Except InvalidPolicy (Action Num)
  | none => .ok ⟨type_, none⟩
  | some config =>
      match text.parse config with
      | some json => .ok ⟨type_, some json.toValue⟩
      | none => .error .serializationError

variable (text : Text Num)

def Action.toProto (action : Action Num) : Proto.Action where
  type_ := action.type_
  config := (action.config.map fun config => utf8 (text.print config.val)).getD []

def Rule.toProto (rule : Rule Num) : Proto.Rule where
  name := rule.name
  expressions := rule.expressions
  actions := rule.actions.map (·.toProto text)

def Policy.toProto (policy : Policy Num) : Proto.Policy where
  inbound := policy.inbound.map (·.toProto text)
  outbound := policy.outbound.map (·.toProto text)

end Policies

namespace Proto

variable (text : Text Num)

/-- `vec_to_json::serialize`. -/
def serializeConfig (config : List UInt8) : Except String (Json Num) :=
  match fromSlice text config with
  | some value => .ok value.val
  | none => .error "Config is invalid JSON"

/-- `vec_to_json::deserialize`. -/
def deserializeConfig : Json Num → Option (List UInt8)
  | .object entries => some (utf8 (text.print (Json.object entries).normal))
  | _ => none

/-- An empty `config` is left out. -/
def Action.serialize (action : Action) : Except String (Json Num) :=
  if action.config = [] then .ok (.object [("Type", .string action.type_)])
  else (serializeConfig text action.config).map fun config =>
    .object [("Type", .string action.type_), ("Config", config)]

def Rule.serialize (rule : Rule) : Except String (Json Num) :=
  (rule.actions.mapM (Action.serialize text)).map fun actions =>
    .object [("Name", .string rule.name), ("Expressions", .array (rule.expressions.map .string)),
      ("Actions", .array actions)]

def Policy.serialize (policy : Policy) : Except String (Json Num) := do
  let inbound ← policy.inbound.mapM (Rule.serialize text)
  let outbound ← policy.outbound.mapM (Rule.serialize text)
  return .object [("Inbound", .array inbound), ("Outbound", .array outbound)]

def serializePolicy (policy : Policy) : Except String (Json Num) :=
  match Policy.serialize text policy with
  | .ok json => .ok (.string (text.print json))
  | .error _ => .error "policy could not be converted to valid json"

def PolicyWrapper.serialize : PolicyWrapper → Except String (Json Num)
  | .policy value => serializePolicy text value
  | .string value => .ok (.string value)

def Action.fields : Fields Num Action :=
  [("Type", fun action json => (readString json).map fun type_ => { action with type_ := type_ }),
    ("Config", fun action json =>
      (deserializeConfig text json).map fun config => { action with config := config })]

def Action.deserialize (json : Json Num) : Option Action :=
  readRecord (Action.fields text) ⟨"", []⟩ json

def Rule.fields : Fields Num Rule :=
  [("Name", fun rule json => (readString json).map fun name => { rule with name := name }),
    ("Expressions", fun rule json =>
      (readArray readString json).map fun expressions => { rule with expressions := expressions }),
    ("Actions", fun rule json => (readArray (Action.deserialize text) json).map fun actions =>
      { rule with actions := actions })]

def Rule.deserialize (json : Json Num) : Option Rule :=
  readRecord (Rule.fields text) ⟨"", [], []⟩ json

def Policy.fields : Fields Num Policy :=
  [("Inbound", fun policy json => (readArray (Rule.deserialize text) json).map fun inbound =>
      { policy with inbound := inbound }),
    ("Outbound", fun policy json => (readArray (Rule.deserialize text) json).map fun outbound =>
      { policy with outbound := outbound })]

def Policy.deserialize (json : Json Num) : Option Policy :=
  readRecord (Policy.fields text) ⟨[], []⟩ json

def readWire (wire : String) : Option Policy :=
  match text.parse wire with
  | some (.string policy) => (text.parse policy).bind (Policy.deserialize text)
  | _ => none

end Proto

/-- A policy is serialized, and what is read on the other side is the same policy. -/
def Survives (text : Text Num) (policy : Policies.Policy Num) : Prop :=
  ∃ wire, (Proto.PolicyWrapper.serialize text (.policy (policy.toProto text))) = .ok wire ∧
    Proto.readWire text (text.print wire) = some (policy.toProto text)

namespace Policies

def Action.Readable (action : Action Num) : Prop :=
  ∀ config ∈ action.config, config.val.isObject = true

instance (action : Action Num) : Decidable action.Readable :=
  inferInstanceAs (Decidable (∀ config ∈ action.config, _))

def Rule.Readable (rule : Rule Num) : Prop := ∀ action ∈ rule.actions, action.Readable

instance (rule : Rule Num) : Decidable rule.Readable :=
  inferInstanceAs (Decidable (∀ action ∈ rule.actions, _))

/-- The JSON of an action, with its configuration as it was given. -/
def Action.json (action : Action Num) : Json Num :=
  match action.config with
  | none => .object [("Type", .string action.type_)]
  | some config => .object [("Type", .string action.type_), ("Config", config.val)]

def Rule.json (rule : Rule Num) : Json Num :=
  .object [("Name", .string rule.name), ("Expressions", .array (rule.expressions.map .string)),
    ("Actions", .array (rule.actions.map Action.json))]

def Policy.json (policy : Policy Num) : Json Num :=
  .object [("Inbound", .array (policy.inbound.map Rule.json)),
    ("Outbound", .array (policy.outbound.map Rule.json))]

end Policies

/-- `serde_json` parses what it prints of this policy: the configurations, the policy, and
the string that the policy is sent in. -/
structure Carried (text : Text Num) (policy : Policies.Policy Num) : Prop where
  configs : ∀ rule ∈ policy.inbound ++ policy.outbound, ∀ action ∈ rule.actions,
    ∀ config ∈ action.config, text.ReadsBack config.val
  whole : text.ReadsBack policy.json
  wire : text.ReadsBack (.string (text.print policy.json))

section RoundTrip

variable {text : Text Num}

theorem mapM_ok {α β : Type*} {serialize : β → Except String (Json Num)} {toProto : α → β}
    {json : α → Json Num} {items : List α}
    (each : ∀ item ∈ items, serialize (toProto item) = .ok (json item)) :
    (items.map toProto).mapM serialize = .ok (items.map json) := by
  induction items with
  | nil => rfl
  | cons item items ih =>
      obtain ⟨first, others⟩ := List.forall_mem_cons.1 each
      rw [List.map_cons, List.mapM_cons, first, ih others]
      rfl

theorem fromSlice_utf8_print {value : Value Num} (back : text.ReadsBack value.val) :
    fromSlice text (utf8 (text.print value.val)) = some value := by
  rw [fromSlice, fromUTF8?_utf8]
  simp only [back.parse_print, Option.map_some, value.toValue_val]

theorem serialize_action {action : Policies.Action Num}
    (configs : ∀ config ∈ action.config, text.ReadsBack config.val) :
    Proto.Action.serialize text (action.toProto text) = .ok action.json := by
  obtain ⟨type_, config⟩ := action
  cases config with
  | none => rfl
  | some config =>
      have back : text.ReadsBack config.val := configs config rfl
      have present : utf8 (text.print config.val) ≠ [] := utf8_ne_nil back.print_ne_empty
      simp only [Policies.Action.toProto, Option.map_some, Option.getD_some, Proto.Action.serialize,
        present, if_false, Proto.serializeConfig, fromSlice_utf8_print back]
      rfl

theorem serialize_rule {rule : Policies.Rule Num}
    (configs : ∀ action ∈ rule.actions, ∀ config ∈ action.config, text.ReadsBack config.val) :
    Proto.Rule.serialize text (rule.toProto text) = .ok rule.json := by
  have actions : (rule.actions.map (Policies.Action.toProto text)).mapM
      (Proto.Action.serialize text) = .ok (rule.actions.map Policies.Action.json) :=
    mapM_ok fun action mem => serialize_action (configs action mem)
  simp only [Proto.Rule.serialize, Policies.Rule.toProto, actions]
  rfl

theorem serialize_policy {policy : Policies.Policy Num} (carried : Carried text policy) :
    Proto.Policy.serialize text (policy.toProto text) = .ok policy.json := by
  have rules : ∀ rules ⊆ policy.inbound ++ policy.outbound,
      (rules.map (Policies.Rule.toProto text)).mapM (Proto.Rule.serialize text) =
        .ok (rules.map Policies.Rule.json) :=
    fun rules among => mapM_ok fun rule mem => serialize_rule (carried.configs rule (among mem))
  simp only [Proto.Policy.serialize, Policies.Policy.toProto,
    rules _ (List.subset_append_left _ _), rules _ (List.subset_append_right _ _)]
  rfl

theorem deserializeConfig_value (config : Value Num) :
    Proto.deserializeConfig text config.val =
      if config.val.isObject then some (utf8 (text.print config.val)) else none := by
  obtain ⟨json, normal⟩ := config
  cases json with
  | object entries => simp only [Proto.deserializeConfig, normal, Json.isObject, if_true]
  | null | bool | number | string | array => rfl

theorem deserialize_action (action : Policies.Action Num) :
    Proto.Action.deserialize text action.json =
      if action.Readable then some (action.toProto text) else none := by
  obtain ⟨type_, config⟩ := action
  cases config with
  | none => rfl
  | some config =>
      simp only [Policies.Action.Readable, Policies.Action.json, Proto.Action.deserialize,
        readRecord, Option.mem_def, Option.some.injEq, forall_eq']
      rw [readEntries_cons rfl (by decide)]
      simp only [readString, Option.map_some, Option.bind_some]
      rw [readEntries_cons rfl (by decide), deserializeConfig_value]
      split <;> rfl

theorem deserialize_rule (rule : Policies.Rule Num) :
    Proto.Rule.deserialize text rule.json =
      if rule.Readable then some (rule.toProto text) else none := by
  simp only [Policies.Rule.json, Proto.Rule.deserialize, readRecord]
  rw [readEntries_cons rfl (by decide)]
  simp only [readString, Option.map_some, Option.bind_some]
  rw [readEntries_cons rfl (by decide)]
  simp only [readArray, readAll_string, Option.map_some, Option.bind_some]
  rw [readEntries_cons rfl (by decide)]
  simp only [readArray, readAll_map deserialize_action, readEntries_nil]
  split <;> rename_i readable
  · exact (if_pos readable).symm
  · exact (if_neg readable).symm

theorem deserialize_policy (policy : Policies.Policy Num) :
    Proto.Policy.deserialize text policy.json =
      if (∀ rule ∈ policy.inbound, rule.Readable) ∧ ∀ rule ∈ policy.outbound, rule.Readable then
        some (policy.toProto text)
      else none := by
  simp only [Policies.Policy.json, Proto.Policy.deserialize, readRecord]
  rw [readEntries_cons rfl (by decide)]
  simp only [readArray, readAll_map deserialize_rule]
  by_cases inbound : ∀ rule ∈ policy.inbound, rule.Readable
  · rw [if_pos inbound, Option.map_some, Option.bind_some, readEntries_cons rfl (by decide)]
    simp only [readArray, readAll_map deserialize_rule, readEntries_nil]
    by_cases outbound : ∀ rule ∈ policy.outbound, rule.Readable
    · rw [if_pos outbound, if_pos ⟨inbound, outbound⟩]
      rfl
    · rw [if_neg outbound, if_neg fun both => outbound both.2]
      rfl
  · rw [if_neg inbound, if_neg fun both => inbound both.1]
    rfl

theorem survives_iff_deserialize {policy : Policies.Policy Num} (carried : Carried text policy) :
    Survives text policy ↔
      Proto.Policy.deserialize text policy.json = some (policy.toProto text) := by
  have written : Proto.PolicyWrapper.serialize text (.policy (policy.toProto text)) =
      .ok (.string (text.print policy.json)) := by
    simp only [Proto.PolicyWrapper.serialize, Proto.serializePolicy, serialize_policy carried]
  have read : Proto.readWire text (text.print (.string (text.print policy.json))) =
      Proto.Policy.deserialize text policy.json := by
    simp only [Proto.readWire, carried.wire.parse_print, carried.whole.parse_print,
      Option.bind_some]
  rw [Survives, written, ← read]
  simp

/-- A policy survives exactly when every configuration in it is a JSON object. -/
theorem survives_iff {policy : Policies.Policy Num} (carried : Carried text policy) :
    Survives text policy ↔
      ∀ rule ∈ policy.inbound ++ policy.outbound, ∀ action ∈ rule.actions,
        ∀ config, action.config = some config → config.val.isObject = true := by
  rw [survives_iff_deserialize carried, deserialize_policy, List.forall_mem_append]
  constructor
  · intro same
    split at same
    · assumption
    · cases same
  · intro readable
    exact if_pos readable

end RoundTrip

def oneAction (config : Json Unit) : Policies.Policy Unit where
  inbound := [⟨"r", [], [⟨"deny", some config.toValue⟩]⟩]
  outbound := []

def oneActionText (config : String) : String :=
  "\x7b\"Inbound\":[\x7b\"Name\":\"r\",\"Expressions\":[],\"Actions\":[" ++
    "\x7b\"Type\":\"deny\",\"Config\":" ++ config ++ "\x7d]\x7d],\"Outbound\":[]\x7d"

def quoted (string : String) : String :=
  String.ofList ("\"".toList ++ (string.toList.flatMap fun char =>
    if char ∈ "\"\\".toList then "\\".toList ++ [char] else [char]) ++ "\"".toList)

def oneActionTexts (config : Json Unit) (configText : String) : Text Unit where
  print
    | .string string => quoted string
    | .object (_ :: _) => oneActionText configText
    | _ => configText
  parse string :=
    if string = configText then some config
    else if string = oneActionText configText then some (oneAction config).json
    else if string = quoted (oneActionText configText) then
      some (.string (oneActionText configText))
    else none

theorem oneActionTexts_parse (config : Json Unit) (configText string : String) :
    (oneActionTexts config configText).parse string =
      if string = configText then some config
      else if string = oneActionText configText then some (oneAction config).json
      else if string = quoted (oneActionText configText) then
        some (.string (oneActionText configText))
      else none := rfl

theorem forall_config_oneAction {Holds : Value Unit → Prop} {config : Json Unit}
    (holds : Holds config.toValue) :
    ∀ rule ∈ (oneAction config).inbound ++ (oneAction config).outbound,
      ∀ action ∈ rule.actions, ∀ value, action.config = some value → Holds value := by
  intro rule memRule action memAction value same
  cases List.mem_singleton.1 memRule
  cases List.mem_singleton.1 memAction
  cases same
  exact holds

theorem quoted_ne {string other : String} (head : other.toList.head? ≠ some '"') :
    quoted string ≠ other := by
  intro same
  apply head
  rw [← same, quoted, String.toList_ofList]
  rfl

/-- The two texts of a configuration and its policy are told apart, and from the string. -/
theorem carried_oneAction {config : Json Unit} {configText : String}
    (configs : (oneActionTexts config configText).ReadsBack config.toValue.val)
    (head : configText.toList.head? ≠ some '"')
    (brace : (oneActionText configText).toList.head? ≠ some '"')
    (differs : oneActionText configText ≠ configText) (nonempty : oneActionText configText ≠ "") :
    Carried (oneActionTexts config configText) (oneAction config) where
  configs := forall_config_oneAction configs
  whole := by
    have written : (oneActionTexts config configText).print (oneAction config).json =
        oneActionText configText := rfl
    constructor
    · rw [written, oneActionTexts_parse, if_neg differs, if_pos rfl]
    · rw [written]
      exact nonempty
  wire := by
    have written : (oneActionTexts config configText).print
        (.string (oneActionText configText)) = quoted (oneActionText configText) := rfl
    have whole : (oneActionTexts config configText).print (oneAction config).json =
        oneActionText configText := rfl
    constructor
    · rw [whole, written, oneActionTexts_parse, if_neg (quoted_ne head),
        if_neg (quoted_ne brace), if_pos rfl]
    · rw [whole, written]
      exact quoted_ne (by decide)

theorem carried_emptyObject :
    Carried (oneActionTexts (.object []) "\x7b\x7d") (oneAction (.object [])) :=
  carried_oneAction ⟨rfl, by decide⟩ (by decide) (by decide) (by decide) (by decide)

theorem carried_null : Carried (oneActionTexts .null "null") (oneAction .null) :=
  carried_oneAction ⟨rfl, by decide⟩ (by decide) (by decide) (by decide) (by decide)

theorem survives_emptyObject :
    Survives (oneActionTexts (.object []) "\x7b\x7d") (oneAction (.object [])) :=
  (survives_iff carried_emptyObject).2 (forall_config_oneAction rfl)

/-- The configuration is the JSON value `null`. -/
theorem not_survives_null : ¬ Survives (oneActionTexts .null "null") (oneAction .null) := by
  rw [survives_iff_deserialize carried_null, deserialize_policy, if_neg]
  · simp
  · intro readable
    have config := readable.1 _ List.mem_cons_self _ List.mem_cons_self _ rfl
    cases config

end NgrokRust
