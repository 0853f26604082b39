import NgrokRust.ProtoMessages
import NgrokRust.SessionBuilder

/-!
# The user agent of a session

Each client type and version is sanitised by a regular expression and then joined with the
others.  The class of the expression has a hyphen between two characters, which makes them
the ends of a range.
-/

namespace NgrokRust

namespace Builder

/-- A class of characters: some that stand for themselves, and ranges. -/
structure CharClass where
  singles : List Char
  ranges : List (Char × Char)

def CharClass.contains (cls : CharClass) (char : Char) : Bool :=
  cls.singles.contains char ||
    cls.ranges.any fun range => decide (range.1 ≤ char) && decide (char ≤ range.2)

/-- What the expression does not ban. In its class `+-.` is a range. -/
def uaAllowed : CharClass where
  singles := "/!#$%&'*^_`|~".toList
  ranges := [('+', '.'), ('0', '9'), ('a', 'z'), ('A', 'Z')]

def tchar : CharClass where
  singles := "!#$%&'*+-.^_`|~".toList
  ranges := [('0', '9'), ('a', 'z'), ('A', 'Z')]

/-- `replace_all` with the expression. -/
def replaceBanned (char : Char) : Char := if uaAllowed.contains char then char else '#'

def replaceSlash (char : Char) : Char := if char = '/' then '-' else char

def sanitizeUaString (string : String) : String :=
  String.ofList ((string.toList.map replaceBanned).map replaceSlash)

def formatClient (client : ClientInfo) : String :=
  sanitizeUaString client.1 ++ "/" ++ sanitizeUaString client.2.1 ++
    (match client.2.2 with
    | some comment => " (" ++ comment ++ ")"
    | none => "")

/-- The operating system and the architecture that the crate was built for. -/
structure Platform where
  os : String
  arch : String

def notImplemented : String := "the agent has no defined callback for this operation"

def defaultInterval : Nat := 10 * 10 ^ 9
def defaultTolerance : Nat := 15 * 10 ^ 9

def unsupportedError (handler : Option Handle) : Option String :=
  if handler.isNone then some notImplemented else some ""

namespace SessionBuilder

def userAgent (builder : SessionBuilder) : String :=
  " ".intercalate (builder.versions.map formatClient)

/-- What `connect_inner` authenticates with. -/
def authExtra (builder : SessionBuilder) (platform : Platform) : Proto.AuthExtra where
  os := if platform.os = "macos" then "darwin" else platform.os
  arch := platform.arch
  authToken := ⟨builder.authtoken.getD ""⟩
  version := (builder.versions.head builder.named).2.1
  hostname := ""
  userAgent := builder.userAgent
  metadata := builder.metadata.getD ""
  cookie := ⟨builder.cookie.getD ""⟩
  heartbeatInterval := (builder.heartbeatInterval.map Subtype.val).getD defaultInterval
  heartbeatTolerance := (builder.heartbeatTolerance.map Subtype.val).getD defaultTolerance
  updateUnsupportedError := unsupportedError builder.handlers.onUpdate
  stopUnsupportedError := unsupportedError builder.handlers.onStop
  restartUnsupportedError := unsupportedError builder.handlers.onRestart
  proxyType := ""
  mutualTls := false
  serviceRun := false
  configVersion := ""
  customInterface := false
  customCas := false
  clientType := (builder.versions.head builder.named).1

end SessionBuilder

theorem CharClass.lt_of_contains {cls : CharClass} {bound : Nat} {char : Char}
    (singles : (cls.singles.all fun single => decide (single.toNat < bound)) = true)
    (ranges : (cls.ranges.all fun range => decide (range.2.toNat < bound)) = true)
    (contains : cls.contains char = true) : char.toNat < bound := by
  rw [CharClass.contains, Bool.or_eq_true, List.contains_iff_mem, List.any_eq_true] at contains
  obtain single | ⟨range, mem, inside⟩ := contains
  · exact of_decide_eq_true (List.all_eq_true.1 singles char single)
  · simp only [Bool.and_eq_true, decide_eq_true_eq] at inside
    exact Nat.lt_of_le_of_lt inside.2 (of_decide_eq_true (List.all_eq_true.1 ranges range mem))

def sanitizeChar (char : Char) : Char := replaceSlash (replaceBanned char)

/-- What holds of the sanitised ASCII characters holds of all, as the others become `#`. -/
theorem sanitizeChar_induction {P : Char → Char → Prop}
    (ascii : ∀ code : Fin 128, P (Char.ofNat code) (sanitizeChar (Char.ofNat code)))
    (other : ∀ char : Char, 128 ≤ char.toNat → P char '#') (char : Char) :
    P char (sanitizeChar char) := by
  by_cases small : char.toNat < 128
  · have holds := ascii ⟨char.toNat, small⟩
    rwa [Char.ofNat_toNat] at holds
  · have banned : uaAllowed.contains char = false := by
      by_contra allowed
      exact small (CharClass.lt_of_contains rfl rfl (by simpa using allowed))
    have number : sanitizeChar char = '#' := by
      rw [sanitizeChar, replaceBanned, banned]
      rfl
    rw [number]
    exact other char (Nat.le_of_not_lt small)

theorem tchar_sanitizeChar_iff (char : Char) :
    tchar.contains (sanitizeChar char) = true ↔ char ≠ ',' := by
  refine sanitizeChar_induction
    (P := fun char sanitized => tchar.contains sanitized = true ↔ char ≠ ',')
    (by decide +kernel) ?_ char
  intro char large
  refine iff_of_true (by decide) ?_
  rintro rfl
  exact absurd large (by decide)

theorem sanitizeChar_ne_separator (char : Char) :
    sanitizeChar char ≠ ' ' ∧ sanitizeChar char ≠ '/' :=
  sanitizeChar_induction (P := fun _ sanitized => sanitized ≠ ' ' ∧ sanitized ≠ '/')
    (by decide +kernel) (fun _ _ => by decide) char

theorem toList_sanitizeUaString (string : String) :
    (sanitizeUaString string).toList = string.toList.map sanitizeChar := by
  rw [sanitizeUaString, String.toList_ofList, List.map_map]
  rfl

theorem length_sanitizeUaString (string : String) :
    (sanitizeUaString string).length = string.length := by
  rw [← String.length_toList, toList_sanitizeUaString, List.length_map, String.length_toList]

theorem mem_sanitizeUaString {string : String} {char : Char} :
    char ∈ (sanitizeUaString string).toList ↔
      ∃ original ∈ string.toList, sanitizeChar original = char := by
  rw [toList_sanitizeUaString, List.mem_map]

theorem separator_not_mem (string : String) :
    ' ' ∉ (sanitizeUaString string).toList ∧ '/' ∉ (sanitizeUaString string).toList := by
  constructor
  · intro mem
    obtain ⟨char, -, same⟩ := mem_sanitizeUaString.1 mem
    exact (sanitizeChar_ne_separator char).1 same
  · intro mem
    obtain ⟨char, -, same⟩ := mem_sanitizeUaString.1 mem
    exact (sanitizeChar_ne_separator char).2 same

example : sanitizeUaString "library/official/rust" = "library-official-rust" := by decide +kernel

theorem tchar_sanitizeUaString_iff (string : String) :
    (∀ char ∈ (sanitizeUaString string).toList, tchar.contains char = true) ↔
      ',' ∉ string.toList := by
  constructor
  · intro tokens comma
    have token := tokens _ (mem_sanitizeUaString.2 ⟨',', comma, rfl⟩)
    exact (tchar_sanitizeChar_iff ',').1 token rfl
  · intro noComma char mem
    obtain ⟨original, found, rfl⟩ := mem_sanitizeUaString.1 mem
    apply (tchar_sanitizeChar_iff original).2
    rintro rfl
    exact noComma found

def plain (client : String × String) : ClientInfo := (client.1, client.2, none)

def sanitizedParts (client : String × String) : List (List Char) :=
  [(sanitizeUaString client.1).toList, (sanitizeUaString client.2).toList]

theorem formatClient_plain (client : String × String) :
    (formatClient (plain client)).toList = ['/'].intercalate (sanitizedParts client) := by
  simp [formatClient, plain, sanitizedParts, List.intercalate]

theorem splitOn_formatClient (client : String × String) :
    (formatClient (plain client)).toList.splitOn '/' = sanitizedParts client := by
  rw [formatClient_plain, List.splitOn_intercalate]
  · simp [sanitizedParts, (separator_not_mem client.1).2, (separator_not_mem client.2).2]
  · simp [sanitizedParts]

theorem space_not_mem_formatClient (client : String × String) :
    ' ' ∉ (formatClient (plain client)).toList := by
  simp [formatClient, plain, (separator_not_mem client.1).1, (separator_not_mem client.2).1]

theorem splitOn_userAgent {builder : SessionBuilder} {clients : List (String × String)}
    (versions : builder.versions = clients.map plain) :
    builder.userAgent.toList.splitOn ' ' =
      clients.map fun client => (formatClient (plain client)).toList := by
  have nonempty : clients ≠ [] := by
    rintro rfl
    exact builder.named versions
  have joined : builder.userAgent.toList =
      [' '].intercalate (clients.map fun client => (formatClient (plain client)).toList) := by
    rw [SessionBuilder.userAgent, versions, String.toList_intercalate, List.map_map, List.map_map]
    rfl
  rw [joined, List.splitOn_intercalate]
  · intro part mem
    obtain ⟨client, -, rfl⟩ := List.mem_map.1 mem
    exact space_not_mem_formatClient client
  · simpa using nonempty

def addClients (clients : List (String × String)) : List Call :=
  clients.map fun client => .clientInfo client.1 client.2 none

/-- All clients of a builder to which some were added, the newest first. -/
def allClients (added : List (String × String)) : List (String × String) :=
  added.reverse ++ [(clientType, version)]

theorem versions_run_addClients (names : Names) (added : List (String × String))
    (builder : SessionBuilder) :
    (LabelledRuns.run (SessionBuilder.step names) builder (addClients added)).versions =
      added.reverse.map plain ++ builder.versions := by
  induction added generalizing builder with
  | nil => rfl
  | cons client added ih =>
      rw [addClients, List.map_cons, LabelledRuns.run_cons, ← addClients, ih, List.reverse_cons,
        List.map_append, List.append_assoc]
      rfl

theorem versions_addClients (names : Names) (added : List (String × String)) :
    (SessionBuilder.built names (addClients added)).versions = (allClients added).map plain := by
  rw [SessionBuilder.built, versions_run_addClients, allClients, List.map_append]
  rfl

/-- The user agent is made of the sanitised clients: it is split into them at spaces and
slashes, all characters of them are those of tokens, and none is lost. -/
structure WellFormed (clients : List (String × String)) (userAgent : String) : Prop where
  parts : (userAgent.toList.splitOn ' ').map (·.splitOn '/') = clients.map sanitizedParts
  tokens : ∀ client ∈ userAgent.toList.splitOn ' ', ∀ part ∈ client.splitOn '/', ∀ char ∈ part,
    tchar.contains char = true
  counts : ∀ client ∈ clients, (sanitizeUaString client.1).length = client.1.length ∧
    (sanitizeUaString client.2).length = client.2.length

theorem tokens_iff {clients : List (String × String)} :
    (∀ client ∈ clients, ∀ part ∈ sanitizedParts client, ∀ char ∈ part,
        tchar.contains char = true) ↔
      ∀ client ∈ clients, ',' ∉ client.1.toList ∧ ',' ∉ client.2.toList := by
  simp only [sanitizedParts, List.forall_mem_cons, List.not_mem_nil, false_imp_iff, implies_true,
    and_true, tchar_sanitizeUaString_iff]

theorem noComma_of_wellFormed {names : Names} {added : List (String × String)}
    (wellFormed : WellFormed (allClients added)
      (SessionBuilder.built names (addClients added)).userAgent) :
    ∀ client ∈ allClients added, ',' ∉ client.1.toList ∧ ',' ∉ client.2.toList := by
  apply tokens_iff.1
  intro client mem part inside
  refine wellFormed.tokens _ ?_ part ((splitOn_formatClient client).symm ▸ inside)
  rw [splitOn_userAgent (versions_addClients names added)]
  exact List.mem_map_of_mem mem

/-- The user agent is well formed exactly when no client type and no version has a comma. -/
theorem wellFormed_iff (names : Names) (added : List (String × String)) :
    WellFormed (allClients added) (SessionBuilder.built names (addClients added)).userAgent ↔
      ∀ client ∈ added, ',' ∉ client.1.toList ∧ ',' ∉ client.2.toList := by
  constructor
  · intro wellFormed client mem
    exact noComma_of_wellFormed wellFormed client
      (List.mem_append_left _ (List.mem_reverse.2 mem))
  · intro noComma
    have split := splitOn_userAgent (versions_addClients names added)
    have own : ',' ∉ clientType.toList ∧ ',' ∉ version.toList := by decide
    have all : ∀ client ∈ allClients added, ',' ∉ client.1.toList ∧ ',' ∉ client.2.toList := by
      intro client mem
      obtain earlier | last := List.mem_append.1 mem
      · exact noComma client (List.mem_reverse.1 earlier)
      · rw [List.mem_singleton.1 last]
        exact own
    constructor
    · rw [split, List.map_map]
      apply List.map_congr_left
      intro client _
      rw [Function.comp_apply, splitOn_formatClient]
    · intro client mem part inside
      rw [split] at mem
      obtain ⟨given, found, rfl⟩ := List.mem_map.1 mem
      rw [splitOn_formatClient] at inside
      exact tokens_iff.2 all given found part inside
    · exact fun client _ => ⟨length_sanitizeUaString _, length_sanitizeUaString _⟩

/-- The comma of a version stays in the user agent. -/
theorem not_wellFormed_comma :
    ¬ WellFormed (allClients [("app", "1,0")])
      (SessionBuilder.built someNames (addClients [("app", "1,0")])).userAgent := by
  intro wellFormed
  exact (noComma_of_wellFormed wellFormed ("app", "1,0") (by decide)).2 (by decide)

end Builder

end NgrokRust
