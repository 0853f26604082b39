import Mathlib.Data.List.DropRight
import NgrokRust.TextLines

/-!
# The errors of the server

The server answers a failed request with a text.  One of its lines may be an error code,
and the others that are not empty are the message.  An error is shown as its message, with a
link to the documentation of its code behind it.  Read as a text of the server, the link is a
line of the message like any other.
-/

namespace NgrokRust

open TextLines

/-- `char::is_whitespace`. -/
def isWhitespace (char : Char) : Bool :=
  (9 ≤ char.toNat && char.toNat ≤ 13) || (0x2000 ≤ char.toNat && char.toNat ≤ 0x200A) ||
    char.toNat ∈ [0x20, 0x85, 0xA0, 0x1680, 0x2028, 0x2029, 0x202F, 0x205F, 0x3000]

/-- `str::trim`. -/
def trim (text : List Char) : List Char :=
  (text.dropWhile isWhitespace).rdropWhile isWhitespace

namespace Proto

structure ErrResp where
  msg : String
  errorCode : Option String
deriving DecidableEq

def codePrefix : List Char := ['E', 'R', 'R', '_', 'N', 'G', 'R', 'O', 'K', '_']

def isCode (line : List Char) : Bool := codePrefix.isPrefixOf line

/-- One pass of the loop in `ErrResp::from`. -/
def ErrResp.takeLine (sofar : Option String × List (List Char)) (line : List Char) :
    Option String × List (List Char) :=
  if isCode line then (some (String.ofList (trim line)), sofar.2)
  else (sofar.1, sofar.2 ++ [line])

/-- `From<&str> for ErrResp`. -/
def ErrResp.ofStr (value : String) : ErrResp :=
  let (errorCode, msgLines) :=
    ((lines value.toList).filter fun line => !line.isEmpty).foldl takeLine (none, [])
  { errorCode, msg := String.ofList (joinLines msgLines) }

def errUrl : String := "https://ngrok.com/docs/errors"

/-- `Display for ErrResp`. -/
def ErrResp.display (toLowercase : String → String) (error : ErrResp) : String :=
  match error.errorCode.map toLowercase with
  | some code => error.msg ++ ("\n\n" ++ errUrl ++ "/" ++ code)
  | none => error.msg

/-- Lower case changes letters only, and makes no line endings. -/
structure KeepsLines (toLowercase : String → String) : Prop where
  inside : ∀ text, '\n' ∈ (toLowercase text).toList → '\n' ∈ text.toList
  ends : ∀ text, (toLowercase text).toList.getLast? = some '\r' → text.toList.getLast? = some '\r'

def ErrResp.link (toLowercase : String → String) (code : String) : List Char :=
  (errUrl ++ "/" ++ toLowercase code).toList

def rows (text : List Char) : List (List Char) := (lines text).filter fun line => !line.isEmpty

def messageRows (text : List Char) : List (List Char) :=
  (rows text).filter fun line => !isCode line

def codeOf (lines : List (List Char)) : Option String :=
  (lines.filter isCode).getLast?.map fun line => String.ofList (trim line)

theorem foldl_takeLine (code : Option String) (before lines : List (List Char)) :
    lines.foldl ErrResp.takeLine (code, before) =
      ((codeOf lines).or code, before ++ lines.filter fun line => !isCode line) := by
  induction lines generalizing code before with
  | nil => simp [codeOf]
  | cons line lines ih =>
      rw [List.foldl_cons, ErrResp.takeLine]
      by_cases coded : isCode line = true
      · rw [if_pos coded, ih]
        simp only [codeOf, coded, List.filter_cons_of_pos, List.getLast?_cons, Bool.not_true,
          List.filter_cons_of_neg, Bool.false_eq_true, not_false_iff]
        cases (lines.filter isCode).getLast? <;> rfl
      · have plain : isCode line = false := Bool.eq_false_iff.2 coded
        rw [if_neg coded, ih]
        simp [codeOf, plain]

theorem ofStr_eq (value : String) :
    ErrResp.ofStr value =
      ⟨String.ofList (joinLines (messageRows value.toList)), codeOf (rows value.toList)⟩ := by
  have folded := foldl_takeLine none [] (rows value.toList)
  rw [Option.or_none, List.nil_append] at folded
  simp only [ErrResp.ofStr]
  rw [show (lines value.toList).filter (fun line => !line.isEmpty) = rows value.toList from rfl,
    folded]
  rfl

theorem rdropWhile_append {α : Type*} {p : α → Bool} {keep : List α}
    (kept : keep.rdropWhile p = keep) (text : List α) :
    (keep ++ text).rdropWhile p = keep ++ text.rdropWhile p := by
  induction text using List.reverseRecOn with
  | nil => simpa using kept
  | append_singleton text char ih =>
      rw [← List.append_assoc, List.rdropWhile_concat, List.rdropWhile_concat, ih]
      split <;> simp

theorem trim_codePrefix (text : List Char) :
    trim (codePrefix ++ text) = codePrefix ++ text.rdropWhile isWhitespace := by
  have started : (codePrefix ++ text).dropWhile isWhitespace = codePrefix ++ text := rfl
  rw [trim, started, rdropWhile_append (by decide)]

theorem trim_code {line : List Char} (coded : isCode line = true) :
    isCode (trim line) = true ∧ trim (trim line) = trim line ∧
      ∀ char ∈ (trim line).getLast?, isWhitespace char = false := by
  obtain ⟨rest, rfl⟩ := List.isPrefixOf_iff_prefix.1 coded
  refine ⟨?_, ?_, ?_⟩
  · rw [trim_codePrefix]
    exact List.isPrefixOf_iff_prefix.2 (List.prefix_append _ _)
  · rw [trim_codePrefix, trim_codePrefix, List.rdropWhile_idempotent]
  · intro char last
    obtain ⟨nonempty, rfl⟩ := List.mem_getLast?_eq_getLast last
    exact Bool.eq_false_iff.2 (List.rdropWhile_last_not isWhitespace _ nonempty)

theorem mem_rows {text line : List Char} (mem : line ∈ rows text) :
    line ∈ lines text ∧ line ≠ [] := by
  simpa [rows] using mem

theorem mem_messageRows {text line : List Char} (mem : line ∈ messageRows text) :
    line ∈ rows text ∧ isCode line = false := by
  simpa [messageRows] using mem

theorem trim_subset (text : List Char) : trim text ⊆ text :=
  fun _ mem => List.dropWhile_subset _ ((List.rdropWhile_prefix _ _).subset mem)

theorem filter_messageRows (text : List Char) :
    ((messageRows text).filter fun line => !line.isEmpty) = messageRows text ∧
      ((messageRows text).filter fun line => !isCode line) = messageRows text ∧
        (messageRows text).filter isCode = [] := by
  refine ⟨List.filter_eq_self.2 ?_, List.filter_eq_self.2 ?_, List.filter_eq_nil_iff.2 ?_⟩
  · intro line mem
    simpa using (mem_rows (mem_messageRows mem).1).2
  · intro line mem
    simp [(mem_messageRows mem).2]
  · intro line mem
    simp [(mem_messageRows mem).2]

/-- A code is read again from a line of its own. -/
theorem code_of_errorCode {value code : String}
    (found : (ErrResp.ofStr value).errorCode = some code) :
    isCode code.toList = true ∧ trim code.toList = code.toList ∧ code.toList ≠ [] ∧
      Clean code.toList := by
  rw [ofStr_eq] at found
  obtain ⟨line, last, rfl⟩ := Option.map_eq_some_iff.1 found
  obtain ⟨mem, coded⟩ := List.mem_filter.1 (List.mem_of_getLast? last)
  obtain ⟨kept, again, black⟩ := trim_code coded
  rw [String.toList_ofList]
  refine ⟨kept, again, ?_, fun inside => ?_, fun ends => ?_⟩
  · intro empty
    rw [empty] at kept
    exact absurd kept (by decide)
  · exact notMem_of_mem_lines (mem_rows mem).1 (trim_subset _ inside)
  · exact absurd (black _ ends) (by decide)

theorem ofStr_of_plain {value : String} (plain : ∀ row ∈ rows value.toList, isCode row = false) :
    ErrResp.ofStr value = ⟨String.ofList (joinLines (rows value.toList)), none⟩ := by
  have kept : messageRows value.toList = rows value.toList :=
    List.filter_eq_self.2 fun row mem => by rw [plain row mem]; rfl
  have none : (rows value.toList).filter isCode = [] :=
    List.filter_eq_nil_iff.2 fun row mem => by rw [plain row mem]; simp
  rw [ofStr_eq, kept, codeOf, none]
  rfl

/-- A link is a line of a message. -/
theorem link_plain {toLowercase : String → String} (keeps : KeepsLines toLowercase)
    {value code : String} (found : (ErrResp.ofStr value).errorCode = some code) :
    Clean (ErrResp.link toLowercase code) ∧ ErrResp.link toLowercase code ≠ [] ∧
      isCode (ErrResp.link toLowercase code) = false := by
  obtain ⟨-, -, -, one, ends⟩ := code_of_errorCode found
  have url : ErrResp.link toLowercase code =
      (errUrl ++ "/").toList ++ (toLowercase code).toList := by
    simp [ErrResp.link]
  refine ⟨⟨fun inside => ?_, fun last => ?_⟩, ?_, ?_⟩
  · obtain inUrl | inCode := List.mem_append.1 (url ▸ inside)
    · exact absurd inUrl (by decide)
    · exact one (keeps.inside code inCode)
  · rw [url, List.getLast?_append] at last
    cases lowered : (toLowercase code).toList.getLast? with
    | none =>
        rw [lowered, Option.none_or] at last
        exact absurd last (by decide)
    | some char =>
        rw [lowered, Option.some_or] at last
        exact ends (keeps.ends code (lowered.trans last))
  · rw [url]
    exact List.append_ne_nil_of_left_ne_nil (by decide) _
  · rw [url]
    rfl

section Stable

variable {value : String}
  (endings : ∀ line ∈ lines value.toList, line.getLast? ≠ some '\r')
include endings

theorem clean_of_mem_messageRows {line : List Char} (mem : line ∈ messageRows value.toList) :
    Clean line := by
  have among := (mem_rows (mem_messageRows mem).1).1
  exact ⟨notMem_of_mem_lines among, endings line among⟩

theorem messageRows_or_blank :
    ∃ before : List (List Char), before ≠ [] ∧
      joinLines before = joinLines (messageRows value.toList) ∧
      (before.filter fun line => !line.isEmpty) = messageRows value.toList ∧
      ∀ row ∈ before, Clean row := by
  by_cases none : messageRows value.toList = []
  · rw [none]
    exact ⟨[[]], by simp, rfl, rfl, by simp [Clean]⟩
  · exact ⟨_, none, rfl, (filter_messageRows _).1,
      fun _ mem => clean_of_mem_messageRows endings mem⟩

theorem lines_msg : lines (ErrResp.ofStr value).msg.toList = messageRows value.toList := by
  rw [ofStr_eq, String.toList_ofList]
  refine lines_joinLines (fun _ mem => clean_of_mem_messageRows endings mem) ?_
  intro last
  have among : [] ∈ messageRows value.toList := List.mem_of_getLast? last
  exact (mem_rows (mem_messageRows among).1).2 rfl

variable {toLowercase : String → String} (keeps : KeepsLines toLowercase)
include keeps

/-- A link behind the message is one more line that is not empty. -/
theorem rows_display :
    rows ((ErrResp.ofStr value).display toLowercase).toList =
      messageRows value.toList ++
        ((ErrResp.ofStr value).errorCode.map (ErrResp.link toLowercase)).toList := by
  cases found : (ErrResp.ofStr value).errorCode with
  | none =>
      have shown : (ErrResp.ofStr value).display toLowercase = (ErrResp.ofStr value).msg := by
        rw [ErrResp.display, found, Option.map_none]
      rw [shown, rows, lines_msg endings, (filter_messageRows _).1]
      simp
  | some code =>
      obtain ⟨linkClean, nonempty, -⟩ := link_plain keeps found
      obtain ⟨before, present, joined, filtered, clean⟩ := messageRows_or_blank endings
      have written : ((ErrResp.ofStr value).display toLowercase).toList =
          joinLines (before ++ [[], ErrResp.link toLowercase code]) := by
        rw [joinLines_append present (by simp), joined, ErrResp.display, found, ofStr_eq]
        simp [joinLines, ErrResp.link]
      have read : lines ((ErrResp.ofStr value).display toLowercase).toList =
          before ++ [[], ErrResp.link toLowercase code] := by
        rw [written]
        refine lines_joinLines ?_ (by simpa using nonempty)
        intro row mem
        obtain old | new := List.mem_append.1 mem
        · exact clean row old
        · obtain rfl | rfl : row = [] ∨ row = ErrResp.link toLowercase code := by simpa using new
          · simp [Clean]
          · exact linkClean
      rw [rows, read, List.filter_append, filtered]
      simp [nonempty]

/-- The message of a text has all of its lines that are neither empty nor codes, and its code is
that of the last line with one.  When the error is shown, the link is read as the last line of
a message without a code. -/
theorem errResp_of_text :
    lines (ErrResp.ofStr value).msg.toList =
        (rows value.toList).filter (fun line => !isCode line) ∧
      (ErrResp.ofStr value).errorCode.map String.toList =
        ((rows value.toList).filter isCode).getLast?.map trim ∧
      ErrResp.ofStr ((ErrResp.ofStr value).display toLowercase) =
        ⟨String.ofList (joinLines (lines (ErrResp.ofStr value).msg.toList ++
          ((ErrResp.ofStr value).errorCode.map (ErrResp.link toLowercase)).toList)), none⟩ := by
  refine ⟨lines_msg endings, ?_, ?_⟩
  · rw [ofStr_eq]
    simp [codeOf, Function.comp_def]
  · have plain : ∀ row ∈ rows ((ErrResp.ofStr value).display toLowercase).toList,
        isCode row = false := by
      intro row mem
      rw [rows_display endings keeps] at mem
      obtain old | new := List.mem_append.1 mem
      · exact (mem_messageRows old).2
      · obtain ⟨code, found, rfl⟩ := Option.map_eq_some_iff.1 (Option.mem_toList.1 new)
        exact (link_plain keeps found).2.2
    rw [ofStr_of_plain plain, rows_display endings keeps, lines_msg endings]

end Stable

/-- `str::to_lowercase` of ASCII texts. -/
def asciiLowercase (text : String) : String := String.ofList (text.toList.map Char.toLower)

theorem toLower_eq_or (char : Char) : char.toLower = char ∨ 97 ≤ char.toLower.toNat := by
  unfold Char.toLower
  split
  · rename_i upper
    refine .inr ?_
    have least : 65 ≤ char.val.toNat := upper.1
    have greatest : char.val.toNat ≤ 90 := upper.2
    have sum : (char.val + 32).toNat = char.val.toNat + 32 := by
      rw [UInt32.toNat_add]
      exact Nat.mod_eq_of_lt (by omega : char.val.toNat + 32 < 2 ^ 32)
    change 97 ≤ (char.val + 32).toNat
    omega
  · exact .inl rfl

theorem asciiLowercase_keeps : KeepsLines asciiLowercase where
  inside text inside := by
    rw [asciiLowercase, String.toList_ofList] at inside
    obtain ⟨char, mem, lowered⟩ := List.mem_map.1 inside
    obtain same | letter := toLower_eq_or char
    · rwa [← lowered, same]
    · exact absurd (lowered ▸ letter) (by decide)
  ends text last := by
    rw [asciiLowercase, String.toList_ofList, List.getLast?_map] at last
    obtain ⟨char, found, lowered⟩ := Option.map_eq_some_iff.1 last
    obtain same | letter := toLower_eq_or char
    · rw [found, ← lowered, same]
    · exact absurd (lowered ▸ letter) (by decide)

/-- Two codes in a text with both kinds of line endings. -/
theorem errResp_of_text_mixed :
    ErrResp.ofStr ((ErrResp.ofStr "a\r\nERR_NGROK_1 \r\n\r\nb\nERR_NGROK_2\n").display
        asciiLowercase) =
      ⟨"a\nb\nhttps://ngrok.com/docs/errors/err_ngrok_2", none⟩ := by
  have read : ErrResp.ofStr "a\r\nERR_NGROK_1 \r\n\r\nb\nERR_NGROK_2\n" =
      ⟨"a\nb", some "ERR_NGROK_2"⟩ := by decide
  refine (errResp_of_text (by decide) asciiLowercase_keeps).2.2.trans ?_
  rw [read]
  decide

end Proto

end NgrokRust
