import NgrokRust.AgentAccept
import Mathlib.Tactic.NormNum

/-!
# Reading a proxy header into memory

`ProxyHeader::read_from_stream` believes the length that stands before a header: the `i64`
becomes a `usize` and this many bytes are asked of the allocator before anything else is
read.  What that does depends on the machine, which is a parameter here.
-/

namespace NgrokRust

namespace Agent

/-- The width of a `usize` in bits, and which amounts of bytes the allocator has. -/
structure Memory where
  usizeBits : Nat
  grants : Nat → Bool

namespace Memory

variable (memory : Memory)

def isizeMax : Nat := 2 ^ (memory.usizeBits - 1) - 1

/-- `size as usize`. -/
def asUsize (size : Int) : Nat := (size % 2 ^ memory.usizeBits).toNat

theorem asUsize_natCast {size : Nat} (fits : size ≤ memory.isizeMax) :
    memory.asUsize size = size := by
  have half : 2 ^ (memory.usizeBits - 1) ≤ 2 ^ memory.usizeBits :=
    Nat.pow_le_pow_right (by decide) (Nat.sub_le _ _)
  have positive : 0 < 2 ^ (memory.usizeBits - 1) := Nat.two_pow_pos _
  have small : size < 2 ^ memory.usizeBits := by
    unfold isizeMax at fits
    omega
  have cast : (size : Int) % 2 ^ memory.usizeBits =
      ((size % 2 ^ memory.usizeBits : Nat) : Int) := by
    simp
  rw [asUsize, cast, Int.toNat_natCast, Nat.mod_eq_of_lt small]

end Memory

/-- The `i64` of eight bytes, least significant first. -/
def i64Le (bytes : List UInt8) : Int :=
  if littleEndian bytes < 2 ^ 63 then littleEndian bytes else littleEndian bytes - 2 ^ 64

/-- How `read_from_stream` ends: with a header and the stream behind it, with an error, by
the panic on a capacity overflow, or by the abort when the allocator refuses. -/
inductive HeaderResult (ε : Type) where
  | header (header : ProxyHeader) (rest : Arrivals UInt8 ε)
  | failed (error : ReadHeaderError ε)
  | panicked
  | aborted
deriving DecidableEq

/-- What was asked of the allocator, and the result unless the stream is still awaited. -/
structure HeaderRun (ε : Type) where
  allocated : Option Nat
  result : Option (HeaderResult ε)
deriving DecidableEq

variable {Value : Type*} {ε : Type}

/-- `String::from_utf8` and `serde_json::from_str`. -/
def headerOf (ε : Type) (json : Json Value) (buf : List UInt8) : Except
    (ReadHeaderError ε) ProxyHeader :=
  match String.fromUTF8? ⟨buf.toArray⟩ with
  | none => .error .invalidUtf8
  | some text =>
      match json.proxyHeader text with
      | none => .error .invalidHeader
      | some header => .ok header

/-- `read_exact` into the new buffer and all that follows. -/
def fillBuf (json : Json Value) (len : Nat) (stream : Arrivals UInt8 ε) :
    Option (HeaderResult ε) :=
  match Arrivals.readExact stream.ending [] len stream.pieces with
  | none => none
  | some (.error failure) => some (.failed (.io failure))
  | some (.ok (buf, rest)) =>
      match headerOf ε json buf with
      | .error error => some (.failed error)
      | .ok header => some (.header header rest)

namespace Memory

/-- `vec![0u8; len]` and what is read into it. An empty vector needs no memory. -/
def readBody (memory : Memory) (json : Json Value) (len : Nat) (stream : Arrivals UInt8 ε) :
    HeaderRun ε :=
  if memory.isizeMax < len then ⟨none, some .panicked⟩
  else if len = 0 then ⟨none, fillBuf json 0 stream⟩
  else if memory.grants len then ⟨some len, fillBuf json len stream⟩
  else ⟨some len, some .aborted⟩

/-- `ProxyHeader::read_from_stream`. -/
def readFromStream (memory : Memory) (json : Json Value) (stream : Arrivals UInt8 ε) :
    HeaderRun ε :=
  match Arrivals.readExact stream.ending [] 8 stream.pieces with
  | none => ⟨none, none⟩
  | some (.error failure) => ⟨none, some (.failed (.io failure))⟩
  | some (.ok (bytes, stream)) => memory.readBody json (memory.asUsize (i64Le bytes)) stream

end Memory

/-- The length that the remote announces. -/
def announced (stream : Arrivals UInt8 ε) : Int := i64Le (stream.symbols.take 8)

/-- A proxy header is read or there is an error, and only a length that can be had is
allocated. The header is decoded from the announced bytes, and what follows them is left
on the stream. The stream is awaited only as long as bytes are missing. -/
structure ReadsHeader (memory : Memory) (json : Json Value) (stream : Arrivals UInt8 ε) :
    Prop where
  not_panicked : (memory.readFromStream json stream).result ≠ some .panicked
  not_aborted : (memory.readFromStream json stream).result ≠ some .aborted
  allocated : ∀ len, (memory.readFromStream json stream).allocated = some len →
    announced stream = len ∧ len ≤ memory.isizeMax
  header : ∀ header rest,
    (memory.readFromStream json stream).result = some (.header header rest) →
      ∃ len : Nat, announced stream = len ∧ 8 + len ≤ stream.symbols.length ∧
        headerOf ε json ((stream.symbols.drop 8).take len) = .ok header ∧
        rest.symbols = stream.symbols.drop (8 + len) ∧ rest.ending = stream.ending
  returns : (memory.readFromStream json stream).result = none → stream.ending = .silence ∧
    (stream.symbols.length < 8 ∨ (stream.symbols.length : Int) < 8 + announced stream)

variable {memory : Memory} {json : Json Value} {stream : Arrivals UInt8 ε}

/-- A buffer is filled, the stream ends too early, or it keeps silent with bytes missing. -/
theorem fillBuf_cases (json : Json Value) (len : Nat) (stream : Arrivals UInt8 ε) :
    (fillBuf json len stream = none ∧ stream.ending = .silence ∧ stream.symbols.length < len) ∨
      (∃ error, fillBuf json len stream = some (.failed error)) ∨
      ∃ header rest, fillBuf json len stream = some (.header header rest) ∧
        len ≤ stream.symbols.length ∧ headerOf ε json (stream.symbols.take len) = .ok header ∧
        rest.symbols = stream.symbols.drop len ∧ rest.ending = stream.ending := by
  by_cases enough : len ≤ stream.symbols.length
  · obtain ⟨rest, filled, left, same⟩ := Arrivals.readExact_of_symbols enough
    rw [fillBuf, filled]
    dsimp only
    cases headerOf ε json (stream.symbols.take len) with
    | error error => exact .inr (.inl ⟨error, rfl⟩)
    | ok header => exact .inr (.inr ⟨header, rest, rfl, enough, rfl, left, same⟩)
  · have few : stream.symbols.length < len := Nat.lt_of_not_le enough
    rw [fillBuf, Arrivals.readExact_of_few few]
    cases stream.ending with
    | eof => exact .inr (.inl ⟨_, rfl⟩)
    | failed error => exact .inr (.inl ⟨_, rfl⟩)
    | silence => exact .inl ⟨rfl, rfl, few⟩

theorem readsHeader_of_few (few : stream.symbols.length < 8) : ReadsHeader memory json stream := by
  have run : memory.readFromStream json stream = ⟨none, none⟩ ∧ stream.ending = .silence ∨
      ∃ error, memory.readFromStream json stream = ⟨none, some (.failed error)⟩ := by
    rw [Memory.readFromStream, Arrivals.readExact_of_few few]
    cases stream.ending with
    | eof => exact .inr ⟨_, rfl⟩
    | failed error => exact .inr ⟨_, rfl⟩
    | silence => exact .inl ⟨rfl, rfl⟩
  obtain ⟨waiting, silent⟩ | ⟨error, failed⟩ := run
  · constructor <;> simp [waiting, silent, few]
  · constructor <;> simp [failed]

theorem readFromStream_of_enough (memory : Memory) (json : Json Value)
    (enough : 8 ≤ stream.symbols.length) :
    ∃ body : Arrivals UInt8 ε, memory.readFromStream json stream =
        memory.readBody json (memory.asUsize (announced stream)) body ∧
      body.symbols = stream.symbols.drop 8 ∧ body.ending = stream.ending := by
  obtain ⟨body, read, left, same⟩ := Arrivals.readExact_of_symbols enough
  refine ⟨body, ?_, left, same⟩
  rw [Memory.readFromStream, read]
  rfl

theorem asUsize_eq_zero_iff {size : Int} :
    memory.asUsize size = 0 ↔ (2 : Int) ^ memory.usizeBits ∣ size := by
  have positive : (0 : Int) < 2 ^ memory.usizeBits := by positivity
  have nonneg : 0 ≤ size % 2 ^ memory.usizeBits := Int.emod_nonneg _ positive.ne'
  rw [Memory.asUsize, Int.dvd_iff_emod_eq_zero]
  omega

theorem headerOf_nil_ne {header : ProxyHeader} (empty : json.proxyHeader "" = none) :
    headerOf ε json [] ≠ .ok header := by
  have text : String.fromUTF8? ⟨([] : List UInt8).toArray⟩ = some "" := by decide
  simp [headerOf, text, empty]

theorem readsHeader_of_zero (enough : 8 ≤ stream.symbols.length)
    (zero : memory.asUsize (announced stream) = 0) (empty : json.proxyHeader "" = none) :
    ReadsHeader memory json stream := by
  obtain ⟨body, run, -, -⟩ := readFromStream_of_enough memory json enough
  rw [zero] at run
  have small : ¬ memory.isizeMax < 0 := Nat.not_lt_zero _
  simp only [Memory.readBody, small, if_false, if_true] at run
  obtain ⟨-, -, missing⟩ | ⟨error, failed⟩ | ⟨header, rest, -, -, decoded, -⟩ :=
    fillBuf_cases json 0 body
  · exact absurd missing (Nat.not_lt_zero _)
  · constructor <;> simp [run, failed]
  · exact absurd decoded (headerOf_nil_ne empty)

theorem readsHeader_of_granted {len : Nat} (enough : 8 ≤ stream.symbols.length)
    (length : announced stream = len) (positive : len ≠ 0) (fits : len ≤ memory.isizeMax)
    (granted : memory.grants len = true) : ReadsHeader memory json stream := by
  obtain ⟨body, run, left, same⟩ := readFromStream_of_enough memory json enough
  rw [length, memory.asUsize_natCast fits] at run
  simp only [Memory.readBody, Nat.not_lt_of_le fits, positive, granted, if_false, if_true] at run
  have total : body.symbols.length = stream.symbols.length - 8 := by
    rw [left, List.length_drop]
  obtain ⟨waiting, silent, missing⟩ | ⟨error, failed⟩ |
      ⟨header, rest, read, enough', decoded, behind, ending⟩ := fillBuf_cases json len body
  · rw [waiting] at run
    constructor
    · simp [run]
    · simp [run]
    · simpa [run] using ⟨length, fits⟩
    · simp [run]
    · exact fun _ => ⟨same ▸ silent, .inr (by omega)⟩
  · rw [failed] at run
    constructor
    · simp [run]
    · simp [run]
    · simpa [run] using ⟨length, fits⟩
    · simp [run]
    · simp [run]
  · rw [read] at run
    constructor
    · simp [run]
    · simp [run]
    · simpa [run] using ⟨length, fits⟩
    · rw [run]
      rintro _ _ ⟨⟩
      refine ⟨len, length, by omega, left ▸ decoded, ?_, ending.trans same⟩
      rw [behind, left, List.drop_drop]
    · simp [run]

/-- `read_from_stream` keeps its promise exactly when the length is not there, when as a
`usize` it is zero, or when it is one that the allocator has. -/
theorem readsHeader_iff (empty : json.proxyHeader "" = none) :
    ReadsHeader memory json stream ↔
      stream.symbols.length < 8 ∨ (2 : Int) ^ memory.usizeBits ∣ announced stream ∨
        ∃ len : Nat, announced stream = len ∧ len ≤ memory.isizeMax ∧
          memory.grants len = true := by
  rw [← asUsize_eq_zero_iff]
  by_cases enough : 8 ≤ stream.symbols.length
  · constructor
    · intro reads
      obtain ⟨body, run, -, -⟩ := readFromStream_of_enough memory json enough
      -- The four branches of `vec!`: empty, too large, granted and refused.
      by_cases zero : memory.asUsize (announced stream) = 0
      · exact .inr (.inl zero)
      by_cases overflows : memory.isizeMax < memory.asUsize (announced stream)
      · simp only [Memory.readBody, overflows, if_true] at run
        exact absurd (congrArg HeaderRun.result run) reads.not_panicked
      by_cases granted : memory.grants (memory.asUsize (announced stream)) = true
      · simp only [Memory.readBody, overflows, zero, granted, if_false, if_true] at run
        obtain ⟨length, fits⟩ := reads.allocated _ (congrArg HeaderRun.allocated run)
        exact .inr (.inr ⟨_, length, fits, granted⟩)
      · simp only [Memory.readBody, overflows, zero, granted, if_false] at run
        exact absurd (congrArg HeaderRun.result run) reads.not_aborted
    · rintro (few | zero | ⟨len, length, fits, granted⟩)
      · exact readsHeader_of_few few
      · exact readsHeader_of_zero enough zero empty
      · by_cases positive : len = 0
        · refine readsHeader_of_zero enough ?_ empty
          rw [length, memory.asUsize_natCast fits, positive]
        · exact readsHeader_of_granted enough length positive fits granted
  · have few : stream.symbols.length < 8 := Nat.lt_of_not_le enough
    exact iff_of_true (readsHeader_of_few few) (.inl few)

/-- A `usize` of 64 bits, and memory without end. -/
def memory64 : Memory where
  usizeBits := 64
  grants := fun _ => true

/-- Two bytes are announced and there. -/
theorem readsHeader_two :
    ReadsHeader memory64 noJson
      (⟨[[2, 0, 0], [0, 0, 0, 0, 0, 1], [1, 7]], .eof⟩ : StreamReads) :=
  (readsHeader_iff rfl).2 (.inr (.inr ⟨2, by decide, by decide, rfl⟩))

/-- The announced length is `-1`. -/
theorem not_readsHeader_negative :
    ¬ ReadsHeader memory64 noJson (⟨[List.replicate 8 255], .eof⟩ : StreamReads) := by
  intro reads
  have panics : (memory64.readFromStream noJson
      (⟨[List.replicate 8 255], .eof⟩ : StreamReads)).result = some .panicked := by decide
  exact reads.not_panicked panics

theorem littleEndian_lt (bytes : List UInt8) : littleEndian bytes < 256 ^ bytes.length := by
  induction bytes with
  | nil => decide
  | cons byte bytes ih =>
      have small := byte.toNat_lt
      rw [littleEndian, List.length_cons, Nat.pow_succ]
      omega

/-- The model of `accept` does not look at what is left of a stream. -/
def HeaderResult.toRead : HeaderResult ε → HeaderRead ε
  | .header value _ => .header value
  | .failed error => .failed error
  | .panicked => .panicked
  | .aborted => .panicked

theorem asUsize_i64Le {bytes : List UInt8} (eight : bytes.length = 8) :
    memory64.asUsize (i64Le bytes) = littleEndian bytes := by
  have bound : littleEndian bytes < 2 ^ 64 := by
    have := littleEndian_lt bytes
    rwa [eight] at this
  simp only [Memory.asUsize, i64Le, memory64]
  split <;> omega

theorem readBody_toRead (json : Json Value) (len : Nat) (body : Arrivals UInt8 ε) :
    (memory64.readBody json len body).result.map HeaderResult.toRead =
      if 2 ^ 63 ≤ len then some .panicked
      else (fillBuf json len body).map HeaderResult.toRead := by
  have overflow : memory64.isizeMax < len ↔ 2 ^ 63 ≤ len := by
    simp only [Memory.isizeMax, memory64]
    omega
  simp only [Memory.readBody, overflow]
  split
  · rfl
  · split
    · rename_i zero
      rw [zero]
    · rfl

theorem readFromStream_eq (json : Json Value) (stream : Arrivals UInt8 ε) :
    readFromStream json stream =
      (memory64.readFromStream json stream).result.map HeaderResult.toRead := by
  by_cases enough : 8 ≤ stream.symbols.length
  · obtain ⟨body, read, -, -⟩ := Arrivals.readExact_of_symbols enough
    have eight : (stream.symbols.take 8).length = 8 := by
      rw [List.length_take]
      exact Nat.min_eq_left enough
    rw [readFromStream, Memory.readFromStream, read]
    dsimp only
    rw [asUsize_i64Le eight]
    generalize littleEndian (stream.symbols.take 8) = len
    rw [readBody_toRead]
    by_cases overflow : 2 ^ 63 ≤ len
    · rw [if_pos overflow, if_pos overflow]
    · rw [if_neg overflow, if_neg overflow, fillBuf]
      cases Arrivals.readExact body.ending [] len body.pieces with
      | none => rfl
      | some answer =>
          cases answer with
          | error failure => rfl
          | ok filled =>
              dsimp only [headerOf]
              cases String.fromUTF8? ⟨filled.1.toArray⟩ with
              | none => rfl
              | some text =>
                  dsimp only
                  cases json.proxyHeader text <;> rfl
  · have few : stream.symbols.length < 8 := Nat.lt_of_not_le enough
    rw [readFromStream, Memory.readFromStream, Arrivals.readExact_of_few few]
    cases stream.ending <;> rfl

namespace Session

variable {session : Session} {stream : RemoteStream}

/-- `read_from_stream` runs inside the accept loop: where it panics, the session accepts
nothing any more. -/
theorem accept_of_panic {typed : TypedStream} {labels : List Label}
    (accept : session.accept = .accepting)
    (passed : heartbeatPass stream.reads = some (.ok (some typed))) (typ : typed.typ = proxyReq)
    (panics : (memory64.readFromStream json typed.inner).result = some .panicked) :
    (LabelledRuns.run (Session.step json) session (.incoming (some stream) :: labels)).accept =
      .panicked := by
  have other : ¬ (proxyReq = restartReq ∨ proxyReq = updateReq ∨ proxyReq = stopReq) := by
    decide
  have differs : proxyReq ≠ stopTunnelReq := by decide
  have pass : acceptPass json session.incomingSession stream.reads = some .panicked := by
    simp only [acceptPass, passed, typ, other, differs, if_false, if_true, readFromStream_eq,
      panics, Option.map_some, HeaderResult.toRead]
  have next : (session.step json (.incoming (some stream))).accept = .panicked := by
    simp only [step, incoming, accept, pass]
    rfl
  rw [LabelledRuns.run_cons, accept_run_of_stuck labels (.inr next), next]

end Session

end Agent

end NgrokRust
