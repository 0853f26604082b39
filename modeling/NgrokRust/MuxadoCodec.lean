import NgrokRust.BigEndianWords
import NgrokRust.MuxadoFrame

/-!
# The muxado frame codec

`muxado/src/codec.rs`: an eight-byte header packs a 24-bit length, a type nibble,
a flag nibble and a 31-bit stream id, and the body follows.  The decoder keeps a
header it has already taken from the buffer until the whole body has arrived.

A frame is *well formed* when its header passes validation, names the type of
the body and announces the number of bytes that encoding the body writes.  Such
a frame is what the peer decodes again, whatever bytes follow it.
-/

namespace NgrokRust

namespace Muxado

open BigEndian

/-- `Buf::get_u32`, which panics on a short buffer. -/
def readU32 (bytes : List UInt8) : Except Panic (Nat × List UInt8) :=
  match getU32 bytes with
  | some result => .ok result
  | none => .error .getU32

structure FrameCodec where
  inputHeader : Option Header
deriving DecidableEq, Repr

def FrameCodec.default : FrameCodec := ⟨none⟩

def decodeHeader (bytes : List UInt8) : Except Panic Header := do
  let (lengthTypeFlags, bytes) ← readU32 bytes
  let some length := (Constrained.tryFrom ((lengthTypeFlags &&& 0xFFFFFF00) >>> 8) :
      Option Length)
    | throw Panic.unwrapLength
  let typeFlags := UInt8.ofNat lengthTypeFlags
  let (streamId, _) ← readU32 bytes
  return {
    length := length
    typ := HeaderType.ofU8 ((typeFlags &&& 0xF0) >>> 4)
    flags := Flags.fromBitsTruncate (typeFlags &&& 0x0F)
    streamId := Constrained.mask streamId }

def expectZeroStreamId (header : Header) : Except InvalidHeader Unit :=
  if header.streamId ≠ Constrained.clamp 0 then .error (.nonZeroStreamID header.streamId)
  else .ok ()

def expectNonZeroStreamId (header : Header) : Except InvalidHeader Unit :=
  if header.streamId = Constrained.clamp 0 then .error .zeroStreamID else .ok ()

def expectLength (header : Header) (length : Length) : Except InvalidHeader Unit :=
  if header.length ≠ length then .error (.length length header.length) else .ok ()

def expectMinLength (header : Header) (length : Length) : Except InvalidHeader Unit :=
  if header.length.val < length.val then .error (.minLength length header.length)
  else .ok ()

def validateHeader (header : Header) : Except InvalidHeader Unit :=
  match header.typ with
  | .rst => do
      expectNonZeroStreamId header
      expectLength header (Constrained.clamp 4)
  | .data => expectNonZeroStreamId header
  | .wndInc => do
      expectNonZeroStreamId header
      expectLength header (Constrained.clamp 4)
  | .goAway => do
      expectZeroStreamId header
      expectMinLength header (Constrained.clamp 8)
  | .invalid value => .error (.type value)

def decodeFrame (header : Header) (body : List UInt8) : Except Panic Frame :=
  match validateHeader header with
  | .error error => .ok ⟨header, .invalid error body⟩
  | .ok () =>
      match header.typ with
      | .rst => do
          let (code, _) ← readU32 body
          return ⟨header, .rst (Error.ofErrorCode (Constrained.mask code))⟩
      | .data => .ok ⟨header, .data body⟩
      | .wndInc => do
          let (increment, _) ← readU32 body
          return ⟨header, .wndInc (Constrained.mask increment)⟩
      | .goAway => do
          let (lastStreamId, body) ← readU32 body
          let (code, body) ← readU32 body
          return ⟨header, .goAway (Constrained.mask lastStreamId)
            (Error.ofErrorCode (Constrained.mask code)) body⟩
      | .invalid value => .ok ⟨header, .invalid (.type value) body⟩

/-- The second half of `decode`: wait for the body the header announces. -/
def FrameCodec.decodeBody (header : Header) (buffer : List UInt8) :
    Except Panic (Option Frame × FrameCodec × List UInt8) :=
  if buffer.length < header.length.val then
    .ok (none, ⟨some header⟩, buffer)
  else do
    let frame ← decodeFrame header (buffer.take header.length.val)
    return (some frame, ⟨none⟩, buffer.drop header.length.val)

def FrameCodec.decode (codec : FrameCodec) (buffer : List UInt8) :
    Except Panic (Option Frame × FrameCodec × List UInt8) :=
  match codec.inputHeader with
  | some header => decodeBody header buffer
  | none =>
      if buffer.length < 8 then .ok (none, codec, buffer)
      else do
        let header ← decodeHeader (buffer.take 8)
        decodeBody header (buffer.drop 8)

def encodeHeader (header : Header) : List UInt8 :=
  let typeFlags : UInt8 :=
    ((header.typ.toU8 <<< 4) &&& 0xF0) ||| (header.flags.bits &&& 0x0F)
  let lengthTypeFlags : Nat :=
    (asU32 (header.length.val <<< 8) &&& 0xFFFFFF00) ||| typeFlags.toNat
  putU32 lengthTypeFlags ++ putU32 header.streamId.val

def encodeBody : Body → List UInt8
  | .rst error => putU32 (ErrorCode.ofError error).val
  | .data bytes => bytes
  | .wndInc increment => putU32 increment.val
  | .goAway lastStreamId error message =>
      putU32 lastStreamId.val ++ putU32 (ErrorCode.ofError error).val ++ message
  | .invalid _ bytes => bytes

/-- The bytes written for a frame whose header passed validation. -/
def encodeBytes (frame : Frame) : List UInt8 :=
  encodeHeader frame.header ++ encodeBody frame.body

/-- `FrameCodec::encode`: validate, then append header and body to the buffer. -/
def encode (frame : Frame) (buffer : List UInt8) : Except InvalidHeader (List UInt8) := do
  validateHeader frame.header
  return buffer ++ encodeBytes frame

@[simp]
theorem encodeHeader_length (header : Header) : (encodeHeader header).length = 8 := rfl

theorem length_lt (length : Length) : length.val < 2 ^ 24 := by
  have := length.val_le
  simp only [lengthMax] at this
  omega

theorem streamId_lt (streamId : StreamID) : streamId.val < 2 ^ 32 := by
  have := streamId.val_le
  simp only [streamIdMax] at this
  omega

/-- The upper three bytes of a word are its quotient by `2 ^ 8`. -/
theorem lengthField_eq {word : Nat} (fits : word < 2 ^ 32) :
    (word &&& 0xFFFFFF00) >>> 8 = word / 2 ^ 8 := by
  have quotient : word / 2 ^ 8 < 2 ^ 24 := by omega
  rw [Nat.shiftRight_and_distrib, Nat.shiftRight_eq_div_pow]
  exact Nat.and_two_pow_sub_one_of_lt_two_pow (n := 24) quotient

/-- Packing a length above a byte. -/
theorem packLength_eq {length low : Nat} (lengthFits : length ≤ lengthMax) (lowFits : low < 2 ^ 8) :
    (asU32 (length <<< 8) &&& 0xFFFFFF00) ||| low = 2 ^ 8 * length + low := by
  have lengthLt : length < 2 ^ 24 := by
    simp only [lengthMax] at lengthFits
    omega
  have shifted : length <<< 8 < 2 ^ 32 := by
    rw [Nat.shiftLeft_eq]
    omega
  have masked : (length <<< 8) &&& 0xFFFFFF00 = length <<< 8 := by
    change (length <<< 8) &&& (0xFFFFFF <<< 8) = length <<< 8
    rw [← Nat.shiftLeft_and_distrib]
    congr 1
    exact Nat.and_two_pow_sub_one_of_lt_two_pow (n := 24) lengthLt
  rw [asU32_of_lt shifted, masked, Nat.shiftLeft_eq, Nat.mul_comm,
    Nat.two_pow_add_eq_or_of_lt lowFits]

/-- The header that two 32-bit words spell out. -/
def headerOfWords (word streamId : Nat) : Header where
  length := Constrained.clamp (word / 2 ^ 8)
  typ := HeaderType.ofU8 ((UInt8.ofNat word &&& 0xF0) >>> 4)
  flags := Flags.fromBitsTruncate (UInt8.ofNat word &&& 0x0F)
  streamId := Constrained.mask streamId

/-- The unwrap of the length never fails: the field has 24 bits. -/
theorem decodeHeader_eq {bytes rest rest' : List UInt8} {word streamId : Nat}
    (first : getU32 bytes = some (word, rest)) (second : getU32 rest = some (streamId, rest')) :
    decodeHeader bytes = .ok (headerOfWords word streamId) := by
  have wordLt := getU32_lt first
  have fits : word / 2 ^ 8 ≤ lengthMax := by
    simp only [lengthMax]
    omega
  have unwrapped : (Constrained.tryFrom (word / 2 ^ 8) : Option Length) =
      some (Constrained.clamp (word / 2 ^ 8)) := by
    rw [Constrained.tryFrom, dif_pos fits]
    exact congrArg some (Constrained.ext (by rw [Constrained.clamp_val, min_eq_left fits]))
  unfold decodeHeader
  simp only [readU32, first, bind, Except.bind]
  rw [lengthField_eq wordLt, unwrapped]
  simp only [second]
  rfl

theorem exists_decodeHeader (bytes : List UInt8) (enough : 8 ≤ bytes.length) :
    ∃ header, decodeHeader bytes = .ok header := by
  obtain ⟨word, rest, first⟩ := exists_getU32 bytes (by omega)
  have restLength := getU32_length first
  obtain ⟨streamId, rest', second⟩ := exists_getU32 rest (by omega)
  exact ⟨_, decodeHeader_eq first second⟩

theorem Flags.fromBitsTruncate_bits (flags : Flags) (nibble : UInt8)
    (typNibble : nibble ∈ [0, 1, 2, 3]) :
    let typeFlags := ((nibble <<< 4) &&& 0xF0) ||| (flags.bits &&& 0x0F)
    (typeFlags &&& 0xF0) >>> 4 = nibble ∧ Flags.fromBitsTruncate (typeFlags &&& 0x0F) = flags := by
  obtain ⟨fin, syn⟩ := flags
  simp only [List.mem_cons, List.not_mem_nil, or_false] at typNibble
  rcases typNibble with rfl | rfl | rfl | rfl <;> cases fin <;> cases syn <;> decide

theorem expectZeroStreamId_eq_ok_iff (header : Header) :
    expectZeroStreamId header = .ok () ↔ header.streamId.val = 0 := by
  unfold expectZeroStreamId
  split
  · rename_i nonzero
    simpa using fun zero => nonzero (Constrained.ext (by simpa using zero))
  · simp_all

theorem expectNonZeroStreamId_eq_ok_iff (header : Header) :
    expectNonZeroStreamId header = .ok () ↔ header.streamId.val ≠ 0 := by
  unfold expectNonZeroStreamId
  split
  · simp_all
  · rename_i nonzero
    simpa using fun zero => nonzero (Constrained.ext (by simpa using zero))

theorem expectLength_eq_ok_iff (header : Header) (length : Length) :
    expectLength header length = .ok () ↔ header.length.val = length.val := by
  unfold expectLength
  split
  · rename_i differs
    simpa using fun same => differs (Constrained.ext same)
  · simp_all

theorem expectMinLength_eq_ok_iff (header : Header) (length : Length) :
    expectMinLength header length = .ok () ↔ length.val ≤ header.length.val := by
  unfold expectMinLength
  split <;> simp_all

theorem checks_eq_ok_iff (first second : Except InvalidHeader Unit) :
    (do first; second) = .ok () ↔ first = .ok () ∧ second = .ok () := by
  cases first <;> simp [bind, Except.bind]

theorem validateHeader_eq_ok_iff (header : Header) :
    validateHeader header = .ok () ↔
      match header.typ with
      | .rst | .wndInc => header.streamId.val ≠ 0 ∧ header.length.val = 4
      | .data => header.streamId.val ≠ 0
      | .goAway => header.streamId.val = 0 ∧ 8 ≤ header.length.val
      | .invalid _ => False := by
  have four : (Constrained.clamp 4 : Length).val = 4 := rfl
  have eight : (Constrained.clamp 8 : Length).val = 8 := rfl
  unfold validateHeader
  split <;>
    simp_all [checks_eq_ok_iff, expectZeroStreamId_eq_ok_iff, expectNonZeroStreamId_eq_ok_iff,
      expectLength_eq_ok_iff, expectMinLength_eq_ok_iff]

theorem typ_mem_of_validateHeader {header : Header} (valid : validateHeader header = .ok ()) :
    header.typ.toU8 ∈ ([0, 1, 2, 3] : List UInt8) ∧
      HeaderType.ofU8 header.typ.toU8 = header.typ := by
  cases typEq : header.typ <;> simp_all [validateHeader, HeaderType.toU8, HeaderType.ofU8]

/-- A valid header is read back from its eight bytes. -/
theorem decodeHeader_encodeHeader {header : Header} (valid : validateHeader header = .ok ()) :
    decodeHeader (encodeHeader header) = .ok header := by
  obtain ⟨length, typ, flags, streamId⟩ := header
  obtain ⟨typMem, typBack⟩ := typ_mem_of_validateHeader valid
  obtain ⟨nibble, flagsBack⟩ := Flags.fromBitsTruncate_bits flags typ.toU8 typMem
  generalize typeFlagsDef :
    ((typ.toU8 <<< 4) &&& 0xF0) ||| (flags.bits &&& 0x0F) = typeFlags at nibble flagsBack
  have low : typeFlags.toNat < 2 ^ 8 := typeFlags.toNat_lt
  have lengthLt : length.val < 2 ^ 24 := length_lt length
  have wordLt : 2 ^ 8 * length.val + typeFlags.toNat < 2 ^ 32 := by omega
  have idRead : getU32 (putU32 streamId.val) = some (streamId.val, []) := by
    simpa using getU32_putU32 (streamId_lt streamId) []
  have encoded : encodeHeader ⟨length, typ, flags, streamId⟩ =
      putU32 (2 ^ 8 * length.val + typeFlags.toNat) ++ putU32 streamId.val := by
    simp only [encodeHeader, typeFlagsDef, packLength_eq length.val_le low]
  rw [encoded, decodeHeader_eq (getU32_putU32 wordLt _) idRead]
  have back : (2 ^ 8 * length.val + typeFlags.toNat) / 2 ^ 8 = length.val := by omega
  have byte : UInt8.ofNat (2 ^ 8 * length.val + typeFlags.toNat) = typeFlags := by
    apply UInt8.toNat_inj.mp
    rw [UInt8.toNat_ofNat']
    omega
  have lengthBack : (Constrained.clamp length.val : Length) = length :=
    Constrained.ext (by simp [length.val_le])
  simp only [headerOfWords, back, byte, nibble, flagsBack, typBack, lengthBack,
    Constrained.mask_val]

/-- Validation rejects the bodies that are too short to read. -/
theorem exists_decodeFrame {header : Header} {body : List UInt8}
    (whole : body.length = header.length.val) :
    ∃ frame, decodeFrame header body = .ok frame ∧ frame.header = header := by
  unfold decodeFrame
  cases valid : validateHeader header with
  | error error => exact ⟨_, rfl, rfl⟩
  | ok _ =>
      have demands := (validateHeader_eq_ok_iff header).mp valid
      cases typEq : header.typ with
      | data => exact ⟨_, rfl, rfl⟩
      | invalid value => exact ⟨_, rfl, rfl⟩
      | rst =>
          simp only [typEq] at demands
          obtain ⟨code, rest, read⟩ := exists_getU32 body (by omega)
          exact ⟨_, by simp only [readU32, read]; rfl, rfl⟩
      | wndInc =>
          simp only [typEq] at demands
          obtain ⟨increment, rest, read⟩ := exists_getU32 body (by omega)
          exact ⟨_, by simp only [readU32, read]; rfl, rfl⟩
      | goAway =>
          simp only [typEq] at demands
          obtain ⟨lastStreamId, rest, first⟩ := exists_getU32 body (by omega)
          have restLength := getU32_length first
          obtain ⟨code, rest', second⟩ := exists_getU32 rest (by omega)
          exact ⟨_, by simp only [readU32, first, second, bind, Except.bind]; rfl, rfl⟩

/-- Every frame that `decode` returns comes from `decode_frame`. -/
theorem exists_of_decode {codec codec' : FrameCodec} {buffer rest : List UInt8} {frame : Frame}
    (decoded : codec.decode buffer = .ok (some frame, codec', rest)) :
    ∃ header body, decodeFrame header body = .ok frame := by
  have of_body {header : Header} {bytes : List UInt8}
      (decoded : FrameCodec.decodeBody header bytes = .ok (some frame, codec', rest)) :
      ∃ header body, decodeFrame header body = .ok frame := by
    unfold FrameCodec.decodeBody at decoded
    split at decoded
    · cases decoded
    · cases read : decodeFrame header (bytes.take header.length.val) with
      | error panic => simp [read, bind, Except.bind] at decoded
      | ok taken =>
          simp only [read, bind, Except.bind, pure, Except.pure, Except.ok.injEq, Prod.mk.injEq,
            Option.some.injEq] at decoded
          exact ⟨header, _, decoded.1 ▸ read⟩
  unfold FrameCodec.decode at decoded
  split at decoded
  · exact of_body decoded
  · split at decoded
    · cases decoded
    · cases read : decodeHeader (buffer.take 8) with
      | error panic => simp [read, bind, Except.bind] at decoded
      | ok header =>
          simp only [read, bind, Except.bind] at decoded
          exact of_body decoded

/-- A decoded body is the one that its header announces, unless it is invalid. -/
theorem headerType_of_decodeFrame {header : Header} {body : List UInt8} {frame : Frame}
    (decoded : decodeFrame header body = .ok frame) :
    frame.header = header ∧
      (validateHeader header = .ok () ∧ frame.body.headerType = header.typ ∨
        ∃ error, validateHeader header = .error error ∧ frame.body = .invalid error body) := by
  unfold decodeFrame at decoded
  cases valid : validateHeader header with
  | error error =>
      rw [valid] at decoded
      obtain rfl := Except.ok.inj decoded
      exact ⟨rfl, Or.inr ⟨error, rfl, rfl⟩⟩
  | ok _ =>
      rw [valid] at decoded
      have demands := (validateHeader_eq_ok_iff header).mp valid
      cases typ : header.typ with
      | data =>
          simp only [typ, Except.ok.injEq] at decoded
          subst decoded
          exact ⟨rfl, Or.inl ⟨rfl, rfl⟩⟩
      | invalid value => simp [typ] at demands
      | rst =>
          simp only [typ] at decoded
          cases read : readU32 body <;> simp [read, bind, Except.bind, pure, Except.pure] at decoded
          subst decoded
          exact ⟨rfl, Or.inl ⟨rfl, rfl⟩⟩
      | wndInc =>
          simp only [typ] at decoded
          cases read : readU32 body <;> simp [read, bind, Except.bind, pure, Except.pure] at decoded
          subst decoded
          exact ⟨rfl, Or.inl ⟨rfl, rfl⟩⟩
      | goAway =>
          simp only [typ] at decoded
          cases first : readU32 body with
          | error panic => simp [first, bind, Except.bind] at decoded
          | ok result =>
              cases second : readU32 result.2 <;>
                simp [first, second, bind, Except.bind, pure, Except.pure] at decoded
              subst decoded
              exact ⟨rfl, Or.inl ⟨rfl, rfl⟩⟩

theorem headerType_of_decode {codec codec' : FrameCodec} {buffer rest : List UInt8}
    {frame : Frame} (decoded : codec.decode buffer = .ok (some frame, codec', rest))
    (valid : validateHeader frame.header = .ok ()) : frame.body.headerType = frame.header.typ := by
  obtain ⟨header, body, decoded⟩ := exists_of_decode decoded
  obtain ⟨rfl, ⟨-, typ⟩ | ⟨error, failed, -⟩⟩ := headerType_of_decodeFrame decoded
  · exact typ
  · rw [failed] at valid
    cases valid

/-- Decoding never panics. -/
theorem exists_decode (codec : FrameCodec) (buffer : List UInt8) :
    ∃ result, codec.decode buffer = .ok result := by
  have bodyDecodes (header : Header) (bytes : List UInt8) :
      ∃ result, FrameCodec.decodeBody header bytes = .ok result := by
    unfold FrameCodec.decodeBody
    split
    · exact ⟨_, rfl⟩
    · rename_i enough
      obtain ⟨frame, decoded, _⟩ := exists_decodeFrame
        (show (bytes.take header.length.val).length = header.length.val by simp; omega)
      exact ⟨_, by rw [decoded]; rfl⟩
  unfold FrameCodec.decode
  cases codec.inputHeader with
  | some header => exact bodyDecodes header buffer
  | none =>
      by_cases short : buffer.length < 8
      · exact ⟨_, if_pos short⟩
      · obtain ⟨header, decoded⟩ := exists_decodeHeader (buffer.take 8) (by simp; omega)
        obtain ⟨result, bodyDecoded⟩ := bodyDecodes header (buffer.drop 8)
        exact ⟨result, by simp only [if_neg short, decoded]; exact bodyDecoded⟩

/-- A header that validates, names the type of the body, and announces the
bytes that encoding the body writes. -/
structure Frame.WellFormed (frame : Frame) : Prop where
  valid : validateHeader frame.header = .ok ()
  typ_eq : frame.header.typ = frame.body.headerType
  length_eq : frame.header.length.val = (encodeBody frame.body).length

theorem errorCode_lt (error : Error) : (ErrorCode.ofError error).val < 2 ^ 32 := by
  cases error <;> decide

theorem wndInc_lt (increment : WndInc) : increment.val < 2 ^ 32 := by
  have := increment.val_le
  simp only [wndIncMax] at this
  omega

theorem decodeFrame_encodeBody {frame : Frame} (wellFormed : frame.WellFormed) :
    decodeFrame frame.header (encodeBody frame.body) = .ok frame := by
  obtain ⟨header, body⟩ := frame
  obtain ⟨valid, typEq, _⟩ := wellFormed
  simp only at valid typEq
  unfold decodeFrame
  rw [valid]
  cases body with
  | rst error =>
      have read := getU32_putU32 (errorCode_lt error) []
      simp only [List.append_nil] at read
      simp only [typEq, Body.headerType, encodeBody, readU32, read]
      simp [bind, Except.bind, pure, Except.pure]
  | data bytes => simp [typEq, Body.headerType, encodeBody]
  | wndInc increment =>
      have read := getU32_putU32 (wndInc_lt increment) []
      simp only [List.append_nil] at read
      simp only [typEq, Body.headerType, encodeBody, readU32, read]
      simp [bind, Except.bind, pure, Except.pure]
  | goAway lastStreamId error message =>
      have first := getU32_putU32 (streamId_lt lastStreamId)
        (putU32 (ErrorCode.ofError error).val ++ message)
      have second := getU32_putU32 (errorCode_lt error) message
      simp only [typEq, Body.headerType, encodeBody, List.append_assoc, readU32, first, second,
        bind, Except.bind]
      simp [pure, Except.pure]
  | invalid error bytes =>
      have demands := (validateHeader_eq_ok_iff header).mp valid
      simp [typEq, Body.headerType] at demands

def FrameCodec.heldBytes (codec : FrameCodec) : List UInt8 :=
  match codec.inputHeader with
  | some header => encodeHeader header
  | none => []

def FrameCodec.HoldsValid (codec : FrameCodec) : Prop :=
  ∀ header, codec.inputHeader = some header → validateHeader header = .ok ()

/-- What `decode` may do at the front of a well-formed frame: wait without losing
a byte, or take exactly that frame. -/
inductive FrameCodec.DecodesFront (codec : FrameCodec) (buffer more rest : List UInt8)
    (frame : Frame) : Prop where
  | waits (codec' : FrameCodec) (buffer' : List UInt8)
      (decoded : codec.decode buffer = .ok (none, codec', buffer'))
      (bytes : codec'.heldBytes ++ buffer' = codec.heldBytes ++ buffer)
      (holds : codec'.HoldsValid)
  | takes (buffer' : List UInt8)
      (decoded : codec.decode buffer = .ok (some frame, FrameCodec.default, buffer'))
      (bytes : buffer' ++ more = rest)

private theorem decodeBody_front {frame : Frame} (wellFormed : frame.WellFormed)
    {buffer more rest : List UInt8}
    (bytes : buffer ++ more = encodeBody frame.body ++ rest) :
    FrameCodec.decodeBody frame.header buffer = .ok (none, ⟨some frame.header⟩, buffer) ∨
      ∃ buffer', FrameCodec.decodeBody frame.header buffer =
        .ok (some frame, FrameCodec.default, buffer') ∧ buffer' ++ more = rest := by
  unfold FrameCodec.decodeBody
  by_cases short : buffer.length < frame.header.length.val
  · exact Or.inl (if_pos short)
  · right
    have bodyLength := wellFormed.length_eq
    obtain ⟨buffer', split⟩ : encodeBody frame.body <+: buffer :=
      List.prefix_of_prefix_length_le ⟨rest, bytes.symm⟩ ⟨more, rfl⟩ (by omega)
    have taken : buffer.take frame.header.length.val = encodeBody frame.body := by
      rw [← split, bodyLength, List.take_left]
    have dropped : buffer.drop frame.header.length.val = buffer' := by
      rw [← split, bodyLength, List.drop_left]
    refine ⟨buffer', ?_, ?_⟩
    · rw [if_neg short, taken, dropped, decodeFrame_encodeBody wellFormed]
      rfl
    · rw [← split, List.append_assoc] at bytes
      exact List.append_cancel_left bytes

/-- At the front of a valid header the decoder waits for the rest of it, or goes on
with the body behind it. -/
theorem decode_header_front {codec : FrameCodec} (holds : codec.HoldsValid) {header : Header}
    (valid : validateHeader header = .ok ()) {buffer more rest : List UInt8}
    (bytes : codec.heldBytes ++ buffer ++ more = encodeHeader header ++ rest) :
    codec.decode buffer = .ok (none, codec, buffer) ∨
      ∃ buffer', codec.decode buffer = FrameCodec.decodeBody header buffer' ∧
        codec.heldBytes ++ buffer = encodeHeader header ++ buffer' ∧ buffer' ++ more = rest := by
  cases held : codec.inputHeader with
  | some heldHeader =>
      right
      have heldBytes : codec.heldBytes = encodeHeader heldHeader := by
        simp [FrameCodec.heldBytes, held]
      rw [heldBytes, List.append_assoc] at bytes
      obtain ⟨sameHeader, sameRest⟩ := List.append_inj bytes rfl
      have same : heldHeader = header := by
        have back := decodeHeader_encodeHeader (holds heldHeader held)
        rw [sameHeader, decodeHeader_encodeHeader valid] at back
        exact (Except.ok.inj back).symm
      refine ⟨buffer, ?_, ?_, sameRest⟩
      · rw [FrameCodec.decode, held, same]
      · rw [heldBytes, same]
  | none =>
      have heldBytes : codec.heldBytes = [] := by simp [FrameCodec.heldBytes, held]
      rw [heldBytes, List.nil_append] at bytes
      by_cases short : buffer.length < 8
      · left
        simp only [FrameCodec.decode, held, if_pos short]
      · right
        obtain ⟨buffer', split⟩ : encodeHeader header <+: buffer :=
          List.prefix_of_prefix_length_le ⟨_, bytes.symm⟩ ⟨more, rfl⟩ (by simp; omega)
        have taken : buffer.take 8 = encodeHeader header := by
          rw [← split, ← encodeHeader_length header, List.take_left]
        have dropped : buffer.drop 8 = buffer' := by
          rw [← split, ← encodeHeader_length header, List.drop_left]
        rw [← split, List.append_assoc] at bytes
        refine ⟨buffer', ?_, ?_, List.append_cancel_left bytes⟩
        · simp only [FrameCodec.decode, held, if_neg short, taken, dropped]
          rw [decodeHeader_encodeHeader valid]
          rfl
        · rw [heldBytes, List.nil_append, split]

theorem FrameCodec.HoldsValid.some {header : Header} (valid : validateHeader header = .ok ()) :
    FrameCodec.HoldsValid ⟨some header⟩ := by
  rintro _ ⟨⟩
  exact valid

/-- Whatever part of a well-formed frame and of the bytes behind it has arrived,
the decoder waits for the rest of the frame or returns it. -/
theorem decode_front {codec : FrameCodec} (holds : codec.HoldsValid) {frame : Frame}
    (wellFormed : frame.WellFormed) {buffer more rest : List UInt8}
    (bytes : codec.heldBytes ++ buffer ++ more = encodeBytes frame ++ rest) :
    codec.DecodesFront buffer more rest frame := by
  rw [encodeBytes, List.append_assoc (encodeHeader frame.header)] at bytes
  rcases decode_header_front holds wellFormed.valid bytes with
    waits | ⟨buffer', decodes, taken, behind⟩
  · exact .waits codec buffer waits rfl holds
  · rcases decodeBody_front wellFormed behind with waits | ⟨buffer'', takes, left⟩
    · exact .waits _ _ (decodes.trans waits) taken.symm (.some wellFormed.valid)
    · exact .takes buffer'' (decodes.trans takes) left

/-- A frame whose header is valid but announces another body than it has is read as
some frame with this header. -/
theorem decode_valid_header {codec : FrameCodec} (holds : codec.HoldsValid) {header : Header}
    (valid : validateHeader header = .ok ()) {buffer more rest : List UInt8}
    (bytes : codec.heldBytes ++ buffer ++ more = encodeHeader header ++ rest) :
    (∃ codec' buffer', codec.decode buffer = .ok (none, codec', buffer') ∧
        codec'.heldBytes ++ buffer' = codec.heldBytes ++ buffer ∧ codec'.HoldsValid) ∨
      ∃ frame codec' buffer', codec.decode buffer = .ok (some frame, codec', buffer') ∧
        frame.header = header := by
  rcases decode_header_front holds valid bytes with waits | ⟨buffer', decodes, taken, -⟩
  · exact Or.inl ⟨codec, buffer, waits, rfl, holds⟩
  · by_cases partialBody : buffer'.length < header.length.val
    · left
      refine ⟨⟨some header⟩, buffer', ?_, taken.symm, .some valid⟩
      rw [decodes, FrameCodec.decodeBody, if_pos partialBody]
    · right
      have whole : (buffer'.take header.length.val).length = header.length.val := by
        rw [List.length_take]
        omega
      obtain ⟨frame, frameDecoded, sameHeader⟩ := exists_decodeFrame whole
      refine ⟨frame, ⟨none⟩, buffer'.drop header.length.val, ?_, sameHeader⟩
      rw [decodes, FrameCodec.decodeBody, if_neg partialBody, frameDecoded]
      rfl

/-- A frame taken from a fresh decoder accounts for its header and for exactly the
bytes that the header announces. -/
theorem decode_default_length {buffer rest : List UInt8} {frame : Frame} {codec' : FrameCodec}
    (decoded : FrameCodec.default.decode buffer = .ok (some frame, codec', rest)) :
    decodeHeader (buffer.take 8) = .ok frame.header ∧
      buffer.length = 8 + frame.header.length.val + rest.length := by
  by_cases short : buffer.length < 8
  · simp [FrameCodec.decode, FrameCodec.default, short] at decoded
  · obtain ⟨header, headerDecoded⟩ := exists_decodeHeader (buffer.take 8) (by simp; omega)
    simp only [FrameCodec.decode, FrameCodec.default, if_neg short, headerDecoded, bind,
      Except.bind, FrameCodec.decodeBody] at decoded
    by_cases partialBody : (buffer.drop 8).length < header.length.val
    · rw [if_pos partialBody] at decoded
      simp at decoded
    · have whole : ((buffer.drop 8).take header.length.val).length = header.length.val := by
        rw [List.length_take]
        omega
      obtain ⟨decodedFrame, frameDecoded, sameHeader⟩ := exists_decodeFrame whole
      simp only [if_neg partialBody, frameDecoded, pure, Except.pure, Except.ok.injEq,
        Prod.mk.injEq, Option.some.injEq] at decoded
      obtain ⟨rfl, -, rfl⟩ := decoded
      rw [sameHeader]
      refine ⟨headerDecoded, ?_⟩
      simp only [List.length_drop] at partialBody ⊢
      omega

/-- A GOAWAY comes through the codec: it is encoded, and decoding the bytes with
`further` bytes behind them gives back the id, the error and the whole message
and leaves exactly the further bytes. -/
def GoAwaySurvives (lastStreamId : StreamID) (error : Error) (message further : List UInt8) :
    Prop :=
  ∃ bytes header,
    encode (Frame.goaway lastStreamId error message) [] = .ok bytes ∧
      FrameCodec.default.decode (bytes ++ further) =
        .ok (some ⟨header, .goAway lastStreamId error message⟩, FrameCodec.default, further)

/-- `Frame::goaway` announces the length of the message alone, eight bytes less
than `encode_body` writes, so the decoder cuts the last eight bytes off the
message; a message shorter than eight bytes is not even encoded. -/
theorem not_goAwaySurvives (lastStreamId : StreamID) (error : Error)
    (message further : List UInt8) :
    ¬ GoAwaySurvives lastStreamId error message further := by
  rintro ⟨bytes, header, encoded, decoded⟩
  set frame := Frame.goaway lastStreamId error message with frameDef
  have valid : validateHeader frame.header = .ok () := by
    cases outcome : validateHeader frame.header with
    | ok _ => rfl
    | error _ => simp [encode, outcome, bind, Except.bind] at encoded
  obtain rfl : encodeBytes frame = bytes := by
    simpa [encode, valid, bind, Except.bind, pure, Except.pure] using encoded
  obtain ⟨headerDecoded, consumed⟩ := decode_default_length decoded
  have front : (encodeBytes frame ++ further).take 8 = encodeHeader frame.header := by
    rw [encodeBytes, List.append_assoc, ← encodeHeader_length frame.header, List.take_left]
  rw [front, decodeHeader_encodeHeader valid] at headerDecoded
  obtain rfl : frame.header = header := Except.ok.inj headerDecoded
  -- the header counts the message only, the body is eight bytes longer
  have announced : frame.header.length.val ≤ message.length := by
    simp only [frameDef, Frame.goaway, Constrained.clamp_val, asU32]
    have := Nat.mod_le message.length (2 ^ 32)
    omega
  have written : (encodeBody frame.body).length = 8 + frame.header.length.val := by
    simp only [frameDef, Frame.goaway, encodeBody, List.length_append, putU32_length,
      List.length_take] at announced ⊢
    omega
  simp only [List.length_append, encodeBytes, encodeHeader_length, written] at consumed
  omega

/-- The empty message that closing a session uses is not encoded at all. -/
theorem not_goAwaySurvives_empty :
    ¬ GoAwaySurvives (Constrained.clamp 0) Error.none [] [] := by
  rintro ⟨bytes, header, encoded, -⟩
  have refused : encode (Frame.goaway (Constrained.clamp 0) Error.none []) [] =
      .error (.minLength (Constrained.clamp 8) (Constrained.clamp 0)) := by decide
  rw [refused] at encoded
  cases encoded

end Muxado

end NgrokRust
