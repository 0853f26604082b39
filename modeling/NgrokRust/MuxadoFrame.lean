import Mathlib.Data.Nat.Bitwise

/-!
# Muxado frames

The frame types of `muxado/src/frame.rs`, the range-constrained numbers of
`constrained.rs` and the error codes of `errors.rs`.  A constrained number
carries the proof that it is in range, so a stream id, a window increment or a
length outside its wire format cannot be built.
-/

namespace NgrokRust

namespace Muxado

/-- Where the Rust program would panic. -/
inductive Panic where
  /-- Reading an integer past the end of a buffer. -/
  | getU32
  /-- `unwrap` of a length that does not fit 24 bits. -/
  | unwrapLength
  /-- `unreachable!()` in `StreamManager::poll_next`. -/
  | pollNext
  /-- `unreachable!()` in `Stream::handle_frame`. -/
  | streamHandleFrame
  /-- `unreachable!()` in the GoAway arm of `Reader::handle_frame`. -/
  | readerGoAway
deriving DecidableEq, Repr

/-- A number in the range `0..=max`. -/
structure Constrained (max : Nat) where
  val : Nat
  val_le : val ≤ max
deriving DecidableEq, Repr

namespace Constrained

variable {max : Nat}

def clamp (value : Nat) : Constrained max :=
  if above : value > max then ⟨max, le_rfl⟩ else ⟨value, by omega⟩

def mask (value : Nat) : Constrained max :=
  if above : value > max then ⟨value &&& max, Nat.and_le_right⟩
  else ⟨value, by omega⟩

def tryFrom (value : Nat) : Option (Constrained max) :=
  if fits : value ≤ max then some ⟨value, fits⟩ else none

theorem ext {first second : Constrained max} (values : first.val = second.val) :
    first = second := by
  cases first
  cases second
  simpa using values

@[simp]
theorem clamp_val (value : Nat) : (clamp value : Constrained max).val = min value max := by
  unfold clamp
  split <;> simp <;> omega

theorem mask_val_of_le {value : Nat} (fits : value ≤ max) :
    (mask value : Constrained max).val = value := by
  simp [mask, show ¬ value > max by omega]

@[simp]
theorem mask_val (number : Constrained max) : (mask number.val : Constrained max) = number :=
  ext (mask_val_of_le number.val_le)

end Constrained

def wndIncMax : Nat := 0x7FFFFFFF
def streamIdMax : Nat := 0x7FFFFFFF
def lengthMax : Nat := 0x00FFFFFF
def errorMax : Nat := 0xFFFFFFFF

abbrev StreamID := Constrained streamIdMax
abbrev WndInc := Constrained wndIncMax
abbrev Length := Constrained lengthMax
abbrev ErrorCode := Constrained errorMax

def asU32 (value : Nat) : Nat := value % 2 ^ 32

theorem asU32_of_lt {value : Nat} (fits : value < 2 ^ 32) : asU32 value = value :=
  Nat.mod_eq_of_lt fits

/-- The muxado error type. -/
inductive Error where
  | none
  | protocol
  | internal
  | flowControl
  | streamClosed
  | streamRefused
  | streamCancelled
  | streamReset
  | frameSizeError
  | acceptQueueFull
  | enhanceYourCalm
  | remoteGoneAway
  | streamsExhausted
  | writeTimeout
  | sessionClosed
  | peerEOF
  | errorUnknown
deriving DecidableEq, Repr

def Error.toU32 : Error → Nat
  | none => 0x00
  | protocol => 0x01
  | internal => 0x02
  | flowControl => 0x03
  | streamClosed => 0x04
  | streamRefused => 0x05
  | streamCancelled => 0x06
  | streamReset => 0x07
  | frameSizeError => 0x08
  | acceptQueueFull => 0x09
  | enhanceYourCalm => 0x0A
  | remoteGoneAway => 0x0B
  | streamsExhausted => 0x0C
  | writeTimeout => 0x0D
  | sessionClosed => 0x0E
  | peerEOF => 0x0F
  | errorUnknown => 0xFFFFFFFF

def ErrorCode.ofError (error : Error) : ErrorCode :=
  Constrained.mask error.toU32

def Error.ofErrorCode (code : ErrorCode) : Error :=
  match code.val with
  | 0x00 => none
  | 0x01 => protocol
  | 0x02 => internal
  | 0x03 => flowControl
  | 0x04 => streamClosed
  | 0x05 => streamRefused
  | 0x06 => streamCancelled
  | 0x07 => streamReset
  | 0x08 => frameSizeError
  | 0x09 => acceptQueueFull
  | 0x0A => enhanceYourCalm
  | 0x0B => remoteGoneAway
  | 0x0C => streamsExhausted
  | 0x0D => writeTimeout
  | 0x0E => sessionClosed
  | 0x0F => peerEOF
  | _ => errorUnknown

theorem ErrorCode.ofError_val (error : Error) : (ofError error).val = error.toU32 := by
  cases error <;> rfl

@[simp]
theorem Error.ofErrorCode_ofError (error : Error) :
    ofErrorCode (ErrorCode.ofError error) = error := by
  cases error <;> rfl

/-- Only `Error::None` has code zero. -/
theorem Error.toU32_eq_zero_iff (error : Error) : error.toU32 = 0 ↔ error = none := by
  cases error <;> simp [toU32]

inductive InvalidHeader where
  | zeroStreamID
  | nonZeroStreamID (streamId : StreamID)
  | length (expected actual : Length)
  | minLength (expected actual : Length)
  | type (value : UInt8)
deriving DecidableEq, Repr

inductive HeaderType where
  | rst
  | data
  | wndInc
  | goAway
  | invalid (value : UInt8)
deriving DecidableEq, Repr

def HeaderType.ofU8 (value : UInt8) : HeaderType :=
  match value with
  | 0 => rst
  | 1 => data
  | 2 => wndInc
  | 3 => goAway
  | other => invalid other

def HeaderType.toU8 : HeaderType → UInt8
  | rst => 0
  | data => 1
  | wndInc => 2
  | goAway => 3
  | invalid value => value

/-- The two known flag bits, `FIN = 0b0001` and `SYN = 0b0010`. -/
structure Flags where
  fin : Bool
  syn : Bool
deriving DecidableEq, Repr

namespace Flags

def empty : Flags := ⟨false, false⟩

def fromBitsTruncate (bits : UInt8) : Flags :=
  ⟨bits &&& 0b0001 != 0, bits &&& 0b0010 != 0⟩

def bits (flags : Flags) : UInt8 :=
  (if flags.fin then 0b0001 else 0) ||| (if flags.syn then 0b0010 else 0)

end Flags

structure Header where
  length : Length
  typ : HeaderType
  flags : Flags
  streamId : StreamID
deriving DecidableEq, Repr

/-- The default header: nothing set, and a type that never goes on the wire. -/
def Header.default : Header where
  length := Constrained.clamp 0
  typ := .invalid 255
  flags := Flags.empty
  streamId := Constrained.clamp 0

inductive Body where
  | rst (error : Error)
  | data (bytes : List UInt8)
  | wndInc (increment : WndInc)
  | goAway (lastStreamId : StreamID) (error : Error) (message : List UInt8)
  | invalid (error : InvalidHeader) (bytes : List UInt8)
deriving DecidableEq, Repr

namespace Body

def headerType : Body → HeaderType
  | data _ => .data
  | goAway _ _ _ => .goAway
  | wndInc _ => .wndInc
  | rst _ => .rst
  | invalid _ _ => .invalid 0xff

def len : Body → Nat
  | data bytes => bytes.length
  | goAway _ _ _ => 8
  | wndInc _ => 4
  | rst _ => 4
  | invalid _ bytes => bytes.length

def clampLen : Body → Body
  | data bytes => data (bytes.take (min lengthMax bytes.length))
  | invalid error bytes => invalid error (bytes.take (min lengthMax bytes.length))
  | body => body

/-- Bodies that `send_to_stream` does not reject at once. -/
def routable : Body → Bool
  | goAway _ _ _ => false
  | invalid _ _ => false
  | _ => true

def payload : Body → List UInt8
  | data bytes => bytes
  | _ => []

def credit : Body → Nat
  | wndInc increment => increment.val
  | _ => 0

end Body

structure Frame where
  header : Header
  body : Body
deriving DecidableEq, Repr

namespace Frame

def ofBody (other : Body) : Frame :=
  let body := other.clampLen
  { header :=
      { Header.default with
        length := Constrained.clamp (asU32 body.len)
        typ := other.headerType }
    body := body }

def isFin (frame : Frame) : Bool := frame.header.flags.fin
def isSyn (frame : Frame) : Bool := frame.header.flags.syn

def fin (frame : Frame) : Frame :=
  { frame with header := { frame.header with flags := { frame.header.flags with fin := true } } }

def syn (frame : Frame) : Frame :=
  { frame with header := { frame.header with flags := { frame.header.flags with syn := true } } }

def withStreamId (frame : Frame) (id : StreamID) : Frame :=
  { frame with header := { frame.header with streamId := id } }

def rst (streamId : StreamID) (error : Error) : Frame where
  header :=
    { Header.default with
      length := Constrained.clamp 4
      streamId := streamId
      typ := .rst }
  body := .rst error

def goaway (lastStreamId : StreamID) (error : Error) (message : List UInt8) : Frame :=
  let length : Length := Constrained.clamp (asU32 message.length)
  { header := { Header.default with length := length, typ := .goAway }
    body := .goAway lastStreamId error (message.take length.val) }

def Deliverable (frame : Frame) : Prop :=
  (∃ bytes, frame.body = .data bytes) ∨ ∃ by', frame.body = .wndInc by'

theorem deliverable_of_routable {frame : Frame} (routable : frame.body.routable = true)
    (notRst : ∀ error, frame.body ≠ .rst error) : frame.Deliverable := by
  cases body : frame.body with
  | rst error => exact absurd body (notRst error)
  | data bytes => exact Or.inl ⟨bytes, body⟩
  | wndInc increment => exact Or.inr ⟨increment, body⟩
  | goAway lastStreamId error message => simp [body, Body.routable] at routable
  | invalid error bytes => simp [body, Body.routable] at routable

/-- Bytes a frame carries for the application. -/
def payload (frame : Frame) : List UInt8 := frame.body.payload

def isData (frame : Frame) : Bool :=
  match frame.body with
  | .data _ => true
  | _ => false

def credit (frame : Frame) : Nat := frame.body.credit

@[simp] theorem fin_body (frame : Frame) : frame.fin.body = frame.body := rfl
@[simp] theorem syn_body (frame : Frame) : frame.syn.body = frame.body := rfl
@[simp] theorem withStreamId_body (frame : Frame) (id : StreamID) :
    (frame.withStreamId id).body = frame.body := rfl
@[simp] theorem withStreamId_streamId (frame : Frame) (id : StreamID) :
    (frame.withStreamId id).header.streamId = id := rfl
@[simp] theorem withStreamId_isFin (frame : Frame) (id : StreamID) :
    (frame.withStreamId id).isFin = frame.isFin := rfl
@[simp] theorem withStreamId_isSyn (frame : Frame) (id : StreamID) :
    (frame.withStreamId id).isSyn = frame.isSyn := rfl
@[simp] theorem withStreamId_payload (frame : Frame) (id : StreamID) :
    (frame.withStreamId id).payload = frame.payload := rfl
@[simp] theorem withStreamId_credit (frame : Frame) (id : StreamID) :
    (frame.withStreamId id).credit = frame.credit := rfl
@[simp] theorem withStreamId_typ (frame : Frame) (id : StreamID) :
    (frame.withStreamId id).header.typ = frame.header.typ := rfl

end Frame

def payloads (frames : List Frame) : List UInt8 := frames.flatMap Frame.payload

def credits (frames : List Frame) : Nat := (frames.map Frame.credit).sum

@[simp] theorem payloads_nil : payloads [] = [] := rfl
@[simp] theorem payloads_cons (frame : Frame) (frames : List Frame) :
    payloads (frame :: frames) = frame.payload ++ payloads frames := rfl
@[simp] theorem payloads_append (first second : List Frame) :
    payloads (first ++ second) = payloads first ++ payloads second := by
  simp [payloads]

@[simp] theorem credits_nil : credits [] = 0 := rfl
@[simp] theorem credits_cons (frame : Frame) (frames : List Frame) :
    credits (frame :: frames) = frame.credit + credits frames := by
  simp [credits]
@[simp] theorem credits_append (first second : List Frame) :
    credits (first ++ second) = credits first + credits second := by
  simp [credits]

end Muxado

end NgrokRust
