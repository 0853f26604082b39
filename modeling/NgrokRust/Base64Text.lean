import Mathlib.Data.List.Basic

/-!
# Base64 with padding

Three bytes are four digits of six bits each.  One or two bytes at the end are padded to
four characters, and the bits of a digit that stand for no byte have to be zero.
-/

namespace Base64Text

def digit (value : Nat) : Char :=
  if value < 26 then Char.ofNat ('A'.toNat + value)
  else if value < 52 then Char.ofNat ('a'.toNat + (value - 26))
  else if value < 62 then Char.ofNat ('0'.toNat + (value - 52))
  else if value = 62 then '+'
  else '/'

def value (char : Char) : Option Nat :=
  (List.range 64).find? fun value => digit value == char

def encodeBytes : List UInt8 → List Char
  | [] => []
  | [first] =>
      [digit (first.toNat / 4), digit (first.toNat % 4 * 16), '=', '=']
  | [first, second] =>
      [digit (first.toNat / 4), digit (first.toNat % 4 * 16 + second.toNat / 16),
        digit (second.toNat % 16 * 4), '=']
  | first :: second :: third :: bytes =>
      digit (first.toNat / 4) :: digit (first.toNat % 4 * 16 + second.toNat / 16) ::
        digit (second.toNat % 16 * 4 + third.toNat / 64) :: digit (third.toNat % 64) ::
          encodeBytes bytes

def decodeFour (first second third fourth : Char) : Option (List UInt8) :=
  match value first, value second, value third, value fourth with
  | some first, some second, none, none =>
      if third = '=' ∧ fourth = '=' ∧ second % 16 = 0 then
        some [UInt8.ofNat (first * 4 + second / 16)]
      else none
  | some first, some second, some third, none =>
      if fourth = '=' ∧ third % 4 = 0 then
        some [UInt8.ofNat (first * 4 + second / 16), UInt8.ofNat (second % 16 * 16 + third / 4)]
      else none
  | some first, some second, some third, some fourth =>
      some [UInt8.ofNat (first * 4 + second / 16), UInt8.ofNat (second % 16 * 16 + third / 4),
        UInt8.ofNat (third % 4 * 64 + fourth)]
  | _, _, _, _ => none

/-- Only the last four characters may be padded. -/
def decodeChars : List Char → Option (List UInt8)
  | [] => some []
  | first :: second :: third :: fourth :: chars =>
      match decodeFour first second third fourth with
      | none => none
      | some bytes =>
          if bytes.length = 3 ∨ chars = [] then (decodeChars chars).map (bytes ++ ·) else none
  | _ => none

def encode (bytes : List UInt8) : String := String.ofList (encodeBytes bytes)

def decode (text : String) : Option (List UInt8) := decodeChars text.toList

theorem value_digit {number : Nat} (small : number < 64) : value (digit number) = some number := by
  revert number
  decide

theorem value_padding : value '=' = none := by
  decide

theorem ofNat_eq (byte : UInt8) {number : Nat} (same : number = byte.toNat) :
    UInt8.ofNat number = byte := by
  rw [same, UInt8.ofNat_toNat]

theorem decodeFour_one (first : UInt8) :
    decodeFour (digit (first.toNat / 4)) (digit (first.toNat % 4 * 16)) '=' '=' =
      some [first] := by
  have small : first.toNat < 256 := first.toNat_lt
  rw [decodeFour, value_digit (by omega), value_digit (by omega), value_padding]
  simp only [true_and]
  rw [if_pos (by omega), ofNat_eq first (by omega)]

theorem decodeFour_two (first second : UInt8) :
    decodeFour (digit (first.toNat / 4)) (digit (first.toNat % 4 * 16 + second.toNat / 16))
      (digit (second.toNat % 16 * 4)) '=' = some [first, second] := by
  have small : first.toNat < 256 := first.toNat_lt
  have small' : second.toNat < 256 := second.toNat_lt
  rw [decodeFour, value_digit (by omega), value_digit (by omega), value_digit (by omega),
    value_padding]
  simp only [true_and]
  rw [if_pos (by omega), ofNat_eq first (by omega), ofNat_eq second (by omega)]

theorem decodeFour_three (first second third : UInt8) :
    decodeFour (digit (first.toNat / 4)) (digit (first.toNat % 4 * 16 + second.toNat / 16))
      (digit (second.toNat % 16 * 4 + third.toNat / 64)) (digit (third.toNat % 64)) =
        some [first, second, third] := by
  have small : first.toNat < 256 := first.toNat_lt
  have small' : second.toNat < 256 := second.toNat_lt
  have small'' : third.toNat < 256 := third.toNat_lt
  rw [decodeFour, value_digit (by omega), value_digit (by omega), value_digit (by omega),
    value_digit (by omega)]
  simp only
  rw [ofNat_eq first (by omega), ofNat_eq second (by omega), ofNat_eq third (by omega)]

theorem decodeChars_encodeBytes (bytes : List UInt8) :
    decodeChars (encodeBytes bytes) = some bytes := by
  induction bytes using encodeBytes.induct with
  | case1 => rfl
  | case2 first =>
      rw [encodeBytes, decodeChars, decodeFour_one]
      rfl
  | case3 first second =>
      rw [encodeBytes, decodeChars, decodeFour_two]
      rfl
  | case4 first second third bytes ih =>
      rw [encodeBytes, decodeChars, decodeFour_three]
      simp only [List.length_cons, List.length_nil, true_or, if_true, ih]
      rfl

theorem decode_of_encode (bytes : List UInt8) : decode (encode bytes) = some bytes := by
  rw [decode, encode, String.toList_ofList, decodeChars_encodeBytes]

example : encode [110, 103, 114, 111, 107] = "bmdyb2s=" := by decide

end Base64Text
