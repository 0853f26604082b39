import Mathlib.Data.Nat.Bitwise
import Mathlib.Tactic.Ring

/-!
# Big-endian 32-bit words

Writing a word as four bytes, most significant first, and reading it back from
the front of a byte string.  Reading needs four bytes; the reader of a shorter
string has to say what that means.
-/

namespace BigEndian

def putU32 (value : Nat) : List UInt8 :=
  [UInt8.ofNat (value >>> 24), UInt8.ofNat (value >>> 16),
    UInt8.ofNat (value >>> 8), UInt8.ofNat value]

/-- The word at the front of a byte string and the bytes after it. -/
def getU32 : List UInt8 → Option (Nat × List UInt8)
  | first :: second :: third :: fourth :: rest =>
      some (first.toNat * 2 ^ 24 + second.toNat * 2 ^ 16 + third.toNat * 2 ^ 8 +
        fourth.toNat, rest)
  | _ => none

@[simp]
theorem putU32_length (value : Nat) : (putU32 value).length = 4 := rfl

/-- A word below `2 ^ 32` is read back exactly. -/
theorem getU32_putU32 {value : Nat} (fits : value < 2 ^ 32) (rest : List UInt8) :
    getU32 (putU32 value ++ rest) = some (value, rest) := by
  simp only [putU32, List.cons_append, List.nil_append, getU32, UInt8.toNat_ofNat',
    Nat.shiftRight_eq_div_pow, Option.some.injEq, Prod.mk.injEq, and_true]
  omega

theorem getU32_lt {bytes rest : List UInt8} {value : Nat}
    (read : getU32 bytes = some (value, rest)) : value < 2 ^ 32 := by
  match bytes, read with
  | first :: second :: third :: fourth :: _, read =>
      simp only [getU32, Option.some.injEq, Prod.mk.injEq] at read
      have := first.toNat_lt
      have := second.toNat_lt
      have := third.toNat_lt
      have := fourth.toNat_lt
      omega

theorem getU32_length {bytes rest : List UInt8} {value : Nat}
    (read : getU32 bytes = some (value, rest)) : bytes.length = rest.length + 4 := by
  match bytes, read with
  | _ :: _ :: _ :: _ :: _, read =>
      simp only [getU32, Option.some.injEq, Prod.mk.injEq] at read
      simp [← read.2]

theorem exists_getU32 (bytes : List UInt8) (enough : 4 ≤ bytes.length) :
    ∃ value rest, getU32 bytes = some (value, rest) := by
  match bytes, enough with
  | _ :: _ :: _ :: _ :: _, _ => exact ⟨_, _, rfl⟩

end BigEndian
