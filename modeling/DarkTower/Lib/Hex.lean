import Mathlib.Tactic.Common
import Mathlib.Tactic.IntervalCases

/-!
# Hexadecimal text of byte strings

`encode` writes two lower-case digits a byte. `decode` reads digits of either
case and rejects an odd number of digits or any other character, as the `hex`
crate documents. Different texts can therefore decode to the same bytes;
`decode_encode` says that every encoding decodes to what was encoded.
-/

namespace DarkTower.Lib.Hex

/-- The lower-case digit of a value below 16. -/
def digit (n : ℕ) : Char := "0123456789abcdef".toList.getD n '0'

/-- The value of a digit, in either case. -/
def value (c : Char) : Option ℕ :=
  if '0' ≤ c ∧ c ≤ '9' then some (c.toNat - '0'.toNat)
  else if 'a' ≤ c ∧ c ≤ 'f' then some (c.toNat - 'a'.toNat + 10)
  else if 'A' ≤ c ∧ c ≤ 'F' then some (c.toNat - 'A'.toNat + 10)
  else none

/-- The digits of a byte string. -/
def encodeChars (bs : List UInt8) : List Char :=
  bs.flatMap fun b => [digit (b.toNat / 16), digit (b.toNat % 16)]

/-- The bytes of a list of digits. -/
def decodeChars : List Char → Option (List UInt8)
  | [] => some []
  | [_] => none
  | hi :: lo :: rest => do
    let h ← value hi
    let l ← value lo
    let bs ← decodeChars rest
    return UInt8.ofNat (16 * h + l) :: bs

/-- `hex::encode`. -/
def encode (bs : List UInt8) : String := String.ofList (encodeChars bs)

/-- `hex::decode`. -/
def decode (s : String) : Option (List UInt8) := decodeChars s.toList

theorem value_digit {n : ℕ} (h : n < 16) : value (digit n) = some n := by
  interval_cases n <;> decide

/-- Every digit is ASCII. -/
theorem toNat_lt_of_value {c : Char} (h : (value c).isSome = true) : c.toNat < 128 := by
  have hle (q : Char) (hq : q.toNat < 128) (hc : c ≤ q) : c.toNat < 128 :=
    Nat.lt_of_le_of_lt (UInt32.le_iff_toNat_le.mp hc) hq
  rw [value] at h
  split_ifs at h with h₁ h₂ h₃
  · exact hle '9' (by decide) h₁.2
  · exact hle 'f' (by decide) h₂.2
  · exact hle 'F' (by decide) h₃.2
  · cases h

theorem decodeChars_encodeChars (bs : List UInt8) : decodeChars (encodeChars bs) = some bs := by
  induction bs with
  | nil => rfl
  | cons b bs ih =>
    have hb : b.toNat < 256 := b.toNat_lt
    have hbyte : 16 * (b.toNat / 16) + b.toNat % 16 = b.toNat := by omega
    have hcons : encodeChars (b :: bs) =
      digit (b.toNat / 16) :: digit (b.toNat % 16) :: encodeChars bs := rfl
    rw [hcons, decodeChars, value_digit (by omega), value_digit (by omega), ih]
    simp only [Option.bind_eq_bind, Option.bind_some, hbyte, UInt8.ofNat_toNat]
    rfl

theorem decode_encode (bs : List UInt8) : decode (encode bs) = some bs := by
  rw [decode, encode, String.toList_ofList, decodeChars_encodeChars]

-- Either case is accepted; an odd number of digits is not.
example : decode "3F" = some [0x3f] ∧ decode "3f" = some [0x3f] ∧ decode "3f0" = none := by decide

end DarkTower.Lib.Hex
