import Mathlib.Data.List.Basic
import Mathlib.Data.Nat.Notation
import Mathlib.Tactic.Ring

/-!
# Numbers in big-endian byte strings

Byte strings are lists of bytes. `putBE w n` writes the number `n` in `w` bytes,
the most significant one first, and drops what does not fit; `getBE` reads a
number back.

* `getBE_putBE`: what is read back is `n` modulo `256 ^ w`.
* `putBE_getBE`: writing a number that was read gives the same bytes.

A buffer is read from the front: `take` is what a read sees and `drop` is what it
leaves. `take_putBE` and `drop_putBE` are the two for a buffer that starts with a
number, and `eq_putBE_append` says that every long enough buffer does.
-/

namespace DarkTower.Lib.Bytes

/-- The number `n` in `w` bytes. -/
def putBE : ℕ → ℕ → List UInt8
  | 0, _ => []
  | w + 1, n => UInt8.ofNat (n / 256 ^ w) :: putBE w n

/-- The number that a byte string spells. -/
def getBE : List UInt8 → ℕ
  | [] => 0
  | b :: bytes => b.toNat * 256 ^ bytes.length + getBE bytes

@[simp] theorem length_putBE (w n : ℕ) : (putBE w n).length = w := by
  induction w with
  | zero => rfl
  | succ w ih => simp [putBE, ih]

theorem getBE_lt (bytes : List UInt8) : getBE bytes < 256 ^ bytes.length := by
  induction bytes with
  | nil => simp [getBE]
  | cons b bytes ih =>
    have hb : b.toNat ≤ 255 := by have := b.toNat_lt; omega
    have hmul : b.toNat * 256 ^ bytes.length ≤ 255 * 256 ^ bytes.length :=
      Nat.mul_le_mul_right _ hb
    simp only [getBE, List.length_cons, pow_succ]
    omega

theorem getBE_putBE (w n : ℕ) : getBE (putBE w n) = n % 256 ^ w := by
  induction w with
  | zero => simp [putBE, getBE, Nat.mod_one]
  | succ w ih =>
    have hbyte : (UInt8.ofNat (n / 256 ^ w)).toNat = n / 256 ^ w % 256 := by simp
    rw [putBE, getBE, hbyte, length_putBE, ih, pow_succ, Nat.mod_mul]
    ring

theorem getBE_putBE_of_lt {w n : ℕ} (h : n < 256 ^ w) : getBE (putBE w n) = n := by
  rw [getBE_putBE, Nat.mod_eq_of_lt h]

/-- Whole multiples of `256 ^ w` do not show in `w` bytes. -/
theorem putBE_mul_add (w q n : ℕ) : putBE w (q * 256 ^ w + n) = putBE w n := by
  induction w generalizing q with
  | zero => rfl
  | succ w ih =>
    have hsplit : q * 256 ^ (w + 1) + n = n + q * 256 * 256 ^ w := by ring
    have hpos : 0 < 256 ^ w := Nat.pow_pos (by omega)
    rw [putBE, putBE, hsplit, Nat.add_mul_div_right _ _ hpos, Nat.add_comm n, ih]
    congr 1
    apply UInt8.toNat_inj.mp
    simp

theorem putBE_getBE (bytes : List UInt8) : putBE bytes.length (getBE bytes) = bytes := by
  induction bytes with
  | nil => rfl
  | cons b bytes ih =>
    have hpos : 0 < 256 ^ bytes.length := Nat.pow_pos (by omega)
    have hbyte : (b.toNat * 256 ^ bytes.length + getBE bytes) / 256 ^ bytes.length = b.toNat := by
      rw [Nat.add_comm, Nat.add_mul_div_right _ _ hpos, Nat.div_eq_of_lt (getBE_lt bytes)]
      omega
    rw [List.length_cons, putBE, getBE, putBE_mul_add, ih, hbyte]
    simp

/-! ## Buffers -/

theorem getBE_inj {bytes bytes' : List UInt8} (h : bytes.length = bytes'.length) :
    getBE bytes = getBE bytes' ↔ bytes = bytes' := by
  refine ⟨fun heq => ?_, fun heq => by rw [heq]⟩
  rw [← putBE_getBE bytes, ← putBE_getBE bytes', h, heq]

@[simp] theorem take_putBE (w n : ℕ) (rest : List UInt8) :
    (putBE w n ++ rest).take w = putBE w n :=
  List.take_left' (length_putBE w n)

@[simp] theorem drop_putBE (w n : ℕ) (rest : List UInt8) : (putBE w n ++ rest).drop w = rest :=
  List.drop_left' (length_putBE w n)

theorem drop_putBE_add (w n m : ℕ) (rest : List UInt8) :
    (putBE w n ++ rest).drop (w + m) = rest.drop m := by
  rw [← List.drop_drop, drop_putBE]

theorem eq_putBE_append {w : ℕ} {data : List UInt8} (h : w ≤ data.length) :
    data = putBE w (getBE (data.take w)) ++ data.drop w := by
  have hput := putBE_getBE (data.take w)
  rw [List.length_take_of_le h] at hput
  rw [hput, List.take_append_drop]

theorem getBE_take_lt (w : ℕ) (data : List UInt8) : getBE (data.take w) < 256 ^ w := by
  refine lt_of_lt_of_le (getBE_lt _) (Nat.pow_le_pow_right (by omega) ?_)
  simp

end DarkTower.Lib.Bytes
