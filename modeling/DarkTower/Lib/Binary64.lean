import Mathlib.Algebra.Group.Nat.Defs
import Mathlib.Data.Nat.Log
import Mathlib.Tactic.Common

/-!
# Natural numbers in IEEE 754 binary64

`round n` is the double nearest to the natural number `n`, ties to the even
significand. Only the 53-bit significand matters here: numbers that overflow
the exponent are out of reach of the programs modelled with it.

* `round_of_le`: naturals up to 2⁵³ are doubles.
* `round_round`, `round_mono`: rounding is a projection and keeps the order.
-/

namespace DarkTower.Lib.Binary64

/-- The distance between neighbouring doubles in the binade of `n`, at least 1. -/
def ulp (n : ℕ) : ℕ := 2 ^ (n.log2 - 52)

/-- The double nearest to `n`, ties to even. -/
def round (n : ℕ) : ℕ :=
  let q := n / ulp n
  let r := n % ulp n
  if 2 * r < ulp n ∨ 2 * r = ulp n ∧ q % 2 = 0 then q * ulp n else (q + 1) * ulp n

theorem ulp_pos (n : ℕ) : 0 < ulp n := Nat.two_pow_pos _

theorem round_of_dvd {n : ℕ} (h : ulp n ∣ n) : round n = n := by
  have hr : n % ulp n = 0 := Nat.mod_eq_zero_of_dvd h
  have hu := ulp_pos n
  unfold round
  dsimp only
  rw [if_pos (Or.inl (by omega)), Nat.div_mul_cancel h]

/-- Naturals with a significand of 53 bits are doubles. -/
theorem round_mul_two_pow {k : ℕ} (hk : k ≤ 2 ^ 53) (e : ℕ) : round (k * 2 ^ e) = k * 2 ^ e := by
  apply round_of_dvd
  rcases Nat.lt_or_eq_of_le hk with hk | rfl
  · by_cases hzero : k = 0
    · subst hzero; simp
    have hne : k * 2 ^ e ≠ 0 := Nat.mul_ne_zero hzero (Nat.two_pow_pos e).ne'
    have hlog : (k * 2 ^ e).log2 < 53 + e := by
      rw [Nat.log2_lt hne, Nat.pow_add]
      exact Nat.mul_lt_mul_of_pos_right hk (Nat.two_pow_pos e)
    exact Nat.dvd_trans (Nat.pow_dvd_pow 2 (by omega)) (Nat.dvd_mul_left _ k)
  · rw [← Nat.pow_add, ulp, Nat.log2_two_pow]
    exact Nat.pow_dvd_pow 2 (by omega)

theorem round_of_le {n : ℕ} (h : n ≤ 2 ^ 53) : round n = n := by
  simpa using round_mul_two_pow h 0

theorem div_mul_le_round (n : ℕ) : n / ulp n * ulp n ≤ round n := by
  unfold round
  dsimp only
  split_ifs
  · exact le_rfl
  · exact Nat.mul_le_mul_right _ (Nat.le_succ _)

theorem round_le_succ_mul (n : ℕ) : round n ≤ (n / ulp n + 1) * ulp n := by
  unfold round
  dsimp only
  split_ifs
  · exact Nat.mul_le_mul_right _ (Nat.le_succ _)
  · exact le_rfl

/-- The significand of a natural fits in 53 bits. -/
theorem div_ulp_lt (n : ℕ) : n / ulp n < 2 ^ 53 := by
  rw [Nat.div_lt_iff_lt_mul (ulp_pos n), ulp, ← Nat.pow_add]
  calc n < 2 ^ (n.log2 + 1) := Nat.lt_log2_self
    _ ≤ 2 ^ (53 + (n.log2 - 52)) := Nat.pow_le_pow_right (by decide) (by omega)

@[simp] theorem round_round (n : ℕ) : round (round n) = round n := by
  have hq := div_ulp_lt n
  have hcases : round n = n / ulp n * ulp n ∨ round n = (n / ulp n + 1) * ulp n := by
    unfold round
    dsimp only
    split_ifs
    · exact Or.inl rfl
    · exact Or.inr rfl
  rcases hcases with h | h
  · rw [h]
    exact round_mul_two_pow hq.le _
  · rw [h]
    exact round_mul_two_pow hq _

/-- A multiple of the spacing above `n` is above the double nearest to `n`. -/
theorem round_le_of_dvd {n d : ℕ} (h : n < d) (hd : ulp n ∣ d) : round n ≤ d := by
  obtain ⟨m, rfl⟩ := hd
  have hm : n / ulp n < m := by
    rwa [Nat.div_lt_iff_lt_mul (ulp_pos n), Nat.mul_comm]
  calc round n ≤ (n / ulp n + 1) * ulp n := round_le_succ_mul n
    _ ≤ m * ulp n := Nat.mul_le_mul_right _ hm
    _ = ulp n * m := Nat.mul_comm _ _

/-- A multiple of the spacing below `n` is below the double nearest to `n`. -/
theorem le_round_of_dvd {n d : ℕ} (h : d ≤ n) (hd : ulp n ∣ d) : d ≤ round n := by
  obtain ⟨m, rfl⟩ := hd
  have hm : m ≤ n / ulp n := by
    rwa [Nat.le_div_iff_mul_le (ulp_pos n), Nat.mul_comm]
  calc ulp n * m = m * ulp n := Nat.mul_comm _ _
    _ ≤ n / ulp n * ulp n := Nat.mul_le_mul_right _ hm
    _ ≤ round n := div_mul_le_round n

/-- Rounding keeps the order of two naturals with the same spacing. -/
theorem round_le_round_of_ulp_eq {a b : ℕ} (h : a ≤ b) (hu : ulp a = ulp b) :
    round a ≤ round b := by
  rcases Nat.lt_or_ge (a / ulp a) (b / ulp b) with hq | hq
  · calc round a ≤ (a / ulp a + 1) * ulp a := round_le_succ_mul a
      _ ≤ b / ulp b * ulp b := by rw [hu] at hq ⊢; exact Nat.mul_le_mul_right _ hq
      _ ≤ round b := div_mul_le_round b
  · -- equal significands: the remainders decide
    have hle : a / ulp b ≤ b / ulp b := Nat.div_le_div_right h
    rw [hu] at hq
    have heq : a / ulp b = b / ulp b := le_antisymm hle hq
    have ha := Nat.div_add_mod a (ulp b)
    have hb := Nat.div_add_mod b (ulp b)
    rw [heq] at ha
    have hr : a % ulp b ≤ b % ulp b := by omega
    unfold round
    dsimp only
    rw [hu, heq]
    split_ifs with h1 h2 h2
    · exact le_rfl
    · exact Nat.mul_le_mul_right _ (Nat.le_succ _)
    · exact absurd h2 (by omega)
    · exact le_rfl

/-- Rounding keeps the order. -/
theorem round_mono {a b : ℕ} (h : a ≤ b) : round a ≤ round b := by
  by_cases hu : ulp a = ulp b
  · exact round_le_round_of_ulp_eq h hu
  -- between the two lies a power of two, a double
  have hb : b ≠ 0 := by
    rintro rfl
    obtain rfl := Nat.le_zero.mp h
    exact hu rfl
  have hexp : a.log2 - 52 < b.log2 - 52 := by
    rcases Nat.lt_trichotomy (a.log2 - 52) (b.log2 - 52) with hlt | heq | hgt
    · exact hlt
    · exact absurd (congrArg (2 ^ ·) heq) hu
    · have hlog : a.log2 ≤ b.log2 := by
        rw [Nat.le_log2 hb]
        by_cases ha : a = 0
        · subst ha; simp; omega
        · exact (Nat.log2_self_le ha).trans h
      omega
  have hpow : 2 ^ b.log2 ≤ b := Nat.log2_self_le hb
  have ha : a < 2 ^ b.log2 := by
    by_cases ha : a = 0
    · subst ha; exact Nat.two_pow_pos _
    · rw [← Nat.log2_lt ha]; omega
  calc round a ≤ 2 ^ b.log2 := round_le_of_dvd ha (Nat.pow_dvd_pow 2 (by omega))
    _ ≤ round b := le_round_of_dvd hpow (Nat.pow_dvd_pow 2 (by omega))

example : round (2 ^ 53 + 1) = 2 ^ 53 := by decide

end DarkTower.Lib.Binary64
