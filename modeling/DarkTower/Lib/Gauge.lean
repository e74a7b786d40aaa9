import Mathlib.Data.BitVec

/-!
# Gauges

A gauge is a wrapping counter of fixed width that its users move up and down
by one, as `fetch_add(1)` and `fetch_sub(1)` do. `Shows g n`: the gauge is at
`n` and no `down` was ever applied at zero.

`Shows.run_down_iff` and `Shows.run_up_iff` say when a gauge that showed the
size of something still shows it after that size has changed.
-/

namespace DarkTower.Lib

/-- One move of a gauge. -/
inductive Tick
  | up
  | down
deriving DecidableEq

/-- A counter of `w` bits. `underflow` records that a `down` was applied at zero. -/
structure Gauge (w : ℕ) where
  value : BitVec w
  underflow : Bool
deriving DecidableEq

namespace Gauge

variable {w : ℕ}

/-- The gauge at its start. -/
def zero (w : ℕ) : Gauge w := ⟨0#w, false⟩

/-- The gauge after a tick. -/
def tick (g : Gauge w) : Tick → Gauge w
  | .up => { g with value := g.value + 1#w }
  | .down => ⟨g.value - 1#w, g.underflow || g.value == 0#w⟩

/-- The gauge after ticks. -/
def run (g : Gauge w) (ticks : List Tick) : Gauge w := ticks.foldl tick g

@[simp] theorem run_nil (g : Gauge w) : g.run [] = g := rfl

@[simp] theorem run_cons (g : Gauge w) (t : Tick) (ticks : List Tick) :
    g.run (t :: ticks) = (g.tick t).run ticks := rfl

/-- The gauge is at `n`, and has never been moved below zero. -/
def Shows (g : Gauge w) (n : ℕ) : Prop := g.value.toNat = n ∧ g.underflow = false

instance (g : Gauge w) (n : ℕ) : Decidable (g.Shows n) := inferInstanceAs (Decidable (_ ∧ _))

theorem shows_zero : (zero w).Shows 0 := by simp [zero, Shows]

variable {g : Gauge w} {n n' : ℕ}

theorem Shows.eq_iff (h : g.Shows n) : g.Shows n' ↔ n' = n := by
  constructor
  · intro h'
    exact h'.1.symm.trans h.1
  · rintro rfl
    exact h

theorem Shows.lt (h : g.Shows n) : n < 2 ^ w := h.1 ▸ g.value.isLt

theorem Shows.down (h : g.Shows (n + 1)) : (g.tick .down).Shows n := by
  obtain ⟨hvalue, hunderflow⟩ := h
  have hne : g.value ≠ 0#w := by
    rintro h0
    simp [h0] at hvalue
  refine ⟨?_, by simp [tick, hunderflow, hne]⟩
  have hlt := g.value.isLt
  have hone : 1 < 2 ^ w := by omega
  have hle : 1#w ≤ g.value := by
    rw [BitVec.le_def, BitVec.toNat_ofNat, Nat.mod_eq_of_lt hone]
    omega
  show (g.value - 1#w).toNat = n
  rw [BitVec.toNat_sub_of_le hle, BitVec.toNat_ofNat, Nat.mod_eq_of_lt hone]
  omega

theorem Shows.run_down {k : ℕ} (h : g.Shows (n + k)) :
    (g.run (List.replicate k .down)).Shows n := by
  induction k generalizing g with
  | zero => exact h
  | succ k ih => exact ih h.down

/-- Of `told + untold` things that vanished, `told` moved the gauge. -/
theorem Shows.run_down_iff {told untold : ℕ} (h : g.Shows n) (hn : n' + told + untold = n) :
    (g.run (List.replicate told .down)).Shows n' ↔ untold = 0 := by
  have hold : (g.run (List.replicate told .down)).Shows (n' + untold) := by
    refine Shows.run_down ?_
    rw [show n' + untold + told = n by omega]
    exact h
  rw [hold.eq_iff]
  omega

/-- Something was announced that was new or not. -/
theorem Shows.run_up_iff {new : ℕ} (hw : 0 < w) (h : g.Shows n) (hn : n' = n + new)
    (hnew : new ≤ 1) :
    (g.run [.up]).Shows n' ↔ new = 1 ∧ n + 1 < 2 ^ w := by
  have hlt := h.lt
  have hvalue : (g.run [.up]).value.toNat = (n + 1) % 2 ^ w := by
    show (g.value + 1#w).toNat = _
    rw [BitVec.toNat_add, BitVec.toNat_ofNat, Nat.add_mod_mod, h.1]
  have hshows : (g.run [.up]).Shows n' ↔ (n + 1) % 2 ^ w = n' := by
    rw [Shows, hvalue]
    exact and_iff_left h.2
  rw [hshows]
  rcases Nat.lt_or_ge (n + 1) (2 ^ w) with hfits | hfull
  · rw [Nat.mod_eq_of_lt hfits]
    omega
  · -- the gauge was at its largest value
    have hn1 : n + 1 = 2 ^ w := by omega
    have htwo : 1 < 2 ^ w := Nat.one_lt_two_pow (by omega)
    rw [hn1, Nat.mod_self]
    omega

end Gauge

end DarkTower.Lib
