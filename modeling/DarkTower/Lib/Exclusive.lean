import Mathlib.Tactic.Common

/-!
# One worker at a time

A resource that at most one of many workers uses at a time. While nobody works
the resource is in order, and while a worker is at it, the resource is as the
worker leaves it in between. What a step does to who works is one of four
things (`enter`, `pass`, `leave`, `frame`), and each asks for one fact about
the resource only.
-/

namespace DarkTower.Lib

/-- At most one worker is active; `holds i` is what is true while `i` works and
    `quiet` what is true while nobody does. -/
structure Exclusive {ι : Type*} (active holds : ι → Prop) (quiet : Prop) : Prop where
  unique : ∀ i j, active i → active j → i = j
  whileActive : ∀ i, active i → holds i
  whileFree : (∀ i, ¬ active i) → quiet

namespace Exclusive

variable {ι : Type*} {active holds active' holds' : ι → Prop} {quiet quiet' : Prop}

/-- Nobody works. -/
theorem of_free (hfree : ∀ i, ¬ active i) (hquiet : quiet) : Exclusive active holds quiet :=
  ⟨fun i _ hi => absurd hi (hfree i), fun i hi => absurd hi (hfree i), fun _ => hquiet⟩

/-- Nobody worked, and `i` starts. -/
theorem enter (h : Exclusive active holds quiet) {i : ι} (hfree : ∀ j, ¬ active j)
    (hi : active' i) (honly : ∀ j, active' j → j = i ∨ active j) (hholds : quiet → holds' i) :
    Exclusive active' holds' quiet' := by
  have heq : ∀ j, active' j → j = i := fun j hj => (honly j hj).resolve_right (hfree j)
  refine ⟨fun j k hj hk => (heq j hj).trans (heq k hk).symm, fun j hj => ?_, fun hnone => ?_⟩
  · rw [heq j hj]
    exact hholds (h.whileFree hfree)
  · exact absurd hi (hnone i)

/-- `i` worked, and now `j` does: another one, or `i` at its next step. -/
theorem pass (h : Exclusive active holds quiet) {i j : ι} (hi : active i) (hj : active' j)
    (honly : ∀ k, active' k → k = j ∨ active k ∧ k ≠ i) (hholds : holds i → holds' j) :
    Exclusive active' holds' quiet' := by
  have heq : ∀ k, active' k → k = j := by
    intro k hk
    rcases honly k hk with heq | ⟨hold, hne⟩
    · exact heq
    · exact absurd (h.unique k i hold hi) hne
  refine ⟨fun k l hk hl => (heq k hk).trans (heq l hl).symm, fun k hk => ?_, fun hnone => ?_⟩
  · rw [heq k hk]
    exact hholds (h.whileActive i hi)
  · exact absurd hj (hnone j)

/-- `i` worked and is done. -/
theorem leave (h : Exclusive active holds quiet) {i : ι} (hi : active i)
    (hrest : ∀ k, active' k → active k ∧ k ≠ i) (hquiet : holds i → quiet') :
    Exclusive active' holds' quiet' := by
  refine of_free (fun k hk => ?_) (hquiet (h.whileActive i hi))
  obtain ⟨hold, hne⟩ := hrest k hk
  exact hne (h.unique k i hold hi)

/-- The same workers are active as before. -/
theorem frame (h : Exclusive active holds quiet) (hactive : ∀ k, active' k ↔ active k)
    (hholds : ∀ k, active k → holds k → holds' k) (hquiet : quiet → quiet') :
    Exclusive active' holds' quiet' := by
  refine ⟨fun i j hi hj => h.unique i j ((hactive i).mp hi) ((hactive j).mp hj),
    fun i hi => ?_, fun hnone => ?_⟩
  · have hi := (hactive i).mp hi
    exact hholds i hi (h.whileActive i hi)
  · exact hquiet (h.whileFree fun i hi => hnone i ((hactive i).mpr hi))

end Exclusive

end DarkTower.Lib
