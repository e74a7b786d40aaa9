import Mathlib.Algebra.BigOperators.Group.List.Basic
import Mathlib.Algebra.Ring.Int.Defs
import Mathlib.Data.Int.Notation
import Mathlib.Tactic.Common

/-!
# Matching brackets in a word

One letter opens and one closes. The height of a word is what it opens less what it closes;
a word keeps a height if no front of it goes below zero from there.

`cutAtClose` looks for the letter that closes what is open:
* `cutAtClose_eq_some_iff`: it finds the letter at which the height is zero for the first
  time, and
* `cutAtClose_eq_none_iff`: it finds none iff the word keeps the height.
-/

namespace DarkTower.Lib.Nesting

variable {α : Type*} [DecidableEq α] {op cl : α}

section

variable (op cl)

/-- What a letter adds to the height. -/
def delta (x : α) : ℤ := if x = op then 1 else if x = cl then -1 else 0

/-- What a word adds to the height. -/
def height (xs : List α) : ℤ := (xs.map (delta op cl)).sum

/-- From height `h` on, no front of the word goes below zero. -/
def Keeps (h : ℤ) (xs : List α) : Prop := ∀ front, front <+: xs → 0 ≤ h + height op cl front

/-- The word up to the letter that closes, `d` more being open, and what follows it. -/
def cutAtClose : ℕ → List α → Option (List α × List α)
  | _, [] => none
  | d, x :: xs =>
    if x = op then (cutAtClose (d + 1) xs).map fun p => (x :: p.1, p.2)
    else if x = cl then
      match d with
      | 0 => some ([], xs)
      | d + 1 => (cutAtClose d xs).map fun p => (x :: p.1, p.2)
    else (cutAtClose d xs).map fun p => (x :: p.1, p.2)

end

variable {h : ℤ} {d : ℕ} {x : α} {xs ys inner rest : List α}

@[simp] theorem height_nil : height op cl [] = 0 := rfl

@[simp] theorem height_cons : height op cl (x :: xs) = delta op cl x + height op cl xs :=
  List.sum_cons

theorem height_append : height op cl (xs ++ ys) = height op cl xs + height op cl ys := by
  unfold height
  rw [List.map_append, List.sum_append]

theorem delta_op : delta op cl op = 1 := if_pos rfl

theorem delta_cl (hne : cl ≠ op) : delta op cl cl = -1 := by
  unfold delta
  rw [if_neg hne, if_pos rfl]

theorem delta_of_ne (hop : x ≠ op) (hcl : x ≠ cl) : delta op cl x = 0 := by
  unfold delta
  rw [if_neg hop, if_neg hcl]

theorem height_of_notMem (hop : op ∉ xs) (hcl : cl ∉ xs) : height op cl xs = 0 := by
  induction xs with
  | nil => rfl
  | cons x xs ih =>
    obtain ⟨hx, hop⟩ := List.ne_and_not_mem_of_not_mem_cons hop
    obtain ⟨hx', hcl⟩ := List.ne_and_not_mem_of_not_mem_cons hcl
    rw [height_cons, delta_of_ne hx.symm hx'.symm, ih hop hcl]
    rfl

theorem keeps_nil : Keeps op cl h [] ↔ 0 ≤ h := by
  constructor
  · intro hk
    have := hk [] (List.prefix_refl _)
    rw [height_nil] at this
    omega
  · intro hh front hfront
    rw [List.prefix_nil.mp hfront, height_nil]
    omega

theorem keeps_cons : Keeps op cl h (x :: xs) ↔ 0 ≤ h ∧ Keeps op cl (h + delta op cl x) xs := by
  constructor
  · intro hk
    refine ⟨?_, fun front hfront => ?_⟩
    · have := hk [] (List.nil_prefix)
      rw [height_nil] at this
      omega
    · have := hk (x :: front) (List.cons_prefix_cons.mpr ⟨rfl, hfront⟩)
      rw [height_cons] at this
      omega
  · rintro ⟨hh, hk⟩ front hfront
    cases front with
    | nil =>
      rw [height_nil]
      omega
    | cons y front =>
      obtain ⟨rfl, htail⟩ := List.cons_prefix_cons.mp hfront
      have := hk front htail
      rw [height_cons]
      omega

theorem keeps_append :
    Keeps op cl h (xs ++ ys) ↔ Keeps op cl h xs ∧ Keeps op cl (h + height op cl xs) ys := by
  induction xs generalizing h with
  | nil =>
    rw [List.nil_append, height_nil, Int.add_zero, keeps_nil]
    refine (and_iff_right_of_imp fun hk => ?_).symm
    have := hk [] List.nil_prefix
    rw [height_nil] at this
    omega
  | cons x xs ih => rw [List.cons_append, keeps_cons, keeps_cons, ih, height_cons, and_assoc,
      Int.add_assoc]

theorem Keeps.nonneg (hk : Keeps op cl h xs) : 0 ≤ h := by
  have := hk [] List.nil_prefix
  rw [height_nil] at this
  omega

theorem cutAtClose_cons_op : cutAtClose op cl d (op :: xs) =
    (cutAtClose op cl (d + 1) xs).map fun p => (op :: p.1, p.2) := if_pos rfl

theorem cutAtClose_cons_cl_zero (hne : cl ≠ op) :
    cutAtClose op cl 0 (cl :: xs) = some ([], xs) := by
  unfold cutAtClose
  rw [if_neg hne, if_pos rfl]

theorem cutAtClose_cons_cl_succ (hne : cl ≠ op) : cutAtClose op cl (d + 1) (cl :: xs) =
    (cutAtClose op cl d xs).map fun p => (cl :: p.1, p.2) := by
  conv_lhs => unfold cutAtClose
  rw [if_neg hne, if_pos rfl]

theorem cutAtClose_cons_of_ne (hop : x ≠ op) (hcl : x ≠ cl) : cutAtClose op cl d (x :: xs) =
    (cutAtClose op cl d xs).map fun p => (x :: p.1, p.2) := by
  conv_lhs => unfold cutAtClose
  rw [if_neg hop, if_neg hcl]

/-- A letter that does not close all belongs to what is cut off, and changes how much is open. -/
theorem closes_cons_iff {d' : ℕ} (hx : ¬(x = cl ∧ d = 0)) (hd : (d' : ℤ) = d + delta op cl x) :
    (x :: xs = inner ++ cl :: rest ∧ Keeps op cl d inner ∧ d + height op cl inner = 0) ↔
      ∃ inner', x :: inner' = inner ∧
        xs = inner' ++ cl :: rest ∧ Keeps op cl d' inner' ∧ d' + height op cl inner' = 0 := by
  constructor
  · rintro ⟨heq, hkeeps, hzero⟩
    cases inner with
    | nil =>
      obtain ⟨rfl, -⟩ := List.cons.inj heq
      rw [height_nil] at hzero
      exact absurd ⟨rfl, by omega⟩ hx
    | cons y inner =>
      obtain ⟨rfl, hxs⟩ := List.cons.inj heq
      rw [height_cons] at hzero
      refine ⟨inner, rfl, hxs, ?_, by omega⟩
      rw [hd]
      exact (keeps_cons.mp hkeeps).2
  · rintro ⟨inner', rfl, rfl, hkeeps, hzero⟩
    refine ⟨rfl, keeps_cons.mpr ⟨Int.natCast_nonneg d, ?_⟩, ?_⟩
    · rw [← hd]
      exact hkeeps
    · rw [height_cons]
      omega

/-- The closing letter: the first one at which nothing is open any more. -/
theorem cutAtClose_eq_some_iff (hne : cl ≠ op) :
    cutAtClose op cl d xs = some (inner, rest) ↔
      xs = inner ++ cl :: rest ∧ Keeps op cl d inner ∧ d + height op cl inner = 0 := by
  induction xs generalizing d inner with
  | nil =>
    refine iff_of_false (fun hcut => by cases hcut) ?_
    rintro ⟨heq, -⟩
    exact List.append_ne_nil_of_right_ne_nil inner (List.cons_ne_nil _ _) heq.symm
  | cons x xs ih =>
    have hstep {d' : ℕ} (hx : ¬(x = cl ∧ d = 0)) (hd : (d' : ℤ) = d + delta op cl x) :
        ((cutAtClose op cl d' xs).map fun p => (x :: p.1, p.2)) = some (inner, rest) ↔
          x :: xs = inner ++ cl :: rest ∧ Keeps op cl d inner ∧ d + height op cl inner = 0 := by
      rw [closes_cons_iff hx hd, Option.map_eq_some_iff]
      simp only [Prod.exists, Prod.mk.injEq, ← ih]
      constructor
      · rintro ⟨inner', _, hcut, hinner, rfl⟩
        exact ⟨inner', hinner, hcut⟩
      · rintro ⟨inner', hinner, hcut⟩
        exact ⟨inner', rest, hcut, hinner, rfl⟩
    by_cases hop : x = op
    · subst hop
      rw [cutAtClose_cons_op]
      exact hstep (fun hx => hne hx.1.symm) (by rw [delta_op]; rfl)
    by_cases hcl : x = cl
    · subst hcl
      cases d with
      | zero =>
        rw [cutAtClose_cons_cl_zero hne]
        constructor
        · intro hcut
          cases hcut
          exact ⟨rfl, keeps_nil.mpr (Int.le_refl _), rfl⟩
        · rintro ⟨heq, hkeeps, -⟩
          cases inner with
          | nil =>
            obtain ⟨-, rfl⟩ := List.cons.inj heq
            rfl
          | cons y inner =>
            obtain ⟨rfl, -⟩ := List.cons.inj heq
            have hneg := (keeps_cons.mp hkeeps).2.nonneg
            rw [delta_cl hne] at hneg
            exact absurd hneg (by decide)
      | succ d =>
        rw [cutAtClose_cons_cl_succ hne]
        exact hstep (fun hx => Nat.succ_ne_zero d hx.2) (by rw [delta_cl hne]; push_cast; omega)
    · rw [cutAtClose_cons_of_ne hop hcl]
      exact hstep (fun hx => hcl hx.1) (by rw [delta_of_ne hop hcl, Int.add_zero])

/-- Nothing closes what is open. -/
theorem cutAtClose_eq_none_iff (hne : cl ≠ op) :
    cutAtClose op cl d xs = none ↔ Keeps op cl d xs := by
  induction xs generalizing d with
  | nil => exact iff_of_true rfl (keeps_nil.mpr (Int.natCast_nonneg d))
  | cons x xs ih =>
    have hd : (0 : ℤ) ≤ d := Int.natCast_nonneg d
    unfold cutAtClose
    rw [keeps_cons, and_iff_right hd]
    by_cases hop : x = op
    · rw [if_pos hop, Option.map_eq_none_iff, ih, hop, delta_op]
      rfl
    rw [if_neg hop]
    by_cases hcl : x = cl
    · rw [if_pos hcl, hcl, delta_cl hne]
      cases d with
      | zero => exact iff_of_false (fun h => by cases h) fun hk => absurd hk.nonneg (by decide)
      | succ d =>
        have hpred : ((d + 1 : ℕ) : ℤ) + -1 = d := by
          push_cast
          omega
        rw [hpred, ← ih]
        exact Option.map_eq_none_iff
    · rw [if_neg hcl, Option.map_eq_none_iff, ih, delta_of_ne hop hcl, Int.add_zero]

/-- A part without brackets belongs to what is cut off. -/
theorem cutAtClose_append_of_notMem (hop : op ∉ xs) (hcl : cl ∉ xs) :
    cutAtClose op cl d (xs ++ ys) = (cutAtClose op cl d ys).map fun p => (xs ++ p.1, p.2) := by
  induction xs with
  | nil => exact Option.map_id'.symm
  | cons x xs ih =>
    obtain ⟨hx, hop⟩ := List.ne_and_not_mem_of_not_mem_cons hop
    obtain ⟨hx', hcl⟩ := List.ne_and_not_mem_of_not_mem_cons hcl
    rw [List.cons_append, cutAtClose_cons_of_ne hx.symm hx'.symm, ih hop hcl, Option.map_map]
    rfl

end DarkTower.Lib.Nesting
