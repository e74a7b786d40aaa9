import Mathlib.Data.List.Count
import Mathlib.Data.List.Forall2

/-!
# Wildcard patterns over segments

A pattern is a list of pieces: one given letter, any letter, or a run of letters; the
last two do not take the separator. A word matches if it can be cut into consecutive parts
that the pieces take in order.

* `matches_run_cons`: what a run may do with the first letter.
* `matches_run_of_fits`: once the pieces up to the next run fit somewhere, an earlier run
  need not be tried on more letters (the separators on both sides count the same).
-/

namespace DarkTower.Lib.Wildcard

/-- A piece of a pattern: one element, any one element, or any run of them. -/
inductive Piece (α : Type*)
  | one (a : α)
  | any
  | run
deriving DecidableEq

variable {α : Type*} {sep : α} {p : Piece α} {ps qs : List (Piece α)} {x : α} {xs ys zs : List α}

/-- What a piece may stand for. -/
def Piece.Takes (sep : α) : Piece α → List α → Prop
  | .one a, part => part = [a]
  | .any, part => ∃ a, a ≠ sep ∧ part = [a]
  | .run, part => sep ∉ part

/-- The word can be cut into consecutive parts that the pieces take in order. -/
def Matches (sep : α) (ps : List (Piece α)) (xs : List α) : Prop :=
  ∃ parts : List (List α), List.Forall₂ (Piece.Takes sep) ps parts ∧ parts.flatten = xs

theorem matches_nil : Matches sep [] xs ↔ xs = [] := by
  constructor
  · rintro ⟨parts, hparts, rfl⟩
    rw [List.forall₂_nil_left_iff.mp hparts, List.flatten_nil]
  · rintro rfl
    exact ⟨[], .nil, rfl⟩

theorem matches_cons :
    Matches sep (p :: ps) xs ↔ ∃ part rest, p.Takes sep part ∧ Matches sep ps rest ∧
      part ++ rest = xs := by
  constructor
  · rintro ⟨parts, hparts, rfl⟩
    obtain ⟨part, rest, htakes, hrest, rfl⟩ := List.forall₂_cons_left_iff.mp hparts
    exact ⟨part, rest.flatten, htakes, ⟨rest, hrest, rfl⟩, List.flatten_cons.symm⟩
  · rintro ⟨part, _, htakes, ⟨rest, hrest, rfl⟩, rfl⟩
    exact ⟨part :: rest, .cons htakes hrest, List.flatten_cons⟩

theorem matches_append :
    Matches sep (ps ++ qs) xs ↔ ∃ ys zs, Matches sep ps ys ∧ Matches sep qs zs ∧ ys ++ zs = xs := by
  induction ps generalizing xs with
  | nil =>
    constructor
    · intro h
      exact ⟨[], xs, matches_nil.mpr rfl, h, rfl⟩
    · rintro ⟨ys, zs, hys, hzs, rfl⟩
      rw [matches_nil.mp hys]
      exact hzs
  | cons p ps ih =>
    rw [List.cons_append, matches_cons]
    constructor
    · rintro ⟨part, rest, htakes, hrest, rfl⟩
      obtain ⟨ys, zs, hys, hzs, rfl⟩ := ih.mp hrest
      exact ⟨part ++ ys, zs, matches_cons.mpr ⟨part, ys, htakes, hys, rfl⟩, hzs,
        List.append_assoc part ys zs⟩
    · rintro ⟨ys, zs, hys, hzs, rfl⟩
      obtain ⟨part, rest, htakes, hrest, rfl⟩ := matches_cons.mp hys
      exact ⟨part, rest ++ zs, htakes, ih.mpr ⟨rest, zs, hrest, hzs, rfl⟩,
        (List.append_assoc part rest zs).symm⟩

/-! ## Piece by piece -/

theorem matches_one_cons {a : α} :
    Matches sep (.one a :: ps) (x :: xs) ↔ x = a ∧ Matches sep ps xs := by
  rw [matches_cons]
  constructor
  · rintro ⟨part, rest, rfl, hrest, heq⟩
    obtain ⟨rfl, rfl⟩ := List.cons.inj heq
    exact ⟨rfl, hrest⟩
  · rintro ⟨rfl, hrest⟩
    exact ⟨[x], xs, rfl, hrest, rfl⟩

theorem matches_any_cons :
    Matches sep (.any :: ps) (x :: xs) ↔ x ≠ sep ∧ Matches sep ps xs := by
  rw [matches_cons]
  constructor
  · rintro ⟨part, rest, ⟨a, ha, rfl⟩, hrest, heq⟩
    obtain ⟨rfl, rfl⟩ := List.cons.inj heq
    exact ⟨ha, hrest⟩
  · rintro ⟨hx, hrest⟩
    exact ⟨[x], xs, ⟨x, hx, rfl⟩, hrest, rfl⟩

theorem matches_run_of_matches (h : Matches sep ps xs) : Matches sep (.run :: ps) xs :=
  matches_cons.mpr ⟨[], xs, List.not_mem_nil, h, rfl⟩

/-- A run takes nothing, or the first letter and then goes on. -/
theorem matches_run_cons :
    Matches sep (.run :: ps) (x :: xs) ↔
      Matches sep ps (x :: xs) ∨ x ≠ sep ∧ Matches sep (.run :: ps) xs := by
  constructor
  · intro h
    obtain ⟨part, rest, hpart, hrest, heq⟩ := matches_cons.mp h
    cases part with
    | nil =>
      left
      rw [← heq]
      exact hrest
    | cons y part =>
      obtain ⟨rfl, rfl⟩ := List.cons.inj heq
      obtain ⟨hy, hpart⟩ := List.ne_and_not_mem_of_not_mem_cons hpart
      exact .inr ⟨Ne.symm hy, matches_cons.mpr ⟨part, rest, hpart, hrest, rfl⟩⟩
  · rintro (h | ⟨hx, h⟩)
    · exact matches_run_of_matches h
    · obtain ⟨part, rest, hpart, hrest, rfl⟩ := matches_cons.mp h
      exact matches_cons.mpr
        ⟨x :: part, rest, List.not_mem_cons_of_ne_of_not_mem (Ne.symm hx) hpart, hrest, rfl⟩

/-- Nothing is left for the pieces: they are all runs. -/
theorem matches_nil_right : Matches sep ps [] ↔ ∀ p ∈ ps, p = .run := by
  induction ps with
  | nil => exact ⟨fun _ _ h => absurd h List.not_mem_nil, fun _ => matches_nil.mpr rfl⟩
  | cons p ps ih =>
    rw [matches_cons, List.forall_mem_cons, ← ih]
    constructor
    · rintro ⟨part, rest, htakes, hrest, heq⟩
      obtain ⟨rfl, rfl⟩ := List.append_eq_nil_iff.mp heq
      refine ⟨?_, hrest⟩
      match p, htakes with
      | .run, _ => rfl
      | .any, ⟨_, _, h⟩ => cases h
    · rintro ⟨rfl, h⟩
      exact ⟨[], [], List.not_mem_nil, h, rfl⟩

/-! ## Patterns without runs -/

/-- Without runs every piece takes one letter. -/
theorem Matches.length_eq (h : Matches sep ps xs) (hps : .run ∉ ps) : xs.length = ps.length := by
  induction ps generalizing xs with
  | nil => rw [matches_nil.mp h, List.length_nil, List.length_nil]
  | cons p ps ih =>
    obtain ⟨hp, hps⟩ := List.ne_and_not_mem_of_not_mem_cons hps
    obtain ⟨part, rest, htakes, hrest, rfl⟩ := matches_cons.mp h
    have hpart : part.length = 1 := by
      cases p with
      | one a =>
        obtain rfl : part = [a] := htakes
        rfl
      | any =>
        obtain ⟨a, -, rfl⟩ := htakes
        rfl
      | run => exact absurd rfl hp
    rw [List.length_append, List.length_cons, hpart, ih hrest hps, Nat.add_comm]

/-- Without runs the separators are the given ones. -/
theorem Matches.count_eq [DecidableEq α] (h : Matches sep ps xs) (hps : .run ∉ ps) :
    xs.count sep = ps.count (.one sep) := by
  induction ps generalizing xs with
  | nil => rw [matches_nil.mp h, List.count_nil, List.count_nil]
  | cons p ps ih =>
    obtain ⟨hp, hps⟩ := List.ne_and_not_mem_of_not_mem_cons hps
    obtain ⟨part, rest, htakes, hrest, rfl⟩ := matches_cons.mp h
    have hpart : part.count sep = [p].count (.one sep) := by
      cases p with
      | one a =>
        obtain rfl : part = [a] := htakes
        simp [List.count_singleton]
      | any =>
        obtain ⟨a, ha, rfl⟩ := htakes
        simp [ha]
      | run => exact absurd rfl hp
    rw [List.count_append, ← List.singleton_append, List.count_append, hpart, ih hrest hps]

/-- What is in front of a word fits pieces without runs in one way only. -/
theorem matches_append_of_fits (hfits : Matches sep ps ys) (hps : .run ∉ ps) :
    Matches sep (ps ++ qs) (ys ++ xs) ↔ Matches sep qs xs := by
  rw [matches_append]
  constructor
  · rintro ⟨ys', zs, hys, hzs, heq⟩
    have hlen : ys'.length = ys.length := (hys.length_eq hps).trans (hfits.length_eq hps).symm
    obtain ⟨-, rfl⟩ := List.append_inj heq hlen
    exact hzs
  · intro h
    exact ⟨ys, xs, hfits, h, rfl⟩

/-- Where the pieces up to the next run fit, an earlier run takes nothing more: whatever it
    could still reach, the next run reaches too. -/
theorem matches_run_of_fits [DecidableEq α] (hfits : Matches sep ps ys) (hps : .run ∉ ps) :
    Matches sep (.run :: (ps ++ .run :: qs)) (ys ++ xs) ↔ Matches sep (.run :: qs) xs := by
  constructor
  · intro h
    obtain ⟨first, rest, hfirst, hrest, heq⟩ := matches_cons.mp h
    obtain ⟨ys', tail, hys', htail, rfl⟩ := matches_append.mp hrest
    obtain ⟨second, zs, hsecond, hzs, rfl⟩ := matches_cons.mp htail
    have hlen : ys'.length = ys.length := (hys'.length_eq hps).trans (hfits.length_eq hps).symm
    have hcount : ys'.count sep = ys.count sep :=
      (hys'.count_eq hps).trans (hfits.count_eq hps).symm
    -- `xs` is `skip ++ second ++ zs`, and `skip` has as many separators as `first`
    have hsplit : ys ++ xs = (first ++ ys') ++ (second ++ zs) := by
      rw [← heq, List.append_assoc]
    obtain ⟨skip, hskip, rfl⟩ :
        ∃ skip, first ++ ys' = ys ++ skip ∧ xs = skip ++ (second ++ zs) := by
      obtain ⟨skip, hfront, hxs⟩ | ⟨skip, hfront, hxs⟩ := List.append_eq_append_iff.mp hsplit
      · exact ⟨skip, hfront, hxs⟩
      · have hnil : skip = [] := by
          have hlens := congrArg List.length hfront
          rw [List.length_append, List.length_append] at hlens
          exact List.length_eq_zero_iff.mp (by omega)
        subst hnil
        rw [List.append_nil] at hfront
        exact ⟨[], by rw [List.append_nil, hfront], hxs.symm⟩
    have hfree : sep ∉ skip := by
      have hcounts := congrArg (List.count sep) hskip
      rw [List.count_append, List.count_append, hcount, List.count_eq_zero_of_not_mem hfirst]
        at hcounts
      exact List.count_eq_zero.mp (by omega)
    refine matches_cons.mpr ⟨skip ++ second, zs, ?_, hzs, List.append_assoc skip second zs⟩
    show sep ∉ skip ++ second
    rw [List.mem_append]
    exact not_or.mpr ⟨hfree, hsecond⟩
  · intro h
    exact matches_run_of_matches (matches_append.mpr ⟨ys, xs, hfits, h, rfl⟩)

end DarkTower.Lib.Wildcard
