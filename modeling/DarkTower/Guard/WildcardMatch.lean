import DarkTower.Guard.ManifestMatch
import DarkTower.Lib.Wildcard

/-!
# What `wildcard_match` accepts (`dt-guard/src/common/manifest_match.rs`)

A glob stands for the paths that can be cut into parts for its characters: `*` takes a run
of characters other than `/`, `?` takes one, any other character takes itself
(`GlobAccepts`). The loop keeps one `*` only, the last, and gives up where that one meets
a `/`; and it compares the two characters before it looks for a `*`, so that a `*` in front
of a `*` of the path takes this one character and is not kept.

* `wildcardMatch_ends`: the loop ends.
* `ends_sound`: what it accepts the glob stands for, whatever the characters.
* `ends_iff`: it accepts all of these if no `*` can meet a `*`.
* `wildcardMatch_exact_iff`: it is right on a path for every glob iff the path has no `*`,
  and for a glob on every path iff the glob has none.
-/

namespace DarkTower.Guard

open DarkTower.Lib DarkTower.Lib.Wildcard

/-- What a character of a glob may take. -/
def globPiece (c : Char) : Wildcard.Piece Char :=
  if c = '*' then .run else if c = '?' then .any else .one c

/-- The path can be cut into consecutive parts for the characters of the glob. -/
def GlobAccepts (glob path : List Char) : Prop := Matches '/' (glob.map globPiece) path

/-- `wildcard_match` is right on this path and this glob. -/
def WildcardExact (path glob : List Char) : Prop :=
  wildcardMatch path glob = true ↔ GlobAccepts glob path

/-- `path_matches_glob` is right on this path and this glob, if `/**` does not end it. -/
def GlobExact (path glob : List Char) : Prop :=
  ¬"/**".toList <:+ glob → (pathMatchesGlob path glob = true ↔ GlobAccepts glob path ∨ path = glob)

variable {path glob pre : List Char} {c d : Char} {b : Bool}

theorem globAccepts_star : GlobAccepts ('*' :: glob) path ↔
    Matches '/' (.run :: glob.map globPiece) path := Iff.rfl

theorem globPiece_mark : globPiece '?' = .any := rfl

theorem globPiece_of_ne (hstar : c ≠ '*') (hmark : c ≠ '?') : globPiece c = .one c := by
  unfold globPiece
  rw [if_neg hstar, if_neg hmark]

theorem run_notMem_map (h : '*' ∉ glob) : .run ∉ glob.map globPiece := by
  intro hmem
  obtain ⟨c, hc, hrun⟩ := List.mem_map.mp hmem
  unfold globPiece at hrun
  split_ifs at hrun with hstar
  exact h (hstar ▸ hc)

/-- The test that comes first in the loop, for a character that is no `*`: the character
    takes the other one. -/
theorem globAccepts_cons (hd : d ≠ '*') :
    GlobAccepts (d :: glob) (c :: path) ↔ (d = c ∨ d = '?' ∧ c ≠ '/') ∧ GlobAccepts glob path := by
  unfold GlobAccepts
  rw [List.map_cons]
  rcases eq_or_ne d '?' with rfl | hmark
  · rw [globPiece_mark, matches_any_cons]
    have hslash : '?' ≠ '/' := by decide
    constructor
    · rintro ⟨hc, h⟩
      exact ⟨.inr ⟨rfl, hc⟩, h⟩
    · rintro ⟨rfl | ⟨-, hc⟩, h⟩
      · exact ⟨hslash, h⟩
      · exact ⟨hc, h⟩
  · rw [globPiece_of_ne hd hmark, matches_one_cons]
    simp [hmark, eq_comm]

/-- A glob stands for its own text too. -/
theorem globAccepts_self (glob : List Char) : GlobAccepts glob glob := by
  induction glob with
  | nil => exact matches_nil.mpr rfl
  | cons c glob ih =>
    rcases eq_or_ne c '*' with rfl | hc
    · exact matches_run_cons.mpr (.inr ⟨by decide, matches_run_of_matches ih⟩)
    · exact (globAccepts_cons hc).mpr ⟨.inl rfl, ih⟩

theorem globAccepts_append (hpre : GlobAccepts pre path) {glob' path' : List Char}
    (h : GlobAccepts glob' path') : GlobAccepts (pre ++ glob') (path ++ path') := by
  unfold GlobAccepts
  rw [List.map_append]
  exact matches_append.mpr ⟨path, path', hpre, h, rfl⟩

/-- Nothing is left of the path: neither is of the glob, but for `*`s. -/
theorem globAccepts_nil : GlobAccepts glob [] ↔ glob.all (· = '*') = true := by
  unfold GlobAccepts
  rw [matches_nil_right, List.all_eq_true, List.forall_mem_map]
  refine forall₂_congr fun c _ => ?_
  unfold globPiece
  split_ifs with hstar hmark <;> simp_all

/-! ## The loop without a bound on its turns -/

/-- The loop ends with this answer. -/
inductive GlobScan.Ends : GlobScan → Bool → Prop
  | finished {s : GlobScan} : s.path = [] → Ends s (s.glob.all (· = '*'))
  | refused {s : GlobScan} : s.path ≠ [] → s.step = none → Ends s false
  | turn {s s' : GlobScan} {b : Bool} : s.path ≠ [] → s.step = some s' → Ends s' b → Ends s b

namespace GlobScan

variable {s s' : GlobScan} {n m fuel : ℕ}

theorem wildcardLoop_ends (hs : s.Within n m) (hfuel : s.rank n m < fuel) :
    Ends s (wildcardLoop fuel s) := by
  induction fuel generalizing s with
  | zero => omega
  | succ fuel ih =>
    rw [wildcardLoop]
    split_ifs with hpath
    · exact .finished hpath
    · cases hstep : s.step with
      | none => exact .refused hpath hstep
      | some s' =>
        obtain ⟨hs', hrank⟩ := step_within hs hstep
        exact .turn hpath hstep (ih hs' (by omega))

theorem Ends.unique {b b' : Bool} (h : Ends s b) (h' : Ends s b') : b = b' := by
  induction h with
  | finished hpath =>
    cases h' with
    | finished => rfl
    | refused hne => exact absurd hpath hne
    | turn hne => exact absurd hpath hne
  | refused hne hstep =>
    cases h' with
    | finished hpath => exact absurd hpath hne
    | refused => rfl
    | turn _ hstep' => rw [hstep] at hstep'; cases hstep'
  | turn hne hstep _ ih =>
    cases h' with
    | finished hpath => exact absurd hpath hne
    | refused _ hstep' => rw [hstep] at hstep'; cases hstep'
    | turn _ hstep' hend =>
      obtain rfl := Option.some.inj (hstep.symm.trans hstep')
      exact ih hend

end GlobScan

/-- The loop of `wildcard_match` ends, and `wildcardMatch` is its answer. -/
theorem wildcardMatch_ends (path glob : List Char) :
    GlobScan.Ends ⟨path, glob, none⟩ (wildcardMatch path glob) := by
  have hstart : GlobScan.Within path.length glob.length ⟨path, glob, none⟩ :=
    ⟨le_refl _, le_refl _, Nat.le_succ _, fun _ _ heq => by cases heq⟩
  refine GlobScan.wildcardLoop_ends hstart ?_
  show (path.length + 1) * (glob.length + 1) + glob.length < (path.length + 2) * (glob.length + 1)
  have hsplit : (path.length + 2) * (glob.length + 1) =
      (path.length + 1) * (glob.length + 1) + (glob.length + 1) := Nat.succ_mul _ _
  omega

/-! ## Steps -/

namespace GlobScan

variable {s s' : GlobScan}

/-- Neither test of the loop holds. -/
def Stuck (s : GlobScan) : Prop :=
  ∀ c path d glob, s.path = c :: path → s.glob = d :: glob →
    ¬(d = c ∨ d = '?' ∧ c ≠ '/') ∧ d ≠ '*'

theorem stuck_of_cons (hpath : s.path = c :: path) (hglob : s.glob = d :: glob)
    (hlit : ¬(d = c ∨ d = '?' ∧ c ≠ '/')) (hstar : d ≠ '*') : s.Stuck := by
  intro c' path' d' glob' hpath' hglob'
  obtain ⟨rfl, -⟩ := List.cons.inj (hpath.symm.trans hpath')
  obtain ⟨rfl, -⟩ := List.cons.inj (hglob.symm.trans hglob')
  exact ⟨hlit, hstar⟩

/-- What a turn of the loop can do. -/
theorem step_cases (h : s.step = some s') :
    (∃ c path d glob, s.path = c :: path ∧ s.glob = d :: glob ∧ (d = c ∨ d = '?' ∧ c ≠ '/') ∧
      s' = ⟨path, glob, s.star⟩) ∨
    (∃ c path glob, s.path = c :: path ∧ s.glob = '*' :: glob ∧ c ≠ '*' ∧
      s' = ⟨c :: path, glob, some (c :: path, glob)⟩) ∨
    (s.Stuck ∧ ∃ c path glob, s.star = some (c :: path, glob) ∧ c ≠ '/' ∧
      s' = ⟨path, glob, some (path, glob)⟩) := by
  have hback : s.backtrack = some s' → ∃ c path glob, s.star = some (c :: path, glob) ∧ c ≠ '/' ∧
      s' = ⟨path, glob, some (path, glob)⟩ := by
    intro h
    unfold backtrack at h
    split at h
    next c path glob hstar =>
      split_ifs at h with hc
      exact ⟨c, path, glob, hstar, hc, (Option.some.inj h).symm⟩
    next => cases h
  unfold step at h
  split at h
  next c path d glob hpath hglob =>
    split_ifs at h with hlit hstar
    · exact .inl ⟨c, path, d, glob, hpath, hglob, hlit, (Option.some.inj h).symm⟩
    · subst hstar
      refine .inr (.inl ⟨c, path, glob, hpath, hglob, ?_, (Option.some.inj h).symm⟩)
      rintro rfl
      exact hlit (.inl rfl)
    · exact .inr (.inr ⟨stuck_of_cons hpath hglob hlit hstar, hback h⟩)
  next hne =>
    refine .inr (.inr ⟨?_, hback h⟩)
    intro c path d glob hpath hglob
    exact absurd hglob (hne c path d glob hpath)

/-- Where the loop refuses the path: there is no `*` to go back to, or it would have to
    take a `/`. -/
theorem step_eq_none (h : s.step = none) :
    s.Stuck ∧ ∀ c path glob, s.star = some (c :: path, glob) → c = '/' := by
  have hback : s.backtrack = none → ∀ c path glob, s.star = some (c :: path, glob) → c = '/' := by
    intro h c path glob hstar
    unfold backtrack at h
    rw [hstar] at h
    dsimp only at h
    by_contra hc
    rw [if_neg hc] at h
    cases h
  unfold step at h
  split at h
  next c path d glob hpath hglob =>
    split_ifs at h with hlit hstar
    exact ⟨stuck_of_cons hpath hglob hlit hstar, hback h⟩
  next hne =>
    refine ⟨?_, hback h⟩
    intro c path d glob hpath hglob
    exact absurd hglob (hne c path d glob hpath)

/-- Where the loop is stuck, what is left of the glob does not stand for what is left of the
    path. -/
theorem Stuck.not_globAccepts (hs : s.Stuck) (hpath : s.path ≠ []) :
    ¬GlobAccepts s.glob s.path := by
  obtain ⟨c, path, hp⟩ := List.exists_cons_of_ne_nil hpath
  rw [hp]
  intro h
  cases hg : s.glob with
  | nil =>
    rw [hg] at h
    cases matches_nil.mp h
  | cons d glob =>
    rw [hg] at h
    obtain ⟨hlit, hstar⟩ := hs c path d glob hp hg
    exact hlit ((globAccepts_cons hstar).mp h).1

/-- What the loop still has to decide: with a `*` to go back to, whether the glob from
    there on stands for the path from there on. -/
def Accepts (s : GlobScan) : Prop :=
  match s.star with
  | none => GlobAccepts s.glob s.path
  | some (path, glob) => GlobAccepts ('*' :: glob) path

/-- What was read since the last `*` stands for what was read of the path. -/
def Aligned (s : GlobScan) : Prop :=
  ∀ path glob, s.star = some (path, glob) → ∃ front read,
    glob = front ++ s.glob ∧ path = read ++ s.path ∧ GlobAccepts front read

theorem accepts_of_none (h : s.star = none) : s.Accepts ↔ GlobAccepts s.glob s.path := by
  unfold Accepts
  rw [h]

theorem accepts_of_some (h : s.star = some (path, glob)) :
    s.Accepts ↔ GlobAccepts ('*' :: glob) path := by
  unfold Accepts
  rw [h]

/-! ## What the loop accepts -/

/-- What is left can be matched: so can all of it. -/
theorem Aligned.accepts (hs : s.Aligned) (h : GlobAccepts s.glob s.path) : s.Accepts := by
  cases hstar : s.star with
  | none => exact (accepts_of_none hstar).mpr h
  | some star =>
    obtain ⟨front, read, hglob, hpath, hread⟩ := hs star.1 star.2 hstar
    rw [accepts_of_some hstar, hglob, hpath]
    exact matches_run_of_matches (globAccepts_append hread h)

theorem step_sound (hs : s.Aligned) (h : s.step = some s') :
    s'.Aligned ∧ (s'.Accepts → s.Accepts) := by
  obtain ⟨c, path, d, glob, hpath, hglob, hlit, rfl⟩ | ⟨c, path, glob, hpath, hglob, -, rfl⟩ |
    ⟨-, c, path, glob, hstar, hc, rfl⟩ := step_cases h
  · have hone : GlobAccepts [d] [c] := by
      rcases eq_or_ne d '*' with rfl | hd
      · obtain rfl : '*' = c := hlit.resolve_right (fun h => absurd h.1 (by decide))
        exact globAccepts_self ['*']
      · exact (globAccepts_cons hd).mpr ⟨hlit, matches_nil.mpr rfl⟩
    constructor
    · intro path' glob' hstar
      obtain ⟨front, read, hfront, hread, hfit⟩ := hs path' glob' hstar
      refine ⟨front ++ [d], read ++ [c], ?_, ?_, globAccepts_append hfit hone⟩
      · rw [hfront, hglob, List.append_assoc]
        rfl
      · rw [hread, hpath, List.append_assoc]
        rfl
    · intro hacc
      cases hstar : s.star with
      | none =>
        rw [accepts_of_none hstar, hglob, hpath]
        exact globAccepts_append hone ((accepts_of_none (s := ⟨path, glob, s.star⟩) hstar).mp hacc)
      | some star =>
        exact (accepts_of_some hstar).mpr
          ((accepts_of_some (s := ⟨path, glob, s.star⟩) hstar).mp hacc)
  · constructor
    · rintro _ _ ⟨⟩
      exact ⟨[], [], rfl, rfl, matches_nil.mpr rfl⟩
    · intro hacc
      refine hs.accepts ?_
      rw [hglob, hpath]
      exact hacc
  · constructor
    · rintro _ _ ⟨⟩
      exact ⟨[], [], rfl, rfl, matches_nil.mpr rfl⟩
    · intro hacc
      exact (accepts_of_some hstar).mpr (matches_run_cons.mpr (.inr ⟨hc, hacc⟩))

/-- What the loop accepts the glob stands for. -/
theorem ends_sound (hend : Ends s b) (hs : s.Aligned) (hb : b = true) : s.Accepts := by
  induction hend with
  | @finished s hpath =>
    refine hs.accepts ?_
    rw [hpath]
    exact globAccepts_nil.mpr hb
  | refused => cases hb
  | turn _ hstep _ ih =>
    obtain ⟨hs', hback⟩ := step_sound hs hstep
    exact hback (ih hs' hb)

/-! ## What the loop refuses -/

/-- No `*` of the glob can meet a `*` of the path, and none was read since the last `*`. -/
structure Apart (s : GlobScan) : Prop where
  now : '*' ∉ s.path ∨ '*' ∉ s.glob
  star : ∀ path glob, s.star = some (path, glob) → ('*' ∉ path ∨ '*' ∉ glob) ∧
    ∃ front read, glob = front ++ s.glob ∧ path = read ++ s.path ∧ '*' ∉ front ∧
      GlobAccepts front read

/-- Where the loop is stuck, the last `*` takes more than it has. -/
theorem Apart.not_globAccepts (hs : s.Apart) (hstuck : s.Stuck) (hne : s.path ≠ [])
    (hstar : s.star = some (path, glob)) : ¬GlobAccepts glob path := by
  obtain ⟨-, front, read, rfl, rfl, hfront, hread⟩ := hs.star path glob hstar
  unfold GlobAccepts
  rw [List.map_append, matches_append_of_fits hread (run_notMem_map hfront)]
  exact hstuck.not_globAccepts hne

theorem apart_restart (h : '*' ∉ path ∨ '*' ∉ glob) : Apart ⟨path, glob, some (path, glob)⟩ := by
  refine ⟨h, ?_⟩
  rintro _ _ ⟨⟩
  exact ⟨h, [], [], rfl, rfl, List.not_mem_nil, matches_nil.mpr rfl⟩

/-- A character of the glob takes one of the path. -/
theorem Apart.take (hs : s.Apart) (hpath : s.path = c :: path) (hglob : s.glob = d :: glob)
    (hlit : d = c ∨ d = '?' ∧ c ≠ '/') :
    Apart ⟨path, glob, s.star⟩ ∧ (s.Accepts → Accepts ⟨path, glob, s.star⟩) := by
  have hnow := hs.now
  rw [hpath, hglob] at hnow
  have hd : d ≠ '*' := by
    rintro rfl
    obtain rfl : '*' = c := hlit.resolve_right (fun h => absurd h.1 (by decide))
    rcases hnow with h | h <;> exact h List.mem_cons_self
  constructor
  · refine ⟨hnow.imp List.not_mem_of_not_mem_cons List.not_mem_of_not_mem_cons, ?_⟩
    intro path' glob' hstar
    obtain ⟨hclear, front, read, hfront, hread, hfree, hfit⟩ := hs.star path' glob' hstar
    have hone : GlobAccepts [d] [c] := (globAccepts_cons hd).mpr ⟨hlit, matches_nil.mpr rfl⟩
    refine ⟨hclear, front ++ [d], read ++ [c], ?_, ?_, ?_, globAccepts_append hfit hone⟩
    · rw [hfront, hglob, List.append_assoc]
      rfl
    · rw [hread, hpath, List.append_assoc]
      rfl
    · rw [List.mem_append, List.mem_singleton]
      exact not_or.mpr ⟨hfree, Ne.symm hd⟩
  · intro hacc
    cases hstar : s.star with
    | none =>
      rw [accepts_of_none hstar, hglob, hpath, globAccepts_cons hd] at hacc
      exact (accepts_of_none (s := ⟨path, glob, none⟩) rfl).mpr hacc.2
    | some star =>
      exact (accepts_of_some (s := ⟨path, glob, some star⟩) rfl).mpr
        ((accepts_of_some hstar).mp hacc)

/-- A new `*` is kept. The one before it is forgotten: it need not take more. -/
theorem Apart.accepts_star (hs : s.Apart) (hpath : s.path = c :: path)
    (hglob : s.glob = '*' :: glob) (hacc : s.Accepts) : GlobAccepts ('*' :: glob) (c :: path) := by
  cases hstar : s.star with
  | none =>
    rw [accepts_of_none hstar, hglob, hpath] at hacc
    exact hacc
  | some star =>
    obtain ⟨-, front, read, hfront, hread, hfree, hfit⟩ := hs.star star.1 star.2 hstar
    rw [accepts_of_some hstar, hfront, hread, hglob, hpath, globAccepts_star, List.map_append,
      List.map_cons] at hacc
    exact (matches_run_of_fits hfit (run_notMem_map hfree)).mp hacc

theorem step_complete (hs : s.Apart) (hne : s.path ≠ []) (h : s.step = some s') :
    s'.Apart ∧ (s.Accepts → s'.Accepts) := by
  obtain ⟨c, path, d, glob, hpath, hglob, hlit, rfl⟩ | ⟨c, path, glob, hpath, hglob, -, rfl⟩ |
    ⟨hstuck, c, path, glob, hstar, hc, rfl⟩ := step_cases h
  · exact hs.take hpath hglob hlit
  · have hnow := hs.now
    rw [hpath, hglob] at hnow
    have hclear : '*' ∉ c :: path := hnow.resolve_right (fun h => h List.mem_cons_self)
    exact ⟨apart_restart (.inl hclear), hs.accepts_star hpath hglob⟩
  · obtain ⟨hclear, -⟩ := hs.star _ _ hstar
    refine ⟨apart_restart (hclear.imp_left List.not_mem_of_not_mem_cons), fun hacc => ?_⟩
    rw [accepts_of_some hstar, globAccepts_star, matches_run_cons] at hacc
    exact (hacc.resolve_left (hs.not_globAccepts hstuck hne hstar)).2

theorem step_none_complete (hs : s.Apart) (hne : s.path ≠ []) (h : s.step = none) : ¬s.Accepts := by
  obtain ⟨hstuck, hslash⟩ := step_eq_none h
  cases hstar : s.star with
  | none =>
    rw [accepts_of_none hstar]
    exact hstuck.not_globAccepts hne
  | some star =>
    obtain ⟨path, glob⟩ := star
    have hpath : path ≠ [] := by
      obtain ⟨-, front, read, -, hread, -⟩ := hs.star path glob hstar
      rw [hread]
      exact List.append_ne_nil_of_right_ne_nil read hne
    obtain ⟨c, path, rfl⟩ := List.exists_cons_of_ne_nil hpath
    rw [accepts_of_some hstar, globAccepts_star, matches_run_cons]
    rintro (hacc | ⟨hc, -⟩)
    · exact hs.not_globAccepts hstuck hne hstar hacc
    · exact hc (hslash c path glob hstar)

theorem finished_complete (hs : s.Apart) (hpath : s.path = []) (hacc : s.Accepts) :
    s.glob.all (· = '*') = true := by
  rw [← globAccepts_nil]
  cases hstar : s.star with
  | none =>
    rw [accepts_of_none hstar, hpath] at hacc
    exact hacc
  | some star =>
    obtain ⟨-, front, read, hfront, hread, hfree, hfit⟩ := hs.star star.1 star.2 hstar
    rw [accepts_of_some hstar, hfront, hread, hpath, List.append_nil, globAccepts_star,
      List.map_append] at hacc
    obtain ⟨part, rest, -, hrest, hread'⟩ := matches_cons.mp hacc
    obtain ⟨ys, zs, hys, hzs, rfl⟩ := matches_append.mp hrest
    -- the pieces since the last `*` need all that was read since
    have hlen : ys.length = read.length :=
      (hys.length_eq (run_notMem_map hfree)).trans (hfit.length_eq (run_notMem_map hfree)).symm
    have hlens := congrArg List.length hread'
    rw [List.length_append, List.length_append] at hlens
    obtain rfl : zs = [] := List.length_eq_zero_iff.mp (by omega)
    exact hzs

/-- Where no `*` can meet a `*`, the loop accepts exactly what the glob stands for. -/
theorem ends_iff (hend : Ends s b) (hs : s.Apart) : b = true ↔ s.Accepts := by
  constructor
  · refine ends_sound hend ?_
    intro path glob hstar
    obtain ⟨-, front, read, hfront, hread, -, hfit⟩ := hs.star path glob hstar
    exact ⟨front, read, hfront, hread, hfit⟩
  · intro hacc
    induction hend with
    | finished hpath => exact finished_complete hs hpath hacc
    | refused hne hstep => exact absurd hacc (step_none_complete hs hne hstep)
    | turn hne hstep _ ih =>
      obtain ⟨hs', hforth⟩ := step_complete hs hne hstep
      exact ih hs' (hforth hacc)

theorem apart_start (h : '*' ∉ path ∨ '*' ∉ glob) : Apart ⟨path, glob, none⟩ :=
  ⟨h, fun _ _ hstar => by cases hstar⟩

theorem aligned_start : Aligned ⟨path, glob, none⟩ := fun _ _ hstar => by cases hstar

end GlobScan

theorem globAccepts_of_wildcardMatch (h : wildcardMatch path glob = true) :
    GlobAccepts glob path :=
  GlobScan.ends_sound (wildcardMatch_ends path glob) GlobScan.aligned_start h

theorem wildcardExact_of_apart (h : '*' ∉ path ∨ '*' ∉ glob) : WildcardExact path glob :=
  GlobScan.ends_iff (wildcardMatch_ends path glob) (GlobScan.apart_start h)

/-- Without wildcards a glob stands for its own text only. -/
theorem globAccepts_of_plain (hstar : '*' ∉ glob) (hmark : '?' ∉ glob) :
    GlobAccepts glob path ↔ path = glob := by
  constructor
  · intro h
    induction glob generalizing path with
    | nil => exact matches_nil.mp h
    | cons d glob ih =>
      obtain ⟨hd, hstar⟩ := List.ne_and_not_mem_of_not_mem_cons hstar
      obtain ⟨hd', hmark⟩ := List.ne_and_not_mem_of_not_mem_cons hmark
      cases path with
      | nil =>
        rw [globAccepts_nil] at h
        simp [Ne.symm hd] at h
      | cons c path =>
        obtain ⟨rfl | ⟨rfl, -⟩, hrest⟩ := (globAccepts_cons (Ne.symm hd)).mp h
        · rw [ih hstar hmark hrest]
        · exact absurd rfl hd'
  · rintro rfl
    exact globAccepts_self path

/-- `path_matches_glob` is right where `wildcard_match` is. -/
theorem globExact_of_wildcardExact (h : WildcardExact path glob) : GlobExact path glob := by
  intro hsuffix
  have hstrip : Text.stripSuffix glob "/**".toList = none := if_neg hsuffix
  unfold pathMatchesGlob
  rw [hstrip]
  split_ifs with heq hwild
  · exact iff_of_true rfl (.inr heq)
  · have hwildcard : wildcardMatch path glob = true ↔ GlobAccepts glob path := h
    rw [hwildcard]
    exact (or_iff_left heq).symm
  · obtain ⟨hstar, hmark⟩ := not_or.mp hwild
    rw [globAccepts_of_plain hstar hmark, or_self]
    exact iff_of_false id heq

/-! ## Where it is wrong -/

/-- A shared front is read character by character, `*`s included; none of them is kept. -/
theorem GlobScan.ends_append (front : List Char) (h : Ends ⟨path, glob, none⟩ b) :
    Ends ⟨front ++ path, front ++ glob, none⟩ b := by
  induction front with
  | nil => exact h
  | cons c front ih => exact .turn (List.cons_ne_nil c _) (if_pos (.inl rfl)) ih

/-- Behind a shared front a glob without `*` needs one character for each of its own. -/
theorem wildcardMatch_append_of_length_ne (front : List Char) (hstar : '*' ∉ glob)
    (hlen : path.length ≠ glob.length) : wildcardMatch (front ++ path) (front ++ glob) = false := by
  have hrest : wildcardMatch path glob = false := by
    rw [← Bool.not_eq_true]
    intro h
    have hacc := globAccepts_of_wildcardMatch h
    exact hlen ((hacc.length_eq (run_notMem_map hstar)).trans (List.length_map _))
  have hend := wildcardMatch_ends path glob
  rw [hrest] at hend
  exact (wildcardMatch_ends _ _).unique (GlobScan.ends_append front hend)

theorem exists_last_star (h : '*' ∈ glob) :
    ∃ front rest, glob = front ++ '*' :: rest ∧ '*' ∉ rest := by
  obtain ⟨rest, front, hsplit, hrest⟩ := List.eq_append_cons_of_mem (List.mem_reverse.mpr h)
  refine ⟨front.reverse, rest.reverse, ?_, mt List.mem_reverse.mp hrest⟩
  rw [← List.reverse_reverse glob, hsplit, List.reverse_append, List.reverse_cons,
    List.append_assoc]
  rfl

/-- `*?` in place of the last `*` of a path. -/
theorem exists_glob_refused (h : '*' ∈ path) : ∃ glob, ¬"/**".toList <:+ glob ∧ path ≠ glob ∧
    GlobAccepts glob path ∧ wildcardMatch path glob = false := by
  obtain ⟨front, rest, rfl, hrest⟩ := exists_last_star h
  have hmark : '*' ∉ '?' :: rest := List.not_mem_cons_of_ne_of_not_mem (by decide) hrest
  have hlen : rest.length ≠ ('?' :: rest).length := by simp
  refine ⟨front ++ '*' :: '?' :: rest, ?_, ?_, ?_, ?_⟩
  · rintro ⟨before, hsuffix⟩
    have hlast := congrArg List.getLast? hsuffix
    rw [List.getLast?_append_of_ne_nil _ (by decide), List.append_cons,
      List.getLast?_append_of_ne_nil _ (List.cons_ne_nil '?' rest)] at hlast
    exact hmark (List.mem_of_getLast? hlast.symm)
  · intro heq
    have hcons := List.append_cancel_left heq
    exact hlen (congrArg List.length (List.cons.inj hcons).2)
  · exact globAccepts_append (globAccepts_self front) (matches_run_of_matches
      ((globAccepts_cons (by decide)).mpr ⟨.inr ⟨rfl, by decide⟩, globAccepts_self rest⟩))
  · rw [List.append_cons front '*' rest, List.append_cons front '*' ('?' :: rest)]
    exact wildcardMatch_append_of_length_ne (front ++ ['*']) hmark hlen

/-- One more character behind the last `*` of a glob. -/
theorem exists_path_refused (h : '*' ∈ glob) : ∃ path, path ≠ glob ∧ GlobAccepts glob path ∧
    wildcardMatch path glob = false := by
  obtain ⟨front, rest, rfl, hrest⟩ := exists_last_star h
  have hlen : ('a' :: rest).length ≠ rest.length := by simp
  refine ⟨front ++ '*' :: 'a' :: rest, ?_, ?_, ?_⟩
  · intro heq
    have hcons := List.append_cancel_left heq
    exact hlen (congrArg List.length (List.cons.inj hcons).2)
  · have hrun : GlobAccepts ('*' :: rest) ('*' :: 'a' :: rest) :=
      matches_run_cons.mpr (.inr ⟨by decide, matches_run_cons.mpr
        (.inr ⟨by decide, matches_run_of_matches (globAccepts_self rest)⟩)⟩)
    exact globAccepts_append (globAccepts_self front) hrun
  · rw [List.append_cons front '*' rest, List.append_cons front '*' ('a' :: rest)]
    exact wildcardMatch_append_of_length_ne (front ++ ['*']) hrest hlen

theorem not_wildcardExact (hacc : GlobAccepts glob path) (h : wildcardMatch path glob = false) :
    ¬WildcardExact path glob := by
  intro hexact
  have htrue := hexact.mpr hacc
  rw [h] at htrue
  cases htrue

theorem not_globExact (hsuffix : ¬"/**".toList <:+ glob) (hne : path ≠ glob)
    (hacc : GlobAccepts glob path) (h : wildcardMatch path glob = false) :
    ¬GlobExact path glob := by
  intro hexact
  have hmatch := (hexact hsuffix).mpr (.inl hacc)
  have hstrip : Text.stripSuffix glob "/**".toList = none := if_neg hsuffix
  unfold pathMatchesGlob at hmatch
  rw [hstrip, if_neg hne] at hmatch
  dsimp only at hmatch
  rw [h, ite_self] at hmatch
  cases hmatch

/-- `wildcard_match` ends, and it accepts nothing that the glob does not stand for; it
    accepts all of it where no `*` can meet a `*`. On a path it is right for every glob,
    and `path_matches_glob` for every glob that `/**` does not end, iff the path has no
    `*`; for a glob on every path iff the glob has none. -/
theorem wildcardMatch_exact_iff (path glob : List Char) :
    GlobScan.Ends ⟨path, glob, none⟩ (wildcardMatch path glob) ∧
    (wildcardMatch path glob = true → GlobAccepts glob path) ∧
    ('*' ∉ path ∨ '*' ∉ glob → WildcardExact path glob ∧ GlobExact path glob) ∧
    ((∀ g, WildcardExact path g) ↔ '*' ∉ path) ∧ ((∀ g, GlobExact path g) ↔ '*' ∉ path) ∧
    ((∀ p, WildcardExact p glob) ↔ '*' ∉ glob) ∧
    (¬"/**".toList <:+ glob → ((∀ p, GlobExact p glob) ↔ '*' ∉ glob)) := by
  refine ⟨wildcardMatch_ends path glob, globAccepts_of_wildcardMatch, ?_, ?_, ?_, ?_, ?_⟩
  · intro h
    have hexact := wildcardExact_of_apart h
    exact ⟨hexact, globExact_of_wildcardExact hexact⟩
  · constructor
    · intro hexact hmem
      obtain ⟨glob, -, -, hacc, hfalse⟩ := exists_glob_refused hmem
      exact not_wildcardExact hacc hfalse (hexact glob)
    · intro h glob
      exact wildcardExact_of_apart (.inl h)
  · constructor
    · intro hexact hmem
      obtain ⟨glob, hsuffix, hne, hacc, hfalse⟩ := exists_glob_refused hmem
      exact not_globExact hsuffix hne hacc hfalse (hexact glob)
    · intro h glob
      exact globExact_of_wildcardExact (wildcardExact_of_apart (.inl h))
  · constructor
    · intro hexact hmem
      obtain ⟨path, -, hacc, hfalse⟩ := exists_path_refused hmem
      exact not_wildcardExact hacc hfalse (hexact path)
    · intro h path
      exact wildcardExact_of_apart (.inr h)
  · intro hsuffix
    constructor
    · intro hexact hmem
      obtain ⟨path, hne, hacc, hfalse⟩ := exists_path_refused hmem
      exact not_globExact hsuffix hne hacc hfalse (hexact path)
    · intro h path
      exact globExact_of_wildcardExact (wildcardExact_of_apart (.inr h))

/-- The path `*a` is a run of characters other than `/`, but `*` does not match it. -/
theorem star_refuses_star_path :
    ¬∀ path glob, wildcardMatch path glob = true ↔ GlobAccepts glob path := by
  intro h
  have hrun : GlobAccepts ['*'] ['*', 'a'] := matches_run_cons.mpr (.inr ⟨by decide,
    matches_run_cons.mpr (.inr ⟨by decide, matches_run_of_matches (matches_nil.mpr rfl)⟩)⟩)
  exact absurd ((h ['*', 'a'] ['*']).mpr hrun) (by decide)

end DarkTower.Guard
