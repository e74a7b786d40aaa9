import DarkTower.Lib.Text

/-!
# Paths and globs (`dt-guard/src/common/manifest_match.rs`)

Texts of the guards are lists of characters. The loop of `wildcard_match` keeps two
positions and those of the last `*`; here they are what is left of the path and of the
glob from there on.

* `wildcardLoop_of_le`: the loop ends within the steps that `wildcardMatch` gives it.
* `pathMatchesGlob_of_plain`: a glob without wildcards matches itself only.
-/

namespace DarkTower.Guard

open DarkTower.Lib

/-- The positions of `wildcard_match`; `star` is the path at `star_p` and the glob after
    `star_g`. -/
structure GlobScan where
  path : List Char
  glob : List Char
  star : Option (List Char × List Char)

namespace GlobScan

/-- The previous `*` takes one more character, unless that is a `/`. -/
def backtrack (s : GlobScan) : Option GlobScan :=
  match s.star with
  | some (c :: path, glob) => if c = '/' then none else some ⟨path, glob, some (path, glob)⟩
  | _ => none

/-- One turn of the loop; `none` is `return false`. -/
def step (s : GlobScan) : Option GlobScan :=
  match s.path, s.glob with
  | c :: path, d :: glob =>
    if d = c ∨ d = '?' ∧ c ≠ '/' then some ⟨path, glob, s.star⟩
    else if d = '*' then some ⟨c :: path, glob, some (c :: path, glob)⟩
    else s.backtrack
  | _, _ => s.backtrack

end GlobScan

/-- The loop, and the `*`s that are left when the path has ended. -/
def wildcardLoop : ℕ → GlobScan → Bool
  | 0, _ => false
  | fuel + 1, s =>
    if s.path = [] then s.glob.all (· = '*')
    else
      match s.step with
      | none => false
      | some s' => wildcardLoop fuel s'

/-- The turns that the loop needs at most. -/
def wildcardFuel (path glob : List Char) : ℕ := (path.length + 2) * (glob.length + 1)

/-- `wildcard_match` (manifest_match.rs:47). -/
def wildcardMatch (path glob : List Char) : Bool :=
  wildcardLoop (wildcardFuel path glob) ⟨path, glob, none⟩

/-- `path_matches_glob` (manifest_match.rs:22). -/
def pathMatchesGlob (path glob : List Char) : Bool :=
  if path = glob then true
  else
    match Text.stripSuffix glob "/**".toList with
    | some pre => decide (pre ++ ['/'] <+: path ∨ path = pre)
    | none => if '*' ∈ glob ∨ '?' ∈ glob then wildcardMatch path glob else false

@[simp] theorem pathMatchesGlob_self (path : List Char) : pathMatchesGlob path path = true :=
  if_pos rfl

/-- A glob without wildcards matches itself only. -/
theorem pathMatchesGlob_of_plain {path glob : List Char} (hstar : '*' ∉ glob) (hmark : '?' ∉ glob) :
    pathMatchesGlob path glob = true ↔ path = glob := by
  have hsuffix : Text.stripSuffix glob "/**".toList = none := by
    unfold Text.stripSuffix
    rw [if_neg]
    intro h
    exact hstar (h.subset (by decide))
  unfold pathMatchesGlob
  rw [hsuffix]
  simp [hstar, hmark]

/-! ## The loop ends -/

namespace GlobScan

/-- The characters that the last `*` can still be tried from, out of `n`. -/
def starLength (n : ℕ) (s : GlobScan) : ℕ :=
  match s.star with
  | none => n + 1
  | some (path, _) => path.length

/-- The positions of a run on a path of length `n` and a glob of length `m`. -/
structure Within (n m : ℕ) (s : GlobScan) : Prop where
  path : s.path.length ≤ n
  glob : s.glob.length ≤ m
  starPath : s.path.length ≤ s.starLength n
  starGlob : ∀ path glob, s.star = some (path, glob) → path.length ≤ n ∧ glob.length ≤ m

/-- Every turn makes this smaller. -/
def rank (n m : ℕ) (s : GlobScan) : ℕ := s.starLength n * (m + 1) + s.glob.length

variable {n m : ℕ} {s s' : GlobScan}

theorem backtrack_within (hs : s.Within n m) (h : s.backtrack = some s') :
    s'.Within n m ∧ s'.rank n m < s.rank n m := by
  unfold backtrack at h
  split at h
  next c path glob hstar =>
    split_ifs at h
    obtain rfl := Option.some.inj h
    obtain ⟨hpath, hglob⟩ := hs.starGlob _ _ hstar
    rw [List.length_cons] at hpath
    refine ⟨⟨Nat.le_of_succ_le hpath, hglob, le_refl _, ?_⟩, ?_⟩
    · intro path' glob' heq
      cases heq
      exact ⟨by omega, hglob⟩
    · have hlen : s.starLength n = path.length + 1 := by
        unfold starLength
        rw [hstar]
        rfl
      unfold rank
      rw [hlen, Nat.add_mul, Nat.one_mul]
      show path.length * (m + 1) + glob.length < _
      omega
  next => cases h

theorem step_within (hs : s.Within n m) (h : s.step = some s') :
    s'.Within n m ∧ s'.rank n m < s.rank n m := by
  unfold step at h
  split at h
  next c path d glob hpath hglob =>
    have hpathLen := hs.path
    have hglobLen := hs.glob
    have hstarLen := hs.starPath
    rw [hpath, List.length_cons] at hpathLen hstarLen
    rw [hglob, List.length_cons] at hglobLen
    split at h
    · obtain rfl := Option.some.inj h
      refine ⟨⟨?_, ?_, ?_, hs.starGlob⟩, ?_⟩
      · show path.length ≤ n
        omega
      · show glob.length ≤ m
        omega
      · show path.length ≤ s.starLength n
        omega
      · show s.starLength n * (m + 1) + glob.length < s.starLength n * (m + 1) + s.glob.length
        rw [hglob, List.length_cons]
        omega
    · split at h
      · obtain rfl := Option.some.inj h
        refine ⟨⟨?_, ?_, le_refl _, ?_⟩, ?_⟩
        · show (c :: path).length ≤ n
          rw [List.length_cons]
          omega
        · show glob.length ≤ m
          omega
        · intro path' glob' heq
          cases heq
          refine ⟨?_, by omega⟩
          rw [List.length_cons]
          omega
        · show (c :: path).length * (m + 1) + glob.length <
            s.starLength n * (m + 1) + s.glob.length
          rw [hglob, List.length_cons, List.length_cons]
          have hmul := Nat.mul_le_mul_right (m + 1) hstarLen
          omega
      · exact backtrack_within hs h
  next => exact backtrack_within hs h

end GlobScan

/-- A loop that has more turns than it needs ends as it does with one more. -/
theorem wildcardLoop_succ {n m fuel : ℕ} {s : GlobScan} (hs : s.Within n m)
    (hfuel : s.rank n m < fuel) : wildcardLoop (fuel + 1) s = wildcardLoop fuel s := by
  induction fuel generalizing s with
  | zero => omega
  | succ fuel ih =>
    rw [wildcardLoop, wildcardLoop]
    split_ifs
    · rfl
    · cases hstep : s.step with
      | none => rfl
      | some s' =>
        obtain ⟨hs', hrank⟩ := GlobScan.step_within hs hstep
        exact ih hs' (by omega)

/-- The loop ends within the turns that `wildcardMatch` gives it. -/
theorem wildcardLoop_of_le {path glob : List Char} {fuel : ℕ} (h : wildcardFuel path glob ≤ fuel) :
    wildcardLoop fuel ⟨path, glob, none⟩ = wildcardMatch path glob := by
  have hstart : GlobScan.Within path.length glob.length ⟨path, glob, none⟩ :=
    ⟨le_refl _, le_refl _, Nat.le_succ _, fun _ _ heq => by cases heq⟩
  induction fuel, h using Nat.le_induction with
  | base => rfl
  | succ fuel hle ih =>
    rw [wildcardLoop_succ hstart, ih]
    have hrank : GlobScan.rank path.length glob.length ⟨path, glob, none⟩ =
        (path.length + 1) * (glob.length + 1) + glob.length := rfl
    unfold wildcardFuel at hle
    rw [hrank]
    have hsplit : (path.length + 2) * (glob.length + 1) =
        (path.length + 1) * (glob.length + 1) + (glob.length + 1) := Nat.succ_mul _ _
    omega

example : pathMatchesGlob "crates/a/src/jwt.rs".toList "crates/*/src/*.rs".toList = true := by
  decide

end DarkTower.Guard
