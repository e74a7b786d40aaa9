import DarkTower.Guard.CrossBoundary

/-!
# The drift that `check_scope` reports (`dt-guard/src/cross_boundary_scope.rs`)

An entry with a wildcard is replaced by the changed paths that it matches before the plan
and the diff are compared as sets. `check_scope` sees neither the exempt paths nor, in
`run`, the excluded ones: `filter_diff_paths` takes an excluded path out of the diff and
`parse_plan_paths` an entry whose own text is excluded out of the plan.

* `mem_checkScope_inbound`, `mem_checkScope_untouched`: who is reported.
* `checkScope_congr`: order and multiplicity of the entries do not matter.
* `scope_drift_exact`: these, and the same for the whole pipeline.
* `excluded_path_untouches`: an entry that matches only an excluded path is reported.
-/

namespace DarkTower.Guard

open DarkTower.Lib

/-- An entry that `check_scope` expands. -/
def IsGlobEntry (entry : List Char) : Prop := '*' ∈ entry ∨ '?' ∈ entry ∨ '[' ∈ entry

instance (entry : List Char) : Decidable (IsGlobEntry entry) :=
  inferInstanceAs (Decidable (_ ∨ _ ∨ _))

/-- The path equals the entry, or matches it where the entry is a glob. -/
def Meets (path entry : List Char) : Prop :=
  path = entry ∨ IsGlobEntry entry ∧ pathMatchesGlob path entry = true

instance (path entry : List Char) : Decidable (Meets path entry) :=
  inferInstanceAs (Decidable (_ ∨ _ ∧ _))

section

variable {changedFiles planPaths planPaths' exemptExtras diffPaths : List (List Char)}
  {content relMainMd path entry : List Char}

theorem meets_iff : Meets path entry ↔ pathMatchesGlob path entry = true := by
  constructor
  · rintro (rfl | ⟨-, h⟩)
    · exact pathMatchesGlob_self path
    · exact h
  · intro h
    by_cases hglob : IsGlobEntry entry
    · exact .inr ⟨hglob, h⟩
    · obtain ⟨hstar, hrest⟩ := not_or.mp hglob
      exact .inl ((pathMatchesGlob_of_plain hstar (not_or.mp hrest).1).mp h)

/-- What an entry stands for: the paths that meet it, or its own text if none does. -/
theorem mem_expandEntry {diffSet : List (List Char)} :
    path ∈ expandEntry diffSet entry ↔
      path ∈ diffSet ∧ Meets path entry ∨ path = entry ∧ ∀ d ∈ diffSet, ¬Meets d entry := by
  simp only [meets_iff]
  have hself : path = entry → pathMatchesGlob path entry = true := by
    rintro rfl
    exact pathMatchesGlob_self path
  unfold expandEntry
  dsimp only
  split_ifs with hglob hnone
  · have hall : ∀ d ∈ diffSet, ¬pathMatchesGlob d entry = true := List.filter_eq_nil_iff.mp hnone
    rw [List.mem_singleton]
    constructor
    · intro h
      exact .inr ⟨h, hall⟩
    · rintro (⟨hpath, h⟩ | ⟨h, -⟩)
      · exact absurd h (hall path hpath)
      · exact h
  · rw [List.mem_filter]
    refine (or_iff_left ?_).symm
    rintro ⟨-, hall⟩
    exact hnone (List.filter_eq_nil_iff.mpr hall)
  · obtain ⟨hstar, hrest⟩ := not_or.mp hglob
    have hplain (d : List Char) : pathMatchesGlob d entry = true ↔ d = entry :=
      pathMatchesGlob_of_plain hstar (not_or.mp hrest).1
    simp only [hplain, List.mem_singleton]
    constructor
    · rintro rfl
      by_cases hmem : path ∈ diffSet
      · exact .inl ⟨hmem, rfl⟩
      · refine .inr ⟨rfl, ?_⟩
        rintro d hd rfl
        exact hmem hd
    · rintro (⟨-, h⟩ | ⟨h, -⟩) <;> exact h

theorem mem_map_scopeFinding {r r' : ScopeRule} {paths : List (List Char)} :
    ⟨r, path⟩ ∈ paths.map (⟨r', ·⟩ : List Char → ScopeFinding) ↔ r = r' ∧ path ∈ paths := by
  rw [List.mem_map]
  constructor
  · rintro ⟨p, hp, heq⟩
    cases heq
    exact ⟨rfl, hp⟩
  · rintro ⟨rfl, hp⟩
    exact ⟨path, hp, rfl⟩

/-- The paths of the diff that nothing in the plan stands for. -/
theorem mem_checkScope_inbound :
    ⟨.driftInbound, path⟩ ∈ checkScope changedFiles planPaths exemptExtras ↔
      path ∈ changedFiles ∧ path ∉ exemptExtras ∧
        ∀ entry ∈ planPaths, entry ∉ exemptExtras → ¬Meets path entry := by
  unfold checkScope
  dsimp only
  simp only [List.mem_append, mem_map_scopeFinding, List.mem_filter, decide_eq_true_eq,
    mem_sortDedup, List.mem_flatMap, true_and, reduceCtorEq, false_and, or_false, mem_expandEntry,
    and_assoc]
  refine and_congr_right fun hpath => and_congr_right fun hexempt => ?_
  constructor
  · intro h entry hentry hkept hmeets
    exact h ⟨entry, hentry, hkept, .inl ⟨hpath, hexempt, hmeets⟩⟩
  · rintro h ⟨entry, hentry, hkept, ⟨-, -, hmeets⟩ | ⟨rfl, -⟩⟩
    · exact h entry hentry hkept hmeets
    · exact h path hentry hkept (.inl rfl)

/-- The entries of the plan that nothing in the diff meets. -/
theorem mem_checkScope_untouched :
    ⟨.driftPlannedUntouched, entry⟩ ∈ checkScope changedFiles planPaths exemptExtras ↔
      entry ∈ planPaths ∧ entry ∉ exemptExtras ∧
        ∀ path ∈ changedFiles, path ∉ exemptExtras → ¬Meets path entry := by
  unfold checkScope
  dsimp only
  simp only [List.mem_append, mem_map_scopeFinding, List.mem_filter, decide_eq_true_eq,
    mem_sortDedup, List.mem_flatMap, true_and, reduceCtorEq, false_and, false_or, mem_expandEntry,
    and_assoc, not_and]
  constructor
  · rintro ⟨⟨entry', hentry, hkept, ⟨hpath, hexempt, -⟩ | ⟨rfl, hnone⟩⟩, habsent⟩
    · exact absurd hexempt (habsent hpath)
    · exact ⟨hentry, hkept, fun d hd hexempt => hnone d ⟨hd, hexempt⟩⟩
  · rintro ⟨hentry, hkept, hnone⟩
    refine ⟨⟨entry, hentry, hkept, .inr ⟨rfl, ?_⟩⟩, ?_⟩
    · rintro d ⟨hd, hexempt⟩
      exact hnone d hd hexempt
    · intro hmem hexempt
      exact hnone entry hmem hexempt (.inl rfl)

theorem sortDedup_congr {paths paths' : List (List Char)} (h : ∀ p, p ∈ paths ↔ p ∈ paths') :
    sortDedup paths = sortDedup paths' := by
  have hperm : paths.dedup.Perm paths'.dedup := by
    refine (List.perm_ext_iff_of_nodup (List.nodup_dedup _) (List.nodup_dedup _)).mpr fun p => ?_
    rw [List.mem_dedup, List.mem_dedup, h p]
  unfold sortDedup
  refine List.Perm.eq_of_pairwise' (List.pairwise_insertionSort _ _)
    (List.pairwise_insertionSort _ _) ?_
  exact ((List.perm_insertionSort _ _).trans hperm).trans (List.perm_insertionSort _ _).symm

/-- The findings, in their order, depend on the set of the entries only. -/
theorem checkScope_congr (h : ∀ entry, entry ∈ planPaths ↔ entry ∈ planPaths') :
    checkScope changedFiles planPaths exemptExtras =
      checkScope changedFiles planPaths' exemptExtras := by
  have hplan (diffSet : List (List Char)) :
      sortDedup ((planPaths.filter (· ∉ exemptExtras)).flatMap (expandEntry diffSet)) =
        sortDedup ((planPaths'.filter (· ∉ exemptExtras)).flatMap (expandEntry diffSet)) := by
    refine sortDedup_congr fun p => ?_
    simp only [List.mem_flatMap, List.mem_filter, h]
  unfold checkScope
  dsimp only
  rw [hplan]

/-! ## The whole pipeline -/

/-- The entries of the plan: the texts of rows, neither empty nor excluded. -/
theorem mem_parsePlanPaths_iff :
    entry ∈ parsePlanPaths content relMainMd ↔
      (∃ row ∈ classificationRows content, row.cell 0 = entry) ∧ entry ≠ [] ∧
        isSymmetricExclusion relMainMd entry = false := by
  rw [parsePlanPaths, List.mem_reverse, List.mem_dedup, List.mem_reverse, List.mem_filter,
    List.mem_map]
  simp

theorem mem_filterDiffPaths :
    path ∈ filterDiffPaths diffPaths relMainMd ↔
      path ∈ diffPaths ∧ isSymmetricExclusion relMainMd path = false := by
  rw [filterDiffPaths, mem_sortDedup, List.mem_filter, Bool.not_eq_true']

end

/-- `check_scope` reports exactly the changed files that no entry stands for and the
    entries that no changed file meets, exempt ones apart; it looks at the set of the
    entries only. In the pipeline an entry is reported iff no path of the raw diff meets
    it that is neither excluded nor exempt. -/
theorem scope_drift_exact :
    (∀ changedFiles planPaths exemptExtras path,
      ⟨.driftInbound, path⟩ ∈ checkScope changedFiles planPaths exemptExtras ↔
        path ∈ changedFiles ∧ path ∉ exemptExtras ∧
          ∀ entry ∈ planPaths, entry ∉ exemptExtras → ¬Meets path entry) ∧
    (∀ changedFiles planPaths exemptExtras entry,
      ⟨.driftPlannedUntouched, entry⟩ ∈ checkScope changedFiles planPaths exemptExtras ↔
        entry ∈ planPaths ∧ entry ∉ exemptExtras ∧
          ∀ path ∈ changedFiles, path ∉ exemptExtras → ¬Meets path entry) ∧
    (∀ changedFiles planPaths planPaths' exemptExtras,
      (∀ entry, entry ∈ planPaths ↔ entry ∈ planPaths') →
        checkScope changedFiles planPaths exemptExtras =
          checkScope changedFiles planPaths' exemptExtras) ∧
    ∀ content relMainMd diffPaths exemptExtras entry,
      ⟨.driftPlannedUntouched, entry⟩ ∈ checkScope (filterDiffPaths diffPaths relMainMd)
          (parsePlanPaths content relMainMd) exemptExtras ↔
        (∃ row ∈ classificationRows content, row.cell 0 = entry) ∧ entry ≠ [] ∧
          isSymmetricExclusion relMainMd entry = false ∧ entry ∉ exemptExtras ∧
          ∀ path ∈ diffPaths, isSymmetricExclusion relMainMd path = false →
            path ∉ exemptExtras → ¬Meets path entry := by
  refine ⟨fun _ _ _ _ => mem_checkScope_inbound, fun _ _ _ _ => mem_checkScope_untouched,
    fun _ _ _ _ => checkScope_congr, ?_⟩
  intro content relMainMd diffPaths exemptExtras entry
  rw [mem_checkScope_untouched, mem_parsePlanPaths_iff]
  simp only [mem_filterDiffPaths, and_imp, and_assoc]

/-- The row names a directory of which only excluded files were changed. -/
def excludedContent : List Char := sampleContent "| `docs/**` | Mine | — |"

/-- A row for the documentation. -/
def excludedRow : TableRow :=
  ⟨["docs/**".toList, "Mine".toList, "—".toList], 5, List.cons_ne_nil _ _⟩

theorem rows_excludedContent : classificationRows excludedContent = [excludedRow] := by
  decide +kernel

/-- The row `docs/**` is reported although the diff changes `docs/TODO.md`; and a file that
    matches an entry is reported as inbound if that entry is exempt. -/
theorem excluded_path_untouches :
    (¬∀ content relMainMd diffPaths, ∀ row ∈ classificationRows content,
      (∃ path ∈ diffPaths, Meets path (row.cell 0)) →
        ⟨.driftPlannedUntouched, row.cell 0⟩ ∉ checkScope (filterDiffPaths diffPaths relMainMd)
          (parsePlanPaths content relMainMd) []) ∧
    ¬∀ changedFiles planPaths exemptExtras path,
      ⟨.driftInbound, path⟩ ∈ checkScope changedFiles planPaths exemptExtras ↔
        path ∈ changedFiles ∧ path ∉ exemptExtras ∧ ∀ entry ∈ planPaths, ¬Meets path entry := by
  constructor
  · intro h
    have hrow : excludedRow ∈ classificationRows excludedContent := by
      rw [rows_excludedContent]
      exact List.mem_singleton.mpr rfl
    have hnot :=
      h excludedContent sampleMainMd [sampleMainMd, "docs/TODO.md".toList] excludedRow hrow
    refine hnot ?_ ?_
    · decide +kernel
    · unfold parsePlanPaths
      rw [rows_excludedContent]
      decide +kernel
  · intro h
    have hiff := h ["a/b".toList] ["a/**".toList] ["a/**".toList] "a/b".toList
    have hmem := hiff.mp (by decide +kernel)
    exact hmem.2.2 _ (List.mem_singleton.mpr rfl) (by decide +kernel)

end DarkTower.Guard
