import DarkTower.Guard.ManifestMatch
import DarkTower.Guard.MarkdownTable
import Mathlib.Data.Char
import Mathlib.Data.List.Dedup
import Mathlib.Data.List.Lex
import Mathlib.Data.List.Sort

/-!
# The two cross-boundary guards together

The scope guard (`dt-guard/src/cross_boundary_scope.rs`) compares the changed paths with
the table of the active `main.md`: an entry with a wildcard stands for the changed paths
that it matches. The classification guard (`cross_boundary_classification.rs`) checks the
rows of the same table against the ownership manifest: it matches the text of the row's
first cell, wildcards included, as if it were a path.

* `exists_covering_row`: without inbound drift every changed path is covered by a row.
* `row_checked`: without hits a row whose own text is guarded is `Mine`, or not
  `Mechanical` and owned by a specialist of its text.
* `guarded_covered_iff`: with neither, every guarded changed path is covered by a row fit
  for it iff none is covered by misread rows only (`Misread`).
* `directory_row_unchecked`: a `Mechanical` row for a directory with a guarded file in it.
-/

namespace DarkTower.Guard

open DarkTower.Lib

/-- `sort` and `dedup`. -/
def sortDedup (paths : List (List Char)) : List (List Char) :=
  paths.dedup.insertionSort (· ≤ ·)

theorem mem_sortDedup {path : List Char} {paths : List (List Char)} :
    path ∈ sortDedup paths ↔ path ∈ paths := by
  rw [sortDedup, List.mem_insertionSort, List.mem_dedup]

/-! ## The scope guard -/

/-- The `rule_id`s of a `ScopeFinding`. -/
inductive ScopeRule
  | driftInbound
  | driftPlannedUntouched
deriving DecidableEq

/-- `ScopeFinding` (cross_boundary_scope.rs:43). -/
structure ScopeFinding where
  ruleId : ScopeRule
  path : List Char
deriving DecidableEq

/-- `is_user_story_path` (cross_boundary_scope.rs:55). -/
def isUserStoryPath (path : List Char) : Bool :=
  match Text.stripPrefix path "docs/user-stories/".toList with
  | some rest => decide (".md".toList <:+ path) && !rest.contains '/'
  | none => false

/-- `is_symmetric_exclusion` (cross_boundary_scope.rs:70). -/
def isSymmetricExclusion (relMainMd path : List Char) : Bool :=
  path = relMainMd || path = "docs/TODO.md".toList ||
    pathMatchesGlob path "docs/specialist-knowledge/*/INDEX.md".toList || isUserStoryPath path

/-- The paths that an entry of the plan stands for. -/
def expandEntry (diffSet : List (List Char)) (entry : List Char) : List (List Char) :=
  if '*' ∈ entry ∨ '?' ∈ entry ∨ '[' ∈ entry then
    let matched := diffSet.filter fun d => pathMatchesGlob d entry
    if matched = [] then [entry] else matched
  else [entry]

/-- `check_scope` (cross_boundary_scope.rs:98). -/
def checkScope (changedFiles planPaths exemptExtras : List (List Char)) : List ScopeFinding :=
  let diffSet := changedFiles.filter (· ∉ exemptExtras)
  let expandedPlan :=
    sortDedup ((planPaths.filter (· ∉ exemptExtras)).flatMap (expandEntry diffSet))
  (diffSet.filter (· ∉ expandedPlan)).map (⟨.driftInbound, ·⟩) ++
    (expandedPlan.filter (· ∉ diffSet)).map (⟨.driftPlannedUntouched, ·⟩)

/-- The heading of the table. -/
def classificationHeading : List Char := "Cross-Boundary Classification".toList

/-- The rows that the guards look at. -/
def classificationRows (content : List Char) : List TableRow :=
  (parseTableUnderHeading content classificationHeading).filter fun row =>
    !isTemplatePlaceholderRow row

/-- `parse_plan_paths` (cross_boundary_scope.rs:158), without the duplicates. -/
def parsePlanPaths (content relMainMd : List Char) : List (List Char) :=
  (((classificationRows content).map (·.cell 0)).filter fun path =>
    !path.isEmpty && !isSymmetricExclusion relMainMd path).reverse.dedup.reverse

/-- `filter_diff_paths` (cross_boundary_scope.rs:180). -/
def filterDiffPaths (diffPaths : List (List Char)) (relMainMd : List Char) : List (List Char) :=
  sortDedup (diffPaths.filter fun path => !isSymmetricExclusion relMainMd path)

/-! ## The classification guard -/

/-- `Manifest` (cross_boundary_classification.rs:36): globs with their specialists. -/
structure Manifest where
  entries : List (List Char × List (List Char))

/-- Why a line of the manifest is refused. -/
inductive ManifestError
  | notQuotedKey (lineNo : ℕ)
  | unterminatedKey (lineNo : ℕ)
  | expectedColon (lineNo : ℕ)
  | expectedBracket (lineNo : ℕ)
  | unterminatedList (lineNo : ℕ)
deriving DecidableEq

namespace Manifest

/-- A line `"glob": [a, b, ...]`. -/
def parseLine (lineNo : ℕ) (trimmed : List Char) :
    Except ManifestError (List Char × List (List Char)) :=
  match Text.stripPrefix trimmed ['"'] with
  | none => .error (.notQuotedKey lineNo)
  | some rest =>
    match Text.cutAt '"' rest with
    | none => .error (.unterminatedKey lineNo)
    | some (glob, after) =>
      match Text.stripPrefix (Text.trimStart after) [':'] with
      | none => .error (.expectedColon lineNo)
      | some after =>
        match Text.stripPrefix (Text.trimStart after) ['['] with
        | none => .error (.expectedBracket lineNo)
        | some after =>
          match Text.cutAt ']' after with
          | none => .error (.unterminatedList lineNo)
          | some (list, _) => .ok (glob, ((list.splitOn ',').map Text.trim).filter (· ≠ []))

/-- The loop of `parse`. -/
def parseLines : ℕ → List (List Char) → Except ManifestError (List (List Char × List (List Char)))
  | _, [] => .ok []
  | lineNo, raw :: lines =>
    let trimmed := Text.trim raw
    if trimmed = [] ∨ trimmed.head? = some '#' then parseLines (lineNo + 1) lines
    else
      match parseLine lineNo trimmed, parseLines (lineNo + 1) lines with
      | .error e, _ => .error e
      | .ok _, .error e => .error e
      | .ok entry, .ok entries => .ok (entry :: entries)

/-- `Manifest::parse` (cross_boundary_classification.rs:49). -/
def parse (content : List Char) : Except ManifestError Manifest :=
  (parseLines 1 (Text.lines content)).map Manifest.mk

variable (m : Manifest)

/-- `specialists_for_path` (cross_boundary_classification.rs:87). -/
def specialistsForPath (path : List Char) : List (List Char) :=
  sortDedup ((m.entries.filter fun e => pathMatchesGlob path e.1).flatMap (·.2))

/-- `is_gsa` (cross_boundary_classification.rs:103). -/
def isGsa (path : List Char) : Bool := m.entries.any fun e => pathMatchesGlob path e.1

end Manifest

/-- The `rule_id`s of a `Hit`. -/
inductive HitRule
  | gsaMechanical
  | gsaMissingOwner
  | ownerNotInManifest
deriving DecidableEq

/-- `Hit` (cross_boundary_classification.rs:111), with what its detail says. -/
structure Hit where
  ruleId : HitRule
  path : List Char
  owner : List Char
  valid : List (List Char)
  line : ℕ
deriving DecidableEq

namespace TableRow

variable (row : TableRow)

/-- The cell `Classification` is `Mine`. -/
def isMine : Bool := row.cell 1 = "Mine".toList

/-- The cell `Classification` contains `Mechanical`. -/
def isMechanical : Bool := Text.contains (row.cell 1) "Mechanical".toList

/-- What the loop of `check_main_md` does with a row. -/
def check (m : Manifest) : Option Hit :=
  let path := row.cell 0
  let owner := row.cell 2
  if row.isMine then none
  else if m.isGsa path && row.isMechanical then
    some ⟨.gsaMechanical, path, [], [], row.lineNo⟩
  else if m.isGsa path then
    if owner = [] ∨ owner = "—".toList ∨ owner = "-".toList then
      some ⟨.gsaMissingOwner, path, [], [], row.lineNo⟩
    else if owner ∉ m.specialistsForPath path then
      some ⟨.ownerNotInManifest, path, owner, m.specialistsForPath path, row.lineNo⟩
    else none
  else none

end TableRow

/-- `check_main_md` (cross_boundary_classification.rs:118) on the text of the file. -/
def checkMainMd (content : List Char) (m : Manifest) : List Hit :=
  (classificationRows content).filterMap (·.check m)

/-! ## What the guards let through -/

/-- The row stands for the path. -/
def TableRow.Covers (row : TableRow) (path : List Char) : Prop :=
  pathMatchesGlob path (row.cell 0) = true

instance (row : TableRow) (path : List Char) : Decidable (row.Covers path) :=
  inferInstanceAs (Decidable (_ = true))

/-- The row is fit for a guarded path: `Mine`, or not `Mechanical` and owned by one of the
    path's specialists. -/
def TableRow.FitFor (m : Manifest) (row : TableRow) (path : List Char) : Prop :=
  row.isMine = true ∨ row.isMechanical = false ∧ row.cell 2 ∈ m.specialistsForPath path

/-- A wildcard row that is not `Mine` and whose text the manifest reads otherwise than the
    path: its Owner is not a specialist of the path, or it is `Mechanical` and its own
    text is not guarded. -/
def TableRow.Misread (m : Manifest) (row : TableRow) (path : List Char) : Prop :=
  row.cell 0 ≠ path ∧ row.isMine = false ∧
    (row.cell 2 ∉ m.specialistsForPath path ∨
      row.isMechanical = true ∧ m.isGsa (row.cell 0) = false)

instance (m : Manifest) (row : TableRow) (path : List Char) : Decidable (row.FitFor m path) :=
  inferInstanceAs (Decidable (_ ∨ _ ∧ _))

instance (m : Manifest) (row : TableRow) (path : List Char) : Decidable (row.Misread m path) :=
  inferInstanceAs (Decidable (_ ∧ _ ∧ (_ ∨ _ ∧ _)))

/-- The guarded paths among the changed ones that no exclusion takes out. -/
def guardedPaths (m : Manifest) (diffPaths : List (List Char)) (relMainMd : List Char) :
    List (List Char) :=
  diffPaths.filter fun path => !isSymmetricExclusion relMainMd path && m.isGsa path

/-- The scope guard reports no changed path outside the plan. -/
def NoInboundDrift (content relMainMd : List Char) (diffPaths : List (List Char)) : Prop :=
  ∀ f ∈ checkScope (filterDiffPaths diffPaths relMainMd) (parsePlanPaths content relMainMd) [],
    f.ruleId ≠ .driftInbound

instance (content relMainMd : List Char) (diffPaths : List (List Char)) :
    Decidable (NoInboundDrift content relMainMd diffPaths) :=
  inferInstanceAs (Decidable (∀ f ∈ checkScope _ _ _, _))

section

variable {m : Manifest} {content relMainMd path : List Char} {diffPaths : List (List Char)}
  {row : TableRow}

/-- Every path that an entry stands for matches the entry. -/
theorem pathMatchesGlob_of_mem_expandEntry {diffSet : List (List Char)} {entry : List Char}
    (h : path ∈ expandEntry diffSet entry) : pathMatchesGlob path entry = true := by
  have hself : path ∈ [entry] → pathMatchesGlob path entry = true := by
    intro hmem
    rw [List.mem_singleton.mp hmem]
    exact pathMatchesGlob_self entry
  unfold expandEntry at h
  dsimp only at h
  split_ifs at h
  · exact hself h
  · exact (List.mem_filter.mp h).2
  · exact hself h

theorem mem_parsePlanPaths {entry : List Char} (h : entry ∈ parsePlanPaths content relMainMd) :
    ∃ row ∈ classificationRows content, row.cell 0 = entry := by
  rw [parsePlanPaths, List.mem_reverse, List.mem_dedup, List.mem_reverse, List.mem_filter,
    List.mem_map] at h
  exact h.1

/-- Without inbound drift every changed path is covered by a row. -/
theorem exists_covering_row (hdrift : NoInboundDrift content relMainMd diffPaths)
    (hpath : path ∈ diffPaths) (hincluded : isSymmetricExclusion relMainMd path = false) :
    ∃ row ∈ classificationRows content, row.Covers path := by
  have hchanged : path ∈ filterDiffPaths diffPaths relMainMd := by
    rw [filterDiffPaths, mem_sortDedup, List.mem_filter]
    exact ⟨hpath, by simp [hincluded]⟩
  by_contra hnone
  refine hdrift ⟨.driftInbound, path⟩ ?_ rfl
  unfold checkScope
  refine List.mem_append_left _ (List.mem_map.mpr ⟨path, List.mem_filter.mpr ⟨?_, ?_⟩, rfl⟩)
  · simpa using hchanged
  · rw [decide_eq_true_iff, mem_sortDedup, List.mem_flatMap]
    rintro ⟨entry, hentry, hexpanded⟩
    obtain ⟨row, hrow, rfl⟩ := mem_parsePlanPaths (List.mem_filter.mp hentry).1
    exact hnone ⟨row, hrow, pathMatchesGlob_of_mem_expandEntry hexpanded⟩

/-- Without hits a row whose own text is guarded is fit for its text. -/
theorem row_checked (hhits : checkMainMd content m = []) (hrow : row ∈ classificationRows content)
    (hgsa : m.isGsa (row.cell 0) = true) : row.FitFor m (row.cell 0) := by
  have hcheck : row.check m = none := by
    rw [checkMainMd, List.filterMap_eq_nil_iff] at hhits
    exact hhits row hrow
  unfold TableRow.check at hcheck
  simp only [hgsa, Bool.true_and, if_true] at hcheck
  by_cases hmine : row.isMine = true
  · exact .inl hmine
  · rw [if_neg hmine] at hcheck
    split_ifs at hcheck with hmechanical howner hspecialist
    · exact .inr ⟨by simpa using hmechanical, by simpa using hspecialist⟩

/-- A row that is not misread is fit for a guarded path that it covers. -/
theorem fitFor_iff_not_misread (hhits : checkMainMd content m = [])
    (hrow : row ∈ classificationRows content) (hgsa : m.isGsa path = true) :
    row.FitFor m path ↔ ¬ row.Misread m path := by
  constructor
  · rintro (hmine | ⟨hmechanical, howner⟩) ⟨_, hnotMine, hwrong⟩
    · rw [hmine] at hnotMine
      cases hnotMine
    · rcases hwrong with hwrong | ⟨hwrong, _⟩
      · exact hwrong howner
      · rw [hmechanical] at hwrong
        cases hwrong
  · intro hread
    by_cases hself : row.cell 0 = path
    · rw [← hself] at hgsa ⊢
      exact row_checked hhits hrow hgsa
    · by_cases hmine : row.isMine = true
      · exact .inl hmine
      · have howner : row.cell 2 ∈ m.specialistsForPath path := by
          by_contra hwrong
          exact hread ⟨hself, by simpa using hmine, .inl hwrong⟩
        refine .inr ⟨?_, howner⟩
        by_contra hmechanical
        have hmechanical : row.isMechanical = true := by simpa using hmechanical
        -- the row is checked under its own text, so it would be a hit
        have hunguarded : m.isGsa (row.cell 0) ≠ true := by
          intro hguarded
          rcases row_checked hhits hrow hguarded with hmine' | ⟨hmechanical', _⟩
          · exact hmine hmine'
          · rw [hmechanical] at hmechanical'
            cases hmechanical'
        exact hread ⟨hself, by simpa using hmine, .inr ⟨hmechanical, by simpa using hunguarded⟩⟩

end

/-- Where neither guard reports, every guarded changed path is covered by a row that is fit
    for it iff no such path that is covered at all is covered by misread rows only. -/
theorem guarded_covered_iff (m : Manifest) (content relMainMd : List Char)
    (diffPaths : List (List Char)) (hdrift : NoInboundDrift content relMainMd diffPaths)
    (hhits : checkMainMd content m = []) :
    (∀ path ∈ guardedPaths m diffPaths relMainMd,
      ∃ row ∈ classificationRows content, row.Covers path ∧ row.FitFor m path) ↔
    ∀ path ∈ guardedPaths m diffPaths relMainMd,
      (∃ row ∈ classificationRows content, row.Covers path) →
        ∃ row ∈ classificationRows content, row.Covers path ∧ ¬ row.Misread m path := by
  refine forall₂_congr fun path hpath => ?_
  rw [guardedPaths, List.mem_filter, Bool.and_eq_true, Bool.not_eq_true'] at hpath
  obtain ⟨hpath, hincluded, hgsa⟩ := hpath
  constructor
  · rintro ⟨row, hrow, hcovers, hfit⟩ _
    exact ⟨row, hrow, hcovers, (fitFor_iff_not_misread hhits hrow hgsa).mp hfit⟩
  · intro hread
    obtain ⟨row, hrow, hcovers, hread⟩ := hread (exists_covering_row hdrift hpath hincluded)
    exact ⟨row, hrow, hcovers, (fitFor_iff_not_misread hhits hrow hgsa).mpr hread⟩

/-! ## A row for a directory -/

/-- Two lines of the ownership manifest. -/
def sampleManifest : Manifest where
  entries :=
    [("proto/**".toList, ["protocol".toList]),
      ("crates/common/src/jwt.rs".toList, ["auth-controller".toList, "security".toList])]

/-- The `main.md` of a devloop. -/
def sampleMainMd : List Char := "docs/devloop-outputs/x/main.md".toList

/-- A diff of that file and a file of the common crate. -/
def sampleDiff : List (List Char) := [sampleMainMd, "crates/common/src/jwt.rs".toList]

/-- The `main.md` with one row. -/
def sampleContent (row : String) : List Char :=
  "## Cross-Boundary Classification\n\n| Path | Classification | Owner |\n|---|---|---|\n".toList ++
    row.toList

/-- The row names the changed file. -/
def fileContent : List Char :=
  sampleContent "| `crates/common/src/jwt.rs` | Not mine, Minor-judgment | security |"

/-- A row for the file. -/
def fileRow : TableRow :=
  ⟨["crates/common/src/jwt.rs".toList, "Not mine, Minor-judgment".toList, "security".toList], 5,
    List.cons_ne_nil _ _⟩

theorem rows_fileContent : classificationRows fileContent = [fileRow] := by decide +kernel

/-- The row names its directory. -/
def directoryContent : List Char :=
  sampleContent "| `crates/common/` | Not mine, Mechanical | — |"

/-- A row for its directory. -/
def directoryRow : TableRow :=
  ⟨["crates/common/**".toList, "Not mine, Mechanical".toList, "—".toList], 5,
    List.cons_ne_nil _ _⟩

theorem rows_directoryContent : classificationRows directoryContent = [directoryRow] := by
  decide +kernel

theorem guarded_covered_fileContent :
    guardedPaths sampleManifest sampleDiff sampleMainMd ≠ [] ∧
      ∀ path ∈ guardedPaths sampleManifest sampleDiff sampleMainMd,
        ∃ row ∈ classificationRows fileContent, row.Covers path ∧
          row.FitFor sampleManifest path := by
  have hdrift : NoInboundDrift fileContent sampleMainMd sampleDiff := by
    unfold NoInboundDrift parsePlanPaths
    rw [rows_fileContent]
    decide +kernel
  have hhits : checkMainMd fileContent sampleManifest = [] := by
    unfold checkMainMd
    rw [rows_fileContent]
    decide +kernel
  refine ⟨by decide +kernel, (guarded_covered_iff sampleManifest fileContent sampleMainMd sampleDiff
    hdrift hhits).mpr ?_⟩
  rw [rows_fileContent]
  decide +kernel

/-- Neither guard reports, and the guarded file is covered by a `Mechanical` row only. -/
theorem directory_row_unchecked :
    NoInboundDrift directoryContent sampleMainMd sampleDiff ∧
      checkMainMd directoryContent sampleManifest = [] ∧
      ¬ ∀ path ∈ guardedPaths sampleManifest sampleDiff sampleMainMd,
        ∃ row ∈ classificationRows directoryContent,
          row.Covers path ∧ row.FitFor sampleManifest path := by
  unfold NoInboundDrift parsePlanPaths checkMainMd
  rw [rows_directoryContent]
  decide +kernel

end DarkTower.Guard
