import DarkTower.Guard.CodePlaces
import DarkTower.Lib.Nesting

/-!
# Rules for test code (`dt-guard/src/test_rigidity.rs`)

`scan_file` tries six rules on each line of a test file. The second one, on `"Warning` strings,
leaves the iteration when the string is excused, and the rules behind it are not tried any more.

* `reported_iff`: when a rule is reported for a line.
* `independent_iff`: the rules are independent in a file iff no line with an excused string
  meets the condition of a rule behind the second one.
-/

namespace DarkTower.Guard.TestRigidity

open DarkTower.Lib
open TestCode (Line)

/-! ## The source -/

/-- The rules (test_rigidity.rs). -/
inductive Rule
  | earlyReturn
  | warningAsAssert
  | aspirational
  | multiStatus
  | assertFreeArm
  | placeholderStub
deriving DecidableEq

/-- The constants `*_RULE_ID`. -/
def Rule.id : Rule → List Char
  | earlyReturn => "early_return".toList
  | warningAsAssert => "warning_as_assertion".toList
  | aspirational => "aspirational_non_enforcement".toList
  | multiStatus => "multi_status_acceptance".toList
  | assertFreeArm => "assertion_free_match_arm".toList
  | placeholderStub => "placeholder_stub".toList

/-- `Hit` (test_rigidity.rs:78). -/
structure Hit where
  ruleId : List Char
  detail : List Char
  file : List Char
  line : ℕ
deriving DecidableEq

/-- A letter that `(?i)` matches with a small one. -/
def foldsTo (c small : Char) : Bool :=
  c.toLower = small || small = 's' && c = Char.ofNat 0x17f || small = 'k' && c = Char.ofNat 0x212a

/-- What follows a text that is matched with these small letters. -/
def stripFolded : List Char → List Char → Option (List Char)
  | [], cs => some cs
  | _ :: _, [] => none
  | small :: smalls, c :: cs => if foldsTo c small then stripFolded smalls cs else none

/-- `ASPIRATIONAL_RE`:
    `(?i)(Don.?t fail|aspirational|future enhancement|not a hard failure)`. -/
def isAspirational (line : Line) : Bool :=
  line.tails.any fun cs =>
    ((stripFolded "don".toList cs).any fun rest =>
      (stripFolded "t fail".toList rest).isSome ||
        rest ≠ [] && (stripFolded "t fail".toList rest.tail).isSome) ||
    ["aspirational", "future enhancement", "not a hard failure"].any fun words =>
      (stripFolded words.toList cs).isSome

/-- What follows `\s*[0-9]{3}`. -/
def stripStatus (cs : List Char) : Option (List Char) :=
  match Text.trimStart cs with
  | a :: b :: c :: rest => if a.isDigit && b.isDigit && c.isDigit then some rest else none
  | _ => none

/-- `MULTI_STATUS_RE`: `==\s*[0-9]{3}.*\|\|`. -/
def isMultiStatus (line : Line) : Bool :=
  line.tails.any fun cs =>
    ((Text.stripPrefix cs "==".toList).bind stripStatus).any (Text.contains · "||".toList)

/-- `\s*=>\s*\{`. -/
def opensArm (cs : List Char) : Bool :=
  (Text.stripPrefix (Text.trimStart cs) "=>".toList).any fun rest =>
    (Text.trimStart rest).head? = some '\x7b'

/-- `.*\)\s*=>\s*\{`. -/
def closesPattern (cs : List Char) : Bool :=
  cs.tails.any fun rest => rest.head? = some ')' && opensArm rest.tail

/-- `NUMERIC_ARM_RE`: `^\s*[0-9]{3}\s*=>\s*\{`. -/
def isNumericArm (line : Line) : Bool := (stripStatus line).any opensArm

/-- `OK_ARM_RE`: `^\s*Ok\(.*\)\s*=>\s*\{`. -/
def isOkArm (line : Line) : Bool :=
  (Text.stripPrefix (Text.trimStart line) "Ok(".toList).any closesPattern

/-- `ERR_STATUS_ARM_RE`: `^\s*Err\(.*status:\s*[0-9]{3}.*\)\s*=>\s*\{`. -/
def isErrStatusArm (line : Line) : Bool :=
  (Text.stripPrefix (Text.trimStart line) "Err(".toList).any fun cs =>
    cs.tails.any fun rest =>
      ((Text.stripPrefix rest "status:".toList).bind stripStatus).any closesPattern

/-- `is_arm` with `kind`. -/
def armKind (line : Line) : Option (List Char) :=
  if isNumericArm line then some "5a_numeric".toList
  else if isOkArm line then some "5b_ok".toList
  else if isErrStatusArm line then some "5c_err_status".toList
  else none

/-- `is_bare_return` (test_rigidity.rs:91). -/
def isBareReturn (line : Line) : Bool := Text.trim line = "return;".toList

/-- `contains("assert") || contains("panic!")`. -/
def enforces (line : Line) : Bool :=
  Text.contains line "assert".toList || Text.contains line "panic!".toList

/-- The loop of `arm_has_enforcement`, `depth` and `line_count` being those before these lines.
    The depth of the source is an `i32`, which no file of less than 2 GiB overflows. -/
def enforcementFrom (depth : ℤ) (lineCount : ℕ) : List Line → Bool
  | [] => false
  | line :: lines =>
    let depth := line.foldl (fun depth c => depth + Nesting.delta '\x7b' '\x7d' c) depth
    enforces line ||
      if depth ≤ 0 ∨ lineCount + 1 > 30 then false else enforcementFrom depth (lineCount + 1) lines

/-- `arm_has_enforcement` (test_rigidity.rs:102). -/
def armHasEnforcement (lines : List Line) (startLine : ℕ) : Bool :=
  enforcementFrom 0 0 (lines.drop startLine)

/-- `lines[idx.saturating_sub(n)..idx]`. -/
def linesBefore (lines : List Line) (idx n : ℕ) : List Line := (lines.take idx).drop (idx - n)

/-- `triggered` of check 1. -/
def earlyReturn (lines : List Line) (idx : ℕ) (line : Line) : Option (List Char) :=
  if !isBareReturn line then none
  else if (linesBefore lines idx 3).any fun prior =>
      Text.contains prior "println!(\"SKIPPED".toList ||
        Text.contains prior "eprintln!(\"Warning".toList ||
        Text.contains prior "eprintln!(\"Skipping".toList then
    some "return; after SKIPPED/Warning/Skipping message".toList
  else if (linesBefore lines idx 4).any fun prior =>
      Text.contains prior "is_".toList && Text.contains prior "_available".toList then
    some "return; after service-availability check".toList
  else none

/-- The condition of check 2. -/
def isWarning (line : Line) : Bool :=
  !isCommentLine line && Text.contains line "\"Warning".toList

/-- `nearby_return`. -/
def nearbyReturn (lines : List Line) (idx : ℕ) : Bool :=
  ((lines.drop idx).take 5).any (Text.contains · "return;".toList)

/-- `preceding_enforcement`. -/
def precedingEnforcement (lines : List Line) (idx : ℕ) : Bool :=
  (linesBefore lines idx 15).any enforces

/-- `preceding_ignore`. -/
def precedingIgnore (lines : List Line) (idx : ℕ) : Bool :=
  (linesBefore lines idx 15).any (Text.contains · "#[ignore".toList)

/-- Checks 3 to 6 of a line. -/
def laterChecks (file : List Char) (lines : List Line) (idx : ℕ) (line : Line) : List Hit :=
  (if !isCommentLine line && isAspirational line then
    [⟨Rule.aspirational.id, "aspirational non-enforcement string in executable code".toList, file,
      idx + 1⟩] else []) ++
  (if !isCommentLine line && isMultiStatus line then
    [⟨Rule.multiStatus.id, "multi-status `== NNN || ...` acceptance".toList, file, idx + 1⟩]
    else []) ++
  (match armKind line with
    | some kind =>
      if armHasEnforcement lines idx then []
      else
        [⟨Rule.assertFreeArm.id, "assertion-free match arm (".toList ++ kind ++ [')'], file,
          idx + 1⟩]
    | none => []) ++
  if Text.contains line "unimplemented!".toList && !isCommentLine line then
    if precedingIgnore lines idx then []
    else
      [⟨Rule.placeholderStub.id, "unimplemented!() stub without #[ignore]".toList, file, idx + 1⟩]
  else []

/-- What one iteration of `scan_file` reports. -/
def scanLine (file : List Char) (lines : List Line) (line : Line) (idx : ℕ) : List Hit :=
  ((earlyReturn lines idx line).map fun detail =>
    ⟨Rule.earlyReturn.id, detail, file, idx + 1⟩).toList ++
  if isWarning line then
    if nearbyReturn lines idx then []
    else if precedingEnforcement lines idx then []
    else
      ⟨Rule.warningAsAssert.id,
        "\"Warning\" string used in executable code (no preceding assert)".toList, file,
        idx + 1⟩ :: laterChecks file lines idx line
  else laterChecks file lines idx line

/-- `scan_file` (test_rigidity.rs:129). -/
def scanFile (file content : List Char) : List Hit :=
  (Text.lines content).zipIdx.flatMap fun x => scanLine file (Text.lines content) x.1 x.2

/-! ## Rules -/

/-- The condition of a rule, with its own exceptions. -/
def Rule.Holds (lines : List Line) (idx : ℕ) (line : Line) : Rule → Prop
  | earlyReturn => TestRigidity.earlyReturn lines idx line ≠ none
  | warningAsAssert => isWarning line = true ∧ nearbyReturn lines idx = false ∧
      precedingEnforcement lines idx = false
  | aspirational => isCommentLine line = false ∧ isAspirational line = true
  | multiStatus => isCommentLine line = false ∧ isMultiStatus line = true
  | assertFreeArm => armKind line ≠ none ∧ armHasEnforcement lines idx = false
  | placeholderStub => Text.contains line "unimplemented!".toList = true ∧
      isCommentLine line = false ∧ precedingIgnore lines idx = false

/-- The rule is reported for the line with index `idx`. -/
def Reported (file content : List Char) (idx : ℕ) (rule : Rule) : Prop :=
  ∃ hit ∈ scanFile file content, hit.ruleId = rule.id ∧ hit.line = idx + 1

/-- Every rule is reported for exactly the lines that meet its condition. -/
def RulesIndependent (file content : List Char) : Prop :=
  ∀ idx line, (Text.lines content)[idx]? = some line →
    ∀ rule : Rule, Reported file content idx rule ↔ rule.Holds (Text.lines content) idx line

/-- Behind the second rule. -/
def Rule.IsLater : Rule → Prop
  | earlyReturn | warningAsAssert => False
  | aspirational | multiStatus | assertFreeArm | placeholderStub => True

/-- A `"Warning` string that check 2 does not report. -/
def Excused (lines : List Line) (idx : ℕ) (line : Line) : Prop :=
  isWarning line = true ∧
    (nearbyReturn lines idx = true ∨ precedingEnforcement lines idx = true)

/-! ## What is reported -/

variable {file content : List Char} {lines : List Line} {line : Line} {idx : ℕ} {rule : Rule}
  {hit : Hit}

theorem Rule.id_inj {r s : Rule} : r.id = s.id ↔ r = s := by
  constructor
  · intro h
    cases r <;> cases s <;> first | rfl | exact absurd h (by decide)
  · exact congrArg Rule.id

/-- A check that reports at most one hit. -/
theorem exists_mem_ite_iff {p : Prop} [Decidable p] {r : Rule} {detail : List Char} :
    (∃ hit ∈ if p then [(⟨r.id, detail, file, idx + 1⟩ : Hit)] else [], hit.ruleId = rule.id) ↔
      r = rule ∧ p := by
  split_ifs with h
  · rw [List.exists_mem_cons_iff]
    simp [Rule.id_inj, h]
  · simp [h]

theorem line_of_mem_ite {p : Prop} [Decidable p] {id detail : List Char}
    (h : hit ∈ if p then [(⟨id, detail, file, idx + 1⟩ : Hit)] else []) : hit.line = idx + 1 := by
  split_ifs at h
  · rw [List.mem_singleton.mp h]
  · cases h

theorem exists_mem_append_iff {hits hits' : List Hit} :
    (∃ hit ∈ hits ++ hits', hit.ruleId = rule.id) ↔
      (∃ hit ∈ hits, hit.ruleId = rule.id) ∨ ∃ hit ∈ hits', hit.ruleId = rule.id := by
  simp only [List.mem_append, or_and_right, exists_or]

theorem exists_mem_laterChecks_iff :
    (∃ hit ∈ laterChecks file lines idx line, hit.ruleId = rule.id) ↔
      rule.IsLater ∧ rule.Holds lines idx line := by
  have harm : (∃ hit ∈ (match armKind line with
      | some kind =>
        if armHasEnforcement lines idx then []
        else [(⟨Rule.assertFreeArm.id, "assertion-free match arm (".toList ++ kind ++ [')'], file,
          idx + 1⟩ : Hit)]
      | none => []), hit.ruleId = rule.id) ↔
        Rule.assertFreeArm = rule ∧ armKind line ≠ none ∧ armHasEnforcement lines idx = false := by
    cases armKind line with
    | none => simp
    | some kind =>
      cases armHasEnforcement lines idx with
      | false => simp [Rule.id_inj]
      | true => simp
  have hstub : (∃ hit ∈ (if Text.contains line "unimplemented!".toList && !isCommentLine line then
      if precedingIgnore lines idx then []
      else
        [(⟨Rule.placeholderStub.id, "unimplemented!() stub without #[ignore]".toList, file,
          idx + 1⟩ : Hit)]
      else []), hit.ruleId = rule.id) ↔ Rule.placeholderStub = rule ∧
        Text.contains line "unimplemented!".toList = true ∧ isCommentLine line = false ∧
          precedingIgnore lines idx = false := by
    cases precedingIgnore lines idx with
    | false =>
      refine exists_mem_ite_iff.trans (and_congr_right fun _ => ?_)
      rw [Bool.and_eq_true, Bool.not_eq_true']
      exact and_congr_right fun _ => (and_iff_left rfl).symm
    | true =>
      rw [if_pos rfl, ite_self]
      exact iff_of_false (fun ⟨_, hmem, _⟩ => List.not_mem_nil hmem)
        fun h => Bool.noConfusion h.2.2.2
  unfold laterChecks
  rw [exists_mem_append_iff, exists_mem_append_iff, exists_mem_append_iff, exists_mem_ite_iff,
    exists_mem_ite_iff, harm, hstub]
  cases rule <;> simp only [Rule.IsLater, Rule.Holds, reduceCtorEq, false_and, true_and, false_or,
    or_false, Bool.and_eq_true, Bool.not_eq_true']

theorem exists_mem_scanLine_iff (file : List Char) :
    (∃ hit ∈ scanLine file lines line idx, hit.ruleId = rule.id) ↔
      rule.Holds lines idx line ∧ ¬(Excused lines idx line ∧ rule.IsLater) := by
  have hearly : (∃ hit ∈ ((earlyReturn lines idx line).map fun detail =>
      (⟨Rule.earlyReturn.id, detail, file, idx + 1⟩ : Hit)).toList, hit.ruleId = rule.id) ↔
        Rule.earlyReturn = rule ∧ earlyReturn lines idx line ≠ none := by
    cases earlyReturn lines idx line with
    | none => simp
    | some detail => simp [Rule.id_inj]
  unfold scanLine
  rw [exists_mem_append_iff, hearly]
  by_cases hwarning : isWarning line = true
  · rw [if_pos hwarning]
    by_cases hreturn : nearbyReturn lines idx = true
    · have hexcused : Excused lines idx line := ⟨hwarning, .inl hreturn⟩
      rw [if_pos hreturn]
      cases rule <;> simp only [Rule.IsLater, Rule.Holds, hexcused, hreturn, reduceCtorEq,
        false_and, true_and, and_false, and_true, not_true, not_false_iff, or_false,
        List.not_mem_nil, exists_false, Bool.true_eq_false]
    rw [if_neg hreturn]
    by_cases henforced : precedingEnforcement lines idx = true
    · have hexcused : Excused lines idx line := ⟨hwarning, .inr henforced⟩
      rw [if_pos henforced]
      cases rule <;> simp only [Rule.IsLater, Rule.Holds, hexcused, henforced, reduceCtorEq,
        false_and, true_and, and_false, and_true, not_true, not_false_iff, or_false,
        List.not_mem_nil, exists_false, Bool.true_eq_false]
    · have hexcused : ¬Excused lines idx line := fun h => h.2.elim hreturn henforced
      rw [if_neg henforced, List.exists_mem_cons_iff, exists_mem_laterChecks_iff]
      rw [Bool.not_eq_true] at hreturn henforced
      cases rule <;> simp only [Rule.IsLater, Rule.Holds, hexcused, hwarning, hreturn, henforced,
        Rule.id_inj, reduceCtorEq, false_and, true_and, and_true, not_false_iff, false_or, or_false]
  · have hexcused : ¬Excused lines idx line := fun h => hwarning h.1
    rw [if_neg hwarning, exists_mem_laterChecks_iff]
    cases rule <;> simp only [Rule.IsLater, Rule.Holds, hexcused, hwarning, reduceCtorEq, false_and,
      true_and, and_true, not_false_iff, false_or, or_false, Bool.false_eq_true]

theorem line_of_mem_laterChecks (h : hit ∈ laterChecks file lines idx line) :
    hit.line = idx + 1 := by
  unfold laterChecks at h
  obtain h | h := List.mem_append.mp h
  · obtain h | h := List.mem_append.mp h
    · obtain h | h := List.mem_append.mp h
      · exact line_of_mem_ite h
      · exact line_of_mem_ite h
    · split at h
      · rw [← ite_not] at h
        exact line_of_mem_ite h
      · cases h
  · split_ifs at h
    · cases h
    · rw [List.mem_singleton.mp h]
    · cases h

theorem line_of_mem_scanLine (h : hit ∈ scanLine file lines line idx) : hit.line = idx + 1 := by
  unfold scanLine at h
  obtain h | h := List.mem_append.mp h
  · obtain ⟨detail, -, rfl⟩ := Option.map_eq_some_iff.mp (Option.mem_toList.mp h)
    rfl
  · split_ifs at h
    · cases h
    · cases h
    · obtain rfl | h := List.mem_cons.mp h
      · rfl
      · exact line_of_mem_laterChecks h
    · exact line_of_mem_laterChecks h

/-- A rule is reported iff its condition is met and the string of the line, if it is one for the
    second rule, is not excused before the rule is tried. -/
theorem reported_iff (hline : (Text.lines content)[idx]? = some line) :
    Reported file content idx rule ↔ rule.Holds (Text.lines content) idx line ∧
      ¬(Excused (Text.lines content) idx line ∧ rule.IsLater) := by
  refine Iff.trans ?_ (exists_mem_scanLine_iff file)
  unfold Reported scanFile
  rw [Text.exists_mem_scan_iff fun _ _ hmem => line_of_mem_scanLine hmem]
  constructor
  · rintro ⟨l, hl, hhit⟩
    rw [hline] at hl
    rw [Option.some.inj hl]
    exact hhit
  · exact fun hhit => ⟨line, hline, hhit⟩

/-- The rules are independent iff no line with an excused string meets the condition of a rule
    behind the second one. -/
theorem independent_iff : RulesIndependent file content ↔
    ∀ idx line, (Text.lines content)[idx]? = some line → Excused (Text.lines content) idx line →
      ∀ rule : Rule, rule.IsLater → ¬rule.Holds (Text.lines content) idx line := by
  refine forall_congr' fun idx => forall_congr' fun line => forall_congr' fun hline => ?_
  simp only [reported_iff hline, and_iff_left_iff_imp, not_and]
  constructor
  · intro h hexcused rule hlater hholds
    exact h rule hholds hexcused hlater
  · intro h rule hholds hexcused hlater
    exact h hexcused rule hlater hholds

end DarkTower.Guard.TestRigidity
