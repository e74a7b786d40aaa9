import DarkTower.Guard.CodePlaces

/-!
# `#[instrument]` attributes (`dt-guard/src/instrument_skip_all.rs`)

Check 1 reports an attribute with `skip(` that has no `skip_all`. It looks for `skip(` on the
first line of the attribute, and for `skip_all` on four lines from there on, wherever the
attribute ends.

* `judged_iff`: an attribute is judged by its own text iff these lines show what it has
  (`SeenOnLines`).
* `neighbour_hides_skip`: an attribute that is let pass because of the next function's.
-/

namespace DarkTower.Guard.InstrumentSkipAll

open DarkTower.Lib
open RustTokens (Token Balanced)
open TestCode (Line spell computeTestBlockRanges isLineInTestBlock)

/-! ## The source -/

/-- `SKIP_NOT_ALL_RULE_ID`. -/
def skipNotAllRuleId : List Char := "skip_not_all".toList

/-- `SENSITIVE_PARAM_NO_SKIP_ALL_RULE_ID`. -/
def sensitiveParamNoSkipAllRuleId : List Char := "sensitive_param_no_skip_all".toList

/-- `sensitive_param_in_window` (instrument_skip_all.rs:74). -/
def sensitiveParamInWindow (wide : Char → Bool) (lines : List Line) (start window : ℕ) :
    Option (List Char) :=
  ((lines.drop start).take window).findSome? (secretWord wide)

/-- `skip_all_in_window` (instrument_skip_all.rs:88). -/
def skipAllInWindow (lines : List Line) (start window : ℕ) : Bool :=
  ((lines.drop start).take window).any (Text.contains · "skip_all".toList)

/-- `Hit` (instrument_skip_all.rs:98). -/
structure Hit where
  ruleId : List Char
  patternName : List Char
  file : List Char
  line : ℕ
deriving DecidableEq

/-- What `scan_file` makes of the line with index `idx`. -/
def scanLine (wide : Char → Bool) (path : List Char) (lines : List Line) (ranges : List (ℕ × ℕ))
    (line : Line) (idx : ℕ) : List Hit :=
  if isCommentLine line then []
  else if isLineInTestBlock ranges (idx + 1) then []
  else if !Text.contains line "#[instrument".toList then []
  else
    (if Text.contains line "skip(".toList && !skipAllInWindow lines idx 4 then
      [⟨skipNotAllRuleId, "skip_denylist".toList, path, idx + 1⟩] else []) ++
    if !skipAllInWindow lines idx 4 then
      ((sensitiveParamInWindow wide lines idx 9).map fun token =>
        ⟨sensitiveParamNoSkipAllRuleId, token, path, idx + 1⟩).toList
    else []

/-- `scan_file` (instrument_skip_all.rs:105). -/
def scanFile (wide : Char → Bool) (path content : List Char) : List Hit :=
  let lines := Text.lines content
  lines.zipIdx.flatMap fun x =>
    scanLine wide path lines (computeTestBlockRanges content) x.1 x.2

/-! ## Attributes -/

/-- `#[instrument(…)]`. -/
structure Attribute where
  gap : List Token
  args : List Token
  gap' : List Token
  gap_isGap : ∀ t ∈ gap, t.IsGap
  gap'_isGap : ∀ t ∈ gap', t.IsGap
  balanced : Balanced args

namespace Attribute

variable (attr : Attribute)

/-- What stands between `instrument` and the bracket. -/
def inside : List Token :=
  attr.gap ++ .opening .paren :: (attr.args ++ .closing .paren :: attr.gap')

/-- The tokens of the attribute. -/
def tokens : List Token := spell "#[instrument" ++ (attr.inside ++ [.closing .bracket])

/-- The text of the attribute. -/
def text : List Char := RustTokens.text attr.tokens

/-- It skips some arguments, and not all. -/
def Denylists : Prop := "skip(".toList <:+: attr.text ∧ ¬"skip_all".toList <:+: attr.text

end Attribute

variable {wide : Char → Bool} {path : List Char} {attr : Attribute}

/-- What check 1 reports for an attribute at this place. -/
def flag (path : List Char) (place : CodePlace attr.tokens) : Hit :=
  ⟨skipNotAllRuleId, "skip_denylist".toList, path, place.lineIndex + 1⟩

/-- The attribute is judged by its own text. -/
def Judged (wide : Char → Bool) (path : List Char) (place : CodePlace attr.tokens) : Prop :=
  flag path place ∈ scanFile wide path place.content ↔ attr.Denylists

/-- The lines that the guard reads show what the attribute has. -/
structure SeenOnLines (place : CodePlace attr.tokens) : Prop where
  /-- Where it should be reported, the line is not passed over, `skip(` is on that line, and
      `skip_all` is not beside the attribute. -/
  denylist : attr.Denylists → ¬place.PassedOver ∧
    ("skip(".toList <:+: Text.firstLines 1 attr.text ∨ place.Beside 1 "skip(".toList) ∧
    ¬place.Beside 4 "skip_all".toList
  /-- Where it should not, the line is passed over, has no `skip(`, or `skip_all` is seen. -/
  allowlist : ¬attr.Denylists → place.PassedOver ∨
    ¬("skip(".toList <:+: Text.firstLines 1 attr.text ∨ place.Beside 1 "skip(".toList) ∨
    "skip_all".toList <:+: Text.firstLines 4 attr.text ∨ place.Beside 4 "skip_all".toList

/-! ## What is reported -/

theorem Attribute.text_eq (attr : Attribute) : attr.text =
    '#' :: ("[instrument".toList ++ RustTokens.text attr.inside ++ [']']) := by
  unfold text tokens
  rw [RustTokens.text_append, RustTokens.text_append]
  rfl

theorem line_of_mem_scanLine {lines : List Line} {ranges : List (ℕ × ℕ)} {line : Line} {idx : ℕ}
    {hit : Hit} (h : hit ∈ scanLine wide path lines ranges line idx) : hit.line = idx + 1 := by
  unfold scanLine at h
  split_ifs at h with _ _ _ _ _ _
  all_goals simp only [List.mem_append, List.mem_singleton, List.not_mem_nil, or_false, false_or,
    Option.mem_toList, Option.map_eq_some_iff] at h
  · obtain rfl | ⟨_, -, rfl⟩ := h <;> rfl
  · rw [h]
  · obtain ⟨_, -, rfl⟩ := h
    rfl

theorem flag_mem_scanLine_iff {place : CodePlace attr.tokens} {lines : List Line}
    {ranges : List (ℕ × ℕ)} {line : Line} :
    flag path place ∈ scanLine wide path lines ranges line place.lineIndex ↔
      isCommentLine line = false ∧ isLineInTestBlock ranges (place.lineIndex + 1) = false ∧
        "#[instrument".toList <:+: line ∧ "skip(".toList <:+: line ∧
        skipAllInWindow lines place.lineIndex 4 = false := by
  -- check 2 has another rule
  have hother (token? : Option (List Char)) : flag path place ∉
      (token?.map fun token => (⟨sensitiveParamNoSkipAllRuleId, token, path,
        place.lineIndex + 1⟩ : Hit)).toList := by
    intro hmem
    obtain ⟨token, -, heq⟩ := Option.map_eq_some_iff.mp (Option.mem_toList.mp hmem)
    have hne : sensitiveParamNoSkipAllRuleId ≠ skipNotAllRuleId := by decide +kernel
    exact hne (congrArg Hit.ruleId heq)
  rw [← Text.contains_iff, ← Text.contains_iff]
  unfold scanLine
  split_ifs with hcomment htest hattr hskip hall hall
  all_goals simp_all [flag]

/-- A word is on the first lines of an attribute iff it is on its own or beside it. -/
theorem on_lines_iff (place : CodePlace attr.tokens) {n : ℕ} {word : List Char} (hn : 0 < n)
    (hne : word ≠ []) (hword : ∀ c ∈ ['\n', '\r', '#', ']'], c ∉ word) :
    (∃ line ∈ ((Text.lines place.content).drop place.lineIndex).take n, word <:+: line) ↔
      word <:+: Text.firstLines n attr.text ∨ place.Beside n word :=
  place.exists_mem_take_lines_iff hn hne hword attr.text_eq

theorem skipAllInWindow_iff (place : CodePlace attr.tokens) :
    skipAllInWindow (Text.lines place.content) place.lineIndex 4 = true ↔
      "skip_all".toList <:+: Text.firstLines 4 attr.text ∨ place.Beside 4 "skip_all".toList := by
  rw [← on_lines_iff place (by decide) (by decide) (by decide)]
  unfold skipAllInWindow
  rw [List.any_eq_true]
  simp only [Text.contains_iff]

/-- The opening of the attribute is on its first line. -/
theorem opening_on_first_line (attr : Attribute) :
    "#[instrument".toList <:+: Text.firstLines 1 attr.text := by
  have htext : attr.text =
      "#[instrument".toList ++ (RustTokens.text attr.inside ++ [']']) := by
    rw [attr.text_eq]
    rfl
  rw [htext, Text.firstLines_append, if_pos (by decide)]
  exact (List.prefix_append _ _).isInfix

theorem flag_mem_scanFile_iff (place : CodePlace attr.tokens) :
    flag path place ∈ scanFile wide path place.content ↔ ¬place.PassedOver ∧
      ("skip(".toList <:+: Text.firstLines 1 attr.text ∨ place.Beside 1 "skip(".toList) ∧
      ¬("skip_all".toList <:+: Text.firstLines 4 attr.text ∨ place.Beside 4 "skip_all".toList) := by
  have htext : attr.text ≠ [] := by
    rw [attr.text_eq]
    exact List.cons_ne_nil _ _
  obtain ⟨line, hline, hfirst⟩ := place.exists_line htext
  have hon {word : List Char} : (∃ l ∈ ((Text.lines place.content).drop place.lineIndex).take 1,
      word <:+: l) ↔ word <:+: line := by
    rw [hfirst]
    simp
  have hmark : "#[instrument".toList <:+: line :=
    hon.mp (place.exists_mem_take_lines Nat.one_pos (by decide) (by decide) (by decide)
      (opening_on_first_line attr))
  have hscan : flag path place ∈ scanFile wide path place.content ↔ flag path place ∈
      scanLine wide path (Text.lines place.content) (computeTestBlockRanges place.content) line
        place.lineIndex := by
    have hflag : flag path place ∈ scanFile wide path place.content ↔
        ∃ hit ∈ scanFile wide path place.content,
          hit = flag path place ∧ hit.line = place.lineIndex + 1 := by
      constructor
      · exact fun hmem => ⟨_, hmem, rfl, rfl⟩
      · rintro ⟨hit, hmem, rfl, -⟩
        exact hmem
    rw [hflag]
    unfold scanFile
    rw [Text.exists_mem_scan_iff fun _ _ hmem => line_of_mem_scanLine hmem, hline]
    simp
  rw [hscan, flag_mem_scanLine_iff, place.passedOver_iff hline, not_or, Bool.not_eq_true,
    Bool.not_eq_true, ← skipAllInWindow_iff, Bool.not_eq_true,
    ← on_lines_iff place Nat.one_pos (by decide) (by decide), hon, and_assoc]
  exact and_congr_right fun _ => and_congr_right fun _ => and_iff_right hmark

/-- An attribute is judged by its own text iff the lines that the guard reads show what it
    has. -/
theorem judged_iff (wide : Char → Bool) (path : List Char) (place : CodePlace attr.tokens) :
    Judged wide path place ↔ SeenOnLines place := by
  unfold Judged
  rw [flag_mem_scanFile_iff]
  constructor
  · intro h
    refine ⟨fun hdeny => ?_, fun hallow => ?_⟩
    · obtain ⟨hpassed, hskip, hall⟩ := h.mpr hdeny
      exact ⟨hpassed, hskip, fun hbeside => hall (.inr hbeside)⟩
    · by_contra hnone
      rw [not_or, not_or, not_not] at hnone
      exact hallow (h.mp hnone)
  · rintro ⟨hdenylist, hallowlist⟩
    constructor
    · rintro ⟨hpassed, hskip, hall⟩
      by_contra hallow
      obtain h | h | h := hallowlist hallow
      · exact hpassed h
      · exact h hskip
      · exact hall h
    · intro hdeny
      obtain ⟨hpassed, hskip, hbeside⟩ := hdenylist hdeny
      refine ⟨hpassed, hskip, fun hall => ?_⟩
      -- the attribute's own lines have no `skip_all`
      obtain hown | hall := hall
      · exact hdeny.2 (hown.trans (Text.firstLines_isPrefix 4 attr.text).isInfix)
      · exact hbeside hall

/-- `#[instrument(skip(x))]`. -/
def skipX : Attribute where
  gap := []
  args := spell "skip(x)"
  gap' := []
  gap_isGap := List.forall_mem_nil _
  gap'_isGap := List.forall_mem_nil _
  balanced := by decide +kernel

/-- The attribute before a short function. -/
def alone : CodePlace skipX.tokens where
  src :=
    { segments := [.code (skipX.tokens ++ spell "\nfn a() \x7b\x7d\n")]
      lexes := by decide +kernel
      balanced := by decide +kernel
      formed := List.forall_mem_singleton.mpr (formed_code_of_not_cfg (by decide +kernel)) }
  content := "#[instrument(skip(x))]\nfn a() \x7b\x7d\n".toList
  before := []
  front := []
  back := spell "\nfn a() \x7b\x7d\n"
  after := []
  segments_eq := rfl
  isText := by
    show Text.lines _ = Text.lines _
    decide +kernel

/-- With another function behind it. -/
def withNext : CodePlace skipX.tokens where
  src :=
    { segments := [.code (skipX.tokens ++
        spell "\nfn a() \x7b\x7d\n#[instrument(skip_all)]\nfn b() \x7b\x7d\n")]
      lexes := by decide +kernel
      balanced := by decide +kernel
      formed := List.forall_mem_singleton.mpr (formed_code_of_not_cfg (by decide +kernel)) }
  content :=
    "#[instrument(skip(x))]\nfn a() \x7b\x7d\n#[instrument(skip_all)]\nfn b() \x7b\x7d\n".toList
  before := []
  front := []
  back := spell "\nfn a() \x7b\x7d\n#[instrument(skip_all)]\nfn b() \x7b\x7d\n"
  after := []
  segments_eq := rfl
  isText := by
    show Text.lines _ = Text.lines _
    decide +kernel

/-- The `skip_all` of the next function takes the report away. -/
theorem neighbour_hides_skip : skipX.Denylists ∧ ∀ (wide : Char → Bool) (path : List Char),
    flag path alone ∈ scanFile wide path alone.content ∧
      flag path withNext ∉ scanFile wide path withNext.content ∧ ¬Judged wide path withNext := by
  have hdeny : skipX.Denylists := by
    unfold Attribute.Denylists
    decide +kernel
  have hline : (Text.lines alone.content)[alone.lineIndex]? = some skipX.text := by decide +kernel
  have hpassed : ¬alone.PassedOver := by
    rw [alone.passedOver_iff hline]
    decide +kernel
  have hskip : "skip(".toList <:+: Text.firstLines 1 skipX.text := by decide +kernel
  have hall : ¬("skip_all".toList <:+: Text.firstLines 4 skipX.text ∨
      alone.Beside 4 "skip_all".toList) := by
    unfold CodePlace.Beside
    decide +kernel
  have hbeside : withNext.Beside 4 "skip_all".toList := by
    unfold CodePlace.Beside
    decide +kernel
  refine ⟨hdeny, fun wide path => ?_⟩
  have hmissed : flag path withNext ∉ scanFile wide path withNext.content := fun hflag =>
    ((flag_mem_scanFile_iff withNext).mp hflag).2.2 (.inr hbeside)
  refine ⟨(flag_mem_scanFile_iff alone).mpr ⟨hpassed, .inl hskip, hall⟩, hmissed, fun hjudged => ?_⟩
  exact hmissed (hjudged.mpr hdeny)

end DarkTower.Guard.InstrumentSkipAll
