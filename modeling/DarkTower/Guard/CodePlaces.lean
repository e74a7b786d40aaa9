import DarkTower.Guard.PiiVocabulary
import DarkTower.Guard.TestItems
import DarkTower.Lib.Lines
import DarkTower.Lib.Pattern
import DarkTower.Lib.Words

/-!
# Places in the code of a Rust source

A `CodePlace` is a stretch of tokens of a source outside of comments and test items, in a file
with these lines. The guards that scan a file line by line
(`dt-guard/src/instrument_skip_all.rs`, `dt-guard/src/rust_log_secrets.rs`) see only the lines
on which it stands.

* `CodePlace.drop_lines`: the lines from the first one of the place on.
* `CodePlace.exists_mem_take_lines_iff`: what is on the first of these lines.
-/

namespace DarkTower.Guard

open DarkTower.Lib
open RustTokens (Token)
open TestCode (Line Segment Source spell computeTestBlockRanges isLineInTestBlock)

/-- `is_comment_line` (instrument_skip_all.rs:66, rust_log_secrets.rs:146, test_rigidity.rs:85). -/
def isCommentLine (line : Line) : Bool :=
  let stripped := Text.trimStart line
  "//".toList.isPrefixOf stripped || "/*".toList.isPrefixOf stripped ||
    "*".toList.isPrefixOf stripped

/-- What `SECRET_WORD_RE` finds first: with a word boundary on both sides, its words can only be
    longest runs of word characters. -/
def secretWord (wide : Char → Bool) (line : Line) : Option (List Char) :=
  (Words.words (Pattern.isWord wide) line).find? (· ∈ piiTokensCategoryA)

/-- The tokens stand in code of a source. -/
structure CodePlace (tokens : List Token) where
  src : Source
  content : List Char
  before : List Segment
  front : List Token
  back : List Token
  after : List Segment
  segments_eq : src.segments = before ++ .code (front ++ (tokens ++ back)) :: after
  isText : src.IsText content

/-- Code in which no `cfg` has a parenthesis has no test attributes. -/
theorem formed_code_of_not_cfg {ts : List Token}
    (h : ¬spell "cfg(" <:+: ts.filter fun t => ¬t.IsGap) : (Segment.code ts).Formed := by
  have hno {attr : List Token} {start : String} (hattr : attr <:+: ts) :
      ¬TestCode.IsCfgTest start attr := by
    rintro ⟨-, p, -, hfilter⟩
    refine h (List.IsInfix.trans ?_ (hattr.filter _))
    rw [hfilter, List.append_assoc, List.append_assoc]
    exact List.infix_append' _ _ _
  exact fun attr hattr => ⟨hno hattr, hno hattr⟩

namespace CodePlace

variable {tokens : List Token} (place : CodePlace tokens)

/-- The text in front of the tokens. -/
def textBefore : List Char :=
  RustTokens.text (place.before.flatMap Segment.tokens ++ place.front)

/-- The text behind the tokens. -/
def textBehind : List Char :=
  RustTokens.text (place.back ++ place.after.flatMap Segment.tokens)

/-- The index of the line on which the tokens start. -/
def lineIndex : ℕ := place.textBefore.count '\n'

/-- What stands in front of the tokens on their first line. -/
def lead : Line := Text.lastLine place.textBefore

/-- What stands behind the tokens on the first `n` lines from theirs on. -/
def behind (n : ℕ) : List Char :=
  let ends := (RustTokens.text tokens).count '\n'
  if ends < n then Text.firstLines (n - ends) place.textBehind else []

/-- The word is on the first `n` lines of the tokens, but not in them. -/
def Beside (n : ℕ) (word : List Char) : Prop := word <:+: place.lead ∨ word <:+: place.behind n

/-- The first line is passed over, as one of a comment or of a test block. -/
def PassedOver : Prop :=
  (∃ line, (Text.lines place.content)[place.lineIndex]? = some line ∧ isCommentLine line = true) ∨
    isLineInTestBlock (computeTestBlockRanges place.content) (place.lineIndex + 1) = true

theorem text_eq : place.src.text =
    place.textBefore ++ (RustTokens.text tokens ++ place.textBehind) := by
  unfold Source.text Source.tokens textBefore textBehind
  rw [place.segments_eq, List.flatMap_append, List.flatMap_cons, Segment.tokens,
    RustTokens.text_append, RustTokens.text_append, RustTokens.text_append,
    RustTokens.text_append, RustTokens.text_append, RustTokens.text_append, List.append_assoc,
    List.append_assoc, List.append_assoc]

theorem drop_lines : (Text.lines place.content).drop place.lineIndex =
    Text.lines (place.lead ++ (RustTokens.text tokens ++ place.textBehind)) := by
  rw [show Text.lines place.content = Text.lines place.src.text from place.isText, text_eq]
  exact Text.drop_lines

/-- The tokens have a first line. -/
theorem exists_line (hne : RustTokens.text tokens ≠ []) :
    ∃ line, (Text.lines place.content)[place.lineIndex]? = some line ∧
      ((Text.lines place.content).drop place.lineIndex).take 1 = [line] := by
  have hlines : (Text.lines place.content).drop place.lineIndex ≠ [] := by
    rw [drop_lines]
    refine Text.lines_ne_nil fun hnil => hne ?_
    exact (List.append_eq_nil_iff.mp (List.append_eq_nil_iff.mp hnil).2).1
  obtain ⟨line, more, hcons⟩ := List.exists_cons_of_ne_nil hlines
  refine ⟨line, ?_, ?_⟩
  · rw [← List.head?_drop, hcons]
    rfl
  · rw [hcons]
    rfl

theorem passedOver_iff {line : Line}
    (hline : (Text.lines place.content)[place.lineIndex]? = some line) :
    place.PassedOver ↔ isCommentLine line = true ∨
      isLineInTestBlock (computeTestBlockRanges place.content) (place.lineIndex + 1) = true := by
  refine or_congr_left ⟨fun ⟨l, hl, hcomment⟩ => ?_, fun hcomment => ⟨line, hline, hcomment⟩⟩
  rw [hline] at hl
  rw [Option.some.inj hl]
  exact hcomment

/-- The text of the first `n` lines. -/
theorem firstLines_text {n : ℕ} (hn : 0 < n) :
    Text.firstLines n (place.lead ++ (RustTokens.text tokens ++ place.textBehind)) =
      place.lead ++ (Text.firstLines n (RustTokens.text tokens) ++ place.behind n) := by
  have hlead : place.lead.count '\n' = 0 :=
    List.count_eq_zero_of_not_mem Text.newline_notMem_lastLine
  rw [Text.firstLines_append, hlead, if_pos hn, Nat.sub_zero, Text.firstLines_append]
  unfold behind
  dsimp only
  split_ifs with hends
  · rw [Text.firstLines_of_count_lt hends]
  · rw [List.append_nil]

/-- What is on the first `n` lines of the tokens is on one of the lines. -/
theorem exists_mem_take_lines {n : ℕ} {word : List Char} (hn : 0 < n) (hne : word ≠ [])
    (hnewline : '\n' ∉ word) (hcr : '\r' ∉ word)
    (h : word <:+: Text.firstLines n (RustTokens.text tokens)) :
    ∃ line ∈ ((Text.lines place.content).drop place.lineIndex).take n, word <:+: line := by
  rw [drop_lines, Text.exists_mem_take_lines_iff hne hnewline hcr, firstLines_text _ hn]
  exact h.trans (List.infix_append' _ _ _)

/-- A word without line ends is on the first `n` lines iff it is on those of the tokens or beside
    them. The tokens start and end with characters that it does not have. -/
theorem exists_mem_take_lines_iff {n : ℕ} {word inside : List Char} {first last : Char}
    (hn : 0 < n) (hne : word ≠ []) (hword : ∀ c ∈ ['\n', '\r', first, last], c ∉ word)
    (htext : RustTokens.text tokens = first :: (inside ++ [last])) :
    (∃ line ∈ ((Text.lines place.content).drop place.lineIndex).take n, word <:+: line) ↔
      word <:+: Text.firstLines n (RustTokens.text tokens) ∨ place.Beside n word := by
  obtain ⟨hnewline, hcr, hfirst, hlast⟩ :
      '\n' ∉ word ∧ '\r' ∉ word ∧ first ∉ word ∧ last ∉ word := by simpa using hword
  have hnil : ¬word <:+: [] := fun h => hne (List.infix_nil.mp h)
  rw [drop_lines, Text.exists_mem_take_lines_iff hne hnewline hcr, firstLines_text _ hn]
  unfold Beside
  by_cases hends : (RustTokens.text tokens).count '\n' < n
  · rw [Text.firstLines_of_count_lt hends, htext, List.cons_append, List.append_assoc,
      List.singleton_append, Text.infix_append_cons_iff hfirst, Text.infix_append_cons_iff hlast,
      show first :: (inside ++ [last]) = [] ++ first :: (inside ++ last :: []) from rfl,
      Text.infix_append_cons_iff hfirst, Text.infix_append_cons_iff hlast]
    tauto
  · obtain ⟨m, rfl⟩ := Nat.exists_eq_succ_of_ne_zero hn.ne'
    have hbehind : place.behind (m + 1) = [] := if_neg hends
    rw [hbehind, List.append_nil, htext, Text.firstLines, Text.infix_append_cons_iff hfirst,
      ← List.nil_append (first :: _), Text.infix_append_cons_iff hfirst]
    tauto

end CodePlace

end DarkTower.Guard
