import DarkTower.Lib.Text
import Mathlib.Algebra.Ring.Int.Defs

/-!
# The scan for test blocks (`dt-guard/src/common/test_code_filter.rs:105-357`)

`compute_test_block_ranges` reads a file line by line. From a line that is taken for a test
attribute it adds up the braces of the lines, until they open a block and until they have
closed it again.

* `rangesFrom_skip`, `rangesFrom_block`: what the scan does with the next line.
* `computeTestBlockRanges_eq_iff`: which ranges it returns, by the lines and comment states it
  reads (`Counted`). Its two directions are inductions on the lines that are left.
-/

namespace DarkTower.Guard.TestCode

open DarkTower.Lib

/-- A line of a file, without its end. -/
abbrev Line := List Char

/-! ## Model -/

/-- `in_string` with `string_quote`; behind a backslash a character is taken with it. -/
inductive Quoting
  | outside
  | inside (quote : Char)
  | escaped (quote : Char)
deriving DecidableEq

/-- What the next character makes of the quotes. -/
def Quoting.next : Quoting → Char → Quoting
  | outside, c => if c = '"' ∨ c = '\'' then inside c else outside
  | inside quote, c =>
    if c = '\\' then escaped quote else if c = quote then outside else inside quote
  | escaped quote, _ => inside quote

/-- Where `strip_comments` is in a line. The second character of `/*` and of `*/` is taken
    with the first one: `opening` and `closing` are the states between them. -/
inductive Lex
  | code (quoting : Quoting)
  | lineComment
  | opening
  | blockComment
  | closing
deriving DecidableEq

/-- What `strip_comments` writes for a character before `next?`, and where it is then. -/
def stripStep (next? : Option Char) (c : Char) : Lex → Line × Lex
  | .code .outside =>
    if c = '/' ∧ next? = some '/' then ([], .lineComment)
    else if c = '/' ∧ next? = some '*' then ([], .opening)
    else ([c], .code (Quoting.outside.next c))
  | .code quoting => ([c], .code (quoting.next c))
  | .lineComment => ([], .lineComment)
  | .opening => ([], .blockComment)
  | .blockComment => ([], if c = '*' ∧ next? = some '/' then .closing else .blockComment)
  | .closing => ([], .code .outside)

/-- What `strip_comments` leaves of a line, and where the line ends. -/
def stripFrom : Lex → Line → Line × Lex
  | lex, [] => ([], lex)
  | lex, c :: cs =>
    let step := stripStep cs.head? c lex
    (step.1 ++ (stripFrom step.2 cs).1, (stripFrom step.2 cs).2)

/-- The line without comments, and whether a block comment is open behind it. -/
def stripComments (line : Line) (inBlockComment : Bool) : Line × Bool :=
  let r := stripFrom (if inBlockComment then .blockComment else .code .outside) line
  (r.1, r.2 = .blockComment)

/-- `substring_after`: what follows the first `marker`. -/
def substringAfter (marker : Line) : Line → Option Line
  | [] => if marker = [] then some [] else none
  | c :: cs =>
    if marker.isPrefixOf (c :: cs) then some ((c :: cs).drop marker.length)
    else substringAfter marker cs

/-- `after.split(')').next()`, split at commas, has a part that is `test`. -/
def listsTest (after : Line) : Bool :=
  ((after.takeWhile (· ≠ ')')).splitOn ',').any fun p => Text.trim p = "test".toList

/-- `is_cfg_test_attribute` (test_code_filter.rs:227). -/
def isCfgTestAttribute (line : Line) : Bool :=
  let t := Text.trimStart line
  if !"#[".toList.isPrefixOf t && !"#![".toList.isPrefixOf t then false
  else
    Text.contains t "cfg(test".toList || Text.contains t "cfg(any(test".toList ||
      Text.contains t "cfg(all(test".toList ||
      Text.contains t "cfg(any(".toList && Text.contains t "test".toList &&
        (substringAfter "cfg(any(".toList t).any listsTest ||
      Text.contains t "cfg(all(".toList && Text.contains t "test".toList &&
        (substringAfter "cfg(all(".toList t).any listsTest

/-- `DepthState` (test_code_filter.rs:314). -/
structure DepthState where
  depth : ℤ
  inBlockComment : Bool

/-- A character of `process_line`: the quotes and the depth behind it. -/
def processStep (s : Quoting × ℤ) (c : Char) : Quoting × ℤ :=
  (s.1.next c,
    if s.1 = .outside then if c = '{' then s.2 + 1 else if c = '}' then s.2 - 1 else s.2
    else s.2)

/-- It always returns `Some`. -/
def DepthState.processLine (s : DepthState) (line : Line) : ℤ × Bool :=
  ((line.foldl processStep (.outside, s.depth)).2, s.inBlockComment)

/-- The state behind one more line, as both loops read it. -/
def DepthState.read (s : DepthState) (line : Line) : DepthState :=
  let stripped := stripComments line s.inBlockComment
  let r := DepthState.processLine ⟨s.depth, stripped.2⟩ stripped.1
  ⟨r.1, r.2⟩

/-- The loop from line `j` on, up to the line that opens a block: the state behind that line,
    its index and the lines that follow it. -/
def findOpening (s : DepthState) (j : ℕ) : List Line → Option (DepthState × ℕ × List Line)
  | [] => none
  | line :: lines =>
    if 0 < (s.read line).depth then some (s.read line, j, lines)
    else findOpening (s.read line) (j + 1) lines

/-- The loop from line `k` on, up to the line that closes the block: the state, `k` and the
    lines that are left. `end_line` is `k` throughout. -/
def findClosing (s : DepthState) (k : ℕ) : List Line → DepthState × ℕ × List Line
  | [] => (s, k, [])
  | line :: lines =>
    if 0 < s.depth then findClosing (s.read line) (k + 1) lines else (s, k, line :: lines)

/-- The second loop, from the line behind line `j` on. -/
def closeBlock (opened : DepthState × ℕ × List Line) : Bool × ℕ × List Line :=
  let closed := findClosing opened.1 (opened.2.1 + 1) opened.2.2
  (closed.1.inBlockComment, closed.2)

/-- The block of the attribute on line `i`: whether a block comment is open behind it, `k` and
    the lines that are left. When it opens on line `i`, `j` is the next line all the same, and
    the block goes on behind that line. -/
def blockFrom (i : ℕ) (inBlockComment : Bool) (stripped : Line) (lines : List Line) :
    Option (Bool × ℕ × List Line) :=
  let r := DepthState.processLine ⟨0, inBlockComment⟩ stripped
  let s : DepthState := ⟨r.1, r.2⟩
  let opened := if 0 < s.depth then some (s, i + 1, lines.tail) else findOpening s (i + 1) lines
  opened.map closeBlock

theorem length_findOpening {s s' : DepthState} {j j' : ℕ} {lines behind : List Line}
    (h : findOpening s j lines = some (s', j', behind)) : behind.length ≤ lines.length := by
  induction lines generalizing s j with
  | nil => cases h
  | cons line lines ih =>
    rw [findOpening] at h
    split at h
    · cases h
      exact Nat.le_succ _
    · exact (ih h).trans (Nat.le_succ _)

theorem length_findClosing (s : DepthState) (k : ℕ) (lines : List Line) :
    (findClosing s k lines).2.2.length ≤ lines.length := by
  induction lines generalizing s k with
  | nil => exact le_refl _
  | cons line lines ih =>
    rw [findClosing]
    split
    · exact (ih _ _).trans (Nat.le_succ _)
    · exact le_refl _

theorem length_blockFrom {i k : ℕ} {b b' : Bool} {stripped : Line} {lines left : List Line}
    (h : blockFrom i b stripped lines = some (b', k, left)) : left.length ≤ lines.length := by
  obtain ⟨⟨s, j, behind⟩, hopen, hclose⟩ := Option.map_eq_some_iff.mp h
  have hbehind : behind.length ≤ lines.length := by
    split at hopen
    · cases hopen
      rw [List.length_tail]
      exact Nat.sub_le _ _
    · exact length_findOpening hopen
  have hleft := length_findClosing s (j + 1) behind
  rw [closeBlock] at hclose
  rw [(Prod.mk.inj hclose).2] at hleft
  exact hleft.trans hbehind

/-- The `while` loop from line `i` on. -/
def rangesFrom (i : ℕ) (inBlockComment : Bool) : List Line → List (ℕ × ℕ)
  | [] => []
  | line :: lines =>
    let stripped := stripComments line inBlockComment
    if isCfgTestAttribute stripped.1 then
      match _h : blockFrom i stripped.2 stripped.1 lines with
      | none => rangesFrom (i + 1) stripped.2 lines
      | some (inBlockComment, k, left) => (i + 1, k) :: rangesFrom k inBlockComment left
    else rangesFrom (i + 1) stripped.2 lines
termination_by lines => lines.length
decreasing_by
  · exact Nat.lt_succ_self _
  · exact Nat.lt_succ_of_le (length_blockFrom _h)
  · exact Nat.lt_succ_self _

/-- `compute_test_block_ranges` (test_code_filter.rs:129). -/
def computeTestBlockRanges (content : List Char) : List (ℕ × ℕ) :=
  rangesFrom 0 false (Text.lines content)

/-- `is_line_in_test_block`. -/
def isLineInTestBlock (ranges : List (ℕ × ℕ)) (lineNo : ℕ) : Bool :=
  ranges.any fun r => lineNo ≥ r.1 && lineNo ≤ r.2

/-! ## Counts -/

/-- What a line without comments adds to the depth. -/
def braceCount (line : Line) : ℤ := (line.foldl processStep (.outside, 0)).2

/-- What a line adds to the depth. -/
def lineCount (inBlockComment : Bool) (line : Line) : ℤ :=
  braceCount (stripComments line inBlockComment).1

/-- What each of the lines adds, with a block comment open before them or not. -/
def lineCounts : Bool → List Line → List ℤ
  | _, [] => []
  | b, line :: lines => lineCount b line :: lineCounts (stripComments line b).2 lines

/-- A block comment is open behind the lines. -/
def commentBehind (b : Bool) (lines : List Line) : Bool :=
  lines.foldl (fun b line => (stripComments line b).2) b

@[simp] theorem lineCounts_nil (b : Bool) : lineCounts b [] = [] := rfl

@[simp] theorem length_lineCounts (b : Bool) (lines : List Line) :
    (lineCounts b lines).length = lines.length := by
  induction lines generalizing b with
  | nil => rfl
  | cons line lines ih => rw [lineCounts, List.length_cons, List.length_cons, ih]

theorem foldl_processStep (q : Quoting) (d : ℤ) (line : Line) :
    (line.foldl processStep (q, d)).2 = d + (line.foldl processStep (q, 0)).2 := by
  induction line generalizing q d with
  | nil => simp
  | cons c cs ih =>
    have hstep (d : ℤ) : processStep (q, d) c =
        (q.next c, d + (processStep (q, 0) c).2) := by
      unfold processStep
      split_ifs <;> simp [Int.sub_eq_add_neg]
    rw [List.foldl_cons, List.foldl_cons, hstep d, hstep 0, ih, ih _ (0 + _)]
    omega

theorem processLine_eq (s : DepthState) (line : Line) :
    s.processLine line = (s.depth + braceCount line, s.inBlockComment) := by
  rw [DepthState.processLine, foldl_processStep, braceCount]

theorem read_eq (s : DepthState) (line : Line) :
    s.read line = ⟨s.depth + lineCount s.inBlockComment line,
      (stripComments line s.inBlockComment).2⟩ := by
  rw [DepthState.read, processLine_eq]
  rfl

/-- What the lines from `p` on add up to before a line. -/
def sumTo (cs : List ℤ) (p : ℕ) : ℤ := (cs.take p).sum

@[simp] theorem sumTo_zero (cs : List ℤ) : sumTo cs 0 = 0 := rfl

@[simp] theorem sumTo_nil (p : ℕ) : sumTo [] p = 0 := by rw [sumTo, List.take_nil]; rfl

@[simp] theorem sumTo_cons_succ (c : ℤ) (cs : List ℤ) (p : ℕ) :
    sumTo (c :: cs) (p + 1) = c + sumTo cs p := by
  rw [sumTo, List.take_succ_cons, List.sum_cons, sumTo]

/-- The state behind the first `m` lines. -/
def readFirst (s : DepthState) (lines : List Line) (m : ℕ) : DepthState :=
  ⟨s.depth + sumTo (lineCounts s.inBlockComment lines) m,
    commentBehind s.inBlockComment (lines.take m)⟩

theorem readFirst_zero (s : DepthState) (lines : List Line) : readFirst s lines 0 = s := by
  simp [readFirst, commentBehind]

theorem readFirst_succ (s : DepthState) (line : Line) (lines : List Line) (m : ℕ) :
    readFirst s (line :: lines) (m + 1) = readFirst (s.read line) lines m := by
  simp [readFirst, read_eq, lineCounts, commentBehind, Int.add_assoc]

theorem readFirst_add (s : DepthState) (lines : List Line) (a m : ℕ) :
    readFirst (readFirst s lines a) (lines.drop a) m = readFirst s lines (a + m) := by
  induction a generalizing s lines with
  | zero => rw [readFirst_zero, List.drop_zero, Nat.zero_add]
  | succ a ih =>
    cases lines with
    | nil => simp [readFirst, commentBehind]
    | cons line lines =>
      rw [readFirst_succ, List.drop_succ_cons, ih, Nat.add_right_comm, readFirst_succ]

theorem findOpening_spec (s : DepthState) (j : ℕ) (lines : List Line) :
    (findOpening s j lines = none ∧ ∀ p, 0 < p → p ≤ lines.length →
        (readFirst s lines p).depth ≤ 0) ∨
      ∃ o, o < lines.length ∧ (∀ p, 0 < p → p ≤ o → (readFirst s lines p).depth ≤ 0) ∧
        0 < (readFirst s lines (o + 1)).depth ∧
        findOpening s j lines =
          some (readFirst s lines (o + 1), j + o, lines.drop (o + 1)) := by
  induction lines generalizing s j with
  | nil => exact .inl ⟨rfl, fun p hp hle => absurd hp (by simpa using hle)⟩
  | cons line lines ih =>
    rw [findOpening]
    by_cases hopen : 0 < (s.read line).depth
    · refine .inr ⟨0, Nat.succ_pos _, fun p hp hle => by omega, ?_, ?_⟩
      · rwa [readFirst_succ, readFirst_zero]
      · rw [if_pos hopen, readFirst_succ, readFirst_zero]
        rfl
    · have hfirst : ∀ p, (0 < p → (readFirst (s.read line) lines p).depth ≤ 0) →
          (readFirst s (line :: lines) (p + 1)).depth ≤ 0 := by
        intro p hp
        rw [readFirst_succ]
        obtain rfl | hpos := Nat.eq_zero_or_pos p
        · rw [readFirst_zero]
          omega
        · exact hp hpos
      rw [if_neg hopen]
      obtain ⟨hnone, hall⟩ | ⟨o, ho, hbefore, hpos, hsome⟩ := ih (s.read line) (j + 1)
      · refine .inl ⟨hnone, fun p hp hle => ?_⟩
        obtain ⟨p, rfl⟩ := Nat.exists_eq_succ_of_ne_zero hp.ne'
        exact hfirst p fun hpos => hall p hpos (Nat.le_of_succ_le_succ hle)
      · refine .inr ⟨o + 1, Nat.succ_lt_succ ho, fun p hp hle => ?_, ?_, ?_⟩
        · obtain ⟨p, rfl⟩ := Nat.exists_eq_succ_of_ne_zero hp.ne'
          exact hfirst p fun hpos => hbefore p hpos (Nat.le_of_succ_le_succ hle)
        · rwa [readFirst_succ]
        · rw [hsome, readFirst_succ, List.drop_succ_cons, Nat.add_assoc, Nat.add_comm 1]

theorem findClosing_spec (s : DepthState) (k : ℕ) (lines : List Line) :
    ∃ m, m ≤ lines.length ∧ (∀ p, p < m → 0 < (readFirst s lines p).depth) ∧
      ((readFirst s lines m).depth ≤ 0 ∨ m = lines.length) ∧
      findClosing s k lines = (readFirst s lines m, k + m, lines.drop m) := by
  induction lines generalizing s k with
  | nil => exact ⟨0, le_refl _, nofun, .inr rfl, by rw [readFirst_zero]; rfl⟩
  | cons line lines ih =>
    rw [findClosing]
    by_cases hopen : 0 < s.depth
    · obtain ⟨m, hm, hbefore, hend, hclose⟩ := ih (s.read line) (k + 1)
      refine ⟨m + 1, Nat.succ_le_succ hm, fun p hp => ?_, ?_, ?_⟩
      · cases p with
        | zero => rwa [readFirst_zero]
        | succ p =>
          rw [readFirst_succ]
          exact hbefore p (Nat.lt_of_succ_lt_succ hp)
      · rw [readFirst_succ]
        exact hend.imp_right (congrArg (· + 1))
      · rw [if_pos hopen, hclose, readFirst_succ, List.drop_succ_cons, Nat.add_assoc,
          Nat.add_comm 1]
    · refine ⟨0, Nat.zero_le _, nofun, .inl ?_, ?_⟩
      · rw [readFirst_zero]
        omega
      · rw [if_neg hopen, readFirst_zero]
        rfl

/-! ## Blocks -/

/-- The counts of the lines from a test attribute's line on. When this line opens the block,
    the next one is left out. -/
def blockCounts (b : Bool) : List Line → List ℤ
  | [] => []
  | line :: lines =>
    if 0 < lineCount b line then
      lineCount b line :: 0 :: lineCounts (stripComments line b).2 lines.tail
    else lineCount b line :: lineCounts (stripComments line b).2 lines

/-- A block comment is open behind the first line and `n` more, so read. -/
def commentBehindBlock (b : Bool) (n : ℕ) : List Line → Bool
  | [] => b
  | line :: lines =>
    commentBehind (stripComments line b).2
      (if 0 < lineCount b line then lines.tail.take (n - 1) else lines.take n)

/-- On some line more braces have been opened than closed. -/
def Opens (cs : List ℤ) : Prop := ∃ n < cs.length, 0 < sumTo cs (n + 1)

/-- From the line on that opens the block, braces are open up to the line before the `n`-th,
    and on the `n`-th they are closed again, or it is the last one. -/
def ClosesAt (cs : List ℤ) (n : ℕ) : Prop :=
  n < cs.length ∧ (sumTo cs (n + 1) ≤ 0 ∨ n + 1 = cs.length) ∧
    ∃ o ≤ n, (∀ p ≤ o, sumTo cs p ≤ 0) ∧ 0 < sumTo cs (o + 1) ∧
      ∀ p, o ≤ p → p < n → 0 < sumTo cs (p + 1)

theorem ClosesAt.opens {cs : List ℤ} {n : ℕ} (h : ClosesAt cs n) : Opens cs := by
  obtain ⟨hn, -, o, ho, -, hpos, -⟩ := h
  exact ⟨o, ho.trans_lt hn, hpos⟩

theorem ClosesAt.le {cs : List ℤ} {n m : ℕ} (hn : ClosesAt cs n) (hm : ClosesAt cs m) : n ≤ m := by
  obtain ⟨hlen, -, o, ho, hbefore, hopen, hpos⟩ := hn
  obtain ⟨-, hend, o', ho', hbefore', hopen', -⟩ := hm
  have heq : o = o' := by
    obtain hlt | heq | hgt := Nat.lt_trichotomy o o'
    · have := hbefore' (o + 1) hlt
      omega
    · exact heq
    · have := hbefore (o' + 1) hgt
      omega
  by_contra hlt
  have hstill := hpos m (heq ▸ ho') (by omega)
  omega

theorem ClosesAt.unique {cs : List ℤ} {n m : ℕ} (hn : ClosesAt cs n) (hm : ClosesAt cs m) : n = m :=
  Nat.le_antisymm (hn.le hm) (hm.le hn)

/-- What the scan finds from the line `line` on. -/
def FindsBlock (i : ℕ) (b : Bool) (line : Line) (lines : List Line) : Prop :=
  let stripped := stripComments line b
  (blockFrom i stripped.2 stripped.1 lines = none ∧ ¬ Opens (blockCounts b (line :: lines))) ∨
    ∃ n, ClosesAt (blockCounts b (line :: lines)) n ∧
      blockFrom i stripped.2 stripped.1 lines =
        some (commentBehindBlock b n (line :: lines), i + 1 + n, lines.drop n)

/-- The state behind the attribute's line. -/
def attrState (b : Bool) (line : Line) : DepthState :=
  ⟨lineCount b line, (stripComments line b).2⟩

theorem blockFrom_eq (i : ℕ) (b : Bool) (line : Line) (lines : List Line) :
    blockFrom i (stripComments line b).2 (stripComments line b).1 lines =
      (if 0 < lineCount b line then
        some ((attrState b line), i + 1, lines.tail)
      else findOpening (attrState b line) (i + 1) lines).map closeBlock := by
  rw [blockFrom, processLine_eq, Int.zero_add]
  rfl

theorem findsBlock_of_pos {b : Bool} {line : Line} (hpos : 0 < lineCount b line) (i : ℕ)
    (lines : List Line) : FindsBlock i b line lines := by
  obtain ⟨m, hm, hbefore, hend, hclose⟩ :=
    findClosing_spec (attrState b line) (i + 1 + 1) lines.tail
  refine .inr ⟨m + 1, ?_, ?_⟩
  · rw [blockCounts, if_pos hpos]
    refine ⟨?_, by simpa [readFirst, attrState] using hend, 0, Nat.zero_le _, ?_, ?_, ?_⟩
    · simpa using Nat.lt_succ_of_le hm
    · intro p hp
      rw [Nat.le_zero.mp hp]
      exact Int.le_of_eq (sumTo_zero _)
    · simpa using hpos
    · intro p _ hp
      cases p with
      | zero => simpa using hpos
      | succ p => simpa [readFirst, attrState] using hbefore p (Nat.lt_of_succ_lt_succ hp)
  · rw [blockFrom_eq, if_pos hpos, Option.map_some, closeBlock, hclose, List.drop_tail,
      commentBehindBlock, if_pos hpos, Nat.add_assoc (i + 1), Nat.add_comm 1]
    rfl

theorem findsBlock_of_not_pos {b : Bool} {line : Line} (hpos : ¬ 0 < lineCount b line) (i : ℕ)
    (lines : List Line) : FindsBlock i b line lines := by
  have hcounts : blockCounts b (line :: lines) =
      lineCount b line :: lineCounts (stripComments line b).2 lines := by
    rw [blockCounts, if_neg hpos]
  have hsum (p : ℕ) : sumTo (blockCounts b (line :: lines)) (p + 1) =
      (readFirst (attrState b line) lines p).depth := by
    rw [hcounts, sumTo_cons_succ, readFirst, attrState]
  have hlength : (blockCounts b (line :: lines)).length = lines.length + 1 := by simp [hcounts]
  -- the first line opens no block
  have hfirst {o : ℕ} (h : ∀ p, 0 < p → p ≤ o →
      (readFirst (attrState b line) lines p).depth ≤ 0) :
      ∀ p ≤ o, sumTo (blockCounts b (line :: lines)) (p + 1) ≤ 0 := by
    intro p hp
    rw [hsum]
    obtain rfl | hp' := Nat.eq_zero_or_pos p
    · rw [readFirst_zero]
      exact Int.not_lt.mp hpos
    · exact h p hp' hp
  obtain ⟨hnone, hall⟩ | ⟨o, ho, hbefore, hopen, hsome⟩ :=
    findOpening_spec (attrState b line) (i + 1) lines
  · refine .inl ⟨?_, ?_⟩
    · rw [blockFrom_eq, if_neg hpos, hnone, Option.map_none]
    · rintro ⟨n, hn, hn'⟩
      have hle := hfirst hall n (by omega)
      omega
  · obtain ⟨m, hm, hopened, hend, hclose⟩ := findClosing_spec
      (readFirst (attrState b line) lines (o + 1)) (i + 1 + o + 1)
      (lines.drop (o + 1))
    simp only [readFirst_add] at hopened hend hclose
    rw [List.length_drop] at hm hend
    refine .inr ⟨o + 1 + m, ⟨by omega, ?_, o + 1, Nat.le_add_right _ _, ?_, ?_, ?_⟩, ?_⟩
    · rw [hsum, hlength]
      exact hend.imp_right (by omega)
    · intro p hp
      cases p with
      | zero => exact Int.le_of_eq (sumTo_zero _)
      | succ p => exact hfirst hbefore p (Nat.le_of_succ_le_succ hp)
    · rwa [hsum]
    · intro p hp hlt
      rw [hsum]
      obtain ⟨q, rfl⟩ := Nat.exists_eq_add_of_le hp
      exact hopened q (by omega)
    · rw [blockFrom_eq, if_neg hpos, hsome, Option.map_some, closeBlock, hclose, List.drop_drop,
        commentBehindBlock, if_neg hpos]
      simp [readFirst, attrState, Nat.add_assoc]

theorem findsBlock (i : ℕ) (b : Bool) (line : Line) (lines : List Line) :
    FindsBlock i b line lines := by
  by_cases hpos : 0 < lineCount b line
  · exact findsBlock_of_pos hpos i lines
  · exact findsBlock_of_not_pos hpos i lines

/-! ## Ranges -/

/-- The line is taken for a test attribute. -/
def marked (b : Bool) (line : Line) : Bool := isCfgTestAttribute (stripComments line b).1

theorem rangesFrom_nil (i : ℕ) (b : Bool) : rangesFrom i b [] = [] := by rw [rangesFrom]

theorem rangesFrom_skip {b : Bool} {line : Line} {lines : List Line}
    (h : ¬ (marked b line = true ∧ Opens (blockCounts b (line :: lines)))) (i : ℕ) :
    rangesFrom i b (line :: lines) = rangesFrom (i + 1) (stripComments line b).2 lines := by
  rw [rangesFrom]
  split
  case isTrue hmark =>
    obtain ⟨hnone, -⟩ | ⟨n, hclose, -⟩ := findsBlock i b line lines
    · split
      · rfl
      · rename_i hsome
        rw [hnone] at hsome
        cases hsome
    · exact absurd ⟨hmark, hclose.opens⟩ h
  case isFalse => rfl

theorem rangesFrom_block {b : Bool} {line : Line} {lines : List Line} {n : ℕ}
    (hmark : marked b line = true) (hclose : ClosesAt (blockCounts b (line :: lines)) n) (i : ℕ) :
    rangesFrom i b (line :: lines) =
      (i + 1, i + 1 + n) ::
        rangesFrom (i + 1 + n) (commentBehindBlock b n (line :: lines)) (lines.drop n) := by
  rw [rangesFrom, if_pos (show isCfgTestAttribute _ = true from hmark)]
  obtain ⟨-, hopens⟩ | ⟨m, hclose', hblock⟩ := findsBlock i b line lines
  · exact absurd hclose.opens hopens
  · obtain rfl := hclose.unique hclose'
    split
    · rename_i hnone
      rw [hblock] at hnone
      cases hnone
    · rename_i hsome
      rw [hblock] at hsome
      cases hsome
      rfl

/-- What the scan reads on the lines behind the `i`-th. A block comment is open behind the first
    `n` lines if `comment n`. -/
structure Counted (lines : List Line) (i : ℕ) (b : Bool) (ranges : List (ℕ × ℕ))
    (comment : ℕ → Bool) : Prop where
  first : comment i = b
  /-- No block ends on or behind the line on which the next one starts. -/
  apart : ranges.Pairwise fun r r' => r.2 < r'.1
  behind : ∀ r ∈ ranges, i < r.1
  /-- The block of a range starts with a test attribute and is closed at the end. -/
  inside : ∀ r ∈ ranges, ∃ n m line, r = (n + 1, n + 1 + m) ∧ lines[n]? = some line ∧
    marked (comment n) line = true ∧ ClosesAt (blockCounts (comment n) (lines.drop n)) m ∧
    comment (n + 1 + m) = commentBehindBlock (comment n) m (lines.drop n)
  /-- On other lines there is no test attribute, or no block follows. -/
  outside : ∀ n line, i ≤ n → lines[n]? = some line →
    (∀ r ∈ ranges, n + 1 < r.1 ∨ r.2 < n + 1) →
    ¬ (marked (comment n) line = true ∧ Opens (blockCounts (comment n) (lines.drop n))) ∧
      comment (n + 1) = (stripComments line (comment n)).2

theorem drop_eq_cons {lines : List Line} {i : ℕ} {line : Line} (h : lines[i]? = some line) :
    lines.drop i = line :: lines.drop (i + 1) := by
  obtain ⟨hi, rfl⟩ := List.getElem?_eq_some_iff.mp h
  exact List.drop_eq_getElem_cons hi

section

variable {lines : List Line} {i : ℕ} {b : Bool} {ranges : List (ℕ × ℕ)} {comment : ℕ → Bool}
  {line : Line}

theorem Counted.congr {comment' : ℕ → Bool} (h : Counted lines i b ranges comment)
    (heq : ∀ n, i ≤ n → comment' n = comment n) : Counted lines i b ranges comment' where
  first := (heq i (le_refl i)).trans h.first
  apart := h.apart
  behind := h.behind
  inside r hr := by
    obtain ⟨n, m, line, rfl, hline, hmark, hclose, hcomment⟩ := h.inside r hr
    have hi : i < n + 1 := h.behind _ hr
    rw [← heq n (by omega)] at hmark hclose hcomment
    rw [← heq (n + 1 + m) (by omega)] at hcomment
    exact ⟨n, m, line, rfl, hline, hmark, hclose, hcomment⟩
  outside n line hn hline hout := by
    rw [heq n hn, heq (n + 1) (by omega)]
    exact h.outside n line hn hline hout

/-- The scan goes on behind a line that starts no block. -/
theorem Counted.skip (h : Counted lines i b ranges comment) (hline : lines[i]? = some line)
    (hstart : ∀ r ∈ ranges, r.1 ≠ i + 1) :
    ¬ (marked b line = true ∧ Opens (blockCounts b (lines.drop i))) ∧
      Counted lines (i + 1) (stripComments line b).2 ranges comment := by
  have hbehind : ∀ r ∈ ranges, i + 1 < r.1 := fun r hr =>
    Nat.lt_of_le_of_ne (h.behind r hr) (hstart r hr).symm
  have hhere := h.outside i line (le_refl i) hline fun r hr => .inl (hbehind r hr)
  rw [h.first] at hhere
  refine ⟨hhere.1, hhere.2, h.apart, hbehind, h.inside, fun n l hn => ?_⟩
  exact h.outside n l (by omega)

theorem Counted.of_skip (hline : lines[i]? = some line)
    (hskip : ¬ (marked b line = true ∧ Opens (blockCounts b (lines.drop i))))
    (h : Counted lines (i + 1) (stripComments line b).2 ranges comment) :
    Counted lines i b ranges (Function.update comment i b) := by
  have hlater : ∀ n, i + 1 ≤ n → Function.update comment i b n = comment n := fun n hn =>
    Function.update_of_ne (by omega) _ _
  have h' := h.congr hlater
  refine ⟨Function.update_self .., h'.apart, fun r hr => ?_, h'.inside, fun n l hn hl hout => ?_⟩
  · have hr := h'.behind r hr
    omega
  · obtain rfl | hlt := Nat.eq_or_lt_of_le hn
    · obtain rfl : line = l := Option.some_inj.mp (hline.symm.trans hl)
      rw [Function.update_self, h'.first]
      exact ⟨hskip, rfl⟩
    · exact h'.outside n l hlt hl hout

/-- The scan goes on behind a block. -/
theorem Counted.block {e : ℕ} (h : Counted lines i b ((i + 1, e) :: ranges) comment)
    (hline : lines[i]? = some line) :
    ∃ m, e = i + 1 + m ∧ marked b line = true ∧ ClosesAt (blockCounts b (lines.drop i)) m ∧
      Counted lines (i + 1 + m) (commentBehindBlock b m (lines.drop i)) ranges comment := by
  obtain ⟨n, m, l, heq, hl, hmark, hclose, hcomment⟩ := h.inside _ List.mem_cons_self
  obtain ⟨hn, rfl⟩ := Prod.mk.inj heq
  obtain rfl : i = n := Nat.succ.inj hn
  obtain rfl : line = l := Option.some_inj.mp (hline.symm.trans hl)
  rw [h.first] at hmark hclose hcomment
  obtain ⟨hfirst, hapart⟩ := List.pairwise_cons.mp h.apart
  refine ⟨m, rfl, hmark, hclose, hcomment, hapart, hfirst,
    fun r hr => h.inside r (List.mem_cons_of_mem _ hr), fun n' l' hn' hl' hout => ?_⟩
  exact h.outside n' l' (by omega) hl' (List.forall_mem_cons.mpr ⟨.inr (by omega), hout⟩)

theorem Counted.of_block {m : ℕ} (hline : lines[i]? = some line) (hmark : marked b line = true)
    (hclose : ClosesAt (blockCounts b (lines.drop i)) m)
    (h : Counted lines (i + 1 + m) (commentBehindBlock b m (lines.drop i)) ranges comment) :
    Counted lines i b ((i + 1, i + 1 + m) :: ranges) (Function.update comment i b) := by
  have hlater : ∀ n, i + 1 + m ≤ n → Function.update comment i b n = comment n := fun n hn =>
    Function.update_of_ne (by omega) _ _
  have h' := h.congr hlater
  refine ⟨Function.update_self .., List.pairwise_cons.mpr ⟨h'.behind, h'.apart⟩,
    List.forall_mem_cons.mpr ⟨Nat.lt_succ_self i, fun r hr => ?_⟩,
    List.forall_mem_cons.mpr ⟨?_, h'.inside⟩, fun n l hn hl hout => ?_⟩
  · have hr := h'.behind r hr
    omega
  · refine ⟨i, m, line, rfl, hline, ?_⟩
    rw [Function.update_self, h'.first]
    exact ⟨hmark, hclose, rfl⟩
  · obtain ⟨hfirst, hout⟩ := List.forall_mem_cons.mp hout
    simp only at hfirst
    exact h'.outside n l (by omega) hl hout

/-- A block that starts on the next line is the first one. -/
theorem Counted.starts (h : Counted lines i b ranges comment) :
    (∀ r ∈ ranges, r.1 ≠ i + 1) ∨ ∃ e rs, ranges = (i + 1, e) :: rs := by
  cases ranges with
  | nil => exact .inl nofun
  | cons r rs =>
    by_cases hr : r.1 = i + 1
    · exact .inr ⟨r.2, rs, by rw [← hr]⟩
    · refine .inl (List.forall_mem_cons.mpr ⟨hr, fun r' hr' => ?_⟩)
      obtain ⟨n, m, -, rfl, -⟩ := h.inside r List.mem_cons_self
      have hi : i < n + 1 := h.behind _ List.mem_cons_self
      have hlt : n + 1 + m < r'.1 := (List.pairwise_cons.mp h.apart).1 r' hr'
      omega

theorem Counted.rangesFrom_eq (h : Counted lines i b ranges comment) :
    rangesFrom i b (lines.drop i) = ranges := by
  induction hk : lines.length - i using Nat.strong_induction_on generalizing i b ranges with
  | _ k ih =>
    cases hline : lines[i]? with
    | none =>
      rw [List.drop_eq_nil_of_le (List.getElem?_eq_none_iff.mp hline), rangesFrom_nil]
      cases ranges with
      | nil => rfl
      | cons r ranges =>
        obtain ⟨n, m, line, rfl, hn, -⟩ := h.inside r List.mem_cons_self
        have hi : i < n + 1 := h.behind _ List.mem_cons_self
        have hlen := List.getElem?_eq_none_iff.mp hline
        obtain ⟨hlt, -⟩ := List.getElem?_eq_some_iff.mp hn
        omega
    | some line =>
      obtain ⟨hlen, -⟩ := List.getElem?_eq_some_iff.mp hline
      have hcons := drop_eq_cons hline
      obtain hstart | ⟨e, rs, rfl⟩ := h.starts
      · obtain ⟨hskip, hnext⟩ := h.skip hline hstart
        rw [hcons] at hskip ⊢
        rw [rangesFrom_skip hskip]
        exact ih _ (by omega) hnext rfl
      · obtain ⟨m, rfl, hmark, hclose, hnext⟩ := h.block hline
        rw [hcons] at hclose hnext ⊢
        rw [rangesFrom_block hmark hclose, List.drop_drop]
        exact congrArg _ (ih _ (by omega) hnext rfl)

/-- The ranges that are returned have been counted so. -/
theorem exists_counted (lines : List Line) (i : ℕ) (b : Bool) :
    ∃ comment, Counted lines i b (rangesFrom i b (lines.drop i)) comment := by
  induction hk : lines.length - i using Nat.strong_induction_on generalizing i b with
  | _ k ih =>
    cases hline : lines[i]? with
    | none =>
      have hlen := List.getElem?_eq_none_iff.mp hline
      rw [List.drop_eq_nil_of_le hlen, rangesFrom_nil]
      refine ⟨fun _ => b, rfl, .nil, nofun, nofun, fun n l hn hl => ?_⟩
      obtain ⟨hlt, -⟩ := List.getElem?_eq_some_iff.mp hl
      omega
    | some line =>
      obtain ⟨hlen, -⟩ := List.getElem?_eq_some_iff.mp hline
      have hcons := drop_eq_cons hline
      by_cases hblock : marked b line = true ∧ Opens (blockCounts b (lines.drop i))
      · obtain ⟨hmark, hopens⟩ := hblock
        obtain ⟨-, hno⟩ | ⟨m, hclose, -⟩ := findsBlock i b line (lines.drop (i + 1))
        · exact absurd (hcons ▸ hopens) hno
        · obtain ⟨comment, hnext⟩ := ih _ (by omega) (i + 1 + m)
            (commentBehindBlock b m (lines.drop i)) rfl
          have hall := Counted.of_block hline hmark (hcons ▸ hclose) hnext
          rw [hcons] at hall ⊢
          rw [rangesFrom_block hmark hclose, List.drop_drop]
          exact ⟨_, hall⟩
      · obtain ⟨comment, hnext⟩ := ih _ (by omega) (i + 1) (stripComments line b).2 rfl
        have hall := Counted.of_skip hline hblock hnext
        rw [hcons] at hblock ⊢
        rw [rangesFrom_skip hblock]
        exact ⟨_, hall⟩

/-- The ranges that are returned are those that are counted so. -/
theorem computeTestBlockRanges_eq_iff (content : List Char) (ranges : List (ℕ × ℕ)) :
    computeTestBlockRanges content = ranges ↔
      ∃ comment, Counted (Text.lines content) 0 false ranges comment := by
  constructor
  · rintro rfl
    exact exists_counted (Text.lines content) 0 false
  · rintro ⟨comment, h⟩
    exact h.rangesFrom_eq

end

end DarkTower.Guard.TestCode
