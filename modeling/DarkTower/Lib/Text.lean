import Mathlib.Data.List.DropRight
import Mathlib.Data.List.Infix
import Mathlib.Tactic.Common

/-!
# Text operations of Rust and SQL

* `lines` is `str::lines`, `splitWhitespace` is `str::split_whitespace`, `trim` is
  `str::trim` and so on.
* `like` is the SQL operator `LIKE` with `\` as escape character.

`lines_three` computes the lines of a text made of three lines, and
`splitWhitespace_intercalate` the words of words that were joined by spaces.
-/

namespace DarkTower.Lib.Text

-- with all of Mathlib in scope, these would be decided over all characters
instance decidableForallMemChars (p : Char → Prop) [DecidablePred p] (cs : List Char) :
    Decidable (∀ c ∈ cs, p c) :=
  List.decidableBAll p cs

instance decidableForallMemChar? (p : Char → Prop) [DecidablePred p] (c? : Option Char) :
    Decidable (∀ c ∈ c?, p c) :=
  Option.decidableForallMem c?

-- one proof for the membership in a list of texts, in whatever definition it is decided
instance lawfulBEqChars : LawfulBEq (List Char) := inferInstance

/-- The pieces between newlines, at least one. -/
def splitNewlines : List Char → List (List Char)
  | [] => [[]]
  | c :: cs =>
    if c = '\n' then [] :: splitNewlines cs
    else
      match splitNewlines cs with
      | [] => [[c]]
      | piece :: pieces => (c :: piece) :: pieces

/-- Drops one carriage return at the end. -/
def stripCr (line : List Char) : List Char :=
  if line.getLast? = some '\r' then line.dropLast else line

/-- `str::lines`: a newline ends a line, with a carriage return before it; what
    follows the last newline is a line unless it is empty. -/
def lines (cs : List Char) : List (List Char) :=
  (splitNewlines cs).dropLast.map stripCr ++
    ((splitNewlines cs).getLast?.filter fun piece => piece ≠ []).toList

/-- `char::is_whitespace`: the Unicode property `White_Space`. -/
def isWhitespace (c : Char) : Bool :=
  let n := c.toNat
  9 ≤ n && n ≤ 13 || n = 0x20 || n = 0x85 || n = 0xa0 || n = 0x1680 || 0x2000 ≤ n && n ≤ 0x200a ||
    n = 0x2028 || n = 0x2029 || n = 0x202f || n = 0x205f || n = 0x3000

/-- The words of a text, `word` being read. -/
def splitWhitespaceFrom (word : List Char) : List Char → List (List Char)
  | [] => if word = [] then [] else [word.reverse]
  | c :: cs =>
    if isWhitespace c then
      if word = [] then splitWhitespaceFrom [] cs else word.reverse :: splitWhitespaceFrom [] cs
    else splitWhitespaceFrom (c :: word) cs

/-- `str::split_whitespace`. -/
def splitWhitespace (text : String) : List String :=
  (splitWhitespaceFrom [] text.toList).map String.ofList

/-- `str::trim_start`. -/
def trimStart (cs : List Char) : List Char := cs.dropWhile isWhitespace

/-- `str::trim_end`. -/
def trimEnd (cs : List Char) : List Char := cs.rdropWhile isWhitespace

/-- `str::trim`. -/
def trim (cs : List Char) : List Char := trimEnd (trimStart cs)

/-- `str::contains`. -/
def contains (text needle : List Char) : Bool := text.tails.any needle.isPrefixOf

/-- `str::strip_prefix`. -/
def stripPrefix (text pre : List Char) : Option (List Char) :=
  if pre <+: text then some (text.drop pre.length) else none

/-- `str::strip_suffix`. -/
def stripSuffix (text suffix : List Char) : Option (List Char) :=
  if suffix <:+ text then some (text.take (text.length - suffix.length)) else none

/-- `str::find` of a character: the text before it and the text after it. -/
def cutAt (c : Char) : List Char → Option (List Char × List Char)
  | [] => none
  | d :: cs => if d = c then some ([], cs) else (cutAt c cs).map fun x => (d :: x.1, x.2)

/-- `text LIKE pattern`. -/
def like : (pattern text : List Char) → Bool
  | [], text => text.isEmpty
  | '%' :: pattern, text => text.tails.any (like pattern)
  | '_' :: pattern, text =>
    match text with
    | [] => false
    | _ :: text => like pattern text
  | '\\' :: c :: pattern, text =>
    match text with
    | [] => false
    | d :: text => c = d && like pattern text
  | c :: pattern, text =>
    match text with
    | [] => false
    | d :: text => c = d && like pattern text

theorem contains_iff {text needle : List Char} :
    contains text needle = true ↔ needle <:+: text := by
  rw [contains, List.any_eq_true, List.infix_iff_prefix_suffix]
  constructor
  · rintro ⟨tail, htail, hpre⟩
    exact ⟨tail, List.isPrefixOf_iff_prefix.mp hpre, (List.mem_tails _ _).mp htail⟩
  · rintro ⟨tail, hpre, hsuf⟩
    exact ⟨tail, (List.mem_tails _ _).mpr hsuf, List.isPrefixOf_iff_prefix.mpr hpre⟩

/-- The first such character. -/
theorem cutAt_eq_some_iff {c : Char} {cs before rest : List Char} :
    cutAt c cs = some (before, rest) ↔ cs = before ++ c :: rest ∧ c ∉ before := by
  induction cs generalizing before with
  | nil =>
    refine iff_of_false (fun h => by cases h) fun h => ?_
    exact List.append_ne_nil_of_right_ne_nil before (List.cons_ne_nil _ _) h.1.symm
  | cons d cs ih =>
    rw [cutAt]
    by_cases hd : d = c
    · rw [if_pos hd, hd]
      constructor
      · intro h
        obtain ⟨rfl, rfl⟩ := Prod.mk.inj (Option.some.inj h)
        exact ⟨rfl, List.not_mem_nil⟩
      · rintro ⟨heq, hnotMem⟩
        cases before with
        | nil =>
          obtain ⟨-, rfl⟩ := List.cons.inj heq
          rfl
        | cons e before =>
          obtain ⟨rfl, -⟩ := List.cons.inj heq
          exact absurd List.mem_cons_self hnotMem
    · rw [if_neg hd, Option.map_eq_some_iff]
      constructor
      · rintro ⟨⟨before', rest'⟩, hcut, heq⟩
        obtain ⟨rfl, rfl⟩ := Prod.mk.inj heq
        obtain ⟨rfl, hnotMem⟩ := ih.mp hcut
        exact ⟨rfl, List.not_mem_cons_of_ne_of_not_mem (Ne.symm hd) hnotMem⟩
      · rintro ⟨heq, hnotMem⟩
        cases before with
        | nil => exact absurd (List.cons.inj heq).1 hd
        | cons e before =>
          obtain ⟨rfl, hcs⟩ := List.cons.inj heq
          exact ⟨(before, rest), ih.mpr ⟨hcs, List.not_mem_of_not_mem_cons hnotMem⟩, rfl⟩

/-- No piece between separators has the separator. -/
theorem not_mem_of_mem_splitOn {sep : Char} {text piece : List Char}
    (h : piece ∈ text.splitOn sep) : sep ∉ piece := by
  induction text generalizing piece with
  | nil =>
    rw [List.splitOn_nil, List.mem_singleton] at h
    rw [h]
    exact List.not_mem_nil
  | cons c cs ih =>
    rw [List.splitOn_cons_eq_if_modifyHead] at h
    split at h
    case isTrue =>
      obtain rfl | hmem := List.mem_cons.mp h
      · exact List.not_mem_nil
      · exact ih hmem
    case isFalse hne =>
      cases hsplit : cs.splitOn sep with
      | nil => exact absurd hsplit (List.splitOn_ne_nil _ _)
      | cons first pieces =>
        rw [hsplit] at h ih
        obtain rfl | hmem := List.mem_cons.mp h
        · rw [List.mem_cons, not_or]
          exact ⟨fun heq => hne (by simp [heq]), ih List.mem_cons_self⟩
        · exact ih (List.mem_cons_of_mem _ hmem)

theorem splitNewlines_of_not_mem {line : List Char} (h : '\n' ∉ line) :
    splitNewlines line = [line] := by
  induction line with
  | nil => rfl
  | cons c cs ih =>
    rw [List.mem_cons, not_or] at h
    rw [splitNewlines, if_neg (Ne.symm h.1), ih h.2]

theorem splitNewlines_append {line rest : List Char} (h : '\n' ∉ line) :
    splitNewlines (line ++ '\n' :: rest) = line :: splitNewlines rest := by
  induction line with
  | nil => rfl
  | cons c cs ih =>
    rw [List.mem_cons, not_or] at h
    rw [List.cons_append, splitNewlines, if_neg (Ne.symm h.1), ih h.2]

theorem stripCr_of_not_mem {line : List Char} (h : '\r' ∉ line) : stripCr line = line := by
  rw [stripCr, if_neg]
  intro hlast
  exact h (List.mem_of_getLast? hlast)

theorem splitNewlines_ne_nil (cs : List Char) : splitNewlines cs ≠ [] := by
  cases cs with
  | nil => exact List.cons_ne_nil _ _
  | cons c cs =>
    rw [splitNewlines]
    split_ifs
    · exact List.cons_ne_nil _ _
    · split <;> exact List.cons_ne_nil _ _

/-- Behind every piece but the last one there is a newline. -/
theorem newline_behind {piece cs : List Char} (h : piece ∈ (splitNewlines cs).dropLast) :
    piece ++ ['\n'] <:+: cs := by
  by_cases hnl : '\n' ∈ cs
  · obtain ⟨line, rest, hcs, hline⟩ := List.eq_append_cons_of_mem hnl
    have hlt : rest.length < cs.length := by
      rw [hcs, List.length_append, List.length_cons]
      omega
    rw [hcs, splitNewlines_append hline,
      List.dropLast_cons_of_ne_nil (splitNewlines_ne_nil rest)] at h
    rw [hcs]
    obtain rfl | h := List.mem_cons.mp h
    · exact ⟨[], rest, by simp⟩
    · exact (newline_behind h).trans ⟨line ++ ['\n'], [], by simp⟩
  · rw [splitNewlines_of_not_mem hnl] at h
    cases h
termination_by cs.length

/-- Where the newlines stand alone, the lines are the pieces, but for an empty one at the end. -/
theorem splitNewlines_eq_lines {cs : List Char} (h : ¬ ['\r', '\n'] <:+: cs) :
    splitNewlines cs = lines cs ∨ splitNewlines cs = lines cs ++ [[]] := by
  have hpieces : ∀ piece ∈ (splitNewlines cs).dropLast, stripCr piece = piece := by
    intro piece hpiece
    rw [stripCr, if_neg]
    intro hlast
    obtain ⟨line, rfl⟩ := List.getLast?_eq_some_iff.mp hlast
    refine h (List.IsInfix.trans ?_ (newline_behind hpiece))
    exact ⟨line, [], by simp⟩
  have hmap : (splitNewlines cs).dropLast.map stripCr = (splitNewlines cs).dropLast :=
    (List.map_congr_left hpieces).trans (List.map_id _)
  rw [lines, hmap]
  cases hlast : (splitNewlines cs).getLast? with
  | none => simp [List.getLast?_eq_none_iff.mp hlast]
  | some piece =>
    have happend := List.dropLast_append_getLast? piece hlast
    by_cases hpiece : piece = []
    · right
      simpa [hpiece, Option.filter] using happend.symm
    · left
      simpa [hpiece, Option.filter] using happend.symm

/-- A line in front of a text. -/
theorem lines_append_newline {line rest : List Char} (h : '\n' ∉ line) :
    lines (line ++ '\n' :: rest) = stripCr line :: lines rest := by
  have hne := splitNewlines_ne_nil rest
  rw [lines, lines, splitNewlines_append h, List.dropLast_cons_of_ne_nil hne,
    List.getLast?_cons_of_ne_nil hne]
  rfl

/-- Lines in front of a text. -/
theorem lines_flatMap_newline {ls : List (List Char)} (h : ∀ line ∈ ls, '\n' ∉ line)
    (rest : List Char) :
    lines (ls.flatMap (· ++ ['\n']) ++ rest) = ls.map stripCr ++ lines rest := by
  induction ls with
  | nil => rfl
  | cons line ls ih =>
    obtain ⟨hline, hls⟩ := List.forall_mem_cons.mp h
    rw [List.flatMap_cons, List.append_assoc, List.append_assoc, List.singleton_append,
      lines_append_newline hline, ih hls, List.map_cons, List.cons_append]

theorem lines_three {first second third : List Char} (h₁ : '\n' ∉ first) (h₂ : '\n' ∉ second)
    (h₃ : '\n' ∉ third) (hr₁ : '\r' ∉ first) (hr₂ : '\r' ∉ second) (hne : third ≠ []) :
    lines (first ++ '\n' :: (second ++ '\n' :: third)) = [first, second, third] := by
  rw [lines, splitNewlines_append h₁, splitNewlines_append h₂, splitNewlines_of_not_mem h₃]
  simp [stripCr_of_not_mem hr₁, stripCr_of_not_mem hr₂, hne]

/-- A small letter of ASCII is one of `a` to `z`. -/
theorem toNat_le_of_isLower {c : Char} (h : c.isLower = true) : c.toNat ≤ 122 := by
  obtain ⟨-, hle⟩ := Bool.and_eq_true_iff.mp h
  exact of_decide_eq_true hle

/-! ## Trimming -/

theorem isWhitespace_of_isDigit {c : Char} (h : c.isDigit = true) : isWhitespace c = false := by
  have hrange : 48 ≤ c.toNat ∧ c.toNat ≤ 57 := Char.isDigit_iff_toNat.mp h
  simp only [isWhitespace, Bool.or_eq_false_iff, Bool.and_eq_false_iff, decide_eq_false_iff_not]
  omega

theorem trimStart_append {gap cs : List Char} (hgap : ∀ c ∈ gap, isWhitespace c = true)
    (hcs : ∀ c, cs.head? = some c → isWhitespace c = false) : trimStart (gap ++ cs) = cs := by
  rw [trimStart, List.dropWhile_append_of_pos hgap]
  cases cs with
  | nil => rfl
  | cons c cs => rw [List.dropWhile_cons, hcs c rfl, if_neg Bool.false_ne_true]

theorem trimStart_append_cons {c : Char} {gap cs : List Char}
    (hgap : ∀ d ∈ gap, isWhitespace d = true) (hc : isWhitespace c = false) :
    trimStart (gap ++ c :: cs) = c :: cs :=
  trimStart_append hgap fun d hd => by
    rw [← Option.some.inj hd]
    exact hc

theorem trimEnd_append {c : Char} (hc : isWhitespace c = false) (before cs : List Char) :
    trimEnd (before ++ c :: cs) = before ++ c :: trimEnd cs := by
  have hne : ¬ isWhitespace c = true := by simp [hc]
  induction cs using List.reverseRecOn with
  | nil => exact List.rdropWhile_concat_neg _ _ _ hne
  | append_singleton cs d ih =>
    have hassoc : before ++ c :: (cs ++ [d]) = (before ++ c :: cs) ++ [d] := by simp
    by_cases hd : isWhitespace d = true
    · rw [trimEnd, hassoc, List.rdropWhile_concat_pos _ _ _ hd, trimEnd,
        List.rdropWhile_concat_pos _ _ _ hd]
      exact ih
    · rw [trimEnd, hassoc, List.rdropWhile_concat_neg _ _ _ hd, trimEnd,
        List.rdropWhile_concat_neg _ _ _ hd, ← hassoc]

theorem trim_eq_self {cs : List Char} (h : ∀ c ∈ cs, isWhitespace c = false) : trim cs = cs := by
  have hstart (cs : List Char) (h : ∀ c ∈ cs, isWhitespace c = false) :
      cs.dropWhile isWhitespace = cs := by
    cases cs with
    | nil => rfl
    | cons c cs => rw [List.dropWhile_cons_of_neg (by simp [h c List.mem_cons_self])]
  unfold trim trimEnd trimStart List.rdropWhile
  rw [hstart cs h, hstart cs.reverse fun c hc => h c (List.mem_reverse.mp hc), List.reverse_reverse]

theorem trim_eq_nil_iff {cs : List Char} : trim cs = [] ↔ ∀ c ∈ cs, isWhitespace c = true := by
  rw [trim, trimEnd, List.rdropWhile_eq_nil_iff]
  constructor
  · intro h c hc
    rw [← List.takeWhile_append_dropWhile (p := isWhitespace) (l := cs)] at hc
    exact (List.mem_append.mp hc).elim List.mem_takeWhile_imp (h c)
  · exact fun h c hc => h c ((List.dropWhile_suffix isWhitespace).mem hc)

/-! ## Words -/

/-- Not empty and without whitespace. -/
def IsWord (word : String) : Prop := word ≠ "" ∧ ∀ c ∈ word.toList, isWhitespace c = false

instance (word : String) : Decidable (IsWord word) :=
  decidable_of_iff (word ≠ "" ∧ (word.toList.all fun c => !isWhitespace c) = true)
    (by simp [IsWord])

theorem splitWhitespaceFrom_append {cs : List Char} (h : ∀ c ∈ cs, isWhitespace c = false)
    (word rest : List Char) :
    splitWhitespaceFrom word (cs ++ rest) = splitWhitespaceFrom (cs.reverse ++ word) rest := by
  induction cs generalizing word with
  | nil => rfl
  | cons c cs ih =>
    obtain ⟨hc, hcs⟩ := List.forall_mem_cons.mp h
    rw [List.cons_append, splitWhitespaceFrom, hc, if_neg Bool.false_ne_true, ih hcs,
      List.reverse_cons, List.append_assoc, List.singleton_append]

theorem splitWhitespaceFrom_intercalate {pieces : List (List Char)}
    (h : ∀ piece ∈ pieces, piece ≠ [] ∧ ∀ c ∈ piece, isWhitespace c = false) :
    splitWhitespaceFrom [] ([' '].intercalate pieces) = pieces := by
  induction pieces with
  | nil => rfl
  | cons piece pieces ih =>
    obtain ⟨⟨hne, hpiece⟩, hpieces⟩ := List.forall_mem_cons.mp h
    have hrev : piece.reverse ≠ [] := by simpa using hne
    cases pieces with
    | nil =>
      rw [List.intercalate_singleton]
      have hend := splitWhitespaceFrom_append hpiece [] []
      rw [List.append_nil, List.append_nil] at hend
      rw [hend, splitWhitespaceFrom, if_neg hrev, List.reverse_reverse]
    | cons next pieces =>
      rw [List.intercalate_cons_cons, List.append_assoc, splitWhitespaceFrom_append hpiece,
        List.append_nil, List.singleton_append, splitWhitespaceFrom, if_pos (by decide),
        if_neg hrev, ih hpieces, List.reverse_reverse]

/-- Words joined by spaces are split into these words again. -/
theorem splitWhitespace_intercalate {words : List String} (h : ∀ word ∈ words, IsWord word) :
    splitWhitespace (" ".intercalate words) = words := by
  rw [splitWhitespace, String.toList_intercalate, show " ".toList = [' '] from rfl,
    splitWhitespaceFrom_intercalate]
  · rw [List.map_map]
    simp [Function.comp_def]
  · intro piece hpiece
    obtain ⟨word, hword, rfl⟩ := List.mem_map.mp hpiece
    exact ⟨by simpa using (h word hword).1, (h word hword).2⟩

example : splitWhitespace " a\tbc  d" = ["a", "bc", "d"] := by decide

example : like "auth-eu_1-%".toList "auth-eu-1-2026-01".toList = true := by decide

end DarkTower.Lib.Text
