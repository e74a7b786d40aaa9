import DarkTower.Guard.TestRigidity

/-!
# Match arms without assertions (`dt-guard/src/test_rigidity.rs:95-123`)

`arm_has_enforcement` reads an arm line by line up to the end of the first line at which no more
braces are open than before the arm, all brace characters counted, and 31 lines at most
(`readLines`). An assertion anywhere on these lines is one of the arm.

* `armHasEnforcement_iff`: what it looks at; `Arm.readLines_eq`: when that are the lines of the
  arm.
* `rules_exact_iff`: the rules are independent and the arms judged by their blocks iff no
  excused string hides a rule and these lines show what the blocks have (`Arm.Seen`).
* `hidden_rule_and_cut_arm`: two files where they are not.
-/

namespace DarkTower.Guard.TestRigidity

open DarkTower.Lib
open RustTokens (Token Lexes Balanced NoArrow)
open TestCode (Line spell)

/-! ## Arms -/

/-- An `assert` or a `panic!` is in the text. -/
def Asserts (cs : List Char) : Prop := "assert".toList <:+: cs ∨ "panic!".toList <:+: cs

instance (cs : List Char) : Decidable (Asserts cs) := inferInstanceAs (Decidable (_ ∨ _))

/-- The patterns of check 5, `inner` being what stands between the outer parentheses. -/
inductive IsArmPattern : List Token → Prop
  | numeric (a b c : Char) : a.isDigit = true → b.isDigit = true → c.isDigit = true →
      IsArmPattern [.char a, .char b, .char c]
  | ok (inner : List Token) : IsArmPattern (spell "Ok(" ++ (inner ++ [.closing .paren]))
  | errStatus (inner : List Token) (front gap back : List Char) (a b c : Char) :
      (∀ x ∈ gap, Text.isWhitespace x = true) → a.isDigit = true → b.isDigit = true →
      c.isDigit = true →
      RustTokens.text inner = front ++ ("status:".toList ++ (gap ++ a :: b :: c :: back)) →
      IsArmPattern (spell "Err(" ++ (inner ++ [.closing .paren]))

/-- White space within a line. -/
def IsBlank (ts : List Token) : Prop :=
  ∀ c ∈ RustTokens.text ts, Text.isWhitespace c = true ∧ c ≠ '\n'

/-- A match arm with one of these patterns, up to its opening brace on one line. -/
structure MatchArm where
  indent : List Token
  pattern : List Token
  gap : List Token
  gap' : List Token
  body : List Token
  blank : IsBlank indent ∧ IsBlank gap ∧ IsBlank gap'
  isPattern : IsArmPattern pattern
  pattern_balanced : Balanced pattern
  pattern_noArrow : NoArrow [] pattern
  pattern_line : '\n' ∉ RustTokens.text pattern
  body_balanced : Balanced body

/-- What stands in front of the opening brace. -/
def MatchArm.head (arm : MatchArm) : List Token :=
  arm.indent ++ (arm.pattern ++ (arm.gap ++ (spell "=>" ++ arm.gap')))

/-- An arm in a file with these lines, first on its line. -/
structure Arm (content : List Char) extends MatchArm where
  front : List Token
  back : List Token
  lexes : Lexes (front ++ (toMatchArm.head ++
    .opening .brace :: (body ++ .closing .brace :: back))) []
  isText : Text.lines content = Text.lines (RustTokens.text (front ++ (toMatchArm.head ++
    .opening .brace :: (body ++ .closing .brace :: back))))
  starts_line : Text.lastLine (RustTokens.text front) = []

/-- The brace characters that are opened less those that are closed. -/
def braces (cs : List Char) : ℤ := Nesting.height '\x7b' '\x7d' cs

/-- How many lines are read: the first one, and each line behind one at whose end braces are
    open, up to 31. -/
def readLines (cs : List Char) : ℕ :=
  ((List.range' 1 30).takeWhile fun n => 0 < braces (Text.firstLines n cs)).length + 1

namespace Arm

variable {content : List Char} (arm : Arm content)

/-- The index of the line of the arm's pattern. -/
def lineIndex : ℕ := (RustTokens.text arm.front).count '\n'

/-- The text of the arm up to its block. -/
def header : List Char := RustTokens.text arm.head

/-- What stands between the braces. -/
def block : List Char := RustTokens.text arm.body

/-- What follows the closing brace. -/
def rest : List Char := RustTokens.text arm.back

/-- The text of the file from the arm on. -/
def text : List Char := arm.header ++ '\x7b' :: (arm.block ++ '\x7d' :: arm.rest)

/-- The lines of the arm, up to its closing brace. -/
def lineCount : ℕ := arm.block.count '\n' + 1

/-- What is read behind the closing brace. -/
def readBehind : List Char :=
  if arm.lineCount ≤ readLines arm.text then
    Text.firstLines (readLines arm.text - arm.block.count '\n') arm.rest
  else []

/-- The lines that are read show whether the block has an assertion. -/
structure Seen : Prop where
  /-- One of its assertions is on them, or another one beside the block. -/
  asserts : Asserts arm.block → Asserts (Text.firstLines (readLines arm.text) arm.block) ∨
    Asserts arm.header ∨ Asserts arm.readBehind
  /-- If it has none, none is beside it. -/
  quiet : ¬Asserts arm.block → ¬Asserts arm.header ∧ ¬Asserts arm.readBehind

end Arm

/-- Check 5 reports the arms of at most 30 lines that have no assertion in their block. -/
def ArmsJudged (file content : List Char) : Prop :=
  ∀ arm : Arm content, arm.lineCount ≤ 30 →
    (Reported file content arm.lineIndex .assertFreeArm ↔ ¬Asserts arm.block)

/-! ## The lines that are read -/

variable {file content : List Char} {lines : List Line} {line : Line} {cs : List Char} {n : ℕ}

theorem enforces_iff : enforces line = true ↔ Asserts line := by
  unfold enforces Asserts
  rw [Bool.or_eq_true, Text.contains_iff, Text.contains_iff]

theorem foldl_delta (depth : ℤ) :
    line.foldl (fun depth c => depth + Nesting.delta '\x7b' '\x7d' c) depth =
      depth + braces line := by
  unfold braces
  induction line generalizing depth with
  | nil => exact (Int.add_zero depth).symm
  | cons c line ih => rw [List.foldl_cons, ih, Nesting.height_cons, Int.add_assoc]

/-- The loop looks at the lines up to the first one behind which the depth is not positive. -/
theorem enforcementFrom_eq (depth : ℤ) (n : ℕ) (lines : List Line) :
    enforcementFrom depth n lines =
      (lines.take (((List.range' 1 (30 - n)).takeWhile fun m =>
        0 < depth + braces (lines.take m).flatten).length + 1)).any enforces := by
  induction lines generalizing depth n with
  | nil => rfl
  | cons line lines ih =>
    rw [List.take_succ_cons, List.any_cons, enforcementFrom, foldl_delta]
    by_cases hn : n + 1 > 30
    · rw [if_pos (.inr hn), Nat.sub_eq_zero_of_le (Nat.le_of_lt_succ hn)]
      rfl
    have hrange : List.range' 1 (30 - n) = 1 :: (List.range' 1 (30 - (n + 1))).map (1 + ·) := by
      rw [List.map_add_range', ← List.range'_succ]
      congr 1
      omega
    have htake (m : ℕ) :
        ((line :: lines).take (1 + m)).flatten = line ++ (lines.take m).flatten := by
      rw [Nat.add_comm, List.take_succ_cons, List.flatten_cons]
    have hline : ((line :: lines).take 1).flatten = line := by
      rw [← Nat.add_zero 1, htake]
      exact List.append_nil line
    rw [hrange, List.takeWhile_cons, hline]
    by_cases hopen : depth + braces line ≤ 0
    · rw [if_pos (.inl hopen), if_neg (by simpa using hopen)]
      rfl
    · rw [if_neg (not_or.mpr ⟨hopen, hn⟩), if_pos (by simpa using hopen), List.length_cons, ih,
        List.takeWhile_map, List.length_map]
      simp only [Function.comp_def, htake, braces, Nesting.height_append, Int.add_assoc]

theorem braces_stripCr (line : Line) : braces (Text.stripCr line) = braces line := by
  unfold Text.stripCr
  split_ifs with hlast
  · obtain ⟨init, rfl⟩ := List.getLast?_eq_some_iff.mp hlast
    rw [List.dropLast_concat]
    unfold braces
    rw [Nesting.height_append]
    exact (Int.add_zero _).symm
  · rfl

/-- Line ends open and close nothing. -/
theorem braces_take_lines : braces ((Text.lines cs).take n).flatten =
    braces (Text.firstLines n cs) := by
  induction n generalizing cs with
  | zero => rw [Text.firstLines_zero, List.take_zero, List.flatten_nil]
  | succ n ih =>
    by_cases h : '\n' ∈ cs
    · obtain ⟨line, rest, rfl, hline⟩ := List.eq_append_cons_of_mem h
      rw [Text.lines_append_newline hline, Text.firstLines_line hline, List.take_succ_cons,
        List.flatten_cons]
      have hnewline : Nesting.delta '\x7b' '\x7d' '\n' = 0 := by decide
      have hstrip := braces_stripCr line
      unfold braces at *
      rw [Nesting.height_append, Nesting.height_append, Nesting.height_cons, ih, hnewline,
        Int.zero_add, hstrip]
    · rw [Text.firstLines_of_count_lt
        ((List.count_eq_zero_of_not_mem h).trans_lt (Nat.succ_pos n))]
      by_cases hcs : cs = []
      · rw [hcs]
        rfl
      · rw [Text.lines_of_notMem h hcs, List.take_succ_cons, List.take_nil, List.flatten_singleton]

theorem armHasEnforcement_iff {start : ℕ} (h : lines.drop start = Text.lines cs) :
    armHasEnforcement lines start = true ↔ Asserts (Text.firstLines (readLines cs) cs) := by
  unfold armHasEnforcement
  rw [h, enforcementFrom_eq, List.any_eq_true]
  simp only [Int.zero_add, braces_take_lines, enforces_iff]
  unfold Asserts
  simp only [and_or_left, exists_or]
  exact or_congr (Text.exists_mem_take_lines_iff (by decide) (by decide) (by decide))
    (Text.exists_mem_take_lines_iff (by decide) (by decide) (by decide))

/-! ## The line of an arm -/

theorem stripStatus_append {gap rest : List Char} {a b c : Char}
    (hgap : ∀ x ∈ gap, Text.isWhitespace x = true) (ha : a.isDigit = true)
    (hb : b.isDigit = true) (hc : c.isDigit = true) :
    stripStatus (gap ++ a :: b :: c :: rest) = some rest := by
  unfold stripStatus
  rw [Text.trimStart_append_cons hgap (Text.isWhitespace_of_isDigit ha)]
  dsimp only
  rw [ha, hb, hc]
  rfl

theorem opensArm_append {gap gap' rest : List Char}
    (hgap : ∀ x ∈ gap, Text.isWhitespace x = true)
    (hgap' : ∀ x ∈ gap', Text.isWhitespace x = true) :
    opensArm (gap ++ ("=>".toList ++ (gap' ++ '\x7b' :: rest))) = true := by
  unfold opensArm
  have htrim : Text.trimStart (gap ++ ("=>".toList ++ (gap' ++ '\x7b' :: rest))) =
      "=>".toList ++ (gap' ++ '\x7b' :: rest) := Text.trimStart_append_cons hgap (by decide)
  rw [htrim, Pattern.stripPrefix_append, Option.any_some,
    Text.trimStart_append_cons hgap' (by decide)]
  rfl

theorem closesPattern_append (front rest : List Char) (h : opensArm rest = true) :
    closesPattern (front ++ ')' :: rest) = true := by
  refine List.any_eq_true.mpr ⟨')' :: rest, (List.mem_tails _ _).mpr (List.suffix_append _ _), ?_⟩
  rw [List.tail_cons, h]
  rfl

theorem armKind_ne_none_iff :
    armKind line ≠ none ↔ isNumericArm line = true ∨ isOkArm line = true ∨
      isErrStatusArm line = true := by
  unfold armKind
  split_ifs with hnumeric hok herr <;> simp [*]

theorem text_parens (name : String) (inner : List Token) :
    RustTokens.text (spell name ++ (inner ++ [.closing .paren])) =
      RustTokens.text (spell name) ++ (RustTokens.text inner ++ [')']) := by
  rw [RustTokens.text_append, RustTokens.text_append]
  rfl

theorem isOkArm_append {indent inner behind : List Char}
    (hindent : ∀ x ∈ indent, Text.isWhitespace x = true) (hopens : opensArm behind = true) :
    isOkArm (indent ++ ("Ok(".toList ++ (inner ++ ')' :: behind))) = true := by
  have htrim : Text.trimStart (indent ++ ("Ok(".toList ++ (inner ++ ')' :: behind))) =
      "Ok(".toList ++ (inner ++ ')' :: behind) := Text.trimStart_append_cons hindent (by decide)
  unfold isOkArm
  rw [htrim, Pattern.stripPrefix_append]
  exact closesPattern_append _ _ hopens

/-- The status may stand anywhere between the parentheses. -/
theorem isErrStatusArm_append {indent front gap back behind : List Char} {a b c : Char}
    (hindent : ∀ x ∈ indent, Text.isWhitespace x = true)
    (hgap : ∀ x ∈ gap, Text.isWhitespace x = true) (ha : a.isDigit = true)
    (hb : b.isDigit = true) (hc : c.isDigit = true) (hopens : opensArm behind = true) :
    isErrStatusArm (indent ++ ("Err(".toList ++
      (front ++ ("status:".toList ++ (gap ++ a :: b :: c :: (back ++ ')' :: behind)))))) =
        true := by
  have htrim : Text.trimStart (indent ++ ("Err(".toList ++
      (front ++ ("status:".toList ++ (gap ++ a :: b :: c :: (back ++ ')' :: behind)))))) =
        "Err(".toList ++ (front ++ ("status:".toList ++ (gap ++ a :: b :: c ::
          (back ++ ')' :: behind)))) := Text.trimStart_append_cons hindent (by decide)
  unfold isErrStatusArm
  rw [htrim, Pattern.stripPrefix_append]
  refine List.any_eq_true.mpr
    ⟨"status:".toList ++ (gap ++ a :: b :: c :: (back ++ ')' :: behind)),
      (List.mem_tails _ _).mpr (List.suffix_append _ _), ?_⟩
  rw [Pattern.stripPrefix_append, Option.bind_some, stripStatus_append hgap ha hb hc]
  exact closesPattern_append _ _ hopens

/-- The line of an arm is taken for one. -/
theorem armKind_head (arm : MatchArm) (more : List Char) :
    armKind (RustTokens.text arm.head ++ '\x7b' :: more) ≠ none := by
  obtain ⟨hindent, hgap, hgap'⟩ := arm.blank
  have hindent := fun c hc => (hindent c hc).1
  -- behind the pattern
  have hopens : opensArm (RustTokens.text arm.gap ++
      ("=>".toList ++ (RustTokens.text arm.gap' ++ '\x7b' :: more))) = true :=
    opensArm_append (fun c hc => (hgap c hc).1) (fun c hc => (hgap' c hc).1)
  have htext : RustTokens.text arm.head ++ '\x7b' :: more =
      RustTokens.text arm.indent ++ (RustTokens.text arm.pattern ++ (RustTokens.text arm.gap ++
        ("=>".toList ++ (RustTokens.text arm.gap' ++ '\x7b' :: more)))) := by
    unfold MatchArm.head
    simp only [RustTokens.text_append, List.append_assoc]
    rfl
  rw [armKind_ne_none_iff, htext]
  generalize RustTokens.text arm.gap ++ ("=>".toList ++ (RustTokens.text arm.gap' ++
    '\x7b' :: more)) = behind at hopens
  have hpattern := arm.isPattern
  generalize arm.pattern = pattern at hpattern
  cases hpattern with
  | numeric a b c ha hb hc =>
    refine .inl ?_
    unfold isNumericArm
    rw [show RustTokens.text [.char a, .char b, .char c] ++ behind = a :: b :: c :: behind from rfl,
      stripStatus_append hindent ha hb hc]
    exact hopens
  | ok inner =>
    refine .inr (.inl ?_)
    rw [text_parens, List.append_assoc, List.append_assoc]
    exact isOkArm_append hindent hopens
  | errStatus inner front gap back a b c hspaces ha hb hc hinner =>
    refine .inr (.inr ?_)
    rw [text_parens, hinner]
    simp only [List.append_assoc, List.cons_append]
    exact isErrStatusArm_append hindent hspaces ha hb hc hopens

/-! ## What is reported for an arm -/

namespace Arm

variable (arm : Arm content)

theorem newline_notMem_header : '\n' ∉ arm.header := by
  obtain ⟨hindent, hgap, hgap'⟩ := arm.blank
  unfold header MatchArm.head
  simp only [RustTokens.text_append, List.mem_append, not_or]
  exact ⟨fun h => (hindent _ h).2 rfl, arm.pattern_line, fun h => (hgap _ h).2 rfl, by decide,
    fun h => (hgap' _ h).2 rfl⟩

theorem drop_lines : (Text.lines content).drop arm.lineIndex = Text.lines arm.text := by
  have htext : RustTokens.text (arm.front ++ (arm.head ++
      .opening .brace :: (arm.body ++ .closing .brace :: arm.back))) =
        RustTokens.text arm.front ++ arm.text := by
    rw [RustTokens.text_append, RustTokens.text_append, RustTokens.text_cons,
      RustTokens.text_append, RustTokens.text_cons]
    rfl
  rw [arm.isText, htext]
  unfold lineIndex
  rw [Text.drop_lines, arm.starts_line]
  rfl

/-- The line of the arm has its opening brace. -/
theorem exists_line : ∃ more,
    (Text.lines content)[arm.lineIndex]? = some (arm.header ++ '\x7b' :: more) := by
  rw [← List.head?_drop, drop_lines]
  exact Text.exists_head_lines arm.newline_notMem_header (by decide) (by decide)

theorem firstLines_text (hn : 0 < n) : Text.firstLines n arm.text =
    arm.header ++ '\x7b' :: Text.firstLines n (arm.block ++ '\x7d' :: arm.rest) := by
  have hheader : arm.header.count '\n' = 0 :=
    List.count_eq_zero_of_not_mem arm.newline_notMem_header
  obtain ⟨n, rfl⟩ := Nat.exists_eq_succ_of_ne_zero hn.ne'
  unfold text
  rw [Text.firstLines_append, hheader, if_pos hn, Nat.sub_zero, Text.firstLines,
    if_neg (by decide)]

/-- A word without braces on the first lines. -/
theorem infix_firstLines_iff {word : List Char} (hn : 0 < n)
    (hword : ∀ c ∈ ['\x7b', '\x7d'], c ∉ word) :
    word <:+: Text.firstLines n arm.text ↔ word <:+: arm.header ∨
      word <:+: Text.firstLines n arm.block ∨ word <:+: if arm.block.count '\n' < n then
        Text.firstLines (n - arm.block.count '\n') arm.rest else [] := by
  have hopen : '\x7b' ∉ word := hword _ List.mem_cons_self
  have hclose : '\x7d' ∉ word := hword _ (List.mem_cons_of_mem _ List.mem_cons_self)
  rw [arm.firstLines_text hn, Text.infix_append_cons_iff hopen, Text.firstLines_append]
  refine or_congr_right ?_
  split_ifs with hends
  · obtain ⟨k, hk⟩ := Nat.exists_eq_succ_of_ne_zero (Nat.sub_pos_of_lt hends).ne'
    rw [hk, Text.firstLines, if_neg (by decide), Text.infix_append_cons_iff hclose,
      Text.firstLines_of_count_lt hends]
  · refine (or_iff_left_of_imp fun hnil => ?_).symm
    rw [List.infix_nil.mp hnil]
    exact List.nil_infix

/-- The lines that are read have an assertion iff the arm has one on them, or it stands beside
    the block. -/
theorem asserts_firstLines_iff :
    Asserts (Text.firstLines (readLines arm.text) arm.text) ↔ Asserts arm.header ∨
      Asserts (Text.firstLines (readLines arm.text) arm.block) ∨ Asserts arm.readBehind := by
  have hn : 0 < readLines arm.text := Nat.succ_pos _
  have hassert := arm.infix_firstLines_iff hn
    (show ∀ c ∈ ['\x7b', '\x7d'], c ∉ "assert".toList by decide)
  have hpanic := arm.infix_firstLines_iff hn
    (show ∀ c ∈ ['\x7b', '\x7d'], c ∉ "panic!".toList by decide)
  refine (or_congr hassert hpanic).trans ?_
  exact or_or_or_comm.trans (or_congr_right or_or_or_comm)

theorem holds_iff : ∃ line, (Text.lines content)[arm.lineIndex]? = some line ∧
    (Rule.assertFreeArm.Holds (Text.lines content) arm.lineIndex line ↔
      ¬Asserts (Text.firstLines (readLines arm.text) arm.text)) := by
  obtain ⟨more, hline⟩ := arm.exists_line
  refine ⟨_, hline, ?_⟩
  show armKind _ ≠ none ∧ armHasEnforcement _ _ = false ↔ _
  rw [← armHasEnforcement_iff arm.drop_lines, Bool.not_eq_true]
  exact and_iff_right (armKind_head arm.toMatchArm more)

theorem seen_iff : arm.Seen ↔
    (¬Asserts (Text.firstLines (readLines arm.text) arm.text) ↔ ¬Asserts arm.block) := by
  have hfirst : Asserts (Text.firstLines (readLines arm.text) arm.block) → Asserts arm.block :=
    Or.imp (·.trans (Text.firstLines_isPrefix _ _).isInfix)
      (·.trans (Text.firstLines_isPrefix _ _).isInfix)
  rw [not_iff_not, asserts_firstLines_iff]
  constructor
  · rintro ⟨hasserts, hquiet⟩
    refine ⟨fun h => ?_, fun h => ?_⟩
    · by_contra hnone
      obtain ⟨hheader, hbehind⟩ := hquiet hnone
      obtain h | h | h := h
      · exact hheader h
      · exact hnone (hfirst h)
      · exact hbehind h
    · obtain h | h | h := hasserts h
      · exact .inr (.inl h)
      · exact .inl h
      · exact .inr (.inr h)
  · intro h
    refine ⟨fun hblock => ?_, fun hnone => ⟨fun hheader => ?_, fun hbehind => ?_⟩⟩
    · obtain h | h | h := h.mpr hblock
      · exact .inr (.inl h)
      · exact .inl h
      · exact .inr (.inr h)
    · exact hnone (h.mp (.inl hheader))
    · exact hnone (h.mp (.inr (.inr hbehind)))

/-- Where the brace characters are balanced as the braces are, the lines of the arm are read. -/
theorem readLines_eq (hcount : arm.lineCount ≤ 30) (hheader : braces arm.header = 0)
    (hkeeps : Nesting.Keeps '\x7b' '\x7d' 0 arm.block) (hblock : braces arm.block = 0)
    (hrest : braces (Text.firstLines 1 arm.rest) ≤ 0) : readLines arm.text = arm.lineCount := by
  have hopen (m : ℕ) (hm : 1 ≤ m) (hle : m ≤ arm.block.count '\n') :
      0 < braces (Text.firstLines m arm.text) := by
    have hfront := hkeeps _ (Text.firstLines_isPrefix m arm.block)
    rw [arm.firstLines_text hm, Text.firstLines_append, if_neg (Nat.not_lt.mpr hle)]
    unfold braces at *
    rw [Nesting.height_append, Nesting.height_cons, Nesting.delta_op, hheader]
    omega
  have hclose : ¬0 < braces (Text.firstLines (1 + arm.block.count '\n') arm.text) := by
    rw [arm.firstLines_text (Nat.le_add_right _ _), Text.firstLines_append, if_pos (by omega),
      Nat.add_sub_cancel, Text.firstLines, if_neg (by decide), Nat.zero_add]
    unfold braces at *
    rw [Nesting.height_append, Nesting.height_cons, Nesting.delta_op, Nesting.height_append,
      Nesting.height_cons, Nesting.delta_cl (by decide), hheader, hblock]
    omega
  unfold lineCount at hcount ⊢
  have hrange : List.range' 1 30 = List.range' 1 (arm.block.count '\n') ++
      List.range' (1 + arm.block.count '\n') (30 - arm.block.count '\n') := by
    rw [List.range'_append_1, Nat.add_sub_cancel' (by omega)]
  have hmore : 30 - arm.block.count '\n' = (29 - arm.block.count '\n') + 1 := by omega
  unfold readLines
  rw [hrange, hmore, List.range'_succ, List.takeWhile_append_of_pos, List.takeWhile_cons,
    if_neg (by simpa using hclose), List.append_nil, List.length_range']
  intro m hm
  rw [List.mem_range'_1] at hm
  exact decide_eq_true (hopen m hm.1 (by omega))

end Arm

/-- The rules are independent and arms judged by their blocks iff no excused string hides a
    rule, and the lines that are read of the arms show what their blocks have. -/
theorem rules_exact_iff (file content : List Char) :
    RulesIndependent file content ∧ ArmsJudged file content ↔
      (∀ idx line, (Text.lines content)[idx]? = some line →
        Excused (Text.lines content) idx line →
          ∀ rule : Rule, rule.IsLater → ¬rule.Holds (Text.lines content) idx line) ∧
        ∀ arm : Arm content, arm.lineCount ≤ 30 → arm.Seen := by
  refine (and_congr_right fun hindependent => ?_).trans (and_congr_left' independent_iff)
  refine forall_congr' fun arm => imp_congr_right fun _ => ?_
  obtain ⟨line, hline, hholds⟩ := arm.holds_iff
  rw [hindependent _ _ hline, hholds, arm.seen_iff]

/-- Behind an assertion the `"Warning` string is excused. -/
def hiddenRule : List Char :=
  "fn t() \x7b\n    assert!(ok);\n    eprintln!(\"Warning: aspirational\");\n\x7d\n".toList

/-- Braces in a string, then an assertion. -/
def cutFile : List Char :=
  "fn t() \x7b\n200 => \x7b\nlog(\"\x7d\x7d\");\nassert!(ok);\n\x7d\n\x7d\n".toList

/-- An arm with a brace in a string. -/
def cutArm : Arm cutFile where
  indent := []
  pattern := [.char '2', .char '0', .char '0']
  gap := spell " "
  gap' := spell " "
  body := spell "\nlog(" ++ .str [.plain '\x7d', .plain '\x7d'] :: spell ");\nassert!(ok);\n"
  blank := by
    unfold IsBlank
    decide +kernel
  isPattern := .numeric _ _ _ (by decide) (by decide) (by decide)
  pattern_balanced := by decide
  pattern_noArrow := by decide
  pattern_line := by decide
  body_balanced := by decide +kernel
  front := spell "fn t() \x7b\n"
  back := spell "\n\x7d\n"
  lexes := by decide +kernel
  isText := by decide +kernel
  starts_line := by decide +kernel

/-- An excused string hides another rule, and braces in a string cut an arm off before its
    assertion. -/
theorem hidden_rule_and_cut_arm :
    ¬RulesIndependent "join.rs".toList hiddenRule ∧
    Reported "join.rs".toList cutFile cutArm.lineIndex .assertFreeArm ∧ Asserts cutArm.block ∧
      ¬ArmsJudged "join.rs".toList cutFile := by
  have hblock : Asserts cutArm.block := by decide +kernel
  have hreported : Reported "join.rs".toList cutFile cutArm.lineIndex .assertFreeArm := by
    have hline : (Text.lines cutFile)[cutArm.lineIndex]? = some "200 => \x7b".toList := by
      decide +kernel
    have hquiet : isWarning "200 => \x7b".toList = false := by decide +kernel
    refine (reported_iff hline).mpr ⟨⟨by decide +kernel, by decide +kernel⟩, fun h => ?_⟩
    exact absurd h.1.1 (by rw [hquiet]; exact Bool.false_ne_true)
  refine ⟨fun hindependent => ?_, hreported, hblock, fun hjudged => ?_⟩
  · have hline : (Text.lines hiddenRule)[2]? =
        some "    eprintln!(\"Warning: aspirational\");".toList := by decide +kernel
    have hexcused : isWarning "    eprintln!(\"Warning: aspirational\");".toList = true ∧
        precedingEnforcement (Text.lines hiddenRule) 2 = true := by decide +kernel
    have hholds : isCommentLine "    eprintln!(\"Warning: aspirational\");".toList = false ∧
        isAspirational "    eprintln!(\"Warning: aspirational\");".toList = true := by
      decide +kernel
    exact independent_iff.mp hindependent 2 _ hline ⟨hexcused.1, .inr hexcused.2⟩ .aspirational
      trivial hholds
  · have hcount : cutArm.lineCount ≤ 30 := by decide +kernel
    exact (hjudged cutArm hcount).mp hreported hblock

end DarkTower.Guard.TestRigidity
