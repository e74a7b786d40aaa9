import DarkTower.Guard.CodePlaces

/-!
# Secrets in logs (`dt-guard/src/rust_log_secrets.rs`)

`scan_file` judges each line by itself: the opener of a log macro, the place of a secret word in
it and `expose_secret(` are looked for on one line.

* `isLogMacro_iff`, `secretInLogShape_isSome_iff`, `exposesSecret_iff`: what the patterns find,
  read off the line.
* `exists_blocking_iff`: when a line has a blocking hit.
-/

namespace DarkTower.Guard.LogSecrets

open DarkTower.Lib
open TestCode (Line computeTestBlockRanges isLineInTestBlock)
open Words (words)

/-! ## The source -/

/-- The macros of `LOG_MACRO_RE`. -/
def logMacros : List (List Char) := ["info", "debug", "warn", "error", "trace"].map String.toList

/-- `LOG_MACRO_RE`: `\b(info|debug|warn|error|trace)!\s*\(`. -/
def logMacroRe : List Pattern.Piece :=
  [.boundary, .oneOf logMacros, .text ['!'], .spaces, .text ['(']]

/-- `EXPOSE_SECRET_RE`: `expose_secret\s*\(`. -/
def exposeSecretRe : List Pattern.Piece := [.text "expose_secret".toList, .spaces, .text ['(']]

/-- `ERROR_CTOR_RE`: `(Err\(|anyhow!|bail!|context\()`. -/
def errorCtors : List (List Char) := ["Err(", "anyhow!", "bail!", "context("].map String.toList

/-- The words of `DEBUG_FMT_RE`. -/
def debugWords : List (List Char) :=
  ["request", "req", "response", "res", "body", "payload", "credentials", "auth", "login"].map
    String.toList

variable (wide : Char → Bool)

/-- `\{[^}]*\b(A)\b[^}]*\}` behind its `{`, greedy: the last word that can be captured. -/
def bracesAt (cs : List Char) : Option (List Char) :=
  (Text.cutAt '\x7d' cs).bind fun x =>
    (words (Pattern.isWord wide) x.1).reverse.find? (· ∈ piiTokensCategoryA)

/-- `[%?]\s*(A)\b` behind its first character. -/
def markedAt (cs : List Char) : Option (List Char) :=
  let rest := Text.trimStart cs
  piiTokensCategoryA.find? fun token =>
    token.isPrefixOf rest && !(rest.drop token.length).head?.any (Pattern.isWord wide)

/-- `,\s*(A)\s*[,)]` behind its comma. -/
def positionalAt (cs : List Char) : Option (List Char) :=
  let rest := Text.trimStart cs
  piiTokensCategoryA.find? fun token =>
    token.isPrefixOf rest &&
      (Text.trimStart (rest.drop token.length)).head?.any fun c => c = ',' || c = ')'

/-- `SECRET_IN_LOG_SHAPE_RE` at a place of a line. -/
def shapeAt : List Char → Option (List Char)
  | [] => none
  | c :: cs =>
    if c = '\x7b' then bracesAt wide cs
    else if c = '%' || c = '?' then markedAt wide cs
    else if c = ',' then positionalAt cs
    else none

/-- What `SECRET_IN_LOG_SHAPE_RE` captures; all its words are tokens of the vocabulary. -/
def secretInLogShape (line : Line) : Option (List Char) := line.tails.findSome? (shapeAt wide)

/-- The line has a log macro. -/
def isLogMacro (line : Line) : Bool := (Pattern.find wide logMacroRe none line).isSome

/-- The line calls `expose_secret`. -/
def exposesSecret (line : Line) : Bool := (Pattern.find wide exposeSecretRe none line).isSome

/-- The line makes an error. -/
def isErrorCtor (line : Line) : Bool := errorCtors.any (Text.contains line)

/-- `DEBUG_FMT_RE`: one of the words and a later `{:?}`, or the other way round. -/
def isDebugFmt (line : Line) : Bool :=
  (line.inits.zip line.tails).any fun x =>
    "\x7b:?\x7d".toList.isPrefixOf x.2 &&
      (words (Pattern.isWord wide) x.1 ++ words (Pattern.isWord wide) (x.2.drop 4)).any
        (· ∈ debugWords)

/-- The markers of `is_allowed_line`. -/
def allowMarkers : List (List Char) :=
  ["REDACTED", "[REDACTED]", "skip_all", "// guard:ignore"].map String.toList

/-- `is_allowed_line` (rust_log_secrets.rs:135). -/
def isAllowedLine (line : Line) : Bool := allowMarkers.any (Text.contains line)

/-- `Hit` (rust_log_secrets.rs:152). -/
structure Hit where
  ruleId : List Char
  patternName : List Char
  file : List Char
  line : ℕ
  isWarning : Bool
deriving DecidableEq

/-- Check 1. -/
def instrumentNoSkip (line : Line) : Bool :=
  Text.contains line "#[instrument".toList && !Text.contains line "skip(".toList &&
    !Text.contains line "skip_all".toList

/-- Check 4. -/
def secretTracingField (line : Line) : Bool :=
  (Text.contains line "tracing::".toList || Text.contains line "#[instrument".toList) &&
    Text.contains line ['='] && (Text.contains line ['%'] || Text.contains line ['?'])

/-- What one iteration of `scan_file` reports. -/
def scanLine (path : List Char) (ranges : List (ℕ × ℕ)) (line : Line) (idx : ℕ) : List Hit :=
  let hit (ruleId : String) (patternName : List Char) : Hit :=
    ⟨ruleId.toList, patternName, path, idx + 1, false⟩
  let secretTok := secretWord wide line
  if isCommentLine line || isAllowedLine line then []
  else if isLineInTestBlock ranges (idx + 1) then []
  else
    (if instrumentNoSkip line then (secretTok.map (hit "instrument_no_skip")).toList else []) ++
    (if isLogMacro wide line then
      ((secretInLogShape wide line).map (hit "secret_in_log_macro")).toList ++
        if exposesSecret wide line then [hit "expose_secret_in_log" "expose_secret".toList] else []
      else []) ++
    (if secretTracingField line then (secretTok.map (hit "secret_in_tracing_field")).toList
      else []) ++
    (if isErrorCtor line && Text.contains line ['\x7b'] then
      (secretTok.map (hit "secret_in_error_message")).toList else []) ++
    if isDebugFmt wide line && !Text.contains line "#[derive".toList then
      [⟨"debug_fmt_heuristic".toList, "debug_format_on_credential_struct".toList, path, idx + 1,
        true⟩]
    else []

/-- `scan_file` (rust_log_secrets.rs:160). -/
def scanFile (path content : List Char) : List Hit :=
  (Text.lines content).zipIdx.flatMap fun x =>
    scanLine wide path (computeTestBlockRanges content) x.1 x.2

/-! ## What the patterns are for -/

/-- The line has the opener of a log macro. -/
def OpensLog (line : Line) : Prop :=
  ∃ before name gap after, line = before ++ (name ++ '!' :: (gap ++ '(' :: after)) ∧
    name ∈ logMacros ∧ (∀ c ∈ before.getLast?, Pattern.isWord wide c = false) ∧
    ∀ c ∈ gap, Text.isWhitespace c = true

/-- `expose_secret(` is on the line. -/
def Exposes (line : Line) : Prop :=
  ∃ before gap after, line = before ++ ("expose_secret".toList ++ (gap ++ '(' :: after)) ∧
    ∀ c ∈ gap, Text.isWhitespace c = true

/-- The word stands between a brace and the next closing one. -/
def InBraces (word : List Char) (line : Line) : Prop :=
  ∃ before inner after, line = before ++ '\x7b' :: (inner ++ '\x7d' :: after) ∧
    '\x7d' ∉ inner ∧ word ∈ words (Pattern.isWord wide) inner

/-- The word stands behind a `%` or `?`. -/
def Marked (word : List Char) (line : Line) : Prop :=
  ∃ before mark gap after, line = before ++ mark :: (gap ++ (word ++ after)) ∧
    (mark = '%' ∨ mark = '?') ∧ (∀ c ∈ gap, Text.isWhitespace c = true) ∧
    ∀ c ∈ after.head?, Pattern.isWord wide c = false

/-- The word stands between a comma and a comma or parenthesis. -/
def Positional (word : List Char) (line : Line) : Prop :=
  ∃ before gap gap' close after,
    line = before ++ ',' :: (gap ++ (word ++ (gap' ++ close :: after))) ∧
    (close = ',' ∨ close = ')') ∧ (∀ c ∈ gap, Text.isWhitespace c = true) ∧
    ∀ c ∈ gap', Text.isWhitespace c = true

/-- A word of Category A stands where a log macro would show it. -/
def ShowsSecret (line : Line) : Prop :=
  ∃ word ∈ piiTokensCategoryA, InBraces wide word line ∨ Marked wide word line ∨
    Positional word line

/-- The line has a word of Category A. -/
def NamesSecret (line : Line) : Prop :=
  ∃ word ∈ piiTokensCategoryA, word ∈ words (Pattern.isWord wide) line

/-- The line is passed over, as a comment, by a marker, or as one of a test block. -/
def PassedOver (ranges : List (ℕ × ℕ)) (line : Line) (idx : ℕ) : Prop :=
  isCommentLine line = true ∨ isAllowedLine line = true ∨ isLineInTestBlock ranges (idx + 1) = true

/-- What makes a hit of a line that is not passed over. -/
def Blocks (line : Line) : Prop :=
  OpensLog wide line ∧ (ShowsSecret wide line ∨ Exposes line) ∨
    NamesSecret wide line ∧ (instrumentNoSkip line = true ∨ secretTracingField line = true ∨
      isErrorCtor line = true ∧ '\x7b' ∈ line)

/-! ## What the patterns find -/

section

variable {wide} {line cs word rest : List Char} {c : Char}

/-- A word that starts with no white space stands behind the white space at the start. -/
theorem trimStart_eq_append_iff (hword : word.head?.any fun c => !Text.isWhitespace c) :
    Text.trimStart cs = word ++ rest ↔
      ∃ gap, cs = gap ++ (word ++ rest) ∧ ∀ c ∈ gap, Text.isWhitespace c = true := by
  cases word with
  | nil => cases hword
  | cons c word => exact Words.trimStart_eq_cons_iff (by simpa using hword)

/-- A text, white space and a parenthesis. -/
theorem run_call_iff {prev : Option Char} :
    (Pattern.run wide [.text word, .spaces, .text ['(']] prev cs).isSome = true ↔
      ∃ gap after, cs = word ++ (gap ++ '(' :: after) ∧
        ∀ c ∈ gap, Text.isWhitespace c = true := by
  have hparen {rest after : List Char} : Text.stripPrefix (Text.trimStart rest) ['('] = some after ↔
      ∃ gap, rest = gap ++ '(' :: after ∧ ∀ c ∈ gap, Text.isWhitespace c = true := by
    rw [Pattern.stripPrefix_eq_some_iff]
    exact Words.trimStart_eq_cons_iff (by decide)
  rw [Option.isSome_iff_exists]
  simp only [Pattern.run, Option.bind_eq_some_iff, Pattern.stripPrefix_eq_some_iff]
  simp only [← Pattern.stripPrefix_eq_some_iff (t := ['(']), hparen]
  constructor
  · rintro ⟨-, rest, rfl, after, ⟨gap, rfl, hgap⟩, -⟩
    exact ⟨gap, after, rfl, hgap⟩
  · rintro ⟨gap, after, rfl, hgap⟩
    exact ⟨_, _, rfl, after, ⟨gap, rfl, hgap⟩, rfl⟩

theorem exposesSecret_iff : exposesSecret wide line = true ↔ Exposes line := by
  unfold exposesSecret Exposes
  rw [Pattern.find_isSome_iff]
  simp only [exposeSecretRe, run_call_iff]
  constructor
  · rintro ⟨before, -, rfl, gap, after, rfl, hgap⟩
    exact ⟨before, gap, after, rfl, hgap⟩
  · rintro ⟨before, gap, after, rfl, hgap⟩
    exact ⟨before, _, rfl, gap, after, rfl, hgap⟩

theorem isPrefix_of_find?_logMacros {name : List Char}
    (h : logMacros.find? (·.isPrefixOf cs) = some name) : name <+: cs := by
  have hpre := List.find?_some h
  exact List.isPrefixOf_iff_prefix.mp hpre

theorem find?_logMacros_iff {name : List Char} :
    logMacros.find? (·.isPrefixOf cs) = some name ↔ name ∈ logMacros ∧ name <+: cs := by
  constructor
  · intro h
    exact ⟨List.mem_of_find?_eq_some h, isPrefix_of_find?_logMacros h⟩
  · rintro ⟨hname, hpre⟩
    -- no name starts another one
    have hunique : ∀ f ∈ logMacros, ∀ g ∈ logMacros, f <+: g → f = g := by decide +kernel
    cases hfind : logMacros.find? (·.isPrefixOf cs) with
    | none =>
      have hno := List.find?_eq_none.mp hfind name hname
      exact absurd (List.isPrefixOf_iff_prefix.mpr hpre) hno
    | some found =>
      have hmem := List.mem_of_find?_eq_some hfind
      obtain h | h := List.prefix_or_prefix_of_prefix hpre (isPrefix_of_find?_logMacros hfind)
      · rw [hunique name hname found hmem h]
      · rw [hunique found hmem name hname h]

/-- The names of the macros start with a letter. -/
theorem isWord_of_mem_logMacros {name : List Char} (h : name ∈ logMacros) :
    (name ++ rest).head?.any (Pattern.isWord wide) = true := by
  have hhead : ∀ name ∈ logMacros, name.head?.any
      (fun c => decide (c.toNat < 128) && c.isAlphanum) = true := by decide +kernel
  have hletter := hhead name h
  cases name with
  | nil => cases hletter
  | cons c name =>
    obtain ⟨hascii, halnum⟩ := Bool.and_eq_true_iff.mp hletter
    exact Pattern.isWord_of_alphanum (of_decide_eq_true hascii) halnum

theorem isLogMacro_iff : isLogMacro wide line = true ↔ OpensLog wide line := by
  unfold isLogMacro OpensLog
  rw [Pattern.find_isSome_iff]
  constructor
  · rintro ⟨before, after, rfl, hrun⟩
    rw [logMacroRe, Pattern.run] at hrun
    by_cases hboundary : Pattern.isBoundary wide (before.getLast?.or none) after.head? = true
    · rw [if_pos hboundary, Pattern.run] at hrun
      obtain ⟨captured, hcaptured⟩ := Option.isSome_iff_exists.mp hrun
      obtain ⟨name, hfind, hmore⟩ := Option.bind_eq_some_iff.mp hcaptured
      obtain ⟨hname, tail, rfl⟩ := find?_logMacros_iff.mp hfind
      rw [List.drop_left] at hmore
      have hcall := congrArg Option.isSome hmore
      rw [Option.isSome_map] at hcall
      obtain ⟨gap, after, rfl, hgap⟩ := run_call_iff.mp hcall
      refine ⟨before, name, gap, after, rfl, hname, fun c hc => ?_, hgap⟩
      unfold Pattern.isBoundary at hboundary
      rw [isWord_of_mem_logMacros hname, Option.mem_def.mp hc] at hboundary
      simpa using hboundary
    · rw [if_neg hboundary] at hrun
      cases hrun
  · rintro ⟨before, name, gap, after, rfl, hname, hbefore, hgap⟩
    refine ⟨before, _, rfl, ?_⟩
    have hprev : (before.getLast?.or none).any (Pattern.isWord wide) = false := by
      cases hlast : before.getLast? with
      | none => rfl
      | some c => exact hbefore c hlast
    rw [logMacroRe, Pattern.run_boundary hprev (isWord_of_mem_logMacros hname), Pattern.run,
      find?_logMacros_iff.mpr ⟨hname, List.prefix_append _ _⟩, Option.bind_some, Option.isSome_map,
      List.drop_left]
    exact run_call_iff.mpr ⟨gap, after, rfl, hgap⟩

theorem bracesAt_isSome_iff : (bracesAt wide cs).isSome = true ↔
    ∃ inner after, cs = inner ++ '\x7d' :: after ∧ '\x7d' ∉ inner ∧
      ∃ word ∈ piiTokensCategoryA, word ∈ words (Pattern.isWord wide) inner := by
  unfold bracesAt
  rw [Option.isSome_iff_exists]
  simp only [Option.bind_eq_some_iff, Prod.exists, Text.cutAt_eq_some_iff]
  have hfind {inner : List Char} :
      (∃ word, (words (Pattern.isWord wide) inner).reverse.find? (· ∈ piiTokensCategoryA) =
        some word) ↔ ∃ word ∈ piiTokensCategoryA, word ∈ words (Pattern.isWord wide) inner := by
    rw [← Option.isSome_iff_exists, List.find?_isSome]
    simp only [List.mem_reverse, decide_eq_true_eq, and_comm]
  constructor
  · rintro ⟨word, inner, after, ⟨rfl, hinner⟩, hword⟩
    exact ⟨inner, after, rfl, hinner, hfind.mp ⟨word, hword⟩⟩
  · rintro ⟨inner, after, rfl, hinner, hword⟩
    obtain ⟨word, hfound⟩ := hfind.mpr hword
    exact ⟨word, inner, after, ⟨rfl, hinner⟩, hfound⟩

theorem token_head {token : List Char} (h : token ∈ piiTokensCategoryA) :
    token.head?.any fun c => !Text.isWhitespace c := by
  have hall : ∀ token ∈ piiTokensCategoryA,
      (token.head?.any fun c => !Text.isWhitespace c) = true := by decide +kernel
  exact hall token h

theorem any_eq_false_iff {c? : Option Char} {p : Char → Bool} :
    c?.any p = false ↔ ∀ c ∈ c?, p c = false := by
  cases c? <;> simp

theorem markedAt_isSome_iff : (markedAt wide cs).isSome = true ↔
    ∃ word ∈ piiTokensCategoryA, ∃ gap after, cs = gap ++ (word ++ after) ∧
      (∀ c ∈ gap, Text.isWhitespace c = true) ∧
      ∀ c ∈ after.head?, Pattern.isWord wide c = false := by
  unfold markedAt
  dsimp only
  rw [List.find?_isSome]
  refine exists_congr fun word => and_congr_right fun hword => ?_
  rw [Bool.and_eq_true, List.isPrefixOf_iff_prefix, Bool.not_eq_true', any_eq_false_iff]
  constructor
  · rintro ⟨⟨after, hpre⟩, hafter⟩
    rw [← hpre, List.drop_left] at hafter
    obtain ⟨gap, hcs, hgap⟩ := (trimStart_eq_append_iff (token_head hword)).mp hpre.symm
    exact ⟨gap, after, hcs, hgap, hafter⟩
  · rintro ⟨gap, after, hcs, hgap, hafter⟩
    have htrim := (trimStart_eq_append_iff (token_head hword)).mpr ⟨gap, hcs, hgap⟩
    rw [htrim, List.drop_left]
    exact ⟨List.prefix_append _ _, hafter⟩

theorem positionalAt_isSome_iff : (positionalAt cs).isSome = true ↔
    ∃ word ∈ piiTokensCategoryA, ∃ gap gap' close after,
      cs = gap ++ (word ++ (gap' ++ close :: after)) ∧ (close = ',' ∨ close = ')') ∧
      (∀ c ∈ gap, Text.isWhitespace c = true) ∧ ∀ c ∈ gap', Text.isWhitespace c = true := by
  unfold positionalAt
  dsimp only
  rw [List.find?_isSome]
  refine exists_congr fun word => and_congr_right fun hword => ?_
  rw [Bool.and_eq_true, List.isPrefixOf_iff_prefix]
  constructor
  · rintro ⟨⟨tail, hpre⟩, hclose⟩
    rw [← hpre, List.drop_left] at hclose
    obtain ⟨gap, hcs, hgap⟩ := (trimStart_eq_append_iff (token_head hword)).mp hpre.symm
    cases htrim : Text.trimStart tail with
    | nil =>
      rw [htrim] at hclose
      cases hclose
    | cons close after =>
      rw [htrim] at hclose
      have hclose : close = ',' ∨ close = ')' := by simpa using hclose
      have hspace : Text.isWhitespace close = false := by
        obtain rfl | rfl := hclose <;> decide
      obtain ⟨gap', rfl, hgap'⟩ := (Words.trimStart_eq_cons_iff hspace).mp htrim
      exact ⟨gap, gap', close, after, hcs, hclose, hgap, hgap'⟩
  · rintro ⟨gap, gap', close, after, hcs, hclose, hgap, hgap'⟩
    have htrim := (trimStart_eq_append_iff (token_head hword)).mpr ⟨gap, hcs, hgap⟩
    have hspace : Text.isWhitespace close = false := by
      obtain rfl | rfl := hclose <;> decide
    rw [htrim, List.drop_left, (Words.trimStart_eq_cons_iff hspace).mpr ⟨gap', rfl, hgap'⟩]
    exact ⟨List.prefix_append _ _, by simpa using hclose⟩

/-- A place of a line where the pattern starts. -/
theorem secretInLogShape_isSome_iff :
    (secretInLogShape wide line).isSome = true ↔ ShowsSecret wide line := by
  unfold secretInLogShape ShowsSecret
  rw [List.findSome?_isSome_iff]
  simp only [List.mem_tails]
  constructor
  · rintro ⟨_ | ⟨c, cs⟩, ⟨before, rfl⟩, hshape⟩
    · cases hshape
    rw [shapeAt] at hshape
    split_ifs at hshape with hbrace hmark hcomma
    · obtain ⟨inner, after, rfl, hinner, word, hword, hmem⟩ := bracesAt_isSome_iff.mp hshape
      rw [hbrace]
      exact ⟨word, hword, .inl ⟨before, inner, after, rfl, hinner, hmem⟩⟩
    · obtain ⟨word, hword, gap, after, rfl, hgap, hafter⟩ := markedAt_isSome_iff.mp hshape
      exact ⟨word, hword, .inr (.inl ⟨before, c, gap, after, rfl, by simpa using hmark, hgap,
        hafter⟩)⟩
    · obtain ⟨word, hword, gap, gap', close, after, rfl, hclose, hgap, hgap'⟩ :=
        positionalAt_isSome_iff.mp hshape
      rw [hcomma]
      exact ⟨word, hword, .inr (.inr ⟨before, gap, gap', close, after, rfl, hclose, hgap, hgap'⟩)⟩
    · cases hshape
  · rintro ⟨word, hword, ⟨before, inner, after, rfl, hinner, hmem⟩ |
      ⟨before, mark, gap, after, rfl, hmark, hgap, hafter⟩ |
      ⟨before, gap, gap', close, after, rfl, hclose, hgap, hgap'⟩⟩
    · refine ⟨_, List.suffix_append before _, ?_⟩
      rw [shapeAt, if_pos rfl]
      exact bracesAt_isSome_iff.mpr ⟨inner, after, rfl, hinner, word, hword, hmem⟩
    · have hbrace : mark ≠ '\x7b' := by
        obtain rfl | rfl := hmark <;> decide
      refine ⟨_, List.suffix_append before _, ?_⟩
      rw [shapeAt, if_neg hbrace, if_pos (by simpa using hmark)]
      exact markedAt_isSome_iff.mpr ⟨word, hword, gap, after, rfl, hgap, hafter⟩
    · refine ⟨_, List.suffix_append before _, ?_⟩
      rw [shapeAt, if_neg (by decide), if_neg (by decide), if_pos rfl]
      exact positionalAt_isSome_iff.mpr ⟨word, hword, gap, gap', close, after, rfl, hclose, hgap,
        hgap'⟩

theorem secretWord_isSome_iff : (secretWord wide line).isSome = true ↔ NamesSecret wide line := by
  unfold secretWord NamesSecret
  rw [List.find?_isSome]
  simp only [decide_eq_true_eq, and_comm]

end

/-! ## What is reported -/

section

variable {wide} {path content : List Char} {ranges : List (ℕ × ℕ)} {line : Line} {idx : ℕ}

theorem passedOver_iff : PassedOver ranges line idx ↔
    (isCommentLine line || isAllowedLine line) = true ∨
      isLineInTestBlock ranges (idx + 1) = true := by
  rw [Bool.or_eq_true, or_assoc]
  rfl

theorem line_of_mem_scanLine {hit : Hit} (h : hit ∈ scanLine wide path ranges line idx) :
    hit.line = idx + 1 := by
  have hcapture {captured : Option (List Char)} {ruleId : String}
      (hmem : hit ∈ (captured.map fun token =>
        (⟨ruleId.toList, token, path, idx + 1, false⟩ : Hit)).toList) : hit.line = idx + 1 := by
    obtain ⟨token, -, rfl⟩ := Option.map_eq_some_iff.mp (Option.mem_toList.mp hmem)
    rfl
  unfold scanLine at h
  dsimp only at h
  split at h
  · cases h
  split at h
  · cases h
  simp only [List.mem_append] at h
  obtain (((h | h) | h) | h) | h := h
  · split_ifs at h
    · exact hcapture h
    · cases h
  · split at h
    · obtain h | h := List.mem_append.mp h
      · exact hcapture h
      · split_ifs at h
        · rw [List.mem_singleton.mp h]
        · cases h
    · cases h
  · split_ifs at h
    · exact hcapture h
    · cases h
  · split_ifs at h
    · exact hcapture h
    · cases h
  · split_ifs at h
    · rw [List.mem_singleton.mp h]
    · cases h

/-- A check that reports what it captures. -/
theorem exists_mem_capture_iff {check : Bool} {captured : Option (List Char)}
    {hit : List Char → Hit} (hblocks : ∀ token, (hit token).isWarning = false) :
    (∃ h ∈ if check then (captured.map hit).toList else [], h.isWarning = false) ↔
      check = true ∧ captured.isSome = true := by
  cases check <;> cases captured <;> simp [hblocks]

/-- A line has a blocking hit iff it is not passed over and has what makes one. -/
theorem exists_blocking_iff :
    (∃ hit ∈ scanLine wide path ranges line idx, hit.isWarning = false) ↔
      ¬PassedOver ranges line idx ∧ Blocks wide line := by
  have hblocks (ruleId : String) (token : List Char) :
      (⟨ruleId.toList, token, path, idx + 1, false⟩ : Hit).isWarning = false := rfl
  rw [passedOver_iff]
  unfold scanLine
  dsimp only
  by_cases hskip : (isCommentLine line || isAllowedLine line) = true
  · rw [if_pos hskip]
    simp [hskip]
  rw [if_neg hskip]
  by_cases htest : isLineInTestBlock ranges (idx + 1) = true
  · rw [if_pos htest]
    simp [htest]
  have hmacro {hit : List Char → Hit} {exposed : Hit}
      (hhit : ∀ token, (hit token).isWarning = false) (hexposed : exposed.isWarning = false) :
      (∃ h ∈ if isLogMacro wide line then ((secretInLogShape wide line).map hit).toList ++
          if exposesSecret wide line then [exposed] else [] else [], h.isWarning = false) ↔
        OpensLog wide line ∧ (ShowsSecret wide line ∨ Exposes line) := by
    rw [← isLogMacro_iff, ← secretInLogShape_isSome_iff, ← @exposesSecret_iff wide]
    cases isLogMacro wide line <;> cases secretInLogShape wide line <;>
      cases exposesSecret wide line <;> simp [hhit, hexposed]
  have hwarning : ¬∃ h ∈ if isDebugFmt wide line && !Text.contains line "#[derive".toList then
      [(⟨"debug_fmt_heuristic".toList, "debug_format_on_credential_struct".toList, path, idx + 1,
        true⟩ : Hit)] else [], h.isWarning = false := by
    split_ifs <;> simp
  rw [if_neg htest, and_iff_right (not_or.mpr ⟨hskip, htest⟩)]
  simp only [List.mem_append, or_and_right, exists_or]
  rw [exists_mem_capture_iff (hblocks _), hmacro (hblocks _) rfl,
    exists_mem_capture_iff (hblocks _), exists_mem_capture_iff (hblocks _), or_iff_left hwarning]
  rw [secretWord_isSome_iff, Bool.and_eq_true, Text.contains_iff, List.singleton_infix_iff]
  unfold Blocks
  tauto

/-- A blocking hit of a file is one of a line. -/
theorem exists_blocking_in_file_iff :
    (∃ hit ∈ scanFile wide path content, hit.isWarning = false ∧ hit.line = idx + 1) ↔
      ∃ line, (Text.lines content)[idx]? = some line ∧
        ¬PassedOver (computeTestBlockRanges content) line idx ∧ Blocks wide line := by
  unfold scanFile
  rw [Text.exists_mem_scan_iff fun _ _ hmem => line_of_mem_scanLine hmem]
  simp only [exists_blocking_iff]

end

end DarkTower.Guard.LogSecrets
