import DarkTower.Guard.LogSecrets

/-!
# Calls of log macros (`dt-guard/src/rust_log_secrets.rs`)

A call is a list of tokens, over any number of lines. `scan_file` looks for the macro and for what
it would log on one and the same line.

* `blocks_of_oneLine`: the line of a call that stands on one line has what makes a hit.
* `guarded_iff`: a call is guarded iff, where it leaks a secret, one of its lines has by itself
  what makes a hit. On one line this is so.
* `formatted_call_unseen`: a call that is reported on one line and not as the formatter puts it.
-/

namespace DarkTower.Guard.LogSecrets

open DarkTower.Lib
open RustTokens (Token StrItem Delim Balanced)
open TestCode (Line spell computeTestBlockRanges)
open Words (words)

/-! ## Calls -/

/-- `name!(…)`, with any brackets. -/
structure LogCall where
  name : List Char
  bangGap : List Token
  gap : List Token
  delim : Delim
  args : List Token
  name_mem : name ∈ logMacros
  bangGap_isGap : ∀ t ∈ bangGap, t.IsGap
  gap_isGap : ∀ t ∈ gap, t.IsGap
  balanced : Balanced args

namespace LogCall

variable (call : LogCall)

/-- The tokens of the call. -/
def tokens : List Token :=
  call.name.map .char ++ (call.bangGap ++ .char '!' ::
    (call.gap ++ .opening call.delim :: (call.args ++ [.closing call.delim])))

/-- The text of the call. -/
def text : List Char := RustTokens.text call.tokens

end LogCall

/-- What stands between the quotes of a string literal. -/
def literal : Token → Option (List Char)
  | .str items => some (items.flatMap StrItem.text)
  | .rawStr _ content => some content
  | _ => none

/-- One of the arguments, `before` and `after` being the others with the commas. -/
structure IsArgument (args before arg after : List Token) : Prop where
  eq : args = before ++ (arg ++ after)
  balanced : Balanced before
  starts : ∀ t ∈ before.getLast?, t = .char ','
  ends : ∀ t ∈ after.head?, t = .char ','

/-- `inner`, with nothing but gaps around it. -/
def IsAlone (inner arg : List Token) : Prop :=
  ∃ gap gap', arg = gap ++ (inner ++ gap') ∧ (∀ t ∈ gap, t.IsGap) ∧ ∀ t ∈ gap', t.IsGap

/-- `{word}` is in a format string, with or without a specification. -/
def Interpolates (word content : List Char) : Prop :=
  ∃ front spec back, content = front ++ '\x7b' :: (word ++ (spec ++ '\x7d' :: back)) ∧
    Even (front.rtakeWhile (· = '\x7b')).length ∧ '\x7d' ∉ spec ∧
    ∀ c ∈ spec.head?, c = ':' ∨ c = ' '

/-- What makes the arguments of a call leak a secret. -/
inductive Leaks (args : List Token) : Prop
  /-- A word is an argument behind a string. -/
  | positional (word : List Char) (string : Token)
      (front strArg back before arg after : List Token) :
      word ∈ piiTokensCategoryA → (literal string).isSome = true →
      IsArgument args front strArg back → IsAlone [string] strArg →
      IsArgument args before arg after → IsAlone (word.map .char) arg →
      front.length < before.length → Leaks args
  /-- `{word}` in a string. -/
  | interpolated (word content : List Char) (string : Token) :
      word ∈ piiTokensCategoryA → string ∈ args → literal string = some content →
      Interpolates word content → Leaks args
  /-- `%word` or `?word`, with or without the name of the field. -/
  | field (word : List Char) (mark : Char) (label gap shown before after : List Token) :
      word ∈ piiTokensCategoryA → mark = '%' ∨ mark = '?' →
      (∀ t ∈ label.getLast?, t = .char '=') → (∀ t ∈ gap, t.IsGap) →
      IsAlone (word.map .char) shown →
      IsArgument args before (label ++ (gap ++ .char mark :: shown)) after → Leaks args
  /-- `expose_secret(`. -/
  | exposed (front gap back : List Token) :
      args = front ++ (spell "expose_secret" ++ (gap ++ .opening .paren :: back)) →
      (∀ t ∈ gap, t.IsGap) → Leaks args

/-- A call in the code of a source, without an allow marker. -/
structure LogSite where
  call : LogCall
  place : CodePlace call.tokens
  /-- The name is a whole one. -/
  whole : ∀ c ∈ place.textBefore.getLast?, RustTokens.isIdent c = false
  unmarked : isAllowedLine call.text = false

namespace LogSite

variable (site : LogSite)

/-- The line with this index is one of the call. -/
def Spans (idx : ℕ) : Prop :=
  site.place.lineIndex ≤ idx ∧ idx ≤ site.place.lineIndex + site.call.text.count '\n'

/-- A blocking hit is reported for the call. -/
def Reported (wide : Char → Bool) (path : List Char) : Prop :=
  ∃ idx, site.Spans idx ∧ ∃ hit ∈ scanFile wide path site.place.content,
    hit.isWarning = false ∧ hit.line = idx + 1

/-- If the call leaks a secret, it is reported. -/
def Guarded (wide : Char → Bool) (path : List Char) : Prop :=
  Leaks site.call.args → site.Reported wide path

/-- The line with this index is scanned. -/
def Scanned (idx : ℕ) (line : Line) : Prop :=
  (Text.lines site.place.content)[idx]? = some line ∧
    ¬PassedOver (computeTestBlockRanges site.place.content) line idx

/-- The call stands on one line, with no gaps but blanks and none before the `!`. -/
structure OneLine : Prop where
  newline : '\n' ∉ site.call.text
  cr : '\r' ∉ site.call.text
  bang : site.call.bangGap = []
  paren : site.call.delim = .paren
  blank : ∀ t ∈ site.call.tokens, t.IsGap → t = .char ' ' ∨ t = .char '\t'

end LogSite

/-! ## Calls on one line -/

variable {wide : Char → Bool} {path front rest more word content : List Char}
  {args before arg after gap inner : List Token} {line : Line} {idx : ℕ}

/-- Blanks within a line. -/
def IsBlank (cs : List Char) : Prop := ∀ c ∈ cs, c = ' ' ∨ c = '\t'

theorem IsBlank.isWhitespace (h : IsBlank front) : ∀ c ∈ front, Text.isWhitespace c = true := by
  intro c hc
  obtain rfl | rfl := h c hc <;> decide

/-- A token that is a blank if it is a gap. -/
def Plain (t : Token) : Prop := t.IsGap → t = .char ' ' ∨ t = .char '\t'

theorem isBlank_text (hgap : ∀ t ∈ gap, t.IsGap) (hplain : ∀ t ∈ gap, Plain t) :
    IsBlank (RustTokens.text gap) := by
  intro c hc
  obtain ⟨t, ht, hc⟩ := List.mem_flatMap.mp hc
  obtain rfl | rfl := hplain t ht (hgap t ht)
  · exact .inl (List.mem_singleton.mp hc)
  · exact .inr (List.mem_singleton.mp hc)

theorem text_chars (word : List Char) : RustTokens.text (word.map .char) = word := by
  induction word with
  | nil => rfl
  | cons c word ih => rw [List.map_cons, RustTokens.text_cons, ih]; rfl

theorem IsAlone.text_eq (h : IsAlone inner arg) (hplain : ∀ t ∈ arg, Plain t) :
    ∃ gap gap', RustTokens.text arg = gap ++ (RustTokens.text inner ++ gap') ∧ IsBlank gap ∧
      IsBlank gap' := by
  obtain ⟨gap, gap', rfl, hgap, hgap'⟩ := h
  refine ⟨RustTokens.text gap, RustTokens.text gap', ?_, isBlank_text hgap fun t ht => ?_,
    isBlank_text hgap' fun t ht => ?_⟩
  · rw [RustTokens.text_append, RustTokens.text_append]
  · exact hplain t (List.mem_append_left _ ht)
  · exact hplain t (List.mem_append_right _ (List.mem_append_right _ ht))

/-- Behind an argument stands a comma or the parenthesis of the call. -/
theorem IsArgument.exists_close (h : IsArgument args before arg after) (more : List Char) :
    ∃ close tail, (close = ',' ∨ close = ')') ∧ RustTokens.text args ++ ')' :: more =
      RustTokens.text before ++ (RustTokens.text arg ++ close :: tail) := by
  rw [h.eq, RustTokens.text_append, RustTokens.text_append, List.append_assoc, List.append_assoc]
  have hends := h.ends
  cases after with
  | nil => exact ⟨')', more, .inr rfl, rfl⟩
  | cons t after =>
    obtain rfl := hends t rfl
    exact ⟨',', RustTokens.text after ++ ')' :: more, .inl rfl, rfl⟩

theorem literal_text {t : Token} (h : literal t = some content) :
    ∃ front back, t.text = front ++ (content ++ back) := by
  cases t with
  | str items =>
    obtain rfl := Option.some.inj h
    exact ⟨['"'], ['"'], rfl⟩
  | rawStr hashes raw =>
    obtain rfl := Option.some.inj h
    refine ⟨'r' :: List.replicate hashes '#' ++ ['"'], '"' :: List.replicate hashes '#', ?_⟩
    simp [Token.text]
  | char | opening | closing | charLit | lifetime | lineComment | blockComment => cases h

/-- The words of Category A are made of letters and underscores. -/
theorem token_chars (wide : Char → Bool) (hword : word ∈ piiTokensCategoryA) :
    word ≠ [] ∧ '\x7d' ∉ word ∧ ∀ c ∈ word, Pattern.isWord wide c = true := by
  have hall : ∀ word ∈ piiTokensCategoryA, word ≠ [] ∧ '\x7d' ∉ word ∧
      ∀ c ∈ word, c.toNat < 128 ∧ (c.isAlphanum || c = '_') = true := by decide +kernel
  obtain ⟨hne, hbrace, hchars⟩ := hall word hword
  refine ⟨hne, hbrace, fun c hc => ?_⟩
  rw [Pattern.isWord, if_pos (hchars c hc).1]
  exact (hchars c hc).2

/-- An interpolation is between braces. -/
theorem inBraces_of_interpolates (wide : Char → Bool) (hword : word ∈ piiTokensCategoryA)
    (h : Interpolates word content) (front rest : List Char) :
    InBraces wide word (front ++ (content ++ rest)) := by
  obtain ⟨before, spec, back, rfl, -, hspec, hhead⟩ := h
  obtain ⟨hne, hbrace, hchars⟩ := token_chars wide hword
  refine ⟨front ++ before, word ++ spec, back ++ rest, by simp, ?_, ?_⟩
  · exact fun hmem => (List.mem_append.mp hmem).elim hbrace hspec
  cases spec with
  | nil =>
    rw [List.append_nil, Words.words_run hchars, if_neg hne]
    exact List.mem_singleton_self _
  | cons c spec =>
    have hsep : Pattern.isWord wide c = false := by
      obtain rfl | rfl := hhead c rfl <;> rfl
    rw [Words.words_append hchars hsep, if_neg hne]
    exact List.mem_append_left _ (List.mem_singleton_self _)

theorem IsArgument.plain (h : IsArgument args before arg after) (hplain : ∀ t ∈ args, Plain t) :
    ∀ t ∈ arg, Plain t := by
  intro t ht
  refine hplain t ?_
  rw [h.eq]
  exact List.mem_append_right _ (List.mem_append_left _ ht)

/-- An argument that has one in front of it stands behind a comma. -/
theorem positional_of_argument (h : IsArgument args before arg after) (hne : before ≠ [])
    (halone : IsAlone (word.map .char) arg) (hplain : ∀ t ∈ args, Plain t) :
    Positional word (front ++ (RustTokens.text args ++ ')' :: more)) := by
  obtain ⟨gap, gap', htext, hgap, hgap'⟩ := halone.text_eq (h.plain hplain)
  obtain ⟨close, tail, hclose, hline⟩ := h.exists_close more
  have hlast := h.starts _ (List.getLast?_eq_getLast_of_ne_nil hne)
  have hbefore : RustTokens.text before = RustTokens.text before.dropLast ++ [','] := by
    conv_lhs => rw [← List.dropLast_concat_getLast hne, hlast, RustTokens.text_append]
    rfl
  refine ⟨front ++ RustTokens.text before.dropLast, gap, gap', close, tail, ?_, hclose,
    hgap.isWhitespace, hgap'.isWhitespace⟩
  rw [hline, htext, text_chars, hbefore]
  simp

/-- An interpolation in one of the strings is between braces. -/
theorem inBraces_of_literal {string : Token} (hword : word ∈ piiTokensCategoryA)
    (hmem : string ∈ args) (hliteral : literal string = some content)
    (h : Interpolates word content) :
    InBraces wide word (front ++ (RustTokens.text args ++ ')' :: more)) := by
  obtain ⟨before, after, rfl⟩ := List.append_of_mem hmem
  obtain ⟨quote, quote', htext⟩ := literal_text hliteral
  have hin := inBraces_of_interpolates wide hword h (front ++ (RustTokens.text before ++ quote))
    (quote' ++ (RustTokens.text after ++ ')' :: more))
  rw [RustTokens.text_append, RustTokens.text_cons, htext]
  simpa only [List.append_assoc] using hin

/-- What a field shows stands behind its mark. -/
theorem marked_of_field {label shown : List Token} {mark : Char} (hmark : mark = '%' ∨ mark = '?')
    (h : IsArgument args before (label ++ (gap ++ .char mark :: shown)) after)
    (hshown : IsAlone (word.map .char) shown) (hplain : ∀ t ∈ args, Plain t) :
    Marked wide word (front ++ (RustTokens.text args ++ ')' :: more)) := by
  obtain ⟨gap', gap'', htext, hgap', hgap''⟩ :=
    hshown.text_eq fun t ht => h.plain hplain t (by simp [ht])
  obtain ⟨close, tail, hclose, hline⟩ := h.exists_close more
  refine ⟨front ++ (RustTokens.text before ++ (RustTokens.text label ++ RustTokens.text gap)), mark,
    gap', gap'' ++ close :: tail, ?_, hmark, hgap'.isWhitespace, fun c hc => ?_⟩
  · rw [hline, RustTokens.text_append, RustTokens.text_append, RustTokens.text_cons, htext,
      text_chars]
    simp [Token.text]
  -- behind the word stands a blank or the end of the argument
  cases gap'' with
  | nil =>
    obtain rfl := Option.some.inj hc
    obtain rfl | rfl := hclose <;> rfl
  | cons d gap'' =>
    obtain rfl := Option.some.inj hc
    obtain rfl | rfl := hgap'' d List.mem_cons_self <;> rfl

theorem exposes_of_call {before back : List Token}
    (hargs : args = before ++ (spell "expose_secret" ++ (gap ++ .opening .paren :: back)))
    (hgap : ∀ t ∈ gap, t.IsGap) (hplain : ∀ t ∈ args, Plain t) :
    Exposes (front ++ (RustTokens.text args ++ ')' :: more)) := by
  have hblank : IsBlank (RustTokens.text gap) := isBlank_text hgap fun t ht => hplain t (by
    rw [hargs]
    simp [ht])
  have hspell : RustTokens.text (spell "expose_secret") = "expose_secret".toList := by
    decide +kernel
  refine ⟨front ++ RustTokens.text before, RustTokens.text gap,
    RustTokens.text back ++ ')' :: more, ?_, hblank.isWhitespace⟩
  rw [hargs, RustTokens.text_append, RustTokens.text_append, RustTokens.text_append,
    RustTokens.text_cons, hspell]
  simp [Token.text, Delim.opening]

/-- What leaks a secret is seen on a line that has all of the arguments. -/
theorem shows_or_exposes (hleak : Leaks args) (hplain : ∀ t ∈ args, Plain t) :
    ShowsSecret wide (front ++ (RustTokens.text args ++ ')' :: more)) ∨
      Exposes (front ++ (RustTokens.text args ++ ')' :: more)) := by
  cases hleak with
  | positional word string first strArg back before arg after hword _ _ _ harg halone hlt =>
    have hne : before ≠ [] := List.ne_nil_of_length_pos (Nat.zero_lt_of_lt hlt)
    exact .inl ⟨word, hword, .inr (.inr (positional_of_argument harg hne halone hplain))⟩
  | interpolated word content string hword hmem hliteral hinterpolates =>
    exact .inl ⟨word, hword, .inl (inBraces_of_literal hword hmem hliteral hinterpolates)⟩
  | field word mark label gap shown before after hword hmark _ _ hshown harg =>
    exact .inl ⟨word, hword, .inr (.inl (marked_of_field hmark harg hshown hplain))⟩
  | exposed before gap back hargs hgap => exact .inr (exposes_of_call hargs hgap hplain)

namespace LogSite

variable {site : LogSite}

theorem OneLine.text_eq (h : site.OneLine) : ∃ gap, IsBlank gap ∧
    site.call.text = site.call.name ++ '!' :: (gap ++ '(' ::
      (RustTokens.text site.call.args ++ [')'])) := by
  refine ⟨RustTokens.text site.call.gap, isBlank_text site.call.gap_isGap fun t ht => ?_, ?_⟩
  · refine h.blank t ?_
    unfold LogCall.tokens
    simp [ht]
  · unfold LogCall.text LogCall.tokens
    rw [h.bang, h.paren]
    simp [text_chars, RustTokens.Token.text, Delim.opening, Delim.closing]

/-- The first line of a call on one line. -/
theorem OneLine.exists_line (h : site.OneLine) : ∃ more,
    (Text.lines site.place.content)[site.place.lineIndex]? =
      some (site.place.lead ++ (site.call.text ++ more)) := by
  obtain ⟨gap, -, htext⟩ := h.text_eq
  obtain ⟨init, hinit⟩ : ∃ init, site.call.text = init ++ [')'] :=
    ⟨site.call.name ++ '!' :: (gap ++ '(' :: RustTokens.text site.call.args), by rw [htext]; simp⟩
  have hnewline : '\n' ∉ site.place.lead ++ init := by
    have := h.newline
    rw [hinit] at this
    simp only [List.mem_append, not_or] at this ⊢
    exact ⟨Text.newline_notMem_lastLine, this.1⟩
  obtain ⟨more, hhead⟩ : ∃ more,
      (Text.lines (site.place.lead ++ init ++ ')' :: site.place.textBehind)).head? =
        some (site.place.lead ++ init ++ ')' :: more) :=
    Text.exists_head_lines hnewline (by decide) (by decide)
  refine ⟨more, ?_⟩
  rw [← List.head?_drop, site.place.drop_lines]
  have hcall : RustTokens.text site.call.tokens = init ++ [')'] := hinit
  rw [hcall, hinit]
  simpa only [List.append_assoc, List.singleton_append] using hhead

/-- In front of the macro stands no word. -/
theorem lead_notWord (site : LogSite) :
    ∀ c ∈ site.place.lead.getLast?, Pattern.isWord wide c = false := by
  intro c hc
  have hlast : site.place.textBefore.getLast? = some c := by
    obtain ⟨before, hbefore⟩ : site.place.lead <:+ site.place.textBefore :=
      List.rtakeWhile_suffix _ _
    rw [← hbefore, List.getLast?_append, Option.mem_def.mp hc]
    rfl
  have hident := site.whole c hlast
  unfold RustTokens.isIdent at hident
  simp only [Bool.or_eq_false_iff, decide_eq_false_iff_not, not_le] at hident
  rw [Pattern.isWord, if_pos hident.2, hident.1.1, decide_eq_false hident.1.2]
  rfl

/-- The line of a call on one line has what makes a hit. -/
theorem OneLine.blocks (h : site.OneLine) (hleak : Leaks site.call.args) (more : List Char) :
    Blocks wide (site.place.lead ++ (site.call.text ++ more)) := by
  obtain ⟨gap, hgap, htext⟩ := h.text_eq
  have hplain : ∀ t ∈ site.call.args, Plain t := fun t ht => h.blank t (by
    unfold LogCall.tokens
    simp [ht])
  have hline : site.place.lead ++ (site.call.text ++ more) =
      (site.place.lead ++ (site.call.name ++ '!' :: (gap ++ ['(']))) ++
        (RustTokens.text site.call.args ++ ')' :: more) := by
    rw [htext]
    simp
  refine .inl ⟨⟨site.place.lead, site.call.name, gap,
    RustTokens.text site.call.args ++ ')' :: more, ?_, site.call.name_mem, site.lead_notWord,
    hgap.isWhitespace⟩, ?_⟩
  · rw [hline]
    simp
  · rw [hline]
    exact shows_or_exposes hleak hplain

/-- A call is guarded iff, where it leaks a secret, one of its lines that are scanned has by
    itself what makes a hit. A call on one line that is scanned is guarded. -/
theorem guarded_iff (site : LogSite) (wide : Char → Bool) (path : List Char) :
    (site.Guarded wide path ↔ (Leaks site.call.args →
      ∃ idx line, site.Spans idx ∧ site.Scanned idx line ∧ Blocks wide line)) ∧
    (site.OneLine → (∃ line, site.Scanned site.place.lineIndex line) →
      site.Guarded wide path) := by
  have hguarded : site.Guarded wide path ↔ (Leaks site.call.args →
      ∃ idx line, site.Spans idx ∧ site.Scanned idx line ∧ Blocks wide line) := by
    unfold Guarded Reported Scanned
    simp only [exists_blocking_in_file_iff, exists_and_left, and_assoc]
  refine ⟨hguarded, fun hone ⟨line, hscanned⟩ => hguarded.mpr fun hleak => ?_⟩
  obtain ⟨more, hline⟩ := hone.exists_line
  refine ⟨site.place.lineIndex, line, ⟨le_refl _, Nat.le_add_right _ _⟩, hscanned, ?_⟩
  rw [hscanned.1] at hline
  rw [Option.some.inj hline]
  exact hone.blocks hleak more

end LogSite

/-- A file that has nothing but a call, as a statement. -/
def statement (call : LogCall) (content : List Char)
    (lexes : RustTokens.Lexes (call.tokens ++ spell ";\n") [])
    (balanced : Balanced (call.tokens ++ spell ";\n"))
    (noCfg : ¬spell "cfg(" <:+: (call.tokens ++ spell ";\n").filter fun t => ¬t.IsGap)
    (isText : Text.lines content = Text.lines (RustTokens.text (call.tokens ++ spell ";\n"))) :
    CodePlace call.tokens where
  src :=
    { segments := [.code (call.tokens ++ spell ";\n")]
      lexes := by simpa [TestCode.Segment.tokens] using lexes
      balanced := by simpa [TestCode.Segment.tokens] using balanced
      formed := List.forall_mem_singleton.mpr (formed_code_of_not_cfg noCfg) }
  content := content
  before := []
  front := []
  back := spell ";\n"
  after := []
  segments_eq := rfl
  isText := by
    simpa [TestCode.Source.IsText, TestCode.Source.text, TestCode.Source.tokens,
      TestCode.Segment.tokens] using isText

/-- `info!("t {}", token,)`, with these gaps. -/
def tokenArgs (first second last : String) : List Token :=
  spell first ++ .str ("t \x7b\x7d".toList.map .plain) ::
    (spell "," ++ (spell second ++ ("token".toList.map .char ++ (spell "," ++ spell last))))

/-- As the formatter puts it. -/
def formattedCall : LogCall where
  name := "info".toList
  bangGap := []
  gap := []
  delim := .paren
  args := tokenArgs "\n    " "\n    " "\n"
  name_mem := by decide +kernel
  bangGap_isGap := List.forall_mem_nil _
  gap_isGap := List.forall_mem_nil _
  balanced := by decide +kernel

/-- On one line. -/
def shortCall : LogCall :=
  { formattedCall with
    args := tokenArgs "" " " ""
    balanced := by decide +kernel }

/-- A file with the call as the formatter puts it. -/
def formatted : LogSite where
  call := formattedCall
  place := statement formattedCall "info!(\n    \"t \x7b\x7d\",\n    token,\n);\n".toList
    (by decide +kernel) (by decide +kernel) (by decide +kernel) (by decide +kernel)
  whole := by decide +kernel
  unmarked := by decide +kernel

/-- A file with the call on one line. -/
def short : LogSite where
  call := shortCall
  place := statement shortCall "info!(\"t \x7b\x7d\", token,);\n".toList
    (by decide +kernel) (by decide +kernel) (by decide +kernel) (by decide +kernel)
  whole := by decide +kernel
  unmarked := by decide +kernel

theorem leaks_formattedCall : Leaks formattedCall.args := by
  refine .positional "token".toList (.str ("t \x7b\x7d".toList.map .plain)) []
    (spell "\n    " ++ [.str ("t \x7b\x7d".toList.map .plain)])
    (spell "," ++ (spell "\n    " ++ ("token".toList.map .char ++ (spell "," ++ spell "\n"))))
    (spell "\n    " ++ .str ("t \x7b\x7d".toList.map .plain) :: spell ",")
    (spell "\n    " ++ "token".toList.map .char) (spell "," ++ spell "\n") (by decide +kernel) rfl
    ⟨by decide +kernel, rfl, by decide +kernel, by decide +kernel⟩
    ⟨spell "\n    ", [], rfl, by decide +kernel, List.forall_mem_nil _⟩
    ⟨by decide +kernel, by decide +kernel, by decide +kernel, by decide +kernel⟩
    ⟨spell "\n    ", [], by decide +kernel, by decide +kernel, List.forall_mem_nil _⟩
    (by decide +kernel)

/-- The same tokens are reported on one line, and not as the formatter puts them. -/
theorem formatted_call_unseen :
    formattedCall.tokens.filter (fun t => ¬t.IsGap) = shortCall.tokens.filter (fun t => ¬t.IsGap) ∧
      ∀ (wide : Char → Bool) (path : List Char), short.Reported wide path ∧
        Leaks formatted.call.args ∧ ¬formatted.Guarded wide path := by
  refine ⟨by decide +kernel, fun wide path => ⟨?_, leaks_formattedCall, fun hguarded => ?_⟩⟩
  · have hscan : scanFile wide path short.place.content =
        [⟨"secret_in_log_macro".toList, "token".toList, path, 1, false⟩] := by
      with_unfolding_all rfl
    refine ⟨0, by unfold LogSite.Spans; decide +kernel, ?_⟩
    rw [hscan]
    exact ⟨_, List.mem_singleton_self _, rfl, rfl⟩
  · have hscan : scanFile wide path formatted.place.content = [] := by
      with_unfolding_all rfl
    obtain ⟨idx, -, hit, hmem, -⟩ := hguarded leaks_formattedCall
    rw [hscan] at hmem
    cases hmem

end DarkTower.Guard.LogSecrets
