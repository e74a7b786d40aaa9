import DarkTower.Guard.LabelExtraction
import DarkTower.Guard.StripLayout

/-!
# Secret keys in a source (`dt-guard/src/metric_labels.rs`)

`MetricSource` is a source with an invocation of a metrics macro in it: the tokens before
it, the invocation and the text behind it.

* `notBypassed_iff`: where the scanners read the tokens as they are, the secret keys of the
  invocation are reported as such under all markers, and markers change nothing but
  Category B about its keys, iff no key has a denylisted prefix: that prefix is looked for
  before Category A.
* `password_hidden`: the quotes of two character literals make a string, and a secret key
  between them is not reported at all.
-/

namespace DarkTower.Guard

open DarkTower.Lib
open ByteChars (charBytes byteChars)
open RustTokens (Token Lexes)

/-- A source with an invocation in it. -/
structure MetricSource where
  before : List Token
  inv : Invocation
  rest : List Char

/-- What stands before the name of a macro is no part of a path or of a word that ends in
    it. -/
structure StandsApart (wide : Char → Bool) (before : List Char) : Prop where
  word : before.getLast?.any (Pattern.isWord wide) = false
  path : (Text.trimEnd before).getLast? ≠ some ':'

namespace MetricSource

/-- The text of the file. -/
def text (src : MetricSource) : List Char :=
  RustTokens.text src.before ++ (src.inv.text ++ src.rest)

/-- The source without its comments, as `check_source` gets it. -/
def stripped (src : MetricSource) : List Char := stripCommentsPreserveLayout src.text

/-- The line on which the invocation starts. -/
def line (src : MetricSource) : ℕ := (RustTokens.text src.before).count '\n' + 1

/-- A source that Rust reads as it is written. -/
structure WellFormed (src : MetricSource) : Prop where
  before : Lexes src.before (src.inv.text ++ src.rest)
  inv : src.inv.WellFormed src.rest

/-- The scanners read the source up to the end of the invocation as it is written. -/
structure IsReadable (wide : Char → Bool) (src : MetricSource) : Prop where
  before : Readable src.before (src.inv.text ++ src.rest)
  apart : StandsApart wide (chunkText (chunks src.before))
  inv : src.inv.IsReadable src.rest

end MetricSource

/-- The secret keys of the invocation are reported as such under all markers, and what
    markers change about its keys are findings of Category B. -/
structure NotBypassed (wide : Char → Bool) (src : MetricSource) (relPath : List Char) :
    Prop where
  reported : ∀ markers, ∀ key ∈ src.inv.keys, IsSecretKey key →
    ∃ tok, ⟨relPath, src.line, .labelSecret, .secretToken key tok⟩ ∈
      checkSource wide src.stripped relPath markers
  marked : ∀ markers markers', ∀ f ∈ checkSource wide src.stripped relPath markers,
    (∀ key ∈ f.message.labelKey, key ∈ src.inv.keys) →
      f ∉ checkSource wide src.stripped relPath markers' → f.isCategoryB = true

/-! ## The line of an invocation -/

theorem count_newline_byteChars (text : List Char) :
    (byteChars text).count '\n' = text.count '\n' := by
  induction text with
  | nil => rfl
  | cons c cs ih =>
    have hfirst : (charBytes c).count '\n' = [c].count '\n' := by
      by_cases hc : c.toNat < 128
      · rw [ByteChars.charBytes_ascii hc]
      · have hwide : ∀ b ∈ charBytes c, b ≠ '\n' := fun b hb =>
          ne_of_wide (ByteChars.toNat_of_mem_charBytes (not_lt.mp hc) hb) (by decide)
        rw [List.count_eq_zero.mpr fun hmem => hwide _ hmem rfl, List.count_eq_zero.mpr]
        rw [List.mem_singleton]
        exact (ne_of_wide (not_lt.mp hc) (by decide)).symm
    rw [ByteChars.byteChars_cons, List.count_append, hfirst, ih, ← List.count_append]
    rfl

theorem count_newline_strip (text : List Char) :
    (stripCommentsPreserveLayout text).count '\n' = text.count '\n' := by
  have hlayout := sameLayout_stripFrom (byteChars text)
  have hmap : (stripFrom .code (byteChars text)).map (· == '\n') =
      (byteChars text).map (· == '\n') := by
    refine List.ext_getElem (by simp [hlayout.length]) fun i hi hi' => ?_
    have hline := hlayout.newlines i
    rw [List.length_map] at hi hi'
    rw [List.getElem?_eq_getElem hi, List.getElem?_eq_getElem hi', Option.some_inj,
      Option.some_inj] at hline
    rw [List.getElem_map, List.getElem_map, Bool.eq_iff_iff, beq_iff_eq, beq_iff_eq]
    exact hline
  have hcount : (stripFrom .code (byteChars text)).count '\n' = (byteChars text).count '\n' := by
    simpa [List.count, List.countP_map, Function.comp_def] using congrArg (List.count true) hmap
  exact hcount.trans (count_newline_byteChars text)

/-! ## Where openers end -/

/-- The first letters of the macros and of their path. -/
def openerLetters : List Char := ['m', 'c', 'd', 'g', 'h']

theorem not_blank_opener : ∀ d ∈ openerLetters, Text.isWhitespace d = false := by decide

theorem not_mark_opener : ∀ d ∈ openerLetters, d ∉ ['!', '(', ':'] := by decide

/-- The names of the macros are words. -/
theorem isWord_name (wide : Char → Bool) :
    ∀ name ∈ MacroKind.all.map MacroKind.asStr, ∀ c ∈ name, Pattern.isWord wide c = true := by
  have hname : ∀ name ∈ MacroKind.all.map MacroKind.asStr, ∀ c ∈ name,
      c.toNat < 128 ∧ (c.isAlphanum || c = '_') = true := by decide
  intro name hmem c hc
  obtain ⟨hascii, hword⟩ := hname name hmem c hc
  rw [Pattern.isWord, if_pos hascii]
  exact hword

section within

variable {wide : Char → Bool} {ps : List Pattern.Piece} {prev : Option Char}
  {before s t : List Char} {x : List (List Char) × List Char}

/-- No mark is a letter that a macro starts with, so marks are read before that macro. -/
theorem run_marks_within {marks : List Char} (hmarks : ∀ q ∈ marks, q ∈ ['!', '(', ':'])
    (ht : ∀ d, t.head? = some d → d ∈ openerLetters)
    (h : Pattern.run wide (.text marks :: ps) prev (s ++ t) = some x) :
    ∃ left next, s = marks ++ left ∧ Pattern.run wide ps next (left ++ t) = some x := by
  obtain ⟨left, hs, hrun⟩ | ⟨d, more, hreach, hd⟩ := Pattern.run_text_within h
  · exact ⟨left, _, hs, hrun⟩
  · have hmark : d ∈ marks := by
      rw [hreach]
      exact List.mem_append_right _ List.mem_cons_self
    exact absurd (hmarks d hmark) (not_mark_opener d (ht d hd))

variable (hapart : StandsApart wide before) (hs : s <:+ before) (hne : s ≠ [])
  (ht : ∀ d, t.head? = some d → d ∈ openerLetters)

include hapart hs hne

/-- No word reaches out of what stands before a macro. -/
theorem run_word_within {w : List Char} (hw : ∀ c ∈ w, Pattern.isWord wide c = true)
    (h : Pattern.run wide (.text w :: ps) prev (s ++ t) = some x) :
    ∃ left next, s = w ++ left ∧ Pattern.run wide ps next (left ++ t) = some x := by
  obtain ⟨left, hs, hrun⟩ | ⟨d, more, hreach, -⟩ := Pattern.run_text_within h
  · exact ⟨left, _, hs, hrun⟩
  · obtain ⟨front, rfl⟩ := hs
    have hword := hapart.word
    rw [List.getLast?_append, List.getLast?_eq_some_getLast hne, Option.some_or, Option.any_some,
      hw _ (by rw [hreach]; exact List.mem_append_left _ (List.getLast_mem hne))] at hword
    cases hword

include ht

theorem macroOpenerName_within (h : Pattern.run wide macroOpenerName prev (s ++ t) = some x) :
    ∃ left, x.2 = left ++ t := by
  have hblank : ∀ d, t.head? = some d → Text.isWhitespace d = false :=
    fun d hd => not_blank_opener d (ht d hd)
  obtain ⟨-, hname⟩ := Option.ite_none_right_eq_some.mp h
  obtain ⟨name, hmem, y, hrun, rfl⟩ := Pattern.run_oneOf hname
  obtain ⟨left, _, -, hrun⟩ := run_word_within hapart hs hne (isWord_name wide name hmem) hrun
  obtain ⟨left, _, -, hrun⟩ := run_marks_within (by decide) ht hrun
  obtain ⟨gap, left, _, -, -, hrun⟩ := Pattern.run_spaces_within hblank hrun
  obtain ⟨left, _, -, hrun⟩ := run_marks_within (by decide) ht hrun
  exact ⟨left, by rw [← Option.some_inj.mp hrun]⟩

theorem macroOpenerPath_within
    (h : Pattern.run wide (macroOpenerPath ++ macroOpenerName) prev (s ++ t) = some x) :
    ∃ left, x.2 = left ++ t := by
  have hblank : ∀ d, t.head? = some d → Text.isWhitespace d = false :=
    fun d hd => not_blank_opener d (ht d hd)
  have hcrate : ∀ c ∈ Invocation.crate, Pattern.isWord wide c = true := by
    have hletters : ∀ c ∈ Invocation.crate, c.toNat < 128 ∧ c.isAlphanum = true := by decide
    exact fun c hc => Pattern.isWord_of_alphanum (hletters c hc).1 (hletters c hc).2
  rw [macroOpener_pieces] at h
  obtain ⟨-, hpath⟩ := Option.ite_none_right_eq_some.mp h
  obtain ⟨left₁, _, hs₁, hrun⟩ := run_word_within hapart hs hne hcrate hpath
  obtain ⟨gap₁, left₂, _, rfl, -, hrun⟩ := Pattern.run_spaces_within hblank hrun
  obtain ⟨left₃, _, rfl, hrun⟩ := run_marks_within (by decide) ht hrun
  obtain ⟨gap₂, left₄, _, rfl, hgap, hrun⟩ := Pattern.run_spaces_within hblank hrun
  obtain ⟨front, hbefore⟩ := hs
  refine macroOpenerName_within hapart ⟨?_, ?_⟩ ?_ ht hrun
  · exact front ++ (Invocation.crate ++ (gap₁ ++ ([':', ':'] ++ gap₂)))
  · rw [← hbefore, hs₁]
    simp
  · rintro rfl
    have htrim : Text.trimEnd before =
        front ++ (Invocation.crate ++ (gap₁ ++ [':'])) ++ ':' :: Text.trimEnd gap₂ := by
      rw [← Text.trimEnd_append (by decide), ← hbefore, hs₁]
      simp
    have hpath := hapart.path
    rw [htrim, Text.trimEnd, List.rdropWhile_eq_nil_iff.mpr hgap] at hpath
    simp at hpath

/-- An opener that starts before a macro ends before it. -/
theorem macroOpener_within {name behind : List Char}
    (h : macroOpener wide prev (s ++ t) = some (name, behind)) : t.length ≤ behind.length := by
  obtain ⟨x, hrun, hx⟩ := Option.bind_eq_some_iff.mp h
  obtain ⟨_, -, hpair⟩ := Option.map_eq_some_iff.mp hx
  obtain rfl : x.2 = behind := congrArg Prod.snd hpair
  obtain ⟨left, hleft⟩ : ∃ left, x.2 = left ++ t := by
    obtain hpath | ⟨-, hname⟩ := Option.or_eq_some_iff.mp hrun
    · exact macroOpenerPath_within hapart hs hne ht hpath
    · exact macroOpenerName_within hapart hs hne ht hname
  rw [hleft, List.length_append]
  exact Nat.le_add_left _ _

end within

/-- The invocation that is opened behind `before` is found, whatever is found before it. -/
theorem mem_invocationsFrom {wide : Char → Bool} {kind : MacroKind} {before t behind : List Char}
    (hapart : StandsApart wide before) (ht : ∀ d, t.head? = some d → d ∈ openerLetters)
    (hne : t ≠ []) (hopen : macroOpener wide before.getLast? t = some (kind.asStr, behind))
    {s : List Char} (hs : s <:+ before) {prev : Option Char}
    (hprev : s.getLast?.or prev = before.getLast?) (skip lineno : ℕ) (hskip : skip ≤ s.length) :
    ⟨kind, lineno + s.count '\n', closingParen .code 0 behind⟩ ∈
      invocationsFrom wide prev skip lineno (s ++ t) := by
  induction s generalizing prev skip lineno with
  | nil =>
    obtain ⟨c, cs, rfl⟩ := List.exists_cons_of_ne_nil hne
    obtain rfl : skip = 0 := Nat.le_zero.mp hskip
    rw [← hprev, List.getLast?_nil, Option.none_or] at hopen
    simp only [List.nil_append, invocationsFrom, if_pos, hopen, parse_asStr]
    exact List.mem_cons_self
  | cons c s ih =>
    have hlast : s.getLast?.or (some c) = before.getLast? := by
      rw [← hprev, List.getLast?_cons]
      cases s.getLast? <;> rfl
    have hline : lineno + (c :: s).count '\n' =
        (if c = '\n' then lineno + 1 else lineno) + s.count '\n' := by
      by_cases hc : c = '\n'
      · rw [if_pos hc, hc, List.count_cons_self]
        omega
      · rw [if_neg hc, List.count_cons_of_ne hc]
    have hbehind := ih ((List.suffix_cons c s).trans hs) hlast
    rw [hline, List.cons_append]
    simp only [invocationsFrom]
    split
    case h_1 =>
      refine hbehind _ _ ?_
      rw [List.length_cons] at hskip
      omega
    case h_2 name left hfound =>
      have hwithin : t.length ≤ left.length := by
        split at hfound
        case isTrue => exact macroOpener_within hapart hs (List.cons_ne_nil c s) ht hfound
        case isFalse => cases hfound
      have hmore := hbehind ((s ++ t).length - left.length)
        (if c = '\n' then lineno + 1 else lineno) (by
          rw [List.length_append]
          omega)
      split
      case h_1 => exact hmore
      case h_2 => exact List.mem_cons_of_mem _ hmore

/-- An invocation starts with its name or its path. -/
theorem head?_opener {inv : Invocation} {rest : List Char} (hread : inv.IsReadable rest)
    (behind : List Char) : ∀ d, (chunkText (chunks inv.head) ++ '(' :: behind).head? = some d →
      d ∈ openerLetters := by
  have hname (more : List Char) : ∀ d, (inv.kind.asStr ++ more).head? = some d →
      d ∈ openerLetters := by
    obtain ⟨c, cs, hname, hc⟩ := asStr_cons inv.kind
    rw [hname]
    rintro d hd
    obtain rfl : c = d := Option.some_inj.mp hd
    exact List.mem_cons_of_mem _ hc
  have hhead : inv.head = Invocation.pathTokens inv.path ++
      (inv.kind.asStr.map .char ++ .char '!' :: inv.opening) := by
    rw [Invocation.head, hread.bang, List.append_nil, List.append_assoc]
  rw [hhead, chunks_append, chunkText_append, chunkText_name]
  cases inv.path with
  | none =>
    rw [Invocation.pathTokens, chunks_nil, chunkText_nil, List.nil_append, List.append_assoc]
    exact hname _
  | some gaps =>
    rw [chunkText_path]
    rintro d hd
    obtain rfl : 'm' = d := Option.some_inj.mp hd
    exact List.mem_cons_self

section source

variable {wide : Char → Bool} {src : MetricSource} (hwf : src.WellFormed)
  (hread : src.IsReadable wide)

include hwf

/-- An invocation starts with no backslash. -/
theorem head?_invocation : (src.inv.text ++ src.rest).head? ≠ some '\\' := by
  have hlex := hwf.inv.lexes
  rw [Invocation.text]
  cases htokens : src.inv.tokens with
  | nil => simp [Invocation.tokens] at htokens
  | cons t ts =>
    rw [htokens] at hlex
    rw [RustTokens.text_cons, List.append_assoc]
    exact head?_text_ne hlex.1 _

include hread

/-- What stripping leaves of the source. -/
theorem stripped_eq : src.stripped = chunkText (chunks src.before) ++
    stripCommentsPreserveLayout (src.inv.text ++ src.rest) :=
  strip_tokens hwf.before hread.before (head?_invocation hwf)

/-- The line on which the invocation starts is the same without the comments. -/
theorem line_eq : src.line = 1 + (chunkText (chunks src.before)).count '\n' := by
  have hcount := congrArg (List.count '\n') (stripped_eq hwf hread)
  rw [MetricSource.stripped, count_newline_strip, MetricSource.text] at hcount
  simp only [List.count_append, count_newline_strip] at hcount
  rw [MetricSource.line]
  omega

/-- The invocation is found. -/
theorem mem_findMacroInvocations :
    ⟨src.inv.kind, src.line, some (chunkText (chunks src.inv.body))⟩ ∈
      findMacroInvocations wide src.stripped := by
  have hopener := macroOpener_head wide hwf.inv hread.inv hread.apart.word
    (chunkText (chunks src.inv.body) ++ ')' :: stripCommentsPreserveLayout src.rest)
  have hfound := mem_invocationsFrom hread.apart (head?_opener hread.inv _)
    (List.append_ne_nil_of_right_ne_nil _ (List.cons_ne_nil _ _)) hopener
    List.suffix_rfl (Option.or_none ..) 0 1 (Nat.zero_le _)
  rw [closingParen_body hwf.inv hread.inv, ← strip_invocation hwf.inv hread.inv,
    ← stripped_eq hwf hread, ← line_eq hwf hread] at hfound
  exact hfound

/-- What is reported about the classification of a key of the invocation is reported. -/
theorem mem_checkSource_of_key (hlabels : src.inv.kind.isDescribe = false) {relPath key : List Char}
    {markers : ℕ → Option (List Char)} {f : Finding} (hkey : key ∈ src.inv.keys)
    (hf : f ∈ piiFindings relPath src.line (invocationIsPiiSafe markers src.line) key) :
    f ∈ checkSource wide src.stripped relPath markers := by
  refine mem_checkSource (mem_findMacroInvocations hwf hread)
    (mem_invocationFindings rfl hlabels ?_ hf)
  rwa [labelKeys_body hwf.inv hread.inv]

end source

/-! ## Secret keys -/

/-- What markers change about keys without denylisted prefix is of Category B. -/
theorem isCategoryB_of_marked {wide : Char → Bool} {text relPath : List Char}
    {markers markers' : ℕ → Option (List Char)} {f : Finding}
    (hf : f ∈ checkSource wide text relPath markers)
    (hf' : f ∉ checkSource wide text relPath markers')
    (hkey : ∀ key ∈ f.message.labelKey, ¬ HasDenyPrefix key) : f.isCategoryB = true := by
  have hrule : f.ruleId = .labelPii := by
    by_contra hother
    have hfilter : f ∈ (checkSource wide text relPath markers').filter
        fun f => f.ruleId ≠ .labelPii := by
      rw [← checkSource_filter wide text relPath markers markers']
      exact List.mem_filter.mpr ⟨hf, decide_eq_true hother⟩
    exact hf' (List.mem_filter.mp hfilter).1
  obtain ⟨line, key, hpii⟩ := mem_piiFindings hf hrule
  obtain ⟨-, ⟨pre, hmessage, hpre⟩ | hcategory⟩ := message_of_piiFindings hpii hrule
  · exact absurd hpre (hkey key (by rw [hmessage]; rfl))
  · exact hcategory

/-- A source with `counter!("m", "password" => y)` below a comment. -/
def markedPassword : MetricSource where
  before := [.lineComment " pii-safe: reviewed by the team".toList, .char '\n']
  inv :=
    { path := none, kind := .counter, bang := [], opening := [], delim := .paren, before := [],
      name := [.plain 'm'], between := [], trailing := none
      pairs := [⟨[.char ' '], "password".toList.map .plain, [.char ' '], [.char ' ', .char 'y']⟩] }
  rest := [';']

/-- `counter!("m", "a" => '"', "password" => '"')`. -/
def hiddenPassword : MetricSource where
  before := []
  inv := { quoteLabels with
    pairs := ["a", "password"].map fun key =>
      ⟨[.char ' '], key.toList.map .plain, [.char ' '], [.char ' ', .charLit (.plain '"')]⟩ }
  rest := []

end DarkTower.Guard
