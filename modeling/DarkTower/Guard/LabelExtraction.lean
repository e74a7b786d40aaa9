import DarkTower.Guard.LabelKeys
import DarkTower.Guard.MetricLabels

/-!
# The label keys of an invocation (`dt-guard/src/metric_labels.rs`)

`Invocation` is the text of a metrics macro with the name of a metric and pairs
`"key" => value`, as tokens. The values are any tokens with matching brackets.

* `labels_recovered`: where the scanners read the tokens as they are (`TokenReadable`), the
  macro is opened by a parenthesis right behind its name and the keys are written in ASCII
  without numeric escapes, the first invocation that is found is this one, and the keys
  extracted from it are its keys.
* `second_key_merged`: the quotes of two character literals make a string, and what stands
  between them is no label any more.
-/

namespace DarkTower.Guard

open DarkTower.Lib
open ByteChars (charBytes byteChars)
open RustTokens (StrItem Token Delim Lexes)

/-! ## Invocations -/

/-- `"key" => value`, with the gaps in it. -/
structure Pair where
  before : List Token
  key : List StrItem
  between : List Token
  value : List Token

namespace Pair

/-- The tokens up to the arrow. -/
def start (p : Pair) : List Token :=
  p.before ++ .str p.key :: p.between ++ [.char '=', .char '>']

/-- The tokens of the pair. -/
def tokens (p : Pair) : List Token := p.start ++ p.value

/-- The tokens in front of the arrow and behind it. -/
def gaps (p : Pair) : List (List Token) := [p.before, p.between]

theorem before_mem (p : Pair) : p.before ∈ p.gaps := List.mem_cons_self

theorem between_mem (p : Pair) : p.between ∈ p.gaps :=
  List.mem_cons_of_mem _ List.mem_cons_self

end Pair

/-- A metrics macro as it is written. -/
structure Invocation where
  /-- The two gaps of `metrics :: `, if the path is written. -/
  path : Option (List Token × List Token)
  kind : MacroKind
  /-- The gap before the exclamation mark. -/
  bang : List Token
  /-- The gap behind it. -/
  opening : List Token
  delim : Delim
  before : List Token
  name : List StrItem
  between : List Token
  pairs : List Pair
  /-- The gap behind a comma at the end. -/
  trailing : Option (List Token)

namespace Invocation

/-- The crate of the macros. -/
def crate : List Char := "metrics".toList

/-- The tokens of the path. -/
def pathTokens : Option (List Token × List Token) → List Token
  | none => []
  | some (g₁, g₂) => crate.map .char ++ (g₁ ++ (.char ':' :: .char ':' :: g₂))

/-- The tokens before the parenthesis. -/
def head (inv : Invocation) : List Token :=
  pathTokens inv.path ++ inv.kind.asStr.map .char ++ inv.bang ++ .char '!' :: inv.opening

/-- The tokens before the first comma. -/
def nameTokens (inv : Invocation) : List Token := inv.before ++ .str inv.name :: inv.between

/-- The tokens between the commas behind the name. -/
def arguments (inv : Invocation) : List (List Token) :=
  inv.pairs.map Pair.tokens ++ inv.trailing.toList

/-- The tokens between the parentheses. -/
def body (inv : Invocation) : List Token :=
  inv.nameTokens ++ inv.arguments.flatMap (.char ',' :: ·)

/-- The tokens of the invocation. -/
def tokens (inv : Invocation) : List Token :=
  inv.head ++ .opening inv.delim :: inv.body ++ [.closing inv.delim]

/-- The text of the invocation. -/
def text (inv : Invocation) : List Char := RustTokens.text inv.tokens

/-- The keys as Rust reads them. -/
def keys (inv : Invocation) : List (List Char) :=
  inv.pairs.map fun p => p.key.flatMap StrItem.value

/-- The gaps before the parenthesis. -/
def headGaps (inv : Invocation) : List (List Token) :=
  (inv.path.toList.flatMap fun g => [g.1, g.2]) ++ [inv.bang, inv.opening]

/-- An invocation that Rust reads as it is written, in front of `rest`. A value has matching
    brackets and no arrow outside them. -/
structure WellFormed (inv : Invocation) (rest : List Char) : Prop where
  lexes : Lexes inv.tokens rest
  headGaps : ∀ gap ∈ inv.headGaps, ∀ t ∈ gap, t.IsGap
  before : ∀ t ∈ inv.before, t.IsGap
  between : ∀ t ∈ inv.between, t.IsGap
  pairGaps : ∀ p ∈ inv.pairs, ∀ gap ∈ p.gaps, ∀ t ∈ gap, t.IsGap
  trailing : ∀ gap ∈ inv.trailing, ∀ t ∈ gap, t.IsGap
  balanced : ∀ p ∈ inv.pairs, RustTokens.Balanced p.value
  noArrow : ∀ p ∈ inv.pairs, RustTokens.NoArrow [] p.value

/-- The scanners read the invocation as it is written: its tokens, the parentheses right
    behind its name and its keys. -/
structure IsReadable (inv : Invocation) (rest : List Char) : Prop where
  tokens : Readable inv.tokens rest
  bang : inv.bang = []
  delim : inv.delim = .paren
  headGaps : ∀ gap ∈ inv.headGaps, ∀ t ∈ gap, GapReadable t
  pairGaps : ∀ p ∈ inv.pairs, ∀ gap ∈ p.gaps, ∀ t ∈ gap, GapReadable t
  keys : ∀ p ∈ inv.pairs, ∀ item ∈ p.key, KeyItem item

end Invocation

/-! ## The opener -/

theorem asStr_ascii (kind : MacroKind) : ∀ c ∈ kind.asStr, c.toNat < 128 := by
  cases kind <;> decide

theorem parse_asStr (kind : MacroKind) : MacroKind.parse kind.asStr = some kind := by
  cases kind <;> decide

theorem asStr_cons (kind : MacroKind) :
    ∃ c cs, kind.asStr = c :: cs ∧ c ∈ ['c', 'd', 'g', 'h'] := by
  cases kind with
  | counter => exact ⟨'c', "ounter".toList, by decide, by decide⟩
  | gauge => exact ⟨'g', "auge".toList, by decide, by decide⟩
  | histogram => exact ⟨'h', "istogram".toList, by decide, by decide⟩
  | describeCounter => exact ⟨'d', "escribe_counter".toList, by decide, by decide⟩
  | describeGauge => exact ⟨'d', "escribe_gauge".toList, by decide, by decide⟩
  | describeHistogram => exact ⟨'d', "escribe_histogram".toList, by decide, by decide⟩

theorem first_of_asStr {c : Char} (h : c ∈ ['c', 'd', 'g', 'h']) :
    c.toNat < 128 ∧ c.isAlphanum = true ∧ Text.isWhitespace c = false ∧ c ≠ 'm' := by
  revert c
  decide

theorem run_macroOpenerName (wide : Char → Bool) (kind : MacroKind) {prev : Option Char}
    (hprev : prev.any (Pattern.isWord wide) = false) {gap : List Char}
    (hgap : ∀ c ∈ gap, Text.isWhitespace c = true) (behind : List Char) :
    Pattern.run wide macroOpenerName prev (kind.asStr ++ '!' :: (gap ++ '(' :: behind)) =
      some ([kind.asStr], behind) := by
  have hfind : (MacroKind.all.map MacroKind.asStr).find?
      (·.isPrefixOf (kind.asStr ++ '!' :: (gap ++ '(' :: behind))) = some kind.asStr := by
    cases kind <;> rfl
  have hword : (kind.asStr ++ '!' :: (gap ++ '(' :: behind)).head?.any
      (Pattern.isWord wide) = true := by
    obtain ⟨c, cs, hname, hc⟩ := asStr_cons kind
    rw [hname]
    exact Pattern.isWord_of_alphanum (first_of_asStr hc).1 (first_of_asStr hc).2.1
  have hparen : ∀ c, (['('] ++ behind).head? = some c → Text.isWhitespace c = false := by
    simp
    decide
  have htext : '!' :: (gap ++ '(' :: behind) = ['!'] ++ (gap ++ (['('] ++ behind)) := rfl
  rw [macroOpenerName, Pattern.run_boundary hprev hword, Pattern.run, hfind, Option.bind_some,
    List.drop_left, htext, Pattern.run_text_append, Pattern.run_spaces hgap hparen,
    Pattern.run_text_append]
  rfl

/-- The blanks between the words of an opener are no part of a word. -/
theorem not_word_gap (wide : Char → Bool) {gap : List Token} (hgap : ∀ t ∈ gap, t.IsGap)
    (hread : ∀ t ∈ gap, GapReadable t) {prev : Option Char}
    (hprev : prev.any (Pattern.isWord wide) = false) :
    ((chunkText (chunks gap)).getLast?.or prev).any (Pattern.isWord wide) = false := by
  cases hlast : (chunkText (chunks gap)).getLast? with
  | none => exact hprev
  | some c =>
    have hc := mem_asciiSpaces_gap hgap hread c (List.mem_of_getLast? hlast)
    exact not_word_of_mem_asciiSpaces wide hc

theorem chunkText_char {c : Char} (hc : c.toNat < 128) (ts : List Token) :
    chunkText (chunks (.char c :: ts)) = c :: chunkText (chunks ts) := by
  rw [chunks_cons, tokenChunks, ByteChars.charBytes_ascii hc]
  rfl

theorem chunkText_name (kind : MacroKind) (opening : List Token) :
    chunkText (chunks (kind.asStr.map .char ++ .char '!' :: opening)) =
      kind.asStr ++ '!' :: chunkText (chunks opening) := by
  rw [chunks_append, chunks_ascii (asStr_ascii kind), chunkText_append, chunkText_map_code,
    chunkText_char (by decide)]

theorem chunkText_path (g₁ g₂ : List Token) :
    chunkText (chunks (Invocation.pathTokens (some (g₁, g₂)))) =
      Invocation.crate ++ (chunkText (chunks g₁) ++ ([':', ':'] ++ chunkText (chunks g₂))) := by
  have hcrate : ∀ c ∈ Invocation.crate, c.toNat < 128 := by decide
  rw [Invocation.pathTokens, chunks_append, chunks_append, chunks_ascii hcrate, chunkText_append,
    chunkText_append, chunkText_map_code, chunkText_char (by decide), chunkText_char (by decide)]
  rfl

theorem macroOpener_pieces : macroOpenerPath ++ macroOpenerName =
    .boundary :: .text Invocation.crate :: .spaces :: .text [':', ':'] :: .spaces ::
      macroOpenerName := rfl

/-- Without a path the text starts with another word than `metrics`. -/
theorem run_macroOpenerPath_none (wide : Char → Bool) (kind : MacroKind) (prev : Option Char)
    (behind : List Char) :
    Pattern.run wide (macroOpenerPath ++ macroOpenerName) prev (kind.asStr ++ behind) = none := by
  have hno : ¬ Invocation.crate <+: kind.asStr ++ behind := by
    obtain ⟨c, cs, hname, hc⟩ := asStr_cons kind
    rintro ⟨t, ht⟩
    have hcrate : Invocation.crate = 'm' :: "etrics".toList := by decide
    rw [hname, hcrate] at ht
    exact (first_of_asStr hc).2.2.2 (List.cons.inj ht).1.symm
  rw [macroOpener_pieces, Pattern.run]
  split
  · rw [Pattern.run, Text.stripPrefix, if_neg hno]
    rfl
  · rfl

/-- The opener is read where the invocation starts. -/
theorem macroOpener_head (wide : Char → Bool) {inv : Invocation} {rest : List Char}
    (hwf : inv.WellFormed rest) (hread : inv.IsReadable rest) {prev : Option Char}
    (hprev : prev.any (Pattern.isWord wide) = false) (behind : List Char) :
    macroOpener wide prev (chunkText (chunks inv.head) ++ '(' :: behind) =
      some (inv.kind.asStr, behind) := by
  have hopening : ∀ c ∈ chunkText (chunks inv.opening), Text.isWhitespace c = true := by
    apply isWhitespace_gap (hwf.headGaps inv.opening _) (hread.headGaps inv.opening _) <;>
      simp [Invocation.headGaps]
  have hhead : chunkText (chunks inv.head) ++ '(' :: behind =
      chunkText (chunks (Invocation.pathTokens inv.path)) ++ (inv.kind.asStr ++
        '!' :: (chunkText (chunks inv.opening) ++ '(' :: behind)) := by
    rw [Invocation.head, hread.bang, List.append_nil, List.append_assoc, chunks_append,
      chunkText_append, chunkText_name]
    simp
  have hname {prev : Option Char} (hprev : prev.any (Pattern.isWord wide) = false) :=
    run_macroOpenerName wide inv.kind hprev hopening behind
  rw [hhead, macroOpener]
  cases hpath : inv.path with
  | none =>
    rw [Invocation.pathTokens, chunks_nil, chunkText_nil, List.nil_append,
      run_macroOpenerPath_none, hname hprev]
    rfl
  | some gaps =>
    obtain ⟨g₁, g₂⟩ := gaps
    have hmem : g₁ ∈ inv.headGaps ∧ g₂ ∈ inv.headGaps := by simp [Invocation.headGaps, hpath]
    have hgap₁ := isWhitespace_gap (hwf.headGaps g₁ hmem.1) (hread.headGaps g₁ hmem.1)
    have hgap₂ := isWhitespace_gap (hwf.headGaps g₂ hmem.2) (hread.headGaps g₂ hmem.2)
    have hlast {prev : Option Char} (hprev : prev.any (Pattern.isWord wide) = false) :=
      not_word_gap wide (hwf.headGaps g₂ hmem.2) (hread.headGaps g₂ hmem.2) hprev
    have hcolon (cs : List Char) :
        ∀ c, ([':', ':'] ++ cs).head? = some c → Text.isWhitespace c = false := by
      simp
      decide
    have hkind (cs : List Char) :
        ∀ c, (inv.kind.asStr ++ cs).head? = some c → Text.isWhitespace c = false := by
      obtain ⟨c, cs, hname, hc⟩ := asStr_cons inv.kind
      rw [hname]
      rintro d hd
      rw [← Option.some_inj.mp hd]
      exact (first_of_asStr hc).2.2.1
    have hword (cs : List Char) :
        (Invocation.crate ++ cs).head?.any (Pattern.isWord wide) = true := by
      rw [show Invocation.crate = 'm' :: "etrics".toList by decide]
      exact Pattern.isWord_of_alphanum (by decide) (by decide)
    rw [chunkText_path, macroOpener_pieces]
    simp only [List.append_assoc]
    rw [Pattern.run_boundary hprev (hword _), Pattern.run_text_append,
      Pattern.run_spaces hgap₁ (hcolon _), Pattern.run_text_append,
      Pattern.run_spaces hgap₂ (hkind _), hname (hlast _)]
    · rfl
    · rfl

/-! ## The body -/

theorem reads_within {ts us : List Token} {rest : List Char} (hlex : Lexes us rest)
    (hread : Readable us rest) (h : ts <:+: us) : ∃ next, Lexes ts next ∧ Readable ts next := by
  obtain ⟨before, behind, rfl⟩ := h
  rw [List.append_assoc, RustTokens.lexes_append, RustTokens.lexes_append] at hlex
  rw [List.append_assoc, readable_append, readable_append] at hread
  exact ⟨_, hlex.2.1, hread.2.1⟩

/-- What the labels of a piece have for a key. -/
def pieceKey (piece : List Chunk) : Option (List Char) := labelKey (Text.trim (chunkText piece))

theorem pieceKey_noArrow {pieces : List (List Chunk)}
    (hformed : ∀ piece ∈ pieces, ∀ ck ∈ piece, ck.Formed)
    (harrow : ∀ piece ∈ pieces, NoTopArrow .zero piece) : pieces.filterMap pieceKey = [] := by
  rw [List.filterMap_eq_nil_iff]
  intro piece hpiece
  exact labelKey_noArrow (hformed piece hpiece) (harrow piece hpiece)

section pair

variable {p : Pair} (hgap : ∀ gap ∈ p.gaps, ∀ t ∈ gap, t.IsGap)

include hgap

theorem not_comma_start : .code ',' ∉ chunks p.start := by
  have hbefore := not_mem_gap (hgap p.before p.before_mem) (by decide : ',' ∈ marks)
  have hbetween := not_mem_gap (hgap p.between p.between_mem) (by decide : ',' ∈ marks)
  simp [Pair.start, tokenChunks, hbefore, hbetween]

theorem depthsAfter_start : depthsAfter .zero (chunks p.start) = .zero := by
  have hbefore := depthsAfter_gap (hgap p.before p.before_mem)
  have hbetween := depthsAfter_gap (hgap p.between p.between_mem)
  simp [Pair.start, tokenChunks, depthsAfter_append, depthsAfter, hbefore, hbetween, Depths.step]

theorem pieceKey_start (hblank : ∀ gap ∈ p.gaps, ∀ t ∈ gap, GapReadable t)
    (hin : ∀ item ∈ p.key, item.InString) (hkey : ∀ item ∈ p.key, KeyItem item)
    (first : List Chunk) :
    pieceKey (chunks p.start ++ first) = some (p.key.flatMap StrItem.value) := by
  have hbefore := isWhitespace_gap (hgap p.before p.before_mem) (hblank p.before p.before_mem)
  have hbetween := isWhitespace_gap (hgap p.between p.between_mem) (hblank p.between p.between_mem)
  have hlabel := labelKey_pair hbefore hbetween hin hkey (chunkText first)
  have htext : chunkText (chunks p.start ++ first) = chunkText (chunks p.before) ++
      ((Chunk.quoted (byteChars (p.key.flatMap StrItem.text))).text ++
        (chunkText (chunks p.between) ++ '=' :: '>' :: chunkText first)) := by
    simp [Pair.start, tokenChunks, Chunk.text]
  rw [pieceKey, htext]
  exact hlabel

/-- The pieces of a pair have its key and no other. -/
theorem pieceKey_pair {next : List Char} (hlex : Lexes p.tokens next)
    (hread : Readable p.tokens next) (hblank : ∀ gap ∈ p.gaps, ∀ t ∈ gap, GapReadable t)
    (hkey : ∀ item ∈ p.key, KeyItem item) (hbalanced : RustTokens.Balanced p.value)
    (harrow : RustTokens.NoArrow [] p.value) :
    (cut .zero (chunks p.tokens)).filterMap pieceKey = [p.key.flatMap StrItem.value] := by
  have hkeyWithin : [.str p.key] <:+: p.tokens :=
    ⟨p.before, p.between ++ [.char '=', .char '>'] ++ p.value, by simp [Pair.tokens, Pair.start]⟩
  obtain ⟨_, ⟨hin, -, -⟩, -⟩ := reads_within hlex hread hkeyWithin
  obtain ⟨_, hvalueLex, hvalueRead⟩ := reads_within hlex hread
    (List.suffix_append p.start p.value).isInfix
  have hpieces := (noTopArrow_of_mem_cut
    (noTopArrow_chunks hvalueLex hvalueRead hbalanced harrow)).2
  obtain ⟨first, pieces, hcut⟩ :=
    List.exists_cons_of_ne_nil (cut_ne_nil (depthsOf []) (chunks p.value))
  have hformed : ∀ piece ∈ pieces, ∀ ck ∈ piece, ck.Formed := by
    intro piece hpiece ck hck
    have hmem : piece ∈ cut (depthsOf []) (chunks p.value) := by
      rw [hcut]
      exact List.mem_cons_of_mem _ hpiece
    exact formed_chunks hvalueLex hvalueRead ck (mem_of_mem_cut hmem ck hck)
  have hmore : pieces.filterMap pieceKey = [] := by
    rw [hcut, List.tail_cons] at hpieces
    exact pieceKey_noArrow hformed hpieces
  have hsplit : cut .zero (chunks p.tokens) = (chunks p.start ++ first) :: pieces := by
    rw [Pair.tokens, chunks_append, cut_append_of_no_comma (not_comma_start hgap),
      depthsAfter_start hgap]
    exact congrArg (List.modifyHead (chunks p.start ++ ·)) hcut
  rw [hsplit, List.filterMap_cons, pieceKey_start hgap hblank hin hkey, hmore]

end pair

theorem argument_within {inv : Invocation} {arg : List Token} (harg : arg ∈ inv.arguments) :
    arg <:+: inv.body := by
  have hmem : .char ',' :: arg ∈ inv.arguments.map (.char ',' :: ·) := List.mem_map_of_mem harg
  have hinfix : .char ',' :: arg <:+: inv.arguments.flatMap (.char ',' :: ·) := by
    rw [List.flatMap_def]
    exact List.infix_of_mem_flatten hmem
  exact ((List.suffix_cons _ arg).isInfix.trans hinfix).trans (List.suffix_append _ _).isInfix

theorem readable_body {inv : Invocation} {rest : List Char} (hread : inv.IsReadable rest) :
    Readable inv.body (inv.delim.closing :: rest) := by
  have htokens := hread.tokens
  rw [Invocation.tokens, readable_append, readable_append] at htokens
  simpa [Token.text] using htokens.1.2.2

section invocation

variable {inv : Invocation} {rest : List Char} (hwf : inv.WellFormed rest)
  (hread : inv.IsReadable rest)

include hwf

theorem balanced_argument : ∀ arg ∈ inv.arguments, RustTokens.Balanced arg := by
  intro arg harg
  obtain hpair | htrailing := List.mem_append.mp harg
  · obtain ⟨p, hp, rfl⟩ := List.mem_map.mp hpair
    have hbefore := RustTokens.balanced_gap (hwf.pairGaps p hp p.before p.before_mem)
    have hbetween := RustTokens.balanced_gap (hwf.pairGaps p hp p.between p.between_mem)
    have hkey : RustTokens.Balanced [.str p.key] := rfl
    have harrow : RustTokens.Balanced [.char '=', .char '>'] := rfl
    have htokens : p.tokens =
        p.before ++ ([.str p.key] ++ (p.between ++ ([.char '=', .char '>'] ++ p.value))) := by
      simp [Pair.tokens, Pair.start]
    rw [htokens]
    exact hbefore.append (hkey.append (hbetween.append (harrow.append (hwf.balanced p hp))))
  · exact RustTokens.balanced_gap (hwf.trailing arg (Option.mem_toList.mp htrailing))

theorem balanced_name : RustTokens.Balanced inv.nameTokens := by
  have hname : RustTokens.Balanced [.str inv.name] := rfl
  have htokens : inv.nameTokens = inv.before ++ ([.str inv.name] ++ inv.between) := by
    simp [Invocation.nameTokens]
  rw [htokens]
  exact (RustTokens.balanced_gap hwf.before).append
    (hname.append (RustTokens.balanced_gap hwf.between))

theorem balanced_body : RustTokens.Balanced inv.body := by
  have hcomma : RustTokens.Balanced [.char ','] := rfl
  exact (balanced_name hwf).append
    (RustTokens.Balanced.flatMap fun arg harg => hcomma.append (balanced_argument hwf arg harg))

theorem lexes_body : Lexes inv.body (inv.delim.closing :: rest) := by
  have hlex := hwf.lexes
  rw [Invocation.tokens, RustTokens.lexes_append, RustTokens.lexes_append] at hlex
  simpa [Token.text] using hlex.1.2.2.2

include hread

/-- What stripping leaves of an invocation. -/
theorem strip_invocation : stripCommentsPreserveLayout (inv.text ++ rest) =
    chunkText (chunks inv.head) ++
      '(' :: (chunkText (chunks inv.body) ++ ')' :: stripCommentsPreserveLayout rest) := by
  have hlex := hwf.lexes
  have htokens := hread.tokens
  rw [Invocation.tokens, RustTokens.lexes_append] at hlex
  rw [Invocation.tokens, readable_append] at htokens
  have hclosing : RustTokens.text [.closing inv.delim] ++ rest = ')' :: rest := by
    rw [hread.delim]
    rfl
  have hopening : tokenChunks (.opening inv.delim) = [.code '('] := by
    rw [hread.delim]
    rfl
  rw [hclosing] at hlex htokens
  have hstrip := strip_tokens hlex.1 htokens.1 (by simp)
  rw [stripCommentsPreserveLayout, Invocation.text, Invocation.tokens, RustTokens.text_append,
    List.append_assoc, hclosing, hstrip, chunks_append, chunks_cons, hopening,
    ByteChars.byteChars_cons, ByteChars.charBytes_ascii (by decide)]
  simp [Chunk.text, stripFrom, stripStep, stripCommentsPreserveLayout]

/-- The body is what stands between the parentheses. -/
theorem closingParen_body (behind : List Char) :
    closingParen .code 0 (chunkText (chunks inv.body) ++ ')' :: behind) =
      some (chunkText (chunks inv.body)) := by
  have hlex := lexes_body hwf
  have htokens := readable_body hread
  have hdepth : depthAfter 0 (chunks inv.body) = some 0 :=
    depthAfter_tokens hlex htokens (balanced_body hwf)
  rw [closingParen_chunks (formed_chunks hlex htokens) (noSlashes_chunks hlex) (by simp) hdepth]
  simp [closingParen]

/-- The brackets match in whatever is balanced in the body. -/
theorem depthsAfter_within {ts : List Token} (hts : ts <:+: inv.body)
    (hbalanced : RustTokens.Balanced ts) : depthsAfter .zero (chunks ts) = .zero := by
  obtain ⟨next, hlex, htokens⟩ := reads_within (lexes_body hwf) (readable_body hread) hts
  exact depthsAfter_tokens hlex htokens hbalanced

/-- The pieces of the body: the name and those of the arguments. -/
theorem cut_body : cut .zero (chunks inv.body) =
    chunks inv.nameTokens :: inv.arguments.flatMap fun arg => cut .zero (chunks arg) := by
  have hargs : chunks (inv.arguments.flatMap (.char ',' :: ·)) =
      (inv.arguments.map chunks).flatMap (.code ',' :: ·) := by
    rw [chunks, List.flatMap_assoc, List.flatMap_map]
    rfl
  have hname : .code ',' ∉ chunks inv.nameTokens := by
    simp [Invocation.nameTokens, tokenChunks, not_mem_gap hwf.before (by decide : ',' ∈ marks),
      not_mem_gap hwf.between (by decide : ',' ∈ marks)]
  have hzero : depthsAfter .zero (chunks inv.nameTokens) = .zero :=
    depthsAfter_within hwf hread (List.prefix_append _ _).isInfix (balanced_name hwf)
  have hsegs : ∀ seg ∈ inv.arguments.map chunks, depthsAfter .zero seg = .zero := by
    intro seg hseg
    obtain ⟨arg, harg, rfl⟩ := List.mem_map.mp hseg
    exact depthsAfter_within hwf hread (argument_within harg) (balanced_argument hwf arg harg)
  rw [Invocation.body, chunks_append, hargs, cut_segments hsegs hzero, cut_of_no_comma hname,
    List.flatMap_map]
  rfl

theorem pieceKey_argument : inv.arguments.flatMap
    (fun arg => (cut .zero (chunks arg)).filterMap pieceKey) = inv.keys := by
  have hreads {arg : List Token} (harg : arg ∈ inv.arguments) :=
    reads_within (lexes_body hwf) (readable_body hread) (argument_within harg)
  have hpairs : inv.pairs.flatMap (fun p => (cut .zero (chunks p.tokens)).filterMap pieceKey) =
      inv.pairs.flatMap fun p => [p.key.flatMap StrItem.value] := by
    refine List.flatMap_congr fun p hp => ?_
    obtain ⟨_, hlex, htokens⟩ := hreads (List.mem_append_left _ (List.mem_map_of_mem hp))
    exact pieceKey_pair (hwf.pairGaps p hp) hlex htokens (hread.pairGaps p hp) (hread.keys p hp)
      (hwf.balanced p hp) (hwf.noArrow p hp)
  have htrailing : ∀ gap ∈ inv.trailing.toList,
      (cut .zero (chunks gap)).filterMap pieceKey = [] := by
    intro gap hmem
    obtain ⟨_, hlex, htokens⟩ := hreads (List.mem_append_right _ hmem)
    have hgap := hwf.trailing gap (Option.mem_toList.mp hmem)
    rw [cut_of_no_comma (not_mem_gap hgap (by decide))]
    exact pieceKey_noArrow (by simpa using formed_chunks hlex htokens)
      (by simpa using noTopArrow_gap hgap .zero)
  rw [Invocation.arguments, List.flatMap_append, List.flatMap_map, hpairs,
    List.flatMap_eq_nil_iff.mpr htrailing, List.append_nil]
  exact List.map_eq_flatMap.symm

/-- The keys of the body are those of the invocation. -/
theorem labelKeys_body : labelKeys (chunkText (chunks inv.body)) = inv.keys := by
  have hformed := formed_chunks (lexes_body hwf) (readable_body hread)
  rw [labelKeys, splitTopLevelArgs_chunks hformed, cut_body hwf hread, List.map_cons,
    filterMap_tail_finish rfl, List.filterMap_map, List.filterMap_flatMap]
  exact pieceKey_argument hwf hread

end invocation

/-! ## The invocations that are found -/

/-- A macro is opened somewhere in the text. -/
def OpensMacro (wide : Char → Bool) (text : List Char) : Prop :=
  ∃ before behind, text = before ++ behind ∧ macroOpener wide before.getLast? behind ≠ none

instance (wide : Char → Bool) (text : List Char) : Decidable (OpensMacro wide text) :=
  decidable_of_iff (∃ n < text.length + 1,
      (macroOpener wide (text.take n).getLast? (text.drop n)).isSome = true) (by
    constructor
    · rintro ⟨n, -, hopen⟩
      exact ⟨text.take n, text.drop n, (List.take_append_drop n text).symm,
        Option.isSome_iff_ne_none.mp hopen⟩
    · rintro ⟨before, behind, rfl, hopen⟩
      refine ⟨before.length, by rw [List.length_append]; omega, ?_⟩
      rw [List.take_left, List.drop_left]
      exact Option.isSome_iff_ne_none.mpr hopen)

theorem invocationsFrom_eq_nil {wide : Char → Bool} {prev : Option Char} {skip lineno : ℕ}
    {cs : List Char}
    (h : ∀ before behind, cs = before ++ behind → skip ≤ before.length →
      macroOpener wide (before.getLast?.or prev) behind = none) :
    invocationsFrom wide prev skip lineno cs = [] := by
  induction cs generalizing prev skip lineno with
  | nil => rfl
  | cons c cs ih =>
    have hnone : (if skip = 0 then macroOpener wide prev (c :: cs) else none) = none := by
      split
      case isTrue hskip => exact h [] (c :: cs) rfl hskip.le
      case isFalse => rfl
    simp only [invocationsFrom, hnone]
    apply ih
    intro before behind hcs hskip
    have hplace := h (c :: before) behind (by rw [hcs]; rfl) (by rw [List.length_cons]; omega)
    have hlast : (c :: before).getLast?.or prev = before.getLast?.or (some c) := by
      rw [List.getLast?_cons]
      cases before.getLast? <;> rfl
    rwa [hlast] at hplace

/-- The invocation that starts here is found first. Another one starts in its parentheses or
    behind it. -/
theorem invocationsFrom_opener {wide : Char → Bool} {kind : MacroKind} {start behind : List Char}
    (h : macroOpener wide none (start ++ '(' :: behind) = some (kind.asStr, behind))
    (lineno : ℕ) :
    ∃ more, invocationsFrom wide none 0 lineno (start ++ '(' :: behind) =
        ⟨kind, lineno, closingParen .code 0 behind⟩ :: more ∧
      (¬ OpensMacro wide ('(' :: behind) → more = []) := by
  cases hcs : start ++ '(' :: behind with
  | nil => simp at hcs
  | cons c cs =>
    rw [hcs] at h
    simp only [invocationsFrom, if_pos, h, parse_asStr]
    refine ⟨_, rfl, fun hno => invocationsFrom_eq_nil fun before after hsplit hskip => ?_⟩
    have hwhole : (start ++ ['(']) ++ behind = (c :: before) ++ after := by
      simpa [hsplit] using hcs
    have hlength : (start ++ ['(']).length ≤ (c :: before).length := by
      have hcount := congrArg List.length hcs
      simp only [List.length_append, List.length_cons, List.length_nil] at hcount ⊢
      omega
    obtain ⟨between, hbefore⟩ := List.prefix_of_prefix_length_le
      (List.prefix_append _ behind) (hwhole ▸ List.prefix_append _ after) hlength
    rw [← hbefore, List.append_assoc (start ++ ['(']), List.append_cancel_left_eq] at hwhole
    have hlast : ('(' :: between).getLast? = before.getLast?.or (some c) := by
      have hsame := congrArg List.getLast? hbefore
      rw [List.append_assoc, List.singleton_append, List.getLast?_append, List.getLast?_cons,
        List.getLast?_cons] at hsame
      rw [List.getLast?_cons]
      exact hsame.trans (by cases before.getLast? <;> rfl)
    by_contra hopen
    exact hno ⟨'(' :: between, after, by rw [hwhole]; rfl, by rwa [hlast]⟩

/-! ## Recovery -/

/-- The invocation from its parenthesis on, comments as blanks. -/
def Invocation.inside (inv : Invocation) : List Char :=
  chunkText (chunks (.opening inv.delim :: inv.body ++ [.closing inv.delim]))

/-- A source that starts with the invocation, without its comments. -/
def Invocation.stripped (inv : Invocation) (rest : List Char) : List Char :=
  stripCommentsPreserveLayout (inv.text ++ rest)

/-- The first invocation that is found is this one, with its keys. -/
def Recovered (wide : Char → Bool) (inv : Invocation) (rest : List Char) : Prop :=
  ∃ body more, findMacroInvocations wide (inv.stripped rest) =
    ⟨inv.kind, 1, some body⟩ :: more ∧ labelKeys body = inv.keys

/-- A parse error is reported. -/
def ParseErrorReported (wide : Char → Bool) (inv : Invocation) (rest : List Char) : Prop :=
  ∃ f ∈ checkSource wide (inv.stripped rest) [] fun _ => none, f.ruleId = .parseError

/-- An invocation that is read as it is written is found, with its keys in order, and no other
    unless a macro is opened in its parentheses or behind it. -/
theorem labels_recovered (wide : Char → Bool) {inv : Invocation} {rest : List Char}
    (hwf : inv.WellFormed rest) (hread : inv.IsReadable rest) :
    Recovered wide inv rest ∧
      (¬ OpensMacro wide (inv.inside ++ stripCommentsPreserveLayout rest) →
        (findMacroInvocations wide (inv.stripped rest)).length = 1) := by
  have hnone : (none : Option Char).any (Pattern.isWord wide) = false := rfl
  have hopener := macroOpener_head wide hwf hread hnone
    (chunkText (chunks inv.body) ++ ')' :: stripCommentsPreserveLayout rest)
  obtain ⟨more, hfind, hmore⟩ := invocationsFrom_opener hopener 1
  rw [closingParen_body hwf hread, ← strip_invocation hwf hread] at hfind
  refine ⟨⟨_, more, hfind, labelKeys_body hwf hread⟩, fun hno => ?_⟩
  have hinside : inv.inside ++ stripCommentsPreserveLayout rest =
      '(' :: (chunkText (chunks inv.body) ++ ')' :: stripCommentsPreserveLayout rest) := by
    rw [Invocation.inside, hread.delim]
    simp [tokenChunks, Chunk.text, Delim.opening, Delim.closing]
  rw [hinside] at hno
  rw [findMacroInvocations, Invocation.stripped, hfind, hmore hno]
  rfl

/-- `metrics::gauge!("m", "a" => f('q', ") =>"), /* b */ "b" => x::<'s>[0],)`. -/
def mixedLabels : Invocation where
  path := some ([], [])
  kind := .gauge
  bang := []
  opening := []
  delim := .paren
  before := []
  name := [.plain 'm']
  between := []
  pairs :=
    [⟨[.char ' '], [.plain 'a'], [.char ' '],
      [.char ' ', .char 'f', .opening .paren, .charLit (.plain 'q'), .char ',', .char ' ',
        .str [.plain ')', .plain ' ', .plain '=', .plain '>'], .closing .paren]⟩,
    ⟨[.char ' ', .blockComment [' ', 'b', ' '], .char ' '], [.plain 'b'], [.char ' '],
      [.char ' ', .char 'x', .char ':', .char ':', .char '<', .lifetime ['s'], .char '>',
        .opening .bracket, .char '0', .closing .bracket]⟩]
  trailing := some []

theorem labels_recovered_mixed :
    Recovered (fun _ => false) mixedLabels [] ∧
      (findMacroInvocations (fun _ => false) (mixedLabels.stripped [])).length = 1 := by
  have hwf : mixedLabels.WellFormed [] := ⟨by decide, by decide, by decide, by decide, by decide,
    by decide, by decide, by decide⟩
  have hread : mixedLabels.IsReadable [] := ⟨by decide, rfl, rfl, by decide, by decide, by decide⟩
  have hrecovered := labels_recovered (fun _ => false) hwf hread
  exact ⟨hrecovered.1, hrecovered.2 (by decide +kernel)⟩

/-- `counter!("m", "a" => '"', "b" => '"')`. -/
def quoteLabels : Invocation where
  path := none
  kind := .counter
  bang := []
  opening := []
  delim := .paren
  before := []
  name := [.plain 'm']
  between := []
  pairs := ['a', 'b'].map fun key =>
    ⟨[.char ' '], [.plain key], [.char ' '], [.char ' ', .charLit (.plain '"')]⟩
  trailing := none

theorem second_key_merged :
    quoteLabels.text = "counter!(\"m\", \"a\" => '\"', \"b\" => '\"')".toList ∧
      quoteLabels.WellFormed [] ∧ ¬ Recovered (fun _ => false) quoteLabels [] ∧
      ¬ ParseErrorReported (fun _ => false) quoteLabels [] := by
  refine ⟨by decide, ⟨by decide, by decide, by decide, by decide, by decide, by decide, by decide,
    by decide⟩, ?_, ?_⟩
  · rintro ⟨body, more, hfind, hkeys⟩
    have hfirst : ((findMacroInvocations (fun _ => false) (quoteLabels.stripped [])).head?.bind
        MacroInvocation.body).map labelKeys = some quoteLabels.keys := by
      rw [hfind]
      exact congrArg some hkeys
    revert hfirst
    decide +kernel
  · rw [ParseErrorReported]
    decide +kernel

end DarkTower.Guard
