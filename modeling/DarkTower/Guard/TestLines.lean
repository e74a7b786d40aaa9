import DarkTower.Guard.TestBlocks
import DarkTower.Lib.RustTokens

/-!
# What the scan for test blocks reads of Rust tokens

`strip_comments` and `process_line` together read a text one character at a time (`reads`).
`CodeLine` is what they leave of a line: its text without comments, the sum of its braces, and
whether a block comment is open behind it.

* `codeLines_reads`: these are the lines of the text, as the scan counts them.
* `reads_text`: on tokens that are read as they are, they are those of the tokens.
* `sumTo_nonneg`, `sum_tokenLines`: in tokens with matching brackets the braces are never closed
  before they are opened, and all are closed at the end.
-/

namespace DarkTower.Guard.TestCode

open DarkTower.Lib
open RustTokens (StrItem Token Delim Lexes Balanced nest)

/-! ## One character at a time -/

/-- The quotes that `process_line` is in, where `strip_comments` is in `lex`. -/
def Lex.quoting : Lex → Quoting
  | .code quoting => quoting
  | _ => .outside

/-- What a text is read as: a character without the comments, with what it adds to the depth,
    or the end of a line, with a block comment open there or not. -/
inductive Reads
  | char (c : Char) (brace : ℤ)
  | newline (inComment : Bool)

/-- What a character adds to the depth. -/
def braceAt (lex : Lex) (c : Char) : ℤ :=
  if lex = .code .outside then if c = '{' then 1 else if c = '}' then -1 else 0 else 0

/-- Where a line starts. -/
def lineStart (inBlockComment : Bool) : Lex :=
  if inBlockComment then .blockComment else .code .outside

/-- `strip_comments` and `process_line` on all lines of a text, the end of it being one more end
    of a line. -/
def reads : Lex → List Char → List Reads
  | lex, [] => [.newline (lex = .blockComment)]
  | lex, c :: cs =>
    if c = '\n' then
      .newline (lex = .blockComment) :: reads (lineStart (lex = .blockComment)) cs
    else
      (stripStep cs.head? c lex).1.map (.char · (braceAt lex c)) ++
        reads (stripStep cs.head? c lex).2 cs

/-- A line without its comments, what its braces add up to, and whether a block comment is open
    behind it. -/
structure CodeLine where
  text : Line
  count : ℤ
  inComment : Bool
deriving DecidableEq

/-- A line with one more character before it. -/
def CodeLine.cons (c : Char) (brace : ℤ) (line : CodeLine) : CodeLine :=
  { line with text := c :: line.text, count := brace + line.count }

/-- The lines of what is read. -/
def codeLines : List Reads → List CodeLine
  | [] => []
  | .newline inComment :: rs => ⟨[], 0, inComment⟩ :: codeLines rs
  | .char c brace :: rs => (codeLines rs).modifyHead (.cons c brace)

/-- The lines as the scan counts them. -/
def readLines : Bool → List Line → List CodeLine
  | _, [] => []
  | b, line :: lines =>
    ⟨(stripComments line b).1, lineCount b line, (stripComments line b).2⟩ ::
      readLines (stripComments line b).2 lines

theorem foldl_stripStep (next? : Option Char) (c : Char) (lex : Lex) (d : ℤ) :
    (stripStep next? c lex).1.foldl processStep (lex.quoting, d) =
      ((stripStep next? c lex).2.quoting,
        d + ((stripStep next? c lex).1.map fun _ => braceAt lex c).sum) := by
  cases lex with
  | code q =>
    cases q with
    | outside =>
      rw [stripStep]
      split_ifs
      · simp [Lex.quoting]
      · simp [Lex.quoting]
      · simp only [Lex.quoting, List.foldl_cons, List.foldl_nil, processStep, braceAt, if_pos,
          List.map_cons, List.map_nil, List.sum_cons, List.sum_nil]
        split_ifs <;> simp [Int.sub_eq_add_neg]
    | inside | escaped => simp [stripStep, Lex.quoting, processStep, braceAt, Quoting.next]
  | lineComment | opening | closing => simp [stripStep, Lex.quoting]
  | blockComment =>
    rw [stripStep]
    split_ifs <;> simp [Lex.quoting]

theorem codeLines_map (cs : List Char) (n : ℤ) {l : CodeLine} {ls : List CodeLine}
    {rs : List Reads} (h : codeLines rs = l :: ls) :
    codeLines (cs.map (.char · n) ++ rs) =
      ⟨cs ++ l.text, (cs.map fun _ => n).sum + l.count, l.inComment⟩ :: ls := by
  induction cs with
  | nil => simpa using h
  | cons c cs ih =>
    rw [List.map_cons, List.cons_append, codeLines, ih, List.modifyHead_cons, CodeLine.cons]
    simp [Int.add_assoc]

/-- The end of a line is not a character that a comment could start or end with. -/
theorem stripStep_newline (c : Char) (lex : Lex) :
    stripStep (some '\n') c lex = stripStep none c lex := by
  unfold stripStep
  split <;> simp

theorem codeLines_reads_cons (lex : Lex) (cs : List Char) :
    ∃ piece pieces, Text.splitNewlines cs = piece :: pieces ∧
      codeLines (reads lex cs) =
        ⟨(stripFrom lex piece).1, ((stripFrom lex piece).1.foldl processStep (lex.quoting, 0)).2,
          (stripFrom lex piece).2 = .blockComment⟩ ::
            readLines ((stripFrom lex piece).2 = .blockComment) pieces := by
  induction cs generalizing lex with
  | nil => exact ⟨[], [], rfl, rfl⟩
  | cons c cs ih =>
    rw [Text.splitNewlines, reads]
    split
    case isTrue =>
      obtain ⟨piece, pieces, hsplit, hlines⟩ := ih (lineStart (decide (lex = .blockComment)))
      have hquoting (b : Bool) : (lineStart b).quoting = .outside := by cases b <;> rfl
      refine ⟨[], _, rfl, ?_⟩
      rw [codeLines, hlines, hsplit, hquoting]
      rfl
    case isFalse =>
      obtain ⟨piece, pieces, hsplit, hlines⟩ := ih (stripStep cs.head? c lex).2
      refine ⟨c :: piece, pieces, by rw [hsplit], ?_⟩
      have hhead : stripStep piece.head? c lex = stripStep cs.head? c lex := by
        cases cs with
        | nil =>
          cases hsplit
          rfl
        | cons a as =>
          rw [Text.splitNewlines] at hsplit
          split at hsplit
          case isTrue ha =>
            cases hsplit
            rw [ha]
            exact (stripStep_newline c lex).symm
          case isFalse =>
            split at hsplit <;> cases hsplit <;> rfl
      have hcount := foldl_processStep (stripStep cs.head? c lex).2.quoting
        ((stripStep cs.head? c lex).1.map fun _ => braceAt lex c).sum
        (stripFrom (stripStep cs.head? c lex).2 piece).1
      rw [codeLines_map _ _ hlines, stripFrom, hhead]
      simp only [List.foldl_append, foldl_stripStep, Int.zero_add, hcount]

/-- The lines of a text, read line by line. -/
theorem codeLines_reads (b : Bool) (cs : List Char) :
    codeLines (reads (lineStart b) cs) = readLines b (Text.splitNewlines cs) := by
  obtain ⟨piece, pieces, hsplit, hlines⟩ := codeLines_reads_cons (lineStart b) cs
  have hquoting : (lineStart b).quoting = .outside := by cases b <;> rfl
  rw [hlines, hsplit, hquoting]
  rfl

theorem length_readLines (b : Bool) (lines : List Line) :
    (readLines b lines).length = lines.length := by
  induction lines generalizing b with
  | nil => rfl
  | cons line lines ih => rw [readLines, List.length_cons, List.length_cons, ih]

theorem readLines_append (b : Bool) (lines lines' : List Line) :
    readLines b (lines ++ lines') =
      readLines b lines ++ readLines (commentBehind b lines) lines' := by
  induction lines generalizing b with
  | nil => rfl
  | cons line lines ih => rw [List.cons_append, readLines, ih, readLines]; rfl

/-! ## Tokens -/

/-- A character that a string could have, or a backslash with the character behind it. -/
def IsStringPiece (piece : List Char) : Prop :=
  (∃ c, piece = [c] ∧ c ∉ ['"', '\\', '\n']) ∨ ∃ e, piece = ['\\', e] ∧ e ≠ '\n'

/-- The scan reads the token as Rust does: it is no lifetime, strings are on one line, a raw
    string could be a string on one line, and no comment is nested. -/
def Plain : Token → Prop
  | .str items => '\n' ∉ items.flatMap StrItem.text
  | .rawStr _ content =>
    ∃ pieces : List (List Char), content = pieces.flatten ∧ ∀ piece ∈ pieces, IsStringPiece piece
  | .lifetime _ => False
  | .blockComment content => ¬ ['*', '/'] <:+: content
  | .char _ | .opening _ | .closing _ | .charLit _ | .lineComment _ => True

/-- What a token adds to the depth of braces. -/
def braceOf : Token → ℤ
  | .opening .brace => 1
  | .closing .brace => -1
  | _ => 0

/-- The braces that tokens open, less those that they close. -/
def net (ts : List Token) : ℤ := (ts.map braceOf).sum

/-- Characters that are no braces. -/
def shown (cs : List Char) : List Reads := cs.map (.char · 0)

@[simp] theorem shown_nil : shown [] = [] := rfl

@[simp] theorem shown_cons (c : Char) (cs : List Char) :
    shown (c :: cs) = .char c 0 :: shown cs := rfl

@[simp] theorem shown_append (cs ds : List Char) : shown (cs ++ ds) = shown cs ++ shown ds :=
  List.map_append

/-- What a token is read as. -/
def tokenReads : Token → List Reads
  | .char c => if c = '\n' then [.newline false] else [.char c 0]
  | .opening d => [.char d.opening (braceOf (.opening d))]
  | .closing d => [.char d.closing (braceOf (.closing d))]
  | .lineComment _ => [.newline false]
  | .blockComment content => List.replicate (content.count '\n') (.newline true)
  | .str items => shown (Token.str items).text
  | .rawStr hashes content => shown (Token.rawStr hashes content).text
  | .charLit item => shown (Token.charLit item).text
  | .lifetime name => shown (Token.lifetime name).text

@[simp] theorem net_nil : net [] = 0 := rfl

@[simp] theorem net_cons (t : Token) (ts : List Token) : net (t :: ts) = braceOf t + net ts := by
  rw [net, List.map_cons, List.sum_cons, net]

@[simp] theorem net_append (ts us : List Token) : net (ts ++ us) = net ts + net us := by
  rw [net, List.map_append, List.sum_append, net, net]

/-- In code, a character without a meaning. -/
theorem reads_code {c : Char} {cs : List Char} (hc : c ∉ ['"', '\'', '{', '}', '\n'])
    (hslash : c = '/' → cs.head? ≠ some '/' ∧ cs.head? ≠ some '*') :
    reads (.code .outside) (c :: cs) = .char c 0 :: reads (.code .outside) cs := by
  simp only [List.mem_cons, List.not_mem_nil, or_false, not_or] at hc
  obtain ⟨hq, hs, hopen, hclose, hnl⟩ := hc
  have hstep : stripStep cs.head? c (.code .outside) = ([c], .code .outside) := by
    rw [stripStep, if_neg fun h => (hslash h.1).1 h.2, if_neg fun h => (hslash h.1).2 h.2]
    simp [Quoting.next, hq, hs]
  rw [reads, if_neg hnl, hstep]
  simp [braceAt, hopen, hclose]

/-- A brace in code. -/
theorem reads_brace {c : Char} {brace : ℤ} (hc : c = '{' ∧ brace = 1 ∨ c = '}' ∧ brace = -1)
    (cs : List Char) :
    reads (.code .outside) (c :: cs) = .char c brace :: reads (.code .outside) cs := by
  obtain ⟨rfl, rfl⟩ | ⟨rfl, rfl⟩ := hc <;> rfl

/-- Between quotes, a character that is neither the quote nor a backslash. -/
theorem reads_quoted {q : Char} (cs : List Char) (h : ∀ c ∈ cs, c ∉ [q, '\\', '\n'])
    (rest : List Char) :
    reads (.code (.inside q)) (cs ++ rest) = shown cs ++ reads (.code (.inside q)) rest := by
  induction cs with
  | nil => rfl
  | cons c cs ih =>
    obtain ⟨hc, hcs⟩ := List.forall_mem_cons.mp h
    simp only [List.mem_cons, List.not_mem_nil, or_false, not_or] at hc
    have hstep : (Quoting.inside q).next c = .inside q := by
      rw [Quoting.next, if_neg hc.2.1, if_neg hc.1]
    rw [List.cons_append, reads, if_neg hc.2.2, stripStep, hstep, ih hcs]
    · rfl
    · nofun

/-- Between quotes, a backslash and the character behind it. -/
theorem reads_escape {q e : Char} (he : e ≠ '\n') (rest : List Char) :
    reads (.code (.inside q)) ('\\' :: e :: rest) =
      shown ['\\', e] ++ reads (.code (.inside q)) rest := by
  rw [reads, if_neg (by decide)]
  exact congrArg _ (if_neg he)

theorem reads_openQuote {q : Char} (hq : q = '"' ∨ q = '\'') (rest : List Char) :
    reads (.code .outside) (q :: rest) = .char q 0 :: reads (.code (.inside q)) rest := by
  obtain rfl | rfl := hq <;> rfl

theorem reads_closeQuote {q : Char} (hq : q = '"' ∨ q = '\'') (rest : List Char) :
    reads (.code (.inside q)) (q :: rest) = .char q 0 :: reads (.code .outside) rest := by
  obtain rfl | rfl := hq <;> rfl

/-- A digit of an escape is no quote, backslash or newline. -/
theorem digit_quoted {c q : Char} (hq : q = '"' ∨ q = '\'')
    (hc : (Hex.value c).isSome = true ∨ c = '_') : c ∉ [q, '\\', '\n'] := by
  simp only [List.mem_cons, List.not_mem_nil, or_false, not_or]
  refine ⟨?_, ?_, ?_⟩
  all_goals
    rintro rfl
    revert hc
    first
    | decide
    | obtain rfl | rfl := hq <;> decide

/-- A character of a string or character literal that is on one line. -/
theorem reads_item {q : Char} (hq : q = '"' ∨ q = '\'') {item : StrItem}
    (hitem : item.IsEscape ∨ ∃ c, item = .plain c ∧ c ∉ [q, '\\', '\n']) (rest : List Char) :
    reads (.code (.inside q)) (item.text ++ rest) =
      shown item.text ++ reads (.code (.inside q)) rest := by
  have hescaped {e : Char} {cs : List Char} (he : e ≠ '\n')
      (hcs : ∀ c ∈ cs, c ∉ [q, '\\', '\n']) : reads (.code (.inside q)) ('\\' :: e :: cs ++ rest) =
        shown ('\\' :: e :: cs) ++ reads (.code (.inside q)) rest := by
    rw [List.cons_append, List.cons_append, reads_escape he, reads_quoted cs hcs]
    rfl
  obtain hescape | ⟨c, rfl, hc⟩ := hitem
  · cases item with
    | plain | continuation => exact hescape.elim
    | simple e => exact hescaped (by rintro rfl; revert hescape; decide) nofun
    | hex hi lo =>
      refine hescaped (by decide) fun c hc => ?_
      obtain rfl | rfl := List.mem_pair.mp hc
      · exact digit_quoted hq (.inl hescape.1)
      · exact digit_quoted hq (.inl hescape.2)
    | unicode digits =>
      have htext : (StrItem.unicode digits).text = '\\' :: 'u' :: ('{' :: digits ++ ['}']) := by
        simp [StrItem.text]
      rw [htext]
      refine hescaped (by decide) fun c hc => ?_
      obtain rfl | hc := List.mem_cons.mp hc
      · obtain rfl | rfl := hq <;> decide
      obtain hc | hc := List.mem_append.mp hc
      · exact digit_quoted hq (hescape.2.1 c hc)
      · obtain rfl := List.mem_singleton.mp hc
        obtain rfl | rfl := hq <;> decide
  · exact reads_quoted [c] (by simpa using hc) rest

theorem reads_pieces {pieces : List (List Char)} (h : ∀ piece ∈ pieces, IsStringPiece piece)
    (rest : List Char) :
    reads (.code (.inside '"')) (pieces.flatten ++ rest) =
      shown pieces.flatten ++ reads (.code (.inside '"')) rest := by
  induction pieces with
  | nil => rfl
  | cons piece pieces ih =>
    obtain ⟨hpiece, hpieces⟩ := List.forall_mem_cons.mp h
    rw [List.flatten_cons, List.append_assoc, shown_append, List.append_assoc, ← ih hpieces]
    obtain ⟨c, rfl, hc⟩ | ⟨e, rfl, he⟩ := hpiece
    · exact reads_quoted [c] (by simpa using hc) _
    · exact reads_escape he _

theorem reads_items {items : List StrItem} (hin : ∀ item ∈ items, item.InString)
    (hnl : '\n' ∉ items.flatMap StrItem.text) (rest : List Char) :
    reads (.code (.inside '"')) (items.flatMap StrItem.text ++ rest) =
      shown (items.flatMap StrItem.text) ++ reads (.code (.inside '"')) rest := by
  induction items with
  | nil => rfl
  | cons item items ih =>
    obtain ⟨hitem, hitems⟩ := List.forall_mem_cons.mp hin
    rw [List.flatMap_cons, List.mem_append, not_or] at hnl
    rw [List.flatMap_cons, List.append_assoc, reads_item (.inl rfl) ?_, ih hitems hnl.2,
      shown_append, List.append_assoc]
    cases item with
    | plain c =>
      have hne : c ≠ '\n' := fun h => hnl.1 (by simp [StrItem.text, h])
      exact .inr ⟨c, rfl, by simp [hitem.1, hitem.2.1, hne]⟩
    | continuation => exact absurd (by simp [StrItem.text]) hnl.1
    | simple | hex | unicode => exact .inl hitem

/-! ## Comments -/

theorem reads_lineComment {content : List Char} (h : '\n' ∉ content) (rest : List Char) :
    reads .lineComment (content ++ '\n' :: rest) =
      .newline false :: reads (.code .outside) rest := by
  induction content with
  | nil => rfl
  | cons c cs ih =>
    rw [List.mem_cons, not_or] at h
    rw [List.cons_append, reads, if_neg (Ne.symm h.1), ← ih h.2]
    rfl

theorem reads_blockComment {content : List Char} (h : ¬ ['*', '/'] <:+: content)
    (rest : List Char) :
    reads .blockComment (content ++ '*' :: '/' :: rest) =
      List.replicate (content.count '\n') (.newline true) ++ reads (.code .outside) rest := by
  induction content with
  | nil => rfl
  | cons c cs ih =>
    have hcs := ih fun hin => h (List.infix_cons hin)
    rw [List.cons_append, reads]
    split
    case isTrue hc =>
      rw [hc, List.count_cons_self, List.replicate_succ, List.cons_append, ← hcs]
      rfl
    case isFalse hc =>
      have hend : ¬ (c = '*' ∧ (cs ++ '*' :: '/' :: rest).head? = some '/') := by
        rintro ⟨rfl, hhead⟩
        cases cs with
        | nil => cases hhead
        | cons a as =>
          obtain rfl : a = '/' := Option.some_inj.mp hhead
          exact h ⟨[], as, rfl⟩
      rw [List.count_cons_of_ne hc, ← hcs, stripStep, if_neg hend]
      rfl

/-! ## Texts -/

theorem reads_hashes (hashes : ℕ) (rest : List Char) :
    reads (.code .outside) (List.replicate hashes '#' ++ rest) =
      shown (List.replicate hashes '#') ++ reads (.code .outside) rest := by
  induction hashes with
  | zero => rfl
  | succ hashes ih =>
    rw [List.replicate_succ, List.cons_append,
      reads_code (by decide) fun h => absurd h (by decide), ih]
    rfl

theorem reads_delim (brace : ℤ) {c : Char} (rest : List Char)
    (hc : c = '{' ∧ brace = 1 ∨ c = '}' ∧ brace = -1 ∨ c ∈ ['(', ')', '[', ']'] ∧ brace = 0) :
    reads (.code .outside) (c :: rest) = .char c brace :: reads (.code .outside) rest := by
  obtain h | h | ⟨hmem, rfl⟩ := hc
  · exact reads_brace (.inl h) rest
  · exact reads_brace (.inr h) rest
  · have hplain : ∀ c ∈ ['(', ')', '[', ']'], c ∉ ['"', '\'', '{', '}', '\n'] ∧ c ≠ '/' := by decide
    exact reads_code (hplain c hmem).1 fun h => absurd h (hplain c hmem).2

theorem reads_str {items : List StrItem} (hformed : (Token.str items).Formed)
    (hplain : Plain (.str items)) (rest : List Char) :
    reads (.code .outside) ((Token.str items).text ++ rest) =
      shown (Token.str items).text ++ reads (.code .outside) rest := by
  have htext : (Token.str items).text = '"' :: (items.flatMap StrItem.text ++ ['"']) := by
    simp [Token.text]
  rw [htext, List.cons_append, List.append_assoc, reads_openQuote (.inl rfl),
    reads_items hformed hplain, List.singleton_append, reads_closeQuote (.inl rfl)]
  simp

theorem reads_rawStr {hashes : ℕ} {content : List Char} (hplain : Plain (.rawStr hashes content))
    (rest : List Char) :
    reads (.code .outside) ((Token.rawStr hashes content).text ++ rest) =
      shown (Token.rawStr hashes content).text ++ reads (.code .outside) rest := by
  have htext : (Token.rawStr hashes content).text = 'r' :: (List.replicate hashes '#' ++
      '"' :: (content ++ '"' :: List.replicate hashes '#')) := by simp [Token.text]
  obtain ⟨pieces, rfl, hpieces⟩ := hplain
  rw [htext]
  simp only [List.cons_append, List.append_assoc]
  rw [reads_code (by decide) fun h => absurd h (by decide), reads_hashes,
    reads_openQuote (.inl rfl), reads_pieces hpieces, reads_closeQuote (.inl rfl), reads_hashes]
  simp

theorem reads_charLit {item : StrItem} (hformed : item.InCharLit) (rest : List Char) :
    reads (.code .outside) ((Token.charLit item).text ++ rest) =
      shown (Token.charLit item).text ++ reads (.code .outside) rest := by
  have htext : (Token.charLit item).text = '\'' :: (item.text ++ ['\'']) := by
    simp [Token.text]
  have hitem : item.IsEscape ∨ ∃ c, item = .plain c ∧ c ∉ ['\'', '\\', '\n'] := by
    cases item with
    | plain c =>
      refine .inr ⟨c, rfl, fun hc => hformed ?_⟩
      simp only [List.mem_cons, List.not_mem_nil, or_false] at hc ⊢
      tauto
    | continuation => exact hformed.elim
    | simple | hex | unicode => exact .inl hformed
  rw [htext, List.cons_append, List.append_assoc, reads_openQuote (.inr rfl),
    reads_item (.inr rfl) hitem, List.singleton_append, reads_closeQuote (.inr rfl)]
  simp

/-- What the scan reads of a token before `rest`. -/
theorem reads_token {t : Token} {rest : List Char} (hformed : t.Formed) (hends : t.Ends rest)
    (hplain : Plain t) :
    reads (.code .outside) (t.text ++ rest) = tokenReads t ++ reads (.code .outside) rest := by
  cases t with
  | char c =>
    rw [tokenReads]
    split
    case isTrue hc =>
      rw [hc]
      rfl
    case isFalse hc =>
      refine reads_code ?_ hends.1
      simp only [Token.Formed, List.mem_cons, List.not_mem_nil, or_false, not_or] at hformed ⊢
      tauto
  | opening delim => exact reads_delim _ rest (by cases delim <;> decide)
  | closing delim => exact reads_delim _ rest (by cases delim <;> decide)
  | str items => exact reads_str hformed hplain rest
  | rawStr hashes content => exact reads_rawStr hplain rest
  | charLit item => exact reads_charLit hformed rest
  | lifetime => exact hplain.elim
  | lineComment content =>
    have htext : (Token.lineComment content).text ++ rest =
        '/' :: (('/' :: content) ++ '\n' :: rest) := by simp [Token.text]
    have hcontent : '\n' ∉ '/' :: content :=
      List.not_mem_cons_of_ne_of_not_mem (by decide) hformed
    rw [htext]
    exact reads_lineComment hcontent rest
  | blockComment content =>
    have htext : (Token.blockComment content).text ++ rest =
        '/' :: '*' :: (content ++ '*' :: '/' :: rest) := by simp [Token.text]
    rw [htext]
    exact reads_blockComment hplain rest

/-- The scan reads tokens as they are. -/
theorem reads_text {ts : List Token} {rest : List Char} (hlex : Lexes ts rest)
    (hplain : ∀ t ∈ ts, Plain t) :
    reads (.code .outside) (RustTokens.text ts ++ rest) =
      ts.flatMap tokenReads ++ reads (.code .outside) rest := by
  induction ts with
  | nil => rfl
  | cons t ts ih =>
    obtain ⟨hformed, hends, hlex⟩ := hlex
    obtain ⟨ht, hts⟩ := List.forall_mem_cons.mp hplain
    rw [RustTokens.text_cons, List.append_assoc, reads_token hformed hends ht, ih hlex hts,
      List.flatMap_cons, List.append_assoc]

/-! ## Depths -/

/-- What a token does to the open braces. -/
theorem nest_cons {stack stack' : List Delim} {t : Token} {ts : List Token}
    (h : nest stack (t :: ts) = some stack') :
    ∃ mid, nest mid ts = some stack' ∧
      (mid.count .brace : ℤ) = stack.count .brace + braceOf t := by
  cases t with
  | opening delim =>
    refine ⟨delim :: stack, h, ?_⟩
    cases delim with
    | brace => rw [List.count_cons_self]; rfl
    | paren | bracket => rw [List.count_cons_of_ne (by decide)]; rfl
  | closing delim =>
    rw [nest] at h
    split at h
    case isTrue hhead =>
      obtain ⟨stack, rfl⟩ := List.head?_eq_some_iff.mp hhead
      refine ⟨stack, h, ?_⟩
      cases delim with
      | brace =>
        rw [List.count_cons_self, show braceOf (.closing .brace) = -1 from rfl]
        omega
      | paren | bracket =>
        rw [List.count_cons_of_ne (by decide)]
        exact (Int.add_zero _).symm
    case isFalse => cases h
  | char | str | rawStr | charLit | lifetime | lineComment | blockComment =>
    exact ⟨stack, h, (Int.add_zero _).symm⟩

theorem net_of_nest {stack stack' : List Delim} {ts : List Token}
    (h : nest stack ts = some stack') : net ts = stack'.count .brace - stack.count .brace := by
  induction ts generalizing stack with
  | nil =>
    cases h
    rw [net_nil]
    omega
  | cons t ts ih =>
    obtain ⟨mid, hmid, hcount⟩ := nest_cons h
    rw [net_cons, ih hmid]
    omega

theorem net_of_balanced {ts : List Token} (h : Balanced ts) : net ts = 0 := net_of_nest h

/-- What the braces of the lines add up to. -/
def counts (lines : List CodeLine) : List ℤ := lines.map CodeLine.count

theorem codeLines_ne_nil (rs : List Reads) (b : Bool) :
    ∃ l ls, codeLines (rs ++ [.newline b]) = l :: ls := by
  induction rs with
  | nil => exact ⟨_, _, rfl⟩
  | cons r rs ih =>
    obtain ⟨l, ls, hlines⟩ := ih
    cases r with
    | char c brace => exact ⟨_, ls, by rw [List.cons_append, codeLines, hlines]; rfl⟩
    | newline b' => exact ⟨_, _, rfl⟩

/-- A token starts new lines, or its braces count on the line that follows it. -/
theorem counts_token (t : Token) {rs : List Reads} {l : CodeLine} {ls : List CodeLine}
    (h : codeLines rs = l :: ls) : ∃ k : ℕ, counts (codeLines (tokenReads t ++ rs)) =
      List.replicate k 0 ++ (braceOf t + l.count) :: counts ls := by
  have hshown (cs : List Char) :
      counts (codeLines (shown cs ++ rs)) = (0 + l.count) :: counts ls := by
    rw [shown, codeLines_map cs 0 h]
    simp [counts]
  have hnewlines (k : ℕ) (b : Bool) :
      counts (codeLines (List.replicate k (.newline b) ++ rs)) =
        List.replicate k 0 ++ l.count :: counts ls := by
    induction k with
    | zero => simp [counts, h]
    | succ k ih => simpa [List.replicate_succ, codeLines, counts] using ih
  cases t with
  | char c =>
    rw [tokenReads]
    split
    · exact ⟨1, by simpa [braceOf] using hnewlines 1 false⟩
    · exact ⟨0, hshown [c]⟩
  | opening delim | closing delim =>
    exact ⟨0, by simp [tokenReads, codeLines, h, counts, CodeLine.cons]⟩
  | str | rawStr | charLit | lifetime => exact ⟨0, hshown _⟩
  | lineComment => exact ⟨1, by simpa [braceOf, tokenReads] using hnewlines 1 false⟩
  | blockComment content =>
    exact ⟨content.count '\n', by simpa [braceOf, tokenReads] using hnewlines _ true⟩

theorem sumTo_newlines (k : ℕ) (b c : ℤ) (cs : List ℤ) (n : ℕ) :
    sumTo (List.replicate k 0 ++ (b + c) :: cs) n = 0 ∨
      ∃ m, sumTo (List.replicate k 0 ++ (b + c) :: cs) n = b + sumTo (c :: cs) m := by
  induction k generalizing n with
  | zero =>
    cases n with
    | zero => exact .inl rfl
    | succ n => exact .inr ⟨n + 1, by simp [Int.add_assoc]⟩
  | succ k ih =>
    cases n with
    | zero => exact .inl rfl
    | succ n => simpa [List.replicate_succ] using ih n

/-- What the tokens are read as, line by line. -/
def tokenLines (ts : List Token) : List CodeLine :=
  codeLines (ts.flatMap tokenReads ++ [.newline false])

theorem tokenLines_ne_nil (ts : List Token) : ∃ l ls, tokenLines ts = l :: ls :=
  codeLines_ne_nil _ false

theorem counts_tokenLines (t : Token) (ts : List Token) {l : CodeLine} {ls : List CodeLine}
    (h : tokenLines ts = l :: ls) : ∃ k : ℕ, counts (tokenLines (t :: ts)) =
      List.replicate k 0 ++ (braceOf t + l.count) :: counts ls := by
  rw [tokenLines, List.flatMap_cons, List.append_assoc]
  exact counts_token t h

/-- The braces of all lines are those of the tokens. -/
theorem sum_tokenLines (ts : List Token) : (counts (tokenLines ts)).sum = net ts := by
  induction ts with
  | nil => rfl
  | cons t ts ih =>
    obtain ⟨l, ls, hlines⟩ := tokenLines_ne_nil ts
    obtain ⟨k, hcounts⟩ := counts_tokenLines t ts hlines
    rw [hlines, counts, List.map_cons, List.sum_cons] at ih
    rw [hcounts, net_cons, ← ih, counts]
    simp [Int.add_assoc]

/-- No line closes more braces than the lines before it and those of `stack` have opened. -/
theorem le_sumTo {stack stack' : List Delim} {ts : List Token} (h : nest stack ts = some stack')
    (n : ℕ) : -(stack.count .brace : ℤ) ≤ sumTo (counts (tokenLines ts)) n := by
  induction ts generalizing stack n with
  | nil =>
    have hnil : sumTo (counts (tokenLines [])) n = 0 := by
      cases n with
      | zero => rfl
      | succ n => exact (sumTo_cons_succ 0 [] n).trans (by simp)
    rw [hnil]
    omega
  | cons t ts ih =>
    obtain ⟨mid, hmid, hcount⟩ := nest_cons h
    obtain ⟨l, ls, hlines⟩ := tokenLines_ne_nil ts
    obtain ⟨k, hcounts⟩ := counts_tokenLines t ts hlines
    rw [hcounts]
    obtain hzero | ⟨m, hsum⟩ := sumTo_newlines k (braceOf t) l.count (counts ls) n
    · rw [hzero]
      omega
    · have hle := ih hmid m
      rw [hlines, counts, List.map_cons, ← counts] at hle
      rw [hsum]
      omega

theorem sumTo_nonneg {ts : List Token} (h : Balanced ts) (n : ℕ) :
    0 ≤ sumTo (counts (tokenLines ts)) n := by
  simpa using le_sumTo h n

end DarkTower.Guard.TestCode
