import DarkTower.Guard.TokenBrackets

/-!
# Keys of label arguments (`dt-guard/src/metric_labels.rs:381-516`)

What is read of one argument, once it is known as chunks: `labelKey_pair` for an argument
that starts with a key and an arrow, `labelKey_noArrow` for one without an arrow outside
brackets. `KeyItem` are the items of a key that are read as Rust reads them, `GapReadable`
the whitespace around it.
-/

namespace DarkTower.Guard

open DarkTower.Lib
open ByteChars (charBytes byteChars)
open RustTokens (StrItem Token Delim Lexes)

/-! ## Keys -/

/-- The item of a key that `parse_string_literal` reads as Rust does. -/
def KeyItem : StrItem → Prop
  | .plain c => c.toNat < 128
  | .simple _ => True
  | _ => False

instance (item : StrItem) : Decidable (KeyItem item) :=
  match item with
  | .plain c => inferInstanceAs (Decidable (c.toNat < 128))
  | .simple _ => inferInstanceAs (Decidable True)
  | .hex _ _ | .unicode _ | .continuation _ => inferInstanceAs (Decidable False)

theorem key_ascii {item : StrItem} (hin : item.InString) (hkey : KeyItem item) :
    ∀ c ∈ item.text, c.toNat < 128 := by
  cases item with
  | plain c =>
    intro d hd
    rw [List.mem_singleton.mp hd]
    exact hkey
  | simple e =>
    have hascii : ∀ e ∈ StrItem.simpleEscapes, e.toNat < 128 := by decide
    simpa [StrItem.text] using hascii e hin
  | hex | unicode | continuation => exact hkey.elim

theorem byteChars_key {key : List StrItem} (hin : ∀ item ∈ key, item.InString)
    (hkey : ∀ item ∈ key, KeyItem item) :
    byteChars (key.flatMap StrItem.text) = key.flatMap StrItem.text := by
  apply ByteChars.byteChars_ascii
  intro c hc
  obtain ⟨item, hitem, hmem⟩ := List.mem_flatMap.mp hc
  exact key_ascii (hin item hitem) (hkey item hitem) c hmem

theorem quotedBody_key {key : List StrItem} (hin : ∀ item ∈ key, item.InString)
    (hkey : ∀ item ∈ key, KeyItem item) (rest : List Char) :
    Pattern.quotedBody (key.flatMap StrItem.text ++ '"' :: rest) =
      some (key.flatMap StrItem.text, rest) := by
  induction key with
  | nil => exact Pattern.quotedBody_quote rest
  | cons item key ih =>
    obtain ⟨hitem, hrest⟩ := List.forall_mem_cons.mp hin
    obtain ⟨hkitem, hkrest⟩ := List.forall_mem_cons.mp hkey
    have hread := ih hrest hkrest
    rw [List.flatMap_cons, List.append_assoc]
    cases item with
    | plain c =>
      obtain ⟨hquote, hescape, -⟩ := hitem
      rw [StrItem.text, List.singleton_append, Pattern.quotedBody_plain hquote hescape, hread]
      rfl
    | simple e =>
      have he : e ∈ StrItem.simpleEscapes := hitem
      have hnewline : e ≠ '\n' := by
        rintro rfl
        exact absurd he (by decide)
      rw [StrItem.text, List.cons_append, List.singleton_append,
        Pattern.quotedBody_escape hnewline, hread]
      rfl
    | hex | unicode | continuation => exact hkitem.elim

/-- The value of a key is what `unescape_str` makes of it. -/
theorem unescapeStr_key {key : List StrItem} (hin : ∀ item ∈ key, item.InString)
    (hkey : ∀ item ∈ key, KeyItem item) :
    unescapeStr (key.flatMap StrItem.text) = key.flatMap StrItem.value := by
  induction key with
  | nil => rfl
  | cons item key ih =>
    obtain ⟨hitem, hrest⟩ := List.forall_mem_cons.mp hin
    obtain ⟨hkitem, hkrest⟩ := List.forall_mem_cons.mp hkey
    have hread := ih hrest hkrest
    rw [List.flatMap_cons, List.flatMap_cons]
    cases item with
    | plain c =>
      rw [StrItem.text, StrItem.value, List.singleton_append, List.singleton_append,
        unescapeStr_plain hitem.2.1, hread]
    | simple e =>
      have he : e ∈ StrItem.simpleEscapes := hitem
      rw [StrItem.text, List.cons_append, List.singleton_append, ← hread]
      simp only [StrItem.simpleEscapes, List.mem_cons, List.not_mem_nil, or_false] at he
      rcases he with rfl | rfl | rfl | rfl | rfl | rfl | rfl <;> rfl
    | hex | unicode | continuation => exact hkitem.elim

theorem trim_quoted (body : List Char) {gap : List Char}
    (hgap : ∀ c ∈ gap, Text.isWhitespace c = true) :
    Text.trim ((Chunk.quoted body).text ++ gap) = (Chunk.quoted body).text := by
  have hstart :
      Text.trimStart ((Chunk.quoted body).text ++ gap) = (Chunk.quoted body).text ++ gap :=
    Text.trimStart_append (List.forall_mem_nil _) (by simp; decide)
  have hend : Text.trimEnd gap = [] := List.rdropWhile_eq_nil_iff.mpr hgap
  have htext : (Chunk.quoted body).text ++ gap = ('"' :: body) ++ '"' :: gap := by
    simp [Chunk.text]
  rw [Text.trim, hstart, htext, Text.trimEnd_append (by decide), hend]
  rfl

theorem parseStringLiteral_key {key : List StrItem} (hin : ∀ item ∈ key, item.InString)
    (hkey : ∀ item ∈ key, KeyItem item) :
    parseStringLiteral (Chunk.quoted (byteChars (key.flatMap StrItem.text))).text =
      some (key.flatMap StrItem.value) := by
  have htrim := trim_quoted (key.flatMap StrItem.text) (List.forall_mem_nil _)
  rw [List.append_nil] at htrim
  have hcapture : stringCapture stringLiteralRe (Chunk.quoted (key.flatMap StrItem.text)).text =
      some (key.flatMap StrItem.text) := by
    simp [stringCapture, stringLiteralRe, Pattern.run, Chunk.text, Text.stripPrefix,
      quotedBody_key hin hkey []]
  rw [byteChars_key hin hkey, parseStringLiteral, htrim, List.findSome?_cons, hcapture,
    Option.map_some, unescapeStr_key hin hkey]

/-! ## Arguments -/

theorem ne_of_isWhitespace {c q : Char} (h : Text.isWhitespace c = true)
    (hq : Text.isWhitespace q = false) : c ≠ q := by
  rintro rfl
  rw [h] at hq
  cases hq

theorem not_bracket_of_isWhitespace {c : Char} (h : Text.isWhitespace c = true) : c ∉ brackets := by
  intro hmem
  have hbrackets : ∀ q ∈ brackets, Text.isWhitespace q = false := by decide
  exact ne_of_isWhitespace h (hbrackets c hmem) rfl

/-- Blanks in front change nothing about where the arrow is. -/
theorem fatarrowFrom_gap {gap : List Char} (hgap : ∀ c ∈ gap, Text.isWhitespace c = true)
    (d : Depths) (rest : List Char) :
    fatarrowFrom .code d (gap ++ rest) =
      (fatarrowFrom .code d rest).map fun x => (gap ++ x.1, x.2) := by
  induction gap with
  | nil => simp
  | cons c gap ih =>
    obtain ⟨hc, hcs⟩ := List.forall_mem_cons.mp hgap
    have hquote : c ≠ '"' := ne_of_isWhitespace hc (by decide)
    have hno : ¬ (c = '=' ∧ (gap ++ rest).head? = some '>' ∧ d = .zero) :=
      fun h => ne_of_isWhitespace hc (by decide) h.1
    have hstep := step_of_not_bracket (not_bracket_of_isWhitespace hc) d
    simp only [List.cons_append, fatarrowFrom, if_neg hquote, if_neg hno]
    rw [hstep, ih hcs, Option.map_map]
    rfl

/-- An arrow that is found is found in a longer text as well. -/
theorem fatarrowFrom_append {r : Reading} {d : Depths} {cs : List Char}
    (h : (fatarrowFrom r d cs).isSome = true) (rest : List Char) :
    (fatarrowFrom r d (cs ++ rest)).isSome = true := by
  induction cs generalizing r d with
  | nil => cases r <;> cases h
  | cons c cs ih =>
    cases r with
    | str =>
      rw [fatarrowFrom, Option.isSome_map] at h
      rw [List.cons_append, fatarrowFrom, Option.isSome_map]
      exact ih h
    | escaped =>
      rw [fatarrowFrom, Option.isSome_map] at h
      rw [List.cons_append, fatarrowFrom, Option.isSome_map]
      exact ih h
    | code | charLit | lineComment | blockOpen | block | blockClose =>
      simp only [List.cons_append, fatarrowFrom] at h ⊢
      by_cases hquote : c = '"'
      · rw [if_pos hquote, Option.isSome_map] at h ⊢
        exact ih h
      · rw [if_neg hquote] at h ⊢
        by_cases harrow : c = '=' ∧ (cs ++ rest).head? = some '>' ∧ d = .zero
        · rw [if_pos harrow]
          rfl
        · have hno : ¬ (c = '=' ∧ cs.head? = some '>' ∧ d = .zero) := by
            rintro ⟨hc, hhead, hd⟩
            exact harrow ⟨hc, by rw [List.head?_append, hhead]; rfl, hd⟩
          rw [if_neg hno, Option.isSome_map] at h
          rw [if_neg harrow, Option.isSome_map]
          exact ih h

/-- Trimming adds no arrow. -/
theorem findTopLevelFatarrow_trim {cs : List Char} (h : findTopLevelFatarrow cs = none) :
    findTopLevelFatarrow (Text.trim cs) = none := by
  have hstart : findTopLevelFatarrow (Text.trimStart cs) = none := by
    have hgap : ∀ c ∈ cs.takeWhile Text.isWhitespace, Text.isWhitespace c = true :=
      fun c hc => List.mem_takeWhile_imp hc
    have hsplit := fatarrowFrom_gap hgap .zero (Text.trimStart cs)
    rw [Text.trimStart, List.takeWhile_append_dropWhile] at hsplit
    exact Option.map_eq_none_iff.mp (hsplit.symm.trans h)
  obtain ⟨suffix, hsuffix⟩ := List.rdropWhile_prefix Text.isWhitespace (Text.trimStart cs)
  rw [← Option.not_isSome_iff_eq_none] at hstart ⊢
  intro hsome
  apply hstart
  rw [← hsuffix]
  exact fatarrowFrom_append hsome _

/-- A piece without an arrow outside brackets has no key. -/
theorem labelKey_noArrow {piece : List Chunk} (hformed : ∀ ck ∈ piece, ck.Formed)
    (harrow : NoTopArrow .zero piece) : labelKey (Text.trim (chunkText piece)) = none := by
  have hnone : findTopLevelFatarrow (chunkText piece) = none := by
    have hscan := fatarrowFrom_chunks hformed harrow
      (show ([] : List Char).head? ≠ some '>' by simp)
    rw [List.append_nil] at hscan
    exact hscan
  rw [labelKey, findTopLevelFatarrow_trim hnone]
  rfl

/-- The key of a piece that starts with a key and an arrow. -/
theorem labelKey_pair {before between : List Char} {key : List StrItem}
    (hbefore : ∀ c ∈ before, Text.isWhitespace c = true)
    (hbetween : ∀ c ∈ between, Text.isWhitespace c = true)
    (hin : ∀ item ∈ key, item.InString) (hkey : ∀ item ∈ key, KeyItem item) (value : List Char) :
    labelKey (Text.trim (before ++ ((Chunk.quoted (byteChars (key.flatMap StrItem.text))).text ++
      (between ++ '=' :: '>' :: value)))) = some (key.flatMap StrItem.value) := by
  have hquoted := quotable_items hin
  generalize hbody : byteChars (key.flatMap StrItem.text) = body at hquoted
  have hstart : Text.trimStart (before ++ ((Chunk.quoted body).text ++
      (between ++ '=' :: '>' :: value))) =
        (Chunk.quoted body).text ++ (between ++ '=' :: '>' :: value) :=
    Text.trimStart_append hbefore (by simp [Chunk.text]; decide)
  have hend : Text.trimEnd ((Chunk.quoted body).text ++ (between ++ '=' :: '>' :: value)) =
      (Chunk.quoted body).text ++ (between ++ '=' :: '>' :: Text.trimEnd value) := by
    have hassoc (value : List Char) : (Chunk.quoted body).text ++ (between ++ '=' :: '>' :: value) =
        ((Chunk.quoted body).text ++ between ++ ['=']) ++ '>' :: value := by simp
    rw [hassoc, hassoc]
    exact Text.trimEnd_append (by decide) _ _
  have harrow : findTopLevelFatarrow ((Chunk.quoted body).text ++
      (between ++ '=' :: '>' :: Text.trimEnd value)) =
        some ((Chunk.quoted body).text ++ between, Text.trimEnd value) := by
    rw [findTopLevelFatarrow, fatarrowFrom_quoted hquoted, fatarrowFrom_gap hbetween]
    simp [fatarrowFrom]
  rw [labelKey, Text.trim, hstart, hend, harrow, Option.bind_some, trim_quoted body hbetween,
    ← hbody]
  exact parseStringLiteral_key hin hkey

/-! ## Gaps -/

/-- Whitespace that is read as such: in ASCII. -/
def GapReadable : Token → Prop
  | .char c => c.toNat < 128
  | _ => True

instance (t : Token) : Decidable (GapReadable t) :=
  match t with
  | .char c => inferInstanceAs (Decidable (c.toNat < 128))
  | .opening _ | .closing _ | .str _ | .rawStr _ _ | .charLit _ | .lifetime _ | .lineComment _
  | .blockComment _ => inferInstanceAs (Decidable True)

/-- The whitespace of ASCII. -/
def asciiSpaces : List Char := ['\t', '\n', Char.ofNat 0xb, Char.ofNat 0xc, '\r', ' ']

theorem isWhitespace_of_mem_asciiSpaces : ∀ c ∈ asciiSpaces, Text.isWhitespace c = true := by decide

theorem not_word_of_mem_asciiSpaces (wide : Char → Bool) {c : Char} (h : c ∈ asciiSpaces) :
    Pattern.isWord wide c = false := by
  have hspaces : ∀ c ∈ asciiSpaces, c.toNat < 128 ∧ (c.isAlphanum || c = '_') = false := by decide
  obtain ⟨hascii, hword⟩ := hspaces c h
  rw [Pattern.isWord, if_pos hascii]
  exact hword

section gap

variable {gap : List Token} (hgap : ∀ t ∈ gap, t.IsGap)

include hgap

theorem not_mem_gap {q : Char} (hq : q ∈ marks) : .code q ∉ chunks gap := by
  intro hmem
  obtain ⟨t, ht, hcode⟩ := List.mem_flatMap.mp hmem
  have hchar := mem_codeChars (mark_ne hq).1 hcode
  have hblank : ∀ q ∈ marks, RustTokens.isWhitespace q = false := by decide
  have hne := (mark_ne hq).2.2.2
  have hgap := hgap t ht
  cases t with
  | char c =>
    rw [← List.mem_singleton.mp hchar] at hgap
    exact Bool.false_ne_true ((hblank q hq).symm.trans hgap)
  | lineComment | blockComment =>
    obtain hq | hq : q = ' ' ∨ q = '\n' := by simpa [codeChars] using hchar
    · exact hne _ (by simp) hq
    · exact hne _ (by simp) hq
  | opening | closing | str | rawStr | charLit | lifetime => exact hgap.elim

theorem depthsAfter_gap (d : Depths) : depthsAfter d (chunks gap) = d :=
  depthsAfter_of_no_bracket (fun q hq => not_mem_gap hgap (mark_of_mem_brackets q hq).1) d

theorem noTopArrow_gap (d : Depths) : NoTopArrow d (chunks gap) := by
  have harrow : NoTopArrow d (chunks gap ++ []) :=
    noTopArrow_append (not_mem_gap hgap (by decide)) trivial
  rwa [List.append_nil] at harrow

variable (hread : ∀ t ∈ gap, GapReadable t)

include hread

/-- Stripped, a gap is blank. -/
theorem mem_asciiSpaces_gap : ∀ c ∈ chunkText (chunks gap), c ∈ asciiSpaces := by
  intro c hc
  obtain ⟨ck, hck, hmem⟩ := List.mem_flatMap.mp hc
  obtain ⟨t, ht, htoken⟩ := List.mem_flatMap.mp hck
  have hgap := hgap t ht
  have hread := hread t ht
  cases t with
  | char d =>
    rw [tokenChunks, ByteChars.charBytes_ascii hread, List.map_singleton,
      List.mem_singleton] at htoken
    rw [htoken] at hmem
    have hblank : ∀ d ∈ ['\t', '\n', Char.ofNat 0xb, Char.ofNat 0xc, '\r', ' ', Char.ofNat 0x85,
        Char.ofNat 0x200e, Char.ofNat 0x200f, Char.ofNat 0x2028, Char.ofNat 0x2029],
        d.toNat < 128 → d ∈ asciiSpaces := by decide
    rw [List.mem_singleton.mp hmem]
    exact hblank d (of_decide_eq_true hgap) hread
  | lineComment content =>
    obtain rfl | rfl := mem_lineComment htoken <;> rw [List.mem_singleton.mp hmem] <;> decide
  | blockComment content =>
    obtain rfl | rfl := mem_blockComment htoken <;> rw [List.mem_singleton.mp hmem] <;> decide
  | opening | closing | str | rawStr | charLit | lifetime => exact hgap.elim

theorem isWhitespace_gap : ∀ c ∈ chunkText (chunks gap), Text.isWhitespace c = true :=
  fun c hc => isWhitespace_of_mem_asciiSpaces c (mem_asciiSpaces_gap hgap hread c hc)

end gap

end DarkTower.Guard
