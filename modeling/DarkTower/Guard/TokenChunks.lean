import DarkTower.Guard.ScanChunks
import DarkTower.Lib.RustTokens

/-!
# What stripping leaves of Rust tokens (`dt-guard/src/metric_labels.rs:166-282`)

`chunks` is what the scanners are to see of tokens: strings as strings, comments as blanks
and all else as code. `Readable` is where they do see it; it leaves out

* character literals of a double quote or a bracket, which only
  `strip_comments_preserve_layout` knows as literals,
* a character literal whose end `find_char_lit_close` does not find, when a character and a
  single quote follow it, so that these are taken for one,
* raw strings that end elsewhere when a backslash escapes the next character,
* comments inside comments.

`strip_tokens`: what stripping leaves of such tokens are their chunks.
-/

namespace DarkTower.Guard

open DarkTower.Lib
open ByteChars (charBytes byteChars)
open RustTokens (StrItem Token Delim Lexes)

/-! ## Tokens as chunks -/

/-- What is written for a character of a comment. -/
def blank (b : Char) : Char := if b = '\n' then b else ' '

/-- The chunks of a token. -/
def tokenChunks : Token → List Chunk
  | .char c => (charBytes c).map .code
  | .opening d => [.code d.opening]
  | .closing d => [.code d.closing]
  | .str items => [.quoted (byteChars (items.flatMap StrItem.text))]
  | .rawStr hashes content =>
    .code 'r' :: List.replicate hashes (.code '#') ++
      .quoted (byteChars content) :: List.replicate hashes (.code '#')
  | .charLit item => .code '\'' :: (byteChars item.text).map .code ++ [.code '\'']
  | .lifetime name => .code '\'' :: (byteChars name).map .code
  | .lineComment content =>
    .code ' ' :: .code ' ' :: (byteChars content).map (fun _ => .code ' ') ++ [.code '\n']
  | .blockComment content =>
    .code ' ' :: .code ' ' :: (byteChars content).map (fun b => .code (blank b)) ++
      [.code ' ', .code ' ']

/-- The chunks of tokens. -/
def chunks (ts : List Token) : List Chunk := ts.flatMap tokenChunks

@[simp] theorem chunks_nil : chunks [] = [] := rfl

@[simp] theorem chunks_cons (t : Token) (ts : List Token) :
    chunks (t :: ts) = tokenChunks t ++ chunks ts := rfl

@[simp] theorem chunks_append (ts us : List Token) : chunks (ts ++ us) = chunks ts ++ chunks us :=
  List.flatMap_append

@[simp] theorem chunkText_map_code (cs : List Char) : chunkText (cs.map .code) = cs := by
  induction cs with
  | nil => rfl
  | cons c cs ih => rw [List.map_cons, chunkText_cons, ih]; rfl

@[simp] theorem chunkText_replicate_code (n : ℕ) (c : Char) :
    chunkText (List.replicate n (.code c)) = List.replicate n c := by
  rw [← chunkText_map_code (List.replicate n c), List.map_replicate]

theorem chunks_ascii {cs : List Char} (h : ∀ c ∈ cs, c.toNat < 128) :
    chunks (cs.map .char) = cs.map .code := by
  induction cs with
  | nil => rfl
  | cons c cs ih =>
    obtain ⟨hc, hcs⟩ := List.forall_mem_cons.mp h
    rw [List.map_cons, chunks_cons, tokenChunks, ByteChars.charBytes_ascii hc, ih hcs]
    rfl

/-! ## What can be read -/

/-- The character literals that open or close something for a scanner that does not know
    them. -/
def misreadLiterals : List StrItem :=
  [.plain '"', .simple '"', .plain '(', .plain ')', .plain '[', .plain ']', .plain '{', .plain '}']

/-- `find_char_lit_close` finds the end of the literal: ASCII, no `'\''` and at most five
    hexadecimal digits. -/
def CloseFound : StrItem → Prop
  | .plain c => c.toNat < 128
  | .simple e => e ≠ '\''
  | .hex _ _ => True
  | .unicode digits => digits.length ≤ 5
  | .continuation _ => False

instance (item : StrItem) : Decidable (CloseFound item) :=
  match item with
  | .plain c => inferInstanceAs (Decidable (c.toNat < 128))
  | .unicode digits => inferInstanceAs (Decidable (digits.length ≤ 5))
  | .simple _ => inferInstanceAs (Decidable (_ ≠ _))
  | .hex _ _ => inferInstanceAs (Decidable True)
  | .continuation _ => inferInstanceAs (Decidable False)

/-- A character and a single quote. -/
def LooksLikeLiteral (next : List Char) : Prop :=
  ∃ c more, c.toNat < 128 ∧ next = c :: '\'' :: more

instance (next : List Char) : Decidable (LooksLikeLiteral next) :=
  match next with
  | [] | [_] => isFalse fun ⟨_, _, _, h⟩ => by simp at h
  | c :: q :: more => decidable_of_iff (c.toNat < 128 ∧ q = '\'') (by
      constructor
      · rintro ⟨hc, rfl⟩
        exact ⟨c, more, hc, rfl⟩
      · rintro ⟨d, ds, hd, h⟩
        simp only [List.cons.injEq] at h
        exact ⟨h.1 ▸ hd, h.2.1⟩)

/-- The token is read as it is, `next` being the text behind it. -/
def TokenReadable (next : List Char) : Token → Prop
  | .charLit item => item ∉ misreadLiterals ∧ (CloseFound item ∨ ¬ LooksLikeLiteral next)
  | .rawStr _ content => quotable false content = true
  | .blockComment content => ¬ ['*', '/'] <:+: content
  | _ => True

instance (next : List Char) (t : Token) : Decidable (TokenReadable next t) :=
  match t with
  | .charLit _ => inferInstanceAs (Decidable (_ ∉ _ ∧ (_ ∨ ¬ _)))
  | .rawStr _ _ => inferInstanceAs (Decidable (_ = true))
  | .blockComment _ => inferInstanceAs (Decidable (¬ _ <:+: _))
  | .char _ | .opening _ | .closing _ | .str _ | .lifetime _ | .lineComment _ =>
    inferInstanceAs (Decidable True)

/-- All tokens are read as they are, `rest` being the text behind them. -/
def Readable : List Token → List Char → Prop
  | [], _ => True
  | t :: ts, rest => TokenReadable (RustTokens.text ts ++ rest) t ∧ Readable ts rest

instance decidableReadable : (ts : List Token) → (rest : List Char) → Decidable (Readable ts rest)
  | [], _ => inferInstanceAs (Decidable True)
  | t :: ts, rest =>
    have := decidableReadable ts rest
    inferInstanceAs (Decidable (TokenReadable (RustTokens.text ts ++ rest) t ∧ Readable ts rest))

theorem readable_append {ts us : List Token} {rest : List Char} :
    Readable (ts ++ us) rest ↔ Readable ts (RustTokens.text us ++ rest) ∧ Readable us rest := by
  induction ts with
  | nil => simp [Readable]
  | cons t ts ih => simp [Readable, ih, and_assoc]

/-! ## Plain text -/

/-- Neither a quote nor a slash. -/
def IsPlain (c : Char) : Prop := c ≠ '"' ∧ c ≠ '\'' ∧ c ≠ '/'

instance (c : Char) : Decidable (IsPlain c) := inferInstanceAs (Decidable (_ ∧ _))

theorem ne_of_wide {a c : Char} (hc : 128 ≤ c.toNat) (ha : a.toNat < 128) : c ≠ a := by
  rintro rfl
  omega

theorem isPlain_of_wide {c : Char} (h : 128 ≤ c.toNat) : IsPlain c :=
  ⟨ne_of_wide h (by decide), ne_of_wide h (by decide), ne_of_wide h (by decide)⟩

theorem isPlain_charBytes {c : Char} (h : IsPlain c) : ∀ b ∈ charBytes c, IsPlain b := by
  intro b hb
  obtain hascii | hwide := Nat.lt_or_ge c.toNat 128
  · rw [ByteChars.charBytes_ascii hascii, List.mem_singleton] at hb
    rwa [hb]
  · exact isPlain_of_wide (ByteChars.toNat_of_mem_charBytes hwide hb)

theorem isPlain_byteChars {cs : List Char} (h : ∀ c ∈ cs, IsPlain c) :
    ∀ b ∈ byteChars cs, IsPlain b := by
  intro b hb
  obtain ⟨c, hc, hmem⟩ := List.mem_flatMap.mp hb
  exact isPlain_charBytes (h c hc) b hmem

theorem stripFrom_plain {bs : List Char} (h : ∀ b ∈ bs, IsPlain b) (rest : List Char) :
    stripFrom .code (bs ++ rest) = bs ++ stripFrom .code rest := by
  induction bs with
  | nil => rfl
  | cons b bs ih =>
    obtain ⟨⟨hq, hs, hslash⟩, hbs⟩ := List.forall_mem_cons.mp h
    simp [stripFrom, stripStep, hq, hs, hslash, ih hbs]

theorem stripFrom_quoted {body : List Char} (hbody : quotable false body = true)
    (rest : List Char) :
    stripFrom .code ((Chunk.quoted body).text ++ rest) =
      (Chunk.quoted body).text ++ stripFrom .code rest := by
  have hread := read_quoted stripFrom List.cons (fun _ => rfl) (fun _ _ => rfl) (fun _ _ => rfl)
    hbody rest
  rw [hread]
  simp

/-! ## Comments -/

theorem stripFrom_lineComment {cs : List Char} (h : '\n' ∉ cs) (rest : List Char) :
    stripFrom .lineComment (cs ++ '\n' :: rest) =
      cs.map (fun _ => ' ') ++ '\n' :: stripFrom .code rest := by
  induction cs with
  | nil => rfl
  | cons c cs ih =>
    rw [List.mem_cons, not_or] at h
    simp [stripFrom, stripStep, Ne.symm h.1, ih h.2]

theorem stripFrom_block_noStar {bs : List Char} (h : '*' ∉ bs) (rest : List Char) :
    stripFrom .block (bs ++ rest) = bs.map blank ++ stripFrom .block rest := by
  induction bs with
  | nil => rfl
  | cons b bs ih =>
    rw [List.mem_cons, not_or] at h
    simp [stripFrom, stripStep, blank, Ne.symm h.1, ih h.2]

theorem stripFrom_block {content : List Char} (h : ¬ ['*', '/'] <:+: content) (rest : List Char) :
    stripFrom .block (byteChars content ++ '*' :: '/' :: rest) =
      (byteChars content).map blank ++ ' ' :: ' ' :: stripFrom .code rest := by
  induction content with
  | nil => rfl
  | cons c cs ih =>
    have hcs := ih fun hsub => h (hsub.trans (List.suffix_cons c cs).isInfix)
    rw [ByteChars.byteChars_cons, List.append_assoc, List.map_append, List.append_assoc, ← hcs]
    by_cases hstar : c = '*'
    · subst hstar
      -- a slash behind the star would end the comment here
      have hnext : (byteChars cs ++ '*' :: '/' :: rest).head? ≠ some '/' := by
        rw [List.head?_append, ne_eq, Option.or_eq_some_iff, not_or]
        refine ⟨fun hhead => ?_, fun hhead => absurd hhead.2 (by simp)⟩
        rw [ByteChars.head?_byteChars (by decide)] at hhead
        obtain ⟨ds, rfl⟩ := List.head?_eq_some_iff.mp hhead
        exact h ⟨[], ds, rfl⟩
      rw [ByteChars.charBytes_ascii (by decide), List.singleton_append]
      simp only [stripFrom, stripStep, hnext]
      rfl
    · apply stripFrom_block_noStar
      intro hmem
      have hc := (ByteChars.mem_byteChars (by decide : '*'.toNat < 128)).mp
        (show '*' ∈ byteChars [c] by simpa using hmem)
      exact hstar (List.mem_singleton.mp hc).symm

/-! ## Character literals -/

theorem stripFrom_charLit {bs : List Char} {n : ℕ} (h : bs.length = n + 1) (rest : List Char) :
    stripFrom (.charLit n) (bs ++ rest) = bs ++ stripFrom .code rest := by
  induction bs generalizing n with
  | nil => cases h
  | cons b bs ih =>
    rw [List.length_cons, Nat.add_right_cancel_iff] at h
    rw [List.cons_append, stripFrom, List.cons_append]
    cases n with
    | zero =>
      rw [List.length_eq_zero_iff] at h
      rw [h]
      rfl
    | succ n => exact congrArg _ (ih h)

/-- A literal that is recognised is copied up to the quote found for it. -/
theorem stripFrom_literal {bs rest : List Char}
    (h : findCharLitClose (bs ++ rest) = some bs.length) (hlen : bs ≠ []) :
    stripFrom .code ('\'' :: (bs ++ rest)) = '\'' :: (bs ++ stripFrom .code rest) := by
  have hpos : 0 < bs.length := List.length_pos_iff.mpr hlen
  have hstep : stripStep .code '\'' (bs ++ rest) = ('\'', .charLit (bs.length - 1)) := by
    simp [stripStep, h]
  rw [stripFrom, hstep, stripFrom_charLit (by omega)]

/-- A single quote that starts no literal is copied alone. -/
theorem stripFrom_quote {bs : List Char} (h : findCharLitClose bs = none) :
    stripFrom .code ('\'' :: bs) = '\'' :: stripFrom .code bs := by
  have hstep : stripStep .code '\'' bs = ('\'', .code) := by simp [stripStep, h]
  rw [stripFrom, hstep]

theorem findCharLitClose_none {b : Char} {bs : List Char} (hb : b ≠ '\\')
    (hbs : bs.head? ≠ some '\'') : findCharLitClose (b :: bs) = none := by
  rw [findCharLitClose, if_neg hb, if_neg hbs]

theorem findCharLitClose_escape {tail : List Char} (h : '\'' ∉ tail) (hlen : tail.length ≤ 8)
    (rest : List Char) :
    findCharLitClose ('\\' :: (tail ++ '\'' :: rest)) = some (tail.length + 2) := by
  have htake : (tail ++ '\'' :: rest).take 9 =
      tail ++ '\'' :: rest.take (8 - tail.length) := by
    rw [List.take_append, List.take_of_length_le (by omega)]
    rw [show 9 - tail.length = 8 - tail.length + 1 by omega, List.take_succ_cons]
  have hnone : tail.findIdx? (· = '\'') = none := by
    rw [List.findIdx?_eq_none_iff]
    intro c hc
    exact decide_eq_false fun heq => h (heq ▸ hc)
  rw [findCharLitClose, if_pos rfl, htake, List.findIdx?_append, hnone]
  simp [List.findIdx?_cons]

theorem findCharLitClose_long {tail : List Char} (h : '\'' ∉ tail) (hlen : 9 ≤ tail.length)
    (rest : List Char) : findCharLitClose ('\\' :: (tail ++ rest)) = none := by
  rw [findCharLitClose, if_pos rfl, List.take_append_of_le_length hlen, Option.map_eq_none_iff,
    List.findIdx?_eq_none_iff]
  intro c hc
  exact decide_eq_false fun heq => h (heq ▸ List.mem_of_mem_take hc)

theorem findCharLitClose_wide {c : Char} (h : 128 ≤ c.toNat) (rest : List Char) :
    findCharLitClose (charBytes c ++ rest) = none := by
  obtain ⟨b₁, b₂, bs, hbytes, hb₁, hb₂⟩ := ByteChars.exists_charBytes h
  rw [hbytes]
  apply findCharLitClose_none (ne_of_wide hb₁ (by decide))
  intro hquote
  exact ne_of_wide hb₂ (by decide) (Option.some_inj.mp hquote)

/-- No literal starts at the quote that ends one, unless what follows looks like one. -/
theorem findCharLitClose_next {next : List Char} (hnext : next.head? ≠ some '\\')
    (hlook : ¬ LooksLikeLiteral next) : findCharLitClose (byteChars next) = none := by
  cases next with
  | nil => rfl
  | cons c cs =>
    rw [ByteChars.byteChars_cons]
    obtain hascii | hwide := Nat.lt_or_ge c.toNat 128
    · rw [ByteChars.charBytes_ascii hascii, List.singleton_append]
      apply findCharLitClose_none
      · rintro rfl
        exact hnext rfl
      · rw [ne_eq, ByteChars.head?_byteChars (by decide)]
        intro hquote
        obtain ⟨more, rfl⟩ := List.head?_eq_some_iff.mp hquote
        exact hlook ⟨c, more, hascii, rfl⟩
    · exact findCharLitClose_wide hwide _

theorem strip_escapeLit {tail next : List Char} (hascii : ∀ c ∈ tail, c.toNat < 128)
    (hquote : '\'' ∉ tail) (hlen : tail.length ≤ 8) :
    stripFrom .code ('\'' :: (byteChars ('\\' :: tail) ++ '\'' :: next)) =
      '\'' :: (byteChars ('\\' :: tail) ++ '\'' :: stripFrom .code next) := by
  have hbytes : byteChars ('\\' :: tail) = '\\' :: tail :=
    ByteChars.byteChars_ascii (List.forall_mem_cons.mpr ⟨by decide, hascii⟩)
  have hclose : findCharLitClose (('\\' :: tail ++ ['\'']) ++ next) =
      some ('\\' :: tail ++ ['\'']).length := by
    rw [List.append_assoc, List.singleton_append, List.cons_append,
      findCharLitClose_escape hquote hlen]
    simp
  have hstrip := stripFrom_literal hclose (by simp)
  rw [hbytes]
  simpa using hstrip

theorem hex_value_ne {c q : Char} (h : (Hex.value c).isSome = true)
    (hq : (Hex.value q).isSome = false) : c ≠ q := by
  rintro rfl
  rw [h] at hq
  cases hq

/-- Behind the backslash of `\u{…}` everything is ASCII, and no quote or slash. -/
theorem unicode_tail {digits : List Char} (h : (StrItem.unicode digits).IsEscape) :
    (∀ c ∈ 'u' :: '{' :: digits ++ ['}'], c.toNat < 128) ∧
      ∀ c ∈ 'u' :: '{' :: digits ++ ['}'], IsPlain c := by
  have hdigit : ∀ c ∈ digits, c.toNat < 128 ∧ IsPlain c := by
    intro c hc
    obtain hvalue | rfl := h.2.1 c hc
    · exact ⟨Hex.toNat_lt_of_value hvalue, hex_value_ne hvalue (by decide),
        hex_value_ne hvalue (by decide), hex_value_ne hvalue (by decide)⟩
    · decide
  constructor
  · intro c hc
    simp only [List.cons_append, List.mem_cons, List.mem_append, List.not_mem_nil, or_false] at hc
    rcases hc with rfl | rfl | hc | rfl
    · decide
    · decide
    · exact (hdigit c hc).1
    · decide
  · intro c hc
    simp only [List.cons_append, List.mem_cons, List.mem_append, List.not_mem_nil, or_false] at hc
    rcases hc with rfl | rfl | hc | rfl
    · decide
    · decide
    · exact (hdigit c hc).2
    · decide

/-- A literal whose end is not found is copied all the same. -/
theorem strip_unknownLit {bs next : List Char}
    (hnone : findCharLitClose (bs ++ '\'' :: byteChars next) = none) (hplain : ∀ b ∈ bs, IsPlain b)
    (hnext : next.head? ≠ some '\\') (hlook : ¬ LooksLikeLiteral next) :
    stripFrom .code ('\'' :: (bs ++ '\'' :: byteChars next)) =
      '\'' :: (bs ++ '\'' :: stripFrom .code (byteChars next)) := by
  rw [stripFrom_quote hnone, stripFrom_plain hplain,
    stripFrom_quote (findCharLitClose_next hnext hlook)]

theorem strip_charLit {item : StrItem} {next : List Char} (hin : item.InCharLit)
    (hnext : next.head? ≠ some '\\') (hread : CloseFound item ∨ ¬ LooksLikeLiteral next) :
    stripFrom .code ('\'' :: (byteChars item.text ++ '\'' :: byteChars next)) =
      '\'' :: (byteChars item.text ++ '\'' :: stripFrom .code (byteChars next)) := by
  cases item with
  | plain c =>
    obtain hascii | hwide := Nat.lt_or_ge c.toNat 128
    · have hc : c ≠ '\\' := fun heq => hin (by simp [heq])
      have hclose : findCharLitClose ([c, '\''] ++ byteChars next) = some [c, '\''].length := by
        simp [findCharLitClose, hc]
      have hstrip := stripFrom_literal hclose (by simp)
      simpa [StrItem.text, ByteChars.charBytes_ascii hascii] using hstrip
    · have hlook := hread.resolve_left (Nat.not_lt.mpr hwide)
      rw [StrItem.text, ByteChars.byteChars_cons, ByteChars.byteChars_nil, List.append_nil]
      exact strip_unknownLit (findCharLitClose_wide hwide _)
        (isPlain_charBytes (isPlain_of_wide hwide)) hnext hlook
  | simple e =>
    have he : e ∈ StrItem.simpleEscapes := hin
    have hascii : e.toNat < 128 := by
      simp only [StrItem.simpleEscapes, List.mem_cons, List.not_mem_nil, or_false] at he
      rcases he with rfl | rfl | rfl | rfl | rfl | rfl | rfl <;> decide
    by_cases hquote : e = '\''
    · subst hquote
      have hlook := hread.resolve_left fun hfound => hfound rfl
      have hclose : findCharLitClose (['\\', '\''] ++ '\'' :: byteChars next) =
          some ['\\', '\''].length :=
        findCharLitClose_escape List.not_mem_nil (Nat.zero_le 8) _
      have hstrip := stripFrom_literal hclose (by simp)
      rw [stripFrom_quote (findCharLitClose_next hnext hlook)] at hstrip
      exact hstrip
    · exact strip_escapeLit (by simpa using hascii) (by simpa using Ne.symm hquote) (by simp)
  | hex hi lo =>
    obtain ⟨hhi, hlo⟩ := hin
    refine strip_escapeLit ?_ ?_ (by simp)
    · simpa using ⟨Hex.toNat_lt_of_value hhi, Hex.toNat_lt_of_value hlo⟩
    · simpa using ⟨(hex_value_ne hhi (by decide)).symm, (hex_value_ne hlo (by decide)).symm⟩
  | unicode digits =>
    obtain ⟨hascii, hplain⟩ := unicode_tail hin
    have hquote : '\'' ∉ 'u' :: '{' :: digits ++ ['}'] := fun hmem => (hplain _ hmem).2.1 rfl
    by_cases hlen : digits.length ≤ 5
    · exact strip_escapeLit hascii hquote (by simp; omega)
    · have hlook := hread.resolve_left hlen
      have hbytes : byteChars (StrItem.unicode digits).text =
          '\\' :: ('u' :: '{' :: digits ++ ['}']) :=
        ByteChars.byteChars_ascii (List.forall_mem_cons.mpr ⟨by decide, hascii⟩)
      have hnone : findCharLitClose (byteChars (StrItem.unicode digits).text ++
          '\'' :: byteChars next) = none := by
        rw [hbytes, List.cons_append]
        exact findCharLitClose_long hquote (by simp; omega) _
      have hescape : ∀ b ∈ byteChars (StrItem.unicode digits).text, IsPlain b := by
        rw [hbytes]
        exact List.forall_mem_cons.mpr ⟨by decide, hplain⟩
      exact strip_unknownLit hnone hescape hnext hlook
  | continuation ws => exact hin.elim

/-! ## Lifetimes -/

theorem isIdent_ne {c q : Char} (h : RustTokens.isIdent c = true)
    (hq : RustTokens.isIdent q = false) : c ≠ q := by
  rintro rfl
  rw [h] at hq
  cases hq

theorem strip_lifetime {name next : List Char} (hne : name ≠ [])
    (hname : ∀ c ∈ name, RustTokens.isIdent c = true) (hnext : next.head? ≠ some '\'') :
    stripFrom .code ('\'' :: (byteChars name ++ byteChars next)) =
      '\'' :: (byteChars name ++ stripFrom .code (byteChars next)) := by
  obtain ⟨c, cs, rfl⟩ := List.exists_cons_of_ne_nil hne
  obtain ⟨hc, hcs⟩ := List.forall_mem_cons.mp hname
  have hnone : findCharLitClose (byteChars (c :: cs) ++ byteChars next) = none := by
    rw [ByteChars.byteChars_cons, List.append_assoc, ← ByteChars.byteChars_append]
    obtain hascii | hwide := Nat.lt_or_ge c.toNat 128
    · rw [ByteChars.charBytes_ascii hascii, List.singleton_append]
      apply findCharLitClose_none (isIdent_ne hc (by decide))
      rw [ne_eq, ByteChars.head?_byteChars (by decide)]
      cases cs with
      | nil => exact hnext
      | cons d ds =>
        intro hquote
        exact isIdent_ne (hcs d List.mem_cons_self) (by decide) (Option.some_inj.mp hquote)
    · exact findCharLitClose_wide hwide _
  have hplain : ∀ b ∈ byteChars (c :: cs), IsPlain b :=
    isPlain_byteChars fun d hd => ⟨isIdent_ne (hname d hd) (by decide),
      isIdent_ne (hname d hd) (by decide), isIdent_ne (hname d hd) (by decide)⟩
  rw [stripFrom_quote hnone, stripFrom_plain hplain]

/-! ## Strings -/

theorem quotable_unescaped {cs : List Char} (h : ∀ c ∈ cs, c ≠ '"' ∧ c ≠ '\\')
    (rest : List Char) : quotable false (cs ++ rest) = quotable false rest := by
  induction cs with
  | nil => rfl
  | cons c cs ih =>
    obtain ⟨⟨hquote, hescape⟩, hcs⟩ := List.forall_mem_cons.mp h
    simp [quotable, hquote, hescape, ih hcs]

/-- Bytes in the place of characters change nothing about where a string ends. -/
theorem quotable_byteChars (escaped : Bool) (cs : List Char) :
    quotable escaped (byteChars cs) = quotable escaped cs := by
  induction cs generalizing escaped with
  | nil => rfl
  | cons c cs ih =>
    rw [ByteChars.byteChars_cons]
    obtain hascii | hwide := Nat.lt_or_ge c.toNat 128
    · rw [ByteChars.charBytes_ascii hascii, List.singleton_append]
      cases escaped <;> simp [quotable, ih]
    · have hunescaped : ∀ b ∈ charBytes c, b ≠ '"' ∧ b ≠ '\\' := by
        intro b hb
        have hb := ByteChars.toNat_of_mem_charBytes hwide hb
        exact ⟨ne_of_wide hb (by decide), ne_of_wide hb (by decide)⟩
      have hbytes : quotable escaped (charBytes c ++ byteChars cs) =
          quotable false (byteChars cs) := by
        cases escaped with
        | false => exact quotable_unescaped hunescaped _
        | true =>
          obtain ⟨b, b₂, bs, heq, -, -⟩ := ByteChars.exists_charBytes hwide
          rw [heq] at hunescaped ⊢
          exact quotable_unescaped (List.forall_mem_cons.mp hunescaped).2 _
      have hc : quotable escaped (c :: cs) = quotable false cs := by
        cases escaped with
        | false =>
          have hc : ∀ d ∈ [c], d ≠ '"' ∧ d ≠ '\\' := by
            simpa using ⟨ne_of_wide hwide (by decide), ne_of_wide hwide (by decide)⟩
          exact quotable_unescaped hc cs
        | true => rfl
      rw [hbytes, hc, ih]

/-- An item of a string literal ends no string. -/
theorem quotable_item {item : StrItem} (h : item.InString) (rest : List Char) :
    quotable false (item.text ++ rest) = quotable false rest := by
  have hescape (e : Char) {tail : List Char} (htail : ∀ c ∈ tail, c ≠ '"' ∧ c ≠ '\\') :
      quotable false ('\\' :: e :: tail ++ rest) = quotable false rest :=
    quotable_unescaped htail rest
  cases item with
  | plain c =>
    exact quotable_unescaped (by simpa [StrItem.text] using ⟨h.1, h.2.1⟩) rest
  | simple e => exact hescape e (by simp)
  | hex hi lo =>
    apply hescape 'x'
    have hhi : (Hex.value hi).isSome = true := h.1
    have hlo : (Hex.value lo).isSome = true := h.2
    simpa using ⟨⟨hex_value_ne hhi (by decide), hex_value_ne hhi (by decide)⟩,
      hex_value_ne hlo (by decide), hex_value_ne hlo (by decide)⟩
  | unicode digits =>
    have htail : ∀ c ∈ '{' :: digits ++ ['}'], c ≠ '"' ∧ c ≠ '\\' := by
      intro c hc
      simp only [List.cons_append, List.mem_cons, List.mem_append, List.not_mem_nil, or_false] at hc
      rcases hc with rfl | hc | rfl
      · decide
      · obtain hvalue | rfl := h.2.1 c hc
        · exact ⟨hex_value_ne hvalue (by decide), hex_value_ne hvalue (by decide)⟩
        · decide
      · decide
    exact hescape 'u' htail
  | continuation ws =>
    apply hescape '\n'
    intro c hc
    have hblank := h c hc
    simp only [List.mem_cons, List.not_mem_nil, or_false] at hblank
    rcases hblank with rfl | rfl | rfl | rfl <;> decide

theorem quotable_items {items : List StrItem} (h : ∀ item ∈ items, item.InString) :
    quotable false (byteChars (items.flatMap StrItem.text)) = true := by
  rw [quotable_byteChars]
  induction items with
  | nil => rfl
  | cons item items ih =>
    obtain ⟨hitem, hitems⟩ := List.forall_mem_cons.mp h
    rw [List.flatMap_cons, quotable_item hitem, ih hitems]

theorem strip_rawStr (hashes : ℕ) {content : List Char} (h : quotable false content = true)
    (next : List Char) :
    stripFrom .code (byteChars (Token.rawStr hashes content).text ++ byteChars next) =
      chunkText (tokenChunks (.rawStr hashes content)) ++ stripFrom .code (byteChars next) := by
  have hquoted : quotable false (byteChars content) = true := by
    rw [quotable_byteChars]
    exact h
  have hhashes : ∀ b ∈ List.replicate hashes '#', IsPlain b := by
    intro b hb
    rw [List.eq_of_mem_replicate hb]
    decide
  have hopen : ∀ b ∈ 'r' :: List.replicate hashes '#', IsPlain b :=
    List.forall_mem_cons.mpr ⟨by decide, hhashes⟩
  have hstrip := stripFrom_plain hopen ((Chunk.quoted (byteChars content)).text ++
    (List.replicate hashes '#' ++ byteChars next))
  rw [stripFrom_quoted hquoted, stripFrom_plain hhashes] at hstrip
  have hbytes : byteChars (List.replicate hashes '#') = List.replicate hashes '#' :=
    ByteChars.byteChars_ascii fun c hc => by rw [List.eq_of_mem_replicate hc]; decide
  simpa [tokenChunks, Token.text, Chunk.text, hbytes] using hstrip

/-! ## Tokens -/

theorem strip_token {t : Token} {next : List Char} (hformed : t.Formed) (hends : t.Ends next)
    (hnext : next.head? ≠ some '\\') (hread : TokenReadable next t) :
    stripFrom .code (byteChars t.text ++ byteChars next) =
      chunkText (tokenChunks t) ++ stripFrom .code (byteChars next) := by
  cases t with
  | char c =>
    rw [tokenChunks, chunkText_map_code, Token.text, ByteChars.byteChars_cons,
      ByteChars.byteChars_nil, List.append_nil]
    by_cases hslash : c = '/'
    · obtain ⟨hline, hblock⟩ := hends.1 hslash
      rw [ne_eq, ← ByteChars.head?_byteChars (by decide)] at hline hblock
      subst hslash
      rw [ByteChars.charBytes_ascii (by decide), List.singleton_append, stripFrom]
      simp [stripStep, hline, hblock]
    · apply stripFrom_plain
      apply isPlain_charBytes
      refine ⟨?_, ?_, hslash⟩
      · rintro rfl
        exact hformed (by simp)
      · rintro rfl
        exact hformed (by simp)
  | opening d => cases d <;> exact stripFrom_plain (by decide) _
  | closing d => cases d <;> exact stripFrom_plain (by decide) _
  | str items =>
    have hstrip := stripFrom_quoted (quotable_items hformed) (byteChars next)
    simpa [tokenChunks, Token.text, Chunk.text] using hstrip
  | rawStr hashes content => exact strip_rawStr hashes hread next
  | charLit item =>
    have hstrip := strip_charLit hformed hnext hread.2
    simpa [tokenChunks, Token.text, Chunk.text] using hstrip
  | lifetime name =>
    have hstrip := strip_lifetime hformed.1 hformed.2 fun hquote => (hends '\'' hquote).2.2 rfl
    simpa [tokenChunks, Token.text, Chunk.text] using hstrip
  | lineComment content =>
    have hbytes : '\n' ∉ byteChars content := by
      rw [ByteChars.mem_byteChars (by decide)]
      exact hformed
    have hstrip := stripFrom_lineComment hbytes (byteChars next)
    simp [tokenChunks, Token.text, Chunk.text, stripFrom, stripStep, hstrip]
  | blockComment content =>
    have hstrip := stripFrom_block hread (byteChars next)
    have hcode : chunkText ((byteChars content).map fun b => .code (blank b)) =
        (byteChars content).map blank := by
      rw [← chunkText_map_code ((byteChars content).map blank), List.map_map]
      rfl
    simp [tokenChunks, Token.text, Chunk.text, hcode, stripFrom, stripStep, hstrip]

theorem head?_text_ne {t : Token} (hformed : t.Formed) (rest : List Char) :
    (t.text ++ rest).head? ≠ some '\\' := by
  cases t with
  | char c =>
    intro hhead
    rw [Option.some_inj.mp hhead] at hformed
    exact hformed (by simp)
  | opening d => cases d <;> simp [Token.text, Delim.opening]
  | closing d => cases d <;> simp [Token.text, Delim.closing]
  | str | rawStr | charLit | lifetime | lineComment | blockComment => simp [Token.text]

/-- What stripping leaves of tokens that can be read are their chunks. -/
theorem strip_tokens {ts : List Token} {rest : List Char} (hlex : Lexes ts rest)
    (hread : Readable ts rest) (hrest : rest.head? ≠ some '\\') :
    stripFrom .code (byteChars (RustTokens.text ts ++ rest)) =
      chunkText (chunks ts) ++ stripFrom .code (byteChars rest) := by
  induction ts with
  | nil => rfl
  | cons t ts ih =>
    have hnext : (RustTokens.text ts ++ rest).head? ≠ some '\\' := by
      cases ts with
      | nil => exact hrest
      | cons u us =>
        rw [RustTokens.text_cons, List.append_assoc]
        exact head?_text_ne hlex.2.2.1 _
    rw [RustTokens.text_cons, List.append_assoc, ByteChars.byteChars_append,
      strip_token hlex.1 hlex.2.1 hnext hread.1, ih hlex.2.2 hread.2, chunks_cons,
      chunkText_append, List.append_assoc]

end DarkTower.Guard
