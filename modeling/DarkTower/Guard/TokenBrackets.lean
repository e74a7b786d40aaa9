import DarkTower.Guard.TokenChunks

/-!
# What tokens open and close for the scanners (`dt-guard/src/metric_labels.rs:308-471`)

`mark_of_mem_codeChars`: a quote, a bracket, a slash or an equals sign outside strings is a
token of its own or stands in a character literal. So the chunks of tokens that can be read
are formed (`formed_chunks`), open and close what their brackets do (`depthAfter_tokens`,
`depthsAfter_tokens`), start no line comment (`noSlashes_chunks`) and have the arrows of the
tokens only (`noTopArrow_chunks`).
-/

namespace DarkTower.Guard

open DarkTower.Lib
open ByteChars (charBytes byteChars)
open RustTokens (StrItem Token Delim Lexes)

/-! ## The characters of code -/

/-- The characters that a token leaves outside strings. -/
def codeChars : Token → List Char
  | .char c => [c]
  | .opening d => [d.opening]
  | .closing d => [d.closing]
  | .str _ => []
  | .rawStr _ _ => ['r', '#']
  | .charLit item => '\'' :: item.text
  | .lifetime name => '\'' :: name
  | .lineComment _ | .blockComment _ => [' ', '\n']

theorem code_mem_map {q : Char} {bs : List Char} : Chunk.code q ∈ bs.map .code ↔ q ∈ bs :=
  List.mem_map_of_injective fun _ _ h => Chunk.code.inj h

theorem mem_lineComment {content : List Char} {ck : Chunk}
    (h : ck ∈ tokenChunks (.lineComment content)) : ck = .code ' ' ∨ ck = .code '\n' := by
  simp only [tokenChunks, List.cons_append, List.mem_cons, List.mem_append, List.mem_map,
    List.not_mem_nil, or_false] at h
  obtain rfl | rfl | ⟨-, -, rfl⟩ | rfl := h
  · exact .inl rfl
  · exact .inl rfl
  · exact .inl rfl
  · exact .inr rfl

theorem mem_blockComment {content : List Char} {ck : Chunk}
    (h : ck ∈ tokenChunks (.blockComment content)) : ck = .code ' ' ∨ ck = .code '\n' := by
  simp only [tokenChunks, List.cons_append, List.mem_cons, List.mem_append, List.mem_map,
    List.not_mem_nil, or_false] at h
  obtain rfl | rfl | ⟨b, -, rfl⟩ | rfl | rfl := h
  · exact .inl rfl
  · exact .inl rfl
  · rw [blank]
    split
    case isTrue hb => exact .inr (by rw [hb])
    case isFalse => exact .inl rfl
  · exact .inl rfl
  · exact .inl rfl

theorem mem_codeChars {q : Char} (hq : q.toNat < 128) {t : Token}
    (h : .code q ∈ tokenChunks t) : q ∈ codeChars t := by
  cases t with
  | char c =>
    rw [tokenChunks, code_mem_map, ← List.append_nil (charBytes c), ← ByteChars.byteChars_nil,
      ← ByteChars.byteChars_cons, ByteChars.mem_byteChars hq] at h
    exact h
  | opening d => simpa [tokenChunks, codeChars] using h
  | closing d => simpa [tokenChunks, codeChars] using h
  | str items => simp [tokenChunks] at h
  | rawStr hashes content =>
    have hr : q = 'r' ∨ ¬ hashes = 0 ∧ q = '#' := by
      simpa [tokenChunks, List.mem_replicate, or_assoc] using h
    obtain rfl | ⟨-, rfl⟩ := hr <;> simp [codeChars]
  | charLit item =>
    simp only [tokenChunks, List.cons_append, List.mem_cons, List.mem_append, code_mem_map,
      ByteChars.mem_byteChars hq, List.not_mem_nil, or_false, Chunk.code.injEq] at h
    obtain rfl | hmem | rfl := h
    · exact List.mem_cons_self
    · exact List.mem_cons_of_mem _ hmem
    · exact List.mem_cons_self
  | lifetime name =>
    simpa [tokenChunks, codeChars, code_mem_map, ByteChars.mem_byteChars hq] using h
  | lineComment content =>
    obtain heq | heq := mem_lineComment h <;> rw [Chunk.code.inj heq] <;> simp [codeChars]
  | blockComment content =>
    obtain heq | heq := mem_blockComment h <;> rw [Chunk.code.inj heq] <;> simp [codeChars]

/-- The characters that mean something to the scanners. Braces also stand in `\u{…}`. -/
def marks : List Char := ['"', '(', ')', '[', ']', '{', '}', '/', '=', '>', ',']

theorem mark_ne {q : Char} (hq : q ∈ marks) :
    q.toNat < 128 ∧ RustTokens.isIdent q = false ∧ (Hex.value q).isSome = false ∧
      ∀ c ∈ ['\'', '\\', 'r', '#', ' ', '\n'], q ≠ c := by
  revert q
  decide

/-- A mark of a character literal is its character, or a brace of `\u{…}`. -/
theorem mark_of_mem_item {q : Char} (hq : q ∈ marks) {item : StrItem} (hin : item.InCharLit)
    (h : q ∈ item.text) :
    item = .plain q ∨ item = .simple q ∨
      ∃ digits, item = .unicode digits ∧ (q = '{' ∨ q = '}') := by
  obtain ⟨-, hident, hvalue, hne⟩ := mark_ne hq
  have hescape {c : Char} (hc : (Hex.value c).isSome = true) : q ≠ c :=
    (hex_value_ne hc hvalue).symm
  cases item with
  | plain c => exact .inl (by rw [List.mem_singleton.mp h])
  | simple e =>
    obtain hc | hc := (by simpa [StrItem.text] using h : q = '\\' ∨ q = e)
    · exact absurd hc (hne _ (by simp))
    · exact .inr (.inl (by rw [hc]))
  | hex hi lo =>
    obtain hc | rfl | hc | hc :=
      (by simpa [StrItem.text] using h : q = '\\' ∨ q = 'x' ∨ q = hi ∨ q = lo)
    · exact absurd hc (hne _ (by simp))
    · exact absurd hident (by decide)
    · exact absurd hc (hescape hin.1)
    · exact absurd hc (hescape hin.2)
  | unicode digits =>
    obtain hc | rfl | hc | hc | hc := (by simpa [StrItem.text] using h :
      q = '\\' ∨ q = 'u' ∨ q = '{' ∨ q ∈ digits ∨ q = '}')
    · exact absurd hc (hne _ (by simp))
    · exact absurd hident (by decide)
    · exact .inr (.inr ⟨digits, rfl, .inl hc⟩)
    · obtain hdigit | rfl := hin.2.1 q hc
      · exact absurd rfl (hescape hdigit)
      · exact absurd hident (by decide)
    · exact .inr (.inr ⟨digits, rfl, .inr hc⟩)
  | continuation ws => exact hin.elim

/-- A mark of code is the token itself or stands in a character literal. -/
theorem mark_of_mem_codeChars {q : Char} (hq : q ∈ marks) {t : Token} (hformed : t.Formed)
    (h : q ∈ codeChars t) :
    t = .char q ∨ (∃ d, t = .opening d) ∨ (∃ d, t = .closing d) ∨
      t = .charLit (.plain q) ∨ t = .charLit (.simple q) ∨
      ∃ digits, t = .charLit (.unicode digits) ∧ (q = '{' ∨ q = '}') := by
  obtain ⟨-, hident, -, hne⟩ := mark_ne hq
  cases t with
  | char c => exact .inl (by rw [List.mem_singleton.mp h])
  | opening d => exact .inr (.inl ⟨d, rfl⟩)
  | closing d => exact .inr (.inr (.inl ⟨d, rfl⟩))
  | str items => exact absurd h List.not_mem_nil
  | rawStr hashes content =>
    rcases (by simpa [codeChars] using h : q = 'r' ∨ q = '#') with hc | hc <;>
      exact absurd hc (hne _ (by simp))
  | lineComment content =>
    rcases (by simpa [codeChars] using h : q = ' ' ∨ q = '\n') with hc | hc <;>
      exact absurd hc (hne _ (by simp))
  | blockComment content =>
    rcases (by simpa [codeChars] using h : q = ' ' ∨ q = '\n') with hc | hc <;>
      exact absurd hc (hne _ (by simp))
  | lifetime name =>
    obtain hc | hmem := List.mem_cons.mp h
    · exact absurd hc (hne _ (by simp))
    · exact absurd rfl (isIdent_ne (hformed.2 q hmem) hident)
  | charLit item =>
    obtain hc | hmem := List.mem_cons.mp h
    · exact absurd hc (hne _ (by simp))
    obtain rfl | rfl | ⟨digits, rfl, hbrace⟩ := mark_of_mem_item hq hformed hmem
    · exact .inr (.inr (.inr (.inl rfl)))
    · exact .inr (.inr (.inr (.inr (.inl rfl))))
    · exact .inr (.inr (.inr (.inr (.inr ⟨digits, rfl, hbrace⟩))))

/-- What opens and closes. -/
def brackets : List Char := ['"', '(', ')', '[', ']', '{', '}']

theorem mark_of_mem_brackets :
    ∀ q ∈ brackets, q ∈ marks ∧ (q ∈ StrItem.simpleEscapes → q = '"') := by
  decide

/-- A quote or bracket of code that is read is a bracket token, or the braces of `\u{…}`. -/
theorem bracket_of_mem {q : Char} {next : List Char} {t : Token} (hformed : t.Formed)
    (hread : TokenReadable next t) (hq : q ∈ brackets) (h : .code q ∈ tokenChunks t) :
    (∃ d, t = .opening d) ∨ (∃ d, t = .closing d) ∨
      ∃ digits, t = .charLit (.unicode digits) ∧ (q = '{' ∨ q = '}') := by
  obtain ⟨hmark, hsimple⟩ := mark_of_mem_brackets q hq
  obtain rfl | hopen | hclose | rfl | rfl | hunicode :=
    mark_of_mem_codeChars hmark hformed (mem_codeChars (mark_ne hmark).1 h)
  · exact absurd hq (by simp [Token.Formed, brackets] at hformed ⊢; tauto)
  · exact .inl hopen
  · exact .inr (.inl hclose)
  · exact absurd hq (by simp [TokenReadable, misreadLiterals, brackets] at hread ⊢; tauto)
  · obtain rfl := hsimple hformed
    exact absurd (by simp [misreadLiterals]) hread.1
  · exact .inr (.inr hunicode)

theorem formed_tokenChunks {t : Token} {next : List Char} (hformed : t.Formed)
    (hread : TokenReadable next t) : ∀ ck ∈ tokenChunks t, ck.Formed := by
  intro ck hck
  cases ck with
  | code c =>
    rintro rfl
    obtain ⟨d, rfl⟩ | ⟨d, rfl⟩ | ⟨digits, -, hbrace⟩ :=
      bracket_of_mem hformed hread (by decide) hck
    · cases d <;> simp [tokenChunks, Delim.opening] at hck
    · cases d <;> simp [tokenChunks, Delim.closing] at hck
    · exact absurd hbrace (by decide)
  | quoted body =>
    cases t with
    | str items =>
      obtain rfl : body = byteChars (items.flatMap StrItem.text) := by
        simpa [tokenChunks] using hck
      exact quotable_items hformed
    | rawStr hashes content =>
      obtain rfl : body = byteChars content := by
        simpa [tokenChunks, List.mem_replicate] using hck
      exact (quotable_byteChars false content).trans hread
    | char | opening | closing | charLit | lifetime | lineComment | blockComment =>
      simp [tokenChunks] at hck

theorem formed_chunks {ts : List Token} {rest : List Char} (hlex : Lexes ts rest)
    (hread : Readable ts rest) : ∀ ck ∈ chunks ts, ck.Formed := by
  induction ts with
  | nil => exact List.forall_mem_nil _
  | cons t ts ih =>
    intro ck hck
    obtain hmem | hmem := List.mem_append.mp hck
    · exact formed_tokenChunks hlex.1 hread.1 ck hmem
    · exact ih hlex.2.2 hread.2 ck hmem

/-! ## Brackets -/

theorem depthAfter_append (depth : ℕ) (cks dks : List Chunk) :
    depthAfter depth (cks ++ dks) = (depthAfter depth cks).bind (depthAfter · dks) := by
  induction cks generalizing depth with
  | nil => rfl
  | cons ck cks ih =>
    cases ck with
    | quoted body => exact ih depth
    | code c =>
      simp only [List.cons_append, depthAfter]
      split_ifs
      · exact ih _
      · rfl
      · exact ih _
      · exact ih _

theorem depthAfter_of_no_paren {cks : List Chunk} (hopen : .code '(' ∉ cks)
    (hclose : .code ')' ∉ cks) (depth : ℕ) : depthAfter depth cks = some depth := by
  induction cks with
  | nil => rfl
  | cons ck cks ih =>
    rw [List.mem_cons, not_or] at hopen hclose
    cases ck with
    | quoted body => exact ih hopen.2 hclose.2
    | code c =>
      have ho : c ≠ '(' := fun heq => hopen.1 (by rw [heq])
      have hc : c ≠ ')' := fun heq => hclose.1 (by rw [heq])
      rw [depthAfter, if_neg ho, if_neg hc]
      exact ih hopen.2 hclose.2

theorem step_of_not_bracket {c : Char} (hc : c ∉ brackets) (d : Depths) : d.step c = d := by
  simp only [brackets, List.mem_cons, List.not_mem_nil, or_false, not_or] at hc
  obtain ⟨-, h₁, h₂, h₃, h₄, h₅, h₆⟩ := hc
  unfold Depths.step
  split <;> first | rfl | contradiction

theorem depthsAfter_of_no_bracket {cks : List Chunk} (h : ∀ q ∈ brackets, .code q ∉ cks)
    (d : Depths) : depthsAfter d cks = d := by
  induction cks with
  | nil => rfl
  | cons ck cks ih =>
    have hcks := ih fun q hq hmem => h q hq (List.mem_cons_of_mem _ hmem)
    cases ck with
    | quoted body => exact hcks
    | code c =>
      have hc : c ∉ brackets := fun hmem => h c hmem List.mem_cons_self
      rw [depthsAfter, step_of_not_bracket hc, hcks]

/-- The brackets of a stack, counted as `split_top_level_args` does. -/
def depthsOf (stack : List Delim) : Depths :=
  ⟨stack.count .paren, stack.count .brace, stack.count .bracket⟩

theorem depthsOf_eq_zero {stack : List Delim} (h : depthsOf stack = .zero) : stack = [] := by
  cases stack with
  | nil => rfl
  | cons d stack =>
    obtain ⟨hp, hb, hk⟩ := Depths.mk.inj h
    cases d <;> simp at hp hb hk <;> omega

theorem nest_cons_eq_some {stack stack' : List Delim} {t : Token} {ts : List Token}
    (h : RustTokens.nest stack (t :: ts) = some stack') :
    (∃ d, t = .opening d ∧ RustTokens.nest (d :: stack) ts = some stack') ∨
      (∃ d below, t = .closing d ∧ stack = d :: below ∧ RustTokens.nest below ts = some stack') ∨
      (∀ d, t ≠ .opening d ∧ t ≠ .closing d) ∧ RustTokens.nest stack ts = some stack' := by
  cases t with
  | opening d => exact .inl ⟨d, rfl, h⟩
  | closing d =>
    rw [RustTokens.nest] at h
    split at h
    case isTrue hhead =>
      obtain ⟨below, rfl⟩ := List.head?_eq_some_iff.mp hhead
      exact .inr (.inl ⟨d, below, rfl, rfl, h⟩)
    case isFalse => cases h
  | char | str | rawStr | charLit | lifetime | lineComment | blockComment =>
    exact .inr (.inr ⟨by simp, h⟩)

theorem depthAfter_tokens {ts : List Token} {rest : List Char} {stack stack' : List Delim}
    (hlex : Lexes ts rest) (hread : Readable ts rest)
    (hnest : RustTokens.nest stack ts = some stack') :
    depthAfter (stack.count .paren) (chunks ts) = some (stack'.count .paren) := by
  induction ts generalizing stack with
  | nil =>
    obtain rfl : stack = stack' := Option.some_inj.mp hnest
    rfl
  | cons t ts ih =>
    rw [chunks_cons, depthAfter_append]
    obtain ⟨d, rfl, hts⟩ | ⟨d, below, rfl, rfl, hts⟩ | ⟨hother, hts⟩ := nest_cons_eq_some hnest
    · have hrest := ih hlex.2.2 hread.2 hts
      cases d <;> simpa [tokenChunks, depthAfter, Delim.opening] using hrest
    · have hrest := ih hlex.2.2 hread.2 hts
      cases d <;> simpa [tokenChunks, depthAfter, Delim.closing] using hrest
    · have hno {q : Char} (hq : q ∈ brackets) (hbrace : ¬ (q = '{' ∨ q = '}')) :
          .code q ∉ tokenChunks t := by
        intro hmem
        obtain ⟨d, rfl⟩ | ⟨d, rfl⟩ | ⟨digits, -, hq⟩ := bracket_of_mem hlex.1 hread.1 hq hmem
        · exact (hother d).1 rfl
        · exact (hother d).2 rfl
        · exact hbrace hq
      rw [depthAfter_of_no_paren (hno (by decide) (by decide)) (hno (by decide) (by decide))]
      exact ih hlex.2.2 hread.2 hts

theorem depthsAfter_unicode {digits : List Char} (h : (StrItem.unicode digits).InCharLit)
    (d : Depths) : depthsAfter d (tokenChunks (.charLit (.unicode digits))) = d := by
  have hascii := (unicode_tail h).1
  have hbytes : byteChars digits = digits :=
    ByteChars.byteChars_ascii fun c hc => hascii c (by simp [hc])
  have hdigits (d : Depths) : depthsAfter d (digits.map .code) = d := by
    apply depthsAfter_of_no_bracket
    intro q hq hmem
    rw [code_mem_map] at hmem
    obtain ⟨-, hident, hvalue, -⟩ := mark_ne (mark_of_mem_brackets q hq).1
    obtain hdigit | rfl := h.2.1 q hmem
    · exact hex_value_ne hdigit hvalue rfl
    · exact absurd hident (by decide)
  have htext : tokenChunks (.charLit (.unicode digits)) =
      [.code '\'', .code '\\', .code 'u', .code '{'] ++ (digits.map .code ++
        [.code '}', .code '\'']) := by
    simp [tokenChunks, StrItem.text, hbytes]
  rw [htext, depthsAfter_append, depthsAfter_append, hdigits]
  simp [depthsAfter, Depths.step]

/-- Only bracket tokens open or close anything. -/
theorem depthsAfter_token {t : Token} {next : List Char} (hformed : t.Formed)
    (hread : TokenReadable next t) (hother : ∀ d, t ≠ .opening d ∧ t ≠ .closing d) (d : Depths) :
    depthsAfter d (tokenChunks t) = d := by
  by_cases hunicode : ∃ digits, t = .charLit (.unicode digits)
  · obtain ⟨digits, rfl⟩ := hunicode
    exact depthsAfter_unicode hformed _
  · apply depthsAfter_of_no_bracket
    intro q hq hmem
    obtain ⟨d, rfl⟩ | ⟨d, rfl⟩ | ⟨digits, hdigits, -⟩ := bracket_of_mem hformed hread hq hmem
    · exact (hother d).1 rfl
    · exact (hother d).2 rfl
    · exact hunicode ⟨digits, hdigits⟩

theorem depthsAfter_tokens {ts : List Token} {rest : List Char} {stack stack' : List Delim}
    (hlex : Lexes ts rest) (hread : Readable ts rest)
    (hnest : RustTokens.nest stack ts = some stack') :
    depthsAfter (depthsOf stack) (chunks ts) = depthsOf stack' := by
  induction ts generalizing stack with
  | nil =>
    obtain rfl : stack = stack' := Option.some_inj.mp hnest
    rfl
  | cons t ts ih =>
    rw [chunks_cons, depthsAfter_append]
    obtain ⟨d, rfl, hts⟩ | ⟨d, below, rfl, rfl, hts⟩ | ⟨hother, hts⟩ := nest_cons_eq_some hnest
    · rw [← ih hlex.2.2 hread.2 hts]
      cases d <;> simp [tokenChunks, depthsAfter, Delim.opening, Depths.step, depthsOf]
    · rw [← ih hlex.2.2 hread.2 hts]
      cases d <;> simp [tokenChunks, depthsAfter, Delim.closing, Depths.step, depthsOf]
    · rw [depthsAfter_token hlex.1 hread.1 hother]
      exact ih hlex.2.2 hread.2 hts

/-! ## Slashes and arrows -/

/-- A slash or an angle at the start of the chunks is a token of its own. -/
theorem head?_chunks {q : Char} (hq : q = '/' ∨ q = '>') {ts : List Token}
    (h : (chunks ts).head? = some (.code q)) : ts.head? = some (.char q) := by
  cases ts with
  | nil => cases h
  | cons t ts =>
    rw [chunks_cons] at h
    cases t with
    | char c =>
      obtain hascii | hwide := Nat.lt_or_ge c.toNat 128
      · rw [tokenChunks, ByteChars.charBytes_ascii hascii] at h
        rw [Chunk.code.inj (Option.some_inj.mp h)]
        rfl
      · obtain ⟨b, b₂, bs, hbytes, hb, -⟩ := ByteChars.exists_charBytes hwide
        rw [tokenChunks, hbytes] at h
        have hbq : b = q := Chunk.code.inj (Option.some_inj.mp h)
        rcases hq with rfl | rfl <;> exact absurd hbq (ne_of_wide hb (by decide))
    | opening d => cases d <;> rcases hq with rfl | rfl <;> simp [tokenChunks, Delim.opening] at h
    | closing d => cases d <;> rcases hq with rfl | rfl <;> simp [tokenChunks, Delim.closing] at h
    | str | rawStr | charLit | lifetime | lineComment | blockComment =>
      rcases hq with rfl | rfl <;> simp [tokenChunks] at h

theorem noSlashes_append {cks dks : List Chunk} (h : .code '/' ∉ cks) (hdks : NoSlashes dks) :
    NoSlashes (cks ++ dks) := by
  induction cks with
  | nil => exact hdks
  | cons ck cks ih =>
    rw [List.mem_cons, not_or] at h
    exact ⟨fun heq => h.1 heq.1.symm, ih h.2⟩

/-- A slash or an equals sign of code is a token of its own or a character literal. -/
theorem sign_of_mem {q : Char} (hq : q = '/' ∨ q = '=') {t : Token} (hformed : t.Formed)
    (h : .code q ∈ tokenChunks t) :
    t = .char q ∨ tokenChunks t = [.code '\'', .code q, .code '\''] := by
  have hmark : q ∈ marks := by rcases hq with rfl | rfl <;> decide
  obtain rfl | ⟨d, rfl⟩ | ⟨d, rfl⟩ | rfl | rfl | ⟨digits, -, hbrace⟩ :=
    mark_of_mem_codeChars hmark hformed (mem_codeChars (mark_ne hmark).1 h)
  · exact .inl rfl
  · cases d <;> rcases hq with rfl | rfl <;> simp [tokenChunks, Delim.opening] at h
  · cases d <;> rcases hq with rfl | rfl <;> simp [tokenChunks, Delim.closing] at h
  · right
    simp [tokenChunks, StrItem.text, ByteChars.charBytes_ascii (mark_ne hmark).1]
  · have hescape : q ∈ StrItem.simpleEscapes := hformed
    rcases hq with rfl | rfl <;> exact absurd hescape (by decide)
  · rcases hq with rfl | rfl <;> exact absurd hbrace (by decide)

theorem noSlashes_chunks {ts : List Token} {rest : List Char} (hlex : Lexes ts rest) :
    NoSlashes (chunks ts) := by
  induction ts with
  | nil => trivial
  | cons t ts ih =>
    have hts := ih hlex.2.2
    rw [chunks_cons]
    by_cases hmem : .code '/' ∈ tokenChunks t
    · obtain rfl | hliteral := sign_of_mem (.inl rfl) hlex.1 hmem
      · rw [tokenChunks, ByteChars.charBytes_ascii (by decide)]
        refine ⟨fun hslash => ?_, hts⟩
        obtain ⟨us, rfl⟩ := List.head?_eq_some_iff.mp (head?_chunks (.inl rfl) hslash.2)
        exact (hlex.2.1.1 rfl).1 rfl
      · rw [hliteral]
        exact ⟨by simp, by simp, by simp, hts⟩
    · exact noSlashes_append hmem hts

theorem noTopArrow_chunks {ts : List Token} {rest : List Char} {stack stack' : List Delim}
    (hlex : Lexes ts rest) (hread : Readable ts rest)
    (hnest : RustTokens.nest stack ts = some stack') (harrow : RustTokens.NoArrow stack ts) :
    NoTopArrow (depthsOf stack) (chunks ts) := by
  induction ts generalizing stack with
  | nil => trivial
  | cons t ts ih =>
    rw [chunks_cons]
    obtain ⟨d, rfl, hts⟩ | ⟨d, below, rfl, rfl, hts⟩ | ⟨hother, hts⟩ := nest_cons_eq_some hnest
    · have hrest := ih hlex.2.2 hread.2 hts harrow
      apply noTopArrow_append
      · cases d <;> simp [tokenChunks, Delim.opening]
      · cases d <;>
          simpa [tokenChunks, depthsAfter, Delim.opening, Depths.step, depthsOf] using hrest
    · have hrest := ih hlex.2.2 hread.2 hts harrow
      apply noTopArrow_append
      · cases d <;> simp [tokenChunks, Delim.closing]
      · cases d <;>
          simpa [tokenChunks, depthsAfter, Delim.closing, Depths.step, depthsOf] using hrest
    · have hsplit : ¬ (stack = [] ∧ t = .char '=' ∧ ts.head? = some (.char '>')) ∧
          RustTokens.NoArrow stack ts := by
        cases t with
        | opening d => exact absurd rfl (hother d).1
        | closing d => exact absurd rfl (hother d).2
        | char | str | rawStr | charLit | lifetime | lineComment | blockComment => exact harrow
      have hrest := ih hlex.2.2 hread.2 hts hsplit.2
      by_cases hmem : .code '=' ∈ tokenChunks t
      · obtain rfl | hliteral := sign_of_mem (.inr rfl) hlex.1 hmem
        · rw [tokenChunks, ByteChars.charBytes_ascii (by decide)]
          refine ⟨?_, hrest⟩
          rintro ⟨-, hnext, hzero⟩
          apply hsplit.1
          exact ⟨depthsOf_eq_zero hzero, rfl, head?_chunks (.inr rfl) hnext⟩
        · rw [hliteral]
          exact ⟨by simp, by simp, by simp, hrest⟩
      · apply noTopArrow_append hmem
        rw [depthsAfter_token hlex.1 hread.1 hother]
        exact hrest

end DarkTower.Guard
