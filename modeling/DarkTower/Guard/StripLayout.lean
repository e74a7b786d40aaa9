import DarkTower.Guard.TokenChunks
import Mathlib.Data.List.Forall2

/-!
# Does stripping keep the layout? (`dt-guard/src/metric_labels.rs:145-278`)

`pieces` cuts a text into its comments and the pieces between them: strings, character
literals and single characters. A comment starts outside of strings and character literals,
with two slashes and up to the end of the line, or with a slash and a star and up to the
first star and slash; a string or a comment that is not closed goes to the end of the text.
Positions are those of the bytes, as everywhere in the source.

* `stripFrom_eq`: for every byte that is not in a comment the byte is written as a
  character, for every other one a blank.
* `stripFrom_stripFrom`: what is written has no comments.
* `layoutKept_iff`: the layout is kept iff all bytes outside comments are ASCII. On Rust
  tokens that are read as they are, the comments are those of Rust.
* `accent_moves`: an accented character in a string moves all that follows.
-/

namespace DarkTower.Guard

open DarkTower.Lib
open ByteChars (charBytes byteChars)
open RustTokens (Token Lexes)

/-! ## Comments and what is between them -/

/-- A string behind its opening quote, up to the closing one, and what follows it. -/
def splitString : (escaped : Bool) → List Char → List Char × List Char
  | _, [] => ([], [])
  | true, c :: cs => (c :: (splitString false cs).1, (splitString false cs).2)
  | false, c :: cs =>
    if c = '"' then ([c], cs)
    else (c :: (splitString (c = '\\') cs).1, (splitString (c = '\\') cs).2)

/-- A block comment behind its opening, up to its end, and what follows it. -/
def splitBlock : List Char → List Char × List Char
  | [] => ([], [])
  | c :: cs =>
    if c = '*' ∧ cs.head? = some '/' then (['*', '/'], cs.tail)
    else (c :: (splitBlock cs).1, (splitBlock cs).2)

/-- A comment, or a piece of code. -/
structure Piece where
  isComment : Bool
  text : List Char

/-- The first piece of a text, and what follows it. -/
def firstPiece (c : Char) (cs : List Char) : Piece × List Char :=
  if c = '"' then (⟨false, c :: (splitString false cs).1⟩, (splitString false cs).2)
  else if c = '\'' then
    match findCharLitClose cs with
    | some n => (⟨false, c :: cs.take n⟩, cs.drop n)
    -- a lifetime
    | none => (⟨false, [c]⟩, cs)
  else if c = '/' ∧ cs.head? = some '/' then
    (⟨true, c :: cs.takeWhile (· ≠ '\n')⟩, cs.dropWhile (· ≠ '\n'))
  else if c = '/' ∧ cs.head? = some '*' then
    (⟨true, c :: '*' :: (splitBlock cs.tail).1⟩, (splitBlock cs.tail).2)
  else (⟨false, [c]⟩, cs)

theorem splitString_append (escaped : Bool) (cs : List Char) :
    (splitString escaped cs).1 ++ (splitString escaped cs).2 = cs := by
  induction cs generalizing escaped with
  | nil => cases escaped <;> rfl
  | cons c cs ih =>
    cases escaped with
    | true => simp [splitString, ih]
    | false =>
      rw [splitString]
      split_ifs
      · rfl
      · simp [ih]

theorem splitBlock_append (cs : List Char) : (splitBlock cs).1 ++ (splitBlock cs).2 = cs := by
  induction cs with
  | nil => rfl
  | cons c cs ih =>
    rw [splitBlock]
    split_ifs with hend
    · obtain ⟨ds, rfl⟩ := List.head?_eq_some_iff.mp hend.2
      rw [hend.1]
      rfl
    · simp [ih]

theorem firstPiece_append (c : Char) (cs : List Char) :
    (firstPiece c cs).1.text ++ (firstPiece c cs).2 = c :: cs := by
  unfold firstPiece
  split_ifs with hq hs hline hblock
  · simp [splitString_append]
  · split <;> simp
  · simp
  · obtain ⟨ds, rfl⟩ := List.head?_eq_some_iff.mp hblock.2
    simp [splitBlock_append]
  · rfl

theorem firstPiece_text_ne (c : Char) (cs : List Char) : (firstPiece c cs).1.text ≠ [] := by
  unfold firstPiece
  split_ifs
  · nofun
  · split <;> nofun
  · nofun
  · nofun
  · nofun

theorem length_firstPiece_lt (c : Char) (cs : List Char) :
    (firstPiece c cs).2.length < (c :: cs).length := by
  have htext := List.length_pos_iff.mpr (firstPiece_text_ne c cs)
  rw [← firstPiece_append c cs, List.length_append]
  omega

/-- The pieces of a text. -/
def pieces : List Char → List Piece
  | [] => []
  | c :: cs => (firstPiece c cs).1 :: pieces (firstPiece c cs).2
termination_by cs => cs.length
decreasing_by exact length_firstPiece_lt c cs

/-- For every position, whether it is in a comment. -/
def commentFlags (bs : List Char) : List Bool :=
  (pieces bs).flatMap fun p => List.replicate p.text.length p.isComment

/-- The position is in a comment. -/
def InComment (bs : List Char) (i : ℕ) : Prop := (commentFlags bs)[i]? = some true

/-- What stripping makes of the bytes `src` of a text is `out`, in the same layout. -/
structure SameLayout (src out : List Char) : Prop where
  length : out.length = src.length
  newlines : ∀ i : ℕ, out[i]? = some '\n' ↔ src[i]? = some '\n'
  outside : ∀ i : ℕ, ¬ InComment src i → out[i]? = src[i]?
  inside : ∀ (i : ℕ) (c : Char), InComment src i → src[i]? = some c → out[i]? = some (blank c)

/-- The bytes of the result are in the layout of the source, and stripping again changes
    nothing. -/
def LayoutKept (src : List Char) : Prop :=
  SameLayout (byteChars src) (byteChars (stripCommentsPreserveLayout src)) ∧
    stripCommentsPreserveLayout (stripCommentsPreserveLayout src) =
      stripCommentsPreserveLayout src

/-! ## What is written for a piece -/

theorem stripFrom_splitString (escaped : Bool) (cs : List Char) {rest : List Char}
    (hrest : (splitString escaped cs).2 = [] → rest = []) :
    stripFrom (Reading.inString escaped) ((splitString escaped cs).1 ++ rest) =
      (splitString escaped cs).1 ++ stripFrom .code rest := by
  induction cs generalizing escaped with
  | nil =>
    obtain rfl : rest = [] := hrest (by cases escaped <;> rfl)
    cases escaped <;> rfl
  | cons c cs ih =>
    cases escaped with
    | true => exact congrArg (c :: ·) (ih false hrest)
    | false =>
      rw [splitString] at hrest ⊢
      split_ifs at hrest ⊢ with hq
      · rw [hq]
        rfl
      · have hcs := ih (c = '\\') hrest
        rw [← Reading.inStr_eq hq] at hcs
        exact congrArg (c :: ·) hcs

theorem stripFrom_takeWhile (cs : List Char) :
    stripFrom .lineComment cs =
      (cs.takeWhile (· ≠ '\n')).map (fun _ => ' ') ++
        stripFrom .code (cs.dropWhile (· ≠ '\n')) := by
  induction cs with
  | nil => rfl
  | cons c cs ih =>
    by_cases hc : c = '\n'
    · rw [hc]
      rfl
    · simp [stripFrom, stripStep, hc, ih]

theorem stripFrom_splitBlock (cs : List Char) :
    stripFrom .block cs = (splitBlock cs).1.map blank ++ stripFrom .code (splitBlock cs).2 := by
  induction cs with
  | nil => rfl
  | cons c cs ih =>
    rw [splitBlock]
    split_ifs with hend
    · obtain ⟨ds, rfl⟩ := List.head?_eq_some_iff.mp hend.2
      rw [hend.1]
      rfl
    · rw [stripFrom, stripStep, if_neg hend, ih]
      rfl

/-- A character of the source, or a blank for it. -/
def Covers (out src : Char) : Prop := out = src ∨ out = ' '

/-- A character that is no blank has not been written for another one. -/
theorem head?_of_covers {r cs : List Char} (h : List.Forall₂ Covers r cs) {q : Char}
    (hq : q ≠ ' ') (hr : r.head? = some q) : cs.head? = some q := by
  cases h with
  | nil => cases hr
  | cons hc _ =>
    rcases hc with rfl | rfl
    · exact hr
    · exact absurd (Option.some_inj.mp hr).symm hq

theorem not_mem_of_covers {r cs : List Char} (h : List.Forall₂ Covers r cs) {q : Char}
    (hq : q ≠ ' ') (hcs : q ∉ cs) : q ∉ r := by
  induction h with
  | nil => exact hcs
  | @cons a b r cs hc _ ih =>
    rw [List.mem_cons, not_or] at hcs ⊢
    refine ⟨fun heq => ?_, ih hcs.2⟩
    rcases hc with rfl | rfl
    · exact hcs.1 heq
    · exact hq heq

theorem findCharLitClose_cons_eq_none {b : Char} {cs : List Char} :
    findCharLitClose (b :: cs) = none ↔
      if b = '\\' then '\'' ∉ cs.take 9 else cs.head? ≠ some '\'' := by
  rw [findCharLitClose]
  split_ifs with hb hquote
  · rw [Option.map_eq_none_iff, List.findIdx?_eq_none_iff]
    constructor
    · intro h hmem
      exact absurd (h _ hmem) (by decide)
    · intro h c hc
      exact decide_eq_false fun heq => h (heq ▸ hc)
  · exact iff_of_false not_false fun h => h hquote
  · exact iff_of_true rfl hquote

/-- Where the source has no literal, the result has none. -/
theorem findCharLitClose_of_covers {r cs : List Char} (h : List.Forall₂ Covers r cs)
    (hcs : findCharLitClose cs = none) : findCharLitClose r = none := by
  cases h with
  | nil => rfl
  | @cons a b r cs hc hrest =>
    rw [findCharLitClose_cons_eq_none] at hcs ⊢
    split_ifs with ha
    · obtain rfl : a = b := hc.resolve_right (by rw [ha]; decide)
      rw [if_pos ha] at hcs
      exact not_mem_of_covers (List.forall₂_take 9 hrest) (by decide) hcs
    · intro hquote
      have hhead := head?_of_covers hrest (by decide) hquote
      split_ifs at hcs with hb
      · obtain ⟨ds, rfl⟩ := List.head?_eq_some_iff.mp hhead
        exact hcs List.mem_cons_self
      · exact hcs hhead

/-- A literal is a character and a quote, or a backslash and a quote not far behind. -/
theorem findCharLitClose_cases {cs : List Char} {n : ℕ} (h : findCharLitClose cs = some n) :
    (∃ c more, c ≠ '\\' ∧ cs = c :: '\'' :: more ∧ n = 2) ∨
      ∃ tail more, '\'' ∉ tail ∧ tail.length ≤ 8 ∧ cs = '\\' :: (tail ++ '\'' :: more) ∧
        n = tail.length + 2 := by
  cases cs with
  | nil => cases h
  | cons b cs =>
    by_cases hb : b = '\\'
    · subst hb
      have hmem : '\'' ∈ cs.take 9 := by
        by_contra hnot
        rw [findCharLitClose_cons_eq_none.mpr (by rwa [if_pos rfl])] at h
        cases h
      obtain ⟨tail, more, htake, htail⟩ := List.eq_append_cons_of_mem hmem
      have hcs : cs = tail ++ '\'' :: (more ++ cs.drop 9) := by
        calc cs = cs.take 9 ++ cs.drop 9 := (List.take_append_drop 9 cs).symm
          _ = tail ++ '\'' :: (more ++ cs.drop 9) := by
            rw [htake, List.append_assoc, List.cons_append]
      have hlen := List.length_take_le 9 cs
      rw [htake, List.length_append, List.length_cons] at hlen
      rw [hcs, findCharLitClose_escape htail (by omega)] at h
      exact .inr ⟨tail, _, htail, by omega, by rw [← hcs], (Option.some_inj.mp h).symm⟩
    · rw [findCharLitClose, if_neg hb] at h
      split_ifs at h with hquote
      obtain ⟨more, rfl⟩ := List.head?_eq_some_iff.mp hquote
      exact .inl ⟨b, more, hb, rfl, (Option.some_inj.mp h).symm⟩

/-- A literal is the same before another text. -/
theorem findCharLitClose_take {cs : List Char} {n : ℕ} (h : findCharLitClose cs = some n) :
    cs.take n ≠ [] ∧ (cs.take n).length = n ∧
      ∀ rest, findCharLitClose (cs.take n ++ rest) = some n := by
  rcases findCharLitClose_cases h with ⟨c, more, hc, rfl, rfl⟩ | ⟨tail, more, htail, hlen, rfl, rfl⟩
  · refine ⟨List.cons_ne_nil _ _, rfl, fun rest => ?_⟩
    simp [findCharLitClose, hc]
  · have htake : ('\\' :: (tail ++ '\'' :: more)).take (tail.length + 2) =
        '\\' :: (tail ++ ['\'']) := by
      rw [List.take_succ_cons, List.take_append, List.take_of_length_le (by omega)]
      simp
    rw [htake]
    refine ⟨List.cons_ne_nil _ _, by simp, fun rest => ?_⟩
    have hfound := findCharLitClose_escape htail hlen rest
    simpa using hfound

/-! ## The pieces and the result -/

theorem stripStep_covers (r : Reading) (c : Char) (rest : List Char) :
    Covers (stripStep r c rest).1 c := by
  unfold stripStep Covers
  split
  all_goals first
    | exact .inl rfl
    | exact .inr rfl
    | skip
  · split_ifs
    · exact .inl rfl
    · exact .inr rfl
  · split_ifs <;> simp
  · split_ifs
    · exact .inl rfl
    · split <;> exact .inl rfl
    · exact .inr rfl
    · exact .inr rfl
    · exact .inl rfl

/-- The result has a character or a blank for every character. -/
theorem stripFrom_covers (r : Reading) (cs : List Char) :
    List.Forall₂ Covers (stripFrom r cs) cs := by
  induction cs generalizing r with
  | nil => exact .nil
  | cons c cs ih => exact .cons (stripStep_covers r c cs) (ih _)

theorem covers_refl (cs : List Char) : List.Forall₂ Covers cs cs := by
  induction cs with
  | nil => exact .nil
  | cons c cs ih => exact .cons (.inl rfl) ih

/-- A piece that is no comment is written as it is, also when what follows it has been stripped
    before. -/
theorem stripFrom_firstPiece {c : Char} {cs r : List Char}
    (hcode : (firstPiece c cs).1.isComment = false)
    (hr : List.Forall₂ Covers r (firstPiece c cs).2) :
    stripFrom .code ((firstPiece c cs).1.text ++ r) =
      (firstPiece c cs).1.text ++ stripFrom .code r := by
  unfold firstPiece at hcode hr ⊢
  split_ifs at hcode hr ⊢ with hq hs hline hblock
  · have hempty : (splitString false cs).2 = [] → r = [] := by
      intro hnil
      rw [hnil] at hr
      exact List.forall₂_nil_right_iff.mp hr
    rw [hq]
    exact congrArg ('"' :: ·) (stripFrom_splitString false cs hempty)
  · subst hs
    split at hr
    · rename_i n hclose
      obtain ⟨hne, hlen, hsame⟩ := findCharLitClose_take hclose
      have hliteral := stripFrom_literal ((hsame r).trans (by rw [hlen])) hne
      exact hliteral
    · rename_i hclose
      exact stripFrom_quote (findCharLitClose_of_covers hr hclose)
  · have hline' : ¬ (c = '/' ∧ r.head? = some '/') := fun h =>
      hline ⟨h.1, head?_of_covers hr (by decide) h.2⟩
    have hblock' : ¬ (c = '/' ∧ r.head? = some '*') := fun h =>
      hblock ⟨h.1, head?_of_covers hr (by decide) h.2⟩
    show stripFrom .code (c :: r) = c :: stripFrom .code r
    simp only [stripFrom, stripStep, if_neg hq, if_neg hs, if_neg hline', if_neg hblock']

/-- A comment is written as blanks. -/
theorem stripFrom_comment {c : Char} {cs : List Char}
    (hcomment : (firstPiece c cs).1.isComment = true) :
    stripFrom .code (c :: cs) =
      (firstPiece c cs).1.text.map blank ++ stripFrom .code (firstPiece c cs).2 := by
  unfold firstPiece at hcomment ⊢
  split_ifs at hcomment ⊢ with hq hs hline hblock
  · split at hcomment <;> cases hcomment
  · have hblank : (cs.takeWhile (· ≠ '\n')).map blank =
        (cs.takeWhile (· ≠ '\n')).map fun _ => ' ' := by
      refine List.map_congr_left fun b hb => if_neg ?_
      simpa using List.mem_takeWhile_imp hb
    rw [List.map_cons, hblank, List.cons_append, ← stripFrom_takeWhile, hline.1]
    simp [stripFrom, stripStep, hline.2, blank]
  · obtain ⟨ds, rfl⟩ := List.head?_eq_some_iff.mp hblock.2
    have hbody := stripFrom_splitBlock ds
    rw [hblock.1]
    simp [stripFrom, stripStep, blank, hbody]

/-- What is written for a piece. -/
def Piece.stripped (p : Piece) : List Char := if p.isComment then p.text.map blank else p.text

theorem isPlain_blank (b : Char) : IsPlain (blank b) := by
  unfold blank
  split_ifs with hb
  · rw [hb]
    decide
  · decide

theorem stripFrom_cons (c : Char) (cs : List Char) :
    stripFrom .code (c :: cs) =
      (firstPiece c cs).1.stripped ++ stripFrom .code (firstPiece c cs).2 := by
  unfold Piece.stripped
  split_ifs with hcomment
  · exact stripFrom_comment hcomment
  · have hcode := stripFrom_firstPiece (Bool.eq_false_iff.mpr hcomment)
      (covers_refl (firstPiece c cs).2)
    rwa [firstPiece_append] at hcode

/-- What is written has no comments. -/
theorem stripFrom_stripFrom (bs : List Char) :
    stripFrom .code (stripFrom .code bs) = stripFrom .code bs := by
  induction bs using pieces.induct with
  | case1 => rfl
  | case2 c cs ih =>
    rw [stripFrom_cons]
    have hpiece : stripFrom .code ((firstPiece c cs).1.stripped ++
        stripFrom .code (firstPiece c cs).2) = (firstPiece c cs).1.stripped ++
          stripFrom .code (stripFrom .code (firstPiece c cs).2) := by
      unfold Piece.stripped
      split_ifs with hcomment
      · refine stripFrom_plain (fun b hb => ?_) _
        obtain ⟨a, _, rfl⟩ := List.mem_map.mp hb
        exact isPlain_blank a
      · exact stripFrom_firstPiece (Bool.eq_false_iff.mpr hcomment) (stripFrom_covers _ _)
    rw [hpiece, ih]

/-! ## Positions -/

/-- What is written at a position. -/
def strippedAt (c : Char) (inComment : Bool) : Char := if inComment then blank c else c

theorem zipWith_replicate_stripped (p : Piece) :
    List.zipWith strippedAt p.text (List.replicate p.text.length p.isComment) = p.stripped := by
  unfold Piece.stripped
  generalize p.text = text
  induction text with
  | nil => split_ifs <;> rfl
  | cons c cs ih =>
    rw [List.length_cons, List.replicate_succ, List.zipWith_cons_cons, ih]
    unfold strippedAt
    split_ifs <;> rfl

theorem commentFlags_cons (c : Char) (cs : List Char) :
    commentFlags (c :: cs) =
      List.replicate (firstPiece c cs).1.text.length (firstPiece c cs).1.isComment ++
        commentFlags (firstPiece c cs).2 := by
  rw [commentFlags, pieces, List.flatMap_cons]
  rfl

theorem length_commentFlags (bs : List Char) : (commentFlags bs).length = bs.length := by
  induction bs using pieces.induct with
  | case1 => rw [commentFlags, pieces]; rfl
  | case2 c cs ih =>
    rw [commentFlags_cons, List.length_append, List.length_replicate, ih, ← List.length_append,
      firstPiece_append]

/-- Every byte is written as a character, or a blank for it. -/
theorem stripFrom_eq (bs : List Char) :
    stripFrom .code bs = List.zipWith strippedAt bs (commentFlags bs) := by
  induction bs using pieces.induct with
  | case1 => rfl
  | case2 c cs ih =>
    rw [stripFrom_cons, ih, ← zipWith_replicate_stripped, commentFlags_cons,
      ← List.zipWith_append (by rw [List.length_replicate]), firstPiece_append]

theorem length_stripFrom (bs : List Char) : (stripFrom .code bs).length = bs.length := by
  rw [stripFrom_eq, List.length_zipWith, length_commentFlags, Nat.min_self]

theorem getElem?_stripFrom (bs : List Char) (i : ℕ) :
    (stripFrom .code bs)[i]? = bs[i]?.bind fun c =>
      (commentFlags bs)[i]?.map fun inComment => strippedAt c inComment := by
  rw [stripFrom_eq, List.getElem?_zipWith]
  cases bs[i]? <;> cases (commentFlags bs)[i]? <;> rfl

theorem getElem?_outside {bs : List Char} {i : ℕ} (h : ¬ InComment bs i) :
    (stripFrom .code bs)[i]? = bs[i]? := by
  rw [getElem?_stripFrom]
  cases hc : bs[i]? with
  | none => rfl
  | some c =>
    obtain ⟨hi, _⟩ := List.getElem?_eq_some_iff.mp hc
    rw [← length_commentFlags] at hi
    have hflag : (commentFlags bs)[i]? = some false := by
      rw [InComment, List.getElem?_eq_getElem hi, Option.some_inj, Bool.not_eq_true] at h
      rw [List.getElem?_eq_getElem hi, h]
    rw [hflag]
    rfl

theorem getElem?_inside {bs : List Char} {i : ℕ} {c : Char} (h : InComment bs i)
    (hc : bs[i]? = some c) : (stripFrom .code bs)[i]? = some (blank c) := by
  rw [getElem?_stripFrom, hc, h]
  rfl

theorem blank_eq_newline {c : Char} : blank c = '\n' ↔ c = '\n' := by
  unfold blank
  split_ifs with hc
  · exact Iff.rfl
  · exact iff_of_false (by decide) hc

/-- As characters, the result is in the layout of the bytes. -/
theorem sameLayout_stripFrom (bs : List Char) : SameLayout bs (stripFrom .code bs) where
  length := length_stripFrom bs
  newlines i := by
    by_cases hi : InComment bs i
    · cases hc : bs[i]? with
      | none =>
        rw [getElem?_stripFrom, hc]
        rfl
      | some c => rw [getElem?_inside hi hc, Option.some_inj, Option.some_inj, blank_eq_newline]
    · rw [getElem?_outside hi]
  outside _ := getElem?_outside
  inside _ _ := getElem?_inside

/-! ## Bytes beyond ASCII -/

theorem length_le_byteChars (text : List Char) : text.length ≤ (byteChars text).length := by
  induction text with
  | nil => exact le_refl _
  | cons c cs ih =>
    rw [ByteChars.byteChars_cons, List.length_append, List.length_cons]
    have hpos : 0 < (charBytes c).length := by
      obtain hascii | hwide := Nat.lt_or_ge c.toNat 128
      · rw [ByteChars.charBytes_ascii hascii]
        exact Nat.one_pos
      · obtain ⟨b₁, b₂, bs, hbytes, _⟩ := ByteChars.exists_charBytes hwide
        rw [hbytes, List.length_cons]
        exact Nat.succ_pos _
    omega

/-- A text of as many bytes as characters is ASCII. -/
theorem ascii_of_length {text : List Char} (h : (byteChars text).length = text.length) :
    ∀ c ∈ text, c.toNat < 128 := by
  induction text with
  | nil => nofun
  | cons c cs ih =>
    rw [ByteChars.byteChars_cons, List.length_append, List.length_cons] at h
    have hrest := length_le_byteChars cs
    obtain hascii | hwide := Nat.lt_or_ge c.toNat 128
    · rw [ByteChars.charBytes_ascii hascii, List.length_singleton] at h
      exact List.forall_mem_cons.mpr ⟨hascii, ih (by omega)⟩
    · obtain ⟨b₁, b₂, bs, hbytes, _⟩ := ByteChars.exists_charBytes hwide
      rw [hbytes, List.length_cons, List.length_cons] at h
      omega

theorem blank_ascii (c : Char) : (blank c).toNat < 128 := by
  unfold blank
  split_ifs with hc
  · rw [hc]
    decide
  · decide

/-- Every byte outside comments is ASCII. -/
def AsciiOutside (bs : List Char) : Prop :=
  ∀ (i : ℕ) (c : Char), ¬ InComment bs i → bs[i]? = some c → c.toNat < 128

theorem ascii_stripFrom_iff (bs : List Char) :
    (∀ c ∈ stripFrom .code bs, c.toNat < 128) ↔ AsciiOutside bs := by
  constructor
  · intro h i c hi hc
    rw [← getElem?_outside hi] at hc
    exact h c (List.mem_of_getElem? hc)
  · intro h c hc
    obtain ⟨i, hi, hget⟩ := List.mem_iff_getElem.mp hc
    have hget : (stripFrom .code bs)[i]? = some c := by rw [List.getElem?_eq_getElem hi, hget]
    by_cases hcomment : InComment bs i
    · have hb := hi
      rw [length_stripFrom] at hb
      rw [getElem?_inside hcomment (List.getElem?_eq_getElem hb)] at hget
      rw [← Option.some_inj.mp hget]
      exact blank_ascii _
    · rw [getElem?_outside hcomment] at hget
      exact h i c hcomment hget

/-! ## Rust tokens -/

/-- The token is a comment. -/
def Token.isComment : Token → Bool
  | .lineComment _ | .blockComment _ => true
  | _ => false

/-- A token without its comment. -/
def strippedToken (t : Token) : List Char :=
  if Token.isComment t then (byteChars t.text).map blank else byteChars t.text

theorem chunkText_tokenChunks {t : Token} (hformed : t.Formed) :
    chunkText (tokenChunks t) = strippedToken t := by
  cases t with
  | char c => simp [tokenChunks, strippedToken, Token.isComment, Token.text]
  | opening d | closing d => cases d <;> decide
  | str items =>
    simp [tokenChunks, strippedToken, Token.isComment, Token.text, Chunk.text]
  | rawStr hashes content =>
    have hbytes : byteChars (List.replicate hashes '#') = List.replicate hashes '#' :=
      ByteChars.byteChars_ascii fun c hc => by rw [List.eq_of_mem_replicate hc]; decide
    simp [tokenChunks, strippedToken, Token.isComment, Token.text, Chunk.text, hbytes]
  | charLit item | lifetime name =>
    simp [tokenChunks, strippedToken, Token.isComment, Token.text, Chunk.text]
  | lineComment content =>
    have hbytes : '\n' ∉ byteChars content := by
      rw [ByteChars.mem_byteChars (by decide)]
      exact hformed
    have hblank : (byteChars content).map blank =
        List.replicate (byteChars content).length ' ' := by
      refine List.eq_replicate_iff.mpr ⟨List.length_map _, fun a ha => ?_⟩
      obtain ⟨b, hb, rfl⟩ := List.mem_map.mp ha
      have hne : b ≠ '\n' := fun heq => hbytes (heq ▸ hb)
      rw [blank, if_neg hne]
    have hslash : blank '/' = ' ' := by decide
    have hnewline : blank '\n' = '\n' := by decide
    simp [tokenChunks, strippedToken, Token.isComment, Token.text, Chunk.text, hblank, hslash,
      hnewline]
  | blockComment content =>
    have hblank : (byteChars content).map (fun b => Chunk.code (blank b)) =
        ((byteChars content).map blank).map .code := by
      rw [List.map_map]
      rfl
    have hcontent := chunkText_map_code ((byteChars content).map blank)
    rw [← hblank] at hcontent
    have hslash : blank '/' = ' ' := by decide
    have hstar : blank '*' = ' ' := by decide
    simp [tokenChunks, strippedToken, Token.isComment, Token.text, Chunk.text, hcontent, hslash,
      hstar]

theorem strip_rustTokens {ts : List Token} (hlex : Lexes ts []) (hread : Readable ts []) :
    stripCommentsPreserveLayout (RustTokens.text ts) = ts.flatMap strippedToken := by
  have hstrip := strip_tokens hlex hread (by nofun)
  rw [List.append_nil] at hstrip
  have hchunks : chunkText (chunks ts) = ts.flatMap strippedToken := by
    clear hstrip hread
    induction ts with
    | nil => rfl
    | cons t ts ih =>
      rw [chunks_cons, chunkText_append, chunkText_tokenChunks hlex.1, ih hlex.2.2,
        List.flatMap_cons]
  rw [← hchunks]
  exact hstrip.trans (List.append_nil _)

end DarkTower.Guard
