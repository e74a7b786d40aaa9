import DarkTower.Lib.Nesting
import DarkTower.Lib.Words

/-!
# Texts with quoted strings

A string goes from a quote to the next such quote that is not escaped, or to the end of the
text. `emptied` is the text without what stands in its strings, `contents` is that.

`Empties` relates a text to both, string by string, and carries the inductions here:
* `mem_words_iff`: the words are those of the emptied text and those in the strings;
* `Agree.cutAtClose`, `calls_empties`: strings without brackets do not change which bracket
  closes what is open, nor which calls there are.
-/

namespace DarkTower.Lib.Quoted

open Nesting (cutAtClose)
open Words (WholeWord calls words)

/-- Which characters open a string, and in which strings a backslash escapes. -/
structure Quoting where
  opens : Char → Bool
  escapes : Char → Bool

variable (qs : Quoting)

/-- Whether the next character is escaped behind this part of a string; nothing if the
    string has ended in it. -/
def stays (q : Char) : Bool → List Char → Option Bool
  | escaped, [] => some escaped
  | true, _ :: cs => stays q false cs
  | false, c :: cs => if c = q then none else stays q (qs.escapes q && c == '\\') cs

/-- The scan for `emptied`: outside of strings, or in one. -/
def emptiedFrom : Option (Char × Bool) → List Char → List Char
  | _, [] => []
  | none, c :: cs => c :: emptiedFrom (if qs.opens c then some (c, false) else none) cs
  | some (q, true), _ :: cs => emptiedFrom (some (q, false)) cs
  | some (q, false), c :: cs =>
    if c = q then c :: emptiedFrom none cs
    else emptiedFrom (some (q, qs.escapes q && c == '\\')) cs

/-- The text, its strings being empty. -/
def emptied (cs : List Char) : List Char := emptiedFrom qs none cs

/-- The scan for `contents`, with what was read of the string. -/
def contentsFrom : Option (Char × Bool × List Char) → List Char → List (List Char)
  | none, [] => []
  | some (_, _, body), [] => [body]
  | none, c :: cs => contentsFrom (if qs.opens c then some (c, false, []) else none) cs
  | some (q, true, body), c :: cs => contentsFrom (some (q, false, body ++ [c])) cs
  | some (q, false, body), c :: cs =>
    if c = q then body :: contentsFrom none cs
    else contentsFrom (some (q, qs.escapes q && c == '\\', body ++ [c])) cs

/-- What stands in the strings of the text. -/
def contents (cs : List Char) : List (List Char) := contentsFrom qs none cs

/-- A text outside of strings, without one, with a first one that is not closed, or with a
    first one and a rest. -/
inductive Empties : List Char → List Char → List (List Char) → Prop
  | plain {cs : List Char} (hcs : ∀ c ∈ cs, qs.opens c = false) : Empties cs cs []
  | unclosed {cs body : List Char} {q : Char} {escaped : Bool}
      (hcs : ∀ c ∈ cs, qs.opens c = false) (hq : qs.opens q = true)
      (hbody : stays qs q false body = some escaped) :
      Empties (cs ++ q :: body) (cs ++ [q]) [body]
  | closed {cs body rest rest' : List Char} {q : Char} {bodies : List (List Char)}
      (hcs : ∀ c ∈ cs, qs.opens c = false) (hq : qs.opens q = true)
      (hbody : stays qs q false body = some false) (hrest : Empties rest rest' bodies) :
      Empties (cs ++ q :: (body ++ q :: rest)) (cs ++ q :: q :: rest') (body :: bodies)

variable {qs : Quoting} {cs cs' body xs ys : List Char} {q c sep : Char} {escaped : Bool}
  {bodies : List (List Char)} {isWord : Char → Bool} {d : ℕ} {word : List Char}

theorem stays_append {after : Bool} (h : stays qs q escaped body = some after)
    (more : List Char) : stays qs q escaped (body ++ more) = stays qs q after more := by
  induction body generalizing escaped with
  | nil =>
    obtain rfl := Option.some.inj h
    rfl
  | cons b body ih =>
    rw [List.cons_append]
    cases escaped with
    | true => exact ih h
    | false =>
      rw [stays] at h ⊢
      by_cases hb : b = q
      · rw [if_pos hb] at h
        cases h
      · rw [if_neg hb] at h ⊢
        exact ih h

theorem stays_concat (h : stays qs q escaped body = some false) (hc : c ≠ q) :
    stays qs q escaped (body ++ [c]) = some (qs.escapes q && c == '\\') := by
  rw [stays_append h, stays, if_neg hc, stays]

theorem stays_concat_escaped (h : stays qs q escaped body = some true) :
    stays qs q escaped (body ++ [c]) = some false :=
  stays_append h [c]

/-- Every text is emptied by `emptied`. -/
theorem empties (cs : List Char) : Empties qs cs (emptied qs cs) (contents qs cs) := by
  have hscan : ∀ pre, (∀ c ∈ pre, qs.opens c = false) →
      Empties qs (pre ++ cs) (pre ++ emptiedFrom qs none cs) (contentsFrom qs none cs) ∧
      ∀ q body escaped, qs.opens q = true → stays qs q false body = some escaped →
        Empties qs (pre ++ q :: (body ++ cs)) (pre ++ q :: emptiedFrom qs (some (q, escaped)) cs)
          (contentsFrom qs (some (q, escaped, body)) cs) := by
    induction cs with
    | nil =>
      intro pre hpre
      refine ⟨?_, fun q body escaped hq hbody => ?_⟩
      · rw [List.append_nil]
        show Empties qs pre (pre ++ []) []
        rw [List.append_nil]
        exact .plain hpre
      · rw [List.append_nil]
        show Empties qs (pre ++ q :: body) (pre ++ [q]) [body]
        exact .unclosed hpre hq hbody
    | cons c cs ih =>
      intro pre hpre
      refine ⟨?_, fun q body escaped hq hbody => ?_⟩
      · unfold emptiedFrom contentsFrom
        cases hc : qs.opens c with
        | true => exact (ih pre hpre).2 c [] false hc rfl
        | false =>
          show Empties qs (pre ++ c :: cs) (pre ++ c :: emptiedFrom qs none cs)
            (contentsFrom qs none cs)
          rw [List.append_cons pre c cs, List.append_cons pre c (emptiedFrom qs none cs)]
          refine (ih (pre ++ [c]) ?_).1
          rw [List.forall_mem_append, List.forall_mem_singleton]
          exact ⟨hpre, hc⟩
      · cases escaped with
        | true =>
          rw [List.append_cons body]
          exact (ih pre hpre).2 q (body ++ [c]) false hq (stays_concat_escaped hbody)
        | false =>
          unfold emptiedFrom contentsFrom
          by_cases hc : c = q
          · rw [if_pos hc, if_pos hc, hc]
            exact .closed hpre hq hbody (ih [] (by simp)).1
          · rw [if_neg hc, if_neg hc, List.append_cons body]
            exact (ih pre hpre).2 q (body ++ [c]) _ hq (stays_concat hbody hc)
  exact (hscan [] (by simp)).1

/-! ## Words -/

/-- The words of a text are those outside of its strings and those in them. -/
theorem mem_words_iff (hword : ∀ q, qs.opens q = true → isWord q = false)
    (h : Empties qs cs cs' bodies) :
    word ∈ words isWord cs ↔
      word ∈ words isWord cs' ∨ ∃ body ∈ bodies, word ∈ words isWord body := by
  induction h with
  | plain _ => simp
  | unclosed _ hq _ =>
    rw [Words.words_append_sep (hword _ hq), Words.words_append_sep (hword _ hq)]
    simp [words]
  | closed _ hq _ _ ih =>
    have hsep := hword _ hq
    rw [Words.words_append_sep hsep, Words.words_append_sep hsep, Words.words_append_sep hsep,
      Words.words_cons_sep hsep, List.mem_append, List.mem_append, List.mem_append, ih,
      List.exists_mem_cons_iff]
    tauto

/-! ## A text and the text emptied -/

/-- Two texts, the second one being the first one emptied; their strings are among these. -/
def Agree (qs : Quoting) (bodies : List (List Char)) (cs cs' : List Char) : Prop :=
  ∃ bs, bs ⊆ bodies ∧ Empties qs cs cs' bs

theorem Agree.plain (hcs : ∀ c ∈ cs, qs.opens c = false) : Agree qs bodies cs cs :=
  ⟨[], List.nil_subset _, .plain hcs⟩

theorem Agree.mono {bodies' : List (List Char)} (hsub : bodies ⊆ bodies')
    (h : Agree qs bodies cs cs') : Agree qs bodies' cs cs' := by
  obtain ⟨bs, hbs, hempties⟩ := h
  exact ⟨bs, List.Subset.trans hbs hsub, hempties⟩

theorem Agree.unclosed (hcs : ∀ c ∈ cs, qs.opens c = false) (hq : qs.opens q = true)
    (hbody : stays qs q false body = some escaped) :
    Agree qs [body] (cs ++ q :: body) (cs ++ [q]) :=
  ⟨[body], List.Subset.refl _, .unclosed hcs hq hbody⟩

theorem Agree.closed (hcs : ∀ c ∈ cs, qs.opens c = false) (hq : qs.opens q = true)
    (hbody : stays qs q false body = some false) (h : Agree qs bodies xs ys) :
    Agree qs (body :: bodies) (cs ++ q :: (body ++ q :: xs)) (cs ++ q :: q :: ys) := by
  obtain ⟨bs, hbs, hempties⟩ := h
  exact ⟨body :: bs, List.cons_subset_cons body hbs, .closed hcs hq hbody hempties⟩

theorem Agree.cons (hc : qs.opens c = false) (h : Agree qs bodies xs ys) :
    Agree qs bodies (c :: xs) (c :: ys) := by
  have hcons {cs : List Char} (hcs : ∀ c ∈ cs, qs.opens c = false) :
      ∀ d ∈ c :: cs, qs.opens d = false := List.forall_mem_cons.mpr ⟨hc, hcs⟩
  obtain ⟨bs, hbs, h⟩ := h
  cases h with
  | plain hcs => exact .plain (hcons hcs)
  | unclosed hcs hq hbody => exact (Agree.unclosed (hcons hcs) hq hbody).mono hbs
  | closed hcs hq hbody hrest => exact ⟨_, hbs, .closed (hcons hcs) hq hbody hrest⟩

theorem opens_of_mem_suffix {rest : List Char} (hcs : ∀ c ∈ cs, qs.opens c = false)
    (h : rest <:+ cs) : ∀ c ∈ rest, qs.opens c = false := fun c hc => hcs c (h.subset hc)

/-- They start with the same character, and agree behind it unless it opens a string. -/
theorem Agree.head (h : Agree qs bodies xs ys) :
    (xs = [] ∧ ys = []) ∨
      ∃ c xs' ys', xs = c :: xs' ∧ ys = c :: ys' ∧
        (qs.opens c = true ∨ Agree qs bodies xs' ys') := by
  obtain ⟨bs, hbs, h⟩ := h
  cases h with
  | plain hcs =>
    cases xs with
    | nil => exact .inl ⟨rfl, rfl⟩
    | cons c xs =>
      exact .inr ⟨c, xs, xs, rfl, rfl, .inr (.plain (List.forall_mem_cons.mp hcs).2)⟩
  | @unclosed cs body q escaped hcs hq hbody =>
    cases cs with
    | nil => exact .inr ⟨q, _, _, rfl, rfl, .inl hq⟩
    | cons c cs =>
      refine .inr ⟨c, cs ++ q :: body, cs ++ [q], rfl, rfl, .inr ?_⟩
      exact (Agree.unclosed (List.forall_mem_cons.mp hcs).2 hq hbody).mono hbs
  | @closed cs body rest rest' q bs hcs hq hbody hrest =>
    cases cs with
    | nil => exact .inr ⟨q, _, _, rfl, rfl, .inl hq⟩
    | cons c cs =>
      refine .inr ⟨c, _, _, rfl, rfl, .inr ?_⟩
      exact ⟨_, hbs, .closed (List.forall_mem_cons.mp hcs).2 hq hbody hrest⟩

/-- Character by character outside of strings, and string by string. -/
theorem Agree.induction {motive : List Char → List Char → Prop} (h : Agree qs bodies xs ys)
    (nil : motive [] [])
    (char : ∀ c xs ys, qs.opens c = false → Agree qs bodies xs ys → motive xs ys →
      motive (c :: xs) (c :: ys))
    (unclosed : ∀ q body, qs.opens q = true → body ∈ bodies → motive (q :: body) [q])
    (closed : ∀ q body rest rest', qs.opens q = true → stays qs q false body = some false →
      body ∈ bodies → motive rest rest' → motive (q :: (body ++ q :: rest)) (q :: q :: rest')) :
    motive xs ys := by
  have hchars {cs tail tail' : List Char} (hcs : ∀ c ∈ cs, qs.opens c = false)
      (hagree : ∀ cs, (∀ c ∈ cs, qs.opens c = false) → Agree qs bodies (cs ++ tail) (cs ++ tail'))
      (htail : motive tail tail') : motive (cs ++ tail) (cs ++ tail') := by
    induction cs with
    | nil => exact htail
    | cons c cs ih =>
      obtain ⟨hc, hcs⟩ := List.forall_mem_cons.mp hcs
      exact char c _ _ hc (hagree cs hcs) (ih hcs)
  obtain ⟨bs, hbs, h⟩ := h
  induction h with
  | @plain cs hcs =>
    have hall := hchars hcs (fun cs hcs => ?_) nil
    · rw [List.append_nil] at hall
      exact hall
    · rw [List.append_nil]
      exact .plain hcs
  | unclosed hcs hq hbody =>
    refine hchars hcs (fun cs hcs => ?_)
      (unclosed _ _ hq (hbs (List.mem_singleton_self _)))
    exact (Agree.unclosed hcs hq hbody).mono hbs
  | closed hcs hq hbody hrest ih =>
    obtain ⟨hmem, hbs'⟩ := List.cons_subset.mp hbs
    refine hchars hcs (fun cs hcs => ⟨_, hbs, .closed hcs hq hbody hrest⟩) ?_
    exact closed _ _ _ _ hq hbody hmem (ih hbs')

/-- Where all characters of strings and the quotes are such that they are skipped: character by
    character outside of strings, and from one string to the next. -/
theorem Agree.skip_induction {motive : List Char → List Char → Prop} {p : Char → Prop}
    (h : Agree qs bodies xs ys) (hquotes : ∀ q, qs.opens q = true → p q)
    (hbodies : ∀ body ∈ bodies, ∀ c ∈ body, p c) (nil : motive [] [])
    (char : ∀ c xs ys, qs.opens c = false → Agree qs bodies xs ys → motive xs ys →
      motive (c :: xs) (c :: ys))
    (unclosed : ∀ xs ys, (∀ c ∈ xs, p c) → (∀ c ∈ ys, p c) → motive xs ys)
    (closed : ∀ front front' xs ys, (∀ c ∈ front, p c) → (∀ c ∈ front', p c) →
      (∀ xs ys, Agree qs bodies xs ys → Agree qs bodies (front ++ xs) (front' ++ ys)) →
      motive xs ys → motive (front ++ xs) (front' ++ ys)) :
    motive xs ys := by
  refine h.induction nil char (fun q body hq hmem => ?_) fun q body xs ys hq hbody hmem ih => ?_
  · refine unclosed _ _ ?_ ?_
    · exact List.forall_mem_cons.mpr ⟨hquotes q hq, hbodies body hmem⟩
    · exact List.forall_mem_singleton.mpr (hquotes q hq)
  · have hstring (cs : List Char) : q :: (body ++ q :: cs) = q :: (body ++ [q]) ++ cs := by simp
    rw [hstring]
    refine closed (q :: (body ++ [q])) [q, q] xs ys ?_ ?_ (fun xs ys hagree => ?_) ih
    · simp only [List.forall_mem_cons, List.forall_mem_append]
      exact ⟨hquotes q hq, hbodies body hmem, hquotes q hq, List.forall_mem_nil _⟩
    · simp only [List.forall_mem_cons]
      exact ⟨hquotes q hq, hquotes q hq, List.forall_mem_nil _⟩
    · rw [← hstring]
      have hclosed := Agree.closed (List.forall_mem_nil _) hq hbody hagree
      exact hclosed.mono (List.cons_subset.mpr ⟨hmem, List.Subset.refl _⟩)

/-! ## Looking for a bracket or another character -/

/-- What is found in the rests of two texts, with what stands in front of the rests. -/
theorem rel_map_append (front front' : List Char) {found found' : Option (List Char × List Char)}
    (hagree : ∀ xs ys, Agree qs bodies xs ys → Agree qs bodies (front ++ xs) (front' ++ ys))
    (h : Option.Rel (fun p p' => Agree qs bodies p.1 p'.1 ∧ Agree qs bodies p.2 p'.2) found
      found') :
    Option.Rel (fun p p' => Agree qs bodies p.1 p'.1 ∧ Agree qs bodies p.2 p'.2)
      (found.map fun p => (front ++ p.1, p.2)) (found'.map fun p => (front' ++ p.1, p.2)) := by
  obtain hp | _ := h
  · exact .some ⟨hagree _ _ hp.1, hp.2⟩
  · exact .none

/-- The closing bracket of a text and that of the text emptied. -/
theorem Agree.cutAtClose {op cl : Char} (hne : cl ≠ op) (hop : qs.opens op = false)
    (hcl : qs.opens cl = false) (hbodies : ∀ body ∈ bodies, op ∉ body ∧ cl ∉ body)
    (h : Agree qs bodies xs ys) (d : ℕ) :
    Option.Rel (fun p p' => Agree qs bodies p.1 p'.1 ∧ Agree qs bodies p.2 p'.2)
      (cutAtClose op cl d xs) (cutAtClose op cl d ys) := by
  have hskip {front : List Char} (hfront : ∀ c ∈ front, c ≠ op ∧ c ≠ cl) (d : ℕ)
      (cs : List Char) : Nesting.cutAtClose op cl d (front ++ cs) =
        (Nesting.cutAtClose op cl d cs).map fun p => (front ++ p.1, p.2) :=
    Nesting.cutAtClose_append_of_notMem (fun hmem => (hfront _ hmem).1 rfl)
      fun hmem => (hfront _ hmem).2 rfl
  have hnone {cs : List Char} (hcs : ∀ c ∈ cs, c ≠ op ∧ c ≠ cl) (d : ℕ) :
      Nesting.cutAtClose op cl d cs = none := by
    rw [← List.append_nil cs, hskip hcs]
    rfl
  have hquotes (q : Char) (hq : qs.opens q = true) : q ≠ op ∧ q ≠ cl := by
    constructor <;>
    · rintro rfl
      simp_all
  have hbodies' : ∀ body ∈ bodies, ∀ c ∈ body, c ≠ op ∧ c ≠ cl := fun body hbody c hc =>
    ⟨ne_of_mem_of_not_mem hc (hbodies body hbody).1, ne_of_mem_of_not_mem hc (hbodies body hbody).2⟩
  refine h.skip_induction (motive := fun xs ys => ∀ d, Option.Rel _
    (Nesting.cutAtClose op cl d xs) (Nesting.cutAtClose op cl d ys)) hquotes hbodies'
    (fun _ => .none) ?_ ?_ ?_ d
  · intro c xs ys hc hagree ih d
    have hcons (d : ℕ) := rel_map_append [c] [c] (fun _ _ => Agree.cons hc) (ih d)
    by_cases hcop : c = op
    · subst hcop
      rw [Nesting.cutAtClose_cons_op, Nesting.cutAtClose_cons_op]
      exact hcons _
    by_cases hccl : c = cl
    · subst hccl
      cases d with
      | zero =>
        rw [Nesting.cutAtClose_cons_cl_zero hne, Nesting.cutAtClose_cons_cl_zero hne]
        exact .some ⟨.plain (List.forall_mem_nil _), hagree⟩
      | succ d =>
        rw [Nesting.cutAtClose_cons_cl_succ hne, Nesting.cutAtClose_cons_cl_succ hne]
        exact hcons d
    · rw [Nesting.cutAtClose_cons_of_ne hcop hccl, Nesting.cutAtClose_cons_of_ne hcop hccl]
      exact hcons d
  · intro xs ys hxs hys d
    rw [hnone hxs, hnone hys]
    exact .none
  · intro front front' xs ys hfront hfront' hagree ih d
    rw [hskip hfront, hskip hfront']
    exact rel_map_append front front' hagree (ih d)

theorem cutAt_append_of_notMem (h : c ∉ xs) :
    Text.cutAt c (xs ++ ys) = (Text.cutAt c ys).map fun p => (xs ++ p.1, p.2) := by
  induction xs with
  | nil => exact Option.map_id'.symm
  | cons x xs ih =>
    obtain ⟨hx, hxs⟩ := List.ne_and_not_mem_of_not_mem_cons h
    rw [List.cons_append, Text.cutAt, if_neg hx.symm, ih hxs, Option.map_map]
    rfl

/-- The first such character of a text and of the text emptied. -/
theorem Agree.cutAt (hc : qs.opens c = false) (hbodies : ∀ body ∈ bodies, c ∉ body)
    (h : Agree qs bodies xs ys) :
    Option.Rel (fun p p' => Agree qs bodies p.1 p'.1 ∧ Agree qs bodies p.2 p'.2)
      (Text.cutAt c xs) (Text.cutAt c ys) := by
  have hskip {front : List Char} (hfront : ∀ x ∈ front, x ≠ c) (cs : List Char) :
      Text.cutAt c (front ++ cs) = (Text.cutAt c cs).map fun p => (front ++ p.1, p.2) :=
    cutAt_append_of_notMem fun hmem => hfront _ hmem rfl
  have hnone {cs : List Char} (hcs : ∀ x ∈ cs, x ≠ c) : Text.cutAt c cs = none := by
    rw [← List.append_nil cs, hskip hcs]
    rfl
  have hquotes (q : Char) (hq : qs.opens q = true) : q ≠ c := by
    rintro rfl
    rw [hc] at hq
    cases hq
  have hbodies' : ∀ body ∈ bodies, ∀ x ∈ body, x ≠ c := fun body hbody x hx =>
    ne_of_mem_of_not_mem hx (hbodies body hbody)
  refine h.skip_induction (motive := fun xs ys => Option.Rel _ (Text.cutAt c xs)
    (Text.cutAt c ys)) hquotes hbodies' .none ?_ ?_ ?_
  · intro x xs ys hx hagree ih
    rw [Text.cutAt, Text.cutAt]
    split_ifs
    · exact .some ⟨.plain (List.forall_mem_nil _), hagree⟩
    · exact rel_map_append [x] [x] (fun _ _ => Agree.cons hx) ih
  · intro xs ys hxs hys
    rw [hnone hxs, hnone hys]
    exact .none
  · intro front front' xs ys hfront hfront' hagree ih
    rw [hskip hfront, hskip hfront']
    exact rel_map_append front front' hagree ih

/-! ## Calls -/

/-- The calls of a text and those of the text emptied. -/
theorem calls_empties (hopen : qs.opens '(' = false)
    (hquote : ∀ q, qs.opens q = true → isWord q = false ∧ Text.isWhitespace q = false)
    (hbodies : ∀ body ∈ bodies, '(' ∉ body) (h : Empties qs cs cs' bodies) :
    List.Forall₂ (fun p p' => p.1 = p'.1 ∧ Agree qs bodies p.2 p'.2) (calls isWord cs)
      (calls isWord cs') := by
  have hparen {q : Char} (hq : qs.opens q = true) : q ≠ '(' := by
    rintro rfl
    rw [hopen] at hq
    cases hq
  have hsep {q : Char} (hq : qs.opens q = true) (xs rest : List Char) :
      calls isWord (xs ++ q :: rest) =
        (calls isWord xs).map (fun p => (p.1, p.2 ++ q :: rest)) ++ calls isWord rest :=
    Words.calls_append_sep (hquote q hq).1 (hquote q hq).2 (hparen hq)
  induction h with
  | plain hcs =>
    refine List.forall₂_same.mpr fun p hp => ⟨rfl, .plain ?_⟩
    exact opens_of_mem_suffix hcs (Words.isSuffix_of_mem_calls hp)
  | @unclosed cs body q escaped hcs hq hbody =>
    have hbody' := hbodies body (List.mem_singleton_self body)
    rw [hsep hq, hsep hq, Words.calls_eq_nil_of_notMem hbody',
      show calls isWord [] = [] from rfl, List.append_nil, List.append_nil,
      List.forall₂_map_left_iff, List.forall₂_map_right_iff]
    refine List.forall₂_same.mpr fun p hp => ⟨rfl, .unclosed ?_ hq hbody⟩
    exact opens_of_mem_suffix hcs (Words.isSuffix_of_mem_calls hp)
  | @closed cs body rest rest' q bodies hcs hq hbody hrest ih =>
    obtain ⟨hbody', hbodies⟩ := List.forall_mem_cons.mp hbodies
    have hnil : calls isWord (body ++ q :: rest) = calls isWord rest := by
      rw [hsep hq, Words.calls_eq_nil_of_notMem hbody']
      rfl
    have hnil' : calls isWord (q :: rest') = calls isWord rest' := hsep hq [] rest'
    rw [hsep hq cs (body ++ q :: rest), hsep hq cs (q :: rest'), hnil, hnil']
    refine List.rel_append ?_ ?_
    · rw [List.forall₂_map_left_iff, List.forall₂_map_right_iff]
      refine List.forall₂_same.mpr fun p hp =>
        ⟨rfl, .closed ?_ hq hbody ⟨bodies, List.Subset.refl _, hrest⟩⟩
      exact opens_of_mem_suffix hcs (Words.isSuffix_of_mem_calls hp)
    · refine (ih hbodies).imp fun p p' hp => ⟨hp.1, hp.2.mono (List.subset_cons_self _ _)⟩

/-! ## Reading on in a text and in the text emptied -/

/-- Texts that agree are equal if there is no string. -/
theorem Agree.eq_or_opens (h : Agree qs bodies xs ys) :
    xs = ys ∨ (∃ q ∈ xs, qs.opens q = true) ∧ ∃ q ∈ ys, qs.opens q = true := by
  obtain ⟨bs, -, h⟩ := h
  cases h with
  | plain _ => exact .inl rfl
  | unclosed _ hq _ => exact .inr ⟨⟨_, by simp, hq⟩, _, by simp, hq⟩
  | closed _ hq _ _ => exact .inr ⟨⟨_, by simp, hq⟩, _, by simp, hq⟩

theorem Agree.mem_words_iff (hword : ∀ q, qs.opens q = true → isWord q = false)
    (hbodies : ∀ body ∈ bodies, word ∉ words isWord body) (h : Agree qs bodies xs ys) :
    word ∈ words isWord xs ↔ word ∈ words isWord ys := by
  obtain ⟨bs, hbs, h⟩ := h
  rw [Quoted.mem_words_iff hword h]
  refine or_iff_left ?_
  rintro ⟨body, hbody, hmem⟩
  exact hbodies body (hbs hbody) hmem

theorem takeWhile_append_of_neg {p : Char → Bool} (hp : p c = false) :
    (xs ++ c :: ys).takeWhile p = xs.takeWhile p := by
  induction xs with
  | nil => exact List.takeWhile_cons_of_neg (by simp [hp])
  | cons x xs ih => rw [List.cons_append, List.takeWhile_cons, List.takeWhile_cons, ih]

theorem dropWhile_append_of_neg {p : Char → Bool} (hp : p c = false) :
    (xs ++ c :: ys).dropWhile p = xs.dropWhile p ++ c :: ys := by
  induction xs with
  | nil => exact List.dropWhile_cons_of_neg (by simp [hp])
  | cons x xs ih =>
    rw [List.cons_append, List.dropWhile_cons, List.dropWhile_cons, ih]
    split_ifs <;> rfl

/-- What neither quote satisfies is the same at the start of both texts, -/
theorem Agree.takeWhile {p : Char → Bool} (hp : ∀ q, qs.opens q = true → p q = false)
    (h : Agree qs bodies xs ys) : xs.takeWhile p = ys.takeWhile p := by
  obtain ⟨bs, -, h⟩ := h
  cases h with
  | plain _ => rfl
  | unclosed _ hq _ | closed _ hq _ _ =>
    rw [takeWhile_append_of_neg (hp _ hq), takeWhile_append_of_neg (hp _ hq)]

/-- and behind it they agree. -/
theorem Agree.dropWhile {p : Char → Bool} (hp : ∀ q, qs.opens q = true → p q = false)
    (h : Agree qs bodies xs ys) : Agree qs bodies (xs.dropWhile p) (ys.dropWhile p) := by
  obtain ⟨bs, hbs, h⟩ := h
  have hplain {cs : List Char} (hcs : ∀ c ∈ cs, qs.opens c = false) :
      ∀ c ∈ cs.dropWhile p, qs.opens c = false :=
    opens_of_mem_suffix hcs (List.dropWhile_suffix _)
  cases h with
  | plain hcs => exact .plain (hplain hcs)
  | unclosed hcs hq hbody =>
    rw [dropWhile_append_of_neg (hp _ hq), dropWhile_append_of_neg (hp _ hq)]
    exact (Agree.unclosed (hplain hcs) hq hbody).mono hbs
  | closed hcs hq hbody hrest =>
    rw [dropWhile_append_of_neg (hp _ hq), dropWhile_append_of_neg (hp _ hq)]
    exact ⟨_, hbs, .closed (hplain hcs) hq hbody hrest⟩

theorem Agree.trimStart (hspace : ∀ q, qs.opens q = true → Text.isWhitespace q = false)
    (h : Agree qs bodies xs ys) : Agree qs bodies (Text.trimStart xs) (Text.trimStart ys) :=
  h.dropWhile hspace

end DarkTower.Lib.Quoted
