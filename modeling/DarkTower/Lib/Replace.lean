import Mathlib.Data.List.Infix
import Mathlib.Data.List.Nodup
import Mathlib.Data.List.Perm.Basic

/-!
# Words replaced in a text

`rewrite` goes over a text once, from left to right, and replaces at each place the word of the
first rule that stands there. `splitFirst` looks for the first place of a word.

* `splitFirst_eq_some_iff`, `splitFirst_eq_none_iff`: where the first place is.
* `foldl_replace_eq_rewrite`: words that are `Marked` can be replaced one after the other, if
  what replaces them keeps clear of the marks and is no part of a word (`Apart`).
* `rewrite_perm`: the order of such rules does not matter, and
  `Apart.rewrite_append_first`: a first mark parts the text in two.
-/

namespace DarkTower.Lib.Replace

variable {α : Type*} [DecidableEq α]

/-- Words and what replaces them. -/
abbrev Rules (α : Type*) := List (List α × List α)

/-- The text before the first place of the word, and that behind the word. -/
def splitFirst (word : List α) : List α → Option (List α × List α)
  | [] => if word = [] then some ([], []) else none
  | c :: cs =>
    if word <+: c :: cs then some ([], (c :: cs).drop word.length)
    else (splitFirst word cs).map fun p => (c :: p.1, p.2)

/-- The pass of `rewrite`; so many characters are still those of a word. -/
def rewriteFrom (rules : Rules α) : ℕ → List α → List α
  | _, [] => []
  | skip + 1, _ :: cs => rewriteFrom rules skip cs
  | 0, c :: cs =>
    match rules.find? fun r => r.1 <+: c :: cs with
    | some (word, new) => new ++ rewriteFrom rules (word.length - 1) cs
    | none => c :: rewriteFrom rules 0 cs

/-- Every word of the rules is replaced, in one pass. -/
def rewrite (rules : Rules α) (cs : List α) : List α := rewriteFrom rules 0 cs

/-- `str::replace`, for a word that is not empty. -/
def replace (word new cs : List α) : List α := rewrite [(word, new)] cs

variable {word new cs before after : List α} {c : α} {rules : Rules α}

/-! ## The first place of a word -/

omit [DecidableEq α] in
theorem infix_cons_iff_of_not (h : ¬word <+: c :: cs) : word <:+: c :: cs ↔ word <:+: cs :=
  List.infix_cons_iff.trans (or_iff_right h)

omit [DecidableEq α] in
theorem append_dropLast_isPrefix (before word after : List α) :
    before ++ word.dropLast <+: before ++ (word ++ after) :=
  (List.prefix_append_right_inj before).mpr
    ((List.dropLast_prefix word).trans (List.prefix_append word after))

theorem splitFirst_eq_none_iff : splitFirst word cs = none ↔ ¬word <:+: cs := by
  induction cs with
  | nil =>
    rw [splitFirst, List.infix_nil]
    split_ifs with h <;> simp [h]
  | cons c cs ih =>
    rw [splitFirst]
    by_cases h : word <+: c :: cs
    · rw [if_pos h]
      exact iff_of_false (by simp) (not_not.mpr h.isInfix)
    · rw [if_neg h, Option.map_eq_none_iff, ih, infix_cons_iff_of_not h]

/-- The first place: no earlier one ends before the end of the word. -/
theorem splitFirst_eq_some_iff (hne : word ≠ []) : splitFirst word cs = some (before, after) ↔
    cs = before ++ (word ++ after) ∧ ¬word <:+: before ++ word.dropLast := by
  have hpos := List.length_pos_iff.mpr hne
  induction cs generalizing before with
  | nil =>
    rw [splitFirst, if_neg hne]
    refine iff_of_false (by simp) fun h => ?_
    exact hne (List.append_eq_nil_iff.mp (List.append_eq_nil_iff.mp h.1.symm).2).1
  | cons c cs ih =>
    rw [splitFirst]
    by_cases hpre : word <+: c :: cs
    · rw [if_pos hpre]
      constructor
      · intro h
        obtain ⟨rfl, rfl⟩ := Prod.mk.inj (Option.some.inj h)
        refine ⟨(List.prefix_iff_eq_append.mp hpre).symm, fun hinfix => ?_⟩
        have hlen := hinfix.length_le
        rw [List.nil_append, List.length_dropLast] at hlen
        omega
      · rintro ⟨heq, hfirst⟩
        cases before with
        | nil =>
          rw [heq, List.nil_append, List.drop_left]
        | cons b before =>
          -- the word would stand before its first place
          rw [heq] at hpre
          refine absurd (List.prefix_of_prefix_length_le hpre
            (append_dropLast_isPrefix (b :: before) word after) ?_).isInfix hfirst
          rw [List.length_append, List.length_dropLast, List.length_cons]
          omega
    · rw [if_neg hpre, Option.map_eq_some_iff]
      have hcons {before : List α} (heq : cs = before ++ (word ++ after)) :
          word <:+: c :: (before ++ word.dropLast) ↔ word <:+: before ++ word.dropLast := by
        refine infix_cons_iff_of_not fun h => hpre (h.trans ?_)
        rw [heq]
        exact List.cons_prefix_cons.mpr ⟨rfl, append_dropLast_isPrefix before word after⟩
      constructor
      · rintro ⟨⟨before', after'⟩, hsplit, heq⟩
        obtain ⟨rfl, rfl⟩ := Prod.mk.inj heq
        obtain ⟨hcs, hfirst⟩ := ih.mp hsplit
        exact ⟨congrArg (c :: ·) hcs, (hcons hcs).not.mpr hfirst⟩
      · rintro ⟨heq, hfirst⟩
        cases before with
        | nil =>
          refine absurd ?_ hpre
          rw [heq]
          exact List.prefix_append word after
        | cons b before =>
          obtain ⟨rfl, hcs⟩ := List.cons.inj heq
          exact ⟨(before, after), ih.mpr ⟨hcs, (hcons hcs).not.mp hfirst⟩, rfl⟩

/-! ## One pass -/

@[simp] theorem rewrite_nil : rewrite rules [] = [] := by
  unfold rewrite rewriteFrom
  rfl

@[simp] theorem rewrite_nil_left : rewrite [] cs = cs := by
  induction cs with
  | nil => exact rewrite_nil
  | cons c cs ih => exact congrArg (c :: ·) ih

theorem rewriteFrom_length (front cs : List α) :
    rewriteFrom rules front.length (front ++ cs) = rewrite rules cs := by
  induction front with
  | nil => rfl
  | cons c front ih => exact ih

/-- Where no word stands, the character is kept. -/
theorem rewrite_cons (h : ∀ r ∈ rules, ¬r.1 <+: c :: cs) :
    rewrite rules (c :: cs) = c :: rewrite rules cs := by
  have hfind : (rules.find? fun r => r.1 <+: c :: cs) = none :=
    List.find?_eq_none.mpr fun r hr => by simpa using h r hr
  unfold rewrite
  rw [rewriteFrom, hfind]

theorem rewrite_append (hne : word ≠ [])
    (h : (rules.find? fun r => r.1 <+: word ++ cs) = some (word, new)) :
    rewrite rules (word ++ cs) = new ++ rewrite rules cs := by
  obtain ⟨c, word, rfl⟩ := List.exists_cons_of_ne_nil hne
  rw [List.cons_append] at h ⊢
  rw [← rewriteFrom_length word cs]
  conv_lhs => unfold rewrite
  rw [rewriteFrom, h]
  rfl

/-- The recursion of `rewrite`: a word and what follows it, or a character where none stands. -/
theorem rewrite_induction (hne : ∀ r ∈ rules, r.1 ≠ []) {motive : List α → Prop}
    (nil : motive [])
    (word : ∀ word new cs, (rules.find? fun r => r.1 <+: word ++ cs) = some (word, new) →
      motive cs → motive (word ++ cs))
    (char : ∀ c cs, (∀ r ∈ rules, ¬r.1 <+: c :: cs) → motive cs → motive (c :: cs))
    (cs : List α) : motive cs := by
  induction hlen : cs.length using Nat.strong_induction_on generalizing cs with
  | _ n ih =>
    subst hlen
    cases cs with
    | nil => exact nil
    | cons c cs =>
      cases hfind : rules.find? fun r => r.1 <+: c :: cs with
      | none =>
        refine char c cs (fun r hr => ?_) (ih _ (Nat.lt_succ_self _) cs rfl)
        simpa using List.find?_eq_none.mp hfind r hr
      | some r =>
        obtain ⟨front, new⟩ := r
        obtain ⟨rest, hrest⟩ : front <+: c :: cs := by simpa using List.find?_some hfind
        have hfront := List.length_pos_iff.mpr (hne _ (List.mem_of_find?_eq_some hfind))
        rw [← hrest] at hfind ih ⊢
        refine word front new rest hfind (ih _ ?_ rest rfl)
        rw [List.length_append]
        exact Nat.lt_add_of_pos_left hfront

/-! ## Words between marks -/

/-- The word starts with one mark, ends with the other, and has none between. -/
def Marked (first last : α) (word : List α) : Prop :=
  ∃ body, word = first :: (body ++ [last]) ∧ first ∉ body ∧ last ∉ body

/-- The words are between marks; what replaces them has no marks and is no part of a word. -/
structure Apart (first last : α) (rules : Rules α) : Prop where
  ne : first ≠ last
  nodup : (rules.map (·.1)).Nodup
  marked : ∀ r ∈ rules, Marked first last r.1
  clear : ∀ r ∈ rules, first ∉ r.2 ∧ last ∉ r.2
  outside : ∀ r ∈ rules, ∀ r' ∈ rules, ¬r.2 <:+: r'.1

variable {first last : α} {word' : List α} {rules' : Rules α}

omit [DecidableEq α]

theorem Marked.ne_nil (h : Marked first last word) : word ≠ [] := by
  obtain ⟨body, rfl, -, -⟩ := h
  exact List.cons_ne_nil _ _

/-- At most one such word stands at a place. -/
theorem Marked.unique_at (h : Marked first last word) (h' : Marked first last word')
    (hpre : word <+: cs) (hpre' : word' <+: cs) : word = word' := by
  have hshort {word word' : List α} (h : Marked first last word) (h' : Marked first last word')
      (hpre : word <+: word') : word = word' := by
    obtain ⟨body, rfl, -, -⟩ := h
    obtain ⟨body', rfl, -, hlast⟩ := h'
    obtain heq | hbody := List.prefix_concat_iff.mp (List.cons_prefix_cons.mp hpre).2
    · rw [heq]
    · exact absurd (hbody.subset (List.mem_append_right body (List.mem_singleton_self last))) hlast
  obtain hword | hword := List.prefix_or_prefix_of_prefix hpre hpre'
  · exact hshort h h' hword
  · exact (hshort h' h hword).symm

theorem Apart.perm (h : Apart first last rules) (hperm : rules.Perm rules') :
    Apart first last rules' where
  ne := h.ne
  nodup := (hperm.map _).nodup_iff.mp h.nodup
  marked r hr := h.marked r (hperm.mem_iff.mpr hr)
  clear r hr := h.clear r (hperm.mem_iff.mpr hr)
  outside r hr r' hr' := h.outside r (hperm.mem_iff.mpr hr) r' (hperm.mem_iff.mpr hr')

theorem prefix_append_cons_iff {tail front rest : List α} (h : c ∉ tail) :
    tail <+: front ++ c :: rest ↔ tail <+: front := by
  refine ⟨fun hpre => ?_, fun hpre => hpre.trans (List.prefix_append front _)⟩
  obtain hshort | ⟨more, rfl⟩ := List.prefix_or_prefix_of_prefix hpre (List.prefix_append front _)
  · exact hshort
  · cases more with
    | nil => rw [List.append_nil]
    | cons d more =>
      obtain ⟨rfl, -⟩ := List.cons_prefix_cons.mp ((List.prefix_append_right_inj front).mp hpre)
      exact absurd (List.mem_append_right front List.mem_cons_self) h

theorem Apart.sublist (h : Apart first last rules') (hsub : rules.Sublist rules') :
    Apart first last rules where
  ne := h.ne
  nodup := h.nodup.sublist (hsub.map _)
  marked r hr := h.marked r (hsub.mem hr)
  clear r hr := h.clear r (hsub.mem hr)
  outside r hr r' hr' := h.outside r (hsub.mem hr) r' (hsub.mem hr')

theorem Apart.left (h : Apart first last (rules ++ rules')) : Apart first last rules :=
  h.sublist (List.sublist_append_left rules rules')

theorem Apart.right (h : Apart first last (rules ++ rules')) : Apart first last rules' :=
  h.sublist (List.sublist_append_right rules rules')

theorem Apart.ne_of_mem (h : Apart first last (rules ++ [(word, new)])) {r : List α × List α}
    (hr : r ∈ rules) : r.1 ≠ word := by
  have hnodup := h.nodup
  rw [List.map_append] at hnodup
  exact (List.nodup_append.mp hnodup).2.2 _ (List.mem_map_of_mem hr) _ (List.mem_singleton_self _)

variable [DecidableEq α]

theorem Apart.find?_eq (h : Apart first last rules) (hmem : (word, new) ∈ rules) :
    (rules.find? fun r => r.1 <+: word ++ cs) = some (word, new) := by
  have hpre : word <+: word ++ cs := List.prefix_append word cs
  cases hfind : rules.find? fun r => r.1 <+: word ++ cs with
  | none =>
    have hno := List.find?_eq_none.mp hfind _ hmem
    simp at hno
  | some r =>
    have hr := List.mem_of_find?_eq_some hfind
    have hpre' : r.1 <+: word ++ cs := by simpa using List.find?_some hfind
    have heq := (h.marked r hr).unique_at (h.marked _ hmem) hpre' hpre
    exact congrArg some (List.inj_on_of_nodup_map h.nodup hr hmem heq)

theorem Apart.rewrite_append (h : Apart first last rules) (hmem : (word, new) ∈ rules) :
    rewrite rules (word ++ cs) = new ++ rewrite rules cs :=
  Replace.rewrite_append (h.marked _ hmem).ne_nil (h.find?_eq hmem)

/-- The order of the rules does not matter. -/
theorem rewrite_perm (h : Apart first last rules) (hperm : rules.Perm rules') (cs : List α) :
    rewrite rules cs = rewrite rules' cs := by
  refine rewrite_induction (motive := fun cs => rewrite rules cs = rewrite rules' cs)
    (fun r hr => (h.marked r hr).ne_nil) ?_ ?_ ?_ cs
  · rw [rewrite_nil, rewrite_nil]
  · intro word new cs hfind ih
    have hmem := List.mem_of_find?_eq_some hfind
    rw [h.rewrite_append hmem, (h.perm hperm).rewrite_append (hperm.mem_iff.mp hmem), ih]
  · intro c cs hno ih
    rw [rewrite_cons hno, rewrite_cons fun r hr => hno r (hperm.mem_iff.mpr hr), ih]

/-- No word starts where there is no mark. -/
theorem rewrite_append_of_notMem {front : List α} (h : ∀ r ∈ rules, Marked first last r.1)
    (hfront : first ∉ front) : rewrite rules (front ++ cs) = front ++ rewrite rules cs := by
  induction front with
  | nil => rfl
  | cons c front ih =>
    obtain ⟨hc, hfront⟩ := List.ne_and_not_mem_of_not_mem_cons hfront
    rw [List.cons_append, rewrite_cons, ih hfront, List.cons_append]
    intro r hr hpre
    obtain ⟨body, hbody, -, -⟩ := h r hr
    rw [hbody] at hpre
    exact hc (List.cons_prefix_cons.mp hpre).1

/-- No word reaches over a first mark. -/
theorem Apart.rewrite_append_first (h : Apart first last rules) (front rest : List α) :
    rewrite rules (front ++ first :: rest) =
      rewrite rules front ++ rewrite rules (first :: rest) := by
  refine rewrite_induction (motive := fun front => rewrite rules (front ++ first :: rest) =
    rewrite rules front ++ rewrite rules (first :: rest))
    (fun r hr => (h.marked r hr).ne_nil) ?_ ?_ ?_ front
  · rw [rewrite_nil]
    rfl
  · intro word new cs hfind ih
    have hmem := List.mem_of_find?_eq_some hfind
    rw [List.append_assoc, h.rewrite_append hmem, h.rewrite_append hmem, ih, List.append_assoc]
  · intro c cs hno ih
    rw [List.cons_append, rewrite_cons hno, rewrite_cons, ih, List.cons_append]
    intro r hr hpre
    obtain ⟨body, hbody, hfirst, -⟩ := h.marked r hr
    rw [hbody] at hpre
    obtain ⟨rfl, htail⟩ := List.cons_prefix_cons.mp hpre
    refine hno r hr ?_
    rw [hbody]
    exact List.cons_prefix_cons.mpr
      ⟨rfl, (prefix_append_cons_iff (by simpa using ⟨hfirst, h.ne⟩)).mp htail⟩

/-- A word of no rule is kept. -/
theorem Marked.rewrite_append (h : Marked first last word) (hne : first ≠ last)
    (hrules : ∀ r ∈ rules, Marked first last r.1 ∧ r.1 ≠ word) :
    rewrite rules (word ++ cs) = word ++ rewrite rules cs := by
  have hno : ∀ r ∈ rules, ¬r.1 <+: word ++ cs := fun r hr hpre =>
    (hrules r hr).2 ((hrules r hr).1.unique_at h hpre (List.prefix_append word cs))
  obtain ⟨body, rfl, hfirst, -⟩ := h
  rw [List.cons_append] at hno ⊢
  rw [rewrite_cons hno, rewrite_append_of_notMem (fun r hr => (hrules r hr).1), List.cons_append]
  simpa using ⟨hfirst, hne⟩

/-- The end of a word that stands in the rewritten text stood there before. -/
theorem prefix_of_prefix_rewrite (h : Apart first last rules) {tail : List α}
    (hlast : ∀ c ∈ tail.getLast?, c = last) (hvalues : ∀ r ∈ rules, ¬r.2 <:+: tail)
    (hpre : tail <+: rewrite rules cs) : tail <+: cs := by
  revert tail
  refine rewrite_induction (motive := fun cs => ∀ {tail : List α}, (∀ c ∈ tail.getLast?, c = last) →
    (∀ r ∈ rules, ¬r.2 <:+: tail) → tail <+: rewrite rules cs → tail <+: cs)
    (fun r hr => (h.marked r hr).ne_nil) ?_ ?_ ?_ cs
  · intro tail _ _ hpre
    rw [rewrite_nil] at hpre
    exact hpre
  · intro word new cs hfind _ tail hlast hvalues hpre
    have hmem := List.mem_of_find?_eq_some hfind
    rw [h.rewrite_append hmem] at hpre
    obtain hshort | hlong := List.prefix_or_prefix_of_prefix hpre (List.prefix_append new _)
    · -- the end of the word would be in the new text
      cases htail : tail.getLast? with
      | none =>
        rw [List.getLast?_eq_none_iff.mp htail]
        exact List.nil_prefix
      | some c =>
        obtain rfl := hlast c htail
        exact absurd (hshort.subset (List.mem_of_getLast? htail)) (h.clear _ hmem).2
    · exact absurd hlong.isInfix (hvalues _ hmem)
  · intro c cs hno ih tail hlast hvalues hpre
    rw [rewrite_cons hno] at hpre
    cases tail with
    | nil => exact List.nil_prefix
    | cons d tail =>
      obtain ⟨rfl, htail⟩ := List.cons_prefix_cons.mp hpre
      refine List.cons_prefix_cons.mpr ⟨rfl, ih (fun c hc => hlast c ?_) (fun r hr hin => ?_) htail⟩
      · rw [List.getLast?_cons, Option.mem_def.mp hc]
        rfl
      · exact hvalues r hr (hin.trans (List.suffix_cons d tail).isInfix)

/-- A word can be replaced after the others. -/
theorem replace_rewrite (h : Apart first last (rules ++ [(word, new)])) (cs : List α) :
    replace word new (rewrite rules cs) = rewrite (rules ++ [(word, new)]) cs := by
  have hmem : (word, new) ∈ rules ++ [(word, new)] :=
    List.mem_append_right _ (List.mem_singleton_self _)
  have hword := h.marked _ hmem
  have hmarked : ∀ r ∈ [(word, new)], Marked first last r.1 := by
    intro r hr
    rw [List.mem_singleton.mp hr]
    exact hword
  refine rewrite_induction
    (motive := fun cs => replace word new (rewrite rules cs) = rewrite (rules ++ [(word, new)]) cs)
    (fun r hr => (h.marked r hr).ne_nil) ?_ ?_ ?_ cs
  · rw [rewrite_nil, rewrite_nil]
    exact rewrite_nil
  · intro front value cs hfind ih
    have hfound := List.mem_of_find?_eq_some hfind
    rw [h.rewrite_append hfound]
    obtain hrule | hrule := List.mem_append.mp hfound
    · rw [h.left.rewrite_append hrule, ← ih]
      exact rewrite_append_of_notMem hmarked (h.clear _ hfound).1
    · obtain ⟨rfl, rfl⟩ := Prod.mk.inj (List.mem_singleton.mp hrule)
      rw [hword.rewrite_append h.ne fun r hr => ⟨h.left.marked r hr, h.ne_of_mem hr⟩, ← ih]
      exact h.right.rewrite_append (List.mem_singleton_self _)
  · intro c cs hno ih
    have hrules : ∀ r ∈ rules, ¬r.1 <+: c :: cs := fun r hr => hno r (List.mem_append_left _ hr)
    rw [rewrite_cons hno, rewrite_cons hrules, ← ih]
    refine rewrite_cons fun r hr hpre => ?_
    obtain rfl := List.mem_singleton.mp hr
    obtain ⟨body, hbody, -, -⟩ := hword
    dsimp only at hpre hbody
    rw [hbody] at hpre
    obtain ⟨rfl, htail⟩ := List.cons_prefix_cons.mp hpre
    have htail : body ++ [last] <+: cs := by
      refine prefix_of_prefix_rewrite h.left (fun d hd => ?_) (fun r hr hin => ?_) htail
      · simpa using hd.symm
      · refine h.outside r (List.mem_append_left _ hr) _ hmem (hin.trans ?_)
        rw [hbody]
        exact (List.suffix_cons _ _).isInfix
    refine hno _ hmem ?_
    rw [hbody]
    exact List.cons_prefix_cons.mpr ⟨rfl, htail⟩

/-- Replacing the words one after the other is one pass over the text. -/
theorem foldl_replace_eq_rewrite (h : Apart first last rules) (cs : List α) :
    rules.foldl (fun cs r => replace r.1 r.2 cs) cs = rewrite rules cs := by
  induction rules using List.reverseRecOn with
  | nil =>
    exact rewrite_nil_left.symm
  | append_singleton rules r ih =>
    rw [List.foldl_concat, ih h.left]
    exact replace_rewrite h cs

end DarkTower.Lib.Replace
