import DarkTower.Lib.Text

/-!
# Regular expressions without choices to undo

A pattern is a list of pieces that are read one after the other, each as far as it goes.
This is the leftmost-first match of the regular expression wherever `\s*` is followed by
something that does not start with whitespace and no word of a choice starts another one.

`run` reads a pattern at a place of a text, `find` looks for the first place where it can
be read. `wide` are the characters beyond ASCII that `\w` stands for.
-/

namespace DarkTower.Lib.Pattern

open DarkTower.Lib

/-- A piece of a pattern. -/
inductive Piece
  /-- Exactly this text. -/
  | text (t : List Char)
  /-- `(…|…)`: the first of these texts that stands here, captured. -/
  | oneOf (ts : List (List Char))
  /-- `\s*`. -/
  | spaces
  /-- `\b`. -/
  | boundary
  /-- `"((?:[^"\\]|\\.)*)"`: what stands between the quotes, captured. -/
  | quoted
  /-- `$`. -/
  | finish

/-- `\w`. -/
def isWord (wide : Char → Bool) (c : Char) : Bool :=
  if c.toNat < 128 then c.isAlphanum || c = '_' else wide c

/-- `\b` between two characters. -/
def isBoundary (wide : Char → Bool) (prev next : Option Char) : Bool :=
  prev.any (isWord wide) != next.any (isWord wide)

/-- The text up to the next quote that is not escaped, and what follows that quote. -/
def quotedBody : List Char → Option (List Char × List Char)
  | [] => none
  | c :: cs =>
    if c = '"' then some ([], cs)
    else if c = '\\' then
      match cs with
      | [] => none
      | d :: cs => if d = '\n' then none else (quotedBody cs).map fun x => (c :: d :: x.1, x.2)
    else (quotedBody cs).map fun x => (c :: x.1, x.2)

/-- The captures of a pattern that is read at the start of a text, `prev` standing before
    it, and the text that is left. -/
def run (wide : Char → Bool) :
    List Piece → Option Char → List Char → Option (List (List Char) × List Char)
  | [], _, cs => some ([], cs)
  | .text t :: ps, prev, cs =>
    (Text.stripPrefix cs t).bind fun cs => run wide ps (t.getLast?.or prev) cs
  | .oneOf ts :: ps, prev, cs =>
    (ts.find? (·.isPrefixOf cs)).bind fun t =>
      (run wide ps (t.getLast?.or prev) (cs.drop t.length)).map fun x => (t :: x.1, x.2)
  | .spaces :: ps, prev, cs =>
    run wide ps ((cs.takeWhile Text.isWhitespace).getLast?.or prev) (Text.trimStart cs)
  | .boundary :: ps, prev, cs => if isBoundary wide prev cs.head? then run wide ps prev cs else none
  | .quoted :: ps, _, cs =>
    (Text.stripPrefix cs ['"']).bind fun cs => (quotedBody cs).bind fun x =>
      (run wide ps (some '"') x.2).map fun y => (x.1 :: y.1, y.2)
  | .finish :: ps, prev, cs => if cs = [] then run wide ps prev cs else none

/-- `Regex::find`: the text of the first match. -/
def find (wide : Char → Bool) (ps : List Piece) : Option Char → List Char → Option (List Char)
  | prev, [] => (run wide ps prev []).map fun _ => []
  | prev, c :: cs =>
    match run wide ps prev (c :: cs) with
    | some x => some ((c :: cs).take (cs.length + 1 - x.2.length))
    | none => find wide ps (some c) cs

variable {wide : Char → Bool} {ps : List Piece} {prev : Option Char}

theorem quotedBody_quote (cs : List Char) : quotedBody ('"' :: cs) = some ([], cs) := by
  cases cs <;> rfl

theorem quotedBody_plain {c : Char} (hquote : c ≠ '"') (hescape : c ≠ '\\') (cs : List Char) :
    quotedBody (c :: cs) = (quotedBody cs).map fun x => (c :: x.1, x.2) := by
  cases cs <;> simp [quotedBody, hquote, hescape]

theorem quotedBody_escape {d : Char} (h : d ≠ '\n') (cs : List Char) :
    quotedBody ('\\' :: d :: cs) = (quotedBody cs).map fun x => ('\\' :: d :: x.1, x.2) := by
  simp [quotedBody, h]

theorem stripPrefix_append (t cs : List Char) : Text.stripPrefix (t ++ cs) t = some cs := by
  rw [Text.stripPrefix, if_pos (List.prefix_append t cs), List.drop_left]

theorem stripPrefix_eq_some_iff {t cs rest : List Char} :
    Text.stripPrefix cs t = some rest ↔ cs = t ++ rest := by
  constructor
  · intro h
    obtain ⟨hpre, hdrop⟩ := Option.ite_none_right_eq_some.mp h
    rw [← Option.some.inj hdrop]
    exact List.prefix_append_drop hpre
  · rintro rfl
    exact stripPrefix_append t rest

@[simp] theorem run_text_append (t cs : List Char) :
    run wide (.text t :: ps) prev (t ++ cs) = run wide ps (t.getLast?.or prev) cs := by
  rw [run, stripPrefix_append, Option.bind_some]

theorem run_spaces {gap cs : List Char} (hgap : ∀ c ∈ gap, Text.isWhitespace c = true)
    (hcs : ∀ c, cs.head? = some c → Text.isWhitespace c = false) :
    run wide (.spaces :: ps) prev (gap ++ cs) = run wide ps (gap.getLast?.or prev) cs := by
  have hnone : cs.takeWhile Text.isWhitespace = [] := by
    cases cs with
    | nil => rfl
    | cons c cs => rw [List.takeWhile_cons, hcs c rfl, if_neg Bool.false_ne_true]
  rw [run, Text.trimStart_append hgap hcs, List.takeWhile_append_of_pos hgap, hnone,
    List.append_nil]

theorem isWord_of_alphanum {c : Char} (hascii : c.toNat < 128) (hc : c.isAlphanum = true) :
    isWord wide c = true := by
  rw [isWord, if_pos hascii, hc]
  rfl

/-- A word starts behind a character that is part of none. -/
theorem run_boundary {cs : List Char} (hprev : prev.any (isWord wide) = false)
    (hnext : cs.head?.any (isWord wide) = true) :
    run wide (.boundary :: ps) prev cs = run wide ps prev cs := by
  simp [run, isBoundary, hprev, hnext]

/-- A text is read within `cs`, or it reaches into what follows. -/
theorem run_text_within {t cs ds : List Char} {x : List (List Char) × List Char}
    (h : run wide (.text t :: ps) prev (cs ++ ds) = some x) :
    (∃ left, cs = t ++ left ∧ run wide ps (t.getLast?.or prev) (left ++ ds) = some x) ∨
      ∃ d more, t = cs ++ d :: more ∧ ds.head? = some d := by
  obtain ⟨rest, hstrip, hrun⟩ := Option.bind_eq_some_iff.mp h
  obtain ⟨more, ht, hds⟩ | ⟨left, hcs, hrest⟩ :=
    List.append_eq_append_iff.mp (stripPrefix_eq_some_iff.mp hstrip)
  · cases more with
    | nil =>
      rw [List.append_nil] at ht
      exact .inl ⟨[], by rw [ht, List.append_nil], by rwa [hds, List.nil_append] at *⟩
    | cons d more => exact .inr ⟨d, more, ht, by rw [hds]; rfl⟩
  · exact .inl ⟨left, hcs, by rwa [← hrest]⟩

/-- What a choice reads is one of its texts. -/
theorem run_oneOf {ts : List (List Char)} {cs : List Char} {x : List (List Char) × List Char}
    (h : run wide (.oneOf ts :: ps) prev cs = some x) :
    ∃ t ∈ ts, ∃ y, run wide (.text t :: ps) prev cs = some y ∧ x = (t :: y.1, y.2) := by
  obtain ⟨t, hfind, hrun⟩ := Option.bind_eq_some_iff.mp h
  obtain ⟨y, hy, rfl⟩ := Option.map_eq_some_iff.mp hrun
  have hpre : t.isPrefixOf cs = true :=
    List.find?_some (p := fun t : List Char => t.isPrefixOf cs) hfind
  refine ⟨t, List.mem_of_find?_eq_some hfind, y, ?_, rfl⟩
  rw [run, Text.stripPrefix, if_pos (List.isPrefixOf_iff_prefix.mp hpre)]
  exact hy

/-- Blanks are read as far as they go in `cs`, when none follow it. -/
theorem run_spaces_within {cs ds : List Char} {x : List (List Char) × List Char}
    (hds : ∀ d, ds.head? = some d → Text.isWhitespace d = false)
    (h : run wide (.spaces :: ps) prev (cs ++ ds) = some x) :
    ∃ gap left next, cs = gap ++ left ∧ (∀ c ∈ gap, Text.isWhitespace c = true) ∧
      run wide ps next (left ++ ds) = some x := by
  have hstart : Text.trimStart ([] ++ ds) = ds :=
    Text.trimStart_append (fun _ hc => absurd hc List.not_mem_nil) hds
  have htrim : Text.trimStart (cs ++ ds) = Text.trimStart cs ++ ds := by
    rw [Text.trimStart, List.dropWhile_append]
    split
    case isTrue hempty =>
      rw [Text.trimStart, List.isEmpty_iff.mp hempty]
      exact hstart
    case isFalse => rfl
  rw [run, htrim] at h
  exact ⟨cs.takeWhile Text.isWhitespace, Text.trimStart cs, _,
    List.takeWhile_append_dropWhile.symm, fun c hc => List.mem_takeWhile_imp hc, h⟩

/-- A match is found iff there is one at some place. -/
theorem find_isSome_iff {cs : List Char} : (find wide ps prev cs).isSome = true ↔
    ∃ before after, cs = before ++ after ∧
      (run wide ps (before.getLast?.or prev) after).isSome = true := by
  induction cs generalizing prev with
  | nil =>
    rw [find, Option.isSome_map]
    constructor
    · intro h
      exact ⟨[], [], rfl, h⟩
    · rintro ⟨before, after, heq, h⟩
      obtain ⟨rfl, rfl⟩ := List.append_eq_nil_iff.mp heq.symm
      exact h
  | cons c cs ih =>
    have hlast (before : List Char) :
        (c :: before).getLast?.or prev = before.getLast?.or (some c) := by
      rw [List.getLast?_cons]
      cases before.getLast? <;> rfl
    rw [find]
    cases hrun : run wide ps prev (c :: cs) with
    | some x =>
      refine iff_of_true rfl ⟨[], c :: cs, rfl, ?_⟩
      rw [List.getLast?_nil, Option.none_or, hrun]
      rfl
    | none =>
      rw [ih]
      constructor
      · rintro ⟨before, after, rfl, h⟩
        refine ⟨c :: before, after, rfl, ?_⟩
        rw [hlast]
        exact h
      · rintro ⟨before, after, heq, h⟩
        cases before with
        | nil =>
          obtain rfl : c :: cs = after := heq
          rw [List.getLast?_nil, Option.none_or, hrun] at h
          cases h
        | cons d before =>
          obtain ⟨rfl, rfl⟩ := List.cons.inj heq
          refine ⟨before, after, rfl, ?_⟩
          rw [← hlast]
          exact h

end DarkTower.Lib.Pattern
