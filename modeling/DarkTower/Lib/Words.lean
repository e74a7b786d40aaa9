import DarkTower.Lib.Text

/-!
# Words and calls in a text

A word is a longest run of word characters, which are whatever `isWord` says. A call is a
word with an opening parenthesis behind it, whitespace between them at most.

* `mem_words_iff`, `mem_calls_iff`: what `\w+` between word boundaries and `\b(\w+)\s*\(`
  find, read off the text.
* `words_induction`: a text without a break, or a run, one character that ends it, and the
  rest.
-/

namespace DarkTower.Lib.Words

variable {isWord : Char → Bool}

/-- The longest runs of word characters. -/
def words (isWord : Char → Bool) (cs : List Char) : List (List Char) :=
  (cs.splitOnP fun c => !isWord c).filter (· ≠ [])

/-- The call that a word and the text behind it make: its name, and what follows the
    parenthesis. -/
def opening (word behind : List Char) : List (List Char × List Char) :=
  match word, Text.trimStart behind with
  | _ :: _, '(' :: rest => [(word, rest)]
  | _, _ => []

/-- The calls of a text, `word` standing in front of it. -/
def callsFrom (isWord : Char → Bool) (word : List Char) :
    List Char → List (List Char × List Char)
  | [] => []
  | c :: cs =>
    if isWord c then callsFrom isWord (word ++ [c]) cs
    else opening word (c :: cs) ++ callsFrom isWord [] cs

/-- The calls of a text. -/
def calls (isWord : Char → Bool) (cs : List Char) : List (List Char × List Char) :=
  callsFrom isWord [] cs

/-- Between these two texts the word is a longest run of word characters. -/
structure WholeWord (isWord : Char → Bool) (before word after : List Char) : Prop where
  ne_nil : word ≠ []
  all : ∀ c ∈ word, isWord c = true
  before : ∀ c ∈ before.getLast?, isWord c = false
  after : ∀ c ∈ after.head?, isWord c = false

variable {cs xs rest before word after name : List Char} {sep : Char}

/-- A text without a break, or a run, the character that ends it, and a shorter text. -/
theorem words_induction (isWord : Char → Bool) {motive : List Char → Prop}
    (run : ∀ xs, (∀ c ∈ xs, isWord c = true) → motive xs)
    (step : ∀ xs sep rest, (∀ c ∈ xs, isWord c = true) → isWord sep = false → motive rest →
      motive (xs ++ sep :: rest)) (cs : List Char) : motive cs := by
  have haux : ∀ xs, (∀ c ∈ xs, isWord c = true) → motive (xs ++ cs) := by
    induction cs with
    | nil =>
      intro xs hxs
      rw [List.append_nil]
      exact run xs hxs
    | cons c cs ih =>
      intro xs hxs
      cases hc : isWord c with
      | true =>
        rw [List.append_cons]
        refine ih (xs ++ [c]) ?_
        rw [List.forall_mem_append, List.forall_mem_singleton]
        exact ⟨hxs, hc⟩
      | false => exact step xs c cs hxs hc (ih [] fun _ h => by cases h)
  exact haux [] fun _ h => by cases h

/-- Characters of words before a word are part of it. -/
theorem WholeWord.before_eq_nil (h : WholeWord isWord before word after)
    (hall : ∀ c ∈ before, isWord c = true) : before = [] := by
  by_contra hne
  have hlast := h.before _ (List.getLast?_eq_getLast_of_ne_nil hne)
  rw [hall _ (List.getLast_mem hne)] at hlast
  cases hlast

theorem WholeWord.after_eq_nil (h : WholeWord isWord before word after)
    (hall : ∀ c ∈ after, isWord c = true) : after = [] := by
  cases after with
  | nil => rfl
  | cons c after =>
    have hfirst := h.after c rfl
    rw [hall c List.mem_cons_self] at hfirst
    cases hfirst

/-- What stands before a break does not matter. -/
theorem wholeWord_behind_iff (hsep : isWord sep = false) :
    WholeWord isWord (xs ++ sep :: before) word after ↔ WholeWord isWord before word after := by
  have hlast : (xs ++ sep :: before).getLast? = before.getLast?.or (some sep) := by
    rw [List.getLast?_append, List.getLast?_cons]
    cases before.getLast? <;> rfl
  constructor
  · intro h
    refine ⟨h.ne_nil, h.all, fun c hc => h.before c ?_, h.after⟩
    rw [hlast, Option.mem_def.mp hc]
    exact Option.mem_def.mpr rfl
  · intro h
    refine ⟨h.ne_nil, h.all, fun c hc => ?_, h.after⟩
    rw [hlast] at hc
    cases hbefore : before.getLast? with
    | none =>
      rw [hbefore] at hc
      obtain rfl := Option.some.inj hc
      exact hsep
    | some d =>
      rw [hbefore] at hc
      obtain rfl := Option.some.inj hc
      exact h.before d hbefore

/-- The words of a text that starts with a run: the run, and those behind the character
    that ends it. -/
theorem wholeWord_append_iff (hxs : ∀ c ∈ xs, isWord c = true) (hsep : isWord sep = false) :
    (xs ++ sep :: rest = before ++ (word ++ after) ∧ WholeWord isWord before word after) ↔
      (xs ≠ [] ∧ before = [] ∧ word = xs ∧ after = sep :: rest) ∨
      ∃ before', before = xs ++ sep :: before' ∧ rest = before' ++ (word ++ after) ∧
        WholeWord isWord before' word after := by
  constructor
  · rintro ⟨heq, hword⟩
    have hnotMem : sep ∉ word := fun hmem => by
      rw [hword.all sep hmem] at hsep
      cases hsep
    obtain ⟨gap, rfl, hgap⟩ | ⟨gap, rfl, hgap⟩ := List.append_eq_append_iff.mp heq
    · cases gap with
      | nil =>
        -- the character that ends the run would start the word
        obtain ⟨c, word, rfl⟩ := List.exists_cons_of_ne_nil hword.ne_nil
        obtain ⟨rfl, -⟩ := List.cons.inj hgap
        exact absurd List.mem_cons_self hnotMem
      | cons c before' =>
        obtain ⟨rfl, hrest⟩ := List.cons.inj hgap
        exact .inr ⟨before', rfl, hrest, (wholeWord_behind_iff hsep).mp hword⟩
    · obtain ⟨hbefore, hall⟩ := List.forall_mem_append.mp hxs
      obtain rfl := hword.before_eq_nil hbefore
      -- the word ends where the run does
      obtain ⟨more, rfl, hmore⟩ | ⟨more, rfl, hmore⟩ := List.append_eq_append_iff.mp hgap
      · cases more with
        | nil =>
          rw [List.append_nil]
          exact .inl ⟨hword.ne_nil, rfl, rfl, hmore⟩
        | cons c more =>
          rw [hmore] at hword
          have hc := hword.after c rfl
          rw [hall c (List.mem_append_right word List.mem_cons_self)] at hc
          cases hc
      · cases more with
        | nil =>
          rw [List.append_nil] at hword ⊢
          exact .inl ⟨hword.ne_nil, rfl, rfl, hmore.symm⟩
        | cons c more =>
          obtain ⟨rfl, -⟩ := List.cons.inj hmore
          exact absurd (List.mem_append_right gap List.mem_cons_self) hnotMem
  · rintro (⟨hne, rfl, rfl, rfl⟩ | ⟨before', rfl, rfl, hword⟩)
    · refine ⟨rfl, ⟨hne, hxs, nofun, fun c hc => ?_⟩⟩
      obtain rfl := Option.some.inj hc
      exact hsep
    · refine ⟨?_, (wholeWord_behind_iff hsep).mpr hword⟩
      rw [List.append_assoc, List.cons_append]

/-- In a run there is one word, the run. -/
theorem wholeWord_run_iff (hxs : ∀ c ∈ xs, isWord c = true) :
    (xs = before ++ (word ++ after) ∧ WholeWord isWord before word after) ↔
      xs ≠ [] ∧ before = [] ∧ word = xs ∧ after = [] := by
  constructor
  · rintro ⟨rfl, hword⟩
    obtain ⟨hbefore, hmore⟩ := List.forall_mem_append.mp hxs
    obtain rfl := hword.before_eq_nil hbefore
    obtain rfl := hword.after_eq_nil (List.forall_mem_append.mp hmore).2
    rw [List.append_nil, List.nil_append]
    exact ⟨hword.ne_nil, rfl, rfl, rfl⟩
  · rintro ⟨hne, rfl, rfl, rfl⟩
    exact ⟨by simp, ⟨hne, hxs, nofun, nofun⟩⟩

theorem words_run (hxs : ∀ c ∈ xs, isWord c = true) :
    words isWord xs = if xs = [] then [] else [xs] := by
  unfold words
  rw [List.splitOnP_eq_singleton fun c hc => by rw [hxs c hc]; rfl]
  split_ifs with h <;> simp [h]

theorem words_append (hxs : ∀ c ∈ xs, isWord c = true) (hsep : isWord sep = false) :
    words isWord (xs ++ sep :: rest) = (if xs = [] then [] else [xs]) ++ words isWord rest := by
  rw [← words_run hxs]
  unfold words
  rw [List.splitOnP_append_cons _ _ (by simp [hsep]), List.filter_append]

/-- The words are the whole words of the text. -/
theorem mem_words_iff :
    word ∈ words isWord cs ↔
      ∃ before after, cs = before ++ (word ++ after) ∧ WholeWord isWord before word after := by
  induction cs using words_induction isWord with
  | run xs hxs =>
    rw [words_run hxs]
    simp only [wholeWord_run_iff hxs]
    split_ifs with h
    · simp [h]
    · rw [List.mem_singleton]
      constructor
      · rintro rfl
        exact ⟨[], [], h, rfl, rfl, rfl⟩
      · rintro ⟨-, -, -, -, rfl, -⟩
        rfl
  | step xs sep rest hxs hsep ih =>
    rw [words_append hxs hsep, List.mem_append, ih]
    simp only [wholeWord_append_iff hxs hsep]
    constructor
    · rintro (h | ⟨before, after, rfl, hword⟩)
      · split_ifs at h with hne
        · cases h
        · obtain rfl := List.mem_singleton.mp h
          exact ⟨[], sep :: rest, .inl ⟨hne, rfl, rfl, rfl⟩⟩
      · exact ⟨xs ++ sep :: before, after, .inr ⟨before, rfl, rfl, hword⟩⟩
    · rintro ⟨before, after, ⟨hne, -, rfl, -⟩ | ⟨before', -, rfl, hword⟩⟩
      · left
        rw [if_neg hne]
        exact List.mem_singleton_self word
      · exact .inr ⟨before', after, rfl, hword⟩

theorem words_append_sep (hsep : isWord sep = false) :
    words isWord (xs ++ sep :: rest) = words isWord xs ++ words isWord rest := by
  unfold words
  rw [List.splitOnP_append_cons _ _ (by simp [hsep]), List.filter_append]

theorem words_cons_sep (hsep : isWord sep = false) :
    words isWord (sep :: rest) = words isWord rest := by
  rw [← List.nil_append (sep :: rest), words_append_sep hsep]
  rfl

/-! ## Calls -/

theorem trimStart_eq_cons_iff {c : Char} (hc : Text.isWhitespace c = false) :
    Text.trimStart cs = c :: rest ↔
      ∃ gap, cs = gap ++ c :: rest ∧ ∀ d ∈ gap, Text.isWhitespace d = true := by
  constructor
  · intro h
    refine ⟨cs.takeWhile Text.isWhitespace, ?_, fun d hd => List.mem_takeWhile_imp hd⟩
    rw [← h]
    exact List.takeWhile_append_dropWhile.symm
  · rintro ⟨gap, rfl, hgap⟩
    exact Text.trimStart_append_cons hgap hc

theorem mem_opening_iff {behind : List Char} :
    (name, rest) ∈ opening word behind ↔ word ≠ [] ∧ name = word ∧
      ∃ gap, behind = gap ++ '(' :: rest ∧ ∀ d ∈ gap, Text.isWhitespace d = true := by
  rw [← trimStart_eq_cons_iff (by decide)]
  unfold opening
  split
  next c cs rest' htrim =>
    rw [List.mem_singleton, htrim]
    simp [eq_comm]
  next hnot =>
    refine iff_of_false List.not_mem_nil ?_
    rintro ⟨hne, -, htrim⟩
    obtain ⟨c, cs, rfl⟩ := List.exists_cons_of_ne_nil hne
    exact hnot c cs rest rfl htrim

theorem callsFrom_run (hxs : ∀ c ∈ xs, isWord c = true) : callsFrom isWord word xs = [] := by
  induction xs generalizing word with
  | nil => rfl
  | cons c xs ih =>
    obtain ⟨hc, hxs⟩ := List.forall_mem_cons.mp hxs
    rw [callsFrom, if_pos hc, ih hxs]

theorem callsFrom_append (hxs : ∀ c ∈ xs, isWord c = true) (hsep : isWord sep = false) :
    callsFrom isWord word (xs ++ sep :: rest) =
      opening (word ++ xs) (sep :: rest) ++ calls isWord rest := by
  induction xs generalizing word with
  | nil =>
    rw [List.nil_append, List.append_nil, callsFrom, if_neg (by simp [hsep])]
    rfl
  | cons c xs ih =>
    obtain ⟨hc, hxs⟩ := List.forall_mem_cons.mp hxs
    rw [List.cons_append, callsFrom, if_pos hc, ih hxs, ← List.append_cons]

/-- The calls are the whole words with a parenthesis behind them. -/
theorem mem_calls_iff :
    (name, rest) ∈ calls isWord cs ↔
      ∃ before gap, cs = before ++ (name ++ (gap ++ '(' :: rest)) ∧
        WholeWord isWord before name (gap ++ '(' :: rest) ∧
        ∀ d ∈ gap, Text.isWhitespace d = true := by
  have hassoc (P Q R : Prop) : P ∧ Q ∧ R ↔ (P ∧ Q) ∧ R := and_assoc.symm
  simp only [hassoc]
  induction cs using words_induction isWord with
  | run xs hxs =>
    simp only [wholeWord_run_iff hxs]
    unfold calls
    rw [callsFrom_run hxs]
    simp
  | step xs sep rest' hxs hsep ih =>
    simp only [wholeWord_append_iff hxs hsep]
    rw [calls, callsFrom_append hxs hsep, List.nil_append, List.mem_append, mem_opening_iff]
    rw [show (name, rest) ∈ calls isWord rest' ↔ _ from ih]
    constructor
    · rintro (⟨hne, rfl, gap, hbehind, hgap⟩ | ⟨before, gap, ⟨rfl, hword⟩, hgap⟩)
      · exact ⟨[], gap, .inl ⟨hne, rfl, rfl, hbehind.symm⟩, hgap⟩
      · exact ⟨xs ++ sep :: before, gap, .inr ⟨before, rfl, rfl, hword⟩, hgap⟩
    · rintro ⟨before, gap, ⟨hne, -, rfl, hbehind⟩ | ⟨before', -, rfl, hword⟩, hgap⟩
      · exact .inl ⟨hne, rfl, gap, hbehind.symm, hgap⟩
      · exact .inr ⟨before', gap, ⟨rfl, hword⟩, hgap⟩

theorem calls_eq_nil_of_notMem (h : '(' ∉ cs) : calls isWord cs = [] := by
  refine List.eq_nil_iff_forall_not_mem.mpr fun ⟨name, rest⟩ hcall => ?_
  obtain ⟨before, gap, rfl, -⟩ := mem_calls_iff.mp hcall
  refine h ?_
  simp

theorem isSuffix_of_mem_calls (h : (name, rest) ∈ calls isWord cs) : rest <:+ cs := by
  obtain ⟨before, gap, rfl, -⟩ := mem_calls_iff.mp h
  exact ⟨before ++ (name ++ (gap ++ ['('])), by simp⟩

theorem trimStart_append_sep (hspace : Text.isWhitespace sep = false) :
    Text.trimStart (xs ++ sep :: rest) = Text.trimStart xs ++ sep :: rest := by
  induction xs with
  | nil => exact List.dropWhile_cons_of_neg (by simp [hspace])
  | cons x xs ih =>
    unfold Text.trimStart at ih ⊢
    rw [List.cons_append, List.dropWhile_cons, List.dropWhile_cons]
    split
    · exact ih
    · rfl

/-- A character that neither belongs to a word nor stands between a word and its parenthesis
    parts the calls. -/
theorem calls_append_sep (hsep : isWord sep = false) (hspace : Text.isWhitespace sep = false)
    (hparen : sep ≠ '(') :
    calls isWord (xs ++ sep :: rest) =
      (calls isWord xs).map (fun p => (p.1, p.2 ++ sep :: rest)) ++ calls isWord rest := by
  have hopening (word zs : List Char) : opening word (zs ++ sep :: rest) =
      (opening word zs).map fun p => (p.1, p.2 ++ sep :: rest) := by
    unfold opening
    rw [trimStart_append_sep hspace]
    cases word with
    | nil => rfl
    | cons w word =>
      cases Text.trimStart zs with
      | nil =>
        rw [List.nil_append]
        split
        next heq => exact absurd (List.cons.inj heq).1 hparen
        next => rfl
      | cons z zs =>
        by_cases hz : z = '('
        · rw [hz]
          rfl
        · rw [List.cons_append]
          split
          next heq => exact absurd (List.cons.inj heq).1 hz
          next =>
            split
            next heq => exact absurd (List.cons.inj heq).1 hz
            next => rfl
  have hfrom (word : List Char) : callsFrom isWord word (xs ++ sep :: rest) =
      (callsFrom isWord word xs).map (fun p => (p.1, p.2 ++ sep :: rest)) ++
        calls isWord rest := by
    induction xs generalizing word with
    | nil =>
      have hnil : opening word (sep :: rest) = [] := by
        rw [← List.nil_append (sep :: rest), hopening]
        cases word <;> rfl
      rw [List.nil_append, callsFrom.eq_2, hsep, hnil]
      rfl
    | cons x xs ih =>
      rw [List.cons_append, callsFrom.eq_2, callsFrom.eq_2]
      split
      · exact ih _
      · rw [ih, ← List.cons_append, hopening, List.map_append, List.append_assoc]
  exact hfrom []

theorem calls_spaces {gap : List Char} (hparen : isWord '(' = false)
    (hgap : ∀ c ∈ gap, isWord c = false) :
    calls isWord (gap ++ '(' :: rest) = calls isWord rest := by
  induction gap with
  | nil =>
    show callsFrom isWord [] ('(' :: rest) = _
    rw [callsFrom.eq_2, hparen]
    rfl
  | cons c gap ih =>
    obtain ⟨hc, hgap⟩ := List.forall_mem_cons.mp hgap
    show callsFrom isWord [] (c :: (gap ++ '(' :: rest)) = _
    rw [callsFrom.eq_2, hc]
    exact ih hgap

/-- The calls after the first one stand behind its parenthesis. -/
theorem eq_calls_of_calls_eq_cons {more : List (List Char × List Char)}
    (hparen : isWord '(' = false) (hspace : ∀ c, Text.isWhitespace c = true → isWord c = false)
    (h : calls isWord cs = (name, rest) :: more) : more = calls isWord rest := by
  induction cs using words_induction isWord with
  | run xs hxs =>
    rw [calls, callsFrom_run hxs] at h
    cases h
  | step xs sep rest' hxs hsep ih =>
    rw [calls, callsFrom_append hxs hsep, List.nil_append] at h
    cases hopening : opening xs (sep :: rest') with
    | nil =>
      rw [hopening, List.nil_append] at h
      exact ih h
    | cons p ps =>
      have hps : ps = [] := by
        unfold opening at hopening
        split at hopening
        · exact (List.cons.inj hopening).2.symm
        · cases hopening
      rw [hopening, hps, List.singleton_append] at h
      obtain ⟨rfl, rfl⟩ := List.cons.inj h
      have hmem : (name, rest) ∈ opening xs (sep :: rest') := by
        rw [hopening]
        exact List.mem_cons_self
      obtain ⟨-, -, gap, hbehind, hgap⟩ := mem_opening_iff.mp hmem
      cases gap with
      | nil => rw [(List.cons.inj hbehind).2]
      | cons c gap =>
        rw [(List.cons.inj hbehind).2]
        exact calls_spaces hparen fun d hd => hspace d (hgap d (List.mem_cons_of_mem _ hd))

end DarkTower.Lib.Words
