import DarkTower.Guard.DashboardPanels

/-!
# What `check_dashboard` sees in an expression (`dt-guard/src/dashboard_panels.rs`)

The source scans an expression as it is written, quoted strings and all. This is what its
scans see, said of the text alone:

* `mem_metricRefs_iff`: the metrics are the names that start a word (`Named`).
* `metricInsideFn_iff`: a metric is seen in a call (`SeenInCall`) up to the parenthesis that
  closes it, or up to the last character of the expression if none does.
* `exists_rateWindows_iff`: the window of a call is the text between two brackets with no `)`
  in front of them and one behind them (`HardCoded`), whichever brackets the pattern takes
  and whichever calls it skips.

`exists_checkExpr_iff` says when the source gets through an expression, and
`reports_checkExpr` which findings it then has.
-/

namespace DarkTower.Guard.DashboardPanels

open DarkTower.Lib
open Nesting (Keeps cutAtClose height)
open Words (WholeWord calls words)

/-! ## Metrics -/

/-- `[a-z0-9_]`. -/
def nameChar (c : Char) : Bool := c.isLower || c.isDigit || c = '_'

/-- `(?:ac|gc|mc|mh)_[a-z][a-z0-9_]*`. -/
def ServiceName (name : List Char) : Prop :=
  ∃ pre ∈ canonicalPrefixes, ∃ c cs, name = pre ++ '_' :: c :: cs ∧ c.isLower = true ∧
    ∀ d ∈ cs, nameChar d = true

/-- The name starts a word of the text and goes on as long as it can. -/
def Named (wide : Char → Bool) (text name : List Char) : Prop :=
  ∃ before after, text = before ++ (name ++ after) ∧ ServiceName name ∧
    (∀ c ∈ before.getLast?, Pattern.isWord wide c = false) ∧
    ∀ c ∈ after.head?, nameChar c = false

/-- The source knows the name, and this is the type it finds. -/
def KnownAs (ms : Metrics) (kind : MacroKind) (name : List Char) : Prop :=
  ms.types (canonical name) ≠ none ∧ declaredType ms name = some kind

variable {wide : Char → Bool} {ms : Metrics} {expr text rest name word window : List Char}
  {fnNames : List (List Char)}

theorem isWord_of_nameChar {c : Char} (h : nameChar c = true) : Pattern.isWord wide c = true := by
  have hascii : c.toNat < 128 ∧ (c.isAlphanum = true ∨ c = '_') := by
    unfold nameChar at h
    simp only [Bool.or_eq_true, decide_eq_true_eq] at h
    obtain (h | h) | rfl := h
    · have hle := Text.toNat_le_of_isLower h
      have halpha : c.isAlpha = true := Bool.or_eq_true_iff.mpr (.inr h)
      exact ⟨by omega, .inl (Bool.or_eq_true_iff.mpr (.inl halpha))⟩
    · have hle : c.toNat ≤ 57 := (Char.isDigit_iff_toNat.mp h).2
      exact ⟨by omega, .inl (Bool.or_eq_true_iff.mpr (.inr h))⟩
    · exact ⟨by decide, .inr rfl⟩
  unfold Pattern.isWord
  rw [if_pos hascii.1]
  obtain h | rfl := hascii.2
  · rw [h]
    rfl
  · rfl

theorem ServiceName.all (h : ServiceName name) : ∀ c ∈ name, nameChar c = true := by
  obtain ⟨pre, hpre, c, cs, rfl, hc, hcs⟩ := h
  have hnames : ∀ pre ∈ canonicalPrefixes, ∀ d ∈ pre, nameChar d = true := by decide
  rw [List.forall_mem_append, List.forall_mem_cons, List.forall_mem_cons]
  exact ⟨hnames pre hpre, rfl, by rw [nameChar, hc]; rfl, hcs⟩

theorem findSome?_eq_of_unique {α β : Type} {f : α → Option β} {as : List α} {a : α} {b : β}
    (ha : a ∈ as) (hb : f a = some b) (hunique : ∀ a' ∈ as, ∀ b', f a' = some b' → b' = b) :
    as.findSome? f = some b := by
  cases hfound : as.findSome? f with
  | none =>
    rw [List.findSome?_eq_none_iff.mp hfound a ha] at hb
    cases hb
  | some b' =>
    obtain ⟨a', ha', hb'⟩ := List.exists_of_findSome?_eq_some hfound
    rw [hunique a' ha' b' hb']

/-- What the pattern takes of a word. -/
theorem metricRef_eq_some_iff :
    metricRef word = some name ↔
      ∃ after, word = name ++ after ∧ ServiceName name ∧ ∀ c ∈ after.head?, nameChar c = false := by
  have htake (cs : List Char) : (cs.takeWhile fun d => d.isLower || d.isDigit || d = '_') =
      cs.takeWhile nameChar := rfl
  unfold metricRef
  constructor
  · intro h
    obtain ⟨pre, hpre, h⟩ := List.exists_of_findSome?_eq_some h
    split at h
    next c cs hstrip =>
      obtain ⟨hc, hname⟩ := Option.ite_none_right_eq_some.mp h
      obtain rfl := Option.some.inj hname
      rw [htake]
      refine ⟨cs.dropWhile nameChar, ?_, ⟨pre, hpre, c, _, rfl, hc, fun d hd =>
        List.mem_takeWhile_imp hd⟩, fun d hd => ?_⟩
      · rw [Pattern.stripPrefix_eq_some_iff.mp hstrip]
        simp [List.takeWhile_append_dropWhile]
      · have hfirst := List.head?_dropWhile_not nameChar cs
        rw [Option.mem_def.mp hd] at hfirst
        simpa using hfirst
    next => cases h
  · rintro ⟨after, rfl, ⟨pre, hpre, c, cs, rfl, hc, hcs⟩, hafter⟩
    have hcut : (cs ++ after).takeWhile nameChar = cs := by
      rw [List.takeWhile_append_of_pos hcs, List.append_right_eq_self]
      cases after with
      | nil => rfl
      | cons d after => exact List.takeWhile_cons_of_neg (by simp [hafter d rfl])
    have hstrip : Text.stripPrefix (pre ++ '_' :: c :: cs ++ after) (pre ++ ['_']) =
        some (c :: (cs ++ after)) := Pattern.stripPrefix_eq_some_iff.mpr (by simp)
    refine findSome?_eq_of_unique hpre ?_ ?_
    · rw [hstrip]
      dsimp only
      rw [if_pos hc, htake, hcut]
    -- no other service has the same two letters
    intro pre' hpre' name' hname'
    split at hname'
    next c' cs' hstrip' =>
      have hlength : ∀ pre ∈ canonicalPrefixes, pre.length = 2 := by decide
      have heq := Pattern.stripPrefix_eq_some_iff.mp hstrip'
      rw [List.append_assoc, List.append_assoc] at heq
      obtain ⟨rfl, hrest⟩ :=
        List.append_inj heq ((hlength pre hpre).trans (hlength pre' hpre').symm)
      obtain ⟨rfl, rfl⟩ : c = c' ∧ cs ++ after = cs' := by simpa using hrest
      rw [if_pos hc, htake, hcut] at hname'
      exact (Option.some.inj hname').symm
    next => cases hname'

/-- The metrics of an expression are the names that start one of its words. -/
theorem mem_metricRefs_iff : name ∈ metricRefs wide text ↔ Named wide text name := by
  unfold metricRefs
  simp only [List.mem_dedup, List.mem_filterMap, Words.mem_words_iff, metricRef_eq_some_iff]
  constructor
  · rintro ⟨_, ⟨before, back, rfl, hword⟩, after, rfl, hname, hafter⟩
    refine ⟨before, after ++ back, by rw [List.append_assoc], hname, hword.before, ?_⟩
    intro c hc
    cases after with
    | cons d after => exact hafter c hc
    | nil =>
      by_contra hchar
      have hnot := hword.after c hc
      rw [isWord_of_nameChar (by simpa using hchar)] at hnot
      cases hnot
  · rintro ⟨before, after, rfl, hname, hbefore, hafter⟩
    -- the word runs on where the name ends
    refine ⟨name ++ after.takeWhile (Pattern.isWord wide),
      ⟨before, after.dropWhile (Pattern.isWord wide), ?_, ?_, ?_, hbefore, ?_⟩,
      after.takeWhile (Pattern.isWord wide), rfl, hname, ?_⟩
    · rw [List.append_assoc, List.takeWhile_append_dropWhile]
    · obtain ⟨pre, -, c, cs, rfl, -⟩ := hname
      simp
    · rw [List.forall_mem_append]
      exact ⟨fun c hc => isWord_of_nameChar (hname.all c hc), fun c hc => List.mem_takeWhile_imp hc⟩
    · intro c hc
      have hfirst := List.head?_dropWhile_not (Pattern.isWord wide) after
      rw [Option.mem_def.mp hc] at hfirst
      simpa using hfirst
    · intro c hc
      cases after with
      | nil => cases hc
      | cons d after =>
        rw [List.takeWhile_cons] at hc
        split at hc
        · exact hafter c hc
        · cases hc

/-! ## Calls -/

/-- What the walk takes for the argument of a call, `rest` standing behind its parenthesis. -/
def ReadArgument (rest span : List Char) : Prop :=
  (∃ after, rest = span ++ ')' :: after ∧ Keeps '(' ')' 0 span ∧ height '(' ')' span = 0) ∨
    ∃ c, rest = span ++ [c] ∧ Keeps '(' ')' 0 rest

/-- The name is a word of what is taken for the argument of a call of a rate function. -/
def SeenInCall (wide : Char → Bool) (text name : List Char) : Prop :=
  ∃ before fnName gap rest span front back,
    text = before ++ (fnName ++ (gap ++ '(' :: rest)) ∧
    WholeWord (Pattern.isWord wide) before fnName (gap ++ '(' :: rest) ∧
    (∀ c ∈ gap, Text.isWhitespace c = true) ∧ fnName ∈ rateFns ∧ ReadArgument rest span ∧
    span = front ++ (name ++ back) ∧ WholeWord (Pattern.isWord wide) front name back

/-- A metric of this type is not seen in any call. -/
def SeenBare (wide : Char → Bool) (ms : Metrics) (kind : MacroKind) (text : List Char) : Prop :=
  ∃ name, Named wide text name ∧ KnownAs ms kind name ∧ ¬SeenInCall wide text name

/-- A metric of this type is seen in a call. -/
def SeenWrapped (wide : Char → Bool) (ms : Metrics) (kind : MacroKind) (text : List Char) : Prop :=
  ∃ name, Named wide text name ∧ KnownAs ms kind name ∧ SeenInCall wide text name

/-- The functions whose calls are looked at for a metric; none if its type has no rule. -/
def askedFns (ms : Metrics) (name : List Char) : List (List Char) :=
  match declaredType ms name with
  | some .counter => rateFns
  | some .gauge => rateFns
  | some .histogram =>
    if (stripHistSuffix name).2 = some "_bucket".toList then ["rate".toList, "irate".toList]
    else if (stripHistSuffix name).2.isSome then rateFns
    else []
  | _ => []

/-- For each metric that the source knows, every call that it comes to has a slice. -/
def Reached (wide : Char → Bool) (ms : Metrics) (text : List Char) : Prop :=
  ∀ name, Named wide text name → ms.types (canonical name) ≠ none →
    ReachedSliceable wide name (callRests wide text (askedFns ms name))

theorem mem_words_cutSpan_iff {isWord : Char → Bool} :
    name ∈ words isWord (cutSpan rest) ↔
      ∃ span, ReadArgument rest span ∧ name ∈ words isWord span := by
  have hclosed (span : List Char) : (∃ after, rest = span ++ ')' :: after ∧ Keeps '(' ')' 0 span ∧
      height '(' ')' span = 0) ↔ ∃ after, cutAtClose '(' ')' 0 rest = some (span, after) := by
    refine exists_congr fun after => ?_
    rw [Nesting.cutAtClose_eq_some_iff paren_ne, Int.natCast_zero, Int.zero_add]
  have hopen : Keeps '(' ')' 0 rest ↔ cutAtClose '(' ')' 0 rest = none :=
    (Nesting.cutAtClose_eq_none_iff (d := 0) paren_ne).symm
  unfold ReadArgument cutSpan
  simp only [hclosed, hopen]
  cases hcut : cutAtClose '(' ')' 0 rest with
  | some p =>
    constructor
    · exact fun hname => ⟨p.1, .inl ⟨p.2, rfl⟩, hname⟩
    · rintro ⟨span, ⟨after, heq⟩ | ⟨-, -, hnone⟩, hname⟩
      · obtain rfl := Option.some.inj heq
        exact hname
      · cases hnone
  | none =>
    rcases List.eq_nil_or_concat rest with rfl | ⟨init, c, rfl⟩
    · simp [words]
    · simp

theorem seenInCall_iff :
    SeenInCall wide text name ↔
      ∃ rest ∈ callRests wide text rateFns, name ∈ words (Pattern.isWord wide) (cutSpan rest) := by
  simp only [mem_callRests_iff, Words.mem_calls_iff, mem_words_cutSpan_iff]
  simp only [Words.mem_words_iff]
  constructor
  · rintro ⟨before, fnName, gap, rest, span, front, back, htext, hfn, hgap, hmem, hread, hspan,
      hname⟩
    exact ⟨rest, ⟨fnName, hmem, before, gap, htext, hfn, hgap⟩, span, hread, front, back, hspan,
      hname⟩
  · rintro ⟨rest, ⟨fnName, hmem, before, gap, htext, hfn, hgap⟩, span, hread, front, back, hspan,
      hname⟩
    exact ⟨before, fnName, gap, rest, span, front, back, htext, hfn, hgap, hmem, hread, hspan,
      hname⟩

theorem exists_metricInsideFn_iff :
    (∃ b, metricInsideFn wide text name fnNames = some b) ↔
      ReachedSliceable wide name (callRests wide text fnNames) := by
  constructor
  · rintro ⟨b, hb⟩
    exact ((metricInsideFn_eq_some_iff b).mp hb).1
  · intro h
    classical
    exact ⟨decide _, (metricInsideFn_eq_some_iff _).mpr ⟨h, decide_eq_true_iff⟩⟩

/-- Where there is an answer, it says what is seen. -/
theorem metricInsideFn_iff {b : Bool} (h : metricInsideFn wide text name rateFns = some b) :
    b = true ↔ SeenInCall wide text name :=
  ((metricInsideFn_eq_some_iff b).mp h).2.trans seenInCall_iff.symm

/-! ## Windows -/

/-- A window is seen in what stands behind the parenthesis of a call, and it is not allowed. -/
def HardCodedIn (rest : List Char) : Prop :=
  ∃ front window gap after, rest = front ++ '[' :: (window ++ ']' :: (gap ++ ')' :: after)) ∧
    ')' ∉ front ∧ window ≠ [] ∧ ']' ∉ window ∧ (∀ c ∈ gap, Text.isWhitespace c = true) ∧
    Text.trim window ∉ allowedWindows

/-- A window that is not allowed is seen in a call of a rate function. -/
def HardCoded (wide : Char → Bool) (text : List Char) : Prop :=
  ∃ before fnName gap rest, text = before ++ (fnName ++ (gap ++ '(' :: rest)) ∧
    WholeWord (Pattern.isWord wide) before fnName (gap ++ '(' :: rest) ∧
    (∀ c ∈ gap, Text.isWhitespace c = true) ∧ fnName ∈ rateFns ∧ HardCodedIn rest

theorem hardCoded_iff :
    HardCoded wide text ↔ ∃ rest ∈ callRests wide text rateFns, HardCodedIn rest := by
  simp only [mem_callRests_iff, Words.mem_calls_iff]
  constructor
  · rintro ⟨before, fnName, gap, rest, htext, hfn, hgap, hmem, hodd⟩
    exact ⟨rest, ⟨fnName, hmem, before, gap, htext, hfn, hgap⟩, hodd⟩
  · rintro ⟨rest, ⟨fnName, hmem, before, gap, htext, hfn, hgap⟩, hodd⟩
    exact ⟨before, fnName, gap, rest, htext, hfn, hgap, hmem, hodd⟩

theorem mem_trim {c : Char} (hc : c ∈ text) (hspace : Text.isWhitespace c = false) :
    c ∈ Text.trim text := by
  have hdrop {cs : List Char} (hc : c ∈ cs) : c ∈ cs.dropWhile Text.isWhitespace := by
    rw [← List.takeWhile_append_dropWhile (p := Text.isWhitespace) (l := cs),
      List.mem_append] at hc
    refine hc.resolve_left fun htake => ?_
    rw [List.mem_takeWhile_imp htake] at hspace
    cases hspace
  unfold Text.trim Text.trimEnd Text.trimStart List.rdropWhile
  rw [List.mem_reverse]
  exact hdrop (List.mem_reverse.mpr (hdrop hc))

/-- The windows that are allowed are words behind a `$`. -/
theorem notMem_of_allowed {c : Char} (hallowed : Text.trim window ∈ allowedWindows)
    (hc : c ∈ ['[', '(', '"', '\'', Char.ofNat 96]) : c ∉ window := by
  have hplain : ∀ w ∈ allowedWindows, ∀ c ∈ ['[', '(', '"', '\'', Char.ofNat 96], c ∉ w := by
    decide
  have hspace : ∀ c ∈ ['[', '(', '"', '\'', Char.ofNat 96], Text.isWhitespace c = false := by
    decide
  exact fun hmem => hplain _ hallowed c hc (mem_trim hmem (hspace c hc))

theorem bracketWindow_eq_some_iff {after : List Char} :
    bracketWindow text = some (window, after) ↔
      ∃ gap, text = window ++ ']' :: (gap ++ ')' :: after) ∧ window ≠ [] ∧ ']' ∉ window ∧
        ∀ c ∈ gap, Text.isWhitespace c = true := by
  unfold bracketWindow
  constructor
  · intro h
    split at h
    next => cases h
    next window' more hcut =>
      obtain ⟨rfl, hnot⟩ := Text.cutAt_eq_some_iff.mp hcut
      split_ifs at h with hne
      split at h
      next left htrim =>
        obtain ⟨rfl, rfl⟩ := Prod.mk.inj (Option.some.inj h)
        obtain ⟨gap, rfl, hgap⟩ := (Words.trimStart_eq_cons_iff (by decide)).mp htrim
        exact ⟨gap, rfl, hne, hnot, hgap⟩
      next => cases h
  · rintro ⟨gap, rfl, hne, hnot, hgap⟩
    rw [Text.cutAt_eq_some_iff.mpr ⟨rfl, hnot⟩]
    dsimp only
    rw [if_neg hne, Text.trimStart_append_cons hgap (by decide)]
    rfl

/-- The window that the pattern takes stands where it should. -/
theorem exists_of_windowFrom {after : List Char} (h : windowFrom rest = some (window, after)) :
    ∃ front gap, rest = front ++ '[' :: (window ++ ']' :: (gap ++ ')' :: after)) ∧ ')' ∉ front ∧
      window ≠ [] ∧ ']' ∉ window ∧ ∀ c ∈ gap, Text.isWhitespace c = true := by
  induction rest with
  | nil => cases h
  | cons c cs ih =>
    unfold windowFrom at h
    split_ifs at h with hclose hopen
    · subst hopen
      obtain hfound | ⟨-, hfound⟩ := Option.or_eq_some_iff.mp h
      · obtain ⟨gap, rfl, hwindow⟩ := bracketWindow_eq_some_iff.mp hfound
        exact ⟨[], gap, rfl, List.not_mem_nil, hwindow⟩
      · obtain ⟨front, gap, rfl, hfront, hwindow⟩ := ih hfound
        exact ⟨'[' :: front, gap, rfl, List.not_mem_cons_of_ne_of_not_mem (by decide) hfront,
          hwindow⟩
    · obtain ⟨front, gap, rfl, hfront, hwindow⟩ := ih h
      exact ⟨c :: front, gap, rfl, List.not_mem_cons_of_ne_of_not_mem (Ne.symm hclose) hfront,
        hwindow⟩

theorem cons_of_append_eq {c d : Char} {xs cs ds : List Char} (hne : c ≠ d)
    (h : c :: cs = xs ++ d :: ds) : ∃ xs', xs = c :: xs' := by
  cases xs with
  | nil => exact absurd (List.cons.inj h).1 hne
  | cons x xs => exact ⟨xs, by rw [(List.cons.inj h).1]⟩

/-- Where there is a window the pattern takes it, or one that starts further to the left and
    has its bracket inside. -/
theorem windowFrom_of_bracket {front cs after : List Char} (hfront : ')' ∉ front)
    (h : bracketWindow cs = some (window, after)) :
    ∃ window' after', windowFrom (front ++ '[' :: cs) = some (window', after') ∧
      (window' = window ∨ '[' ∈ window') := by
  induction front with
  | nil =>
    refine ⟨window, after, ?_, .inl rfl⟩
    rw [List.nil_append, windowFrom, if_neg (by decide), if_pos rfl, h]
    rfl
  | cons c front ih =>
    obtain ⟨hclose, hfront⟩ := List.ne_and_not_mem_of_not_mem_cons hfront
    rw [List.cons_append, windowFrom, if_neg (Ne.symm hclose)]
    split_ifs with hopen
    · cases hfound : bracketWindow (front ++ '[' :: cs) with
      | none => exact ih hfront
      | some p =>
        obtain ⟨window', after'⟩ := p
        refine ⟨window', after', rfl, .inr ?_⟩
        obtain ⟨gap, heq, -, -, hgap⟩ := bracketWindow_eq_some_iff.mp hfound
        obtain ⟨more, rfl, hmore⟩ | ⟨more, rfl, hmore⟩ := List.append_eq_append_iff.mp heq
        · obtain ⟨more, rfl⟩ := cons_of_append_eq (by decide) hmore
          simp
        -- the bracket does not stand between the window and the parenthesis
        · obtain ⟨more, rfl⟩ := cons_of_append_eq (by decide) hmore
          rw [List.cons_append] at hmore
          obtain ⟨rest, rfl, hrest⟩ | ⟨rest, rfl, hrest⟩ :=
            List.append_eq_append_iff.mp (List.cons.inj hmore).2
          · obtain ⟨rest, rfl⟩ := cons_of_append_eq (by decide) hrest
            exact absurd hfront (by simp)
          · obtain ⟨rest, rfl⟩ := cons_of_append_eq (by decide) hrest
            exact absurd (hgap '[' (by simp)) (by decide)
    · exact ih hfront

theorem hardCodedIn_iff :
    HardCodedIn rest ↔ ∃ window after, windowFrom rest = some (window, after) ∧
      Text.trim window ∉ allowedWindows := by
  constructor
  · rintro ⟨front, window, gap, after, rfl, hfront, hne, hclose, hgap, hodd⟩
    obtain ⟨window', after', hfound, rfl | hopen⟩ := windowFrom_of_bracket hfront
      (bracketWindow_eq_some_iff.mpr ⟨gap, rfl, hne, hclose, hgap⟩)
    · exact ⟨_, after', hfound, hodd⟩
    · exact ⟨window', after', hfound, fun hallowed =>
        notMem_of_allowed hallowed (by simp) hopen⟩
  · rintro ⟨window, after, hfound, hodd⟩
    obtain ⟨front, gap, rfl, hfront, hne, hclose, hgap⟩ := exists_of_windowFrom hfound
    exact ⟨front, window, gap, after, rfl, hfront, hne, hclose, hgap, hodd⟩

theorem HardCodedIn.append {front : List Char} (h : HardCodedIn rest) (hfront : ')' ∉ front) :
    HardCodedIn (front ++ rest) := by
  obtain ⟨front', window, gap, after, rfl, hfront', hwindow⟩ := h
  refine ⟨front ++ front', window, gap, after, by rw [List.append_assoc], ?_, hwindow⟩
  exact List.not_mem_append hfront hfront'

theorem isWord_open : Pattern.isWord wide '(' = false := rfl

theorem callRests_eq (hwide : ∀ c, Text.isWhitespace c = true → wide c = false)
    {more : List (List Char × List Char)}
    (h : calls (Pattern.isWord wide) text = (name, rest) :: more) :
    callRests wide text fnNames =
      if name ∈ fnNames then rest :: callRests wide rest fnNames
      else callRests wide rest fnNames := by
  have hspace (c : Char) (hc : Text.isWhitespace c = true) : Pattern.isWord wide c = false := by
    unfold Pattern.isWord
    split_ifs with hascii
    · have hall : ∀ n < 128, Text.isWhitespace (Char.ofNat n) = true →
          ((Char.ofNat n).isAlphanum || Char.ofNat n = '_') = false := by decide
      have := hall c.toNat hascii
      rw [Char.ofNat_toNat] at this
      exact this hc
    · exact hwide c hc
  unfold callRests
  rw [h, Words.eq_calls_of_calls_eq_cons isWord_open hspace h]
  by_cases hname : name ∈ fnNames
  · rw [List.filter_cons_of_pos (by simpa using hname), if_pos hname]
    rfl
  · rw [List.filter_cons_of_neg (by simpa using hname), if_neg hname]

theorem callRests_append_sep {xs : List Char} {sep : Char}
    (hsep : Pattern.isWord wide sep = false) (hspace : Text.isWhitespace sep = false)
    (hparen : sep ≠ '(') :
    callRests wide (xs ++ sep :: rest) fnNames =
      (callRests wide xs fnNames).map (· ++ sep :: rest) ++ callRests wide rest fnNames := by
  unfold callRests
  rw [Words.calls_append_sep hsep hspace hparen, List.filter_append, List.map_append,
    List.filter_map, List.map_map, List.map_map]
  rfl

theorem callRests_of_notMem (h : '(' ∉ text) : callRests wide text fnNames = [] := by
  unfold callRests
  rw [Words.calls_eq_nil_of_notMem h]
  rfl

theorem isSuffix_of_mem_callRests (h : rest ∈ callRests wide text fnNames) : rest <:+ text := by
  obtain ⟨name, -, hcall⟩ := mem_callRests_iff.mp h
  exact Words.isSuffix_of_mem_calls hcall

theorem length_lt_of_mem_calls {isWord : Char → Bool} (h : (name, rest) ∈ calls isWord text) :
    rest.length < text.length := by
  obtain ⟨front, hfront, rfl⟩ := exists_front_of_mem_calls h
  have hpos := List.length_pos_iff.mpr hfront
  rw [List.length_append]
  omega

/-- A call in front of a window that is allowed has this window or one that starts further to
    the left, so nothing is lost where the pattern skips it. -/
theorem exists_behind_window {front gap after : List Char} (hfront : ')' ∉ front)
    (hallowed : Text.trim window ∈ allowedWindows)
    (hgap : ∀ c ∈ gap, Text.isWhitespace c = true)
    (hnot : ¬HardCodedIn (front ++ '[' :: (window ++ ']' :: (gap ++ ')' :: after)))) :
    (∃ r ∈ callRests wide (front ++ '[' :: (window ++ ']' :: (gap ++ ')' :: after))) fnNames,
        HardCodedIn r) ↔
      ∃ r ∈ callRests wide after fnNames, HardCodedIn r := by
  have hwindow : '(' ∉ window := notMem_of_allowed hallowed (by simp)
  have hspaces : '(' ∉ gap := fun hmem => absurd (hgap '(' hmem) (by decide)
  rw [callRests_append_sep rfl (by decide) (by decide),
    callRests_append_sep rfl (by decide) (by decide), callRests_of_notMem hwindow,
    callRests_append_sep rfl (by decide) (by decide), callRests_of_notMem hspaces]
  constructor
  · rintro ⟨r, hr, hodd⟩
    obtain hr | hr := List.mem_append.mp hr
    · obtain ⟨behind, hbehind, rfl⟩ := List.mem_map.mp hr
      obtain ⟨skipped, rfl⟩ := isSuffix_of_mem_callRests hbehind
      refine absurd (hodd.append fun hmem => hfront (List.mem_append_left behind hmem)) ?_
      rwa [← List.append_assoc]
    · exact ⟨r, by simpa using hr, hodd⟩
  · rintro ⟨r, hr, hodd⟩
    exact ⟨r, List.mem_append_right _ (by simpa using hr), hodd⟩

theorem exists_mem_rateWindowsLoop_iff (hwide : ∀ c, Text.isWhitespace c = true → wide c = false)
    {fuel : ℕ} (hfuel : text.length < fuel) :
    (∃ p ∈ rateWindowsLoop wide fuel text, Text.trim p.2 ∉ allowedWindows) ↔
      ∃ rest ∈ callRests wide text rateFns, HardCodedIn rest := by
  induction fuel generalizing text with
  | zero => exact absurd hfuel (Nat.not_lt_zero _)
  | succ fuel ih =>
    unfold rateWindowsLoop
    cases hcalls : calls (Pattern.isWord wide) text with
    | nil =>
      have hrests : callRests wide text rateFns = [] := by
        unfold callRests
        rw [hcalls]
        rfl
      rw [hrests]
      simp
    | cons p more =>
      obtain ⟨name, rest⟩ := p
      have hshort : rest.length < text.length :=
        length_lt_of_mem_calls (hcalls ▸ List.mem_cons_self)
      have hrests : callRests wide text rateFns = _ := callRests_eq hwide hcalls
      dsimp only [List.head?_cons]
      by_cases hname : name ∈ rateFns
      · rw [if_pos hname] at hrests ⊢
        rw [hrests, List.exists_mem_cons_iff, hardCodedIn_iff]
        cases hfound : windowFrom rest with
        | none =>
          dsimp only
          rw [ih (by omega), or_iff_right]
          rintro ⟨window, after, hsome, -⟩
          cases hsome
        | some p =>
          obtain ⟨window, after⟩ := p
          dsimp only
          rw [List.exists_mem_cons_iff]
          by_cases hallowed : Text.trim window ∈ allowedWindows
          · have hnot : ¬HardCodedIn rest := by
              rw [hardCodedIn_iff, hfound]
              rintro ⟨_, _, heq, hodd⟩
              obtain ⟨rfl, rfl⟩ := Prod.mk.inj (Option.some.inj heq)
              exact hodd hallowed
            obtain ⟨front, gap, rfl, hfront, -, -, hgap⟩ := exists_of_windowFrom hfound
            have hafter : after.length < fuel := by
              simp only [List.length_append, List.length_cons] at hshort
              omega
            rw [hardCodedIn_iff, hfound] at hnot
            rw [ih hafter, or_iff_right (not_not.mpr hallowed), or_iff_right hnot,
              exists_behind_window hfront hallowed hgap (by rwa [hardCodedIn_iff, hfound])]
          · exact iff_of_true (.inl hallowed) (.inl ⟨window, after, rfl, hallowed⟩)
      · rw [if_neg hname] at hrests ⊢
        rw [hrests]
        exact ih (by omega)

/-- The matches of `RATE_WINDOW_RE` have a window that is not allowed iff one is seen. -/
theorem exists_rateWindows_iff (hwide : ∀ c, Text.isWhitespace c = true → wide c = false) :
    (∃ p ∈ rateWindows wide text, Text.trim p.2 ∉ allowedWindows) ↔ HardCoded wide text := by
  rw [hardCoded_iff]
  exact exists_mem_rateWindowsLoop_iff hwide (Nat.lt_succ_self _)

/-! ## Findings -/

/-- There is a finding of this rule. -/
def Finds (rule : RuleId) (found : List (RuleId × Message)) : Prop := ∃ p ∈ found, p.1 = rule

variable {rule : RuleId} {found found' : List (RuleId × Message)}

theorem finds_nil : ¬Finds rule [] := nofun

theorem finds_cons {p : RuleId × Message} :
    Finds rule (p :: found) ↔ p.1 = rule ∨ Finds rule found := List.exists_mem_cons_iff _ _ _

theorem finds_append :
    Finds rule (found ++ found') ↔ Finds rule found ∨ Finds rule found' := by
  simp [Finds, or_and_right, exists_or]

theorem finds_windowFindings :
    Finds .rateWindow (windowFindings wide expr) ↔
      ∃ p ∈ rateWindows wide expr, Text.trim p.2 ∉ allowedWindows := by
  unfold Finds windowFindings
  simp only [List.mem_filterMap]
  constructor
  · rintro ⟨_, ⟨p, hp, hsome⟩, -⟩
    refine ⟨p, hp, fun hallowed => ?_⟩
    rw [if_pos hallowed] at hsome
    cases hsome
  · rintro ⟨p, hp, hodd⟩
    exact ⟨_, ⟨p, hp, if_neg hodd⟩, rfl⟩

theorem not_finds_windowFindings (h : rule ≠ .rateWindow) :
    ¬Finds rule (windowFindings wide expr) := by
  rintro ⟨_, hmem, rfl⟩
  obtain ⟨p, -, hsome⟩ := List.mem_filterMap.mp hmem
  split_ifs at hsome
  obtain rfl := Option.some.inj hsome
  exact h rfl

/-- The misuses among the findings for a metric. -/
theorem finds_misuse (h : misuse wide ms expr name = some found) :
    (Finds .counterMisuse found ↔ declaredType ms name = some .counter ∧
      ¬SeenInCall wide expr name) ∧
    (Finds .gaugeMisuse found ↔ declaredType ms name = some .gauge ∧
      SeenInCall wide expr name) ∧ ¬Finds .rateWindow found := by
  have hhist {fns : List (List Char)} {m : Message}
      (h : ((metricInsideFn wide expr name fns).map fun inside =>
        if inside then [] else [(RuleId.histogramMisuse, m)]) = some found) :
      ∀ rule, rule ≠ .histogramMisuse → ¬Finds rule found := by
    obtain ⟨inside, -, rfl⟩ := Option.map_eq_some_iff.mp h
    intro rule hrule
    cases inside with
    | true => exact finds_nil
    | false =>
      rintro ⟨p, hp, rfl⟩
      exact hrule (congrArg Prod.fst (List.mem_singleton.mp hp))
  unfold misuse at h
  cases htype : declaredType ms name with
  | none =>
    rw [htype] at h
    obtain rfl := Option.some.inj h
    simp [finds_nil]
  | some kind =>
    rw [htype] at h
    cases kind with
    | counter =>
      obtain ⟨inside, hinside, rfl⟩ := Option.map_eq_some_iff.mp h
      rw [← metricInsideFn_iff hinside]
      cases inside <;> simp [finds_cons, finds_nil]
    | gauge =>
      obtain ⟨inside, hinside, rfl⟩ := Option.map_eq_some_iff.mp h
      rw [← metricInsideFn_iff hinside]
      cases inside <;> simp [finds_cons, finds_nil]
    | histogram =>
      have hnone : ∀ rule, rule ≠ .histogramMisuse → ¬Finds rule found := by
        dsimp only at h
        split_ifs at h
        · exact hhist h
        · exact hhist h
        · obtain rfl := Option.some.inj h
          exact fun _ _ => finds_nil
      exact ⟨iff_of_false (hnone _ (by decide)) (by simp),
        iff_of_false (hnone _ (by decide)) (by simp), hnone _ (by decide)⟩
    | describeCounter | describeGauge | describeHistogram =>
      obtain rfl := Option.some.inj h
      simp [finds_nil]

theorem finds_checkMetric (h : checkMetric wide ms false expr name = some found) :
    (Finds .counterMisuse found ↔ KnownAs ms .counter name ∧ ¬SeenInCall wide expr name) ∧
    (Finds .gaugeMisuse found ↔ KnownAs ms .gauge name ∧ SeenInCall wide expr name) ∧
    ¬Finds .rateWindow found := by
  unfold KnownAs
  unfold checkMetric at h
  by_cases htypes : ms.types (canonical name) = none
  · rw [if_pos htypes] at h
    obtain rfl := Option.some.inj h
    simp [finds_cons, finds_nil, htypes]
  · rw [if_neg htypes, if_neg (by decide)] at h
    obtain ⟨ps, hps, rfl⟩ := Option.map_eq_some_iff.mp h
    obtain ⟨hcounter, hgauge, hwindow⟩ := finds_misuse hps
    have hundocumented (rule : RuleId) (hrule : rule ≠ .metricNotInCatalog) :
        ¬Finds rule (if ms.catalog (canonical name) then []
          else [(.metricNotInCatalog, .notInCatalog name)]) := by
      split_ifs
      · exact finds_nil
      · rintro ⟨p, hp, rfl⟩
        exact hrule (congrArg Prod.fst (List.mem_singleton.mp hp))
    rw [finds_append, finds_append, finds_append, or_iff_right (hundocumented _ (by decide)),
      or_iff_right (hundocumented _ (by decide)), or_iff_right (hundocumented _ (by decide)),
      and_iff_right htypes, and_iff_right htypes]
    exact ⟨hcounter, hgauge, hwindow⟩

/-- The three rules in what the source finds in an expression. -/
theorem finds_checkExpr (hwide : ∀ c, Text.isWhitespace c = true → wide c = false)
    (h : checkExpr wide ms false false expr = some found) :
    (Finds .counterMisuse found ↔ SeenBare wide ms .counter expr) ∧
    (Finds .gaugeMisuse found ↔ SeenWrapped wide ms .gauge expr) ∧
    (Finds .rateWindow found ↔ HardCoded wide expr) := by
  obtain ⟨fss, hfss, rfl⟩ := Option.map_eq_some_iff.mp h
  have hmetric {rule : RuleId} {Q : List Char → Prop}
      (hQ : ∀ name fs, checkMetric wide ms false expr name = some fs → (Finds rule fs ↔ Q name)) :
      Finds rule fss.flatten ↔ ∃ name, Named wide expr name ∧ Q name := by
    simp only [← mem_metricRefs_iff]
    unfold Finds
    constructor
    · rintro ⟨p, hp, hrule⟩
      obtain ⟨name, hname, fs, hfs, hp⟩ := (mem_flatten_of_mapM hfss p).mp hp
      exact ⟨name, hname, (hQ name fs hfs).mp ⟨p, hp, hrule⟩⟩
    · rintro ⟨name, hname, hq⟩
      obtain ⟨fs, hfs⟩ := exists_eq_some_of_mapM hfss hname
      obtain ⟨p, hp, hrule⟩ := (hQ name fs hfs).mpr hq
      exact ⟨p, (mem_flatten_of_mapM hfss p).mpr ⟨name, hname, fs, hfs, hp⟩, hrule⟩
  refine ⟨?_, ?_, ?_⟩
  · rw [if_neg (by decide), finds_append, or_iff_right (not_finds_windowFindings (by decide))]
    exact hmetric fun name fs hfs => (finds_checkMetric hfs).1
  · rw [if_neg (by decide), finds_append, or_iff_right (not_finds_windowFindings (by decide))]
    exact hmetric fun name fs hfs => (finds_checkMetric hfs).2.1
  · rw [if_neg (by decide), finds_append, finds_windowFindings, exists_rateWindows_iff hwide,
      or_iff_left]
    rw [hmetric (Q := fun _ => False) fun name fs hfs =>
      iff_of_false (finds_checkMetric hfs).2.2 id]
    simp

/-! ## Panics -/

theorem exists_mapM_iff {α β : Type} {g : α → Option β} {as : List α} :
    (∃ bs, as.mapM g = some bs) ↔ ∀ a ∈ as, ∃ b, g a = some b := by
  refine ⟨fun ⟨bs, hbs⟩ a ha => exists_eq_some_of_mapM hbs ha, fun h => ?_⟩
  induction as with
  | nil => exact ⟨[], rfl⟩
  | cons a as ih =>
    obtain ⟨⟨b, hb⟩, has⟩ := List.forall_mem_cons.mp h
    obtain ⟨bs, hbs⟩ := ih has
    refine ⟨b :: bs, ?_⟩
    rw [List.mapM_cons, hb, hbs]
    rfl

theorem exists_map_iff {α β : Type} {g : α → β} {a? : Option α} :
    (∃ b, a?.map g = some b) ↔ ∃ a, a? = some a := by
  cases a? <;> simp

/-- A rule asks `metric_inside_fn`, or it has no finding. -/
theorem exists_misuse_iff :
    (∃ found, misuse wide ms expr name = some found) ↔
      ReachedSliceable wide name (callRests wide expr (askedFns ms name)) := by
  have hnone : ReachedSliceable wide name (callRests wide expr []) := by
    refine reachedSliceable_of_forall fun rest hrest => ?_
    obtain ⟨_, hfn, -⟩ := mem_callRests_iff.mp hrest
    cases hfn
  unfold misuse askedFns
  cases declaredType ms name with
  | none => exact iff_of_true ⟨_, rfl⟩ hnone
  | some kind =>
    cases kind with
    | counter | gauge =>
      dsimp only
      rw [exists_map_iff, exists_metricInsideFn_iff]
    | histogram =>
      dsimp only
      split_ifs
      · rw [exists_map_iff, exists_metricInsideFn_iff]
      · rw [exists_map_iff, exists_metricInsideFn_iff]
      · exact iff_of_true ⟨_, rfl⟩ hnone
    | describeCounter | describeGauge | describeHistogram => exact iff_of_true ⟨_, rfl⟩ hnone

/-- The source gets through an expression iff every call that it comes to has a slice. -/
theorem exists_checkExpr_iff :
    (∃ found, checkExpr wide ms false false expr = some found) ↔ Reached wide ms expr := by
  unfold checkExpr
  rw [exists_map_iff, exists_mapM_iff]
  unfold Reached
  refine forall_congr' fun name => imp_congr mem_metricRefs_iff ?_
  unfold checkMetric
  by_cases htypes : ms.types (canonical name) = none
  · rw [if_pos htypes]
    exact iff_of_true ⟨_, rfl⟩ fun hknown => absurd htypes hknown
  · rw [if_neg htypes, if_neg (by decide), exists_map_iff, exists_misuse_iff]
    exact (imp_iff_right htypes).symm

/-- An ignored panel is not asked about calls. -/
theorem exists_checkExpr_of_ignored (isSlo : Bool) :
    ∃ found, checkExpr wide ms isSlo true expr = some found := by
  unfold checkExpr
  rw [exists_map_iff, exists_mapM_iff]
  intro name _
  unfold checkMetric
  by_cases htypes : ms.types (canonical name) = none
  · rw [if_pos htypes]
    exact ⟨_, rfl⟩
  · rw [if_neg htypes, if_pos rfl]
    exact ⟨_, rfl⟩

end DarkTower.Guard.DashboardPanels
