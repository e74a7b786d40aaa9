import DarkTower.Guard.PrometheusDuration
import DarkTower.Guard.PromqlText

/-!
# The floor for `for` (`dt-guard/src/alert_rules.rs`)

An alert waits at least 30 s before it fires: its `for` is that long, or its expression
averages over a window that long. `validate_for_field` checks it; for the second half
`find_qualifying_expr_window` takes the text between the parentheses of each call of three
functions and looks for range selectors in it.

Both the parentheses and the selectors are also found in quoted strings. `forExact_iff`: the
check is right iff that makes no difference, for a `for` that is too short, to whether there
is a window that is long enough (`QuotesHarmless`); it makes none where no string has a
bracket and no window is longer than 2^64 s (`quotesHarmless_of_bracketFree`).
-/

namespace DarkTower.Guard.AlertFor

open DarkTower.Lib
open Nesting (Keeps cutAtClose height)
open PrometheusDuration (checkedU64 durationMatches isDigit matched parsePrometheusDuration
  seconds unitSeconds)
open Quoted (Agree contents)
open Words (WholeWord calls)

/-! ## The source -/

/-- `MIN_FOR_SECONDS` (alert_rules.rs:36). -/
def minForSeconds : ℕ := 30

/-- `MIN_EXPR_WINDOW_SECONDS` (alert_rules.rs:37). -/
def minExprWindowSeconds : ℕ := 30

/-- The functions of `EXPR_WINDOW_FUNC_RE`. -/
def exprWindowFns : List (List Char) :=
  ["rate".toList, "increase".toList, "sum_over_time".toList]

/-- `[\dsmhdwy]`: what a duration is made of. -/
def isPart (wideDigit : Char → Bool) (c : Char) : Bool :=
  isDigit wideDigit c || (unitSeconds c).isSome

/-- `RANGE_SELECTOR_RE` behind its bracket. -/
def rangeAt (wideDigit : Char → Bool) (cs : List Char) : Option (List Char) :=
  let dur := (Text.trimStart cs).takeWhile (isPart wideDigit)
  match Text.trimStart ((Text.trimStart cs).dropWhile (isPart wideDigit)) with
  | ']' :: _ =>
    if dur ≠ [] ∧ matched (durationMatches wideDigit [] dur) = dur then some dur else none
  | _ => none

/-- `RANGE_SELECTOR_RE.captures_iter`: no match has a second opening bracket. -/
def ranges (wideDigit : Char → Bool) : List Char → List (List Char)
  | [] => []
  | c :: cs =>
    if c = '[' then (rangeAt wideDigit cs).toList ++ ranges wideDigit cs
    else ranges wideDigit cs

/-- The seconds of the windows, call by call; a call that is not closed is skipped. -/
def windowSeconds (wide wideDigit : Char → Bool) (expr : List Char) : List ℕ :=
  ((calls (Pattern.isWord wide) expr).filter (·.1 ∈ exprWindowFns)).flatMap fun call =>
    match cutAtClose '(' ')' 0 call.2 with
    | none => []
    | some (body, _) => (ranges wideDigit body).filterMap (parsePrometheusDuration wideDigit)

/-- `find_qualifying_expr_window` (alert_rules.rs:196). -/
def findQualifyingExprWindow (wide wideDigit : Char → Bool) (expr : List Char) : Option ℕ :=
  (windowSeconds wide wideDigit expr).foldl (fun best secs =>
    if minExprWindowSeconds ≤ secs then some (best.elim secs fun b => max b secs) else best) none

/-- The errors of `validate_for_field`. -/
inductive ForError
  | missing
  | notDuration (s : List Char)
  | tooShort (s : List Char) (secs : ℕ)
deriving DecidableEq

/-- What the error says. -/
def ForError.text : ForError → String
  | missing => "for: is missing"
  | notDuration s => "for: is not a valid Prometheus duration (got: " ++ String.ofList s ++ ")"
  | tooShort s secs =>
    "for: must be >= " ++ toString minForSeconds ++
      "s OR expr must contain a rate/increase/sum_over_time(...[>= " ++
      toString minExprWindowSeconds ++ "s]) window (got for: " ++ String.ofList s ++ " = " ++
      toString secs ++ "s, no qualifying expr-window)"

/-- `validate_for_field` (alert_rules.rs:291). -/
def validateForField (wide wideDigit : Char → Bool) (forVal expr : Option (List Char)) :
    Except ForError Unit :=
  match forVal with
  | none => .error .missing
  | some s =>
    match parsePrometheusDuration wideDigit s with
    | none => .error (.notDuration s)
    | some secs =>
      if secs < minForSeconds then
        if expr.any fun expr => (findQualifyingExprWindow wide wideDigit expr).isSome then .ok ()
        else .error (.tooShort s secs)
      else .ok ()

/-! ## What it is for -/

/-- The argument of a call, `rest` standing behind its parenthesis. -/
def OwnArgument (rest span : List Char) : Prop :=
  ∃ after, rest = span ++ ')' :: after ∧ Keeps '(' ')' 0 span ∧ height '(' ')' span = 0

/-- A duration between brackets. -/
def RangeSelector (span : List Char) (ps : List PrometheusDuration.Pair) : Prop :=
  ∃ front gap gap' back,
    span = front ++ '[' :: (gap ++ (PrometheusDuration.text ps ++ (gap' ++ ']' :: back))) ∧
    (∀ c ∈ gap, Text.isWhitespace c = true) ∧ (∀ c ∈ gap', Text.isWhitespace c = true) ∧ ps ≠ []

/-- A call of one of the functions has this range selector in its argument. -/
def Selects (wide : Char → Bool) (text : List Char) (ps : List PrometheusDuration.Pair) : Prop :=
  ∃ before name gap rest span, text = before ++ (name ++ (gap ++ '(' :: rest)) ∧
    WholeWord (Pattern.isWord wide) before name (gap ++ '(' :: rest) ∧
    (∀ c ∈ gap, Text.isWhitespace c = true) ∧ name ∈ exprWindowFns ∧ OwnArgument rest span ∧
    RangeSelector span ps

/-- The alert waits long enough: for itself, or with a window outside of quoted strings. -/
def LongEnough (wide : Char → Bool) (ps : List PrometheusDuration.Pair)
    (expr : Option (List Char)) : Prop :=
  minForSeconds ≤ seconds ps ∨ ∃ e, expr = some e ∧
    ∃ qs, Selects wide (unquoted e) qs ∧ minExprWindowSeconds ≤ seconds qs

/-- `validate_for_field` accepts what is a duration and long enough, and durations in a row
    add up. -/
structure ForExact (wide wideDigit : Char → Bool) (forVal expr : Option (List Char)) : Prop where
  accepts : validateForField wide wideDigit forVal expr = .ok () ↔
    ∃ s, forVal = some s ∧ ∃ ps, ps ≠ [] ∧ Text.trim s = PrometheusDuration.text ps ∧
      seconds ps < 2 ^ 64 ∧ LongEnough wide ps expr
  additive : ∀ ps qs, ps ≠ [] → qs ≠ [] →
    parsePrometheusDuration wideDigit
        (PrometheusDuration.text ps ++ PrometheusDuration.text qs) =
      (parsePrometheusDuration wideDigit (PrometheusDuration.text ps)).bind fun a =>
        (parsePrometheusDuration wideDigit (PrometheusDuration.text qs)).bind fun b =>
          checkedU64 (a + b)

/-- If the `for` is a duration that is too short, the expression with its strings read as
    text has a window that is long enough and fits iff it has one outside of its strings. -/
def QuotesHarmless (wide : Char → Bool) (forVal expr : Option (List Char)) : Prop :=
  ∀ s ps e, forVal = some s → ps ≠ [] → Text.trim s = PrometheusDuration.text ps →
    seconds ps < minForSeconds → expr = some e →
    ((∃ qs, Selects wide e qs ∧ minExprWindowSeconds ≤ seconds qs ∧ seconds qs < 2 ^ 64) ↔
      ∃ qs, Selects wide (unquoted e) qs ∧ minExprWindowSeconds ≤ seconds qs)

variable {wide wideDigit : Char → Bool} {expr rest span text xs ys : List Char}
  {ps : List PrometheusDuration.Pair}
  {bodies : List (List Char)} {n : ℕ}

/-! ## Range selectors -/

theorem isPart_of_mem_text : ∀ c ∈ PrometheusDuration.text ps, isPart wideDigit c = true := by
  intro c hc
  obtain ⟨p, -, hc⟩ := List.mem_flatMap.mp hc
  unfold isPart
  obtain hc | hc := List.mem_append.mp hc
  · rw [PrometheusDuration.isDigit_of_isDigit (p.number_digits c hc), Bool.true_or]
  · rw [List.mem_singleton.mp hc, PrometheusDuration.unitSeconds_char]
    exact Bool.or_true _

theorem isPart_space (hdigit : ∀ c, Text.isWhitespace c = true → wideDigit c = false) {c : Char}
    (hc : Text.isWhitespace c = true) : isPart wideDigit c = false := by
  unfold isPart isDigit
  split_ifs with hascii
  · have hall : ∀ n < 128, Text.isWhitespace (Char.ofNat n) = true →
        ((Char.ofNat n).isDigit || (unitSeconds (Char.ofNat n)).isSome) = false := by decide
    have := hall c.toNat hascii
    rw [Char.ofNat_toNat] at this
    exact this hc
  · rw [hdigit c hc, Bool.false_or]
    cases hunit : unitSeconds c with
    | none => rfl
    | some mult =>
      obtain ⟨unit, rfl⟩ := PrometheusDuration.exists_unit hunit
      rw [PrometheusDuration.isWhitespace_unit] at hc
      cases hc

theorem takeWhile_append_eq {p : Char → Bool} (hxs : ∀ c ∈ xs, p c = true)
    (hys : ∀ c ∈ ys.head?, p c = false) :
    (xs ++ ys).takeWhile p = xs ∧ (xs ++ ys).dropWhile p = ys := by
  rw [List.takeWhile_append_of_pos hxs, List.dropWhile_append_of_pos hxs]
  cases ys with
  | nil => exact ⟨List.append_nil xs, rfl⟩
  | cons y ys =>
    have hy : ¬p y = true := by simp [hys y rfl]
    rw [List.takeWhile_cons_of_neg hy, List.dropWhile_cons_of_neg hy, List.append_nil]
    exact ⟨rfl, rfl⟩

/-- Behind a bracket the pattern reads a duration. -/
theorem rangeAt_duration (hdigit : ∀ c, Text.isWhitespace c = true → wideDigit c = false)
    {gap gap' back : List Char} (hgap : ∀ c ∈ gap, Text.isWhitespace c = true)
    (hgap' : ∀ c ∈ gap', Text.isWhitespace c = true) (hps : ps ≠ []) :
    rangeAt wideDigit (gap ++ (PrometheusDuration.text ps ++ (gap' ++ ']' :: back))) =
      some (PrometheusDuration.text ps) := by
  have htext : PrometheusDuration.text ps ≠ [] := PrometheusDuration.text_eq_nil_iff.not.mpr hps
  have hstart : Text.trimStart (gap ++ (PrometheusDuration.text ps ++ (gap' ++ ']' :: back))) =
      PrometheusDuration.text ps ++ (gap' ++ ']' :: back) := by
    refine Text.trimStart_append hgap fun c hc => ?_
    rw [List.head?_append_of_ne_nil _ htext] at hc
    exact PrometheusDuration.isWhitespace_of_mem_text c (List.mem_of_mem_head? hc)
  have hnext : ∀ c ∈ (gap' ++ ']' :: back).head?, isPart wideDigit c = false := by
    intro c hc
    cases gap' with
    | nil =>
      obtain rfl := Option.some.inj hc
      rfl
    | cons d gap' =>
      obtain rfl := Option.some.inj hc
      exact isPart_space hdigit (hgap' d List.mem_cons_self)
  have hclose : Text.trimStart (gap' ++ ']' :: back) = ']' :: back :=
    Text.trimStart_append_cons hgap' (by decide)
  obtain ⟨htake, hdrop⟩ := takeWhile_append_eq (fun c hc => isPart_of_mem_text c hc) hnext
  unfold rangeAt
  dsimp only
  rw [hstart, htake, hdrop, hclose]
  refine if_pos ⟨htext, ?_⟩
  rw [PrometheusDuration.durationMatches_text, PrometheusDuration.matched_pairs]

/-- What the pattern reads behind a bracket and `parse_prometheus_duration` accepts. -/
theorem rangeAt_eq_some {dur : List Char}
    (hdigit : ∀ c, Text.isWhitespace c = true → wideDigit c = false)
    (h : rangeAt wideDigit xs = some dur)
    (hparse : parsePrometheusDuration wideDigit dur = some n) :
    ∃ gap gap' back ps, xs = gap ++ (PrometheusDuration.text ps ++ (gap' ++ ']' :: back)) ∧
      (∀ c ∈ gap, Text.isWhitespace c = true) ∧ (∀ c ∈ gap', Text.isWhitespace c = true) ∧
      ps ≠ [] ∧ seconds ps < 2 ^ 64 ∧ seconds ps = n := by
  unfold rangeAt at h
  dsimp only at h
  generalize hstart : Text.trimStart xs = start at h
  split at h
  next _ back hclose =>
    split_ifs at h with hdur
    obtain rfl := Option.some.inj h
    obtain ⟨ps, hps, htrim, hfits, hn⟩ :=
      PrometheusDuration.parsePrometheusDuration_eq_some_iff.mp hparse
    have hself : Text.trim (start.takeWhile (isPart wideDigit)) =
        start.takeWhile (isPart wideDigit) := by
      refine Text.trim_eq_self fun c hc => ?_
      by_contra hspace
      have hpart := List.mem_takeWhile_imp hc
      rw [isPart_space hdigit (by simpa using hspace)] at hpart
      cases hpart
    obtain ⟨gap', hgap', hspaces'⟩ := (Words.trimStart_eq_cons_iff (by decide)).mp hclose
    refine ⟨xs.takeWhile Text.isWhitespace, gap', back, ps, ?_,
      fun c hc => List.mem_takeWhile_imp hc, hspaces', hps, hfits, hn⟩
    rw [← htrim, hself, ← hgap', List.takeWhile_append_dropWhile, ← hstart]
    exact List.takeWhile_append_dropWhile.symm
  next => cases h

theorem mem_ranges_iff {dur : List Char} :
    dur ∈ ranges wideDigit xs ↔
      ∃ front cs, xs = front ++ '[' :: cs ∧ rangeAt wideDigit cs = some dur := by
  induction xs with
  | nil => simp [ranges]
  | cons c xs ih =>
    have hcons : (∃ front cs, c :: xs = front ++ '[' :: cs ∧ rangeAt wideDigit cs = some dur) ↔
        (c = '[' ∧ rangeAt wideDigit xs = some dur) ∨ dur ∈ ranges wideDigit xs := by
      rw [ih]
      constructor
      · rintro ⟨front, cs, heq, hrange⟩
        cases front with
        | nil =>
          obtain ⟨rfl, rfl⟩ := List.cons.inj heq
          exact .inl ⟨rfl, hrange⟩
        | cons d front => exact .inr ⟨front, cs, (List.cons.inj heq).2, hrange⟩
      · rintro (⟨rfl, hrange⟩ | ⟨front, cs, rfl, hrange⟩)
        · exact ⟨[], xs, rfl, hrange⟩
        · exact ⟨c :: front, cs, rfl, hrange⟩
    rw [hcons, ranges]
    split_ifs with hc
    · rw [List.mem_append, Option.mem_toList]
      simp [hc]
    · simp [hc]

/-- The windows that the source takes from an argument. -/
theorem exists_mem_ranges_iff (hdigit : ∀ c, Text.isWhitespace c = true → wideDigit c = false) :
    (∃ dur ∈ ranges wideDigit span, parsePrometheusDuration wideDigit dur = some n) ↔
      ∃ ps, RangeSelector span ps ∧ seconds ps < 2 ^ 64 ∧ seconds ps = n := by
  simp only [mem_ranges_iff]
  constructor
  · rintro ⟨dur, ⟨front, cs, rfl, hrange⟩, hparse⟩
    obtain ⟨gap, gap', back, ps, rfl, hgap, hgap', hps, hfits, hn⟩ :=
      rangeAt_eq_some hdigit hrange hparse
    exact ⟨ps, ⟨front, gap, gap', back, rfl, hgap, hgap', hps⟩, hfits, hn⟩
  · rintro ⟨ps, ⟨front, gap, gap', back, rfl, hgap, hgap', hps⟩, hfits, rfl⟩
    refine ⟨_, ⟨front, _, rfl, rangeAt_duration hdigit hgap hgap' hps⟩, ?_⟩
    rw [PrometheusDuration.parsePrometheusDuration_text hps]
    exact if_pos hfits

/-! ## Windows of an expression -/

theorem ownArgument_iff :
    OwnArgument rest span ↔ ∃ after, cutAtClose '(' ')' 0 rest = some (span, after) := by
  unfold OwnArgument
  refine exists_congr fun after => ?_
  rw [Nesting.cutAtClose_eq_some_iff paren_ne]
  simp

theorem selects_iff :
    Selects wide text ps ↔ ∃ call ∈ calls (Pattern.isWord wide) text, call.1 ∈ exprWindowFns ∧
      ∃ span after, cutAtClose '(' ')' 0 call.2 = some (span, after) ∧ RangeSelector span ps := by
  simp only [Prod.exists, Words.mem_calls_iff]
  constructor
  · rintro ⟨before, name, gap, rest, span, htext, hword, hgap, hname, harg, hrange⟩
    obtain ⟨after, hcut⟩ := ownArgument_iff.mp harg
    exact ⟨name, rest, ⟨before, gap, htext, hword, hgap⟩, hname, span, after, hcut, hrange⟩
  · rintro ⟨name, rest, ⟨before, gap, htext, hword, hgap⟩, hname, span, after, hcut, hrange⟩
    exact ⟨before, name, gap, rest, span, htext, hword, hgap, hname,
      ownArgument_iff.mpr ⟨after, hcut⟩, hrange⟩

theorem mem_windowSeconds_iff (hdigit : ∀ c, Text.isWhitespace c = true → wideDigit c = false) :
    n ∈ windowSeconds wide wideDigit expr ↔
      ∃ ps, Selects wide expr ps ∧ seconds ps < 2 ^ 64 ∧ seconds ps = n := by
  have hcall (rest : List Char) :
      (n ∈ match cutAtClose '(' ')' 0 rest with
        | none => []
        | some (body, _) =>
          (ranges wideDigit body).filterMap (parsePrometheusDuration wideDigit)) ↔
      ∃ ps, (∃ span after, cutAtClose '(' ')' 0 rest = some (span, after) ∧
        RangeSelector span ps) ∧ seconds ps < 2 ^ 64 ∧ seconds ps = n := by
    cases cutAtClose '(' ')' 0 rest with
    | none => simp
    | some p =>
      obtain ⟨body, after⟩ := p
      rw [List.mem_filterMap, exists_mem_ranges_iff hdigit]
      simp
  unfold windowSeconds
  simp only [List.mem_flatMap, List.mem_filter, decide_eq_true_eq, hcall, selects_iff]
  constructor
  · rintro ⟨call, ⟨hmem, hname⟩, ps, hrange, hfits, hn⟩
    exact ⟨ps, ⟨call, hmem, hname, hrange⟩, hfits, hn⟩
  · rintro ⟨ps, ⟨call, hmem, hname, hrange⟩, hfits, hn⟩
    exact ⟨call, ⟨hmem, hname⟩, ps, hrange, hfits, hn⟩

/-- The fold keeps a maximum as soon as there is one. -/
theorem isSome_foldl_max {secs : List ℕ} {best : Option ℕ} :
    (secs.foldl (fun best secs =>
      if minExprWindowSeconds ≤ secs then some (best.elim secs fun b => max b secs)
      else best) best).isSome = true ↔
      best.isSome = true ∨ ∃ n ∈ secs, minExprWindowSeconds ≤ n := by
  induction secs generalizing best with
  | nil => simp
  | cons n secs ih =>
    rw [List.foldl_cons, ih, List.exists_mem_cons_iff]
    split_ifs with hn <;> simp [hn]

/-- The source finds a window iff the text of the expression has one that fits. -/
theorem isSome_findQualifyingExprWindow_iff
    (hdigit : ∀ c, Text.isWhitespace c = true → wideDigit c = false) :
    (findQualifyingExprWindow wide wideDigit expr).isSome = true ↔
      ∃ ps, Selects wide expr ps ∧ minExprWindowSeconds ≤ seconds ps ∧ seconds ps < 2 ^ 64 := by
  unfold findQualifyingExprWindow
  rw [isSome_foldl_max]
  simp only [mem_windowSeconds_iff hdigit]
  constructor
  · rintro (hnone | ⟨n, ⟨ps, hps, hfits, rfl⟩, hlong⟩)
    · cases hnone
    · exact ⟨ps, hps, hlong, hfits⟩
  · rintro ⟨ps, hps, hlong, hfits⟩
    exact .inr ⟨seconds ps, ⟨ps, hps, hfits, rfl⟩, hlong⟩

/-! ## Strings -/

theorem isPart_quote {q : Char} (hq : promql.opens q = true) : isPart wideDigit q = false := by
  have hquote : q = '"' ∨ q = '\'' ∨ q = Char.ofNat 96 := by simpa [promql, or_assoc] using hq
  rcases hquote with rfl | rfl | rfl <;> rfl

theorem rangeAt_agree (h : Agree promql bodies xs ys) :
    rangeAt wideDigit xs = rangeAt wideDigit ys := by
  have hstart := h.trimStart fun q hq => promql_space hq
  have htake : _ = (Text.trimStart ys).takeWhile (isPart wideDigit) :=
    hstart.takeWhile fun q hq => isPart_quote hq
  have hdrop := (hstart.dropWhile (p := isPart wideDigit) fun q hq => isPart_quote hq).trimStart
    fun q hq => promql_space hq
  unfold rangeAt
  dsimp only
  rw [htake]
  revert hdrop
  generalize Text.trimStart ((Text.trimStart xs).dropWhile (isPart wideDigit)) = after
  generalize Text.trimStart ((Text.trimStart ys).dropWhile (isPart wideDigit)) = after'
  intro hdrop
  obtain ⟨rfl, rfl⟩ | ⟨c, left, left', rfl, rfl, -⟩ := hdrop.head
  · rfl
  · by_cases hc : c = ']'
    · subst hc
      rfl
    · split
      next heq => exact absurd (List.cons.inj heq).1 hc
      next =>
        split
        next heq => exact absurd (List.cons.inj heq).1 hc
        next => rfl

theorem ranges_append {skip : List Char} (hskip : '[' ∉ skip) :
    ranges wideDigit (skip ++ xs) = ranges wideDigit xs := by
  induction skip with
  | nil => rfl
  | cons c skip ih =>
    obtain ⟨hc, hskip⟩ := List.ne_and_not_mem_of_not_mem_cons hskip
    rw [List.cons_append, ranges, if_neg hc.symm, ih hskip]

theorem ranges_agree (hfree : BracketFree bodies) (h : Agree promql bodies xs ys) :
    ranges wideDigit xs = ranges wideDigit ys := by
  have hskip {front : List Char} (hfront : ∀ c ∈ front, c ∉ "()[]".toList) (cs : List Char) :
      ranges wideDigit (front ++ cs) = ranges wideDigit cs :=
    ranges_append fun hmem => hfront _ hmem (by decide)
  refine agree_induction (motive := fun xs ys => ranges wideDigit xs = ranges wideDigit ys)
    hfree h rfl ?_ ?_ ?_
  · intro c xs ys hagree ih
    rw [ranges, ranges, rangeAt_agree hagree, ih]
  · intro xs ys hxs hys
    rw [← List.append_nil xs, ← List.append_nil ys, hskip hxs, hskip hys]
  · intro front front' xs ys hfront hfront' ih
    rw [hskip hfront, hskip hfront', ih]

theorem windowSeconds_agree (hfree : BracketFree bodies) (h : Agree promql bodies xs ys) :
    windowSeconds wide wideDigit xs = windowSeconds wide wideDigit ys := by
  have hcalls : List.Forall₂ (fun p p' => p.1 = p'.1 ∧ Agree promql bodies p.2 p'.2)
      (calls (Pattern.isWord wide) xs) (calls (Pattern.isWord wide) ys) := calls_agree hfree h
  unfold windowSeconds
  generalize calls (Pattern.isWord wide) xs = cs at hcalls
  generalize calls (Pattern.isWord wide) ys = cs' at hcalls
  induction hcalls with
  | nil => rfl
  | @cons p p' cs cs' hp _ ih =>
    have hbody : (match cutAtClose '(' ')' 0 p.2 with
        | none => []
        | some (body, _) =>
          (ranges wideDigit body).filterMap (parsePrometheusDuration wideDigit)) =
        match cutAtClose '(' ')' 0 p'.2 with
        | none => []
        | some (body, _) =>
          (ranges wideDigit body).filterMap (parsePrometheusDuration wideDigit) := by
      have hcut := cut_agree hfree hp.2
      revert hcut
      generalize cutAtClose '(' ')' 0 p.2 = cut
      generalize cutAtClose '(' ')' 0 p'.2 = cut'
      rintro (⟨hspan, -⟩ | _)
      · dsimp only
        rw [ranges_agree hfree hspan]
      · rfl
    by_cases hname : p.1 ∈ exprWindowFns
    · rw [List.filter_cons_of_pos (by simpa using hname),
        List.filter_cons_of_pos (by simpa [← hp.1] using hname), List.flatMap_cons,
        List.flatMap_cons, hbody, ih]
    · rw [List.filter_cons_of_neg (by simpa using hname),
        List.filter_cons_of_neg (by simpa [← hp.1] using hname), ih]

/-- Where no string has a bracket and no window is longer than 2^64 s, strings do no harm. -/
theorem quotesHarmless_of_bracketFree {forVal : Option (List Char)} {expr : Option (List Char)}
    (hfree : ∀ e, expr = some e → BracketFree (contents promql e))
    (hfits : ∀ e, expr = some e → ∀ qs, Selects wide (unquoted e) qs → seconds qs < 2 ^ 64) :
    QuotesHarmless wide forVal expr := by
  intro s ps e _ _ _ _ he
  have hdigit : ∀ c, Text.isWhitespace c = true → (fun _ : Char => false) c = false :=
    fun _ _ => rfl
  have hsame : windowSeconds wide (fun _ => false) e =
      windowSeconds wide (fun _ => false) (unquoted e) :=
    windowSeconds_agree (hfree e he) agree_unquoted
  have hfind : (findQualifyingExprWindow wide (fun _ => false) e).isSome = true ↔
      (findQualifyingExprWindow wide (fun _ => false) (unquoted e)).isSome = true := by
    unfold findQualifyingExprWindow
    rw [hsame]
  rw [isSome_findQualifyingExprWindow_iff hdigit, isSome_findQualifyingExprWindow_iff hdigit]
    at hfind
  rw [hfind]
  constructor
  · rintro ⟨qs, hqs, hlong, -⟩
    exact ⟨qs, hqs, hlong⟩
  · rintro ⟨qs, hqs, hlong⟩
    exact ⟨qs, hqs, hlong, hfits e he qs hqs⟩

/-! ## The check -/

theorem validateForField_eq_ok_iff_parsed {forVal expr : Option (List Char)} :
    validateForField wide wideDigit forVal expr = .ok () ↔
      ∃ s, forVal = some s ∧ ∃ secs, parsePrometheusDuration wideDigit s = some secs ∧
        (minForSeconds ≤ secs ∨
          (expr.any fun e => (findQualifyingExprWindow wide wideDigit e).isSome) = true) := by
  unfold validateForField
  cases forVal with
  | none => simp
  | some s =>
    dsimp only
    cases hparse : parsePrometheusDuration wideDigit s with
    | none => simp [hparse]
    | some secs =>
      dsimp only
      split_ifs with hshort hwindow
      · exact iff_of_true rfl ⟨s, rfl, secs, hparse, .inr hwindow⟩
      · refine iff_of_false (by simp) ?_
        rintro ⟨_, hs, _, hsecs, hlong⟩
        obtain rfl := Option.some.inj hs
        obtain rfl := Option.some.inj (hparse.symm.trans hsecs)
        exact hlong.elim (Nat.not_le_of_lt hshort) hwindow
      · exact iff_of_true rfl ⟨s, rfl, secs, hparse, .inl (Nat.le_of_not_lt hshort)⟩

theorem any_findQualifyingExprWindow_iff {expr : Option (List Char)}
    (hdigit : ∀ c, Text.isWhitespace c = true → wideDigit c = false) :
    (expr.any fun e => (findQualifyingExprWindow wide wideDigit e).isSome) = true ↔
      ∃ e, expr = some e ∧
        ∃ qs, Selects wide e qs ∧ minExprWindowSeconds ≤ seconds qs ∧ seconds qs < 2 ^ 64 := by
  cases expr with
  | none => simp
  | some e =>
    rw [Option.any_some, isSome_findQualifyingExprWindow_iff hdigit]
    simp

theorem validateForField_eq_ok_iff {forVal expr : Option (List Char)}
    (hdigit : ∀ c, Text.isWhitespace c = true → wideDigit c = false) :
    validateForField wide wideDigit forVal expr = .ok () ↔
      ∃ s, forVal = some s ∧ ∃ ps, ps ≠ [] ∧ Text.trim s = PrometheusDuration.text ps ∧
        seconds ps < 2 ^ 64 ∧ (minForSeconds ≤ seconds ps ∨ ∃ e, expr = some e ∧
          ∃ qs, Selects wide e qs ∧ minExprWindowSeconds ≤ seconds qs ∧ seconds qs < 2 ^ 64) := by
  rw [validateForField_eq_ok_iff_parsed, any_findQualifyingExprWindow_iff hdigit]
  refine exists_congr fun s => and_congr_right fun _ => ?_
  constructor
  · rintro ⟨_, hparse, hlong⟩
    obtain ⟨ps, hps, htrim, hfits, rfl⟩ :=
      PrometheusDuration.parsePrometheusDuration_eq_some_iff.mp hparse
    exact ⟨ps, hps, htrim, hfits, hlong⟩
  · rintro ⟨ps, hps, htrim, hfits, hlong⟩
    exact ⟨seconds ps, PrometheusDuration.parsePrometheusDuration_eq_some_iff.mpr
      ⟨ps, hps, htrim, hfits, rfl⟩, hlong⟩

/-- The check is right iff quoted strings do no harm. -/
theorem forExact_iff (wide wideDigit : Char → Bool)
    (hdigit : ∀ c, Text.isWhitespace c = true → wideDigit c = false)
    (forVal expr : Option (List Char)) :
    ForExact wide wideDigit forVal expr ↔ QuotesHarmless wide forVal expr := by
  constructor
  · rintro ⟨hexact, -⟩ s ps e rfl hps htrim hshort rfl
    have hfits : seconds ps < 2 ^ 64 := Nat.lt_trans hshort (by decide)
    -- the one reading of the `for` is too short
    have hread {P : Prop} : (∃ s', some s = some s' ∧ ∃ ps', ps' ≠ [] ∧
        Text.trim s' = PrometheusDuration.text ps' ∧ seconds ps' < 2 ^ 64 ∧
          (minForSeconds ≤ seconds ps' ∨ P)) ↔ P := by
      constructor
      · rintro ⟨_, hs, ps', hps', htrim', hfits', hlong⟩
        obtain rfl := Option.some.inj hs
        have hsame : checkedU64 (seconds ps') = checkedU64 (seconds ps) := by
          rw [← @PrometheusDuration.parsePrometheusDuration_of_trim wideDigit s ps' hps' htrim',
            PrometheusDuration.parsePrometheusDuration_of_trim hps htrim]
        unfold checkedU64 at hsame
        rw [if_pos hfits, if_pos hfits'] at hsame
        refine hlong.resolve_left fun hlong => ?_
        rw [Option.some.inj hsame] at hlong
        omega
      · exact fun hP => ⟨s, rfl, ps, hps, htrim, hfits, .inr hP⟩
    have hwindows := (hread.symm.trans
      ((validateForField_eq_ok_iff hdigit).symm.trans hexact)).trans hread
    simpa using hwindows
  · intro hharmless
    refine ⟨(validateForField_eq_ok_iff hdigit).trans ?_, fun ps qs hps hqs =>
      PrometheusDuration.parsePrometheusDuration_append hps hqs⟩
    refine exists_congr fun s => and_congr_right fun hs => exists_congr fun ps =>
      and_congr_right fun hps => and_congr_right fun htrim => and_congr_right fun _ => ?_
    unfold LongEnough
    obtain hshort | hlong := Nat.lt_or_ge (seconds ps) minForSeconds
    · refine or_congr_right (exists_congr fun e => and_congr_right fun he => ?_)
      exact hharmless s ps e hs hps htrim hshort he
    · exact iff_of_true (.inl hlong) (.inl hlong)

/-- A `for` of a minute is long enough with any expression. -/
theorem minute_exact :
    ForExact (fun _ => false) (fun _ => false) (some "1m".toList) (some "up == 0".toList) := by
  refine (forExact_iff _ _ (fun _ _ => rfl) _ _).mpr fun s ps e hs hps htrim hshort _ => ?_
  obtain rfl := Option.some.inj hs
  have hparse : parsePrometheusDuration (fun _ => false) "1m".toList = some 60 := by
    decide +kernel
  rw [PrometheusDuration.parsePrometheusDuration_of_trim hps htrim] at hparse
  unfold checkedU64 minForSeconds at *
  split_ifs at hparse
  have := Option.some.inj hparse
  omega

/-- A parenthesis in a label value hides the window of five minutes. -/
theorem label_value_hides_floor :
    validateForField (fun _ => false) (fun _ => false) (some "5s".toList)
      (some "rate(x\x7bpath=\")\"\x7d[5m])".toList) = .error (.tooShort "5s".toList 5) ∧
    ¬∀ forVal expr, ForExact (fun _ => false) (fun _ => false) forVal expr := by
  have herror : validateForField (fun _ => false) (fun _ => false) (some "5s".toList)
      (some "rate(x\x7bpath=\")\"\x7d[5m])".toList) = .error (.tooShort "5s".toList 5) := by
    decide +kernel
  refine ⟨herror, fun h => ?_⟩
  have hok := (h (some "5s".toList) (some "rate(x\x7bpath=\")\"\x7d[5m])".toList)).accepts.mpr
    ⟨_, rfl, [⟨['5'], .s, by decide, by decide⟩], by decide, by decide +kernel, by decide +kernel,
      .inr ⟨_, rfl, [⟨['5'], .m, by decide, by decide⟩], ?_, by decide +kernel⟩⟩
  · rw [herror] at hok
    cases hok
  · refine ⟨[], "rate".toList, [], "x\x7bpath=\"\"\x7d[5m])".toList,
      "x\x7bpath=\"\"\x7d[5m]".toList, by decide +kernel,
      ⟨by decide, by decide, nofun, by decide⟩, nofun, by decide, ?_, ?_⟩
    · exact ownArgument_iff.mpr ⟨[], by decide +kernel⟩
    · exact ⟨"x\x7bpath=\"\"\x7d".toList, [], [], [], by decide +kernel, nofun, nofun, by decide⟩

end DarkTower.Guard.AlertFor
