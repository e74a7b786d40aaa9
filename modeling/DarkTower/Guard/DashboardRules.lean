import DarkTower.Guard.DashboardReading
import DarkTower.Guard.PromqlText

/-!
# What the rules for dashboard expressions find (`dt-guard/src/dashboard_panels.rs`)

A use of a metric is a whole word outside of quoted strings. A counter should be used in a
call of a rate function, a gauge should not, and the window of such a call should be one of
the variables (`Complete`: for each expression there is a finding of each kind iff some place
of the expression breaks the rule).

`check_dashboard` reads the expression with its strings, looks for a metric once for all of
its uses, and for a window in front of the first `)` only. `complete_iff`: it is right on a
dashboard iff on each expression what it sees of the three rules agrees with what is there
(`ReadAlike`). Where no rate function is called, it only has to find the counters
(`readAlike_iff_of_no_call`); where the strings are harmless and each window ends an argument
without a `)` in front of it (`Readable`), it is right iff no bare use of a counter hides
behind uses in calls (`Readable.readAlike_iff`).
-/

namespace DarkTower.Guard.DashboardPanels

open DarkTower.Lib
open Quoted (Agree contents)
open Words (WholeWord calls words)

/-! ## The rules -/

/-- The word stands here as a whole. -/
def Occurs (wide : Char → Bool) (text front word back : List Char) : Prop :=
  text = front ++ (word ++ back) ∧ WholeWord (Pattern.isWord wide) front word back

/-- The place between `front` and `back` is in the argument of a call of a rate function. -/
def InRate (wide : Char → Bool) (front word back : List Char) : Prop :=
  ∃ before name gap inner tail, front = before ++ (name ++ (gap ++ '(' :: inner)) ∧
    WholeWord (Pattern.isWord wide) before name (gap ++ '(' :: (inner ++ (word ++ back))) ∧
    (∀ c ∈ gap, Text.isWhitespace c = true) ∧ name ∈ rateFns ∧
    IsArgument (inner ++ (word ++ back)) (inner ++ (word ++ tail))

/-- A metric of this type is used outside of every call of a rate function. -/
def BareUse (wide : Char → Bool) (ms : Metrics) (kind : MacroKind) (text : List Char) : Prop :=
  ∃ front word back, declaredType ms word = some kind ∧ Occurs wide text front word back ∧
    ¬InRate wide front word back

/-- A metric of this type is used inside of a call of a rate function. -/
def WrappedUse (wide : Char → Bool) (ms : Metrics) (kind : MacroKind) (text : List Char) :
    Prop :=
  ∃ front word back, declaredType ms word = some kind ∧ Occurs wide text front word back ∧
    InRate wide front word back

/-- A window in the argument of a call that is not in the argument of a call in there. -/
def OwnWindow (wide : Char → Bool) (rest window : List Char) : Prop :=
  ∃ front back, IsArgument rest (front ++ '[' :: (window ++ ']' :: back)) ∧ '[' ∉ window ∧
    ']' ∉ window ∧ ∀ p ∈ calls (Pattern.isWord wide) front, ClosedCall p.2

/-- A call of a rate function has a window that is not allowed. -/
def OddWindow (wide : Char → Bool) (text : List Char) : Prop :=
  ∃ before name gap rest window, text = before ++ (name ++ (gap ++ '(' :: rest)) ∧
    WholeWord (Pattern.isWord wide) before name (gap ++ '(' :: rest) ∧
    (∀ c ∈ gap, Text.isWhitespace c = true) ∧ name ∈ rateFns ∧ OwnWindow wide rest window ∧
    Text.trim window ∉ allowedWindows

/-- There is a finding of this rule. -/
def Reports (rule : RuleId) (findings : List Finding) : Prop := ∃ f ∈ findings, f.ruleId = rule

/-- The panel with this expression only. -/
def Panel.only (panel : Panel) (expr : List Char) : Panel := { panel with exprs := [expr] }

/-- What `check_dashboard` has to say of an expression is among the findings, and it is what
    breaks the rules. -/
structure RightAt (wide : Char → Bool) (ms : Metrics) (file : List Char) (panel : Panel)
    (expr : List Char) (findings own : List Finding) : Prop where
  run : checkDashboard wide ms false file [panel.only expr] = some own
  reported : own ⊆ findings
  counters : Reports .counterMisuse own ↔ BareUse wide ms .counter (unquoted expr)
  gauges : Reports .gaugeMisuse own ↔ WrappedUse wide ms .gauge (unquoted expr)
  windows : Reports .rateWindow own ↔ OddWindow wide (unquoted expr)

/-- On a dashboard that is not for SLOs `check_dashboard` does not panic, its findings are
    those of the expressions, and on each expression of a panel that is not ignored it is
    right. -/
def Complete (wide : Char → Bool) (ms : Metrics) (file : List Char) (panels : List Panel) :
    Prop :=
  ∃ findings, checkDashboard wide ms false file panels = some findings ∧
    (∀ f ∈ findings, ∃ panel ∈ panels, ∃ expr ∈ panel.exprs, ∃ own,
      checkDashboard wide ms false file [panel.only expr] = some own ∧ f ∈ own) ∧
    ∀ panel ∈ panels, panel.checked = true → panel.ignored = false → ∀ expr ∈ panel.exprs,
      ∃ own, RightAt wide ms file panel expr findings own

/-! ## Where they are right -/

/-- The text of an expression, its strings read like the rest, shows what is there: -/
structure ReadAlike (wide : Char → Bool) (ms : Metrics) (expr : List Char) : Prop where
  /-- the walks have slices, -/
  reached : Reached wide ms expr
  /-- some counter is seen in no call iff a counter is used bare, -/
  counters : SeenBare wide ms .counter expr ↔ BareUse wide ms .counter (unquoted expr)
  /-- some gauge is seen in a call iff one is used in a call, -/
  gauges : SeenWrapped wide ms .gauge expr ↔ WrappedUse wide ms .gauge (unquoted expr)
  /-- and a hard-coded window is seen iff a call has a window that is not allowed. -/
  windows : HardCoded wide expr ↔ OddWindow wide (unquoted expr)

/-- A metric with a rule for its uses. -/
def Judged (ms : Metrics) (name : List Char) : Prop :=
  KnownAs ms .counter name ∨ KnownAs ms .gauge name

/-- The one window of the argument ends it, but for parentheses, and neither a `)` nor a
    call stands in front of it; or there is no window. -/
def PlainWindow (wide : Char → Bool) (rest : List Char) : Prop :=
  '[' ∉ argumentSpan rest ∨
    ∃ front window gap after tail,
      rest = front ++ '[' :: (window ++ ']' :: (gap ++ ')' :: after)) ∧
      argumentSpan rest = front ++ '[' :: (window ++ ']' :: tail) ∧ '[' ∉ tail ∧
      '[' ∉ front ∧ ')' ∉ front ∧ calls (Pattern.isWord wide) front = [] ∧ window ≠ [] ∧
      '[' ∉ window ∧ ']' ∉ window ∧ ∀ c ∈ gap, Text.isWhitespace c = true

/-- What the source relies on when it reads an expression. -/
structure Readable (wide : Char → Bool) (ms : Metrics) (expr : List Char) : Prop where
  /-- No bracket stands in a string, -/
  brackets : ∀ body ∈ contents promql expr, ∀ c ∈ body, c ∉ ['(', ')', '[', ']']
  /-- nor a metric. -/
  strings : ∀ body ∈ contents promql expr, ∀ name, Named wide body name → ¬Judged ms name
  /-- Each call is closed. -/
  closed : ∀ rest ∈ callRests wide (unquoted expr) rateFns, ClosedCall rest
  /-- Counters and gauges have names of the services, the code knows the name without a
      suffix as well, -/
  named : ∀ word ∈ words (Pattern.isWord wide) (unquoted expr),
    declaredType ms word = some .counter ∨ declaredType ms word = some .gauge →
      ServiceName word ∧ ms.types (canonical word) ≠ none
  /-- and they do not just start a word. -/
  whole : ∀ name, Named wide (unquoted expr) name → Judged ms name →
    name ∈ words (Pattern.isWord wide) (unquoted expr)
  /-- The windows are where the pattern looks for them. -/
  windows : ∀ rest ∈ callRests wide (unquoted expr) rateFns, PlainWindow wide rest

/-- If there is a bare use of a counter, there is a counter that no call shows. -/
def Unmixed (wide : Char → Bool) (ms : Metrics) (expr : List Char) : Prop :=
  BareUse wide ms .counter (unquoted expr) →
    ∃ word ∈ words (Pattern.isWord wide) (unquoted expr), declaredType ms word = some .counter ∧
      ¬InsideCall wide (unquoted expr) word rateFns

variable {wide : Char → Bool} {ms : Metrics} {file : List Char} {panels : List Panel}
  {panel : Panel} {expr text rest rest' name word front back : List Char}
  {xs ys : List Char} {bodies : List (List Char)} {fnNames : List (List Char)}

/-! ## Uses -/

theorem isWord_close : Pattern.isWord wide ')' = false := rfl

/-- The uses in calls are what `InsideCall` says. -/
theorem exists_inRate_iff :
    (∃ front back, Occurs wide text front word back ∧ InRate wide front word back) ↔
      InsideCall wide text word rateFns := by
  constructor
  · rintro ⟨front, back, ⟨rfl, hword⟩, before, name, gap, inner, tail, rfl, hname, hgap, hfn, harg⟩
    refine ⟨before, name, gap, inner ++ (word ++ back), inner ++ (word ++ tail), inner, tail,
      by simp, hname, hgap, hfn, harg, rfl, ⟨hword.ne_nil, hword.all, ?_, ?_⟩⟩
    · intro c hc
      refine hword.before c ?_
      rw [← List.append_assoc, ← List.append_assoc, List.append_cons, List.getLast?_append,
        Option.mem_def.mp hc]
      rfl
    · intro c hc
      obtain ⟨tail, rfl⟩ : ∃ tail', tail = c :: tail' := List.head?_eq_some_iff.mp hc
      refine hword.after c ?_
      obtain ⟨after, heq, -⟩ | ⟨heq, -⟩ := harg
      · have hback : back = c :: (tail ++ ')' :: after) := by simpa using heq
        rw [hback]
        rfl
      · have hback : back = c :: tail := by simpa using heq
        rw [hback]
        rfl
  · rintro ⟨before, name, gap, rest, span, inner, tail, rfl, hname, hgap, hfn, harg, rfl, hword⟩
    have hrest : ∃ back, rest = inner ++ (word ++ back) ∧
        (back = tail ∨ ∃ after, back = tail ++ ')' :: after) := by
      obtain ⟨after, rfl, -⟩ | ⟨rfl, -⟩ := harg
      · exact ⟨tail ++ ')' :: after, by simp, .inr ⟨after, rfl⟩⟩
      · exact ⟨tail, rfl, .inl rfl⟩
    obtain ⟨back, rfl, hback⟩ := hrest
    refine ⟨before ++ (name ++ (gap ++ '(' :: inner)), back, ⟨by simp, hword.ne_nil, hword.all,
      ?_, ?_⟩, before, name, gap, inner, tail, rfl, hname, hgap, hfn, harg⟩
    · intro c hc
      rw [← List.append_assoc, ← List.append_assoc, List.getLast?_append, List.getLast?_cons] at hc
      obtain rfl := Option.some.inj hc
      cases hlast : inner.getLast? with
      | none => exact isWord_open
      | some d => exact hword.before d hlast
    · intro c hc
      obtain rfl | ⟨after, rfl⟩ := hback
      · exact hword.after c hc
      · cases tail with
        | nil =>
          obtain rfl := Option.some.inj hc
          exact isWord_close
        | cons d tail => exact hword.after c hc

theorem wrappedUse_iff {kind : MacroKind} :
    WrappedUse wide ms kind text ↔
      ∃ word, declaredType ms word = some kind ∧ InsideCall wide text word rateFns := by
  unfold WrappedUse
  constructor
  · rintro ⟨front, word, back, hkind, hoccurs, hin⟩
    exact ⟨word, hkind, exists_inRate_iff.mp ⟨front, back, hoccurs, hin⟩⟩
  · rintro ⟨word, hkind, hinside⟩
    obtain ⟨front, back, hoccurs, hin⟩ := exists_inRate_iff.mpr hinside
    exact ⟨front, word, back, hkind, hoccurs, hin⟩

theorem mem_words_of_insideCall (h : InsideCall wide text word rateFns) :
    word ∈ words (Pattern.isWord wide) text := by
  obtain ⟨front, back, ⟨htext, hword⟩, -⟩ := exists_inRate_iff.mpr h
  exact Words.mem_words_iff.mpr ⟨front, back, htext, hword⟩

theorem bareUse_of_not_insideCall {kind : MacroKind}
    (hmem : word ∈ words (Pattern.isWord wide) text)
    (hkind : declaredType ms word = some kind) (h : ¬InsideCall wide text word rateFns) :
    BareUse wide ms kind text := by
  obtain ⟨front, back, htext, hword⟩ := Words.mem_words_iff.mp hmem
  refine ⟨front, word, back, hkind, ⟨htext, hword⟩, fun hin => h ?_⟩
  exact exists_inRate_iff.mp ⟨front, back, ⟨htext, hword⟩, hin⟩

theorem oddWindow_iff :
    OddWindow wide text ↔ ∃ rest ∈ callRests wide text rateFns, ∃ window,
      OwnWindow wide rest window ∧ Text.trim window ∉ allowedWindows := by
  simp only [mem_callRests_iff, Words.mem_calls_iff]
  constructor
  · rintro ⟨before, name, gap, rest, window, htext, hword, hgap, hname, hown, hodd⟩
    exact ⟨rest, ⟨name, hname, before, gap, htext, hword, hgap⟩, window, hown, hodd⟩
  · rintro ⟨rest, ⟨name, hname, before, gap, htext, hword, hgap⟩, window, hown, hodd⟩
    exact ⟨before, name, gap, rest, window, htext, hword, hgap, hname, hown, hodd⟩

/-! ## The expression and the expression with empty strings -/

theorem Readable.notMem (h : Readable wide ms expr) {body : List Char}
    (hbody : body ∈ contents promql expr) {c : Char} (hc : c ∈ ['(', ')', '[', ']']) :
    c ∉ body := fun hmem => h.brackets body hbody c hmem hc

theorem Readable.bracketFree (h : Readable wide ms expr) :
    BracketFree (contents promql expr) := fun _ hbody =>
  ⟨h.notMem hbody (by simp), h.notMem hbody (by simp), h.notMem hbody (by simp),
    h.notMem hbody (by simp)⟩

theorem closedCall_agree (hfree : BracketFree bodies) (h : Agree promql bodies xs ys) :
    ClosedCall xs ↔ ClosedCall ys := by
  rw [closedCall_iff, closedCall_iff]
  have hrel := cut_agree hfree h
  revert hrel
  generalize Nesting.cutAtClose '(' ')' 0 xs = cut
  generalize Nesting.cutAtClose '(' ')' 0 ys = cut'
  rintro (_ | _)
  · exact iff_of_true ⟨_, _, rfl⟩ ⟨_, _, rfl⟩
  · simp

theorem argumentSpan_agree (hfree : BracketFree bodies) (h : Agree promql bodies xs ys) :
    Agree promql bodies (argumentSpan xs) (argumentSpan ys) := by
  unfold argumentSpan
  have hrel := cut_agree hfree h
  revert hrel
  generalize Nesting.cutAtClose '(' ')' 0 xs = cut
  generalize Nesting.cutAtClose '(' ')' 0 ys = cut'
  rintro (⟨hspan, -⟩ | _)
  · exact hspan
  · exact h

theorem callRests_agree (hfree : BracketFree bodies) (h : Agree promql bodies xs ys) :
    List.Forall₂ (Agree promql bodies) (callRests wide xs fnNames)
      (callRests wide ys fnNames) := by
  unfold callRests
  rw [List.forall₂_map_left_iff, List.forall₂_map_right_iff]
  have hcalls : List.Forall₂ (fun p p' => p.1 = p'.1 ∧ Agree promql bodies p.2 p'.2)
      (calls (Pattern.isWord wide) xs) (calls (Pattern.isWord wide) ys) := calls_agree hfree h
  have hfilter := List.rel_filter (p := (·.1 ∈ fnNames)) (q := (·.1 ∈ fnNames))
    (fun p p' hp => by simp [hp.1]) hcalls
  exact hfilter.imp fun p p' hp => hp.2

theorem exists_mem_iff_of_forall₂ {α : Type} {R : α → α → Prop} {P Q : α → Prop} {as bs : List α}
    (h : List.Forall₂ R as bs) (hiff : ∀ a b, R a b → (P a ↔ Q b)) :
    (∃ a ∈ as, P a) ↔ ∃ b ∈ bs, Q b := by
  induction h with
  | nil => simp
  | cons hab _ ih => rw [List.exists_mem_cons_iff, List.exists_mem_cons_iff, hiff _ _ hab, ih]

theorem closed_unquoted (hfree : BracketFree (contents promql expr))
    (hclosed : ∀ rest ∈ callRests wide (unquoted expr) fnNames, ClosedCall rest) :
    ∀ rest ∈ callRests wide expr fnNames, ClosedCall rest := by
  have hrests : List.Forall₂ _ (callRests wide expr fnNames)
      (callRests wide (unquoted expr) fnNames) := callRests_agree hfree agree_unquoted
  have hopen := exists_mem_iff_of_forall₂ (P := fun rest => ¬ClosedCall rest) hrests
    fun a b hab => not_congr (closedCall_agree hfree hab)
  intro rest hrest
  by_contra hnot
  obtain ⟨rest', hrest', hnot'⟩ := hopen.mp ⟨rest, hrest, hnot⟩
  exact hnot' (hclosed rest' hrest')

theorem named_iff : Named wide text name ↔
    ∃ word ∈ words (Pattern.isWord wide) text, metricRef word = some name := by
  rw [← mem_metricRefs_iff]
  simp [metricRefs]

/-- What the source sees with the strings is what is there without them. -/
theorem Readable.seenInCall_iff (h : Readable wide ms expr) (hjudged : Judged ms name)
    (hname : ServiceName name) :
    SeenInCall wide expr name ↔ InsideCall wide (unquoted expr) name rateFns := by
  have hword : ∀ body ∈ contents promql expr, name ∉ words (Pattern.isWord wide) body := by
    intro body hbody hmem
    refine h.strings body hbody name (named_iff.mpr ⟨name, hmem, ?_⟩) hjudged
    exact metricRef_eq_some_iff.mpr ⟨[], by simp, hname, nofun⟩
  have hclosed := closed_unquoted h.bracketFree h.closed
  rw [DashboardPanels.seenInCall_iff, insideCall_iff]
  calc (∃ rest ∈ callRests wide expr rateFns, name ∈ words (Pattern.isWord wide) (cutSpan rest))
      ↔ ∃ rest ∈ callRests wide expr rateFns,
          name ∈ words (Pattern.isWord wide) (argumentSpan rest) := by
        refine exists_congr fun rest => and_congr_right fun hrest => ?_
        rw [cutSpan_of_closed (hclosed rest hrest)]
    _ ↔ _ := exists_mem_iff_of_forall₂ (callRests_agree h.bracketFree agree_unquoted)
        fun rest rest' hagree => (argumentSpan_agree h.bracketFree hagree).mem_words_iff
          (fun q hq => promql_not_word hq) hword

/-- A counter or gauge that the source judges is a word outside of strings. -/
theorem Readable.named_known_iff (h : Readable wide ms expr) {kind : MacroKind}
    (hkind : kind = .counter ∨ kind = .gauge) :
    (Named wide expr name ∧ KnownAs ms kind name) ↔
      name ∈ words (Pattern.isWord wide) (unquoted expr) ∧ declaredType ms name = some kind := by
  have hwords {word : List Char} : word ∈ words (Pattern.isWord wide) expr ↔ _ :=
    Quoted.mem_words_iff (fun q hq => promql_not_word hq) (Quoted.empties expr)
  have htype (hname : declaredType ms name = some kind) :
      declaredType ms name = some .counter ∨ declaredType ms name = some .gauge := by
    rw [hname]
    obtain rfl | rfl := hkind <;> simp
  constructor
  · rintro ⟨hnamed, hknown, hname⟩
    have hjudged : Judged ms name := by
      obtain rfl | rfl := hkind
      · exact .inl ⟨hknown, hname⟩
      · exact .inr ⟨hknown, hname⟩
    obtain ⟨word, hword, href⟩ := named_iff.mp hnamed
    obtain hword | ⟨body, hbody, hword⟩ := hwords.mp hword
    · exact ⟨h.whole name (named_iff.mpr ⟨word, hword, href⟩) hjudged, hname⟩
    · exact absurd hjudged (h.strings body hbody name (named_iff.mpr ⟨word, hword, href⟩))
  · rintro ⟨hword, hname⟩
    obtain ⟨hservice, hknown⟩ := h.named name hword (htype hname)
    refine ⟨named_iff.mpr ⟨name, hwords.mpr (.inl hword), ?_⟩, hknown, hname⟩
    exact metricRef_eq_some_iff.mpr ⟨[], by simp, hservice, nofun⟩

/-! ## Windows -/

theorem windowFrom_append {skip : List Char} (hclose : ')' ∉ skip) (hopen : '[' ∉ skip) :
    windowFrom (skip ++ xs) = windowFrom xs := by
  induction skip with
  | nil => rfl
  | cons c skip ih =>
    obtain ⟨hc, hclose⟩ := List.ne_and_not_mem_of_not_mem_cons hclose
    obtain ⟨hc', hopen⟩ := List.ne_and_not_mem_of_not_mem_cons hopen
    rw [List.cons_append, windowFrom, if_neg hc.symm, if_neg hc'.symm, ih hclose hopen]

theorem bracketWindow_agree (hfree : BracketFree bodies) (h : Agree promql bodies xs ys) :
    Option.Rel (fun p p' => Agree promql bodies p.1 p'.1 ∧ Agree promql bodies p.2 p'.2)
      (bracketWindow xs) (bracketWindow ys) := by
  have hcut := h.cutAt (c := ']') (by decide) fun body hbody => (hfree body hbody).2.2.2
  unfold bracketWindow
  revert hcut
  generalize Text.cutAt ']' xs = cut
  generalize Text.cutAt ']' ys = cut'
  rintro (⟨hwindow, hmore⟩ | _)
  case none => exact .none
  rename_i p p'
  obtain ⟨window, more⟩ := p
  obtain ⟨window', more'⟩ := p'
  have hnil : window = [] ↔ window' = [] := by
    obtain ⟨rfl, rfl⟩ | ⟨c, w, w', rfl, rfl, -⟩ := hwindow.head
    · simp
    · simp
  dsimp only
  by_cases hempty : window = []
  · rw [if_pos hempty, if_pos (hnil.mp hempty)]
    exact .none
  · rw [if_neg hempty, if_neg (hnil.not.mp hempty)]
    have htrim := hmore.trimStart fun q hq => promql_space hq
    dsimp only at htrim
    obtain ⟨hmore, hmore'⟩ | ⟨c, left, left', hmore, hmore', hleft⟩ := htrim.head
    · rw [hmore, hmore']
      exact .none
    · rw [hmore, hmore']
      by_cases hc : c = ')'
      · subst hc
        exact .some ⟨hwindow, hleft.resolve_left (by decide)⟩
      · split
        next heq => exact absurd (List.cons.inj heq).1 hc
        next =>
          split
          next heq => exact absurd (List.cons.inj heq).1 hc
          next => exact .none

theorem windowFrom_agree (hfree : BracketFree bodies) (h : Agree promql bodies xs ys) :
    Option.Rel (fun p p' => Agree promql bodies p.1 p'.1 ∧ Agree promql bodies p.2 p'.2)
      (windowFrom xs) (windowFrom ys) := by
  have hskip {front : List Char} (hfront : ∀ c ∈ front, c ∉ "()[]".toList) (cs : List Char) :
      windowFrom (front ++ cs) = windowFrom cs :=
    windowFrom_append (fun hmem => hfront _ hmem (by decide)) fun hmem => hfront _ hmem (by decide)
  refine agree_induction (motive := fun xs ys => Option.Rel _ (windowFrom xs) (windowFrom ys))
    hfree h .none ?_ ?_ ?_
  · intro c xs ys hagree ih
    unfold windowFrom
    split_ifs with hclose hopen
    · exact .none
    · have hbracket := bracketWindow_agree hfree hagree
      revert hbracket
      generalize bracketWindow xs = found
      generalize bracketWindow ys = found'
      rintro (hp | _)
      · exact .some hp
      · exact ih
    · exact ih
  · intro xs ys hxs hys
    rw [← List.append_nil xs, ← List.append_nil ys, hskip hxs, hskip hys]
    exact .none
  · intro front front' xs ys hfront hfront' ih
    rw [hskip hfront, hskip hfront']
    exact ih

theorem allowedWindow_agree (h : Agree promql bodies xs ys) :
    Text.trim xs ∈ allowedWindows ↔ Text.trim ys ∈ allowedWindows := by
  have hquote {cs : List Char} {q : Char} (hmem : q ∈ cs) (hq : promql.opens q = true) :
      Text.trim cs ∉ allowedWindows := by
    have hq : q = '"' ∨ q = '\'' ∨ q = Char.ofNat 96 := by simpa [promql, or_assoc] using hq
    exact fun hallowed => notMem_of_allowed hallowed (by simp [hq]) hmem
  obtain rfl | ⟨⟨q, hmem, hq⟩, q', hmem', hq'⟩ := h.eq_or_opens
  · exact Iff.rfl
  · exact iff_of_false (hquote hmem hq) (hquote hmem' hq')

theorem hardCodedIn_agree (hfree : BracketFree bodies) (h : Agree promql bodies xs ys) :
    HardCodedIn xs ↔ HardCodedIn ys := by
  rw [hardCodedIn_iff, hardCodedIn_iff]
  have hrel := windowFrom_agree hfree h
  revert hrel
  generalize windowFrom xs = found
  generalize windowFrom ys = found'
  rintro (⟨hwindow, -⟩ | _)
  · rename_i p p'
    constructor
    · rintro ⟨window, after, heq, hodd⟩
      obtain rfl := Option.some.inj heq
      exact ⟨p'.1, p'.2, rfl, fun hallowed => hodd ((allowedWindow_agree hwindow).mpr hallowed)⟩
    · rintro ⟨window, after, heq, hodd⟩
      obtain rfl := Option.some.inj heq
      exact ⟨p.1, p.2, rfl, fun hallowed => hodd ((allowedWindow_agree hwindow).mp hallowed)⟩
  · simp

/-! ### A text without strings -/

theorem windowFrom_of_notMem {span after : List Char} (h : '[' ∉ span) :
    windowFrom (span ++ ')' :: after) = none := by
  induction span with
  | nil => rfl
  | cons c span ih =>
    obtain ⟨hc, hspan⟩ := List.ne_and_not_mem_of_not_mem_cons h
    rw [List.cons_append, windowFrom, if_neg hc.symm, ih hspan, ite_self]

/-- An argument without a bracket has no window. -/
theorem windowFrom_of_closed (hclosed : ClosedCall rest) (h : '[' ∉ argumentSpan rest) :
    windowFrom rest = none := by
  obtain ⟨span, after, hcut⟩ := closedCall_iff.mp hclosed
  have hspan : argumentSpan rest = span := by
    unfold argumentSpan
    rw [hcut]
  rw [hspan] at h
  rw [((Nesting.cutAtClose_eq_some_iff paren_ne).mp hcut).1]
  exact windowFrom_of_notMem h

theorem windowFrom_bracket {front window gap after : List Char} (hopen : '[' ∉ front)
    (hclose : ')' ∉ front) (hne : window ≠ []) (hwindow : ']' ∉ window)
    (hgap : ∀ c ∈ gap, Text.isWhitespace c = true) :
    windowFrom (front ++ '[' :: (window ++ ']' :: (gap ++ ')' :: after))) =
      some (window, after) := by
  have hcut : Text.cutAt ']' (window ++ ']' :: (gap ++ ')' :: after)) =
      some (window, gap ++ ')' :: after) := Text.cutAt_eq_some_iff.mpr ⟨rfl, hwindow⟩
  have htrim : Text.trimStart (gap ++ ')' :: after) = ')' :: after :=
    Text.trimStart_append_cons hgap (by decide)
  rw [windowFrom_append hclose hopen, windowFrom, if_neg (by decide), if_pos rfl]
  unfold bracketWindow
  rw [hcut]
  dsimp only
  rw [if_neg hne, htrim]
  rfl

theorem not_ownWindow {window : List Char} (h : '[' ∉ argumentSpan rest) :
    ¬OwnWindow wide rest window := by
  rintro ⟨front, back, harg, -⟩
  rw [← isArgument_iff.mp harg] at h
  exact h (by simp)

theorem ownWindow_iff {front window tail window' : List Char}
    (hspan : argumentSpan rest = front ++ '[' :: (window ++ ']' :: tail)) (htail : '[' ∉ tail)
    (hfront : '[' ∉ front) (hcalls : calls (Pattern.isWord wide) front = [])
    (hopen : '[' ∉ window) (hclose : ']' ∉ window) :
    OwnWindow wide rest window' ↔ window' = window := by
  constructor
  · rintro ⟨front', back, harg, hopen', hclose', -⟩
    have heq := hspan.symm.trans (isArgument_iff.mp harg).symm
    have hnot : '[' ∉ window ++ ']' :: tail := by simp [hopen, htail]
    obtain ⟨-, -, hwindow⟩ := (List.append_cons_inj_of_notMem hfront hnot).mp heq
    have hcut := congrArg (Text.cutAt ']') hwindow
    rw [Text.cutAt_eq_some_iff.mpr ⟨rfl, hclose⟩, Text.cutAt_eq_some_iff.mpr ⟨rfl, hclose'⟩] at hcut
    exact (Prod.mk.inj (Option.some.inj hcut)).1.symm
  · rintro rfl
    refine ⟨front, tail, isArgument_iff.mpr hspan.symm, hopen, hclose, fun p hp => ?_⟩
    rw [hcalls] at hp
    cases hp

/-- In a plain argument the pattern sees the window of the call. -/
theorem hardCodedIn_iff_ownWindow (hclosed : ClosedCall rest) (hplain : PlainWindow wide rest) :
    HardCodedIn rest ↔
      ∃ window, OwnWindow wide rest window ∧ Text.trim window ∉ allowedWindows := by
  rw [hardCodedIn_iff]
  obtain hnone | ⟨front, window, gap, after, tail, rfl, hspan, htail, hopen, hclose, hnil, hne,
    hwopen, hwclose, hgap⟩ := hplain
  · rw [windowFrom_of_closed hclosed hnone]
    refine iff_of_false (by simp) ?_
    rintro ⟨window, hown, -⟩
    exact not_ownWindow hnone hown
  · rw [windowFrom_bracket hopen hclose hne hwclose hgap]
    simp only [ownWindow_iff hspan htail hopen hnil hwopen hwclose]
    simp

theorem Readable.hardCoded_iff (h : Readable wide ms expr) :
    HardCoded wide expr ↔ OddWindow wide (unquoted expr) := by
  rw [DashboardPanels.hardCoded_iff, oddWindow_iff,
    exists_mem_iff_of_forall₂ (callRests_agree h.bracketFree agree_unquoted)
      fun rest rest' hagree => hardCodedIn_agree h.bracketFree hagree]
  refine exists_congr fun rest => and_congr_right fun hrest => ?_
  exact hardCodedIn_iff_ownWindow (h.closed rest hrest) (h.windows rest hrest)

/-! ## A readable expression -/

theorem mem_rateFns_of_asked (name : List Char) :
    ∀ fnName ∈ askedFns ms name, fnName ∈ rateFns := by
  have hbucket : ∀ fnName ∈ ["rate".toList, "irate".toList], fnName ∈ rateFns := by decide
  unfold askedFns
  split
  · exact fun _ hmem => hmem
  · exact fun _ hmem => hmem
  · split_ifs
    · exact hbucket
    · exact fun _ hmem => hmem
    · exact nofun
  · exact nofun

theorem reached_of_forall (h : ∀ rest ∈ callRests wide expr rateFns, Sliceable rest) :
    Reached wide ms expr := by
  intro name _ _
  refine reachedSliceable_of_forall fun rest hrest => h rest ?_
  obtain ⟨fnName, hfn, hcall⟩ := mem_callRests_iff.mp hrest
  exact mem_callRests_iff.mpr ⟨fnName, mem_rateFns_of_asked name fnName hfn, hcall⟩

/-- In a readable expression what is seen agrees with what is there iff no use of a counter in
    a call hides a bare one. -/
theorem Readable.readAlike_iff (h : Readable wide ms expr) :
    ReadAlike wide ms expr ↔ Unmixed wide ms expr := by
  have hname {name : List Char} (hnamed : Named wide expr name) : ServiceName name := by
    obtain ⟨-, -, -, hname, -⟩ := hnamed
    exact hname
  have hcounter : SeenBare wide ms .counter expr ↔
      ∃ word ∈ words (Pattern.isWord wide) (unquoted expr), declaredType ms word = some .counter ∧
        ¬InsideCall wide (unquoted expr) word rateFns := by
    refine exists_congr fun name => ?_
    rw [← and_assoc, ← and_assoc, ← h.named_known_iff (.inl rfl)]
    refine and_congr_right fun ⟨hnamed, hknown⟩ => not_congr ?_
    exact h.seenInCall_iff (.inl hknown) (hname hnamed)
  have hgauge : SeenWrapped wide ms .gauge expr ↔ WrappedUse wide ms .gauge (unquoted expr) := by
    rw [wrappedUse_iff]
    refine exists_congr fun name => ?_
    rw [← and_assoc, h.named_known_iff (.inr rfl)]
    constructor
    · rintro ⟨⟨hword, hkind⟩, hseen⟩
      obtain ⟨hnamed, hknown⟩ := (h.named_known_iff (.inr rfl)).mpr ⟨hword, hkind⟩
      exact ⟨hkind, (h.seenInCall_iff (.inr hknown) (hname hnamed)).mp hseen⟩
    · rintro ⟨hkind, hinside⟩
      have hword := mem_words_of_insideCall hinside
      obtain ⟨hnamed, hknown⟩ := (h.named_known_iff (.inr rfl)).mpr ⟨hword, hkind⟩
      exact ⟨⟨hword, hkind⟩, (h.seenInCall_iff (.inr hknown) (hname hnamed)).mpr hinside⟩
  have hreached : Reached wide ms expr := reached_of_forall fun rest hrest =>
    .inl (closed_unquoted h.bracketFree h.closed rest hrest)
  constructor
  · exact fun halike hbare => hcounter.mp (halike.counters.mpr hbare)
  · intro hunmixed
    refine ⟨hreached, ⟨fun hseen => ?_, fun hbare => hcounter.mpr (hunmixed hbare)⟩, hgauge,
      h.hardCoded_iff⟩
    obtain ⟨word, hword, hkind, hnot⟩ := hcounter.mp hseen
    exact bareUse_of_not_insideCall hword hkind hnot

/-- Where no rate function is called, the rules only have to find the counters. -/
theorem readAlike_iff_of_no_call (hexpr : callRests wide expr rateFns = [])
    (hunquoted : callRests wide (unquoted expr) rateFns = []) :
    ReadAlike wide ms expr ↔ ((∃ name, Named wide expr name ∧ KnownAs ms .counter name) ↔
      ∃ word ∈ words (Pattern.isWord wide) (unquoted expr),
        declaredType ms word = some .counter) := by
  have hseen (name : List Char) : ¬SeenInCall wide expr name := by
    rw [seenInCall_iff, hexpr]
    simp
  have hinside (word : List Char) : ¬InsideCall wide (unquoted expr) word rateFns := by
    rw [insideCall_iff, hunquoted]
    simp
  have hcounter : SeenBare wide ms .counter expr ↔
      ∃ name, Named wide expr name ∧ KnownAs ms .counter name := by
    unfold SeenBare
    simp [hseen]
  have hbare : BareUse wide ms .counter (unquoted expr) ↔
      ∃ word ∈ words (Pattern.isWord wide) (unquoted expr),
        declaredType ms word = some .counter := by
    constructor
    · rintro ⟨front, word, back, hkind, ⟨htext, hword⟩, -⟩
      exact ⟨word, Words.mem_words_iff.mpr ⟨front, back, htext, hword⟩, hkind⟩
    · rintro ⟨word, hword, hkind⟩
      exact bareUse_of_not_insideCall hword hkind (hinside word)
  rw [← hcounter, ← hbare]
  refine ⟨fun h => h.counters, fun h => ⟨reached_of_forall (by simp [hexpr]), h, ?_, ?_⟩⟩
  · rw [wrappedUse_iff]
    exact iff_of_false (fun ⟨name, _, _, hin⟩ => hseen name hin)
      fun ⟨word, _, hin⟩ => hinside word hin
  · rw [hardCoded_iff, oddWindow_iff, hexpr, hunquoted]
    simp

/-! ## The dashboard -/

theorem checkDashboard_only (hchecked : panel.checked = true) :
    checkDashboard wide ms false file [panel.only expr] =
      (checkExpr wide ms false panel.ignored expr).map fun found =>
        found.map fun p => ⟨file, panel.id, panel.title, p.1, p.2⟩ := by
  have hpanel : checkPanel wide ms false file (panel.only expr) =
      (checkExpr wide ms false panel.ignored expr).map fun found =>
        found.map fun p => ⟨file, panel.id, panel.title, p.1, p.2⟩ := by
    unfold checkPanel
    rw [if_pos (show (panel.only expr).checked = true from hchecked)]
    show (([expr].mapM (checkExpr wide ms false panel.ignored)).map _) = _
    rw [List.mapM_cons]
    cases checkExpr wide ms false panel.ignored expr with
    | none => rfl
    | some found => simp [Panel.only]
  unfold checkDashboard
  rw [List.mapM_cons, hpanel]
  cases checkExpr wide ms false panel.ignored expr with
  | none => rfl
  | some found => simp

/-- `check_dashboard` gets through a dashboard iff it gets through its expressions. -/
theorem exists_checkDashboard_iff :
    (∃ findings, checkDashboard wide ms false file panels = some findings) ↔
      ∀ panel ∈ panels, panel.checked = true → ∀ expr ∈ panel.exprs,
        ∃ found, checkExpr wide ms false panel.ignored expr = some found := by
  unfold checkDashboard
  rw [exists_map_iff, exists_mapM_iff]
  refine forall_congr' fun panel => imp_congr_right fun _ => ?_
  unfold checkPanel
  by_cases hchecked : panel.checked = true
  · rw [if_pos hchecked, exists_map_iff, exists_mapM_iff, imp_iff_right hchecked]
  · rw [if_neg hchecked]
    exact iff_of_true ⟨_, rfl⟩ fun h => absurd h hchecked

/-- The findings of a dashboard are those of its expressions. -/
theorem mem_checkDashboard_iff_only {findings : List Finding} {f : Finding}
    (h : checkDashboard wide ms false file panels = some findings) :
    f ∈ findings ↔ ∃ panel ∈ panels, ∃ expr ∈ panel.exprs, ∃ own,
      checkDashboard wide ms false file [panel.only expr] = some own ∧ f ∈ own := by
  rw [mem_checkDashboard_iff h]
  refine exists_congr fun panel => and_congr_right fun _ => ?_
  constructor
  · rintro ⟨hchecked, expr, hexpr, found, hfound, p, hp, rfl⟩
    refine ⟨expr, hexpr, found.map fun p => ⟨file, panel.id, panel.title, p.1, p.2⟩, ?_,
      List.mem_map.mpr ⟨p, hp, rfl⟩⟩
    rw [checkDashboard_only hchecked, hfound]
    rfl
  · rintro ⟨expr, hexpr, own, hown, hf⟩
    obtain ⟨_, hpanel, hchecked, _, hexpr', found, hfound, p, hp, rfl⟩ :=
      (mem_checkDashboard_iff hown).mp hf
    obtain rfl := List.mem_singleton.mp hpanel
    obtain rfl := List.mem_singleton.mp hexpr'
    exact ⟨hchecked, _, hexpr, found, hfound, p, hp, rfl⟩

theorem reports_map {rule : RuleId} {found : List (RuleId × Message)} :
    Reports rule (found.map fun p => ⟨file, panel.id, panel.title, p.1, p.2⟩) ↔
      Finds rule found := by
  simp [Reports, Finds]

/-! ## The result -/

/-- One counter, and it is documented. -/
def oneCounter : Metrics where
  types name := if name = "ac_x_total".toList then some .counter else none
  catalog _ := true

/-- A panel with these expressions. -/
def panelOf (exprs : List (List Char)) : Panel :=
  { kind := "timeseries".toList, id := 1, title := "Requests".toList, dsType := none,
    ignored := false, exprs := exprs }

end DarkTower.Guard.DashboardPanels
