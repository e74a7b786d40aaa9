import DarkTower.Guard.MetricInsideFn
import DarkTower.Guard.MetricScan
import Mathlib.Data.List.Dedup

/-!
# Expressions of a dashboard (`dt-guard/src/dashboard_panels.rs`)

`check_dashboard` looks at every panel of a dashboard. Modelled is what it does with the
expressions of a panel: the windows of the rate functions, whether each metric is known, and
whether a counter, a gauge or a histogram is used as it should be. The rules for units and
data sources read no expression and are left out, and a panel comes with what is read from
its JSON. A set of names is the list of its members here, in the order of the expression.

`mem_checkDashboard_iff` says that the findings of a dashboard are those of its expressions.
-/

namespace DarkTower.Guard.DashboardPanels

open DarkTower.Lib
open Words (calls words)

/-- The rules (dashboard_panels.rs:41-49) for expressions. -/
inductive RuleId
  | rateWindow
  | counterMisuse
  | gaugeMisuse
  | histogramMisuse
  | metricNotInCode
  | metricNotInCatalog
deriving DecidableEq

/-- The identifier of the rule. -/
def RuleId.asStr : RuleId → String
  | rateWindow => "rate_window"
  | counterMisuse => "counter_misuse"
  | gaugeMisuse => "gauge_misuse"
  | histogramMisuse => "histogram_misuse"
  | metricNotInCode => "metric_not_in_code"
  | metricNotInCatalog => "metric_not_in_catalog"

/-- The messages of the findings, with what is written into them. -/
inductive Message
  | hardCodedWindow (fnName window : List Char)
  | notInCode (mref : List Char)
  | notInCatalog (mref : List Char)
  | counterUnwrapped (mref : List Char)
  | gaugeWrapped (mref : List Char)
  | bucketUnwrapped (mref base : List Char)
  | seriesUnwrapped (mref : List Char)
deriving DecidableEq

/-- `debug` is the `{:?}` form of a text. -/
def Message.text (debug : List Char → String) : Message → String
  | hardCodedWindow fnName window =>
    String.ofList fnName ++ "() uses hard-coded window [" ++ String.ofList window ++
      "]; use [$__rate_interval] per ADR-0029"
  | notInCode mref =>
    "metric " ++ debug mref ++ " not defined in crates/*/src/observability/metrics.rs"
  | notInCatalog mref =>
    "metric " ++ debug mref ++ " not documented in docs/observability/metrics/"
  | counterUnwrapped mref =>
    "counter metric " ++ debug mref ++
      " used without rate()/increase() — violates ADR-0029 §Category A"
  | gaugeWrapped mref =>
    "gauge metric " ++ debug mref ++
      " wrapped in rate()/increase() — gauges represent current value, not a counting process"
  | bucketUnwrapped mref base =>
    "histogram bucket " ++ debug mref ++
      " must be inside rate() — use histogram_quantile(..., rate(" ++ String.ofList base ++
      "_bucket[...]))"
  | seriesUnwrapped mref =>
    "histogram series " ++ debug mref ++ " must be inside rate()/increase()"

/-- `Finding` (dashboard_panels.rs:286). -/
structure Finding where
  file : List Char
  panelId : ℤ
  panelTitle : List Char
  ruleId : RuleId
  message : Message
deriving DecidableEq

/-- What is read of a panel: its data source is its own or that of its first target with one,
    an ignore reason that is not lazy makes it ignored, and `exprs` are the expressions of
    its targets that are not empty. -/
structure Panel where
  kind : List Char
  id : ℤ
  title : List Char
  dsType : Option (List Char)
  ignored : Bool
  exprs : List (List Char)

/-- What the code and the catalog know: `metric_types` and `catalog_metrics`. -/
structure Metrics where
  types : List Char → Option MacroKind
  catalog : List Char → Bool

/-! ## The windows -/

/-- The functions of `RATE_WINDOW_RE`, which `check_dashboard` also looks for itself. -/
def rateFns : List (List Char) := ["rate".toList, "increase".toList, "irate".toList]

/-- `$__rate_interval` and `TIME_RANGE_WINDOWS` (dashboard_panels.rs:39). -/
def allowedWindows : List (List Char) :=
  ["$__rate_interval".toList, "$__range".toList, "$__interval".toList]

/-- `([^\]]+)\]\s*\)` of `RATE_WINDOW_RE`: the window and what follows the parenthesis. -/
def bracketWindow (cs : List Char) : Option (List Char × List Char) :=
  match Text.cutAt ']' cs with
  | none => none
  | some (window, more) =>
    if window = [] then none
    else
      match Text.trimStart more with
      | ')' :: left => some (window, left)
      | _ => none

/-- What follows the opening parenthesis in `RATE_WINDOW_RE`. -/
def windowFrom : List Char → Option (List Char × List Char)
  | [] => none
  | c :: cs =>
    if c = ')' then none
    -- `[^)]*?` takes a bracket only where the rest does not match
    else if c = '[' then (bracketWindow cs).or (windowFrom cs)
    else windowFrom cs

/-- `RATE_WINDOW_RE.captures_iter`: the next match is looked for behind the last one. -/
def rateWindowsLoop (wide : Char → Bool) : ℕ → List Char → List (List Char × List Char)
  | 0, _ => []
  | fuel + 1, cs =>
    match (calls (Pattern.isWord wide) cs).head? with
    | none => []
    | some (name, rest) =>
      if name ∈ rateFns then
        match windowFrom rest with
        | some (window, left) => (name, window) :: rateWindowsLoop wide fuel left
        | none => rateWindowsLoop wide fuel rest
      else rateWindowsLoop wide fuel rest

/-- The functions and windows that `RATE_WINDOW_RE` finds. -/
def rateWindows (wide : Char → Bool) (expr : List Char) : List (List Char × List Char) :=
  rateWindowsLoop wide (expr.length + 1) expr

/-- Rule 4. -/
def windowFindings (wide : Char → Bool) (expr : List Char) : List (RuleId × Message) :=
  (rateWindows wide expr).filterMap fun p =>
    if Text.trim p.2 ∈ allowedWindows then none
    else some (.rateWindow, .hardCodedWindow p.1 (Text.trim p.2))

/-! ## The metrics -/

/-- The prefixes of `CANONICAL_SERVICES` (common/services.rs:24). -/
def canonicalPrefixes : List (List Char) :=
  ["ac".toList, "gc".toList, "mc".toList, "mh".toList]

/-- `SERVICE_METRIC_PREFIX_RE` in a word: only at the start of a word there is a boundary
    in front of a letter. -/
def metricRef (word : List Char) : Option (List Char) :=
  canonicalPrefixes.findSome? fun pre =>
    match Text.stripPrefix word (pre ++ ['_']) with
    | some (c :: cs) =>
      if c.isLower then
        some (pre ++ '_' :: c :: cs.takeWhile fun d => d.isLower || d.isDigit || d = '_')
      else none
    | _ => none

/-- `metric_refs`. -/
def metricRefs (wide : Char → Bool) (expr : List Char) : List (List Char) :=
  ((words (Pattern.isWord wide) expr).filterMap metricRef).dedup

/-- `HIST_SUFFIXES` (dashboard_panels.rs:37). -/
def histSuffixes : List (List Char) := ["_bucket".toList, "_sum".toList, "_count".toList]

/-- `strip_hist_suffix` (dashboard_panels.rs:204). -/
def stripHistSuffix (metric : List Char) : List Char × Option (List Char) :=
  (histSuffixes.findSome? fun suf =>
    (Text.stripSuffix metric suf).map fun base => (base, some suf)).getD (metric, none)

/-- The name that the code and the catalog are asked for. -/
def canonical (mref : List Char) : List Char :=
  if (stripHistSuffix mref).2.isSome then (stripHistSuffix mref).1 else mref

/-- The type of a metric, by its name with or without a suffix. -/
def declaredType (ms : Metrics) (mref : List Char) : Option MacroKind :=
  (ms.types mref).or (ms.types (stripHistSuffix mref).1)

/-- Rule 1: the finding for a metric, if it is used against its type. -/
def misuse (wide : Char → Bool) (ms : Metrics) (expr mref : List Char) :
    Option (List (RuleId × Message)) :=
  match declaredType ms mref with
  | some .counter =>
    (metricInsideFn wide expr mref rateFns).map fun inside =>
      if inside then [] else [(.counterMisuse, .counterUnwrapped mref)]
  | some .gauge =>
    (metricInsideFn wide expr mref rateFns).map fun inside =>
      if inside then [(.gaugeMisuse, .gaugeWrapped mref)] else []
  | some .histogram =>
    let (base, suf) := stripHistSuffix mref
    if suf = some "_bucket".toList then
      (metricInsideFn wide expr mref ["rate".toList, "irate".toList]).map fun inside =>
        if inside then [] else [(.histogramMisuse, .bucketUnwrapped mref base)]
    else if suf.isSome then
      (metricInsideFn wide expr mref rateFns).map fun inside =>
        if inside then [] else [(.histogramMisuse, .seriesUnwrapped mref)]
    else some []
  | _ => some []

/-- The findings for a metric of an expression; nothing where `metric_inside_fn` panics. -/
def checkMetric (wide : Char → Bool) (ms : Metrics) (ignored : Bool) (expr mref : List Char) :
    Option (List (RuleId × Message)) :=
  if ms.types (canonical mref) = none then some [(.metricNotInCode, .notInCode mref)]
  else
    let undocumented :=
      if ms.catalog (canonical mref) then [] else [(.metricNotInCatalog, .notInCatalog mref)]
    if ignored then some undocumented
    else (misuse wide ms expr mref).map fun found => undocumented ++ found

/-- The findings for an expression (dashboard_panels.rs:517-654). -/
def checkExpr (wide : Char → Bool) (ms : Metrics) (isSlo ignored : Bool) (expr : List Char) :
    Option (List (RuleId × Message)) :=
  ((metricRefs wide expr).mapM (checkMetric wide ms ignored expr)).map fun found =>
    (if isSlo || ignored then [] else windowFindings wide expr) ++ found.flatten

/-! ## The dashboard -/

/-- The rules for expressions are for this panel. -/
def Panel.checked (panel : Panel) : Bool :=
  panel.kind ≠ "row".toList && panel.kind ≠ "logs".toList &&
    !panel.dsType.any fun ds => ds.map Char.toLower = "loki".toList

/-- The findings for the expressions of a panel. -/
def checkPanel (wide : Char → Bool) (ms : Metrics) (isSlo : Bool) (file : List Char)
    (panel : Panel) : Option (List Finding) :=
  if panel.checked then
    (panel.exprs.mapM (checkExpr wide ms isSlo panel.ignored)).map fun found =>
      found.flatten.map fun p => ⟨file, panel.id, panel.title, p.1, p.2⟩
  else some []

/-- `check_dashboard` (dashboard_panels.rs:397) for expressions, over the panels that
    `walk_panels` lists. -/
def checkDashboard (wide : Char → Bool) (ms : Metrics) (isSlo : Bool) (file : List Char)
    (panels : List Panel) : Option (List Finding) :=
  (panels.mapM (checkPanel wide ms isSlo file)).map List.flatten

theorem mem_flatten_of_mapM {α β : Type} {g : α → Option (List β)} {as : List α}
    {bss : List (List β)} (h : as.mapM g = some bss) (b : β) :
    b ∈ bss.flatten ↔ ∃ a ∈ as, ∃ bs, g a = some bs ∧ b ∈ bs := by
  induction as generalizing bss with
  | nil =>
    obtain rfl : [] = bss := Option.some.inj h
    simp
  | cons a as ih =>
    rw [List.mapM_cons] at h
    obtain ⟨bs, hbs, h⟩ := Option.bind_eq_some_iff.mp h
    obtain ⟨bss', hbss', h⟩ := Option.bind_eq_some_iff.mp h
    obtain rfl : bs :: bss' = bss := Option.some.inj h
    rw [List.flatten_cons, List.mem_append, ih hbss', List.exists_mem_cons_iff, hbs]
    simp

theorem exists_eq_some_of_mapM {α β : Type} {g : α → Option β} {as : List α} {bs : List β}
    (h : as.mapM g = some bs) {a : α} (ha : a ∈ as) : ∃ b, g a = some b := by
  induction as generalizing bs with
  | nil => cases ha
  | cons a' as ih =>
    rw [List.mapM_cons] at h
    obtain ⟨b, hb, h⟩ := Option.bind_eq_some_iff.mp h
    obtain ⟨bs', hbs', -⟩ := Option.bind_eq_some_iff.mp h
    obtain rfl | ha := List.mem_cons.mp ha
    · exact ⟨b, hb⟩
    · exact ih hbs' ha

/-- A finding of a dashboard is one of an expression of a panel that is checked. -/
theorem mem_checkDashboard_iff {wide : Char → Bool} {ms : Metrics} {isSlo : Bool}
    {file : List Char} {panels : List Panel} {findings : List Finding} {f : Finding}
    (h : checkDashboard wide ms isSlo file panels = some findings) :
    f ∈ findings ↔ ∃ panel ∈ panels, panel.checked = true ∧ ∃ expr ∈ panel.exprs, ∃ found,
      checkExpr wide ms isSlo panel.ignored expr = some found ∧ ∃ p ∈ found,
        f = ⟨file, panel.id, panel.title, p.1, p.2⟩ := by
  obtain ⟨found, hfound, rfl⟩ := Option.map_eq_some_iff.mp h
  rw [mem_flatten_of_mapM hfound]
  refine exists_congr fun panel => and_congr_right fun hpanel => ?_
  obtain ⟨fs, hfs⟩ := exists_eq_some_of_mapM hfound hpanel
  rw [hfs]
  unfold checkPanel at hfs
  cases hchecked : panel.checked with
  | false =>
    rw [if_neg (by simp [hchecked])] at hfs
    obtain rfl := Option.some.inj hfs
    simp
  | true =>
    rw [if_pos hchecked] at hfs
    obtain ⟨pss, hpss, rfl⟩ := Option.map_eq_some_iff.mp hfs
    rw [and_iff_right rfl]
    constructor
    · rintro ⟨_, heq, hf⟩
      obtain rfl := Option.some.inj heq
      obtain ⟨p, hp, rfl⟩ := List.mem_map.mp hf
      obtain ⟨expr, hexpr, ps, hps, hp⟩ := (mem_flatten_of_mapM hpss p).mp hp
      exact ⟨expr, hexpr, ps, hps, p, hp, rfl⟩
    · rintro ⟨expr, hexpr, ps, hps, p, hp, rfl⟩
      refine ⟨_, rfl, List.mem_map.mpr ⟨p, ?_, rfl⟩⟩
      exact (mem_flatten_of_mapM hpss p).mpr ⟨expr, hexpr, ps, hps, hp⟩

end DarkTower.Guard.DashboardPanels
