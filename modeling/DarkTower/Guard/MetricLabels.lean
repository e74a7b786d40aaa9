import DarkTower.Guard.MetricScan
import DarkTower.Guard.PiiVocabulary
import Mathlib.Algebra.GroupWithZero.Nat
import Mathlib.Data.List.Flatten

/-!
# Labels of metrics (`dt-guard/src/metric_labels.rs`)

`check_source` looks at every invocation of a metrics macro in a source without comments: at
the name of the metric, at the keys of the labels and at their values. A `pii-safe` marker
on the line of the invocation or above it takes findings away; `markers` gives the reason
of the marker on a line.

* `checkSource_filter`, `checkSource_sublist`: markers take some of the `label_pii` findings
  away and have no other effect.
* `message_of_piiFindings`: those are the findings of Category B and of the denylisted
  prefixes.

`Debug` is the `{:?}` form of a text.
-/

namespace DarkTower.Guard

open DarkTower.Lib
open Pattern (Piece)

/-- `MAX_LITERAL_VALUE_LENGTH` (metric_labels.rs:32). -/
def maxLiteralValueLength : ℕ := 64

/-- The rules (metric_labels.rs:43-51) that `check_source` reports. -/
inductive RuleId
  | labelSecret
  | labelPii
  | labelNaming
  | literalValueLength
  | unboundedValue
  | metricNameLength
  | metricNameNaming
  | parseError
deriving DecidableEq

/-- The name under which a rule is reported. -/
def RuleId.asStr : RuleId → String
  | labelSecret => "label_secret"
  | labelPii => "label_pii"
  | labelNaming => "label_naming"
  | literalValueLength => "literal_value_length"
  | unboundedValue => "unbounded_value"
  | metricNameLength => "metric_name_length"
  | metricNameNaming => "metric_name_naming"
  | parseError => "parse_error"

/-- The messages of the findings, with what is written into them. -/
inductive Message
  | unclosed (kind : MacroKind)
  | nameTooLong (lit : List Char) (len : ℕ)
  | nameNotSnakeCase (lit : List Char)
  | noFatarrow (arg : List Char)
  | keyUppercase (key : List Char)
  | keyCharacters (key : List Char)
  | keyNotSnakeCase (key : List Char)
  | secretToken (key tok : List Char)
  | denylistedPrefix (key pre : List Char)
  | piiToken (key tok : List Char)
  | valueTooLong (len : ℕ)
  | unbounded (matched : List Char) (pattern : String)
deriving DecidableEq

/-- The text of a message. -/
def Message.text (debug : List Char → String) : Message → String
  | unclosed kind =>
    "could not find matching ')' for " ++ String.ofList kind.asStr ++ "! invocation"
  | nameTooLong lit len =>
    "metric name " ++ debug lit ++ " is " ++ toString len ++ " chars (> 64 char limit)"
  | nameNotSnakeCase lit =>
    "metric name " ++ debug lit ++ " is not snake_case (must match ^[a-z_][a-z0-9_]*$)"
  | noFatarrow arg => "could not find '=>' in label arg " ++ debug arg
  | keyUppercase key =>
    "label key " ++ debug key ++ " contains uppercase; must be snake_case lowercase"
  | keyCharacters key =>
    "label key " ++ debug key ++ " contains disallowed character(s); use snake_case [a-z0-9_]"
  | keyNotSnakeCase key => "label key " ++ debug key ++ " is not a valid snake_case identifier"
  | secretToken key tok =>
    "label key " ++ debug key ++ " matches secret denylist token " ++ debug tok ++
      " (Category A, non-bypassable per ADR-0011) — never place credentials in metric labels; " ++
      "remove the label"
  | denylistedPrefix key pre =>
    "label key " ++ debug key ++ " has denylisted prefix " ++ debug pre ++
      " — the \x60raw_\x60 prefix signals an unsanitized identifier; rename or add " ++
      "\x60# pii-safe: <reason>\x60"
  | piiToken key tok =>
    "label key " ++ debug key ++ " matches PII denylist token " ++ debug tok ++
      " — use a hashed/opaque form (e.g., " ++ String.ofList key ++
      "_hash) or add \x60# pii-safe: <reason>\x60 on or above this line"
  | valueTooLong len =>
    "label value literal is " ++ toString len ++
      " chars (> 64) — label values are series dimensions; keep short"
  | unbounded matched pattern =>
    "label value expression contains " ++ debug matched ++ ": " ++ pattern

/-- The key that a message is about. -/
def Message.labelKey : Message → Option (List Char)
  | keyUppercase key | keyCharacters key | keyNotSnakeCase key | secretToken key _
  | denylistedPrefix key _ | piiToken key _ => some key
  | _ => none

/-- `Finding` (metric_labels.rs:685). -/
structure Finding where
  file : List Char
  line : ℕ
  ruleId : RuleId
  message : Message
deriving DecidableEq

/-- `SNAKE_CASE_IDENT_RE` (metric_labels.rs:97). -/
def isSnakeCaseIdent : List Char → Bool
  | [] => false
  | c :: cs => (c.isLower || c = '_') && cs.all fun c => c.isLower || c.isDigit || c = '_'

/-- `naming_hygiene_issues` (metric_labels.rs:589). -/
def namingHygieneIssues (label : List Char) : List Message :=
  if label = [] then []
  else
    (if label.any Char.isUpper then [.keyUppercase label] else []) ++
    (if '-' ∈ label ∨ '.' ∈ label ∨ ' ' ∈ label then [.keyCharacters label] else []) ++
    if isSnakeCaseIdent label then [] else [.keyNotSnakeCase label]

/-- `UNBOUNDED_VALUE_PATTERNS` (metric_labels.rs:116). -/
def unboundedValuePatterns : List (String × List Piece) :=
  [("Uuid::* — per-request UUIDs blow cardinality",
      [.boundary, .text "Uuid".toList, .spaces, .text "::".toList, .spaces,
        .oneOf ["new_v4".toList, "from_u128".toList, "parse_str".toList], .boundary]),
    ("Uuid::to_string() — per-request UUIDs blow cardinality",
      [.boundary, .text "Uuid".toList, .spaces, .text ['('], .spaces, .text [')'], .spaces,
        .text ['.'], .spaces, .text "to_string".toList, .boundary]),
    ("raw request_path — use a normalizer to bounded set",
      [.boundary, .text "request_path".toList, .boundary]),
    ("user_email in label value — PII and unbounded",
      [.boundary, .text "user_email".toList, .boundary]),
    ("SystemTime::now() — unbounded time values",
      [.boundary, .text "SystemTime".toList, .spaces, .text "::".toList, .spaces,
        .text "now".toList, .boundary])]

/-- `str::len`. -/
def byteLen (s : List Char) : ℕ := (s.map Char.utf8Size).sum

/-- `literal_value_too_long` (metric_labels.rs:624). -/
def literalValueTooLong (valueExpr : List Char) : Option ℕ :=
  (parseStringLiteral valueExpr).bind fun lit =>
    if maxLiteralValueLength < byteLen lit then some (byteLen lit) else none

variable (wide : Char → Bool)

/-- `unbounded_value_hit` (metric_labels.rs:612). -/
def unboundedValueHit (valueExpr : List Char) : Option (String × List Char) :=
  if valueExpr = [] then none
  else unboundedValuePatterns.findSome? fun p =>
    (Pattern.find wide p.2 none valueExpr).map fun matched => (p.1, matched)

/-- `invocation_is_pii_safe` (metric_labels.rs:668). -/
def invocationIsPiiSafe (markers : ℕ → Option (List Char)) (startLineno : ℕ) :
    Option (List Char) :=
  (markers startLineno).or (if 0 < startLineno then markers (startLineno - 1) else none)

/-! ## Findings -/

/-- What is reported about the name of the metric. -/
def nameFindings (file : List Char) (line : ℕ) (arg : List Char) : List Finding :=
  match parseStringLiteral arg with
  | none => []
  | some lit =>
    (if maxLiteralValueLength < byteLen lit then
      [⟨file, line, .metricNameLength, .nameTooLong lit (byteLen lit)⟩] else []) ++
    if lit ≠ [] ∧ ¬ isSnakeCaseIdent lit then
      [⟨file, line, .metricNameNaming, .nameNotSnakeCase lit⟩] else []

/-- What is reported about the classification of a key. -/
def piiFindings (file : List Char) (line : ℕ) (piiSafe : Option (List Char)) (key : List Char) :
    List Finding :=
  match piiTokenHit key with
  | some (tok, .a) => [⟨file, line, .labelSecret, .secretToken key tok⟩]
  | some (tok, .denyPrefix) =>
    if piiSafe = none then [⟨file, line, .labelPii, .denylistedPrefix key tok⟩] else []
  | some (tok, .b) => if piiSafe = none then [⟨file, line, .labelPii, .piiToken key tok⟩] else []
  | none => []

/-- What is reported about a value. -/
def valueFindings (file : List Char) (line : ℕ) (valExpr : List Char) : List Finding :=
  ((literalValueTooLong valExpr).toList.map fun len =>
    ⟨file, line, .literalValueLength, .valueTooLong len⟩) ++
  ((unboundedValueHit wide valExpr).toList.map fun hit =>
    ⟨file, line, .unboundedValue, .unbounded hit.2 hit.1⟩)

/-- What is reported about an argument behind the name (metric_labels.rs:882-977). -/
def argFindings (file : List Char) (inv : MacroInvocation) (piiSafe : Option (List Char))
    (arg : List Char) : List Finding :=
  match findTopLevelFatarrow arg with
  | none =>
    if ¬ inv.kind.isDescribe ∧ arg ≠ [] ∧
        (stringCapture stringLiteralRe (Text.trim arg)).isNone then
      [⟨file, inv.startLineno, .parseError, .noFatarrow arg⟩]
    else []
  | some (before, behind) =>
    if inv.kind.isDescribe then []
    else
      (match parseStringLiteral (Text.trim before) with
        | none => []
        | some key =>
          ((namingHygieneIssues key).map fun msg => ⟨file, inv.startLineno, .labelNaming, msg⟩) ++
            piiFindings file inv.startLineno piiSafe key) ++
      valueFindings wide file inv.startLineno (Text.trim behind)

/-- What is reported about an invocation. -/
def invocationFindings (file : List Char) (markers : ℕ → Option (List Char))
    (inv : MacroInvocation) : List Finding :=
  match inv.body with
  | none => [⟨file, inv.startLineno, .parseError, .unclosed inv.kind⟩]
  | some body =>
    match splitTopLevelArgs body with
    | [] => []
    | name :: args =>
      nameFindings file inv.startLineno name ++
        args.flatMap
          (argFindings wide file inv (invocationIsPiiSafe markers inv.startLineno))

/-- `check_source` (metric_labels.rs:827): what is added to the findings. -/
def checkSource (src relPath : List Char) (markers : ℕ → Option (List Char)) : List Finding :=
  (findMacroInvocations wide src).flatMap (invocationFindings wide relPath markers)

variable {wide}

theorem mem_checkSource {src relPath : List Char} {markers : ℕ → Option (List Char)}
    {inv : MacroInvocation} {f : Finding} (hinv : inv ∈ findMacroInvocations wide src)
    (hf : f ∈ invocationFindings wide relPath markers inv) :
    f ∈ checkSource wide src relPath markers :=
  List.mem_flatMap.mpr ⟨inv, hinv, hf⟩

/-- What is reported about the classification of a key of an invocation is reported. -/
theorem mem_invocationFindings {relPath body key : List Char}
    {markers : ℕ → Option (List Char)} {inv : MacroInvocation} {f : Finding}
    (hbody : inv.body = some body) (hkind : inv.kind.isDescribe = false)
    (hkey : key ∈ labelKeys body)
    (hf : f ∈ piiFindings relPath inv.startLineno
      (invocationIsPiiSafe markers inv.startLineno) key) :
    f ∈ invocationFindings wide relPath markers inv := by
  obtain ⟨arg, harg, hlabel⟩ := List.mem_filterMap.mp hkey
  obtain ⟨⟨before, behind⟩, harrow, hparse⟩ := Option.bind_eq_some_iff.mp hlabel
  cases hargs : splitTopLevelArgs body with
  | nil =>
    rw [hargs] at harg
    exact absurd harg List.not_mem_nil
  | cons name args =>
    rw [hargs, List.tail_cons] at harg
    simp only [invocationFindings, hbody, hargs]
    apply List.mem_append_right
    refine List.mem_flatMap.mpr ⟨arg, harg, ?_⟩
    simp only [argFindings, harrow, hkind, hparse]
    exact List.mem_append_left _ (List.mem_append_right _ hf)

/-! ## Markers -/

/-- What a marker may take away: the findings of Category B. -/
def Finding.isCategoryB (f : Finding) : Bool :=
  match f.message with
  | .piiToken _ _ => true
  | _ => false

theorem piiFindings_filter (file : List Char) (line : ℕ) (piiSafe piiSafe' : Option (List Char))
    (key : List Char) :
    (piiFindings file line piiSafe key).filter (fun f => f.ruleId ≠ .labelPii) =
      (piiFindings file line piiSafe' key).filter fun f => f.ruleId ≠ .labelPii := by
  unfold piiFindings
  split
  case h_1 => rfl
  case h_2 => split_ifs <;> rfl
  case h_3 => split_ifs <;> rfl
  case h_4 => rfl

theorem piiFindings_sublist (file : List Char) (line : ℕ) (piiSafe : Option (List Char))
    (key : List Char) :
    (piiFindings file line piiSafe key).Sublist (piiFindings file line none key) := by
  unfold piiFindings
  split
  case h_1 => exact List.Sublist.refl _
  case h_2 =>
    rw [if_pos rfl]
    split_ifs
    · exact List.Sublist.refl _
    · exact List.nil_sublist _
  case h_3 =>
    rw [if_pos rfl]
    split_ifs
    · exact List.Sublist.refl _
    · exact List.nil_sublist _
  case h_4 => exact List.Sublist.refl _

theorem argFindings_filter (file : List Char) (inv : MacroInvocation)
    (piiSafe piiSafe' : Option (List Char)) (arg : List Char) :
    (argFindings wide file inv piiSafe arg).filter (fun f => f.ruleId ≠ .labelPii) =
      (argFindings wide file inv piiSafe' arg).filter fun f => f.ruleId ≠ .labelPii := by
  unfold argFindings
  split
  case h_1 => rfl
  case h_2 =>
    split
    case isTrue => rfl
    case isFalse =>
      split
      case h_1 => rfl
      case h_2 key hkey =>
        simp only [List.filter_append, piiFindings_filter file inv.startLineno piiSafe piiSafe' key]

theorem argFindings_sublist (file : List Char) (inv : MacroInvocation)
    (piiSafe : Option (List Char)) (arg : List Char) :
    (argFindings wide file inv piiSafe arg).Sublist (argFindings wide file inv none arg) := by
  unfold argFindings
  split
  case h_1 => exact List.Sublist.refl _
  case h_2 =>
    split
    case isTrue => exact List.Sublist.refl _
    case isFalse =>
      split
      case h_1 => exact List.Sublist.refl _
      case h_2 key hkey =>
        exact ((List.Sublist.refl _).append (piiFindings_sublist file _ piiSafe key)).append
          (List.Sublist.refl _)

theorem invocationFindings_filter (file : List Char) (markers markers' : ℕ → Option (List Char))
    (inv : MacroInvocation) :
    (invocationFindings wide file markers inv).filter (fun f => f.ruleId ≠ .labelPii) =
      (invocationFindings wide file markers' inv).filter fun f => f.ruleId ≠ .labelPii := by
  unfold invocationFindings
  split
  case h_1 => rfl
  case h_2 =>
    split
    case h_1 => rfl
    case h_2 name args hargs =>
      rw [List.filter_append, List.filter_append, List.filter_flatMap, List.filter_flatMap]
      exact congrArg _ (List.flatMap_congr fun arg _ => argFindings_filter file inv _ _ arg)

theorem invocationFindings_sublist (file : List Char) (markers : ℕ → Option (List Char))
    (inv : MacroInvocation) :
    (invocationFindings wide file markers inv).Sublist
      (invocationFindings wide file (fun _ => none) inv) := by
  have hnone : invocationIsPiiSafe (fun _ => none) inv.startLineno = none := by
    simp [invocationIsPiiSafe]
  unfold invocationFindings
  split
  case h_1 => exact List.Sublist.refl _
  case h_2 =>
    split
    case h_1 => exact List.Sublist.refl _
    case h_2 name args hargs =>
      rw [hnone]
      apply (List.Sublist.refl _).append
      exact List.Sublist.flatMap_right _ fun arg _ => argFindings_sublist file inv _ arg

theorem ruleId_of_nameFindings {file arg : List Char} {line : ℕ} {f : Finding}
    (hf : f ∈ nameFindings file line arg) : f.ruleId ≠ .labelPii := by
  unfold nameFindings at hf
  split at hf
  case h_1 => exact absurd hf List.not_mem_nil
  case h_2 =>
    rw [List.mem_append, List.mem_ite_nil_right, List.mem_ite_nil_right, List.mem_singleton,
      List.mem_singleton] at hf
    obtain ⟨-, rfl⟩ | ⟨-, rfl⟩ := hf <;> nofun

theorem ruleId_of_valueFindings {file val : List Char} {line : ℕ} {f : Finding}
    (hf : f ∈ valueFindings wide file line val) : f.ruleId ≠ .labelPii := by
  rw [valueFindings, List.mem_append, List.mem_map, List.mem_map] at hf
  obtain ⟨_, -, rfl⟩ | ⟨_, -, rfl⟩ := hf <;> nofun

theorem mem_piiFindings_of_arg {file arg : List Char} {inv : MacroInvocation}
    {piiSafe : Option (List Char)} {f : Finding} (hf : f ∈ argFindings wide file inv piiSafe arg)
    (hrule : f.ruleId = .labelPii) :
    ∃ key, f ∈ piiFindings file inv.startLineno piiSafe key := by
  unfold argFindings at hf
  split at hf
  case h_1 =>
    obtain ⟨-, hf⟩ := List.mem_ite_nil_right.mp hf
    rw [List.mem_singleton.mp hf] at hrule
    cases hrule
  case h_2 =>
    obtain ⟨-, hf⟩ := List.mem_ite_nil_left.mp hf
    obtain hkey | hvalue := List.mem_append.mp hf
    · split at hkey
      case h_1 => exact absurd hkey List.not_mem_nil
      case h_2 key _ =>
        obtain hnaming | hpii := List.mem_append.mp hkey
        · obtain ⟨_, -, rfl⟩ := List.mem_map.mp hnaming
          cases hrule
        · exact ⟨key, hpii⟩
    · exact absurd hrule (ruleId_of_valueFindings hvalue)

/-- Markers change nothing but the `label_pii` findings. -/
theorem checkSource_filter (wide : Char → Bool) (src relPath : List Char)
    (markers markers' : ℕ → Option (List Char)) :
    (checkSource wide src relPath markers).filter (fun f => f.ruleId ≠ .labelPii) =
      (checkSource wide src relPath markers').filter fun f => f.ruleId ≠ .labelPii := by
  rw [checkSource, checkSource, List.filter_flatMap, List.filter_flatMap]
  exact List.flatMap_congr fun inv _ => invocationFindings_filter relPath markers markers' inv

/-- A marker only takes findings away. -/
theorem checkSource_sublist (wide : Char → Bool) (src relPath : List Char)
    (markers : ℕ → Option (List Char)) :
    (checkSource wide src relPath markers).Sublist
      (checkSource wide src relPath fun _ => none) :=
  List.Sublist.flatMap_right _ fun inv _ => invocationFindings_sublist relPath markers inv

/-- What is reported as `label_pii` is reported of a key that no marker covers. -/
theorem message_of_piiFindings {file key : List Char} {line : ℕ} {piiSafe : Option (List Char)}
    {f : Finding} (hf : f ∈ piiFindings file line piiSafe key) (hrule : f.ruleId = .labelPii) :
    piiSafe = none ∧ ((∃ pre, f.message = .denylistedPrefix key pre ∧ HasDenyPrefix key) ∨
      f.isCategoryB = true) := by
  unfold piiFindings at hf
  split at hf
  case h_1 =>
    rw [List.mem_singleton.mp hf] at hrule
    cases hrule
  case h_2 tok htok =>
    obtain ⟨hnone, hf⟩ := List.mem_ite_nil_right.mp hf
    refine ⟨hnone, .inl ⟨tok, ?_, hasDenyPrefix_of_hit htok⟩⟩
    rw [List.mem_singleton.mp hf]
  case h_3 =>
    obtain ⟨hnone, hf⟩ := List.mem_ite_nil_right.mp hf
    refine ⟨hnone, .inr ?_⟩
    rw [List.mem_singleton.mp hf]
    rfl
  case h_4 => exact absurd hf List.not_mem_nil

/-- What is reported as `label_pii` is reported about the key of a label. -/
theorem mem_piiFindings {src relPath : List Char} {markers : ℕ → Option (List Char)} {f : Finding}
    (hf : f ∈ checkSource wide src relPath markers) (hrule : f.ruleId = .labelPii) :
    ∃ line key, f ∈ piiFindings relPath line (invocationIsPiiSafe markers line) key := by
  obtain ⟨inv, -, hf⟩ := List.mem_flatMap.mp hf
  unfold invocationFindings at hf
  split at hf
  case h_1 =>
    rw [List.mem_singleton.mp hf] at hrule
    cases hrule
  case h_2 body hbody =>
    split at hf
    case h_1 => exact absurd hf List.not_mem_nil
    case h_2 name args hargs =>
      obtain hname | harg := List.mem_append.mp hf
      · exact absurd hrule (ruleId_of_nameFindings hname)
      · obtain ⟨arg, -, harg⟩ := List.mem_flatMap.mp harg
        obtain ⟨key, hkey⟩ := mem_piiFindings_of_arg harg hrule
        exact ⟨inv.startLineno, key, hkey⟩

end DarkTower.Guard
