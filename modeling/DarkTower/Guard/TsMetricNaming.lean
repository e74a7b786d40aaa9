import DarkTower.Lib.Nesting
import DarkTower.Lib.Text

/-!
# Metric names in TypeScript (`dt-guard/src/ts_metric_naming.rs`)

`find_meter_calls` looks for calls as `.createCounter(`. It walks over the characters behind
the parenthesis, skips comments, and takes the first string literal before the call is
closed for the name. `scan_file` reports the names that are not as they should be, and
calls without a name.

The name should be the first argument: one static literal, with nothing but white space and
comments between the parenthesis, it, and a comma or the end (`NamedByFirst`).
`CallSite.sound_iff`: a call is left without a report only if it is like that, iff a static
literal with a good name that comes first in the call is the first argument
(`FirstLiteralIsArgument`).

All the characters that the source compares a byte with are ASCII, so the walk over bytes is
one over characters. Line comments end at `\n`: that TypeScript also ends them at a carriage
return or at U+2028 and U+2029 is left out, and so is the `i32` of the depth, which no file of
less than 2 GiB overflows.
-/

namespace DarkTower.Guard.TsMetricNaming

open DarkTower.Lib
open Nesting (Keeps delta height)

/-! ## The source -/

/-- The factories of `METER_OPENER_RE`. -/
def factories : List (List Char) :=
  ["createCounter".toList, "createHistogram".toList, "createUpDownCounter".toList,
    "createGauge".toList, "createObservableCounter".toList, "createObservableGauge".toList,
    "createObservableUpDownCounter".toList]

/-- `METER_OPENER_RE` at a place of the text: what follows the parenthesis. -/
def opener (cs : List Char) : Option (List Char) :=
  match cs with
  | '.' :: cs =>
    factories.findSome? fun factory =>
      (Text.stripPrefix cs factory).bind fun after =>
        match Text.trimStart after with
        | '(' :: rest => some rest
        | _ => none
  | _ => none

/-- `METER_OPENER_RE.find_iter`, with the lines: a match has its one dot in front, so no two
    of them overlap. -/
def openersFrom (line : ℕ) : List Char → List (ℕ × List Char)
  | [] => []
  | c :: cs =>
    ((opener (c :: cs)).map fun rest => (line, rest)).toList ++
      openersFrom (if c = '\n' then line + 1 else line) cs

/-- `[a-z0-9]`. -/
def isLowerOrDigit (c : Char) : Bool := c.isLower || c.isDigit

/-- `R26_NAME_RE`: `^dt_client_[a-z]([a-z0-9_]{0,52}[a-z0-9])?$`. -/
def isR26Name (name : List Char) : Bool :=
  match Text.stripPrefix name "dt_client_".toList with
  | some (c :: cs) =>
    c.isLower && (cs = [] || (cs.length ≤ 53 &&
      cs.dropLast.all (fun d => isLowerOrDigit d || d = '_') && cs.getLast?.any isLowerOrDigit))
  | _ => false

/-- The quotes; the last one is the backquote. -/
def isQuote (c : Char) : Bool := c = '"' || c = '\'' || c = Char.ofNat 96

/-- The text of a literal behind its quote, and what follows the closing quote. -/
def literal (quote : Char) : List Char → List Char × List Char
  | [] => ([], [])
  | c :: cs =>
    if c = quote then ([], cs)
    else if c = '\\' then
      match cs with
      | [] => ([c], [])
      | d :: cs => ((c :: d :: (literal quote cs).1), (literal quote cs).2)
    else (c :: (literal quote cs).1, (literal quote cs).2)

/-- `has_interpolation`, for the text of a template literal. -/
def hasInterpolation : List Char → Bool
  | [] => false
  | c :: cs =>
    if c = '\\' then
      match cs with
      | [] => false
      | _ :: cs => hasInterpolation cs
    else (c = '$' && cs.head? = some '\x7b') || hasInterpolation cs

/-- `found_name` after a first literal. -/
def literalName (quote : Char) (body : List Char) : Option (List Char) :=
  if (quote = Char.ofNat 96 && hasInterpolation body) || body = [] then none else some body

/-- What follows a block comment, behind its `/*`; the source looks at the last character
    again if the comment is not closed. -/
def skipBlock : List Char → List Char
  | [] => []
  | [c] => [c]
  | c :: d :: cs => if c = '*' ∧ d = '/' then cs else skipBlock (d :: cs)

/-- The walk over a call; `found` is there from the first literal on. -/
def walk : ℕ → ℕ → Option (Option (List Char)) → List Char → Option (List Char)
  | 0, _, found, _ => found.join
  | _ + 1, _, found, [] => found.join
  | fuel + 1, depth, found, c :: cs =>
    if c = '/' ∧ cs.head? = some '/' then walk fuel depth found (cs.dropWhile (· ≠ '\n'))
    else if c = '/' ∧ cs.head? = some '*' then walk fuel depth found (skipBlock cs.tail)
    else if isQuote c then
      walk fuel depth (found.or (some (literalName c (literal c cs).1))) (literal c cs).2
    else if c = '(' then walk fuel (depth + 1) found cs
    else if c = ')' then if depth = 1 then found.join else walk fuel (depth - 1) found cs
    else walk fuel depth found cs

/-- `MeterCall`. -/
structure MeterCall where
  name : Option (List Char)
  startLine : ℕ
deriving DecidableEq

/-- The call with this line and this text behind its parenthesis. -/
def meterCall (line : ℕ) (rest : List Char) : MeterCall :=
  ⟨walk (rest.length + 1) 1 none rest, line⟩

/-- `find_meter_calls` (ts_metric_naming.rs:112). -/
def findMeterCalls (src : List Char) : List MeterCall :=
  (openersFrom 1 src).map fun o => meterCall o.1 o.2

/-- `Hit` (ts_metric_naming.rs:84). -/
structure Hit where
  file : List Char
  line : ℕ
  name : List Char
deriving DecidableEq

/-- What `scan_file` makes of a call. -/
def hit (path : List Char) (call : MeterCall) : Option Hit :=
  if isR26Name (call.name.getD []) then none
  else
    some ⟨path, call.startLine,
      call.name.getD "<non-literal or interpolated metric name>".toList⟩

/-- `scan_file` (ts_metric_naming.rs:220). -/
def scanFile (path content : List Char) : List Hit := (findMeterCalls content).filterMap (hit path)

/-! ## Calls -/

/-- A piece of the arguments of a call. -/
inductive Token
  /-- A character outside of comments and literals; brackets and commas too. -/
  | code (c : Char)
  /-- `//` to the end of the line. -/
  | line (body : List Char)
  | block (body : List Char)
  /-- A string in single or double quotes. -/
  | str (quote : Char) (body : List Char)
  /-- A template without interpolation. -/
  | template (body : List Char)
  /-- A template with interpolation: what stands in front of its first hole, and anything
      behind it, other templates too. -/
  | interpolated (head behind : List Char)
deriving DecidableEq

/-- The text of a literal has no quote that is not escaped, and escapes none behind it. -/
def inQuotes (quote : Char) : (escaped : Bool) → List Char → Bool
  | escaped, [] => !escaped
  | true, _ :: cs => inQuotes quote false cs
  | false, c :: cs => c ≠ quote && inQuotes quote (c = '\\') cs

namespace Token

/-- The text of a token. -/
def text : Token → List Char
  | code c => [c]
  | line body => '/' :: '/' :: (body ++ ['\n'])
  | block body => '/' :: '*' :: (body ++ ['*', '/'])
  | str quote body => quote :: (body ++ [quote])
  | template body => Char.ofNat 96 :: (body ++ [Char.ofNat 96])
  | interpolated head behind =>
    Char.ofNat 96 :: (head ++ '$' :: '\x7b' :: (behind ++ [Char.ofNat 96]))

/-- The token ends where its text does. -/
def Formed : Token → Prop
  | code c => isQuote c = false
  | line body => '\n' ∉ body
  | block body => ¬['*', '/'] <:+: body
  | str quote body => (quote = '"' ∨ quote = '\'') ∧ inQuotes quote false body = true
  | template body => inQuotes (Char.ofNat 96) false body = true ∧ hasInterpolation body = false
  | interpolated head _ => inQuotes (Char.ofNat 96) false head = true

/-- The token stands for nothing. -/
def isTrivia : Token → Bool
  | code c => Text.isWhitespace c
  | line _ | block _ => true
  | _ => false

/-- The token is a string literal. -/
def isLiteral : Token → Bool
  | str .. | template _ | interpolated .. => true
  | _ => false

/-- The text of a static literal, which is its value if it has no escapes. -/
def staticText : Token → Option (List Char)
  | str _ body | template body => some body
  | _ => none

/-- What the token adds to the depth of the parentheses. -/
def parens : Token → List Char
  | code c => [c]
  | _ => []

end Token

/-- The text of tokens. -/
def textOf (ts : List Token) : List Char := ts.flatMap Token.text

/-- The parentheses of tokens. -/
def parensOf (ts : List Token) : List Char := ts.flatMap Token.parens

/-- Every token is formed, and no two of them make a comment. -/
def Formed (follow : List Char) : List Token → Prop
  | [] => True
  | t :: ts => t.Formed ∧
    (t = .code '/' → ∀ c ∈ (textOf ts ++ follow).head?, c ≠ '/' ∧ c ≠ '*') ∧ Formed follow ts

/-- A call of a factory somewhere in a source. -/
structure CallSite where
  before : List Char
  factory : List Char
  gap : List Char
  args : List Token
  after : List Char
  factory_mem : factory ∈ factories
  gap_spaces : ∀ c ∈ gap, Text.isWhitespace c = true
  formed : Formed [')'] args
  /-- The parentheses of the arguments are balanced. -/
  balanced : Keeps '(' ')' 0 (parensOf args) ∧ height '(' ')' (parensOf args) = 0

/-- The name of the metric is the first argument: one static literal, with a good name. -/
def NamedByFirst (args : List Token) : Prop :=
  ∃ pre lit post tail value, args = pre ++ lit :: (post ++ tail) ∧
    (∀ t ∈ pre, t.isTrivia = true) ∧ (∀ t ∈ post, t.isTrivia = true) ∧
    (tail = [] ∨ ∃ more, tail = .code ',' :: more) ∧
    lit.staticText = some value ∧ '\\' ∉ value ∧ isR26Name value = true

/-- If the first literal is static and has a good name, it is the first argument. -/
def FirstLiteralIsArgument (args : List Token) : Prop :=
  ∀ pre lit rest value, args = pre ++ lit :: rest → (∀ t ∈ pre, t.isLiteral = false) →
    lit.staticText = some value → isR26Name value = true →
      (∀ t ∈ pre, t.isTrivia = true) ∧ ∃ post tail, rest = post ++ tail ∧
        (∀ t ∈ post, t.isTrivia = true) ∧ (tail = [] ∨ ∃ more, tail = .code ',' :: more)

namespace CallSite

/-- What follows the parenthesis of the call. -/
def rest (site : CallSite) : List Char := textOf site.args ++ ')' :: site.after

/-- The file with the call. -/
def src (site : CallSite) : List Char :=
  site.before ++ '.' :: (site.factory ++ (site.gap ++ '(' :: site.rest))

/-- The call that the guard makes of it. -/
def call (site : CallSite) : MeterCall :=
  meterCall (site.before.count '\n' + 1) site.rest

/-- The guard sees the call, and leaves it without a report only if it is as it should be. -/
def Sound (site : CallSite) : Prop :=
  site.call ∈ findMeterCalls site.src ∧
    ∀ path, hit path site.call = none → NamedByFirst site.args

end CallSite

/-! ## Openers -/

theorem findSome?_eq {α β : Type} [DecidableEq α] {f : α → Option β} {a : α} {b : β} {as : List α}
    (ha : a ∈ as) (hf : ∀ x ∈ as, f x = if x = a then some b else none) :
    as.findSome? f = some b := by
  induction as with
  | nil => cases ha
  | cons x as ih =>
    obtain ⟨hx, has⟩ := List.forall_mem_cons.mp hf
    rw [List.findSome?_cons, hx]
    by_cases hxa : x = a
    · rw [if_pos hxa]
    · rw [if_neg hxa]
      exact ih ((List.mem_cons.mp ha).resolve_left (Ne.symm hxa)) has

theorem opener_factory {factory gap rest : List Char} (hfactory : factory ∈ factories)
    (hgap : ∀ c ∈ gap, Text.isWhitespace c = true) :
    opener ('.' :: (factory ++ (gap ++ '(' :: rest))) = some rest := by
  have hfactories : ∀ f ∈ factories, ∀ g ∈ factories, f <+: g → f = g := by decide +kernel
  have htrim : Text.trimStart (gap ++ '(' :: rest) = '(' :: rest :=
    Text.trimStart_append_cons hgap (by decide)
  refine findSome?_eq hfactory fun f hf => ?_
  by_cases heq : f = factory
  · rw [if_pos heq, heq]
    have hstrip : Text.stripPrefix (factory ++ (gap ++ '(' :: rest)) factory =
        some (gap ++ '(' :: rest) := by
      unfold Text.stripPrefix
      rw [if_pos (List.prefix_append _ _), List.drop_left]
    rw [hstrip, Option.bind_some, htrim]
    rfl
  · -- no factory starts with another one
    have hnone : Text.stripPrefix (factory ++ (gap ++ '(' :: rest)) f = none := by
      refine if_neg fun hpre => heq ?_
      obtain hpre | hpre := List.prefix_or_prefix_of_prefix hpre (List.prefix_append factory _)
      · exact hfactories f hf factory hfactory hpre
      · exact (hfactories factory hfactory f hf hpre).symm
    rw [if_neg heq, hnone]
    rfl

theorem mem_openersFrom {before cs rest : List Char} (line : ℕ) (h : opener cs = some rest) :
    (line + before.count '\n', rest) ∈ openersFrom line (before ++ cs) := by
  induction before generalizing line with
  | nil =>
    cases cs with
    | nil => cases h
    | cons c cs =>
      rw [List.nil_append, openersFrom, h]
      exact List.mem_append_left _ (List.mem_singleton_self _)
  | cons c before ih =>
    rw [List.cons_append, openersFrom]
    refine List.mem_append_right _ ?_
    by_cases hc : c = '\n'
    · rw [if_pos hc, hc, List.count_cons_self, Nat.add_comm (before.count _), ← Nat.add_assoc]
      exact ih (line + 1)
    · rw [if_neg hc, List.count_cons_of_ne (by simpa using hc)]
      exact ih line

theorem CallSite.call_mem (site : CallSite) : site.call ∈ findMeterCalls site.src := by
  have hopener : opener ('.' :: (site.factory ++ (site.gap ++ '(' :: site.rest))) =
      some site.rest := opener_factory site.factory_mem site.gap_spaces
  have hmem : (1 + site.before.count '\n', site.rest) ∈ openersFrom 1 site.src :=
    mem_openersFrom 1 hopener
  rw [Nat.add_comm] at hmem
  exact List.mem_map.mpr ⟨_, hmem, rfl⟩

/-! ## The walk -/

variable {quote c : Char} {body cs tail follow : List Char} {depth fuel : ℕ}
  {found : Option (Option (List Char))} {escaped : Bool}

theorem length_literal_le (quote : Char) (cs : List Char) :
    (literal quote cs).2.length ≤ cs.length := by
  fun_induction literal quote cs with
  | case1 => exact Nat.le_refl 0
  | case2 cs => exact Nat.le_succ _
  | case3 => exact Nat.le_succ 0
  | case4 c cs hc ih => exact (ih.trans (Nat.le_succ _)).trans (Nat.le_succ _)
  | case5 c cs hc hesc ih => exact ih.trans (Nat.le_succ _)

theorem length_skipBlock_le (cs : List Char) : (skipBlock cs).length ≤ cs.length := by
  induction cs using skipBlock.induct with
  | case1 => exact Nat.le_refl 0
  | case2 c => exact Nat.le_refl 1
  | case3 c d cs hclose =>
    rw [skipBlock, if_pos hclose, List.length_cons, List.length_cons]
    omega
  | case4 c d cs hclose ih =>
    rw [skipBlock, if_neg hclose]
    exact Nat.le_succ_of_le ih

/-- More fuel than characters changes nothing. -/
theorem walk_fuel {m : ℕ} (hn : cs.length < fuel) (hm : cs.length < m) :
    walk fuel depth found cs = walk m depth found cs := by
  induction fuel generalizing m depth found cs with
  | zero => exact absurd hn (Nat.not_lt_zero _)
  | succ fuel ih =>
    cases m with
    | zero => exact absurd hm (Nat.not_lt_zero _)
    | succ m =>
      cases cs with
      | nil => rfl
      | cons c cs =>
        rw [List.length_cons] at hn hm
        have hdrop := (List.dropWhile_suffix (p := (· ≠ '\n')) (l := cs)).length_le
        have hblock := (length_skipBlock_le cs.tail).trans_eq List.length_tail
        have hliteral := length_literal_le c cs
        unfold walk
        split_ifs
        · exact ih (by omega) (by omega)
        · exact ih (by omega) (by omega)
        · exact ih (by omega) (by omega)
        · exact ih (by omega) (by omega)
        · rfl
        · exact ih (by omega) (by omega)
        · exact ih (by omega) (by omega)

/-- From the first literal on the name stays. -/
theorem walk_found {name : Option (List Char)} : walk fuel depth (some name) cs = name := by
  induction fuel generalizing depth cs with
  | zero => rfl
  | succ fuel ih =>
    cases cs with
    | nil => rfl
    | cons c cs =>
      unfold walk
      split_ifs <;> first | exact ih | rfl

/-- The name of a call, `depth` parentheses being open and no literal seen. -/
def nameFrom (depth : ℕ) (cs : List Char) : Option (List Char) :=
  walk (cs.length + 1) depth none cs

theorem nameFrom_line (h : '\n' ∉ body) :
    nameFrom depth ('/' :: '/' :: (body ++ '\n' :: cs)) = nameFrom depth ('\n' :: cs) := by
  have hdrop : ('/' :: (body ++ '\n' :: cs)).dropWhile (· ≠ '\n') = '\n' :: cs := by
    rw [← List.cons_append]
    refine List.dropWhile_append_of_pos (fun c hc => ?_) |>.trans rfl
    obtain rfl | hc := List.mem_cons.mp hc
    · decide
    · exact decide_eq_true (ne_of_mem_of_not_mem hc h)
  unfold nameFrom
  conv_lhs => unfold walk
  rw [if_pos ⟨rfl, rfl⟩, hdrop]
  exact walk_fuel (by simp; omega) (Nat.lt_succ_self _)

theorem skipBlock_append (h : ¬['*', '/'] <:+: body) :
    skipBlock (body ++ '*' :: '/' :: cs) = cs := by
  induction body with
  | nil => exact if_pos ⟨rfl, rfl⟩
  | cons c body ih =>
    have hbody := ih fun hin => h (hin.trans (List.suffix_cons c body).isInfix)
    cases body with
    | nil => exact (if_neg fun hclose => absurd hclose.2 (by decide)).trans hbody
    | cons d body =>
      refine (if_neg ?_).trans hbody
      rintro ⟨rfl, rfl⟩
      exact h (List.prefix_append ['*', '/'] body).isInfix

theorem nameFrom_block (h : ¬['*', '/'] <:+: body) :
    nameFrom depth ('/' :: '*' :: (body ++ '*' :: '/' :: cs)) = nameFrom depth cs := by
  unfold nameFrom
  conv_lhs => unfold walk
  rw [if_neg fun hline => absurd (Option.some.inj hline.2) (by decide), if_pos ⟨rfl, rfl⟩,
    List.tail_cons, skipBlock_append h]
  exact walk_fuel (by simp; omega) (Nat.lt_succ_self _)

theorem nameFrom_quote (h : isQuote quote = true) :
    nameFrom depth (quote :: cs) = literalName quote (literal quote cs).1 := by
  have hslash : quote ≠ '/' := by
    rintro rfl
    exact absurd h (by decide)
  unfold nameFrom walk
  rw [if_neg fun hline => hslash hline.1, if_neg fun hblock => hslash hblock.1, if_pos h]
  exact walk_found

theorem nameFrom_code (hquote : isQuote c = false)
    (hcomment : c = '/' → ∀ d ∈ cs.head?, d ≠ '/' ∧ d ≠ '*') :
    nameFrom depth (c :: cs) =
      if c = '(' then nameFrom (depth + 1) cs
      else if c = ')' then if depth = 1 then none else nameFrom (depth - 1) cs
      else nameFrom depth cs := by
  unfold nameFrom
  conv_lhs => unfold walk
  rw [if_neg fun hline => (hcomment hline.1 _ hline.2).1 rfl,
    if_neg fun hblock => (hcomment hblock.1 _ hblock.2).2 rfl, hquote, if_neg Bool.false_ne_true]
  rfl

/-! ## Literals -/

/-- The text of a literal: characters that end nothing, and escapes. -/
theorem inQuotes_induct {motive : List Char → Prop} (nil : motive [])
    (plain : ∀ c cs, c ≠ quote → c ≠ '\\' → motive cs → motive (c :: cs))
    (escape : ∀ c cs, motive cs → motive ('\\' :: c :: cs))
    (h : inQuotes quote false body = true) : motive body := by
  have hboth : (inQuotes quote false body = true → motive body) ∧
      (inQuotes quote true body = true → motive ('\\' :: body)) := by
    clear h
    induction body with
    | nil => exact ⟨fun _ => nil, fun h => absurd h Bool.false_ne_true⟩
    | cons c cs ih =>
      refine ⟨fun h => ?_, fun h => escape c cs (ih.1 h)⟩
      obtain ⟨hquote, hcs⟩ := Bool.and_eq_true_iff.mp h
      by_cases hesc : c = '\\'
      · rw [decide_eq_true hesc] at hcs
        rw [hesc]
        exact ih.2 hcs
      · rw [decide_eq_false hesc] at hcs
        exact plain c cs (of_decide_eq_true hquote) hesc (ih.1 hcs)
  exact hboth.1 h

theorem literal_quote : literal quote (quote :: cs) = ([], cs) := by
  rw [literal.eq_def]
  exact if_pos rfl

theorem literal_plain (hc : c ≠ quote) (hesc : c ≠ '\\') :
    literal quote (c :: cs) = (c :: (literal quote cs).1, (literal quote cs).2) := by
  rw [literal.eq_def]
  exact (if_neg hc).trans (if_neg hesc)

theorem literal_escape (hquote : quote ≠ '\\') : literal quote ('\\' :: c :: cs) =
    ('\\' :: c :: (literal quote cs).1, (literal quote cs).2) := by
  rw [literal.eq_def]
  exact (if_neg hquote.symm).trans (if_pos rfl)

theorem literal_append (hquote : quote ≠ '\\') (h : inQuotes quote false body = true) :
    literal quote (body ++ cs) = (body ++ (literal quote cs).1, (literal quote cs).2) := by
  refine inQuotes_induct (motive := fun body =>
    literal quote (body ++ cs) = (body ++ (literal quote cs).1, (literal quote cs).2)) rfl
    (fun c body hc hesc ih => ?_) (fun c body ih => ?_) h
  · rw [List.cons_append, literal_plain hc hesc, ih]
    rfl
  · rw [List.cons_append, List.cons_append, literal_escape hquote, ih]
    rfl

theorem literal_closed (hquote : quote ≠ '\\') (h : inQuotes quote false body = true) :
    (literal quote (body ++ quote :: cs)).1 = body := by
  rw [literal_append hquote h, literal_quote]
  exact List.append_nil body

theorem hasInterpolation_append (h : inQuotes quote false body = true)
    (hcs : hasInterpolation cs = true) : hasInterpolation (body ++ cs) = true := by
  refine inQuotes_induct (motive := fun body => hasInterpolation (body ++ cs) = true) hcs
    (fun c body _ hesc ih => ?_) (fun c body ih => ih) h
  rw [List.cons_append, hasInterpolation.eq_def]
  refine (if_neg hesc).trans ?_
  rw [ih, Bool.or_true]

/-- What the walk makes of a first literal. -/
theorem nameFrom_literal {t : Token} (hformed : t.Formed) (hlit : t.isLiteral = true) :
    nameFrom depth (t.text ++ cs) = t.staticText.filter (· ≠ []) := by
  have hback : isQuote (Char.ofNat 96) = true := by decide
  have hname {q : Char} {value : List Char}
      (h : (q = Char.ofNat 96 && hasInterpolation value) = false) :
      literalName q value = (some value).filter (· ≠ []) := by
    unfold literalName
    rw [h, Bool.false_or]
    by_cases hnil : value = []
    · rw [hnil]
      rfl
    · rw [decide_eq_false hnil, if_neg Bool.false_ne_true, Option.filter_some,
        decide_eq_true hnil, if_pos rfl]
  cases t with
  | code | line | block => cases hlit
  | str quote body =>
    obtain ⟨hquote, hbody⟩ := hformed
    have hisQuote : isQuote quote = true := by
      obtain rfl | rfl := hquote <;> decide
    have hesc : quote ≠ '\\' := by
      obtain rfl | rfl := hquote <;> decide
    have hback : quote ≠ Char.ofNat 96 := by
      obtain rfl | rfl := hquote <;> decide
    show nameFrom depth (quote :: ((body ++ [quote]) ++ cs)) = _
    rw [nameFrom_quote hisQuote, List.append_assoc, List.singleton_append,
      literal_closed hesc hbody]
    exact hname (by rw [decide_eq_false hback, Bool.false_and])
  | template body =>
    obtain ⟨hbody, hstatic⟩ := hformed
    show nameFrom depth (Char.ofNat 96 :: ((body ++ [Char.ofNat 96]) ++ cs)) = _
    rw [nameFrom_quote hback, List.append_assoc, List.singleton_append,
      literal_closed (by decide) hbody]
    exact hname (by rw [hstatic, Bool.and_false])
  | interpolated head behind =>
    show nameFrom depth (Char.ofNat 96 ::
      ((head ++ '$' :: '\x7b' :: (behind ++ [Char.ofNat 96])) ++ cs)) = none
    rw [nameFrom_quote hback, List.append_assoc, literal_append (by decide) hformed]
    have hhole (rest : List Char) : (literal (Char.ofNat 96) ('$' :: '\x7b' :: rest)).1 =
        '$' :: '\x7b' :: (literal (Char.ofNat 96) rest).1 := by
      rw [literal_plain (by decide) (by decide), literal_plain (by decide) (by decide)]
    refine if_pos (Bool.or_eq_true_iff.mpr (.inl ?_))
    rw [decide_eq_true rfl, Bool.true_and]
    refine hasInterpolation_append hformed ?_
    rw [List.cons_append, List.cons_append, hhole]
    rfl

/-! ## Calls without a report -/

variable {args pre rest ts us : List Token} {lit t : Token} {value : List Char}

theorem textOf_cons : textOf (t :: ts) = t.text ++ textOf ts := List.flatMap_cons

theorem textOf_append : textOf (ts ++ us) = textOf ts ++ textOf us := List.flatMap_append

theorem parensOf_cons : parensOf (t :: ts) = t.parens ++ parensOf ts := List.flatMap_cons

theorem Formed.append_left (h : Formed follow (ts ++ us)) : Formed (textOf us ++ follow) ts := by
  induction ts with
  | nil => trivial
  | cons t ts ih =>
    obtain ⟨ht, hslash, hts⟩ := h
    refine ⟨ht, ?_, ih hts⟩
    rw [← List.append_assoc, ← textOf_append]
    exact hslash

theorem Formed.append_right (h : Formed follow (ts ++ us)) : Formed follow us := by
  induction ts with
  | nil => exact h
  | cons t ts ih => exact ih h.2.2

/-- What follows matters by its first character. -/
theorem Formed.cons_follow (h : Formed [c] ts) : Formed (c :: cs) ts := by
  induction ts with
  | nil => trivial
  | cons t ts ih =>
    obtain ⟨ht, hslash, hts⟩ := h
    refine ⟨ht, fun heq d hd => hslash heq d ?_, ih hts⟩
    cases htext : textOf ts with
    | nil =>
      rw [htext] at hd
      exact hd
    | cons e text =>
      rw [htext] at hd
      exact hd

/-- Tokens without a literal only change how many parentheses are open. -/
theorem nameFrom_append {e : ℕ} (hformed : Formed cs ts) (hts : ∀ t ∈ ts, t.isLiteral = false)
    (hkeeps : Keeps '(' ')' depth (parensOf ts)) (he : depth + height '(' ')' (parensOf ts) = e) :
    nameFrom (depth + 1) (textOf ts ++ cs) = nameFrom (e + 1) cs := by
  induction ts generalizing depth with
  | nil =>
    have : depth = e := by
      rw [show parensOf [] = [] from rfl, Nesting.height_nil] at he
      omega
    rw [this]
    rfl
  | cons t ts ih =>
    obtain ⟨ht, hslash, hformed⟩ := hformed
    obtain ⟨hlit, hrest⟩ := List.forall_mem_cons.mp hts
    rw [parensOf_cons] at hkeeps he
    rw [textOf_cons, List.append_assoc]
    cases t with
    | str | template | interpolated => cases hlit
    | line body =>
      show nameFrom (depth + 1) ('/' :: '/' :: ((body ++ ['\n']) ++ (textOf ts ++ cs))) = _
      rw [List.append_assoc, List.singleton_append, nameFrom_line ht,
        nameFrom_code (by decide) (fun h => absurd h (by decide)), if_neg (by decide),
        if_neg (by decide)]
      exact ih hformed hrest hkeeps he
    | block body =>
      show nameFrom (depth + 1) ('/' :: '*' :: ((body ++ ['*', '/']) ++ (textOf ts ++ cs))) = _
      rw [List.append_assoc]
      exact (nameFrom_block ht).trans (ih hformed hrest hkeeps he)
    | code c =>
      have hkeeps := (Nesting.keeps_cons.mp hkeeps).2
      rw [show (Token.code c).parens ++ parensOf ts = c :: parensOf ts from rfl,
        Nesting.height_cons, ← Int.add_assoc] at he
      show nameFrom (depth + 1) (c :: (textOf ts ++ cs)) = _
      rw [nameFrom_code ht fun heq => hslash (congrArg Token.code heq)]
      by_cases hop : c = '('
      · subst hop
        rw [if_pos rfl]
        exact ih hformed hrest hkeeps he
      rw [if_neg hop]
      by_cases hcl : c = ')'
      · subst hcl
        rw [Nesting.delta_cl (by decide)] at hkeeps he
        cases depth with
        | zero => exact absurd hkeeps.nonneg (by decide)
        | succ depth =>
          rw [if_pos rfl, if_neg (Nat.succ_ne_succ_iff.mpr (Nat.succ_ne_zero _))]
          have hless : ((depth + 1 : ℕ) : ℤ) + -1 = depth := by omega
          rw [hless] at hkeeps he
          exact ih hformed hrest hkeeps he
      · rw [if_neg hcl]
        rw [Nesting.delta_of_ne hop hcl, Int.add_zero] at hkeeps he
        exact ih hformed hrest hkeeps he

/-- A call without a literal has no name. -/
theorem CallSite.name_of_no_literal (site : CallSite)
    (h : ∀ t ∈ site.args, t.isLiteral = false) : site.call.name = none := by
  have hwalk : nameFrom (0 + 1) (textOf site.args ++ ')' :: site.after) =
      nameFrom (0 + 1) (')' :: site.after) :=
    nameFrom_append site.formed.cons_follow h site.balanced.1 (by rw [site.balanced.2]; rfl)
  refine hwalk.trans ?_
  rw [nameFrom_code (by decide) (fun h => absurd h (by decide)), if_neg (by decide), if_pos rfl,
    if_pos rfl]

/-- Else it has the name that its first literal gives. -/
theorem CallSite.name_of_literal (site : CallSite) (hargs : site.args = pre ++ lit :: rest)
    (hpre : ∀ t ∈ pre, t.isLiteral = false) (hlit : lit.isLiteral = true) :
    site.call.name = lit.staticText.filter (· ≠ []) := by
  have hformed : Formed (')' :: site.after) site.args := site.formed.cons_follow
  have hkeeps := site.balanced.1
  rw [hargs] at hformed hkeeps
  rw [show parensOf (pre ++ lit :: rest) = parensOf pre ++ parensOf (lit :: rest) from
    List.flatMap_append, Nesting.keeps_append] at hkeeps
  obtain ⟨e, he⟩ := Int.eq_ofNat_of_zero_le hkeeps.2.nonneg
  have hwalk : nameFrom (0 + 1) (textOf pre ++ (textOf (lit :: rest) ++ ')' :: site.after)) =
      nameFrom (e + 1) (textOf (lit :: rest) ++ ')' :: site.after) :=
    nameFrom_append hformed.append_left hpre hkeeps.1 he
  show nameFrom 1 (textOf site.args ++ ')' :: site.after) = _
  rw [hargs, textOf_append, List.append_assoc]
  refine hwalk.trans ?_
  rw [textOf_cons, List.append_assoc]
  exact nameFrom_literal hformed.append_right.1 hlit

/-- The first literal of a list of tokens, if it has one. -/
theorem exists_first_literal (ts : List Token) : (∀ t ∈ ts, t.isLiteral = false) ∨
    ∃ pre lit rest, ts = pre ++ lit :: rest ∧ (∀ t ∈ pre, t.isLiteral = false) ∧
      lit.isLiteral = true := by
  induction ts with
  | nil => exact .inl fun t ht => by cases ht
  | cons t ts ih =>
    by_cases ht : t.isLiteral = true
    · exact .inr ⟨[], t, ts, rfl, ⟨List.forall_mem_nil _, ht⟩⟩
    rw [Bool.not_eq_true] at ht
    obtain hnone | ⟨pre, lit, rest, rfl, hpre, hlit⟩ := ih
    · exact .inl (List.forall_mem_cons.mpr ⟨ht, hnone⟩)
    · exact .inr ⟨t :: pre, lit, rest, rfl, List.forall_mem_cons.mpr ⟨ht, hpre⟩, hlit⟩

theorem first_literal_unique {pre' rest' : List Token} {lit' : Token}
    (heq : pre ++ lit :: rest = pre' ++ lit' :: rest') (hpre : ∀ t ∈ pre, t.isLiteral = false)
    (hpre' : ∀ t ∈ pre', t.isLiteral = false) (hlit : lit.isLiteral = true)
    (hlit' : lit'.isLiteral = true) : pre = pre' ∧ lit = lit' ∧ rest = rest' := by
  induction pre generalizing pre' with
  | nil =>
    cases pre' with
    | nil => exact ⟨rfl, List.cons.inj heq⟩
    | cons t pre' =>
      obtain ⟨rfl, -⟩ := List.cons.inj heq
      exact absurd hlit (by rw [hpre' lit List.mem_cons_self]; exact Bool.false_ne_true)
  | cons u pre ih =>
    cases pre' with
    | nil =>
      obtain ⟨rfl, -⟩ := List.cons.inj heq
      exact absurd hlit' (by rw [hpre u List.mem_cons_self]; exact Bool.false_ne_true)
    | cons t pre' =>
      obtain ⟨rfl, htail⟩ := List.cons.inj heq
      obtain ⟨rfl, hrest⟩ := ih htail (List.forall_mem_cons.mp hpre).2
        (List.forall_mem_cons.mp hpre').2
      exact ⟨rfl, hrest⟩

theorem Token.isLiteral_of_staticText (h : t.staticText = some value) : t.isLiteral = true := by
  cases t with
  | str | template => rfl
  | code | line | block | interpolated => cases h

theorem Token.isLiteral_of_isTrivia (h : t.isTrivia = true) : t.isLiteral = false := by
  cases t with
  | code | line | block => rfl
  | str | template | interpolated => cases h

theorem ne_backslash {c : Char} (hc : (isLowerOrDigit c || c = '_') = true) : c ≠ '\\' := by
  rintro rfl
  exact absurd hc (by decide)

/-- A good name has no escape. -/
theorem backslash_notMem_of_isR26Name (h : isR26Name value = true) : '\\' ∉ value := by
  unfold isR26Name at h
  split at h
  · rename_i c cs hstrip
    obtain ⟨hpre, hdrop⟩ := Option.ite_none_right_eq_some.mp hstrip
    obtain ⟨hc, hcs⟩ := Bool.and_eq_true_iff.mp h
    rw [List.prefix_append_drop hpre, Option.some.inj hdrop]
    intro hmem
    obtain hmem | hmem := List.mem_append.mp hmem
    · exact absurd hmem (by decide)
    obtain rfl | hmem := List.mem_cons.mp hmem
    · exact absurd hc (by decide)
    obtain hnil | hlong := Bool.or_eq_true_iff.mp hcs
    · rw [of_decide_eq_true hnil] at hmem
      cases hmem
    obtain ⟨hfront, hlast⟩ := Bool.and_eq_true_iff.mp hlong
    have hne : cs ≠ [] := List.ne_nil_of_mem hmem
    rw [← List.dropLast_append_getLast hne] at hmem
    obtain hmem | hmem := List.mem_append.mp hmem
    · exact ne_backslash (List.all_eq_true.mp (Bool.and_eq_true_iff.mp hfront).2 _ hmem) rfl
    · rw [List.getLast?_eq_some_getLast hne, Option.any_some, ← List.mem_singleton.mp hmem] at hlast
      exact absurd hlast (by decide)
  · cases h

/-- The guard leaves a call without a report iff the first literal of the call is a good name. -/
theorem CallSite.hit_eq_none_iff (site : CallSite) (path : List Char) :
    hit path site.call = none ↔ ∃ pre lit rest value, site.args = pre ++ lit :: rest ∧
      (∀ t ∈ pre, t.isLiteral = false) ∧ lit.staticText = some value ∧ isR26Name value = true := by
  have hempty : isR26Name [] = false := by decide +kernel
  have hhit : hit path site.call = none ↔ isR26Name (site.call.name.getD []) = true := by
    unfold hit
    split_ifs with hname
    · exact iff_of_true rfl hname
    · exact iff_of_false (by simp) hname
  rw [hhit]
  constructor
  · intro hname
    obtain hnone | ⟨pre, lit, rest, hargs, hpre, hlit⟩ := exists_first_literal site.args
    · rw [site.name_of_no_literal hnone] at hname
      exact absurd hname (by rw [Option.getD_none, hempty]; exact Bool.false_ne_true)
    rw [site.name_of_literal hargs hpre hlit] at hname
    cases hvalue : lit.staticText.filter (· ≠ []) with
    | none =>
      rw [hvalue] at hname
      exact absurd hname (by rw [Option.getD_none, hempty]; exact Bool.false_ne_true)
    | some value =>
      rw [hvalue] at hname
      exact ⟨pre, lit, rest, value, hargs, hpre, (Option.filter_eq_some_iff.mp hvalue).1, hname⟩
  · rintro ⟨pre, lit, rest, value, hargs, hpre, hvalue, hname⟩
    have hne : value ≠ [] := by
      rintro rfl
      exact absurd hname (by rw [hempty]; exact Bool.false_ne_true)
    rw [site.name_of_literal hargs hpre (Token.isLiteral_of_staticText hvalue), hvalue,
      Option.filter_some, if_pos (decide_eq_true hne)]
    exact hname

/-- The guard is sound for exactly the calls whose first literal, if it is a good name, is the
    first argument. -/
theorem CallSite.sound_iff (site : CallSite) : site.Sound ↔ FirstLiteralIsArgument site.args := by
  constructor
  · rintro ⟨-, hsound⟩ pre lit rest value hargs hpre hvalue hname
    have hnone := (site.hit_eq_none_iff []).mpr ⟨pre, lit, rest, value, hargs, hpre, hvalue, hname⟩
    obtain ⟨pre', lit', post, tail, value', hargs', htrivia, hpost, htail, hvalue', -⟩ :=
      hsound [] hnone
    obtain ⟨rfl, rfl, rfl⟩ := first_literal_unique (hargs.symm.trans hargs') hpre
      (fun t ht => Token.isLiteral_of_isTrivia (htrivia t ht))
      (Token.isLiteral_of_staticText hvalue) (Token.isLiteral_of_staticText hvalue')
    exact ⟨htrivia, post, tail, rfl, hpost, htail⟩
  · intro hfirst
    refine ⟨site.call_mem, fun path hnone => ?_⟩
    obtain ⟨pre, lit, rest, value, hargs, hpre, hvalue, hname⟩ :=
      (site.hit_eq_none_iff path).mp hnone
    obtain ⟨htrivia, post, tail, rfl, hpost, htail⟩ :=
      hfirst pre lit rest value hargs hpre hvalue hname
    exact ⟨pre, lit, post, tail, value, hargs, htrivia, hpost, htail, hvalue,
      backslash_notMem_of_isR26Name hname, hname⟩

theorem NamedByFirst.head (h : NamedByFirst (t :: ts)) :
    t.isTrivia = true ∨ t.isLiteral = true := by
  obtain ⟨pre, lit, post, tail, value, hargs, hpre, -, -, hvalue, -⟩ := h
  cases pre with
  | nil =>
    obtain ⟨rfl, -⟩ := List.cons.inj hargs
    exact .inr (Token.isLiteral_of_staticText hvalue)
  | cons u pre =>
    obtain ⟨rfl, -⟩ := List.cons.inj hargs
    exact .inl (hpre t List.mem_cons_self)

theorem formed_map_code (hcs : ∀ c ∈ cs, isQuote c = false ∧ c ≠ '/') (h : Formed follow us) :
    Formed follow (cs.map Token.code ++ us) := by
  induction cs with
  | nil => exact h
  | cons c cs ih =>
    obtain ⟨⟨hquote, hslash⟩, hcs⟩ := List.forall_mem_cons.mp hcs
    exact ⟨hquote, fun heq => absurd (Token.code.inj heq) hslash, ih hcs⟩

/-- `NAME, { description: "dt_client_x" }`. -/
def describedArgs : List Token :=
  "NAME, \x7b description: ".toList.map Token.code ++ .str '"' "dt_client_x".toList ::
    " \x7d".toList.map Token.code

/-- A call whose first argument is not its name. -/
def describedCall : CallSite where
  before := "meter".toList
  factory := "createCounter".toList
  gap := []
  args := describedArgs
  after := ";".toList
  factory_mem := by decide
  gap_spaces := List.forall_mem_nil _
  formed := by
    have hback : Formed [')'] (" \x7d".toList.map Token.code ++ []) :=
      formed_map_code (by decide) trivial
    have hplain : ∀ c ∈ "NAME, \x7b description: ".toList, isQuote c = false ∧ c ≠ '/' := by
      decide
    exact formed_map_code hplain ⟨⟨.inl rfl, by decide⟩, (fun heq => by cases heq), hback⟩
  balanced := by
    have hparens : '(' ∉ parensOf describedArgs ∧ ')' ∉ parensOf describedArgs := by
      decide +kernel
    refine ⟨fun front hfront => ?_, Nesting.height_of_notMem hparens.1 hparens.2⟩
    rw [Nesting.height_of_notMem (fun h => hparens.1 (hfront.subset h))
      (fun h => hparens.2 (hfront.subset h))]
    decide

/-- The name of the metric is a variable, and the guard takes the description for it. -/
theorem description_taken_for_name :
    (∀ path, scanFile path describedCall.src = []) ∧ ¬NamedByFirst describedCall.args ∧
      ¬describedCall.Sound := by
  have hcalls : findMeterCalls describedCall.src = [⟨some "dt_client_x".toList, 1⟩] := by
    decide +kernel
  have hcall : describedCall.call = ⟨some "dt_client_x".toList, 1⟩ := by decide +kernel
  have hname : isR26Name "dt_client_x".toList = true := by decide +kernel
  have hhit (path : List Char) : hit path ⟨some "dt_client_x".toList, 1⟩ = none := if_pos hname
  have hnamed : ¬NamedByFirst describedCall.args := fun h =>
    absurd (NamedByFirst.head (t := .code 'N') h) (by decide)
  refine ⟨fun path => ?_, hnamed, fun hsound => hnamed (hsound.2 [] ?_)⟩
  · unfold scanFile
    rw [hcalls, List.filterMap_cons_none (hhit path)]
    rfl
  · rw [hcall]
    exact hhit []

end DarkTower.Guard.TsMetricNaming
