import DarkTower.Lib.ByteChars
import DarkTower.Lib.Pattern
import Mathlib.Data.Int.Notation

/-!
# Scanning for metrics macros (`dt-guard/src/metric_labels.rs`)

The source is stripped of its comments first. What the guard reads is the stripped
source: the invocations of the metrics macros in it, the arguments of an invocation and the
key and the value of a label argument.

The source walks over bytes with an index, with a flag for "inside a string" and jumps
over escapes, comments and character literals. Here a scanner reads one character after
the other, and `Reading` is what the next one is part of. All bytes that are looked for
are ASCII, so that it makes no difference whether bytes or characters are read; only
`strip_comments_preserve_layout` turns every byte into a character of its own
(`ByteChars.byteChars`).
-/

namespace DarkTower.Guard

open DarkTower.Lib
open ByteChars (byteChars)

/-- `MacroKind` (metric_macros.rs:32). -/
inductive MacroKind
  | counter
  | gauge
  | histogram
  | describeCounter
  | describeGauge
  | describeHistogram
deriving DecidableEq

namespace MacroKind

/-- `MacroKind::as_str` (metric_macros.rs:83). -/
def asStr : MacroKind → List Char
  | counter => "counter".toList
  | gauge => "gauge".toList
  | histogram => "histogram".toList
  | describeCounter => "describe_counter".toList
  | describeGauge => "describe_gauge".toList
  | describeHistogram => "describe_histogram".toList

/-- `MacroKind::ALL`: the order of the alternatives of the regular expression. -/
def all : List MacroKind :=
  [describeCounter, describeGauge, describeHistogram, counter, gauge, histogram]

/-- The kind with this name. -/
def parse (s : List Char) : Option MacroKind := all.find? fun kind => kind.asStr = s

/-- `MacroKind::is_describe` (metric_macros.rs:74). -/
def isDescribe : MacroKind → Bool
  | describeCounter | describeGauge | describeHistogram => true
  | _ => false

end MacroKind

/-- What the next character is part of. -/
inductive Reading
  | code
  | str
  /-- A string, behind a backslash. -/
  | escaped
  /-- A character literal, `n` more characters of it after this one. -/
  | charLit (n : ℕ)
  | lineComment
  /-- The star of `/*`. -/
  | blockOpen
  | block
  /-- The slash of `*/`. -/
  | blockClose
deriving DecidableEq

/-- Behind a character of a string. -/
def Reading.inStr (c : Char) : Reading :=
  if c = '\\' then escaped else if c = '"' then code else str

/-! ## Comments -/

/-- `find_char_lit_close` (metric_labels.rs:246) on the bytes behind the opening quote: how
    many of them up to the closing one. -/
def findCharLitClose : List Char → Option ℕ
  | [] => none
  | first :: rest =>
    if first = '\\' then ((rest.take 9).findIdx? (· = '\'')).map (· + 2)
    else if rest.head? = some '\'' then some 2
    else none

/-- What is written for a byte that `rest` follows, and what the next byte is part of. -/
def stripStep (r : Reading) (c : Char) (rest : List Char) : Char × Reading :=
  match r with
  | .str => (c, .inStr c)
  | .escaped => (c, .str)
  | .charLit n => (c, if n = 0 then .code else .charLit (n - 1))
  | .lineComment => if c = '\n' then (c, .code) else (' ', .lineComment)
  | .blockOpen => (' ', .block)
  | .block =>
    if c = '*' ∧ rest.head? = some '/' then (' ', .blockClose)
    else (if c = '\n' then c else ' ', .block)
  | .blockClose => (' ', .code)
  | .code =>
    if c = '"' then (c, .str)
    else if c = '\'' then
      match findCharLitClose rest with
      | some n => (c, .charLit (n - 1))
      -- a lifetime
      | none => (c, .code)
    else if c = '/' ∧ rest.head? = some '/' then (' ', .lineComment)
    else if c = '/' ∧ rest.head? = some '*' then (' ', .blockOpen)
    else (c, .code)

/-- The loop of `strip_comments_preserve_layout`. -/
def stripFrom (r : Reading) : List Char → List Char
  | [] => []
  | c :: cs => (stripStep r c cs).1 :: stripFrom (stripStep r c cs).2 cs

/-- `strip_comments_preserve_layout` (metric_labels.rs:161). -/
def stripCommentsPreserveLayout (src : List Char) : List Char :=
  stripFrom .code (byteChars src)

/-! ## Invocations -/

/-- The body of an invocation: what stands before the parenthesis that closes it, `depth`
    more being open (metric_labels.rs:310-350). -/
def closingParen : Reading → ℕ → List Char → Option (List Char)
  | _, _, [] => none
  | .str, depth, c :: cs => (closingParen (.inStr c) depth cs).map (c :: ·)
  | .escaped, depth, c :: cs => (closingParen .str depth cs).map (c :: ·)
  | .lineComment, depth, c :: cs =>
    (closingParen (if c = '\n' then .code else .lineComment) depth cs).map (c :: ·)
  | _, depth, c :: cs =>
    if c = '"' then (closingParen .str depth cs).map (c :: ·)
    else if c = '/' ∧ cs.head? = some '/' then (closingParen .lineComment depth cs).map (c :: ·)
    else if c = '(' then (closingParen .code (depth + 1) cs).map (c :: ·)
    else if c = ')' then
      if depth = 0 then some [] else (closingParen .code (depth - 1) cs).map (c :: ·)
    else (closingParen .code depth cs).map (c :: ·)

/-- `MacroInvocation` (metric_labels.rs:285). -/
structure MacroInvocation where
  kind : MacroKind
  startLineno : ℕ
  /-- Nothing when the invocation is not closed. -/
  body : Option (List Char)
deriving DecidableEq

open Pattern (Piece)

/-- `(?:\bmetrics\s*::\s*)` of `MACRO_OPENER_RE`. -/
def macroOpenerPath : List Piece :=
  [.boundary, .text "metrics".toList, .spaces, .text "::".toList, .spaces]

/-- The rest of `MACRO_OPENER_RE`. -/
def macroOpenerName : List Piece :=
  [.boundary, .oneOf (MacroKind.all.map MacroKind.asStr), .text ['!'], .spaces, .text ['(']]

/-- `MACRO_OPENER_RE` (metric_labels.rs:58) at a place: the name of the macro and what
    stands behind the parenthesis. -/
def macroOpener (wide : Char → Bool) (prev : Option Char) (cs : List Char) :
    Option (List Char × List Char) :=
  ((Pattern.run wide (macroOpenerPath ++ macroOpenerName) prev cs).or
    (Pattern.run wide macroOpenerName prev cs)).bind fun x => x.1.head?.map fun name => (name, x.2)

/-- The matches of `MACRO_OPENER_RE` from a place on, each with its body. The first `skip`
    characters belong to a match, and `lineno` is the number of the line. -/
def invocationsFrom (wide : Char → Bool) (prev : Option Char) (skip lineno : ℕ) :
    List Char → List MacroInvocation
  | [] => []
  | c :: cs =>
    let next := if c = '\n' then lineno + 1 else lineno
    match if skip = 0 then macroOpener wide prev (c :: cs) else none with
    | none => invocationsFrom wide (some c) (skip - 1) next cs
    | some (name, behind) =>
      let more := invocationsFrom wide (some c) (cs.length - behind.length) next cs
      match MacroKind.parse name with
      | none => more
      | some kind => ⟨kind, lineno, closingParen .code 0 behind⟩ :: more

/-- `find_macro_invocations` (metric_labels.rs:299). -/
def findMacroInvocations (wide : Char → Bool) (src : List Char) : List MacroInvocation :=
  invocationsFrom wide none 0 1 src

/-! ## Arguments -/

/-- The open parentheses, braces and brackets. -/
structure Depths where
  dp : ℤ
  db : ℤ
  dbr : ℤ
deriving DecidableEq

namespace Depths

/-- Outside of all brackets. -/
def zero : Depths := ⟨0, 0, 0⟩

/-- The depths behind a character. -/
def step (d : Depths) (c : Char) : Depths :=
  match c with
  | '(' => { d with dp := d.dp + 1 }
  | ')' => { d with dp := d.dp - 1 }
  | '[' => { d with dbr := d.dbr + 1 }
  | ']' => { d with dbr := d.dbr - 1 }
  | '{' => { d with db := d.db + 1 }
  | '}' => { d with db := d.db - 1 }
  | _ => d

end Depths

/-- The loop of `split_top_level_args`, `cur` being the argument that is read. -/
def splitFrom : Reading → Depths → List Char → List Char → List (List Char)
  | _, _, cur, [] => if Text.trim cur = [] then [] else [Text.trim cur]
  | .str, d, cur, c :: cs => splitFrom (.inStr c) d (cur ++ [c]) cs
  | .escaped, d, cur, c :: cs => splitFrom .str d (cur ++ [c]) cs
  | _, d, cur, c :: cs =>
    if c = '"' then splitFrom .str d (cur ++ [c]) cs
    else if c = ',' ∧ d = .zero then Text.trim cur :: splitFrom .code d [] cs
    else splitFrom .code (d.step c) (cur ++ [c]) cs

/-- `split_top_level_args` (metric_labels.rs:382). -/
def splitTopLevelArgs (body : List Char) : List (List Char) := splitFrom .code .zero [] body

/-- The loop of `find_top_level_fatarrow`: what stands before the arrow and behind it. -/
def fatarrowFrom : Reading → Depths → List Char → Option (List Char × List Char)
  | _, _, [] => none
  | .str, d, c :: cs => (fatarrowFrom (.inStr c) d cs).map fun x => (c :: x.1, x.2)
  | .escaped, d, c :: cs => (fatarrowFrom .str d cs).map fun x => (c :: x.1, x.2)
  | _, d, c :: cs =>
    if c = '"' then (fatarrowFrom .str d cs).map fun x => (c :: x.1, x.2)
    else if c = '=' ∧ cs.head? = some '>' ∧ d = .zero then some ([], cs.tail)
    else (fatarrowFrom .code (d.step c) cs).map fun x => (c :: x.1, x.2)

/-- `find_top_level_fatarrow` (metric_labels.rs:439). -/
def findTopLevelFatarrow (arg : List Char) : Option (List Char × List Char) :=
  fatarrowFrom .code .zero arg

/-- `STRING_LITERAL_RE` (metric_labels.rs:70). -/
def stringLiteralRe : List Piece := [.quoted, .finish]

/-- `STRING_LITERAL_TO_STRING_RE` (metric_labels.rs:78). -/
def stringLiteralToStringRe : List Piece :=
  [.quoted, .spaces, .text ['.'], .spaces,
    .oneOf ["to_string".toList, "to_owned".toList, "into".toList], .spaces, .text ['('], .spaces,
    .text [')'], .spaces, .finish]

/-- `STRING_FROM_LITERAL_RE` (metric_labels.rs:88). -/
def stringFromLiteralRe : List Piece :=
  [.text "String".toList, .spaces, .text "::".toList, .spaces, .text "from".toList, .spaces,
    .text ['('], .spaces, .quoted, .spaces, .text [')'], .spaces, .finish]

/-- The first capture of one of the three, in which no `\b` stands. -/
def stringCapture (re : List Piece) (s : List Char) : Option (List Char) :=
  (Pattern.run (fun _ => false) re none s).bind fun x => x.1.head?

/-- `unescape_str` (metric_labels.rs:494). -/
def unescapeStr : List Char → List Char
  | [] => []
  | c :: cs =>
    if c = '\\' then
      match cs with
      | [] => ['\\']
      | e :: cs =>
        (match e with
          | 'n' => '\n'
          | 'r' => '\r'
          | 't' => '\t'
          | '0' => Char.ofNat 0
          | other => other) :: unescapeStr cs
    else c :: unescapeStr cs

theorem unescapeStr_plain {c : Char} (h : c ≠ '\\') (cs : List Char) :
    unescapeStr (c :: cs) = c :: unescapeStr cs := by
  cases cs <;> simp [unescapeStr, h]

/-- `parse_string_literal` (metric_labels.rs:477). -/
def parseStringLiteral (expr : List Char) : Option (List Char) :=
  ([stringLiteralRe, stringLiteralToStringRe, stringFromLiteralRe].findSome? fun re =>
    stringCapture re (Text.trim expr)).map unescapeStr

/-- The key of a label argument. -/
def labelKey (arg : List Char) : Option (List Char) :=
  (findTopLevelFatarrow arg).bind fun x => parseStringLiteral (Text.trim x.1)

/-- The keys of the label arguments in the body of an invocation. -/
def labelKeys (body : List Char) : List (List Char) :=
  (splitTopLevelArgs body).tail.filterMap labelKey

end DarkTower.Guard
