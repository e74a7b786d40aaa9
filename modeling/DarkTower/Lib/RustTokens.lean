import DarkTower.Lib.Hex
import DarkTower.Lib.Text

/-!
# Rust tokens

A Rust text as the list of its tokens, with comments and whitespace in it. Strings,
character literals, lifetimes, comments and brackets are tokens; every other character is
one of its own, so that an identifier, a number or an operator is as many tokens as it has
characters. A byte string is such a character before a string. A carriage return with a
newline is that newline alone, as Rust takes it before it reads tokens.

`Lexes` says that the text of a list of tokens is read as these tokens, `Balanced` that its
brackets match. `StrItem.value` is what an item of a string literal stands for.
-/

namespace DarkTower.Lib.RustTokens

/-- A character of a string or character literal, as it is written. -/
inductive StrItem
  | plain (c : Char)
  /-- A backslash and one character. -/
  | simple (e : Char)
  /-- `\xHH`. -/
  | hex (hi lo : Char)
  /-- `\u{…}`. -/
  | unicode (digits : List Char)
  /-- A backslash at the end of a line, and the whitespace that is skipped. -/
  | continuation (blank : List Char)
deriving DecidableEq

namespace StrItem

/-- The text of an item of a string. -/
def text : StrItem → List Char
  | plain c => [c]
  | simple e => ['\\', e]
  | hex hi lo => ['\\', 'x', hi, lo]
  | unicode digits => '\\' :: 'u' :: '{' :: digits ++ ['}']
  | continuation blank => '\\' :: '\n' :: blank

/-- The number that hexadecimal digits spell; an underscore does not count. -/
def number (digits : List Char) : ℕ := (digits.filterMap Hex.value).foldl (fun n d => 16 * n + d) 0

/-- The characters that an item stands for. -/
def value : StrItem → List Char
  | plain c => [c]
  | simple e =>
    [match e with
      | 'n' => '\n'
      | 'r' => '\r'
      | 't' => '\t'
      | '0' => Char.ofNat 0
      | other => other]
  | hex hi lo => [Char.ofNat (number [hi, lo])]
  | unicode digits => [Char.ofNat (number digits)]
  | continuation _ => []

/-- The characters behind a backslash that stand for one character. -/
def simpleEscapes : List Char := ['n', 'r', 't', '0', '\\', '"', '\'']

/-- An escape of one character. -/
def IsEscape : StrItem → Prop
  | plain _ => False
  | simple e => e ∈ simpleEscapes
  | hex hi lo => (Hex.value hi).isSome ∧ (Hex.value lo).isSome
  | unicode digits => digits.head?.any (fun c => (Hex.value c).isSome) ∧
      (∀ c ∈ digits, (Hex.value c).isSome ∨ c = '_') ∧ (digits.filter (· ≠ '_')).length ≤ 6
  | continuation _ => False

instance (item : StrItem) : Decidable item.IsEscape :=
  match item with
  | plain _ | continuation _ => inferInstanceAs (Decidable False)
  | simple e => inferInstanceAs (Decidable (e ∈ simpleEscapes))
  | hex _ _ => inferInstanceAs (Decidable (_ ∧ _))
  | unicode _ => inferInstanceAs (Decidable (_ ∧ _ ∧ _))

/-- An item of a string literal. -/
def InString : StrItem → Prop
  | plain c => c ≠ '"' ∧ c ≠ '\\' ∧ c ≠ '\r'
  | continuation blank => ∀ c ∈ blank, c ∈ [' ', '\t', '\n', '\r']
  | item => item.IsEscape

instance (item : StrItem) : Decidable item.InString :=
  match item with
  | plain _ => inferInstanceAs (Decidable (_ ∧ _ ∧ _))
  | continuation blank => inferInstanceAs (Decidable (∀ c ∈ blank, _))
  | simple e => inferInstanceAs (Decidable (simple e).IsEscape)
  | hex hi lo => inferInstanceAs (Decidable (hex hi lo).IsEscape)
  | unicode digits => inferInstanceAs (Decidable (unicode digits).IsEscape)

/-- What stands between the quotes of a character literal. -/
def InCharLit : StrItem → Prop
  | plain c => c ∉ ['\'', '\\', '\n', '\r', '\t']
  | item => item.IsEscape

instance (item : StrItem) : Decidable item.InCharLit :=
  match item with
  | plain _ => inferInstanceAs (Decidable (_ ∉ _))
  | simple e => inferInstanceAs (Decidable (simple e).IsEscape)
  | hex hi lo => inferInstanceAs (Decidable (hex hi lo).IsEscape)
  | unicode digits => inferInstanceAs (Decidable (unicode digits).IsEscape)
  | continuation blank => inferInstanceAs (Decidable (continuation blank).IsEscape)

end StrItem

/-- The kinds of brackets. -/
inductive Delim
  | paren
  | bracket
  | brace
deriving DecidableEq

/-- The opening bracket. -/
def Delim.opening : Delim → Char
  | paren => '('
  | bracket => '['
  | brace => '{'

/-- The closing bracket. -/
def Delim.closing : Delim → Char
  | paren => ')'
  | bracket => ']'
  | brace => '}'

/-- A token of Rust, white space and comments being tokens too. -/
inductive Token
  | char (c : Char)
  | opening (d : Delim)
  | closing (d : Delim)
  | str (items : List StrItem)
  | rawStr (hashes : ℕ) (content : List Char)
  | charLit (item : StrItem)
  | lifetime (name : List Char)
  /-- With the newline that ends it. -/
  | lineComment (content : List Char)
  | blockComment (content : List Char)
deriving DecidableEq

namespace Token

/-- The text of a token. -/
def text : Token → List Char
  | char c => [c]
  | opening d => [d.opening]
  | closing d => [d.closing]
  | str items => '"' :: items.flatMap StrItem.text ++ ['"']
  | rawStr hashes content =>
    'r' :: List.replicate hashes '#' ++ '"' :: content ++ '"' :: List.replicate hashes '#'
  | charLit item => '\'' :: item.text ++ ['\'']
  | lifetime name => '\'' :: name
  | lineComment content => '/' :: '/' :: content ++ ['\n']
  | blockComment content => '/' :: '*' :: content ++ ['*', '/']

end Token

/-- The text of a list of tokens. -/
def text (ts : List Token) : List Char := ts.flatMap Token.text

@[simp] theorem text_nil : text [] = [] := rfl

@[simp] theorem text_cons (t : Token) (ts : List Token) : text (t :: ts) = t.text ++ text ts := rfl

@[simp] theorem text_append (ts us : List Token) : text (ts ++ us) = text ts ++ text us :=
  List.flatMap_append

/-! ## Lexing -/

/-- A character of an identifier. Beyond ASCII these are more than Rust's. -/
def isIdent (c : Char) : Bool := c.isAlphanum || c = '_' || 128 ≤ c.toNat

/-- A comment ends with the text, comments being nested in it `depth` deep. -/
def commentEnds : ℕ → List Char → Bool
  | _, [] => false
  | depth, c :: cs =>
    match cs with
    | [] => false
    | d :: cs' =>
      if c = '*' ∧ d = '/' then if depth = 0 then cs' = [] else commentEnds (depth - 1) cs'
      else if c = '/' ∧ d = '*' then commentEnds (depth + 1) cs'
      else commentEnds depth (d :: cs')

/-- What the token is made of. -/
def Token.Formed : Token → Prop
  | .char c => c ∉ ['"', '\'', '\\', '(', ')', '[', ']', '{', '}']
  | .opening _ | .closing _ => True
  | .str items => ∀ item ∈ items, item.InString
  | .rawStr hashes content => ¬ '"' :: List.replicate hashes '#' <:+: content
  | .charLit item => item.InCharLit
  | .lifetime name => name ≠ [] ∧ ∀ c ∈ name, isIdent c = true
  | .lineComment content => '\n' ∉ content
  | .blockComment content => commentEnds 0 (content ++ ['*', '/']) = true

instance (t : Token) : Decidable t.Formed :=
  match t with
  | .char _ => inferInstanceAs (Decidable (_ ∉ _))
  | .opening _ | .closing _ => inferInstanceAs (Decidable True)
  | .str items => inferInstanceAs (Decidable (∀ item ∈ items, item.InString))
  | .rawStr _ _ => inferInstanceAs (Decidable (¬ _ <:+: _))
  | .charLit item => inferInstanceAs (Decidable item.InCharLit)
  | .lifetime name => inferInstanceAs (Decidable (_ ∧ ∀ c ∈ name, _))
  | .lineComment _ => inferInstanceAs (Decidable (_ ∉ _))
  | .blockComment _ => inferInstanceAs (Decidable (_ = true))

/-- The token ends before the text that follows: no comment or raw string starts with the
    character, and a lifetime takes all its name. -/
def Token.Ends (next : List Char) : Token → Prop
  | .char c => (c = '/' → next.head? ≠ some '/' ∧ next.head? ≠ some '*') ∧
      (c = 'r' → (next.dropWhile (· = '#')).head? ≠ some '"')
  | .lifetime _ => ∀ c, next.head? = some c → c.isAlphanum = false ∧ c ≠ '_' ∧ c ≠ '\''
  | _ => True

instance (next : List Char) (t : Token) : Decidable (t.Ends next) :=
  match t with
  | .char _ => inferInstanceAs (Decidable ((_ → _) ∧ (_ → _)))
  | .lifetime _ => inferInstanceAs (Decidable (∀ c ∈ next.head?, _))
  | .opening _ | .closing _ | .str _ | .rawStr _ _ | .charLit _ | .lineComment _
  | .blockComment _ => inferInstanceAs (Decidable True)

/-- The text of the tokens, before `rest`, is read as these tokens. -/
def Lexes : List Token → List Char → Prop
  | [], _ => True
  | t :: ts, rest => t.Formed ∧ t.Ends (text ts ++ rest) ∧ Lexes ts rest

instance decidableLexes : (ts : List Token) → (rest : List Char) → Decidable (Lexes ts rest)
  | [], _ => inferInstanceAs (Decidable True)
  | t :: ts, rest =>
    have := decidableLexes ts rest
    inferInstanceAs (Decidable (t.Formed ∧ t.Ends (text ts ++ rest) ∧ Lexes ts rest))

theorem lexes_append {ts us : List Token} {rest : List Char} :
    Lexes (ts ++ us) rest ↔ Lexes ts (text us ++ rest) ∧ Lexes us rest := by
  induction ts with
  | nil => simp [Lexes]
  | cons t ts ih => simp [Lexes, ih, and_assoc]

/-! ## Brackets -/

/-- The open brackets, the innermost first, behind tokens. -/
def nest : List Delim → List Token → Option (List Delim)
  | stack, [] => some stack
  | stack, .opening d :: ts => nest (d :: stack) ts
  | stack, .closing d :: ts => if stack.head? = some d then nest stack.tail ts else none
  | stack, _ :: ts => nest stack ts

/-- Every bracket is closed by its own kind. -/
def Balanced (ts : List Token) : Prop := nest [] ts = some []

instance (ts : List Token) : Decidable (Balanced ts) := inferInstanceAs (Decidable (_ = _))

theorem nest_append (stack : List Delim) (ts us : List Token) :
    nest stack (ts ++ us) = (nest stack ts).bind fun stack => nest stack us := by
  induction ts generalizing stack with
  | nil => rfl
  | cons t ts ih =>
    cases t with
    | closing d =>
      rw [List.cons_append, nest, nest]
      split
      case isTrue => exact ih _
      case isFalse => rfl
    | opening d => exact ih (d :: stack)
    | char | str | rawStr | charLit | lifetime | lineComment | blockComment => exact ih stack

theorem Balanced.append {ts us : List Token} (hts : Balanced ts) (hus : Balanced us) :
    Balanced (ts ++ us) := by
  rw [Balanced, nest_append, hts]
  exact hus

theorem Balanced.flatMap {α : Type} {xs : List α} {f : α → List Token}
    (h : ∀ x ∈ xs, Balanced (f x)) : Balanced (xs.flatMap f) := by
  induction xs with
  | nil => rfl
  | cons x xs ih =>
    obtain ⟨hx, hxs⟩ := List.forall_mem_cons.mp h
    exact hx.append (ih hxs)

/-- Outside brackets no `=>` stands in the tokens. -/
def NoArrow : List Delim → List Token → Prop
  | _, [] => True
  | stack, .opening d :: ts => NoArrow (d :: stack) ts
  | stack, .closing _ :: ts => NoArrow stack.tail ts
  | stack, t :: ts =>
    ¬ (stack = [] ∧ t = .char '=' ∧ ts.head? = some (.char '>')) ∧ NoArrow stack ts

instance decidableNoArrow : (stack : List Delim) → (ts : List Token) → Decidable (NoArrow stack ts)
  | _, [] => inferInstanceAs (Decidable True)
  | stack, t :: ts =>
    have (stack : List Delim) := decidableNoArrow stack ts
    match t with
    | .opening d => inferInstanceAs (Decidable (NoArrow (d :: stack) ts))
    | .closing _ => inferInstanceAs (Decidable (NoArrow stack.tail ts))
    | .char _ | .str _ | .rawStr _ _ | .charLit _ | .lifetime _ | .lineComment _
    | .blockComment _ => inferInstanceAs (Decidable (¬ (_ ∧ _ ∧ _) ∧ NoArrow stack ts))

/-- Whitespace of Rust. -/
def isWhitespace (c : Char) : Bool :=
  c ∈ ['\t', '\n', Char.ofNat 0xb, Char.ofNat 0xc, '\r', ' ', Char.ofNat 0x85, Char.ofNat 0x200e,
    Char.ofNat 0x200f, Char.ofNat 0x2028, Char.ofNat 0x2029]

/-- Whitespace or a comment. -/
def Token.IsGap : Token → Prop
  | .char c => isWhitespace c = true
  | .lineComment _ | .blockComment _ => True
  | _ => False

instance (t : Token) : Decidable t.IsGap :=
  match t with
  | .char _ => inferInstanceAs (Decidable (_ = true))
  | .lineComment _ | .blockComment _ => inferInstanceAs (Decidable True)
  | .opening _ | .closing _ | .str _ | .rawStr _ _ | .charLit _ | .lifetime _ =>
    inferInstanceAs (Decidable False)

theorem balanced_gap {gap : List Token} (h : ∀ t ∈ gap, t.IsGap) : Balanced gap := by
  induction gap with
  | nil => rfl
  | cons t gap ih =>
    obtain ⟨ht, hgap⟩ := List.forall_mem_cons.mp h
    cases t with
    | char | lineComment | blockComment => exact ih hgap
    | opening | closing | str | rawStr | charLit | lifetime => exact ht.elim

end DarkTower.Lib.RustTokens
