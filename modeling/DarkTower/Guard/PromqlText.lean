import DarkTower.Guard.MetricInsideFn
import DarkTower.Lib.Quoted

/-!
# PromQL expressions with strings

The guards for dashboards and alerts look for calls and brackets in the text of an
expression, and that is right for what stands outside of quoted strings. `unquoted` is the
expression with empty strings. If there is no bracket in a string (`BracketFree`), the calls
of an expression and where they end are those of the expression with empty strings
(`calls_agree`, `cut_agree`).
-/

namespace DarkTower.Guard

open DarkTower.Lib
open Quoted (Agree Quoting contents emptied)
open Words (calls)

/-- The strings of PromQL; the last quote is the backquote, in which nothing is escaped. -/
def promql : Quoting where
  opens c := c = '"' || c = '\'' || c = Char.ofNat 96
  escapes q := q ≠ Char.ofNat 96

/-- The expression with empty strings. -/
def unquoted (expr : List Char) : List Char := emptied promql expr

variable {wide : Char → Bool} {expr xs ys : List Char} {bodies : List (List Char)}

theorem promql_space {q : Char} (h : promql.opens q = true) : Text.isWhitespace q = false := by
  have hq : q = '"' ∨ q = '\'' ∨ q = Char.ofNat 96 := by simpa [promql, or_assoc] using h
  rcases hq with rfl | rfl | rfl <;> decide

theorem promql_not_word {q : Char} (h : promql.opens q = true) :
    Pattern.isWord wide q = false := by
  have hq : q = '"' ∨ q = '\'' ∨ q = Char.ofNat 96 := by simpa [promql, or_assoc] using h
  rcases hq with rfl | rfl | rfl <;> rfl

theorem agree_unquoted : Agree promql (contents promql expr) expr (unquoted expr) :=
  ⟨_, List.Subset.refl _, Quoted.empties expr⟩

/-- No string has a bracket of the source. -/
def BracketFree (bodies : List (List Char)) : Prop :=
  ∀ body ∈ bodies, '(' ∉ body ∧ ')' ∉ body ∧ '[' ∉ body ∧ ']' ∉ body

/-- Character by character outside of strings, and from one string to the next over characters
    that are no brackets. -/
theorem agree_induction {motive : List Char → List Char → Prop} (hfree : BracketFree bodies)
    (h : Agree promql bodies xs ys) (nil : motive [] [])
    (char : ∀ c xs ys, Agree promql bodies xs ys → motive xs ys → motive (c :: xs) (c :: ys))
    (unclosed : ∀ xs ys, (∀ c ∈ xs, c ∉ "()[]".toList) → (∀ c ∈ ys, c ∉ "()[]".toList) →
      motive xs ys)
    (closed : ∀ front front' xs ys, (∀ c ∈ front, c ∉ "()[]".toList) →
      (∀ c ∈ front', c ∉ "()[]".toList) → motive xs ys → motive (front ++ xs) (front' ++ ys)) :
    motive xs ys := by
  have hquotes (q : Char) (hq : promql.opens q = true) : q ∉ "()[]".toList := by
    have hq : q = '"' ∨ q = '\'' ∨ q = Char.ofNat 96 := by simpa [promql, or_assoc] using hq
    rcases hq with rfl | rfl | rfl <;> decide
  have hbodies : ∀ body ∈ bodies, ∀ c ∈ body, c ∉ "()[]".toList := by
    intro body hbody c hc hmem
    obtain ⟨hparen, hparen', hbracket, hbracket'⟩ := hfree body hbody
    rcases (by simpa using hmem : c = '(' ∨ c = ')' ∨ c = '[' ∨ c = ']') with
      rfl | rfl | rfl | rfl
    · exact hparen hc
    · exact hparen' hc
    · exact hbracket hc
    · exact hbracket' hc
  exact h.skip_induction hquotes hbodies nil (fun c xs ys _ => char c xs ys) unclosed
    fun front front' xs ys hfront hfront' _ => closed front front' xs ys hfront hfront'

theorem cut_agree (hfree : BracketFree bodies) (h : Agree promql bodies xs ys) :
    Option.Rel (fun p p' => Agree promql bodies p.1 p'.1 ∧ Agree promql bodies p.2 p'.2)
      (Nesting.cutAtClose '(' ')' 0 xs) (Nesting.cutAtClose '(' ')' 0 ys) :=
  h.cutAtClose paren_ne (by decide) (by decide)
    (fun body hbody => ⟨(hfree body hbody).1, (hfree body hbody).2.1⟩) 0

theorem calls_agree (hfree : BracketFree bodies) (h : Agree promql bodies xs ys) :
    List.Forall₂ (fun p p' => p.1 = p'.1 ∧ Agree promql bodies p.2 p'.2)
      (calls (Pattern.isWord wide) xs) (calls (Pattern.isWord wide) ys) := by
  obtain ⟨bs, hbs, h⟩ := h
  refine (Quoted.calls_empties (by decide) (fun q hq => ⟨promql_not_word hq, promql_space hq⟩)
    (fun body hbody => (hfree body (hbs hbody)).1) h).imp fun p p' hp => ?_
  exact ⟨hp.1, hp.2.mono hbs⟩

end DarkTower.Guard
