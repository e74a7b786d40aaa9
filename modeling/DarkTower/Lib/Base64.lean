import Mathlib.Data.List.GetD
import Mathlib.Data.List.Nodup
import Mathlib.Tactic.Common

/-!
# Base64 text of byte strings

An `Engine` is an alphabet of 64 symbols with or without padding, as in the
`base64` crate. `decode` is as strict as the crate's engines are: padding is
required or forbidden, and the unused bits of the last symbol are zero.

`decode_encode`: every encoding decodes to what was encoded. `length_encode`
gives the length of a text without padding.
-/

namespace DarkTower.Lib.Base64

/-- An alphabet and whether the text is padded with `=`. -/
structure Engine where
  symbols : List Char
  padded : Bool
  length_symbols : symbols.length = 64
  nodup_symbols : symbols.Nodup
  pad_not_mem : '=' ∉ symbols

/-- `general_purpose::STANDARD`. -/
def standard : Engine where
  symbols := "ABCDEFGHIJKLMNOPQRSTUVWXYZabcdefghijklmnopqrstuvwxyz0123456789+/".toList
  padded := true
  length_symbols := by decide
  nodup_symbols := by decide +kernel
  pad_not_mem := by decide

/-- `general_purpose::URL_SAFE_NO_PAD`. -/
def urlSafeNoPad : Engine where
  symbols := "ABCDEFGHIJKLMNOPQRSTUVWXYZabcdefghijklmnopqrstuvwxyz0123456789-_".toList
  padded := false
  length_symbols := by decide
  nodup_symbols := by decide +kernel
  pad_not_mem := by decide

namespace Engine

variable (E : Engine)

/-- The symbol of a value below 64. -/
def symbol (n : ℕ) : Char := E.symbols.getD n 'A'

/-- The value of a symbol. -/
def value (c : Char) : Option ℕ := if c ∈ E.symbols then some (E.symbols.idxOf c) else none

/-- The text of a byte string, three bytes at a time. -/
def encodeChars : List UInt8 → List Char
  | [] => []
  | [a] =>
    [E.symbol (a.toNat / 4), E.symbol (a.toNat % 4 * 16)] ++ if E.padded then ['=', '='] else []
  | [a, b] =>
    [E.symbol (a.toNat / 4), E.symbol (a.toNat % 4 * 16 + b.toNat / 16),
      E.symbol (b.toNat % 16 * 4)] ++ if E.padded then ['='] else []
  | a :: b :: c :: rest =>
    E.symbol (a.toNat / 4) :: E.symbol (a.toNat % 4 * 16 + b.toNat / 16) ::
      E.symbol (b.toNat % 16 * 4 + c.toNat / 64) :: E.symbol (c.toNat % 64) :: encodeChars rest

/-- A last byte from two symbols. -/
def decodeOne (w x : Char) : Option (List UInt8) := do
  let w ← E.value w
  let x ← E.value x
  if x % 16 = 0 then some [UInt8.ofNat (w * 4 + x / 16)] else none

/-- Two last bytes from three symbols. -/
def decodeTwo (w x y : Char) : Option (List UInt8) := do
  let w ← E.value w
  let x ← E.value x
  let y ← E.value y
  if y % 4 = 0 then some [UInt8.ofNat (w * 4 + x / 16), UInt8.ofNat (x % 16 * 16 + y / 4)]
  else none

/-- The bytes of a text, four symbols at a time. -/
def decodeChars : List Char → Option (List UInt8)
  | [] => some []
  | [_] => none
  | [w, x] => if E.padded then none else E.decodeOne w x
  | [w, x, y] => if E.padded then none else E.decodeTwo w x y
  | w :: x :: y :: z :: rest =>
    if E.padded ∧ rest = [] ∧ z = '=' then
      if y = '=' then E.decodeOne w x else E.decodeTwo w x y
    else do
      let w ← E.value w
      let x ← E.value x
      let y ← E.value y
      let z ← E.value z
      let bytes ← decodeChars rest
      return UInt8.ofNat (w * 4 + x / 16) :: UInt8.ofNat (x % 16 * 16 + y / 4) ::
        UInt8.ofNat (y % 4 * 64 + z) :: bytes

/-- `encode`. -/
def encode (bytes : List UInt8) : String := String.ofList (E.encodeChars bytes)

/-- `decode`. -/
def decode (text : String) : Option (List UInt8) := E.decodeChars text.toList

variable {E}

theorem symbol_mem {n : ℕ} (h : n < 64) : E.symbol n ∈ E.symbols := by
  have hn : n < E.symbols.length := by rw [E.length_symbols]; exact h
  rw [symbol, List.getD_eq_getElem _ _ hn]
  exact List.getElem_mem hn

theorem value_symbol {n : ℕ} (h : n < 64) : E.value (E.symbol n) = some n := by
  have hn : n < E.symbols.length := by rw [E.length_symbols]; exact h
  rw [value, if_pos (symbol_mem h), symbol, List.getD_eq_getElem _ _ hn,
    E.nodup_symbols.idxOf_getElem]

theorem symbol_ne_pad {n : ℕ} (h : n < 64) : E.symbol n ≠ '=' :=
  fun heq => E.pad_not_mem (heq ▸ symbol_mem h)

theorem decodeOne_symbols (a : UInt8) :
    E.decodeOne (E.symbol (a.toNat / 4)) (E.symbol (a.toNat % 4 * 16)) = some [a] := by
  have ha : a.toNat < 256 := a.toNat_lt
  have hbits : a.toNat % 4 * 16 % 16 = 0 := by omega
  have hbyte : a.toNat / 4 * 4 + a.toNat % 4 * 16 / 16 = a.toNat := by omega
  rw [decodeOne, value_symbol (by omega), value_symbol (by omega)]
  simp only [Option.bind_eq_bind, Option.bind_some, hbits, if_true, hbyte, UInt8.ofNat_toNat]

theorem decodeTwo_symbols (a b : UInt8) :
    E.decodeTwo (E.symbol (a.toNat / 4)) (E.symbol (a.toNat % 4 * 16 + b.toNat / 16))
      (E.symbol (b.toNat % 16 * 4)) = some [a, b] := by
  have ha : a.toNat < 256 := a.toNat_lt
  have hb : b.toNat < 256 := b.toNat_lt
  have hbits : b.toNat % 16 * 4 % 4 = 0 := by omega
  have hfirst : a.toNat / 4 * 4 + (a.toNat % 4 * 16 + b.toNat / 16) / 16 = a.toNat := by omega
  have hsecond : (a.toNat % 4 * 16 + b.toNat / 16) % 16 * 16 + b.toNat % 16 * 4 / 4 = b.toNat := by
    omega
  rw [decodeTwo, value_symbol (by omega), value_symbol (by omega), value_symbol (by omega)]
  simp only [Option.bind_eq_bind, Option.bind_some, hbits, if_true, hfirst, hsecond,
    UInt8.ofNat_toNat]

theorem decodeChars_encodeChars (bytes : List UInt8) :
    E.decodeChars (E.encodeChars bytes) = some bytes := by
  -- the cases of the encoder: nothing, one or two last bytes, a full group
  induction bytes using encodeChars.induct with
  | case1 => rfl
  | case2 a =>
    rw [encodeChars]
    cases hpad : E.padded with
    | false => simpa [decodeChars, hpad] using decodeOne_symbols a
    | true => simpa [decodeChars, hpad] using decodeOne_symbols a
  | case3 a b =>
    have hb : b.toNat < 256 := b.toNat_lt
    have hne : E.symbol (b.toNat % 16 * 4) ≠ '=' := symbol_ne_pad (by omega)
    rw [encodeChars]
    cases hpad : E.padded with
    | false => simpa [decodeChars, hpad] using decodeTwo_symbols a b
    | true => simpa [decodeChars, hpad, hne] using decodeTwo_symbols a b
  | case4 a b c rest ih =>
    have ha : a.toNat < 256 := a.toNat_lt
    have hb : b.toNat < 256 := b.toNat_lt
    have hc : c.toNat < 256 := c.toNat_lt
    have hne : E.symbol (c.toNat % 64) ≠ '=' := symbol_ne_pad (by omega)
    have hfirst : a.toNat / 4 * 4 + (a.toNat % 4 * 16 + b.toNat / 16) / 16 = a.toNat := by omega
    have hsecond : (a.toNat % 4 * 16 + b.toNat / 16) % 16 * 16 +
        (b.toNat % 16 * 4 + c.toNat / 64) / 4 = b.toNat := by omega
    have hthird : (b.toNat % 16 * 4 + c.toNat / 64) % 4 * 64 + c.toNat % 64 = c.toNat := by omega
    rw [encodeChars, decodeChars, if_neg fun h => hne h.2.2, value_symbol (by omega),
      value_symbol (by omega), value_symbol (by omega), value_symbol (by omega), ih]
    simp only [Option.bind_eq_bind, Option.bind_some, hfirst, hsecond, hthird, UInt8.ofNat_toNat]
    rfl

theorem decode_encode (bytes : List UInt8) : E.decode (E.encode bytes) = some bytes := by
  rw [decode, encode, String.toList_ofList, decodeChars_encodeChars]

/-- The text of a byte string is made of symbols and padding. -/
theorem mem_encodeChars {bytes : List UInt8} {c : Char} (hc : c ∈ E.encodeChars bytes) :
    c ∈ E.symbols ∨ c = '=' := by
  induction bytes using encodeChars.induct with
  | case1 => cases hc
  | case2 a =>
    have ha : a.toNat < 256 := a.toNat_lt
    rw [encodeChars, List.mem_append] at hc
    rcases hc with hc | hc
    · simp only [List.mem_cons, List.not_mem_nil, or_false] at hc
      rcases hc with rfl | rfl <;> exact Or.inl (symbol_mem (by omega))
    · split_ifs at hc <;> simp_all
  | case3 a b =>
    have ha : a.toNat < 256 := a.toNat_lt
    have hb : b.toNat < 256 := b.toNat_lt
    rw [encodeChars, List.mem_append] at hc
    rcases hc with hc | hc
    · simp only [List.mem_cons, List.not_mem_nil, or_false] at hc
      rcases hc with rfl | rfl | rfl <;> exact Or.inl (symbol_mem (by omega))
    · split_ifs at hc <;> simp_all
  | case4 a b c rest ih =>
    have ha : a.toNat < 256 := a.toNat_lt
    have hb : b.toNat < 256 := b.toNat_lt
    have hc' : c.toNat < 256 := c.toNat_lt
    rw [encodeChars] at hc
    simp only [List.mem_cons] at hc
    rcases hc with rfl | rfl | rfl | rfl | hc
    · exact Or.inl (symbol_mem (by omega))
    · exact Or.inl (symbol_mem (by omega))
    · exact Or.inl (symbol_mem (by omega))
    · exact Or.inl (symbol_mem (by omega))
    · exact ih hc

/-- Without padding, three bytes make four symbols and the rest what it needs. -/
theorem length_encodeChars (h : E.padded = false) (bytes : List UInt8) :
    (E.encodeChars bytes).length = (4 * bytes.length + 2) / 3 := by
  induction bytes using encodeChars.induct with
  | case1 => rfl
  | case2 a => simp [encodeChars, h]
  | case3 a b => simp [encodeChars, h]
  | case4 a b c rest ih =>
    rw [encodeChars]
    simp only [List.length_cons, ih]
    omega

theorem length_encode (h : E.padded = false) (bytes : List UInt8) :
    (E.encode bytes).length = (4 * bytes.length + 2) / 3 := by
  rw [encode, String.length_ofList, length_encodeChars h]

end Engine

example : standard.encode [0x4d, 0x61] = "TWE=" ∧ standard.decode "TWE" = none ∧
    urlSafeNoPad.encode [0xfb, 0xff] = "-_8" := by decide

end DarkTower.Lib.Base64
