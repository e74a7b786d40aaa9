import Mathlib.Algebra.GroupWithZero.Nat
import Mathlib.Tactic.Common

/-!
# Bytes as characters

`byteChars` is a text in UTF-8 in which every byte is a character of its own, as `b as char`
makes it. ASCII characters stay as they are; any other one becomes at least two characters,
none of them ASCII.

`slice` is `&s[i..j]`: nothing where the source panics.
-/

namespace DarkTower.Lib.ByteChars

/-- The bytes of a character. -/
def charBytes (c : Char) : List Char :=
  (String.utf8EncodeChar c).map fun b => Char.ofNat b.toNat

/-- The bytes of a text. -/
def byteChars (text : List Char) : List Char := text.flatMap charBytes

@[simp] theorem byteChars_nil : byteChars [] = [] := rfl

@[simp] theorem byteChars_cons (c : Char) (cs : List Char) :
    byteChars (c :: cs) = charBytes c ++ byteChars cs := rfl

@[simp] theorem byteChars_append (cs ds : List Char) :
    byteChars (cs ++ ds) = byteChars cs ++ byteChars ds := List.flatMap_append

@[simp] theorem charBytes_ascii {c : Char} (h : c.toNat < 128) : charBytes c = [c] := by
  have hval : c.val.toNat ≤ 0x7f := Nat.le_of_lt_succ h
  have hbyte : (UInt8.ofNat c.val.toNat).toNat = c.toNat := by
    rw [UInt8.toNat_ofNat']
    exact Nat.mod_eq_of_lt (by omega)
  simp only [charBytes, String.utf8EncodeChar, if_pos hval, List.map_cons, List.map_nil, hbyte,
    Char.ofNat_toNat]

theorem toNat_ofNat_byte (n : ℕ) : (Char.ofNat (UInt8.ofNat n).toNat).toNat = n % 256 := by
  have hlt : n % 256 < 256 := Nat.mod_lt _ (by decide)
  have hvalid : (n % 2 ^ 8).isValidChar := .inl (by omega)
  rw [UInt8.toNat_ofNat', Char.ofNat, dif_pos hvalid]
  rfl

theorem toNat_of_mem_charBytes {c b : Char} (h : 128 ≤ c.toNat) (hb : b ∈ charBytes c) :
    128 ≤ b.toNat := by
  have hval : ¬ c.val.toNat ≤ 0x7f := Nat.not_le.mpr h
  simp only [charBytes, String.utf8EncodeChar, if_neg hval, List.mem_map] at hb
  obtain ⟨byte, hbyte, rfl⟩ := hb
  split_ifs at hbyte <;> simp only [List.mem_cons, List.not_mem_nil, or_false] at hbyte <;>
    rcases hbyte with rfl | rfl | rfl | rfl <;> rw [toNat_ofNat_byte] <;> omega

/-- A character beyond ASCII is at least two bytes. -/
theorem exists_charBytes {c : Char} (h : 128 ≤ c.toNat) :
    ∃ b₁ b₂ bs, charBytes c = b₁ :: b₂ :: bs ∧ 128 ≤ b₁.toNat ∧ 128 ≤ b₂.toNat := by
  have hbytes : ∃ b₁ b₂ bs, charBytes c = b₁ :: b₂ :: bs := by
    have hval : ¬ c.val.toNat ≤ 0x7f := Nat.not_le.mpr h
    simp only [charBytes, String.utf8EncodeChar, if_neg hval]
    split_ifs <;> exact ⟨_, _, _, rfl⟩
  obtain ⟨b₁, b₂, bs, hbytes⟩ := hbytes
  have hwide : ∀ b ∈ charBytes c, 128 ≤ b.toNat := fun b => toNat_of_mem_charBytes h
  rw [hbytes] at hwide
  exact ⟨b₁, b₂, bs, hbytes, hwide b₁ (by simp), hwide b₂ (by simp)⟩

/-- An ASCII character among the bytes is one of the text. -/
theorem mem_byteChars {a : Char} (ha : a.toNat < 128) {text : List Char} :
    a ∈ byteChars text ↔ a ∈ text := by
  rw [byteChars, List.mem_flatMap]
  constructor
  · rintro ⟨c, hc, hmem⟩
    obtain hascii | hwide := Nat.lt_or_ge c.toNat 128
    · rw [charBytes_ascii hascii, List.mem_singleton] at hmem
      rwa [hmem]
    · exact absurd (toNat_of_mem_charBytes hwide hmem) (Nat.not_le.mpr ha)
  · intro hmem
    exact ⟨a, hmem, by rw [charBytes_ascii ha]; exact List.mem_singleton_self a⟩

/-- The bytes start with an ASCII character when the text does. -/
theorem head?_byteChars {a : Char} (ha : a.toNat < 128) {text : List Char} :
    (byteChars text).head? = some a ↔ text.head? = some a := by
  cases text with
  | nil => rfl
  | cons c cs =>
    rw [byteChars_cons, List.head?_cons, Option.some_inj]
    obtain hascii | hwide := Nat.lt_or_ge c.toNat 128
    · rw [charBytes_ascii hascii, List.singleton_append, List.head?_cons, Option.some_inj]
    · obtain ⟨b, b₂, bs, hbytes, hb, -⟩ := exists_charBytes hwide
      rw [hbytes, List.cons_append, List.head?_cons, Option.some_inj]
      constructor
      · rintro rfl
        omega
      · rintro rfl
        omega

theorem byteChars_ascii {text : List Char} (h : ∀ c ∈ text, c.toNat < 128) :
    byteChars text = text := by
  induction text with
  | nil => rfl
  | cons c cs ih =>
    obtain ⟨hc, hcs⟩ := List.forall_mem_cons.mp h
    rw [byteChars_cons, charBytes_ascii hc, ih hcs, List.singleton_append]

/-! ## Slices -/

/-- `str::len`. -/
def byteLength (cs : List Char) : ℕ := (cs.map Char.utf8Size).sum

/-- The text up to byte `n` and from there on, if a character starts or ends there. -/
def cutBytes : ℕ → List Char → Option (List Char × List Char)
  | 0, cs => some ([], cs)
  | _ + 1, [] => none
  | n + 1, c :: cs =>
    if c.utf8Size ≤ n + 1 then
      (cutBytes (n + 1 - c.utf8Size) cs).map fun p => (c :: p.1, p.2)
    else none

/-- `&s[i..j]`. -/
def slice (cs : List Char) (i j : ℕ) : Option (List Char) :=
  if i ≤ j then (cutBytes j cs).bind fun p => (cutBytes i p.1).map (·.2) else none

@[simp] theorem byteLength_nil : byteLength [] = 0 := rfl

@[simp] theorem byteLength_cons (c : Char) (cs : List Char) :
    byteLength (c :: cs) = c.utf8Size + byteLength cs := List.sum_cons

@[simp] theorem byteLength_append (cs ds : List Char) :
    byteLength (cs ++ ds) = byteLength cs + byteLength ds := by
  unfold byteLength
  rw [List.map_append, List.sum_append]

theorem length_charBytes (c : Char) : (charBytes c).length = c.utf8Size := by
  rw [charBytes, List.length_map, String.length_utf8EncodeChar]

theorem utf8Size_ascii {c : Char} (h : c.toNat < 128) : c.utf8Size = 1 := by
  rw [← length_charBytes, charBytes_ascii h]
  rfl

variable {cs ds es : List Char} {c : Char} {n : ℕ}

theorem cutBytes_cons_of_le (h : c.utf8Size ≤ n) :
    cutBytes n (c :: cs) = (cutBytes (n - c.utf8Size) cs).map fun p => (c :: p.1, p.2) := by
  obtain ⟨m, rfl⟩ := Nat.exists_eq_add_of_lt (Nat.lt_of_lt_of_le c.utf8Size_pos h)
  rw [Nat.zero_add] at h ⊢
  exact if_pos h

theorem cutBytes_cons_of_lt (hn : 0 < n) (h : n < c.utf8Size) : cutBytes n (c :: cs) = none := by
  obtain ⟨m, rfl⟩ := Nat.exists_eq_add_of_lt hn
  rw [Nat.zero_add] at h ⊢
  exact if_neg (Nat.not_le.mpr h)

/-- A place in a text, counted in bytes. -/
theorem cutBytes_append (n : ℕ) :
    cutBytes (byteLength cs + n) (cs ++ ds) = (cutBytes n ds).map fun p => (cs ++ p.1, p.2) := by
  induction cs with
  | nil =>
    rw [byteLength_nil, Nat.zero_add, List.nil_append]
    cases cutBytes n ds <;> rfl
  | cons c cs ih =>
    have hle : c.utf8Size ≤ byteLength (c :: cs) + n := by
      rw [byteLength_cons]
      omega
    have hrest : byteLength (c :: cs) + n - c.utf8Size = byteLength cs + n := by
      rw [byteLength_cons]
      omega
    rw [List.cons_append, cutBytes_cons_of_le hle, hrest, ih, Option.map_map]
    rfl

theorem cutBytes_zero (cs : List Char) : cutBytes 0 cs = some ([], cs) := by
  cases cs <;> rfl

theorem cutBytes_byteLength : cutBytes (byteLength cs) (cs ++ ds) = some (cs, ds) := by
  have h := @cutBytes_append cs ds 0
  rw [Nat.add_zero, cutBytes_zero] at h
  rw [h, Option.map_some, List.append_nil]

theorem slice_append :
    slice (cs ++ (ds ++ es)) (byteLength cs) (byteLength cs + byteLength ds) = some ds := by
  unfold slice
  rw [if_pos (Nat.le_add_right _ _), cutBytes_append, cutBytes_byteLength, Option.map_some,
    Option.bind_some, cutBytes_byteLength, Option.map_some]

/-- A slice that would end inside of a character. -/
theorem slice_inside (hn : 0 < n) (h : n < c.utf8Size) :
    slice (cs ++ (ds ++ c :: es)) (byteLength cs) (byteLength cs + (byteLength ds + n)) = none := by
  unfold slice
  rw [if_pos (Nat.le_add_right _ _), cutBytes_append, cutBytes_append, cutBytes_cons_of_lt hn h]
  rfl

/-- A slice that would end before it starts. -/
theorem slice_of_lt {i j : ℕ} (h : j < i) : slice cs i j = none := if_neg (Nat.not_le.mpr h)

end DarkTower.Lib.ByteChars
