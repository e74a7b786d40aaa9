import DarkTower.Lib.Text
import Mathlib.Algebra.Group.Nat.Defs
import Mathlib.Algebra.GroupWithZero.Nat

/-!
# Durations (`dt-guard/src/common/duration.rs`)

A duration is a sequence of numbers with units, as `1h30m`. `parse_prometheus_duration` adds
the seconds of what a regular expression finds in the text, and compares what it found with
the text.

* `parsePrometheusDuration_eq_some_iff`: the texts that have a duration, and which.
* `parsePrometheusDuration_append`: of two durations in a row it is the sum, if that fits.
-/

namespace DarkTower.Guard.PrometheusDuration

open DarkTower.Lib

/-! ## The source -/

/-- `\d`; `wideDigit` are the digits beyond ASCII. -/
def isDigit (wideDigit : Char → Bool) (c : Char) : Bool :=
  if c.toNat < 128 then c.isDigit else wideDigit c

/-- The seconds of `[smhdwy]`. -/
def unitSeconds : Char → Option ℕ
  | 's' => some 1
  | 'm' => some 60
  | 'h' => some 3600
  | 'd' => some 86400
  | 'w' => some 604800
  | 'y' => some 31536000
  | _ => none

/-- `u64::checked_add` and `u64::checked_mul`, given the result. -/
def checkedU64 (n : ℕ) : Option ℕ := if n < 2 ^ 64 then some n else none

/-- The number that the digits write. -/
def decimal (digits : List Char) : ℕ :=
  digits.foldl (fun n c => 10 * n + (c.toNat - '0'.toNat)) 0

/-- `str::parse::<u64>` of a text that `\d+` took. -/
def parseU64 (digits : List Char) : Option ℕ :=
  if digits ≠ [] ∧ ∀ c ∈ digits, c.isDigit = true then checkedU64 (decimal digits) else none

/-- `DURATION_RE.captures_iter`, `digits` standing in front. -/
def durationMatches (wideDigit : Char → Bool) (digits : List Char) :
    List Char → List (List Char × Char)
  | [] => []
  | c :: cs =>
    if isDigit wideDigit c then durationMatches wideDigit (digits ++ [c]) cs
    else if digits ≠ [] ∧ (unitSeconds c).isSome then (digits, c) :: durationMatches wideDigit [] cs
    else durationMatches wideDigit [] cs

/-- `matched`. -/
def matched (found : List (List Char × Char)) : List Char := found.flatMap fun m => m.1 ++ [m.2]

/-- The loop of `parse_prometheus_duration`. -/
def addMatches : ℕ → List (List Char × Char) → Option ℕ
  | total, [] => some total
  | total, (num, unit) :: found =>
    (parseU64 num).bind fun n => (unitSeconds unit).bind fun mult =>
      (checkedU64 (n * mult)).bind fun seconds => (checkedU64 (total + seconds)).bind fun total =>
        addMatches total found

/-- `parse_prometheus_duration` (common/duration.rs:25). -/
def parsePrometheusDuration (wideDigit : Char → Bool) (s : List Char) : Option ℕ :=
  let trimmed := Text.trim s
  if trimmed = [] then none
  else
    let found := durationMatches wideDigit [] trimmed
    (addMatches 0 found).bind fun total => if matched found = trimmed then some total else none

/-! ## What it is for -/

/-- The units of a Prometheus duration. -/
inductive TimeUnit
  | s
  | m
  | h
  | d
  | w
  | y

/-- The letter of a unit. -/
def TimeUnit.char : TimeUnit → Char
  | s => 's'
  | m => 'm'
  | h => 'h'
  | d => 'd'
  | w => 'w'
  | y => 'y'

/-- The seconds of a unit. -/
def TimeUnit.seconds : TimeUnit → ℕ
  | s => 1
  | m => 60
  | h => 60 * 60
  | d => 24 * (60 * 60)
  | w => 7 * (24 * (60 * 60))
  | y => 365 * (24 * (60 * 60))

/-- A number with a unit. -/
structure Pair where
  number : List Char
  unit : TimeUnit
  number_ne_nil : number ≠ []
  number_digits : ∀ c ∈ number, c.isDigit = true

namespace Pair

/-- The text of a pair. -/
def text (p : Pair) : List Char := p.number ++ [p.unit.char]

/-- The seconds of a pair. -/
def seconds (p : Pair) : ℕ := decimal p.number * p.unit.seconds

end Pair

/-- The text of the pairs, one after the other. -/
def text (ps : List Pair) : List Char := ps.flatMap Pair.text

/-- The seconds of the pairs together. -/
def seconds (ps : List Pair) : ℕ := (ps.map Pair.seconds).sum

variable {wideDigit : Char → Bool} {s digits rest : List Char} {ps qs : List Pair} {n total : ℕ}

/-! ## What the regular expression finds -/

theorem toNat_of_isDigit {c : Char} (h : c.isDigit = true) : 48 ≤ c.toNat ∧ c.toNat ≤ 57 := by
  simpa [Char.isDigit, UInt32.le_iff_toNat_le, ← Char.toNat_val] using h

theorem isDigit_of_isDigit {c : Char} (h : c.isDigit = true) : isDigit wideDigit c = true := by
  unfold isDigit
  rw [if_pos (by have := toNat_of_isDigit h; omega), h]

theorem unitSeconds_char (unit : TimeUnit) : unitSeconds unit.char = some unit.seconds := by
  cases unit <;> rfl

theorem exists_unit {c : Char} {mult : ℕ} (h : unitSeconds c = some mult) :
    ∃ unit : TimeUnit, c = unit.char := by
  unfold unitSeconds at h
  split at h
  · exact ⟨.s, rfl⟩
  · exact ⟨.m, rfl⟩
  · exact ⟨.h, rfl⟩
  · exact ⟨.d, rfl⟩
  · exact ⟨.w, rfl⟩
  · exact ⟨.y, rfl⟩
  · cases h

theorem isDigit_unit (unit : TimeUnit) : isDigit wideDigit unit.char = false := by
  cases unit <;> rfl

theorem isWhitespace_unit (unit : TimeUnit) : Text.isWhitespace unit.char = false := by
  cases unit <;> decide

theorem isWhitespace_of_mem_text : ∀ c ∈ text ps, Text.isWhitespace c = false := by
  intro c hc
  obtain ⟨p, -, hc⟩ := List.mem_flatMap.mp hc
  obtain hc | hc := List.mem_append.mp hc
  · exact Text.isWhitespace_of_isDigit (p.number_digits c hc)
  · rw [List.mem_singleton.mp hc]
    exact isWhitespace_unit p.unit

theorem text_cons (p : Pair) (ps : List Pair) :
    text (p :: ps) = p.number ++ p.unit.char :: text ps := by
  unfold text
  rw [List.flatMap_cons, Pair.text, List.append_assoc, List.singleton_append]

theorem text_append : text (ps ++ qs) = text ps ++ text qs := List.flatMap_append

theorem text_eq_nil_iff : text ps = [] ↔ ps = [] := by
  cases ps with
  | nil => exact iff_of_true rfl rfl
  | cons p ps => simp [text_cons]

theorem seconds_append : seconds (ps ++ qs) = seconds ps + seconds qs := by
  unfold seconds
  rw [List.map_append, List.sum_append]

theorem durationMatches_number (hdigits : ∀ c ∈ digits, c.isDigit = true) (pre : List Char) :
    durationMatches wideDigit pre (digits ++ rest) =
      durationMatches wideDigit (pre ++ digits) rest := by
  induction digits generalizing pre with
  | nil => rw [List.nil_append, List.append_nil]
  | cons c digits ih =>
    obtain ⟨hc, hdigits⟩ := List.forall_mem_cons.mp hdigits
    rw [List.cons_append, durationMatches, if_pos (isDigit_of_isDigit hc), ih hdigits,
      List.append_assoc, List.singleton_append]

/-- The matches in a duration are its pairs. -/
theorem durationMatches_text :
    durationMatches wideDigit [] (text ps) = ps.map fun p => (p.number, p.unit.char) := by
  induction ps with
  | nil => rfl
  | cons p ps ih =>
    rw [text_cons, durationMatches_number p.number_digits, List.nil_append, durationMatches,
      isDigit_unit, if_neg (by decide), if_pos ⟨p.number_ne_nil, by rw [unitSeconds_char]; rfl⟩, ih]
    rfl

theorem matched_pairs : matched (ps.map fun p => (p.number, p.unit.char)) = text ps := by
  unfold matched text
  rw [List.flatMap_map]
  rfl

theorem unit_seconds_pos (unit : TimeUnit) : 0 < unit.seconds := by
  cases unit <;> decide

/-- The checked operations add up the seconds, or one of them fails. -/
theorem addMatches_pairs (htotal : total < 2 ^ 64) :
    addMatches total (ps.map fun p => (p.number, p.unit.char)) =
      checkedU64 (total + seconds ps) := by
  induction ps generalizing total with
  | nil => exact (if_pos htotal).symm
  | cons p ps ih =>
    have hseconds : seconds (p :: ps) = p.seconds + seconds ps := by
      unfold seconds
      rw [List.map_cons, List.sum_cons]
    have hle : decimal p.number ≤ p.seconds := Nat.le_mul_of_pos_right _ (unit_seconds_pos p.unit)
    rw [List.map_cons, addMatches, unitSeconds_char, hseconds]
    unfold parseU64
    rw [if_pos ⟨p.number_ne_nil, p.number_digits⟩]
    by_cases hfits : total + p.seconds < 2 ^ 64
    · have hnumber : checkedU64 (decimal p.number) = some (decimal p.number) :=
        if_pos (by omega)
      have hproduct : checkedU64 (decimal p.number * p.unit.seconds) = some p.seconds :=
        if_pos (show p.seconds < 2 ^ 64 by omega)
      have hsum : checkedU64 (total + p.seconds) = some (total + p.seconds) := if_pos hfits
      rw [hnumber, Option.bind_some, Option.bind_some, hproduct, Option.bind_some, hsum,
        Option.bind_some, ih hfits, Nat.add_assoc]
    · have hnone : checkedU64 (total + (p.seconds + seconds ps)) = none := if_neg (by omega)
      have hsum : checkedU64 (total + p.seconds) = none := if_neg hfits
      rw [hnone]
      refine Option.eq_none_iff_forall_ne_some.mpr fun n hn => ?_
      obtain ⟨a, ha, hn⟩ := Option.bind_eq_some_iff.mp hn
      rw [Option.bind_some] at hn
      obtain ⟨b, hb, hn⟩ := Option.bind_eq_some_iff.mp hn
      obtain ⟨c, hc, -⟩ := Option.bind_eq_some_iff.mp hn
      obtain rfl : decimal p.number = a := by
        unfold checkedU64 at ha
        split_ifs at ha
        exact Option.some.inj ha
      obtain rfl : p.seconds = b := by
        unfold checkedU64 at hb
        split_ifs at hb
        exact Option.some.inj hb
      rw [hsum] at hc
      cases hc

/-- Matches that can be added are pairs. -/
theorem exists_pairs_of_addMatches {found : List (List Char × Char)}
    (h : addMatches total found = some n) :
    ∃ ps : List Pair, found = ps.map fun p => (p.number, p.unit.char) := by
  induction found generalizing total with
  | nil => exact ⟨[], rfl⟩
  | cons m found ih =>
    obtain ⟨num, unit⟩ := m
    rw [addMatches] at h
    obtain ⟨a, ha, h⟩ := Option.bind_eq_some_iff.mp h
    obtain ⟨mult, hmult, h⟩ := Option.bind_eq_some_iff.mp h
    obtain ⟨product, -, h⟩ := Option.bind_eq_some_iff.mp h
    obtain ⟨total', -, h⟩ := Option.bind_eq_some_iff.mp h
    obtain ⟨ps, rfl⟩ := ih h
    obtain ⟨unit, rfl⟩ := exists_unit hmult
    unfold parseU64 at ha
    split_ifs at ha with hnum
    exact ⟨⟨num, unit, hnum.1, hnum.2⟩ :: ps, rfl⟩

/-- A sum fits iff its parts do and their sum does. -/
theorem checkedU64_add (m n : ℕ) :
    checkedU64 (m + n) = (checkedU64 m).bind fun a => (checkedU64 n).bind fun b =>
      checkedU64 (a + b) := by
  by_cases hsum : m + n < 2 ^ 64
  · have hm : checkedU64 m = some m := if_pos (by omega)
    have hn : checkedU64 n = some n := if_pos (by omega)
    rw [hm, hn]
    rfl
  · have hnone : checkedU64 (m + n) = none := if_neg hsum
    rw [hnone]
    refine (Option.eq_none_iff_forall_ne_some.mpr fun k hk => ?_).symm
    obtain ⟨a, ha, hk⟩ := Option.bind_eq_some_iff.mp hk
    obtain ⟨b, hb, hk⟩ := Option.bind_eq_some_iff.mp hk
    unfold checkedU64 at ha hb
    split_ifs at ha hb
    obtain rfl := Option.some.inj ha
    obtain rfl := Option.some.inj hb
    rw [hnone] at hk
    cases hk

/-! ## Results -/

theorem parsePrometheusDuration_of_trim (hps : ps ≠ []) (htrim : Text.trim s = text ps) :
    parsePrometheusDuration wideDigit s = checkedU64 (seconds ps) := by
  unfold parsePrometheusDuration
  dsimp only
  rw [htrim, if_neg (text_eq_nil_iff.not.mpr hps), durationMatches_text,
    addMatches_pairs (by decide), Nat.zero_add, matched_pairs]
  cases checkedU64 (seconds ps) with
  | none => rfl
  | some n => exact if_pos rfl

/-- A text has a duration iff it is a sequence of pairs, but for white space around it, and
    their sum fits. -/
theorem parsePrometheusDuration_eq_some_iff :
    parsePrometheusDuration wideDigit s = some n ↔
      ∃ ps, ps ≠ [] ∧ Text.trim s = text ps ∧ seconds ps < 2 ^ 64 ∧ seconds ps = n := by
  constructor
  · intro h
    unfold parsePrometheusDuration at h
    dsimp only at h
    by_cases hnil : Text.trim s = []
    · rw [if_pos hnil] at h
      cases h
    rw [if_neg hnil] at h
    obtain ⟨total, htotal, h⟩ := Option.bind_eq_some_iff.mp h
    split_ifs at h with hmatched
    obtain rfl := Option.some.inj h
    obtain ⟨ps, hps⟩ := exists_pairs_of_addMatches htotal
    rw [hps, matched_pairs] at hmatched
    rw [hps, addMatches_pairs (by decide), Nat.zero_add] at htotal
    unfold checkedU64 at htotal
    split_ifs at htotal with hfits
    refine ⟨ps, ?_, hmatched.symm, hfits, Option.some.inj htotal⟩
    rintro rfl
    exact hnil hmatched.symm
  · rintro ⟨ps, hps, htrim, hfits, rfl⟩
    rw [parsePrometheusDuration_of_trim hps htrim]
    exact if_pos hfits

theorem parsePrometheusDuration_text (hps : ps ≠ []) :
    parsePrometheusDuration wideDigit (text ps) = checkedU64 (seconds ps) :=
  parsePrometheusDuration_of_trim hps (Text.trim_eq_self isWhitespace_of_mem_text)

/-- Durations in a row add up. -/
theorem parsePrometheusDuration_append (hps : ps ≠ []) (hqs : qs ≠ []) :
    parsePrometheusDuration wideDigit (text ps ++ text qs) =
      (parsePrometheusDuration wideDigit (text ps)).bind fun a =>
        (parsePrometheusDuration wideDigit (text qs)).bind fun b => checkedU64 (a + b) := by
  rw [← text_append, parsePrometheusDuration_text (List.append_ne_nil_of_left_ne_nil hps qs),
    parsePrometheusDuration_text hps, parsePrometheusDuration_text hqs, seconds_append]
  exact checkedU64_add _ _

end DarkTower.Guard.PrometheusDuration
