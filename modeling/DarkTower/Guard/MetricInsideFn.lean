import DarkTower.Lib.ByteChars
import DarkTower.Lib.Nesting
import DarkTower.Lib.Pattern
import DarkTower.Lib.Words

/-!
# A metric inside of a call (`dt-guard/src/dashboard_panels.rs`)

`metric_inside_fn` looks for a call of one of some functions that has a metric among the
words of its argument. The argument runs to the parenthesis that closes the call, or to the
end of the expression if none does (`IsArgument`). The source walks over the bytes behind
the opening parenthesis until the depth is zero, and takes the slice up to one byte before
the place where the walk ended: without the parenthesis, if there is one, but without the
last byte of the expression if there is none.

* `callSpan_eq`: the slice, and when there is none (the source panics).
* `metricInsideFnLoop_eq`: what the loop over the calls returns.
* `safeExact_iff`: when the answer is that of the definition (`InsideCall`).

The depth of the source is an `i32`; no expression of less than 2 GiB overflows it.
-/

namespace DarkTower.Guard

open DarkTower.Lib
open ByteChars (byteChars byteLength slice)
open Nesting (Keeps cutAtClose delta height)
open Words (WholeWord calls words)

/-! ## The source -/

/-- How many bytes the walk reads. -/
def parenWalk : ℤ → List Char → ℕ
  | _, [] => 0
  | depth, b :: bs => if 0 < depth then parenWalk (depth + delta '(' ')' b) bs + 1 else 0

/-- The span of a call, `rest` standing behind its parenthesis; nothing where the slice
    panics. -/
def callSpan (expr rest : List Char) : Option (List Char) :=
  let start := byteLength expr - byteLength rest
  let i := start + parenWalk 1 (byteChars rest)
  slice expr start (i - 1)

/-- The loop over the matches of `FN_CALL_RE`. -/
def metricInsideFnLoop (wide : Char → Bool) (expr metric : List Char)
    (fnNames : List (List Char)) : List (List Char × List Char) → Option Bool
  | [] => some false
  | (name, rest) :: more =>
    if name ∉ fnNames then metricInsideFnLoop wide expr metric fnNames more
    else
      match callSpan expr rest with
      | none => none
      | some span =>
        if metric ∈ words (Pattern.isWord wide) span then some true
        else metricInsideFnLoop wide expr metric fnNames more

/-- `metric_inside_fn` (dashboard_panels.rs:225); nothing where it panics. -/
def metricInsideFn (wide : Char → Bool) (expr metric : List Char)
    (fnNames : List (List Char)) : Option Bool :=
  metricInsideFnLoop wide expr metric fnNames (calls (Pattern.isWord wide) expr)

/-! ## What it is for -/

/-- The argument of a call, `rest` standing behind its parenthesis: up to the parenthesis
    that closes it, or all of it if there is none. -/
def IsArgument (rest span : List Char) : Prop :=
  (∃ after, rest = span ++ ')' :: after ∧ Keeps '(' ')' 0 span ∧ height '(' ')' span = 0) ∨
    rest = span ∧ Keeps '(' ')' 0 rest

/-- An occurrence of the metric as a whole word lies inside the argument of a call of one
    of the functions. -/
def InsideCall (wide : Char → Bool) (expr metric : List Char) (fnNames : List (List Char)) :
    Prop :=
  ∃ before name gap rest span front back,
    expr = before ++ (name ++ (gap ++ '(' :: rest)) ∧
    WholeWord (Pattern.isWord wide) before name (gap ++ '(' :: rest) ∧
    (∀ c ∈ gap, Text.isWhitespace c = true) ∧ name ∈ fnNames ∧ IsArgument rest span ∧
    span = front ++ (metric ++ back) ∧ WholeWord (Pattern.isWord wide) front metric back

/-- `metric_inside_fn` does not panic and is right. -/
def SafeExact (wide : Char → Bool) (expr metric : List Char) (fnNames : List (List Char)) :
    Prop :=
  ∃ b, metricInsideFn wide expr metric fnNames = some b ∧
    (b = true ↔ InsideCall wide expr metric fnNames)

/-! ## The span of a call -/

/-- The argument of a call. -/
def argumentSpan (rest : List Char) : List Char :=
  match cutAtClose '(' ')' 0 rest with
  | some (span, _) => span
  | none => rest

/-- A parenthesis closes the call. -/
def ClosedCall (rest : List Char) : Prop := ¬Keeps '(' ')' 0 rest

/-- The call is closed, or a character of one byte ends the expression behind it. -/
def Sliceable (rest : List Char) : Prop :=
  ClosedCall rest ∨ ∃ c ∈ rest.getLast?, c.utf8Size = 1

/-- What the source takes for the argument: an open call loses the last character. -/
def cutSpan (rest : List Char) : List Char :=
  match cutAtClose '(' ')' 0 rest with
  | some (span, _) => span
  | none => rest.dropLast

variable {wide : Char → Bool} {expr metric rest span front : List Char}
  {fnNames : List (List Char)} {d : ℕ}

theorem paren_ne : ')' ≠ '(' := by decide

theorem closedCall_iff :
    ClosedCall rest ↔ ∃ span after, cutAtClose '(' ')' 0 rest = some (span, after) := by
  show ¬Keeps '(' ')' ((0 : ℕ) : ℤ) rest ↔ _
  rw [← Nesting.cutAtClose_eq_none_iff paren_ne]
  cases cutAtClose '(' ')' 0 rest with
  | none => simp
  | some p => exact iff_of_true (by simp) ⟨p.1, p.2, rfl⟩

theorem cutAtClose_of_open (h : ¬ClosedCall rest) : cutAtClose '(' ')' 0 rest = none := by
  unfold ClosedCall at h
  exact (Nesting.cutAtClose_eq_none_iff paren_ne).mpr (not_not.mp h)

theorem isArgument_iff : IsArgument rest span ↔ span = argumentSpan rest := by
  have hclosed : (∃ after, rest = span ++ ')' :: after ∧ Keeps '(' ')' 0 span ∧
      height '(' ')' span = 0) ↔ ∃ after, cutAtClose '(' ')' 0 rest = some (span, after) := by
    refine exists_congr fun after => ?_
    rw [Nesting.cutAtClose_eq_some_iff paren_ne, Int.natCast_zero, Int.zero_add]
  have hopen : Keeps '(' ')' 0 rest ↔ cutAtClose '(' ')' 0 rest = none :=
    (Nesting.cutAtClose_eq_none_iff (d := 0) paren_ne).symm
  unfold IsArgument argumentSpan
  rw [hclosed, hopen]
  cases cutAtClose '(' ')' 0 rest with
  | none => simp [eq_comm]
  | some p => simp [Prod.ext_iff, eq_comm]

/-- No byte of any other character is a parenthesis. -/
theorem delta_charBytes {c b : Char} (hop : c ≠ '(') (hcl : c ≠ ')')
    (hb : b ∈ ByteChars.charBytes c) : delta '(' ')' b = 0 := by
  obtain hascii | hwide := Nat.lt_or_ge c.toNat 128
  · rw [ByteChars.charBytes_ascii hascii, List.mem_singleton] at hb
    rw [hb]
    exact Nesting.delta_of_ne hop hcl
  · have hbyte := ByteChars.toNat_of_mem_charBytes hwide hb
    refine Nesting.delta_of_ne ?_ ?_ <;>
    · rintro rfl
      revert hbyte
      decide

theorem parenWalk_append {bs cs : List Char} {depth : ℤ} (hdepth : 0 < depth)
    (hbs : ∀ b ∈ bs, delta '(' ')' b = 0) :
    parenWalk depth (bs ++ cs) = parenWalk depth cs + bs.length := by
  induction bs with
  | nil => rfl
  | cons b bs ih =>
    obtain ⟨hb, hbs⟩ := List.forall_mem_cons.mp hbs
    rw [List.cons_append, parenWalk, if_pos hdepth, hb, Int.add_zero, ih hbs, List.length_cons,
      Nat.add_assoc]

/-- One more character in front of what is walked over. -/
theorem walked_cons (c : Char) (cs : List Char) (found : Option (List Char × List Char)) :
    (match found.map fun p => (c :: p.1, p.2) with
      | some (span, _) => byteLength span + 1
      | none => byteLength (c :: cs)) =
    (match found with
      | some (span, _) => byteLength span + 1
      | none => byteLength cs) + c.utf8Size := by
  cases found with
  | none => exact (ByteChars.byteLength_cons c cs).trans (Nat.add_comm _ _)
  | some p =>
    show byteLength (c :: p.1) + 1 = byteLength p.1 + 1 + c.utf8Size
    rw [ByteChars.byteLength_cons]
    omega

/-- The walk ends behind the parenthesis that closes the call, or at the end. -/
theorem parenWalk_eq :
    parenWalk (d + 1) (byteChars rest) =
      match cutAtClose '(' ')' d rest with
      | some (span, _) => byteLength span + 1
      | none => byteLength rest := by
  induction rest generalizing d with
  | nil => rfl
  | cons c cs ih =>
    have hpos : (0 : ℤ) < (d : ℤ) + 1 := by omega
    rw [ByteChars.byteChars_cons]
    by_cases hop : c = '('
    · subst hop
      have hdelta : (d : ℤ) + 1 + delta '(' ')' '(' = ((d + 1 : ℕ) : ℤ) + 1 := by
        rw [Nesting.delta_op]
        push_cast
        rfl
      rw [ByteChars.charBytes_ascii (by decide), List.singleton_append, parenWalk, if_pos hpos,
        hdelta, ih, Nesting.cutAtClose_cons_op, walked_cons, ByteChars.utf8Size_ascii (by decide)]
    by_cases hcl : c = ')'
    · subst hcl
      have hdelta : (d : ℤ) + 1 + delta '(' ')' ')' = d := by
        rw [Nesting.delta_cl paren_ne]
        omega
      rw [ByteChars.charBytes_ascii (by decide), List.singleton_append, parenWalk, if_pos hpos,
        hdelta]
      cases d with
      | zero =>
        have hzero (bs : List Char) : parenWalk ((0 : ℕ) : ℤ) bs = 0 := by
          cases bs with
          | nil => rfl
          | cons b bs =>
            rw [parenWalk]
            exact if_neg (Int.lt_irrefl _)
        rw [hzero, Nesting.cutAtClose_cons_cl_zero paren_ne]
        rfl
      | succ d =>
        rw [show ((d + 1 : ℕ) : ℤ) = d + 1 from rfl, ih, Nesting.cutAtClose_cons_cl_succ paren_ne,
          walked_cons, ByteChars.utf8Size_ascii (by decide)]
    · rw [parenWalk_append hpos fun b hb => delta_charBytes hop hcl hb, ih,
        ByteChars.length_charBytes, Nesting.cutAtClose_cons_of_ne hop hcl, walked_cons]

/-- The slice of the source: none for an open call with nothing behind it, or with a
    character of several bytes at the end. -/
theorem callSpan_eq (hfront : front ≠ []) :
    (Sliceable rest → callSpan (front ++ rest) rest = some (cutSpan rest)) ∧
      (¬Sliceable rest → callSpan (front ++ rest) rest = none) := by
  have hstart : byteLength (front ++ rest) - byteLength rest = byteLength front := by
    rw [ByteChars.byteLength_append, Nat.add_sub_cancel]
  have hwalk : parenWalk 1 (byteChars rest) = _ := parenWalk_eq (d := 0)
  unfold callSpan cutSpan
  dsimp only
  rw [hstart, hwalk]
  cases hcut : cutAtClose '(' ')' 0 rest with
  | some p =>
    obtain ⟨span, after⟩ := p
    have hclosed : ClosedCall rest := closedCall_iff.mpr ⟨span, after, hcut⟩
    obtain ⟨rfl, -⟩ := (Nesting.cutAtClose_eq_some_iff paren_ne).mp hcut
    refine ⟨fun _ => ?_, fun h => absurd (.inl hclosed) h⟩
    show slice _ _ (byteLength front + (byteLength span + 1) - 1) = some span
    exact ByteChars.slice_append
  | none =>
    have hopen : ¬ClosedCall rest := by
      rw [closedCall_iff]
      rintro ⟨span, after, hsome⟩
      rw [hcut] at hsome
      cases hsome
    show (_ → slice _ _ (byteLength front + byteLength rest - 1) = some rest.dropLast) ∧
      (_ → slice _ _ (byteLength front + byteLength rest - 1) = none)
    rcases List.eq_nil_or_concat rest with rfl | ⟨init, c, rfl⟩
    · refine ⟨?_, fun _ => ?_⟩
      · rintro (h | ⟨c, hc, -⟩)
        · exact absurd h hopen
        · cases hc
      · obtain ⟨c, front, rfl⟩ := List.exists_cons_of_ne_nil hfront
        have hsize := c.utf8Size_pos
        refine ByteChars.slice_of_lt ?_
        rw [ByteChars.byteLength_cons, ByteChars.byteLength_nil]
        omega
    · rw [List.concat_eq_append] at hopen ⊢
      have hsize := c.utf8Size_pos
      have hend : byteLength front + byteLength (init ++ [c]) - 1 =
          byteLength front + (byteLength init + (c.utf8Size - 1)) := by
        rw [ByteChars.byteLength_append, ByteChars.byteLength_cons, ByteChars.byteLength_nil]
        omega
      have hlast : Sliceable (init ++ [c]) ↔ c.utf8Size = 1 := by
        unfold Sliceable
        rw [or_iff_right hopen, List.getLast?_concat]
        simp
      rw [hend, hlast]
      refine ⟨fun h => ?_, fun h => ?_⟩
      · rw [h, List.dropLast_concat]
        exact ByteChars.slice_append
      · exact ByteChars.slice_inside (by omega) (by omega)

/-! ## The loop -/

/-- What stands behind the parentheses of the calls of these functions, in order. -/
def callRests (wide : Char → Bool) (expr : List Char) (fnNames : List (List Char)) :
    List (List Char) :=
  ((calls (Pattern.isWord wide) expr).filter (·.1 ∈ fnNames)).map (·.2)

/-- Every call that the loop comes to has a slice: a call before it that shows the metric
    ends the loop. -/
def ReachedSliceable (wide : Char → Bool) (metric : List Char) (rests : List (List Char)) : Prop :=
  ∀ before rest after, rests = before ++ rest :: after →
    (∀ r ∈ before, metric ∉ words (Pattern.isWord wide) (cutSpan r)) → Sliceable rest

theorem reachedSliceable_of_forall {rests : List (List Char)} (h : ∀ rest ∈ rests, Sliceable rest) :
    ReachedSliceable wide metric rests := by
  rintro before rest after rfl -
  exact h rest (by simp)

theorem reachedSliceable_cons {rests : List (List Char)} :
    ReachedSliceable wide metric (rest :: rests) ↔ Sliceable rest ∧
      (metric ∉ words (Pattern.isWord wide) (cutSpan rest) →
        ReachedSliceable wide metric rests) := by
  constructor
  · intro h
    refine ⟨h [] rest rests rfl nofun, fun hnot before r after heq hbefore => ?_⟩
    refine h (rest :: before) r after (by rw [heq, List.cons_append]) ?_
    exact List.forall_mem_cons.mpr ⟨hnot, hbefore⟩
  · rintro ⟨hrest, hmore⟩ before r after heq hbefore
    cases before with
    | nil =>
      obtain ⟨rfl, -⟩ := List.cons.inj heq
      exact hrest
    | cons r' before =>
      obtain ⟨rfl, rfl⟩ := List.cons.inj heq
      obtain ⟨hnot, hbefore⟩ := List.forall_mem_cons.mp hbefore
      exact hmore hnot before r after rfl hbefore

/-- A call of the expression has text in front of what follows its parenthesis. -/
theorem exists_front_of_mem_calls {name : List Char} {isWord : Char → Bool}
    (h : (name, rest) ∈ calls isWord expr) : ∃ front, front ≠ [] ∧ expr = front ++ rest := by
  obtain ⟨before, gap, rfl, -⟩ := Words.mem_calls_iff.mp h
  refine ⟨before ++ (name ++ (gap ++ ['('])), ?_, by simp⟩
  simp

/-- The loop panics where it comes to a call without a slice; else it looks for the metric
    in all slices. -/
theorem metricInsideFnLoop_eq {cs : List (List Char × List Char)}
    (hcs : ∀ c ∈ cs, ∃ front, front ≠ [] ∧ expr = front ++ c.2) (b : Bool) :
    metricInsideFnLoop wide expr metric fnNames cs = some b ↔
      ReachedSliceable wide metric ((cs.filter (·.1 ∈ fnNames)).map (·.2)) ∧
        (b = true ↔ ∃ rest ∈ (cs.filter (·.1 ∈ fnNames)).map (·.2),
          metric ∈ words (Pattern.isWord wide) (cutSpan rest)) := by
  induction cs with
  | nil =>
    have hreached : ReachedSliceable wide metric [] := reachedSliceable_of_forall nofun
    show some false = some b ↔ _
    rw [List.filter_nil, List.map_nil, and_iff_right hreached]
    cases b <;> simp
  | cons c cs ih =>
    obtain ⟨name, rest⟩ := c
    obtain ⟨⟨front, hfront, hexpr⟩, hcs⟩ := List.forall_mem_cons.mp hcs
    have ih := ih hcs
    unfold metricInsideFnLoop
    by_cases hname : name ∈ fnNames
    · rw [if_neg (not_not.mpr hname), List.filter_cons_of_pos (by simpa using hname),
        List.map_cons, reachedSliceable_cons]
      obtain ⟨hsome, hnone⟩ := callSpan_eq hfront
      dsimp only at hexpr ⊢
      rw [List.exists_mem_cons_iff, hexpr]
      by_cases hslice : Sliceable rest
      · rw [hsome hslice, and_iff_right hslice]
        dsimp only
        by_cases hmem : metric ∈ words (Pattern.isWord wide) (cutSpan rest)
        · rw [if_pos hmem]
          cases b <;> simp [hmem]
        · rw [if_neg hmem, ← hexpr, ih]
          simp [hmem]
      · rw [hnone hslice]
        simp [hslice]
    · rw [if_pos hname, List.filter_cons_of_neg (by simpa using hname), ih]

theorem metricInsideFn_eq_some_iff (b : Bool) :
    metricInsideFn wide expr metric fnNames = some b ↔
      ReachedSliceable wide metric (callRests wide expr fnNames) ∧
        (b = true ↔ ∃ rest ∈ callRests wide expr fnNames,
          metric ∈ words (Pattern.isWord wide) (cutSpan rest)) :=
  metricInsideFnLoop_eq (fun _ hc => exists_front_of_mem_calls hc) b

/-! ## The answer -/

theorem mem_callRests_iff :
    rest ∈ callRests wide expr fnNames ↔
      ∃ name ∈ fnNames, (name, rest) ∈ calls (Pattern.isWord wide) expr := by
  unfold callRests
  simp only [List.mem_map, List.mem_filter, decide_eq_true_eq, Prod.exists]
  constructor
  · rintro ⟨name, _, ⟨hcall, hname⟩, rfl⟩
    exact ⟨name, hname, hcall⟩
  · rintro ⟨name, hname, hcall⟩
    exact ⟨name, rest, ⟨hcall, hname⟩, rfl⟩

theorem insideCall_iff :
    InsideCall wide expr metric fnNames ↔
      ∃ rest ∈ callRests wide expr fnNames,
        metric ∈ words (Pattern.isWord wide) (argumentSpan rest) := by
  simp only [mem_callRests_iff, Words.mem_calls_iff, Words.mem_words_iff]
  constructor
  · rintro ⟨before, name, gap, rest, span, front, back, hexpr, hword, hgap, hname, harg, hspan,
      hmetric⟩
    rw [isArgument_iff] at harg
    exact ⟨rest, ⟨name, hname, before, gap, hexpr, hword, hgap⟩, front, back, harg ▸ hspan,
      hmetric⟩
  · rintro ⟨rest, ⟨name, hname, before, gap, hexpr, hword, hgap⟩, front, back, hspan, hmetric⟩
    exact ⟨before, name, gap, rest, argumentSpan rest, front, back, hexpr, hword, hgap, hname,
      isArgument_iff.mpr rfl, hspan, hmetric⟩

theorem cutSpan_of_closed (h : ClosedCall rest) : cutSpan rest = argumentSpan rest := by
  obtain ⟨span, after, hcut⟩ := closedCall_iff.mp h
  unfold cutSpan argumentSpan
  rw [hcut]

theorem cutSpan_of_open (h : ¬ClosedCall rest) : cutSpan rest = rest.dropLast := by
  unfold cutSpan
  rw [cutAtClose_of_open h]

theorem argumentSpan_of_open (h : ¬ClosedCall rest) : argumentSpan rest = rest := by
  unfold argumentSpan
  rw [cutAtClose_of_open h]

theorem exists_call_iff {rests : List (List Char)} {P : List Char → Prop} :
    (∃ rest ∈ rests, P rest) ↔
      (∃ rest ∈ rests, ClosedCall rest ∧ P rest) ∨ ∃ rest ∈ rests, ¬ClosedCall rest ∧ P rest := by
  constructor
  · rintro ⟨rest, hrest, hP⟩
    by_cases hclosed : ClosedCall rest
    · exact .inl ⟨rest, hrest, hclosed, hP⟩
    · exact .inr ⟨rest, hrest, hclosed, hP⟩
  · rintro (⟨rest, hrest, -, hP⟩ | ⟨rest, hrest, -, hP⟩) <;> exact ⟨rest, hrest, hP⟩

theorem cutSpan_shows_iff {rests : List (List Char)} :
    (∃ rest ∈ rests, metric ∈ words (Pattern.isWord wide) (cutSpan rest)) ↔
      (∃ rest ∈ rests,
        ClosedCall rest ∧ metric ∈ words (Pattern.isWord wide) (argumentSpan rest)) ∨
      ∃ rest ∈ rests, ¬ClosedCall rest ∧ metric ∈ words (Pattern.isWord wide) rest.dropLast := by
  rw [exists_call_iff]
  refine or_congr ?_ ?_ <;> refine exists_congr fun rest => and_congr_right fun _ => ?_
  · exact and_congr_right fun h => by rw [cutSpan_of_closed h]
  · exact and_congr_right fun h => by rw [cutSpan_of_open h]

theorem argumentSpan_shows_iff {rests : List (List Char)} :
    (∃ rest ∈ rests, metric ∈ words (Pattern.isWord wide) (argumentSpan rest)) ↔
      (∃ rest ∈ rests,
        ClosedCall rest ∧ metric ∈ words (Pattern.isWord wide) (argumentSpan rest)) ∨
      ∃ rest ∈ rests, ¬ClosedCall rest ∧ metric ∈ words (Pattern.isWord wide) rest := by
  rw [exists_call_iff]
  refine or_congr Iff.rfl (exists_congr fun rest => and_congr_right fun _ => ?_)
  exact and_congr_right fun h => by rw [argumentSpan_of_open h]

theorem safeExact_iff_cutSpan :
    SafeExact wide expr metric fnNames ↔
      ReachedSliceable wide metric (callRests wide expr fnNames) ∧
        ((∃ rest ∈ callRests wide expr fnNames,
          metric ∈ words (Pattern.isWord wide) (cutSpan rest)) ↔
          InsideCall wide expr metric fnNames) := by
  constructor
  · rintro ⟨b, hb, hinside⟩
    obtain ⟨hreached, hfound⟩ := (metricInsideFn_eq_some_iff b).mp hb
    exact ⟨hreached, hfound.symm.trans hinside⟩
  · rintro ⟨hreached, hinside⟩
    classical
    refine ⟨decide (InsideCall wide expr metric fnNames), ?_, ?_⟩
    · rw [metricInsideFn_eq_some_iff, decide_eq_true_eq]
      exact ⟨hreached, hinside.symm⟩
    · rw [decide_eq_true_eq]

/-- `metric_inside_fn` is safe and right iff every call that it comes to has a slice and, unless
    a closed call shows the metric, the open calls show it with the last character of the
    expression as they do without. -/
theorem safeExact_iff (wide : Char → Bool) (expr metric : List Char)
    (fnNames : List (List Char)) :
    SafeExact wide expr metric fnNames ↔
      ReachedSliceable wide metric (callRests wide expr fnNames) ∧
        ((∃ rest ∈ callRests wide expr fnNames,
            ClosedCall rest ∧ metric ∈ words (Pattern.isWord wide) (argumentSpan rest)) ∨
          ((∃ rest ∈ callRests wide expr fnNames,
              ¬ClosedCall rest ∧ metric ∈ words (Pattern.isWord wide) rest.dropLast) ↔
            ∃ rest ∈ callRests wide expr fnNames,
              ¬ClosedCall rest ∧ metric ∈ words (Pattern.isWord wide) rest)) := by
  rw [safeExact_iff_cutSpan, insideCall_iff, cutSpan_shows_iff, argumentSpan_shows_iff]
  refine and_congr_right fun _ => ?_
  by_cases hclosed : ∃ rest ∈ callRests wide expr fnNames,
      ClosedCall rest ∧ metric ∈ words (Pattern.isWord wide) (argumentSpan rest)
  · exact iff_of_true (iff_of_true (.inl hclosed) (.inl hclosed)) (.inl hclosed)
  · rw [or_iff_right hclosed, or_iff_right hclosed, or_iff_right hclosed]

/-- Behind the last parenthesis the slice ends before it starts, and a metric that ends the
    expression loses its last letter. -/
theorem truncated_call_unsafe :
    metricInsideFn (fun _ => false) "rate(".toList "m".toList ["rate".toList] = none ∧
      metricInsideFn (fun _ => false) "rate(m".toList "m".toList ["rate".toList] = some false ∧
      ¬∀ expr metric fnNames, SafeExact (fun _ => false) expr metric fnNames := by
  have hnone :
      metricInsideFn (fun _ => false) "rate(".toList "m".toList ["rate".toList] = none := by
    decide +kernel
  refine ⟨hnone, by decide +kernel, fun h => ?_⟩
  obtain ⟨b, hb, -⟩ := h "rate(".toList "m".toList ["rate".toList]
  rw [hnone] at hb
  cases hb

end DarkTower.Guard
