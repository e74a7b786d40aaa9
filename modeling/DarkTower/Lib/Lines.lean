import DarkTower.Lib.Text

/-!
# Places of a text and its lines

`firstLines n` is a text up to its `n`-th newline, `lastLine` what stands behind the last one.

* `drop_lines`: the lines from that of a place on.
* `exists_mem_take_lines_iff`: a word without line ends is on one of the first lines iff it is
  in that text.
* `exists_mem_scan_iff`: what a scan line by line reports for a line.
-/

namespace DarkTower.Lib.Text

/-- The text up to its `n`-th newline. -/
def firstLines : ℕ → List Char → List Char
  | 0, _ => []
  | _ + 1, [] => []
  | n + 1, c :: cs => c :: firstLines (if c = '\n' then n else n + 1) cs

/-- What stands behind the last newline. -/
def lastLine (cs : List Char) : List Char := cs.rtakeWhile (· ≠ '\n')

variable {cs front rest line word : List Char} {c : Char} {n : ℕ}

@[simp] theorem firstLines_zero : firstLines 0 cs = [] := by
  unfold firstLines
  rfl

theorem firstLines_isPrefix (n : ℕ) (cs : List Char) : firstLines n cs <+: cs := by
  induction cs generalizing n with
  | nil => cases n <;> exact List.prefix_refl _
  | cons c cs ih =>
    cases n with
    | zero => exact List.nil_prefix
    | succ n =>
      rw [firstLines]
      exact List.cons_prefix_cons.mpr ⟨rfl, ih _⟩

theorem firstLines_append : firstLines n (front ++ rest) =
    if front.count '\n' < n then front ++ firstLines (n - front.count '\n') rest
    else firstLines n front := by
  induction front generalizing n with
  | nil =>
    cases n with
    | zero => simp
    | succ n => rfl
  | cons c front ih =>
    cases n with
    | zero => simp
    | succ n =>
      rw [List.cons_append, firstLines, firstLines]
      by_cases hc : c = '\n'
      · rw [if_pos hc, hc, List.count_cons_self, ih, Nat.add_sub_add_right]
        simp only [Nat.add_lt_add_iff_right]
        split_ifs <;> rfl
      · rw [if_neg hc, List.count_cons_of_ne hc, ih]
        split_ifs <;> rfl

theorem firstLines_of_count_lt (h : cs.count '\n' < n) : firstLines n cs = cs := by
  induction cs generalizing n with
  | nil =>
    obtain ⟨n, rfl⟩ := Nat.exists_eq_succ_of_ne_zero h.ne'
    rfl
  | cons c cs ih =>
    obtain ⟨n, rfl⟩ := Nat.exists_eq_succ_of_ne_zero (Nat.ne_zero_of_lt h)
    rw [firstLines]
    by_cases hc : c = '\n'
    · rw [hc, List.count_cons_self] at h
      rw [if_pos hc, ih (Nat.lt_of_succ_lt_succ h)]
    · rw [List.count_cons_of_ne hc] at h
      rw [if_neg hc, ih h]

theorem firstLines_line (h : '\n' ∉ line) :
    firstLines (n + 1) (line ++ '\n' :: rest) = line ++ '\n' :: firstLines n rest := by
  rw [firstLines_append, List.count_eq_zero_of_not_mem h, if_pos (Nat.succ_pos n), Nat.sub_zero]
  rfl

/-- A word without the separator is on one side of it. -/
theorem infix_append_cons_iff (h : c ∉ word) :
    word <:+: front ++ c :: rest ↔ word <:+: front ∨ word <:+: rest := by
  constructor
  · intro hin
    obtain hin | hin | ⟨left, right, rfl, hleft, hright⟩ := List.infix_append_iff.mp hin
    · exact .inl hin
    · obtain ⟨_ | ⟨d, before⟩, after, heq⟩ := hin
      · cases word with
        | nil => exact .inl List.nil_infix
        | cons d word =>
          exact absurd (List.cons.inj heq).1 (ne_of_mem_of_not_mem List.mem_cons_self h)
      · exact .inr ⟨before, after, (List.cons.inj heq).2⟩
    · cases right with
      | nil =>
        rw [List.append_nil]
        exact .inl hleft.isInfix
      | cons d right =>
        obtain ⟨rfl, -⟩ := List.cons_prefix_cons.mp hright
        exact absurd (List.mem_append_right _ List.mem_cons_self) h
  · rintro (hin | hin)
    · exact hin.trans (List.prefix_append _ _).isInfix
    · exact hin.trans ((List.suffix_cons c rest).trans (List.suffix_append _ _)).isInfix

theorem infix_stripCr_iff (h : '\r' ∉ word) : word <:+: stripCr line ↔ word <:+: line := by
  unfold stripCr
  split_ifs with hlast
  · obtain ⟨init, rfl⟩ := List.getLast?_eq_some_iff.mp hlast
    rw [List.dropLast_concat, infix_append_cons_iff h]
    refine (or_iff_left_of_imp fun hnil => ?_).symm
    rw [List.infix_nil.mp hnil]
    exact List.nil_infix
  · rfl

theorem lines_of_notMem (h : '\n' ∉ cs) (hne : cs ≠ []) : lines cs = [cs] := by
  unfold lines
  rw [splitNewlines_of_not_mem h]
  simp [hne]

theorem lines_ne_nil (hne : cs ≠ []) : lines cs ≠ [] := by
  by_cases h : '\n' ∈ cs
  · obtain ⟨line, rest, rfl, hline⟩ := List.eq_append_cons_of_mem h
    rw [lines_append_newline hline]
    exact List.cons_ne_nil _ _
  · rw [lines_of_notMem h hne]
    exact List.cons_ne_nil _ _

/-- The first line of a text has what stands in front of its first line end. -/
theorem exists_head_lines (hfront : '\n' ∉ front) (hc : c ≠ '\n') (hcr : c ≠ '\r') :
    ∃ more, (lines (front ++ c :: rest)).head? = some (front ++ c :: more) := by
  by_cases h : '\n' ∈ rest
  · obtain ⟨line, rest, rfl, hline⟩ := List.eq_append_cons_of_mem h
    have hfirst : '\n' ∉ front ++ c :: line := by
      simp [hfront, hc.symm, hline]
    rw [← List.cons_append, ← List.append_assoc, lines_append_newline hfirst, List.head?_cons]
    unfold stripCr
    split_ifs with hlast
    · cases line using List.reverseRecOn with
      | nil =>
        rw [List.getLast?_concat] at hlast
        exact absurd (Option.some.inj hlast) hcr
      | append_singleton line d =>
        refine ⟨line, ?_⟩
        rw [← List.cons_append, ← List.append_assoc, List.dropLast_concat]
    · exact ⟨line, rfl⟩
  · have hall : '\n' ∉ front ++ c :: rest := by
      simp [hfront, hc.symm, h]
    refine ⟨rest, ?_⟩
    rw [lines_of_notMem hall (List.append_ne_nil_of_right_ne_nil _ (List.cons_ne_nil _ _))]
    rfl

theorem newline_notMem_lastLine : '\n' ∉ lastLine cs := fun hmem =>
  absurd (List.mem_rtakeWhile_imp hmem) (by decide)

/-- The lines from that of a place on. -/
theorem drop_lines :
    (lines (front ++ rest)).drop (front.count '\n') = lines (lastLine front ++ rest) := by
  induction front using List.reverseRecOn generalizing rest with
  | nil => rfl
  | append_singleton front c ih =>
    rw [List.append_assoc, List.singleton_append, List.count_append, List.count_singleton]
    by_cases hc : c = '\n'
    · have hlast : lastLine (front ++ [c]) = [] :=
        List.rtakeWhile_concat_neg _ _ _ (by simpa using hc)
      rw [hlast, hc, ← List.drop_drop, ih, lines_append_newline newline_notMem_lastLine]
      rfl
    · have hlast : lastLine (front ++ [c]) = lastLine front ++ [c] :=
        List.rtakeWhile_concat_pos _ _ _ (by simpa using hc)
      rw [hlast, if_neg (by simpa using hc), Nat.add_zero, ih, List.append_assoc,
        List.singleton_append]

/-- What follows a place is on a line of its own or of the place. -/
theorem count_lt_length_lines (hne : rest ≠ []) :
    front.count '\n' < (lines (front ++ rest)).length := by
  have hdrop : (lines (front ++ rest)).drop (front.count '\n') ≠ [] := by
    rw [drop_lines]
    exact lines_ne_nil (List.append_ne_nil_of_right_ne_nil _ hne)
  exact Nat.lt_of_not_le (List.drop_eq_nil_iff.not.mp hdrop)

theorem exists_mem_take_lines_iff (hne : word ≠ []) (hnewline : '\n' ∉ word) (hcr : '\r' ∉ word) :
    (∃ line ∈ (lines cs).take n, word <:+: line) ↔ word <:+: firstLines n cs := by
  induction n generalizing cs with
  | zero => simp [hne]
  | succ n ih =>
    by_cases h : '\n' ∈ cs
    · obtain ⟨line, rest, rfl, hline⟩ := List.eq_append_cons_of_mem h
      rw [lines_append_newline hline, firstLines_line hline, infix_append_cons_iff hnewline,
        List.take_succ_cons, List.exists_mem_cons_iff, ih, infix_stripCr_iff hcr]
    · rw [firstLines_of_count_lt ((List.count_eq_zero_of_not_mem h).trans_lt (Nat.succ_pos n))]
      by_cases hcs : cs = []
      · have hlines : lines [] = [] := rfl
        rw [hcs, hlines, List.take_nil]
        simp [hne]
      · rw [lines_of_notMem h hcs, List.take_of_length_le (Nat.succ_le_succ (Nat.zero_le n))]
        simp

/-- Where each line is scanned by itself, and what is found has the number of its line, what is
    reported for a line is found on it. -/
theorem exists_mem_scan_iff {α β : Type} {xs : List α} {scan : α × ℕ → List β} {number : β → ℕ}
    {p : β → Prop} {idx : ℕ} (hnumber : ∀ x b, b ∈ scan x → number b = x.2 + 1) :
    (∃ b ∈ xs.zipIdx.flatMap scan, p b ∧ number b = idx + 1) ↔
      ∃ a, xs[idx]? = some a ∧ ∃ b ∈ scan (a, idx), p b := by
  constructor
  · rintro ⟨b, hmem, hp, hidx⟩
    obtain ⟨⟨a, i⟩, ha, hb⟩ := List.mem_flatMap.mp hmem
    obtain rfl : i = idx := Nat.succ.inj ((hnumber _ b hb).symm.trans hidx)
    exact ⟨a, List.mem_zipIdx_iff_getElem?.mp ha, b, hb, hp⟩
  · rintro ⟨a, ha, b, hb, hp⟩
    exact ⟨b, List.mem_flatMap.mpr ⟨(a, idx), List.mem_zipIdx_iff_getElem?.mpr ha, hb⟩, hp,
      hnumber _ b hb⟩

end DarkTower.Lib.Text
