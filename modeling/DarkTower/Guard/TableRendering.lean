import DarkTower.Guard.MarkdownTable

/-!
# Rendered tables and what is read of them (`dt-guard/src/common/markdown_table.rs`)

A document is any text, the heading, prose, a table with one line for each row, and any
text behind it. `parse_table_under_heading` sees kinds of lines only (`LineKind`).

* `splitPipeRow_renderRow`: the cells of a rendered row are the row.
* `isSeparatorRow_renderRow`: but a row of dashes and empty cells is a separator.
* `parse_text`: what is read of a document: the rows in front of the heading, those of the
  table, and those behind it; the separator of a further table opens the table again.
* `parse_text_iff`: exactly the rows of the table are read iff none of them is a separator
  and no other line of the document is read as a row.
-/

namespace DarkTower.Guard

open DarkTower.Lib

/-! ## Rows -/

/-- What a cell can hold. -/
def IsCell (cell : List Char) : Prop := '|' ∉ cell ∧ '\n' ∉ cell ∧ Text.trim cell = cell

instance (cell : List Char) : Decidable (IsCell cell) := inferInstanceAs (Decidable (_ ∧ _ ∧ _))

/-- A cell between blanks. -/
def padCell (cell : List Char) : List Char := ' ' :: (cell ++ [' '])

/-- `| a | b | c |`. -/
def renderRow (cells : List (List Char)) : List Char :=
  '|' :: (['|'].intercalate (cells.map padCell) ++ ['|'])

/-- Every cell is empty or looks like a separator. -/
def SeparatorLike (cells : List (List Char)) : Prop :=
  ∀ cell ∈ cells, cell ≠ [] → isSeparatorCell cell = true

instance (cells : List (List Char)) : Decidable (SeparatorLike cells) :=
  inferInstanceAs (Decidable (∀ cell ∈ cells, _))

section

variable {cell line : List Char} {cells : List (List Char)}

/-- What `trim` leaves alone has nothing to trim on either side. -/
theorem trim_eq_self (h : Text.trim cell = cell) :
    Text.trimStart cell = cell ∧ Text.trimEnd cell = cell := by
  have hstart : Text.trimStart cell = cell := by
    refine (List.dropWhile_suffix _).eq_of_length_le ?_
    calc cell.length = (Text.trim cell).length := by rw [h]
      _ ≤ (Text.trimStart cell).length := (List.rdropWhile_prefix _ _).length_le
  refine ⟨hstart, ?_⟩
  rw [Text.trim, hstart] at h
  exact h

theorem trim_padCell (h : Text.trim cell = cell) : Text.trim (padCell cell) = cell := by
  obtain ⟨hstart, hend⟩ := trim_eq_self h
  cases cell with
  | nil => rfl
  | cons c cs =>
    have hc : Text.isWhitespace c = false := by
      rw [← Bool.not_eq_true]
      intro hc
      rw [Text.trimStart, List.dropWhile_cons_of_pos hc] at hstart
      have hlen := congrArg List.length hstart
      have hle := (List.dropWhile_suffix (l := cs) Text.isWhitespace).length_le
      rw [List.length_cons] at hlen
      omega
    have hgap : ∀ d ∈ [' '], Text.isWhitespace d = true := by decide
    have hfront : Text.trimStart (padCell (c :: cs)) = c :: cs ++ [' '] :=
      Text.trimStart_append_cons hgap hc
    rw [Text.trim, hfront, Text.trimEnd, List.rdropWhile_concat_pos _ _ _ (by decide)]
    exact hend

/-- A text that starts and ends with `|` has nothing to trim. -/
theorem trim_piped (body : List Char) :
    Text.trimStart ('|' :: (body ++ ['|'])) = '|' :: (body ++ ['|']) ∧
      Text.trimEnd ('|' :: (body ++ ['|'])) = '|' :: (body ++ ['|']) := by
  refine ⟨?_, ?_⟩
  · rw [Text.trimStart, List.dropWhile_cons_of_neg (by decide)]
  · exact Text.trimEnd_append (c := '|') (by decide) ('|' :: body) []

theorem trimStart_renderRow (cells : List (List Char)) :
    Text.trimStart (renderRow cells) = renderRow cells := (trim_piped _).1

theorem trimEnd_renderRow (cells : List (List Char)) :
    Text.trimEnd (renderRow cells) = renderRow cells := (trim_piped _).2

theorem trim_renderRow (cells : List (List Char)) :
    Text.trim (renderRow cells) = renderRow cells := by
  rw [Text.trim, trimStart_renderRow, trimEnd_renderRow]

theorem intercalate_concat_nil (sep : List Char) {pieces : List (List Char)} (h : pieces ≠ []) :
    sep.intercalate (pieces ++ [[]]) = sep.intercalate pieces ++ sep := by
  induction pieces with
  | nil => exact absurd rfl h
  | cons piece pieces ih =>
    cases pieces with
    | nil => simp
    | cons next pieces =>
      rw [List.cons_append, List.cons_append, List.intercalate_cons_cons,
        List.intercalate_cons_cons, ← List.cons_append, ih (List.cons_ne_nil _ _)]
      simp

theorem bar_notMem_padCell (h : IsCell cell) : '|' ∉ padCell cell := by
  unfold padCell
  simp [h.1]

theorem map_padCell_notMem (hcells : ∀ cell ∈ cells, IsCell cell) :
    ∀ piece ∈ cells.map padCell, '|' ∉ piece := by
  rw [List.forall_mem_map]
  exact fun cell hcell => bar_notMem_padCell (hcells cell hcell)

theorem map_trim_padCell (hcells : ∀ cell ∈ cells, IsCell cell) :
    (cells.map padCell).map Text.trim = cells := by
  rw [List.map_map]
  refine (List.map_congr_left fun cell hcell => ?_).trans (List.map_id cells)
  exact trim_padCell (hcells cell hcell).2.2

/-- The cells of a rendered row are the row. -/
theorem splitPipeRow_renderRow (hcells : ∀ cell ∈ cells, IsCell cell) (hne : cells ≠ []) :
    splitPipeRow (renderRow cells) = cells := by
  have hstrip : Text.stripSuffix (['|'].intercalate (cells.map padCell) ++ ['|']) ['|'] =
      some (['|'].intercalate (cells.map padCell)) := by
    rw [Text.stripSuffix, if_pos (List.suffix_append _ _)]
    simp
  unfold splitPipeRow
  rw [trim_renderRow, renderRow]
  show (List.splitOn '|' (Option.getD _ _)).map Text.trim = cells
  rw [hstrip, Option.getD_some,
    List.splitOn_intercalate '|' (map_padCell_notMem hcells) (by simpa using hne)]
  exact map_trim_padCell hcells

/-- A rendered row is taken for a separator iff all its cells are empty or look like one. -/
theorem isSeparatorRow_renderRow (hcells : ∀ cell ∈ cells, IsCell cell) (hne : cells ≠ []) :
    isSeparatorRow (renderRow cells) = true ↔ SeparatorLike cells := by
  have hpieces : cells.map padCell ≠ [] := by simpa using hne
  have hline : renderRow cells = ['|'].intercalate ([] :: (cells.map padCell ++ [[]])) := by
    rw [List.intercalate_cons_of_ne_nil (by simp), intercalate_concat_nil _ hpieces]
    rfl
  have hsplit : (renderRow cells).splitOn '|' = [] :: (cells.map padCell ++ [[]]) := by
    rw [hline]
    refine List.splitOn_intercalate '|' ?_ (List.cons_ne_nil _ _)
    rw [List.forall_mem_cons, List.forall_mem_append]
    refine ⟨List.not_mem_nil, map_padCell_notMem hcells, ?_⟩
    rw [List.forall_mem_singleton]
    exact List.not_mem_nil
  have hnil : Text.trim [] = [] := rfl
  unfold isSeparatorRow SeparatorLike
  dsimp only
  rw [trim_renderRow, hsplit, List.map_cons, List.map_append, map_trim_padCell hcells]
  simp [renderRow, hnil, or_iff_not_imp_left]

end

/-! ## Kinds of lines -/

/-- What `parse_table_under_heading` tells apart. -/
inductive LineKind
  | heading
  | otherHeading
  | prose
  | blank
  | separator
  | row
deriving DecidableEq

/-- The line as the loop looks at it. -/
def strippedLine (raw : List Char) : List Char := Text.trimStart (Text.trimEnd raw)

/-- The tests of the loop, in their order. -/
def lineKind (heading raw : List Char) : LineKind :=
  if strippedLine raw = "## ".toList ++ heading then .heading
  else if "## ".toList <+: Text.trimEnd raw then .otherHeading
  else if (strippedLine raw).head? ≠ some '|' then
    if (strippedLine raw).isEmpty then .blank else .prose
  else if isSeparatorRow (strippedLine raw) then .separator
  else .row

/-- The row with these cells. -/
def rowOf (lineNo : ℕ) : List (List Char) → Option TableRow
  | [] => none
  | first :: cells =>
    some ⟨canonicalizePath first :: cells, lineNo, canonicalized_ne_nil first cells⟩

namespace TableScan

/-- The flags behind a line; `none` is the `break`. -/
def next (s : TableScan) : LineKind → Option TableScan
  | .heading => some ⟨true, false, false⟩
  | .otherHeading => if s.inSection then none else some s
  | .prose => some (if s.inSection then { s with inTable := false } else s)
  | .separator => some (if s.inSection then ⟨true, true, true⟩ else s)
  | .blank | .row => some s

/-- A row line is read. -/
def Open (s : TableScan) : Prop := s.inSection = true ∧ s.headerSeen = true ∧ s.inTable = true

instance (s : TableScan) : Decidable s.Open := inferInstanceAs (Decidable (_ ∧ _ ∧ _))

/-- The flags behind these lines. -/
def run (s : TableScan) (kinds : List LineKind) : Option TableScan := kinds.foldlM next s

end TableScan

section

variable {heading raw : List Char} {s s' : TableScan} {lines lines' : List (List Char)} {n : ℕ}

theorem lineKind_heading (h : strippedLine raw = "## ".toList ++ heading) :
    lineKind heading raw = .heading := if_pos h

theorem lineKind_ne_heading (h : strippedLine raw ≠ "## ".toList ++ heading) :
    lineKind heading raw ≠ .heading := by
  unfold lineKind
  rw [if_neg h]
  split_ifs <;> exact LineKind.noConfusion

/-- Outside of the section only the heading matters. -/
theorem TableScan.next_outside {k : LineKind} (hin : s.inSection = false) (hk : k ≠ .heading) :
    s.next k = some s := by
  cases k <;> simp_all [TableScan.next]

/-- A line with a `|` in front has at least one cell. -/
theorem splitPipeRow_ne_nil {line : List Char} (h : (Text.trim line).head? = some '|') :
    splitPipeRow line ≠ [] := by
  unfold splitPipeRow
  cases hline : Text.trim line with
  | nil =>
    rw [hline] at h
    cases h
  | cons c cs =>
    rw [hline] at h
    obtain rfl : c = '|' := Option.some.inj h
    simp [List.splitOn_ne_nil]

/-- One line of the loop: what it reads there, and how it goes on. -/
theorem scanTable_cons :
    scanTable heading n s (raw :: lines) =
      (if lineKind heading raw = .row ∧ s.Open then
        (rowOf n (splitPipeRow (strippedLine raw))).toList else []) ++
      (s.next (lineKind heading raw)).elim [] fun s' => scanTable heading (n + 1) s' lines := by
  have hfold : Text.trimStart (Text.trimEnd raw) = strippedLine raw := rfl
  rw [scanTable]
  simp only [hfold]
  by_cases hhead : strippedLine raw = "## ".toList ++ heading
  · rw [lineKind_heading hhead]
    exact if_pos hhead
  rw [if_neg hhead]
  by_cases hin : s.inSection = true
  case neg =>
    have hnext := TableScan.next_outside (by simpa using hin) (lineKind_ne_heading hhead)
    rw [if_pos hin, hnext, if_neg fun h => hin h.2.1]
    rfl
  rw [if_neg (not_not.mpr hin)]
  obtain ⟨_, inTable, headerSeen⟩ := s
  obtain rfl := hin
  by_cases hother : "## ".toList <+: Text.trimEnd raw
  · have hkind : lineKind heading raw = .otherHeading := (if_neg hhead).trans (if_pos hother)
    rw [if_pos hother, hkind]
    rfl
  rw [if_neg hother]
  by_cases hbar : (strippedLine raw).head? = some '|'
  case neg =>
    rw [if_pos hbar]
    by_cases hblank : (strippedLine raw).isEmpty = true
    · have hkind : lineKind heading raw = .blank :=
        (if_neg hhead).trans ((if_neg hother).trans ((if_pos hbar).trans (if_pos hblank)))
      rw [hkind, hblank, Bool.and_true]
      rfl
    · have hkind : lineKind heading raw = .prose :=
        (if_neg hhead).trans ((if_neg hother).trans ((if_pos hbar).trans (if_neg hblank)))
      rw [hkind, Bool.eq_false_iff.mpr hblank, Bool.and_false]
      rfl
  rw [if_neg (not_not.mpr hbar)]
  by_cases hsep : isSeparatorRow (strippedLine raw) = true
  · have hkind : lineKind heading raw = .separator :=
      (if_neg hhead).trans ((if_neg hother).trans ((if_neg (not_not.mpr hbar)).trans (if_pos hsep)))
    rw [hkind, if_pos hsep]
    rfl
  · have hkind : lineKind heading raw = .row :=
      (if_neg hhead).trans ((if_neg hother).trans ((if_neg (not_not.mpr hbar)).trans (if_neg hsep)))
    rw [hkind, if_neg hsep]
    show _ = _ ++ scanTable heading (n + 1) ⟨true, inTable, headerSeen⟩ lines
    by_cases hopen : headerSeen = true ∧ inTable = true
    · obtain ⟨rfl, rfl⟩ := hopen
      rw [if_neg (by simp), if_pos ⟨rfl, rfl, rfl, rfl⟩]
      unfold rowOf
      cases splitPipeRow (strippedLine raw) <;> rfl
    · rw [if_pos (not_and_or.mp hopen), if_neg fun h => hopen h.2.2]
      rfl

/-- The numbers of the rows are those of their lines. -/
theorem lineNo_of_mem_scanTable {row : TableRow} (h : row ∈ scanTable heading n s lines) :
    n ≤ row.lineNo ∧ row.lineNo < n + lines.length := by
  induction lines generalizing n s with
  | nil => cases h
  | cons raw lines ih =>
    rw [scanTable_cons] at h
    rw [List.length_cons]
    rcases List.mem_append.mp h with h | h
    · split_ifs at h
      · cases hcells : splitPipeRow (strippedLine raw) with
        | nil =>
          rw [hcells] at h
          cases h
        | cons first cells =>
          rw [hcells] at h
          obtain rfl := List.mem_singleton.mp h
          exact ⟨le_refl n, Nat.lt_add_of_pos_right (Nat.succ_pos _)⟩
      · cases h
    · cases hnext : s.next (lineKind heading raw) with
      | none =>
        rw [hnext] at h
        cases h
      | some s' =>
        rw [hnext] at h
        obtain ⟨hle, hlt⟩ := ih h
        exact ⟨by omega, by omega⟩

theorem scanTable_append :
    scanTable heading n s (lines ++ lines') = scanTable heading n s lines ++
      (s.run (lines.map (lineKind heading))).elim []
        fun s' => scanTable heading (n + lines.length) s' lines' := by
  induction lines generalizing n s with
  | nil => rfl
  | cons raw lines ih =>
    rw [List.cons_append, scanTable_cons, scanTable_cons, List.append_assoc, List.map_cons,
      TableScan.run, List.foldlM_cons]
    congr 1
    cases s.next (lineKind heading raw) with
    | none => rfl
    | some s' =>
      show scanTable heading (n + 1) s' (lines ++ lines') = _
      rw [ih, List.length_cons, Nat.add_comm lines.length 1, ← Nat.add_assoc]
      rfl

/-- A carriage return at the end of a line is trimmed anyway. -/
theorem trimEnd_stripCr (raw : List Char) : Text.trimEnd (Text.stripCr raw) = Text.trimEnd raw := by
  unfold Text.stripCr
  split_ifs with hlast
  · have hraw := List.dropLast_append_getLast? '\r' hlast
    rw [← hraw, Text.trimEnd, Text.trimEnd, List.rdropWhile_concat_pos _ _ _ (by decide),
      List.dropLast_concat]
  · rfl

theorem lineKind_stripCr : lineKind heading (Text.stripCr raw) = lineKind heading raw := by
  unfold lineKind strippedLine
  rw [trimEnd_stripCr]

theorem map_lineKind_stripCr :
    (lines.map Text.stripCr).map (lineKind heading) = lines.map (lineKind heading) := by
  rw [List.map_map]
  exact List.map_congr_left fun raw _ => lineKind_stripCr

theorem scanTable_map_stripCr :
    scanTable heading n s (lines.map Text.stripCr) = scanTable heading n s lines := by
  induction lines generalizing n s with
  | nil => rfl
  | cons raw lines ih =>
    rw [List.map_cons, scanTable_cons, scanTable_cons, lineKind_stripCr]
    unfold strippedLine
    rw [trimEnd_stripCr]
    simp only [ih]

end

/-! ## Which lines are read -/

/-- The section was entered and another `## ` heading has ended it. -/
def SectionLeft (kinds : List LineKind) : Prop :=
  ∃ front back, kinds = front ++ .otherHeading :: back ∧ .heading ∈ front

/-- In the section, a separator stands above with nothing but blank and row lines since. -/
def BelowSeparator (kinds : List LineKind) : Prop :=
  ∃ front back, kinds = front ++ .separator :: back ∧ .heading ∈ front ∧
    ∀ k ∈ back, k = .blank ∨ k = .row

/-- Behind the lines `above`, some line of `kinds` is read as a row. -/
def ReadsRow (above kinds : List LineKind) : Prop :=
  ∃ front back, kinds = front ++ .row :: back ∧ BelowSeparator (above ++ front) ∧
    ¬SectionLeft (above ++ front)

section

variable {kinds above : List LineKind} {k x : LineKind} {s : TableScan}

/-- Where a line stands in a list that has one more line at its end. -/
theorem concat_eq_append_cons {front back : List LineKind} :
    kinds ++ [k] = front ++ x :: back ↔
      back = [] ∧ kinds = front ∧ k = x ∨ ∃ back', back = back' ++ [k] ∧
        kinds = front ++ x :: back' := by
  constructor
  · intro h
    rcases List.eq_nil_or_concat back with rfl | ⟨back', d, rfl⟩
    · exact .inl ⟨rfl, List.append_singleton_inj.mp h⟩
    · rw [List.concat_eq_append, ← List.cons_append, ← List.append_assoc,
        List.append_singleton_inj] at h
      exact .inr ⟨back', by rw [List.concat_eq_append, h.2], h.1⟩
  · rintro (⟨rfl, rfl, rfl⟩ | ⟨back', rfl, rfl⟩)
    · rfl
    · rw [List.append_assoc, List.cons_append]

theorem sectionLeft_concat :
    SectionLeft (kinds ++ [k]) ↔ SectionLeft kinds ∨ k = .otherHeading ∧ .heading ∈ kinds := by
  unfold SectionLeft
  simp only [concat_eq_append_cons]
  constructor
  · rintro ⟨front, back, ⟨-, rfl, rfl⟩ | ⟨back', -, rfl⟩, hmem⟩
    · exact .inr ⟨rfl, hmem⟩
    · exact .inl ⟨front, back', rfl, hmem⟩
  · rintro (⟨front, back, rfl, hmem⟩ | ⟨rfl, hmem⟩)
    · exact ⟨front, back ++ [k], .inr ⟨back, rfl, rfl⟩, hmem⟩
    · exact ⟨kinds, [], .inl ⟨rfl, rfl, rfl⟩, hmem⟩

theorem belowSeparator_concat :
    BelowSeparator (kinds ++ [k]) ↔
      k = .separator ∧ .heading ∈ kinds ∨ (k = .blank ∨ k = .row) ∧ BelowSeparator kinds := by
  unfold BelowSeparator
  simp only [concat_eq_append_cons]
  constructor
  · rintro ⟨front, back, ⟨-, rfl, rfl⟩ | ⟨back', rfl, rfl⟩, hmem, hback⟩
    · exact .inl ⟨rfl, hmem⟩
    · rw [List.forall_mem_append, List.forall_mem_singleton] at hback
      exact .inr ⟨hback.2, front, back', rfl, hmem, hback.1⟩
  · rintro (⟨rfl, hmem⟩ | ⟨hk, front, back, rfl, hmem, hback⟩)
    · exact ⟨kinds, [], .inl ⟨rfl, rfl, rfl⟩, hmem, fun _ h => by cases h⟩
    · refine ⟨front, back ++ [k], .inr ⟨back, rfl, rfl⟩, hmem, ?_⟩
      rw [List.forall_mem_append, List.forall_mem_singleton]
      exact ⟨hback, hk⟩

theorem SectionLeft.heading_mem (h : SectionLeft kinds) : .heading ∈ kinds := by
  obtain ⟨front, back, rfl, hmem⟩ := h
  exact List.mem_append_left _ hmem

theorem BelowSeparator.heading_mem (h : BelowSeparator kinds) : .heading ∈ kinds := by
  obtain ⟨front, back, rfl, hmem, -⟩ := h
  exact List.mem_append_left _ hmem

/-- Where the loop starts. -/
def TableScan.start : TableScan := ⟨false, false, false⟩

/-- What the flags stand for. -/
structure TableScan.Describes (s : TableScan) (kinds : List LineKind) : Prop where
  inSection : s.inSection = true ↔ .heading ∈ kinds
  inTable : s.inTable = true ↔ BelowSeparator kinds
  headerSeen : s.inTable = true → s.headerSeen = true
  stays : ¬SectionLeft kinds

namespace TableScan

theorem Describes.open_iff (h : s.Describes kinds) : s.Open ↔ BelowSeparator kinds := by
  constructor
  · rintro ⟨-, -, htable⟩
    exact h.inTable.mp htable
  · intro hbelow
    have htable := h.inTable.mpr hbelow
    exact ⟨h.inSection.mpr hbelow.heading_mem, h.headerSeen htable, htable⟩

theorem describes_start : start.Describes [] where
  inSection := by simp [start]
  inTable := by simp [start, BelowSeparator]
  headerSeen := fun h => h
  stays := by simp [SectionLeft]

/-- Before the heading there is neither a section nor a table. -/
theorem Describes.outside (h : s.Describes kinds) {k : LineKind} (hmem : .heading ∉ kinds)
    (hk : k ≠ .heading) : s.next k = some s ∧ s.Describes (kinds ++ [k]) := by
  have hnone : .heading ∉ kinds ++ [k] := by simp [hmem, hk.symm]
  have hsection : s.inSection = false := Bool.not_eq_true _ ▸ h.inSection.not.mpr hmem
  exact ⟨next_outside hsection hk,
    { inSection := h.inSection.trans (iff_of_false hmem hnone)
      inTable := h.inTable.trans (iff_of_false (fun hbelow => hmem hbelow.heading_mem)
        fun hbelow => hnone hbelow.heading_mem)
      headerSeen := h.headerSeen
      stays := fun hleft => hnone hleft.heading_mem }⟩

/-- Behind a line that neither starts nor continues a table there is none. -/
theorem not_belowSeparator_concat {k : LineKind}
    (hk : k ≠ .separator ∧ k ≠ .blank ∧ k ≠ .row) : ¬BelowSeparator (kinds ++ [k]) := by
  rw [belowSeparator_concat]
  rintro (⟨h, -⟩ | ⟨h | h, -⟩)
  · exact hk.1 h
  · exact hk.2.1 h
  · exact hk.2.2 h

/-- A line within a table leaves the flags as they are. -/
theorem Describes.inside (h : s.Describes kinds) {k : LineKind} (hk : k = .blank ∨ k = .row) :
    s.next k = some s ∧ s.Describes (kinds ++ [k]) := by
  refine ⟨?_, ?_, ?_, h.headerSeen, ?_⟩
  · obtain rfl | rfl := hk <;> rfl
  · rw [h.inSection]
    obtain rfl | rfl := hk <;> simp
  · rw [h.inTable, belowSeparator_concat, or_iff_right, and_iff_right hk]
    rintro ⟨rfl, -⟩
    obtain hk | hk := hk <;> cases hk
  · rw [sectionLeft_concat, or_iff_left]
    · exact h.stays
    · rintro ⟨rfl, -⟩
      obtain hk | hk := hk <;> cases hk

/-- One more line. -/
theorem Describes.next (h : s.Describes kinds) (k : LineKind) :
    (s.next k = none ∧ SectionLeft (kinds ++ [k])) ∨
      ∃ s', s.next k = some s' ∧ s'.Describes (kinds ++ [k]) := by
  have hstays (hk : k ≠ .otherHeading) : ¬SectionLeft (kinds ++ [k]) := by
    rw [sectionLeft_concat, or_iff_left fun hother => hk hother.1]
    exact h.stays
  by_cases hheading : k = .heading
  · subst hheading
    refine .inr ⟨⟨true, false, false⟩, rfl, ⟨by simp, ?_, fun h => h, hstays (by simp)⟩⟩
    exact iff_of_false Bool.false_ne_true (not_belowSeparator_concat (by simp))
  by_cases hmem : .heading ∈ kinds
  case neg => exact .inr ⟨s, h.outside hmem hheading⟩
  have hsection : s.inSection = true := h.inSection.mpr hmem
  have hmem' : .heading ∈ kinds ++ [k] := List.mem_append_left _ hmem
  cases k with
  | heading => exact absurd rfl hheading
  | otherHeading => exact .inl ⟨if_pos hsection, sectionLeft_concat.mpr (.inr ⟨rfl, hmem⟩)⟩
  | prose =>
    refine .inr ⟨{ s with inTable := false }, congrArg some (if_pos hsection),
      ⟨iff_of_true hsection hmem', ?_, fun h => absurd h Bool.false_ne_true, hstays (by simp)⟩⟩
    exact iff_of_false Bool.false_ne_true (not_belowSeparator_concat (by simp))
  | separator =>
    refine .inr ⟨⟨true, true, true⟩, congrArg some (if_pos hsection),
      ⟨iff_of_true rfl hmem', ?_, fun h => h, hstays (by simp)⟩⟩
    exact iff_of_true rfl (belowSeparator_concat.mpr (.inl ⟨rfl, hmem⟩))
  | blank => exact .inr ⟨s, h.inside (.inl rfl)⟩
  | row => exact .inr ⟨s, h.inside (.inr rfl)⟩

end TableScan

theorem SectionLeft.append (h : SectionLeft kinds) (more : List LineKind) :
    SectionLeft (kinds ++ more) := by
  obtain ⟨front, back, rfl, hmem⟩ := h
  exact ⟨front, back ++ more, by rw [List.append_assoc, List.cons_append], hmem⟩

theorem readsRow_cons :
    ReadsRow above (k :: kinds) ↔
      (k = .row ∧ BelowSeparator above ∧ ¬SectionLeft above) ∨ ReadsRow (above ++ [k]) kinds := by
  constructor
  · rintro ⟨front, back, heq, hbelow, hleft⟩
    cases front with
    | nil =>
      obtain ⟨rfl, -⟩ := List.cons.inj heq
      rw [List.append_nil] at hbelow hleft
      exact .inl ⟨rfl, hbelow, hleft⟩
    | cons k' front =>
      obtain ⟨rfl, rfl⟩ := List.cons.inj heq
      rw [List.append_cons] at hbelow hleft
      exact .inr ⟨front, back, rfl, hbelow, hleft⟩
  · rintro (⟨rfl, hbelow, hleft⟩ | ⟨front, back, rfl, hbelow, hleft⟩)
    · exact ⟨[], kinds, rfl, by rwa [List.append_nil], by rwa [List.append_nil]⟩
    · rw [← List.append_cons] at hbelow hleft
      exact ⟨k :: front, back, rfl, hbelow, hleft⟩

/-- Nothing is read behind the end of the section. -/
theorem SectionLeft.not_readsRow (h : SectionLeft above) : ¬ReadsRow above kinds := by
  rintro ⟨front, -, -, -, hleft⟩
  exact hleft (h.append front)

theorem TableScan.Describes.run (h : s.Describes above) (kinds : List LineKind) :
    (s.run kinds = none ∧ SectionLeft (above ++ kinds)) ∨
      ∃ s', s.run kinds = some s' ∧ s'.Describes (above ++ kinds) := by
  induction kinds generalizing s above with
  | nil => exact .inr ⟨s, rfl, by rwa [List.append_nil]⟩
  | cons k kinds ih =>
    rw [List.append_cons, TableScan.run, List.foldlM_cons]
    obtain ⟨hnone, hleft⟩ | ⟨s', hsome, hs'⟩ := h.next k
    · rw [hnone]
      exact .inl ⟨rfl, hleft.append kinds⟩
    · rw [hsome]
      exact ih hs'

variable {heading raw : List Char} {lines : List (List Char)} {n : ℕ}

/-- A row line has cells. -/
theorem rowOf_ne_nil (h : lineKind heading raw = .row) :
    (rowOf n (splitPipeRow (strippedLine raw))).toList ≠ [] := by
  have hbar : (strippedLine raw).head? = some '|' := by
    unfold lineKind at h
    split_ifs at h with h₁ h₂ h₃
    exact not_not.mp h₃
  have hcells : splitPipeRow (strippedLine raw) ≠ [] := by
    apply splitPipeRow_ne_nil
    obtain ⟨rest, hrest⟩ : ∃ rest, strippedLine raw = '|' :: rest :=
      List.head?_eq_some_iff.mp hbar
    have htrim := Text.trimEnd_append (c := '|') (by decide) [] rest
    rw [hrest, Text.trim, Text.trimStart, List.dropWhile_cons_of_neg (by decide)]
    exact congrArg List.head? htrim
  obtain ⟨first, cells, heq⟩ := List.exists_cons_of_ne_nil hcells
  rw [heq]
  exact List.cons_ne_nil _ _

/-- The loop reads nothing iff no line stands where a row is read. -/
theorem scanTable_eq_nil_iff (h : s.Describes above) :
    scanTable heading n s lines = [] ↔ ¬ReadsRow above (lines.map (lineKind heading)) := by
  induction lines generalizing n s above with
  | nil =>
    refine iff_of_true rfl ?_
    rintro ⟨front, back, heq, -⟩
    exact List.append_ne_nil_of_right_ne_nil front (List.cons_ne_nil _ _) heq.symm
  | cons raw lines ih =>
    rw [scanTable_cons, List.append_eq_nil_iff, List.map_cons, readsRow_cons, not_or]
    refine and_congr ?_ ?_
    · rw [← h.open_iff, and_iff_left h.stays]
      split_ifs with hread
      · exact iff_of_false (rowOf_ne_nil hread.1) (not_not.mpr hread)
      · exact iff_of_true rfl hread
    · obtain ⟨hnone, hleft⟩ | ⟨s', hsome, hs'⟩ := h.next (lineKind heading raw)
      · rw [hnone]
        exact iff_of_true rfl hleft.not_readsRow
      · rw [hsome]
        exact ih hs'

end

/-! ## Documents -/

/-- Any lines, a heading, prose, a table, and any text. -/
structure TableDocument where
  before : List (List Char)
  heading : List Char
  intro : List (List Char)
  header : List (List Char)
  rows : List (List (List Char))
  after : List Char
  before_lines : ∀ line ∈ before, '\n' ∉ line
  heading_text : heading ≠ [] ∧ '\n' ∉ heading ∧ Text.trim heading = heading
  intro_prose : ∀ line ∈ intro, '\n' ∉ line ∧
    (lineKind heading line = .prose ∨ lineKind heading line = .blank)
  header_cells : header ≠ [] ∧ ∀ cell ∈ header, IsCell cell
  rows_cells : ∀ row ∈ rows, row ≠ [] ∧ ∀ cell ∈ row, IsCell cell

namespace TableDocument

variable (d : TableDocument)

/-- The header and the separator. -/
def headerLines : List (List Char) :=
  [renderRow d.header, renderRow (d.header.map fun _ => "---".toList)]

/-- The lines up to the end of the table. -/
def tableLines : List (List Char) :=
  d.before ++ (("## ".toList ++ d.heading) :: d.intro ++ d.headerLines) ++ d.rows.map renderRow

/-- The text of the document. -/
def text : List Char := d.tableLines.flatMap (· ++ ['\n']) ++ d.after

/-- The number of the first row's line. -/
def firstRow : ℕ := d.before.length + d.intro.length + 4

/-- The rows of the table with the numbers of their lines. -/
def tableRows (n : ℕ) (rows : List (List (List Char))) : List TableRow :=
  (rows.zipIdx n).filterMap fun x => rowOf x.2 x.1

/-- The rows of the document's table. -/
def expected : List TableRow := tableRows d.firstRow d.rows

/-- The kinds of the lines in front of the heading and of those behind the table. -/
def beforeKinds : List LineKind := d.before.map (lineKind d.heading)

/-- The kinds of the lines behind the table. -/
def afterKinds : List LineKind := (Text.lines d.after).map (lineKind d.heading)

/-- No row of the table is a separator, and no other line is read as a row: none in front
    of the heading, which does not end its section there either, and none behind the
    table. -/
def OnlyTable : Prop :=
  ¬ReadsRow [] d.beforeKinds ∧
    (SectionLeft d.beforeKinds ∧ d.rows = [] ∨
      ¬SectionLeft d.beforeKinds ∧ (∀ row ∈ d.rows, ¬SeparatorLike row) ∧
        ¬ReadsRow [.heading, .separator] d.afterKinds)

end TableDocument

/-! ## What is read of a document -/

section

variable {heading : List Char} {cells : List (List Char)} {lines : List (List Char)} {n : ℕ}
  {row : TableRow}

theorem isCell_dashes : IsCell "---".toList := by decide

theorem lineKind_renderRow (hcells : ∀ cell ∈ cells, IsCell cell) (hne : cells ≠ []) :
    lineKind heading (renderRow cells) = if SeparatorLike cells then .separator else .row := by
  have hstripped : strippedLine (renderRow cells) = renderRow cells := by
    rw [strippedLine, trimEnd_renderRow, trimStart_renderRow]
  unfold lineKind
  rw [hstripped, trimEnd_renderRow, if_neg, if_neg, if_neg]
  · rw [ite_congr (propext (isSeparatorRow_renderRow hcells hne)) (fun _ => rfl) (fun _ => rfl)]
  · exact not_not.mpr rfl
  · rintro ⟨rest, h⟩
    cases h
  · intro h
    cases h

/-- What the loop reads of these rows from line `n` on. -/
def readRows : ℕ → List (List (List Char)) → List TableRow
  | _, [] => []
  | n, cells :: rows =>
    (if SeparatorLike cells then [] else (rowOf n cells).toList) ++ readRows (n + 1) rows

theorem tableRows_cons {rows : List (List (List Char))} :
    TableDocument.tableRows n (cells :: rows) =
      (rowOf n cells).toList ++ TableDocument.tableRows (n + 1) rows := by
  unfold TableDocument.tableRows
  rw [List.zipIdx_cons, List.filterMap_cons]
  cases rowOf n cells <;> rfl

theorem lineNo_of_rowOf (h : rowOf n cells = some row) : row.lineNo = n := by
  cases cells with
  | nil => cases h
  | cons first cells =>
    obtain rfl := Option.some.inj h
    rfl

theorem exists_rowOf (hne : cells ≠ []) : ∃ row, rowOf n cells = some row := by
  obtain ⟨first, cells, rfl⟩ := List.exists_cons_of_ne_nil hne
  exact ⟨_, rfl⟩

variable {rows : List (List (List Char))}

theorem lineNo_of_mem_tableRows (h : row ∈ TableDocument.tableRows n rows) :
    n ≤ row.lineNo ∧ row.lineNo < n + rows.length := by
  induction rows generalizing n with
  | nil => cases h
  | cons cells rows ih =>
    rw [tableRows_cons] at h
    rw [List.length_cons]
    rcases List.mem_append.mp h with h | h
    · have hn := lineNo_of_rowOf (Option.mem_toList.mp h)
      omega
    · obtain ⟨hle, hlt⟩ := ih h
      exact ⟨by omega, by omega⟩

theorem le_lineNo_of_mem_readRows (h : row ∈ readRows n rows) : n ≤ row.lineNo := by
  induction rows generalizing n with
  | nil => cases h
  | cons cells rows ih =>
    rw [readRows] at h
    rcases List.mem_append.mp h with h | h
    · split_ifs at h
      · cases h
      · exact (lineNo_of_rowOf (Option.mem_toList.mp h)).ge
    · exact Nat.le_of_succ_le (ih h)

theorem tableRows_eq_nil_iff (hrows : ∀ cells ∈ rows, cells ≠ []) :
    TableDocument.tableRows n rows = [] ↔ rows = [] := by
  constructor
  · intro h
    cases rows with
    | nil => rfl
    | cons cells rows =>
      obtain ⟨row, hrow⟩ := exists_rowOf (n := n) (hrows cells List.mem_cons_self)
      rw [tableRows_cons, hrow] at h
      cases h
  · rintro rfl
    rfl

/-- All rows are read iff none is taken for a separator. -/
theorem readRows_eq_iff (hrows : ∀ cells ∈ rows, cells ≠ []) :
    readRows n rows = TableDocument.tableRows n rows ↔ ∀ cells ∈ rows, ¬SeparatorLike cells := by
  induction rows generalizing n with
  | nil => exact iff_of_true rfl fun _ h => by cases h
  | cons cells rows ih =>
    obtain ⟨hne, hrows⟩ := List.forall_mem_cons.mp hrows
    rw [readRows, tableRows_cons, List.forall_mem_cons]
    split_ifs with hsep
    · refine iff_of_false ?_ fun h => h.1 hsep
      intro heq
      obtain ⟨row, hrow⟩ := exists_rowOf (n := n) hne
      have hmem : row ∈ readRows (n + 1) rows := by
        rw [List.nil_append] at heq
        rw [heq, hrow]
        exact List.mem_cons_self
      have hle := le_lineNo_of_mem_readRows hmem
      have heq := lineNo_of_rowOf hrow
      omega
    · rw [List.append_cancel_left_eq, ih hrows, and_iff_right hsep]

/-- The loop on the lines of a table. -/
theorem scanTable_rows (hrows : ∀ cells ∈ rows, cells ≠ [] ∧ ∀ cell ∈ cells, IsCell cell) :
    scanTable heading n ⟨true, true, true⟩ (rows.map renderRow ++ lines) =
      readRows n rows ++ scanTable heading (n + rows.length) ⟨true, true, true⟩ lines := by
  induction rows generalizing n with
  | nil => rfl
  | cons cells rows ih =>
    obtain ⟨⟨hne, hcells⟩, hrows⟩ := List.forall_mem_cons.mp hrows
    have hstripped : strippedLine (renderRow cells) = renderRow cells := by
      rw [strippedLine, trimEnd_renderRow, trimStart_renderRow]
    rw [List.map_cons, List.cons_append, scanTable_cons, lineKind_renderRow hcells hne, hstripped,
      splitPipeRow_renderRow hcells hne, readRows, List.append_assoc, List.length_cons,
      Nat.add_comm rows.length 1, ← Nat.add_assoc, ← ih hrows]
    by_cases hsep : SeparatorLike cells
    · rw [if_pos hsep, if_pos hsep, if_neg fun h => LineKind.noConfusion h.1]
      rfl
    · rw [if_neg hsep, if_neg hsep, if_pos ⟨rfl, rfl, rfl, rfl⟩]
      rfl

/-- The loop on prose in front of a table. -/
theorem scanTable_intro {intro : List (List Char)}
    (hintro : ∀ line ∈ intro, lineKind heading line = .prose ∨ lineKind heading line = .blank) :
    scanTable heading n ⟨true, false, false⟩ (intro ++ lines) =
      scanTable heading (n + intro.length) ⟨true, false, false⟩ lines := by
  induction intro generalizing n with
  | nil => rfl
  | cons line intro ih =>
    obtain ⟨hline, hintro⟩ := List.forall_mem_cons.mp hintro
    rw [List.cons_append, scanTable_cons, List.length_cons, Nat.add_comm intro.length 1,
      ← Nat.add_assoc, ← ih hintro]
    rcases hline with hline | hline <;>
      (rw [hline, if_neg fun h => LineKind.noConfusion h.1]; rfl)

/-- The loop on a header and its separator. -/
theorem scanTable_header {header : List (List Char)}
    (hheader : header ≠ [] ∧ ∀ cell ∈ header, IsCell cell) :
    scanTable heading n ⟨true, false, false⟩
        (renderRow header :: renderRow (header.map fun _ => "---".toList) :: lines) =
      scanTable heading (n + 2) ⟨true, true, true⟩ lines := by
  obtain ⟨hne, hcells⟩ := hheader
  have hdashes : ∀ cell ∈ header.map (fun _ => "---".toList), cell = "---".toList := by
    rw [List.forall_mem_map]
    exact fun _ _ => rfl
  have hkind : lineKind heading (renderRow (header.map fun _ => "---".toList)) = .separator := by
    have hcell (cell : List Char) (hmem : cell ∈ header.map fun _ => "---".toList) : IsCell cell :=
      hdashes cell hmem ▸ isCell_dashes
    rw [lineKind_renderRow hcell (by simpa using hne)]
    refine if_pos fun cell hcell _ => ?_
    rw [hdashes cell hcell]
    decide
  have hclosed : ¬TableScan.Open ⟨true, false, false⟩ := fun h => Bool.false_ne_true h.2.1
  rw [scanTable_cons, if_neg fun h => hclosed h.2, lineKind_renderRow hcells hne]
  -- the header itself may look like a separator
  split_ifs with hsep
  · show [] ++ scanTable heading (n + 1) ⟨true, true, true⟩ _ = _
    rw [List.nil_append, scanTable_cons, hkind, if_neg fun h => LineKind.noConfusion h.1]
    rfl
  · show [] ++ scanTable heading (n + 1) ⟨true, false, false⟩ _ = _
    rw [List.nil_append, scanTable_cons, hkind, if_neg fun h => LineKind.noConfusion h.1]
    rfl

/-- The separator of the table opens it. -/
theorem describes_separator :
    TableScan.Describes ⟨true, true, true⟩ [.heading, .separator] where
  inSection := by simp
  inTable := iff_of_true rfl ⟨[.heading], [], rfl, List.mem_cons_self, fun _ h => by cases h⟩
  headerSeen := fun h => h
  stays := by
    change ¬SectionLeft ([.heading] ++ [.separator])
    rw [sectionLeft_concat]
    rintro (h | ⟨h, -⟩)
    · obtain ⟨front, back, heq, -⟩ := h
      have hmem : LineKind.otherHeading ∈ [LineKind.heading] := by
        rw [heq]
        simp
      cases List.mem_singleton.mp hmem
    · cases h

end

namespace TableDocument

variable (d : TableDocument)

theorem notMem_intercalate {c : Char} {sep : List Char} {pieces : List (List Char)} (hsep : c ∉ sep)
    (hpieces : ∀ piece ∈ pieces, c ∉ piece) : c ∉ sep.intercalate pieces := by
  induction pieces with
  | nil => exact List.not_mem_nil
  | cons piece pieces ih =>
    obtain ⟨hpiece, hpieces⟩ := List.forall_mem_cons.mp hpieces
    cases pieces with
    | nil => rwa [List.intercalate_singleton]
    | cons next pieces =>
      rw [List.intercalate_cons_cons, List.mem_append, List.mem_append]
      rintro ((h | h) | h)
      · exact hpiece h
      · exact hsep h
      · exact ih hpieces h

theorem newline_notMem_renderRow {cells : List (List Char)} (hcells : ∀ cell ∈ cells, IsCell cell) :
    '\n' ∉ renderRow cells := by
  have hpieces : ∀ piece ∈ cells.map padCell, '\n' ∉ piece := by
    rw [List.forall_mem_map]
    intro cell hcell
    unfold padCell
    simp [(hcells cell hcell).2.1]
  have hjoin : '\n' ∉ ['|'].intercalate (cells.map padCell) :=
    notMem_intercalate (by decide) hpieces
  unfold renderRow
  simp [hjoin]

theorem tableLines_notMem : ∀ line ∈ d.tableLines, '\n' ∉ line := by
  have hheading : '\n' ∉ "## ".toList ++ d.heading := by
    rw [List.mem_append]
    exact not_or.mpr ⟨by decide, d.heading_text.2.1⟩
  have hdashes : ∀ cell ∈ d.header.map (fun _ => "---".toList), IsCell cell := by
    rw [List.forall_mem_map]
    exact fun _ _ => isCell_dashes
  have hheader : ∀ line ∈ d.headerLines, '\n' ∉ line := by
    unfold headerLines
    rw [List.forall_mem_cons, List.forall_mem_singleton]
    exact ⟨newline_notMem_renderRow d.header_cells.2, newline_notMem_renderRow hdashes⟩
  unfold tableLines
  rw [List.forall_mem_append, List.forall_mem_append, List.forall_mem_append, List.forall_mem_cons,
    List.forall_mem_map]
  refine ⟨⟨d.before_lines, ⟨hheading, fun line hline => (d.intro_prose line hline).1⟩, hheader⟩, ?_⟩
  exact fun cells hcells => newline_notMem_renderRow (d.rows_cells cells hcells).2

/-- The lines of the document. -/
theorem parse_eq_scanTable :
    parseTableUnderHeading d.text d.heading =
      scanTable d.heading 1 .start (d.tableLines ++ Text.lines d.after) := by
  unfold parseTableUnderHeading text
  rw [Text.lines_flatMap_newline d.tableLines_notMem, scanTable_append, scanTable_append,
    scanTable_map_stripCr, map_lineKind_stripCr, List.length_map]
  rfl

theorem lineKind_headingLine : lineKind d.heading ("## ".toList ++ d.heading) = .heading := by
  apply lineKind_heading
  obtain ⟨hne, -, htrim⟩ := d.heading_text
  obtain ⟨front, c, hheading⟩ := (List.eq_nil_or_concat d.heading).resolve_left hne
  rw [List.concat_eq_append] at hheading
  have hc : Text.isWhitespace c = false := by
    have hend := (trim_eq_self htrim).2
    rw [← Bool.not_eq_true]
    intro hc
    rw [hheading, Text.trimEnd, List.rdropWhile_concat_pos _ _ _ hc] at hend
    have hlen := congrArg List.length hend
    have hle := (List.rdropWhile_prefix Text.isWhitespace front).length_le
    rw [List.length_append, List.length_singleton] at hlen
    omega
  have hend := Text.trimEnd_append hc ("## ".toList ++ front) []
  rw [List.append_assoc, ← hheading] at hend
  have hstart (cs : List Char) : Text.trimStart ("## ".toList ++ cs) = "## ".toList ++ cs := by
    rw [Text.trimStart]
    exact List.dropWhile_cons_of_neg (by decide)
  unfold strippedLine
  rw [hend, List.append_assoc, hstart, hheading]
  rfl

/-- What is read of a document: rows in front of the heading, then those of the table, and
    what follows the table is read as if it went on. -/
theorem parse_text :
    parseTableUnderHeading d.text d.heading =
      scanTable d.heading 1 .start d.before ++ (TableScan.start.run d.beforeKinds).elim [] fun _ =>
        readRows d.firstRow d.rows ++
          scanTable d.heading (d.firstRow + d.rows.length) ⟨true, true, true⟩
            (Text.lines d.after) := by
  rw [parse_eq_scanTable, tableLines, List.append_assoc, List.append_assoc, scanTable_append]
  congr 2
  funext s
  rw [List.append_assoc, List.cons_append, scanTable_cons, lineKind_headingLine,
    if_neg fun h => LineKind.noConfusion h.1]
  show [] ++ scanTable d.heading (1 + d.before.length + 1) ⟨true, false, false⟩ _ = _
  rw [List.nil_append, scanTable_intro fun line hline => (d.intro_prose line hline).2]
  unfold headerLines
  rw [List.cons_append, List.cons_append, List.nil_append, scanTable_header d.header_cells,
    scanTable_rows d.rows_cells]
  have hfirst : 1 + d.before.length + 1 + d.intro.length + 2 = d.firstRow := by
    unfold firstRow
    omega
  rw [hfirst]

theorem append_eq_iff_of_notMem {front back all : List TableRow}
    (h : ∀ row ∈ front, row ∉ all) : front ++ back = all ↔ front = [] ∧ back = all := by
  constructor
  · rintro rfl
    have hnil : front = [] := List.eq_nil_iff_forall_not_mem.mpr fun row hrow =>
      h row hrow (List.mem_append_left back hrow)
    exact ⟨hnil, by rw [hnil, List.nil_append]⟩
  · rintro ⟨rfl, rfl⟩
    rfl

theorem append_eq_iff_of_notMem' {front back all : List TableRow}
    (h : ∀ row ∈ back, row ∉ all) : front ++ back = all ↔ front = all ∧ back = [] := by
  constructor
  · rintro rfl
    have hnil : back = [] := List.eq_nil_iff_forall_not_mem.mpr fun row hrow =>
      h row hrow (List.mem_append_right front hrow)
    exact ⟨by rw [hnil, List.append_nil], hnil⟩
  · rintro ⟨rfl, rfl⟩
    rw [List.append_nil]

/-- Exactly the rows of the table are read iff none of them is taken for a separator and
    nothing else of the document for a row. -/
theorem parse_text_iff : parseTableUnderHeading d.text d.heading = d.expected ↔ d.OnlyTable := by
  have hrows : ∀ cells ∈ d.rows, cells ≠ [] := fun cells hcells => (d.rows_cells cells hcells).1
  have hbefore : scanTable d.heading 1 .start d.before = [] ↔ ¬ReadsRow [] d.beforeKinds :=
    scanTable_eq_nil_iff TableScan.describes_start
  have hafter : scanTable d.heading (d.firstRow + d.rows.length) ⟨true, true, true⟩
      (Text.lines d.after) = [] ↔ ¬ReadsRow [.heading, .separator] d.afterKinds :=
    scanTable_eq_nil_iff describes_separator
  -- rows of other lines have other numbers
  have hfront : ∀ row ∈ scanTable d.heading 1 .start d.before, row ∉ d.expected := by
    intro row hrow hmem
    have hlt := (lineNo_of_mem_scanTable hrow).2
    have hle := (lineNo_of_mem_tableRows hmem).1
    unfold firstRow at hle
    omega
  have hback : ∀ row ∈ scanTable d.heading (d.firstRow + d.rows.length) ⟨true, true, true⟩
      (Text.lines d.after), row ∉ d.expected := by
    intro row hrow hmem
    have hle := (lineNo_of_mem_scanTable hrow).1
    have hlt := (lineNo_of_mem_tableRows hmem).2
    omega
  rw [parse_text, OnlyTable, ← hbefore, ← hafter, ← readRows_eq_iff (n := d.firstRow) hrows]
  rw [append_eq_iff_of_notMem hfront]
  refine and_congr_right fun _ => ?_
  obtain ⟨hnone, hleft⟩ | ⟨s, hsome, hs⟩ := TableScan.describes_start.run d.beforeKinds
  · rw [List.nil_append] at hleft
    rw [hnone, or_iff_left fun h => h.1 hleft, and_iff_right hleft]
    exact eq_comm.trans (tableRows_eq_nil_iff hrows)
  · have hstays : ¬SectionLeft d.beforeKinds := hs.stays
    rw [hsome, or_iff_right fun h => hstays h.1, and_iff_right hstays]
    exact append_eq_iff_of_notMem' hback

/-- A table with one row under `## H`, and what follows it. -/
def sample (row : List (List Char)) (after : String) (hrow : row ≠ [] ∧ ∀ cell ∈ row, IsCell cell) :
    TableDocument where
  before := ["# Devloop".toList, []]
  heading := ['H']
  intro := ["Notes.".toList, []]
  header := ["Path".toList, "Owner".toList]
  rows := [row]
  after := after.toList
  before_lines := by decide
  heading_text := by decide
  intro_prose := by decide +kernel
  header_cells := by decide
  rows_cells := by
    rw [List.forall_mem_singleton]
    exact hrow

/-- Prose and another section follow. -/
def oneTable : TableDocument :=
  sample ["`crates/a/`".toList, []] "\nNotes.\n\n## Other\n\n| Path |\n|---|\n| `b.rs` |\n"
    (by decide)

/-- Prose and another table of the section follow. -/
def secondTable : TableDocument :=
  sample ["`a.rs`".toList, []] "\nNotes.\n\n| Path |\n|---|\n| `b.rs` |\n" (by decide)

/-- The cells of the row are dashes. -/
def dashRow : TableDocument := sample [['-'], ['-']] "" (by decide)

example : parseTableUnderHeading oneTable.text oneTable.heading = oneTable.expected := by
  decide +kernel

/-- The row of the second table is read too; a row of dashes is not read. -/
theorem second_table_read :
    (parseTableUnderHeading secondTable.text secondTable.heading).map (·.cells) =
        [["a.rs".toList, []], ["b.rs".toList]] ∧
      parseTableUnderHeading dashRow.text dashRow.heading = [] ∧
      ¬∀ d : TableDocument, parseTableUnderHeading d.text d.heading = d.expected := by
  refine ⟨by decide +kernel, by decide +kernel, fun h => ?_⟩
  exact absurd (h secondTable) (by decide +kernel)

end TableDocument

end DarkTower.Guard
