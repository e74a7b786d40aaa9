import Mathlib.Data.List.AList

/-!
# Maps whose values are collections

A map from keys to lists (`HashMap<K, Vec<T>>`), and a map of such maps
(`HashMap<K, HashMap<L, Vec<T>>>`). A key without an entry is read as an empty
collection.

* `bucket`, `row` and `cell` read one collection, `flat`, `rowItems` and
  `items` list everything that is stored.
* `flat_insert`, `rowItems_setCell` and `items_setCell`: replacing one
  collection exchanges its old contents for the new ones and nothing else, up
  to the order.
-/

namespace DarkTower.Lib.Multimap

variable {α β γ δ : Type*} [DecidableEq α]

open List

/-! ## Replacing a value -/

section Keys

variable {m : AList fun _ : α => β} {a : α} {b : β}

theorem length_keys_insert_of_mem (h : a ∈ m) : (m.insert a b).keys.length = m.keys.length := by
  have hmem : a ∈ m.keys := h
  rw [AList.keys_insert, length_cons, length_erase_of_mem hmem]
  exact Nat.sub_add_cancel (length_pos_of_mem hmem)

theorem length_keys_insert_of_notMem (h : a ∉ m) :
    (m.insert a b).keys.length = m.keys.length + 1 := by
  have hmem : a ∉ m.keys := h
  rw [AList.keys_insert, length_cons, erase_of_not_mem hmem]

theorem lookup_insert_eq_some {a' : α} {b' : β} :
    (m.insert a b).lookup a' = some b' ↔ a' = a ∧ b' = b ∨ a' ≠ a ∧ m.lookup a' = some b' := by
  by_cases h : a' = a
  · rw [h, AList.lookup_insert, Option.some.injEq, eq_comm]
    simp
  · rw [AList.lookup_insert_ne h]
    simp [h]

theorem lookup_erase_eq_some {a' : α} {b' : β} :
    (m.erase a).lookup a' = some b' ↔ a' ≠ a ∧ m.lookup a' = some b' := by
  by_cases h : a' = a
  · rw [h, AList.lookup_erase]
    simp
  · rw [AList.lookup_erase_ne h]
    simp [h]

omit [DecidableEq α] in
theorem exists_mem_of_entries (h : ¬ m.entries.isEmpty = true) : ∃ a, a ∈ m := by
  obtain ⟨⟨a, b⟩, hmem⟩ := List.exists_mem_of_ne_nil _ (mt List.isEmpty_iff.mpr h)
  exact ⟨a, List.mem_keys_of_mem hmem⟩

theorem length_keys_erase_of_mem (h : a ∈ m) : (m.erase a).keys.length + 1 = m.keys.length := by
  have hmem : a ∈ m.keys := h
  rw [AList.keys_erase, length_erase_of_mem hmem]
  exact Nat.sub_add_cancel (length_pos_of_mem hmem)

end Keys

/-! ## The contents of the values -/

/-- What the values of a map hold, `f` listing the contents of one value. -/
def flat (f : β → List γ) (m : AList fun _ : α => β) : List γ :=
  m.entries.flatMap fun entry => f entry.2

/-- The list at a key. -/
def bucket (m : AList fun _ : α => List γ) (a : α) : List γ := (m.lookup a).getD []

omit [DecidableEq α] in
@[simp] theorem flat_empty (f : β → List γ) : flat f (∅ : AList fun _ : α => β) = [] := rfl

theorem flat_of_lookup (f : β → List γ) {m : AList fun _ : α => β} {a : α} {b : β}
    (h : m.lookup a = some b) : flat f m ~ f b ++ flat f (m.erase a) := by
  have hmem : a ∈ m.keys := AList.lookup_isSome.mp (by rw [h]; rfl)
  obtain ⟨b', before, after, _, hentries, herase⟩ := exists_of_kerase hmem
  have hb : (⟨a, b'⟩ : Sigma fun _ => β) ∈ m.entries := by rw [hentries]; simp
  obtain rfl : b' = b := by
    have hlookup := AList.mem_lookup_iff.mpr hb
    rw [h] at hlookup
    exact (Option.some.inj hlookup).symm
  have hm : flat f m = before.flatMap (fun entry => f entry.2) ++ (f b' ++
      after.flatMap fun entry => f entry.2) := by
    rw [flat, hentries, flatMap_append, flatMap_cons]
  have he : flat f (m.erase a) = before.flatMap (fun entry => f entry.2) ++
      after.flatMap fun entry => f entry.2 := by
    rw [flat, show (m.erase a).entries = kerase a m.entries from rfl, herase, flatMap_append]
  rw [hm, he]
  exact perm_append_comm_assoc _ _ _

theorem erase_of_lookup_none {m : AList fun _ : α => β} {a : α} (h : m.lookup a = none) :
    m.erase a = m :=
  AList.ext (kerase_of_notMem_keys (AList.lookup_eq_none.mp h))

/-- The new value stands in front of the others. -/
theorem flat_insert_eq (f : β → List γ) (m : AList fun _ : α => β) (a : α) (b : β) :
    flat f (m.insert a b) = f b ++ flat f (m.erase a) := by
  rw [flat, AList.entries_insert, flatMap_cons]
  rfl

theorem flat_insert_of_notMem (f : β → List γ) {m : AList fun _ : α => β} {a : α} (h : a ∉ m)
    (b : β) : flat f (m.insert a b) = f b ++ flat f m := by
  rw [flat_insert_eq, erase_of_lookup_none (AList.lookup_eq_none.mpr h)]

/-- Everything but the value at `a`, together with what that value holds. -/
theorem flat_erase (f : β → List γ) {d : β} (hd : f d = []) (m : AList fun _ : α => β) (a : α) :
    flat f m ~ f ((m.lookup a).getD d) ++ flat f (m.erase a) := by
  cases h : m.lookup a with
  | none => simp [hd, erase_of_lookup_none h]
  | some b => exact flat_of_lookup f h

/-- Replacing the value at `a` exchanges its contents. -/
theorem flat_insert (f : β → List γ) {d : β} (hd : f d = []) (m : AList fun _ : α => β) (a : α)
    (b : β) : f ((m.lookup a).getD d) ++ flat f (m.insert a b) ~ f b ++ flat f m := by
  rw [flat_insert_eq]
  exact (perm_append_comm_assoc _ _ _).trans ((flat_erase f hd m a).symm.append_left (f b))

theorem flat_bucket_insert (m : AList fun _ : α => List γ) (a : α) (l : List γ) :
    bucket m a ++ flat id (m.insert a l) ~ l ++ flat id m := flat_insert id rfl m a l

theorem flat_bucket_erase (m : AList fun _ : α => List γ) (a : α) :
    flat id m ~ bucket m a ++ flat id (m.erase a) := flat_erase id rfl m a

theorem mem_flat {f : β → List γ} {m : AList fun _ : α => β} {x : γ} :
    x ∈ flat f m ↔ ∃ a b, m.lookup a = some b ∧ x ∈ f b := by
  rw [flat, mem_flatMap]
  constructor
  · rintro ⟨⟨a, b⟩, hmem, hx⟩
    exact ⟨a, b, AList.mem_lookup_iff.mpr hmem, hx⟩
  · rintro ⟨a, b, hlookup, hx⟩
    exact ⟨⟨a, b⟩, AList.mem_lookup_iff.mp hlookup, hx⟩

theorem mem_flat_id {m : AList fun _ : α => List γ} {x : γ} :
    x ∈ flat id m ↔ ∃ a, x ∈ bucket m a := by
  rw [mem_flat]
  constructor
  · rintro ⟨a, b, hlookup, hx⟩
    exact ⟨a, by rw [bucket, hlookup]; exact hx⟩
  · rintro ⟨a, hx⟩
    cases hlookup : m.lookup a with
    | none => rw [bucket, hlookup] at hx; cases hx
    | some b => exact ⟨a, b, hlookup, by rwa [bucket, hlookup] at hx⟩

@[simp] theorem bucket_empty (a : α) : bucket (∅ : AList fun _ : α => List γ) a = [] := rfl

theorem bucket_insert (m : AList fun _ : α => List γ) (a a' : α) (l : List γ) :
    bucket (m.insert a l) a' = if a' = a then l else bucket m a' := by
  unfold bucket
  split_ifs with h
  · rw [h, AList.lookup_insert, Option.getD_some]
  · rw [AList.lookup_insert_ne h]

theorem bucket_erase (m : AList fun _ : α => List γ) (a a' : α) :
    bucket (m.erase a) a' = if a' = a then [] else bucket m a' := by
  unfold bucket
  split_ifs with h
  · rw [h, AList.lookup_erase, Option.getD_none]
  · rw [AList.lookup_erase_ne h]

/-! ## Maps of maps -/

variable [DecidableEq δ]

/-- The map at a key. -/
def row (m : AList fun _ : α => AList fun _ : δ => List γ) (a : α) : AList fun _ : δ => List γ :=
  (m.lookup a).getD ∅

/-- The list at a pair of keys. -/
def cell (m : AList fun _ : α => AList fun _ : δ => List γ) (a : α) (d : δ) : List γ :=
  bucket (row m a) d

/-- Everything stored under a first key. -/
def rowItems (m : AList fun _ : α => AList fun _ : δ => List γ) (a : α) : List γ :=
  flat id (row m a)

/-- Everything that is stored. -/
def items (m : AList fun _ : α => AList fun _ : δ => List γ) : List γ := flat (flat id) m

/-- Replaces the list at a pair of keys. -/
def setCell (m : AList fun _ : α => AList fun _ : δ => List γ) (a : α) (d : δ) (l : List γ) :
    AList fun _ : α => AList fun _ : δ => List γ :=
  m.insert a ((row m a).insert d l)

section

variable (m : AList fun _ : α => AList fun _ : δ => List γ) (a : α) (d : δ) (l : List γ)

theorem mem_rowItems {x : γ} : x ∈ rowItems m a ↔ ∃ d, x ∈ cell m a d := mem_flat_id

omit [DecidableEq δ] in
theorem mem_items {x : γ} : x ∈ items m ↔ ∃ a, x ∈ rowItems m a := by
  rw [items, mem_flat]
  constructor
  · rintro ⟨a, row', hlookup, hx⟩
    exact ⟨a, by rw [rowItems, row, hlookup]; exact hx⟩
  · rintro ⟨a, hx⟩
    cases hlookup : m.lookup a with
    | none => rw [rowItems, row, hlookup] at hx; cases hx
    | some row' => exact ⟨a, row', hlookup, by rwa [rowItems, row, hlookup] at hx⟩

theorem row_setCell_self : row (setCell m a d l) a = (row m a).insert d l := by
  rw [row, setCell, AList.lookup_insert, Option.getD_some]

theorem row_setCell_of_ne {a' : α} (h : a' ≠ a) : row (setCell m a d l) a' = row m a' := by
  rw [row, setCell, AList.lookup_insert_ne h, row]

theorem cell_setCell (a' : α) (d' : δ) :
    cell (setCell m a d l) a' d' = if a' = a ∧ d' = d then l else cell m a' d' := by
  unfold cell
  by_cases ha : a' = a
  · subst ha
    rw [row_setCell_self, bucket_insert]
    simp
  · rw [row_setCell_of_ne m a d l ha, if_neg fun h => ha h.1]

omit [DecidableEq δ] in
theorem row_insert (r : AList fun _ : δ => List γ) (a' : α) :
    row (m.insert a r) a' = if a' = a then r else row m a' := by
  unfold row
  split_ifs with h
  · rw [h, AList.lookup_insert, Option.getD_some]
  · rw [AList.lookup_insert_ne h]

omit [DecidableEq δ] in
theorem row_erase (a' : α) : row (m.erase a) a' = if a' = a then ∅ else row m a' := by
  unfold row
  split_ifs with h
  · rw [h, AList.lookup_erase, Option.getD_none]
  · rw [AList.lookup_erase_ne h]

/-- A row is stored or, if it is empty, its key is dropped. -/
theorem cell_storeRow (a' : α) (d' : δ) (r : AList fun _ : δ => List γ) :
    cell (if r.entries.isEmpty then m.erase a else m.insert a r) a' d' =
      if a' = a then bucket r d' else cell m a' d' := by
  unfold cell
  split_ifs with hempty ha ha
  · have hr : r = ∅ := AList.ext (isEmpty_iff.mp hempty)
    rw [row_erase, if_pos ha, hr]
  · rw [row_erase, if_neg ha]
  · rw [row_insert, if_pos ha]
  · rw [row_insert, if_neg ha]

omit [DecidableEq δ] in
theorem rowItems_storeRow (a' : α) (r : AList fun _ : δ => List γ) :
    rowItems (if r.entries.isEmpty then m.erase a else m.insert a r) a' =
      if a' = a then flat id r else rowItems m a' := by
  unfold rowItems
  split_ifs with hempty ha ha
  · have hr : r = ∅ := AList.ext (isEmpty_iff.mp hempty)
    rw [row_erase, if_pos ha, hr]
  · rw [row_erase, if_neg ha]
  · rw [row_insert, if_pos ha]
  · rw [row_insert, if_neg ha]

theorem rowItems_setCell_of_ne {a' : α} (h : a' ≠ a) :
    rowItems (setCell m a d l) a' = rowItems m a' := by
  rw [rowItems, row_setCell_of_ne m a d l h, rowItems]

theorem rowItems_setCell :
    cell m a d ++ rowItems (setCell m a d l) a ~ l ++ rowItems m a := by
  rw [rowItems, row_setCell_self]
  exact flat_insert id rfl (row m a) d l

theorem items_setCell : cell m a d ++ items (setCell m a d l) ~ l ++ items m := by
  have houter := flat_insert (flat id) (d := ∅) rfl m a ((row m a).insert d l)
  have hinner : cell m a d ++ flat id ((row m a).insert d l) ~ l ++ flat id (row m a) :=
    flat_insert id rfl (row m a) d l
  -- the row is exchanged in `items`, the cell in the row
  have hall : flat id (row m a) ++ (cell m a d ++ items (setCell m a d l)) ~
      flat id (row m a) ++ (l ++ items m) :=
    calc flat id (row m a) ++ (cell m a d ++ items (setCell m a d l))
        ~ cell m a d ++ (flat id (row m a) ++ items (setCell m a d l)) :=
          perm_append_comm_assoc _ _ _
      _ ~ cell m a d ++ (flat id ((row m a).insert d l) ++ items m) := houter.append_left _
      _ ~ (l ++ flat id (row m a)) ++ items m := by
          rw [← append_assoc]
          exact hinner.append_right _
      _ ~ flat id (row m a) ++ (l ++ items m) := by
          rw [append_assoc]
          exact perm_append_comm_assoc _ _ _
  exact (perm_append_left_iff _).mp hall

end

/-! ## Taking one item out -/

omit [DecidableEq α] in
/-- `Vec::remove` at the first position that satisfies `p`. -/
theorem perm_eraseP {p : γ → Bool} {l : List γ} (h : ∃ x ∈ l, p x = true) :
    ∃ x ∈ l, p x = true ∧ l ~ x :: l.eraseP p := by
  obtain ⟨x, hx, hp⟩ := h
  obtain ⟨y, before, after, _, hy, hl, herase⟩ := exists_of_eraseP hx hp
  refine ⟨y, by rw [hl]; simp, hy, ?_⟩
  rw [herase]
  nth_rewrite 1 [hl]
  exact perm_middle

omit [DecidableEq α] in
/-- Where the keys are distinct, taking out the first item with a key leaves
    the items with other keys. -/
theorem eraseP_eq_filter [DecidableEq β] {key : γ → β} {k : β} {l : List γ}
    (h : (l.map key).Nodup) :
    l.eraseP (fun x => key x = k) = l.filter fun x => key x ≠ k := by
  induction l with
  | nil => rfl
  | cons x l ih =>
    rw [map_cons, nodup_cons] at h
    by_cases hx : key x = k
    · rw [eraseP_cons_of_pos (by simpa using hx), filter_cons_of_neg (by simpa using hx)]
      symm
      rw [filter_eq_self]
      intro y hy
      have hne : key y ≠ k := fun hyk => h.1 (mem_map.mpr ⟨y, hy, hyk.trans hx.symm⟩)
      simpa using hne
    · rw [eraseP_cons_of_neg (by simpa using hx), filter_cons_of_pos (by simpa using hx), ih h.2]

/-- Where the keys of all items are distinct, a key occurs in one cell. -/
theorem cell_unique {m : AList fun _ : α => AList fun _ : δ => List γ} {key : γ → β}
    (h : ((items m).map key).Nodup) {a a' : α} {d d' : δ} {x y : γ} (hx : x ∈ cell m a d)
    (hy : y ∈ cell m a' d') (hxy : key x = key y) : a' = a ∧ d' = d := by
  by_contra hne
  have hsplit := items_setCell m a d []
  rw [nil_append] at hsplit
  have hnodup := (hsplit.map key).nodup_iff.mpr h
  rw [map_append, nodup_append] at hnodup
  have hrest : y ∈ items (setCell m a d []) := by
    refine (mem_items _).mpr ⟨a', (mem_rowItems _ _).mpr ⟨d', ?_⟩⟩
    rw [cell_setCell, if_neg hne]
    exact hy
  exact hnodup.2.2 (key x) (mem_map_of_mem hx) (key y) (mem_map_of_mem hrest) hxy

/-- The keys within one cell are distinct where those of all items are. -/
theorem nodup_cell {m : AList fun _ : α => AList fun _ : δ => List γ} {key : γ → β}
    (h : ((items m).map key).Nodup) (a : α) (d : δ) : ((cell m a d).map key).Nodup := by
  have hsplit := items_setCell m a d []
  rw [nil_append] at hsplit
  have hnodup := (hsplit.map key).nodup_iff.mpr h
  rw [map_append, nodup_append] at hnodup
  exact hnodup.1

end DarkTower.Lib.Multimap
