import Mathlib.Data.Finset.Basic
import Mathlib.Logic.Function.Basic

/-!
# A register of sessions, in its own terms

What the three maps of the meeting actor are for: every present participant
holds exactly one session key, a key has at most one owner, and a key may have
a binding with which its owner can come back. The register is stated over
arbitrary participants `P`, keys `C` and bindings `B`.

* `Owned`: a participant holds a key iff the key's owner is that participant.
  It is kept by every operation whose new key is unowned.
* `Bound`: a binding exists only under a key that some participant holds. All
  operations keep it except `vacate`, which leaves the binding of the key it
  takes away: `bound_vacateAll_iff` says exactly when it survives.
-/

namespace DarkTower.Mc

/-- The key of each present participant, the owner and the binding of each key. -/
structure Registry (P C B : Type*) where
  key : P → Option C
  owner : C → Option P
  binding : C → Option B

namespace Registry

variable {P C B : Type*} [DecidableEq P] [DecidableEq C]

/-- A new participant `p` gets the key `c` with binding `b`. -/
def issue (r : Registry P C B) (p : P) (c : C) (b : B) : Registry P C B where
  key := Function.update r.key p (some c)
  owner := Function.update r.owner c (some p)
  binding := Function.update r.binding c (some b)

/-- `p` gives up the key `c` with its binding for the key `c'` with binding `b`. -/
def rotate (r : Registry P C B) (p : P) (c c' : C) (b : B) : Registry P C B where
  key := Function.update r.key p (some c')
  owner := Function.update (Function.update r.owner c none) c' (some p)
  binding := Function.update (Function.update r.binding c none) c' (some b)

/-- The binding of `c` is dropped. -/
def drop (r : Registry P C B) (c : C) : Registry P C B :=
  { r with binding := Function.update r.binding c none }

/-- `p` is gone and its key unowned; a binding of the key stays. -/
def vacate (r : Registry P C B) (p : P) : Registry P C B :=
  match r.key p with
  | none => r
  | some c =>
    { r with key := Function.update r.key p none, owner := Function.update r.owner c none }

/-- Every participant of `ps` is gone. -/
def vacateAll (r : Registry P C B) (ps : List P) : Registry P C B := ps.foldl vacate r

/-- A participant holds a key iff it is the owner of the key. -/
def Owned (r : Registry P C B) : Prop := ∀ p c, r.key p = some c ↔ r.owner c = some p

/-- A key with a binding is held by a participant. -/
def Bound (r : Registry P C B) : Prop := ∀ c, r.binding c ≠ none → ∃ p, r.key p = some c

/-- The key `c` occurs in the register. -/
def InUse (r : Registry P C B) (c : C) : Prop := r.owner c ≠ none ∨ r.binding c ≠ none

variable {r : Registry P C B} {p q : P} {c c' : C} {b : B}

omit [DecidableEq P] [DecidableEq C] in
theorem Owned.key_injective (h : r.Owned) (hp : r.key p = some c) (hq : r.key q = some c) :
    p = q := by
  have h1 := (h p c).mp hp
  rw [(h q c).mp hq] at h1
  exact (Option.some.inj h1).symm

/-! ## Keys and bindings after an operation -/

theorem issue_key_eq_some {d : C} (h : (r.issue p c b).key q = some d) :
    (q = p ∧ d = c) ∨ (q ≠ p ∧ r.key q = some d) := by
  by_cases hq : q = p
  · subst hq
    left
    simpa [Registry.issue, eq_comm] using h
  · right
    simpa [Registry.issue, Function.update_of_ne hq, hq] using h

theorem issue_binding_self : (r.issue p c b).binding c = some b := by simp [Registry.issue]

theorem issue_binding_of_ne {d : C} (hd : d ≠ c) : (r.issue p c b).binding d = r.binding d := by
  simp [Registry.issue, Function.update_of_ne hd]

theorem issue_binding_eq_some {d : C} {b' : B} (h : (r.issue p c b).binding d = some b') :
    (d = c ∧ b' = b) ∨ r.binding d = some b' := by
  by_cases hd : d = c
  · subst hd
    rw [issue_binding_self, Option.some.injEq] at h
    exact .inl ⟨rfl, h.symm⟩
  · rw [issue_binding_of_ne hd] at h
    exact .inr h

theorem rotate_key_eq_some {d : C} (h : (r.rotate p c c' b).key q = some d) :
    (q = p ∧ d = c') ∨ (q ≠ p ∧ r.key q = some d) := by
  by_cases hq : q = p
  · subst hq
    left
    simpa [Registry.rotate, eq_comm] using h
  · right
    simpa [Registry.rotate, Function.update_of_ne hq, hq] using h

theorem rotate_binding_self : (r.rotate p c c' b).binding c' = some b := by
  simp [Registry.rotate]

theorem rotate_binding_old (h : c ≠ c') : (r.rotate p c c' b).binding c = none := by
  simp [Registry.rotate, Function.update_of_ne h]

theorem rotate_binding_of_ne {d : C} (hd : d ≠ c) (hd' : d ≠ c') :
    (r.rotate p c c' b).binding d = r.binding d := by
  simp [Registry.rotate, Function.update_of_ne hd, Function.update_of_ne hd']

theorem rotate_binding_eq_some {d : C} {b' : B} (h : (r.rotate p c c' b).binding d = some b') :
    (d = c' ∧ b' = b) ∨ r.binding d = some b' := by
  by_cases hd' : d = c'
  · subst hd'
    rw [rotate_binding_self, Option.some.injEq] at h
    exact .inl ⟨rfl, h.symm⟩
  · by_cases hd : d = c
    · subst hd
      rw [rotate_binding_old hd'] at h
      cases h
    · rw [rotate_binding_of_ne hd hd'] at h
      exact .inr h

omit [DecidableEq P] in
theorem drop_binding_self : (r.drop c).binding c = none := by simp [Registry.drop]

omit [DecidableEq P] in
theorem drop_binding_of_ne {d : C} (hd : d ≠ c) : (r.drop c).binding d = r.binding d := by
  simp [Registry.drop, Function.update_of_ne hd]

omit [DecidableEq P] in
theorem drop_binding_eq_some {d : C} (h : (r.drop c).binding d = some b) :
    r.binding d = some b := by
  by_cases hd : d = c
  · subst hd
    rw [drop_binding_self] at h
    cases h
  · rwa [drop_binding_of_ne hd] at h

theorem vacate_key (r : Registry P C B) (p q : P) :
    (r.vacate p).key q = if q = p then none else r.key q := by
  unfold Registry.vacate
  cases hp : r.key p with
  | none => by_cases hqp : q = p <;> simp [hqp, hp]
  | some c => simp [Function.update_apply]

theorem vacate_key_eq_some {r : Registry P C B} {p q : P} {c : C}
    (h : (r.vacate p).key q = some c) : q ≠ p ∧ r.key q = some c := by
  rw [vacate_key] at h
  split_ifs at h with hqp
  exact ⟨hqp, h⟩

theorem vacate_binding (r : Registry P C B) (p : P) : (r.vacate p).binding = r.binding := by
  unfold Registry.vacate
  cases r.key p <;> rfl

theorem vacateAll_key (r : Registry P C B) (ps : List P) (q : P) :
    (r.vacateAll ps).key q = if q ∈ ps then none else r.key q := by
  induction ps generalizing r with
  | nil => simp [Registry.vacateAll]
  | cons p ps ih =>
    have hstep : r.vacateAll (p :: ps) = (r.vacate p).vacateAll ps := rfl
    rw [hstep, ih, vacate_key]
    by_cases hq : q ∈ ps <;> by_cases hqp : q = p <;> simp [hq, hqp]

theorem vacateAll_key_eq_some {r : Registry P C B} {ps : List P} {q : P} {c : C}
    (h : (r.vacateAll ps).key q = some c) : q ∉ ps ∧ r.key q = some c := by
  rw [vacateAll_key] at h
  split_ifs at h with hmem
  exact ⟨hmem, h⟩

theorem vacateAll_binding (r : Registry P C B) (ps : List P) :
    (r.vacateAll ps).binding = r.binding := by
  induction ps generalizing r with
  | nil => rfl
  | cons p ps ih =>
    have hstep : r.vacateAll (p :: ps) = (r.vacate p).vacateAll ps := rfl
    rw [hstep, ih, vacate_binding]

/-! ## Keeping `Owned` -/

theorem Owned.issue (h : r.Owned) (hp : r.key p = none) (hc : r.owner c = none) :
    (r.issue p c b).Owned := by
  intro q d
  have hq := h q d
  by_cases hqp : q = p <;> by_cases hdc : d = c <;> simp_all [Registry.issue]
  · exact fun e => hdc e.symm
  · exact fun e => hqp e.symm

theorem Owned.rotate (h : r.Owned) (hp : r.key p = some c) (hc : r.owner c' = none) :
    (r.rotate p c c' b).Owned := by
  have hown := (h p c).mp hp
  have hne : c ≠ c' := by rintro rfl; simp [hown] at hc
  intro q d
  have hq := h q d
  simp only [Registry.rotate, Function.update_apply]
  by_cases hqp : q = p
  · subst hqp
    by_cases hdc' : d = c'
    · simp [hdc']
    · by_cases hdc : d = c
      · simp [hdc, hne, hne.symm]
      · have hnot : r.owner d ≠ some q := fun e => hdc (by
          have := hq.mpr e
          rw [hp] at this
          exact (Option.some.inj this).symm)
        simpa [hdc, hdc', hnot] using fun e => hdc' e.symm
  · by_cases hdc' : d = c'
    · have hnot : r.key q ≠ some d := fun e => by
        rw [hdc'] at e
        simp [(h q c').mp e] at hc
      simpa [hqp, hdc', hdc' ▸ hnot] using fun e => hqp e.symm
    · by_cases hdc : d = c
      · have hnot : r.key q ≠ some d := fun e => hqp (h.key_injective (hdc ▸ e) hp)
        simpa [hqp, hdc, hne] using hdc ▸ hnot
      · simpa [hqp, hdc, hdc'] using hq

omit [DecidableEq P] in
theorem Owned.drop (h : r.Owned) : (r.drop c).Owned := h

theorem Owned.vacate (h : r.Owned) : (r.vacate p).Owned := by
  unfold Registry.vacate
  cases hp : r.key p with
  | none => exact h
  | some c =>
    intro q d
    have hq := h q d
    simp only [Function.update_apply]
    by_cases hqp : q = p
    · subst hqp
      by_cases hdc : d = c
      · simp [hdc]
      · have hnot : r.owner d ≠ some q := fun e => hdc (by
          have := hq.mpr e
          rw [hp] at this
          exact (Option.some.inj this).symm)
        simp [hdc, hnot]
    · by_cases hdc : d = c
      · have hnot : r.key q ≠ some d := fun e => hqp (h.key_injective (hdc ▸ e) hp)
        simpa [hqp, hdc] using hdc ▸ hnot
      · simpa [hqp, hdc] using hq

theorem Owned.vacateAll (h : r.Owned) (ps : List P) : (r.vacateAll ps).Owned := by
  induction ps generalizing r with
  | nil => exact h
  | cons p ps ih => exact ih h.vacate

/-! ## Keeping `Bound` -/

theorem Bound.issue (h : r.Bound) (hp : r.key p = none) : (r.issue p c b).Bound := by
  intro d hd
  by_cases hdc : d = c
  · exact ⟨p, by simp [Registry.issue, hdc]⟩
  · rw [issue_binding_of_ne hdc] at hd
    obtain ⟨q, hq⟩ := h d hd
    have hqp : q ≠ p := by rintro rfl; simp [hp] at hq
    exact ⟨q, by simp [Registry.issue, Function.update_of_ne hqp, hq]⟩

omit [DecidableEq P] [DecidableEq C] in
/-- Two keys of one participant are equal. -/
theorem key_unique (hp : r.key p = some c) (hp' : r.key p = some c') : c = c' := by
  rw [hp] at hp'
  exact Option.some.inj hp'

theorem Bound.rotate (h : r.Bound) (hp : r.key p = some c) : (r.rotate p c c' b).Bound := by
  intro d hd
  by_cases hdc' : d = c'
  · exact ⟨p, by simp [Registry.rotate, hdc']⟩
  · by_cases hdc : d = c
    · subst hdc
      exact absurd (rotate_binding_old hdc') hd
    · rw [rotate_binding_of_ne hdc hdc'] at hd
      obtain ⟨q, hq⟩ := h d hd
      have hqp : q ≠ p := by
        rintro rfl
        exact hdc (key_unique hq hp)
      exact ⟨q, by simp [Registry.rotate, Function.update_of_ne hqp, hq]⟩

omit [DecidableEq P] in
theorem Bound.drop (h : r.Bound) : (r.drop c).Bound := by
  intro d hd
  by_cases hdc : d = c
  · subst hdc
    exact absurd drop_binding_self hd
  · rw [drop_binding_of_ne hdc] at hd
    exact h d hd

/-- Taking away the participants `ps` leaves every binding with a holder iff
    none of them had a binding under its key. -/
theorem bound_vacateAll_iff (ho : r.Owned) (hb : r.Bound) (ps : List P) :
    (r.vacateAll ps).Bound ↔ ∀ p ∈ ps, ∀ c, r.key p = some c → r.binding c = none := by
  constructor
  · intro h p hp c hc
    by_contra hbc
    obtain ⟨q, hq⟩ := h c (by rwa [vacateAll_binding])
    obtain ⟨hmem, hq⟩ := vacateAll_key_eq_some hq
    exact hmem (ho.key_injective hq hc ▸ hp)
  · intro h c hc
    rw [vacateAll_binding] at hc
    obtain ⟨p, hp⟩ := hb c hc
    refine ⟨p, ?_⟩
    rw [vacateAll_key, if_neg (fun hmem => hc (h p hmem c hp)), hp]

/-- A participant that leaves and whose binding is dropped with it leaves every
    other binding with its holder. -/
theorem Bound.leave (h : r.Bound) (hp : r.key p = some c) : ((r.vacate p).drop c).Bound := by
  intro d hd
  by_cases hdc : d = c
  · subst hdc
    exact absurd drop_binding_self hd
  · rw [drop_binding_of_ne hdc, vacate_binding] at hd
    obtain ⟨q, hq⟩ := h d hd
    have hqp : q ≠ p := by
      rintro rfl
      exact hdc (key_unique hq hp)
    refine ⟨q, ?_⟩
    simp only [Registry.drop, vacate_key, if_neg hqp, hq]

/-! ## No operation brings in a key of its own -/

theorem inUse_issue {d : C} (h : (r.issue p c b).InUse d) : d = c ∨ r.InUse d := by
  by_cases hdc : d = c
  · exact Or.inl hdc
  · right
    simpa only [InUse, Registry.issue, Function.update_of_ne hdc] using h

theorem inUse_rotate {d : C} (h : (r.rotate p c c' b).InUse d) : d = c' ∨ r.InUse d := by
  by_cases hdc' : d = c'
  · exact Or.inl hdc'
  · right
    by_cases hdc : d = c
    · simp [InUse, Registry.rotate, hdc, Function.update_of_ne (hdc ▸ hdc')] at h
    · simpa only [InUse, Registry.rotate, Function.update_of_ne hdc', Function.update_of_ne hdc]
        using h

omit [DecidableEq P] in
theorem inUse_drop {d : C} (h : (r.drop c).InUse d) : r.InUse d := by
  rcases h with h | h
  · exact Or.inl h
  · by_cases hdc : d = c
    · simp [Registry.drop, hdc] at h
    · simp only [Registry.drop, Function.update_of_ne hdc] at h
      exact Or.inr h

theorem inUse_vacate {d : C} (h : (r.vacate p).InUse d) : r.InUse d := by
  rcases h with h | h
  · unfold Registry.vacate at h
    cases hp : r.key p with
    | none =>
      rw [hp] at h
      exact Or.inl h
    | some c =>
      by_cases hdc : d = c
      · simp [hp, hdc] at h
      · simp only [hp, Function.update_of_ne hdc] at h
        exact Or.inl h
  · rw [vacate_binding] at h
    exact Or.inr h

theorem inUse_vacateAll {d : C} {ps : List P} (h : (r.vacateAll ps).InUse d) : r.InUse d := by
  induction ps generalizing r with
  | nil => exact h
  | cons p ps ih => exact inUse_vacate (ih h)

/-! ## No operation gives an owner to an old key -/

theorem issue_owner_of_ne {d : C} (hd : d ≠ c) : (r.issue p c b).owner d = r.owner d := by
  simp [Registry.issue, Function.update_of_ne hd]

theorem rotate_owner_eq_none {d : C} (hd : d ≠ c') (h : d = c ∨ r.owner d = none) :
    (r.rotate p c c' b).owner d = none := by
  simp only [Registry.rotate, Function.update_of_ne hd]
  by_cases hdc : d = c
  · simp [hdc]
  · rw [Function.update_of_ne hdc]
    exact h.resolve_left hdc

theorem vacate_owner_eq_none {d : C} (h : r.owner d = none) : (r.vacate p).owner d = none := by
  unfold Registry.vacate
  cases r.key p with
  | none => exact h
  | some c => by_cases hdc : d = c <;> simp [hdc, h]

theorem vacateAll_owner_eq_none {d : C} {ps : List P} (h : r.owner d = none) :
    (r.vacateAll ps).owner d = none := by
  induction ps generalizing r with
  | nil => exact h
  | cons p ps ih => exact ih (vacate_owner_eq_none h)

end Registry

end DarkTower.Mc
