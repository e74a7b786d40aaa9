import Mathlib.Data.List.Infix
import Mathlib.Tactic.Common

/-!
# Machines that answer events, and what holds along their runs

A machine has one state, handles one event at a time and answers it. Every
choice the program does not make itself (the schedule, the clock, random
draws, which call fails) is part of the event, so a step is a function. What
the environment promises about the next event, given the history so far, is
the guard `allowed`.

A history is a list of events with their answers, newest first: the tails of
a history are the histories of the states the run went through.

* `Machine.Run.invariant`: what holds initially and is kept by every allowed
  step holds at the end of every run; `invariant_of_steps` is the rule for the
  runs whose steps meet a side condition.
* `Machine.Run.le_of_suffix`: a preorder that the steps respect orders the
  states of a run.
* `Machine.Run.always_iff`: when a step keeps a property exactly under a side
  condition, the property holds all along a run iff every step of the run met
  the side condition.
* `Machine.Run.steps_iff`: the same for a property of the steps.
* `Machine.Run.purge`: a party whose events the others do not see into leaves a run of its
  own when the events of the others are left out.
* `Machine.run_of_admits`: a concrete list of events, checked event by event,
  is a run; `StepsMeet` checks a side condition step by step.
-/

namespace DarkTower.Lib

/-- A machine with states `σ`, events `α` and answers `ρ`. -/
structure Machine (σ α ρ : Type*) where
  init : σ
  step : σ → α → σ × ρ
  /-- What the environment promises of an event in a state reached by a history. -/
  allowed : List (α × ρ) → σ → α → Prop

namespace Machine

variable {σ α ρ : Type*} (M : Machine σ α ρ)

/-- A property of all steps of a history, from the last one and the ones before. -/
theorem forall_suffix_cons {Q : α → ρ → List (α × ρ) → Prop} {e : α} {a : ρ}
    {h : List (α × ρ)} :
    (∀ e' a' h', (e', a') :: h' <:+ (e, a) :: h → Q e' a' h') ↔
      Q e a h ∧ ∀ e' a' h', (e', a') :: h' <:+ h → Q e' a' h' := by
  constructor
  · intro hQ
    exact ⟨hQ e a h (List.suffix_refl _),
      fun e' a' h' hs => hQ e' a' h' (hs.trans (List.suffix_cons _ _))⟩
  · rintro ⟨hlast, hbefore⟩ e' a' h' hs
    rcases List.suffix_cons_iff.mp hs with heq | hs
    · simp only [List.cons.injEq, Prod.mk.injEq] at heq
      obtain ⟨⟨rfl, rfl⟩, rfl⟩ := heq
      exact hlast
    · exact hbefore e' a' h' hs

/-- A history without steps. -/
theorem forall_suffix_nil {Q : α → ρ → List (α × ρ) → Prop} :
    ∀ e a h', (e, a) :: h' <:+ [] → Q e a h' := by
  intro e a h' hs
  exact absurd (List.suffix_nil.mp hs) (List.cons_ne_nil _ _)

/-- The runs of a machine: a history and the state it leads to. -/
inductive Run : List (α × ρ) → σ → Prop
  | nil : Run [] M.init
  | cons {h : List (α × ρ)} {s : σ} (e : α) :
      Run h s → M.allowed h s e → Run ((e, (M.step s e).2) :: h) (M.step s e).1

/-- The state a history leads to. -/
def stateAfter : List (α × ρ) → σ
  | [] => M.init
  | (e, _) :: h => (M.step (stateAfter h) e).1

variable {M}

theorem Run.eq_stateAfter {h : List (α × ρ)} {s : σ} (hr : M.Run h s) : s = M.stateAfter h := by
  induction hr with
  | nil => rfl
  | cons e _ _ ih => rw [stateAfter, ← ih]

/-- Every tail of a history is the history of a run. -/
theorem Run.suffix {h' h : List (α × ρ)} {s : σ} (hr : M.Run h s) (hs : h' <:+ h) :
    M.Run h' (M.stateAfter h') := by
  induction hr with
  | nil =>
    obtain rfl := List.suffix_nil.mp hs
    exact .nil
  | @cons h s e hr ha ih =>
    rcases List.suffix_cons_iff.mp hs with rfl | hs
    · have hc := Run.cons e hr ha
      exact hc.eq_stateAfter ▸ hc
    · exact ih hs

/-- Every event of a history was allowed and has the machine's answer. -/
theorem Run.answer_of_suffix {e : α} {a : ρ} {h' h : List (α × ρ)} {s : σ} (hr : M.Run h s)
    (hs : (e, a) :: h' <:+ h) :
    a = (M.step (M.stateAfter h') e).2 ∧ M.allowed h' (M.stateAfter h') e := by
  have hrun := hr.suffix hs
  generalize M.stateAfter ((e, a) :: h') = s' at hrun
  cases hrun with
  | cons _ hr' ha =>
    obtain rfl := hr'.eq_stateAfter
    exact ⟨rfl, ha⟩

/-- What holds initially and is kept by every step that meets `C` holds at the
    end of a run all of whose steps met `C`. -/
theorem Run.invariant_of_steps {I : List (α × ρ) → σ → Prop} {C : σ → α → Prop}
    (hinit : I [] M.init)
    (hstep : ∀ h s e, M.Run h s → M.allowed h s e → C s e → I h s →
      I ((e, (M.step s e).2) :: h) (M.step s e).1)
    {h : List (α × ρ)} {s : σ} (hr : M.Run h s)
    (hC : ∀ e a h', (e, a) :: h' <:+ h → C (M.stateAfter h') e) : I h s := by
  induction hr with
  | nil => exact hinit
  | @cons h s e hr ha ih =>
    have hI := ih fun e' a h' hs => hC e' a h' (hs.trans (List.suffix_cons _ _))
    have hCe := hC e _ h (List.suffix_refl _)
    rw [← hr.eq_stateAfter] at hCe
    exact hstep h s e hr ha hCe hI

/-- What holds initially and is kept by every allowed step holds in every
    state a run reaches. -/
theorem Run.invariant {I : List (α × ρ) → σ → Prop} (hinit : I [] M.init)
    (hstep : ∀ h s e, M.Run h s → M.allowed h s e → I h s →
      I ((e, (M.step s e).2) :: h) (M.step s e).1)
    {h : List (α × ρ)} {s : σ} (hr : M.Run h s) : I h s :=
  Run.invariant_of_steps (C := fun _ _ => True) hinit
    (fun h s e hr ha _ hI => hstep h s e hr ha hI) hr fun _ _ _ _ => trivial

/-- A preorder that every step meeting `C` respects orders the states of a run
    all of whose steps met `C`. -/
theorem Run.le_of_suffix {r : σ → σ → Prop} {C : σ → α → Prop} (hrefl : ∀ s, r s s)
    (htrans : ∀ s t u, r s t → r t u → r s u)
    (hstep : ∀ h s e, M.Run h s → M.allowed h s e → C s e → r s (M.step s e).1)
    {h : List (α × ρ)} {s : σ} (hr : M.Run h s)
    (hC : ∀ e a h', (e, a) :: h' <:+ h → C (M.stateAfter h') e)
    {h₁ h₂ : List (α × ρ)} (h₁₂ : h₁ <:+ h₂) (h₂h : h₂ <:+ h) :
    r (M.stateAfter h₁) (M.stateAfter h₂) := by
  refine Run.invariant_of_steps (C := C) (I := fun h s => ∀ h₁, h₁ <:+ h → r (M.stateAfter h₁) s)
    ?_ ?_ (hr.suffix h₂h) (fun e a h' hs => hC e a h' (hs.trans h₂h)) h₁ h₁₂
  · intro h₁ hs
    obtain rfl := List.suffix_nil.mp hs
    exact hrefl _
  · intro h s e hr ha hCe hI h₁ hs
    rcases List.suffix_cons_iff.mp hs with rfl | hs
    · rw [← (Run.cons e hr ha).eq_stateAfter]
      exact hrefl _
    · exact htrans _ _ _ (hI h₁ hs) (hstep h s e hr ha hCe)

/-- If an allowed step from a state with property `P` keeps `P` exactly when
    `C` holds of that state and the event, then `P` holds all along a run iff
    every step of the run met `C`. -/
theorem Run.always_iff {P : σ → Prop} {C : σ → α → Prop} (hinit : P M.init)
    (hstep : ∀ h s e, M.Run h s → M.allowed h s e → P s → (P (M.step s e).1 ↔ C s e))
    {h : List (α × ρ)} {s : σ} (hr : M.Run h s) :
    (∀ h', h' <:+ h → P (M.stateAfter h')) ↔
      ∀ e a h', (e, a) :: h' <:+ h → C (M.stateAfter h') e := by
  induction hr with
  | nil => simpa [stateAfter] using hinit
  | @cons h s e hr ha ih =>
    obtain rfl := hr.eq_stateAfter
    have hlast : M.stateAfter ((e, (M.step (M.stateAfter h) e).2) :: h) =
      (M.step (M.stateAfter h) e).1 := rfl
    rw [forall_suffix_cons, ← ih]
    constructor
    · intro hP
      refine ⟨?_, fun g hg => hP g (hg.trans (List.suffix_cons _ _))⟩
      rw [← hstep _ _ e hr ha (hP _ (List.suffix_cons _ _)), ← hlast]
      exact hP _ (List.suffix_refl _)
    · rintro ⟨hC, hold⟩ h' hs
      rcases List.suffix_cons_iff.mp hs with rfl | hs
      · rw [hlast, hstep _ _ e hr ha (hold _ (List.suffix_refl _))]
        exact hC
      · exact hold _ hs

/-- If in a state with `I` a step has `P` exactly when it meets `C`, and `C` keeps `I`, then
    the steps of a run all have `P` iff they all meet `C`. -/
theorem Run.steps_iff {I : σ → Prop} {P C : σ → α → Prop} (hinit : I M.init)
    (hiff : ∀ h s e, M.Run h s → M.allowed h s e → I s → (P s e ↔ C s e))
    (hstep : ∀ h s e, M.Run h s → M.allowed h s e → I s → C s e → I (M.step s e).1)
    {h : List (α × ρ)} {s : σ} (hr : M.Run h s) :
    (∀ e a h', (e, a) :: h' <:+ h → P (M.stateAfter h') e) ↔
      ∀ e a h', (e, a) :: h' <:+ h → C (M.stateAfter h') e := by
  induction hr with
  | nil => exact iff_of_true forall_suffix_nil forall_suffix_nil
  | @cons h s e hr ha ih =>
    obtain rfl := hr.eq_stateAfter
    rw [forall_suffix_cons, forall_suffix_cons, ih]
    refine and_congr_left fun hC => ?_
    have hI : I (M.stateAfter h) := Run.invariant_of_steps (I := fun _ s => I s) hinit
      (fun h s e hr ha hCe hI => hstep h s e hr ha hI hCe) hr hC
    exact hiff h _ e hr ha hI

/-- Events that do to a view of the state what a machine of the view does, with the same
    answers, are a run of that machine when the other events of a run, which do nothing to the
    view, are left out. -/
theorem Run.purge {τ : Type*} (N : Machine τ α ρ) (view : σ → τ) (mine : α → Bool)
    {C : σ → α → Prop} (hinit : N.init = view M.init)
    (hmine : ∀ h s e, M.Run h s → M.allowed h s e → mine e = true → C s e →
      N.allowed (h.filter fun x => mine x.1) (view s) e ∧
        N.step (view s) e = (view (M.step s e).1, (M.step s e).2))
    (hother : ∀ h s e, M.Run h s → M.allowed h s e → mine e = false →
      view (M.step s e).1 = view s)
    {h : List (α × ρ)} {s : σ} (hr : M.Run h s)
    (hC : ∀ e a h', (e, a) :: h' <:+ h → mine e = true → C (M.stateAfter h') e) :
    N.Run (h.filter fun x => mine x.1) (view s) := by
  induction hr with
  | nil => exact hinit ▸ .nil
  | @cons h s e hr ha ih =>
    obtain ⟨hCe, hCh⟩ := forall_suffix_cons.mp hC
    have hview := ih hCh
    cases hown : mine e with
    | true =>
      rw [← hr.eq_stateAfter] at hCe
      obtain ⟨hallowed, hstep⟩ := hmine h s e hr ha hown (hCe hown)
      have hrun := Run.cons e hview hallowed
      rw [hstep] at hrun
      rwa [List.filter_cons_of_pos]
      exact hown
    | false =>
      rw [hother h s e hr ha hown, List.filter_cons_of_neg]
      · exact hview
      · exact Bool.not_eq_true _ ▸ hown

/-! ## Concrete runs -/

variable (M)

/-- The configuration (state and history) after one more event. -/
def play (c : σ × List (α × ρ)) (e : α) : σ × List (α × ρ) :=
  ((M.step c.1 e).1, (e, (M.step c.1 e).2) :: c.2)

/-- The configuration after the events `es`, oldest first. -/
def playAll (es : List α) : σ × List (α × ρ) := es.foldl M.play (M.init, [])

/-- Every event of `es` is allowed when its turn comes. -/
def Admits : σ × List (α × ρ) → List α → Prop
  | _, [] => True
  | c, e :: es => M.allowed c.2 c.1 e ∧ Admits (M.play c e) es

instance decidableAdmits [∀ h s e, Decidable (M.allowed h s e)] :
    ∀ (c : σ × List (α × ρ)) (es : List α), Decidable (M.Admits c es)
  | _, [] => inferInstanceAs (Decidable True)
  | c, e :: es =>
    have := decidableAdmits (M.play c e) es
    inferInstanceAs (Decidable (M.allowed c.2 c.1 e ∧ M.Admits (M.play c e) es))

/-- Every step of a history met `C`. -/
def StepsMeet (C : σ → α → Prop) : List (α × ρ) → Prop
  | [] => True
  | (e, _) :: h => C (M.stateAfter h) e ∧ StepsMeet C h

instance decidableStepsMeet (C : σ → α → Prop) [∀ s e, Decidable (C s e)] :
    ∀ h : List (α × ρ), Decidable (M.StepsMeet C h)
  | [] => inferInstanceAs (Decidable True)
  | (e, _) :: h =>
    have := decidableStepsMeet C h
    inferInstanceAs (Decidable (C (M.stateAfter h) e ∧ M.StepsMeet C h))

variable {M}

theorem StepsMeet.forall_suffix {C : σ → α → Prop} {h : List (α × ρ)} (hC : M.StepsMeet C h) :
    ∀ e a h', (e, a) :: h' <:+ h → C (M.stateAfter h') e := by
  induction h with
  | nil => exact forall_suffix_nil
  | cons x h ih => exact forall_suffix_cons.mpr ⟨hC.1, ih hC.2⟩

theorem run_foldl_play {es : List α} :
    ∀ {c : σ × List (α × ρ)}, M.Run c.2 c.1 → M.Admits c es →
      M.Run (es.foldl M.play c).2 (es.foldl M.play c).1 := by
  induction es with
  | nil => intro c hr _; exact hr
  | cons e es ih =>
    intro c hr ha
    exact ih (Run.cons e hr ha.1) ha.2

/-- A list of events that are allowed one after the other is a run. -/
theorem run_of_admits {l : List α} (h : M.Admits (M.init, []) l) :
    M.Run (M.playAll l).2 (M.playAll l).1 :=
  run_foldl_play .nil h

end Machine

end DarkTower.Lib
