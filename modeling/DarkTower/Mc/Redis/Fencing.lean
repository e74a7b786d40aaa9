import DarkTower.Mc.Redis.Client

/-!
# Generation fencing

`GenerationFencing` is what the fenced scripts are for: the stored generation
never goes down, and once an operation with generation `g` was accepted no
fenced write with a smaller one is.

`generationFencing_along`: it holds along every run whose commands meet
`KeepsFence`. The three ways to break it are

* `DEL` of the generation key by `delete_meeting` (`fence_lost_on_delete`),
  after which the counter starts again and old writes are accepted;
* a fenced delete on a meeting without a generation, which is reported as
  accepted and stores none;
* a generation that is not a double, which `tonumber` rounds.
-/

namespace DarkTower.Mc.Redis

open DarkTower.Lib

variable {S : Server} {permits : Request → Bool}

/-- An accepted fenced write or delete, with the generation it carried. -/
structure Acceptance where
  isWrite : Bool
  generation : ℕ
deriving DecidableEq

/-- The acceptance a command shows. -/
def Executed.accepted? : Executed → Option Acceptance
  | .fencedWrite generation result => if result = 1 then some ⟨true, generation⟩ else none
  | .fencedHset generation result => if result = 1 then some ⟨true, generation⟩ else none
  | .fencedDelete generation result => if result = 1 then some ⟨false, generation⟩ else none
  | _ => none

/-- The accepted fenced operations of a history, newest first. -/
def accepted (h : RedisHistory) : List Acceptance := h.filterMap fun x => x.2.1.bind (·.accepted?)

/-- A stored generation is still stored, or a larger one is. -/
def GenerationLe (old new : Option ℕ) : Prop := ∀ g ∈ old, ∃ g' ∈ new, g ≤ g'

theorem GenerationLe.refl (old : Option ℕ) : GenerationLe old old := fun g hg => ⟨g, hg, le_rfl⟩

theorem GenerationLe.trans {a b c : Option ℕ} (hab : GenerationLe a b) (hbc : GenerationLe b c) :
    GenerationLe a c := by
  intro g hg
  obtain ⟨g', hg', hle⟩ := hab g hg
  obtain ⟨g'', hg'', hle'⟩ := hbc g' hg'
  exact ⟨g'', hg'', hle.trans hle'⟩

theorem generationLe_none (new : Option ℕ) : GenerationLe none new :=
  fun _ hg => absurd hg (by simp)

theorem generationLe_some {old : Option ℕ} {new : ℕ} (h : ∀ g ∈ old, g ≤ new) :
    GenerationLe old (some new) :=
  fun g hg => ⟨new, rfl, h g hg⟩

/-- Along a history the stored generation never goes down, and no fenced write
    is accepted with a generation below that of an earlier acceptance. -/
structure GenerationFencing (S : Server) (permits : Request → Bool) (h : RedisHistory) :
    Prop where
  monotone : ∀ h₁ h₂, h₁ <:+ h₂ → h₂ <:+ h →
    GenerationLe ((redisMachine S permits).stateAfter h₁).keys.storedGeneration
      ((redisMachine S permits).stateAfter h₂).keys.storedGeneration
  fenced : (accepted h).Pairwise fun later earlier =>
    later.isWrite = true → earlier.generation ≤ later.generation

/-- The condition on a command: no `DEL` of a stored generation, no fenced
    delete without one, and generations that are doubles. -/
def KeepsFence (keys : MeetingKeys) : Waiting → Prop
  | .deleteMeeting => keys.generation = none
  | .deleteFenced generation =>
    keys.generation ≠ none ∧ Binary64.round (generation + 1) = generation + 1
  | .storeWrite generation _ => Binary64.round generation = generation
  | .storeState generation _ => Binary64.round generation = generation
  | _ => True

instance (keys : MeetingKeys) (waiting : Waiting) : Decidable (KeepsFence keys waiting) := by
  cases waiting <;> unfold KeepsFence <;> infer_instance

/-- The condition on a step. -/
def StepKeepsFence (s : RedisSystem) (e : RedisEvent) : Prop :=
  ∀ waiting ∈ s.executes e, KeepsFence s.keys waiting

instance (s : RedisSystem) (e : RedisEvent) : Decidable (StepKeepsFence s e) :=
  inferInstanceAs (Decidable (∀ waiting ∈ s.executes e, KeepsFence s.keys waiting))

/-! ## One command -/

section Command

variable (keys : MeetingKeys)

/-- A fenced script does not lower the generation. -/
theorem fenced_generationLe (generation : ℕ) {absent accept : ℕ → MeetingKeys}
    (haccept : ∀ n, (accept n).storedGeneration = some (Binary64.round n)) :
    GenerationLe keys.storedGeneration
      (fenced keys (.number generation) absent accept).1.storedGeneration := by
  have hcase := fenced_cases keys generation absent accept
  generalize fenced keys (.number generation) absent accept = r at hcase
  cases hcase with
  | absent h =>
    have hnone : keys.storedGeneration = none := by rw [MeetingKeys.storedGeneration, h]; rfl
    rw [hnone]
    exact generationLe_none _
  | accept current h hle =>
    rw [haccept, h, Binary64.round_round]
    refine generationLe_some fun g hg => ?_
    rw [Option.mem_def, Option.some.injEq] at hg
    omega
  | stale current h hlt => exact GenerationLe.refl _
  | malformed text h => exact GenerationLe.refl _

/-- Only the `DEL` of a stored generation lowers it. -/
theorem run_generationLe {waiting : Waiting}
    (hdel : waiting = .deleteMeeting → keys.generation = none) :
    GenerationLe keys.storedGeneration (waiting.run S keys).1.storedGeneration := by
  have hincrement : GenerationLe keys.storedGeneration
      (incrementGeneration keys).1.storedGeneration := by
    obtain ⟨newGen, hnew, hle⟩ := incrementGeneration_le keys
    rw [hnew]
    exact generationLe_some hle
  cases waiting with
  | getGeneration => exact GenerationLe.refl _
  | incrementGeneration => exact hincrement
  | storeIncrement json => exact hincrement
  | storeWrite generation json => exact fenced_generationLe keys _ fun n => rfl
  | deleteGet => exact GenerationLe.refl _
  | deleteFenced generation => exact fenced_generationLe keys _ fun n => rfl
  | storeState generation fields => exact fenced_generationLe keys _ fun n => rfl
  | deleteMeeting =>
    have hnone : keys.storedGeneration = none := by
      rw [MeetingKeys.storedGeneration, hdel rfl]
      rfl
    rw [hnone]
    exact generationLe_none _

/-- An acceptance stores the generation it carried, which was not behind. -/
structure Accepts (keys keys' : MeetingKeys) (a : Acceptance) : Prop where
  stored : keys'.storedGeneration = some a.generation
  current : ∀ g ∈ keys.storedGeneration, g ≤ a.generation

/-- A fenced script that stores its generation, a double, in the branches it
    takes. -/
theorem fenced_accepts {generation : ℕ} {isWrite : Bool} {absent accept : ℕ → MeetingKeys}
    (hround : Binary64.round generation = generation)
    (habsent : keys.generation = none → (absent generation).storedGeneration = some generation)
    (haccept : (accept generation).storedGeneration = some generation) {a : Acceptance}
    (ha : (if (fenced keys (.number generation) absent accept).2 = 1 then
      some ⟨isWrite, generation⟩ else none) = some a) :
    Accepts keys (fenced keys (.number generation) absent accept).1 a := by
  have hcase := fenced_cases keys generation absent accept
  generalize fenced keys (.number generation) absent accept = r at hcase ha
  cases hcase with
  | absent h =>
    rw [if_pos rfl, Option.some.injEq] at ha
    subst ha
    refine ⟨by rw [hround]; exact habsent h, fun g hg => ?_⟩
    simp [MeetingKeys.storedGeneration, h] at hg
  | accept current h hle =>
    rw [if_pos rfl, Option.some.injEq] at ha
    subst ha
    refine ⟨by rw [hround]; exact haccept, fun g hg => ?_⟩
    rw [h, Option.mem_def, Option.some.injEq] at hg
    rw [hround] at hle
    exact hg ▸ hle
  | stale current h hlt => simp at ha
  | malformed text h => simp at ha

theorem run_accepts {waiting : Waiting} (hw : KeepsFence keys waiting) {a : Acceptance}
    (ha : (waiting.run S keys).2.1.accepted? = some a) :
    Accepts keys (waiting.run S keys).1 a := by
  cases waiting with
  | getGeneration => cases ha
  | incrementGeneration => cases ha
  | storeIncrement json => cases ha
  | storeWrite generation json =>
    refine fenced_accepts keys hw (fun _ => ?_) ?_ ha <;>
      rw [storedGeneration_setMh, storedGeneration_setGeneration, show _ = _ from hw]
  | deleteGet => cases ha
  | deleteFenced generation =>
    refine fenced_accepts keys hw.2 (fun h => absurd h hw.1) ?_ ha
    rw [storedGeneration_delMh, storedGeneration_setGeneration, hw.2]
  | storeState generation fields =>
    refine fenced_accepts keys hw (fun _ => ?_) ?_ ha <;>
      rw [storedGeneration_hset, storedGeneration_setGeneration, show _ = _ from hw]
  | deleteMeeting => cases ha

end Command

/-! ## Runs -/

/-- Only the `DEL` of a stored generation lowers it. -/
theorem step_generationLe {s : RedisSystem} {e : RedisEvent}
    (hdel : s.executes e = some .deleteMeeting → s.keys.generation = none) :
    GenerationLe s.keys.storedGeneration (s.keysAfter S e).storedGeneration := by
  unfold RedisSystem.keysAfter
  cases hw : s.executes e with
  | none => exact GenerationLe.refl _
  | some waiting => exact run_generationLe s.keys fun h => hdel (hw.trans (congrArg some h))

theorem StepKeepsFence.generationLe {s : RedisSystem} {e : RedisEvent} (hs : StepKeepsFence s e) :
    GenerationLe s.keys.storedGeneration (s.keysAfter S e).storedGeneration :=
  step_generationLe fun hw => hs _ hw

theorem StepKeepsFence.accepts {s : RedisSystem} {e : RedisEvent} (hs : StepKeepsFence s e)
    {a : Acceptance} (ha : (s.executed S e).bind (·.accepted?) = some a) :
    Accepts s.keys (s.keysAfter S e) a := by
  unfold RedisSystem.executed at ha
  unfold RedisSystem.keysAfter
  cases hw : s.executes e with
  | none => simp [hw] at ha
  | some waiting =>
    rw [hw] at ha
    exact run_accepts s.keys (hs waiting hw) ha

theorem accepted_cons (x : RedisEvent × RedisSystem.Answer) (h : RedisHistory) :
    accepted (x :: h) = (x.2.1.bind (·.accepted?)).toList ++ accepted h := by
  cases hx : x.2.1.bind (·.accepted?) <;> simp [accepted, hx]

/-- In a run whose commands keep the fence, the generations of the accepted
    operations only grow, up to the stored one. -/
theorem accepted_le_stored {h : RedisHistory} {s : RedisSystem}
    (hr : (redisMachine S permits).Run h s)
    (hC : ∀ e a h', (e, a) :: h' <:+ h →
      StepKeepsFence ((redisMachine S permits).stateAfter h') e) :
    ((accepted h).Pairwise fun later earlier => earlier.generation ≤ later.generation) ∧
      ∀ a ∈ accepted h, ∃ g ∈ s.keys.storedGeneration, a.generation ≤ g := by
  refine Machine.Run.invariant_of_steps (C := StepKeepsFence)
    (I := fun h s => ((accepted h).Pairwise fun later earlier =>
        earlier.generation ≤ later.generation) ∧
      ∀ a ∈ accepted h, ∃ g ∈ s.keys.storedGeneration, a.generation ≤ g)
    ⟨List.Pairwise.nil, fun a ha => absurd ha List.not_mem_nil⟩ ?_ hr hC
  rintro h s e - - hs ⟨hpair, hbound⟩
  have hle := hs.generationLe (S := S)
  simp only [redisMachine, RedisSystem.step, accepted_cons]
  have hold : ∀ a ∈ accepted h, ∃ g ∈ (s.keysAfter S e).storedGeneration, a.generation ≤ g := by
    intro a ha
    obtain ⟨g, hg, hag⟩ := hbound a ha
    obtain ⟨g', hg', hgg'⟩ := hle g hg
    exact ⟨g', hg', hag.trans hgg'⟩
  cases hacc : (s.executed S e).bind (·.accepted?) with
  | none => exact ⟨hpair, hold⟩
  | some b =>
    have hb := hs.accepts hacc
    refine ⟨List.pairwise_cons.mpr ⟨fun a ha => ?_, hpair⟩, fun a ha => ?_⟩
    · obtain ⟨g, hg, hag⟩ := hbound a ha
      exact hag.trans (hb.current g hg)
    · rcases List.mem_cons.mp ha with rfl | ha
      · exact ⟨a.generation, hb.stored, le_rfl⟩
      · exact hold a ha

/-- The fence holds along every run whose commands delete no stored generation,
    delete no assignment without a stored generation, and carry generations
    that are doubles. -/
theorem generationFencing_along {h : RedisHistory} {s : RedisSystem}
    (hr : (redisMachine S permits).Run h s)
    (hC : ∀ e a h', (e, a) :: h' <:+ h →
      StepKeepsFence ((redisMachine S permits).stateAfter h') e) :
    GenerationFencing S permits h := by
  refine ⟨fun h₁ h₂ h₁₂ h₂h => ?_, ?_⟩
  · refine Machine.Run.le_of_suffix (C := StepKeepsFence)
      (r := fun s t => GenerationLe s.keys.storedGeneration t.keys.storedGeneration)
      (fun _ => GenerationLe.refl _) (fun _ _ _ => GenerationLe.trans) ?_ hr hC h₁₂ h₂h
    intro h s e _ _ hs
    exact hs.generationLe
  · refine List.Pairwise.imp ?_ (accepted_le_stored hr hC).1
    exact fun hle _ => hle

/-- A store of an assignment and a delete of it. -/
def storeDeleteEvents : List RedisEvent :=
  [.start 0 (.storeMhAssignment "mh-1"), .run 0, .run 0, .start 1 .deleteMhAssignment, .run 1,
    .run 1]

theorem generationFencing_storeDelete :
    (redisMachine .exact fun _ => true).Run
        ((redisMachine .exact fun _ => true).playAll storeDeleteEvents).2
        ((redisMachine .exact fun _ => true).playAll storeDeleteEvents).1 ∧
      GenerationFencing .exact (fun _ => true)
        ((redisMachine .exact fun _ => true).playAll storeDeleteEvents).2 :=
  have hr := Machine.run_of_admits (M := redisMachine .exact fun _ => true)
    (l := storeDeleteEvents) (by decide)
  ⟨hr, generationFencing_along hr (Machine.StepsMeet.forall_suffix (by decide))⟩

/-- State is stored with generation 5, the meeting is deleted, and state is
    stored with generation 3. -/
def deleteMeetingEvents : List RedisEvent :=
  [.start 0 (.storeMeetingState 5 [("status", "active")]), .run 0,
    .start 1 .deleteMeeting, .run 1,
    .start 2 (.storeMeetingState 3 [("status", "stale")]), .run 2]

/-- `delete_meeting` takes the generation away, and a write behind an accepted
    one is accepted after it. -/
theorem fence_lost_on_delete :
    (redisMachine .exact fun _ => true).Run
        ((redisMachine .exact fun _ => true).playAll deleteMeetingEvents).2
        ((redisMachine .exact fun _ => true).playAll deleteMeetingEvents).1 ∧
      ¬ GenerationFencing .exact (fun _ => true)
        ((redisMachine .exact fun _ => true).playAll deleteMeetingEvents).2 := by
  refine ⟨Machine.run_of_admits (by decide), fun hf => ?_⟩
  have haccepted : accepted ((redisMachine .exact fun _ => true).playAll deleteMeetingEvents).2 =
      [⟨true, 3⟩, ⟨true, 5⟩] := by decide
  have hpair := hf.fenced
  rw [haccepted] at hpair
  simp at hpair

/-- A fenced delete without a stored generation counts as accepted with 1 and
    leaves the way open for 0. -/
example : accepted ((redisMachine .exact fun _ => true).playAll
    [.start 0 .deleteMhAssignment, .run 0, .run 0, .start 1 (.storeMeetingState 0 []), .run 1]).2 =
      [⟨true, 0⟩, ⟨false, 1⟩] := by decide

/-- 2⁵³ + 1 is not a double and is stored as 2⁵³. -/
example : accepted ((redisMachine .exact fun _ => true).playAll
    [.start 0 (.storeMeetingState (2 ^ 53 + 1) []), .run 0,
      .start 1 (.storeMeetingState (2 ^ 53) []), .run 1]).2 =
      [⟨true, 2 ^ 53⟩, ⟨true, 2 ^ 53 + 1⟩] := by decide

end DarkTower.Mc.Redis
