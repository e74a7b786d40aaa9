import DarkTower.Mc.Redis.Fencing

/-!
# Stores and deletes of one assignment

`delete_mh_assignment` reads the generation `r`, and later deletes with
`r + 1`. Between the two other calls may move the generation on.

`deletes_right_iff`: along a run of stores and deletes that stays below 2⁵³,
every delete tells the truth and spares newer assignments iff at each delete
script no assignment is present, or the generation is at most `r + 1` and the
present assignment was written under one of at most `r`. It goes wrong in two
ways: a store that took `r + 1` itself is undone by the delete (the scripts
accept ties), and a delete that is fenced out returns `Ok`
(`deletes_wrong_on_tie_and_stale`), where a store returns `FencedOut`.
-/

namespace DarkTower.Mc.Redis

open DarkTower.Lib

variable {S : Server}

/-- The calls about MH assignments. -/
def mhRequest : Request → Bool
  | .storeMhAssignment _ => true
  | .deleteMhAssignment => true
  | _ => false

/-- Stores and deletes of the assignment of one meeting. -/
abbrev mhMachine (S : Server) : Machine RedisSystem RedisEvent RedisSystem.Answer :=
  redisMachine S mhRequest

/-- The call an event belongs to. -/
def RedisEvent.call : RedisEvent → ℕ
  | .start call _ => call
  | .run call => call
  | .fail call _ _ => call

/-- The commands of a call that Redis has executed, newest first. -/
def commands (h : RedisHistory) (call : ℕ) : List Executed :=
  h.filterMap fun x => if x.1.call = call then x.2.1 else none

/-- The store that wrote the assignment now present, and the generation it
    carried. -/
def presentWrite : RedisHistory → Option (ℕ × ℕ)
  | [] => none
  | x :: h =>
    match x.2.1 with
    | some (.fencedWrite generation result) =>
      if result = 1 then some (x.1.call, generation) else presentWrite h
    | some (.fencedDelete _ result) => if result = 1 then none else presentWrite h
    | _ => presentWrite h

/-- The `GET` of `call` was executed before the increment of `store`. -/
def ReadBefore (h : RedisHistory) (call store : ℕ) : Prop :=
  ∃ y h₁, y :: h₁ <:+ h ∧ y.1.call = store ∧ (∃ g, y.2.1 = some (.increment g)) ∧
    ∃ x ∈ h₁, x.1.call = call ∧ ∃ r, x.2.1 = some (.get r)

/-- The generation that the delete executed by a step has read before. -/
def RedisSystem.deletes (s : RedisSystem) (e : RedisEvent) : Option ℕ :=
  match s.executes e with
  | some (.deleteFenced generation) => some generation
  | _ => none

/-- What a delete promises at its script: if it returns `Ok` no assignment is
    left, and it spares an assignment whose store incremented the generation
    after the delete had read it. -/
structure DeleteRight (S : Server) (h : RedisHistory) (e : RedisEvent) : Prop where
  honest : ∀ outcome, (((mhMachine S).stateAfter h).step S e).2.2 = some (.ok outcome) →
    (((mhMachine S).stateAfter h).step S e).1.keys.mh = none
  spares : ∀ store generation, presentWrite h = some (store, generation) →
    ReadBefore h e.call store →
      (((mhMachine S).stateAfter h).step S e).1.keys.mh = ((mhMachine S).stateAfter h).keys.mh

/-- The reply of a step reaches the client. -/
def RedisEvent.replied : RedisEvent → Bool
  | .run _ => true
  | _ => false

/-- The condition on a delete that has read `r`: no assignment is present, or
    the generation is at most `r + 1` (unless the reply is lost) and the
    assignment was not written under `r + 1`. -/
def DeleteInTime (S : Server) (h : RedisHistory) (e : RedisEvent) (r : ℕ) : Prop :=
  ((mhMachine S).stateAfter h).keys.mh = none ∨
    ∃ g ∈ ((mhMachine S).stateAfter h).keys.storedGeneration,
      (e.replied = true → g ≤ r + 1) ∧
        (g ≤ r + 1 → ∀ store generation, presentWrite h = some (store, generation) →
          generation ≤ r)

/-! ## Generations below 2⁵³ -/

/-- The stored generation, 0 when there is none. -/
def MeetingKeys.generationOrZero (keys : MeetingKeys) : ℕ := keys.storedGeneration.getD 0

section Exact

variable {keys : MeetingKeys}

theorem le_of_round_lt {n : ℕ} (h : Binary64.round n < 2 ^ 53) : n ≤ 2 ^ 53 := by
  by_contra hlt
  have hmono : Binary64.round (2 ^ 53) ≤ Binary64.round n := Binary64.round_mono (by omega)
  rw [Binary64.round_of_le le_rfl] at hmono
  omega

theorem getGeneration_eq (hbound : ∀ g ∈ keys.storedGeneration, g < 2 ^ 53) :
    S.getGeneration keys = keys.generationOrZero := by
  unfold Server.getGeneration MeetingKeys.generationOrZero MeetingKeys.storedGeneration
  cases hgen : keys.generation with
  | none => rfl
  | some text =>
    cases text with
    | other text => rfl
    | number n =>
      have hlt : Binary64.round n < 2 ^ 53 :=
        hbound _ (by rw [MeetingKeys.storedGeneration, hgen]; rfl)
      have hn := le_of_round_lt hlt
      show (S.parseU64 n).getD 0 = Binary64.round n
      rw [S.parseU64_of_le n hn, Binary64.round_of_le hn]
      rfl

theorem asU64_integerReply {n : ℕ} (h : n ≤ 2 ^ 53) : asU64 (S.integerReply n) = n := by
  rw [S.integerReply_of_le n h, asU64]
  omega

theorem incrementGeneration_eq (hbound : ∀ g ∈ keys.storedGeneration, g < 2 ^ 53) :
    (incrementGeneration keys).2 = keys.generationOrZero + 1 ∧
      (incrementGeneration keys).1.generationOrZero = keys.generationOrZero + 1 ∧
      keys.generationOrZero + 1 ≤ 2 ^ 53 := by
  have hnew : (incrementGeneration keys).2 = keys.generationOrZero + 1 ∧
      keys.generationOrZero + 1 ≤ 2 ^ 53 := by
    unfold incrementGeneration MeetingKeys.generationOrZero MeetingKeys.storedGeneration
    cases hgen : keys.generation with
    | none => exact ⟨rfl, Nat.one_le_two_pow⟩
    | some text =>
      cases text with
      | other text => exact ⟨rfl, Nat.one_le_two_pow⟩
      | number n =>
        have hlt : Binary64.round n < 2 ^ 53 :=
          hbound _ (by rw [MeetingKeys.storedGeneration, hgen]; rfl)
        have hle : Binary64.round n + 1 ≤ 2 ^ 53 := Nat.succ_le_of_lt hlt
        simp only [RedisText.tonumber, Option.bind_some, Option.getD_some]
        exact ⟨Binary64.round_of_le hle, hle⟩
  refine ⟨hnew.1, ?_, hnew.2⟩
  show Binary64.round (incrementGeneration keys).2 = _
  rw [hnew.1, Binary64.round_of_le hnew.2]

end Exact

/-! ## What the calls have done -/

/-- The commands a call has executed, by the command it waits for. A store or
    delete waits for nothing else. -/
def Traced (executed : List Executed) : Option Waiting → Prop
  | none => True
  | some (.storeIncrement _) => executed = []
  | some (.storeWrite generation _) => executed = [.increment generation]
  | some .deleteGet => executed = []
  | some (.deleteFenced generation) => executed = [.get generation]
  | some _ => False

/-- The calls of a run of stores and deletes. -/
structure Calls (h : RedisHistory) (s : RedisSystem) : Prop where
  traced : ∀ call, Traced (commands h call) (s.calls call)
  unstarted : ∀ call, (∀ x ∈ h, x.1.started? ≠ some call) →
    s.calls call = none ∧ commands h call = []

section Calls

variable {h : RedisHistory} {s : RedisSystem} {e : RedisEvent}

theorem commands_cons_of_ne (x : RedisEvent × RedisSystem.Answer) {call : ℕ}
    (hne : x.1.call ≠ call) : commands (x :: h) call = commands h call := by
  simp [commands, hne]

theorem commands_cons_of_none {x : RedisEvent × RedisSystem.Answer} (hx : x.2.1 = none)
    (call : ℕ) : commands (x :: h) call = commands h call := by
  by_cases hc : x.1.call = call <;> simp [commands, hc, hx]

theorem commands_cons_of_some {a : RedisSystem.Answer} {call : ℕ} {executed : Executed}
    (hcall : e.call = call) (ha : a.1 = some executed) :
    commands ((e, a) :: h) call = executed :: commands h call := by
  simp [commands, hcall, ha]

/-- A step concerns one call. -/
theorem advance_of_ne {call : ℕ} (hne : e.call ≠ call) :
    (s.advance S e).1 call = s.calls call := by
  have hne' : call ≠ e.call := Ne.symm hne
  cases e with
  | start c request => exact Function.update_of_ne hne' _ _
  | run c =>
    simp only [RedisSystem.advance]
    cases s.calls c with
    | none => rfl
    | some waiting =>
      dsimp only
      cases (waiting.run S s.keys).2.2 with
      | inl next => exact Function.update_of_ne hne' _ _
      | inr result => exact Function.update_of_ne hne' _ _
  | fail c executed err =>
    simp only [RedisSystem.advance]
    cases s.calls c with
    | none => rfl
    | some waiting => exact Function.update_of_ne hne' _ _

/-- The call of a step that is answered waits for its next command, for which
    it has executed what it should. -/
theorem traced_run {waiting : Waiting} {executed : List Executed}
    (ht : Traced executed (some waiting)) :
    ∀ next, (waiting.run S s.keys).2.2 = .inl next →
      Traced ((waiting.run S s.keys).2.1 :: executed) (some next) := by
  intro next hnext
  cases waiting with
  | storeIncrement json =>
    simp only [Waiting.run, Sum.inl.injEq] at hnext
    subst hnext
    rw [show executed = [] from ht]
    rfl
  | deleteGet =>
    simp only [Waiting.run, Sum.inl.injEq] at hnext
    subst hnext
    rw [show executed = [] from ht]
    rfl
  | _ => simp [Waiting.run] at hnext

theorem traced_step (ha : (mhMachine S).allowed h s e) (hc : Calls h s) :
    Traced (commands ((e, s.executed S e, (s.advance S e).2) :: h) e.call)
      ((s.advance S e).1 e.call) := by
  cases e with
  | start c request =>
    have hnil := (hc.unstarted c ha.2).2
    rw [commands_cons_of_none rfl]
    simp only [RedisSystem.advance, RedisEvent.call, Function.update_self, hnil]
    cases request with
    | storeMhAssignment json => rfl
    | deleteMhAssignment => rfl
    | _ => exact absurd ha.1 (by simp [mhRequest])
  | run c =>
    obtain ⟨waiting, hw⟩ := Option.ne_none_iff_exists'.mp ha
    have ht := hc.traced c
    rw [hw] at ht
    have hx : s.executed S (.run c) = some (waiting.run S s.keys).2.1 := by
      simp [RedisSystem.executed, RedisSystem.executes, hw]
    rw [commands_cons_of_some rfl hx]
    simp only [RedisSystem.advance, RedisEvent.call, hw]
    cases hnext : (waiting.run S s.keys).2.2 with
    | inl next =>
      show Traced _ (Function.update s.calls c (some next) c)
      rw [Function.update_self]
      exact traced_run ht next hnext
    | inr result =>
      show Traced _ (Function.update s.calls c none c)
      rw [Function.update_self]
      trivial
  | fail c executed err =>
    obtain ⟨waiting, hw⟩ := Option.ne_none_iff_exists'.mp ha
    have hnone : (s.advance S (.fail c executed err)).1 c = none := by
      simp only [RedisSystem.advance, hw, Function.update_self]
    show Traced _ ((s.advance S (.fail c executed err)).1 c)
    rw [hnone]
    trivial

theorem run_calls (hr : (mhMachine S).Run h s) : Calls h s := by
  refine Machine.Run.invariant (I := Calls) ?_ ?_ hr
  · exact ⟨fun call => trivial, fun call _ => ⟨rfl, rfl⟩⟩
  · intro h s e _ ha hc
    refine ⟨fun call => ?_, fun call hnew => ?_⟩
    · by_cases hcall : e.call = call
      · subst hcall
        exact traced_step ha hc
      · show Traced _ ((s.advance S e).1 call)
        rw [commands_cons_of_ne _ hcall, advance_of_ne hcall]
        exact hc.traced call
    · have hold := hc.unstarted call fun x hx => hnew x (List.mem_cons_of_mem _ hx)
      have hne : e.call ≠ call := by
        rintro rfl
        cases e with
        | start c request => exact hnew _ List.mem_cons_self rfl
        | run c => exact ha hold.1
        | fail c executed err => exact ha hold.1
      refine ⟨(advance_of_ne hne).trans hold.1, ?_⟩
      rw [commands_cons_of_ne _ hne]
      exact hold.2

/-- A call that is in progress has executed at most one command. -/
theorem Traced.length_le {executed : List Executed} {waiting : Waiting}
    (ht : Traced executed (some waiting)) : executed.length ≤ 1 := by
  cases waiting with
  | storeIncrement json => rw [show executed = [] from ht]; exact Nat.zero_le 1
  | storeWrite generation json => rw [show executed = [_] from ht]; exact le_rfl
  | deleteGet => rw [show executed = [] from ht]; exact Nat.zero_le 1
  | deleteFenced generation => rw [show executed = [_] from ht]; exact le_rfl
  | _ => exact ht.elim

end Calls

/-! ## The assignment present -/

/-- The assignment present and the store that wrote it. -/
structure Present (h : RedisHistory) (s : RedisSystem) : Prop where
  writer : ∀ store generation, presentWrite h = some (store, generation) →
    commands h store = [.fencedWrite generation 1, .increment generation]
  iff_mh : s.keys.mh = none ↔ presentWrite h = none
  fenced : s.keys.mh ≠ none → s.keys.storedGeneration ≠ none

section Present

variable {h : RedisHistory} {s : RedisSystem} {e : RedisEvent}

theorem executes_call {waiting : Waiting} (hw : s.executes e = some waiting) :
    s.calls e.call = some waiting := by
  cases e with
  | start c request => cases hw
  | run c => exact hw
  | fail c executed err =>
    cases executed with
    | false => cases hw
    | true => exact hw

/-- A step that leaves the data and the recorded write alone, and takes away no
    generation, keeps `Present`: the call of the step is not the writer's. -/
theorem Present.of_same {x : RedisEvent × RedisSystem.Answer} {s' : RedisSystem}
    (hp : Present h s) (hsame : presentWrite (x :: h) = presentWrite h)
    (hmh : s'.keys.mh = s.keys.mh)
    (hgen : s.keys.storedGeneration ≠ none → s'.keys.storedGeneration ≠ none)
    (hx : x.2.1 = none ∨ (commands h x.1.call).length ≤ 1) : Present (x :: h) s' := by
  refine ⟨fun store generation hw => ?_, ?_, fun hne => ?_⟩
  · rw [hsame] at hw
    have hcommands := hp.writer store generation hw
    rcases hx with hx | hx
    · rw [commands_cons_of_none hx, hcommands]
    · have hne : x.1.call ≠ store := by
        rintro rfl
        rw [hcommands] at hx
        exact absurd hx (by simp)
      rw [commands_cons_of_ne x hne, hcommands]
  · rw [hmh, hsame]
    exact hp.iff_mh
  · rw [hmh] at hne
    exact hgen (hp.fenced hne)

theorem presentWrite_cons_of_none {x : RedisEvent × RedisSystem.Answer} (hx : x.2.1 = none) :
    presentWrite (x :: h) = presentWrite h := by
  rw [presentWrite, hx]

theorem present_storeWrite {s' : RedisSystem} {a : RedisSystem.Answer} {generation : ℕ}
    {json : String} (hp : Present h s) (ht : commands h e.call = [.increment generation])
    (ha : a.1 = some ((Waiting.storeWrite generation json).run S s.keys).2.1)
    (hkeys : s'.keys = ((Waiting.storeWrite generation json).run S s.keys).1) :
    Present ((e, a) :: h) s' := by
  have hcase := fenced_cases s.keys generation
    (fun expectedGen => (s.keys.setGeneration expectedGen).setMh json)
    fun expectedGen => (s.keys.setGeneration expectedGen).setMh json
  simp only [Waiting.run, fencedWrite] at ha hkeys
  generalize fenced s.keys _ _ _ = r at hcase ha hkeys
  have hshort : (commands h e.call).length ≤ 1 := by rw [ht]; exact le_rfl
  have hwritten : r.2 = 1 →
      r.1 = (s.keys.setGeneration (Binary64.round generation)).setMh json →
      Present ((e, a) :: h) s' := by
    intro hresult hr
    rw [hresult] at ha
    have hpresent : presentWrite ((e, a) :: h) = some (e.call, generation) := by
      simp [presentWrite, ha]
    refine ⟨fun store generation' hw => ?_, ?_, fun _ => ?_⟩
    · rw [hpresent, Option.some.injEq, Prod.mk.injEq] at hw
      obtain ⟨rfl, rfl⟩ := hw
      rw [commands_cons_of_some rfl ha, ht]
    · rw [hkeys, hr, hpresent]
      exact iff_of_false (Option.some_ne_none _) (Option.some_ne_none _)
    · rw [hkeys, hr]
      exact Option.some_ne_none _
  have hrefused : r.2 ≠ 1 → r.1 = s.keys → Present ((e, a) :: h) s' := by
    intro hresult hr
    rw [hr] at hkeys
    refine hp.of_same ?_ (by rw [hkeys]) (by rw [hkeys]; exact id) (Or.inr hshort)
    simp [presentWrite, ha, hresult]
  cases hcase with
  | absent hgen => exact hwritten rfl rfl
  | accept current hgen hle => exact hwritten rfl rfl
  | stale current hgen hlt => exact hrefused (by simp) rfl
  | malformed text hgen => exact hrefused (by simp) rfl

theorem present_deleteFenced {s' : RedisSystem} {a : RedisSystem.Answer} {generation : ℕ}
    (hp : Present h s) (hshort : (commands h e.call).length ≤ 1)
    (ha : a.1 = some ((Waiting.deleteFenced generation).run S s.keys).2.1)
    (hkeys : s'.keys = ((Waiting.deleteFenced generation).run S s.keys).1) :
    Present ((e, a) :: h) s' := by
  have hcase := fenced_cases s.keys (generation + 1) (fun _ => s.keys)
    fun expectedGen => (s.keys.setGeneration expectedGen).delMh
  simp only [Waiting.run, fencedDelete] at ha hkeys
  generalize fenced s.keys _ _ _ = r at hcase ha hkeys
  have hdeleted : r.2 = 1 → r.1.mh = none → Present ((e, a) :: h) s' := by
    intro hresult hr
    rw [hresult] at ha
    have hpresent : presentWrite ((e, a) :: h) = none := by simp [presentWrite, ha]
    refine ⟨fun store generation' hw => ?_, ?_, fun hne => ?_⟩
    · rw [hpresent] at hw
      cases hw
    · rw [hkeys, hr, hpresent]
      exact iff_of_true rfl rfl
    · rw [hkeys, hr] at hne
      exact absurd rfl hne
  have hrefused : r.2 ≠ 1 → r.1 = s.keys → Present ((e, a) :: h) s' := by
    intro hresult hr
    rw [hr] at hkeys
    refine hp.of_same ?_ (by rw [hkeys]) (by rw [hkeys]; exact id) (Or.inr hshort)
    simp [presentWrite, ha, hresult]
  cases hcase with
  | absent hgen =>
    -- without a generation there is no assignment
    refine hdeleted rfl ?_
    by_contra hne
    exact hp.fenced hne (by rw [MeetingKeys.storedGeneration, hgen]; rfl)
  | accept current hgen hle => exact hdeleted rfl rfl
  | stale current hgen hlt => exact hrefused (by simp) rfl
  | malformed text hgen => exact hrefused (by simp) rfl

theorem present_step (hc : Calls h s) (hp : Present h s) :
    Present ((e, ((mhMachine S).step s e).2) :: h) ((mhMachine S).step s e).1 := by
  show Present ((e, s.executed S e, (s.advance S e).2) :: h) ⟨s.keysAfter S e, (s.advance S e).1⟩
  cases hw : s.executes e with
  | none =>
    have hx : s.executed S e = none := by simp [RedisSystem.executed, hw]
    have hkeys : s.keysAfter S e = s.keys := by simp [RedisSystem.keysAfter, hw]
    refine hp.of_same (presentWrite_cons_of_none hx) ?_ ?_ (Or.inl hx) <;> rw [hkeys]
    exact id
  | some waiting =>
    have ht := hc.traced e.call
    rw [executes_call hw] at ht
    have hshort := Or.inr (a := s.executed S e = none) ht.length_le
    have hx : s.executed S e = some (waiting.run S s.keys).2.1 := by
      simp [RedisSystem.executed, hw]
    have hkeys : s.keysAfter S e = (waiting.run S s.keys).1 := by
      simp [RedisSystem.keysAfter, hw]
    cases waiting with
    | storeIncrement json =>
      refine hp.of_same ?_ ?_ ?_ hshort
      · simp [presentWrite, hx, Waiting.run]
      · rw [hkeys]; rfl
      · rw [hkeys]; exact fun _ => Option.some_ne_none _
    | deleteGet =>
      refine hp.of_same ?_ ?_ ?_ hshort
      · simp [presentWrite, hx, Waiting.run]
      · rw [hkeys]; rfl
      · rw [hkeys]; exact id
    | storeWrite generation json => exact present_storeWrite hp ht hx hkeys
    | deleteFenced generation => exact present_deleteFenced hp ht.length_le hx hkeys
    | _ => exact ht.elim

theorem run_present (hr : (mhMachine S).Run h s) : Present h s := by
  refine Machine.Run.invariant (I := Present) ?_ (fun h s e hr ha hp => ?_) hr
  · refine ⟨fun _ _ hw => ?_, iff_of_true rfl rfl, fun hne => absurd rfl hne⟩
    cases hw
  · exact present_step (run_calls hr) hp

end Present

/-! ## The order of reads and increments -/

section Order

variable {h : RedisHistory} {s : RedisSystem}

/-- All states of a history have a generation below 2⁵³. -/
def Below (S : Server) (h : RedisHistory) : Prop :=
  ∀ h', h' <:+ h → ∀ g ∈ ((mhMachine S).stateAfter h').keys.storedGeneration, g < 2 ^ 53

theorem Below.suffix {h' : RedisHistory} (hb : Below S h) (hs : h' <:+ h) : Below S h' :=
  fun h'' hs' => hb h'' (hs'.trans hs)

/-- Stores and deletes do not lower the generation. -/
theorem generationOrZero_mono (hr : (mhMachine S).Run h s) {h₁ h₂ : RedisHistory}
    (h₁₂ : h₁ <:+ h₂) (h₂h : h₂ <:+ h) :
    ((mhMachine S).stateAfter h₁).keys.generationOrZero ≤
      ((mhMachine S).stateAfter h₂).keys.generationOrZero := by
  have hle : GenerationLe ((mhMachine S).stateAfter h₁).keys.storedGeneration
      ((mhMachine S).stateAfter h₂).keys.storedGeneration := by
    refine Machine.Run.le_of_suffix (C := fun _ _ => True)
      (r := fun s t => GenerationLe s.keys.storedGeneration t.keys.storedGeneration)
      (fun _ => GenerationLe.refl _) (fun _ _ _ => GenerationLe.trans) ?_ hr
      (fun _ _ _ _ => trivial) h₁₂ h₂h
    intro h s e hr _ _
    refine step_generationLe fun hw => ?_
    have ht := (run_calls hr).traced e.call
    rw [executes_call hw] at ht
    exact ht.elim
  unfold MeetingKeys.generationOrZero
  cases hold : ((mhMachine S).stateAfter h₁).keys.storedGeneration with
  | none => exact Nat.zero_le _
  | some g =>
    obtain ⟨g', hg', hgg'⟩ := hle g hold
    rw [Option.mem_def.mp hg']
    exact hgg'

/-- The last step of a run executed what its answer shows. -/
theorem executed_eq {e : RedisEvent} {a : RedisSystem.Answer}
    (hr : (mhMachine S).Run ((e, a) :: h) s) :
    a.1 = ((mhMachine S).stateAfter h).executed S e := by
  cases hr with
  | cons _ hr _ => rw [← hr.eq_stateAfter]; rfl

/-- A `GET` shows the generation at its moment. -/
theorem get_eq {e : RedisEvent} {a : RedisSystem.Answer} {r : ℕ} (hb : Below S ((e, a) :: h))
    (hr : (mhMachine S).Run ((e, a) :: h) s) (ha : a.1 = some (.get r)) :
    r = ((mhMachine S).stateAfter h).keys.generationOrZero := by
  have hx := (executed_eq hr).symm.trans ha
  rw [← getGeneration_eq (S := S) (hb h (List.suffix_cons _ _))]
  obtain ⟨waiting, hw, hrun⟩ := Option.map_eq_some_iff.mp hx
  cases waiting with
  | getGeneration => simpa [Waiting.run] using hrun.symm
  | deleteGet => simpa [Waiting.run] using hrun.symm
  | _ => simp [Waiting.run] at hrun

/-- An increment shows the generation it stored, one more than before. -/
theorem increment_eq {e : RedisEvent} {a : RedisSystem.Answer} {g : ℕ}
    (hb : Below S ((e, a) :: h)) (hr : (mhMachine S).Run ((e, a) :: h) s)
    (ha : a.1 = some (.increment g)) :
    g = ((mhMachine S).stateAfter h).keys.generationOrZero + 1 ∧
      ((mhMachine S).stateAfter ((e, a) :: h)).keys.generationOrZero = g := by
  have hx := (executed_eq hr).symm.trans ha
  obtain ⟨hnew, hstored, hle⟩ := incrementGeneration_eq (hb h (List.suffix_cons _ _))
  obtain ⟨waiting, hw, hrun⟩ := Option.map_eq_some_iff.mp hx
  have hafter : ((mhMachine S).stateAfter ((e, a) :: h)).keys =
      (waiting.run S ((mhMachine S).stateAfter h).keys).1 := by
    show ((mhMachine S).stateAfter h).keysAfter S e = _
    rw [RedisSystem.keysAfter, hw]
  have hg : (waiting.run S ((mhMachine S).stateAfter h).keys).1 =
        (incrementGeneration ((mhMachine S).stateAfter h).keys).1 →
      asU64 (S.integerReply (incrementGeneration ((mhMachine S).stateAfter h).keys).2) = g →
      g = ((mhMachine S).stateAfter h).keys.generationOrZero + 1 ∧
        ((mhMachine S).stateAfter ((e, a) :: h)).keys.generationOrZero = g := by
    intro hkeys hg
    rw [hnew, asU64_integerReply hle] at hg
    rw [hafter, hkeys, hstored]
    exact ⟨hg.symm, hg⟩
  cases waiting with
  | incrementGeneration => exact hg rfl (by simpa [Waiting.run] using hrun)
  | storeIncrement json => exact hg rfl (by simpa [Waiting.run] using hrun)
  | _ => simp [Waiting.run] at hrun

theorem mem_commands {call : ℕ} {executed : Executed} :
    executed ∈ commands h call ↔ ∃ x ∈ h, x.1.call = call ∧ x.2.1 = some executed := by
  rw [commands, List.mem_filterMap]
  refine exists_congr fun x => and_congr_right fun _ => ?_
  split_ifs with hc <;> simp [hc]

/-- An event of a history splits it. -/
theorem exists_suffix_of_mem {α : Type*} {x : α} {l : List α} (hx : x ∈ l) :
    ∃ l', x :: l' <:+ l := by
  obtain ⟨before, after, rfl⟩ := List.append_of_mem hx
  exact ⟨after, List.suffix_append _ _⟩

/-- A delete read before a store incremented iff it read a smaller generation. -/
theorem readBefore_iff (hr : (mhMachine S).Run h s) (hb : Below S h) {call store r g : ℕ}
    (hread : commands h call = [.get r])
    (hstore : ∀ g', .increment g' ∈ commands h store ↔ g' = g) :
    ReadBefore h call store ↔ r < g := by
  constructor
  · rintro ⟨y, h₁, hs, hy, ⟨g', hg'⟩, x, hx, hxc, r', hr'⟩
    obtain rfl := (hstore g').mp (mem_commands.mpr ⟨y, hs.subset List.mem_cons_self, hy, hg'⟩)
    have hr'r : r' = r := by
      have hmem := mem_commands.mpr
        ⟨x, hs.subset (List.mem_cons_of_mem _ hx), hxc, hr'⟩
      rw [hread] at hmem
      simpa using hmem
    obtain ⟨h₀, hs₀⟩ := exists_suffix_of_mem hx
    have hs₁ := hs₀.trans (List.suffix_cons y h₁)
    have hreadEq := get_eq (hb.suffix (hs₁.trans hs)) (hr.suffix (hs₁.trans hs)) hr'
    have hincEq := (increment_eq (hb.suffix hs) (hr.suffix hs) hg').1
    have hmono := generationOrZero_mono hr ((List.suffix_cons x h₀).trans hs₀)
      ((List.suffix_cons y h₁).trans hs)
    omega
  · intro hlt
    obtain ⟨x, hx, hxc, hr'⟩ := mem_commands.mp (by rw [hread]; exact List.mem_singleton_self _)
    obtain ⟨y, hy, hyc, hg'⟩ := mem_commands.mp ((hstore g).mpr rfl)
    obtain ⟨h₀, hs₀⟩ := exists_suffix_of_mem hx
    obtain ⟨h₁, hs₁⟩ := exists_suffix_of_mem hy
    have hreadEq := get_eq (hb.suffix hs₀) (hr.suffix hs₀) hr'
    have hincEq := increment_eq (hb.suffix hs₁) (hr.suffix hs₁) hg'
    -- were the increment first, the read would have seen it
    rcases List.suffix_or_suffix_of_suffix hs₀ hs₁ with hs | hs
    · rcases List.suffix_cons_iff.mp hs with heq | hs
      · obtain ⟨rfl, _⟩ := List.cons.inj heq
        rw [hr'] at hg'
        cases hg'
      · exact ⟨y, h₁, hs₁, hyc, ⟨g, hg'⟩, x, hs.subset List.mem_cons_self, hxc, r, hr'⟩
    · rcases List.suffix_cons_iff.mp hs with heq | hs
      · obtain ⟨rfl, _⟩ := List.cons.inj heq
        rw [hr'] at hg'
        cases hg'
      · have hmono := generationOrZero_mono hr hs ((List.suffix_cons x h₀).trans hs₀)
        rw [hincEq.2] at hmono
        omega

end Order

/-! ## One delete -/

section Delete

variable {h : RedisHistory} {s : RedisSystem} {e : RedisEvent} {r : ℕ}

theorem executes_of_deletes (hd : s.deletes e = some r) :
    s.executes e = some (.deleteFenced r) := by
  unfold RedisSystem.deletes at hd
  split at hd
  · rename_i generation hw
    rw [hw, Option.some.inj hd]
  · cases hd

/-- A delete returns `Ok` when its reply arrives with a result from 0 on. -/
theorem result_of_deletes (hd : s.deletes e = some r) :
    (∃ outcome, (s.step S e).2.2 = some (.ok outcome)) ↔
      e.replied = true ∧ 0 ≤ (fencedDelete s.keys (.number (r + 1))).2 := by
  have hw := executes_of_deletes hd
  have hcall := executes_call hw
  cases e with
  | start c request => cases hw
  | run c =>
    have hcall : s.calls c = some (.deleteFenced r) := hcall
    simp only [RedisSystem.step, RedisSystem.advance, hcall, Waiting.run, RedisEvent.replied,
      deleteResult, Option.some.injEq, true_and]
    split_ifs with hle <;> simp [hle]
  | fail c executed err =>
    have hcall : s.calls c = some (.deleteFenced r) := hcall
    simp [RedisSystem.step, RedisSystem.advance, hcall, RedisEvent.replied]

/-- Stores and deletes below 2⁵³: what a delete has read, plus one, is a double. -/
theorem round_read (hr : (mhMachine S).Run h s) (hb : Below S h) {call : ℕ}
    (hread : commands h call = [.get r]) : Binary64.round (r + 1) = r + 1 := by
  obtain ⟨x, hx, _, hxr⟩ := mem_commands.mp (by rw [hread]; exact List.mem_singleton_self _)
  obtain ⟨h₀, hs⟩ := exists_suffix_of_mem hx
  have hreadEq := get_eq (hb.suffix hs) (hr.suffix hs) hxr
  have hbound := (incrementGeneration_eq (hb h₀ ((List.suffix_cons x h₀).trans hs))).2.2
  exact Binary64.round_of_le (by omega)

/-- Without an assignment there is nothing to delete and nothing to spare. -/
theorem deleteRight_iff_of_none (hmh : ((mhMachine S).stateAfter h).keys.mh = none)
    (hafter : (((mhMachine S).stateAfter h).step S e).1.keys.mh = none) :
    DeleteRight S h e ↔ DeleteInTime S h e r :=
  iff_of_true ⟨fun _ _ => hafter, fun _ _ _ _ => hafter.trans hmh.symm⟩ (Or.inl hmh)

/-- An accepted delete is right iff the assignment it removes was written
    under a generation it could have read. -/
theorem deleteRight_iff_of_accept {store g current : ℕ}
    (hmh : ((mhMachine S).stateAfter h).keys.mh ≠ none)
    (hpw : presentWrite h = some (store, g))
    (hbefore : ReadBefore h e.call store ↔ r < g)
    (hgen : ((mhMachine S).stateAfter h).keys.storedGeneration = some current)
    (hle : current ≤ r + 1)
    (hafter : (((mhMachine S).stateAfter h).step S e).1.keys.mh = none) :
    DeleteRight S h e ↔ DeleteInTime S h e r := by
  constructor
  · intro hright
    refine Or.inr ⟨current, hgen, fun _ => hle, fun _ store' g' hpw' => ?_⟩
    rw [hpw, Option.some.injEq, Prod.mk.injEq] at hpw'
    obtain ⟨rfl, rfl⟩ := hpw'
    by_contra hlt
    have hsame := hright.spares store g hpw (hbefore.mpr (by omega))
    exact hmh (hsame.symm.trans hafter)
  · rintro (hnone | ⟨current', hgen', _, htime⟩)
    · exact absurd hnone hmh
    rw [hgen, Option.mem_def, Option.some.injEq] at hgen'
    subst hgen'
    have hold := htime hle store g hpw
    refine ⟨fun _ _ => hafter, fun store' g' hpw' hread => ?_⟩
    rw [hpw, Option.some.injEq, Prod.mk.injEq] at hpw'
    obtain ⟨rfl, rfl⟩ := hpw'
    have hlt := hbefore.mp hread
    omega

/-- A delete that is fenced out is right iff nobody sees its `Ok`. -/
theorem deleteRight_iff_of_stale {current : ℕ}
    (hmh : ((mhMachine S).stateAfter h).keys.mh ≠ none)
    (hgen : ((mhMachine S).stateAfter h).keys.storedGeneration = some current)
    (hlt : r + 1 < current)
    (hafter : (((mhMachine S).stateAfter h).step S e).1.keys.mh =
      ((mhMachine S).stateAfter h).keys.mh)
    (hresult : (∃ outcome, (((mhMachine S).stateAfter h).step S e).2.2 = some (.ok outcome)) ↔
      e.replied = true) :
    DeleteRight S h e ↔ DeleteInTime S h e r := by
  constructor
  · intro hright
    refine Or.inr ⟨current, hgen, fun hreply => ?_, fun hle => absurd hle (by omega)⟩
    obtain ⟨outcome, hok⟩ := hresult.mpr hreply
    exact absurd (hafter.symm.trans (hright.honest outcome hok)) hmh
  · rintro (hnone | ⟨current', hgen', htime, _⟩)
    · exact absurd hnone hmh
    rw [hgen, Option.mem_def, Option.some.injEq] at hgen'
    subst hgen'
    refine ⟨fun outcome hok => ?_, fun _ _ _ _ => hafter⟩
    have hle := htime (hresult.mp ⟨outcome, hok⟩)
    omega

/-- A delete does right iff it is in time. -/
theorem deleteRight_iff (hr : (mhMachine S).Run h s) (hb : Below S h)
    (hd : ((mhMachine S).stateAfter h).deletes e = some r) :
    DeleteRight S h e ↔ DeleteInTime S h e r := by
  obtain rfl := hr.eq_stateAfter
  have hw := executes_of_deletes hd
  have hread := (run_calls hr).traced e.call
  rw [executes_call hw] at hread
  have hround := round_read hr hb hread
  have hp := run_present hr
  have hkeys : (((mhMachine S).stateAfter h).step S e).1.keys =
      (fencedDelete ((mhMachine S).stateAfter h).keys (.number (r + 1))).1 := by
    simp [RedisSystem.step, RedisSystem.keysAfter, hw, Waiting.run]
  have hresult := result_of_deletes (S := S) hd
  have hcase := fenced_cases ((mhMachine S).stateAfter h).keys (r + 1)
    (fun _ => ((mhMachine S).stateAfter h).keys)
    fun expectedGen => (((mhMachine S).stateAfter h).keys.setGeneration expectedGen).delMh
  unfold fencedDelete at hkeys hresult
  generalize fenced _ _ _ _ = script at hcase hkeys hresult
  by_cases hmh : ((mhMachine S).stateAfter h).keys.mh = none
  · refine deleteRight_iff_of_none hmh ?_
    rw [hkeys]
    cases hcase with
    | absent hgen => exact hmh
    | accept current hgen hle => rfl
    | stale current hgen hlt => exact hmh
    | malformed text hgen => exact hmh
  have hwrite : presentWrite h ≠ none := fun hnone => hmh (hp.iff_mh.mpr hnone)
  obtain ⟨⟨store, g⟩, hpw⟩ := Option.ne_none_iff_exists'.mp hwrite
  have hcommands := hp.writer store g hpw
  have hbefore : ReadBefore h e.call store ↔ r < g :=
    readBefore_iff hr hb hread fun g' => by rw [hcommands]; simp
  cases hcase with
  | absent hgen =>
    exact absurd (show _ = none by rw [MeetingKeys.storedGeneration, hgen]; rfl) (hp.fenced hmh)
  | malformed text hgen =>
    exact absurd (show _ = none by rw [MeetingKeys.storedGeneration, hgen]; rfl) (hp.fenced hmh)
  | accept current hgen hle =>
    rw [hround] at hle
    exact deleteRight_iff_of_accept hmh hpw hbefore hgen hle (by rw [hkeys]; rfl)
  | stale current hgen hlt =>
    rw [hround] at hlt
    exact deleteRight_iff_of_stale hmh hgen hlt (by rw [hkeys]) (by rw [hresult]; simp)

end Delete

/-- Along a run of stores and deletes with generations below 2⁵³, every delete
    does right iff every delete is in time. -/
theorem deletes_right_iff {h : RedisHistory} {s : RedisSystem} (hr : (mhMachine S).Run h s)
    (hb : Below S h) :
    (∀ e a h', (e, a) :: h' <:+ h → ∀ r, ((mhMachine S).stateAfter h').deletes e = some r →
        DeleteRight S h' e) ↔
      ∀ e a h', (e, a) :: h' <:+ h → ∀ r, ((mhMachine S).stateAfter h').deletes e = some r →
        DeleteInTime S h' e r := by
  refine forall_congr' fun e => forall_congr' fun a => forall_congr' fun h' =>
    forall_congr' fun hs => forall_congr' fun r => forall_congr' fun hd => ?_
  have hs' : h' <:+ h := (List.suffix_cons _ _).trans hs
  exact deleteRight_iff (hr.suffix hs') (hb.suffix hs') hd

/-- A store, a delete that reads 1, a second store that takes 2 and writes, and
    the delete with 2. -/
def tieEvents : List RedisEvent :=
  [.start 0 (.storeMhAssignment "mh-1"), .run 0, .run 0, .start 1 .deleteMhAssignment, .run 1,
    .start 2 (.storeMhAssignment "mh-2"), .run 2, .run 2]

/-- The same with a third store that takes 3 before the delete. -/
def staleEvents : List RedisEvent :=
  tieEvents ++ [.start 3 (.storeMhAssignment "mh-3"), .run 3]

theorem deletes_right_iff_tie :
    (∀ e a h', (e, a) :: h' <:+ ((mhMachine .exact).playAll (tieEvents ++ [.run 1])).2 →
        ∀ r, ((mhMachine .exact).stateAfter h').deletes e = some r → DeleteRight .exact h' e) ↔
      ∀ e a h', (e, a) :: h' <:+ ((mhMachine .exact).playAll (tieEvents ++ [.run 1])).2 →
        ∀ r, ((mhMachine .exact).stateAfter h').deletes e = some r →
          DeleteInTime .exact h' e r :=
  deletes_right_iff (Machine.run_of_admits (by decide)) fun h' hs =>
    (by decide : ∀ h' ∈ ((mhMachine .exact).playAll (tieEvents ++ [.run 1])).2.tails,
      ∀ g ∈ ((mhMachine .exact).stateAfter h').keys.storedGeneration, g < 2 ^ 53) h'
      ((List.mem_tails _ _).mpr hs)

/-- On a tie the delete removes the assignment of a store that incremented
    after its read, and a delete that is fenced out returns `Ok` although the
    assignment stays. -/
theorem deletes_wrong_on_tie_and_stale :
    ((mhMachine .exact).Run ((mhMachine .exact).playAll (tieEvents ++ [.run 1])).2
        ((mhMachine .exact).playAll (tieEvents ++ [.run 1])).1 ∧
      ¬ DeleteRight .exact ((mhMachine .exact).playAll tieEvents).2 (.run 1)) ∧
    ((mhMachine .exact).Run ((mhMachine .exact).playAll (staleEvents ++ [.run 1])).2
        ((mhMachine .exact).playAll (staleEvents ++ [.run 1])).1 ∧
      ¬ DeleteRight .exact ((mhMachine .exact).playAll staleEvents).2 (.run 1)) := by
  refine ⟨⟨Machine.run_of_admits (by decide), fun hright => ?_⟩,
    Machine.run_of_admits (by decide), fun hright => ?_⟩
  · have hbefore : ReadBefore ((mhMachine .exact).playAll tieEvents).2 1 2 := by
      refine ⟨(.run 2, some (.increment 2), none), _, (List.suffix_cons _ _), rfl, ⟨2, rfl⟩,
        (.run 1, some (.get 1), none), ?_, rfl, 1, rfl⟩
      decide
    have hsame := hright.spares 2 2 (by decide) hbefore
    exact absurd hsame (by decide)
  · have hgone := hright.honest .unit (by decide)
    exact absurd hgone (by decide)

end DarkTower.Mc.Redis
