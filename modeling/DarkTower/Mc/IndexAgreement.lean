import DarkTower.Mc.Index

/-!
# Do the index maps of a meeting agree?

* `run_owned`: in every reachable state a participant's correlation id is
  mapped to that participant, every entry of `correlation_to_participant`
  belongs to a present participant, and no two participants share an id.
* `indexAgreement_along_iff`: the bindings agree too, in every state of a run,
  iff no tick of the grace-period timer of the run removes a participant whose
  binding is still stored. `check_disconnect_timeouts` forgets
  `stored_bindings`, which `handle_leave` cleans: `staleBinding_after_timeout`
  is a run whose last state keeps the binding of a removed participant.
-/

namespace DarkTower.Mc

open DarkTower.Common DarkTower.Lib

variable {R : Ring} {meetingId : String} {mgr : SessionBindingManager} {createdAt : ℤ}

/-- Every key of `stored_bindings` and of `correlation_to_participant` is the
    correlation id of a present participant, to which it is mapped, and no two
    participants share a correlation id. -/
structure IndexAgreement (m : MeetingActor) : Prop where
  present : ∀ c, c ∈ m.storedBindings ∨ c ∈ m.correlationToParticipant →
    ∃ p participant, m.participants.lookup p = some participant ∧
      participant.correlationId = c ∧ m.correlationToParticipant.lookup c = some p
  distinct : ∀ p q participant participant',
    m.participants.lookup p = some participant → m.participants.lookup q = some participant' →
      participant.correlationId = participant'.correlationId → p = q

/-- Every correlation id in the maps has been handed out. -/
def Known (h : MeetingHistory) (m : MeetingActor) : Prop :=
  ∀ c, m.registry.InUse c → ∃ i ∈ issues h, i.correlationId = c

theorem issues_cons (x : MeetingEvent × MeetingActor.Reply × List Effect) (h : MeetingHistory) :
    issues (x :: h) = (issueOf x).toList ++ issues h := by
  cases hx : issueOf x <;> simp [issues, hx]

theorem mem_issues_cons_of_mem {x : MeetingEvent × MeetingActor.Reply × List Effect}
    {h : MeetingHistory} {i : Issue} (hi : i ∈ issues h) : i ∈ issues (x :: h) := by
  rw [issues_cons]
  exact List.mem_append_right _ hi

/-- A freshly drawn id occurs in none of the maps. -/
theorem Known.fresh {h : MeetingHistory} {m : MeetingActor} (hk : Known h m) {c : String}
    (hc : ∀ i ∈ issues h, i.correlationId ≠ c) :
    m.registry.owner c = none ∧ m.registry.binding c = none := by
  constructor
  · by_contra hne
    obtain ⟨i, hi, hic⟩ := hk c (Or.inl hne)
    exact hc i hi hic
  · by_contra hne
    obtain ⟨i, hi, hic⟩ := hk c (Or.inr hne)
    exact hc i hi hic

/-- A key that a participant holds is not a freshly drawn id. -/
theorem Known.ne_of_key {h : MeetingHistory} {m : MeetingActor} (hk : Known h m)
    (ho : m.registry.Owned) {p c d : String} (hp : m.registry.key p = some c)
    (hd : ∀ i ∈ issues h, i.correlationId ≠ d) : c ≠ d := by
  rintro rfl
  have hnone := (hk.fresh hd).1
  rw [(ho p c).mp hp] at hnone
  exact Option.some_ne_none p hnone

section Step

variable {h : MeetingHistory} {m : MeetingActor} {e : MeetingEvent}

theorem owned_step (ha : (meetingMachine R meetingId mgr createdAt).allowed h m e)
    (ho : m.registry.Owned) (hk : Known h m) : (m.handle R e).actor.registry.Owned := by
  cases MeetingActor.handle_registry (R := R) (m := m) e with
  | keep _ hreg _ => rwa [hreg]
  | join now draw depth connectionId userId p isHost he hp hreg _ =>
    subst he
    rw [hreg]
    exact ho.issue hp (hk.fresh (ha.2 draw rfl)).1
  | reconnect now draw depth connectionId c token stored p participant he _ _ _ howner _ hreg =>
    subst he
    rw [hreg]
    exact ho.rotate ((ho p c).mpr howner) (hk.fresh (ha.2 draw rfl)).1
  | expired now draw depth connectionId c token stored _ _ _ hreg => rw [hreg]; exact ho.drop
  | leave now draw depth p participant _ _ hreg => rw [hreg]; exact ho.vacate.drop
  | tick now _ hreg => rw [hreg]; exact ho.vacateAll _

theorem known_step (hk : Known h m) :
    Known ((e, (m.handle R e).result, (m.handle R e).effects) :: h) (m.handle R e).actor := by
  intro c hc
  -- only a join or a reconnect brings in a key, and it is the one it hands out
  suffices hs : (∃ i, issueOf (e, (m.handle R e).result, (m.handle R e).effects) = some i ∧
      i.correlationId = c) ∨ m.registry.InUse c by
    rcases hs with ⟨i, hi, hic⟩ | hs
    · exact ⟨i, by simp [issues_cons, hi], hic⟩
    · obtain ⟨i, hi, hic⟩ := hk c hs
      exact ⟨i, mem_issues_cons_of_mem hi, hic⟩
  cases MeetingActor.handle_registry (R := R) (m := m) e with
  | keep _ hreg _ => exact Or.inr (hreg ▸ hc)
  | join now draw depth connectionId userId p isHost _ _ hreg hissue =>
    rw [hreg] at hc
    rcases Registry.inUse_issue hc with rfl | hc
    · exact Or.inl ⟨_, hissue, rfl⟩
    · exact Or.inr hc
  | reconnect now draw depth connectionId c token stored p participant _ _ _ _ _ _ hreg _ hissue =>
    rw [hreg] at hc
    rcases Registry.inUse_rotate hc with rfl | hc
    · exact Or.inl ⟨_, hissue, rfl⟩
    · exact Or.inr hc
  | expired now draw depth connectionId c token stored _ _ _ hreg =>
    rw [hreg] at hc
    exact Or.inr (Registry.inUse_drop hc)
  | leave now draw depth p participant _ _ hreg =>
    rw [hreg] at hc
    exact Or.inr (Registry.inUse_vacate (Registry.inUse_drop hc))
  | tick now _ hreg =>
    rw [hreg] at hc
    exact Or.inr (Registry.inUse_vacateAll hc)

end Step

/-- In every reachable state the participants and their correlation ids own
    each other, and every id in the maps was handed out in the run. -/
theorem run_owned {h : MeetingHistory} {m : MeetingActor}
    (hr : (meetingMachine R meetingId mgr createdAt).Run h m) : m.registry.Owned ∧ Known h m := by
  refine Machine.Run.invariant (I := fun h m => m.registry.Owned ∧ Known h m) ?_ ?_ hr
  · refine ⟨?_, ?_⟩
    · intro p c
      simp [meetingMachine, MeetingActor.spawn, MeetingActor.registry]
    · intro c hc
      simp [meetingMachine, MeetingActor.spawn, MeetingActor.registry, Registry.InUse] at hc
  · intro h m e _ ha hI
    exact ⟨owned_step ha hI.1 hI.2, known_step hI.2⟩

/-! ## Agreement of the bindings -/

/-- When ownership is right, the maps agree iff every binding has a holder. -/
theorem indexAgreement_iff_bound {m : MeetingActor} (ho : m.registry.Owned) :
    IndexAgreement m ↔ m.registry.Bound := by
  constructor
  · intro ha c hc
    have hmem : c ∈ m.storedBindings := by
      by_contra hne
      exact hc (AList.lookup_eq_none.mpr hne)
    obtain ⟨p, participant, hp, hpc, _⟩ := ha.present c (Or.inl hmem)
    exact ⟨p, by rw [MeetingActor.key_of_lookup hp, hpc]⟩
  · intro hb
    refine ⟨fun c hc => ?_, fun p q participant participant' hp hq hpq => ?_⟩
    · have hheld : ∃ p, m.registry.key p = some c := by
        rcases hc with hc | hc
        · exact hb c fun hnone => AList.lookup_eq_none.mp hnone hc
        · obtain ⟨p, hp⟩ := Option.isSome_iff_exists.mp (AList.lookup_isSome.mpr hc)
          exact ⟨p, (ho p c).mpr hp⟩
      obtain ⟨p, hp⟩ := hheld
      obtain ⟨participant, hlookup, hcorr⟩ := Option.map_eq_some_iff.mp hp
      exact ⟨p, participant, hlookup, hcorr, (ho p c).mp hp⟩
    · refine ho.key_injective (MeetingActor.key_of_lookup hp) ?_
      rw [MeetingActor.key_of_lookup hq, hpq]

/-- The condition on a step: a tick of the grace-period timer removes no
    participant whose binding is still stored. -/
def RemovesNoBound (m : MeetingActor) : MeetingEvent → Prop
  | .tick now => ∀ p participant, m.participants.lookup p = some participant →
      MeetingActor.timedOut now participant = true → participant.correlationId ∉ m.storedBindings
  | _ => True

theorem removesNoBound_tick_iff {m : MeetingActor} {now : ℕ} :
    RemovesNoBound m (.tick now) ↔
      ∀ p ∈ m.timedOutIds now, ∀ c, m.registry.key p = some c → m.registry.binding c = none := by
  constructor
  · intro hr p hp c hc
    obtain ⟨participant, hlookup, hout⟩ := MeetingActor.mem_timedOutIds.mp hp
    rw [MeetingActor.key_of_lookup hlookup, Option.some.injEq] at hc
    exact AList.lookup_eq_none.mpr (hc ▸ hr p participant hlookup hout)
  · intro hr p participant hlookup hout
    exact AList.lookup_eq_none.mp
      (hr p (MeetingActor.mem_timedOutIds.mpr ⟨participant, hlookup, hout⟩) _
        (MeetingActor.key_of_lookup hlookup))

theorem bound_step_iff {h : MeetingHistory} {m : MeetingActor} (e : MeetingEvent)
    (hr : (meetingMachine R meetingId mgr createdAt).Run h m) (hb : m.registry.Bound) :
    (m.handle R e).actor.registry.Bound ↔ RemovesNoBound m e := by
  have ho := (run_owned hr).1
  cases MeetingActor.handle_registry (R := R) (m := m) e with
  | keep htick hreg _ =>
    rw [hreg]
    refine iff_of_true hb ?_
    cases e with
    | tick now => exact absurd rfl (htick now)
    | message now draw depth message => trivial
    | health now finished => trivial
    | shutdown now => trivial
  | join now draw depth connectionId userId p isHost he hp hreg _ =>
    subst he
    rw [hreg]
    exact iff_of_true (hb.issue hp) trivial
  | reconnect now draw depth connectionId c token stored p participant he _ _ _ howner _ hreg =>
    subst he
    rw [hreg]
    exact iff_of_true (hb.rotate ((ho p c).mpr howner)) trivial
  | expired now draw depth connectionId c token stored he _ _ hreg =>
    subst he
    rw [hreg]
    exact iff_of_true hb.drop trivial
  | leave now draw depth p participant he hp hreg =>
    subst he
    rw [hreg]
    exact iff_of_true (hb.leave (MeetingActor.key_of_lookup hp)) trivial
  | tick now he hreg =>
    subst he
    rw [hreg, Registry.bound_vacateAll_iff ho hb, removesNoBound_tick_iff]

/-- The index maps agree in every state of a run iff no tick of the run
    removes a participant whose binding is still stored. -/
theorem indexAgreement_along_iff {h : MeetingHistory} {m : MeetingActor}
    (hr : (meetingMachine R meetingId mgr createdAt).Run h m) :
    (∀ h', h' <:+ h →
        IndexAgreement ((meetingMachine R meetingId mgr createdAt).stateAfter h')) ↔
      ∀ e a h', (e, a) :: h' <:+ h →
        RemovesNoBound ((meetingMachine R meetingId mgr createdAt).stateAfter h') e := by
  refine Machine.Run.always_iff ?_ ?_ hr
  · refine ⟨fun c hc => ?_, fun p q participant participant' hp => ?_⟩
    · simp [meetingMachine, MeetingActor.spawn] at hc
    · simp [meetingMachine, MeetingActor.spawn] at hp
  · intro h m e hr ha hagree
    have ho := (run_owned hr).1
    have ho' := (run_owned (Machine.Run.cons e hr ha)).1
    rw [indexAgreement_iff_bound ho', ← bound_step_iff e hr ((indexAgreement_iff_bound ho).mp hagree)]
    rfl

/-- A join at 0 s, the loss of the connection at 1 s and a tick at 31 s. -/
def timeoutEvents : List MeetingEvent :=
  [.message 0 sampleDraw₁ 0 (.connectionJoin "conn-1" "user-1" "part-1" false),
    .message (fromSecs 1) sampleDraw₂ 0 (.connectionDisconnected "conn-1" "part-1"),
    .tick (fromSecs 31)]

theorem indexAgreement_along_timeout :
    sampleMeeting.Run (sampleMeeting.playAll timeoutEvents).2
        (sampleMeeting.playAll timeoutEvents).1 ∧
      ((∀ h', h' <:+ (sampleMeeting.playAll timeoutEvents).2 →
          IndexAgreement (sampleMeeting.stateAfter h')) ↔
        ∀ e a h', (e, a) :: h' <:+ (sampleMeeting.playAll timeoutEvents).2 →
          RemovesNoBound (sampleMeeting.stateAfter h') e) :=
  have hr := Machine.run_of_admits (M := sampleMeeting) (l := timeoutEvents) (by decide)
  ⟨hr, indexAgreement_along_iff hr⟩

/-- After the tick the participant is gone and its binding is still stored. -/
theorem staleBinding_after_timeout :
    sampleMeeting.Run (sampleMeeting.playAll timeoutEvents).2
        (sampleMeeting.playAll timeoutEvents).1 ∧
      ¬ IndexAgreement (sampleMeeting.playAll timeoutEvents).1 := by
  refine ⟨Machine.run_of_admits (by decide), fun hagree => ?_⟩
  obtain ⟨p, participant, hp, _⟩ :=
    hagree.present sampleDraw₁.correlationId (Or.inl (by decide))
  have hempty : (sampleMeeting.playAll timeoutEvents).1.participants.entries = [] := by decide
  have hmem := AList.mem_lookup_iff.mp hp
  rw [hempty] at hmem
  exact List.not_mem_nil hmem

end DarkTower.Mc
