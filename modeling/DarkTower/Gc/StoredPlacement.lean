import DarkTower.Gc.AssignmentAgreement
import DarkTower.Gc.Placement

/-!
# Do Redis and the database name the same placement?

* `placement_along`: when all calls are done, the meeting is in one place, in
  every run that `KeepsPlacement`.
* `loser_keeps_meeting`: a call that loses the race for the row has already
  stored its handlers and created its meeting.
-/

namespace DarkTower.Gc

open DarkTower.Lib Tables

namespace MeetingStores

variable {P : StoresSetting} {s : MeetingStores}

/-! ## Steps of the calls -/

/-- A call that does not write, before and after, is none of those that write. -/
theorem lookup_set_of_not_writing {g : GcSystem} {t : Tables} {call : ℕ} {c : Call}
    (hold : ∀ c₀, g.calls.lookup call = some c₀ → c₀.pc.written = none)
    (hnew : c.pc.written = none) (call' : ℕ) (c' : Call) (hwritten : c'.pc.written ≠ none) :
    (g.set t call c).calls.lookup call' = some c' ↔ g.calls.lookup call' = some c' := by
  rw [GcSystem.lookup_set]
  constructor
  · rintro (⟨_, rfl⟩ | ⟨_, hc'⟩)
    · exact absurd hnew hwritten
    · exact hc'
  · intro hc'
    refine .inr ⟨fun heq => ?_, hc'⟩
    rw [heq] at hc'
    exact hwritten (hold c' hc')

/-- The calls that write, and those that wait for an answer, stand where they
    stood. -/
theorem Ordered.gcFrame (hs : Ordered P s) {gc : GcSystem}
    (hrow : gc.tables.assignment P.meetingId P.region = s.row P)
    (hwriting : ∀ call c, c.pc.written ≠ none →
      (gc.calls.lookup call = some c ↔ s.gc.calls.lookup call = some c))
    (hasked : ∀ call gcId loop selectedMc,
      s.gc.calls.lookup call = some ⟨gcId, .assignMeeting loop selectedMc⟩ →
        gc.calls.lookup call = some ⟨gcId, .assignMeeting loop selectedMc⟩) :
    Ordered P { s with gc } := by
  have hsame : SameStores P s { s with gc } := ⟨hrow, fun _ => Iff.rfl, rfl, rfl⟩
  refine ⟨?_, hs.exclusive.frame ?_ ?_ hsame.placed⟩
  · intro call request hawaits
    obtain ⟨q, gcId, loop, selectedMc, hq, hcall, hpc, hid⟩ := hs.linked call request hawaits
    exact ⟨q, gcId, loop, selectedMc, hq, hcall, hasked _ _ _ _ hpc, hid⟩
  · intro w
    cases w with
    | request request => exact Iff.rfl
    | call call => exact active_call_iff (hwriting call)
  · intro w _ hholds
    cases w with
    | request request => exact fun q hq => hsame.requestHolds .inl (hholds q hq)
    | call call => exact hsame.holds_call (fun c hc => (hwriting call c hc).mp) hholds

/-- A call goes on that neither writes nor waits, before and after. -/
theorem Ordered.gcSet (hs : Ordered P s) {t : Tables} {call : ℕ} {c : Call} {pc : CallPc}
    (hcall : s.gc.calls.lookup call = some c)
    (hrow : t.assignment P.meetingId P.region = s.row P) (hold : c.pc.written = none)
    (hnew : pc.written = none) (hasked : ∀ loop selectedMc, c.pc ≠ .assignMeeting loop selectedMc) :
    Ordered P { s with gc := s.gc.set t call { c with pc } } := by
  have hwriting := lookup_set_of_not_writing (g := s.gc) (t := t) (c := { c with pc })
    (fun c₀ hc₀ => by rw [← Option.some.inj (hcall.symm.trans hc₀)]; exact hold) hnew
  refine hs.gcFrame hrow hwriting fun call' gcId loop selectedMc hc' => ?_
  refine GcSystem.lookup_set.mpr (.inr ⟨fun heq => ?_, hc'⟩)
  rw [heq, hcall] at hc'
  obtain rfl := Option.some.inj hc'
  exact hasked loop selectedMc rfl

/-- A call writes the row. -/
theorem Ordered.gcWrite (hs : Ordered P s) {t : Tables} {call : ℕ} {c : Call} {pc : CallPc}
    {selectedMc : McCandidate} (hcall : s.gc.calls.lookup call = some c)
    (hwritten : c.pc.written = some selectedMc) (hnew : pc.written = none)
    (hrow : ∃ r, t.assignment P.meetingId P.region = some r ∧
      r.meetingControllerId = selectedMc.controllerId) :
    Ordered P { s with gc := s.gc.set t call { c with pc } } := by
  have hactive : s.Active (.call call) :=
    ⟨c, hcall, by rw [hwritten]; exact Option.some_ne_none _⟩
  refine ⟨?_, hs.exclusive.leave hactive ?_ fun hholds => ?_⟩
  · intro call' request hawaits
    obtain ⟨q, gcId, loop, selectedMc', hq, hcall', hpc, hid⟩ := hs.linked call' request hawaits
    refine ⟨q, gcId, loop, selectedMc', hq, hcall', ?_, hid⟩
    refine GcSystem.lookup_set.mpr (.inr ⟨fun heq => ?_, hpc⟩)
    rw [heq, hcall] at hpc
    obtain rfl := Option.some.inj hpc
    cases hwritten
  · intro w hw
    cases w with
    | request request => exact ⟨hw, nofun⟩
    | call call' =>
      obtain ⟨c', hc', hwritten'⟩ := hw
      rcases GcSystem.lookup_set.mp hc' with ⟨_, rfl⟩ | ⟨hne, hc'⟩
      · exact absurd hnew hwritten'
      · exact ⟨⟨c', hc', hwritten'⟩, fun heq => hne (Worker.call.inj heq)⟩
  · obtain ⟨r, hr, hid⟩ := hrow
    have howned : ({ s with gc := s.gc.set t call { c with pc } } : MeetingStores).OwnedBy P
        selectedMc.controllerId := hholds c hcall selectedMc hwritten
    exact placed_of_ownedBy howned hr hid

theorem written_eq_some {pc : CallPc} {selectedMc : McCandidate}
    (h : pc.written = some selectedMc) : ∃ mhSelection, pc = .atomicAssign mhSelection selectedMc := by
  unfold CallPc.written at h
  split at h
  · rename_i mhSelection selectedMc'
    obtain rfl := Option.some.inj h
    exact ⟨mhSelection, rfl⟩
  · cases h

/-- A step of a call that is not an answer. -/
theorem Ordered.gcCall (hs : Ordered P s) {call : ℕ} {e : CallEvent} {c : Call}
    (hcall : s.gc.calls.lookup call = some c) (hother : ∀ result, e ≠ .assignMeeting result)
    (hcond : s.KeepsPlacement P (.gc (.call call e))) :
    Ordered P { s with
      gc := s.gc.set (callStep P.meetingId P.region s.gc.tables c e).1 call
        { c with pc := (callStep P.meetingId P.region s.gc.tables c e).2 } } := by
  have hcase := callStep_cases P.meetingId P.region s.gc.tables c e
  generalize callStep P.meetingId P.region s.gc.tables c e = result at hcase ⊢
  -- a call that neither writes nor waits
  have hset : ∀ {pc₀ pc : CallPc}, c.pc = pc₀ → pc₀.written = none → pc.written = none →
      (∀ loop selectedMc, pc₀ ≠ .assignMeeting loop selectedMc) →
        Ordered P { s with gc := s.gc.set s.gc.tables call { c with pc } } := by
    intro pc₀ pc hpc hold hnew hasked
    subst hpc
    exact hs.gcSet hcall rfl hold hnew hasked
  cases hcase with
  | stays e =>
    have hkept : ∀ call', (s.gc.set s.gc.tables call c).calls.lookup call' =
        s.gc.calls.lookup call' := GcSystem.lookup_set_self hcall
    refine hs.gcFrame rfl (fun call' c' _ => ?_) fun call' gcId loop selectedMc hc' => ?_
    · exact (hkept call') ▸ Iff.rfl
    · exact (hkept call').trans hc'
  | failed e error hasked haccepted =>
    cases hwritten : c.pc.written with
    | none =>
      refine hset rfl hwritten rfl fun loop selectedMc hpc => ?_
      obtain ⟨result, rfl⟩ := hasked loop selectedMc hpc
      exact hother result rfl
    | some selectedMc =>
      obtain ⟨mhSelection, hpc⟩ := written_eq_some hwritten
      obtain ⟨now, rfl⟩ := haccepted mhSelection selectedMc hpc
      cases (hcond c hcall selectedMc hwritten).1
  | looked now hpc => exact hset hpc rfl rfl nofun
  | reused candidates choice₁ choice₂ existing mhSelection hpc => exact hset hpc rfl rfl nofun
  | selected candidates choice₁ choice₂ mhSelection hpc => exact hset hpc rfl rfl nofun
  | tries now candidates choice loop selectedMc hpc hmem => exact hset hpc rfl rfl nofun
  | retries result => exact absurd rfl (hother _)
  | accepted => exact absurd rfl (hother _)
  | assigned now mhSelection selectedMc hpc =>
    have hwritten : c.pc.written = some selectedMc := by rw [hpc]; rfl
    have hassigned := assignRow_of_assignable c.gcId (hcond c hcall selectedMc hwritten)
    rw [hassigned.1]
    exact hs.gcWrite hcall hwritten rfl hassigned.2
  | lost now mhSelection selectedMc hpc =>
    have hwritten : c.pc.written = some selectedMc := by rw [hpc]; rfl
    exact hs.gcWrite hcall hwritten rfl
      (assignRow_of_assignable c.gcId (hcond c hcall selectedMc hwritten).2).2
  | reread now mhSelection current hpc hcurrent => exact hset hpc rfl rfl nofun

theorem Ordered.gcEvent (hs : Ordered P s) {e : AssignEvent} (hadmits : s.Admits P (.gc e))
    (hcond : s.KeepsPlacement P (.gc e)) : Ordered P (s.gcStep P e) := by
  have hcase := GcSystem.step_cases P.stalenessThreshold P.meetingId P.region s.gc e
  show Ordered P { s with gc := s.gc.step P.stalenessThreshold P.meetingId P.region e }
  generalize s.gc.step P.stalenessThreshold P.meetingId P.region e = gc at hcase ⊢
  cases hcase with
  | stutter => exact hs
  | started call gcId hnone =>
    have hwriting := lookup_set_of_not_writing (g := s.gc) (t := s.gc.tables)
      (c := ⟨gcId, .getHealthyAssignment⟩) (fun c₀ hc₀ => by rw [hnone] at hc₀; cases hc₀) rfl
    refine hs.gcFrame rfl hwriting fun call' _ _ _ hc' => ?_
    refine GcSystem.lookup_set.mpr (.inr ⟨fun heq => ?_, hc'⟩)
    rw [heq, hnone] at hc'
    cases hc'
  | called call e c hcall =>
    exact hs.gcCall hcall (fun result heq => hadmits.2 call result (by rw [heq])) hcond
  | other e => exact hs.gcFrame hadmits.1 (fun _ _ _ => Iff.rfl) fun _ _ _ _ h => h

theorem Ordered.sent (hs : Ordered P s) {call request : ℕ} {gcId : String} {loop : Attempts}
    {selectedMc : McCandidate}
    (hcall : s.gc.calls.lookup call = some ⟨gcId, .assignMeeting loop selectedMc⟩)
    (hrequest : s.requests.lookup request = none) (hawaits : s.awaits call = none)
    (mhAssignments : List Mc.MhEndpointInfo) :
    Ordered P { s.setRequest request ⟨call, selectedMc.controllerId, mhAssignments, .sent⟩ with
      awaits := Function.update s.awaits call (some request) } := by
  have hother : ∀ call' request', request' ≠ request →
      (Function.update s.awaits call (some request) call' = some request' ↔
        s.awaits call' = some request') := by
    intro call' request' hne
    by_cases heq : call' = call
    · rw [heq, Function.update_self, hawaits]
      simp [hne.symm]
    · rw [Function.update_of_ne heq]
  have hold : ∀ {request' : ℕ} {q : McRequest}, s.requests.lookup request' = some q →
      request' ≠ request := by
    rintro request' q hq rfl
    rw [hrequest] at hq
    cases hq
  refine ⟨?_, hs.exclusive.frame ?_ ?_ fun h => h⟩
  · intro call' request' hawaits'
    by_cases heq : call' = call
    · subst heq
      have hthis : Function.update s.awaits call' (some request) call' = some request' := hawaits'
      rw [Function.update_self] at hthis
      obtain rfl := Option.some.inj hthis
      exact ⟨_, gcId, loop, selectedMc, AList.lookup_insert .., rfl, hcall, rfl⟩
    · have hawaits'' : s.awaits call' = some request' :=
        (Function.update_of_ne heq ..).symm.trans hawaits'
      obtain ⟨q, gcId', loop', selectedMc', hq, hcall', hpc, hid⟩ :=
        hs.linked call' request' hawaits''
      exact ⟨q, gcId', loop', selectedMc', (AList.lookup_insert_ne (hold hq)).trans hq, hcall', hpc,
        hid⟩
  · intro w
    cases w with
    | call call' => exact Iff.rfl
    | request request' =>
      constructor
      · rintro ⟨q, hq, hworks⟩
        rcases Multimap.lookup_insert_eq_some.mp hq with ⟨_, rfl⟩ | ⟨hne, hq⟩
        · rcases hworks with hbusy | ⟨haccepted, _⟩
          · cases hbusy
          · cases haccepted
        · exact ⟨q, hq, hworks.imp_right fun h => ⟨h.1, (hother _ _ hne).mp h.2⟩⟩
      · rintro ⟨q, hq, hworks⟩
        refine ⟨q, (AList.lookup_insert_ne (hold hq)).trans hq, hworks.imp_right fun h => ?_⟩
        exact ⟨h.1, (hother _ _ (hold hq)).mpr h.2⟩
  · intro w hw hholds
    cases w with
    | call call' => exact hholds
    | request request' =>
      obtain ⟨q', hq', _⟩ := hw
      intro q hq
      have hne := hold hq'
      have hq : s.requests.lookup request' = some q := (AList.lookup_insert_ne hne).symm.trans hq
      apply SameStores.requestHolds (s := s) ?_ ?_ (hholds q hq)
      · exact ⟨rfl, fun _ => Iff.rfl, rfl, rfl⟩
      · exact fun hthis => .inl ((hother _ _ hne).mpr hthis)

/-! ### Answers -/

/-- A call stops waiting for a request that can be given up. -/
theorem Ordered.answerFrame (hs : Ordered P s) {call : ℕ} {gc : GcSystem}
    (hrow : gc.tables.assignment P.meetingId P.region = s.row P)
    (hwriting : ∀ call c, c.pc.written ≠ none →
      (gc.calls.lookup call = some c ↔ s.gc.calls.lookup call = some c))
    (hasked : ∀ call', call' ≠ call → gc.calls.lookup call' = s.gc.calls.lookup call')
    (hgive : ∀ request ∈ s.awaits call, ∀ q ∈ s.requests.lookup request, s.CanGiveUp P q) :
    Ordered P { s with gc, awaits := Function.update s.awaits call none } := by
  have hsame : SameStores P s { s with gc, awaits := Function.update s.awaits call none } :=
    ⟨hrow, fun _ => Iff.rfl, rfl, rfl⟩
  have hawaits : ∀ {call' request : ℕ}, Function.update s.awaits call none call' = some request ↔
      call' ≠ call ∧ s.awaits call' = some request := by
    intro call' request
    by_cases heq : call' = call
    · rw [heq, Function.update_self]
      simp
    · rw [Function.update_of_ne heq]
      simp [heq]
  refine ⟨?_, hs.exclusive.frame ?_ ?_ hsame.placed⟩
  · intro call' request hthis
    obtain ⟨hne, hthis⟩ := hawaits.mp hthis
    obtain ⟨q, gcId, loop, selectedMc, hq, hcall, hpc, hid⟩ := hs.linked call' request hthis
    exact ⟨q, gcId, loop, selectedMc, hq, hcall, (hasked call' hne).trans hpc, hid⟩
  · intro w
    cases w with
    | request request =>
      constructor
      · rintro ⟨q, hq, hworks⟩
        exact ⟨q, hq, hworks.imp_right fun h => ⟨h.1, (hawaits.mp h.2).2⟩⟩
      · rintro ⟨q, hq, hworks⟩
        refine ⟨q, hq, hworks.imp_right fun ⟨haccepted, hthis⟩ =>
          ⟨haccepted, hawaits.mpr ⟨fun heq => ?_, hthis⟩⟩⟩
        rw [heq] at hthis
        rw [(hgive request hthis q hq).2.2] at haccepted
        cases haccepted
    | call call' => exact active_call_iff (hwriting call')
  · intro w hw hholds
    cases w with
    | request request =>
      intro q hq
      refine hsame.requestHolds (fun hthis => ?_) (hholds q hq)
      by_cases heq : q.call = call
      · rw [heq] at hthis
        have hcan := hgive request hthis q hq
        obtain ⟨q', hq', hworks⟩ := hw
        rw [hq] at hq'
        obtain rfl := Option.some.inj hq'
        refine .inr ⟨hcan, hworks.resolve_right fun h => ?_⟩
        rw [hcan.2.2] at h
        cases h.1
      · exact .inl (hawaits.mpr ⟨heq, hthis⟩)
    | call call' => exact hsame.holds_call (fun c hc => (hwriting call' c hc).mp) hholds

/-- An answer that is not an acceptance, or a failure. -/
theorem Ordered.answerRejected (hs : Ordered P s) {call : ℕ}
    {result : Except GcError McAssignmentResult} (hresult : result ≠ .ok .accepted)
    (hgive : ∀ request ∈ s.awaits call, ∀ q ∈ s.requests.lookup request, s.CanGiveUp P q) :
    Ordered P (s.answer P call result) := by
  have hcase := GcSystem.step_cases P.stalenessThreshold P.meetingId P.region s.gc
    (.call call (.assignMeeting result))
  show Ordered P { s with
    gc := s.gc.step P.stalenessThreshold P.meetingId P.region (.call call (.assignMeeting result))
    awaits := Function.update s.awaits call none }
  generalize s.gc.step P.stalenessThreshold P.meetingId P.region
    (.call call (.assignMeeting result)) = gc at hcase ⊢
  -- the call goes on without writing
  have hset : ∀ {c : Call} {pc : CallPc}, s.gc.calls.lookup call = some c → c.pc.written = none →
      pc.written = none → Ordered P { s with
        gc := s.gc.set s.gc.tables call { c with pc }
        awaits := Function.update s.awaits call none } := by
    intro c pc hcall hold hnew
    have hwriting := lookup_set_of_not_writing (g := s.gc) (t := s.gc.tables)
      (c := { c with pc })
      (fun c₀ hc₀ => by rw [← Option.some.inj (hcall.symm.trans hc₀)]; exact hold) hnew
    exact hs.answerFrame rfl hwriting (fun call' hne => AList.lookup_insert_ne hne) hgive
  cases hcase with
  | stutter => exact hs.answerFrame rfl (fun _ _ _ => Iff.rfl) (fun _ _ => rfl) hgive
  | called call e c hcall =>
    have hcase := callStep_cases P.meetingId P.region s.gc.tables c (.assignMeeting result)
    generalize callStep P.meetingId P.region s.gc.tables c (.assignMeeting result) = r at hcase ⊢
    cases hcase with
    | stays =>
      have hkept : ∀ call', (s.gc.set s.gc.tables call c).calls.lookup call' =
          s.gc.calls.lookup call' := GcSystem.lookup_set_self hcall
      exact hs.answerFrame rfl (fun call' _ _ => (hkept call') ▸ Iff.rfl)
        (fun call' _ => hkept call') hgive
    | failed e error hasked haccepted =>
      refine hset hcall ?_ rfl
      cases hwritten : c.pc.written with
      | none => rfl
      | some selectedMc =>
        obtain ⟨mhSelection, hpc⟩ := written_eq_some hwritten
        obtain ⟨now, heq⟩ := haccepted mhSelection selectedMc hpc
        cases heq
    | retries result loop selectedMc lastRejectionReason hpc hattempt =>
      exact hset hcall (by rw [hpc]; rfl) rfl
    | accepted => exact absurd rfl hresult

/-- A call hears that its controller has accepted, and goes on to write the row. -/
theorem Ordered.answerAccepted (hs : Ordered P s) {call request : ℕ} {q : McRequest}
    {response : Mc.AssignMeetingWithMhResponse} (hawaits : s.awaits call = some request)
    (hq : s.requests.lookup request = some q) (hpc : q.pc = .answered response)
    (hresponse : response.accepted = true) :
    Ordered P (s.answer P call (.ok .accepted)) := by
  obtain ⟨q', gcId, loop, selectedMc, hq', rfl, hcall, hid⟩ := hs.linked call request hawaits
  rw [hq] at hq'
  obtain rfl := Option.some.inj hq'
  have hstep : s.gc.step P.stalenessThreshold P.meetingId P.region
      (.call q.call (.assignMeeting (.ok .accepted))) =
        s.gc.set s.gc.tables q.call ⟨gcId, .atomicAssign loop.mhSelection selectedMc⟩ := by
    simp only [GcSystem.step, hcall]
    rfl
  show Ordered P { s with
    gc := s.gc.step P.stalenessThreshold P.meetingId P.region
      (.call q.call (.assignMeeting (.ok .accepted)))
    awaits := Function.update s.awaits q.call none }
  rw [hstep]
  have hactive : s.Active (.request request) := by
    refine ⟨q, hq, .inr ⟨?_, hawaits⟩⟩
    rw [hpc]
    exact hresponse
  refine ⟨?_, hs.exclusive.pass (j := .call q.call) hactive ?_ ?_ fun hholds => ?_⟩
  · intro call' request' hthis
    have hne : call' ≠ q.call := by
      rintro rfl
      have hnone : Function.update s.awaits q.call none q.call = some request' := hthis
      rw [Function.update_self] at hnone
      cases hnone
    obtain ⟨q', gcId', loop', selectedMc', hq', hcall', hpc', hid'⟩ :=
      hs.linked call' request' ((Function.update_of_ne hne ..).symm.trans hthis)
    exact ⟨q', gcId', loop', selectedMc', hq', hcall', (AList.lookup_insert_ne hne).trans hpc',
      hid'⟩
  · exact ⟨_, AList.lookup_insert .., Option.some_ne_none _⟩
  · intro w hw
    cases w with
    | request request' =>
      obtain ⟨q', hq', hworks⟩ := hw
      have hne : request' ≠ request := by
        rintro rfl
        have heq : q' = q := Option.some.inj (hq'.symm.trans hq)
        rw [heq] at hworks
        rcases hworks with hbusy | ⟨_, hthis⟩
        · rw [hpc] at hbusy
          cases hbusy
        · have hnone : Function.update s.awaits q.call none q.call = some request' := hthis
          rw [Function.update_self] at hnone
          cases hnone
      refine .inr ⟨⟨q', hq', hworks.imp_right fun h => ⟨h.1, ?_⟩⟩, fun heq => ?_⟩
      · have hthis : Function.update s.awaits q.call none q'.call = some request' := h.2
        by_cases heq : q'.call = q.call
        · rw [heq, Function.update_self] at hthis
          cases hthis
        · rwa [Function.update_of_ne heq] at hthis
      · exact hne (Worker.request.inj heq)
    | call call' =>
      by_cases heq : call' = q.call
      · exact .inl (by rw [heq])
      · obtain ⟨c, hc, hwritten⟩ := hw
        exact .inr ⟨⟨c, (AList.lookup_insert_ne heq).symm.trans hc, hwritten⟩, nofun⟩
  · intro c hc selectedMc' hwritten
    have hthis : c = ⟨gcId, .atomicAssign loop.mhSelection selectedMc⟩ :=
      Option.some.inj (hc.symm.trans (AList.lookup_insert ..))
    rw [hthis] at hwritten
    obtain rfl := Option.some.inj hwritten
    have howned := hholds q hq
    unfold RequestHolds at howned
    rw [hpc] at howned
    rw [← hid]
    exact howned.1

/-! ## Runs -/

theorem Ordered.serverChanges (hs : Ordered P s) {controllerId : String} {m : McServer}
    (hm : P.meetingId ∈ m.controller.meetings ↔ s.Live P controllerId) :
    Ordered P { s with servers := s.servers.insert controllerId m } := by
  have hsame : SameStores P s { s with servers := s.servers.insert controllerId m } :=
    ⟨rfl, live_insert_iff rfl hm, rfl, rfl⟩
  refine ⟨hs.linked, hs.exclusive.frame (fun w => ?_) (fun w _ hholds => ?_) hsame.placed⟩
  · cases w <;> exact Iff.rfl
  · cases w with
    | request request => exact fun q hq => hsame.requestHolds .inl (hholds q hq)
    | call call => exact hsame.holds_call (fun _ _ h => h) hholds

theorem Ordered.step (hs : Ordered P s) {e : StoresEvent} (hadmits : s.Admits P e)
    (hcond : s.KeepsPlacement P e) : Ordered P (s.step P e) := by
  have hcase := s.storesStep_cases P e
  generalize s.step P e = s' at hcase ⊢
  cases hcase with
  | stutter => exact hs
  | gc e => exact hs.gcEvent hadmits hcond
  | sent call request gcId loop selectedMc hcall hrequest hawaits =>
    exact hs.sent hcall hrequest hawaits _
  | refused request now q response hq hpc hresponse => exact hs.refused hq hpc hresponse
  | started request now q m hq hpc hserver hfirst => exact hs.started hq hpc hserver hfirst hcond
  | ran request q waiting hq hcommand => exact hs.ran hq hcommand hcond
  | commandFailed request executed error q waiting hq hcommand =>
    exact hs.commandFailed hq hcommand hcond
  | created request now storedAt q m hq hpc hserver hcreates =>
    exact hs.created hq hpc hserver hcreates hcond _
  | creationRefused request now storedAt q m hq hpc hserver hrefuses =>
    exact hs.creationRefused hq hpc hserver hrefuses hcond
  | counted request q m hq hpc hserver => exact hs.counted hq hpc hserver
  | cancelled request q hq hpc => exact hs.cancelled hq hpc hcond
  | replied call request q response hawaits hq hpc =>
    unfold assignResult
    split_ifs with hresponse
    · exact hs.answerAccepted hawaits hq hpc hresponse
    · refine hs.answerRejected nofun fun request' hawaits' q' hq' => ?_
      obtain rfl := Option.some.inj (hawaits.symm.trans hawaits')
      obtain rfl := Option.some.inj (hq.symm.trans hq')
      unfold CanGiveUp
      rw [hpc]
      exact ⟨nofun, nofun, Bool.eq_false_iff.mpr hresponse⟩
  | lost call error => exact hs.answerRejected nofun hcond
  | serverChanges controllerId m => exact hs.serverChanges hadmits

/-- When all calls have returned, the meeting is placed. -/
theorem Ordered.placed_of_allDone (hs : Ordered P s) (hdone : s.AllDone) : s.Placed P := by
  by_cases hfree : ∀ w, ¬ s.Active w
  · exact hs.exclusive.whileFree hfree
  · push Not at hfree
    obtain ⟨w, hw⟩ := hfree
    have hholds := hs.exclusive.whileActive w hw
    cases w with
    | call call =>
      obtain ⟨c, hc, hwritten⟩ := hw
      have hcdone : c.pc.isDone = true := hdone _ (AList.mem_lookup_iff.mp hc)
      unfold CallPc.isDone at hcdone
      split at hcdone
      · rename_i hpc
        rw [hpc] at hwritten
        exact absurd rfl hwritten
      · cases hcdone
    | request request =>
      obtain ⟨q, hq, hworks⟩ := hw
      -- nobody waits for an answer any more
      have hnobody : s.awaits q.call ≠ some request := by
        intro hawaits
        obtain ⟨_, _, _, _, _, _, hpc, _⟩ := hs.linked _ _ hawaits
        cases hdone _ (AList.mem_lookup_iff.mp hpc)
      have hbusy : q.pc.busy = true := hworks.resolve_right fun h => hnobody h.2
      exact (hholds q hq).placed hbusy ((hholds q hq).canGiveUp hnobody)

end MeetingStores

open MeetingStores

/-- In every run that keeps the placement and starts from a meeting that is
    placed, the meeting is placed when all calls have returned. -/
theorem placement_along {P : StoresSetting} {t₀ : Tables}
    {servers : AList fun _ : String => McServer} {keys : Mc.Redis.MeetingKeys}
    {accepted : String → Option (List Mc.MhEndpointInfo × ℕ)}
    (hinit : (storesMachine P t₀ servers keys accepted).init.Placed P)
    {h : List (StoresEvent × Unit)} {s : MeetingStores}
    (hr : (storesMachine P t₀ servers keys accepted).Run h s)
    (hcond : ∀ e a h', (e, a) :: h' <:+ h →
      ((storesMachine P t₀ servers keys accepted).stateAfter h').KeepsPlacement P e)
    (hdone : s.AllDone) : s.Placed P := by
  refine Ordered.placed_of_allDone (Machine.Run.invariant_of_steps
    (C := fun s e => s.KeepsPlacement P e) (I := fun _ s => Ordered P s) ?_ ?_ hr hcond) hdone
  · refine ⟨fun call request hawaits => ?_, .of_free (fun w hw => ?_) hinit⟩
    · cases hawaits
    · cases w with
      | request request =>
        obtain ⟨q, hq, _⟩ := hw
        cases hq
      | call call =>
        obtain ⟨c, hc, _⟩ := hw
        cases hc
  · intro h s e _ hadmits hstep hs
    exact hs.step hadmits hstep

/-! ## Concrete runs -/

/-- The setting of the runs; the JSON text of an assignment is its first handler. -/
def sampleSetting : StoresSetting where
  meetingId := "meeting-1"
  region := "us"
  server := .exact
  encode handlers _ := (handlers.map (·.mhId)).headD ""
  stalenessThreshold := 60

/-- A controller without meetings. -/
def idleServer : McServer := ⟨.new 100 1000, .new, true⟩

/-- Two controllers, and nothing stored yet. -/
abbrev sampleStores : Machine MeetingStores StoresEvent Unit :=
  storesMachine sampleSetting healthyTables
    ((AList.singleton "mc-1" idleServer).insert "mc-2" idleServer) .empty fun _ => none

/-- A call up to the answer of its controller: it finds no assignment, selects the
    handler `mhId`, and has the candidate at the index `choice` create the meeting. -/
def acceptedEvents (call : ℕ) (gcId : String) (now : ℤ) (mhId : String) (choice : ℕ) :
    List StoresEvent :=
  [.gc (.start call gcId), .gc (.call call (.getHealthyAssignment now)),
    .gc (.call call (.selectMhs [⟨mhId, "https://mh:4433", "http://mh:50053"⟩] 0 0)),
    .gc (.call call (.getCandidateMcs now (healthyTables.candidateRows now "us") choice)),
    .send call call, .receive call 5, .redis call, .redis call, .create call 6, .count call,
    .reply call]

/-- The first call returns before the second starts, which finds the assignment. -/
def orderlyStores : List StoresEvent :=
  acceptedEvents 1 "gc-1" 2 "mh-1" 1 ++
    [.gc (.call 1 (.atomicAssign 3)), .gc (.start 2 "gc-2"),
      .gc (.call 2 (.getHealthyAssignment 4)),
      .gc (.call 2 (.selectMhs [⟨"mh-2", "https://mh:4433", "http://mh:50053"⟩] 0 0))]

/-- Two controllers accept before either call writes the row. -/
def racingStores : List StoresEvent :=
  acceptedEvents 1 "gc-1" 2 "mh-1" 1 ++ acceptedEvents 2 "gc-2" 2 "mh-2" 0 ++
    [.gc (.call 1 (.atomicAssign 3)), .gc (.call 2 (.atomicAssign 3)),
      .gc (.call 2 (.getCurrentAssignment 4))]

/-- No row, and no controller with the meeting. -/
theorem placed_sampleStores : sampleStores.init.Placed sampleSetting :=
  placed_of_notLive (nobodyLive_iff.mp (by decide)) (by decide)

theorem run_orderlyStores : sampleStores.Run (sampleStores.playAll orderlyStores).2
    (sampleStores.playAll orderlyStores).1 :=
  Machine.run_of_admits ⟨⟨trivial, nofun⟩, ⟨trivial, nofun⟩, ⟨trivial, nofun⟩,
    ⟨⟨_, List.Perm.refl _, by decide⟩, nofun⟩, trivial, trivial, trivial, trivial, trivial, trivial,
    trivial, ⟨trivial, nofun⟩, ⟨trivial, nofun⟩, ⟨trivial, nofun⟩, ⟨trivial, nofun⟩, trivial⟩

theorem placement_along_orderly :
    sampleStores.Run (sampleStores.playAll orderlyStores).2
        (sampleStores.playAll orderlyStores).1 ∧
      (sampleStores.playAll orderlyStores).1.Placed sampleSetting :=
  ⟨run_orderlyStores, placement_along placed_sampleStores run_orderlyStores
    (Machine.StepsMeet.forall_suffix (by decide)) (by decide)⟩

/-- When both calls have returned the controller of the first, the other controller
    still has the meeting, and Redis has the handlers that were sent to it. -/
theorem loser_keeps_meeting :
    sampleStores.Run (sampleStores.playAll racingStores).2
        (sampleStores.playAll racingStores).1 ∧
      (sampleStores.playAll racingStores).1.AllDone ∧
      ¬ (sampleStores.playAll racingStores).1.Placed sampleSetting ∧
      (sampleStores.playAll racingStores).1.keys.mh = some "mh-2" := by
  refine ⟨Machine.run_of_admits ⟨⟨trivial, nofun⟩, ⟨trivial, nofun⟩, ⟨trivial, nofun⟩,
    ⟨⟨_, List.Perm.refl _, by decide⟩, nofun⟩, trivial, trivial, trivial, trivial, trivial, trivial,
    trivial, ⟨trivial, nofun⟩, ⟨trivial, nofun⟩, ⟨trivial, nofun⟩,
    ⟨⟨_, List.Perm.refl _, by decide⟩, nofun⟩, trivial, trivial, trivial, trivial, trivial, trivial,
    trivial, ⟨trivial, nofun⟩, ⟨trivial, nofun⟩, ⟨trivial, nofun⟩, trivial⟩, by decide,
    fun hplaced => ?_, by decide⟩
  obtain ⟨r, hr, hid⟩ := hplaced.1 "mc-2" (by decide)
  have hrow : ((sampleStores.playAll racingStores).1.row sampleSetting).map
      (·.meetingControllerId) = some "mc-1" := by decide
  rw [hr, Option.map_some, hid] at hrow
  exact absurd (Option.some.inj hrow) (by decide)

end DarkTower.Gc
