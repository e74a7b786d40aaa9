import DarkTower.Gc.AssignMeeting

/-!
# The postcondition of `atomic_assign`

`atomic_assign` (meeting_assignments.rs:204) is its upsert and, where that returns
no row, the query of the current assignment. Here both are executed at one
instant (`atomicAssign`).

The upsert replaces a row by the age of its controller's heartbeat and never
clears `ended_at`, the queries read active rows only, and the two compare the
heartbeat with the threshold strictly, each from its own side.

* `assigned_right_iff`: the assignment that is returned is found at the same
  instant iff the row there is active and its controller's heartbeat is not
  exactly as old as the threshold.
* `ended_meeting_not_assigned`: a meeting that was ended is not assigned again.
-/

namespace DarkTower.Gc

open Tables

/-- The candidate that `get_candidate_mcs` makes of a row. -/
def MeetingController.candidate (c : MeetingController) : McCandidate :=
  ⟨c.controllerId, c.grpcEndpoint, c.webtransportEndpoint⟩

/-- The assignment that `atomic_assign` returns where its upsert returned a row. -/
def McCandidate.assignment (selectedMc : McCandidate) : McAssignment :=
  ⟨selectedMc.controllerId, selectedMc.grpcEndpoint, selectedMc.webtransportEndpoint⟩

namespace Tables

variable (t : Tables)

/-- `atomic_assign` (meeting_assignments.rs:204). -/
def atomicAssign (now : ℤ) (meetingId region : String) (selectedMc : McCandidate)
    (gcId : String) : Tables × Except GcError McAssignment :=
  match t.assignRow now meetingId region selectedMc.controllerId gcId with
  | (t', .error e) => (t', .error e)
  | (t', .ok (some _)) => (t', .ok selectedMc.assignment)
  | (t', .ok none) =>
    match t'.getCurrentAssignment meetingId region with
    | some current => (t', .ok current)
    | none => (t', .error (.serviceUnavailable
        "Failed to assign meeting controller - please retry"))

/-- `SET ended_at = NOW()` of `end_assignment` on the rows of its condition. -/
def finishRow (now : ℤ) (meetingId : String) (region : Option String) (r : AssignmentRow) :
    AssignmentRow :=
  if r.meetingId = meetingId ∧ (∀ x ∈ region, r.region = x) ∧ r.endedAt = none then
    { r with endedAt := some now }
  else r

theorem finishRow_key (now : ℤ) (meetingId : String) (region : Option String)
    (r : AssignmentRow) :
    ((finishRow now meetingId region r).meetingId, (finishRow now meetingId region r).region,
      (finishRow now meetingId region r).meetingControllerId) =
      (r.meetingId, r.region, r.meetingControllerId) := by
  unfold finishRow
  split_ifs <;> rfl

/-- `end_assignment` (meeting_assignments.rs:345), with the number of rows it updated. -/
def endAssignment (now : ℤ) (meetingId : String) (region : Option String) : Tables × ℕ :=
  ({ meetingAssignments := t.meetingAssignments.map (finishRow now meetingId region)
     meetingControllers := t.meetingControllers
     assignmentKey := by
       have hkeys : (fun r : AssignmentRow => (r.meetingId, r.region)) ∘
           finishRow now meetingId region = fun r => (r.meetingId, r.region) := by
         funext r
         have hkey := finishRow_key now meetingId region r
         simp only [Prod.mk.injEq] at hkey
         exact Prod.ext hkey.1 hkey.2.1
       rw [List.map_map, hkeys]
       exact t.assignmentKey
     controllerKey := t.controllerKey
     controllerReference := by
       intro r hr
       obtain ⟨r', hr', rfl⟩ := List.mem_map.mp hr
       obtain ⟨c, hc, hid⟩ := t.controllerReference r' hr'
       have hkey := finishRow_key now meetingId region r'
       simp only [Prod.mk.injEq] at hkey
       exact ⟨c, hc, hid.trans hkey.2.2.symm⟩ },
    t.meetingAssignments.countP fun r =>
      r.meetingId = meetingId ∧ (∀ x ∈ region, r.region = x) ∧ r.endedAt = none)

/-- An active row on a healthy and fresh controller. -/
def HasFreshAssignment (now : ℤ) (meetingId region : String) : Prop :=
  ∃ r ∈ t.meetingAssignments, r.meetingId = meetingId ∧ r.region = region ∧ r.endedAt = none ∧
    ∃ mc ∈ t.meetingControllers, mc.controllerId = r.meetingControllerId ∧ Fresh now mc

/-- `atomic_assign` succeeds, what it returns is found at the same instant, and it is
    the candidate unless there was a fresh assignment. -/
def AssignedRight (now : ℤ) (meetingId region : String) (c : MeetingController)
    (gcId : String) : Prop :=
  ∃ a, (t.atomicAssign now meetingId region c.candidate gcId).2 = .ok a ∧
    (t.atomicAssign now meetingId region c.candidate gcId).1.getHealthyAssignment now meetingId
      region = some a ∧
    (a = c.candidate.assignment ∨ t.HasFreshAssignment now meetingId region)

/-- Healthy, with a heartbeat exactly as old as the threshold: neither the upsert nor
    the queries count it to their side. -/
def AtThreshold (now : ℤ) (c : MeetingController) : Prop :=
  c.healthStatus = .healthy ∧
    c.lastHeartbeatAt = secondsBefore now defaultHeartbeatStalenessSeconds

instance (now : ℤ) (c : MeetingController) : Decidable (AtThreshold now c) :=
  inferInstanceAs (Decidable (_ ∧ _))

/-- The row that the upsert meets, if there is one, is active and its controller is not
    at the threshold. -/
def AssignableRow (now : ℤ) (meetingId region : String) : Prop :=
  ∀ r ∈ t.meetingAssignments, r.meetingId = meetingId → r.region = region →
    r.endedAt = none ∧
      ∀ mc ∈ t.meetingControllers, mc.controllerId = r.meetingControllerId → ¬ AtThreshold now mc

instance (now : ℤ) (meetingId region : String) : Decidable (t.AssignableRow now meetingId region) :=
  inferInstanceAs (Decidable (∀ r ∈ t.meetingAssignments, _ → _ → _ ∧ ∀ mc ∈ _, _ → _))

end Tables

/-! ## What the upsert and the queries find -/

namespace Tables

variable {t : Tables} {now : ℤ} {meetingId region : String} {r : AssignmentRow}
  {c mc : MeetingController}

theorem controllerOf_of_mem (hmc : mc ∈ t.meetingControllers)
    (hid : mc.controllerId = r.meetingControllerId) : t.controllerOf r = some mc := by
  cases hfind : t.controllerOf r with
  | none => exact absurd hid (by simpa using List.find?_eq_none.mp hfind mc hmc)
  | some mc' =>
    have hid' := controllerOf_controllerId hfind
    rw [unique_of_controllerId (List.mem_of_find?_eq_some hfind) hmc (hid'.trans hid.symm)]

theorem getCurrentAssignment_row (hr : t.assignment meetingId region = some r)
    (hmc : mc ∈ t.meetingControllers) (hid : mc.controllerId = r.meetingControllerId) :
    t.getCurrentAssignment meetingId region =
      if r.endedAt = none then some (assignmentTo mc) else none := by
  show (t.assignment meetingId region).bind _ = _
  rw [hr, Option.bind_some, controllerOf_of_mem hmc hid]
  rfl

theorem getHealthyAssignment_row (hr : t.assignment meetingId region = some r)
    (hmc : mc ∈ t.meetingControllers) (hid : mc.controllerId = r.meetingControllerId) :
    t.getHealthyAssignment now meetingId region =
      if r.endedAt = none ∧ Fresh now mc then some (assignmentTo mc) else none := by
  show (t.assignment meetingId region).bind _ = _
  rw [hr, Option.bind_some, controllerOf_of_mem hmc hid]
  rfl

theorem replaceable_iff (hmc : mc ∈ t.meetingControllers)
    (hid : mc.controllerId = r.meetingControllerId) :
    t.Replaceable now r ↔ ¬ Fresh now mc ∧ ¬ AtThreshold now mc := by
  constructor
  · rintro ⟨mc', hmc', hid', hsick⟩
    obtain rfl := unique_of_controllerId hmc' hmc (hid'.trans hid.symm)
    refine ⟨fun hfresh => ?_, fun hthreshold => ?_⟩
    · rcases hsick with hsick | hstale
      · exact hsick hfresh.1
      · have hbeat := hfresh.2
        omega
    · rcases hsick with hsick | hstale
      · exact hsick hthreshold.1
      · have hbeat := hthreshold.2
        omega
  · rintro ⟨hfresh, hthreshold⟩
    refine ⟨mc, hmc, hid, ?_⟩
    by_cases hhealth : mc.healthStatus = .healthy
    · have hbefore : ¬ secondsBefore now defaultHeartbeatStalenessSeconds < mc.lastHeartbeatAt :=
        fun h => hfresh ⟨hhealth, h⟩
      have hexact : mc.lastHeartbeatAt ≠ secondsBefore now defaultHeartbeatStalenessSeconds :=
        fun h => hthreshold ⟨hhealth, h⟩
      exact .inr (by omega)
    · exact .inl hhealth

theorem hasFreshAssignment_of_row (hr : t.assignment meetingId region = some r)
    (hactive : r.endedAt = none) (hmc : mc ∈ t.meetingControllers)
    (hid : mc.controllerId = r.meetingControllerId) (hfresh : Fresh now mc) :
    t.HasFreshAssignment now meetingId region := by
  obtain ⟨hmem, hmeeting, hregion⟩ := assignment_eq_some.mp hr
  exact ⟨r, hmem, hmeeting, hregion, hactive, mc, hmc, hid, hfresh⟩

theorem assignableRow_of_none (hnone : t.assignment meetingId region = none) :
    t.AssignableRow now meetingId region := by
  intro r hr hmeeting hregion
  exact absurd ⟨hmeeting, hregion⟩ (assignment_eq_none.mp hnone r hr)

theorem assignableRow_iff_of_some (hr : t.assignment meetingId region = some r)
    (hmc : mc ∈ t.meetingControllers) (hid : mc.controllerId = r.meetingControllerId) :
    t.AssignableRow now meetingId region ↔ r.endedAt = none ∧ ¬ AtThreshold now mc := by
  constructor
  · intro h
    obtain ⟨hmem, hmeeting, hregion⟩ := assignment_eq_some.mp hr
    obtain ⟨hactive, hnot⟩ := h r hmem hmeeting hregion
    exact ⟨hactive, hnot mc hmc hid⟩
  · rintro ⟨hactive, hnot⟩ r' hmem' hmeeting' hregion'
    have hr' := assignment_eq_some.mpr ⟨hmem', hmeeting', hregion'⟩
    obtain rfl := Option.some.inj (hr.symm.trans hr')
    refine ⟨hactive, fun mc' hmc' hid' => ?_⟩
    obtain rfl := unique_of_controllerId hmc' hmc (hid'.trans hid.symm)
    exact hnot

/-- The upsert inserts or replaces the row: the candidate is returned, and found iff the
    row is active. -/
theorem candidate_found {t' : Tables} {r : AssignmentRow}
    (hr : t'.assignment meetingId region = some r) (hid : c.controllerId = r.meetingControllerId)
    (hc : c ∈ t'.meetingControllers) (hfresh : Fresh now c) :
    t'.getHealthyAssignment now meetingId region = some c.candidate.assignment ↔
      r.endedAt = none := by
  rw [getHealthyAssignment_row hr hc hid]
  constructor
  · intro h
    by_contra hended
    rw [if_neg fun hactive => hended hactive.1] at h
    cases h
  · intro hactive
    exact if_pos ⟨hactive, hfresh⟩

theorem assignedRight_iff (t : Tables) (now : ℤ) (meetingId region gcId : String)
    (c : MeetingController) (hc : c ∈ t.meetingControllers) (hfresh : Fresh now c) :
    t.AssignedRight now meetingId region c gcId ↔ t.AssignableRow now meetingId region := by
  have hcase := assignRow_cases t now meetingId region c.controllerId gcId
  have hcontrollers := assignRow_controllers t now meetingId region c.controllerId gcId
  unfold AssignedRight atomicAssign
  change _ ↔ t.AssignableRow now meetingId region
  rw [show c.candidate.controllerId = c.controllerId from rfl]
  generalize t.assignRow now meetingId region c.controllerId gcId = result at hcase hcontrollers ⊢
  cases hcase with
  | inserted t' hnone hrow =>
    have hfound := (candidate_found hrow rfl (hcontrollers ▸ hc) hfresh).mpr rfl
    exact iff_of_true ⟨_, rfl, hfound, .inl rfl⟩ (assignableRow_of_none hnone)
  | replaced t' r hold hreplaceable hrow =>
    obtain ⟨mc, hmc, hid, _⟩ := controllerOf_eq_some (assignment_eq_some.mp hold).1
    have hnot := ((replaceable_iff hmc hid).mp hreplaceable).2
    have hfound := candidate_found hrow rfl (hcontrollers ▸ hc) hfresh
    rw [assignableRow_iff_of_some hold hmc hid]
    constructor
    · rintro ⟨a, hok, hsome, _⟩
      obtain rfl := Except.ok.inj hok
      exact ⟨hfound.mp hsome, hnot⟩
    · rintro ⟨hactive, _⟩
      exact ⟨_, rfl, hfound.mpr hactive, .inl rfl⟩
  | kept r hold hkept =>
    obtain ⟨mc, hmc, hid, _⟩ := controllerOf_eq_some (assignment_eq_some.mp hold).1
    rw [replaceable_iff hmc hid] at hkept
    rw [assignableRow_iff_of_some hold hmc hid]
    simp only [getCurrentAssignment_row hold hmc hid]
    constructor
    · rintro ⟨a, hok, hsome, _⟩
      by_cases hactive : r.endedAt = none
      · rw [if_pos hactive] at hok hsome
        rw [getHealthyAssignment_row hold hmc hid] at hsome
        split_ifs at hsome with hcond
        refine ⟨hactive, fun hthreshold => ?_⟩
        have hbeat := hcond.2.2
        have hexact := hthreshold.2
        omega
      · rw [if_neg hactive] at hok
        cases hok
    · rintro ⟨hactive, hnot⟩
      have hmcFresh : Fresh now mc := by
        by_contra hsick
        exact hkept ⟨hsick, hnot⟩
      rw [if_pos hactive]
      refine ⟨_, rfl, ?_, .inr (hasFreshAssignment_of_row hold hactive hmc hid hmcFresh)⟩
      rw [getHealthyAssignment_row hold hmc hid]
      exact if_pos ⟨hactive, hmcFresh⟩
  | refused hmissing => exact absurd ⟨c, hc, rfl⟩ hmissing

/-- After `end_assignment` the row stays ended: no candidate is assigned to the meeting. -/
theorem ended_meeting_not_assigned {t : Tables} {ended now : ℤ} {meetingId region gcId : String}
    {region' : Option String} {r : AssignmentRow} {c : MeetingController}
    (hr : t.assignment meetingId region = some r) (hregion' : ∀ x ∈ region', region = x)
    (hc : c ∈ t.meetingControllers) (hfresh : Fresh now c) :
    ¬ (t.endAssignment ended meetingId region').1.AssignedRight now meetingId region c gcId := by
  obtain ⟨hmem, hmeeting, hregion⟩ := assignment_eq_some.mp hr
  have hmem' : finishRow ended meetingId region' r ∈
      (t.endAssignment ended meetingId region').1.meetingAssignments := List.mem_map_of_mem hmem
  have hended : (finishRow ended meetingId region' r).endedAt ≠ none := by
    unfold finishRow
    split_ifs with hcond
    · nofun
    · exact fun hactive => hcond ⟨hmeeting, fun x hx => hregion.trans (hregion' x hx), hactive⟩
  have hkey := finishRow_key ended meetingId region' r
  simp only [Prod.mk.injEq] at hkey
  rw [assignedRight_iff (t.endAssignment ended meetingId region').1 now meetingId region gcId c hc
    hfresh]
  exact fun h => hended (h _ hmem' (hkey.1.trans hmeeting) (hkey.2.1.trans hregion)).1

/-- `atomic_assign` meets its postcondition iff the row that it finds, if there is one,
    is active and its controller's heartbeat is not exactly at the threshold; after
    `end_assignment` it never does. -/
theorem assigned_right_iff (t : Tables) (now : ℤ) (meetingId region gcId : String)
    (c : MeetingController) (hc : c ∈ t.meetingControllers) (hfresh : Fresh now c) :
    (t.AssignedRight now meetingId region c gcId ↔ t.AssignableRow now meetingId region) ∧
      ∀ r ended region', t.assignment meetingId region = some r → (∀ x ∈ region', region = x) →
        ¬ (t.endAssignment ended meetingId region').1.AssignedRight now meetingId region c gcId :=
  ⟨assignedRight_iff t now meetingId region gcId c hc hfresh, fun _ _ _ hr hregion' =>
    ended_meeting_not_assigned hr hregion' hc hfresh⟩

/-! ## A meeting before and after its end -/

/-- A healthy controller. -/
def oneController : Tables :=
  ((Tables.empty.registerMc 0 sampleRegistration).updateHeartbeat 1 "mc-1" 0 0 .healthy).1

/-- Its row. -/
def sampleController : MeetingController :=
  { sampleRegistration.newRow 0 with
    healthStatus := .healthy
    lastHeartbeatAt := 1
    updatedAt := 1 }

/-- A meeting was assigned to it and ended. -/
def endedTables : Tables :=
  ((oneController.atomicAssign 2 "meeting-1" "us" sampleController.candidate "gc-1").1.endAssignment
    3 "meeting-1" none).1

theorem assigned_right_twice :
    (oneController.atomicAssign 2 "meeting-1" "us" sampleController.candidate
        "gc-1").1.AssignedRight 3 "meeting-1" "us" sampleController "gc-2" ∧
      oneController.AssignedRight 2 "meeting-1" "us" sampleController "gc-1" := by
  refine ⟨?_, ?_⟩
  · exact (assigned_right_iff (oneController.atomicAssign 2 "meeting-1" "us"
      sampleController.candidate "gc-1").1 3 "meeting-1" "us" "gc-2" sampleController (by decide)
      (by decide)).1.mpr (by decide)
  · exact (assigned_right_iff oneController 2 "meeting-1" "us" "gc-1" sampleController (by decide)
      (by decide)).1.mpr (by decide)

/-- The ended meeting is not assigned to the healthy controller: the upsert returns no
    row and the query finds none. -/
theorem ended_meeting_refused :
    sampleController ∈ endedTables.meetingControllers ∧ Fresh 4 sampleController ∧
      (endedTables.atomicAssign 4 "meeting-1" "us" sampleController.candidate "gc-1").2 =
        .error (.serviceUnavailable "Failed to assign meeting controller - please retry") ∧
      ¬ endedTables.AssignedRight 4 "meeting-1" "us" sampleController "gc-1" := by
  have herror : (endedTables.atomicAssign 4 "meeting-1" "us" sampleController.candidate
      "gc-1").2 = .error (.serviceUnavailable
        "Failed to assign meeting controller - please retry") := by decide
  refine ⟨by decide, by decide, herror, ?_⟩
  rintro ⟨a, hok, -⟩
  rw [herror] at hok
  cases hok

end Tables

end DarkTower.Gc
