import DarkTower.Gc.Assignments

/-!
# The statements on controllers and assignments

The statements of `gc-service/src/repositories/meeting_controllers.rs` and of
the assignment flow in `meeting_assignments.rs`, each at one instant `now`, on
the two tables with all the columns they read and write. The tables of the
cleanup are a view of these (`Tables.view`).

* A statement that violates a constraint is an error and changes nothing.
* `get_candidate_mcs` is its condition (`candidateRows`); which five of the rows
  `ORDER BY` with `LIMIT` lets through depends on load ratios and is left open.
-/

namespace DarkTower.Gc

/-- `MeetingController` (meeting_controllers.rs:71), a row of `meeting_controllers`. -/
structure MeetingController where
  controllerId : String
  region : String
  endpoint : String
  grpcEndpoint : String
  webtransportEndpoint : Option String
  maxMeetings : ℤ
  currentMeetings : ℤ
  maxParticipants : ℤ
  currentParticipants : ℤ
  healthStatus : HealthStatus
  lastHeartbeatAt : ℤ
  createdAt : ℤ
  updatedAt : ℤ
deriving DecidableEq

/-- `McCandidate` (meeting_assignments.rs:53), without the load ratio that the
    random draw reads. -/
structure McCandidate where
  controllerId : String
  grpcEndpoint : String
  webtransportEndpoint : Option String
deriving DecidableEq

/-- `McAssignment` (meeting_assignments.rs:66). -/
structure McAssignment where
  mcId : String
  grpcEndpoint : String
  webtransportEndpoint : Option String
deriving DecidableEq

/-- `DEFAULT_HEARTBEAT_STALENESS_SECONDS` (meeting_assignments.rs:22). -/
def defaultHeartbeatStalenessSeconds : ℤ := 30

/-- `NOW() - ($1 || ' seconds')::INTERVAL`. -/
def secondsBefore (now seconds : ℤ) : ℤ := now - seconds * 1000000

theorem secondsBefore_mono {now now' : ℤ} (h : now ≤ now') (seconds : ℤ) :
    secondsBefore now seconds ≤ secondsBefore now' seconds := by
  unfold secondsBefore
  omega

/-- What the cleanup reads of a controller. -/
def MeetingController.row (c : MeetingController) : ControllerRow :=
  ⟨c.controllerId, c.healthStatus⟩

theorem nodup_noKeys : ([] : List (String × String)).Nodup := List.nodup_nil

/-- The two tables, with their primary keys and the foreign key. -/
structure Tables where
  meetingAssignments : List AssignmentRow
  meetingControllers : List MeetingController
  assignmentKey : (meetingAssignments.map fun r => (r.meetingId, r.region)).Nodup
  controllerKey : (meetingControllers.map (·.controllerId)).Nodup
  controllerReference : ∀ r ∈ meetingAssignments, ∃ c ∈ meetingControllers,
    c.controllerId = r.meetingControllerId

namespace Tables

/-- No rows. -/
def empty : Tables := ⟨[], [], nodup_noKeys, List.nodup_nil, fun _ h => absurd h List.not_mem_nil⟩

variable (t : Tables)

/-- The tables as the cleanup reads them. -/
def view : Database where
  meetingAssignments := t.meetingAssignments
  meetingControllers := t.meetingControllers.map (·.row)
  assignmentKey := t.assignmentKey
  controllerKey := by
    rw [List.map_map]
    exact t.controllerKey
  controllerReference r hr := by
    obtain ⟨c, hc, hid⟩ := t.controllerReference r hr
    exact ⟨c.row, List.mem_map_of_mem hc, hid⟩

/-- The same controllers with other assignments. -/
def withAssignments (db : Database) (h : db.meetingControllers = t.view.meetingControllers) :
    Tables where
  meetingAssignments := db.meetingAssignments
  meetingControllers := t.meetingControllers
  assignmentKey := db.assignmentKey
  controllerKey := t.controllerKey
  controllerReference r hr := by
    obtain ⟨row, hrow, hid⟩ := db.controllerReference r hr
    rw [h] at hrow
    obtain ⟨c, hc, rfl⟩ := List.mem_map.mp hrow
    exact ⟨c, hc, hid⟩

/-- `end_stale_assignments` with the rows that its inner query has picked. -/
def endStaleAssignments (now : ℤ) (picked : List AssignmentRow) : Tables :=
  t.withAssignments (t.view.endStaleAssignments now picked) rfl

/-- `cleanup_old_assignments` with the rows that its inner query has picked. -/
def cleanupOldAssignments (picked : List AssignmentRow) : Tables :=
  t.withAssignments (t.view.cleanupOldAssignments picked) rfl

/-! ## `meeting_controllers.rs` -/

/-- An update of controllers that keeps their ids. -/
def updateControllers (f : MeetingController → MeetingController)
    (hf : ∀ c, (f c).controllerId = c.controllerId) : Tables where
  meetingAssignments := t.meetingAssignments
  meetingControllers := t.meetingControllers.map f
  assignmentKey := t.assignmentKey
  controllerKey := by
    have hids : (fun c : MeetingController => c.controllerId) ∘ f = fun c => c.controllerId := by
      funext c
      exact hf c
    rw [List.map_map, hids]
    exact t.controllerKey
  controllerReference r hr := by
    obtain ⟨c, hc, hid⟩ := t.controllerReference r hr
    exact ⟨f c, List.mem_map_of_mem hc, (hf c).trans hid⟩

/-- A new controller. -/
def insertController (c : MeetingController)
    (h : ∀ c' ∈ t.meetingControllers, c'.controllerId ≠ c.controllerId) : Tables where
  meetingAssignments := t.meetingAssignments
  meetingControllers := c :: t.meetingControllers
  assignmentKey := t.assignmentKey
  controllerKey := by
    rw [List.map_cons, List.nodup_cons]
    refine ⟨fun hmem => ?_, t.controllerKey⟩
    obtain ⟨c', hc', hid⟩ := List.mem_map.mp hmem
    exact h c' hc' hid
  controllerReference r hr := by
    obtain ⟨c', hc', hid⟩ := t.controllerReference r hr
    exact ⟨c', List.mem_cons_of_mem _ hc', hid⟩

/-- The arguments of `register_mc`. -/
structure Registration where
  id : String
  region : String
  grpcEndpoint : String
  webtransportEndpoint : Option String
  maxMeetings : ℤ
  maxParticipants : ℤ
deriving DecidableEq

/-- The row that `register_mc` inserts. -/
def Registration.newRow (now : ℤ) (r : Registration) : MeetingController where
  controllerId := r.id
  region := r.region
  endpoint := r.grpcEndpoint
  grpcEndpoint := r.grpcEndpoint
  webtransportEndpoint := r.webtransportEndpoint
  maxMeetings := r.maxMeetings
  currentMeetings := 0
  maxParticipants := r.maxParticipants
  currentParticipants := 0
  healthStatus := .pending
  lastHeartbeatAt := now
  createdAt := now
  updatedAt := now

/-- The `DO UPDATE` of `register_mc`, on the row with its id. -/
def Registration.updateRow (now : ℤ) (r : Registration) (c : MeetingController) :
    MeetingController :=
  if c.controllerId = r.id then
    { c with
      region := r.region
      endpoint := r.grpcEndpoint
      grpcEndpoint := r.grpcEndpoint
      webtransportEndpoint := r.webtransportEndpoint
      maxMeetings := r.maxMeetings
      maxParticipants := r.maxParticipants
      healthStatus := .pending
      lastHeartbeatAt := now
      updatedAt := now }
  else c

theorem Registration.updateRow_controllerId (now : ℤ) (r : Registration) (c : MeetingController) :
    (r.updateRow now c).controllerId = c.controllerId := by
  unfold updateRow
  split_ifs <;> rfl

/-- `register_mc` (meeting_controllers.rs:110). -/
def registerMc (now : ℤ) (r : Registration) : Tables :=
  if h : ∀ c ∈ t.meetingControllers, c.controllerId ≠ r.id then
    t.insertController (r.newRow now) h
  else t.updateControllers (r.updateRow now) (r.updateRow_controllerId now)

/-- The update of `update_heartbeat`, on the row with the given id. -/
def heartbeatRow (now : ℤ) (controllerId : String) (currentMeetings currentParticipants : ℤ)
    (healthStatus : HealthStatus) (c : MeetingController) : MeetingController :=
  if c.controllerId = controllerId then
    { c with
      currentMeetings
      currentParticipants
      healthStatus
      lastHeartbeatAt := now
      updatedAt := now }
  else c

theorem heartbeatRow_controllerId (now : ℤ) (controllerId : String)
    (currentMeetings currentParticipants : ℤ) (healthStatus : HealthStatus)
    (c : MeetingController) :
    (heartbeatRow now controllerId currentMeetings currentParticipants healthStatus
      c).controllerId = c.controllerId := by
  unfold heartbeatRow
  split_ifs <;> rfl

/-- `update_heartbeat` (meeting_controllers.rs:190), with whether a row was updated. -/
def updateHeartbeat (now : ℤ) (controllerId : String) (currentMeetings currentParticipants : ℤ)
    (healthStatus : HealthStatus) : Tables × Bool :=
  (t.updateControllers
      (heartbeatRow now controllerId currentMeetings currentParticipants healthStatus)
      (heartbeatRow_controllerId now controllerId currentMeetings currentParticipants healthStatus),
    t.meetingControllers.any fun c => c.controllerId = controllerId)

/-- The condition of `mark_stale_controllers_unhealthy`. -/
def MissedHeartbeat (now stalenessThresholdSeconds : ℤ) (c : MeetingController) : Prop :=
  c.lastHeartbeatAt < secondsBefore now stalenessThresholdSeconds ∧
    c.healthStatus ≠ .unhealthy ∧ c.healthStatus ≠ .draining

instance (now stalenessThresholdSeconds : ℤ) (c : MeetingController) :
    Decidable (MissedHeartbeat now stalenessThresholdSeconds c) :=
  inferInstanceAs (Decidable (_ ∧ _ ∧ _))

/-- The update of `mark_stale_controllers_unhealthy`. -/
def markRow (now stalenessThresholdSeconds : ℤ) (c : MeetingController) : MeetingController :=
  if MissedHeartbeat now stalenessThresholdSeconds c then
    { c with healthStatus := .unhealthy, updatedAt := now }
  else c

theorem markRow_controllerId (now stalenessThresholdSeconds : ℤ) (c : MeetingController) :
    (markRow now stalenessThresholdSeconds c).controllerId = c.controllerId := by
  unfold markRow
  split_ifs <;> rfl

/-- `mark_stale_controllers_unhealthy` (meeting_controllers.rs:261), with the
    number of rows it updated. -/
def markStaleControllersUnhealthy (now stalenessThresholdSeconds : ℤ) : Tables × ℕ :=
  (t.updateControllers (markRow now stalenessThresholdSeconds)
      (markRow_controllerId now stalenessThresholdSeconds),
    t.meetingControllers.countP fun c => MissedHeartbeat now stalenessThresholdSeconds c)

/-! ## `meeting_assignments.rs` -/

/-- The controller of a row of `meeting_assignments`. -/
def controllerOf (r : AssignmentRow) : Option MeetingController :=
  t.meetingControllers.find? fun c => c.controllerId = r.meetingControllerId

/-- The row of a meeting in a region. -/
def assignment (meetingId region : String) : Option AssignmentRow :=
  t.meetingAssignments.find? fun r => r.meetingId = meetingId ∧ r.region = region

/-- What a query returns for a row and its controller. -/
def assignmentTo (c : MeetingController) : McAssignment :=
  ⟨c.controllerId, c.grpcEndpoint, c.webtransportEndpoint⟩

/-- Healthy, with a heartbeat within the staleness threshold. -/
def Fresh (now : ℤ) (c : MeetingController) : Prop :=
  c.healthStatus = .healthy ∧
    secondsBefore now defaultHeartbeatStalenessSeconds < c.lastHeartbeatAt

instance (now : ℤ) (c : MeetingController) : Decidable (Fresh now c) :=
  inferInstanceAs (Decidable (_ ∧ _))

/-- `get_current_assignment` (meeting_assignments.rs:296). -/
def getCurrentAssignment (meetingId region : String) : Option McAssignment := do
  let r ← t.assignment meetingId region
  let c ← t.controllerOf r
  if r.endedAt = none then some (assignmentTo c) else none

/-- `get_healthy_assignment` (meeting_assignments.rs:89). -/
def getHealthyAssignment (now : ℤ) (meetingId region : String) : Option McAssignment := do
  let r ← t.assignment meetingId region
  let c ← t.controllerOf r
  if r.endedAt = none ∧ Fresh now c then some (assignmentTo c) else none

/-- The condition of `get_candidate_mcs` (meeting_assignments.rs:140). -/
def IsCandidate (now : ℤ) (region : String) (c : MeetingController) : Prop :=
  Fresh now c ∧ c.region = region ∧ c.currentMeetings < c.maxMeetings

instance (now : ℤ) (region : String) (c : MeetingController) : Decidable (IsCandidate now region c) :=
  inferInstanceAs (Decidable (_ ∧ _ ∧ _))

/-- The rows that satisfy it, before `ORDER BY` and `LIMIT`. -/
def candidateRows (now : ℤ) (region : String) : List McCandidate :=
  (t.meetingControllers.filter (IsCandidate now region ·)).map
    fun c => ⟨c.controllerId, c.grpcEndpoint, c.webtransportEndpoint⟩

/-- The `WHERE` of the `DO UPDATE` of `atomic_assign`: the controller of the row
    is unhealthy or stale. -/
def Replaceable (now : ℤ) (r : AssignmentRow) : Prop :=
  ∃ c ∈ t.meetingControllers, c.controllerId = r.meetingControllerId ∧
    (c.healthStatus ≠ .healthy ∨
      c.lastHeartbeatAt < secondsBefore now defaultHeartbeatStalenessSeconds)

instance (now : ℤ) (r : AssignmentRow) : Decidable (t.Replaceable now r) :=
  inferInstanceAs (Decidable (∃ c ∈ t.meetingControllers, _))

/-- The `DO UPDATE` of `atomic_assign` on the row it is for; `ended_at` stays. -/
def reassign (now : ℤ) (meetingId region controllerId gcId : String) (r : AssignmentRow) :
    AssignmentRow :=
  if r.meetingId = meetingId ∧ r.region = region then
    { r with meetingControllerId := controllerId, assignedByGcId := gcId, assignedAt := now }
  else r

theorem reassign_key (now : ℤ) (meetingId region controllerId gcId : String) (r : AssignmentRow) :
    ((reassign now meetingId region controllerId gcId r).meetingId,
      (reassign now meetingId region controllerId gcId r).region) = (r.meetingId, r.region) := by
  unfold reassign
  split_ifs <;> rfl

variable {t} in
/-- The row that `atomic_assign` inserts. -/
def insertAssignment (r : AssignmentRow)
    (hkey : ∀ r' ∈ t.meetingAssignments, ¬ (r'.meetingId = r.meetingId ∧ r'.region = r.region))
    (hcontroller : ∃ c ∈ t.meetingControllers, c.controllerId = r.meetingControllerId) : Tables where
  meetingAssignments := r :: t.meetingAssignments
  meetingControllers := t.meetingControllers
  assignmentKey := by
    rw [List.map_cons, List.nodup_cons]
    refine ⟨fun hmem => ?_, t.assignmentKey⟩
    obtain ⟨r', hr', heq⟩ := List.mem_map.mp hmem
    exact hkey r' hr' (Prod.mk.inj heq)
  controllerKey := t.controllerKey
  controllerReference r' hr' := by
    rcases List.mem_cons.mp hr' with rfl | hr'
    · exact hcontroller
    · exact t.controllerReference r' hr'

variable {t} in
/-- The rows after the `DO UPDATE` of `atomic_assign`. -/
def reassignAssignment (now : ℤ) (meetingId region controllerId gcId : String)
    (hcontroller : ∃ c ∈ t.meetingControllers, c.controllerId = controllerId) : Tables where
  meetingAssignments := t.meetingAssignments.map (reassign now meetingId region controllerId gcId)
  meetingControllers := t.meetingControllers
  assignmentKey := by
    have hkeys : (fun r : AssignmentRow => (r.meetingId, r.region)) ∘
        reassign now meetingId region controllerId gcId = fun r => (r.meetingId, r.region) := by
      funext r
      exact reassign_key ..
    rw [List.map_map, hkeys]
    exact t.assignmentKey
  controllerKey := t.controllerKey
  controllerReference r hr := by
    obtain ⟨r', hr', rfl⟩ := List.mem_map.mp hr
    unfold reassign
    split_ifs
    · exact hcontroller
    · exact t.controllerReference r' hr'

end Tables

/-- `GcError` (`gc-service/src/errors.rs`), as far as the modelled flows return it. -/
inductive GcError
  | database
  | invalidToken (message : String)
  | notFound (message : String)
  | forbidden (message : String)
  | badRequest (message : String)
  | serviceUnavailable (message : String)
  | internal (message : String)
deriving DecidableEq

namespace Tables

variable (t : Tables)

/-- The `INSERT ... ON CONFLICT DO UPDATE ... RETURNING meeting_controller_id` of
    `atomic_assign` (meeting_assignments.rs:220). A controller that does not
    exist violates the foreign key. -/
def assignRow (now : ℤ) (meetingId region controllerId gcId : String) :
    Tables × Except GcError (Option String) :=
  if hkey : ∀ r ∈ t.meetingAssignments, ¬ (r.meetingId = meetingId ∧ r.region = region) then
    if hcontroller : ∃ c ∈ t.meetingControllers, c.controllerId = controllerId then
      (insertAssignment ⟨meetingId, controllerId, region, now, gcId, none⟩ hkey hcontroller,
        .ok (some controllerId))
    else (t, .error .database)
  else if ∃ r ∈ t.meetingAssignments, (r.meetingId = meetingId ∧ r.region = region) ∧
      t.Replaceable now r then
    if hcontroller : ∃ c ∈ t.meetingControllers, c.controllerId = controllerId then
      (reassignAssignment now meetingId region controllerId gcId hcontroller,
        .ok (some controllerId))
    else (t, .error .database)
  else (t, .ok none)

/-! ## What the statements find and do -/

variable {t} {meetingId region : String}

theorem assignment_eq_none :
    t.assignment meetingId region = none ↔
      ∀ r ∈ t.meetingAssignments, ¬ (r.meetingId = meetingId ∧ r.region = region) := by
  simp [assignment]

theorem assignment_eq_some {r : AssignmentRow} :
    t.assignment meetingId region = some r ↔
      r ∈ t.meetingAssignments ∧ r.meetingId = meetingId ∧ r.region = region := by
  constructor
  · intro h
    exact ⟨List.mem_of_find?_eq_some h, by simpa using List.find?_some h⟩
  · rintro ⟨hmem, hkey⟩
    cases hfind : t.assignment meetingId region with
    | none => exact absurd hkey (assignment_eq_none.mp hfind r hmem)
    | some r' =>
      have hkey' : r'.meetingId = meetingId ∧ r'.region = region := by
        simpa using List.find?_some hfind
      have heq : r' = r := List.inj_on_of_nodup_map t.assignmentKey
        (List.mem_of_find?_eq_some hfind) hmem (by rw [hkey'.1, hkey'.2, hkey.1, hkey.2])
      rw [heq]

theorem unique_of_controllerId {c c' : MeetingController} (hc : c ∈ t.meetingControllers)
    (hc' : c' ∈ t.meetingControllers) (h : c.controllerId = c'.controllerId) : c = c' :=
  List.inj_on_of_nodup_map t.controllerKey hc hc' h

theorem controllerOf_controllerId {r : AssignmentRow} {c : MeetingController}
    (h : t.controllerOf r = some c) : c.controllerId = r.meetingControllerId := by
  simpa using List.find?_some h

/-- Every row has its controller. -/
theorem controllerOf_eq_some {r : AssignmentRow} (hr : r ∈ t.meetingAssignments) :
    ∃ c ∈ t.meetingControllers, c.controllerId = r.meetingControllerId ∧
      t.controllerOf r = some c := by
  obtain ⟨c, hc, hid⟩ := t.controllerReference r hr
  refine ⟨c, hc, hid, ?_⟩
  cases hfind : t.controllerOf r with
  | none => exact absurd hid (by simpa using List.find?_eq_none.mp hfind c hc)
  | some c' =>
    have hid' := controllerOf_controllerId hfind
    rw [unique_of_controllerId (List.mem_of_find?_eq_some hfind) hc (hid'.trans hid.symm)]

/-- The assignment of an active row, as `get_current_assignment` returns it. -/
theorem getCurrentAssignment_eq_some {a : McAssignment}
    (h : t.getCurrentAssignment meetingId region = some a) :
    ∃ r, t.assignment meetingId region = some r ∧ r.endedAt = none ∧
      r.meetingControllerId = a.mcId := by
  obtain ⟨r, hr, h⟩ := Option.bind_eq_some_iff.mp h
  obtain ⟨c, hc, h⟩ := Option.bind_eq_some_iff.mp h
  split_ifs at h with hactive
  obtain rfl := Option.some.inj h
  exact ⟨r, hr, hactive, (controllerOf_controllerId hc).symm⟩

/-- What `get_healthy_assignment` finds, `get_current_assignment` finds as well. -/
theorem getCurrentAssignment_of_getHealthyAssignment {now : ℤ} {a : McAssignment}
    (h : t.getHealthyAssignment now meetingId region = some a) :
    t.getCurrentAssignment meetingId region = some a := by
  obtain ⟨r, hr, h⟩ := Option.bind_eq_some_iff.mp h
  obtain ⟨c, hc, h⟩ := Option.bind_eq_some_iff.mp h
  split_ifs at h with hactive
  refine Option.bind_eq_some_iff.mpr ⟨r, hr, Option.bind_eq_some_iff.mpr ⟨c, hc, ?_⟩⟩
  rw [if_pos hactive.1]
  exact h

theorem getHealthyAssignment_eq_some {now : ℤ} {a : McAssignment}
    (h : t.getHealthyAssignment now meetingId region = some a) :
    ∃ r, t.assignment meetingId region = some r ∧ r.endedAt = none ∧
      r.meetingControllerId = a.mcId :=
  getCurrentAssignment_eq_some (getCurrentAssignment_of_getHealthyAssignment h)

/-- An active row on a fresh controller is found. -/
theorem getHealthyAssignment_of_fresh {now : ℤ} {r : AssignmentRow}
    (hr : t.assignment meetingId region = some r) (hactive : r.endedAt = none)
    (hfresh : ∀ c ∈ t.meetingControllers, c.controllerId = r.meetingControllerId → Fresh now c) :
    ∃ a, t.getHealthyAssignment now meetingId region = some a ∧
      a.mcId = r.meetingControllerId := by
  obtain ⟨c, hc, hid, hcontroller⟩ := controllerOf_eq_some (assignment_eq_some.mp hr).1
  refine ⟨assignmentTo c, ?_, hid⟩
  show (t.assignment meetingId region).bind _ = _
  rw [hr, Option.bind_some, hcontroller]
  exact if_pos ⟨hactive, hfresh c hc hid⟩

theorem not_replaceable_of_fresh {now : ℤ} {r : AssignmentRow}
    (hfresh : ∀ c ∈ t.meetingControllers, c.controllerId = r.meetingControllerId → Fresh now c) :
    ¬ t.Replaceable now r := by
  rintro ⟨c, hc, hid, hsick | hstale⟩
  · exact hsick (hfresh c hc hid).1
  · have hbeat := (hfresh c hc hid).2
    omega

/-- The statement of `atomic_assign` inserts a row, changes the row it finds,
    leaves it, or refuses a controller that does not exist. -/
inductive AssignRowCase (t : Tables) (now : ℤ) (meetingId region controllerId gcId : String) :
    Tables × Except GcError (Option String) → Prop
  | inserted (t' : Tables) (hnone : t.assignment meetingId region = none)
      (hrow : t'.assignment meetingId region =
        some ⟨meetingId, controllerId, region, now, gcId, none⟩) :
      AssignRowCase t now meetingId region controllerId gcId (t', .ok (some controllerId))
  | replaced (t' : Tables) (r : AssignmentRow) (hold : t.assignment meetingId region = some r)
      (hreplaceable : t.Replaceable now r)
      (hrow : t'.assignment meetingId region = some { r with
        meetingControllerId := controllerId, assignedByGcId := gcId, assignedAt := now }) :
      AssignRowCase t now meetingId region controllerId gcId (t', .ok (some controllerId))
  | kept (r : AssignmentRow) (hold : t.assignment meetingId region = some r)
      (hnot : ¬ t.Replaceable now r) :
      AssignRowCase t now meetingId region controllerId gcId (t, .ok none)
  | refused (hmissing : ¬ ∃ c ∈ t.meetingControllers, c.controllerId = controllerId) :
      AssignRowCase t now meetingId region controllerId gcId (t, .error .database)

theorem assignment_insertAssignment {r : AssignmentRow}
    (hkey : ∀ r' ∈ t.meetingAssignments, ¬ (r'.meetingId = r.meetingId ∧ r'.region = r.region))
    (hcontroller : ∃ c ∈ t.meetingControllers, c.controllerId = r.meetingControllerId) :
    (insertAssignment r hkey hcontroller).assignment r.meetingId r.region = some r :=
  assignment_eq_some.mpr ⟨List.mem_cons_self, rfl, rfl⟩

theorem assignment_reassignAssignment {now : ℤ} {controllerId gcId : String} {r : AssignmentRow}
    (hcontroller : ∃ c ∈ t.meetingControllers, c.controllerId = controllerId)
    (hr : t.assignment meetingId region = some r) :
    (reassignAssignment now meetingId region controllerId gcId hcontroller).assignment
        meetingId region = some { r with
      meetingControllerId := controllerId, assignedByGcId := gcId, assignedAt := now } := by
  obtain ⟨hmem, hkey⟩ := assignment_eq_some.mp hr
  have hthis : reassign now meetingId region controllerId gcId r = { r with
      meetingControllerId := controllerId, assignedByGcId := gcId, assignedAt := now } := if_pos hkey
  exact assignment_eq_some.mpr ⟨hthis ▸ List.mem_map_of_mem hmem, hkey⟩

theorem assignRow_cases (t : Tables) (now : ℤ) (meetingId region controllerId gcId : String) :
    AssignRowCase t now meetingId region controllerId gcId
      (t.assignRow now meetingId region controllerId gcId) := by
  unfold assignRow
  split_ifs with hkey hcontroller hexists hcontroller
  · exact .inserted _ (assignment_eq_none.mpr hkey)
      (assignment_insertAssignment (r := ⟨meetingId, controllerId, region, now, gcId, none⟩) hkey
        hcontroller)
  · exact .refused hcontroller
  · obtain ⟨r, hmem, hkey', hreplaceable⟩ := hexists
    have hold := assignment_eq_some.mpr ⟨hmem, hkey'⟩
    exact .replaced _ r hold hreplaceable (assignment_reassignAssignment hcontroller hold)
  · exact .refused hcontroller
  · obtain ⟨r, hold⟩ := Option.ne_none_iff_exists'.mp (mt assignment_eq_none.mp hkey)
    refine .kept r hold fun hreplaceable => hexists ?_
    obtain ⟨hmem, hkey'⟩ := assignment_eq_some.mp hold
    exact ⟨r, hmem, hkey', hreplaceable⟩

end Tables

end DarkTower.Gc
