import Mathlib.Data.List.Perm.Basic
import Mathlib.Data.List.Nodup
import Mathlib.Data.Int.Notation
import Mathlib.Tactic.Common

/-!
# The tables `meeting_assignments` and `meeting_controllers`

The tables of the global controller with the constraints of their schema
(`migrations/20260121000001_meeting_assignments.sql`), and the two statements
of the assignment cleanup (`gc-service/src/repositories/meeting_assignments.rs`).
Times are microseconds; the database runs in UTC, so a day is 24 hours.

Both statements take the meeting ids of a limited number of matching rows and
then change every row with one of these ids, whatever its region:
`mem_endStaleAssignments` and `mem_cleanupOldAssignments`.
-/

namespace DarkTower.Gc

open scoped List

/-- The values of `health_status` (20260120000001_mc_registration_schema.sql:25). -/
inductive HealthStatus
  | pending
  | healthy
  | degraded
  | unhealthy
  | draining
deriving DecidableEq

/-- A row of `meeting_assignments`. -/
structure AssignmentRow where
  meetingId : String
  meetingControllerId : String
  region : String
  assignedAt : ℤ
  assignedByGcId : String
  endedAt : Option ℤ
deriving DecidableEq

/-- A row of `meeting_controllers`, as far as the cleanup reads it. -/
structure ControllerRow where
  controllerId : String
  healthStatus : HealthStatus
deriving DecidableEq

/-- The tables, with their primary keys and the foreign key. -/
structure Database where
  meetingAssignments : List AssignmentRow
  meetingControllers : List ControllerRow
  assignmentKey : (meetingAssignments.map fun r => (r.meetingId, r.region)).Nodup
  controllerKey : (meetingControllers.map (·.controllerId)).Nodup
  controllerReference : ∀ r ∈ meetingAssignments, ∃ c ∈ meetingControllers,
    c.controllerId = r.meetingControllerId

/-! ## `LIMIT` -/

section Limit

variable {α : Type*}

/-- `SELECT ... LIMIT n` without an order: the first `n` rows in some order. -/
def Picks (n : ℕ) (rows picked : List α) : Prop := ∃ order, order ~ rows ∧ picked = order.take n

theorem Picks.subset {n : ℕ} {rows picked : List α} (h : Picks n rows picked) {r : α}
    (hr : r ∈ picked) : r ∈ rows := by
  obtain ⟨order, hperm, rfl⟩ := h
  exact hperm.subset (List.mem_of_mem_take hr)

/-- Every row can be picked, unless none is. -/
theorem exists_picks {n : ℕ} (hn : n ≠ 0) {rows : List α} {r : α} (hr : r ∈ rows) :
    ∃ picked, Picks n rows picked ∧ r ∈ picked := by
  obtain ⟨before, after, rfl⟩ := List.append_of_mem hr
  obtain ⟨k, rfl⟩ := Nat.exists_eq_succ_of_ne_zero hn
  refine ⟨(r :: (before ++ after)).take (k + 1), ⟨_, List.perm_middle.symm, rfl⟩, ?_⟩
  rw [List.take_succ_cons]
  exact List.mem_cons_self

theorem Picks.eq_nil {rows picked : List α} (h : Picks 0 rows picked) : picked = [] := by
  obtain ⟨order, _, rfl⟩ := h
  exact List.take_zero

end Limit

/-- `DEFAULT_CLEANUP_BATCH_SIZE` (meeting_assignments.rs:29). -/
def defaultCleanupBatchSize : ℤ := 1000

/-- The rows that `LIMIT` lets through; a negative limit is an error of the
    statement, which then changes nothing. -/
def batchLimit (batchSize : Option ℤ) : ℕ := (batchSize.getD defaultCleanupBatchSize).toNat

/-- `NOW() - ($1 || ' hours')::INTERVAL`. -/
def hoursBefore (now hours : ℤ) : ℤ := now - hours * 3600000000

/-- `NOW() - ($1 || ' days')::INTERVAL`. -/
def daysBefore (now days : ℤ) : ℤ := now - days * 86400000000

namespace Database

variable (db : Database)

/-- The controller of a row is not healthy. -/
def Unhealthy (controllerId : String) : Prop :=
  ∃ c ∈ db.meetingControllers, c.controllerId = controllerId ∧ c.healthStatus ≠ .healthy

/-- The controller of a row is healthy. -/
def Healthy (controllerId : String) : Prop :=
  ∃ c ∈ db.meetingControllers, c.controllerId = controllerId ∧ c.healthStatus = .healthy

instance (controllerId : String) : Decidable (db.Unhealthy controllerId) :=
  inferInstanceAs (Decidable (∃ c ∈ db.meetingControllers,
    c.controllerId = controllerId ∧ c.healthStatus ≠ .healthy))

/-- The condition of the inner query of `end_stale_assignments`: active, assigned
    long ago and with a controller that is not healthy. -/
def Stale (now inactivityHours : ℤ) (r : AssignmentRow) : Prop :=
  r.endedAt = none ∧ r.assignedAt < hoursBefore now inactivityHours ∧
    db.Unhealthy r.meetingControllerId

instance (now inactivityHours : ℤ) (r : AssignmentRow) :
    Decidable (db.Stale now inactivityHours r) :=
  inferInstanceAs (Decidable (_ ∧ _ ∧ _))

/-- The rows of the inner query of `end_stale_assignments`. -/
def staleRows (now inactivityHours : ℤ) : List AssignmentRow :=
  db.meetingAssignments.filter (db.Stale now inactivityHours ·)

/-- `SET ended_at = NOW()` on a row of one of the picked meetings. -/
def endRow (now : ℤ) (picked : List AssignmentRow) (r : AssignmentRow) : AssignmentRow :=
  if r.meetingId ∈ picked.map (·.meetingId) then { r with endedAt := some now } else r

theorem endRow_key (now : ℤ) (picked : List AssignmentRow) (r : AssignmentRow) :
    ((endRow now picked r).meetingId, (endRow now picked r).region,
      (endRow now picked r).meetingControllerId) =
      (r.meetingId, r.region, r.meetingControllerId) := by
  unfold endRow
  split_ifs <;> rfl

/-- `end_stale_assignments` (meeting_assignments.rs:421) with the rows that its
    inner query has picked. -/
def endStaleAssignments (now : ℤ) (picked : List AssignmentRow) : Database where
  meetingAssignments := db.meetingAssignments.map (endRow now picked)
  meetingControllers := db.meetingControllers
  assignmentKey := by
    have hkey : (fun r : AssignmentRow => (r.meetingId, r.region)) ∘ endRow now picked =
        fun r => (r.meetingId, r.region) := by
      funext r
      have h := endRow_key now picked r
      simp only [Prod.mk.injEq] at h
      exact Prod.ext h.1 h.2.1
    rw [List.map_map, hkey]
    exact db.assignmentKey
  controllerKey := db.controllerKey
  controllerReference r hr := by
    obtain ⟨r', hr', rfl⟩ := List.mem_map.mp hr
    have h := endRow_key now picked r'
    simp only [Prod.mk.injEq] at h
    rw [h.2.2]
    exact db.controllerReference r' hr'

/-- The condition of the inner query of `cleanup_old_assignments`. -/
def Old (now retentionDays : ℤ) (r : AssignmentRow) : Prop :=
  ∃ endedAt ∈ r.endedAt, endedAt < daysBefore now retentionDays

instance (now retentionDays : ℤ) (r : AssignmentRow) : Decidable (Old now retentionDays r) :=
  inferInstanceAs (Decidable (∃ endedAt ∈ r.endedAt, endedAt < daysBefore now retentionDays))

/-- The rows of the inner query of `cleanup_old_assignments`. -/
def oldRows (now retentionDays : ℤ) : List AssignmentRow :=
  db.meetingAssignments.filter (Old now retentionDays ·)

/-- `cleanup_old_assignments` (meeting_assignments.rs:493) with the rows that its
    inner query has picked. -/
def cleanupOldAssignments (picked : List AssignmentRow) : Database where
  meetingAssignments :=
    db.meetingAssignments.filter fun r => r.meetingId ∉ picked.map (·.meetingId)
  meetingControllers := db.meetingControllers
  assignmentKey := db.assignmentKey.sublist (List.filter_sublist.map _)
  controllerKey := db.controllerKey
  controllerReference r hr := db.controllerReference r (List.mem_filter.mp hr).1

variable {db}

theorem mem_staleRows {now inactivityHours : ℤ} {r : AssignmentRow} :
    r ∈ db.staleRows now inactivityHours ↔
      r ∈ db.meetingAssignments ∧ db.Stale now inactivityHours r := by
  simp only [staleRows, List.mem_filter, decide_eq_true_eq]

theorem mem_oldRows {now retentionDays : ℤ} {r : AssignmentRow} :
    r ∈ db.oldRows now retentionDays ↔ r ∈ db.meetingAssignments ∧ Old now retentionDays r := by
  simp only [oldRows, List.mem_filter, decide_eq_true_eq]

/-- The update leaves a row as it is iff its meeting is not picked, or the row
    ended at this very time. -/
theorem endRow_eq_self_iff {now : ℤ} {picked : List AssignmentRow} {r : AssignmentRow} :
    endRow now picked r = r ↔
      r.meetingId ∉ picked.map (·.meetingId) ∨ r.endedAt = some now := by
  unfold endRow
  split_ifs with h
  · constructor
    · intro heq
      exact .inr (congrArg AssignmentRow.endedAt heq).symm
    · rintro (hnot | hended)
      · exact absurd h hnot
      · rw [← hended]
  · exact iff_of_true rfl (.inl h)

theorem mem_cleanupOldAssignments {picked : List AssignmentRow} {r : AssignmentRow} :
    r ∈ (db.cleanupOldAssignments picked).meetingAssignments ↔
      r ∈ db.meetingAssignments ∧ r.meetingId ∉ picked.map (·.meetingId) := by
  simp only [cleanupOldAssignments, List.mem_filter, decide_eq_true_eq]

/-- A controller is not both. -/
theorem not_healthy_of_unhealthy {controllerId : String} (h : db.Unhealthy controllerId) :
    ¬ db.Healthy controllerId := by
  obtain ⟨c, hc, hid, hstatus⟩ := h
  rintro ⟨c', hc', hid', hstatus'⟩
  have heq := List.inj_on_of_nodup_map db.controllerKey hc hc' (hid.trans hid'.symm)
  exact hstatus (heq ▸ hstatus')

end Database

end DarkTower.Gc
