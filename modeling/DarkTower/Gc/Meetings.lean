import Mathlib.Data.List.Nodup
import Mathlib.Data.Int.Notation
import Mathlib.Tactic.Common
import DarkTower.Gc.Controllers

/-!
# The tables `organizations` and `meetings`

The two tables with the columns the global controller reads and writes, and the
statements of `gc-service/src/repositories/meetings.rs`. A statement reads the
rows that were committed when it starts and takes effect when it commits, so each
is two functions: what it finds in its snapshot, and what it does to the rows it
meets at its commit.

* The unique constraints of `meetings` are fields of `MeetingTables`; the foreign
  keys are left out, since a row that they refuse is not inserted.
* `organizations` is changed by no statement here.
-/

namespace DarkTower.Gc

/-- The values of `meetings.status` (`valid_status`). -/
inductive MeetingStatus
  | scheduled
  | active
  | ended
  | cancelled
deriving DecidableEq

/-- `status IN ('scheduled', 'active')`. -/
def MeetingStatus.isCounted : MeetingStatus → Bool
  | .scheduled | .active => true
  | .ended | .cancelled => false

/-- A row of `organizations`, as far as the statements read it. -/
structure OrganizationRow where
  orgId : String
  maxConcurrentMeetings : ℤ
  maxParticipantsPerMeeting : ℤ
  isActive : Bool
deriving DecidableEq

/-- `MeetingRow` (models/mod.rs:134). -/
structure MeetingRow where
  meetingId : String
  orgId : String
  createdByUserId : String
  displayName : String
  meetingCode : String
  joinTokenSecret : String
  maxParticipants : ℤ
  enableE2eEncryption : Bool
  requireAuth : Bool
  recordingEnabled : Bool
  meetingControllerId : Option String
  meetingControllerRegion : Option String
  status : MeetingStatus
  scheduledStartTime : Option ℤ
  actualStartTime : Option ℤ
  actualEndTime : Option ℤ
  createdAt : ℤ
  updatedAt : ℤ
  allowGuests : Bool
  allowExternalParticipants : Bool
  waitingRoomEnabled : Bool
deriving DecidableEq

/-- The arguments of `create_meeting_with_limit_check`. -/
structure NewMeeting where
  orgId : String
  createdByUserId : String
  displayName : String
  meetingCode : String
  joinTokenSecret : String
  maxParticipants : ℤ
  enableE2eEncryption : Bool
  requireAuth : Bool
  recordingEnabled : Bool
  allowGuests : Bool
  allowExternalParticipants : Bool
  waitingRoomEnabled : Bool
  scheduledStartTime : Option ℤ
deriving DecidableEq

/-- The row that `create_meeting_with_limit_check` inserts, with the defaults of the other columns. -/
def NewMeeting.row (o : OrganizationRow) (now : ℤ) (meetingId : String) (m : NewMeeting) :
    MeetingRow where
  meetingId := meetingId
  orgId := m.orgId
  createdByUserId := m.createdByUserId
  displayName := m.displayName
  meetingCode := m.meetingCode
  joinTokenSecret := m.joinTokenSecret
  maxParticipants := min m.maxParticipants o.maxParticipantsPerMeeting
  enableE2eEncryption := m.enableE2eEncryption
  requireAuth := m.requireAuth
  recordingEnabled := m.recordingEnabled
  meetingControllerId := none
  meetingControllerRegion := none
  status := .scheduled
  scheduledStartTime := m.scheduledStartTime
  actualStartTime := none
  actualEndTime := none
  createdAt := now
  updatedAt := now
  allowGuests := m.allowGuests
  allowExternalParticipants := m.allowExternalParticipants
  waitingRoomEnabled := m.waitingRoomEnabled

/-- The two tables, with the primary key and `meetings_org_code_unique`. -/
structure MeetingTables where
  organizations : List OrganizationRow
  meetings : List MeetingRow
  organizationKey : (organizations.map (·.orgId)).Nodup
  meetingKey : (meetings.map (·.meetingId)).Nodup
  codeKey : (meetings.map fun m => (m.orgId, m.meetingCode)).Nodup

namespace MeetingTables

variable (t : MeetingTables)

/-- The meetings of an organization that count towards its limit. -/
def currentCount (orgId : String) : ℕ :=
  t.meetings.countP fun m => m.orgId = orgId ∧ m.status.isCounted = true

/-- `org_limits`. -/
def orgLimits (orgId : String) : Option OrganizationRow :=
  t.organizations.find? fun o => o.orgId = orgId ∧ o.isActive = true

/-! ## `create_meeting_with_limit_check` -/

/-- `create_meeting_with_limit_check` (meetings.rs:56) on its snapshot: the row to
    insert, if the count is below the limit. -/
def createMeetingWithLimitCheck (now : ℤ) (meetingId : String) (m : NewMeeting) :
    Option MeetingRow :=
  match t.orgLimits m.orgId with
  | none => none
  | some o =>
    if (t.currentCount m.orgId : ℤ) < o.maxConcurrentMeetings then some (m.row o now meetingId)
    else none

/-- No other row has its id, or its code in the organization. -/
def Insertable (row : MeetingRow) : Prop :=
  row.meetingId ∉ t.meetings.map (·.meetingId) ∧
    (row.orgId, row.meetingCode) ∉ t.meetings.map fun m => (m.orgId, m.meetingCode)

instance (row : MeetingRow) : Decidable (t.Insertable row) :=
  inferInstanceAs (Decidable (_ ∧ _))

/-- The row is committed, or violates a unique constraint. -/
def insertMeeting (row : MeetingRow) : MeetingTables × Except GcError (Option MeetingRow) :=
  if h : t.Insertable row then
    ({ t with
        meetings := row :: t.meetings
        meetingKey := List.nodup_cons.mpr ⟨h.1, t.meetingKey⟩
        codeKey := List.nodup_cons.mpr ⟨h.2, t.codeKey⟩ }, .ok (some row))
  else (t, .error .database)

/-! ## `activate_meeting` -/

/-- The row that `activate_meeting` (meetings.rs:208) finds in its snapshot. -/
def findsScheduled (meetingId : String) : Bool :=
  t.meetings.any fun m => m.meetingId = meetingId ∧ m.status = .scheduled

/-- The update of `activate_meeting`; the trigger sets `updated_at`. -/
def activateRow (now : ℤ) (meetingId : String) (m : MeetingRow) : MeetingRow :=
  if m.meetingId = meetingId ∧ m.status = .scheduled then
    { m with status := .active, actualStartTime := some now, updatedAt := now }
  else m

theorem activateRow_keys (now : ℤ) (meetingId : String) (m : MeetingRow) :
    ((activateRow now meetingId m).meetingId, (activateRow now meetingId m).orgId,
      (activateRow now meetingId m).meetingCode, (activateRow now meetingId m).status.isCounted) =
      (m.meetingId, m.orgId, m.meetingCode, m.status.isCounted) := by
  unfold activateRow
  split_ifs with h
  · rw [h.2]
    rfl
  · rfl

/-- `activate_meeting` at its commit, with what it returns. -/
def activateMeeting (now : ℤ) (meetingId : String) : MeetingTables × Option (String × String) :=
  ({ t with
      meetings := t.meetings.map (activateRow now meetingId)
      meetingKey := by
        have hids : (fun m : MeetingRow => m.meetingId) ∘ activateRow now meetingId =
            fun m => m.meetingId := by
          funext m
          exact congrArg Prod.fst (activateRow_keys now meetingId m)
        rw [List.map_map, hids]
        exact t.meetingKey
      codeKey := by
        have hcodes : (fun m : MeetingRow => (m.orgId, m.meetingCode)) ∘ activateRow now meetingId =
            fun m => (m.orgId, m.meetingCode) := by
          funext m
          have h := activateRow_keys now meetingId m
          simp only [Prod.mk.injEq] at h
          exact Prod.ext h.2.1 h.2.2.1
        rw [List.map_map, hcodes]
        exact t.codeKey },
    (t.meetings.find? fun m => m.meetingId = meetingId ∧ m.status = .scheduled).map
      fun m => (m.meetingId, m.orgId))

/-! ## What the statements do to the count -/

variable {t}

/-- A row that is inserted was checked against the limit of its organization. -/
theorem createMeetingWithLimitCheck_eq_some {now : ℤ} {meetingId : String} {m : NewMeeting}
    {row : MeetingRow} (h : t.createMeetingWithLimitCheck now meetingId m = some row) :
    row.orgId = m.orgId ∧ row.status = .scheduled ∧ ∃ o ∈ t.organizations, o.orgId = m.orgId ∧
      o.isActive = true ∧ (t.currentCount m.orgId : ℤ) < o.maxConcurrentMeetings ∧
        row.maxParticipants ≤ o.maxParticipantsPerMeeting := by
  unfold createMeetingWithLimitCheck at h
  split at h
  · cases h
  · rename_i o hlimits
    split_ifs at h with hcount
    obtain rfl := Option.some.inj h
    have ho : o.orgId = m.orgId ∧ o.isActive = true := by simpa using List.find?_some hlimits
    exact ⟨rfl, rfl, o, List.mem_of_find?_eq_some hlimits, ho.1, ho.2, hcount, Int.min_le_right _ _⟩

theorem insertMeeting_organizations (row : MeetingRow) :
    (t.insertMeeting row).1.organizations = t.organizations := by
  unfold insertMeeting
  split_ifs <;> rfl

/-- An insertion raises the count of its organization by at most one. -/
theorem currentCount_insertMeeting_le (row : MeetingRow) (orgId : String) :
    (t.insertMeeting row).1.currentCount orgId ≤
      t.currentCount orgId + if row.orgId = orgId then 1 else 0 := by
  unfold insertMeeting
  split_ifs with hinsertable horg horg
  · show (row :: t.meetings).countP _ ≤ _
    rw [List.countP_cons]
    unfold currentCount
    split_ifs <;> omega
  · show (row :: t.meetings).countP _ ≤ _
    rw [List.countP_cons, if_neg (by simp [horg])]
    exact Nat.le_refl _
  · exact Nat.le_add_right _ _
  · exact Nat.le_refl _

/-- An activation leaves the count as it is. -/
theorem currentCount_activateMeeting (now : ℤ) (meetingId orgId : String) :
    (t.activateMeeting now meetingId).1.currentCount orgId = t.currentCount orgId := by
  show (t.meetings.map (activateRow now meetingId)).countP _ = _
  rw [List.countP_map]
  refine List.countP_congr fun m _ => ?_
  have h := activateRow_keys now meetingId m
  simp only [Prod.mk.injEq] at h
  simp only [Function.comp_apply, h.2.1, h.2.2.2]

end MeetingTables

end DarkTower.Gc
