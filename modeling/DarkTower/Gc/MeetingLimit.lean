import DarkTower.Gc.Meetings
import DarkTower.Lib.Machine
import DarkTower.Lib.Multimap

/-!
# Is the number of meetings of an organization bounded?

Concurrent statements `create_meeting_with_limit_check` and `activate_meeting` at
the isolation level READ COMMITTED: a statement reads what was committed when it
starts, and its own changes are seen by others when it commits. Of two inserts
that violate a unique constraint the second to commit fails; an update takes the
lock of its row and checks its condition again.

* `limit_along`: the scheduled and active meetings stay within
  `max_concurrent_meetings` in every run in which a create that finds the count
  below the limit still does when the creates that have passed their count and
  have not committed are counted too.
* `concurrent_creates_exceed`: two creates count the last place.
-/

namespace DarkTower.Gc

open DarkTower.Lib

/-- A statement that has read its snapshot and has not committed. -/
inductive Statement
  | inserting (row : MeetingRow)
  | activating (meetingId : String)
deriving DecidableEq

/-- What a statement returns. -/
inductive MeetingResult
  | created (result : Except GcError (Option MeetingRow))
  | activated (result : Except GcError (Option (String × String)))

/-- The row that a statement inserts. -/
def Statement.rows : Statement → List MeetingRow
  | .inserting row => [row]
  | .activating _ => []

/-- The result of a statement whose connection fails. -/
def Statement.failed : Statement → MeetingResult
  | .inserting _ => .created (.error .database)
  | .activating _ => .activated (.error .database)

/-- The tables with the statements that have read and not committed yet. -/
structure MeetingSystem where
  tables : MeetingTables
  statements : AList fun _ : ℕ => Statement

/-- A step of a statement on the meetings. -/
inductive MeetingEvent
  /-- A create reads its snapshot; `meetingId` is the generated key. -/
  | createMeetingWithLimitCheck (statement : ℕ) (now : ℤ) (meetingId : String) (m : NewMeeting)
  /-- An activation reads its snapshot. -/
  | activateMeeting (statement : ℕ) (meetingId : String)
  | commit (statement : ℕ) (now : ℤ)
  /-- The connection of a statement fails, maybe after it has committed. -/
  | fail (statement : ℕ) (now : ℤ) (committed : Bool)
  /-- Other transactions commit. -/
  | other (t : MeetingTables)

/-- A statement takes effect. -/
def Statement.commit (t : MeetingTables) (now : ℤ) : Statement → MeetingTables × MeetingResult
  | .inserting row => ((t.insertMeeting row).1, .created (t.insertMeeting row).2)
  | .activating meetingId =>
    ((t.activateMeeting now meetingId).1, .activated (.ok (t.activateMeeting now meetingId).2))

namespace MeetingSystem

/-- A statement waits for its commit. -/
def pending (s : MeetingSystem) (statement : ℕ) (x : Statement) : MeetingSystem :=
  { s with statements := s.statements.insert statement x }

/-- A statement reads its snapshot, commits or fails. -/
def step (s : MeetingSystem) : MeetingEvent → MeetingSystem × Option MeetingResult
  | .createMeetingWithLimitCheck statement now meetingId m =>
    if statement ∈ s.statements then (s, none)
    else
      match s.tables.createMeetingWithLimitCheck now meetingId m with
      | none => (s, some (.created (.ok none)))
      | some row => (s.pending statement (.inserting row), none)
  | .activateMeeting statement meetingId =>
    if statement ∈ s.statements then (s, none)
    else if s.tables.findsScheduled meetingId = true then
      (s.pending statement (.activating meetingId), none)
    else (s, some (.activated (.ok none)))
  | .commit statement now =>
    match s.statements.lookup statement with
    | none => (s, none)
    | some x => (⟨(x.commit s.tables now).1, s.statements.erase statement⟩,
        some (x.commit s.tables now).2)
  | .fail statement now committed =>
    match s.statements.lookup statement with
    | none => (s, none)
    | some x => (⟨if committed then (x.commit s.tables now).1 else s.tables,
        s.statements.erase statement⟩, some x.failed)
  | .other t => ({ s with tables := t }, none)

/-- The creates of an organization that have passed their count and have not
    committed. -/
def inFlight (s : MeetingSystem) (orgId : String) : ℕ :=
  (Multimap.flat Statement.rows s.statements).countP fun row => row.orgId = orgId

end MeetingSystem

/-- The database from the tables `t₀` on. Other transactions do not change the
    organizations and do not raise the count of one. -/
def meetingMachine (t₀ : MeetingTables) :
    Machine MeetingSystem MeetingEvent (Option MeetingResult) where
  init := ⟨t₀, ∅⟩
  step := MeetingSystem.step
  allowed _ s e :=
    match e with
    | .other t => t.organizations = s.tables.organizations ∧
        ∀ orgId, t.currentCount orgId ≤ s.tables.currentCount orgId
    | _ => True

/-- The counted meetings of the organization are within its limit. -/
def WithinLimit (orgId : String) (t : MeetingTables) : Prop :=
  ∀ o ∈ t.organizations, o.orgId = orgId → (t.currentCount orgId : ℤ) ≤ o.maxConcurrentMeetings

instance (orgId : String) (t : MeetingTables) : Decidable (WithinLimit orgId t) :=
  inferInstanceAs (Decidable (∀ o ∈ t.organizations, _))

/-- The condition on a step: a create of the organization that passes its count
    would also pass it with the creates in flight counted. -/
def CountsInFlight (orgId : String) (s : MeetingSystem) : MeetingEvent → Prop
  | .createMeetingWithLimitCheck statement now meetingId m =>
    m.orgId = orgId → statement ∉ s.statements →
      (s.tables.createMeetingWithLimitCheck now meetingId m).isSome = true →
        ∀ o ∈ s.tables.organizations, o.orgId = orgId →
          ((s.tables.currentCount orgId + s.inFlight orgId : ℕ) : ℤ) < o.maxConcurrentMeetings
  | _ => True

instance (orgId : String) (s : MeetingSystem) (e : MeetingEvent) :
    Decidable (CountsInFlight orgId s e) :=
  match e with
  | .createMeetingWithLimitCheck statement now meetingId m =>
    inferInstanceAs (Decidable (m.orgId = orgId → statement ∉ s.statements →
      (s.tables.createMeetingWithLimitCheck now meetingId m).isSome = true →
        ∀ o ∈ s.tables.organizations, _))
  | .activateMeeting _ _ | .commit _ _ | .fail _ _ _ | .other _ => inferInstanceAs (Decidable True)

/-! ## What a step does to the counts -/

section

variable {s : MeetingSystem} {statement : ℕ} {x : Statement} {orgId : String}

theorem commit_organizations (t : MeetingTables) (now : ℤ) (x : Statement) :
    (x.commit t now).1.organizations = t.organizations := by
  cases x with
  | inserting row => exact MeetingTables.insertMeeting_organizations row
  | activating meetingId => rfl

/-- A commit counts at most the row of its statement. -/
theorem currentCount_commit_le (t : MeetingTables) (now : ℤ) (x : Statement) (orgId : String) :
    (x.commit t now).1.currentCount orgId ≤
      t.currentCount orgId + x.rows.countP fun row => row.orgId = orgId := by
  cases x with
  | inserting row =>
    have h := MeetingTables.currentCount_insertMeeting_le (t := t) row orgId
    show (t.insertMeeting row).1.currentCount orgId ≤
      t.currentCount orgId + [row].countP fun row => row.orgId = orgId
    rw [List.countP_singleton]
    simpa using h
  | activating meetingId =>
    exact (MeetingTables.currentCount_activateMeeting now meetingId orgId).le

theorem inFlight_pending (hfree : statement ∉ s.statements) :
    (s.pending statement x).inFlight orgId =
      (x.rows.countP fun row => row.orgId = orgId) + s.inFlight orgId := by
  unfold MeetingSystem.inFlight MeetingSystem.pending
  rw [Multimap.flat_insert_of_notMem _ hfree, List.countP_append]

theorem inFlight_erase (hx : s.statements.lookup statement = some x) :
    s.inFlight orgId = (x.rows.countP fun row => row.orgId = orgId) +
      MeetingSystem.inFlight ⟨s.tables, s.statements.erase statement⟩ orgId := by
  have hperm := Multimap.flat_of_lookup Statement.rows hx
  unfold MeetingSystem.inFlight
  rw [hperm.countP_eq, List.countP_append]

end

/-! ## Runs -/

/-- The limit holds with the creates in flight counted. -/
def Fits (orgId : String) (s : MeetingSystem) : Prop :=
  ∀ o ∈ s.tables.organizations, o.orgId = orgId →
    ((s.tables.currentCount orgId + s.inFlight orgId : ℕ) : ℤ) ≤ o.maxConcurrentMeetings

namespace Fits

variable {orgId : String} {s : MeetingSystem} {statement : ℕ} {x : Statement}

theorem withinLimit (hs : Fits orgId s) : WithinLimit orgId s.tables := by
  intro o ho hid
  have h := hs o ho hid
  omega

/-- A statement that inserts no row of the organization waits. -/
theorem pending (hs : Fits orgId s) (hfree : statement ∉ s.statements)
    (hrows : (x.rows.countP fun row => row.orgId = orgId) = 0) :
    Fits orgId (s.pending statement x) := by
  intro o ho hid
  rw [inFlight_pending hfree, hrows, Nat.zero_add]
  exact hs o ho hid

/-- A create that has passed its count waits. -/
theorem create {now : ℤ} {meetingId : String} {m : NewMeeting} {row : MeetingRow}
    (hs : Fits orgId s) (hfree : statement ∉ s.statements)
    (hrow : s.tables.createMeetingWithLimitCheck now meetingId m = some row)
    (hcond : CountsInFlight orgId s (.createMeetingWithLimitCheck statement now meetingId m)) :
    Fits orgId (s.pending statement (.inserting row)) := by
  have horg := (MeetingTables.createMeetingWithLimitCheck_eq_some hrow).1
  by_cases heq : row.orgId = orgId
  · intro o ho hid
    have hroom := hcond (horg.symm.trans heq) hfree (by rw [hrow]; rfl) o ho hid
    have hone : (Statement.inserting row).rows.countP (fun row => row.orgId = orgId) = 1 := by
      show [row].countP _ = 1
      simp [heq]
    rw [inFlight_pending hfree, hone]
    show ((s.tables.currentCount orgId + (1 + s.inFlight orgId) : ℕ) : ℤ) ≤ _
    omega
  · refine hs.pending hfree ?_
    show [row].countP _ = 0
    simp [heq]

/-- A statement that has waited takes effect, or does not. -/
theorem settle (hs : Fits orgId s) (hx : s.statements.lookup statement = some x)
    {t : MeetingTables} (horganizations : t.organizations = s.tables.organizations)
    (hcount : t.currentCount orgId ≤
      s.tables.currentCount orgId + x.rows.countP fun row => row.orgId = orgId) :
    Fits orgId ⟨t, s.statements.erase statement⟩ := by
  intro o ho hid
  have hold := hs o (horganizations ▸ ho) hid
  rw [inFlight_erase hx] at hold
  have hsame : MeetingSystem.inFlight ⟨t, s.statements.erase statement⟩ orgId =
      MeetingSystem.inFlight ⟨s.tables, s.statements.erase statement⟩ orgId := rfl
  rw [hsame]
  show ((t.currentCount orgId + _ : ℕ) : ℤ) ≤ _
  omega

theorem step {t₀ : MeetingTables} {h : List (MeetingEvent × Option MeetingResult)}
    {e : MeetingEvent} (hs : Fits orgId s) (hallowed : (meetingMachine t₀).allowed h s e)
    (hcond : CountsInFlight orgId s e) : Fits orgId (s.step e).1 := by
  cases e with
  | createMeetingWithLimitCheck statement now meetingId m =>
    unfold MeetingSystem.step
    dsimp only
    split_ifs with hfree
    · exact hs
    · split
      · exact hs
      · rename_i row hrow
        exact hs.create hfree hrow hcond
  | activateMeeting statement meetingId =>
    unfold MeetingSystem.step
    dsimp only
    split_ifs with hfree
    · exact hs
    · exact hs.pending hfree rfl
    · exact hs
  | commit statement now =>
    unfold MeetingSystem.step
    dsimp only
    split
    · exact hs
    · rename_i x hx
      exact hs.settle hx (commit_organizations ..) (currentCount_commit_le ..)
  | fail statement now committed =>
    unfold MeetingSystem.step
    dsimp only
    split
    · exact hs
    · rename_i x hx
      cases committed with
      | true => exact hs.settle hx (commit_organizations ..) (currentCount_commit_le ..)
      | false => exact hs.settle hx rfl (Nat.le_add_right _ _)
  | other t =>
    intro o ho hid
    have hold := hs o (hallowed.1 ▸ ho) hid
    have hcount := hallowed.2 orgId
    show ((t.currentCount orgId + s.inFlight orgId : ℕ) : ℤ) ≤ _
    omega

end Fits

/-- The counted meetings of an organization stay within its limit in every run in
    which its creates count those in flight. -/
theorem limit_along {t₀ : MeetingTables} {orgId : String} (hinit : WithinLimit orgId t₀)
    {h : List (MeetingEvent × Option MeetingResult)} {s : MeetingSystem}
    (hr : (meetingMachine t₀).Run h s)
    (hcond : ∀ e a h', (e, a) :: h' <:+ h →
      CountsInFlight orgId ((meetingMachine t₀).stateAfter h') e) :
    ∀ h', h' <:+ h → WithinLimit orgId ((meetingMachine t₀).stateAfter h').tables := by
  intro h' hsuffix
  refine (Machine.Run.invariant_of_steps (C := CountsInFlight orgId) (I := fun _ s => Fits orgId s)
    ?_ ?_ (hr.suffix hsuffix) fun e a h'' hs => hcond e a h'' (hs.trans hsuffix)).withinLimit
  · exact hinit
  · intro h s e _ hallowed hstep hs
    exact hs.step hallowed hstep

/-! ## Concrete runs -/

/-- An organization with one place and no meetings. -/
def onePlace : MeetingTables :=
  ⟨[⟨"org-1", 1, 100, true⟩], [], List.nodup_singleton _, List.nodup_nil, nodup_noKeys⟩

/-- A request to create a meeting. -/
def sampleMeeting (meetingCode : String) : NewMeeting where
  orgId := "org-1"
  createdByUserId := "user-1"
  displayName := "Standup"
  meetingCode := meetingCode
  joinTokenSecret := "secret"
  maxParticipants := 500
  enableE2eEncryption := true
  requireAuth := true
  recordingEnabled := false
  allowGuests := false
  allowExternalParticipants := false
  waitingRoomEnabled := true
  scheduledStartTime := none

/-- A meeting is created and activated before the next create starts, which is
    refused. -/
def sequentialCreates : List MeetingEvent :=
  [.createMeetingWithLimitCheck 1 0 "meeting-1" (sampleMeeting "aaaaaaaaaaaa"), .commit 1 1,
    .activateMeeting 2 "meeting-1", .commit 2 3,
    .createMeetingWithLimitCheck 3 4 "meeting-2" (sampleMeeting "bbbbbbbbbbbb")]

/-- Two creates count before either commits. -/
def concurrentCreates : List MeetingEvent :=
  [.createMeetingWithLimitCheck 1 0 "meeting-1" (sampleMeeting "aaaaaaaaaaaa"),
    .createMeetingWithLimitCheck 2 0 "meeting-2" (sampleMeeting "bbbbbbbbbbbb"), .commit 1 1,
    .commit 2 1]

theorem limit_along_sequential :
    (meetingMachine onePlace).Run ((meetingMachine onePlace).playAll sequentialCreates).2
        ((meetingMachine onePlace).playAll sequentialCreates).1 ∧
      ∀ h', h' <:+ ((meetingMachine onePlace).playAll sequentialCreates).2 →
        WithinLimit "org-1" ((meetingMachine onePlace).stateAfter h').tables :=
  have hr := Machine.run_of_admits (M := meetingMachine onePlace) (l := sequentialCreates)
    ⟨trivial, trivial, trivial, trivial, trivial, trivial⟩
  ⟨hr, limit_along (by decide) hr (Machine.StepsMeet.forall_suffix (by decide))⟩

/-- Both creates commit, and the organization has two meetings in its one place. -/
theorem concurrent_creates_exceed :
    (meetingMachine onePlace).Run ((meetingMachine onePlace).playAll concurrentCreates).2
        ((meetingMachine onePlace).playAll concurrentCreates).1 ∧
      WithinLimit "org-1" onePlace ∧
      ¬ WithinLimit "org-1" ((meetingMachine onePlace).playAll concurrentCreates).1.tables :=
  ⟨Machine.run_of_admits ⟨trivial, trivial, trivial, trivial, trivial⟩, by decide, by decide⟩

end DarkTower.Gc
