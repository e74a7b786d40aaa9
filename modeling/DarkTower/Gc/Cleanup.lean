import DarkTower.Gc.Assignments
import DarkTower.Lib.Machine

/-!
# What the assignment cleanup touches

`run_cleanup` (`gc-service/src/tasks/assignment_cleanup.rs:141`) ends the stale
assignments and then deletes the old ones; other transactions change the tables
before, between and after these statements.

* `endsOnlyStale_iff`, `deletesOnlyOld_iff`: each statement touches only the rows
  its condition names, for every choice `LIMIT` can make, iff every row of a
  meeting with such a row is one itself.
* `cleanup_touches_only_own`: the two together with what follows for runs: passes
  over such tables never end or delete an active assignment to a healthy
  controller.
* `otherRegion_ended_and_deleted`: a meeting in two regions, one of which is stale
  (or ended long ago) while the other is active on a healthy controller.
-/

namespace DarkTower.Gc

open DarkTower.Lib Database

/-- A statement of the cleanup, with its time and the rows `LIMIT` picked, or any
    other transaction. -/
inductive CleanupEvent
  | endStale (now inactivityHours : ℤ) (batchSize : Option ℤ) (picked : List AssignmentRow)
  | cleanupOld (now retentionDays : ℤ) (batchSize : Option ℤ) (picked : List AssignmentRow)
  | other (db : Database)

/-- One step. -/
def cleanupStep (db : Database) : CleanupEvent → Database × Unit
  | .endStale now _ _ picked => (db.endStaleAssignments now picked, ())
  | .cleanupOld _ _ _ picked => (db.cleanupOldAssignments picked, ())
  | .other db => (db, ())

/-- The cleanup, from any tables. -/
def cleanupMachine (db : Database) : Machine Database CleanupEvent Unit where
  init := db
  step := cleanupStep
  allowed _ db e :=
    match e with
    | .endStale now inactivityHours batchSize picked =>
      Picks (batchLimit batchSize) (db.staleRows now inactivityHours) picked
    | .cleanupOld now retentionDays batchSize picked =>
      Picks (batchLimit batchSize) (db.oldRows now retentionDays) picked
    | .other _ => True

/-! ## The claims on one statement -/

/-- `end_stale_assignments` changes stale rows only. -/
def EndsOnlyStale (db : Database) (now inactivityHours : ℤ) (batchSize : Option ℤ) : Prop :=
  ∀ picked, Picks (batchLimit batchSize) (db.staleRows now inactivityHours) picked →
    ∀ r ∈ db.meetingAssignments, endRow now picked r ≠ r → db.Stale now inactivityHours r

/-- `cleanup_old_assignments` deletes old rows only, which are not active. -/
def DeletesOnlyOld (db : Database) (now retentionDays : ℤ) (batchSize : Option ℤ) : Prop :=
  ∀ picked, Picks (batchLimit batchSize) (db.oldRows now retentionDays) picked →
    ∀ r ∈ db.meetingAssignments, r ∉ (db.cleanupOldAssignments picked).meetingAssignments →
      Old now retentionDays r ∧ r.endedAt ≠ none

/-- The statement picks nothing, or every row of a meeting with a stale row is
    stale (or ended at this very time). -/
def StaleTogether (db : Database) (now inactivityHours : ℤ) (batchSize : Option ℤ) : Prop :=
  batchLimit batchSize = 0 ∨ ∀ r ∈ db.meetingAssignments, ∀ r' ∈ db.meetingAssignments,
    r'.meetingId = r.meetingId → db.Stale now inactivityHours r →
      db.Stale now inactivityHours r' ∨ r'.endedAt = some now

/-- The statement picks nothing, or every row of a meeting with an old row is
    old. -/
def OldTogether (db : Database) (now retentionDays : ℤ) (batchSize : Option ℤ) : Prop :=
  batchLimit batchSize = 0 ∨ ∀ r ∈ db.meetingAssignments, ∀ r' ∈ db.meetingAssignments,
    r'.meetingId = r.meetingId → Old now retentionDays r → Old now retentionDays r'

/-- A picked meeting is that of a row the inner query found. -/
theorem exists_of_picked {n : ℕ} {rows picked : List AssignmentRow} (hpicks : Picks n rows picked)
    {meetingId : String} (h : meetingId ∈ picked.map (·.meetingId)) :
    n ≠ 0 ∧ ∃ r ∈ rows, meetingId = r.meetingId := by
  obtain ⟨r, hr, rfl⟩ := List.mem_map.mp h
  refine ⟨?_, r, hpicks.subset hr, rfl⟩
  rintro rfl
  rw [hpicks.eq_nil] at hr
  exact List.not_mem_nil hr

theorem endsOnlyStale_iff {db : Database} {now inactivityHours : ℤ} {batchSize : Option ℤ} :
    EndsOnlyStale db now inactivityHours batchSize ↔
      StaleTogether db now inactivityHours batchSize := by
  constructor
  · intro h
    by_cases hlimit : batchLimit batchSize = 0
    · exact .inl hlimit
    · refine .inr fun r hr r' hr' hmeeting hstale => ?_
      obtain ⟨picked, hpicks, hmem⟩ := exists_picks hlimit (mem_staleRows.mpr ⟨hr, hstale⟩)
      by_cases hended : r'.endedAt = some now
      · exact .inr hended
      · refine .inl (h picked hpicks r' hr' fun hsame => ?_)
        rcases endRow_eq_self_iff.mp hsame with hnot | hended'
        · exact hnot (hmeeting ▸ List.mem_map_of_mem hmem)
        · exact hended hended'
  · intro h picked hpicks r hr hchanged
    obtain ⟨hmeeting, hended⟩ := not_or.mp (mt endRow_eq_self_iff.mpr hchanged)
    obtain ⟨hlimit, r₀, hr₀, heq⟩ := exists_of_picked hpicks (not_not.mp hmeeting)
    obtain ⟨hmem, hstale⟩ := mem_staleRows.mp hr₀
    exact ((h.resolve_left hlimit) r₀ hmem r hr heq hstale).resolve_right hended

theorem ended_of_old {now retentionDays : ℤ} {r : AssignmentRow} (h : Old now retentionDays r) :
    r.endedAt ≠ none := by
  obtain ⟨endedAt, hmem, -⟩ := h
  rw [Option.mem_def.mp hmem]
  exact Option.some_ne_none _

theorem deletesOnlyOld_iff {db : Database} {now retentionDays : ℤ} {batchSize : Option ℤ} :
    DeletesOnlyOld db now retentionDays batchSize ↔
      OldTogether db now retentionDays batchSize := by
  constructor
  · intro h
    by_cases hlimit : batchLimit batchSize = 0
    · exact .inl hlimit
    · refine .inr fun r hr r' hr' hmeeting hold => ?_
      obtain ⟨picked, hpicks, hmem⟩ := exists_picks hlimit (mem_oldRows.mpr ⟨hr, hold⟩)
      refine (h picked hpicks r' hr' fun hkept => ?_).1
      exact (mem_cleanupOldAssignments.mp hkept).2 (hmeeting ▸ List.mem_map_of_mem hmem)
  · intro h picked hpicks r hr hdeleted
    have hmeeting : r.meetingId ∈ picked.map (·.meetingId) := by
      by_contra hnot
      exact hdeleted (mem_cleanupOldAssignments.mpr ⟨hr, hnot⟩)
    obtain ⟨hlimit, r₀, hr₀, heq⟩ := exists_of_picked hpicks hmeeting
    obtain ⟨hmem, hold⟩ := mem_oldRows.mp hr₀
    have hold' := (h.resolve_left hlimit) r₀ hmem r hr heq hold
    exact ⟨hold', ended_of_old hold'⟩

/-! ## Runs -/

/-- A statement of the cleanup keeps every active assignment to a healthy
    controller as it is. -/
def SparesLive (db : Database) : CleanupEvent → Prop
  | .other _ => True
  | e => ∀ r ∈ db.meetingAssignments, r.endedAt = none → db.Healthy r.meetingControllerId →
      r ∈ (cleanupStep db e).1.meetingAssignments

/-- The condition on a step: the tables a statement finds. -/
def RowsTogether (db : Database) : CleanupEvent → Prop
  | .endStale now inactivityHours batchSize _ => StaleTogether db now inactivityHours batchSize
  | .cleanupOld now retentionDays batchSize _ => OldTogether db now retentionDays batchSize
  | .other _ => True

theorem sparesLive_of_rowsTogether {db₀ db : Database} {h : List (CleanupEvent × Unit)}
    {e : CleanupEvent} (ha : (cleanupMachine db₀).allowed h db e) (hcond : RowsTogether db e) :
    SparesLive db e := by
  cases e with
  | other db' => trivial
  | endStale now inactivityHours batchSize picked =>
    intro r hr hactive hhealthy
    have hsame : endRow now picked r = r := by
      by_contra hchanged
      have hstale := endsOnlyStale_iff.mpr hcond picked ha r hr hchanged
      exact not_healthy_of_unhealthy hstale.2.2 hhealthy
    exact List.mem_map.mpr ⟨r, hr, hsame⟩
  | cleanupOld now retentionDays batchSize picked =>
    intro r hr hactive hhealthy
    by_contra hdeleted
    exact (deletesOnlyOld_iff.mpr hcond picked ha r hr hdeleted).2 hactive

/-- Each statement touches only rows that its condition names iff these rows are
    all those of their meetings, and passes over such tables spare the active
    assignments to healthy controllers in every run. -/
theorem cleanup_touches_only_own (db : Database) :
    (∀ now inactivityHours batchSize, EndsOnlyStale db now inactivityHours batchSize ↔
      StaleTogether db now inactivityHours batchSize) ∧
    (∀ now retentionDays batchSize, DeletesOnlyOld db now retentionDays batchSize ↔
      OldTogether db now retentionDays batchSize) ∧
    ∀ h db', (cleanupMachine db).Run h db' →
      (∀ e a h', (e, a) :: h' <:+ h → RowsTogether ((cleanupMachine db).stateAfter h') e) →
      ∀ e a h', (e, a) :: h' <:+ h → SparesLive ((cleanupMachine db).stateAfter h') e := by
  refine ⟨fun _ _ _ => endsOnlyStale_iff, fun _ _ _ => deletesOnlyOld_iff, ?_⟩
  intro h db' hr hcond e a h' hsuffix
  exact sparesLive_of_rowsTogether (hr.answer_of_suffix hsuffix).2 (hcond e a h' hsuffix)

/-- The controllers of the tables below. -/
def twoControllers : List ControllerRow := [⟨"mc-eu", .unhealthy⟩, ⟨"mc-us", .healthy⟩]

/-- A meeting in two regions, both assigned at 0. -/
def twoRegions (endedInEu : Option ℤ) : Database where
  meetingAssignments := [⟨"meeting-1", "mc-eu", "eu", 0, "gc-1", endedInEu⟩,
    ⟨"meeting-1", "mc-us", "us", 0, "gc-1", none⟩]
  meetingControllers := twoControllers
  assignmentKey := by
    show List.Nodup [("meeting-1", "eu"), ("meeting-1", "us")]
    decide
  controllerKey := by decide
  controllerReference r hr := by
    rcases List.mem_cons.mp hr with rfl | hr
    · exact ⟨⟨"mc-eu", .unhealthy⟩, by decide, rfl⟩
    · obtain rfl := List.mem_singleton.mp hr
      exact ⟨⟨"mc-us", .healthy⟩, by decide, rfl⟩

/-- A stale meeting and an active one, in one region each. -/
def twoMeetings : Database where
  meetingAssignments := [⟨"meeting-1", "mc-eu", "eu", 0, "gc-1", none⟩,
    ⟨"meeting-2", "mc-us", "us", 0, "gc-1", none⟩]
  meetingControllers := twoControllers
  assignmentKey := by decide
  controllerKey := by decide
  controllerReference := by decide

/-- After two hours the statement finds the row of the first region. -/
def endsEu : CleanupEvent :=
  .endStale 7200000000 1 none [⟨"meeting-1", "mc-eu", "eu", 0, "gc-1", none⟩]

theorem cleanup_spares_twoMeetings :
    ∃ h db, (cleanupMachine twoMeetings).Run h db ∧
      ∀ e a h', (e, a) :: h' <:+ h → SparesLive ((cleanupMachine twoMeetings).stateAfter h') e := by
  have ha : (cleanupMachine twoMeetings).allowed [] twoMeetings endsEu :=
    ⟨_, List.Perm.refl _, by decide⟩
  have hr := Machine.Run.cons endsEu .nil ha
  refine ⟨_, _, hr, (cleanup_touches_only_own twoMeetings).2.2 _ _ hr ?_⟩
  intro e' a h' hsuffix
  obtain ⟨h₁, h₂⟩ : (e', a) = (endsEu, ()) ∧ h' = [] := by
    rcases List.suffix_cons_iff.mp hsuffix with heq | hnil
    · exact ⟨(List.cons.inj heq).1, (List.cons.inj heq).2⟩
    · cases List.suffix_nil.mp hnil
  cases h₁
  subst h₂
  refine .inr ?_
  decide

/-- After ten days the statement finds the row that ended in the first region. -/
def deletesEu : CleanupEvent :=
  .cleanupOld 864000000000 7 none [⟨"meeting-1", "mc-eu", "eu", 0, "gc-1", some 1⟩]

/-- The assignment in the healthy region is ended with the stale one of the other
    region, and deleted with one that ended there long ago. -/
theorem otherRegion_ended_and_deleted :
    ((cleanupMachine (twoRegions none)).allowed [] (twoRegions none) endsEu ∧
      ¬ EndsOnlyStale (twoRegions none) 7200000000 1 none ∧
      ¬ SparesLive (twoRegions none) endsEu) ∧
    (cleanupMachine (twoRegions (some 1))).allowed [] (twoRegions (some 1)) deletesEu ∧
      ¬ DeletesOnlyOld (twoRegions (some 1)) 864000000000 7 none ∧
      ¬ SparesLive (twoRegions (some 1)) deletesEu := by
  have hlive : ∀ endedInEu, (⟨"meeting-1", "mc-us", "us", 0, "gc-1", none⟩ : AssignmentRow) ∈
      (twoRegions endedInEu).meetingAssignments ∧ (twoRegions endedInEu).Healthy "mc-us" :=
    fun _ => ⟨List.mem_cons_of_mem _ List.mem_cons_self, ⟨"mc-us", .healthy⟩,
      List.mem_cons_of_mem _ List.mem_cons_self, rfl, rfl⟩
  refine ⟨⟨⟨_, List.Perm.refl _, by decide⟩, fun h => ?_, fun h => ?_⟩,
    ⟨_, List.Perm.refl _, by decide⟩, fun h => ?_, fun h => ?_⟩
  · have hstale := h _ ⟨_, List.Perm.refl _, rfl⟩ _ (hlive none).1 (by decide)
    exact not_healthy_of_unhealthy hstale.2.2 (hlive none).2
  · exact absurd (h _ (hlive none).1 rfl (hlive none).2) (by decide)
  · exact (h _ ⟨_, List.Perm.refl _, rfl⟩ _ (hlive (some 1)).1 (by decide)).2 rfl
  · exact absurd (h _ (hlive (some 1)).1 rfl (hlive (some 1)).2) (by decide)

end DarkTower.Gc
