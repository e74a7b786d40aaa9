import DarkTower.Gc.Cleanup
import DarkTower.Gc.Controllers

/-!
# Does the assignment cleanup spare live controllers?

The statements that write `health_status` and `last_heartbeat_at`, the health
checker with its staleness threshold, and the two statements of `run_cleanup`
(`gc-service/src/tasks/assignment_cleanup.rs:141`), in any order.

* `cleanup_spares_live`: in a run in which every active assignment of the
  meetings that a cleanup statement finds is on a controller that the health
  checker marked since its last heartbeat and registration (`MarkedSince`), no
  controller loses an assignment within the staleness threshold.
* `draining_loses_assignment`: `end_stale_assignments` asks for a status other than
  `'healthy'`, which a controller that heartbeats can report itself.
-/

namespace DarkTower.Gc

open DarkTower.Lib Tables

/-- A statement, with its time; the statements of the cleanup with the rows
    `LIMIT` picked. -/
inductive PlacementEvent
  | registerMc (now : ℤ) (registration : Registration)
  | updateHeartbeat (now : ℤ) (controllerId : String) (currentMeetings currentParticipants : ℤ)
      (healthStatus : HealthStatus)
  | markStaleControllersUnhealthy (now : ℤ)
  | atomicAssign (now : ℤ) (meetingId region controllerId gcId : String)
  | endStaleAssignments (now inactivityHours : ℤ) (picked : List AssignmentRow)
  | cleanupOldAssignments (now retentionDays : ℤ) (picked : List AssignmentRow)

/-- The time of a statement. -/
def PlacementEvent.now : PlacementEvent → ℤ
  | registerMc now _ => now
  | updateHeartbeat now _ _ _ _ => now
  | markStaleControllersUnhealthy now => now
  | atomicAssign now _ _ _ _ => now
  | endStaleAssignments now _ _ => now
  | cleanupOldAssignments now _ _ => now

/-- A statement of `run_cleanup`. -/
def PlacementEvent.isCleanup : PlacementEvent → Bool
  | endStaleAssignments _ _ _ | cleanupOldAssignments _ _ _ => true
  | _ => false

/-- The statements so far, the last one first. -/
abbrev PlacementHistory := List (PlacementEvent × Unit)

/-- One statement; `stalenessThreshold` is that of the health checker, in seconds. -/
def placementStep (stalenessThreshold : ℤ) (t : Tables) : PlacementEvent → Tables × Unit
  | .registerMc now registration => (t.registerMc now registration, ())
  | .updateHeartbeat now controllerId currentMeetings currentParticipants healthStatus =>
    ((t.updateHeartbeat now controllerId currentMeetings currentParticipants healthStatus).1, ())
  | .markStaleControllersUnhealthy now =>
    ((t.markStaleControllersUnhealthy now stalenessThreshold).1, ())
  | .atomicAssign now meetingId region controllerId gcId =>
    ((t.assignRow now meetingId region controllerId gcId).1, ())
  | .endStaleAssignments now _ picked => (t.endStaleAssignments now picked, ())
  | .cleanupOldAssignments _ _ picked => (t.cleanupOldAssignments picked, ())

/-- The statements from empty tables on, under a clock that does not go back. -/
def placementMachine (stalenessThreshold : ℤ) : Machine Tables PlacementEvent Unit where
  init := .empty
  step := placementStep stalenessThreshold
  allowed h t e :=
    (∀ x ∈ h, x.1.now ≤ e.now) ∧
      match e with
      | .endStaleAssignments now inactivityHours picked =>
        Picks (batchLimit none) (t.view.staleRows now inactivityHours) picked
      | .cleanupOldAssignments now retentionDays picked =>
        Picks (batchLimit none) (t.view.oldRows now retentionDays) picked
      | _ => True

variable {stalenessThreshold : ℤ}

/-- The health checker has marked the controller since its last registration and
    its last heartbeat. -/
def MarkedSince (stalenessThreshold : ℤ) : PlacementHistory → String → Prop
  | [], _ => False
  | (e, _) :: h, id =>
    match e with
    | .registerMc _ registration => registration.id ≠ id ∧ MarkedSince stalenessThreshold h id
    | .updateHeartbeat _ controllerId _ _ _ =>
      controllerId ≠ id ∧ MarkedSince stalenessThreshold h id
    | .markStaleControllersUnhealthy now =>
      (∃ c ∈ ((placementMachine stalenessThreshold).stateAfter h).meetingControllers,
          c.controllerId = id ∧ MissedHeartbeat now stalenessThreshold c) ∨
        MarkedSince stalenessThreshold h id
    | _ => MarkedSince stalenessThreshold h id

/-- The controller was last heard of, by a heartbeat or a registration, longer ago
    than the staleness threshold. -/
def Silent (stalenessThreshold now : ℤ) (t : Tables) (id : String) : Prop :=
  ∃ c ∈ t.meetingControllers, c.controllerId = id ∧
    c.lastHeartbeatAt < secondsBefore now stalenessThreshold

/-- The statement takes active assignments from silent controllers only. -/
def SparesLiveControllers (stalenessThreshold : ℤ) (t : Tables) (e : PlacementEvent) : Prop :=
  match e with
  | .endStaleAssignments now _ _ | .cleanupOldAssignments now _ _ =>
    ∀ r ∈ t.meetingAssignments, r.endedAt = none →
      r ∉ (placementStep stalenessThreshold t e).1.meetingAssignments →
        Silent stalenessThreshold now t r.meetingControllerId
  | _ => True

/-- The condition on a step: where a statement of the cleanup finds a row of a
    meeting, the controllers of all active assignments of the meeting have been
    marked by the health checker. -/
def FindsMarked (stalenessThreshold : ℤ) (h : PlacementHistory) (e : PlacementEvent) : Prop :=
  let t := (placementMachine stalenessThreshold).stateAfter h
  match e with
  | .endStaleAssignments now inactivityHours _ =>
    ∀ r ∈ t.meetingAssignments, ∀ r' ∈ t.meetingAssignments, r'.meetingId = r.meetingId →
      t.view.Stale now inactivityHours r → r'.endedAt = none →
        MarkedSince stalenessThreshold h r'.meetingControllerId
  | .cleanupOldAssignments now retentionDays _ =>
    ∀ r ∈ t.meetingAssignments, ∀ r' ∈ t.meetingAssignments, r'.meetingId = r.meetingId →
      Database.Old now retentionDays r → r'.endedAt = none →
        MarkedSince stalenessThreshold h r'.meetingControllerId
  | _ => True

theorem findsMarked_of_isCleanup {e : PlacementEvent} (he : e.isCleanup = false)
    (h : PlacementHistory) : FindsMarked stalenessThreshold h e := by
  cases e with
  | endStaleAssignments _ _ _ => cases he
  | cleanupOldAssignments _ _ _ => cases he
  | _ => trivial

/-! ## What a mark means -/

/-- A registration leaves the other controllers as they are. -/
theorem mem_registerMc {t : Tables} {now : ℤ} {r : Registration} {c : MeetingController}
    (hc : c ∈ (t.registerMc now r).meetingControllers) (hid : r.id ≠ c.controllerId) :
    c ∈ t.meetingControllers := by
  unfold registerMc at hc
  split_ifs at hc
  · rcases List.mem_cons.mp hc with rfl | hc
    · exact absurd rfl hid
    · exact hc
  · obtain ⟨c', hc', rfl⟩ := List.mem_map.mp hc
    rw [Registration.updateRow_controllerId] at hid
    rw [Registration.updateRow, if_neg hid.symm]
    exact hc'

theorem mem_updateHeartbeat {t : Tables} {now : ℤ} {controllerId : String}
    {currentMeetings currentParticipants : ℤ} {healthStatus : HealthStatus} {c : MeetingController}
    (hc : c ∈ (t.updateHeartbeat now controllerId currentMeetings currentParticipants
      healthStatus).1.meetingControllers)
    (hid : controllerId ≠ c.controllerId) : c ∈ t.meetingControllers := by
  obtain ⟨c', hc', rfl⟩ := List.mem_map.mp hc
  rw [heartbeatRow_controllerId] at hid
  rw [heartbeatRow, if_neg hid.symm]
  exact hc'

theorem markRow_lastHeartbeatAt (now : ℤ) (c : MeetingController) :
    (markRow now stalenessThreshold c).lastHeartbeatAt = c.lastHeartbeatAt := by
  unfold markRow
  split_ifs <;> rfl

theorem assignRow_controllers (t : Tables) (now : ℤ) (meetingId region controllerId gcId : String) :
    (t.assignRow now meetingId region controllerId gcId).1.meetingControllers =
      t.meetingControllers := by
  unfold assignRow
  split_ifs <;> rfl

/-- In every run a controller marked by the health checker has been silent for
    longer than the threshold, at any later time. -/
theorem run_marked_silent {h : PlacementHistory} {t : Tables}
    (hr : (placementMachine stalenessThreshold).Run h t) :
    ∀ c ∈ t.meetingControllers, MarkedSince stalenessThreshold h c.controllerId →
      ∀ now, (∀ x ∈ h, x.1.now ≤ now) →
        c.lastHeartbeatAt < secondsBefore now stalenessThreshold := by
  refine Machine.Run.invariant (I := fun h t => ∀ c ∈ t.meetingControllers,
    MarkedSince stalenessThreshold h c.controllerId → ∀ now, (∀ x ∈ h, x.1.now ≤ now) →
      c.lastHeartbeatAt < secondsBefore now stalenessThreshold) ?_ ?_ hr
  · exact fun c hc => absurd hc List.not_mem_nil
  · intro h t e hrun _ hI c hc hmarked now hnow
    have hbefore : ∀ x ∈ h, x.1.now ≤ now := fun x hx => hnow x (List.mem_cons_of_mem _ hx)
    have hlast : e.now ≤ now := hnow _ List.mem_cons_self
    cases e with
    | registerMc now' registration =>
      exact hI c (mem_registerMc hc hmarked.1) hmarked.2 now hbefore
    | updateHeartbeat now' controllerId currentMeetings currentParticipants healthStatus =>
      exact hI c (mem_updateHeartbeat hc hmarked.1) hmarked.2 now hbefore
    | markStaleControllersUnhealthy now' =>
      obtain ⟨c₀, hc₀, rfl⟩ := List.mem_map.mp hc
      rw [markRow_lastHeartbeatAt]
      rw [markRow_controllerId] at hmarked
      rcases hmarked with ⟨c', hc', hid, hmissed⟩ | hmarked
      · rw [← hrun.eq_stateAfter] at hc'
        obtain rfl := unique_of_controllerId hc' hc₀ hid
        exact Int.lt_of_lt_of_le hmissed.1 (secondsBefore_mono hlast stalenessThreshold)
      · exact hI c₀ hc₀ hmarked now hbefore
    | atomicAssign now' meetingId region controllerId gcId =>
      have hc' : c ∈ (t.assignRow now' meetingId region controllerId gcId).1.meetingControllers := hc
      rw [assignRow_controllers] at hc'
      exact hI c hc' hmarked now hbefore
    | endStaleAssignments now' inactivityHours picked => exact hI c hc hmarked now hbefore
    | cleanupOldAssignments now' retentionDays picked => exact hI c hc hmarked now hbefore

/-- The same for the controller of an assignment. -/
theorem silent_of_marked {h : PlacementHistory} {t : Tables}
    (hr : (placementMachine stalenessThreshold).Run h t) {now : ℤ} (hnow : ∀ x ∈ h, x.1.now ≤ now)
    {r : AssignmentRow} (hmem : r ∈ t.meetingAssignments)
    (hmarked : MarkedSince stalenessThreshold h r.meetingControllerId) :
    Silent stalenessThreshold now t r.meetingControllerId := by
  obtain ⟨c, hc, hid⟩ := t.controllerReference r hmem
  rw [← hid] at hmarked
  exact ⟨c, hc, hid, run_marked_silent hr c hc hmarked now hnow⟩

/-! ## The cleanup -/

theorem sparesLiveControllers_of_findsMarked {h : PlacementHistory} {t : Tables}
    {e : PlacementEvent} (hr : (placementMachine stalenessThreshold).Run h t)
    (ha : (placementMachine stalenessThreshold).allowed h t e)
    (hcond : FindsMarked stalenessThreshold h e) : SparesLiveControllers stalenessThreshold t e := by
  obtain ⟨hnow, hpicks⟩ := ha
  unfold FindsMarked at hcond
  rw [← hr.eq_stateAfter] at hcond
  cases e with
  | endStaleAssignments now inactivityHours picked =>
    intro r hmem hactive hgone
    have hpicked : r.meetingId ∈ picked.map (·.meetingId) := by
      by_contra hnot
      exact hgone (List.mem_map.mpr ⟨r, hmem, Database.endRow_eq_self_iff.mpr (.inl hnot)⟩)
    obtain ⟨_, r₀, hr₀, hmeeting⟩ := exists_of_picked hpicks hpicked
    obtain ⟨hmem₀, hstale⟩ := Database.mem_staleRows.mp hr₀
    exact silent_of_marked hr hnow hmem (hcond r₀ hmem₀ r hmem hmeeting hstale hactive)
  | cleanupOldAssignments now retentionDays picked =>
    intro r hmem hactive hgone
    have hpicked : r.meetingId ∈ picked.map (·.meetingId) := by
      by_contra hnot
      exact hgone (Database.mem_cleanupOldAssignments.mpr ⟨hmem, hnot⟩)
    obtain ⟨_, r₀, hr₀, hmeeting⟩ := exists_of_picked hpicks hpicked
    obtain ⟨hmem₀, hold⟩ := Database.mem_oldRows.mp hr₀
    exact silent_of_marked hr hnow hmem (hcond r₀ hmem₀ r hmem hmeeting hold hactive)
  | _ => trivial

/-- In every run in which the statements of the cleanup find only meetings whose
    active assignments are on controllers marked by the health checker, they take
    active assignments only from controllers that have been silent for longer
    than its threshold. -/
theorem cleanup_spares_live {h : PlacementHistory} {t : Tables}
    (hr : (placementMachine stalenessThreshold).Run h t)
    (hcond : ∀ e a h', (e, a) :: h' <:+ h → FindsMarked stalenessThreshold h' e) :
    ∀ e a h', (e, a) :: h' <:+ h → SparesLiveControllers stalenessThreshold
      ((placementMachine stalenessThreshold).stateAfter h') e := by
  intro e a h' hs
  have hrun := hr.suffix ((List.suffix_cons _ _).trans hs)
  exact sparesLiveControllers_of_findsMarked hrun (hr.answer_of_suffix hs).2 (hcond e a h' hs)

/-! ## Concrete runs -/

/-- One hour, in microseconds. -/
def hour : ℤ := 3600000000

/-- The controller of the runs. -/
def sampleRegistration : Registration := ⟨"mc-1", "us", "https://mc1:50051", none, 100, 1000⟩

/-- A controller registers, reports that it is healthy and is given a meeting. -/
def assignedEvents : List PlacementEvent :=
  [.registerMc 0 sampleRegistration, .updateHeartbeat 1 "mc-1" 0 0 .healthy,
    .atomicAssign 2 "meeting-1" "us" "mc-1" "gc-1"]

/-- The assignment of these runs. -/
def sampleAssignment : AssignmentRow := ⟨"meeting-1", "mc-1", "us", 2, "gc-1", none⟩

/-- Two hours later the cleanup finds the meeting. -/
def endsMeeting : PlacementEvent := .endStaleAssignments (2 * hour) 1 [sampleAssignment]

/-- The controller falls silent and is marked before the cleanup. -/
def silentEvents : List PlacementEvent :=
  assignedEvents ++ [.markStaleControllersUnhealthy (2 * hour)]

/-- The controller drains and reports so, a microsecond before the cleanup. -/
def drainingEvents : List PlacementEvent :=
  assignedEvents ++ [.updateHeartbeat (2 * hour - 1) "mc-1" 1 5 .draining]

/-- The machine of the concrete runs. -/
abbrev samplePlacement : Machine Tables PlacementEvent Unit := placementMachine 60

theorem run_silent : samplePlacement.Run (samplePlacement.playAll (silentEvents ++ [endsMeeting])).2
    (samplePlacement.playAll (silentEvents ++ [endsMeeting])).1 :=
  Machine.run_of_admits ⟨⟨by decide, trivial⟩, ⟨by decide, trivial⟩, ⟨by decide, trivial⟩,
    ⟨by decide, trivial⟩, ⟨by decide, _, List.Perm.refl _, by decide⟩, trivial⟩

theorem cleanup_spares_live_silent :
    samplePlacement.Run (samplePlacement.playAll (silentEvents ++ [endsMeeting])).2
        (samplePlacement.playAll (silentEvents ++ [endsMeeting])).1 ∧
      ∀ e a h', (e, a) :: h' <:+ (samplePlacement.playAll (silentEvents ++ [endsMeeting])).2 →
        SparesLiveControllers 60 (samplePlacement.stateAfter h') e := by
  refine ⟨run_silent, cleanup_spares_live run_silent fun e a h' hs => ?_⟩
  rcases List.suffix_cons_iff.mp hs with heq | hs
  · obtain ⟨hevent, rfl⟩ := List.cons.inj heq
    obtain ⟨rfl, rfl⟩ := Prod.mk.inj hevent
    intro r hr r' hr' _ _ _
    obtain rfl := List.mem_singleton.mp hr'
    exact .inl ⟨_, List.mem_singleton_self _, rfl, by decide⟩
  · have hother : ∀ x ∈ (samplePlacement.playAll silentEvents).2, x.1.isCleanup = false := by
      decide
    exact findsMarked_of_isCleanup (hother _ (hs.subset List.mem_cons_self)) h'

/-- The draining controller loses its meeting, although it was heard of a
    microsecond ago. -/
theorem draining_loses_assignment :
    samplePlacement.Run (samplePlacement.playAll (drainingEvents ++ [endsMeeting])).2
        (samplePlacement.playAll (drainingEvents ++ [endsMeeting])).1 ∧
      ¬ SparesLiveControllers 60 (samplePlacement.playAll drainingEvents).1 endsMeeting := by
  refine ⟨Machine.run_of_admits ⟨⟨by decide, trivial⟩, ⟨by decide, trivial⟩, ⟨by decide, trivial⟩,
    ⟨by decide, trivial⟩, ⟨by decide, _, List.Perm.refl _, by decide⟩, trivial⟩, fun hspares => ?_⟩
  obtain ⟨c, hc, _, hsilent⟩ := hspares sampleAssignment (by decide) rfl (by decide)
  obtain rfl := List.mem_singleton.mp hc
  exact absurd hsilent (by decide)

end DarkTower.Gc
