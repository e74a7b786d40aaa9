import DarkTower.Gc.AssignMeeting

/-!
# Do concurrent assignments of a meeting agree?

The calls of `assign_meeting_with_mh` for one meeting in one region, from any
tables on, among other statements that leave the row of the meeting alone. The
controller that the row names is healthy and heartbeats: it is fresh whenever a
statement of a call is executed.

* `RowNames.callStep`: no statement of a call then changes which controller an
  active row names, and what a call finds or writes is what the row names.
* `assignments_agree`: all calls that return an assignment return the controller
  of the row, which `get_healthy_assignment` reports.
-/

namespace DarkTower.Gc

open DarkTower.Lib Tables

section

variable (stalenessThreshold : ℤ) (meetingId region : String) (t₀ : Tables)

/-- The controller of the row of the meeting is healthy and has heartbeated
    within the staleness threshold. -/
def HealthyAt (now : ℤ) (t : Tables) : Prop :=
  ∀ r ∈ t.assignment meetingId region, ∀ c ∈ t.meetingControllers,
    c.controllerId = r.meetingControllerId → Fresh now c

instance (now : ℤ) (t : Tables) : Decidable (HealthyAt meetingId region now t) :=
  inferInstanceAs (Decidable (∀ r ∈ t.assignment meetingId region, _))

/-- The calls for a meeting in a region from the tables `t₀` on. -/
def assignMachine : Machine GcSystem AssignEvent Unit where
  init := ⟨t₀, ∅⟩
  step s e := (s.step stalenessThreshold meetingId region e, ())
  allowed _ s e :=
    s.Admits stalenessThreshold meetingId region e ∧
      match e with
      | .call _ e => ∀ now ∈ e.now?, HealthyAt meetingId region now s.tables
      | _ => True

end

/-- The assignment that a call has found, has written or returns. -/
def CallPc.held : CallPc → Option McAssignment
  | .selectMhs existing => existing
  | .done (.ok a) => some a.mcAssignment
  | _ => none

/-- A call has returned an assignment. -/
def GcSystem.Returned (s : GcSystem) (call : ℕ) (a : AssignmentWithMh) : Prop :=
  ∃ gcId, s.calls.lookup call = some ⟨gcId, .done (.ok a)⟩

/-- The meeting has an active row, which names the controller. -/
def RowNames (meetingId region : String) (t : Tables) (controllerId : String) : Prop :=
  ∃ r, t.assignment meetingId region = some r ∧ r.endedAt = none ∧
    r.meetingControllerId = controllerId

variable {meetingId region : String}

theorem RowNames.unique {t : Tables} {id id' : String} (h : RowNames meetingId region t id)
    (h' : RowNames meetingId region t id') : id = id' := by
  obtain ⟨r, hr, _, rfl⟩ := h
  obtain ⟨r', hr', _, rfl⟩ := h'
  rw [hr] at hr'
  rw [Option.some.inj hr']

theorem RowNames.of_assignment_eq {t t' : Tables} {id : String}
    (h : RowNames meetingId region t id)
    (heq : t'.assignment meetingId region = t.assignment meetingId region) :
    RowNames meetingId region t' id := by
  unfold RowNames at h ⊢
  rw [heq]
  exact h

/-- While its controller is fresh, a row is not replaced. -/
theorem not_replaceable_of_healthyAt {t : Tables} {now : ℤ} {r : AssignmentRow}
    (hhealthy : HealthyAt meetingId region now t) (hr : t.assignment meetingId region = some r) :
    ¬ t.Replaceable now r :=
  not_replaceable_of_fresh (hhealthy r hr)

/-! ## The statement of `atomic_assign` -/

section

variable {t : Tables} {now : ℤ} {gcId : String}

theorem RowNames.assignRow {controllerId : String} (hhealthy : HealthyAt meetingId region now t)
    {id : String} (h : RowNames meetingId region t id) :
    RowNames meetingId region (t.assignRow now meetingId region controllerId gcId).1 id := by
  have hcase := assignRow_cases t now meetingId region controllerId gcId
  generalize t.assignRow now meetingId region controllerId gcId = result at hcase
  obtain ⟨r, hr, hactive, hid⟩ := h
  cases hcase with
  | inserted t' hnone hrow =>
    rw [hnone] at hr
    cases hr
  | replaced t' r' hold hreplaceable hrow =>
    exact absurd hreplaceable (not_replaceable_of_healthyAt hhealthy hold)
  | kept r' hold hnot => exact ⟨r, hr, hactive, hid⟩
  | refused => exact ⟨r, hr, hactive, hid⟩

/-- A call that wins writes the row. -/
theorem rowNames_afterAssign {mhSelection : MhSelection} {selectedMc : McCandidate}
    (hhealthy : HealthyAt meetingId region now t) {a : McAssignment}
    (ha : (afterAssign mhSelection selectedMc
      (t.assignRow now meetingId region selectedMc.controllerId gcId).2).held = some a) :
    RowNames meetingId region (t.assignRow now meetingId region selectedMc.controllerId gcId).1
      a.mcId := by
  have hcase := assignRow_cases t now meetingId region selectedMc.controllerId gcId
  generalize t.assignRow now meetingId region selectedMc.controllerId gcId = result at hcase ha
  cases hcase with
  | inserted t' hnone hrow =>
    obtain rfl := Option.some.inj ha
    exact ⟨_, hrow, rfl, rfl⟩
  | replaced t' r hold hreplaceable hrow =>
    exact absurd hreplaceable (not_replaceable_of_healthyAt hhealthy hold)
  | kept r hold hnot => cases ha
  | refused => cases ha

end

/-! ## The steps -/

/-- A step of a call keeps the controller that the row names, and the row names
    the controller of the assignment that the call holds then. -/
theorem RowNames.callStep {t : Tables} {c : Call} {e : CallEvent}
    (hhealthy : ∀ now ∈ e.now?, HealthyAt meetingId region now t)
    (hheld : ∀ a, c.pc.held = some a → RowNames meetingId region t a.mcId) :
    (∀ id, RowNames meetingId region t id →
        RowNames meetingId region (callStep meetingId region t c e).1 id) ∧
      ∀ a, (callStep meetingId region t c e).2.held = some a →
        RowNames meetingId region (callStep meetingId region t c e).1 a.mcId := by
  have hcase := callStep_cases meetingId region t c e
  generalize Gc.callStep meetingId region t c e = result at hcase ⊢
  cases hcase with
  | stays => exact ⟨fun _ h => h, hheld⟩
  | failed error => exact ⟨fun _ h => h, fun a ha => by cases ha⟩
  | looked now hpc => exact ⟨fun _ h => h, fun a ha => getHealthyAssignment_eq_some ha⟩
  | reused candidates choice₁ choice₂ existing mhSelection hpc =>
    refine ⟨fun _ h => h, fun a ha => hheld a ?_⟩
    rw [hpc]
    exact ha
  | selected => exact ⟨fun _ h => h, fun a ha => by cases ha⟩
  | tries => exact ⟨fun _ h => h, fun a ha => by cases ha⟩
  | retries => exact ⟨fun _ h => h, fun a ha => by cases ha⟩
  | accepted => exact ⟨fun _ h => h, fun a ha => by cases ha⟩
  | assigned now mhSelection selectedMc hpc =>
    exact ⟨fun _ h => h.assignRow (hhealthy now rfl),
      fun a ha => rowNames_afterAssign (hhealthy now rfl) ha⟩
  | lost now mhSelection selectedMc hpc =>
    exact ⟨fun _ h => h.assignRow (hhealthy now rfl), fun a ha => by cases ha⟩
  | reread now mhSelection current hpc hcurrent =>
    refine ⟨fun _ h => h, fun a ha => ?_⟩
    obtain rfl := Option.some.inj ha
    exact getCurrentAssignment_eq_some hcurrent

/-- Every call that holds an assignment holds that of the row. -/
def AllRecorded (meetingId region : String) (s : GcSystem) : Prop :=
  ∀ call c a, s.calls.lookup call = some c → c.pc.held = some a → RowNames meetingId region s.tables a.mcId

variable {stalenessThreshold : ℤ} {t₀ : Tables}

theorem AllRecorded.step {s : GcSystem} {e : AssignEvent} {h : List (AssignEvent × Unit)}
    (ha : (assignMachine stalenessThreshold meetingId region t₀).allowed h s e)
    (hs : AllRecorded meetingId region s) :
    AllRecorded meetingId region (s.step stalenessThreshold meetingId region e) := by
  have hcase := GcSystem.step_cases stalenessThreshold meetingId region s e
  generalize s.step stalenessThreshold meetingId region e = s' at hcase ⊢
  intro call c a hcall hheld
  cases hcase with
  | stutter => exact hs call c a hcall hheld
  | started id gcId hid =>
    rcases GcSystem.lookup_set.mp hcall with ⟨_, rfl⟩ | ⟨_, hcall⟩
    · cases hheld
    · exact hs call c a hcall hheld
  | called id e c₀ hid =>
    obtain ⟨hkeeps, hnew⟩ := RowNames.callStep ha.2 fun a ha => hs id c₀ a hid ha
    rcases GcSystem.lookup_set.mp hcall with ⟨_, rfl⟩ | ⟨_, hcall⟩
    · exact hnew a hheld
    · exact hkeeps a.mcId (hs call c a hcall hheld)
  | other e => exact (hs call c a hcall hheld).of_assignment_eq ha.1

theorem run_allRecorded {h : List (AssignEvent × Unit)} {s : GcSystem}
    (hr : (assignMachine stalenessThreshold meetingId region t₀).Run h s) :
    AllRecorded meetingId region s := by
  refine Machine.Run.invariant (I := fun _ s => AllRecorded meetingId region s) ?_ ?_ hr
  · intro call c a hcall
    cases hcall
  · intro h s e _ ha hs
    exact hs.step ha

/-- In every run the row of the meeting names the controller of an assignment
    that a call has returned, `get_healthy_assignment` reports it while it is
    healthy, and every other call that returns an assignment returns the same. -/
theorem assignments_agree {h : List (AssignEvent × Unit)} {s : GcSystem}
    (hr : (assignMachine stalenessThreshold meetingId region t₀).Run h s) {call : ℕ}
    {a : AssignmentWithMh} (hreturned : s.Returned call a) :
    (∃ r, s.tables.assignment meetingId region = some r ∧ r.endedAt = none ∧
        r.meetingControllerId = a.mcAssignment.mcId) ∧
      (∀ now, HealthyAt meetingId region now s.tables →
        ∃ reported, s.tables.getHealthyAssignment now meetingId region = some reported ∧
          reported.mcId = a.mcAssignment.mcId) ∧
      ∀ call' a', s.Returned call' a' → a'.mcAssignment.mcId = a.mcAssignment.mcId := by
  have hs := run_allRecorded hr
  obtain ⟨gcId, hcall⟩ := hreturned
  have hrow := hs call _ a.mcAssignment hcall rfl
  refine ⟨hrow, fun now hhealthy => ?_, fun call' a' hreturned' => ?_⟩
  · obtain ⟨r, hr, hactive, hid⟩ := hrow
    rw [← hid]
    exact getHealthyAssignment_of_fresh hr hactive (hhealthy r hr)
  · obtain ⟨gcId', hcall'⟩ := hreturned'
    exact (hs call' _ a'.mcAssignment hcall' rfl).unique hrow

/-! ## A concrete run -/

/-- A second controller. -/
def otherRegistration : Registration := ⟨"mc-2", "us", "https://mc2:50051", none, 100, 1000⟩

/-- Two healthy controllers without meetings. -/
def healthyTables : Tables :=
  ((((Tables.empty.registerMc 0 sampleRegistration).registerMc 0 otherRegistration).updateHeartbeat
    1 "mc-1" 0 0 .healthy).1.updateHeartbeat 1 "mc-2" 0 0 .healthy).1

/-- A handler that `get_candidate_mhs` returns. -/
def sampleHandler : MhCandidate := ⟨"mh-1", "https://mh1:4433", "http://mh1:50053"⟩

/-- The machine of the run. -/
abbrev sampleAssign : Machine GcSystem AssignEvent Unit :=
  assignMachine 60 "meeting-1" "us" healthyTables

/-- Two calls ask different controllers, both of which accept. The second to
    write finds the row of the first. -/
def raceEvents : List AssignEvent :=
  [.start 1 "gc-1", .start 2 "gc-2", .call 1 (.getHealthyAssignment 2),
    .call 2 (.getHealthyAssignment 3), .call 1 (.selectMhs [sampleHandler] 0 0),
    .call 2 (.selectMhs [sampleHandler] 0 0),
    .call 1 (.getCandidateMcs 4 (healthyTables.candidateRows 4 "us") 1),
    .call 2 (.getCandidateMcs 5 (healthyTables.candidateRows 5 "us") 0),
    .call 1 (.assignMeeting (.ok .accepted)), .call 2 (.assignMeeting (.ok .accepted)),
    .call 1 (.atomicAssign 6), .call 2 (.atomicAssign 7), .call 2 (.getCurrentAssignment 8)]

theorem run_race : sampleAssign.Run (sampleAssign.playAll raceEvents).2
    (sampleAssign.playAll raceEvents).1 :=
  Machine.run_of_admits ⟨⟨trivial, trivial⟩, ⟨trivial, trivial⟩, ⟨trivial, by decide⟩,
    ⟨trivial, by decide⟩, ⟨trivial, by decide⟩, ⟨trivial, by decide⟩,
    ⟨⟨_, List.Perm.refl _, by decide⟩, by decide⟩, ⟨⟨_, List.Perm.refl _, by decide⟩, by decide⟩,
    ⟨trivial, by decide⟩, ⟨trivial, by decide⟩, ⟨trivial, by decide⟩, ⟨trivial, by decide⟩,
    ⟨trivial, by decide⟩, trivial⟩

/-- What the second call returns: the controller of the first. -/
def raceAssignment : AssignmentWithMh :=
  ⟨⟨"mc-1", "https://mc1:50051", none⟩, ⟨[sampleHandler.info]⟩⟩

theorem assignments_agree_race :
    sampleAssign.Run (sampleAssign.playAll raceEvents).2 (sampleAssign.playAll raceEvents).1 ∧
      (sampleAssign.playAll raceEvents).1.Returned 2 raceAssignment ∧
      (∃ r, (sampleAssign.playAll raceEvents).1.tables.assignment "meeting-1" "us" = some r ∧
        r.endedAt = none ∧ r.meetingControllerId = "mc-1") ∧
      (∀ now, HealthyAt "meeting-1" "us" now (sampleAssign.playAll raceEvents).1.tables →
        ∃ reported, (sampleAssign.playAll raceEvents).1.tables.getHealthyAssignment now
          "meeting-1" "us" = some reported ∧ reported.mcId = "mc-1") ∧
      ∀ call' a', (sampleAssign.playAll raceEvents).1.Returned call' a' →
        a'.mcAssignment.mcId = "mc-1" :=
  have hreturned : (sampleAssign.playAll raceEvents).1.Returned 2 raceAssignment :=
    ⟨"gc-2", by decide⟩
  ⟨run_race, hreturned, assignments_agree run_race hreturned⟩

end DarkTower.Gc
