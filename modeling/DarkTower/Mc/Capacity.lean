import DarkTower.Lib.Multimap
import DarkTower.Mc.Assignment

/-!
# Is the number of live meetings bounded?

Any number of concurrent `assign_meeting_with_mh` requests. Each checks the
capacity, stores its assignment, has the controller create the meeting and
counts it, in steps of its own; the controller removes meetings in between.

* `capacity_along`: the live meetings stay within `max_meetings`, and the
  counter is their number whenever no request is in progress, in every run in
  which no meeting leaves the controller and no check passes while the meetings
  and the requests that have passed it reach the limit.
* `overAdmission_and_capacityLoss`: two requests pass the check for the last
  place, and a removed meeting is never given back: nothing lowers
  `current_meetings`.
-/

namespace DarkTower.Mc

open DarkTower.Lib DarkTower.Lib.Multimap

/-- Where a request stands (mc_service.rs:225–292). -/
inductive AssignPc
  /-- Has passed `can_accept_meeting`. -/
  | checked (meetingId : String)
  /-- Has stored its assignment. -/
  | stored (meetingId : String)
  /-- Has created its meeting and not counted it. -/
  | created (meetingId : String)
  /-- Deletes its assignment. -/
  | deleting (meetingId : String)
deriving DecidableEq

/-- The meeting of a request that has passed the check and has not asked for the
    creation. -/
def AssignPc.admitted : AssignPc → List String
  | .checked m | .stored m => [m]
  | _ => []

/-- The meeting of a request that has created it and has not counted it. -/
def AssignPc.uncounted : AssignPc → List String
  | .created m => [m]
  | _ => []

/-- The service, the controller, and the requests under way between them. -/
structure CapacitySystem where
  service : AssignmentService
  controller : MeetingController
  /-- The message loop of the controller runs. -/
  running : Bool
  requests : AList fun _ : ℕ => AssignPc

/-- A step of a request, or of the controller. -/
inductive CapacityEvent
  /-- A request arrives and checks the capacity. -/
  | request (id : ℕ) (meetingId : String)
  /-- A request stores its assignment, or fails to. -/
  | store (id : ℕ) (stored : Bool)
  /-- The controller answers the `CreateMeeting` of a request. -/
  | create (id now : ℕ)
  /-- A request increments the counter. -/
  | count (id : ℕ)
  /-- A request has deleted its assignment. -/
  | delete (id : ℕ)
  | removeMeeting (meetingId : String)
  | checkHealth
  | shutdown
  /-- The loop of the controller ends with `graceful_shutdown`. -/
  | stop
  | taskEnds (meetingId : String) (task : TaskState)
deriving DecidableEq

namespace CapacitySystem

/-- A request goes on, or its step does nothing. -/
def onRequest (s : CapacitySystem) (id : ℕ) (f : AssignPc → CapacitySystem) : CapacitySystem :=
  match s.requests.lookup id with
  | none => s
  | some pc => f pc

/-- The request stands at `pc`. -/
def moves (s : CapacitySystem) (id : ℕ) (pc : AssignPc) : CapacitySystem :=
  { s with requests := s.requests.insert id pc }

/-- The request has been answered. -/
def answers (s : CapacitySystem) (id : ℕ) : CapacitySystem :=
  { s with requests := s.requests.erase id }

/-- A request checks the capacity, stores its handlers, creates its meeting or counts it. -/
def step (s : CapacitySystem) : CapacityEvent → CapacitySystem × Unit
  | .request id meetingId =>
    if id ∈ s.requests then (s, ())
    else
      match s.service.canAcceptMeeting with
      | some _ => (s, ())
      | none => (s.moves id (.checked meetingId), ())
  | .store id stored =>
    (s.onRequest id fun
      | .checked meetingId => if stored then s.moves id (.stored meetingId) else s.answers id
      | _ => s, ())
  | .create id now =>
    (s.onRequest id fun
      | .stored meetingId =>
        match createMeetingCall s.running s.controller now meetingId with
        | (controller, .ok ()) =>
          { s with controller := controller, requests := s.requests.insert id (.created meetingId) }
        | (controller, .error _) =>
          { s with controller := controller, requests := s.requests.insert id (.deleting meetingId) }
      | _ => s, ())
  | .count id =>
    (s.onRequest id fun
      | .created _ => { s with service := s.service.countMeeting, requests := s.requests.erase id }
      | _ => s, ())
  | .delete id =>
    (s.onRequest id fun
      | .deleting _ => s.answers id
      | _ => s, ())
  | .removeMeeting meetingId =>
    if s.running then ({ s with controller := (s.controller.removeMeeting meetingId).1 }, ())
    else (s, ())
  | .checkHealth =>
    if s.running then ({ s with controller := s.controller.checkMeetingHealth }, ()) else (s, ())
  | .shutdown =>
    if s.running then ({ s with controller := s.controller.initiateShutdown }, ()) else (s, ())
  | .stop =>
    if s.running ∧ s.controller.cancelled = true then
      ({ s with controller := s.controller.gracefulShutdown, running := false }, ())
    else (s, ())
  | .taskEnds meetingId task =>
    ({ s with controller := s.controller.taskEnds meetingId task }, ())

/-- The number of live meetings. -/
def live (s : CapacitySystem) : ℕ := s.controller.meetings.keys.length

/-- The meetings that requests have yet to create. -/
def admitted (s : CapacitySystem) : List String := flat AssignPc.admitted s.requests

/-- The meetings that requests have yet to count. -/
def uncounted (s : CapacitySystem) : List String := flat AssignPc.uncounted s.requests

/-- The meetings that are counted or will be, if every request succeeds. -/
def claimed (s : CapacitySystem) : ℕ :=
  s.service.currentMeetings.toNat + s.admitted.length + s.uncounted.length

end CapacitySystem

/-- A meeting controller that starts with the limits of its configuration. -/
def capacityMachine (maxMeetings maxParticipants : UInt32) :
    Machine CapacitySystem CapacityEvent Unit where
  init := ⟨.new maxMeetings maxParticipants, .new, true, ∅⟩
  step := CapacitySystem.step
  allowed _ _ _ := True

instance (maxMeetings maxParticipants : UInt32) (h : List (CapacityEvent × Unit))
    (s : CapacitySystem) (e : CapacityEvent) :
    Decidable ((capacityMachine maxMeetings maxParticipants).allowed h s e) :=
  inferInstanceAs (Decidable True)

/-- The live meetings are within the limit, and the counter is their number
    whenever no request is in progress. -/
def WithinCapacity (s : CapacitySystem) : Prop :=
  s.live ≤ s.service.maxMeetings.toNat ∧
    (s.requests.entries = [] → s.service.currentMeetings.toNat = s.live)

/-- The condition on a step: a check passes only while there is a place that no
    other request claims, and no meeting leaves the map. -/
def KeepsCount (s : CapacitySystem) : CapacityEvent → Prop
  | .request id _ => id ∉ s.requests → s.service.canAcceptMeeting = none →
      s.claimed < s.service.maxMeetings.toNat
  | .removeMeeting meetingId => s.running = true → meetingId ∉ s.controller.meetings
  | .checkHealth => s.running = true → s.controller.failedMeetings = []
  | .stop => s.running = true → s.controller.cancelled = true → s.live = 0
  | _ => True

instance (s : CapacitySystem) (e : CapacityEvent) : Decidable (KeepsCount s e) :=
  match e with
  | .request id _ => inferInstanceAs (Decidable (id ∉ s.requests →
      s.service.canAcceptMeeting = none → s.claimed < s.service.maxMeetings.toNat))
  | .removeMeeting meetingId =>
    inferInstanceAs (Decidable (s.running = true → meetingId ∉ s.controller.meetings))
  | .checkHealth =>
    inferInstanceAs (Decidable (s.running = true → s.controller.failedMeetings = []))
  | .stop => inferInstanceAs (Decidable (s.running = true → s.controller.cancelled = true →
      s.live = 0))
  | .store _ _ | .create _ _ | .count _ | .delete _ | .shutdown | .taskEnds _ _ =>
    inferInstanceAs (Decidable True)

/-! ## What a step can do -/

/-- Everything a step can do. -/
inductive CapacityCase (s : CapacitySystem) : CapacityEvent → CapacitySystem → Prop
  | stutter (e : CapacityEvent) : CapacityCase s e s
  | passed (id : ℕ) (m : String) (hid : s.requests.lookup id = none)
      (haccept : s.service.canAcceptMeeting = none) :
      CapacityCase s (.request id m) (s.moves id (.checked m))
  | stored (id : ℕ) (m : String) (hid : s.requests.lookup id = some (.checked m)) :
      CapacityCase s (.store id true) (s.moves id (.stored m))
  | unstored (id : ℕ) (m : String) (hid : s.requests.lookup id = some (.checked m)) :
      CapacityCase s (.store id false) (s.answers id)
  | created (id now : ℕ) (m : String) (hid : s.requests.lookup id = some (.stored m))
      (hm : m ∉ s.controller.meetings) :
      CapacityCase s (.create id now) { s with
        controller := { s.controller with
          meetings := s.controller.meetings.insert m ⟨.running, now⟩ }
        requests := s.requests.insert id (.created m) }
  | refused (id now : ℕ) (m : String) (hid : s.requests.lookup id = some (.stored m)) :
      CapacityCase s (.create id now) (s.moves id (.deleting m))
  | counted (id : ℕ) (m : String) (hid : s.requests.lookup id = some (.created m)) :
      CapacityCase s (.count id)
        { s with service := s.service.countMeeting, requests := s.requests.erase id }
  | deleted (id : ℕ) (m : String) (hid : s.requests.lookup id = some (.deleting m)) :
      CapacityCase s (.delete id) (s.answers id)
  | removed (m : String) (hrunning : s.running = true) (hm : m ∈ s.controller.meetings) :
      CapacityCase s (.removeMeeting m) { s with
        controller := { s.controller with meetings := s.controller.meetings.erase m } }
  | checked (hrunning : s.running = true) :
      CapacityCase s .checkHealth { s with controller := s.controller.checkMeetingHealth }
  | shutdown : CapacityCase s .shutdown { s with controller := s.controller.initiateShutdown }
  | stopped (hrunning : s.running = true) (hcancelled : s.controller.cancelled = true) :
      CapacityCase s .stop
        { s with controller := s.controller.gracefulShutdown, running := false }
  | taskEnds (m : String) (task : TaskState) :
      CapacityCase s (.taskEnds m task) { s with controller := s.controller.taskEnds m task }

theorem capacity_cases (s : CapacitySystem) (e : CapacityEvent) :
    CapacityCase s e (s.step e).1 := by
  cases e with
  | request id m =>
    simp only [CapacitySystem.step]
    split_ifs with hid
    · exact .stutter _
    · split
      · exact .stutter _
      · exact .passed id m (AList.lookup_eq_none.mpr hid) ‹_›
  | store id stored =>
    simp only [CapacitySystem.step, CapacitySystem.onRequest]
    split
    · exact .stutter _
    · split
      · cases stored with
        | true => exact .stored id _ ‹_›
        | false => exact .unstored id _ ‹_›
      · exact .stutter _
  | create id now =>
    simp only [CapacitySystem.step, CapacitySystem.onRequest]
    split
    · exact .stutter _
    · split
      · rename_i m hid
        rcases createMeetingCall_cases s.running s.controller now m with
          ⟨-, e, hcall⟩ | ⟨hcreates, hcall⟩
        · rw [hcall]
          exact .refused id now m hid
        · rw [hcall]
          exact .created id now m hid fun hm => hcreates (.inr (.inr hm))
      · exact .stutter _
  | count id =>
    simp only [CapacitySystem.step, CapacitySystem.onRequest]
    split
    · exact .stutter _
    · split
      · exact .counted id _ ‹_›
      · exact .stutter _
  | delete id =>
    simp only [CapacitySystem.step, CapacitySystem.onRequest]
    split
    · exact .stutter _
    · split
      · exact .deleted id _ ‹_›
      · exact .stutter _
  | removeMeeting m =>
    simp only [CapacitySystem.step]
    split_ifs with hrunning
    · have hcase := s.controller.removeMeeting_cases m
      generalize s.controller.removeMeeting m = r at hcase
      cases hcase with
      | notFound => exact .stutter _
      | removed hm => exact .removed m hrunning hm
    · exact .stutter _
  | checkHealth =>
    simp only [CapacitySystem.step]
    split_ifs with hrunning
    · exact .checked hrunning
    · exact .stutter _
  | shutdown =>
    simp only [CapacitySystem.step]
    split_ifs
    · exact .shutdown
    · exact .stutter _
  | stop =>
    simp only [CapacitySystem.step]
    split_ifs with hstop
    · exact .stopped hstop.1 hstop.2
    · exact .stutter _
  | taskEnds m task => exact .taskEnds m task

/-! ## The counts -/

/-- What the requests claim after one of them moved. -/
theorem claims_insert (s s' : CapacitySystem) {id : ℕ} {old pc : AssignPc}
    (h : s'.requests = s.requests.insert id pc)
    (hold : (s.requests.lookup id).getD (.deleting "") = old) :
    old.admitted.length + s'.admitted.length = pc.admitted.length + s.admitted.length ∧
      old.uncounted.length + s'.uncounted.length =
        pc.uncounted.length + s.uncounted.length := by
  have ha := (flat_insert AssignPc.admitted (d := .deleting "") rfl s.requests id pc).length_eq
  have hu := (flat_insert AssignPc.uncounted (d := .deleting "") rfl s.requests id pc).length_eq
  rw [hold, List.length_append, List.length_append] at ha hu
  unfold CapacitySystem.admitted CapacitySystem.uncounted
  rw [h]
  exact ⟨ha, hu⟩

/-- What the requests claim after one of them was answered. -/
theorem claims_erase (s s' : CapacitySystem) {id : ℕ} {old : AssignPc}
    (h : s'.requests = s.requests.erase id)
    (hold : (s.requests.lookup id).getD (.deleting "") = old) :
    s.admitted.length = old.admitted.length + s'.admitted.length ∧
      s.uncounted.length = old.uncounted.length + s'.uncounted.length := by
  have ha := (flat_erase AssignPc.admitted (d := .deleting "") rfl s.requests id).length_eq
  have hu := (flat_erase AssignPc.uncounted (d := .deleting "") rfl s.requests id).length_eq
  rw [hold, List.length_append] at ha hu
  unfold CapacitySystem.admitted CapacitySystem.uncounted
  rw [h]
  exact ⟨ha, hu⟩

theorem keys_length_insert {meetings : AList fun _ : String => ManagedMeeting} {m : String}
    (hm : m ∉ meetings) (managed : ManagedMeeting) :
    (meetings.insert m managed).keys.length = meetings.keys.length + 1 := by
  rw [AList.keys_insert, List.length_cons, List.erase_of_not_mem hm]

/-- The end of a task does not change which meetings there are. -/
theorem keys_length_taskEnds (c : MeetingController) (m : String) (task : TaskState) :
    (c.taskEnds m task).meetings.keys.length = c.meetings.keys.length := by
  unfold MeetingController.taskEnds
  split
  · rfl
  · rename_i managed hlookup
    have hm : m ∈ c.meetings.keys := AList.lookup_isSome.mp (by rw [hlookup]; rfl)
    have hpos := List.length_pos_of_mem hm
    show (c.meetings.insert m { managed with task }).keys.length = _
    rw [AList.keys_insert, List.length_cons, List.length_erase_of_mem hm]
    omega

theorem checkMeetingHealth_of_healthy {c : MeetingController} (h : c.failedMeetings = []) :
    c.checkMeetingHealth = c := by
  rw [MeetingController.checkMeetingHealth, h]
  rfl

/-- Every live meeting is counted or will be by its request, and the requests
    that have passed the check have a place. -/
structure Counted (s : CapacitySystem) : Prop where
  counts : s.service.currentMeetings.toNat + s.uncounted.length = s.live
  places : s.live + s.admitted.length ≤ s.service.maxMeetings.toNat

namespace Counted

variable {s : CapacitySystem}

/-- A request moves and the rest stays. -/
theorem moves (hs : Counted s) {id : ℕ} {old pc : AssignPc}
    (hold : (s.requests.lookup id).getD (.deleting "") = old)
    (hu : pc.uncounted.length = old.uncounted.length)
    (ha : s.live + s.admitted.length + pc.admitted.length ≤
      s.service.maxMeetings.toNat + old.admitted.length) : Counted (s.moves id pc) := by
  obtain ⟨hadmitted, huncounted⟩ := claims_insert s (s.moves id pc) rfl hold
  have hcounts := hs.counts
  constructor
  · show s.service.currentMeetings.toNat + (s.moves id pc).uncounted.length = s.live
    omega
  · show s.live + (s.moves id pc).admitted.length ≤ s.service.maxMeetings.toNat
    omega

/-- A request that claims no live meeting is answered. -/
theorem answers (hs : Counted s) {id : ℕ} {old : AssignPc}
    (hold : (s.requests.lookup id).getD (.deleting "") = old)
    (hu : old.uncounted.length = 0) : Counted (s.answers id) := by
  obtain ⟨hadmitted, huncounted⟩ := claims_erase s (s.answers id) rfl hold
  have hcounts := hs.counts
  have hplaces := hs.places
  constructor
  · show s.service.currentMeetings.toNat + (s.answers id).uncounted.length = s.live
    omega
  · show s.live + (s.answers id).admitted.length ≤ s.service.maxMeetings.toNat
    omega

theorem created (hs : Counted s) {id now : ℕ} {m : String}
    (hid : s.requests.lookup id = some (.stored m)) (hm : m ∉ s.controller.meetings) :
    Counted { s with
      controller := { s.controller with
        meetings := s.controller.meetings.insert m ⟨.running, now⟩ }
      requests := s.requests.insert id (.created m) } := by
  have hold : (s.requests.lookup id).getD (.deleting "") = .stored m := by rw [hid]; rfl
  generalize hs' : CapacitySystem.mk _ _ _ _ = s'
  have hrequests : s'.requests = s.requests.insert id (.created m) := by rw [← hs']
  obtain ⟨hadmitted, huncounted⟩ := claims_insert s s' hrequests hold
  have hlive : s'.live = s.live + 1 := by
    rw [← hs']
    exact keys_length_insert hm _
  have hservice : s'.service = s.service := by rw [← hs']
  simp only [AssignPc.admitted, AssignPc.uncounted, List.length_cons,
    List.length_nil] at hadmitted huncounted
  have hcounts := hs.counts
  have hplaces := hs.places
  constructor
  · rw [hservice, hlive]
    omega
  · rw [hservice, hlive]
    omega

/-- The counter does not overflow: a meeting that is counted has a place. -/
theorem counted (hs : Counted s) {id : ℕ} {m : String}
    (hid : s.requests.lookup id = some (.created m)) :
    Counted { s with service := s.service.countMeeting, requests := s.requests.erase id } := by
  have hold : (s.requests.lookup id).getD (.deleting "") = .created m := by rw [hid]; rfl
  generalize hs' : CapacitySystem.mk _ _ _ _ = s'
  have hrequests : s'.requests = s.requests.erase id := by rw [← hs']
  obtain ⟨hadmitted, huncounted⟩ := claims_erase s s' hrequests hold
  have hlive : s'.live = s.live := by rw [← hs']; rfl
  have hservice : s'.service = s.service.countMeeting := by rw [← hs']
  simp only [AssignPc.admitted, AssignPc.uncounted, List.length_cons,
    List.length_nil] at hadmitted huncounted
  have hcounts := hs.counts
  have hplaces := hs.places
  have hmax := s.service.maxMeetings.toNat_lt
  have hcount : s.service.countMeeting.currentMeetings.toNat =
      s.service.currentMeetings.toNat + 1 := by
    rw [AssignmentService.countMeeting, UInt32.toNat_add]
    exact Nat.mod_eq_of_lt (by rw [UInt32.toNat_one]; omega)
  constructor
  · rw [hservice, hlive, hcount]
    omega
  · rw [hservice, hlive]
    show s.live + s'.admitted.length ≤ s.service.maxMeetings.toNat
    omega

theorem step (hs : Counted s) {e : CapacityEvent} {s' : CapacitySystem}
    (hcase : CapacityCase s e s') (hcond : KeepsCount s e) : Counted s' := by
  have hcounts := hs.counts
  have hplaces := hs.places
  have hfound : ∀ {id pc}, s.requests.lookup id = some pc →
      (s.requests.lookup id).getD (.deleting "") = pc := fun h => by rw [h, Option.getD_some]
  cases hcase with
  | stutter => exact hs
  | passed id m hid haccept =>
    have hclaimed := hcond (AList.lookup_eq_none.mp hid) haccept
    unfold CapacitySystem.claimed at hclaimed
    have hold : (s.requests.lookup id).getD (.deleting "") = .deleting "" := by rw [hid]; rfl
    refine hs.moves hold rfl ?_
    simp only [AssignPc.admitted, List.length_cons, List.length_nil]
    omega
  | stored id m hid =>
    exact hs.moves (hfound hid) rfl (Nat.add_le_add_right hplaces _)
  | unstored id m hid => exact hs.answers (hfound hid) rfl
  | created id now m hid hm => exact hs.created hid hm
  | refused id now m hid =>
    exact hs.moves (hfound hid) rfl (hplaces.trans (Nat.le_add_right _ _))
  | counted id m hid => exact hs.counted hid
  | deleted id m hid => exact hs.answers (hfound hid) rfl
  | removed m hrunning hm => exact absurd hm (hcond hrunning)
  | checked hrunning =>
    rw [checkMeetingHealth_of_healthy (hcond hrunning)]
    exact hs
  | shutdown => exact ⟨hcounts, hplaces⟩
  | stopped hrunning hcancelled =>
    have hnone := hcond hrunning hcancelled
    rw [hnone] at hcounts hplaces
    exact ⟨hcounts, hplaces⟩
  | taskEnds m task =>
    have hlive : ({ s with controller := s.controller.taskEnds m task } : CapacitySystem).live =
      s.live := keys_length_taskEnds s.controller m task
    exact ⟨by rw [hlive]; exact hcounts, by rw [hlive]; exact hplaces⟩

theorem withinCapacity (hs : Counted s) : WithinCapacity s := by
  refine ⟨(Nat.le_add_right _ _).trans hs.places, fun hidle => ?_⟩
  have hnone : s.uncounted.length = 0 := by
    rw [CapacitySystem.uncounted, flat, hidle]
    rfl
  have hcounts := hs.counts
  omega

end Counted

/-- The live meetings stay within the limit in every run that keeps the count. -/
theorem capacity_along {maxMeetings maxParticipants : UInt32} {h : List (CapacityEvent × Unit)}
    {s : CapacitySystem} (hr : (capacityMachine maxMeetings maxParticipants).Run h s)
    (hC : ∀ e a h', (e, a) :: h' <:+ h →
      KeepsCount ((capacityMachine maxMeetings maxParticipants).stateAfter h') e) :
    WithinCapacity s := by
  refine Counted.withinCapacity (Machine.Run.invariant_of_steps (I := fun _ s => Counted s)
    ⟨rfl, Nat.zero_le _⟩ ?_ hr hC)
  intro h s e _ _ hcond hs
  exact hs.step (capacity_cases s e) hcond

/-- One request after the other fills the two places. -/
def sequentialEvents : List CapacityEvent :=
  [.request 1 "meeting-1", .store 1 true, .create 1 0, .count 1, .request 2 "meeting-2",
    .store 2 true, .create 2 1, .count 2, .request 3 "meeting-3", .checkHealth]

theorem capacity_along_sequential :
    (capacityMachine 2 100).Run ((capacityMachine 2 100).playAll sequentialEvents).2
        ((capacityMachine 2 100).playAll sequentialEvents).1 ∧
      WithinCapacity ((capacityMachine 2 100).playAll sequentialEvents).1 :=
  have hr := Machine.run_of_admits (M := capacityMachine 2 100) (l := sequentialEvents) (by decide)
  ⟨hr, capacity_along hr (Machine.StepsMeet.forall_suffix (by decide))⟩

/-- Two requests check the last place before either is counted. -/
def concurrentEvents : List CapacityEvent :=
  [.request 1 "meeting-1", .request 2 "meeting-2", .store 1 true, .store 2 true, .create 1 0,
    .create 2 0]

/-- A meeting is created and removed. -/
def endedEvents : List CapacityEvent :=
  [.request 1 "meeting-1", .store 1 true, .create 1 0, .count 1, .removeMeeting "meeting-1"]

/-- With one place, two meetings are live; with one place again, no meeting is
    live and the place is still counted. -/
theorem overAdmission_and_capacityLoss :
    ((capacityMachine 1 100).Run ((capacityMachine 1 100).playAll concurrentEvents).2
        ((capacityMachine 1 100).playAll concurrentEvents).1 ∧
      ¬ WithinCapacity ((capacityMachine 1 100).playAll concurrentEvents).1) ∧
    (capacityMachine 1 100).Run ((capacityMachine 1 100).playAll endedEvents).2
        ((capacityMachine 1 100).playAll endedEvents).1 ∧
      ¬ WithinCapacity ((capacityMachine 1 100).playAll endedEvents).1 := by
  refine ⟨⟨Machine.run_of_admits (by decide), fun h => ?_⟩, Machine.run_of_admits (by decide),
    fun h => ?_⟩
  · exact absurd h.1 (by decide)
  · exact absurd (h.2 (by decide)) (by decide)

end DarkTower.Mc
