import DarkTower.Lib.Machine
import DarkTower.Mc.Controller
import DarkTower.Mc.MhConnectionRegistry

/-!
# Is the registry cleaned up with a meeting?

The message loop of the controller actor, and the media coordination service,
which writes to the same registry from other tasks. `remove_meeting` takes the
meeting out of the map in one step and cleans the registry in another.

* `registryClean_along_iff`: no meeting that has left the map has an entry, in
  any state of a run, iff the run drops no meeting with an entry in
  `check_meeting_health` or `graceful_shutdown`, and applies no
  `NotifyParticipantConnected` for a meeting that has left. Only
  `remove_meeting` cleans the registry, and nothing stops a late notification.
* `panicked_leaves_entry`: a meeting whose task panics keeps its entry, and a
  late notification brings the entry of a removed meeting back.
-/

namespace DarkTower.Mc

open DarkTower.Lib

/-- Where the message loop of the controller stands (controller.rs:298). -/
inductive LoopPc
  /-- Before `check_meeting_health`. -/
  | health
  /-- In `select!`. -/
  | select
  /-- In `remove_meeting`, before the cleanup of the registry. -/
  | removing (meetingId : String)
  | stopped
deriving DecidableEq

/-- The controller in its loop, with the registry. -/
structure CleanupSystem where
  controller : MeetingController
  pc : LoopPc
  registry : MhConnectionRegistry
  /-- The meetings that have ever been created (a ghost). -/
  created : List String

/-- A message of the controller, or another step of its loop. -/
inductive CleanupEvent
  /-- `CreateMeeting` is handled. -/
  | createMeeting (now : ℕ) (meetingId : String)
  /-- `RemoveMeeting` is handled, up to the cleanup of the registry. -/
  | removeMeeting (meetingId : String)
  /-- The cleanup of the registry in `remove_meeting`. -/
  | cleanRegistry
  | checkHealth
  /-- `Shutdown` is handled. -/
  | shutdown
  /-- `MeetingControllerActorHandle::cancel`. -/
  | cancel
  /-- `select!` takes the branch of the cancellation. -/
  | stop
  /-- The task of a meeting ends. -/
  | taskEnds (meetingId : String) (task : TaskState)
  | notifyConnected (now : ℕ) (meetingId participantId handlerId : String)
  | notifyDisconnected (meetingId participantId handlerId : String)
deriving DecidableEq

namespace CleanupSystem

/-- The loop of the controller takes a step. -/
def step (s : CleanupSystem) : CleanupEvent → CleanupSystem × Unit
  | .createMeeting now meetingId =>
    if s.pc = .select then
      let created := s.controller.createMeeting now meetingId
      ({ s with
          controller := created.1
          pc := .health
          created := if created.2.isOk then meetingId :: s.created else s.created }, ())
    else (s, ())
  | .removeMeeting meetingId =>
    if s.pc = .select then
      let removed := s.controller.removeMeeting meetingId
      ({ s with
          controller := removed.1
          pc := if removed.2.isOk then .removing meetingId else .health }, ())
    else (s, ())
  | .cleanRegistry =>
    match s.pc with
    | .removing meetingId =>
      ({ s with registry := s.registry.removeMeeting meetingId, pc := .health }, ())
    | _ => (s, ())
  | .checkHealth =>
    if s.pc = .health then
      ({ s with controller := s.controller.checkMeetingHealth, pc := .select }, ())
    else (s, ())
  | .shutdown =>
    if s.pc = .select then
      ({ s with controller := s.controller.initiateShutdown, pc := .health }, ())
    else (s, ())
  | .cancel => ({ s with controller := { s.controller with cancelled := true } }, ())
  | .stop =>
    if s.pc = .select ∧ s.controller.cancelled = true then
      ({ s with controller := s.controller.gracefulShutdown, pc := .stopped }, ())
    else (s, ())
  | .taskEnds meetingId task =>
    ({ s with controller := s.controller.taskEnds meetingId task }, ())
  | .notifyConnected now meetingId participantId handlerId =>
    ({ s with registry :=
        (s.registry.notifyParticipantConnected now meetingId participantId handlerId).1 }, ())
  | .notifyDisconnected meetingId participantId handlerId =>
    ({ s with registry :=
        (s.registry.notifyParticipantDisconnected meetingId participantId handlerId).1 }, ())

/-- The controller at its start. -/
def start : CleanupSystem := ⟨.new, .health, .new, []⟩

/-- A meeting has left the map, and its removal is complete. -/
def Left (s : CleanupSystem) (m : String) : Prop :=
  m ∈ s.created ∧ m ∉ s.controller.meetings ∧ s.pc ≠ .removing m

end CleanupSystem

/-- The controller and the registry from the start. -/
def cleanupMachine : Machine CleanupSystem CleanupEvent Unit where
  init := .start
  step := CleanupSystem.step
  allowed _ _ _ := True

instance (h : List (CleanupEvent × Unit)) (s : CleanupSystem) (e : CleanupEvent) :
    Decidable (cleanupMachine.allowed h s e) := inferInstanceAs (Decidable True)

/-- The registry has no entry for a meeting that has left. -/
def RegistryClean (s : CleanupSystem) : Prop := ∀ m, s.Left m → m ∉ s.registry.connections

/-- The condition on a step: the paths that do not clean the registry drop only
    meetings without an entry, and no `connected` is applied for a meeting that
    has left. -/
def CleansUp (s : CleanupSystem) : CleanupEvent → Prop
  | .checkHealth => s.pc = .health →
      ∀ m ∈ s.controller.failedMeetings, m ∉ s.registry.connections
  | .stop => s.pc = .select → s.controller.cancelled = true →
      ∀ m ∈ s.controller.meetings, m ∉ s.registry.connections
  | .notifyConnected _ meetingId participantId handlerId =>
      IdsValid meetingId participantId handlerId → ¬ s.Left meetingId
  | _ => True

/-! ## What a step can do -/

/-- Everything a step can do; what the loop does not do where it stands changes
    nothing. -/
inductive CleanupCase (s : CleanupSystem) : CleanupEvent → CleanupSystem → Prop
  | stutter (e : CleanupEvent) (h : CleansUp s e) : CleanupCase s e s
  | refused (now : ℕ) (meetingId : String) (hpc : s.pc = .select) :
      CleanupCase s (.createMeeting now meetingId) { s with pc := .health }
  | created (now : ℕ) (meetingId : String) (hpc : s.pc = .select) :
      CleanupCase s (.createMeeting now meetingId) { s with
        controller := { s.controller with
          meetings := s.controller.meetings.insert meetingId ⟨.running, now⟩ }
        pc := .health
        created := meetingId :: s.created }
  | notFound (meetingId : String) (hpc : s.pc = .select) :
      CleanupCase s (.removeMeeting meetingId) { s with pc := .health }
  | removed (meetingId : String) (hpc : s.pc = .select) :
      CleanupCase s (.removeMeeting meetingId) { s with
        controller := { s.controller with meetings := s.controller.meetings.erase meetingId }
        pc := .removing meetingId }
  | cleaned (meetingId : String) (hpc : s.pc = .removing meetingId) :
      CleanupCase s .cleanRegistry
        { s with registry := s.registry.removeMeeting meetingId, pc := .health }
  | checked (hpc : s.pc = .health) :
      CleanupCase s .checkHealth
        { s with controller := s.controller.checkMeetingHealth, pc := .select }
  | shutdown (hpc : s.pc = .select) :
      CleanupCase s .shutdown
        { s with controller := s.controller.initiateShutdown, pc := .health }
  | cancel : CleanupCase s .cancel { s with controller := { s.controller with cancelled := true } }
  | stopped (hpc : s.pc = .select) (hcancelled : s.controller.cancelled = true) :
      CleanupCase s .stop
        { s with controller := s.controller.gracefulShutdown, pc := .stopped }
  | taskEnds (meetingId : String) (task : TaskState) :
      CleanupCase s (.taskEnds meetingId task)
        { s with controller := s.controller.taskEnds meetingId task }
  | notifyConnected (now : ℕ) (meetingId participantId handlerId : String) :
      CleanupCase s (.notifyConnected now meetingId participantId handlerId) { s with
        registry := (s.registry.notifyParticipantConnected now meetingId participantId
          handlerId).1 }
  | notifyDisconnected (meetingId participantId handlerId : String) :
      CleanupCase s (.notifyDisconnected meetingId participantId handlerId) { s with
        registry := (s.registry.notifyParticipantDisconnected meetingId participantId
          handlerId).1 }

theorem cleanup_cases (s : CleanupSystem) (e : CleanupEvent) : CleanupCase s e (s.step e).1 := by
  cases e with
  | createMeeting now meetingId =>
    by_cases hpc : s.pc = .select
    · have hcase := s.controller.createMeeting_cases now meetingId
      simp only [CleanupSystem.step, hpc, if_true]
      generalize s.controller.createMeeting now meetingId = r at hcase
      cases hcase with
      | draining => exact .refused now meetingId hpc
      | present => exact .refused now meetingId hpc
      | created => exact .created now meetingId hpc
    · simp only [CleanupSystem.step, hpc, if_false]
      exact .stutter _ trivial
  | removeMeeting meetingId =>
    by_cases hpc : s.pc = .select
    · have hcase := s.controller.removeMeeting_cases meetingId
      simp only [CleanupSystem.step, hpc, if_true]
      generalize s.controller.removeMeeting meetingId = r at hcase
      cases hcase with
      | notFound => exact .notFound meetingId hpc
      | removed => exact .removed meetingId hpc
    · simp only [CleanupSystem.step, hpc, if_false]
      exact .stutter _ trivial
  | cleanRegistry =>
    simp only [CleanupSystem.step]
    split
    · rename_i meetingId hpc
      exact .cleaned meetingId hpc
    · exact .stutter _ trivial
  | checkHealth =>
    simp only [CleanupSystem.step]
    split_ifs with hpc
    · exact .checked hpc
    · exact .stutter _ fun h => absurd h hpc
  | shutdown =>
    simp only [CleanupSystem.step]
    split_ifs with hpc
    · exact .shutdown hpc
    · exact .stutter _ trivial
  | cancel => exact .cancel
  | stop =>
    simp only [CleanupSystem.step]
    split_ifs with hstop
    · exact .stopped hstop.1 hstop.2
    · exact .stutter _ fun hpc hcancelled => absurd ⟨hpc, hcancelled⟩ hstop
  | taskEnds meetingId task => exact .taskEnds meetingId task
  | notifyConnected now meetingId participantId handlerId => exact .notifyConnected ..
  | notifyDisconnected meetingId participantId handlerId => exact .notifyDisconnected ..

/-- Every meeting in the map was created. -/
theorem run_created {h : List (CleanupEvent × Unit)} {s : CleanupSystem}
    (hr : cleanupMachine.Run h s) : ∀ m ∈ s.controller.meetings, m ∈ s.created := by
  refine Machine.Run.invariant (I := fun _ s => ∀ m ∈ s.controller.meetings, m ∈ s.created)
    (fun m hm => absurd hm (AList.notMem_empty m)) ?_ hr
  intro h s e _ _ hs m hm
  have hcase := cleanup_cases s e
  change m ∈ (s.step e).1.controller.meetings at hm
  change m ∈ (s.step e).1.created
  generalize (s.step e).1 = s' at hcase hm ⊢
  cases hcase with
  | created now meetingId hpc =>
    rcases (AList.mem_insert s.controller.meetings).mp hm with rfl | hm
    · exact List.mem_cons_self
    · exact List.mem_cons_of_mem _ (hs m hm)
  | removed meetingId hpc => exact hs m (AList.mem_erase.mp hm).2
  | checked hpc => exact hs m ((s.controller.mem_checkMeetingHealth m).mp hm).2
  | stopped => exact absurd hm (s.controller.mem_gracefulShutdown m)
  | taskEnds meetingId task => exact hs m ((s.controller.mem_taskEnds meetingId task m).mp hm)
  | _ => exact hs m hm

theorem RegistryClean.mono {s s' : CleanupSystem} (hclean : RegistryClean s)
    (hleft : ∀ m, s'.Left m → s.Left m)
    (hregistry : ∀ m, m ∈ s'.registry.connections → m ∈ s.registry.connections) :
    RegistryClean s' :=
  fun m hm hmem => hclean m (hleft m hm) (hregistry m hmem)

/-- Meetings leave, and the registry stays as it is. -/
theorem registryClean_iff_of_left {s s' : CleanupSystem} (hclean : RegistryClean s)
    {leaving : String → Prop} (hleft : ∀ m, s'.Left m ↔ s.Left m ∨ leaving m)
    (hregistry : s'.registry = s.registry) :
    RegistryClean s' ↔ ∀ m, leaving m → m ∉ s.registry.connections := by
  unfold RegistryClean
  rw [hregistry]
  constructor
  · intro h m hm
    exact h m ((hleft m).mpr (.inr hm))
  · intro h m hm
    exact ((hleft m).mp hm).elim (hclean m) (h m)

/-- A health check takes the meetings whose task has ended out of the map. -/
theorem left_checkMeetingHealth_iff {s : CleanupSystem}
    (hcreated : ∀ m ∈ s.controller.meetings, m ∈ s.created)
    (hidle : ∀ m, s.pc ≠ .removing m) (m : String) :
    { s with controller := s.controller.checkMeetingHealth, pc := .select }.Left m ↔
      s.Left m ∨ m ∈ s.controller.failedMeetings := by
  have hmem := s.controller.mem_checkMeetingHealth m
  constructor
  · rintro ⟨hm, hnot, -⟩
    by_cases hfailed : m ∈ s.controller.failedMeetings
    · exact .inr hfailed
    · exact .inl ⟨hm, fun h => hnot (hmem.mpr ⟨hfailed, h⟩), hidle m⟩
  · rintro (⟨hm, hnot, -⟩ | hfailed)
    · exact ⟨hm, fun h => hnot (hmem.mp h).2, LoopPc.noConfusion⟩
    · obtain ⟨managed, hlookup, -⟩ := s.controller.mem_failedMeetings.mp hfailed
      have hin : m ∈ s.controller.meetings := AList.lookup_isSome.mp (by rw [hlookup]; rfl)
      exact ⟨hcreated m hin, fun h => (hmem.mp h).1 hfailed, LoopPc.noConfusion⟩

/-- A shutdown takes every meeting out of the map. -/
theorem left_gracefulShutdown_iff {s : CleanupSystem}
    (hcreated : ∀ m ∈ s.controller.meetings, m ∈ s.created)
    (hidle : ∀ m, s.pc ≠ .removing m) (m : String) :
    { s with controller := s.controller.gracefulShutdown, pc := .stopped }.Left m ↔
      s.Left m ∨ m ∈ s.controller.meetings := by
  have hmem := s.controller.mem_gracefulShutdown m
  constructor
  · rintro ⟨hm, -, -⟩
    by_cases hin : m ∈ s.controller.meetings
    · exact .inr hin
    · exact .inl ⟨hm, hin, hidle m⟩
  · rintro (⟨hm, -, -⟩ | hin)
    · exact ⟨hm, hmem, LoopPc.noConfusion⟩
    · exact ⟨hcreated m hin, hmem, LoopPc.noConfusion⟩

theorem registryClean_step_iff {s s' : CleanupSystem} {e : CleanupEvent}
    (hcase : CleanupCase s e s') (hcreated : ∀ m ∈ s.controller.meetings, m ∈ s.created)
    (hclean : RegistryClean s) : RegistryClean s' ↔ CleansUp s e := by
  -- a loop that is in `select!` or before the check is not removing a meeting
  have hidle : ∀ {pc : LoopPc}, s.pc = pc → (∀ m, pc ≠ .removing m) → ∀ m, s.pc ≠ .removing m :=
    fun hpc hne m => hpc ▸ hne m
  cases hcase with
  | stutter _ h => exact iff_of_true hclean h
  | refused now meetingId hpc =>
    refine iff_of_true (hclean.mono (fun m hm => ⟨hm.1, hm.2.1, ?_⟩) fun _ => id) trivial
    exact hidle hpc (fun _ => LoopPc.noConfusion) m
  | created now meetingId hpc =>
    refine iff_of_true (hclean.mono (fun m hm => ?_) fun _ => id) trivial
    have hnot := not_or.mp fun h => hm.2.1 ((AList.mem_insert s.controller.meetings).mpr h)
    refine ⟨(List.mem_cons.mp hm.1).resolve_left hnot.1, hnot.2, ?_⟩
    exact hidle hpc (fun _ => LoopPc.noConfusion) m
  | notFound meetingId hpc =>
    refine iff_of_true (hclean.mono (fun m hm => ⟨hm.1, hm.2.1, ?_⟩) fun _ => id) trivial
    exact hidle hpc (fun _ => LoopPc.noConfusion) m
  | removed meetingId hpc =>
    refine iff_of_true (hclean.mono (fun m hm => ⟨hm.1, fun hmem => ?_, ?_⟩) fun _ => id) trivial
    · refine hm.2.1 (AList.mem_erase.mpr ⟨fun heq => hm.2.2 ?_, hmem⟩)
      exact congrArg LoopPc.removing heq.symm
    · exact hidle hpc (fun _ => LoopPc.noConfusion) m
  | cleaned meetingId hpc =>
    refine iff_of_true (fun m hm hmem => ?_) trivial
    obtain ⟨hne, hmem⟩ := (s.registry.mem_removeMeeting meetingId m).mp hmem
    refine hclean m ⟨hm.1, hm.2.1, fun heq => hne ?_⟩ hmem
    rw [hpc] at heq
    exact (LoopPc.removing.inj heq).symm
  | checked hpc =>
    have hselect := hidle hpc fun _ => LoopPc.noConfusion
    rw [registryClean_iff_of_left hclean (left_checkMeetingHealth_iff hcreated hselect) rfl]
    exact ⟨fun h _ => h, fun h => h hpc⟩
  | shutdown hpc =>
    refine iff_of_true (hclean.mono (fun m hm => ⟨hm.1, hm.2.1, ?_⟩) fun _ => id) trivial
    exact hidle hpc (fun _ => LoopPc.noConfusion) m
  | cancel => exact iff_of_true hclean trivial
  | stopped hpc hcancelled =>
    have hselect := hidle hpc fun _ => LoopPc.noConfusion
    rw [registryClean_iff_of_left hclean (left_gracefulShutdown_iff hcreated hselect) rfl]
    exact ⟨fun h _ _ => h, fun h => h hpc hcancelled⟩
  | taskEnds meetingId task =>
    refine iff_of_true (hclean.mono (fun m hm => ⟨hm.1, fun hmem => ?_, hm.2.2⟩) fun _ => id)
      trivial
    exact hm.2.1 ((s.controller.mem_taskEnds meetingId task m).mpr hmem)
  | notifyConnected now meetingId participantId handlerId =>
    have hmem := s.registry.mem_addConnection now meetingId participantId handlerId
    unfold RegistryClean
    dsimp only
    rw [MhConnectionRegistry.notifyParticipantConnected_registry]
    constructor
    · intro h hvalid hleft
      have habsent := h meetingId hleft
      rw [if_pos hvalid] at habsent
      exact habsent ((hmem meetingId).mpr (.inl rfl))
    · intro h m hleft hin
      split_ifs at hin with hvalid
      · rcases (hmem m).mp hin with rfl | hin
        · exact h hvalid hleft
        · exact hclean m hleft hin
      · exact hclean m hleft hin
  | notifyDisconnected meetingId participantId handlerId =>
    refine iff_of_true (hclean.mono (fun m hm => hm) fun m hmem => ?_) trivial
    dsimp only at hmem
    rw [MhConnectionRegistry.notifyParticipantDisconnected_registry] at hmem
    split_ifs at hmem
    · exact s.registry.mem_removeConnection meetingId participantId handlerId hmem
    · exact hmem

theorem registryClean_along_iff {h : List (CleanupEvent × Unit)} {s : CleanupSystem}
    (hr : cleanupMachine.Run h s) :
    (∀ h', h' <:+ h → RegistryClean (cleanupMachine.stateAfter h')) ↔
      ∀ e a h', (e, a) :: h' <:+ h → CleansUp (cleanupMachine.stateAfter h') e := by
  refine Machine.Run.always_iff ?_ ?_ hr
  · intro m hm
    exact absurd hm.1 List.not_mem_nil
  · intro h s e hr _ hclean
    exact registryClean_step_iff (cleanup_cases s e) (run_created hr) hclean

/-- A meeting is created, a participant connects and the meeting is removed. -/
def removedEvents : List CleanupEvent :=
  [.checkHealth, .createMeeting 0 "meeting-1", .checkHealth,
    .notifyConnected 1 "meeting-1" "user-1" "mh-1", .removeMeeting "meeting-1", .cleanRegistry]

theorem registryClean_along_removed :
    cleanupMachine.Run (cleanupMachine.playAll removedEvents).2
        (cleanupMachine.playAll removedEvents).1 ∧
      ((∀ h', h' <:+ (cleanupMachine.playAll removedEvents).2 →
          RegistryClean (cleanupMachine.stateAfter h')) ↔
        ∀ e a h', (e, a) :: h' <:+ (cleanupMachine.playAll removedEvents).2 →
          CleansUp (cleanupMachine.stateAfter h') e) :=
  have hr := Machine.run_of_admits (M := cleanupMachine) (l := removedEvents) (by decide)
  ⟨hr, registryClean_along_iff hr⟩

/-- The task of a meeting panics. -/
def panickedEvents : List CleanupEvent :=
  [.checkHealth, .createMeeting 0 "meeting-1", .checkHealth,
    .notifyConnected 1 "meeting-1" "user-1" "mh-1", .taskEnds "meeting-1" .panicked,
    .shutdown, .checkHealth]

/-- A participant's notification arrives after its meeting was removed. -/
def lateNotificationEvents : List CleanupEvent :=
  [.checkHealth, .createMeeting 0 "meeting-1", .checkHealth, .removeMeeting "meeting-1",
    .cleanRegistry, .notifyConnected 1 "meeting-1" "user-1" "mh-1"]

/-- After either, the meeting has left and the registry has its entry. -/
theorem panicked_leaves_entry :
    (cleanupMachine.Run (cleanupMachine.playAll panickedEvents).2
        (cleanupMachine.playAll panickedEvents).1 ∧
      ¬ RegistryClean (cleanupMachine.playAll panickedEvents).1) ∧
    cleanupMachine.Run (cleanupMachine.playAll lateNotificationEvents).2
        (cleanupMachine.playAll lateNotificationEvents).1 ∧
      ¬ RegistryClean (cleanupMachine.playAll lateNotificationEvents).1 := by
  refine ⟨⟨Machine.run_of_admits (by decide), fun h => ?_⟩, Machine.run_of_admits (by decide),
    fun h => ?_⟩
  · exact h "meeting-1" ⟨by decide, by decide, by decide⟩ (by decide)
  · exact h "meeting-1" ⟨by decide, by decide, by decide⟩ (by decide)

end DarkTower.Mc
