import DarkTower.Devloop.Ports
import DarkTower.Lib.Machine
import Mathlib.Order.Interval.Finset.Nat

/-!
# Are the port ranges of running helpers safe?

Helpers that start, stop, crash and start again for their slug, other processes that
come and go, and the registry calls of the helpers, in any order. One helper runs for a
slug at a time (the startup lock of `main.rs:513`), and a new process gets a number that
no process has. Both are guards of the machine.

A slug holds the range it was last allocated until it is deallocated, or until its entry
is cleaned up while its helper is not running (`Host.heldAfter`).

* `ports_safe_along`: in a run in which every allocation finds the entries of the other
  running slugs with a live process, and no I/O of the registry goes wrong, the registry
  is in order in every state, no range of a running slug is handed on, and an allocation
  fails only when every slot is held by a live entry.
* `restarted_loses_range`: an entry that outlived its process is returned as it is to the
  next helper of the slug, and dies with a process that has nothing to do with it.
-/

namespace DarkTower.Devloop

open DarkTower.Lib

/-- The ports of an allocation. -/
def PortAllocation.ports (allocation : PortAllocation) : Finset ℕ :=
  Finset.Ico allocation.basePort (allocation.basePort + stride)

/-- The configured range. -/
def portRange : Finset ℕ := Finset.Ico portRangeStart (portRangeStart + numSlots * stride)

/-- The registry file and the processes of the host. `alive` are the numbers for which
    `kill(pid, 0)` succeeds, `running` the helpers, `held` the range of each slug. -/
structure Host where
  file : RegistryFile
  alive : List ℕ
  running : List (String × ℕ)
  held : String → Option PortAllocation

namespace Host

variable (s : Host)

/-- `is_process_alive` (ports.rs:94). -/
def isProcessAlive (pid : ℕ) : Bool := s.alive.contains pid

/-- The slugs whose helper is running. -/
def runningSlugs : List String := s.running.map (·.1)

/-- The ranges after a call for `slug` that left the registry as `file`: a slug whose
    helper is not running has lost its range when its entry is gone. -/
def heldAfter (file : RegistryFile) (slug : String) (own : Option PortAllocation) :
    String → Option PortAllocation := fun other =>
  if other = slug then own
  else if other ∈ s.runningSlugs ∨ other ∈ file.entries.map (·.slug) then s.held other
  else none

end Host

/-- What happens on the host next. -/
inductive PortEvent
  | start (slug : String) (pid : ℕ)
  /-- A helper stops or crashes; as a zombie its number still answers. -/
  | exit (slug : String) (pid : ℕ) (zombie : Bool)
  /-- Another process gets a number, and goes away. -/
  | spawn (pid : ℕ)
  | reap (pid : ℕ)
  | allocate (slug : String) (pid : ℕ) (io : RegistryIo)
  | deallocate (slug : String) (pid : ℕ) (io : RegistryIo)

/-- What a call returns. -/
inductive PortAnswer
  | none
  | allocated (result : Except HelperError PortAllocation)
  | deallocated (result : Except HelperError Unit)
deriving DecidableEq

variable (registryPath : String)

/-- One event. -/
def portStep (s : Host) : PortEvent → Host × PortAnswer
  | .start slug pid =>
    ({ s with alive := pid :: s.alive, running := (slug, pid) :: s.running }, .none)
  | .exit slug pid zombie =>
    ({ s with
        alive := if zombie then s.alive else s.alive.filter (· ≠ pid)
        running := s.running.erase (slug, pid) }, .none)
  | .spawn pid => ({ s with alive := pid :: s.alive }, .none)
  | .reap pid => ({ s with alive := s.alive.filter (· ≠ pid) }, .none)
  | .allocate slug pid io =>
    let r := allocatePorts registryPath slug pid s.isProcessAlive io s.file
    let own := match r.2 with
      | .ok allocation => some allocation
      | .error _ => s.held slug
    ({ s with file := r.1, held := s.heldAfter r.1 slug own }, .allocated r.2)
  | .deallocate slug _ io =>
    let r := deallocatePorts registryPath slug io s.file
    let own := match r.2 with
      | .ok () => none
      | .error _ => s.held slug
    ({ s with file := r.1, held := s.heldAfter r.1 slug own }, .deallocated r.2)

/-- What the operating system and the startup lock promise. -/
def Host.CanDo (s : Host) : PortEvent → Prop
  | .start slug pid => slug ∉ s.runningSlugs ∧ pid ∉ s.alive
  | .exit slug pid _ | .allocate slug pid _ | .deallocate slug pid _ => (slug, pid) ∈ s.running
  | .spawn pid => pid ∉ s.alive
  | .reap pid => pid ∉ s.running.map (·.2)

instance (s : Host) : ∀ e, Decidable (s.CanDo e)
  | .start _ _ => inferInstanceAs (Decidable (_ ∧ _))
  | .exit slug pid _ | .allocate slug pid _ | .deallocate slug pid _ =>
    inferInstanceAs (Decidable ((slug, pid) ∈ s.running))
  | .spawn pid => inferInstanceAs (Decidable (pid ∉ s.alive))
  | .reap pid => inferInstanceAs (Decidable (pid ∉ s.running.map (·.2)))

/-- The host from an absent registry on. -/
def portMachine : Machine Host PortEvent PortAnswer where
  init := ⟨.absent, [], [], fun _ => none⟩
  step := portStep registryPath
  allowed _ s e := s.CanDo e

instance (h : List (PortEvent × PortAnswer)) (s : Host) (e : PortEvent) :
    Decidable ((portMachine registryPath).allowed h s e) :=
  inferInstanceAs (Decidable (s.CanDo e))

/-- The registry is in order: one entry per slug, disjoint ranges inside the range. -/
structure RegistrySafe (s : Host) : Prop where
  oneEntry : (s.file.entries.map (·.slug)).Nodup
  disjoint : s.file.entries.Pairwise fun x y => Disjoint x.allocation.ports y.allocation.ports
  inRange : ∀ entry ∈ s.file.entries, entry.allocation.ports ⊆ portRange

/-- An allocation for `slug` returns no port that another slug with a running helper
    holds, and fails only when all slots are held by entries with a live process. -/
def AnswerSafe (s : Host) : PortEvent → PortAnswer → Prop
  | .allocate slug _ _, .allocated (.ok allocation) =>
    ∀ other ≠ slug, other ∈ s.runningSlugs → ∀ range, s.held other = some range →
      Disjoint allocation.ports range.ports
  | .allocate _ _ _, .allocated (.error _) =>
    ∀ idx < numSlots, ∃ entry ∈ s.file.entries, entry.slotIndex = idx ∧ s.isProcessAlive entry.pid
  | _, _ => True

/-- The I/O leaves the file as it was or with all that was written. -/
def RegistryIo.Whole : RegistryIo → Prop
  | done | failed _ => True
  | emptied _ | cutShort _ _ => False

instance : ∀ io : RegistryIo, Decidable io.Whole
  | .done | .failed _ => inferInstanceAs (Decidable True)
  | .emptied _ | .cutShort _ _ => inferInstanceAs (Decidable False)

/-- The condition on a step: an allocation finds every other slug with a running helper
    recorded with a live process, its I/O succeeds, and no deallocation ends in the
    middle of its write. -/
def RecordsLive (s : Host) : PortEvent → Prop
  | .allocate slug _ io => io = .done ∧ ∀ entry ∈ s.file.entries, entry.slug ≠ slug →
      entry.slug ∈ s.runningSlugs → s.isProcessAlive entry.pid
  | .deallocate _ _ io => io.Whole
  | _ => True

instance (s : Host) : ∀ e, Decidable (RecordsLive s e)
  | .allocate slug _ io => inferInstanceAs (Decidable (io = .done ∧ ∀ entry ∈ s.file.entries,
      entry.slug ≠ slug → entry.slug ∈ s.runningSlugs → s.isProcessAlive entry.pid))
  | .deallocate _ _ io => inferInstanceAs (Decidable io.Whole)
  | .start _ _ | .exit _ _ _ | .spawn _ | .reap _ => inferInstanceAs (Decidable True)

/-! ## Entries by slot -/

/-- An entry is where its slot says. -/
def RegistryEntry.Placed (entry : RegistryEntry) : Prop :=
  entry.slotIndex < numSlots ∧ entry.basePort = portRangeStart + entry.slotIndex * stride

theorem newEntry_placed (slug : String) {slotIndex : ℕ} (h : slotIndex < numSlots) (pid : ℕ) :
    (newEntry slug slotIndex pid).Placed := ⟨h, rfl⟩

theorem RegistryEntry.Placed.subset {entry : RegistryEntry} (h : entry.Placed) :
    entry.allocation.ports ⊆ portRange := by
  obtain ⟨hslot, hbase⟩ := h
  intro port hport
  simp only [PortAllocation.ports, portRange, RegistryEntry.allocation, Finset.mem_Ico] at hport ⊢
  unfold numSlots stride portRangeStart at *
  omega

theorem RegistryEntry.Placed.disjoint {x y : RegistryEntry} (hx : x.Placed) (hy : y.Placed)
    (hne : x.slotIndex ≠ y.slotIndex) : Disjoint x.allocation.ports y.allocation.ports := by
  obtain ⟨_, hxbase⟩ := hx
  obtain ⟨_, hybase⟩ := hy
  rw [Finset.disjoint_left]
  intro port hportx hporty
  simp only [PortAllocation.ports, RegistryEntry.allocation, Finset.mem_Ico] at hportx hporty
  unfold stride at *
  omega

/-- What holds in every state: the entries have their own slugs and slots, and every
    range that is held is recorded. -/
structure HostInv (s : Host) : Prop where
  readable : s.file.Readable
  slugs : (s.file.entries.map (·.slug)).Nodup
  slots : (s.file.entries.map (·.slotIndex)).Nodup
  placed : ∀ entry ∈ s.file.entries, entry.Placed
  recorded : ∀ slug range, s.held slug = some range →
    ∃ entry ∈ s.file.entries, entry.slug = slug ∧ entry.allocation = range

variable {registryPath} {s : Host}

theorem HostInv.registrySafe (hI : HostInv s) : RegistrySafe s where
  oneEntry := hI.slugs
  disjoint := by
    have hslots := List.pairwise_map.mp hI.slots
    exact hslots.imp_of_mem fun hx hy hne => (hI.placed _ hx).disjoint (hI.placed _ hy) hne
  inRange entry hentry := (hI.placed entry hentry).subset

theorem HostInv.unique (hI : HostInv s) {x y : RegistryEntry} (hx : x ∈ s.file.entries)
    (hy : y ∈ s.file.entries) (h : x.slug = y.slug) : x = y :=
  List.inj_on_of_nodup_map hI.slugs hx hy h

theorem HostInv.unique_slot (hI : HostInv s) {x y : RegistryEntry} (hx : x ∈ s.file.entries)
    (hy : y ∈ s.file.entries) (h : x.slotIndex = y.slotIndex) : x = y :=
  List.inj_on_of_nodup_map hI.slots hx hy h

/-- A call that leaves the file as it is and the slug with a recorded range. -/
theorem HostInv.same_file (hI : HostInv s) {slug : String} {own : Option PortAllocation}
    (hown : ∀ range, own = some range →
      ∃ entry ∈ s.file.entries, entry.slug = slug ∧ entry.allocation = range) :
    HostInv { s with held := s.heldAfter s.file slug own } where
  readable := hI.readable
  slugs := hI.slugs
  slots := hI.slots
  placed := hI.placed
  recorded other range hheld := by
    simp only [Host.heldAfter] at hheld
    split_ifs at hheld with hself hkept
    · rw [hself]
      exact hown range hheld
    · exact hI.recorded other range hheld

/-- What a new registry has to keep: the entry of every other slug that still holds a
    range. -/
theorem HostInv.recorded_of_kept (hI : HostInv s) {file : RegistryFile} {slug : String}
    {own : Option PortAllocation}
    (hrunning : ∀ entry ∈ s.file.entries, entry.slug ≠ slug → entry.slug ∈ s.runningSlugs →
      entry ∈ file.entries)
    (hold : ∀ entry ∈ file.entries, entry.slug ≠ slug → entry ∈ s.file.entries)
    (hown : ∀ range, own = some range →
      ∃ entry ∈ file.entries, entry.slug = slug ∧ entry.allocation = range) :
    ∀ other range, s.heldAfter file slug own other = some range →
      ∃ entry ∈ file.entries, entry.slug = other ∧ entry.allocation = range := by
  intro other range hheld
  unfold Host.heldAfter at hheld
  split_ifs at hheld with hself hkept
  · rw [hself]
    exact hown range hheld
  · obtain ⟨entry, hentry, hslug, hrange⟩ := hI.recorded other range hheld
    refine ⟨entry, ?_, hslug, hrange⟩
    rcases hkept with hrun | hmem
    · exact hrunning entry hentry (hslug ▸ hself) (hslug ▸ hrun)
    · -- the entry that the new file has for the slug is the old one
      obtain ⟨entry', hentry', hslug'⟩ := List.mem_map.mp hmem
      have hsame := hI.unique (hold entry' hentry' (hslug' ▸ hself)) hentry
        (hslug'.trans hslug.symm)
      exact hsame ▸ hentry'

theorem HostInv.allocate (hI : HostInv s) {slug : String} {pid : ℕ} {io : RegistryIo}
    (hC : RecordsLive s (.allocate slug pid io)) :
    HostInv (portStep registryPath s (.allocate slug pid io)).1 := by
  obtain ⟨rfl, hlive⟩ := hC
  have hcases := allocatePorts_cases registryPath slug pid s.isProcessAlive hI.readable
  unfold portStep
  dsimp only
  generalize allocatePorts registryPath slug pid s.isProcessAlive .done s.file = r at hcases
  cases hcases with
  | found entry hentry hslug =>
    refine hI.same_file fun range hrange => ?_
    exact ⟨entry, (RegistryFile.mem_live.mp hentry).1, hslug, Option.some.inj hrange⟩
  | full hall e => exact hI.same_file fun range hrange => hI.recorded slug range hrange
  | fresh slotIndex hnew hslot hfree =>
    have hsub : (s.file.live s.isProcessAlive).Sublist s.file.entries := List.filter_sublist
    refine ⟨trivial, ?_, ?_, ?_, hI.recorded_of_kept ?_ ?_ ?_⟩
    · show ((s.file.live s.isProcessAlive ++ [newEntry slug slotIndex pid]).map (·.slug)).Nodup
      rw [List.map_append, List.nodup_append]
      refine ⟨(hsub.map _).nodup hI.slugs, List.nodup_singleton _, ?_⟩
      intro x hx y hy hxy
      obtain ⟨entry, hentry, rfl⟩ := List.mem_map.mp hx
      exact hnew entry hentry (hxy.trans (List.mem_singleton.mp hy))
    · show ((s.file.live s.isProcessAlive ++ [newEntry slug slotIndex pid]).map
        (·.slotIndex)).Nodup
      rw [List.map_append, List.nodup_append]
      refine ⟨(hsub.map _).nodup hI.slots, List.nodup_singleton _, ?_⟩
      intro x hx y hy hxy
      have hslotIndex : y = slotIndex := List.mem_singleton.mp hy
      rw [hxy, hslotIndex] at hx
      exact hfree hx
    · intro entry hentry
      rcases List.mem_append.mp hentry with hentry | hentry
      · exact hI.placed entry (hsub.subset hentry)
      · obtain rfl := List.mem_singleton.mp hentry
        exact newEntry_placed slug hslot pid
    · intro entry hentry hne hrun
      exact List.mem_append_left _ (RegistryFile.mem_live.mpr ⟨hentry, hlive entry hentry hne hrun⟩)
    · intro entry hentry hne
      rcases List.mem_append.mp hentry with hentry | hentry
      · exact hsub.subset hentry
      · obtain rfl := List.mem_singleton.mp hentry
        exact absurd rfl hne
    · intro range hrange
      exact ⟨_, List.mem_append_right _ (List.mem_singleton_self _), rfl, Option.some.inj hrange⟩

theorem HostInv.deallocate (hI : HostInv s) (slug : String) (pid : ℕ) {io : RegistryIo}
    (hio : io.Whole) : HostInv (portStep registryPath s (.deallocate slug pid io)).1 := by
  cases io with
  | failed detail => exact hI.same_file fun range hrange => hI.recorded slug range hrange
  | done =>
    have hfile : deallocatePorts registryPath slug .done s.file =
        (.written (s.file.entries.filter fun entry => entry.slug ≠ slug), .ok ()) := by
      unfold deallocatePorts
      dsimp only
      rw [RegistryFile.read_of_readable hI.readable]
      rfl
    unfold portStep
    dsimp only
    rw [hfile]
    have hsub : (s.file.entries.filter fun entry => entry.slug ≠ slug).Sublist s.file.entries :=
      List.filter_sublist
    refine ⟨trivial, (hsub.map _).nodup hI.slugs, (hsub.map _).nodup hI.slots,
      fun entry hentry => hI.placed entry (hsub.subset hentry), hI.recorded_of_kept ?_ ?_ ?_⟩
    · exact fun entry hentry hne _ => List.mem_filter.mpr ⟨hentry, by simpa using hne⟩
    · exact fun entry hentry _ => hsub.subset hentry
    · exact fun range hrange => nomatch hrange
  | emptied detail => exact hio.elim
  | cutShort detail parseError => exact hio.elim

theorem run_hostInv {h : List (PortEvent × PortAnswer)} (hr : (portMachine registryPath).Run h s)
    (hC : ∀ e a h', (e, a) :: h' <:+ h → RecordsLive ((portMachine registryPath).stateAfter h') e) :
    HostInv s := by
  refine Machine.Run.invariant_of_steps (I := fun _ s => HostInv s) (C := RecordsLive) ?_ ?_ hr hC
  · exact ⟨trivial, List.nodup_nil, List.nodup_nil, fun _ hentry => absurd hentry List.not_mem_nil,
      fun _ _ hheld => nomatch hheld⟩
  · intro h s e _ _ hC hI
    cases e with
    | allocate slug pid io => exact hI.allocate hC
    | deallocate slug pid io => exact hI.deallocate slug pid hC
    | start slug pid => exact ⟨hI.readable, hI.slugs, hI.slots, hI.placed, hI.recorded⟩
    | exit slug pid zombie => exact ⟨hI.readable, hI.slugs, hI.slots, hI.placed, hI.recorded⟩
    | spawn pid => exact ⟨hI.readable, hI.slugs, hI.slots, hI.placed, hI.recorded⟩
    | reap pid => exact ⟨hI.readable, hI.slugs, hI.slots, hI.placed, hI.recorded⟩

theorem HostInv.answerSafe (hI : HostInv s) {e : PortEvent} (hC : RecordsLive s e) :
    AnswerSafe s e (portStep registryPath s e).2 := by
  cases e with
  | allocate slug pid io =>
    obtain ⟨rfl, hlive⟩ := hC
    have hcases := allocatePorts_cases registryPath slug pid s.isProcessAlive hI.readable
    unfold portStep
    dsimp only
    generalize allocatePorts registryPath slug pid s.isProcessAlive .done s.file = r at hcases
    cases hcases with
    | found entry hentry hslug =>
      intro other hne _ range hheld
      obtain ⟨entry', hentry', rfl, rfl⟩ := hI.recorded other range hheld
      have hmem := (RegistryFile.mem_live.mp hentry).1
      refine (hI.placed _ hmem).disjoint (hI.placed _ hentry') fun hslot => hne ?_
      rw [← hslug, hI.unique_slot hmem hentry' hslot]
    | fresh slotIndex hnew hslot hfree =>
      intro other hne hrun range hheld
      obtain ⟨entry', hentry', rfl, rfl⟩ := hI.recorded other range hheld
      have hmem := RegistryFile.mem_live.mpr ⟨hentry', hlive entry' hentry' hne hrun⟩
      refine (newEntry_placed slug hslot pid).disjoint (hI.placed _ hentry') fun heq => hfree ?_
      exact List.mem_map.mpr ⟨entry', hmem, heq.symm⟩
    | full hall e =>
      intro idx hidx
      obtain ⟨entry, hentry, hslot⟩ := hall idx hidx
      obtain ⟨hmem, halive⟩ := RegistryFile.mem_live.mp hentry
      exact ⟨entry, hmem, hslot, halive⟩
  | _ => trivial

/-- Port allocation is safe in every run whose steps meet the condition. -/
theorem ports_safe_along (registryPath : String) {h : List (PortEvent × PortAnswer)} {s : Host}
    (hr : (portMachine registryPath).Run h s)
    (hC : ∀ e a h', (e, a) :: h' <:+ h → RecordsLive ((portMachine registryPath).stateAfter h') e) :
    (∀ h', h' <:+ h → RegistrySafe ((portMachine registryPath).stateAfter h')) ∧
      ∀ e a h', (e, a) :: h' <:+ h → AnswerSafe ((portMachine registryPath).stateAfter h') e a := by
  have hinv : ∀ h', h' <:+ h → HostInv ((portMachine registryPath).stateAfter h') :=
    fun h' hs => run_hostInv (hr.suffix hs) fun e a g hg => hC e a g (hg.trans hs)
  refine ⟨fun h' hs => (hinv h' hs).registrySafe, fun e a h' hs => ?_⟩
  obtain ⟨rfl, _⟩ := hr.answer_of_suffix hs
  exact (hinv h' ((List.suffix_cons _ _).trans hs)).answerSafe (hC e _ h' hs)

/-! ## A helper that starts again -/

/-- The registry in the home of a user. -/
abbrev samplePorts := portMachine "/home/dev/.cache/devloop/port-registry.json"

/-- Two helpers allocate, and one deallocates at its teardown. -/
def orderlyPortEvents : List PortEvent :=
  [.start "task-1" 100, .allocate "task-1" 100 .done, .start "task-34" 300,
    .allocate "task-34" 300 .done, .allocate "task-1" 100 .done, .deallocate "task-1" 100 .done,
    .exit "task-1" 100 false]

/-- The helper of `task-1` crashes; another process has its number when the next helper
    of the slug allocates, and is gone when `task-34`, which prefers the same slot, does. -/
def recycledPidEvents : List PortEvent :=
  [.start "task-1" 100, .allocate "task-1" 100 .done, .exit "task-1" 100 false, .spawn 100,
    .start "task-1" 200, .allocate "task-1" 200 .done, .reap 100, .start "task-34" 300]

theorem ports_safe_along_orderly :
    samplePorts.Run (samplePorts.playAll orderlyPortEvents).2
        (samplePorts.playAll orderlyPortEvents).1 ∧
      (∀ h', h' <:+ (samplePorts.playAll orderlyPortEvents).2 →
        RegistrySafe (samplePorts.stateAfter h')) ∧
      ∀ e a h', (e, a) :: h' <:+ (samplePorts.playAll orderlyPortEvents).2 →
        AnswerSafe (samplePorts.stateAfter h') e a := by
  have hrun : samplePorts.Run (samplePorts.playAll orderlyPortEvents).2
      (samplePorts.playAll orderlyPortEvents).1 := Machine.run_of_admits (by decide +kernel)
  have hsteps : samplePorts.StepsMeet RecordsLive (samplePorts.playAll orderlyPortEvents).2 := by
    decide +kernel
  exact ⟨hrun, ports_safe_along _ hrun hsteps.forall_suffix⟩

/-- The range of the running helper of `task-1` is handed to `task-34`. -/
theorem restarted_loses_range :
    samplePorts.Run (samplePorts.playAll recycledPidEvents).2
        (samplePorts.playAll recycledPidEvents).1 ∧
      (samplePorts.playAll recycledPidEvents).1.CanDo (.allocate "task-34" 300 .done) ∧
      ¬ AnswerSafe (samplePorts.playAll recycledPidEvents).1 (.allocate "task-34" 300 .done)
        (samplePorts.step (samplePorts.playAll recycledPidEvents).1
          (.allocate "task-34" 300 .done)).2 := by
  refine ⟨Machine.run_of_admits (by decide +kernel), by decide +kernel, fun hsafe => ?_⟩
  have hanswer : (samplePorts.step (samplePorts.playAll recycledPidEvents).1
      (.allocate "task-34" 300 .done)).2 = .allocated (.ok ⟨25200, 26⟩) := by decide +kernel
  rw [hanswer] at hsafe
  have hdisjoint : Disjoint (PortAllocation.ports ⟨25200, 26⟩) (PortAllocation.ports ⟨25200, 26⟩) :=
    hsafe "task-1" (by decide) (by decide) ⟨25200, 26⟩ (by decide +kernel)
  exact absurd hdisjoint (by decide +kernel)

end DarkTower.Devloop
