import DarkTower.Devloop.Error
import Mathlib.Data.List.Nodup

/-!
# Port allocation of the devloop helpers

Model of `allocate_ports` and `deallocate_ports` (`devloop-helper/src/ports.rs:196`) on the
registry file. Each runs under the registry lock, so it is one step. `alive` is what
`kill(pid, 0)` answers: it succeeds for every process of that number, zombies and
processes that took the number over included.

`write_registry` truncates the file before it writes, so a crash or a failed write
leaves it empty or unreadable (`RegistryIo`).

* `allocatePorts_cases`: an allocation whose I/O succeeds returns the live entry of the
  slug, or takes the first free slot from the preferred one on, or finds every slot held
  by a live entry.
* `chooseIndex_eq_none_iff`: the scan fails only when all slots are taken.
-/

namespace DarkTower.Devloop

/-- `NUM_SLOTS` (line 16). -/
def numSlots : ℕ := 50

/-- `STRIDE` (line 18). -/
def stride : ℕ := 200

/-- `PORT_RANGE_START` (line 20). -/
def portRangeStart : ℕ := 20000

/-- `PortAllocation` (line 52). -/
structure PortAllocation where
  basePort : ℕ
  slotIndex : ℕ
deriving DecidableEq

/-- `RegistryEntry` (line 67). -/
structure RegistryEntry where
  slug : String
  slotIndex : ℕ
  basePort : ℕ
  pid : ℕ
deriving DecidableEq

/-- The allocation that an entry records. -/
def RegistryEntry.allocation (entry : RegistryEntry) : PortAllocation :=
  ⟨entry.basePort, entry.slotIndex⟩

/-- The loop of `preferred_index`, in `u64`. -/
def djb2 (bytes : List UInt8) : UInt64 := bytes.foldl (fun hash b => hash * 33 + b.toUInt64) 5381

/-- `preferred_index` (line 80). -/
def preferredIndex (slug : String) : ℕ := (djb2 slug.toUTF8.toList).toNat % numSlots

/-- The registry file. -/
inductive RegistryFile
  | absent
  | empty
  | written (entries : List RegistryEntry)
  | garbled (parseError : String)
deriving DecidableEq

/-- The entries a reader finds. -/
def RegistryFile.entries : RegistryFile → List RegistryEntry
  | written entries => entries
  | _ => []

/-- `read_registry` (line 125). -/
def RegistryFile.read (registryPath : String) :
    RegistryFile → Except HelperError (List RegistryEntry)
  | absent | empty => .ok []
  | written entries => .ok entries
  | garbled parseError => .error (.portAllocation
      ("failed to parse port registry at " ++ registryPath ++ ": " ++ parseError))

/-- What becomes of the I/O of a call: it succeeds; it fails before the file is touched;
    or it ends between the truncation and the last byte. -/
inductive RegistryIo
  | done
  | failed (detail : String)
  | emptied (detail : String)
  | cutShort (detail parseError : String)
deriving DecidableEq

/-- `write_registry` (line 143). -/
def RegistryIo.write (entries : List RegistryEntry) (file : RegistryFile) :
    RegistryIo → RegistryFile × Except HelperError Unit
  | done => (.written entries, .ok ())
  | failed detail => (file, .error (.io detail))
  | emptied detail => (.empty, .error (.io detail))
  | cutShort detail parseError => (.garbled parseError, .error (.io detail))

/-- The slots in the order of the scan. -/
def scanOrder (preferred : ℕ) : List ℕ :=
  (List.range numSlots).map fun offset => (preferred + offset) % numSlots

/-- The loop over the offsets (line 220). -/
def chooseIndex (preferred : ℕ) (allocatedSlots : List ℕ) : Option ℕ :=
  (scanOrder preferred).find? fun idx => !allocatedSlots.contains idx

/-- The entry of a new allocation. -/
def newEntry (slug : String) (slotIndex pid : ℕ) : RegistryEntry where
  slug := slug
  slotIndex := slotIndex
  basePort := portRangeStart + slotIndex * stride
  pid := pid

/-- `allocate_ports` (line 196) by the process `pid`. -/
def allocatePorts (registryPath slug : String) (pid : ℕ) (alive : ℕ → Bool) (io : RegistryIo)
    (file : RegistryFile) : RegistryFile × Except HelperError PortAllocation :=
  match io with
  | .failed detail => (file, .error (.io detail))
  | io =>
    match file.read registryPath with
    | .error e => (file, .error e)
    | .ok recorded =>
      let entries := recorded.filter fun entry => alive entry.pid
      match entries.find? fun entry => entry.slug = slug with
      -- the entry is returned as it is, with the process that it records
      | some entry => (file, .ok entry.allocation)
      | none =>
        match chooseIndex (preferredIndex slug) (entries.map (·.slotIndex)) with
        | none => (file, .error (.portAllocation ("all " ++ toString numSlots ++
            " port slots are in use — cannot allocate ports for '" ++ slug ++ "'")))
        | some slotIndex =>
          let entry := newEntry slug slotIndex pid
          match io.write (entries ++ [entry]) file with
          | (file', .ok ()) => (file', .ok entry.allocation)
          | (file', .error e) => (file', .error e)

/-- `deallocate_ports` (line 252). -/
def deallocatePorts (registryPath slug : String) (io : RegistryIo) (file : RegistryFile) :
    RegistryFile × Except HelperError Unit :=
  match io with
  | .failed detail => (file, .error (.io detail))
  | io =>
    match file.read registryPath with
    | .error e => (file, .error e)
    | .ok recorded => io.write (recorded.filter fun entry => entry.slug ≠ slug) file

/-! ## The scan -/

theorem mem_scanOrder {preferred idx : ℕ} : idx ∈ scanOrder preferred ↔ idx < numSlots := by
  unfold scanOrder numSlots
  rw [List.mem_map]
  constructor
  · rintro ⟨offset, _, rfl⟩
    omega
  · intro hidx
    refine ⟨(idx + 50 - preferred % 50) % 50, List.mem_range.mpr (by omega), ?_⟩
    omega

theorem chooseIndex_eq_some {preferred idx : ℕ} {allocatedSlots : List ℕ}
    (h : chooseIndex preferred allocatedSlots = some idx) :
    idx < numSlots ∧ idx ∉ allocatedSlots := by
  refine ⟨mem_scanOrder.mp (List.mem_of_find?_eq_some h), ?_⟩
  simpa using List.find?_some h

theorem chooseIndex_eq_none_iff {preferred : ℕ} {allocatedSlots : List ℕ} :
    chooseIndex preferred allocatedSlots = none ↔ ∀ idx < numSlots, idx ∈ allocatedSlots := by
  unfold chooseIndex
  rw [List.find?_eq_none]
  simp [mem_scanOrder]

/-! ## What an allocation does -/

/-- The entries with a live process. -/
def RegistryFile.live (alive : ℕ → Bool) (file : RegistryFile) : List RegistryEntry :=
  file.entries.filter fun entry => alive entry.pid

theorem RegistryFile.mem_live {alive : ℕ → Bool} {file : RegistryFile} {entry : RegistryEntry} :
    entry ∈ file.live alive ↔ entry ∈ file.entries ∧ alive entry.pid := List.mem_filter

/-- The outcomes of an allocation whose I/O succeeds on a readable file. -/
inductive AllocateCase (registryPath slug : String) (pid : ℕ) (alive : ℕ → Bool)
    (file : RegistryFile) : RegistryFile × Except HelperError PortAllocation → Prop
  | found (entry : RegistryEntry) (hentry : entry ∈ file.live alive) (hslug : entry.slug = slug) :
      AllocateCase registryPath slug pid alive file (file, .ok entry.allocation)
  | fresh (slotIndex : ℕ) (hnew : ∀ entry ∈ file.live alive, entry.slug ≠ slug)
      (hslot : slotIndex < numSlots) (hfree : slotIndex ∉ (file.live alive).map (·.slotIndex)) :
      AllocateCase registryPath slug pid alive file
        (.written (file.live alive ++ [newEntry slug slotIndex pid]),
          .ok (newEntry slug slotIndex pid).allocation)
  | full (hall : ∀ idx < numSlots, ∃ entry ∈ file.live alive, entry.slotIndex = idx)
      (e : HelperError) :
      AllocateCase registryPath slug pid alive file (file, .error e)

/-- The file can be read. -/
def RegistryFile.Readable : RegistryFile → Prop
  | garbled _ => False
  | _ => True

theorem RegistryFile.read_of_readable {file : RegistryFile} (h : file.Readable)
    (registryPath : String) : file.read registryPath = .ok file.entries := by
  cases file with
  | garbled parseError => exact h.elim
  | _ => rfl

theorem allocatePorts_cases (registryPath slug : String) (pid : ℕ) (alive : ℕ → Bool)
    {file : RegistryFile} (hfile : file.Readable) :
    AllocateCase registryPath slug pid alive file
      (allocatePorts registryPath slug pid alive .done file) := by
  unfold allocatePorts
  dsimp only
  rw [RegistryFile.read_of_readable hfile]
  show AllocateCase _ _ _ _ _ (match (file.live alive).find? fun entry => entry.slug = slug with
    | some entry => _
    | none => _)
  cases hfind : (file.live alive).find? fun entry => decide (entry.slug = slug) with
  | some entry =>
    exact .found entry (List.mem_of_find?_eq_some hfind) (by simpa using List.find?_some hfind)
  | none =>
    dsimp only
    show AllocateCase _ _ _ _ _ (match chooseIndex (preferredIndex slug)
        ((file.live alive).map (·.slotIndex)) with
      | none => _
      | some slotIndex => _)
    cases hchoose : chooseIndex (preferredIndex slug) ((file.live alive).map (·.slotIndex)) with
    | none =>
      refine .full (fun idx hidx => ?_) _
      simpa using List.mem_map.mp (chooseIndex_eq_none_iff.mp hchoose idx hidx)
    | some slotIndex =>
      obtain ⟨hslot, hfree⟩ := chooseIndex_eq_some hchoose
      refine .fresh slotIndex (fun entry hentry => ?_) hslot hfree
      simpa using List.find?_eq_none.mp hfind entry hentry

end DarkTower.Devloop
