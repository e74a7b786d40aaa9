import DarkTower.Gc.LiveCleanup
import DarkTower.Lib.Multimap

/-!
# Concurrent calls of `assign_meeting_with_mh` (`gc-service/src/services/mc_assignment.rs`)

The calls of any number of global controllers for one meeting in one region, on
the same tables. A call is a sequence of statements and of requests to meeting
controllers, and it is described by the one it does next (`CallPc`), so the
calls interleave at these.

* A statement is executed at one instant. It can fail, before or after the
  database executed it; the call then returns the error.
* The rows that the queries on handlers and candidates return, the random draws
  and the answers of the meeting controllers are part of the event.
* `callStep_cases`: everything a step of a call can do.
-/

namespace DarkTower.Gc

open DarkTower.Lib Tables

/-- `McRejectionReason` (mc_client.rs:38). -/
inductive McRejectionReason
  | unspecified
  | atCapacity
  | draining
  | unhealthy
deriving DecidableEq

/-- `McAssignmentResult` (mc_client.rs:62). -/
inductive McAssignmentResult
  | accepted
  | rejected (reason : McRejectionReason)
deriving DecidableEq

/-- `MhCandidate` (media_handlers.rs:51), without its load ratio. -/
structure MhCandidate where
  handlerId : String
  webtransportEndpoint : String
  grpcEndpoint : String
deriving DecidableEq

/-- `MhAssignmentInfo` (mh_selection.rs:33). -/
structure MhAssignmentInfo where
  mhId : String
  webtransportEndpoint : String
  grpcEndpoint : String
deriving DecidableEq

/-- `MhSelection` (mh_selection.rs:25). -/
structure MhSelection where
  handlers : List MhAssignmentInfo
deriving DecidableEq

/-- `AssignmentWithMh` (mc_assignment.rs:40). -/
structure AssignmentWithMh where
  mcAssignment : McAssignment
  mhSelection : MhSelection
deriving DecidableEq

/-- `weighted_random_select` (meeting_assignments.rs:547, mh_selection.rs:150) with
    the index at which its loop over the weights stops; past the end it falls
    back to the last candidate. -/
def weightedRandomSelect {α : Type*} (candidates : List α) (choice : ℕ) : Option α :=
  candidates[choice]?.or candidates.getLast?

theorem weightedRandomSelect_mem {α : Type*} {candidates : List α} {choice : ℕ} {x : α}
    (h : weightedRandomSelect candidates choice = some x) : x ∈ candidates := by
  rcases Option.or_eq_some_iff.mp h with hget | ⟨_, hlast⟩
  · exact List.mem_of_getElem? hget
  · exact List.mem_of_getLast? hlast

/-- The `MhAssignmentInfo` of a candidate. -/
def MhCandidate.info (c : MhCandidate) : MhAssignmentInfo :=
  ⟨c.handlerId, c.webtransportEndpoint, c.grpcEndpoint⟩

/-- `select_mhs_for_meeting` (mh_selection.rs:66) on the rows of `get_candidate_mhs`,
    with its two draws. -/
def selectMhsForMeeting (candidates : List MhCandidate) (choice₁ choice₂ : ℕ) :
    Except GcError MhSelection :=
  match weightedRandomSelect candidates choice₁ with
  | none => .error (.serviceUnavailable "No media handlers available in this region")
  | some first =>
    let remaining := candidates.filter fun c => c.handlerId ≠ first.handlerId
    .ok ⟨first.info :: ((weightedRandomSelect remaining choice₂).map (·.info)).toList⟩

/-- `MAX_MC_ASSIGNMENT_RETRIES` (mc_assignment.rs:34). -/
def maxMcAssignmentRetries : ℕ := 3

/-- The variables of the retry loop (mc_assignment.rs:181–184). -/
structure Attempts where
  mhSelection : MhSelection
  attempt : ℕ
  triedMcs : List String
  lastRejectionReason : Option McRejectionReason
deriving DecidableEq

/-- Where a call stands: what it does next. -/
inductive CallPc
  | getHealthyAssignment
  /-- `select_mhs_for_meeting`, for the assignment it has found or for a new one. -/
  | selectMhs (existing : Option McAssignment)
  | getCandidateMcs (loop : Attempts)
  /-- Waits for the answer of the selected controller. -/
  | assignMeeting (loop : Attempts) (selectedMc : McCandidate)
  /-- The statement of `atomic_assign`. -/
  | atomicAssign (mhSelection : MhSelection) (selectedMc : McCandidate)
  /-- The query of `atomic_assign` after it has lost the race. -/
  | getCurrentAssignment (mhSelection : MhSelection)
  | done (result : Except GcError AssignmentWithMh)
deriving DecidableEq

/-- A call, with the global controller that makes it. -/
structure Call where
  gcId : String
  pc : CallPc
deriving DecidableEq

/-- The loop before its first attempt. -/
def Attempts.start (mhSelection : MhSelection) : Attempts := ⟨mhSelection, 1, [], none⟩

/-- The error after the loop (mc_assignment.rs:290–304). -/
def exhausted (lastRejectionReason : Option McRejectionReason) : GcError :=
  .serviceUnavailable <|
    match lastRejectionReason with
    | some .atCapacity => "All meeting controllers are at capacity"
    | some .draining => "All meeting controllers are draining"
    | some .unhealthy => "All meeting controllers are unhealthy"
    | some .unspecified | none => "No meeting controllers available"

/-- The next attempt, if there is one. -/
def Attempts.retry (loop : Attempts) (mcId : String) (reason : Option McRejectionReason) : CallPc :=
  let lastRejectionReason := reason.or loop.lastRejectionReason
  if loop.attempt < maxMcAssignmentRetries then
    .getCandidateMcs { loop with
      attempt := loop.attempt + 1
      triedMcs := loop.triedMcs ++ [mcId]
      lastRejectionReason }
  else .done (.error (exhausted lastRejectionReason))

/-- The candidates that the loop has not tried. -/
def Attempts.untried (loop : Attempts) (candidates : List McCandidate) : List McCandidate :=
  candidates.filter fun c => c.controllerId ∉ loop.triedMcs

/-- The selection of a controller (mc_assignment.rs:188–215). -/
def Attempts.select (loop : Attempts) (candidates : List McCandidate) (choice : ℕ) : CallPc :=
  match weightedRandomSelect (loop.untried candidates) choice with
  | none => .done (.error (exhausted loop.lastRejectionReason))
  | some selectedMc => .assignMeeting loop selectedMc

/-- The answer of a controller (mc_assignment.rs:231–286). -/
def Attempts.answer (loop : Attempts) (selectedMc : McCandidate) :
    Except GcError McAssignmentResult → CallPc
  | .ok .accepted => .atomicAssign loop.mhSelection selectedMc
  | .ok (.rejected reason) => loop.retry selectedMc.controllerId (some reason)
  | .error _ => loop.retry selectedMc.controllerId none

/-- `atomic_assign` after its statement. -/
def afterAssign (mhSelection : MhSelection) (selectedMc : McCandidate) :
    Except GcError (Option String) → CallPc
  | .ok (some _) => .done (.ok ⟨⟨selectedMc.controllerId, selectedMc.grpcEndpoint,
      selectedMc.webtransportEndpoint⟩, mhSelection⟩)
  | .ok none => .getCurrentAssignment mhSelection
  | .error e => .done (.error e)

/-- `atomic_assign` after its query. -/
def afterCurrent (mhSelection : MhSelection) : Option McAssignment → CallPc
  | some current => .done (.ok ⟨current, mhSelection⟩)
  | none => .done (.error (.serviceUnavailable
      "Failed to assign meeting controller - please retry"))

/-- The call after `select_mhs_for_meeting`. -/
def afterSelect (existing : Option McAssignment) : Except GcError MhSelection → CallPc
  | .error e => .done (.error e)
  | .ok mhSelection =>
    match existing with
    | some existing => .done (.ok ⟨existing, mhSelection⟩)
    | none => .getCandidateMcs (.start mhSelection)

/-! ## The steps of a call -/

/-- What a call does. -/
inductive CallEvent
  | getHealthyAssignment (now : ℤ)
  | selectMhs (candidates : List MhCandidate) (choice₁ choice₂ : ℕ)
  | getCandidateMcs (now : ℤ) (candidates : List McCandidate) (choice : ℕ)
  /-- The answer of the meeting controller arrives, or the request fails. -/
  | assignMeeting (result : Except GcError McAssignmentResult)
  | atomicAssign (now : ℤ)
  | getCurrentAssignment (now : ℤ)
  /-- The statement fails, maybe after it was executed. -/
  | fail (now : ℤ) (executed : Bool)

/-- The time of a step. -/
def CallEvent.now? : CallEvent → Option ℤ
  | getHealthyAssignment now => some now
  | selectMhs _ _ _ => none
  | getCandidateMcs now _ _ => some now
  | assignMeeting _ => none
  | atomicAssign now => some now
  | getCurrentAssignment now => some now
  | fail now _ => some now

/-- A statement of the call fails. -/
def failStep (meetingId region : String) (t : Tables) (c : Call) (now : ℤ) (executed : Bool) :
    Tables × CallPc :=
  match c.pc with
  | .done _ | .assignMeeting _ _ => (t, c.pc)
  | .atomicAssign _ selectedMc =>
    (if executed then (t.assignRow now meetingId region selectedMc.controllerId c.gcId).1 else t,
      .done (.error .database))
  | _ => (t, .done (.error .database))

/-- The tables and where the call stands after a step of it; a step that is not
    the next one of the call does nothing. -/
def callStep (meetingId region : String) (t : Tables) (c : Call) (e : CallEvent) : Tables × CallPc :=
  match e, c.pc with
  | .getHealthyAssignment now, .getHealthyAssignment =>
    (t, .selectMhs (t.getHealthyAssignment now meetingId region))
  | .selectMhs candidates choice₁ choice₂, .selectMhs existing =>
    (t, afterSelect existing (selectMhsForMeeting candidates choice₁ choice₂))
  | .getCandidateMcs _ candidates choice, .getCandidateMcs loop =>
    (t, loop.select candidates choice)
  | .assignMeeting result, .assignMeeting loop selectedMc => (t, loop.answer selectedMc result)
  | .atomicAssign now, .atomicAssign mhSelection selectedMc =>
    let assigned := t.assignRow now meetingId region selectedMc.controllerId c.gcId
    (assigned.1, afterAssign mhSelection selectedMc assigned.2)
  | .getCurrentAssignment _, .getCurrentAssignment mhSelection =>
    (t, afterCurrent mhSelection (t.getCurrentAssignment meetingId region))
  | .fail now executed, _ => failStep meetingId region t c now executed
  | _, pc => (t, pc)

section

variable (meetingId region : String) (t : Tables) (c : Call)

/-- Everything a step of a call can do. -/
inductive CallCase : CallEvent → Tables × CallPc → Prop
  | stays (e : CallEvent) : CallCase e (t, c.pc)
  | failed (e : CallEvent) (error : GcError)
      (hasked : ∀ loop selectedMc, c.pc = .assignMeeting loop selectedMc →
        ∃ result, e = .assignMeeting result)
      (haccepted : ∀ mhSelection selectedMc, c.pc = .atomicAssign mhSelection selectedMc →
        ∃ now, e = .fail now false) :
      CallCase e (t, .done (.error error))
  | looked (now : ℤ) (hpc : c.pc = .getHealthyAssignment) :
      CallCase (.getHealthyAssignment now)
        (t, .selectMhs (t.getHealthyAssignment now meetingId region))
  | reused (candidates : List MhCandidate) (choice₁ choice₂ : ℕ) (existing : McAssignment)
      (mhSelection : MhSelection) (hpc : c.pc = .selectMhs (some existing)) :
      CallCase (.selectMhs candidates choice₁ choice₂) (t, .done (.ok ⟨existing, mhSelection⟩))
  | selected (candidates : List MhCandidate) (choice₁ choice₂ : ℕ) (mhSelection : MhSelection)
      (hpc : c.pc = .selectMhs none) :
      CallCase (.selectMhs candidates choice₁ choice₂) (t, .getCandidateMcs (.start mhSelection))
  | tries (now : ℤ) (candidates : List McCandidate) (choice : ℕ) (loop : Attempts)
      (selectedMc : McCandidate) (hpc : c.pc = .getCandidateMcs loop)
      (hmem : selectedMc ∈ loop.untried candidates) :
      CallCase (.getCandidateMcs now candidates choice) (t, .assignMeeting loop selectedMc)
  | retries (result : Except GcError McAssignmentResult) (loop : Attempts)
      (selectedMc : McCandidate) (lastRejectionReason : Option McRejectionReason)
      (hpc : c.pc = .assignMeeting loop selectedMc) (hattempt : loop.attempt < maxMcAssignmentRetries) :
      CallCase (.assignMeeting result) (t, .getCandidateMcs { loop with
        attempt := loop.attempt + 1
        triedMcs := loop.triedMcs ++ [selectedMc.controllerId]
        lastRejectionReason })
  | accepted (loop : Attempts) (selectedMc : McCandidate)
      (hpc : c.pc = .assignMeeting loop selectedMc) :
      CallCase (.assignMeeting (.ok .accepted)) (t, .atomicAssign loop.mhSelection selectedMc)
  | assigned (now : ℤ) (mhSelection : MhSelection) (selectedMc : McCandidate)
      (hpc : c.pc = .atomicAssign mhSelection selectedMc) :
      CallCase (.atomicAssign now)
        ((t.assignRow now meetingId region selectedMc.controllerId c.gcId).1,
          afterAssign mhSelection selectedMc
            (t.assignRow now meetingId region selectedMc.controllerId c.gcId).2)
  | lost (now : ℤ) (mhSelection : MhSelection) (selectedMc : McCandidate)
      (hpc : c.pc = .atomicAssign mhSelection selectedMc) :
      CallCase (.fail now true)
        ((t.assignRow now meetingId region selectedMc.controllerId c.gcId).1,
          .done (.error .database))
  | reread (now : ℤ) (mhSelection : MhSelection) (current : McAssignment)
      (hpc : c.pc = .getCurrentAssignment mhSelection)
      (hcurrent : t.getCurrentAssignment meetingId region = some current) :
      CallCase (.getCurrentAssignment now) (t, .done (.ok ⟨current, mhSelection⟩))

theorem failStep_cases (now : ℤ) (executed : Bool) :
    CallCase meetingId region t c (.fail now executed)
      (failStep meetingId region t c now executed) := by
  unfold failStep
  split
  · exact .stays _
  · exact .stays _
  · rename_i mhSelection selectedMc hpc
    split_ifs with hexecuted
    · rw [hexecuted]
      exact .lost now mhSelection selectedMc hpc
    · rw [Bool.eq_false_iff.mpr hexecuted]
      exact .failed _ _ (by rw [hpc]; nofun) fun _ _ _ => ⟨now, rfl⟩
  · rename_i hdone hasked haccepted
    exact .failed _ _ (fun _ _ hpc => absurd hpc (hasked _ _)) fun _ _ hpc =>
      absurd hpc (haccepted _ _)

theorem Attempts.answer_cases {loop : Attempts} {selectedMc : McCandidate}
    (hpc : c.pc = .assignMeeting loop selectedMc) (result : Except GcError McAssignmentResult) :
    CallCase meetingId region t c (.assignMeeting result) (t, loop.answer selectedMc result) := by
  have hretry : ∀ reason, CallCase meetingId region t c (.assignMeeting result)
      (t, loop.retry selectedMc.controllerId reason) := by
    intro reason
    unfold Attempts.retry
    split_ifs with hattempt
    · exact .retries result loop selectedMc _ hpc hattempt
    · exact .failed _ _ (fun _ _ _ => ⟨result, rfl⟩) (by rw [hpc]; nofun)
  match result with
  | .ok .accepted => exact .accepted loop selectedMc hpc
  | .ok (.rejected reason) => exact hretry (some reason)
  | .error _ => exact hretry none

theorem callStep_cases (e : CallEvent) :
    CallCase meetingId region t c e (callStep meetingId region t c e) := by
  unfold callStep
  split
  · rename_i now hpc
    exact .looked now hpc
  · rename_i candidates choice₁ choice₂ existing hpc
    unfold afterSelect
    split
    · exact .failed _ _ (by rw [hpc]; nofun) (by rw [hpc]; nofun)
    · split
      · rename_i existing
        exact .reused _ _ _ existing _ hpc
      · exact .selected _ _ _ _ hpc
  · rename_i now candidates choice loop hpc
    unfold Attempts.select
    split
    · exact .failed _ _ (by rw [hpc]; nofun) (by rw [hpc]; nofun)
    · rename_i selectedMc hselect
      exact .tries now candidates choice loop selectedMc hpc (weightedRandomSelect_mem hselect)
  · rename_i result loop selectedMc hpc
    exact Attempts.answer_cases meetingId region t c hpc result
  · rename_i now mhSelection selectedMc hpc
    exact .assigned now mhSelection selectedMc hpc
  · rename_i now mhSelection hpc
    unfold afterCurrent
    split
    · rename_i current hcurrent
      exact .reread now mhSelection current hpc hcurrent
    · exact .failed _ _ (by rw [hpc]; nofun) (by rw [hpc]; nofun)
  · rename_i now executed
    exact failStep_cases meetingId region t c now executed
  · exact .stays _

end

/-! ## The calls together -/

/-- The tables and the calls. -/
structure GcSystem where
  tables : Tables
  calls : AList fun _ : ℕ => Call

/-- What happens to the calls and to the tables. -/
inductive AssignEvent
  /-- A global controller makes a call. -/
  | start (call : ℕ) (gcId : String)
  | call (call : ℕ) (e : CallEvent)
  /-- Another statement on the tables. -/
  | other (e : PlacementEvent)

/-- The system with new tables and a call that stands elsewhere. -/
def GcSystem.set (s : GcSystem) (t : Tables) (call : ℕ) (c : Call) : GcSystem :=
  ⟨t, s.calls.insert call c⟩

theorem GcSystem.lookup_set {s : GcSystem} {t : Tables} {call call' : ℕ} {c c' : Call} :
    (s.set t call c).calls.lookup call' = some c' ↔
      call' = call ∧ c' = c ∨ call' ≠ call ∧ s.calls.lookup call' = some c' :=
  Multimap.lookup_insert_eq_some

theorem GcSystem.lookup_set_self {s : GcSystem} {t : Tables} {call : ℕ} {c : Call}
    (h : s.calls.lookup call = some c) (call' : ℕ) :
    (s.set t call c).calls.lookup call' = s.calls.lookup call' := by
  show (s.calls.insert call c).lookup call' = _
  by_cases heq : call' = call
  · rw [heq, AList.lookup_insert, h]
  · rw [AList.lookup_insert_ne heq]

/-- One step. -/
def GcSystem.step (stalenessThreshold : ℤ) (meetingId region : String) (s : GcSystem) :
    AssignEvent → GcSystem
  | .start call gcId =>
    match s.calls.lookup call with
    | none => s.set s.tables call ⟨gcId, .getHealthyAssignment⟩
    | some _ => s
  | .call call e =>
    match s.calls.lookup call with
    | none => s
    | some c =>
      let r := callStep meetingId region s.tables c e
      s.set r.1 call { c with pc := r.2 }
  | .other e => { s with tables := (placementStep stalenessThreshold s.tables e).1 }

/-- `LOAD_BALANCING_CANDIDATE_COUNT` (meeting_assignments.rs:25). -/
def loadBalancingCandidateCount : ℕ := 5

/-- `get_candidate_mcs` returns rows that satisfy its condition, and the other
    statements leave the row of the meeting as it is. -/
def GcSystem.Admits (stalenessThreshold : ℤ) (meetingId region : String) (s : GcSystem) :
    AssignEvent → Prop
  | .call _ (.getCandidateMcs now candidates _) =>
    Picks loadBalancingCandidateCount (s.tables.candidateRows now region) candidates
  | .other e =>
    (placementStep stalenessThreshold s.tables e).1.assignment meetingId region =
      s.tables.assignment meetingId region
  | _ => True

/-- Everything a step can do. -/
inductive GcCase (stalenessThreshold : ℤ) (meetingId region : String) (s : GcSystem) :
    AssignEvent → GcSystem → Prop
  | stutter (e : AssignEvent) : GcCase stalenessThreshold meetingId region s e s
  | started (call : ℕ) (gcId : String) (hcall : s.calls.lookup call = none) :
      GcCase stalenessThreshold meetingId region s (.start call gcId)
        (s.set s.tables call ⟨gcId, .getHealthyAssignment⟩)
  | called (call : ℕ) (e : CallEvent) (c : Call) (hcall : s.calls.lookup call = some c) :
      GcCase stalenessThreshold meetingId region s (.call call e)
        (s.set (callStep meetingId region s.tables c e).1 call
          { c with pc := (callStep meetingId region s.tables c e).2 })
  | other (e : PlacementEvent) : GcCase stalenessThreshold meetingId region s (.other e)
      { s with tables := (placementStep stalenessThreshold s.tables e).1 }

theorem GcSystem.step_cases (stalenessThreshold : ℤ) (meetingId region : String) (s : GcSystem)
    (e : AssignEvent) :
    GcCase stalenessThreshold meetingId region s e (s.step stalenessThreshold meetingId region e) := by
  unfold GcSystem.step
  split
  · rename_i call gcId
    split
    · rename_i hcall
      exact .started call gcId hcall
    · exact .stutter _
  · rename_i call e
    split
    · exact .stutter _
    · rename_i c hcall
      exact .called call e c hcall
  · rename_i e
    exact .other e

end DarkTower.Gc
