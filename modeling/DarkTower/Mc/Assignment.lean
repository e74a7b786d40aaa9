import DarkTower.Mc.Controller
import DarkTower.Mc.Redis.Client
import Mathlib.Algebra.Group.Nat.Defs

/-!
# The assignment RPC of a meeting controller (`mc-service/src/grpc/mc_service.rs`)

`assign_meeting_with_mh` checks the capacity, stores the MH assignment in Redis
and creates the meeting; when that fails it deletes the assignment again.

* `storeMhAssignment_eq_run`, `deleteMhAssignment_eq_run`: the two client calls
  are the commands of `Redis.Client`, run without others in between.
* `rejectedIsNoOp_iff`: a rejected request changes nothing iff it is not one
  that gets as far as the creation, fails there and had an assignment before.
* `retried_loses_assignment`: a repeated request for a live meeting loses the
  assignment of the meeting.
-/

namespace DarkTower.Mc

open DarkTower.Mc.Redis

/-- `MhAssignment` of the request, and `MhEndpointInfo` (client.rs:47). -/
structure MhEndpointInfo where
  mhId : String
  webtransportEndpoint : String
  grpcEndpoint : String
deriving DecidableEq

/-- `RejectionReason` of the response. -/
inductive RejectionReason
  | unspecified
  | atCapacity
  | draining
  | unhealthy
deriving DecidableEq

/-- `ESTIMATED_PARTICIPANTS_PER_MEETING` (mc_service.rs:45). -/
def estimatedParticipantsPerMeeting : ℕ := 10

/-- The counters and limits of `McAssignmentService` (mc_service.rs:48). -/
structure AssignmentService where
  maxMeetings : UInt32
  maxParticipants : UInt32
  currentMeetings : UInt32
  currentParticipants : UInt32
  isDraining : Bool
deriving DecidableEq

namespace AssignmentService

/-- `McAssignmentService::new`. -/
def new (maxMeetings maxParticipants : UInt32) : AssignmentService :=
  ⟨maxMeetings, maxParticipants, 0, 0, false⟩

/-- `can_accept_meeting` (mc_service.rs:115). -/
def canAcceptMeeting (s : AssignmentService) : Option RejectionReason :=
  if s.isDraining then some .draining
  else if s.maxMeetings ≤ s.currentMeetings then some .atCapacity
  else if s.maxParticipants.toNat <
      min (s.currentParticipants.toNat + estimatedParticipantsPerMeeting) (2 ^ 32 - 1) then
    some .atCapacity
  else none

/-- `current_meetings.fetch_add(1)`. -/
def countMeeting (s : AssignmentService) : AssignmentService :=
  { s with currentMeetings := s.currentMeetings + 1 }

end AssignmentService

/-- The checks of `store_mh_assignments` (mc_service.rs:149). -/
def validateMhAssignments (mhAssignments : List MhEndpointInfo) :
    Except McError (List MhEndpointInfo) :=
  if mhAssignments.isEmpty then .error (.invalidArgument "No MH assignments provided")
  else
    match mhAssignments.find? fun a => a.grpcEndpoint.isEmpty with
    | some a =>
      .error (.invalidArgument ("MH assignment for " ++ a.mhId ++ " has empty grpc_endpoint"))
    | none => .ok mhAssignments

/-- `store_mh_assignment` (client.rs:251): the keys, the commands that Redis
    executed and the result. -/
def storeMhAssignment (S : Server) (keys : MeetingKeys) (json : String) :
    MeetingKeys × List Executed × Except McError Outcome :=
  let increment := Redis.incrementGeneration keys
  let generation := asU64 (S.integerReply increment.2)
  let write := fencedWrite increment.1 (.number generation) json
  (write.1, [.increment generation, .fencedWrite generation write.2],
    writeResult generation write.2)

/-- `delete_mh_assignment` (client.rs:376). -/
def deleteMhAssignment (S : Server) (keys : MeetingKeys) :
    MeetingKeys × List Executed × Except McError Outcome :=
  let generation := S.getGeneration keys
  let script := fencedDelete keys (.number (generation + 1))
  (script.1, [.get generation, .fencedDelete (generation + 1) script.2], deleteResult script.2)

theorem storeMhAssignment_eq_run (S : Server) (keys : MeetingKeys) (json : String) :
    ∃ keys₁ x y next, Waiting.run S keys (.storeIncrement json) = (keys₁, x, .inl next) ∧
      Waiting.run S keys₁ next = ((storeMhAssignment S keys json).1, y,
        .inr (storeMhAssignment S keys json).2.2) ∧
      (storeMhAssignment S keys json).2.1 = [x, y] :=
  ⟨_, _, _, _, rfl, rfl, rfl⟩

theorem deleteMhAssignment_eq_run (S : Server) (keys : MeetingKeys) :
    ∃ keys₁ x y next, Waiting.run S keys .deleteGet = (keys₁, x, .inl next) ∧
      Waiting.run S keys₁ next = ((deleteMhAssignment S keys).1, y,
        .inr (deleteMhAssignment S keys).2.2) ∧
      (deleteMhAssignment S keys).2.1 = [x, y] :=
  ⟨_, _, _, _, rfl, rfl, rfl⟩

/-! ## The RPC -/

/-- What a request can see and change. -/
structure McState where
  service : AssignmentService
  controller : MeetingController
  /-- The controller actor still receives messages. -/
  running : Bool
  /-- The keys of each meeting. -/
  redis : String → MeetingKeys

/-- `AssignMeetingWithMhRequest`. -/
structure AssignMeetingWithMhRequest where
  meetingId : String
  mhAssignments : List MhEndpointInfo
  requestingGcId : String
deriving DecidableEq

/-- `AssignMeetingWithMhResponse`. -/
structure AssignMeetingWithMhResponse where
  accepted : Bool
  rejectionReason : RejectionReason
deriving DecidableEq

/-- `MeetingControllerActorHandle::create_meeting` (controller.rs:93): the actor
    answers, or the channel is closed. -/
def createMeetingCall (running : Bool) (c : MeetingController) (now : ℕ) (meetingId : String) :
    MeetingController × Except McError Unit :=
  if running then c.createMeeting now meetingId
  else (c, .error (.internal "channel send failed: channel closed"))

/-- The state after a request, the response and the Redis commands. `encode` is
    the JSON text of an assignment with its time. -/
def assignMeetingWithMh (S : Server) (encode : List MhEndpointInfo → ℕ → String) (now : ℕ)
    (s : McState) (request : AssignMeetingWithMhRequest) :
    McState × AssignMeetingWithMhResponse × List Executed :=
  let m := request.meetingId
  match s.service.canAcceptMeeting with
  | some reason => (s, ⟨false, reason⟩, [])
  | none =>
    match validateMhAssignments request.mhAssignments with
    | .error _ => (s, ⟨false, .unhealthy⟩, [])
    | .ok handlers =>
      let stored := storeMhAssignment S (s.redis m) (encode handlers now)
      let s₁ := { s with redis := Function.update s.redis m stored.1 }
      match stored.2.2 with
      | .error _ => (s₁, ⟨false, .unhealthy⟩, stored.2.1)
      | .ok _ =>
        let created := createMeetingCall s.running s.controller now m
        match created.2 with
        | .ok () =>
          ({ s₁ with controller := created.1, service := s.service.countMeeting },
            ⟨true, .unspecified⟩, stored.2.1)
        | .error _ =>
          let deleted := deleteMhAssignment S stored.1
          ({ s₁ with
              controller := created.1
              redis := Function.update s.redis m deleted.1 },
            ⟨false, .unhealthy⟩, stored.2.1 ++ deleted.2.1)

/-- A Redis command did what it was issued for. -/
def Succeeded : Executed → Prop
  | .fencedWrite _ result | .fencedHset _ result | .fencedDelete _ result => result = 1
  | .get _ | .increment _ | .del => True

instance (x : Executed) : Decidable (Succeeded x) :=
  match x with
  | .fencedWrite _ result | .fencedHset _ result | .fencedDelete _ result =>
    inferInstanceAs (Decidable (result = 1))
  | .get _ | .increment _ | .del => inferInstanceAs (Decidable True)

/-- A rejected request leaves the live meetings and all stored assignments as
    they were. -/
def RejectedIsNoOp (s : McState) (result : McState × AssignMeetingWithMhResponse × List Executed) :
    Prop :=
  result.2.1.accepted = false →
    result.1.controller.meetings = s.controller.meetings ∧
      ∀ m, (result.1.redis m).mh = (s.redis m).mh

/-- The controller refuses to create the meeting. -/
def RefusesCreation (running : Bool) (c : MeetingController) (meetingId : String) : Prop :=
  running = false ∨ c.acceptingNew = false ∨ meetingId ∈ c.meetings

instance (running : Bool) (c : MeetingController) (meetingId : String) :
    Decidable (RefusesCreation running c meetingId) :=
  inferInstanceAs (Decidable (_ ∨ _ ∨ _))

/-- The request gets as far as the creation of its meeting, which is refused,
    and the meeting had an assignment before. -/
def LosesAssignment (s : McState) (request : AssignMeetingWithMhRequest) : Prop :=
  s.service.canAcceptMeeting = none ∧
    validateMhAssignments request.mhAssignments = .ok request.mhAssignments ∧
    RefusesCreation s.running s.controller request.meetingId ∧ (s.redis request.meetingId).mh ≠ none

/-! ## What a request can do -/

theorem validateMhAssignments_ok {mhAssignments handlers : List MhEndpointInfo}
    (h : validateMhAssignments mhAssignments = .ok handlers) : handlers = mhAssignments := by
  unfold validateMhAssignments at h
  split_ifs at h
  split at h
  · cases h
  · exact (Except.ok.inj h).symm

/-- The creation is refused and the controller stays, or the meeting is live. -/
theorem createMeetingCall_cases (running : Bool) (c : MeetingController) (now : ℕ)
    (meetingId : String) :
    (RefusesCreation running c meetingId ∧ ∃ e,
      createMeetingCall running c now meetingId = (c, .error e)) ∨
    (¬ RefusesCreation running c meetingId ∧ createMeetingCall running c now meetingId =
      ({ c with meetings := c.meetings.insert meetingId ⟨.running, now⟩ }, .ok ())) := by
  unfold createMeetingCall RefusesCreation
  split_ifs with hrunning
  · have hcase := c.createMeeting_cases now meetingId
    generalize c.createMeeting now meetingId = r at hcase
    cases hcase with
    | draining h => exact .inl ⟨.inr (.inl h), _, rfl⟩
    | present h => exact .inl ⟨.inr (.inr h), _, rfl⟩
    | created haccepting h =>
      refine .inr ⟨?_, rfl⟩
      rintro (hstopped | hrefusing | hmem)
      · rw [hrunning] at hstopped
        cases hstopped
      · rw [haccepting] at hrefusing
        cases hrefusing
      · exact h hmem
  · exact .inl ⟨.inl (by simpa using hrunning), _, rfl⟩

/-- A store whose script succeeds returns `Ok`, and leaves a generation. -/
theorem storeMhAssignment_spec (S : Server) (keys : MeetingKeys) (json : String)
    (h : ∀ x ∈ (storeMhAssignment S keys json).2.1, Succeeded x) :
    (storeMhAssignment S keys json).2.2 = .ok .unit ∧
      (storeMhAssignment S keys json).1.generation ≠ none := by
  have hresult := h _ (List.mem_cons_of_mem _ List.mem_cons_self)
  unfold storeMhAssignment at hresult ⊢
  simp only [Succeeded] at hresult
  refine ⟨if_pos hresult, ?_⟩
  dsimp only
  have hcase := fenced_cases (Redis.incrementGeneration keys).1
    (asU64 (S.integerReply (Redis.incrementGeneration keys).2))
    (fun expectedGen => ((Redis.incrementGeneration keys).1.setGeneration expectedGen).setMh json)
    (fun expectedGen => ((Redis.incrementGeneration keys).1.setGeneration expectedGen).setMh json)
  unfold fencedWrite
  generalize fenced _ _ _ _ = r at hcase
  cases hcase <;> exact Option.some_ne_none _

/-- A delete whose script succeeds on a meeting with a generation removes the
    assignment. -/
theorem deleteMhAssignment_spec (S : Server) {keys : MeetingKeys} (hgen : keys.generation ≠ none)
    (h : ∀ x ∈ (deleteMhAssignment S keys).2.1, Succeeded x) :
    (deleteMhAssignment S keys).1.mh = none := by
  have hresult := h _ (List.mem_cons_of_mem _ List.mem_cons_self)
  simp only [Succeeded] at hresult
  simp only [deleteMhAssignment]
  have hcase := fenced_cases keys (S.getGeneration keys + 1) (fun _ => keys)
    (fun expectedGen => (keys.setGeneration expectedGen).delMh)
  unfold fencedDelete at hresult ⊢
  generalize fenced _ _ _ _ = r at hcase hresult
  cases hcase with
  | absent h => exact absurd h hgen
  | accept current h hle => rfl
  | stale current h hlt => cases hresult
  | malformed text h => cases hresult

/-- A rejected request that leaves its meeting without an assignment. -/
theorem rejectedIsNoOp_deleted {s : McState} {m : String} {keys : MeetingKeys}
    {log : List Executed} (hkeys : keys.mh = none) :
    RejectedIsNoOp s ({ s with redis := Function.update s.redis m keys }, ⟨false, .unhealthy⟩, log) ↔
      (s.redis m).mh = none := by
  constructor
  · intro h
    have hmh := (h rfl).2 m
    dsimp only at hmh
    rw [Function.update_self, hkeys] at hmh
    exact hmh.symm
  · intro hnone _
    refine ⟨rfl, fun m' => ?_⟩
    dsimp only
    by_cases hm : m' = m
    · rw [hm, Function.update_self, hkeys, hnone]
    · rw [Function.update_of_ne hm]

section

variable (S : Server) (encode : List MhEndpointInfo → ℕ → String) (now : ℕ) (s : McState)
  (request : AssignMeetingWithMhRequest)

/-- If the Redis calls that are issued succeed, a rejected request is a no-op
    iff it does not lose an assignment. -/
theorem rejectedIsNoOp_iff
    (hredis : ∀ x ∈ (assignMeetingWithMh S encode now s request).2.2, Succeeded x) :
    RejectedIsNoOp s (assignMeetingWithMh S encode now s request) ↔
      ¬ LosesAssignment s request := by
  unfold assignMeetingWithMh at hredis ⊢
  cases haccept : s.service.canAcceptMeeting with
  | some reason =>
    refine iff_of_true (fun _ => ⟨rfl, fun _ => rfl⟩) fun hloses => ?_
    rw [hloses.1] at haccept
    cases haccept
  | none =>
    cases hvalid : validateMhAssignments request.mhAssignments with
    | error e =>
      refine iff_of_true (fun _ => ⟨rfl, fun _ => rfl⟩) fun hloses => ?_
      rw [hloses.2.1] at hvalid
      cases hvalid
    | ok handlers =>
      obtain rfl := validateMhAssignments_ok hvalid
      have hstore := storeMhAssignment_spec S (s.redis request.meetingId)
        (encode request.mhAssignments now)
      simp only [haccept, hvalid] at hredis ⊢
      generalize storeMhAssignment S (s.redis request.meetingId)
        (encode request.mhAssignments now) = stored at hstore hredis ⊢
      obtain ⟨keys, log, result⟩ := stored
      cases result with
      | error e => cases (hstore hredis).1
      | ok outcome =>
        rcases createMeetingCall_cases s.running s.controller now request.meetingId with
          ⟨hrefuses, e, hcall⟩ | ⟨hcreates, hcall⟩
        · simp only [hcall] at hredis ⊢
          have hkeys := (hstore fun x hx => hredis x (List.mem_append_left _ hx)).2
          have hdeleted := deleteMhAssignment_spec S hkeys
            fun x hx => hredis x (List.mem_append_right _ hx)
          refine (rejectedIsNoOp_deleted hdeleted).trans ⟨fun hnone hloses =>
            hloses.2.2.2 hnone, fun h => ?_⟩
          by_contra hsome
          exact h ⟨haccept, hvalid, hrefuses, hsome⟩
        · simp only [hcall] at hredis ⊢
          exact iff_of_true (fun h => by cases h) fun hloses => hcreates hloses.2.2.1

end

/-- `meeting-1` is live and has an assignment of generation 1. -/
def liveState : McState where
  service := { AssignmentService.new 10 1000 with currentMeetings := 1 }
  controller := (MeetingController.new.createMeeting 0 "meeting-1").1
  running := true
  redis := Function.update (fun _ => .empty) "meeting-1"
    (storeMhAssignment .exact .empty "first").1

/-- The request that made it live, again. -/
def repeatedRequest : AssignMeetingWithMhRequest :=
  ⟨"meeting-1", [⟨"mh-1", "https://mh:4433", "http://mh:50053"⟩], "gc-1"⟩

theorem rejectedIsNoOp_repeated :
    (∀ x ∈ (assignMeetingWithMh .exact (fun _ _ => "second") 60 liveState repeatedRequest).2.2,
        Succeeded x) ∧
      (RejectedIsNoOp liveState
          (assignMeetingWithMh .exact (fun _ _ => "second") 60 liveState repeatedRequest) ↔
        ¬ LosesAssignment liveState repeatedRequest) :=
  ⟨by decide, rejectedIsNoOp_iff .exact _ 60 liveState repeatedRequest (by decide)⟩

/-- The repeated request is rejected, all its Redis calls succeed and the live
    meeting has lost its assignment. -/
theorem retried_loses_assignment :
    (∀ x ∈ (assignMeetingWithMh .exact (fun _ _ => "second") 60 liveState repeatedRequest).2.2,
        Succeeded x) ∧
      "meeting-1" ∈ liveState.controller.meetings ∧
      ¬ RejectedIsNoOp liveState
        (assignMeetingWithMh .exact (fun _ _ => "second") 60 liveState repeatedRequest) := by
  refine ⟨by decide, by decide, fun h => ?_⟩
  exact absurd ((h (by decide)).2 "meeting-1") (by decide)

end DarkTower.Mc
