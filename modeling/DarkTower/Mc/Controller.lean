import DarkTower.Mc.Messages
import Mathlib.Data.List.AList

/-!
# The meeting controller actor (`mc-service/src/actors/controller.rs`)

The actor owns the map of its meetings and whether it accepts new ones. A
meeting leaves the map by `remove_meeting`, because its task is found finished
by `check_meeting_health`, or because `graceful_shutdown` drains the map.
`createMeeting_cases`, `removeMeeting_cases`, `mem_checkMeetingHealth` and
`mem_gracefulShutdown` say which meetings there are afterwards.
-/

namespace DarkTower.Mc

/-- What the `JoinHandle` of a meeting actor shows. -/
inductive TaskState
  | running
  | exited
  | panicked
deriving DecidableEq

/-- `ManagedMeeting` (controller.rs:214). -/
structure ManagedMeeting where
  task : TaskState
  createdAt : ℕ
deriving DecidableEq

/-- `MeetingControllerActor` (controller.rs:226). -/
structure MeetingController where
  meetings : AList fun _ : String => ManagedMeeting
  acceptingNew : Bool
  /-- The root cancellation token. -/
  cancelled : Bool

namespace MeetingController

/-- `MeetingControllerActor::new`. -/
def new : MeetingController := ⟨∅, true, false⟩

/-- `create_meeting` (controller.rs:420). -/
def createMeeting (c : MeetingController) (now : ℕ) (meetingId : String) :
    MeetingController × Except McError Unit :=
  if !c.acceptingNew then (c, .error .draining)
  else if meetingId ∈ c.meetings then (c, .error (.conflict "Meeting already exists"))
  else ({ c with meetings := c.meetings.insert meetingId ⟨.running, now⟩ }, .ok ())

/-- `remove_meeting` (controller.rs:524) up to the cleanup of the registry. -/
def removeMeeting (c : MeetingController) (meetingId : String) :
    MeetingController × Except McError Unit :=
  match c.meetings.lookup meetingId with
  | none => (c, .error (.meetingNotFound meetingId))
  | some _ => ({ c with meetings := c.meetings.erase meetingId }, .ok ())

/-- `failed_meetings` of `check_meeting_health`: the finished tasks. -/
def failedMeetings (c : MeetingController) : List String :=
  (c.meetings.entries.filter fun entry => entry.2.task ≠ .running).map (·.1)

/-- `check_meeting_health` (controller.rs:680). -/
def checkMeetingHealth (c : MeetingController) : MeetingController :=
  { c with meetings := c.failedMeetings.foldl (fun meetings m => meetings.erase m) c.meetings }

/-- `initiate_shutdown` (controller.rs:601). -/
def initiateShutdown (c : MeetingController) : MeetingController :=
  { c with acceptingNew := false, cancelled := true }

/-- `graceful_shutdown` (controller.rs:619). -/
def gracefulShutdown (c : MeetingController) : MeetingController :=
  { c with acceptingNew := false, meetings := ∅ }

/-- The task of a meeting ends. -/
def taskEnds (c : MeetingController) (meetingId : String) (task : TaskState) : MeetingController :=
  match c.meetings.lookup meetingId with
  | none => c
  | some managed => { c with meetings := c.meetings.insert meetingId { managed with task } }

variable (c : MeetingController)

/-! ## Which meetings there are -/

/-- `create_meeting` refuses, or adds a meeting that was not there. -/
inductive CreateCase (now : ℕ) (meetingId : String) :
    MeetingController × Except McError Unit → Prop
  | draining (h : c.acceptingNew = false) : CreateCase now meetingId (c, .error .draining)
  | present (h : meetingId ∈ c.meetings) :
      CreateCase now meetingId (c, .error (.conflict "Meeting already exists"))
  | created (haccepting : c.acceptingNew = true) (h : meetingId ∉ c.meetings) :
      CreateCase now meetingId
        ({ c with meetings := c.meetings.insert meetingId ⟨.running, now⟩ }, .ok ())

theorem createMeeting_cases (now : ℕ) (meetingId : String) :
    CreateCase c now meetingId (c.createMeeting now meetingId) := by
  unfold createMeeting
  split_ifs with haccepting hmem
  · exact .draining (by simpa using haccepting)
  · exact .present hmem
  · exact .created (by simpa using haccepting) hmem

/-- `remove_meeting` finds no meeting, or takes it out of the map. -/
inductive RemoveMeetingCase (meetingId : String) :
    MeetingController × Except McError Unit → Prop
  | notFound (h : meetingId ∉ c.meetings) :
      RemoveMeetingCase meetingId (c, .error (.meetingNotFound meetingId))
  | removed (h : meetingId ∈ c.meetings) :
      RemoveMeetingCase meetingId ({ c with meetings := c.meetings.erase meetingId }, .ok ())

theorem removeMeeting_cases (meetingId : String) :
    RemoveMeetingCase c meetingId (c.removeMeeting meetingId) := by
  unfold removeMeeting
  split
  · rename_i hnone
    exact .notFound (AList.lookup_eq_none.mp hnone)
  · rename_i managed hlookup
    exact .removed (AList.lookup_isSome.mp (by rw [hlookup]; rfl))

theorem mem_failedMeetings {m : String} :
    m ∈ c.failedMeetings ↔ ∃ managed, c.meetings.lookup m = some managed ∧
      managed.task ≠ .running := by
  simp only [failedMeetings, List.mem_map, List.mem_filter, decide_eq_true_eq]
  constructor
  · rintro ⟨⟨_, managed⟩, ⟨hmem, htask⟩, rfl⟩
    exact ⟨managed, AList.mem_lookup_iff.mpr hmem, htask⟩
  · rintro ⟨managed, hlookup, htask⟩
    exact ⟨⟨m, managed⟩, ⟨AList.mem_lookup_iff.mp hlookup, htask⟩, rfl⟩

theorem mem_foldl_erase (failed : List String) (meetings : AList fun _ : String => ManagedMeeting)
    (m : String) : m ∈ failed.foldl (fun meetings m => meetings.erase m) meetings ↔
      m ∉ failed ∧ m ∈ meetings := by
  induction failed generalizing meetings with
  | nil => simp
  | cons x failed ih =>
    rw [List.foldl_cons, ih, AList.mem_erase, List.mem_cons, not_or]
    exact ⟨fun ⟨h, hx, hm⟩ => ⟨⟨hx, h⟩, hm⟩, fun ⟨⟨hx, h⟩, hm⟩ => ⟨h, hx, hm⟩⟩

theorem mem_checkMeetingHealth (m : String) :
    m ∈ c.checkMeetingHealth.meetings ↔ m ∉ c.failedMeetings ∧ m ∈ c.meetings :=
  mem_foldl_erase c.failedMeetings c.meetings m

theorem mem_gracefulShutdown (m : String) : m ∉ c.gracefulShutdown.meetings :=
  AList.notMem_empty m

theorem mem_taskEnds (meetingId : String) (task : TaskState) (m : String) :
    m ∈ (c.taskEnds meetingId task).meetings ↔ m ∈ c.meetings := by
  unfold taskEnds
  split
  · rfl
  · rename_i managed hlookup
    have hmem : meetingId ∈ c.meetings := AList.lookup_isSome.mp (by rw [hlookup]; rfl)
    refine (AList.mem_insert c.meetings).trans (or_iff_right_of_imp ?_)
    rintro rfl
    exact hmem

end MeetingController

end DarkTower.Mc
