import DarkTower.Mh.Conservation
import Mathlib.Logic.Function.Basic

/-!
# Connection tasks of a media handler (`mh-service/src/webtransport/connection.rs`)

The tasks of `handle_connection` and the session actor, which handles the
messages of its mailbox in the order of their arrival. A task sends a message
in one step, the actor handles it in another and a third resumes the task, so
everything that can come between them does. What the tasks do before their
token is accepted has no part in the session; a task that fails there is
`rejected`.

A full mailbox makes a sender wait; here a message is sent when it gets its
place. `select!` may take any branch that is ready.
-/

namespace DarkTower.Mh

open DarkTower.Lib DarkTower.Lib.Multimap

/-- `DisconnectReason` of the notification of a closed connection. -/
inductive DisconnectReason
  | unspecified
  | clientClosed
  | error
deriving DecidableEq

/-- How a task ends. -/
inductive Ending
  /-- The session, its stream or its token was not accepted. -/
  | rejected
  /-- Held open and closed, after the cleanup of step 7. -/
  | closed
  /-- `RegistrationOutcome::Timeout`, with the time at which the timeout elapsed. -/
  | timeout (deadline : ℕ)
  /-- `RegistrationOutcome::Cancelled`. -/
  | cancelled
deriving DecidableEq

/-- Where `handle_connection` stands. -/
inductive Pc
  /-- Waits for the reply of `is_meeting_registered`. -/
  | checking
  | checked (registered : Bool)
  /-- Has sent `add_connection`, which has no reply. -/
  | added
  /-- Waits in `spawn_notify_connected` for the reply of `get_mc_endpoint`. -/
  | connectedNotice
  /-- Holds the connection open (step 6). -/
  | holding
  /-- Waits for the reply of `add_pending_connection`. -/
  | pendingAdd
  /-- Has the `Notify` and has not entered `await_meeting_registration`. -/
  | notifyReady
  /-- In the `select!` of `await_meeting_registration`, with the deadline of
      `sleep` and the calls on the `Notify` when `notified()` was created. -/
  | waiting (deadline calls : ℕ)
  /-- Waits for the reply of `remove_pending_connection`. -/
  | pendingRemove (ending : Ending)
  /-- Waits for the reply of `remove_connection`. -/
  | removing (reason : DisconnectReason)
  | removed (reason : DisconnectReason)
  /-- Waits for the reply of `get_mc_endpoint` before the last notification. -/
  | disconnectedNotice (reason : DisconnectReason)
  | ended (ending : Ending)
deriving DecidableEq

/-- A task of `handle_connection`, with the claims of its token. -/
structure ConnectionTask where
  meetingId : String
  participantId : String
  pc : Pc
deriving DecidableEq

/-- A message in the mailbox, with the connection whose task sent it; a
    registration comes from no task. -/
structure Mail where
  sender : Option String
  message : SessionMessage
deriving DecidableEq

/-- The notification that a task spawns, with the endpoint it goes to. -/
inductive Notification
  | connected (mcEndpoint meetingId participantId : String)
  | disconnected (mcEndpoint meetingId participantId : String) (reason : DisconnectReason)
deriving DecidableEq

/-- The session actor with its mailbox, and the connection tasks. -/
structure MhSystem where
  session : SessionState
  mailbox : List Mail
  tasks : String → Option ConnectionTask
  now : ℕ
  cancelled : Bool
  /-- When the first `RegisterMeeting` of a meeting was handled (a ghost: no
      task reads it). -/
  registeredSince : String → Option ℕ

/-- A step of a connection task, of the actor, or of the clock. -/
inductive MhEvent
  /-- A connection fails before its token is accepted. -/
  | reject (connectionId : String)
  /-- A token is accepted: the task asks whether the meeting is registered. -/
  | connect (connectionId meetingId participantId : String)
  /-- The RPC `RegisterMeeting` sends its message. -/
  | register (meetingId mcId mcGrpcEndpoint : String)
  /-- The actor handles the next message. -/
  | handle
  /-- A task goes on after a reply. -/
  | resume (connectionId : String)
  /-- `select!` takes the branch of `notified()`. -/
  | wake (connectionId : String)
  /-- `select!` takes the branch of `sleep`. -/
  | timeout (connectionId : String)
  /-- `select!` takes the branch of `cancelled()`. -/
  | cancel (connectionId : String)
  /-- The client closes the connection. -/
  | close (connectionId : String) (reason : DisconnectReason)
  | tick (now : ℕ)
  /-- The server cancels its token. -/
  | shutdown
deriving DecidableEq

namespace MhSystem

/-- A task sends a message and stands at `pc` then. -/
def sends (s : MhSystem) (c : String) (task : ConnectionTask) (message : SessionMessage)
    (pc : Pc) : MhSystem :=
  { s with
    mailbox := s.mailbox ++ [⟨some c, message⟩]
    tasks := Function.update s.tasks c (some { task with pc }) }

/-- A task stands at `pc`. -/
def moves (s : MhSystem) (c : String) (task : ConnectionTask) (pc : Pc) : MhSystem :=
  { s with tasks := Function.update s.tasks c (some { task with pc }) }

section

variable (s : MhSystem) (c : String) (task : ConnectionTask) (message : SessionMessage) (pc : Pc)

@[simp] theorem sends_session : (s.sends c task message pc).session = s.session := rfl

@[simp] theorem sends_mailbox :
    (s.sends c task message pc).mailbox = s.mailbox ++ [⟨some c, message⟩] := rfl

@[simp] theorem sends_tasks : (s.sends c task message pc).tasks =
    Function.update s.tasks c (some { task with pc }) := rfl

@[simp] theorem moves_session : (s.moves c task pc).session = s.session := rfl

@[simp] theorem moves_mailbox : (s.moves c task pc).mailbox = s.mailbox := rfl

@[simp] theorem moves_tasks : (s.moves c task pc).tasks =
    Function.update s.tasks c (some { task with pc }) := rfl

end

/-- A task goes on (connection.rs:225–320, 385). -/
def resume (registerMeetingTimeout : ℕ) (s : MhSystem) (c : String) (task : ConnectionTask) :
    MhSystem :=
  match task.pc with
  | .checked true =>
    s.sends c task (.addConnection task.meetingId ⟨c, task.participantId, s.now⟩) .added
  | .checked false =>
    s.sends c task (.addPendingConnection ⟨c, task.meetingId, task.participantId, s.now⟩)
      .pendingAdd
  | .added => s.sends c task (.getMcEndpoint task.meetingId) .connectedNotice
  | .notifyReady =>
    s.moves c task (.waiting (s.now + registerMeetingTimeout) (s.session.notifyCalls task.meetingId))
  | .removed reason => s.sends c task (.getMcEndpoint task.meetingId) (.disconnectedNotice reason)
  | _ => s

/-- The branch of `notified()` (connection.rs:71, 299). -/
def wake (s : MhSystem) (c : String) (task : ConnectionTask) : MhSystem :=
  match task.pc with
  | .waiting _ calls =>
    if calls < s.session.notifyCalls task.meetingId then
      s.sends c task (.getMcEndpoint task.meetingId) .connectedNotice
    else s
  | _ => s

/-- The branch of `sleep` (connection.rs:80). -/
def timeout (s : MhSystem) (c : String) (task : ConnectionTask) : MhSystem :=
  match task.pc with
  | .waiting deadline _ =>
    if deadline ≤ s.now then
      s.sends c task (.removePendingConnection task.meetingId c) (.pendingRemove (.timeout deadline))
    else s
  | _ => s

/-- The branches of `cancelled()` (connection.rs:93, 333). -/
def cancel (s : MhSystem) (c : String) (task : ConnectionTask) : MhSystem :=
  if s.cancelled then
    match task.pc with
    | .waiting _ _ =>
      s.sends c task (.removePendingConnection task.meetingId c) (.pendingRemove .cancelled)
    | .holding => s.sends c task (.removeConnection task.meetingId c) (.removing .unspecified)
    | _ => s
  else s

/-- The end of the stream, or an error on it (connection.rs:345). -/
def close (s : MhSystem) (c : String) (task : ConnectionTask) (reason : DisconnectReason) :
    MhSystem :=
  match task.pc with
  | .holding => s.sends c task (.removeConnection task.meetingId c) (.removing reason)
  | _ => s

end MhSystem

/-- Where a task stands when a reply has come. -/
def Pc.reply (pc : Pc) (reply : SessionReply) : Pc :=
  match pc, reply with
  | .checking, .flag registered => .checked registered
  | .pendingAdd, .notify _ => .notifyReady
  | .connectedNotice, .endpoint _ => .holding
  | .pendingRemove ending, .flag _ => .ended ending
  | .removing reason, .flag _ => .removed reason
  | .disconnectedNotice _, .endpoint _ => .ended .closed
  | pc, _ => pc

/-- The notification that a task spawns when a reply has come
    (connection.rs:386, 427): none if the meeting has no endpoint. -/
def ConnectionTask.notification (task : ConnectionTask) (reply : SessionReply) :
    Option Notification :=
  match task.pc, reply with
  | .connectedNotice, .endpoint (some mcEndpoint) =>
    some (.connected mcEndpoint task.meetingId task.participantId)
  | .disconnectedNotice reason, .endpoint (some mcEndpoint) =>
    some (.disconnected mcEndpoint task.meetingId task.participantId reason)
  | _, _ => none

namespace MhSystem

/-- The reply reaches the task that waits for it. -/
def replied (tasks : String → Option ConnectionTask) (sender : Option String)
    (reply : SessionReply) : String → Option ConnectionTask :=
  match sender with
  | none => tasks
  | some c => Function.update tasks c ((tasks c).map fun task =>
      { task with pc := task.pc.reply reply })

/-- When the first registration was handled, after one more message. -/
def registers (since : String → Option ℕ) (now : ℕ) :
    SessionMessage → String → Option ℕ
  | .registerMeeting meetingId _ =>
    Function.update since meetingId (some ((since meetingId).getD now))
  | _ => since

/-- The actor handles the next message. -/
def handleMail (s : MhSystem) : MhSystem × Option Notification :=
  match s.mailbox with
  | [] => (s, none)
  | ⟨sender, message⟩ :: mailbox =>
    let handled := s.session.handleMessage message
    ({ s with
        session := handled.1
        mailbox := mailbox
        tasks := replied s.tasks sender handled.2
        registeredSince := registers s.registeredSince s.now message },
      (sender.bind s.tasks).bind fun task => task.notification handled.2)

/-- A step of one task. -/
def onTask (s : MhSystem) (c : String) (f : ConnectionTask → MhSystem) : MhSystem :=
  match s.tasks c with
  | none => s
  | some task => f task

/-- One step, with the notification it spawns. -/
def step (registerMeetingTimeout : ℕ) (s : MhSystem) : MhEvent → MhSystem × Option Notification
  | .reject c => ({ s with tasks := Function.update s.tasks c (some ⟨"", "", .ended .rejected⟩) }, none)
  | .connect c meetingId participantId =>
    (s.sends c ⟨meetingId, participantId, .checking⟩ (.isMeetingRegistered meetingId) .checking, none)
  | .register meetingId mcId mcGrpcEndpoint =>
    ({ s with mailbox := s.mailbox ++
        [⟨none, .registerMeeting meetingId ⟨mcId, mcGrpcEndpoint, s.now⟩⟩] }, none)
  | .handle => s.handleMail
  | .resume c => (s.onTask c (s.resume registerMeetingTimeout c), none)
  | .wake c => (s.onTask c (s.wake c), none)
  | .timeout c => (s.onTask c (s.timeout c), none)
  | .cancel c => (s.onTask c (s.cancel c), none)
  | .close c reason => (s.onTask c fun task => s.close c task reason, none)
  | .tick now => ({ s with now }, none)
  | .shutdown => ({ s with cancelled := true }, none)

/-- A media handler that has just started. -/
def start : MhSystem := ⟨.empty, [], fun _ => none, 0, false, fun _ => none⟩

end MhSystem

/-- A history of a media handler. -/
abbrev MhHistory := List (MhEvent × Option Notification)

/-- A media handler with any connections and registrations. Connection ids are
    fresh UUIDs and the clock does not go back. -/
def mhMachine (registerMeetingTimeout : ℕ) : Machine MhSystem MhEvent (Option Notification) where
  init := .start
  step := MhSystem.step registerMeetingTimeout
  allowed _ s e :=
    match e with
    | .reject c => s.tasks c = none
    | .connect c _ _ => s.tasks c = none
    | .tick now => s.now ≤ now
    | _ => True

instance (registerMeetingTimeout : ℕ) (h : MhHistory) (s : MhSystem) (e : MhEvent) :
    Decidable ((mhMachine registerMeetingTimeout).allowed h s e) :=
  match e with
  | .reject _ => inferInstanceAs (Decidable (_ = _))
  | .connect _ _ _ => inferInstanceAs (Decidable (_ = _))
  | .tick _ => inferInstanceAs (Decidable (_ ≤ _))
  | .register _ _ _ | .handle | .resume _ | .wake _ | .timeout _ | .cancel _ | .close _ _
  | .shutdown => inferInstanceAs (Decidable True)

/-! ## What a step can do -/

/-- The ways a task goes on by itself. -/
inductive Advance (T : ℕ) (s : MhSystem) (c : String) (task : ConnectionTask) :
    MhEvent → MhSystem → Prop
  | addConnection (hpc : task.pc = .checked true) :
      Advance T s c task (.resume c) (s.sends c task
        (.addConnection task.meetingId ⟨c, task.participantId, s.now⟩) .added)
  | addPending (hpc : task.pc = .checked false) :
      Advance T s c task (.resume c) (s.sends c task
        (.addPendingConnection ⟨c, task.meetingId, task.participantId, s.now⟩) .pendingAdd)
  | notice (hpc : task.pc = .added) :
      Advance T s c task (.resume c)
        (s.sends c task (.getMcEndpoint task.meetingId) .connectedNotice)
  | wait (hpc : task.pc = .notifyReady) :
      Advance T s c task (.resume c)
        (s.moves c task (.waiting (s.now + T) (s.session.notifyCalls task.meetingId)))
  | lastNotice (reason : DisconnectReason) (hpc : task.pc = .removed reason) :
      Advance T s c task (.resume c)
        (s.sends c task (.getMcEndpoint task.meetingId) (.disconnectedNotice reason))
  | wake (deadline calls : ℕ) (hpc : task.pc = .waiting deadline calls)
      (hready : calls < s.session.notifyCalls task.meetingId) :
      Advance T s c task (.wake c)
        (s.sends c task (.getMcEndpoint task.meetingId) .connectedNotice)
  | timeout (deadline calls : ℕ) (hpc : task.pc = .waiting deadline calls)
      (hready : deadline ≤ s.now) :
      Advance T s c task (.timeout c) (s.sends c task
        (.removePendingConnection task.meetingId c) (.pendingRemove (.timeout deadline)))
  | cancelWait (deadline calls : ℕ) (hpc : task.pc = .waiting deadline calls) :
      Advance T s c task (.cancel c) (s.sends c task
        (.removePendingConnection task.meetingId c) (.pendingRemove .cancelled))
  | cancelHold (hpc : task.pc = .holding) :
      Advance T s c task (.cancel c)
        (s.sends c task (.removeConnection task.meetingId c) (.removing .unspecified))
  | close (reason : DisconnectReason) (hpc : task.pc = .holding) :
      Advance T s c task (.close c reason)
        (s.sends c task (.removeConnection task.meetingId c) (.removing reason))

/-- Everything a step can do. -/
inductive StepCase (T : ℕ) (s : MhSystem) : MhEvent → MhSystem → Prop
  | stutter (e : MhEvent) (hmail : e = .handle → s.mailbox = []) : StepCase T s e s
  | reject (c : String) : StepCase T s (.reject c)
      { s with tasks := Function.update s.tasks c (some ⟨"", "", .ended .rejected⟩) }
  | connect (c meetingId participantId : String) :
      StepCase T s (.connect c meetingId participantId)
        (s.sends c ⟨meetingId, participantId, .checking⟩ (.isMeetingRegistered meetingId) .checking)
  | register (meetingId mcId mcGrpcEndpoint : String) :
      StepCase T s (.register meetingId mcId mcGrpcEndpoint)
        { s with mailbox := s.mailbox ++
            [⟨none, .registerMeeting meetingId ⟨mcId, mcGrpcEndpoint, s.now⟩⟩] }
  | handle (sender : Option String) (message : SessionMessage) (mailbox : List Mail)
      (hmail : s.mailbox = ⟨sender, message⟩ :: mailbox) :
      StepCase T s .handle
        { s with
          session := (s.session.handleMessage message).1
          mailbox := mailbox
          tasks := MhSystem.replied s.tasks sender (s.session.handleMessage message).2
          registeredSince := MhSystem.registers s.registeredSince s.now message }
  | advance (c : String) (task : ConnectionTask) (htask : s.tasks c = some task) (e : MhEvent)
      (s' : MhSystem) (h : Advance T s c task e s') : StepCase T s e s'
  | tick (now : ℕ) : StepCase T s (.tick now) { s with now }
  | shutdown : StepCase T s .shutdown { s with cancelled := true }

/-- A task event does nothing, or makes its task go on. -/
theorem onTask_cases {T : ℕ} {s : MhSystem} {c : String} {e : MhEvent}
    {f : ConnectionTask → MhSystem} (he : e ≠ .handle)
    (hf : ∀ task, s.tasks c = some task → f task = s ∨ Advance T s c task e (f task)) :
    StepCase T s e (s.onTask c f) := by
  unfold MhSystem.onTask
  cases htask : s.tasks c with
  | none => exact .stutter e fun h => absurd h he
  | some task =>
    rcases hf task htask with h | h
    · simp only [h]
      exact .stutter e fun h => absurd h he
    · exact .advance c task htask e _ h

theorem step_cases (T : ℕ) (s : MhSystem) (e : MhEvent) : StepCase T s e (s.step T e).1 := by
  cases e with
  | reject c => exact .reject c
  | connect c meetingId participantId => exact .connect c meetingId participantId
  | register meetingId mcId mcGrpcEndpoint => exact .register meetingId mcId mcGrpcEndpoint
  | tick now => exact .tick now
  | shutdown => exact .shutdown
  | handle =>
    simp only [MhSystem.step, MhSystem.handleMail]
    cases hmail : s.mailbox with
    | nil => exact .stutter _ fun _ => hmail
    | cons mail mailbox => exact .handle mail.sender mail.message mailbox hmail
  | resume c =>
    refine onTask_cases (by simp) fun task _ => ?_
    unfold MhSystem.resume
    split
    · exact .inr (.addConnection ‹_›)
    · exact .inr (.addPending ‹_›)
    · exact .inr (.notice ‹_›)
    · exact .inr (.wait ‹_›)
    · exact .inr (.lastNotice _ ‹_›)
    · exact .inl rfl
  | wake c =>
    refine onTask_cases (by simp) fun task _ => ?_
    unfold MhSystem.wake
    split
    · split_ifs with hready
      · exact .inr (.wake _ _ ‹_› hready)
      · exact .inl rfl
    · exact .inl rfl
  | timeout c =>
    refine onTask_cases (by simp) fun task _ => ?_
    unfold MhSystem.timeout
    split
    · split_ifs with hready
      · exact .inr (.timeout _ _ ‹_› hready)
      · exact .inl rfl
    · exact .inl rfl
  | cancel c =>
    refine onTask_cases (by simp) fun task _ => ?_
    unfold MhSystem.cancel
    split_ifs
    · split
      · exact .inr (.cancelWait _ _ ‹_›)
      · exact .inr (.cancelHold ‹_›)
      · exact .inl rfl
    · exact .inl rfl
  | close c reason =>
    refine onTask_cases (by simp) fun task _ => ?_
    unfold MhSystem.close
    split
    · exact .inr (.close reason ‹_›)
    · exact .inl rfl

end DarkTower.Mh
