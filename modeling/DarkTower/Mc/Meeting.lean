import DarkTower.Lib.Machine
import DarkTower.Mc.Messages
import DarkTower.Mc.Session
import Mathlib.Data.Int.Notation
import Mathlib.Data.List.AList
import Mathlib.Data.Nat.Notation

/-!
# The meeting actor (`mc-service/src/actors/meeting.rs`)

`MeetingActor` owns the state of one meeting and handles one message, timer
tick or health check at a time. Each handler of the source is a function from
the actor to the actor after it, the actions it took on the outside world
(`Effect`, oldest first) and its result.

* A Rust `HashMap` is an association list without duplicate keys (`AList`).
  Its iteration order is unspecified in Rust; no theorem depends on the order
  of an `AList`.
* Each handler runs at one instant `now`, in nanoseconds.
* The UUID and the nonce drawn by a handler that issues a binding are the
  argument `draw`.
* Waiting for a task (`handle_disconnect`, `graceful_shutdown`) has no effect
  on the actor and is left out, as are logs and the mailbox counters.
-/

namespace DarkTower.Mc

open DarkTower.Common DarkTower.Lib

/-- A `HashMap<String, V>`. -/
abbrev StringMap (V : Type) := AList fun _ : String => V

/-- The values of a map, in iteration order. -/
def StringMap.values {V : Type} (m : StringMap V) : List V := m.entries.map (·.2)

/-- `DISCONNECT_GRACE_PERIOD` (meeting.rs:40). -/
def disconnectGracePeriod : ℕ := fromSecs 30

/-- `Participant` (meeting.rs:245). -/
structure Participant where
  participantId : String
  userId : String
  displayName : String
  correlationId : String
  connection : Option ParticipantActorHandle
  status : ParticipantStatus
  disconnectedAt : Option ℕ
  audioSelfMuted : Bool
  videoSelfMuted : Bool
  audioHostMuted : Bool
  videoHostMuted : Bool
  isHost : Bool
deriving DecidableEq

/-- `to_info` (meeting.rs:273). -/
def Participant.toInfo (p : Participant) : ParticipantInfo where
  participantId := p.participantId
  userId := p.userId
  displayName := p.displayName
  audioSelfMuted := p.audioSelfMuted
  videoSelfMuted := p.videoSelfMuted
  audioHostMuted := p.audioHostMuted
  videoHostMuted := p.videoHostMuted
  status := p.status

/-- `ManagedConnection` (meeting.rs:288), without the join handle of its task. -/
structure ManagedConnection where
  handle : ParticipantActorHandle
  participantId : String
deriving DecidableEq

/-- `MeetingActor` (meeting.rs:299). `cancelled` is the state of `cancel_token`. -/
structure MeetingActor where
  meetingId : String
  cancelled : Bool
  participants : StringMap Participant
  connections : StringMap ManagedConnection
  correlationToParticipant : StringMap String
  bindingManager : SessionBindingManager
  storedBindings : StringMap StoredBinding
  fencingGeneration : ℕ
  createdAt : ℤ
  isShuttingDown : Bool

/-- What a handler does besides changing the actor. -/
inductive Effect
  /-- `ParticipantActor::spawn_inner`. -/
  | spawn (connectionId participantId : String)
  /-- `send_update` to the actor of a connection. -/
  | sendUpdate (connectionId : String) (update : ParticipantStateUpdate)
  /-- `cancel` of the actor of a connection. -/
  | cancel (connectionId : String)
  /-- `ActorMetrics::connection_created` and `connection_closed`. -/
  | connectionCreated
  | connectionClosed
  /-- `ControllerMetrics::increment_participants` and `decrement_participants`. -/
  | incrementParticipants
  | decrementParticipants
  /-- `ActorMetrics::record_panic(ActorType::Participant)`. -/
  | recordPanic
deriving DecidableEq

/-- The outcome of a handler. -/
structure Handled (ρ : Type) where
  actor : MeetingActor
  effects : List Effect
  result : ρ

/-- The same outcome with the result seen through `f`. -/
def Handled.map {ρ ρ' : Type} (f : ρ → ρ') (h : Handled ρ) : Handled ρ' :=
  ⟨h.actor, h.effects, f h.result⟩

@[simp] theorem Handled.map_actor {ρ ρ' : Type} (f : ρ → ρ') (h : Handled ρ) :
    (h.map f).actor = h.actor := rfl

@[simp] theorem Handled.map_effects {ρ ρ' : Type} (f : ρ → ρ') (h : Handled ρ) :
    (h.map f).effects = h.effects := rfl

@[simp] theorem Handled.map_result {ρ ρ' : Type} (f : ρ → ρ') (h : Handled ρ) :
    (h.map f).result = f h.result := rfl

/-- The random values drawn when a binding is issued: a version-4 UUID as text
    and 16 nonce bytes. -/
structure Draw where
  correlationId : String
  nonceBytes : List UInt8
deriving DecidableEq

/-- `MeetingActor::spawn` (meeting.rs:345). -/
def MeetingActor.spawn (meetingId : String) (bindingManager : SessionBindingManager)
    (createdAt : ℤ) : MeetingActor where
  meetingId := meetingId
  cancelled := false
  participants := ∅
  connections := ∅
  correlationToParticipant := ∅
  bindingManager := bindingManager
  storedBindings := ∅
  fencingGeneration := 1
  createdAt := createdAt
  isShuttingDown := false

namespace MeetingActor

variable (R : Ring)

/-- `broadcast_update` (meeting.rs:1179). -/
def broadcastUpdate (m : MeetingActor) (exceptParticipantId : String)
    (update : ParticipantStateUpdate) : List Effect :=
  m.participants.values.filterMap fun p =>
    if p.participantId ≠ exceptParticipantId then
      p.connection.map fun conn => Effect.sendUpdate conn.connectionId update
    else none

/-- A broadcast is made of updates to connections. -/
theorem filterMap_broadcastUpdate {α : Type} {f : Effect → Option α}
    (hf : ∀ connectionId update, f (.sendUpdate connectionId update) = none) (m : MeetingActor)
    (p : String) (update : ParticipantStateUpdate) :
    (m.broadcastUpdate p update).filterMap f = [] := by
  refine List.filterMap_eq_nil_iff.mpr fun x hx => ?_
  obtain ⟨q, _, hq⟩ := List.mem_filterMap.mp hx
  split_ifs at hq
  obtain ⟨conn, _, rfl⟩ := Option.map_eq_some_iff.mp hq
  exact hf conn.connectionId update

/-- The other participants, as returned by a join or a reconnect. -/
def otherParticipants (m : MeetingActor) (participantId : String) : List ParticipantInfo :=
  (m.participants.values.filter fun p => p.participantId ≠ participantId).map Participant.toInfo

/-- The binding issued for a session at `now` (meeting.rs:567–582, 807–824). -/
def issueBinding (m : MeetingActor) (draw : Draw) (participantId userId : String) (now : ℕ) :
    StoredBinding :=
  let token := m.bindingManager.generateToken R m.meetingId draw.correlationId participantId
    draw.nonceBytes
  { correlationId := draw.correlationId
    participantId := participantId
    userId := userId
    nonce := token.2
    bindingToken := token.1
    createdAt := now }

/-- `handle_join` (meeting.rs:540). -/
def handleJoin (m : MeetingActor) (now : ℕ) (draw : Draw)
    (connectionId userId participantId : String) (isHost : Bool) :
    Handled (Except McError JoinResult) :=
  if m.isShuttingDown then ⟨m, [], .error .draining⟩
  else if participantId ∈ m.participants then
    ⟨m, [], .error (.conflict "Participant already in meeting")⟩
  else
    let binding := m.issueBinding R draw participantId userId now
    let handle : ParticipantActorHandle := ⟨connectionId, participantId⟩
    let participant : Participant :=
      { participantId := participantId
        userId := userId
        displayName := "Participant " ++ toString (m.participants.entries.length + 1)
        correlationId := draw.correlationId
        connection := some handle
        status := .connected
        disconnectedAt := none
        audioSelfMuted := false
        videoSelfMuted := false
        audioHostMuted := false
        videoHostMuted := false
        isHost := isHost }
    let m' : MeetingActor :=
      { m with
        storedBindings := m.storedBindings.insert draw.correlationId binding
        connections := m.connections.insert connectionId ⟨handle, participantId⟩
        participants := m.participants.insert participantId participant
        correlationToParticipant :=
          m.correlationToParticipant.insert draw.correlationId participantId }
    ⟨m',
      [.spawn connectionId participantId, .connectionCreated, .incrementParticipants] ++
        m'.broadcastUpdate participantId (.joined participant.toInfo),
      .ok
        { participantId := participantId
          correlationId := draw.correlationId
          bindingToken := binding.bindingToken
          participants := m'.otherParticipants participantId
          fencingGeneration := m.fencingGeneration
          participantHandle := handle }⟩

/-- `handle_disconnect` (meeting.rs:663). -/
def handleDisconnect (m : MeetingActor) (now : ℕ) (connectionId participantId : String) :
    Handled Unit :=
  let closed := if connectionId ∈ m.connections then [Effect.connectionClosed] else []
  let m₁ : MeetingActor := { m with connections := m.connections.erase connectionId }
  match m.participants.lookup participantId with
  | none => ⟨m₁, closed, ()⟩
  | some participant =>
    let m₂ : MeetingActor :=
      { m₁ with
        participants := m.participants.insert participantId
          { participant with
            status := .disconnected
            disconnectedAt := some now
            connection := none } }
    ⟨m₂, closed ++ m₂.broadcastUpdate participantId (.disconnected participantId), ()⟩

/-- `handle_reconnect` (meeting.rs:712). -/
def handleReconnect (m : MeetingActor) (now : ℕ) (draw : Draw)
    (connectionId correlationId bindingToken : String) :
    Handled (Except McError ReconnectResult) :=
  match m.storedBindings.lookup correlationId with
  | none => ⟨m, [], .error (.sessionBinding .sessionNotFound)⟩
  | some storedBinding =>
    if storedBinding.isExpired now then
      ⟨{ m with storedBindings := m.storedBindings.erase correlationId }, [],
        .error (.sessionBinding .tokenExpired)⟩
    else if !m.bindingManager.validateToken R m.meetingId correlationId
        storedBinding.participantId storedBinding.nonce bindingToken then
      ⟨m, [], .error (.sessionBinding .invalidToken)⟩
    else
      match m.correlationToParticipant.lookup correlationId with
      | none => ⟨m, [], .error (.sessionBinding .sessionNotFound)⟩
      | some participantId =>
        match m.participants.lookup participantId with
        | none => ⟨m, [], .error (.sessionBinding .sessionNotFound)⟩
        | some participant =>
          let binding := m.issueBinding R draw participantId participant.userId now
          let handle : ParticipantActorHandle := ⟨connectionId, participantId⟩
          let m' : MeetingActor :=
            { m with
              connections := m.connections.insert connectionId ⟨handle, participantId⟩
              participants := m.participants.insert participantId
                { participant with
                  status := .connected
                  disconnectedAt := none
                  connection := some handle
                  correlationId := draw.correlationId }
              storedBindings :=
                (m.storedBindings.erase correlationId).insert draw.correlationId binding
              correlationToParticipant :=
                (m.correlationToParticipant.erase correlationId).insert draw.correlationId
                  participantId }
          ⟨m',
            [.spawn connectionId participantId, .connectionCreated] ++
              m'.broadcastUpdate participantId (.reconnected participantId),
            .ok
              { participantId := participantId
                newCorrelationId := draw.correlationId
                newBindingToken := binding.bindingToken
                participants := m'.otherParticipants participantId }⟩

/-- `handle_leave` (meeting.rs:863). -/
def handleLeave (m : MeetingActor) (participantId : String) : Handled (Except McError Unit) :=
  match m.participants.lookup participantId with
  | none => ⟨m, [], .error (.participantNotFound "Participant not found")⟩
  | some participant =>
    let m' : MeetingActor :=
      { m with
        participants := m.participants.erase participantId
        correlationToParticipant := m.correlationToParticipant.erase participant.correlationId
        storedBindings := m.storedBindings.erase participant.correlationId }
    ⟨m',
      (participant.connection.map fun conn => Effect.cancel conn.connectionId).toList ++
        [.decrementParticipants] ++
        m'.broadcastUpdate participantId (.left participantId .voluntary),
      .ok ()⟩

/-- The update broadcast when the mute flags of a participant change. -/
def muteChanged (participantId : String) (p : Participant) : ParticipantStateUpdate :=
  .muteChanged participantId p.audioSelfMuted p.videoSelfMuted p.audioHostMuted p.videoHostMuted

/-- `handle_self_mute` (meeting.rs:967). -/
def handleSelfMute (m : MeetingActor) (participantId : String) (audioMuted videoMuted : Bool) :
    Handled Unit :=
  match m.participants.lookup participantId with
  | none => ⟨m, [], ()⟩
  | some participant =>
    let participant : Participant :=
      { participant with audioSelfMuted := audioMuted, videoSelfMuted := videoMuted }
    let m' : MeetingActor :=
      { m with participants := m.participants.insert participantId participant }
    ⟨m', m'.broadcastUpdate participantId (muteChanged participantId participant), ()⟩

/-- `handle_signaling` (meeting.rs:909). -/
def handleSignaling (m : MeetingActor) (participantId : String) (message : SignalingPayload) :
    Handled Unit :=
  if participantId ∉ m.participants then ⟨m, [], ()⟩
  else
    match message with
    | .muteUpdate audioMuted videoMuted => m.handleSelfMute participantId audioMuted videoMuted
    | .layoutSubscribe _ => ⟨m, [], ()⟩
    | .chat _ => ⟨m, [], ()⟩
    | .raw _ _ => ⟨m, [], ()⟩

/-- `get_state` (meeting.rs:950); the mailbox depth is the caller's. -/
def getState (m : MeetingActor) (mailboxDepth : ℕ) : MeetingState where
  meetingId := m.meetingId
  participants := m.participants.values.map Participant.toInfo
  fencingGeneration := m.fencingGeneration
  createdAt := m.createdAt
  mailboxDepth := mailboxDepth
  isShuttingDown := m.isShuttingDown

/-- `handle_host_mute` (meeting.rs:999). -/
def handleHostMute (m : MeetingActor) (targetParticipantId mutedBy : String)
    (audioMuted videoMuted : Bool) : Handled (Except McError Unit) :=
  let isHost := ((m.participants.lookup mutedBy).map (·.isHost)).getD false
  if !isHost then
    ⟨m, [], .error (.permissionDenied "Only hosts can mute other participants")⟩
  else
    match m.participants.lookup targetParticipantId with
    | none => ⟨m, [], .error (.participantNotFound "Target participant not found")⟩
    | some participant =>
      let participant : Participant :=
        { participant with audioHostMuted := audioMuted, videoHostMuted := videoMuted }
      let m' : MeetingActor :=
        { m with participants := m.participants.insert targetParticipantId participant }
      ⟨m', m'.broadcastUpdate targetParticipantId (muteChanged targetParticipantId participant),
        .ok ()⟩

/-- `handle_end_meeting` (meeting.rs:1060). -/
def handleEndMeeting (m : MeetingActor) : Handled (Except McError Unit) :=
  ⟨{ m with isShuttingDown := true, cancelled := true },
    (m.participants.keys.flatMap fun participantId =>
        m.broadcastUpdate participantId (.left participantId .meetingEnded)) ++
      m.connections.values.map fun managed => .cancel managed.handle.connectionId,
    .ok ()⟩

/-- The grace period of a participant has run out at `now` (meeting.rs:1100–1105). -/
def timedOut (now : ℕ) (p : Participant) : Bool :=
  match p.status, p.disconnectedAt with
  | .disconnected, some disconnectedAt => decide (disconnectGracePeriod ≤ now - disconnectedAt)
  | _, _ => false

/-- One round of the removal loop of `check_disconnect_timeouts` (meeting.rs:1109–1133). -/
def removeTimedOut (h : Handled Unit) (participantId : String) : Handled Unit :=
  match h.actor.participants.lookup participantId with
  | none => h
  | some participant =>
    let m' : MeetingActor :=
      { h.actor with
        participants := h.actor.participants.erase participantId
        correlationToParticipant :=
          h.actor.correlationToParticipant.erase participant.correlationId }
    ⟨m',
      h.effects ++ [.decrementParticipants] ++
        m'.broadcastUpdate participantId (.left participantId .timeout),
      ()⟩

/-- The participants `check_disconnect_timeouts` collects (meeting.rs:1097–1107). -/
def timedOutIds (m : MeetingActor) (now : ℕ) : List String :=
  (m.participants.entries.filter fun e => timedOut now e.2).map (·.1)

/-- `check_disconnect_timeouts` (meeting.rs:1095). -/
def checkDisconnectTimeouts (m : MeetingActor) (now : ℕ) : Handled Unit :=
  (m.timedOutIds now).foldl removeTimedOut ⟨m, [], ()⟩

/-- One round of the loop of `check_connection_health` over the finished
    tasks (meeting.rs:1146–1178); `panicked` is the outcome of the task. -/
def reapConnection (now : ℕ) (h : Handled Unit) (task : String × Bool) : Handled Unit :=
  match h.actor.connections.lookup task.1 with
  | none => h
  | some managed =>
    let m' : MeetingActor := { h.actor with connections := h.actor.connections.erase task.1 }
    let d := m'.handleDisconnect now task.1 managed.participantId
    ⟨d.actor, h.effects ++ (if task.2 then [.recordPanic] else []) ++ d.effects, ()⟩

/-- `check_connection_health` (meeting.rs:1137). `finished` lists the tasks
    found finished, each with whether it panicked; a task whose connection is
    not (or no longer) in the map is skipped. -/
def checkConnectionHealth (m : MeetingActor) (now : ℕ) (finished : List (String × Bool)) :
    Handled Unit :=
  finished.foldl (reapConnection now) ⟨m, [], ()⟩

/-- `graceful_shutdown` (meeting.rs:1190). -/
def gracefulShutdown (m : MeetingActor) : Handled Unit :=
  ⟨{ m with isShuttingDown := true, connections := ∅ },
    m.connections.values.map fun managed => .cancel managed.handle.connectionId, ()⟩

/-- The answer to a message. -/
inductive Reply
  | join (result : Except McError JoinResult)
  | reconnect (result : Except McError ReconnectResult)
  | done (result : Except McError Unit)
  | state (state : MeetingState)
  | silent

/-- `handle_message` (meeting.rs:449). -/
def handleMessage (m : MeetingActor) (now : ℕ) (draw : Draw) (mailboxDepth : ℕ) :
    MeetingMessage → Handled Reply
  | .connectionJoin connectionId userId participantId isHost =>
    (m.handleJoin R now draw connectionId userId participantId isHost).map .join
  | .connectionDisconnected connectionId participantId =>
    (m.handleDisconnect now connectionId participantId).map fun _ => .silent
  | .connectionReconnect connectionId correlationId bindingToken =>
    (m.handleReconnect R now draw connectionId correlationId bindingToken).map .reconnect
  | .participantLeave participantId => (m.handleLeave participantId).map .done
  | .signalingMessage participantId message =>
    (m.handleSignaling participantId message).map fun _ => .silent
  | .getState => ⟨m, [], .state (m.getState mailboxDepth)⟩
  | .updateSelfMute participantId audioMuted videoMuted =>
    (m.handleSelfMute participantId audioMuted videoMuted).map fun _ => .silent
  | .hostMute targetParticipantId mutedBy audioMuted videoMuted =>
    (m.handleHostMute targetParticipantId mutedBy audioMuted videoMuted).map .done
  | .endMeeting _ => m.handleEndMeeting.map .done

end MeetingActor

/-! ## The message loop -/

/-- What one turn of the loop of `run` (meeting.rs:390) does, with the values
    it reads from outside. -/
inductive MeetingEvent
  /-- A message arrives on the mailbox. -/
  | message (now : ℕ) (draw : Draw) (mailboxDepth : ℕ) (message : MeetingMessage)
  /-- The grace-period timer ticks. -/
  | tick (now : ℕ)
  /-- The tasks in `finished` are found finished. -/
  | health (now : ℕ) (finished : List (String × Bool))
  /-- The cancellation token is seen cancelled: the last turn of the loop. -/
  | shutdown (now : ℕ)
deriving DecidableEq

namespace MeetingEvent

/-- The instant of an event. -/
def now : MeetingEvent → ℕ
  | message now _ _ _ => now
  | tick now => now
  | health now _ => now
  | shutdown now => now

/-- The values drawn for an event. -/
def draw? : MeetingEvent → Option Draw
  | message _ draw _ _ => some draw
  | _ => none

/-- The event is a shutdown. -/
def isShutdown : MeetingEvent → Bool
  | shutdown _ => true
  | _ => false

end MeetingEvent

/-- One event of the loop. -/
def MeetingActor.handle (R : Ring) (m : MeetingActor) : MeetingEvent → Handled MeetingActor.Reply
  | .message now draw mailboxDepth message => m.handleMessage R now draw mailboxDepth message
  | .tick now => (m.checkDisconnectTimeouts now).map fun _ => .silent
  | .health now finished => (m.checkConnectionHealth now finished).map fun _ => .silent
  | .shutdown _ => m.gracefulShutdown.map fun _ => .silent

/-- A history of the actor: the events with the answer and the effects of each. -/
abbrev MeetingHistory := List (MeetingEvent × MeetingActor.Reply × List Effect)

/-- A binding handed out to a participant. -/
structure Issue where
  participantId : String
  correlationId : String
  bindingToken : String
  issuedAt : ℕ
deriving DecidableEq

/-- The binding handed out by one answered event, if any: the correlation id
    and token of a successful join or reconnect. -/
def issueOf : MeetingEvent × MeetingActor.Reply × List Effect → Option Issue
  | (e, .join (.ok r), _) => some ⟨r.participantId, r.correlationId, r.bindingToken, e.now⟩
  | (e, .reconnect (.ok r), _) =>
    some ⟨r.participantId, r.newCorrelationId, r.newBindingToken, e.now⟩
  | _ => none

/-- The bindings handed out in a history, newest first. -/
def issues (h : MeetingHistory) : List Issue := h.filterMap issueOf

/-- The meeting actor from its spawn on. The environment promises a clock that
    does not go back, UUIDs that were not handed out before, and that nothing
    is handled after the loop has ended. -/
def meetingMachine (R : Ring) (meetingId : String) (bindingManager : SessionBindingManager)
    (createdAt : ℤ) : Machine MeetingActor MeetingEvent (MeetingActor.Reply × List Effect) where
  init := MeetingActor.spawn meetingId bindingManager createdAt
  step m e := ((m.handle R e).actor, (m.handle R e).result, (m.handle R e).effects)
  allowed h _ e :=
    (∀ x ∈ h, x.1.now ≤ e.now ∧ x.1.isShutdown = false) ∧
      ∀ draw ∈ e.draw?, ∀ i ∈ issues h, i.correlationId ≠ draw.correlationId

instance (R : Ring) (meetingId : String) (bindingManager : SessionBindingManager) (createdAt : ℤ)
    (h : MeetingHistory) (m : MeetingActor) (e : MeetingEvent) :
    Decidable ((meetingMachine R meetingId bindingManager createdAt).allowed h m e) :=
  inferInstanceAs (Decidable (_ ∧ _))

/-- The meeting of the concrete runs. -/
abbrev sampleMeeting : Machine MeetingActor MeetingEvent (MeetingActor.Reply × List Effect) :=
  meetingMachine Ring.sample "meeting-1" SessionBindingManager.sample 0

/-- The values drawn for the first two sessions of `"part-1"`. -/
def sampleDraw₁ : Draw :=
  ⟨"6f0c2b1e-9a4d-4c57-8f3e-2d1b7a90c4e5",
    [0x00, 0x01, 0x02, 0x03, 0x04, 0x05, 0x06, 0x07, 0x08, 0x09, 0x0a, 0x0b, 0x0c, 0x0d, 0x0e,
      0x0f]⟩

/-- Another draw. -/
def sampleDraw₂ : Draw :=
  ⟨"b3d9e8f2-5c61-4a0b-9e77-41f6c8d2a013",
    [0x10, 0x11, 0x12, 0x13, 0x14, 0x15, 0x16, 0x17, 0x18, 0x19, 0x1a, 0x1b, 0x1c, 0x1d, 0x1e,
      0x1f]⟩

end DarkTower.Mc
