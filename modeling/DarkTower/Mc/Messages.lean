import Mathlib.Data.Int.Notation
import Mathlib.Data.Nat.Notation
import Mathlib.Tactic.Common

/-!
# Messages and results of the meeting actors

The types of `mc-service/src/actors/messages.rs` that the meeting actor reads
and returns, and the errors of `mc-service/src/errors.rs` that it and the
Redis client raise. Identifiers are texts, as in the source. Response channels
are left out: a handler's answer is its result.
-/

namespace DarkTower.Mc

/-- `SessionBindingError` (errors.rs:105). -/
inductive SessionBindingError
  | tokenExpired
  | invalidToken
  | nonceReused
  | sessionNotFound
  | userIdMismatch
deriving DecidableEq, Repr

/-- The variants of `McError` (errors.rs:18) raised by the modelled code. -/
inductive McError
  | redis (message : String)
  | invalidArgument (message : String)
  | sessionBinding (error : SessionBindingError)
  | meetingNotFound (meetingId : String)
  | participantNotFound (message : String)
  | draining
  | fencedOut (message : String)
  | conflict (message : String)
  | permissionDenied (message : String)
  | jwtValidation (message : String)
  | internal (message : String)
deriving DecidableEq, Repr

/-- `ParticipantStatus` (messages.rs:240). -/
inductive ParticipantStatus
  | connected
  | disconnected
  | reconnecting
deriving DecidableEq, Repr

/-- `ParticipantInfo` (messages.rs:219). -/
structure ParticipantInfo where
  participantId : String
  userId : String
  displayName : String
  audioSelfMuted : Bool
  videoSelfMuted : Bool
  audioHostMuted : Bool
  videoHostMuted : Bool
  status : ParticipantStatus
deriving DecidableEq, Repr

/-- `LeaveReason` (messages.rs:274). -/
inductive LeaveReason
  | voluntary
  | timeout
  | removed
  | meetingEnded
deriving DecidableEq, Repr

/-- `ParticipantStateUpdate` (messages.rs:251). -/
inductive ParticipantStateUpdate
  | joined (info : ParticipantInfo)
  | left (participantId : String) (reason : LeaveReason)
  | muteChanged (participantId : String)
      (audioSelfMuted videoSelfMuted audioHostMuted videoHostMuted : Bool)
  | disconnected (participantId : String)
  | reconnected (participantId : String)
deriving DecidableEq, Repr

/-- `SignalingPayload` (messages.rs:304). -/
inductive SignalingPayload
  | muteUpdate (audioMuted videoMuted : Bool)
  | layoutSubscribe (layoutType : String)
  | chat (content : String)
  | raw (messageType : UInt32) (data : List UInt8)
deriving DecidableEq

/-- `ParticipantActorHandle` (participant.rs:31), by the identity it carries. -/
structure ParticipantActorHandle where
  connectionId : String
  participantId : String
deriving DecidableEq, Repr

/-- `JoinResult` (messages.rs:189). -/
structure JoinResult where
  participantId : String
  correlationId : String
  bindingToken : String
  participants : List ParticipantInfo
  fencingGeneration : ℕ
  participantHandle : ParticipantActorHandle
deriving DecidableEq

/-- `ReconnectResult` (messages.rs:206). -/
structure ReconnectResult where
  participantId : String
  newCorrelationId : String
  newBindingToken : String
  participants : List ParticipantInfo
deriving DecidableEq

/-- `MeetingState` (messages.rs:287). -/
structure MeetingState where
  meetingId : String
  participants : List ParticipantInfo
  fencingGeneration : ℕ
  createdAt : ℤ
  mailboxDepth : ℕ
  isShuttingDown : Bool
deriving DecidableEq

/-- `MeetingMessage` (messages.rs:68). The stream of a join (`stream_tx`) is
    only handed to the participant actor and is left out. -/
inductive MeetingMessage
  | connectionJoin (connectionId userId participantId : String) (isHost : Bool)
  | connectionDisconnected (connectionId participantId : String)
  | connectionReconnect (connectionId correlationId bindingToken : String)
  | participantLeave (participantId : String)
  | signalingMessage (participantId : String) (message : SignalingPayload)
  | getState
  | updateSelfMute (participantId : String) (audioMuted videoMuted : Bool)
  | hostMute (targetParticipantId mutedBy : String) (audioMuted videoMuted : Bool)
  | endMeeting (reason : String)
deriving DecidableEq

end DarkTower.Mc
