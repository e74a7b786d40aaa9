import DarkTower.Mh.Session
import Mathlib.Algebra.GroupWithZero.Nat

/-!
# No connection of a session is lost or duplicated

* `sessionMachine`: the session actor, under any sequence of messages that adds
  each connection id at most once.
* `connectionIds_handleMessage`: a message adds the id it names, drops at most
  one id and keeps the others.
* `exactStep_handleMessage`: what a message does to the connections, the
  registrations and the notifiers of every meeting.
* `sessionConservation_of_run`: in every state of a run the ids are distinct,
  every message has exactly its effect, and the number of active connections is
  that of the additions and promotions less the removals.
-/

namespace DarkTower.Mh

open DarkTower.Lib DarkTower.Lib.Multimap
open scoped List

/-- The connection id a message adds. -/
def SessionMessage.added? : SessionMessage → Option String
  | .addConnection _ entry => some entry.connectionId
  | .addPendingConnection pending => some pending.connectionId
  | _ => none

/-- A history of the session actor. -/
abbrev SessionHistory := List (SessionMessage × SessionReply)

/-- The session actor. Each connection id is added once. -/
def sessionMachine : Machine SessionState SessionMessage SessionReply where
  init := .empty
  step := SessionState.handleMessage
  allowed h _ message := ∀ c ∈ message.added?, ∀ x ∈ h, x.1.added? ≠ some c

instance (h : SessionHistory) (s : SessionState) (message : SessionMessage) :
    Decidable (sessionMachine.allowed h s message) :=
  inferInstanceAs (Decidable (∀ c ∈ message.added?, ∀ x ∈ h, x.1.added? ≠ some c))

/-- The active connections of one meeting, or of all. -/
def SessionState.activeOver (s : SessionState) : Option String → List ConnectionEntry
  | some meetingId => s.activeIn meetingId
  | none => items s.activeConnections

/-- A meeting is counted. -/
def counted (scope : Option String) (meetingId : String) : Prop :=
  scope = none ∨ scope = some meetingId

instance (scope : Option String) (meetingId : String) : Decidable (counted scope meetingId) :=
  inferInstanceAs (Decidable (_ ∨ _))

theorem counted_none (meetingId : String) : counted none meetingId := Or.inl rfl

theorem counted_some (m meetingId : String) : counted (some m) meetingId ↔ m = meetingId := by
  simp [counted]

/-- The connections that a message adds as active ones. -/
def addedBy (scope : Option String) : SessionMessage × SessionReply → ℕ
  | (.addConnection meetingId _, _) => if counted scope meetingId then 1 else 0
  | _ => 0

/-- The connections that a message promotes, by its reply. -/
def promotedBy (scope : Option String) : SessionMessage × SessionReply → ℕ
  | (.registerMeeting meetingId _, .promoted pending) =>
    if counted scope meetingId then pending.length else 0
  | _ => 0

/-- The active connections that a message removes, by its reply. -/
def removedBy (scope : Option String) : SessionMessage × SessionReply → ℕ
  | (.removeConnection meetingId _, .flag true) => if counted scope meetingId then 1 else 0
  | _ => 0

/-- What each message does to the connections, and its reply:
    `RegisterMeeting` moves the pending connections of its meeting, in their
    order, behind the active ones of their participants; the removals take the
    named connection out of the named meeting and say whether it was there; the
    other messages add one entry or change nothing. -/
def ExactConnections (s : SessionState) (message : SessionMessage)
    (result : SessionState × SessionReply) : Prop :=
  match message with
  | .registerMeeting meetingId _ =>
    result.2 = .promoted (s.pendingIn meetingId) ∧
      (∀ m, result.1.pendingIn m = if m = meetingId then [] else s.pendingIn m) ∧
      ∀ m p, result.1.active m p = s.active m p ++
        if m = meetingId then ((s.pendingIn m).filter (·.participantId = p)).map (·.promote) else []
  | .removeConnection meetingId connectionId =>
    result.2 = .flag (decide (s.HasActive meetingId connectionId)) ∧
      (∀ m, result.1.pendingIn m = s.pendingIn m) ∧
      ∀ m p, result.1.active m p = if m = meetingId then
        (s.active m p).filter (fun c => c.connectionId ≠ connectionId) else s.active m p
  | .removePendingConnection meetingId connectionId =>
    result.2 = .flag (decide (s.HasPending meetingId connectionId)) ∧
      (∀ m, result.1.pendingIn m = if m = meetingId then
        (s.pendingIn m).filter (fun c => c.connectionId ≠ connectionId) else s.pendingIn m) ∧
      ∀ m p, result.1.active m p = s.active m p
  | .addConnection meetingId entry =>
    (∀ m, result.1.pendingIn m = s.pendingIn m) ∧
      ∀ m p, result.1.active m p = s.active m p ++
        if m = meetingId ∧ p = entry.participantId then [entry] else []
  | .addPendingConnection pending =>
    (∀ m, result.1.pendingIn m = s.pendingIn m ++
        if m = pending.meetingId then [pending] else []) ∧
      ∀ m p, result.1.active m p = s.active m p
  | .activeConnectionCount => result = (s, .count (s.activeOver none).length)
  | .isMeetingRegistered meetingId =>
    result = (s, .flag (decide (meetingId ∈ s.registeredMeetings)))
  | .getMcEndpoint meetingId =>
    result = (s, .endpoint ((s.registeredMeetings.lookup meetingId).map (·.mcGrpcEndpoint)))

/-- The registration of the meeting `m` after a message. -/
def registrationAfter (s : SessionState) (m : String) :
    SessionMessage → Option MeetingRegistration
  | .registerMeeting meetingId registration =>
    if m = meetingId then some registration else s.registeredMeetings.lookup m
  | _ => s.registeredMeetings.lookup m

/-- The `Notify` of the meeting `m` after a message: `RegisterMeeting` calls it
    where there is one, `AddPendingConnection` creates it where there is none. -/
def notifierAfter (s : SessionState) (m : String) : SessionMessage → Option ℕ
  | .registerMeeting meetingId _ =>
    if m = meetingId then (s.meetingNotifiers.lookup m).map (· + 1)
    else s.meetingNotifiers.lookup m
  | .addPendingConnection pending =>
    if m = pending.meetingId then some ((s.meetingNotifiers.lookup m).getD 0)
    else s.meetingNotifiers.lookup m
  | _ => s.meetingNotifiers.lookup m

/-- A message has exactly its effect on the connections, the registrations and
    the notifiers of every meeting. -/
structure ExactStep (s : SessionState) (message : SessionMessage)
    (result : SessionState × SessionReply) : Prop where
  connections : ExactConnections s message result
  registrations : ∀ m, result.1.registeredMeetings.lookup m = registrationAfter s m message
  notifiers : ∀ m, result.1.meetingNotifiers.lookup m = notifierAfter s m message

namespace SessionState

variable (s : SessionState)

/-- A message adds the id it names and drops at most one. -/
theorem connectionIds_handleMessage (message : SessionMessage) :
    ∃ gone : Option String, gone.toList ++ (s.handleMessage message).1.connectionIds ~
      message.added?.toList ++ s.connectionIds := by
  cases message with
  | registerMeeting meetingId registration =>
    exact ⟨none, s.connectionIds_registerMeeting meetingId registration⟩
  | addConnection meetingId entry => exact ⟨none, s.connectionIds_addConnection meetingId entry⟩
  | addPendingConnection pending => exact ⟨none, s.connectionIds_addPendingConnection pending⟩
  | removeConnection meetingId connectionId =>
    have hcase := s.handleRemoveConnection_cases meetingId connectionId
    cases hr : (s.handleRemoveConnection meetingId connectionId).2 with
    | true => exact ⟨some connectionId, (hcase.connectionIds hr).symm⟩
    | false =>
      refine ⟨none, ?_⟩
      simp only [handleMessage, hcase.same hr]
      rfl
  | removePendingConnection meetingId connectionId =>
    by_cases hp : s.HasPending meetingId connectionId
    · exact ⟨some connectionId, (connectionIds_removePending hp).symm⟩
    · refine ⟨none, ?_⟩
      simp only [handleMessage, s.removePending_of_absent hp]
      rfl
  | isMeetingRegistered meetingId => exact ⟨none, .rfl⟩
  | getMcEndpoint meetingId => exact ⟨none, .rfl⟩
  | activeConnectionCount => exact ⟨none, .rfl⟩

/-- Where the ids are distinct, every message has exactly its effect on the
    connections. -/
theorem exactConnections_handleMessage {s : SessionState} (hn : s.connectionIds.Nodup)
    (message : SessionMessage) : ExactConnections s message (s.handleMessage message) := by
  cases message with
  | registerMeeting meetingId registration =>
    refine ⟨rfl, fun m => ?_, fun m p => ?_⟩
    · exact bucket_erase s.pendingConnections meetingId m
    · refine (cell_promoteAll meetingId s.activeConnections _ m p).trans ?_
      split_ifs with hm
      · rw [hm]; rfl
      · rfl
  | removeConnection meetingId connectionId =>
    have hcase := s.handleRemoveConnection_cases meetingId connectionId
    refine ⟨?_, fun m => ?_, fun m p => hcase.active hn m p⟩
    · simp only [handleMessage, SessionReply.flag.injEq]
      exact Bool.eq_iff_iff.mpr (hcase.reply.trans decide_eq_true_iff.symm)
    · simp only [handleMessage, pendingIn, hcase.frame.1]
  | removePendingConnection meetingId connectionId =>
    refine ⟨?_, fun m => ?_, fun m p => ?_⟩
    · simp only [handleMessage, SessionReply.flag.injEq]
      exact Bool.eq_iff_iff.mpr
        ((s.removePending_reply meetingId connectionId).trans decide_eq_true_iff.symm)
    · refine (s.pendingIn_removePending meetingId connectionId m).trans ?_
      have hbucket : ((s.pendingIn m).map (·.connectionId)).Nodup := by
        have hperm := (flat_bucket_erase s.pendingConnections m).map (·.connectionId)
        have hnodup := hperm.nodup_iff.mp (nodup_pending hn)
        rw [List.map_append] at hnodup
        exact (List.nodup_append.mp hnodup).1
      rw [eraseP_eq_filter hbucket]
    · simp only [handleMessage, active, (s.removePending_frame _ _).1]
  | addConnection meetingId entry =>
    exact ⟨fun m => rfl, fun m p => cell_pushActive meetingId s.activeConnections entry m p⟩
  | addPendingConnection pending =>
    refine ⟨fun m => ?_, fun m p => rfl⟩
    refine (bucket_insert s.pendingConnections pending.meetingId m _).trans ?_
    split_ifs with hm
    · rw [hm]; rfl
    · exact (List.append_nil _).symm
  | isMeetingRegistered meetingId => rfl
  | getMcEndpoint meetingId => rfl
  | activeConnectionCount => rfl

theorem registrations_handleMessage (message : SessionMessage) (m : String) :
    (s.handleMessage message).1.registeredMeetings.lookup m = registrationAfter s m message := by
  cases message with
  | registerMeeting meetingId registration =>
    simp only [handleMessage, handleRegisterMeeting, registrationAfter]
    split_ifs with hm
    · rw [hm, AList.lookup_insert]
    · rw [AList.lookup_insert_ne hm]
  | removeConnection meetingId connectionId =>
    have hcase := s.handleRemoveConnection_cases meetingId connectionId
    exact congrArg (AList.lookup m) hcase.frame.2.2
  | removePendingConnection meetingId connectionId =>
    exact congrArg (AList.lookup m) (s.removePending_frame meetingId connectionId).2.2
  | addConnection meetingId entry => rfl
  | addPendingConnection pending => rfl
  | isMeetingRegistered meetingId => rfl
  | getMcEndpoint meetingId => rfl
  | activeConnectionCount => rfl

theorem notifiers_handleMessage (message : SessionMessage) (m : String) :
    (s.handleMessage message).1.meetingNotifiers.lookup m = notifierAfter s m message := by
  cases message with
  | registerMeeting meetingId registration =>
    simp only [handleMessage, handleRegisterMeeting, notifierAfter]
    cases hcalls : s.meetingNotifiers.lookup meetingId with
    | none =>
      split_ifs with hm
      · rw [hm, hcalls, Option.map_none]
      · rfl
    | some calls =>
      split_ifs with hm
      · rw [hm, AList.lookup_insert, hcalls, Option.map_some]
      · exact AList.lookup_insert_ne hm
  | addPendingConnection pending =>
    simp only [handleMessage, handleAddPendingConnection, notifierAfter]
    cases hcalls : s.meetingNotifiers.lookup pending.meetingId with
    | none =>
      split_ifs with hm
      · rw [hm, AList.lookup_insert, hcalls, Option.getD_none]
      · exact AList.lookup_insert_ne hm
    | some calls =>
      split_ifs with hm
      · rw [hm, hcalls, Option.getD_some]
      · rfl
  | removeConnection meetingId connectionId =>
    have hcase := s.handleRemoveConnection_cases meetingId connectionId
    exact congrArg (AList.lookup m) hcase.frame.2.1
  | removePendingConnection meetingId connectionId =>
    exact congrArg (AList.lookup m) (s.removePending_frame meetingId connectionId).2.1
  | addConnection meetingId entry => rfl
  | isMeetingRegistered meetingId => rfl
  | getMcEndpoint meetingId => rfl
  | activeConnectionCount => rfl

/-- Where the ids are distinct, every message has exactly its effect. -/
theorem exactStep_handleMessage {s : SessionState} (hn : s.connectionIds.Nodup)
    (message : SessionMessage) : ExactStep s message (s.handleMessage message) :=
  ⟨exactConnections_handleMessage hn message, s.registrations_handleMessage message,
    s.notifiers_handleMessage message⟩

/-- A registration adds the pending connections of its meeting. -/
theorem activeOver_registerMeeting (scope : Option String) (meetingId : String)
    (registration : MeetingRegistration) :
    (s.handleMessage (.registerMeeting meetingId registration)).1.activeOver scope ~
      (if counted scope meetingId then (s.pendingIn meetingId).map (·.promote) else []) ++
        s.activeOver scope := by
  cases scope with
  | none =>
    rw [if_pos (counted_none meetingId)]
    exact items_promoteAll meetingId s.activeConnections (s.pendingIn meetingId)
  | some m =>
    simp only [counted_some]
    exact rowItems_promoteAll meetingId s.activeConnections (s.pendingIn meetingId) m

theorem activeOver_addConnection (scope : Option String) (meetingId : String)
    (entry : ConnectionEntry) :
    (s.handleMessage (.addConnection meetingId entry)).1.activeOver scope ~
      (if counted scope meetingId then [entry] else []) ++ s.activeOver scope := by
  cases scope with
  | none =>
    rw [if_pos (counted_none meetingId)]
    exact items_pushActive meetingId s.activeConnections entry
  | some m =>
    simp only [counted_some]
    exact rowItems_pushActive meetingId s.activeConnections entry m

/-- What a message adds to the active connections of a meeting, or of all. -/
theorem length_activeOver_handleMessage (scope : Option String) (message : SessionMessage) :
    ((s.handleMessage message).1.activeOver scope).length +
        removedBy scope (message, (s.handleMessage message).2) =
      (s.activeOver scope).length + addedBy scope (message, (s.handleMessage message).2) +
        promotedBy scope (message, (s.handleMessage message).2) := by
  cases message with
  | registerMeeting meetingId registration =>
    rw [(s.activeOver_registerMeeting scope meetingId registration).length_eq, List.length_append]
    simp only [handleMessage, handleRegisterMeeting, removedBy, addedBy, promotedBy, pendingIn]
    split_ifs
    · rw [List.length_map]
      omega
    · rw [List.length_nil]
      omega
  | addConnection meetingId entry =>
    rw [(s.activeOver_addConnection scope meetingId entry).length_eq, List.length_append]
    simp only [removedBy, addedBy, promotedBy]
    split_ifs
    · rw [List.length_singleton]
      omega
    · rw [List.length_nil]
      omega
  | removeConnection meetingId connectionId =>
    have hcase := s.handleRemoveConnection_cases meetingId connectionId
    simp only [handleMessage, addedBy, promotedBy]
    cases hr : (s.handleRemoveConnection meetingId connectionId).2 with
    | false =>
      rw [hcase.same hr]
      rfl
    | true =>
      obtain ⟨entry, _, hrow, hitems⟩ := hcase.perm hr
      cases scope with
      | none =>
        simp only [removedBy, if_pos (counted_none meetingId), activeOver, hitems.length_eq,
          List.length_cons]
      | some m =>
        simp only [removedBy, counted_some, activeOver]
        split_ifs with hm
        · rw [hm, hrow.length_eq, List.length_cons]
        · rw [hcase.activeIn_of_ne hm]
  | removePendingConnection meetingId connectionId =>
    have hsame : (s.handleMessage (.removePendingConnection meetingId connectionId)).1.activeOver
        scope = s.activeOver scope := by
      cases scope <;>
        simp only [handleMessage, activeOver, activeIn, (s.removePending_frame _ _).1]
    rw [hsame]
    rfl
  | addPendingConnection pending => cases scope <;> rfl
  | isMeetingRegistered meetingId => rfl
  | getMcEndpoint meetingId => rfl
  | activeConnectionCount => rfl

end SessionState

/-- The ids stored are distinct and were added in the run. -/
theorem run_connectionIds {h : SessionHistory} {s : SessionState} (hr : sessionMachine.Run h s) :
    s.connectionIds.Nodup ∧ ∀ c ∈ s.connectionIds, ∃ x ∈ h, x.1.added? = some c := by
  refine Machine.Run.invariant (I := fun h s => s.connectionIds.Nodup ∧
    ∀ c ∈ s.connectionIds, ∃ x ∈ h, x.1.added? = some c) ?_ ?_ hr
  · exact ⟨List.nodup_nil, fun c hc => absurd hc List.not_mem_nil⟩
  · intro h s message _ ha hI
    obtain ⟨gone, hperm⟩ := s.connectionIds_handleMessage message
    have hfresh : (message.added?.toList ++ s.connectionIds).Nodup := by
      cases hadded : message.added? with
      | none => exact hI.1
      | some c =>
        refine List.nodup_cons.mpr ⟨fun hc => ?_, hI.1⟩
        obtain ⟨x, hx, hxc⟩ := hI.2 c hc
        exact ha c hadded x hx hxc
    refine ⟨(List.nodup_append.mp (hperm.nodup_iff.mpr hfresh)).2.1, fun c hc => ?_⟩
    have hmem := hperm.mem_iff.mp (List.mem_append_right gone.toList hc)
    rcases List.mem_append.mp hmem with hc | hc
    · exact ⟨_, List.mem_cons_self, Option.mem_toList.mp hc⟩
    · obtain ⟨x, hx, hxc⟩ := hI.2 c hc
      exact ⟨x, List.mem_cons_of_mem _ hx, hxc⟩

theorem run_activeCount {h : SessionHistory} {s : SessionState} (hr : sessionMachine.Run h s)
    (scope : Option String) :
    (s.activeOver scope).length + (h.map (removedBy scope)).sum =
      (h.map (addedBy scope)).sum + (h.map (promotedBy scope)).sum := by
  refine Machine.Run.invariant (I := fun h s => (s.activeOver scope).length +
    (h.map (removedBy scope)).sum =
      (h.map (addedBy scope)).sum + (h.map (promotedBy scope)).sum) ?_ ?_ hr
  · cases scope <;> rfl
  · intro h s message _ _ hI
    have hstep := s.length_activeOver_handleMessage scope message
    simp only [List.map_cons, List.sum_cons]
    change ((s.handleMessage message).1.activeOver scope).length +
      (removedBy scope (message, (s.handleMessage message).2) + _) =
        (addedBy scope (message, (s.handleMessage message).2) + _) +
          (promotedBy scope (message, (s.handleMessage message).2) + _)
    omega

/-- In every state of a run each connection id is stored at most once, every
    message has exactly its effect, and the active connections of a meeting, and
    of all meetings, number the additions and promotions less the removals. -/
theorem sessionConservation_of_run {h : SessionHistory} {s : SessionState}
    (hr : sessionMachine.Run h s) :
    s.connectionIds.Nodup ∧
      (∀ message, ExactStep s message (s.handleMessage message)) ∧
      ∀ scope, (s.activeOver scope).length + (h.map (removedBy scope)).sum =
        (h.map (addedBy scope)).sum + (h.map (promotedBy scope)).sum :=
  ⟨(run_connectionIds hr).1, SessionState.exactStep_handleMessage (run_connectionIds hr).1,
    run_activeCount hr⟩

/-- Two pending connections, a registration that promotes them, a second
    registration, and the removal of one. -/
def promotionMessages : List SessionMessage :=
  [.addPendingConnection ⟨"conn-1", "meeting-1", "user-1", 0⟩,
    .addPendingConnection ⟨"conn-2", "meeting-1", "user-2", 1⟩,
    .registerMeeting "meeting-1" ⟨"mc-1", "http://mc:50052", 2⟩,
    .registerMeeting "meeting-1" ⟨"mc-1", "http://mc:50052", 3⟩,
    .removeConnection "meeting-1" "conn-1",
    .activeConnectionCount]

theorem sessionConservation_promotion :
    sessionMachine.Run (sessionMachine.playAll promotionMessages).2
        (sessionMachine.playAll promotionMessages).1 ∧
      (sessionMachine.playAll promotionMessages).2.head? =
        some (.activeConnectionCount, .count 1) ∧
      (sessionMachine.playAll promotionMessages).1.connectionIds.Nodup :=
  have hr := Machine.run_of_admits (M := sessionMachine) (l := promotionMessages) (by decide)
  ⟨hr, by decide, (sessionConservation_of_run hr).1⟩

end DarkTower.Mh
