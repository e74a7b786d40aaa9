import DarkTower.Mc.Connections
import DarkTower.Mc.Reconnect

/-!
# What an event does to a participant

`Change m e q before after` lists everything an event can do to the entry of the
participant `q`, with its cause, and `handle_change` says that every event does
one of these. `meetingLoop` is the meeting actor with the promises of a clock
only: nothing is assumed about the values drawn.
-/

namespace DarkTower.Mc

open DarkTower.Common DarkTower.Lib

/-- The participant when its connection is lost. -/
def Participant.lost (p : Participant) (now : ℕ) : Participant :=
  { p with status := .disconnected, disconnectedAt := some now, connection := none }

/-- The participant when it has come back. -/
def Participant.back (p : Participant) (handle : ParticipantActorHandle) (correlationId : String) :
    Participant :=
  { p with
    status := .connected
    disconnectedAt := none
    connection := some handle
    correlationId := correlationId }

/-- The participant with other flags of its own. -/
def Participant.selfMute (p : Participant) (audioMuted videoMuted : Bool) : Participant :=
  { p with audioSelfMuted := audioMuted, videoSelfMuted := videoMuted }

/-- The participant with other flags set by a host. -/
def Participant.hostMute (p : Participant) (audioMuted videoMuted : Bool) : Participant :=
  { p with audioHostMuted := audioMuted, videoHostMuted := videoMuted }

namespace MeetingActor

/-- The answer is an error. -/
def Reply.isError : Reply → Bool
  | .join (.error _) | .reconnect (.error _) | .done (.error _) => true
  | _ => false

/-- A self-mute message of `q`. -/
def SelfMutes (q : String) (audioMuted videoMuted : Bool) : MeetingEvent → Prop
  | .message _ _ _ (.updateSelfMute p audio video) => p = q ∧ audio = audioMuted ∧ video = videoMuted
  | .message _ _ _ (.signalingMessage p (.muteUpdate audio video)) =>
    p = q ∧ audio = audioMuted ∧ video = videoMuted
  | _ => False

/-- A host mute of `q` by a participant that is a host at that moment. -/
def HostMutes (m : MeetingActor) (q : String) (audioMuted videoMuted : Bool) : MeetingEvent → Prop
  | .message _ _ _ (.hostMute target mutedBy audio video) =>
    target = q ∧ audio = audioMuted ∧ video = videoMuted ∧
      ∃ host, m.participants.lookup mutedBy = some host ∧ host.isHost = true
  | _ => False

/-- What an event can do to the entry of `q`. -/
inductive Change (m : MeetingActor) (e : MeetingEvent) (q : String) :
    Option Participant → Option Participant → Prop
  | keep (before : Option Participant) (h : q ∉ m.loses e ∨ before = none) :
      Change m e q before before
  | join (now : ℕ) (draw : Draw) (depth : ℕ) (connectionId userId : String) (p : Participant)
      (he : e = .message now draw depth (.connectionJoin connectionId userId q p.isHost))
      (hrunning : m.isShuttingDown = false) (hstatus : p.status = .connected) :
      Change m e q none (some p)
  | lose (p : Participant) (h : q ∈ m.loses e) : Change m e q (some p) (some (p.lost e.now))
  | reconnect (now : ℕ) (draw : Draw) (depth : ℕ) (connectionId c token : String) (p : Participant)
      (handle : ParticipantActorHandle)
      (he : e = .message now draw depth (.connectionReconnect connectionId c token)) :
      Change m e q (some p) (some (p.back handle draw.correlationId))
  | selfMute (p : Participant) (audioMuted videoMuted : Bool)
      (h : SelfMutes q audioMuted videoMuted e) :
      Change m e q (some p) (some (p.selfMute audioMuted videoMuted))
  | hostMute (p : Participant) (audioMuted videoMuted : Bool)
      (h : m.HostMutes q audioMuted videoMuted e) :
      Change m e q (some p) (some (p.hostMute audioMuted videoMuted))
  | leave (now : ℕ) (draw : Draw) (depth : ℕ) (p : Participant)
      (he : e = .message now draw depth (.participantLeave q)) : Change m e q (some p) none
  | timeout (now : ℕ) (p : Participant) (he : e = .tick now) (h : timedOut now p = true) :
      Change m e q (some p) none

variable {m : MeetingActor} {R : Ring}

/-! ## One lemma per handler -/

theorem lookup_insert (s : StringMap Participant) (p q : String) (participant : Participant) :
    (s.insert p participant).lookup q = if q = p then some participant else s.lookup q := by
  split_ifs with h
  · rw [h, AList.lookup_insert]
  · rw [AList.lookup_insert_ne h]

theorem lookup_erase (s : StringMap Participant) (p q : String) :
    (s.erase p).lookup q = if q = p then none else s.lookup q := by
  split_ifs with h
  · rw [h, AList.lookup_erase]
  · rw [AList.lookup_erase_ne h]

theorem handleDisconnect_lookup (now : ℕ) (connectionId p q : String) :
    (m.handleDisconnect now connectionId p).actor.participants.lookup q =
      if q = p then (m.participants.lookup q).map (·.lost now) else m.participants.lookup q := by
  unfold handleDisconnect
  cases hp : m.participants.lookup p with
  | none =>
    dsimp only
    split_ifs with hq
    · subst hq; simp [hp]
    · rfl
  | some participant =>
    dsimp only
    split_ifs with hq
    · subst hq; simp [hp, Participant.lost]
    · rw [AList.lookup_insert_ne hq]

theorem checkConnectionHealth_lookup (now : ℕ) (finished : List (String × Bool)) (q : String) :
    (m.checkConnectionHealth now finished).actor.participants.lookup q =
      if q ∈ m.loses (.health now finished) then (m.participants.lookup q).map (·.lost now)
      else m.participants.lookup q := by
  suffices h : ∀ h₀ : Handled Unit,
      (finished.foldl (reapConnection now) h₀).actor.participants.lookup q =
        if q ∈ h₀.actor.loses (.health now finished) then
          (h₀.actor.participants.lookup q).map (·.lost now)
        else h₀.actor.participants.lookup q from h _
  induction finished with
  | nil => intro h₀; simp [loses]
  | cons task finished ih =>
    intro h₀
    rw [List.foldl_cons, ih]
    cases hc : h₀.actor.connections.lookup task.1 with
    | none =>
      have hskip : reapConnection now h₀ task = h₀ := by rw [reapConnection, hc]
      have hsame : q ∈ h₀.actor.loses (.health now (task :: finished)) ↔
          q ∈ h₀.actor.loses (.health now finished) := by
        simp [mem_loses_health, hc]
      rw [hskip]
      simp only [hsame]
    | some managed =>
      have hreap : (reapConnection now h₀ task).actor.participants.lookup q =
          if q = managed.participantId then (h₀.actor.participants.lookup q).map (·.lost now)
          else h₀.actor.participants.lookup q := by
        simp only [reapConnection, hc]
        exact handleDisconnect_lookup ..
      rw [hreap]
      simp only [mem_loses_reapConnection hc]
      by_cases hq : q = managed.participantId
      · simp only [hq, true_or, if_true, Option.map_map, Function.comp_def, Participant.lost,
          ite_self]
      · simp only [hq, false_or, if_false]

theorem removeTimedOut_lookup (h₀ : Handled Unit) (p q : String) :
    (removeTimedOut h₀ p).actor.participants.lookup q =
      if q = p then none else h₀.actor.participants.lookup q := by
  unfold removeTimedOut
  cases hp : h₀.actor.participants.lookup p with
  | none =>
    split_ifs with hq
    · rw [hq, hp]
    · rfl
  | some participant => exact lookup_erase ..

theorem foldl_removeTimedOut_lookup (ps : List String) (h₀ : Handled Unit) (q : String) :
    (ps.foldl removeTimedOut h₀).actor.participants.lookup q =
      if q ∈ ps then none else h₀.actor.participants.lookup q := by
  induction ps generalizing h₀ with
  | nil => simp
  | cons p ps ih =>
    rw [List.foldl_cons, ih, removeTimedOut_lookup]
    by_cases hq : q ∈ ps <;> by_cases hp : q = p <;> simp [hq, hp]

/-- A tick removes the participants whose grace period has run out, and no other. -/
theorem checkDisconnectTimeouts_lookup (now : ℕ) (q : String) :
    (m.checkDisconnectTimeouts now).actor.participants.lookup q =
      (m.participants.lookup q).filter fun p => !timedOut now p := by
  unfold checkDisconnectTimeouts
  simp only [foldl_removeTimedOut_lookup, mem_timedOutIds]
  cases m.participants.lookup q with
  | none => simp
  | some p => cases h : timedOut now p <;> simp [Option.filter, h]

theorem handleSelfMute_change (e : MeetingEvent) (p : String) (audioMuted videoMuted : Bool)
    (he : SelfMutes p audioMuted videoMuted e) (hloses : m.loses e = []) (q : String) :
    Change m e q (m.participants.lookup q)
      ((m.handleSelfMute p audioMuted videoMuted).actor.participants.lookup q) := by
  unfold handleSelfMute
  cases hp : m.participants.lookup p with
  | none => exact .keep _ (.inl (by simp [hloses]))
  | some participant =>
    simp only [lookup_insert]
    split_ifs with hq
    · subst hq
      rw [hp]
      exact .selfMute participant audioMuted videoMuted he
    · exact .keep _ (.inl (by simp [hloses]))

theorem handleSignaling_change (now : ℕ) (draw : Draw) (depth : ℕ) (p : String)
    (message : SignalingPayload) (q : String) :
    Change m (.message now draw depth (.signalingMessage p message)) q (m.participants.lookup q)
      ((m.handleSignaling p message).actor.participants.lookup q) := by
  have hkeep : Change m (.message now draw depth (.signalingMessage p message)) q
      (m.participants.lookup q) (m.participants.lookup q) := .keep _ (.inl (by simp [loses]))
  unfold handleSignaling
  split_ifs
  · cases message with
    | muteUpdate audioMuted videoMuted =>
      exact handleSelfMute_change
        (.message now draw depth (.signalingMessage p (.muteUpdate audioMuted videoMuted)))
        p audioMuted videoMuted ⟨rfl, rfl, rfl⟩ rfl q
    | layoutSubscribe _ => exact hkeep
    | chat _ => exact hkeep
    | raw _ _ => exact hkeep
  · exact hkeep

theorem handleJoin_change (now : ℕ) (draw : Draw) (depth : ℕ) (connectionId userId p : String)
    (isHost : Bool) (q : String) :
    Change m (.message now draw depth (.connectionJoin connectionId userId p isHost)) q
      (m.participants.lookup q)
      ((m.handleJoin R now draw connectionId userId p isHost).actor.participants.lookup q) := by
  unfold handleJoin
  split_ifs with hs hp
  · exact .keep _ (.inl (by simp [loses]))
  · exact .keep _ (.inl (by simp [loses]))
  · simp only [lookup_insert]
    split_ifs with hq
    · subst hq
      rw [AList.lookup_eq_none.mpr hp]
      exact .join now draw depth connectionId userId _ rfl (by simpa using hs) rfl
    · exact .keep _ (.inl (by simp [loses]))

theorem handleReconnect_change (now : ℕ) (draw : Draw) (depth : ℕ)
    (connectionId c token : String) (q : String) :
    Change m (.message now draw depth (.connectionReconnect connectionId c token)) q
      (m.participants.lookup q)
      ((m.handleReconnect R now draw connectionId c token).actor.participants.lookup q) := by
  have hkeep : Change m (.message now draw depth (.connectionReconnect connectionId c token)) q
      (m.participants.lookup q) (m.participants.lookup q) := .keep _ (.inl (by simp [loses]))
  unfold handleReconnect
  cases m.storedBindings.lookup c with
  | none => exact hkeep
  | some stored =>
    dsimp only
    split_ifs
    · exact hkeep
    · exact hkeep
    · cases m.correlationToParticipant.lookup c with
      | none => exact hkeep
      | some p =>
        dsimp only
        cases hp : m.participants.lookup p with
        | none => exact hkeep
        | some participant =>
          simp only [lookup_insert]
          split_ifs with hq
          · subst hq
            rw [hp]
            exact .reconnect now draw depth connectionId c token participant _ rfl
          · exact hkeep

theorem handleLeave_change (now : ℕ) (draw : Draw) (depth : ℕ) (p q : String) :
    Change m (.message now draw depth (.participantLeave p)) q (m.participants.lookup q)
      ((m.handleLeave p).actor.participants.lookup q) := by
  unfold handleLeave
  cases hp : m.participants.lookup p with
  | none => exact .keep _ (.inl (by simp [loses]))
  | some participant =>
    simp only [lookup_erase]
    split_ifs with hq
    · subst hq
      rw [hp]
      exact .leave now draw depth participant rfl
    · exact .keep _ (.inl (by simp [loses]))

theorem handleHostMute_change (now : ℕ) (draw : Draw) (depth : ℕ) (target mutedBy : String)
    (audioMuted videoMuted : Bool) (q : String) :
    Change m (.message now draw depth (.hostMute target mutedBy audioMuted videoMuted)) q
      (m.participants.lookup q)
      ((m.handleHostMute target mutedBy audioMuted videoMuted).actor.participants.lookup q) := by
  have hkeep : Change m (.message now draw depth (.hostMute target mutedBy audioMuted videoMuted)) q
      (m.participants.lookup q) (m.participants.lookup q) := .keep _ (.inl (by simp [loses]))
  unfold handleHostMute
  dsimp only
  split_ifs with hnot
  · exact hkeep
  · cases hp : m.participants.lookup target with
    | none => exact hkeep
    | some participant =>
      simp only [lookup_insert]
      split_ifs with hq
      · subst hq
        rw [hp]
        refine .hostMute participant audioMuted videoMuted ⟨rfl, rfl, rfl, ?_⟩
        -- the check of `is_host` was passed
        cases hhost : m.participants.lookup mutedBy with
        | none => simp [hhost] at hnot
        | some host => exact ⟨host, rfl, by simpa [hhost] using hnot⟩
      · exact hkeep

/-- What every event does to the entry of `q`. -/
theorem handle_change (e : MeetingEvent) (q : String) :
    Change m e q (m.participants.lookup q) ((m.handle R e).actor.participants.lookup q) := by
  cases e with
  | message now draw depth message =>
    cases message with
    | connectionJoin connectionId userId p isHost => exact handleJoin_change ..
    | connectionDisconnected connectionId p =>
      show Change m _ q _ ((m.handleDisconnect now connectionId p).actor.participants.lookup q)
      rw [handleDisconnect_lookup]
      split_ifs with hq
      · cases hp : m.participants.lookup q with
        | none => exact .keep none (.inr rfl)
        | some participant => exact .lose participant (by simp [loses, hq])
      · exact .keep _ (.inl (by simp [loses, hq]))
    | connectionReconnect connectionId c token => exact handleReconnect_change ..
    | participantLeave p => exact handleLeave_change ..
    | signalingMessage p message => exact handleSignaling_change ..
    | getState => exact .keep _ (.inl (by simp [loses]))
    | updateSelfMute p audioMuted videoMuted =>
      exact handleSelfMute_change
        (.message now draw depth (.updateSelfMute p audioMuted videoMuted))
        p audioMuted videoMuted ⟨rfl, rfl, rfl⟩ rfl q
    | hostMute target mutedBy audioMuted videoMuted => exact handleHostMute_change ..
    | endMeeting reason => exact .keep _ (.inl (by simp [loses]))
  | tick now =>
    show Change m _ q _ ((m.checkDisconnectTimeouts now).actor.participants.lookup q)
    rw [checkDisconnectTimeouts_lookup]
    cases hp : m.participants.lookup q with
    | none => exact .keep none (.inr rfl)
    | some p =>
      cases htimeout : timedOut now p with
      | true =>
        rw [Option.filter_some_neg (by simp [htimeout])]
        exact .timeout now p rfl htimeout
      | false =>
        rw [Option.filter_some_pos (by simp [htimeout])]
        exact .keep _ (.inl (by simp [loses]))
  | health now finished =>
    show Change m _ q _ ((m.checkConnectionHealth now finished).actor.participants.lookup q)
    rw [checkConnectionHealth_lookup]
    split_ifs with hq
    · cases hp : m.participants.lookup q with
      | none => exact .keep none (.inr rfl)
      | some participant => exact .lose participant hq
    · exact .keep _ (.inl hq)
  | shutdown now => exact .keep _ (.inl (by simp [loses]))

/-- An operation that answers with an error keeps the participants as they are. -/
theorem participants_of_isError {e : MeetingEvent} (h : (m.handle R e).result.isError = true) :
    (m.handle R e).actor.participants = m.participants := by
  cases e with
  | message now draw depth message =>
    cases message with
    | connectionJoin connectionId userId p isHost =>
      simp only [handle, handleMessage, handleJoin, Handled.map_actor, Handled.map_result] at h ⊢
      split_ifs at h ⊢
      · rfl
      · rfl
      · simp [Reply.isError] at h
    | connectionDisconnected connectionId p => simp [handle, handleMessage, Reply.isError] at h
    | connectionReconnect connectionId c token =>
      cases hresult : (m.handleReconnect R now draw connectionId c token).result with
      | ok r => simp [handle, handleMessage, hresult, Reply.isError] at h
      | error err =>
        obtain hsame | ⟨stored, _, _, hdropped⟩ :=
          handleReconnect_error now draw connectionId c token hresult
        · exact congrArg participants hsame
        · show (m.handleReconnect R now draw connectionId c token).actor.participants = _
          rw [hdropped]
    | participantLeave p =>
      simp only [handle, handleMessage, handleLeave, Handled.map_actor, Handled.map_result] at h ⊢
      split at h
      · rfl
      · simp [Reply.isError] at h
    | signalingMessage p message => simp [handle, handleMessage, Reply.isError] at h
    | getState => simp [handle, handleMessage, Reply.isError] at h
    | updateSelfMute p audioMuted videoMuted => simp [handle, handleMessage, Reply.isError] at h
    | hostMute target mutedBy audioMuted videoMuted =>
      simp only [handle, handleMessage, handleHostMute, Handled.map_actor, Handled.map_result]
        at h ⊢
      split_ifs at h ⊢
      · rfl
      · split at h
        · rfl
        · simp [Reply.isError] at h
    | endMeeting reason => rfl
  | tick now => simp [handle, Reply.isError] at h
  | health now finished => simp [handle, Reply.isError] at h
  | shutdown now => rfl

end MeetingActor

/-! ## The loop -/

/-- The meeting actor from its spawn on, with a clock that does not go back and
    nothing handled after the loop has ended. -/
def meetingLoop (R : Ring) (meetingId : String) (bindingManager : SessionBindingManager)
    (createdAt : ℤ) : Machine MeetingActor MeetingEvent (MeetingActor.Reply × List Effect) where
  init := MeetingActor.spawn meetingId bindingManager createdAt
  step m e := ((m.handle R e).actor, (m.handle R e).result, (m.handle R e).effects)
  allowed h _ e := ∀ x ∈ h, x.1.now ≤ e.now ∧ x.1.isShutdown = false

instance (R : Ring) (meetingId : String) (bindingManager : SessionBindingManager) (createdAt : ℤ)
    (h : MeetingHistory) (m : MeetingActor) (e : MeetingEvent) :
    Decidable ((meetingLoop R meetingId bindingManager createdAt).allowed h m e) :=
  inferInstanceAs (Decidable (∀ x ∈ h, x.1.now ≤ e.now ∧ x.1.isShutdown = false))

/-- The loop of the concrete runs. -/
abbrev sampleLoop : Machine MeetingActor MeetingEvent (MeetingActor.Reply × List Effect) :=
  meetingLoop Ring.sample "meeting-1" SessionBindingManager.sample 0

end DarkTower.Mc
