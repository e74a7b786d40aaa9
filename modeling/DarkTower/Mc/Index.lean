import DarkTower.Mc.Meeting
import DarkTower.Mc.Registry

/-!
# The meeting actor keeps a register of sessions

`MeetingActor.registry` reads the three maps `participants`,
`correlation_to_participant` and `stored_bindings` as a `Registry`, and
`handle_registry` says once what every event of the loop does to it: nothing,
or one of the operations of the register.
-/

namespace DarkTower.Mc

open DarkTower.Lib

/-! ## Maps as functions -/

section Lookup

variable {V : Type} (s : StringMap V) (a : String) (v : V)

theorem lookup_insert_eq_update :
    (fun c => (s.insert a v).lookup c) = Function.update (fun c => s.lookup c) a (some v) := by
  funext c
  by_cases hc : c = a
  · subst hc; simp
  · rw [Function.update_of_ne hc, AList.lookup_insert_ne hc]

theorem lookup_erase_eq_update :
    (fun c => (s.erase a).lookup c) = Function.update (fun c => s.lookup c) a none := by
  funext c
  by_cases hc : c = a
  · subst hc; simp
  · rw [Function.update_of_ne hc, AList.lookup_erase_ne hc]

end Lookup

namespace MeetingActor

/-- The register the three index maps of the actor implement. -/
def registry (m : MeetingActor) : Registry String String StoredBinding where
  key p := (m.participants.lookup p).map (·.correlationId)
  owner c := m.correlationToParticipant.lookup c
  binding c := m.storedBindings.lookup c

variable {m : MeetingActor} {R : Ring}

theorem key_of_lookup {p : String} {participant : Participant}
    (h : m.participants.lookup p = some participant) :
    m.registry.key p = some participant.correlationId := by
  simp [registry, h]

theorem key_eq_none_iff {p : String} : m.registry.key p = none ↔ p ∉ m.participants := by
  simp [registry, AList.lookup_eq_none]

/-- Writing back a participant writes its correlation id to the register. -/
theorem key_insert (s : StringMap Participant) (p : String) (participant : Participant) :
    (fun q => ((s.insert p participant).lookup q).map (·.correlationId)) =
      Function.update (fun q => (s.lookup q).map (·.correlationId)) p
        (some participant.correlationId) := by
  funext q
  by_cases hq : q = p
  · subst hq; simp
  · rw [Function.update_of_ne hq, AList.lookup_insert_ne hq]

theorem key_erase (s : StringMap Participant) (p : String) :
    (fun q => ((s.erase p).lookup q).map (·.correlationId)) =
      Function.update (fun q => (s.lookup q).map (·.correlationId)) p none := by
  funext q
  by_cases hq : q = p
  · subst hq; simp
  · rw [Function.update_of_ne hq, AList.lookup_erase_ne hq]

/-- Updating a participant in place without touching its correlation id leaves
    the register as it was. -/
theorem key_insert_self {p : String} {old new : Participant}
    (h : m.participants.lookup p = some old) (hc : new.correlationId = old.correlationId) :
    (fun q => ((m.participants.insert p new).lookup q).map (·.correlationId)) =
      m.registry.key := by
  rw [key_insert, hc, ← key_of_lookup h]
  exact Function.update_eq_self p m.registry.key

/-! ## One lemma per handler -/

theorem handleDisconnect_registry (now : ℕ) (connectionId participantId : String) :
    (m.handleDisconnect now connectionId participantId).actor.registry = m.registry := by
  unfold handleDisconnect
  cases h : m.participants.lookup participantId with
  | none => rfl
  | some participant =>
    simp only [registry, Registry.mk.injEq, and_true]
    exact key_insert_self h rfl

theorem handleSelfMute_registry (participantId : String) (audioMuted videoMuted : Bool) :
    (m.handleSelfMute participantId audioMuted videoMuted).actor.registry = m.registry := by
  unfold handleSelfMute
  cases h : m.participants.lookup participantId with
  | none => rfl
  | some participant =>
    simp only [registry, Registry.mk.injEq, and_true]
    exact key_insert_self h rfl

theorem handleSignaling_registry (participantId : String) (message : SignalingPayload) :
    (m.handleSignaling participantId message).actor.registry = m.registry := by
  unfold handleSignaling
  split_ifs
  · cases message with
    | muteUpdate audioMuted videoMuted => exact handleSelfMute_registry ..
    | layoutSubscribe _ => rfl
    | chat _ => rfl
    | raw _ _ => rfl
  · rfl

theorem handleHostMute_registry (targetParticipantId mutedBy : String)
    (audioMuted videoMuted : Bool) :
    (m.handleHostMute targetParticipantId mutedBy audioMuted videoMuted).actor.registry =
      m.registry := by
  unfold handleHostMute
  dsimp only
  split_ifs
  · rfl
  · cases h : m.participants.lookup targetParticipantId with
    | none => rfl
    | some participant =>
      simp only [registry, Registry.mk.injEq, and_true]
      exact key_insert_self h rfl

theorem reapConnection_registry (now : ℕ) (h : Handled Unit) (task : String × Bool) :
    (reapConnection now h task).actor.registry = h.actor.registry := by
  unfold reapConnection
  cases h.actor.connections.lookup task.1 with
  | none => rfl
  | some managed => exact handleDisconnect_registry ..

theorem checkConnectionHealth_registry (now : ℕ) (finished : List (String × Bool)) :
    (m.checkConnectionHealth now finished).actor.registry = m.registry := by
  suffices h : ∀ h₀ : Handled Unit,
      (finished.foldl (reapConnection now) h₀).actor.registry = h₀.actor.registry from h _
  induction finished with
  | nil => intro h₀; rfl
  | cons task finished ih =>
    intro h₀
    rw [List.foldl_cons, ih, reapConnection_registry]

theorem removeTimedOut_registry (h : Handled Unit) (participantId : String) :
    (removeTimedOut h participantId).actor.registry = h.actor.registry.vacate participantId := by
  unfold removeTimedOut Registry.vacate
  cases hp : h.actor.participants.lookup participantId with
  | none => simp [registry, hp]
  | some participant =>
    rw [key_of_lookup hp]
    simp only [registry, lookup_erase_eq_update, key_erase]

theorem mem_timedOutIds {now : ℕ} {p : String} :
    p ∈ m.timedOutIds now ↔
      ∃ participant, m.participants.lookup p = some participant ∧ timedOut now participant := by
  simp only [timedOutIds, List.mem_map, List.mem_filter, Sigma.exists, exists_and_right,
    exists_eq_right, ← AList.mem_lookup_iff, Option.mem_def]

theorem checkDisconnectTimeouts_registry (now : ℕ) :
    (m.checkDisconnectTimeouts now).actor.registry =
      m.registry.vacateAll (m.timedOutIds now) := by
  suffices h : ∀ (ps : List String) (h₀ : Handled Unit),
      (ps.foldl removeTimedOut h₀).actor.registry = h₀.actor.registry.vacateAll ps from h _ _
  intro ps
  induction ps with
  | nil => intro h₀; rfl
  | cons p ps ih =>
    intro h₀
    rw [List.foldl_cons, ih, removeTimedOut_registry]
    rfl

theorem handleLeave_registry {participantId : String} {participant : Participant}
    (h : m.participants.lookup participantId = some participant) :
    (m.handleLeave participantId).actor.registry =
      (m.registry.vacate participantId).drop participant.correlationId := by
  unfold handleLeave Registry.vacate
  rw [h, key_of_lookup h]
  simp only [registry, Registry.drop, lookup_erase_eq_update, key_erase]

/-! ## What an event does to the register -/

/-- The cases of `handle_registry`. -/
inductive RegistryCase (R : Ring) (m : MeetingActor) (e : MeetingEvent) : Prop
  /-- The register is untouched, by an event other than a tick, and no binding is
      handed out. -/
  | keep (htick : ∀ now, e ≠ .tick now)
      (hreg : (m.handle R e).actor.registry = m.registry)
      (hissue : issueOf (e, (m.handle R e).result, (m.handle R e).effects) = none)
  /-- A successful join. -/
  | join (now : ℕ) (draw : Draw) (depth : ℕ) (connectionId userId p : String) (isHost : Bool)
      (he : e = .message now draw depth (.connectionJoin connectionId userId p isHost))
      (hp : m.registry.key p = none)
      (hreg : (m.handle R e).actor.registry =
        m.registry.issue p draw.correlationId (m.issueBinding R draw p userId now))
      (hissue : issueOf (e, (m.handle R e).result, (m.handle R e).effects) =
        some ⟨p, draw.correlationId, (m.issueBinding R draw p userId now).bindingToken, now⟩)
  /-- A successful reconnect. -/
  | reconnect (now : ℕ) (draw : Draw) (depth : ℕ) (connectionId c token : String)
      (stored : StoredBinding) (p : String) (participant : Participant)
      (he : e = .message now draw depth (.connectionReconnect connectionId c token))
      (hstored : m.storedBindings.lookup c = some stored)
      (hlive : stored.isExpired now = false)
      (hvalid : m.bindingManager.validateToken R m.meetingId c stored.participantId stored.nonce
        token = true)
      (howner : m.correlationToParticipant.lookup c = some p)
      (hp : m.participants.lookup p = some participant)
      (hreg : (m.handle R e).actor.registry =
        m.registry.rotate p c draw.correlationId
          (m.issueBinding R draw p participant.userId now))
      (hresult : ∃ r, (m.handle R e).result = .reconnect (.ok r) ∧ r.participantId = p)
      (hissue : issueOf (e, (m.handle R e).result, (m.handle R e).effects) =
        some ⟨p, draw.correlationId,
          (m.issueBinding R draw p participant.userId now).bindingToken, now⟩)
  /-- A reconnect that finds its binding expired. -/
  | expired (now : ℕ) (draw : Draw) (depth : ℕ) (connectionId c token : String)
      (stored : StoredBinding)
      (he : e = .message now draw depth (.connectionReconnect connectionId c token))
      (hstored : m.storedBindings.lookup c = some stored)
      (hexpired : stored.isExpired now = true)
      (hreg : (m.handle R e).actor.registry = m.registry.drop c)
      (hissue : issueOf (e, (m.handle R e).result, (m.handle R e).effects) = none)
  /-- An explicit leave. -/
  | leave (now : ℕ) (draw : Draw) (depth : ℕ) (p : String) (participant : Participant)
      (he : e = .message now draw depth (.participantLeave p))
      (hp : m.participants.lookup p = some participant)
      (hreg : (m.handle R e).actor.registry =
        (m.registry.vacate p).drop participant.correlationId)
      (hissue : issueOf (e, (m.handle R e).result, (m.handle R e).effects) = none)
  /-- A tick of the grace-period timer. -/
  | tick (now : ℕ) (he : e = .tick now)
      (hreg : (m.handle R e).actor.registry = m.registry.vacateAll (m.timedOutIds now))
      (hissue : issueOf (e, (m.handle R e).result, (m.handle R e).effects) = none)

theorem handleJoin_cases (now : ℕ) (draw : Draw) (depth : ℕ)
    (connectionId userId p : String) (isHost : Bool) :
    RegistryCase R m (.message now draw depth (.connectionJoin connectionId userId p isHost)) := by
  by_cases hs : m.isShuttingDown = true
  · refine .keep nofun ?_ ?_ <;> simp [handle, handleMessage, handleJoin, hs, issueOf]
  by_cases hp : p ∈ m.participants
  · refine .keep nofun ?_ ?_ <;> simp [handle, handleMessage, handleJoin, hs, hp, issueOf]
  refine .join now draw depth connectionId userId p isHost rfl (key_eq_none_iff.mpr hp) ?_ ?_
  · simp [handle, handleMessage, handleJoin, hs, hp, registry, Registry.issue,
      lookup_insert_eq_update, key_insert]
  · simp [handle, handleMessage, handleJoin, hs, hp, issueOf, MeetingEvent.now]

theorem handleReconnect_cases (now : ℕ) (draw : Draw) (depth : ℕ)
    (connectionId c token : String) :
    RegistryCase R m (.message now draw depth (.connectionReconnect connectionId c token)) := by
  cases hstored : m.storedBindings.lookup c with
  | none => refine .keep nofun ?_ ?_ <;> simp [handle, handleMessage, handleReconnect, hstored, issueOf]
  | some stored =>
    by_cases hexp : stored.isExpired now = true
    · refine .expired now draw depth connectionId c token stored rfl hstored hexp ?_ ?_
      · simp [handle, handleMessage, handleReconnect, hstored, hexp, registry, Registry.drop,
          lookup_erase_eq_update]
      · simp [handle, handleMessage, handleReconnect, hstored, hexp, issueOf]
    by_cases hvalid : m.bindingManager.validateToken R m.meetingId c stored.participantId
        stored.nonce token = true
    · cases howner : m.correlationToParticipant.lookup c with
      | none =>
        refine .keep nofun ?_ ?_ <;>
          simp [handle, handleMessage, handleReconnect, hstored, hexp, hvalid, howner, issueOf]
      | some p =>
        cases hp : m.participants.lookup p with
        | none =>
          refine .keep nofun ?_ ?_ <;>
            simp [handle, handleMessage, handleReconnect, hstored, hexp, hvalid, howner, hp,
              issueOf]
        | some participant =>
          refine .reconnect now draw depth connectionId c token stored p participant rfl hstored
            (by simpa using hexp) hvalid howner hp ?_ ?_ ?_
          · simp [handle, handleMessage, handleReconnect, hstored, hexp, hvalid, howner, hp,
              registry, Registry.rotate, lookup_insert_eq_update, lookup_erase_eq_update,
              key_insert]
          · simp [handle, handleMessage, handleReconnect, hstored, hexp, hvalid, howner, hp]
          · simp [handle, handleMessage, handleReconnect, hstored, hexp, hvalid, howner, hp,
              issueOf, MeetingEvent.now]
    · refine .keep nofun ?_ ?_ <;>
        simp [handle, handleMessage, handleReconnect, hstored, hexp, hvalid, issueOf]

theorem handleLeave_cases (now : ℕ) (draw : Draw) (depth : ℕ) (p : String) :
    RegistryCase R m (.message now draw depth (.participantLeave p)) := by
  cases hp : m.participants.lookup p with
  | none => refine .keep nofun ?_ ?_ <;> simp [handle, handleMessage, handleLeave, hp, issueOf]
  | some participant =>
    refine .leave now draw depth p participant rfl hp ?_ ?_
    · exact handleLeave_registry hp
    · simp [handle, handleMessage, issueOf]

/-- Every event leaves the register alone or performs one of its operations. -/
theorem handle_registry (e : MeetingEvent) : RegistryCase R m e := by
  cases e with
  | message now draw depth message =>
    cases message with
    | connectionJoin connectionId userId p isHost => exact handleJoin_cases ..
    | connectionDisconnected connectionId p =>
      exact .keep nofun (handleDisconnect_registry ..) (by simp [handle, handleMessage, issueOf])
    | connectionReconnect connectionId c token => exact handleReconnect_cases ..
    | participantLeave p => exact handleLeave_cases ..
    | signalingMessage p message =>
      exact .keep nofun (handleSignaling_registry ..) (by simp [handle, handleMessage, issueOf])
    | getState => exact .keep nofun rfl (by simp [handle, handleMessage, issueOf])
    | updateSelfMute p audioMuted videoMuted =>
      exact .keep nofun (handleSelfMute_registry ..) (by simp [handle, handleMessage, issueOf])
    | hostMute target mutedBy audioMuted videoMuted =>
      exact .keep nofun (handleHostMute_registry ..) (by simp [handle, handleMessage, issueOf])
    | endMeeting reason => exact .keep nofun rfl (by simp [handle, handleMessage, issueOf])
  | tick now =>
    exact .tick now rfl (checkDisconnectTimeouts_registry now) (by simp [handle, issueOf])
  | health now finished =>
    exact .keep nofun (checkConnectionHealth_registry ..) (by simp [handle, issueOf])
  | shutdown now => exact .keep nofun rfl (by simp [handle, issueOf])

end MeetingActor

end DarkTower.Mc
