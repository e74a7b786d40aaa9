import DarkTower.Mc.IndexAgreement

/-!
# The meeting actor and the actors of its connections

A `ParticipantActor` serves one connection. When its loop ends it sends
`ConnectionDisconnected` with its connection and participant id to the meeting
(`mc-service/src/actors/participant.rs:246`); a task that panics sends nothing.
`meetingSystem` puts the meeting actor together with the participant actors it
spawned and the notifications that are still on their way, in any order.

* `run_meeting`: the meeting actor of the system runs as `meetingMachine`.
* `newestConnected_along_iff`: all along a run every present participant whose
  newest connection is alive is recorded as connected through it, iff no
  disconnect is handled for a present participant whose newest connection is
  alive. `handle_disconnect` is given a connection id and does not compare it
  with the one on record, so a late notification of an old connection takes
  down the new one (`lateExit_disconnects`).
-/

namespace DarkTower.Mc

open DarkTower.Common DarkTower.Lib

variable {R : Ring} {meetingId : String} {mgr : SessionBindingManager} {createdAt : ℤ}

/-! ## What an event does to connections -/

/-- The actor an effect starts. -/
def Effect.spawned? : Effect → Option ParticipantActorHandle
  | .spawn connectionId participantId => some ⟨connectionId, participantId⟩
  | _ => none

/-- The participant actors started by a handler. -/
def spawns (effects : List Effect) : List ParticipantActorHandle := effects.filterMap (·.spawned?)

@[simp] theorem spawns_nil : spawns [] = [] := rfl

@[simp] theorem spawns_append (xs ys : List Effect) :
    spawns (xs ++ ys) = spawns xs ++ spawns ys := by
  simp [spawns]

@[simp] theorem spawns_cons (x : Effect) (xs : List Effect) :
    spawns (x :: xs) = x.spawned?.toList ++ spawns xs := by
  cases h : x.spawned? <;> simp [spawns, h]

theorem spawns_eq_nil {effects : List Effect} (h : ∀ x ∈ effects, x.spawned? = none) :
    spawns effects = [] :=
  List.filterMap_eq_nil_iff.mpr h

namespace MeetingActor

@[simp] theorem spawns_broadcastUpdate (m : MeetingActor) (p : String)
    (update : ParticipantStateUpdate) : spawns (m.broadcastUpdate p update) = [] :=
  m.filterMap_broadcastUpdate (fun _ _ => rfl) p update

/-- The status of a participant and the connection it is recorded with. -/
def links (m : MeetingActor) (p : String) :
    Option (ParticipantStatus × Option ParticipantActorHandle) :=
  (m.participants.lookup p).map fun participant => (participant.status, participant.connection)

/-- The participants that an event marks as disconnected. -/
def loses (m : MeetingActor) : MeetingEvent → List String
  | .message _ _ _ (.connectionDisconnected _ participantId) => [participantId]
  | .health _ finished =>
    finished.filterMap fun task => (m.connections.lookup task.1).map (·.participantId)
  | _ => []

variable {m : MeetingActor}

theorem links_insert (participants : StringMap Participant) (p : String)
    (participant : Participant) (q : String) :
    links { m with participants := participants.insert p participant } q =
      if q = p then some (participant.status, participant.connection)
      else links { m with participants := participants } q := by
  by_cases hq : q = p
  · subst hq; simp [links]
  · simp [links, hq, AList.lookup_insert_ne hq]

theorem links_erase {participants : StringMap Participant} {p q : String}
    {l : ParticipantStatus × Option ParticipantActorHandle}
    (h : links { m with participants := participants.erase p } q = some l) :
    links { m with participants := participants } q = some l := by
  by_cases hq : q = p
  · subst hq; simp [links] at h
  · simpa [links, AList.lookup_erase_ne hq] using h

/-- What an event can do to the connections on record: take away participants,
    record a new connection, or mark participants as disconnected. -/
inductive LinkCase (R : Ring) (m : MeetingActor) (e : MeetingEvent) : Prop
  | keep (hspawns : spawns (m.handle R e).effects = []) (hloses : m.loses e = [])
      (hlinks : ∀ q l, (m.handle R e).actor.links q = some l → m.links q = some l)
  | attach (connectionId p : String)
      (hspawns : spawns (m.handle R e).effects = [⟨connectionId, p⟩]) (hloses : m.loses e = [])
      (hlinks : ∀ q, (m.handle R e).actor.links q =
        if q = p then some (.connected, some ⟨connectionId, p⟩) else m.links q)
  | lose (hspawns : spawns (m.handle R e).effects = [])
      (hlinks : ∀ q, (m.handle R e).actor.links q =
        if q ∈ m.loses e then (m.links q).map fun _ => (.disconnected, none) else m.links q)

/-! ### One lemma per handler -/

theorem handleDisconnect_links (now : ℕ) (connectionId p q : String) :
    (m.handleDisconnect now connectionId p).actor.links q =
      if q = p then (m.links q).map fun _ => (.disconnected, none) else m.links q := by
  unfold handleDisconnect
  cases hp : m.participants.lookup p with
  | none =>
    dsimp only
    split_ifs with hq
    · subst hq; simp [links, hp]
    · rfl
  | some participant =>
    dsimp only
    split_ifs with hq
    · subst hq; simp [links, hp]
    · simp [links, AList.lookup_insert_ne hq]

theorem handleDisconnect_spawns (now : ℕ) (connectionId p : String) :
    spawns (m.handleDisconnect now connectionId p).effects = [] := by
  unfold handleDisconnect
  cases m.participants.lookup p with
  | none => dsimp only; split_ifs <;> rfl
  | some participant => dsimp only; split_ifs <;> simp [Effect.spawned?]

theorem handleSelfMute_links (p : String) (audioMuted videoMuted : Bool) (q : String) :
    (m.handleSelfMute p audioMuted videoMuted).actor.links q = m.links q := by
  unfold handleSelfMute
  cases hp : m.participants.lookup p with
  | none => rfl
  | some participant =>
    by_cases hq : q = p
    · subst hq; simp [links, hp]
    · simp [links, AList.lookup_insert_ne hq]

theorem handleSelfMute_spawns (p : String) (audioMuted videoMuted : Bool) :
    spawns (m.handleSelfMute p audioMuted videoMuted).effects = [] := by
  unfold handleSelfMute
  cases m.participants.lookup p <;> simp

theorem handleSignaling_links (p : String) (message : SignalingPayload) (q : String) :
    (m.handleSignaling p message).actor.links q = m.links q ∧
      spawns (m.handleSignaling p message).effects = [] := by
  unfold handleSignaling
  split_ifs
  · cases message with
    | muteUpdate audioMuted videoMuted =>
      exact ⟨m.handleSelfMute_links .., m.handleSelfMute_spawns ..⟩
    | layoutSubscribe _ => exact ⟨rfl, rfl⟩
    | chat _ => exact ⟨rfl, rfl⟩
    | raw _ _ => exact ⟨rfl, rfl⟩
  · exact ⟨rfl, rfl⟩

theorem handleHostMute_links (target mutedBy : String) (audioMuted videoMuted : Bool)
    (q : String) :
    (m.handleHostMute target mutedBy audioMuted videoMuted).actor.links q = m.links q ∧
      spawns (m.handleHostMute target mutedBy audioMuted videoMuted).effects = [] := by
  unfold handleHostMute
  dsimp only
  split_ifs
  · exact ⟨rfl, rfl⟩
  · cases hp : m.participants.lookup target with
    | none => exact ⟨rfl, rfl⟩
    | some participant =>
      refine ⟨?_, by simp⟩
      by_cases hq : q = target
      · subst hq; simp [links, hp]
      · simp [links, AList.lookup_insert_ne hq]

theorem checkDisconnectTimeouts_links (now : ℕ) :
    spawns (m.checkDisconnectTimeouts now).effects = [] ∧
      ∀ q l, (m.checkDisconnectTimeouts now).actor.links q = some l → m.links q = some l := by
  suffices h : ∀ (ps : List String) (h₀ : Handled Unit), spawns h₀.effects = [] →
      spawns (ps.foldl removeTimedOut h₀).effects = [] ∧
        ∀ q l, (ps.foldl removeTimedOut h₀).actor.links q = some l →
          h₀.actor.links q = some l from h _ _ rfl
  intro ps
  induction ps with
  | nil => exact fun h₀ hspawns => ⟨hspawns, fun q l hq => hq⟩
  | cons p ps ih =>
    intro h₀ hspawns
    rw [List.foldl_cons]
    cases hp : h₀.actor.participants.lookup p with
    | none =>
      rw [removeTimedOut, hp]
      exact ih h₀ hspawns
    | some participant =>
      obtain ⟨hs, hl⟩ := ih (removeTimedOut h₀ p) (by
        simp [removeTimedOut, hp, hspawns, Effect.spawned?])
      refine ⟨hs, fun q l hq => ?_⟩
      have hq := hl q l hq
      simp only [removeTimedOut, hp] at hq
      exact links_erase hq

theorem mem_loses_health {now : ℕ} {finished : List (String × Bool)} {q : String} :
    q ∈ m.loses (.health now finished) ↔ ∃ task ∈ finished, ∃ managed,
      m.connections.lookup task.1 = some managed ∧ managed.participantId = q := by
  simp [loses, List.mem_filterMap]

theorem handleDisconnect_connections (now : ℕ) (connectionId p : String) :
    (m.handleDisconnect now connectionId p).actor.connections =
      m.connections.erase connectionId := by
  unfold handleDisconnect
  cases m.participants.lookup p <;> rfl

/-- After a round of the loop over the finished tasks, the tasks still ahead
    mark, together with that round, the same participants as before. -/
theorem mem_loses_reapConnection {now : ℕ} {h₀ : Handled Unit} {task : String × Bool}
    {managed : ManagedConnection} (hc : h₀.actor.connections.lookup task.1 = some managed)
    (finished : List (String × Bool)) (q : String) :
    q ∈ h₀.actor.loses (.health now (task :: finished)) ↔
      q = managed.participantId ∨
        q ∈ (reapConnection now h₀ task).actor.loses (.health now finished) := by
  have hconn : ∀ c, (reapConnection now h₀ task).actor.connections.lookup c =
      if c = task.1 then none else h₀.actor.connections.lookup c := by
    intro c
    simp only [reapConnection, hc, handleDisconnect_connections]
    split_ifs with h
    · subst h; simp
    · rw [AList.lookup_erase_ne h, AList.lookup_erase_ne h]
  simp only [mem_loses_health, List.mem_cons, hconn]
  constructor
  · rintro ⟨t, ht, managed', hmanaged, hq⟩
    by_cases htask : t.1 = task.1
    · rw [htask, hc, Option.some.injEq] at hmanaged
      exact Or.inl (by rw [hmanaged, hq])
    · rcases ht with rfl | ht
      · exact absurd rfl htask
      · exact Or.inr ⟨t, ht, managed', by rwa [if_neg htask], hq⟩
  · rintro (rfl | ⟨t, ht, managed', hmanaged, hq⟩)
    · exact ⟨task, Or.inl rfl, managed, hc, rfl⟩
    · split_ifs at hmanaged
      exact ⟨t, Or.inr ht, managed', hmanaged, hq⟩

/-- A health check marks the participants of the connections it reaps. -/
theorem checkConnectionHealth_links (now : ℕ) (finished : List (String × Bool)) :
    spawns (m.checkConnectionHealth now finished).effects = [] ∧
      ∀ q, (m.checkConnectionHealth now finished).actor.links q =
        if q ∈ m.loses (.health now finished) then (m.links q).map fun _ => (.disconnected, none)
        else m.links q := by
  suffices h : ∀ h₀ : Handled Unit, spawns h₀.effects = [] →
      spawns (finished.foldl (reapConnection now) h₀).effects = [] ∧
        ∀ q, (finished.foldl (reapConnection now) h₀).actor.links q =
          if q ∈ h₀.actor.loses (.health now finished) then
            (h₀.actor.links q).map fun _ => (.disconnected, none)
          else h₀.actor.links q from h _ rfl
  induction finished with
  | nil => exact fun h₀ hspawns => ⟨hspawns, fun q => by simp [loses]⟩
  | cons task finished ih =>
    intro h₀ hspawns
    rw [List.foldl_cons]
    cases hc : h₀.actor.connections.lookup task.1 with
    | none =>
      have hskip : reapConnection now h₀ task = h₀ := by rw [reapConnection, hc]
      obtain ⟨hs, hl⟩ := ih h₀ hspawns
      rw [hskip]
      have hsame : ∀ q, q ∈ h₀.actor.loses (.health now (task :: finished)) ↔
          q ∈ h₀.actor.loses (.health now finished) := by
        simp [mem_loses_health, hc]
      refine ⟨hs, fun q => ?_⟩
      rw [hl q]
      simp only [hsame]
    | some managed =>
      have hreap : spawns (reapConnection now h₀ task).effects = [] := by
        simp only [reapConnection, hc, spawns_append, hspawns, handleDisconnect_spawns]
        cases task.2 <;> rfl
      have hlinks : ∀ q, (reapConnection now h₀ task).actor.links q =
          if q = managed.participantId then
            (h₀.actor.links q).map fun _ => (.disconnected, none)
          else h₀.actor.links q := by
        intro q
        simp only [reapConnection, hc]
        exact handleDisconnect_links ..
      obtain ⟨hs, hl⟩ := ih _ hreap
      refine ⟨hs, fun q => ?_⟩
      rw [hl q, hlinks q]
      simp only [mem_loses_reapConnection hc]
      by_cases hq : q = managed.participantId
      · simp only [hq, true_or, if_true, Option.map_map, Function.comp_def, ite_self]
      · simp only [hq, false_or, if_false]

theorem handleJoin_linkCase (now : ℕ) (draw : Draw) (depth : ℕ)
    (connectionId userId p : String) (isHost : Bool) :
    LinkCase R m (.message now draw depth (.connectionJoin connectionId userId p isHost)) := by
  by_cases hs : m.isShuttingDown = true
  · refine .keep ?_ rfl ?_ <;> simp [handle, handleMessage, handleJoin, hs]
  by_cases hp : p ∈ m.participants
  · refine .keep ?_ rfl ?_ <;> simp [handle, handleMessage, handleJoin, hs, hp]
  refine .attach connectionId p ?_ rfl fun q => ?_
  · simp [handle, handleMessage, handleJoin, hs, hp, Effect.spawned?]
  · simp only [handle, handleMessage, handleJoin, hs, hp, Handled.map_actor, if_false]
    exact links_insert ..

theorem handleReconnect_linkCase (now : ℕ) (draw : Draw) (depth : ℕ)
    (connectionId c token : String) :
    LinkCase R m (.message now draw depth (.connectionReconnect connectionId c token)) := by
  cases hstored : m.storedBindings.lookup c with
  | none => refine .keep ?_ rfl ?_ <;> simp [handle, handleMessage, handleReconnect, hstored]
  | some stored =>
    by_cases hexp : stored.isExpired now = true
    · refine .keep ?_ rfl ?_ <;> simp [handle, handleMessage, handleReconnect, hstored, hexp, links]
    by_cases hvalid : m.bindingManager.validateToken R m.meetingId c stored.participantId
        stored.nonce token = true
    · cases howner : m.correlationToParticipant.lookup c with
      | none =>
        refine .keep ?_ rfl ?_ <;>
          simp [handle, handleMessage, handleReconnect, hstored, hexp, hvalid, howner]
      | some p =>
        cases hp : m.participants.lookup p with
        | none =>
          refine .keep ?_ rfl ?_ <;>
            simp [handle, handleMessage, handleReconnect, hstored, hexp, hvalid, howner, hp]
        | some participant =>
          refine .attach connectionId p ?_ rfl fun q => ?_
          · simp [handle, handleMessage, handleReconnect, hstored, hexp, hvalid, howner, hp,
              Effect.spawned?]
          · simp only [handle, handleMessage, handleReconnect, hstored, hexp, hvalid, howner, hp,
              Handled.map_actor, Bool.not_true, Bool.false_eq_true, if_false]
            exact links_insert ..
    · refine .keep ?_ rfl ?_ <;>
        simp [handle, handleMessage, handleReconnect, hstored, hexp, hvalid]

theorem handleLeave_linkCase (now : ℕ) (draw : Draw) (depth : ℕ) (p : String) :
    LinkCase R m (.message now draw depth (.participantLeave p)) := by
  cases hp : m.participants.lookup p with
  | none => refine .keep ?_ rfl ?_ <;> simp [handle, handleMessage, handleLeave, hp]
  | some participant =>
    refine .keep ?_ rfl fun q l hq => ?_
    · simp only [handle, handleMessage, handleLeave, hp, Handled.map_effects, spawns_append,
        spawns_broadcastUpdate, List.append_nil]
      cases participant.connection <;> rfl
    · simp only [handle, handleMessage, handleLeave, hp, Handled.map_actor] at hq
      exact links_erase hq

theorem handleEndMeeting_spawns : spawns m.handleEndMeeting.effects = [] := by
  refine spawns_eq_nil fun x hx => ?_
  rcases List.mem_append.mp hx with hx | hx
  · obtain ⟨p, _, hx⟩ := List.mem_flatMap.mp hx
    exact List.filterMap_eq_nil_iff.mp (m.spawns_broadcastUpdate p _) x hx
  · obtain ⟨managed, _, rfl⟩ := List.mem_map.mp hx
    rfl

theorem gracefulShutdown_spawns : spawns m.gracefulShutdown.effects = [] := by
  refine spawns_eq_nil fun x hx => ?_
  obtain ⟨managed, _, rfl⟩ := List.mem_map.mp hx
  rfl

/-- Every event does one of the three things to the connections on record. -/
theorem handle_linkCase (e : MeetingEvent) : LinkCase R m e := by
  cases e with
  | message now draw depth message =>
    cases message with
    | connectionJoin connectionId userId p isHost => exact handleJoin_linkCase ..
    | connectionDisconnected connectionId p =>
      refine .lose (handleDisconnect_spawns ..) fun q => ?_
      simp only [loses, List.mem_singleton]
      exact handleDisconnect_links ..
    | connectionReconnect connectionId c token => exact handleReconnect_linkCase ..
    | participantLeave p => exact handleLeave_linkCase ..
    | signalingMessage p message =>
      exact .keep (handleSignaling_links p message p).2 rfl fun q l hq =>
        (handleSignaling_links p message q).1 ▸ hq
    | getState => exact .keep rfl rfl fun q l hq => hq
    | updateSelfMute p audioMuted videoMuted =>
      exact .keep (handleSelfMute_spawns ..) rfl fun q l hq =>
        handleSelfMute_links p audioMuted videoMuted q ▸ hq
    | hostMute target mutedBy audioMuted videoMuted =>
      exact .keep (handleHostMute_links target mutedBy audioMuted videoMuted target).2 rfl
        fun q l hq => (handleHostMute_links target mutedBy audioMuted videoMuted q).1 ▸ hq
    | endMeeting reason => exact .keep handleEndMeeting_spawns rfl fun q l hq => hq
  | tick now =>
    exact .keep (checkDisconnectTimeouts_links now).1 rfl (checkDisconnectTimeouts_links now).2
  | health now finished =>
    exact .lose (checkConnectionHealth_links now finished).1
      (checkConnectionHealth_links now finished).2
  | shutdown now => exact .keep gracefulShutdown_spawns rfl fun q l hq => hq

end MeetingActor

/-! ## The system -/

/-- The meeting actor, the participant actors it started (newest first), the
    connections whose actor has ended, and the notifications on their way. -/
structure MeetingSystem where
  actor : MeetingActor
  spawned : List ParticipantActorHandle
  exited : List String
  inFlight : List ParticipantActorHandle

/-- One step of the system. -/
inductive SystemEvent
  /-- A turn of the loop of the meeting actor. -/
  | meeting (e : MeetingEvent)
  /-- The loop of a participant actor ends and the actor sends its notification. -/
  | exit (handle : ParticipantActorHandle)
  /-- The task of a participant actor panics. -/
  | panic (handle : ParticipantActorHandle)
deriving DecidableEq

namespace MeetingSystem

/-- The notification a turn of the loop takes from the mailbox. -/
def received : MeetingEvent → List ParticipantActorHandle
  | .message _ _ _ (.connectionDisconnected connectionId participantId) =>
    [⟨connectionId, participantId⟩]
  | _ => []

/-- The ids of the connections a join or a reconnect brings. -/
def newConnections : MeetingEvent → List String
  | .message _ _ _ (.connectionJoin connectionId _ _ _) => [connectionId]
  | .message _ _ _ (.connectionReconnect connectionId _ _) => [connectionId]
  | _ => []

/-- The meeting actor handles an event, or a participant actor ends. -/
def step (R : Ring) (s : MeetingSystem) : SystemEvent → MeetingSystem × (MeetingActor.Reply × List Effect)
  | .meeting e =>
    let r := s.actor.handle R e
    ({ s with
        actor := r.actor
        spawned := spawns r.effects ++ s.spawned
        inFlight := s.inFlight.diff (received e) }, r.result, r.effects)
  | .exit handle =>
    ({ s with exited := handle.connectionId :: s.exited, inFlight := handle :: s.inFlight },
      .silent, [])
  | .panic handle => ({ s with exited := handle.connectionId :: s.exited }, .silent, [])

/-- The connection created last for a participant. -/
def newest (s : MeetingSystem) (p : String) : Option ParticipantActorHandle :=
  s.spawned.find? fun handle => handle.participantId = p

end MeetingSystem

/-- A history of the system. -/
abbrev SystemHistory := List (SystemEvent × MeetingActor.Reply × List Effect)

/-- The turns of the meeting actor in a history of the system. -/
def meetingHistory (h : SystemHistory) : MeetingHistory :=
  h.filterMap fun
    | (.meeting e, a) => some (e, a)
    | _ => none

/-- What the environment promises of a turn of the meeting actor in the system:
    connection ids are new, a notification was sent by an actor that ended, and
    a finished task is the task of one. -/
def MeetingSystem.Genuine (s : MeetingSystem) (e : MeetingEvent) : Prop :=
  (∀ c ∈ MeetingSystem.newConnections e, ∀ handle ∈ s.spawned, handle.connectionId ≠ c) ∧
    (∀ handle ∈ MeetingSystem.received e, handle ∈ s.inFlight) ∧
    match e with
    | .health _ finished => ∀ task ∈ finished, task.1 ∈ s.exited
    | _ => True

instance (s : MeetingSystem) (e : MeetingEvent) : Decidable (s.Genuine e) := by
  unfold MeetingSystem.Genuine
  cases e <;> infer_instance

/-- The meeting actor with its participant actors. An actor ends once, and only
    after it was started. -/
def meetingSystem (R : Ring) (meetingId : String) (bindingManager : SessionBindingManager)
    (createdAt : ℤ) : Machine MeetingSystem SystemEvent (MeetingActor.Reply × List Effect) where
  init := ⟨MeetingActor.spawn meetingId bindingManager createdAt, [], [], []⟩
  step := MeetingSystem.step R
  allowed h s e :=
    match e with
    | .meeting e =>
      (meetingMachine R meetingId bindingManager createdAt).allowed (meetingHistory h) s.actor e ∧
        s.Genuine e
    | .exit handle => handle ∈ s.spawned ∧ handle.connectionId ∉ s.exited
    | .panic handle => handle ∈ s.spawned ∧ handle.connectionId ∉ s.exited

instance (h : SystemHistory) (s : MeetingSystem) (e : SystemEvent) :
    Decidable ((meetingSystem R meetingId mgr createdAt).allowed h s e) :=
  match e with
  | .meeting e => inferInstanceAs (Decidable (_ ∧ s.Genuine e))
  | .exit _ => inferInstanceAs (Decidable (_ ∧ _))
  | .panic _ => inferInstanceAs (Decidable (_ ∧ _))

/-- The meeting actor of the system runs as it does alone. -/
theorem run_meeting {h : SystemHistory} {s : MeetingSystem}
    (hr : (meetingSystem R meetingId mgr createdAt).Run h s) :
    (meetingMachine R meetingId mgr createdAt).Run (meetingHistory h) s.actor := by
  refine Machine.Run.invariant
    (I := fun h s => (meetingMachine R meetingId mgr createdAt).Run (meetingHistory h) s.actor)
    .nil ?_ hr
  intro h s e _ ha hI
  cases e with
  | meeting e => exact .cons e hI ha.1
  | exit handle => exact hI
  | panic handle => exact hI

/-! ## The newest connection -/

/-- Every present participant whose newest connection is alive is recorded as
    connected through it. -/
def NewestConnected (s : MeetingSystem) : Prop :=
  ∀ p participant handle, s.actor.participants.lookup p = some participant →
    s.newest p = some handle → handle.connectionId ∉ s.exited →
      participant.status = .connected ∧ participant.connection = some handle

/-- The condition on a step: no disconnect is handled for a present participant
    whose newest connection is alive. -/
def LosesNoLive (s : MeetingSystem) : SystemEvent → Prop
  | .meeting e => ∀ p ∈ s.actor.loses e, p ∈ s.actor.participants →
      ∀ handle, s.newest p = some handle → handle.connectionId ∈ s.exited
  | _ => True

theorem newestConnected_iff_links {s : MeetingSystem} :
    NewestConnected s ↔ ∀ p l handle, s.actor.links p = some l → s.newest p = some handle →
      handle.connectionId ∉ s.exited → l = (.connected, some handle) := by
  constructor
  · intro hn p l handle hl hnew hlive
    obtain ⟨participant, hp, rfl⟩ := Option.map_eq_some_iff.mp hl
    obtain ⟨hstatus, hconn⟩ := hn p participant handle hp hnew hlive
    rw [hstatus, hconn]
  · intro hn p participant handle hp hnew hlive
    have hl := hn p _ handle (by rw [MeetingActor.links, hp]; rfl) hnew hlive
    exact ⟨congrArg Prod.fst hl, congrArg Prod.snd hl⟩

theorem mem_participants_iff_links {m : MeetingActor} {p : String} :
    p ∈ m.participants ↔ ∃ l, m.links p = some l := by
  rw [← AList.lookup_isSome, Option.isSome_iff_exists]
  simp [MeetingActor.links]

/-- A turn of the meeting actor keeps the agreement iff it loses no live
    connection. -/
theorem newestConnected_meeting_iff {s : MeetingSystem} {e : MeetingEvent}
    (hs : NewestConnected s) :
    NewestConnected (s.step R (.meeting e)).1 ↔ LosesNoLive s (.meeting e) := by
  rw [newestConnected_iff_links] at hs ⊢
  simp only [MeetingSystem.step, MeetingSystem.newest]
  cases MeetingActor.handle_linkCase (R := R) (m := s.actor) e with
  | keep hspawns hloses hlinks =>
    refine iff_of_true (fun p l handle hl hnew hlive => ?_) ?_
    · rw [hspawns] at hnew
      exact hs p l handle (hlinks p l hl) hnew hlive
    · simp [LosesNoLive, hloses]
  | attach connectionId q hspawns hloses hlinks =>
    refine iff_of_true (fun p l handle hl hnew hlive => ?_) ?_
    · rw [hspawns, List.singleton_append, List.find?_cons] at hnew
      rw [hlinks] at hl
      by_cases hp : p = q
      · subst hp
        simp only [decide_true, Option.some.injEq] at hnew
        simp only [if_true, Option.some.injEq] at hl
        rw [← hl, hnew]
      · simp only [Ne.symm hp, decide_false] at hnew
        rw [if_neg hp] at hl
        exact hs p l handle hl hnew hlive
    · simp [LosesNoLive, hloses]
  | lose hspawns hlinks =>
    rw [hspawns, List.nil_append]
    constructor
    · intro hafter p hp hmem handle hnew
      by_contra hlive
      obtain ⟨l, hl⟩ := mem_participants_iff_links.mp hmem
      have hl' := hlinks p
      rw [if_pos hp, hl] at hl'
      -- the participant is on record as disconnected, and its newest connection is alive
      simpa using hafter p _ handle hl' hnew hlive
    · intro hlost p l handle hl hnew hlive
      rw [hlinks] at hl
      split_ifs at hl with hp
      · obtain ⟨l', hl', _⟩ := Option.map_eq_some_iff.mp hl
        exact absurd (hlost p hp (mem_participants_iff_links.mpr ⟨l', hl'⟩) handle hnew) hlive
      · exact hs p l handle hl hnew hlive

/-- A participant actor that ends keeps the agreement. -/
theorem newestConnected_of_exited {s s' : MeetingSystem} (hs : NewestConnected s)
    (hactor : s'.actor = s.actor) (hspawned : s'.spawned = s.spawned)
    (hexited : ∀ c ∈ s.exited, c ∈ s'.exited) : NewestConnected s' := by
  intro p participant handle hp hnew hlive
  rw [hactor] at hp
  rw [MeetingSystem.newest, hspawned] at hnew
  exact hs p participant handle hp hnew fun hc => hlive (hexited _ hc)

/-- Every participant with a live newest connection is recorded as connected
    through it, in every state of a run, iff no step of the run handles a
    disconnect for a present participant whose newest connection is alive. -/
theorem newestConnected_along_iff {h : SystemHistory} {s : MeetingSystem}
    (hr : (meetingSystem R meetingId mgr createdAt).Run h s) :
    (∀ h', h' <:+ h →
        NewestConnected ((meetingSystem R meetingId mgr createdAt).stateAfter h')) ↔
      ∀ e a h', (e, a) :: h' <:+ h →
        LosesNoLive ((meetingSystem R meetingId mgr createdAt).stateAfter h') e := by
  refine Machine.Run.always_iff ?_ ?_ hr
  · intro p participant handle hp
    simp [meetingSystem, MeetingActor.spawn] at hp
  · intro h s e _ _ hs
    cases e with
    | meeting e => exact newestConnected_meeting_iff hs
    | exit handle =>
      exact iff_of_true
        (newestConnected_of_exited hs rfl rfl fun _ => List.mem_cons_of_mem _) trivial
    | panic handle =>
      exact iff_of_true
        (newestConnected_of_exited hs rfl rfl fun _ => List.mem_cons_of_mem _) trivial

theorem run_inFlight_exited {h : SystemHistory} {s : MeetingSystem}
    (hr : (meetingSystem R meetingId mgr createdAt).Run h s) :
    ∀ handle ∈ s.inFlight, handle.connectionId ∈ s.exited := by
  refine Machine.Run.invariant
    (I := fun _ s => ∀ handle ∈ s.inFlight, handle.connectionId ∈ s.exited)
    (fun handle hmem => absurd hmem List.not_mem_nil) ?_ hr
  intro h s e _ _ hI
  cases e with
  | meeting e => exact fun handle hmem => hI handle ((List.diff_subset _ _) hmem)
  | exit ended =>
    intro handle hmem
    rcases List.mem_cons.mp hmem with rfl | hmem
    · exact List.mem_cons_self
    · exact List.mem_cons_of_mem _ (hI handle hmem)
  | panic ended => exact fun handle hmem => List.mem_cons_of_mem _ (hI handle hmem)

/-- A notification that carries the newest connection of its participant
    meets the condition: comparing the two ids would be enough. -/
theorem losesNoLive_of_newest {h : SystemHistory} {s : MeetingSystem}
    (hr : (meetingSystem R meetingId mgr createdAt).Run h s) {handle : ParticipantActorHandle}
    (hmem : handle ∈ s.inFlight) (hnew : s.newest handle.participantId = some handle)
    (now : ℕ) (draw : Draw) (depth : ℕ) :
    LosesNoLive s (.meeting (.message now draw depth
      (.connectionDisconnected handle.connectionId handle.participantId))) := by
  intro p hp _ newest hnewest
  obtain rfl := List.mem_singleton.mp hp
  rw [hnew, Option.some.injEq] at hnewest
  exact hnewest ▸ run_inFlight_exited hr handle hmem

/-- The system of the concrete runs. -/
abbrev sampleSystem : Machine MeetingSystem SystemEvent (MeetingActor.Reply × List Effect) :=
  meetingSystem Ring.sample "meeting-1" SessionBindingManager.sample 0

/-- A join at 0 s, a reconnect at 1 s, and the notification of the first
    connection at 2 s. -/
def lateExitEvents : List SystemEvent :=
  [.meeting (.message 0 sampleDraw₁ 0 (.connectionJoin "conn-1" "user-1" "part-1" false)),
    .meeting (.message (fromSecs 1) sampleDraw₂ 0 (.connectionReconnect "conn-2"
      sampleDraw₁.correlationId
      "8e6407357e4899fce0b8a87f57fd9247d4f6044589bb2d6c0998b97050bbf434")),
    .exit ⟨"conn-1", "part-1"⟩,
    .meeting (.message (fromSecs 2) ⟨"0a4f7c9e-3b2d-4e81-a6c5-97d0e1f2b384", []⟩ 0
      (.connectionDisconnected "conn-1" "part-1"))]

theorem newestConnected_along_lateExit :
    sampleSystem.Run (sampleSystem.playAll lateExitEvents).2
        (sampleSystem.playAll lateExitEvents).1 ∧
      ((∀ h', h' <:+ (sampleSystem.playAll lateExitEvents).2 →
          NewestConnected (sampleSystem.stateAfter h')) ↔
        ∀ e a h', (e, a) :: h' <:+ (sampleSystem.playAll lateExitEvents).2 →
          LosesNoLive (sampleSystem.stateAfter h') e) :=
  have hr := Machine.run_of_admits (M := sampleSystem) (l := lateExitEvents) (by decide)
  ⟨hr, newestConnected_along_iff hr⟩

/-- The late notification of `"conn-1"` disconnects a participant whose
    `"conn-2"` is alive. -/
theorem lateExit_disconnects :
    sampleSystem.Run (sampleSystem.playAll lateExitEvents).2
        (sampleSystem.playAll lateExitEvents).1 ∧
      ¬ NewestConnected (sampleSystem.playAll lateExitEvents).1 := by
  refine ⟨Machine.run_of_admits (by decide), fun hn => ?_⟩
  rw [newestConnected_iff_links] at hn
  have hl := hn "part-1" (.disconnected, none) ⟨"conn-2", "part-1"⟩ (by decide) (by decide)
    (by decide)
  cases hl

end DarkTower.Mc
