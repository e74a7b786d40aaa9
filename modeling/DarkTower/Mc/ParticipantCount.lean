import DarkTower.Mc.System

/-!
# Does the participant count count the participants?

`participants_counted_iff`: `ControllerMetrics::current_participants` is the
number of participants in the live meeting actors, in every state of a run and
without ever going below zero, iff no meeting actor of the run ends with
participants in its map and no join comes when the counter is at its largest
value. Only a leave and a timeout lower the counter: `graceful_shutdown` and a
panic leave it as it is (`ended_meeting_stays_counted`).
-/

namespace DarkTower.Mc

open DarkTower.Common DarkTower.Lib McSystem

variable {R : Ring} {mgr : SessionBindingManager}

/-- The keys of the participants map. -/
def participantIds (m : MeetingActor) : List String := m.participants.keys

theorem collects_participantIds : Collects participantIds := ⟨fun _ _ _ => rfl, fun _ => rfl⟩

/-- The counter shows the participants of the live actors. -/
def ParticipantsCounted (s : McSystem) : Prop :=
  s.currentParticipants.Shows (total participantIds s)

instance (s : McSystem) : Decidable (ParticipantsCounted s) :=
  inferInstanceAs (Decidable (s.currentParticipants.Shows _))

/-- The condition on a step: an actor that ends has no participants, and the
    counter has room for one that joins. -/
def KeepsParticipantCount (s : McSystem) : McEvent → Prop
  | .meeting n (.shutdown _) => ∀ m ∈ s.actors.lookup n, participantIds m = []
  | .lost n => ∀ m ∈ s.actors.lookup n, participantIds m = []
  | .meeting n (.message _ _ _ (.connectionJoin _ _ p _)) =>
    ∀ m ∈ s.actors.lookup n, m.isShuttingDown = false → p ∉ m.participants →
      total participantIds s + 1 < 2 ^ 32
  | _ => True

namespace MeetingActor

variable {m : MeetingActor} {e : MeetingEvent}

/-- What an event does to the participants and tells the counter. -/
inductive ParticipantCase (m : MeetingActor) (e : MeetingEvent) (effects : List Effect)
    (m' : MeetingActor) : Prop
  | drops (k : ℕ) (h : Drops participantTick participantIds m effects m' k 0)
      (he : ∀ s n, s.actors.lookup n = some m → KeepsParticipantCount s (.meeting n e))
  | joins (now : ℕ) (draw : Draw) (depth : ℕ) (connectionId userId p : String) (isHost : Bool)
      (he : e = .message now draw depth (.connectionJoin connectionId userId p isHost))
      (hrunning : m.isShuttingDown = false) (hp : p ∉ m.participants)
      (h : Adds participantTick participantIds m effects m' 1)

/-- A handler that replaces the entry of a present participant. -/
theorem drops_insert {effects : List Effect} {m' : MeetingActor} {p : String}
    {old new : Participant} (hp : m.participants.lookup p = some old)
    (hm' : m'.participants = m.participants.insert p new)
    (hticks : effects.filterMap participantTick = []) :
    Drops participantTick participantIds m effects m' 0 0 := by
  refine ⟨hticks, ?_⟩
  have hmem : p ∈ m.participants := AList.lookup_isSome.mp (by rw [hp]; rfl)
  show m'.participants.keys.length = _
  rw [hm', Multimap.length_keys_insert_of_mem hmem, participantIds]

theorem handleDisconnect_participants (now : ℕ) (connectionId p : String) :
    Drops participantTick participantIds m (m.handleDisconnect now connectionId p).effects
      (m.handleDisconnect now connectionId p).actor 0 0 := by
  have hclosed : (if connectionId ∈ m.connections then [Effect.connectionClosed] else []).filterMap
      participantTick = [] := by
    split_ifs <;> rfl
  unfold handleDisconnect
  cases hp : m.participants.lookup p with
  | none => exact .none hclosed rfl
  | some participant => exact drops_insert hp rfl (by simp [hclosed])

theorem handleSelfMute_participants (p : String) (audioMuted videoMuted : Bool) :
    Drops participantTick participantIds m (m.handleSelfMute p audioMuted videoMuted).effects
      (m.handleSelfMute p audioMuted videoMuted).actor 0 0 := by
  unfold handleSelfMute
  cases hp : m.participants.lookup p with
  | none => exact .none rfl rfl
  | some participant => exact drops_insert hp rfl (by simp)

theorem handleSignaling_participants (p : String) (message : SignalingPayload) :
    Drops participantTick participantIds m (m.handleSignaling p message).effects
      (m.handleSignaling p message).actor 0 0 := by
  unfold handleSignaling
  split_ifs
  · cases message with
    | muteUpdate audioMuted videoMuted => exact handleSelfMute_participants ..
    | layoutSubscribe _ => exact .none rfl rfl
    | chat _ => exact .none rfl rfl
    | raw _ _ => exact .none rfl rfl
  · exact .none rfl rfl

theorem handleHostMute_participants (target mutedBy : String) (audioMuted videoMuted : Bool) :
    Drops participantTick participantIds m
      (m.handleHostMute target mutedBy audioMuted videoMuted).effects
      (m.handleHostMute target mutedBy audioMuted videoMuted).actor 0 0 := by
  unfold handleHostMute
  dsimp only
  split_ifs
  · exact .none rfl rfl
  · cases hp : m.participants.lookup target with
    | none => exact .none rfl rfl
    | some participant => exact drops_insert hp rfl (by simp)

theorem handleReconnect_participants (now : ℕ) (draw : Draw) (connectionId c token : String) :
    Drops participantTick participantIds m
      (m.handleReconnect R now draw connectionId c token).effects
      (m.handleReconnect R now draw connectionId c token).actor 0 0 := by
  unfold handleReconnect
  cases m.storedBindings.lookup c with
  | none => exact .none rfl rfl
  | some stored =>
    dsimp only
    split_ifs
    · exact .none rfl rfl
    · exact .none rfl rfl
    · cases m.correlationToParticipant.lookup c with
      | none => exact .none rfl rfl
      | some p =>
        dsimp only
        cases hp : m.participants.lookup p with
        | none => exact .none rfl rfl
        | some participant =>
          refine drops_insert hp rfl ?_
          rw [List.filterMap_append, participantTick_broadcastUpdate]
          rfl

/-- A leave takes out one participant and counts it. -/
theorem handleLeave_participants (p : String) :
    ∃ k, Drops participantTick participantIds m (m.handleLeave p).effects
      (m.handleLeave p).actor k 0 := by
  unfold handleLeave
  cases hp : m.participants.lookup p with
  | none => exact ⟨0, .none rfl rfl⟩
  | some participant =>
    refine ⟨1, ?_, ?_⟩
    · cases participant.connection <;> simp [participantTick]
    · have hmem : p ∈ m.participants := AList.lookup_isSome.mp (by rw [hp]; rfl)
      exact Multimap.length_keys_erase_of_mem hmem

theorem checkDisconnectTimeouts_participants (now : ℕ) :
    ∃ k, Drops participantTick participantIds m (m.checkDisconnectTimeouts now).effects
      (m.checkDisconnectTimeouts now).actor k 0 := by
  suffices h : ∀ (ps : List String) (h₀ : Handled Unit) (k₀ : ℕ),
      Drops participantTick participantIds m h₀.effects h₀.actor k₀ 0 →
        ∃ k, Drops participantTick participantIds m (ps.foldl removeTimedOut h₀).effects
          (ps.foldl removeTimedOut h₀).actor k 0 from h _ _ 0 (.none rfl rfl)
  intro ps
  induction ps with
  | nil => exact fun h₀ k₀ hdrops => ⟨k₀, hdrops⟩
  | cons p ps ih =>
    intro h₀ k₀ hdrops
    rw [List.foldl_cons]
    cases hp : h₀.actor.participants.lookup p with
    | none =>
      have hskip : removeTimedOut h₀ p = h₀ := by rw [removeTimedOut, hp]
      exact hskip.symm ▸ ih h₀ k₀ hdrops
    | some participant =>
      refine ih _ (k₀ + 1) ?_
      have hmem : p ∈ h₀.actor.participants := AList.lookup_isSome.mp (by rw [hp]; rfl)
      have hone : Drops participantTick participantIds h₀.actor
          ([.decrementParticipants] ++ (removeTimedOut h₀ p).actor.broadcastUpdate p (.left p .timeout))
          (removeTimedOut h₀ p).actor 1 0 := by
        refine ⟨by simp [participantTick], ?_⟩
        simp only [removeTimedOut, hp]
        exact Multimap.length_keys_erase_of_mem hmem
      have hall := hdrops.trans hone
      simpa only [removeTimedOut, hp, List.append_assoc] using hall

theorem checkConnectionHealth_participants (now : ℕ) (finished : List (String × Bool)) :
    Drops participantTick participantIds m (m.checkConnectionHealth now finished).effects
      (m.checkConnectionHealth now finished).actor 0 0 := by
  suffices h : ∀ h₀ : Handled Unit,
      Drops participantTick participantIds m h₀.effects h₀.actor 0 0 →
        Drops participantTick participantIds m (finished.foldl (reapConnection now) h₀).effects
          (finished.foldl (reapConnection now) h₀).actor 0 0 from h _ (.none rfl rfl)
  induction finished with
  | nil => exact fun h₀ hdrops => hdrops
  | cons task finished ih =>
    intro h₀ hdrops
    rw [List.foldl_cons]
    refine ih _ ?_
    cases hc : h₀.actor.connections.lookup task.1 with
    | none =>
      have hskip : reapConnection now h₀ task = h₀ := by rw [reapConnection, hc]
      exact hskip.symm ▸ hdrops
    | some managed =>
      have hpanic : Drops participantTick participantIds h₀.actor
          (if task.2 then [.recordPanic] else [])
          { h₀.actor with connections := h₀.actor.connections.erase task.1 } 0 0 :=
        .none (by split_ifs <;> rfl) rfl
      have hall := (hdrops.trans hpanic).trans
        (handleDisconnect_participants now task.1 managed.participantId)
      simpa only [reapConnection, hc, List.append_assoc] using hall

theorem handleEndMeeting_participants :
    Drops participantTick participantIds m m.handleEndMeeting.effects m.handleEndMeeting.actor
      0 0 := by
  refine .none ?_ rfl
  simp [handleEndMeeting, List.filterMap_flatMap, List.filterMap_map, participantTick,
    Function.comp_def]

theorem handleJoin_participantCase (now : ℕ) (draw : Draw) (depth : ℕ)
    (connectionId userId p : String) (isHost : Bool) :
    ParticipantCase m (.message now draw depth (.connectionJoin connectionId userId p isHost))
      (m.handleJoin R now draw connectionId userId p isHost).effects
      (m.handleJoin R now draw connectionId userId p isHost).actor := by
  unfold handleJoin
  split_ifs with hs hp
  · refine .drops 0 (.none rfl rfl) fun s n hm m' hm' hrunning => ?_
    obtain rfl : m = m' := Option.some.inj (hm.symm.trans hm')
    rw [hs] at hrunning
    cases hrunning
  · refine .drops 0 (.none rfl rfl) fun s n hm m' hm' _ hnew => ?_
    obtain rfl : m = m' := Option.some.inj (hm.symm.trans hm')
    exact absurd hp hnew
  · refine .joins now draw depth connectionId userId p isHost rfl (by simpa using hs) hp ?_
    refine ⟨?_, Multimap.length_keys_insert_of_notMem hp, le_refl 1⟩
    rw [List.filterMap_append, participantTick_broadcastUpdate]
    rfl

theorem handle_participantCase (m : MeetingActor) (he : e.isShutdown = false) :
    ParticipantCase m e (m.handle R e).effects (m.handle R e).actor := by
  cases e with
  | message now draw depth message =>
    cases message with
    | connectionJoin connectionId userId p isHost => exact handleJoin_participantCase ..
    | connectionDisconnected connectionId p =>
      exact .drops 0 (handleDisconnect_participants ..) fun _ _ _ => trivial
    | connectionReconnect connectionId c token =>
      exact .drops 0 (handleReconnect_participants ..) fun _ _ _ => trivial
    | participantLeave p =>
      obtain ⟨k, h⟩ := handleLeave_participants (m := m) p
      exact .drops k h fun _ _ _ => trivial
    | signalingMessage p message =>
      exact .drops 0 (handleSignaling_participants ..) fun _ _ _ => trivial
    | getState => exact .drops 0 (.none rfl rfl) fun _ _ _ => trivial
    | updateSelfMute p audioMuted videoMuted =>
      exact .drops 0 (handleSelfMute_participants ..) fun _ _ _ => trivial
    | hostMute target mutedBy audioMuted videoMuted =>
      exact .drops 0 (handleHostMute_participants ..) fun _ _ _ => trivial
    | endMeeting reason => exact .drops 0 handleEndMeeting_participants fun _ _ _ => trivial
  | tick now =>
    obtain ⟨k, h⟩ := checkDisconnectTimeouts_participants (m := m) now
    exact .drops k h fun _ _ _ => trivial
  | health now finished =>
    exact .drops 0 (checkConnectionHealth_participants ..) fun _ _ _ => trivial
  | shutdown now => cases he

end MeetingActor

/-! ## Runs -/

/-- A step that finds the count right leaves it right iff it meets the condition. -/
theorem participantsCounted_step_iff {s : McSystem} {e : McEvent} (hs : s.Numbered)
    (hcounted : ParticipantsCounted s) :
    ParticipantsCounted (s.step R mgr e) ↔ KeepsParticipantCount s e := by
  have hcase : TurnCase R s e (s.step R mgr e) := step_turnCase hs e
  generalize s.step R mgr e = s' at hcase ⊢
  cases hcase with
  | controller e s' hsame hmeeting hlost =>
    refine iff_of_true ?_ ?_
    · rw [ParticipantsCounted, hsame.currentParticipants,
        hsame.total participantIds collects_participantIds]
      exact hcounted
    · unfold KeepsParticipantCount
      split
      · intro m hm
        exact absurd (AList.lookup_isSome.mp (Option.isSome_of_mem hm)) (hmeeting _ _ rfl)
      · intro m hm
        exact absurd (AList.lookup_isSome.mp (Option.isSome_of_mem hm)) (hlost _ rfl)
      · intro m hm
        exact absurd (AList.lookup_isSome.mp (Option.isSome_of_mem hm)) (hmeeting _ _ rfl)
      · trivial
  | turn n e m hm he =>
    cases MeetingActor.handle_participantCase (R := R) m he with
    | drops k h hcond =>
      exact iff_of_true ((shows_of_drops hcounted hm h).mpr rfl) (hcond s n hm)
    | joins now draw depth connectionId userId p isHost he hrunning hp h =>
      subst he
      refine (shows_of_adds (by decide) hcounted hm h).trans ?_
      constructor
      · rintro ⟨_, hroom⟩ _ _ _ _
        exact hroom
      · intro hcond
        exact ⟨rfl, hcond m hm hrunning hp⟩
  | ended n now m hm =>
    have hticks : m.gracefulShutdown.effects.filterMap participantTick = [] := by
      simp [MeetingActor.gracefulShutdown, participantTick]
    have hafter := shows_of_ended hcounted hm
    rw [ParticipantsCounted, actorEnds, count, hticks]
    refine hafter.trans ⟨fun hempty m' hm' => ?_, fun hcond => hcond m hm⟩
    rwa [← Option.some.inj (hm.symm.trans hm')]
  | lost n m hm =>
    refine (shows_of_ended hcounted hm).trans ⟨fun hempty m' hm' => ?_, fun hcond => hcond m hm⟩
    rwa [← Option.some.inj (hm.symm.trans hm')]

/-- The counter shows the participants of the live meeting actors, and has never
    gone below zero, in every state of a run iff in every step of the run an
    actor that ends has no participants and a join finds room in the counter. -/
theorem participants_counted_iff {h : List (McEvent × Unit)} {s : McSystem}
    (hr : (mcMachine R mgr).Run h s) :
    (∀ h', h' <:+ h → ParticipantsCounted ((mcMachine R mgr).stateAfter h')) ↔
      ∀ e a h', (e, a) :: h' <:+ h → KeepsParticipantCount ((mcMachine R mgr).stateAfter h') e := by
  refine Machine.Run.always_iff Gauge.shows_zero ?_ hr
  intro h s e hrun _ hcounted
  exact participantsCounted_step_iff (run_numbered hrun) hcounted

/-- The machine of the concrete runs. -/
abbrev sampleMc : Machine McSystem McEvent Unit := mcMachine Ring.sample SessionBindingManager.sample

/-- A meeting, a participant that joins and leaves, and the end of the meeting. -/
def orderlyEvents : List McEvent :=
  [.createMeeting 0 0 "meeting-1",
    .meeting 0 (.message 1 sampleDraw₁ 0 (.connectionJoin "conn-1" "user-1" "part-1" false)),
    .meeting 0 (.message 2 sampleDraw₂ 0 (.participantLeave "part-1")),
    .removeMeeting "meeting-1", .meeting 0 (.shutdown 3)]

theorem participants_counted_orderly :
    sampleMc.Run (sampleMc.playAll orderlyEvents).2 (sampleMc.playAll orderlyEvents).1 ∧
      ((∀ h', h' <:+ (sampleMc.playAll orderlyEvents).2 →
          ParticipantsCounted (sampleMc.stateAfter h')) ↔
        ∀ e a h', (e, a) :: h' <:+ (sampleMc.playAll orderlyEvents).2 →
          KeepsParticipantCount (sampleMc.stateAfter h') e) :=
  have hr := Machine.run_of_admits (M := sampleMc) (l := orderlyEvents) (by decide)
  ⟨hr, participants_counted_iff hr⟩

/-- A participant joins, and the meeting is ended. -/
def endedMeetingEvents : List McEvent :=
  [.createMeeting 0 0 "meeting-1",
    .meeting 0 (.message 1 sampleDraw₁ 0 (.connectionJoin "conn-1" "user-1" "part-1" false)),
    .meeting 0 (.message 2 sampleDraw₂ 0 (.endMeeting "host ended")),
    .meeting 0 (.shutdown 3)]

/-- The participant of a meeting that was ended is counted for ever: the counter
    shows 1, and no meeting actor is left. -/
theorem ended_meeting_stays_counted :
    sampleMc.Run (sampleMc.playAll endedMeetingEvents).2 (sampleMc.playAll endedMeetingEvents).1 ∧
      (sampleMc.playAll endedMeetingEvents).1.actors.keys = [] ∧
      (sampleMc.playAll endedMeetingEvents).1.currentParticipants.Shows 1 ∧
      ¬ ParticipantsCounted (sampleMc.playAll endedMeetingEvents).1 :=
  ⟨Machine.run_of_admits (by decide), by decide, by decide, by decide⟩

end DarkTower.Mc
