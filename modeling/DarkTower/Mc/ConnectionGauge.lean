import DarkTower.Mc.ParticipantCount
import DarkTower.Mc.Removal

/-!
# Does the connection gauge count the connections?

`connections_counted_iff`: `ActorMetrics::active_connections` is the number of
entries in the `connections` maps of the live meeting actors, in every state of
a run and without ever going below zero, iff in every step of the run a health
check finds no finished task, an actor that ends has no connections, and a new
connection has an id that is not in the map and finds room in the gauge.

`check_connection_health` takes the connection out of the map before it calls
`handle_disconnect`, which then has nothing to close (`reaped_stays_counted`).
-/

namespace DarkTower.Mc

open DarkTower.Common DarkTower.Lib McSystem

variable {R : Ring} {mgr : SessionBindingManager}

/-- The keys of the connections map. -/
def connectionIds (m : MeetingActor) : List String := m.connections.keys

theorem collects_connectionIds : Collects connectionIds := ⟨fun _ _ _ => rfl, fun _ => rfl⟩

/-- The gauge shows the connections of the live actors. -/
def ConnectionsCounted (s : McSystem) : Prop := s.activeConnections.Shows (total connectionIds s)

instance (s : McSystem) : Decidable (ConnectionsCounted s) :=
  inferInstanceAs (Decidable (s.activeConnections.Shows _))

/-- The event opens the connection `c`: a join or a reconnect that is accepted. -/
def MeetingActor.Opens (R : Ring) (m : MeetingActor) (c : String) : MeetingEvent → Prop
  | .message _ _ _ (.connectionJoin c' _ p _) =>
    c' = c ∧ m.isShuttingDown = false ∧ p ∉ m.participants
  | .message now draw depth (.connectionReconnect c' correlationId token) =>
    c' = c ∧ m.Acceptable R (.message now draw depth (.connectionReconnect c' correlationId token))
  | _ => False

/-- The condition on a step. -/
def KeepsConnectionCount (R : Ring) (s : McSystem) : McEvent → Prop
  | .meeting n (.shutdown _) => ∀ m ∈ s.actors.lookup n, connectionIds m = []
  | .lost n => ∀ m ∈ s.actors.lookup n, connectionIds m = []
  | .meeting n (.health _ finished) =>
    ∀ m ∈ s.actors.lookup n, ∀ task ∈ finished, task.1 ∉ m.connections
  | .meeting n e => ∀ m ∈ s.actors.lookup n, ∀ c, m.Opens R c e →
      c ∉ m.connections ∧ total connectionIds s + 1 < 2 ^ 64
  | _ => True

namespace MeetingActor

variable {m : MeetingActor} {e : MeetingEvent}

/-- What an event does to the connections and tells the gauge. -/
inductive ConnectionCase (R : Ring) (m : MeetingActor) (e : MeetingEvent) (effects : List Effect)
    (m' : MeetingActor) : Prop
  | drops (told untold : ℕ) (h : Drops connectionTick connectionIds m effects m' told untold)
      (he : ∀ s n, s.actors.lookup n = some m →
        (KeepsConnectionCount R s (.meeting n e) ↔ untold = 0))
  | opens (new : ℕ) (h : Adds connectionTick connectionIds m effects m' new)
      (he : ∀ s n, s.actors.lookup n = some m →
        (KeepsConnectionCount R s (.meeting n e) ↔
          new = 1 ∧ total connectionIds s + 1 < 2 ^ 64))

theorem keeps_of_not_opens {now : ℕ} {draw : Draw} {depth : ℕ} {message : MeetingMessage}
    (h : ∀ c, ¬ m.Opens R c (.message now draw depth message)) {s : McSystem} {n : ℕ}
    (hm : s.actors.lookup n = some m) :
    KeepsConnectionCount R s (.meeting n (.message now draw depth message)) := by
  intro m' hm' c hopens
  obtain rfl : m = m' := Option.some.inj (hm.symm.trans hm')
  exact absurd hopens (h c)

/-- A message that opens no connection and keeps the map. -/
theorem ConnectionCase.keep {now : ℕ} {draw : Draw} {depth : ℕ} {message : MeetingMessage}
    {effects : List Effect} {m' : MeetingActor}
    (hticks : effects.filterMap connectionTick = []) (hm' : m'.connections = m.connections)
    (h : ∀ c, ¬ m.Opens R c (.message now draw depth message)) :
    ConnectionCase R m (.message now draw depth message) effects m' :=
  .drops 0 0 (.none hticks (congrArg AList.keys hm')) fun _ _ hm =>
    iff_of_true (keeps_of_not_opens h hm) rfl

/-- A message that opens the connection `c`. -/
theorem ConnectionCase.open {now : ℕ} {draw : Draw} {depth : ℕ} {message : MeetingMessage}
    {effects : List Effect} {m' : MeetingActor} {c : String} {managed : ManagedConnection}
    (hticks : effects.filterMap connectionTick = [.up])
    (hm' : m'.connections = m.connections.insert c managed)
    (hopens : ∀ c', m.Opens R c' (.message now draw depth message) ↔ c' = c) :
    ConnectionCase R m (.message now draw depth message) effects m' := by
  refine .opens (if c ∈ m.connections then 0 else 1) ⟨hticks, ?_, by split_ifs <;> omega⟩ ?_
  · show m'.connections.keys.length = m.connections.keys.length + _
    rw [hm']
    split_ifs with hc
    · exact Multimap.length_keys_insert_of_mem hc
    · exact Multimap.length_keys_insert_of_notMem hc
  · intro s n hm
    have hnew : (if c ∈ m.connections then 0 else 1) = 1 ↔ c ∉ m.connections := by
      split_ifs with hc <;> simp [hc]
    rw [hnew]
    constructor
    · intro hkeeps
      exact hkeeps m hm c ((hopens c).mpr rfl)
    · intro hcond m' hm' c' hopens'
      obtain rfl : m = m' := Option.some.inj (hm.symm.trans hm')
      rw [(hopens c').mp hopens']
      exact hcond

/-! ## One lemma per handler -/

theorem handleDisconnect_connectionIds (now : ℕ) (c p : String) :
    Drops connectionTick connectionIds m (m.handleDisconnect now c p).effects
      (m.handleDisconnect now c p).actor (if c ∈ m.connections then 1 else 0) 0 := by
  constructor
  · unfold handleDisconnect
    cases m.participants.lookup p with
    | none => dsimp only; split_ifs <;> rfl
    | some participant =>
      dsimp only
      rw [List.filterMap_append, connectionTick_broadcastUpdate]
      split_ifs <;> rfl
  · show (m.handleDisconnect now c p).actor.connections.keys.length + _ + 0 = _
    rw [handleDisconnect_connections]
    split_ifs with hc
    · exact Multimap.length_keys_erase_of_mem hc
    · rw [Multimap.erase_of_lookup_none (AList.lookup_eq_none.mpr hc)]
      rfl

theorem handleSelfMute_connections (p : String) (audioMuted videoMuted : Bool) :
    (m.handleSelfMute p audioMuted videoMuted).effects.filterMap connectionTick = [] ∧
      (m.handleSelfMute p audioMuted videoMuted).actor.connections = m.connections := by
  unfold handleSelfMute
  cases m.participants.lookup p with
  | none => exact ⟨rfl, rfl⟩
  | some participant => exact ⟨connectionTick_broadcastUpdate .., rfl⟩

theorem handleSignaling_connections (p : String) (message : SignalingPayload) :
    (m.handleSignaling p message).effects.filterMap connectionTick = [] ∧
      (m.handleSignaling p message).actor.connections = m.connections := by
  unfold handleSignaling
  split_ifs
  · cases message with
    | muteUpdate audioMuted videoMuted => exact handleSelfMute_connections ..
    | layoutSubscribe _ => exact ⟨rfl, rfl⟩
    | chat _ => exact ⟨rfl, rfl⟩
    | raw _ _ => exact ⟨rfl, rfl⟩
  · exact ⟨rfl, rfl⟩

theorem handleHostMute_connections (target mutedBy : String) (audioMuted videoMuted : Bool) :
    (m.handleHostMute target mutedBy audioMuted videoMuted).effects.filterMap connectionTick = [] ∧
      (m.handleHostMute target mutedBy audioMuted videoMuted).actor.connections =
        m.connections := by
  unfold handleHostMute
  dsimp only
  split_ifs
  · exact ⟨rfl, rfl⟩
  · cases m.participants.lookup target with
    | none => exact ⟨rfl, rfl⟩
    | some participant => exact ⟨connectionTick_broadcastUpdate .., rfl⟩

/-- A leave cancels the connection and leaves its entry in the map. -/
theorem handleLeave_connections (p : String) :
    (m.handleLeave p).effects.filterMap connectionTick = [] ∧
      (m.handleLeave p).actor.connections = m.connections := by
  unfold handleLeave
  cases m.participants.lookup p with
  | none => exact ⟨rfl, rfl⟩
  | some participant =>
    refine ⟨?_, rfl⟩
    dsimp only
    rw [List.filterMap_append, connectionTick_broadcastUpdate, List.append_nil]
    cases participant.connection <;> rfl

theorem checkDisconnectTimeouts_connections (now : ℕ) :
    (m.checkDisconnectTimeouts now).effects.filterMap connectionTick = [] ∧
      (m.checkDisconnectTimeouts now).actor.connections = m.connections := by
  suffices h : ∀ (ps : List String) (h₀ : Handled Unit), h₀.effects.filterMap connectionTick = [] →
      (ps.foldl removeTimedOut h₀).effects.filterMap connectionTick = [] ∧
        (ps.foldl removeTimedOut h₀).actor.connections = h₀.actor.connections from h _ _ rfl
  intro ps
  induction ps with
  | nil => exact fun h₀ hticks => ⟨hticks, rfl⟩
  | cons p ps ih =>
    intro h₀ hticks
    rw [List.foldl_cons]
    cases hp : h₀.actor.participants.lookup p with
    | none =>
      have hskip : removeTimedOut h₀ p = h₀ := by rw [removeTimedOut, hp]
      exact hskip.symm ▸ ih h₀ hticks
    | some participant =>
      obtain ⟨heffects, hconnections⟩ := ih (removeTimedOut h₀ p) (by
        simp only [removeTimedOut, hp, List.filterMap_append, hticks,
          connectionTick_broadcastUpdate]
        rfl)
      refine ⟨heffects, hconnections.trans ?_⟩
      simp only [removeTimedOut, hp]

/-- A health check takes the connections it reaps out of the map and tells the
    gauge of none of them. -/
theorem checkConnectionHealth_connectionIds (now : ℕ) (finished : List (String × Bool)) :
    ∃ untold, Drops connectionTick connectionIds m (m.checkConnectionHealth now finished).effects
        (m.checkConnectionHealth now finished).actor 0 untold ∧
      (untold = 0 ↔ ∀ task ∈ finished, task.1 ∉ m.connections) := by
  suffices h : ∀ (h₀ : Handled Unit) (u₀ : ℕ),
      Drops connectionTick connectionIds m h₀.effects h₀.actor 0 u₀ →
        ∃ untold, Drops connectionTick connectionIds m
            (finished.foldl (reapConnection now) h₀).effects
            (finished.foldl (reapConnection now) h₀).actor 0 (u₀ + untold) ∧
          (untold = 0 ↔ ∀ task ∈ finished, task.1 ∉ h₀.actor.connections) by
    obtain ⟨untold, hdrops, huntold⟩ := h ⟨m, [], ()⟩ 0 (.none rfl rfl)
    rw [Nat.zero_add] at hdrops
    exact ⟨untold, hdrops, huntold⟩
  induction finished with
  | nil => exact fun h₀ u₀ hdrops => ⟨0, hdrops, by simp⟩
  | cons task finished ih =>
    intro h₀ u₀ hdrops
    rw [List.foldl_cons]
    cases hc : h₀.actor.connections.lookup task.1 with
    | none =>
      have hskip : reapConnection now h₀ task = h₀ := by rw [reapConnection, hc]
      rw [hskip]
      obtain ⟨untold, hall, huntold⟩ := ih h₀ u₀ hdrops
      have hout : task.1 ∉ h₀.actor.connections := AList.lookup_eq_none.mp hc
      exact ⟨untold, hall, by simp [huntold, hout]⟩
    | some managed =>
      have hmem : task.1 ∈ h₀.actor.connections := AList.lookup_isSome.mp (by rw [hc]; rfl)
      -- the entry goes first, so the disconnect has nothing left to close
      have herase : Drops connectionTick connectionIds h₀.actor
          (if task.2 then [.recordPanic] else [])
          { h₀.actor with connections := h₀.actor.connections.erase task.1 } 0 1 :=
        ⟨by split_ifs <;> rfl, Multimap.length_keys_erase_of_mem hmem⟩
      have hdisconnect := handleDisconnect_connectionIds
        (m := { h₀.actor with connections := h₀.actor.connections.erase task.1 })
        now task.1 managed.participantId
      rw [if_neg (by simp)] at hdisconnect
      have hone : Drops connectionTick connectionIds m (reapConnection now h₀ task).effects
          (reapConnection now h₀ task).actor 0 (u₀ + 1) := by
        have hall := (hdrops.trans herase).trans hdisconnect
        simpa only [reapConnection, hc, List.append_assoc] using hall
      obtain ⟨untold, hall, _⟩ := ih _ _ hone
      refine ⟨1 + untold, by rwa [← Nat.add_assoc], iff_of_false (by omega) fun hnone => ?_⟩
      exact hnone task List.mem_cons_self hmem

theorem handleJoin_connectionCase (now : ℕ) (draw : Draw) (depth : ℕ) (c userId p : String)
    (isHost : Bool) :
    ConnectionCase R m (.message now draw depth (.connectionJoin c userId p isHost))
      (m.handleJoin R now draw c userId p isHost).effects
      (m.handleJoin R now draw c userId p isHost).actor := by
  unfold handleJoin
  split_ifs with hs hp
  · exact .keep rfl rfl fun c' hopens => by simp [Opens, hs] at hopens
  · exact .keep rfl rfl fun c' hopens => hopens.2.2 hp
  · refine .open ?_ rfl fun c' => ?_
    · rw [List.filterMap_append, connectionTick_broadcastUpdate]
      rfl
    · exact ⟨fun hopens => hopens.1.symm, fun hc => ⟨hc.symm, by simpa using hs, hp⟩⟩

theorem handleReconnect_connectionCase (now : ℕ) (draw : Draw) (depth : ℕ)
    (c correlationId token : String) :
    ConnectionCase R m (.message now draw depth (.connectionReconnect c correlationId token))
      (m.handleReconnect R now draw c correlationId token).effects
      (m.handleReconnect R now draw c correlationId token).actor := by
  by_cases hacc : m.Acceptable R
    (.message now draw depth (.connectionReconnect c correlationId token))
  · have hopens : ∀ c', m.Opens R c'
        (.message now draw depth (.connectionReconnect c correlationId token)) ↔ c' = c :=
      fun c' => ⟨fun hopens => hopens.1.symm, fun hc => ⟨hc.symm, hacc⟩⟩
    obtain ⟨stored, p, hstored, hexp, hvalid, howner, hp⟩ := hacc
    obtain ⟨participant, hp⟩ := Option.isSome_iff_exists.mp (AList.lookup_isSome.mpr hp)
    simp only [handleReconnect, hstored, hexp, hvalid, howner, hp, Bool.not_true,
      Bool.false_eq_true, if_false]
    refine .open ?_ rfl hopens
    rw [List.filterMap_append, connectionTick_broadcastUpdate]
    rfl
  · obtain ⟨heffects, _, hconnections⟩ := handleReconnect_refused hacc
    exact .keep (by rw [heffects]; rfl) hconnections fun c' hopens => hacc hopens.2

theorem handle_connectionCase (m : MeetingActor) (he : e.isShutdown = false) :
    ConnectionCase R m e (m.handle R e).effects (m.handle R e).actor := by
  cases e with
  | message now draw depth message =>
    cases message with
    | connectionJoin c userId p isHost => exact handleJoin_connectionCase ..
    | connectionDisconnected c p =>
      exact .drops _ 0 (handleDisconnect_connectionIds now c p) fun _ _ hm =>
        iff_of_true (keeps_of_not_opens (fun _ => id) hm) rfl
    | connectionReconnect c correlationId token => exact handleReconnect_connectionCase ..
    | participantLeave p =>
      obtain ⟨hticks, hconnections⟩ := handleLeave_connections (m := m) p
      exact .keep hticks hconnections fun _ => id
    | signalingMessage p message =>
      obtain ⟨hticks, hconnections⟩ := handleSignaling_connections (m := m) p message
      exact .keep hticks hconnections fun _ => id
    | getState => exact .keep rfl rfl fun _ => id
    | updateSelfMute p audioMuted videoMuted =>
      obtain ⟨hticks, hconnections⟩ := handleSelfMute_connections (m := m) p audioMuted videoMuted
      exact .keep hticks hconnections fun _ => id
    | hostMute target mutedBy audioMuted videoMuted =>
      obtain ⟨hticks, hconnections⟩ :=
        handleHostMute_connections (m := m) target mutedBy audioMuted videoMuted
      exact .keep hticks hconnections fun _ => id
    | endMeeting reason =>
      refine .keep ?_ rfl fun _ => id
      simp [handle, handleMessage, handleEndMeeting, List.filterMap_flatMap, List.filterMap_map,
        connectionTick, Function.comp_def]
  | tick now =>
    obtain ⟨hticks, hconnections⟩ := checkDisconnectTimeouts_connections (m := m) now
    refine .drops 0 0 (.none hticks (congrArg AList.keys hconnections)) fun s n hm => ?_
    exact iff_of_true (fun _ _ _ hopens => hopens.elim) rfl
  | health now finished =>
    obtain ⟨untold, hdrops, huntold⟩ := checkConnectionHealth_connectionIds (m := m) now finished
    refine .drops 0 untold hdrops fun s n hm => ?_
    rw [huntold]
    refine ⟨fun hkeeps => hkeeps m hm, fun hnone m' hm' => ?_⟩
    rwa [← Option.some.inj (hm.symm.trans hm')]
  | shutdown now => cases he

end MeetingActor

/-! ## Runs -/

/-- A step that finds the gauge right leaves it right iff it meets the condition. -/
theorem connectionsCounted_step_iff {s : McSystem} {e : McEvent} (hs : s.Numbered)
    (hcounted : ConnectionsCounted s) :
    ConnectionsCounted (s.step R mgr e) ↔ KeepsConnectionCount R s e := by
  have hcase : TurnCase R s e (s.step R mgr e) := step_turnCase hs e
  generalize s.step R mgr e = s' at hcase ⊢
  cases hcase with
  | controller e s' hsame hmeeting hlost =>
    refine iff_of_true ?_ ?_
    · rw [ConnectionsCounted, hsame.activeConnections,
        hsame.total connectionIds collects_connectionIds]
      exact hcounted
    · have hgone : ∀ n e', e = .meeting n e' → ∀ m, m ∉ s.actors.lookup n := fun n e' he m hm =>
        hmeeting n e' he (AList.lookup_isSome.mp (Option.isSome_of_mem hm))
      unfold KeepsConnectionCount
      split
      · exact fun m hm => absurd hm (hgone _ _ rfl m)
      · intro m hm
        exact absurd (AList.lookup_isSome.mp (Option.isSome_of_mem hm)) (hlost _ rfl)
      · exact fun m hm => absurd hm (hgone _ _ rfl m)
      · exact fun m hm => absurd hm (hgone _ _ rfl m)
      · trivial
  | turn n e m hm he =>
    cases MeetingActor.handle_connectionCase (R := R) m he with
    | drops told untold h hcond => exact (shows_of_drops hcounted hm h).trans (hcond s n hm).symm
    | opens new h hcond =>
      exact (shows_of_adds (by decide) hcounted hm h).trans (hcond s n hm).symm
  | ended n now m hm =>
    have hticks : m.gracefulShutdown.effects.filterMap connectionTick = [] := by
      simp [MeetingActor.gracefulShutdown, connectionTick]
    rw [ConnectionsCounted, actorEnds, count, hticks]
    refine (shows_of_ended hcounted hm).trans ⟨fun hempty m' hm' => ?_, fun hcond => hcond m hm⟩
    rwa [← Option.some.inj (hm.symm.trans hm')]
  | lost n m hm =>
    refine (shows_of_ended hcounted hm).trans ⟨fun hempty m' hm' => ?_, fun hcond => hcond m hm⟩
    rwa [← Option.some.inj (hm.symm.trans hm')]

/-- The gauge shows the connections of the live meeting actors, and has never
    gone below zero, in every state of a run iff every step of the run meets
    `KeepsConnectionCount`. -/
theorem connections_counted_iff {h : List (McEvent × Unit)} {s : McSystem}
    (hr : (mcMachine R mgr).Run h s) :
    (∀ h', h' <:+ h → ConnectionsCounted ((mcMachine R mgr).stateAfter h')) ↔
      ∀ e a h', (e, a) :: h' <:+ h →
        KeepsConnectionCount R ((mcMachine R mgr).stateAfter h') e := by
  refine Machine.Run.always_iff Gauge.shows_zero ?_ hr
  intro h s e hrun _ hcounted
  exact connectionsCounted_step_iff (run_numbered hrun) hcounted

theorem connections_counted_orderly :
    sampleMc.Run (sampleMc.playAll orderlyEvents).2 (sampleMc.playAll orderlyEvents).1 ∧
      ((∀ h', h' <:+ (sampleMc.playAll orderlyEvents).2 →
          ConnectionsCounted (sampleMc.stateAfter h')) ↔
        ∀ e a h', (e, a) :: h' <:+ (sampleMc.playAll orderlyEvents).2 →
          KeepsConnectionCount Ring.sample (sampleMc.stateAfter h') e) :=
  have hr := Machine.run_of_admits (M := sampleMc) (l := orderlyEvents) (by decide)
  ⟨hr, connections_counted_iff hr⟩

/-- A participant joins, its connection task ends and is found finished, and the
    notification of the task is handled after that. -/
def reapedEvents : List McEvent :=
  [.createMeeting 0 0 "meeting-1",
    .meeting 0 (.message 1 sampleDraw₁ 0 (.connectionJoin "conn-1" "user-1" "part-1" false)),
    .meeting 0 (.health 2 [("conn-1", false)]),
    .meeting 0 (.message 3 sampleDraw₂ 0 (.connectionDisconnected "conn-1" "part-1"))]

/-- The reaped connection is counted for ever: the gauge shows 1, and no map has
    an entry. -/
theorem reaped_stays_counted :
    sampleMc.Run (sampleMc.playAll reapedEvents).2 (sampleMc.playAll reapedEvents).1 ∧
      total connectionIds (sampleMc.playAll reapedEvents).1 = 0 ∧
      (sampleMc.playAll reapedEvents).1.activeConnections.Shows 1 ∧
      ¬ ConnectionsCounted (sampleMc.playAll reapedEvents).1 :=
  ⟨Machine.run_of_admits (by decide), by decide, by decide, by decide⟩

end DarkTower.Mc
