import DarkTower.Mc.Participants

/-!
# Leaving the meeting, and shutting it down

`StepDiscipline` says when one event may take a participant out of the map or
bring a connection in: out by an explicit leave or by a tick at which the grace
period since the last disconnect (`disconnectedSince`) has run out, in while
the meeting is not shutting down.

`removal_discipline_iff`: every step of a run keeps this discipline iff no
acceptable reconnect is handled while the meeting is shutting down.
`handle_join` refuses then, `handle_reconnect` does not look at the flag
(`reconnect_after_end`).
-/

namespace DarkTower.Mc

open DarkTower.Common DarkTower.Lib

variable {R : Ring} {meetingId : String} {mgr : SessionBindingManager} {createdAt : ℤ}

/-! ## The last disconnect -/

/-- The instant of the last disconnect of `q`, if `q` has been in the meeting and
    disconnected ever since. -/
def disconnectedSince (M : Machine MeetingActor MeetingEvent (MeetingActor.Reply × List Effect)) :
    MeetingHistory → String → Option ℕ
  | [], _ => none
  | (e, a) :: h, q =>
    ((M.stateAfter ((e, a) :: h)).participants.lookup q).bind fun p =>
      if p.status = .disconnected then
        if q ∈ (M.stateAfter h).loses e then some e.now else disconnectedSince M h q
      else none

/-- The disconnect on record. -/
def Participant.disconnect? (p : Participant) : Option ℕ :=
  if p.status = .disconnected then p.disconnectedAt else none

theorem disconnectGracePeriod_pos : 0 < disconnectGracePeriod := by decide

namespace MeetingActor

variable {m : MeetingActor} {e : MeetingEvent} {q : String}

theorem timedOut_iff {now : ℕ} {p : Participant} :
    timedOut now p = true ↔ ∃ d, p.disconnect? = some d ∧ d + disconnectGracePeriod ≤ now := by
  have hpos := disconnectGracePeriod_pos
  unfold timedOut Participant.disconnect?
  cases p.status with
  | connected => simp
  | reconnecting => simp
  | disconnected =>
    cases p.disconnectedAt with
    | none => simp
    | some d =>
      simp only [if_true, Option.some.injEq, exists_eq_left', decide_eq_true_eq]
      omega

theorem loses_of_selfMutes {audioMuted videoMuted : Bool} (h : SelfMutes q audioMuted videoMuted e) :
    m.loses e = [] := by
  unfold SelfMutes at h
  split at h
  · rfl
  · rfl
  · exact h.elim

theorem loses_of_hostMutes {audioMuted videoMuted : Bool}
    (h : m.HostMutes q audioMuted videoMuted e) : m.loses e = [] := by
  unfold HostMutes at h
  split at h
  · rfl
  · exact h.elim

/-- An event that marks `q` as disconnected records its own instant, and no other
    event changes the record of a participant that stays disconnected. -/
theorem Change.disconnect? {before after : Option Participant} (h : Change m e q before after) :
    (after.bind fun p =>
      if p.status = .disconnected then
        if q ∈ m.loses e then some e.now else before.bind Participant.disconnect?
      else none) = after.bind Participant.disconnect? := by
  cases h with
  | keep before hkeep =>
    cases before with
    | none => rfl
    | some p =>
      have hq : q ∉ m.loses e := hkeep.resolve_right (Option.some_ne_none p)
      simp only [Option.bind_some, if_neg hq, Participant.disconnect?]
      split_ifs <;> rfl
  | join _ _ _ _ _ p _ _ hstatus => simp [Participant.disconnect?, hstatus]
  | lose p hq => simp [hq, Participant.disconnect?, Participant.lost]
  | reconnect => simp [Participant.disconnect?, Participant.back]
  | selfMute p audioMuted videoMuted hmutes =>
    simp only [Option.bind_some, loses_of_selfMutes hmutes, List.not_mem_nil, if_false,
      Participant.disconnect?, Participant.selfMute]
    split_ifs <;> rfl
  | hostMute p audioMuted videoMuted hmutes =>
    simp only [Option.bind_some, loses_of_hostMutes hmutes, List.not_mem_nil, if_false,
      Participant.disconnect?, Participant.hostMute]
    split_ifs <;> rfl
  | leave => rfl
  | timeout => rfl

end MeetingActor

/-- In every run the disconnect on record is the last one. -/
theorem run_disconnectedSince {h : MeetingHistory} {m : MeetingActor}
    (hr : (meetingLoop R meetingId mgr createdAt).Run h m) (q : String) :
    disconnectedSince (meetingLoop R meetingId mgr createdAt) h q =
      (m.participants.lookup q).bind Participant.disconnect? := by
  refine Machine.Run.invariant (I := fun h m =>
    disconnectedSince (meetingLoop R meetingId mgr createdAt) h q =
      (m.participants.lookup q).bind Participant.disconnect?) rfl ?_ hr
  intro h m e hrun _ hI
  obtain rfl := hrun.eq_stateAfter
  rw [disconnectedSince, hI]
  exact (MeetingActor.handle_change (R := R) e q).disconnect?

/-! ## The discipline -/

/-- A reconnect that `handle_reconnect` accepts: its binding is stored and not
    expired, the token is the binding's, and its participant is present. -/
def MeetingActor.Acceptable (R : Ring) (m : MeetingActor) : MeetingEvent → Prop
  | .message now _ _ (.connectionReconnect _ c token) =>
    ∃ stored p, m.storedBindings.lookup c = some stored ∧ stored.isExpired now = false ∧
      m.bindingManager.validateToken R m.meetingId c stored.participantId stored.nonce token =
        true ∧
      m.correlationToParticipant.lookup c = some p ∧ p ∈ m.participants
  | _ => False

/-- A join or a reconnect. -/
def MeetingEvent.isEntry : MeetingEvent → Bool
  | .message _ _ _ (.connectionJoin _ _ _ _) => true
  | .message _ _ _ (.connectionReconnect _ _ _) => true
  | _ => false

/-- Between the two states no participant and no connection came in, and no
    actor of a connection was started. -/
structure AddsNobody (m : MeetingActor) (effects : List Effect) (m' : MeetingActor) : Prop where
  participants : ∀ q ∈ m'.participants, q ∈ m.participants
  connections : ∀ c ∈ m'.connections, c ∈ m.connections
  noActor : spawns effects = []

theorem AddsNobody.of_eq {m m' : MeetingActor} {effects : List Effect}
    (hparticipants : m'.participants = m.participants) (hconnections : m'.connections = m.connections)
    (hspawns : spawns effects = []) : AddsNobody m effects m' where
  participants _ hq := hparticipants ▸ hq
  connections _ hc := hconnections ▸ hc
  noActor := hspawns

/-- What the event `e` after the history `h` may take out of the meeting and
    bring in. -/
structure StepDiscipline
    (M : Machine MeetingActor MeetingEvent (MeetingActor.Reply × List Effect))
    (h : MeetingHistory) (e : MeetingEvent) : Prop where
  /-- Out by an explicit leave, or by a tick at which the participant has been
      disconnected for the grace period. -/
  removal : ∀ q ∈ (M.stateAfter h).participants, q ∉ (M.step (M.stateAfter h) e).1.participants →
    (∃ now draw depth, e = .message now draw depth (.participantLeave q)) ∨
      ∃ now d, e = .tick now ∧ disconnectedSince M h q = some d ∧ d + disconnectGracePeriod ≤ now
  /-- A tick misses nobody whose grace period has run out. -/
  timeout : ∀ now q d, e = .tick now → disconnectedSince M h q = some d →
    d + disconnectGracePeriod ≤ now → q ∉ (M.step (M.stateAfter h) e).1.participants
  shuttingDown : (M.stateAfter h).isShuttingDown = true →
    (M.step (M.stateAfter h) e).1.isShuttingDown = true
  entry : (M.stateAfter h).isShuttingDown = true → e.isEntry = true →
    AddsNobody (M.stateAfter h) (M.step (M.stateAfter h) e).2.2 (M.step (M.stateAfter h) e).1

namespace MeetingActor

variable {m : MeetingActor} {e : MeetingEvent} {q : String}

theorem Change.removal {p : Participant} (h : Change m e q (some p) none) :
    (∃ now draw depth, e = .message now draw depth (.participantLeave q)) ∨
      ∃ now, e = .tick now ∧ timedOut now p = true := by
  cases h with
  | leave now draw depth _ he => exact .inl ⟨now, draw, depth, he⟩
  | timeout now _ he htimeout => exact .inr ⟨now, he, htimeout⟩

theorem handleJoin_addsNobody {now : ℕ} {draw : Draw} {connectionId userId p : String}
    {isHost : Bool} (hm : m.isShuttingDown = true) :
    AddsNobody m (m.handleJoin R now draw connectionId userId p isHost).effects
      (m.handleJoin R now draw connectionId userId p isHost).actor := by
  rw [handleJoin, if_pos hm]
  exact .of_eq rfl rfl rfl

theorem handleReconnect_refused {now : ℕ} {draw : Draw} {depth : ℕ} {connectionId c token : String}
    (h : ¬ m.Acceptable R (.message now draw depth (.connectionReconnect connectionId c token))) :
    (m.handleReconnect R now draw connectionId c token).effects = [] ∧
      (m.handleReconnect R now draw connectionId c token).actor.participants = m.participants ∧
      (m.handleReconnect R now draw connectionId c token).actor.connections = m.connections := by
  unfold handleReconnect
  cases hstored : m.storedBindings.lookup c with
  | none => exact ⟨rfl, rfl, rfl⟩
  | some stored =>
    dsimp only
    split_ifs with hexp hvalid
    · exact ⟨rfl, rfl, rfl⟩
    · exact ⟨rfl, rfl, rfl⟩
    · cases howner : m.correlationToParticipant.lookup c with
      | none => exact ⟨rfl, rfl, rfl⟩
      | some p =>
        dsimp only
        cases hp : m.participants.lookup p with
        | none => exact ⟨rfl, rfl, rfl⟩
        | some participant =>
          exact absurd ⟨stored, p, hstored, by simpa using hexp, by simpa using hvalid, howner,
            AList.lookup_isSome.mp (by simp [hp])⟩ h

/-- A reconnect brings nobody in iff it is not acceptable; the flag does not matter. -/
theorem handleReconnect_addsNobody_iff {now : ℕ} {draw : Draw} {depth : ℕ}
    {connectionId c token : String} :
    AddsNobody m (m.handleReconnect R now draw connectionId c token).effects
        (m.handleReconnect R now draw connectionId c token).actor ↔
      ¬ m.Acceptable R (.message now draw depth (.connectionReconnect connectionId c token)) := by
  constructor
  · rintro ⟨_, _, hspawns⟩ ⟨stored, p, hstored, hexp, hvalid, howner, hp⟩
    obtain ⟨participant, hp⟩ := Option.isSome_iff_exists.mp (AList.lookup_isSome.mpr hp)
    simp [handleReconnect, hstored, hexp, hvalid, howner, hp, Effect.spawned?] at hspawns
  · intro hrefused
    obtain ⟨heffects, hparticipants, hconnections⟩ := handleReconnect_refused hrefused
    exact .of_eq hparticipants hconnections (by rw [heffects]; rfl)

end MeetingActor

variable {h : MeetingHistory} {m : MeetingActor} {e : MeetingEvent}

theorem step_removal (hr : (meetingLoop R meetingId mgr createdAt).Run h m) {q : String}
    (hq : q ∈ m.participants) (hgone : q ∉ (m.handle R e).actor.participants) :
    (∃ now draw depth, e = .message now draw depth (.participantLeave q)) ∨
      ∃ now d, e = .tick now ∧
        disconnectedSince (meetingLoop R meetingId mgr createdAt) h q = some d ∧
        d + disconnectGracePeriod ≤ now := by
  obtain ⟨p, hp⟩ := Option.isSome_iff_exists.mp (AList.lookup_isSome.mpr hq)
  have hchange := MeetingActor.handle_change (R := R) (m := m) e q
  rw [hp, AList.lookup_eq_none.mpr hgone] at hchange
  obtain hleave | ⟨now, he, htimeout⟩ := hchange.removal
  · exact .inl hleave
  · obtain ⟨d, hd, hgrace⟩ := MeetingActor.timedOut_iff.mp htimeout
    refine .inr ⟨now, d, he, ?_, hgrace⟩
    rw [run_disconnectedSince hr, hp]
    exact hd

theorem step_timeout (hr : (meetingLoop R meetingId mgr createdAt).Run h m) {now d : ℕ} {q : String}
    (hd : disconnectedSince (meetingLoop R meetingId mgr createdAt) h q = some d)
    (hgrace : d + disconnectGracePeriod ≤ now) :
    q ∉ (m.checkDisconnectTimeouts now).actor.participants := by
  rw [run_disconnectedSince hr] at hd
  obtain ⟨p, hp, hd⟩ := Option.bind_eq_some_iff.mp hd
  rw [← AList.lookup_eq_none, MeetingActor.checkDisconnectTimeouts_lookup, hp]
  have htimeout : MeetingActor.timedOut now p = true :=
    MeetingActor.timedOut_iff.mpr ⟨d, hd, hgrace⟩
  exact Option.filter_some_neg (by simp [htimeout])

/-- A step of a run keeps the discipline iff it is not an acceptable reconnect
    while the meeting is shutting down. -/
theorem stepDiscipline_iff (hr : (meetingLoop R meetingId mgr createdAt).Run h m) :
    StepDiscipline (meetingLoop R meetingId mgr createdAt) h e ↔
      ¬ (m.isShuttingDown = true ∧ m.Acceptable R e) := by
  obtain rfl := hr.eq_stateAfter
  constructor
  · rintro hd ⟨hm, hacc⟩
    cases e with
    | message now draw depth message =>
      cases message with
      | connectionReconnect connectionId c token =>
        exact MeetingActor.handleReconnect_addsNobody_iff.mp (hd.entry hm rfl) hacc
      | _ => exact hacc
    | _ => exact hacc
  · intro hcond
    refine ⟨fun q hq hgone => step_removal hr hq hgone, ?_, ?_, ?_⟩
    · rintro now q d rfl hd hgrace
      exact step_timeout hr hd hgrace
    · exact fun hm => MeetingActor.handle_isShuttingDown _ e hm
    · intro hm hentry
      cases e with
      | message now draw depth message =>
        cases message with
        | connectionJoin connectionId userId p isHost => exact MeetingActor.handleJoin_addsNobody hm
        | connectionReconnect connectionId c token =>
          exact MeetingActor.handleReconnect_addsNobody_iff.mpr fun hacc => hcond ⟨hm, hacc⟩
        | _ => simp [MeetingEvent.isEntry] at hentry
      | _ => simp [MeetingEvent.isEntry] at hentry

/-- Every step of a run keeps the discipline iff no step of the run is an
    acceptable reconnect while the meeting is shutting down. -/
theorem removal_discipline_iff (hr : (meetingLoop R meetingId mgr createdAt).Run h m) :
    (∀ e a h', (e, a) :: h' <:+ h →
        StepDiscipline (meetingLoop R meetingId mgr createdAt) h' e) ↔
      ∀ e a h', (e, a) :: h' <:+ h →
        ¬ (((meetingLoop R meetingId mgr createdAt).stateAfter h').isShuttingDown = true ∧
          ((meetingLoop R meetingId mgr createdAt).stateAfter h').Acceptable R e) := by
  refine forall₄_congr fun e a h' hs => ?_
  exact stepDiscipline_iff (hr.suffix ((List.suffix_cons _ _).trans hs))

/-- A join, a lost connection, and the tick at the end of the grace period. -/
def graceEvents : List MeetingEvent :=
  [.message 0 sampleDraw₁ 0 (.connectionJoin "conn-1" "user-1" "part-1" false),
    .message 1 sampleDraw₂ 0 (.connectionDisconnected "conn-1" "part-1"),
    .tick (disconnectGracePeriod + 1)]

theorem removal_discipline_graceEvents :
    sampleLoop.Run (sampleLoop.playAll graceEvents).2 (sampleLoop.playAll graceEvents).1 ∧
      ((∀ e a h', (e, a) :: h' <:+ (sampleLoop.playAll graceEvents).2 →
          StepDiscipline sampleLoop h' e) ↔
        ∀ e a h', (e, a) :: h' <:+ (sampleLoop.playAll graceEvents).2 →
          ¬ ((sampleLoop.stateAfter h').isShuttingDown = true ∧
            (sampleLoop.stateAfter h').Acceptable Ring.sample e)) :=
  have hr := Machine.run_of_admits (M := sampleLoop) (l := graceEvents) (by decide)
  ⟨hr, removal_discipline_iff hr⟩

/-- A join and the end of the meeting. -/
def endEvents : List MeetingEvent :=
  [.message 0 sampleDraw₁ 0 (.connectionJoin "conn-1" "user-1" "part-1" false),
    .message (fromSecs 1) sampleDraw₂ 0 (.endMeeting "host ended")]

/-- The reconnect that arrives after the end. -/
def lateReconnect : MeetingEvent :=
  .message (fromSecs 2) sampleDraw₂ 0 (.connectionReconnect "conn-2" sampleDraw₁.correlationId
    "8e6407357e4899fce0b8a87f57fd9247d4f6044589bb2d6c0998b97050bbf434")

/-- The reconnect after the end of the meeting starts the actor of `"conn-2"`. -/
theorem reconnect_after_end :
    sampleLoop.Run (sampleLoop.playAll (endEvents ++ [lateReconnect])).2
        (sampleLoop.playAll (endEvents ++ [lateReconnect])).1 ∧
      (sampleLoop.playAll endEvents).1.isShuttingDown = true ∧
      ¬ StepDiscipline sampleLoop (sampleLoop.playAll endEvents).2 lateReconnect := by
  refine ⟨Machine.run_of_admits (by decide), by decide, fun hd => ?_⟩
  have hold := (hd.entry (by decide) rfl).connections "conn-2" (by decide)
  exact absurd hold (by decide)

end DarkTower.Mc
