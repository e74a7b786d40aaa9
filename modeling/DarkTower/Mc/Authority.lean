import DarkTower.Mc.Participants

/-!
# Who may mute whom

`StepAuthority` says what one event may do to hosts and mute flags, and
`Spell` what follows for a participant over any stretch of a run in which it
stays in the meeting. `mute_authority` proves both for every run of the meeting
actor: host flags change by a host mute of a participant that is a host at that
moment, self flags by the participant's own message, `is_host` not at all, and
an operation that fails changes no participant.
-/

namespace DarkTower.Mc

open DarkTower.Common DarkTower.Lib

variable {R : Ring} {meetingId : String} {mgr : SessionBindingManager} {createdAt : ℤ}

namespace Participant

/-- What the host has muted of a participant, audio and video. -/
def hostMutes (p : Participant) : Bool × Bool := (p.audioHostMuted, p.videoHostMuted)

/-- What a participant has muted of itself, audio and video. -/
def selfMutes (p : Participant) : Bool × Bool := (p.audioSelfMuted, p.videoSelfMuted)

end Participant

/-- A connection is lost or found again: a disconnect, a reconnect or a check of
    the connection tasks. -/
def MeetingEvent.ofConnection : MeetingEvent → Bool
  | .message _ _ _ (.connectionDisconnected _ _) => true
  | .message _ _ _ (.connectionReconnect _ _ _) => true
  | .health _ _ => true
  | _ => false

namespace MeetingActor

/-- What the event `e`, answered with `reply`, may do to hosts and mute flags. -/
structure StepAuthority (m : MeetingActor) (e : MeetingEvent) (reply : Reply)
    (m' : MeetingActor) : Prop where
  /-- A participant comes with the `is_host` of its own join. -/
  join : ∀ q p, q ∉ m.participants → m'.participants.lookup q = some p →
    ∃ now draw depth connectionId userId,
      e = .message now draw depth (.connectionJoin connectionId userId q p.isHost)
  isHost : ∀ q p p', m.participants.lookup q = some p → m'.participants.lookup q = some p' →
    p'.isHost = p.isHost
  hostMutes : ∀ q p p', m.participants.lookup q = some p → m'.participants.lookup q = some p' →
    p'.hostMutes ≠ p.hostMutes → m.HostMutes q p'.audioHostMuted p'.videoHostMuted e
  selfMutes : ∀ q p p', m.participants.lookup q = some p → m'.participants.lookup q = some p' →
    p'.selfMutes ≠ p.selfMutes → SelfMutes q p'.audioSelfMuted p'.videoSelfMuted e
  /-- Losing and finding a connection takes nobody out and keeps all five flags. -/
  connection : e.ofConnection = true → ∀ q p, m.participants.lookup q = some p →
    ∃ p', m'.participants.lookup q = some p' ∧ p'.isHost = p.isHost ∧
      p'.hostMutes = p.hostMutes ∧ p'.selfMutes = p.selfMutes
  error : reply.isError = true → m'.participants = m.participants

/-! ## One step -/

section Step

variable {m : MeetingActor} {e : MeetingEvent} {q : String} {p p' : Participant}

theorem Change.isHost_eq (h : Change m e q (some p) (some p')) : p'.isHost = p.isHost := by
  cases h <;> rfl

theorem Change.hostMutes_eq (h : Change m e q (some p) (some p')) :
    p'.hostMutes = p.hostMutes ∨ m.HostMutes q p'.audioHostMuted p'.videoHostMuted e := by
  cases h with
  | hostMute _ audioMuted videoMuted h => exact .inr h
  | _ => exact .inl rfl

theorem Change.selfMutes_eq (h : Change m e q (some p) (some p')) :
    p'.selfMutes = p.selfMutes ∨ SelfMutes q p'.audioSelfMuted p'.videoSelfMuted e := by
  cases h with
  | selfMute _ audioMuted videoMuted h => exact .inr h
  | _ => exact .inl rfl

theorem not_hostMutes_of_connection (he : e.ofConnection = true) {audioMuted videoMuted : Bool} :
    ¬ m.HostMutes q audioMuted videoMuted e := by
  intro h
  unfold HostMutes at h
  split at h
  · simp [MeetingEvent.ofConnection] at he
  · exact h

theorem not_selfMutes_of_connection (he : e.ofConnection = true) {audioMuted videoMuted : Bool} :
    ¬ SelfMutes q audioMuted videoMuted e := by
  intro h
  unfold SelfMutes at h
  split at h
  · simp [MeetingEvent.ofConnection] at he
  · simp [MeetingEvent.ofConnection] at he
  · exact h

theorem Change.of_connection (he : e.ofConnection = true) {after : Option Participant}
    (h : Change m e q (some p) after) :
    ∃ p', after = some p' ∧ p'.isHost = p.isHost ∧ p'.hostMutes = p.hostMutes ∧
      p'.selfMutes = p.selfMutes := by
  cases after with
  | none =>
    cases h with
    | leave now draw depth _ h => simp [h, MeetingEvent.ofConnection] at he
    | timeout now _ h _ => simp [h, MeetingEvent.ofConnection] at he
  | some p' =>
    refine ⟨p', rfl, h.isHost_eq, ?_, ?_⟩
    · exact h.hostMutes_eq.resolve_right (not_hostMutes_of_connection he)
    · exact h.selfMutes_eq.resolve_right (not_selfMutes_of_connection he)

theorem handle_authority (m : MeetingActor) (e : MeetingEvent) :
    StepAuthority m e (m.handle R e).result (m.handle R e).actor where
  join q p hq hp := by
    have h := handle_change (m := m) (R := R) e q
    rw [AList.lookup_eq_none.mpr hq, hp] at h
    cases h with
    | join now draw depth connectionId userId _ he =>
      exact ⟨now, draw, depth, connectionId, userId, he⟩
  isHost q p p' hp hp' := by
    have h := handle_change (m := m) (R := R) e q
    rw [hp, hp'] at h
    exact h.isHost_eq
  hostMutes q p p' hp hp' hne := by
    have h := handle_change (m := m) (R := R) e q
    rw [hp, hp'] at h
    exact h.hostMutes_eq.resolve_left hne
  selfMutes q p p' hp hp' hne := by
    have h := handle_change (m := m) (R := R) e q
    rw [hp, hp'] at h
    exact h.selfMutes_eq.resolve_left hne
  connection he q p hp := by
    have h := handle_change (m := m) (R := R) e q
    rw [hp] at h
    exact h.of_connection he
  error h := participants_of_isError h

end Step

end MeetingActor

/-! ## Whole runs -/

/-- What the stretch of a run from `h₁` to `h₂` leaves of a participant that was
    `p₁` and is `p₂`: it is a host or not as before, and flags that differ were
    set in between, by a host or by the participant itself. -/
structure Spell (M : Machine MeetingActor MeetingEvent (MeetingActor.Reply × List Effect))
    (h₁ h₂ : MeetingHistory) (q : String) (p₁ p₂ : Participant) : Prop where
  isHost : p₂.isHost = p₁.isHost
  hostMutes : p₂.hostMutes = p₁.hostMutes ∨ ∃ e a g, h₁ <:+ g ∧ (e, a) :: g <:+ h₂ ∧
    (M.stateAfter g).HostMutes q p₂.audioHostMuted p₂.videoHostMuted e
  selfMutes : p₂.selfMutes = p₁.selfMutes ∨ ∃ e a g, h₁ <:+ g ∧ (e, a) :: g <:+ h₂ ∧
    MeetingActor.SelfMutes q p₂.audioSelfMuted p₂.videoSelfMuted e

/-- The participant `q` is in the meeting from `h₁` to `h₂`. -/
def StaysIn (M : Machine MeetingActor MeetingEvent (MeetingActor.Reply × List Effect))
    (h₁ h₂ : MeetingHistory) (q : String) : Prop :=
  ∀ g, h₁ <:+ g → g <:+ h₂ → q ∈ (M.stateAfter g).participants

theorem spell_of_staysIn {h₁ h₂ : MeetingHistory} (h₁₂ : h₁ <:+ h₂) {q : String}
    (hstays : StaysIn (meetingLoop R meetingId mgr createdAt) h₁ h₂ q) {p₁ p₂ : Participant}
    (hp₁ : ((meetingLoop R meetingId mgr createdAt).stateAfter h₁).participants.lookup q = some p₁)
    (hp₂ : ((meetingLoop R meetingId mgr createdAt).stateAfter h₂).participants.lookup q =
      some p₂) :
    Spell (meetingLoop R meetingId mgr createdAt) h₁ h₂ q p₁ p₂ := by
  induction h₂ generalizing p₂ with
  | nil =>
    obtain rfl := List.suffix_nil.mp h₁₂
    obtain rfl : p₁ = p₂ := Option.some.inj (hp₁.symm.trans hp₂)
    exact ⟨rfl, .inl rfl, .inl rfl⟩
  | cons x h ih =>
    obtain ⟨e, a⟩ := x
    rcases List.suffix_cons_iff.mp h₁₂ with rfl | hsuffix
    · obtain rfl : p₁ = p₂ := Option.some.inj (hp₁.symm.trans hp₂)
      exact ⟨rfl, .inl rfl, .inl rfl⟩
    -- the participant just before the last event, and what that event did to it
    have hmem := hstays h hsuffix (List.suffix_cons _ _)
    obtain ⟨p, hp⟩ := Option.isSome_iff_exists.mp (AList.lookup_isSome.mpr hmem)
    have hold := ih hsuffix (fun g hg hgh => hstays g hg (hgh.trans (List.suffix_cons _ _))) hp
    have hlast : MeetingActor.Change ((meetingLoop R meetingId mgr createdAt).stateAfter h) e q
        (((meetingLoop R meetingId mgr createdAt).stateAfter h).participants.lookup q)
        (((meetingLoop R meetingId mgr createdAt).stateAfter ((e, a) :: h)).participants.lookup q) :=
      MeetingActor.handle_change (R := R) e q
    rw [hp, hp₂] at hlast
    refine ⟨hlast.isHost_eq.trans hold.isHost, ?_, ?_⟩
    · rcases hlast.hostMutes_eq with heq | hmutes
      · rcases hold.hostMutes with hfirst | ⟨e', a', g, hg, hgh, hmutes⟩
        · exact .inl (heq.trans hfirst)
        · simp only [Participant.hostMutes, Prod.mk.injEq] at heq
          rw [← heq.1, ← heq.2] at hmutes
          exact .inr ⟨e', a', g, hg, hgh.trans (List.suffix_cons _ _), hmutes⟩
      · exact .inr ⟨e, a, h, hsuffix, List.suffix_refl _, hmutes⟩
    · rcases hlast.selfMutes_eq with heq | hmutes
      · rcases hold.selfMutes with hfirst | ⟨e', a', g, hg, hgh, hmutes⟩
        · exact .inl (heq.trans hfirst)
        · simp only [Participant.selfMutes, Prod.mk.injEq] at heq
          rw [← heq.1, ← heq.2] at hmutes
          exact .inr ⟨e', a', g, hg, hgh.trans (List.suffix_cons _ _), hmutes⟩
      · exact .inr ⟨e, a, h, hsuffix, List.suffix_refl _, hmutes⟩

/-- In every run of a meeting actor every step has the authority for what it
    changes, and over every stretch in which a participant stays in the meeting
    it remains a host or not and its flags are those its own messages and the
    hosts gave it. -/
theorem mute_authority {h : MeetingHistory} {m : MeetingActor}
    (hr : (meetingLoop R meetingId mgr createdAt).Run h m) :
    (∀ e a h', (e, a) :: h' <:+ h →
        MeetingActor.StepAuthority ((meetingLoop R meetingId mgr createdAt).stateAfter h') e a.1
          ((meetingLoop R meetingId mgr createdAt).stateAfter ((e, a) :: h'))) ∧
      ∀ h₁ h₂ q p₁ p₂, h₁ <:+ h₂ → h₂ <:+ h →
        StaysIn (meetingLoop R meetingId mgr createdAt) h₁ h₂ q →
        ((meetingLoop R meetingId mgr createdAt).stateAfter h₁).participants.lookup q = some p₁ →
        ((meetingLoop R meetingId mgr createdAt).stateAfter h₂).participants.lookup q = some p₂ →
        Spell (meetingLoop R meetingId mgr createdAt) h₁ h₂ q p₁ p₂ := by
  constructor
  · intro e a h' hs
    obtain ⟨rfl, _⟩ := hr.answer_of_suffix hs
    exact MeetingActor.handle_authority ..
  · intro h₁ h₂ q p₁ p₂ h₁₂ _ hstays hp₁ hp₂
    exact spell_of_staysIn h₁₂ hstays hp₁ hp₂

/-- A host and a guest join, the host mutes the guest, and the guest mutes itself. -/
def muteEvents : List MeetingEvent :=
  [.message 0 sampleDraw₁ 0 (.connectionJoin "conn-1" "user-1" "host-1" true),
    .message 1 sampleDraw₂ 0 (.connectionJoin "conn-2" "user-2" "part-1" false),
    .message 2 sampleDraw₂ 0 (.hostMute "part-1" "host-1" true false),
    .message 3 sampleDraw₂ 0 (.updateSelfMute "part-1" false true)]

theorem mute_authority_muteEvents :
    sampleLoop.Run (sampleLoop.playAll muteEvents).2 (sampleLoop.playAll muteEvents).1 ∧
      ((∀ e a h', (e, a) :: h' <:+ (sampleLoop.playAll muteEvents).2 →
          MeetingActor.StepAuthority (sampleLoop.stateAfter h') e a.1
            (sampleLoop.stateAfter ((e, a) :: h'))) ∧
        ∀ h₁ h₂ q p₁ p₂, h₁ <:+ h₂ → h₂ <:+ (sampleLoop.playAll muteEvents).2 →
          StaysIn sampleLoop h₁ h₂ q →
          (sampleLoop.stateAfter h₁).participants.lookup q = some p₁ →
          (sampleLoop.stateAfter h₂).participants.lookup q = some p₂ →
          Spell sampleLoop h₁ h₂ q p₁ p₂) :=
  have hr := Machine.run_of_admits (M := sampleLoop) (l := muteEvents) (by decide)
  ⟨hr, mute_authority hr⟩

end DarkTower.Mc
