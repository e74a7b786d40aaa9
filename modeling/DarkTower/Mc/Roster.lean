import DarkTower.Lib.Multimap
import DarkTower.Mc.Participants

/-!
# What the participants are told of each other

`handle_join` and `handle_reconnect` answer with the list of the other participants,
and from then on the meeting actor sends each connection the changes
(`broadcast_update`). A roster is what a connection knows: the participants by id.
`Roster.apply` says what an update means, `told` is the roster that a connection has
been told in a history: the list it got, and every update sent to it applied in order.

* `handle_rosterCase`: what one event does to the rosters. That of a participant that
  keeps its connection goes from what it was to what it is.
* `told_of_run`: so in every run, until the meeting ends, every participant with a
  connection has been told exactly the other participants of the meeting, in
  whatever order joins, leaves, losses, reconnects, mutes and timeouts came.
* `told_endMeeting`: the end of the meeting empties the rosters.
-/

namespace DarkTower.Mc

open DarkTower.Common DarkTower.Lib

/-! ## Rosters -/

/-- Participants by id. -/
abbrev Roster := String → Option ParticipantInfo

/-- The participant an update is about. -/
def ParticipantStateUpdate.subject : ParticipantStateUpdate → String
  | .joined info => info.participantId
  | .left participantId _ => participantId
  | .muteChanged participantId _ _ _ _ => participantId
  | .disconnected participantId => participantId
  | .reconnected participantId => participantId

/-- What it says about that participant. -/
def ParticipantStateUpdate.change :
    ParticipantStateUpdate → Option ParticipantInfo → Option ParticipantInfo
  | .joined info, _ => some info
  | .left _ _, _ => none
  | .muteChanged _ audioSelf videoSelf audioHost videoHost, known =>
    known.map fun info =>
      { info with
        audioSelfMuted := audioSelf
        videoSelfMuted := videoSelf
        audioHostMuted := audioHost
        videoHostMuted := videoHost }
  | .disconnected _, known => known.map fun info => { info with status := .disconnected }
  | .reconnected _, known => known.map fun info => { info with status := .connected }

namespace Roster

/-- The roster of a list of participants. -/
def ofList (infos : List ParticipantInfo) : Roster :=
  fun q => infos.find? fun info => info.participantId = q

/-- The roster after an update. -/
def apply (r : Roster) (update : ParticipantStateUpdate) : Roster :=
  Function.update r update.subject (update.change (r update.subject))

/-- The roster without one participant. -/
def without (r : Roster) (p : String) : Roster := Function.update r p none

@[simp] theorem without_self (r : Roster) (p : String) : r.without p p = none :=
  Function.update_self ..

/-- An update about `p` changes nothing for `p` itself. -/
theorem without_apply_subject (r : Roster) (update : ParticipantStateUpdate) :
    (r.apply update).without update.subject = r.without update.subject :=
  Function.update_idem ..

theorem without_apply_of_ne (r : Roster) {update : ParticipantStateUpdate} {p : String}
    (hp : update.subject ≠ p) : (r.apply update).without p = (r.without p).apply update := by
  unfold without apply
  rw [Function.update_of_ne hp, Function.update_comm hp]

end Roster

/-! ## What is sent to a connection -/

/-- The update that an effect sends to a connection. -/
def Effect.updateTo (connectionId : String) : Effect → Option ParticipantStateUpdate
  | .sendUpdate c update => if c = connectionId then some update else none
  | _ => none

/-- The updates sent to a connection, oldest first. -/
def updatesTo (connectionId : String) (effects : List Effect) : List ParticipantStateUpdate :=
  effects.filterMap (·.updateTo connectionId)

@[simp] theorem updatesTo_nil (c : String) : updatesTo c [] = [] := rfl

@[simp] theorem updatesTo_append (c : String) (xs ys : List Effect) :
    updatesTo c (xs ++ ys) = updatesTo c xs ++ updatesTo c ys := by
  simp [updatesTo]

@[simp] theorem updatesTo_cons (c : String) (x : Effect) (xs : List Effect) :
    updatesTo c (x :: xs) = (x.updateTo c).toList ++ updatesTo c xs := by
  cases h : x.updateTo c <;> simp [updatesTo, h]

namespace MeetingActor

variable {R : Ring} {m m' : MeetingActor} {p : String}

/-- All participants as others see them. -/
def infos (m : MeetingActor) : Roster := fun q => (m.participants.lookup q).map Participant.toInfo

/-- The other participants, as `p` should know them. -/
def roster (m : MeetingActor) (p : String) : Roster := m.infos.without p

/-- The connection on record for a participant. -/
def connectionOf (m : MeetingActor) (p : String) : Option ParticipantActorHandle :=
  (m.links p).bind (·.2)

/-- Participants are filed under their ids, and no two have one connection. -/
structure Linked (m : MeetingActor) : Prop where
  key : ∀ p participant, m.participants.lookup p = some participant →
    participant.participantId = p
  distinct : ∀ p q handle handle', m.connectionOf p = some handle →
    m.connectionOf q = some handle' → handle.connectionId = handle'.connectionId → p = q

theorem connectionOf_eq_some {handle : ParticipantActorHandle} :
    m.connectionOf p = some handle ↔
      ∃ participant, m.participants.lookup p = some participant ∧
        participant.connection = some handle := by
  simp [connectionOf, links, Option.bind_eq_some_iff]

theorem participantId_insert (hm : m.Linked) {participant : Participant}
    (hm' : m'.participants = m.participants.insert p participant)
    (hkey : participant.participantId = p) (q : String) (participant' : Participant)
    (hq : m'.participants.lookup q = some participant') : participant'.participantId = q := by
  rw [hm', lookup_insert] at hq
  split_ifs at hq with heq
  · rw [heq, ← hkey, Option.some.inj hq]
  · exact hm.key q participant' hq

/-- Taking participants or their connections away keeps the actor linked. -/
theorem Linked.of_subset (hm : m.Linked)
    (hkey : ∀ q participant, m'.participants.lookup q = some participant →
      participant.participantId = q)
    (hlinks : ∀ q handle, m'.connectionOf q = some handle → m.connectionOf q = some handle) :
    m'.Linked where
  key := hkey
  distinct p q handle handle' hp hq hc :=
    hm.distinct p q handle handle' (hlinks p handle hp) (hlinks q handle' hq) hc

/-! ### Broadcasts -/

/-- A list of entries with one entry at `p` that `f` picks, and no other. -/
theorem filterMap_entries {α : Type} {participants : StringMap Participant}
    {participant : Participant} (hp : participants.lookup p = some participant)
    (f : Participant → Option α)
    (hother : ∀ q other, q ≠ p → participants.lookup q = some other → f other = none) :
    participants.values.filterMap f = (f participant).toList := by
  have hperm := Multimap.flat_of_lookup (fun x => (f x).toList) hp
  have hrest : Multimap.flat (fun x => (f x).toList) (participants.erase p) = [] := by
    refine List.flatMap_eq_nil_iff.mpr fun entry hentry => ?_
    have hlookup : (participants.erase p).lookup entry.1 = some entry.2 :=
      AList.mem_lookup_iff.mpr hentry
    obtain ⟨hne, hold⟩ := Multimap.lookup_erase_eq_some.mp hlookup
    show (f entry.2).toList = []
    rw [hother entry.1 entry.2 hne hold]
    rfl
  rw [hrest, List.append_nil] at hperm
  have hflat : Multimap.flat (fun x => (f x).toList) participants =
      participants.values.filterMap f := by
    rw [Multimap.flat, StringMap.values, List.filterMap_map, List.filterMap_eq_flatMap_toList]
    rfl
  rw [hflat] at hperm
  cases hf : f participant with
  | none => rw [hf] at hperm; exact List.perm_nil.mp hperm
  | some x => rw [hf] at hperm; exact List.perm_singleton.mp hperm

/-- A broadcast reaches the connection of everyone but the one it is about, once. -/
theorem updatesTo_broadcastUpdate (hm : m.Linked) {handle : ParticipantActorHandle}
    (hc : m.connectionOf p = some handle) (except : String) (update : ParticipantStateUpdate) :
    updatesTo handle.connectionId (m.broadcastUpdate except update) =
      if p = except then [] else [update] := by
  obtain ⟨participant, hp, hconn⟩ := connectionOf_eq_some.mp hc
  unfold updatesTo broadcastUpdate
  rw [List.filterMap_filterMap, filterMap_entries hp]
  · rw [hm.key p participant hp, hconn]
    by_cases heq : p = except
    · simp [heq]
    · simp [heq, Effect.updateTo]
  · intro q other hq hother
    split_ifs
    · cases hconn' : other.connection with
      | none => rfl
      | some handle' =>
        have hc' : m.connectionOf q = some handle' :=
          connectionOf_eq_some.mpr ⟨other, hother, hconn'⟩
        have hne : handle'.connectionId ≠ handle.connectionId :=
          fun h => hq (hm.distinct q p handle' handle hc' hc h)
        simp [Effect.updateTo, hne]
    · rfl

/-! ### One event -/

/-- The updates among the effects take the roster of everyone who keeps a connection
    from what it was to what it is. -/
def Tells (m m' : MeetingActor) (effects : List Effect) : Prop :=
  ∀ p handle, m.connectionOf p = some handle → m'.connectionOf p = some handle →
    (updatesTo handle.connectionId effects).foldl Roster.apply (m.roster p) = m'.roster p

theorem infos_insert (p : String) (participant : Participant) :
    ({ m with participants := m.participants.insert p participant } : MeetingActor).infos =
      Function.update m.infos p (some participant.toInfo) := by
  funext q
  rw [infos, lookup_insert, Function.update_apply]
  split_ifs <;> rfl

theorem infos_erase (p : String) :
    ({ m with participants := m.participants.erase p } : MeetingActor).infos =
      m.infos.without p := by
  funext q
  rw [infos, lookup_erase, Roster.without, Function.update_apply]
  split_ifs <;> rfl

/-- A broadcast tells what it says. -/
theorem tells_broadcastUpdate (update : ParticipantStateUpdate) (hm' : m'.Linked)
    (hinfos : m'.infos = m.infos.apply update) :
    Tells m m' (m'.broadcastUpdate update.subject update) := by
  intro p handle _ hc'
  rw [updatesTo_broadcastUpdate hm' hc', roster, roster, hinfos]
  split_ifs with hp
  · rw [hp, Roster.without_apply_subject]
    rfl
  · rw [Roster.without_apply_of_ne _ (Ne.symm hp)]
    rfl

theorem Tells.of_updatesTo {effects effects' : List Effect} (h : Tells m m' effects)
    (heq : ∀ c, updatesTo c effects' = updatesTo c effects) : Tells m m' effects' := by
  intro p handle hc hc'
  rw [heq]
  exact h p handle hc hc'

theorem tells_of_infos {effects : List Effect} (hinfos : m'.infos = m.infos)
    (hnone : ∀ c, updatesTo c effects = []) : Tells m m' effects := by
  intro p handle _ _
  rw [hnone, roster, roster, hinfos]
  rfl

/-- An event that opens no connection. -/
structure Narrows (m m' : MeetingActor) (effects : List Effect) : Prop where
  linked : m.Linked → m'.Linked
  keeps : ∀ p handle, m'.connectionOf p = some handle → m.connectionOf p = some handle
  tells : m.Linked → Tells m m' effects

theorem Narrows.trans {m'' : MeetingActor} {effects effects' : List Effect}
    (h : Narrows m m' effects) (h' : Narrows m' m'' effects') :
    Narrows m m'' (effects ++ effects') where
  linked hm := h'.linked (h.linked hm)
  keeps p handle hc := h.keeps p handle (h'.keeps p handle hc)
  tells hm p handle hc hc'' := by
    have hc' := h'.keeps p handle hc''
    rw [updatesTo_append, List.foldl_append, h.tells hm p handle hc hc',
      h'.tells (h.linked hm) p handle hc' hc'']

/-- An event that changes neither participants nor tells anyone anything. -/
theorem narrows_of_participants {effects : List Effect}
    (hsame : m'.participants = m.participants) (hnone : ∀ c, updatesTo c effects = []) :
    Narrows m m' effects := by
  have hlinks : ∀ q handle, m'.connectionOf q = some handle → m.connectionOf q = some handle := by
    intro q handle hc
    rwa [connectionOf, links, hsame] at hc
  refine ⟨fun hm => hm.of_subset (fun q participant hq => hm.key q participant ?_) hlinks, hlinks,
    fun _ => tells_of_infos ?_ hnone⟩
  · rwa [hsame] at hq
  · unfold infos
    rw [hsame]

/-- A participant's entry is replaced by one that keeps its id, and its connection or
    none, and that is broadcast. -/
theorem narrows_of_insert (update : ParticipantStateUpdate)
    {participant participant' : Participant} {effects : List Effect}
    (hp : m.participants.lookup p = some participant)
    (hm' : m'.participants = m.participants.insert p participant')
    (hid : participant'.participantId = participant.participantId)
    (hconn : participant'.connection = participant.connection ∨ participant'.connection = none)
    (hsubject : update.subject = p)
    (hchange : update.change (some participant.toInfo) = some participant'.toInfo)
    (heffects : ∀ c, updatesTo c effects = updatesTo c (m'.broadcastUpdate p update)) :
    Narrows m m' effects := by
  have hlinks : ∀ q handle, m'.connectionOf q = some handle → m.connectionOf q = some handle := by
    intro q handle hc
    obtain ⟨other, hq, hother⟩ := connectionOf_eq_some.mp hc
    rw [hm', lookup_insert] at hq
    split_ifs at hq with heq
    · obtain rfl := Option.some.inj hq
      refine connectionOf_eq_some.mpr ⟨participant, heq ▸ hp, ?_⟩
      rcases hconn with hconn | hconn
      · rw [← hconn, hother]
      · rw [hconn] at hother
        cases hother
    · exact connectionOf_eq_some.mpr ⟨other, hq, hother⟩
  have hlinked : m.Linked → m'.Linked := by
    intro hm
    refine hm.of_subset ?_ hlinks
    exact participantId_insert hm hm' (hid.trans (hm.key p participant hp))
  refine ⟨hlinked, hlinks, fun hm => ?_⟩
  refine Tells.of_updatesTo ?_ heffects
  rw [← hsubject]
  refine tells_broadcastUpdate update (hlinked hm) ?_
  have hinfos : m'.infos = Function.update m.infos p (some participant'.toInfo) := by
    rw [← infos_insert]
    unfold infos
    rw [hm']
  rw [hinfos, Roster.apply, hsubject]
  congr 1
  rw [infos, hp, Option.map_some, hchange]

/-- A participant is taken out, and that is broadcast. -/
theorem narrows_of_erase (reason : LeaveReason) {effects : List Effect}
    (hm' : m'.participants = m.participants.erase p)
    (heffects : ∀ c, updatesTo c effects =
      updatesTo c (m'.broadcastUpdate p (.left p reason))) : Narrows m m' effects := by
  have hlinks : ∀ q handle, m'.connectionOf q = some handle → m.connectionOf q = some handle := by
    intro q handle hc
    obtain ⟨other, hq, hother⟩ := connectionOf_eq_some.mp hc
    rw [hm'] at hq
    exact connectionOf_eq_some.mpr ⟨other, (Multimap.lookup_erase_eq_some.mp hq).2, hother⟩
  have hlinked : m.Linked → m'.Linked := by
    intro hm
    refine hm.of_subset (fun q other hq => ?_) hlinks
    rw [hm'] at hq
    exact hm.key q other (Multimap.lookup_erase_eq_some.mp hq).2
  refine ⟨hlinked, hlinks, fun hm => ?_⟩
  refine Tells.of_updatesTo ?_ heffects
  refine tells_broadcastUpdate (.left p reason) (hlinked hm) ?_
  have hinfos : m'.infos = m.infos.without p := by
    rw [← infos_erase]
    unfold infos
    rw [hm']
  rw [hinfos]
  rfl

/-! ### One lemma per handler -/

theorem handleDisconnect_narrows (now : ℕ) (connectionId p : String) :
    Narrows m (m.handleDisconnect now connectionId p).actor
      (m.handleDisconnect now connectionId p).effects := by
  unfold handleDisconnect
  cases hp : m.participants.lookup p with
  | none =>
    refine narrows_of_participants rfl fun c => ?_
    dsimp only
    split_ifs <;> simp [Effect.updateTo]
  | some participant =>
    refine narrows_of_insert (.disconnected p) hp rfl rfl (.inr rfl) rfl rfl fun c => ?_
    dsimp only
    split_ifs <;> simp [Effect.updateTo]

theorem handleSelfMute_narrows (p : String) (audioMuted videoMuted : Bool) :
    Narrows m (m.handleSelfMute p audioMuted videoMuted).actor
      (m.handleSelfMute p audioMuted videoMuted).effects := by
  unfold handleSelfMute
  cases hp : m.participants.lookup p with
  | none => exact narrows_of_participants rfl fun _ => rfl
  | some participant => exact narrows_of_insert _ hp rfl rfl (.inl rfl) rfl rfl fun _ => rfl

theorem handleSignaling_narrows (p : String) (message : SignalingPayload) :
    Narrows m (m.handleSignaling p message).actor (m.handleSignaling p message).effects := by
  unfold handleSignaling
  split_ifs
  · cases message with
    | muteUpdate audioMuted videoMuted => exact handleSelfMute_narrows p audioMuted videoMuted
    | layoutSubscribe _ => exact narrows_of_participants rfl fun _ => rfl
    | chat _ => exact narrows_of_participants rfl fun _ => rfl
    | raw _ _ => exact narrows_of_participants rfl fun _ => rfl
  · exact narrows_of_participants rfl fun _ => rfl

theorem handleHostMute_narrows (target mutedBy : String) (audioMuted videoMuted : Bool) :
    Narrows m (m.handleHostMute target mutedBy audioMuted videoMuted).actor
      (m.handleHostMute target mutedBy audioMuted videoMuted).effects := by
  unfold handleHostMute
  dsimp only
  split_ifs
  · exact narrows_of_participants rfl fun _ => rfl
  · cases hp : m.participants.lookup target with
    | none => exact narrows_of_participants rfl fun _ => rfl
    | some participant => exact narrows_of_insert _ hp rfl rfl (.inl rfl) rfl rfl fun _ => rfl

theorem handleLeave_narrows (p : String) :
    Narrows m (m.handleLeave p).actor (m.handleLeave p).effects := by
  unfold handleLeave
  cases hp : m.participants.lookup p with
  | none => exact narrows_of_participants rfl fun _ => rfl
  | some participant =>
    refine narrows_of_erase .voluntary rfl fun c => ?_
    cases hconn : participant.connection <;> simp [hconn, Effect.updateTo]

theorem removeTimedOut_narrows (h₀ : Handled Unit) (p : String) :
    ∃ effects, (removeTimedOut h₀ p).effects = h₀.effects ++ effects ∧
      Narrows h₀.actor (removeTimedOut h₀ p).actor effects := by
  unfold removeTimedOut
  cases hp : h₀.actor.participants.lookup p with
  | none =>
    exact ⟨[], (List.append_nil _).symm, narrows_of_participants rfl fun _ => rfl⟩
  | some participant =>
    refine ⟨_, List.append_assoc .., narrows_of_erase .timeout rfl fun c => ?_⟩
    simp [Effect.updateTo]

theorem reapConnection_narrows (now : ℕ) (h₀ : Handled Unit) (task : String × Bool) :
    ∃ effects, (reapConnection now h₀ task).effects = h₀.effects ++ effects ∧
      Narrows h₀.actor (reapConnection now h₀ task).actor effects := by
  unfold reapConnection
  cases hc : h₀.actor.connections.lookup task.1 with
  | none =>
    exact ⟨[], (List.append_nil _).symm, narrows_of_participants rfl fun _ => rfl⟩
  | some managed =>
    refine ⟨_, List.append_assoc .., ?_⟩
    have herased : Narrows h₀.actor
        { h₀.actor with connections := h₀.actor.connections.erase task.1 }
        (if task.2 then [.recordPanic] else []) := by
      refine narrows_of_participants rfl fun c => ?_
      cases task.2 <;> rfl
    exact herased.trans (handleDisconnect_narrows ..)

/-- A loop of such rounds opens no connection either. -/
theorem foldl_narrows {α : Type} {round : Handled Unit → α → Handled Unit}
    (hround : ∀ h₀ x, ∃ effects, (round h₀ x).effects = h₀.effects ++ effects ∧
      Narrows h₀.actor (round h₀ x).actor effects) (xs : List α) (h₀ : Handled Unit) :
    ∃ effects, (xs.foldl round h₀).effects = h₀.effects ++ effects ∧
      Narrows h₀.actor (xs.foldl round h₀).actor effects := by
  induction xs generalizing h₀ with
  | nil => exact ⟨[], (List.append_nil _).symm, narrows_of_participants rfl fun _ => rfl⟩
  | cons x xs ih =>
    obtain ⟨effects, heffects, hnarrows⟩ := hround h₀ x
    obtain ⟨effects', heffects', hnarrows'⟩ := ih (round h₀ x)
    refine ⟨effects ++ effects', ?_, hnarrows.trans hnarrows'⟩
    rw [List.foldl_cons, heffects', heffects, List.append_assoc]

theorem checkDisconnectTimeouts_narrows (now : ℕ) :
    Narrows m (m.checkDisconnectTimeouts now).actor (m.checkDisconnectTimeouts now).effects := by
  obtain ⟨effects, heffects, hnarrows⟩ :=
    foldl_narrows removeTimedOut_narrows (m.timedOutIds now) ⟨m, [], ()⟩
  rw [List.nil_append] at heffects
  rw [checkDisconnectTimeouts, heffects]
  exact hnarrows

theorem checkConnectionHealth_narrows (now : ℕ) (finished : List (String × Bool)) :
    Narrows m (m.checkConnectionHealth now finished).actor
      (m.checkConnectionHealth now finished).effects := by
  obtain ⟨effects, heffects, hnarrows⟩ :=
    foldl_narrows (reapConnection_narrows now) finished ⟨m, [], ()⟩
  rw [List.nil_append] at heffects
  rw [checkConnectionHealth, heffects]
  exact hnarrows

/-! ### New connections -/

/-- The list in the answer to a join or a reconnect over a connection. -/
def opened (connectionId : String) : MeetingEvent → Reply → Option (List ParticipantInfo)
  | .message _ _ _ (.connectionJoin c _ _ _), .join (.ok result) =>
    if c = connectionId then some result.participants else none
  | .message _ _ _ (.connectionReconnect c _ _), .reconnect (.ok result) =>
    if c = connectionId then some result.participants else none
  | _, _ => none

theorem newConnections_of_opened {e : MeetingEvent} {reply : Reply} {c : String}
    {infos : List ParticipantInfo} (h : opened c e reply = some infos) :
    MeetingSystem.newConnections e = [c] := by
  unfold opened at h
  split at h
  · split_ifs at h with hc
    rw [← hc]
    rfl
  · split_ifs at h with hc
    rw [← hc]
    rfl
  · cases h

theorem opened_eq_none {e : MeetingEvent} {reply : Reply} {c connectionId : String}
    (hnew : MeetingSystem.newConnections e = [connectionId]) (hne : c ≠ connectionId) :
    opened c e reply = none := by
  by_contra hsome
  obtain ⟨infos, h⟩ := Option.ne_none_iff_exists'.mp hsome
  have hc := newConnections_of_opened h
  rw [hnew] at hc
  exact hne (List.singleton_injective hc).symm

theorem mem_otherParticipants {info : ParticipantInfo} (hm : m.Linked) :
    info ∈ m.otherParticipants p ↔ ∃ q participant, m.participants.lookup q = some participant ∧
      q ≠ p ∧ participant.toInfo = info := by
  have hvalues : ∀ participant, participant ∈ m.participants.values ↔
      ∃ q, m.participants.lookup q = some participant := by
    intro participant
    constructor
    · intro hmem
      obtain ⟨entry, hentry, rfl⟩ := List.mem_map.mp hmem
      exact ⟨entry.1, AList.mem_lookup_iff.mpr hentry⟩
    · rintro ⟨q, hq⟩
      exact List.mem_map.mpr ⟨⟨q, participant⟩, AList.mem_lookup_iff.mp hq, rfl⟩
  simp only [otherParticipants, List.mem_map, List.mem_filter, hvalues, decide_eq_true_eq]
  constructor
  · rintro ⟨participant, ⟨⟨q, hq⟩, hne⟩, hinfo⟩
    exact ⟨q, participant, hq, hm.key q participant hq ▸ hne, hinfo⟩
  · rintro ⟨q, participant, hq, hne, hinfo⟩
    exact ⟨participant, ⟨⟨q, hq⟩, (hm.key q participant hq).symm ▸ hne⟩, hinfo⟩

/-- The list in an answer is the roster of the one who is answered. -/
theorem ofList_otherParticipants (hm : m.Linked) (p : String) :
    Roster.ofList (m.otherParticipants p) = m.roster p := by
  funext q
  have hroster : ∀ info, m.roster p q = some info ↔
      ∃ participant, m.participants.lookup q = some participant ∧ q ≠ p ∧
        participant.toInfo = info := by
    intro info
    rw [roster, Roster.without, Function.update_apply]
    split_ifs with hq
    · simp [hq]
    · simp [infos, hq]
  cases hfind : Roster.ofList (m.otherParticipants p) q with
  | none =>
    symm
    by_contra hsome
    obtain ⟨info, hinfo⟩ := Option.ne_none_iff_exists'.mp hsome
    obtain ⟨participant, hq, hne, rfl⟩ := (hroster info).mp hinfo
    have hmem := (mem_otherParticipants hm).mpr ⟨q, participant, hq, hne, rfl⟩
    have hnot := List.find?_eq_none.mp hfind _ hmem
    exact hnot (decide_eq_true (hm.key q participant hq))
  | some info =>
    symm
    have hid : info.participantId = q := by simpa using List.find?_some hfind
    obtain ⟨q', participant, hq', hne, rfl⟩ :=
      (mem_otherParticipants hm).mp (List.mem_of_find?_eq_some hfind)
    obtain rfl : q' = q := (hm.key q' participant hq').symm.trans hid
    exact (hroster _).mpr ⟨participant, hq', hne, rfl⟩

/-- An event that opens a connection of `p`. -/
structure Connects (m m' : MeetingActor) (e : MeetingEvent) (reply : Reply) (effects : List Effect)
    (connectionId p : String) : Prop where
  new : MeetingSystem.newConnections e = [connectionId]
  opened : ∃ infos, opened connectionId e reply = some infos ∧
    (m'.Linked → Roster.ofList infos = m'.roster p)
  key : m.Linked → ∀ q participant, m'.participants.lookup q = some participant →
    participant.participantId = q
  links : ∀ q, m'.connectionOf q =
    if q = p then some ⟨connectionId, p⟩ else m.connectionOf q
  spawned : ⟨connectionId, p⟩ ∈ spawns effects
  tells : m'.Linked → Tells m m' effects

theorem connectionOf_insert {participant : Participant} {handle : ParticipantActorHandle}
    (hm' : m'.participants = m.participants.insert p participant)
    (hconn : participant.connection = some handle) (q : String) :
    m'.connectionOf q = if q = p then some handle else m.connectionOf q := by
  unfold connectionOf links
  rw [hm', lookup_insert]
  split_ifs
  · simp [hconn]
  · rfl

/-- The entry of a new connection is put in place and broadcast. -/
theorem tells_of_insert (update : ParticipantStateUpdate) {participant : Participant}
    {effects : List Effect} (hlinked : m'.Linked)
    (hm' : m'.participants = m.participants.insert p participant)
    (hsubject : update.subject = p)
    (hchange : update.change (m.infos p) = some participant.toInfo)
    (heffects : ∀ c, updatesTo c effects = updatesTo c (m'.broadcastUpdate p update)) :
    Tells m m' effects := by
  refine Tells.of_updatesTo ?_ heffects
  rw [← hsubject]
  refine tells_broadcastUpdate update hlinked ?_
  have hinfos : m'.infos = Function.update m.infos p (some participant.toInfo) := by
    rw [← infos_insert]
    unfold infos
    rw [hm']
  rw [hinfos, Roster.apply, hsubject, hchange]

/-- What one event does to what the participants know of each other. -/
inductive RosterCase (R : Ring) (m : MeetingActor) (e : MeetingEvent) : Prop
  | narrows (hopened : ∀ c, opened c e (m.handle R e).result = none)
      (h : Narrows m (m.handle R e).actor (m.handle R e).effects)
  | connects (connectionId p : String)
      (h : Connects m (m.handle R e).actor e (m.handle R e).result (m.handle R e).effects
        connectionId p)
  | ends (hopened : ∀ c, opened c e (m.handle R e).result = none)
      (h : (m.handle R e).actor.isShuttingDown = true)

theorem handleJoin_rosterCase (now : ℕ) (draw : Draw) (depth : ℕ)
    (connectionId userId p : String) (isHost : Bool) :
    RosterCase R m (.message now draw depth (.connectionJoin connectionId userId p isHost)) := by
  by_cases hs : m.isShuttingDown = true
  · refine .narrows (fun c => ?_) (narrows_of_participants ?_ fun c => ?_) <;>
      simp [handle, handleMessage, handleJoin, hs, opened]
  by_cases hp : p ∈ m.participants
  · refine .narrows (fun c => ?_) (narrows_of_participants ?_ fun c => ?_) <;>
      simp [handle, handleMessage, handleJoin, hs, hp, opened]
  refine .connects connectionId p ?_
  simp only [handle, handleMessage, handleJoin, hs, hp, Bool.false_eq_true, if_false,
    Handled.map_actor, Handled.map_effects, Handled.map_result]
  refine ⟨rfl, ⟨_, if_pos rfl, fun hlinked => ofList_otherParticipants hlinked p⟩,
    fun hm => participantId_insert hm rfl rfl, connectionOf_insert rfl rfl,
    by simp [Effect.spawned?], fun hlinked => ?_⟩
  refine tells_of_insert (.joined _) hlinked rfl rfl rfl fun c => ?_
  simp [Effect.updateTo]

theorem handleReconnect_rosterCase (now : ℕ) (draw : Draw) (depth : ℕ)
    (connectionId c token : String) :
    RosterCase R m (.message now draw depth (.connectionReconnect connectionId c token)) := by
  cases hstored : m.storedBindings.lookup c with
  | none =>
    refine .narrows (fun c => ?_) (narrows_of_participants ?_ fun c => ?_) <;>
      simp [handle, handleMessage, handleReconnect, hstored, opened]
  | some stored =>
    by_cases hexp : stored.isExpired now = true
    · refine .narrows (fun c => ?_) (narrows_of_participants ?_ fun c => ?_) <;>
        simp [handle, handleMessage, handleReconnect, hstored, hexp, opened]
    by_cases hvalid : m.bindingManager.validateToken R m.meetingId c stored.participantId
        stored.nonce token = true
    · cases howner : m.correlationToParticipant.lookup c with
      | none =>
        refine .narrows (fun c => ?_) (narrows_of_participants ?_ fun c => ?_) <;>
          simp [handle, handleMessage, handleReconnect, hstored, hexp, hvalid, howner, opened]
      | some p =>
        cases hp : m.participants.lookup p with
        | none =>
          refine .narrows (fun c => ?_) (narrows_of_participants ?_ fun c => ?_) <;>
            simp [handle, handleMessage, handleReconnect, hstored, hexp, hvalid, howner, hp,
              opened]
        | some participant =>
          refine .connects connectionId p ?_
          simp only [handle, handleMessage, handleReconnect, hstored, hexp, hvalid, howner, hp,
            Bool.not_true, Bool.false_eq_true, if_false, Handled.map_actor, Handled.map_effects,
            Handled.map_result]
          refine ⟨rfl, ⟨_, if_pos rfl, fun hlinked => ofList_otherParticipants hlinked p⟩,
            fun hm => participantId_insert hm rfl (hm.key p participant hp),
            connectionOf_insert rfl rfl, by simp [Effect.spawned?], fun hlinked => ?_⟩
          refine tells_of_insert (.reconnected p) hlinked rfl rfl ?_ fun c => ?_
          · rw [infos, hp]
            rfl
          · simp [Effect.updateTo]
    · refine .narrows (fun c => ?_) (narrows_of_participants ?_ fun c => ?_) <;>
        simp [handle, handleMessage, handleReconnect, hstored, hexp, hvalid, opened]

theorem handle_rosterCase (e : MeetingEvent) : RosterCase R m e := by
  cases e with
  | message now draw depth message =>
    cases message with
    | connectionJoin connectionId userId p isHost => exact handleJoin_rosterCase ..
    | connectionDisconnected connectionId p =>
      exact .narrows (fun _ => rfl) (handleDisconnect_narrows now connectionId p)
    | connectionReconnect connectionId c token => exact handleReconnect_rosterCase ..
    | participantLeave p => exact .narrows (fun _ => rfl) (handleLeave_narrows p)
    | signalingMessage p message =>
      exact .narrows (fun _ => rfl) (handleSignaling_narrows p message)
    | getState => exact .narrows (fun _ => rfl) (narrows_of_participants rfl fun _ => rfl)
    | updateSelfMute p audioMuted videoMuted =>
      exact .narrows (fun _ => rfl) (handleSelfMute_narrows p audioMuted videoMuted)
    | hostMute target mutedBy audioMuted videoMuted =>
      exact .narrows (fun _ => rfl) (handleHostMute_narrows target mutedBy audioMuted videoMuted)
    | endMeeting reason => exact .ends (fun _ => rfl) rfl
  | tick now => exact .narrows (fun _ => rfl) (checkDisconnectTimeouts_narrows now)
  | health now finished =>
    exact .narrows (fun _ => rfl) (checkConnectionHealth_narrows now finished)
  | shutdown now => exact .ends (fun _ => rfl) rfl

theorem spawned_of_opened {e : MeetingEvent} {c : String} {infos : List ParticipantInfo}
    (hopened : opened c e (m.handle R e).result = some infos) :
    ∃ p, ⟨c, p⟩ ∈ spawns (m.handle R e).effects := by
  cases handle_rosterCase (R := R) (m := m) e with
  | narrows hnone _ =>
    rw [hnone] at hopened
    cases hopened
  | ends hnone _ =>
    rw [hnone] at hopened
    cases hopened
  | connects connectionId p h =>
    refine ⟨p, ?_⟩
    by_cases hc : c = connectionId
    · exact hc ▸ h.spawned
    · rw [opened_eq_none h.new hc] at hopened
      cases hopened

end MeetingActor

/-! ## Runs -/

/-- The roster that a connection has been told: the list in the answer that opened it, and
    every update sent to it since. -/
def told (connectionId : String) : MeetingHistory → Option Roster
  | [] => none
  | (e, reply, effects) :: h =>
    match MeetingActor.opened connectionId e reply with
    | some infos => some (Roster.ofList infos)
    | none => (told connectionId h).map ((updatesTo connectionId effects).foldl Roster.apply ·)

/-- Everyone with a connection has been told the others. -/
structure Informed (h : MeetingHistory) (s : MeetingSystem) : Prop where
  linked : s.actor.Linked
  spawned : ∀ p handle, s.actor.connectionOf p = some handle → handle ∈ s.spawned
  heard : ∀ p handle, s.actor.connectionOf p = some handle →
    told handle.connectionId h = some (s.actor.roster p)

variable {R : Ring} {meetingId : String} {mgr : SessionBindingManager} {createdAt : ℤ}

theorem linked_spawn : (MeetingActor.spawn meetingId mgr createdAt).Linked where
  key p participant hp := by simp [MeetingActor.spawn] at hp
  distinct p q handle handle' hp := by
    simp [MeetingActor.connectionOf, MeetingActor.links, MeetingActor.spawn] at hp

/-- A new connection is on no record yet, so the actor stays linked. -/
theorem MeetingActor.Connects.linked {m m' : MeetingActor} {e : MeetingEvent} {reply : Reply}
    {effects : List Effect} {connectionId p : String}
    (h : Connects m m' e reply effects connectionId p) (hm : m.Linked)
    (hnew : ∀ q handle, m.connectionOf q = some handle → handle.connectionId ≠ connectionId) :
    m'.Linked where
  key := h.key hm
  distinct q q' handle handle' hq hq' hc := by
    rw [h.links] at hq hq'
    split_ifs at hq hq' with heq heq'
    · rw [heq, heq']
    · obtain rfl := Option.some.inj hq
      exact absurd hc.symm (hnew q' handle' hq')
    · obtain rfl := Option.some.inj hq'
      exact absurd hc (hnew q handle hq)
    · exact hm.distinct q q' handle handle' hq hq' hc

/-- A turn of the meeting actor keeps everyone informed, unless it ends the meeting. -/
theorem Informed.meeting {h : MeetingHistory} {s : MeetingSystem} {e : MeetingEvent}
    (hs : Informed h s) (hgenuine : s.Genuine e)
    (hopen : (s.actor.handle R e).actor.isShuttingDown = false) :
    Informed ((e, (s.actor.handle R e).result, (s.actor.handle R e).effects) :: h)
      (s.step R (.meeting e)).1 := by
  cases MeetingActor.handle_rosterCase (R := R) (m := s.actor) e with
  | ends _ hends =>
    rw [hopen] at hends
    cases hends
  | narrows hopened hnarrows =>
    refine ⟨hnarrows.linked hs.linked, fun p handle hc => ?_, fun p handle hc => ?_⟩
    · exact List.mem_append_right _ (hs.spawned p handle (hnarrows.keeps p handle hc))
    · have hold := hnarrows.keeps p handle hc
      simp only [told, hopened, hs.heard p handle hold, Option.map_some,
        hnarrows.tells hs.linked p handle hold hc]
      rfl
  | connects connectionId p hconnects =>
    obtain ⟨infos, hopened, hinfos⟩ := hconnects.opened
    have hnew : ∀ q handle, s.actor.connectionOf q = some handle →
        handle.connectionId ≠ connectionId := by
      intro q handle hc
      exact hgenuine.1 connectionId (by rw [hconnects.new]; exact List.mem_singleton_self _) handle
        (hs.spawned q handle hc)
    have hlinked := hconnects.linked hs.linked hnew
    refine ⟨hlinked, fun q handle hc => ?_, fun q handle hc => ?_⟩
    · have hlinks : (s.step R (.meeting e)).1.actor.connectionOf q = _ := hconnects.links q
      rw [hlinks] at hc
      split_ifs at hc with hq
      · obtain rfl := Option.some.inj hc
        exact List.mem_append_left _ hconnects.spawned
      · exact List.mem_append_right _ (hs.spawned q handle hc)
    · have hlinks : (s.step R (.meeting e)).1.actor.connectionOf q = _ := hconnects.links q
      have hc' := hc
      rw [hlinks] at hc
      split_ifs at hc with hq
      · obtain rfl := Option.some.inj hc
        rw [told, hopened]
        exact congrArg some (hq ▸ hinfos hlinked)
      · have hother : MeetingActor.opened handle.connectionId e (s.actor.handle R e).result =
            none := MeetingActor.opened_eq_none hconnects.new (hnew q handle hc)
        simp only [told, hother, hs.heard q handle hc, Option.map_some,
          hconnects.tells hlinked q handle hc hc']
        rfl

theorem informed_of_run {h : SystemHistory} {s : MeetingSystem}
    (hr : (meetingSystem R meetingId mgr createdAt).Run h s)
    (hopen : s.actor.isShuttingDown = false) : Informed (meetingHistory h) s := by
  refine Machine.Run.invariant (I := fun h s => s.actor.isShuttingDown = false →
    Informed (meetingHistory h) s) ?_ ?_ hr hopen
  · intro _
    refine ⟨linked_spawn, fun p handle hc => ?_, fun p handle hc => ?_⟩ <;>
      simp [meetingSystem, MeetingActor.connectionOf, MeetingActor.links, MeetingActor.spawn] at hc
  · intro h s e _ hallowed hs hopen
    cases e with
    | meeting e =>
      have hbefore : s.actor.isShuttingDown = false := by
        by_contra hends
        have hafter := s.actor.handle_isShuttingDown (R := R) e (Bool.not_eq_false _ ▸ hends)
        rw [show (s.actor.handle R e).actor.isShuttingDown = false from hopen] at hafter
        cases hafter
      exact (hs hbefore).meeting hallowed.2 hopen
    | exit handle => exact ⟨(hs hopen).linked, (hs hopen).spawned, (hs hopen).heard⟩
    | panic handle => exact ⟨(hs hopen).linked, (hs hopen).spawned, (hs hopen).heard⟩

/-- Until the meeting shuts down, everyone with a connection has been told exactly the
    other participants, as they are. -/
theorem told_of_run {h : SystemHistory} {s : MeetingSystem}
    (hr : (meetingSystem R meetingId mgr createdAt).Run h s)
    (hopen : s.actor.isShuttingDown = false) {p : String} {handle : ParticipantActorHandle}
    (hc : s.actor.connectionOf p = some handle) :
    told handle.connectionId (meetingHistory h) = some (s.actor.roster p) :=
  (informed_of_run hr hopen).heard p handle hc

/-- Two participants join, the first mutes itself and loses its connection, a third one
    joins and the first comes back. -/
def rosterEvents : List SystemEvent :=
  [.meeting (.message 0 sampleDraw₁ 0 (.connectionJoin "conn-1" "user-1" "part-1" true)),
    .meeting (.message 1 ⟨"id-2", [1]⟩ 0 (.connectionJoin "conn-2" "user-2" "part-2" false)),
    .meeting (.message 2 ⟨"id-3", [2]⟩ 0 (.updateSelfMute "part-1" true false)),
    .exit ⟨"conn-1", "part-1"⟩,
    .meeting (.message 3 ⟨"id-4", [3]⟩ 0 (.connectionDisconnected "conn-1" "part-1")),
    .meeting (.message 4 ⟨"id-5", [4]⟩ 0 (.connectionJoin "conn-3" "user-3" "part-3" false)),
    .meeting (.message (fromSecs 1) sampleDraw₂ 0 (.connectionReconnect "conn-4"
      sampleDraw₁.correlationId
      "8e6407357e4899fce0b8a87f57fd9247d4f6044589bb2d6c0998b97050bbf434"))]

theorem told_of_run_back :
    told "conn-2" (meetingHistory (sampleSystem.playAll rosterEvents).2) =
        some ((sampleSystem.playAll rosterEvents).1.actor.roster "part-2") ∧
      ((sampleSystem.playAll rosterEvents).1.actor.roster "part-2" "part-1").map
          (fun info => (info.audioSelfMuted, info.status)) = some (true, .connected) :=
  have hc : (sampleSystem.playAll rosterEvents).1.actor.connectionOf "part-2" =
      some ⟨"conn-2", "part-2"⟩ := by decide
  ⟨told_of_run (Machine.run_of_admits (by decide)) (by decide) hc, by decide⟩

/-! ## The end of the meeting -/

theorem Roster.foldl_left (r : Roster) (ids : List String) (reason : LeaveReason) :
    (ids.map fun q => ParticipantStateUpdate.left q reason).foldl Roster.apply r =
      fun q => if q ∈ ids then none else r q := by
  induction ids generalizing r with
  | nil => funext q; simp
  | cons p ids ih =>
    rw [List.map_cons, List.foldl_cons, ih]
    funext q
    by_cases hq : q = p
    · simp [hq, Roster.apply, ParticipantStateUpdate.subject, ParticipantStateUpdate.change]
    · simp [hq, Roster.apply, ParticipantStateUpdate.subject]

/-- The end of a meeting takes everyone off everyone's roster. -/
theorem told_endMeeting {h : SystemHistory} {s : MeetingSystem}
    (hr : (meetingSystem R meetingId mgr createdAt).Run h s)
    (hopen : s.actor.isShuttingDown = false) {p : String} {handle : ParticipantActorHandle}
    (hc : s.actor.connectionOf p = some handle) (now : ℕ) (draw : Draw) (depth : ℕ)
    (reason : String) :
    told handle.connectionId ((.message now draw depth (.endMeeting reason), .done (.ok ()),
      s.actor.handleEndMeeting.effects) :: meetingHistory h) = some fun _ => none := by
  have hs := informed_of_run hr hopen
  have hupdates : updatesTo handle.connectionId s.actor.handleEndMeeting.effects =
      (s.actor.participants.keys.filter (· ≠ p)).map (.left · .meetingEnded) := by
    have hcancel : updatesTo handle.connectionId (s.actor.connections.values.map fun managed =>
        .cancel managed.handle.connectionId) = [] := by
      refine List.filterMap_eq_nil_iff.mpr fun x hx => ?_
      obtain ⟨managed, _, rfl⟩ := List.mem_map.mp hx
      rfl
    rw [MeetingActor.handleEndMeeting, updatesTo_append, hcancel, List.append_nil]
    generalize s.actor.participants.keys = ids
    induction ids with
    | nil => rfl
    | cons q ids ih =>
      rw [List.flatMap_cons, updatesTo_append, ih,
        MeetingActor.updatesTo_broadcastUpdate hs.linked hc]
      by_cases hq : p = q
      · rw [if_pos hq, List.filter_cons_of_neg (by simp [hq])]
        rfl
      · rw [if_neg hq, List.filter_cons_of_pos (by simp [Ne.symm hq])]
        rfl
  have hopened : MeetingActor.opened handle.connectionId
      (.message now draw depth (.endMeeting reason)) (.done (.ok ())) = none := rfl
  simp only [told, hopened, hs.heard p handle hc, Option.map_some, hupdates]
  refine congrArg some ((Roster.foldl_left _ _ _).trans ?_)
  funext q
  split_ifs with hq
  · rfl
  · rw [MeetingActor.roster, Roster.without, Function.update_apply]
    split_ifs with hp
    · rfl
    · have hnone : s.actor.participants.lookup q = none := by
        refine AList.lookup_eq_none.mpr fun hmem => hq (List.mem_filter.mpr ⟨hmem, ?_⟩)
        exact decide_eq_true hp
      rw [MeetingActor.infos, hnone]
      rfl

theorem told_endMeeting_back :
    told "conn-2" ((.message 9 ⟨"id-9", []⟩ 0 (.endMeeting "done"), .done (.ok ()),
        (sampleSystem.playAll rosterEvents).1.actor.handleEndMeeting.effects) ::
      meetingHistory (sampleSystem.playAll rosterEvents).2) = some fun _ => none :=
  have hc : (sampleSystem.playAll rosterEvents).1.actor.connectionOf "part-2" =
      some ⟨"conn-2", "part-2"⟩ := by decide
  told_endMeeting (Machine.run_of_admits (by decide)) (by decide) hc 9 _ 0 "done"

end DarkTower.Mc
