import DarkTower.Lib.Pipe
import DarkTower.Mc.Roster

/-!
# The roster on its way to the client

A join gets a `ParticipantActor` with the sender of a bounded channel
(`mc-service/src/actors/participant.rs`). The actor takes the updates of the meeting
from its mailbox, encodes those that go on the wire (`webtransport/handler.rs`) and
puts them into the channel with `try_send`: an update that meets a full channel is
lost. The connection task writes the `JoinResponse` and then what the channel holds
(`webtransport/connection.rs`). A reconnect gets no stream.

* `received_sublist_of_run`: whatever happens, the client gets a part of the updates
  sent to it, in their order and each at most once, and at most 100 wait for it.
* `client_of_run`: if no update met a full channel, a client with nothing on its way
  knows exactly the other participants of the meeting and their names.
-/

namespace DarkTower.Mc

open DarkTower.Common DarkTower.Lib

/-! ## The wire -/

/-- `LeaveReason` of the protocol, as far as it is sent. -/
inductive WireLeaveReason
  | voluntary
  | timeout
  | kicked
  | meetingEnded
deriving DecidableEq

/-- The updates among the `ServerMessage`s. -/
inductive ServerUpdate
  | participantJoined (participantId name : String)
  | participantLeft (participantId : String) (reason : WireLeaveReason)
deriving DecidableEq

/-- The reason on the wire. -/
def LeaveReason.toWire : LeaveReason → WireLeaveReason
  | .voluntary => .voluntary
  | .timeout => .timeout
  | .removed => .kicked
  | .meetingEnded => .meetingEnded

/-- `encode_participant_update` (handler.rs:14). -/
def encodeParticipantUpdate : ParticipantStateUpdate → Option ServerUpdate
  | .joined info => some (.participantJoined info.participantId info.displayName)
  | .left participantId reason => some (.participantLeft participantId reason.toWire)
  | .muteChanged .. => none
  | .disconnected _ => none
  | .reconnected _ => none

/-- What a client knows of the others: their names by id. -/
abbrev Names := String → Option String

namespace Names

/-- `existing_participants` of a `JoinResponse`, ids and names. -/
def ofList (existing : List (String × String)) : Names :=
  fun q => (existing.find? fun entry => entry.1 = q).map (·.2)

/-- The names after a message. -/
def apply (names : Names) : ServerUpdate → Names
  | .participantJoined participantId name => Function.update names participantId (some name)
  | .participantLeft participantId _ => Function.update names participantId none

end Names

/-- The names on a roster. -/
def Roster.names (r : Roster) : Names := fun q => (r q).map (·.displayName)

/-- `existing_participants` of a `JoinResponse` (connection.rs:696). -/
def existingParticipants (infos : List ParticipantInfo) : List (String × String) :=
  infos.map fun info => (info.participantId, info.displayName)

theorem Names.ofList_existingParticipants (infos : List ParticipantInfo) :
    Names.ofList (existingParticipants infos) = (Roster.ofList infos).names := by
  funext q
  rw [Names.ofList, existingParticipants, List.find?_map, Roster.names, Roster.ofList,
    Option.map_map]
  rfl

/-- The names follow the roster: an update that is not encoded changes none. -/
theorem Roster.names_apply (r : Roster) (update : ParticipantStateUpdate) :
    (r.apply update).names =
      (encodeParticipantUpdate update).toList.foldl Names.apply r.names := by
  funext q
  by_cases hq : q = update.subject
  · subst hq
    cases update with
    | muteChanged p _ _ _ _ =>
      cases h : r p <;>
        simp [Roster.names, Roster.apply, ParticipantStateUpdate.subject,
          ParticipantStateUpdate.change, encodeParticipantUpdate, h]
    | disconnected p =>
      cases h : r p <;>
        simp [Roster.names, Roster.apply, ParticipantStateUpdate.subject,
          ParticipantStateUpdate.change, encodeParticipantUpdate, h]
    | reconnected p =>
      cases h : r p <;>
        simp [Roster.names, Roster.apply, ParticipantStateUpdate.subject,
          ParticipantStateUpdate.change, encodeParticipantUpdate, h]
    | joined info =>
      simp [Roster.names, Roster.apply, ParticipantStateUpdate.subject,
        ParticipantStateUpdate.change, encodeParticipantUpdate, Names.apply]
    | left p reason =>
      simp [Roster.names, Roster.apply, ParticipantStateUpdate.subject,
        ParticipantStateUpdate.change, encodeParticipantUpdate, Names.apply]
  · have hroster : (r.apply update).names q = r.names q := by
      simp [Roster.names, Roster.apply, hq]
    rw [hroster]
    cases update <;>
      simp_all [encodeParticipantUpdate, Names.apply, ParticipantStateUpdate.subject]

theorem Roster.names_foldl (r : Roster) (updates : List ParticipantStateUpdate) :
    (updates.foldl Roster.apply r).names =
      (updates.filterMap encodeParticipantUpdate).foldl Names.apply r.names := by
  induction updates generalizing r with
  | nil => rfl
  | cons update updates ih =>
    rw [List.foldl_cons, ih, names_apply]
    cases h : encodeParticipantUpdate update <;> simp [h]

/-! ## Streams -/

/-- `OUTBOUND_CHANNEL_BUFFER` (connection.rs:41). -/
def outboundChannelBuffer : ℕ := 100

/-- The stream of a join, from the mailbox of its actor to the client. -/
structure Stream where
  /-- `existing_participants` of the `JoinResponse`. -/
  existing : List (String × String)
  /-- The `JoinResponse` has been written. -/
  responded : Bool
  /-- The loop of the participant actor is running. -/
  isOpen : Bool
  pipe : Pipe ParticipantStateUpdate ServerUpdate
deriving DecidableEq

/-- What the client knows, once it has been answered. -/
def Stream.client (st : Stream) : Option Names :=
  if st.responded then some (st.pipe.received.foldl Names.apply (.ofList st.existing)) else none

/-- The meeting with the streams of its joins, by connection. -/
structure DeliverySystem where
  meeting : MeetingSystem
  streams : StringMap Stream

/-- A step of an actor, or of a connection task. -/
inductive DeliveryEvent
  /-- A step of the meeting actor or the end of a participant actor. -/
  | meeting (e : SystemEvent)
  /-- The connection task writes the `JoinResponse`. -/
  | respond (connectionId : String)
  /-- The participant actor handles an update (`handle_update`). -/
  | handleUpdate (connectionId : String)
  /-- The bridge loop writes an update to the client. -/
  | forward (connectionId : String)
deriving DecidableEq

/-- The stream that an answered join starts. -/
def joinedStream : MeetingEvent → MeetingActor.Reply → Option (String × Stream)
  | .message _ _ _ (.connectionJoin connectionId _ _ _), .join (.ok result) =>
    some (connectionId, ⟨existingParticipants result.participants, false, true, .empty⟩)
  | _, _ => none

namespace DeliverySystem

/-- A stream when the updates of a turn arrive: they reach a mailbox whose actor is running. -/
def arrive (effects : List Effect) (entry : Sigma fun _ : String => Stream) :
    Sigma fun _ : String => Stream :=
  ⟨entry.1, if entry.2.isOpen then
      { entry.2 with pipe := entry.2.pipe.send (updatesTo entry.1 effects) }
    else entry.2⟩

theorem nodupKeys_arrive (streams : StringMap Stream) (effects : List Effect) :
    (streams.entries.map (arrive effects)).NodupKeys := by
  have hkeys : (streams.entries.map (arrive effects)).keys = streams.entries.keys := by
    simp [List.keys, arrive, Function.comp_def]
  rw [List.NodupKeys, hkeys]
  exact streams.nodupKeys

/-- The updates of a turn of the meeting actor reach the streams. -/
def deliver (streams : StringMap Stream) (effects : List Effect) : StringMap Stream :=
  ⟨streams.entries.map (arrive effects), nodupKeys_arrive streams effects⟩

/-- The streams with one of them replaced. -/
def modify (streams : StringMap Stream) (connectionId : String) (f : Stream → Stream) :
    StringMap Stream :=
  match streams.lookup connectionId with
  | none => streams
  | some st => streams.insert connectionId (f st)

/-- The meeting actor sends updates, a participant actor handles them, the bridge writes them. -/
def step (R : Ring) (s : DeliverySystem) :
    DeliveryEvent → DeliverySystem × (MeetingActor.Reply × List Effect)
  | .meeting (.meeting e) =>
    let (meeting, reply, effects) := s.meeting.step R (.meeting e)
    let streams := deliver s.streams effects
    match joinedStream e reply with
    | none => (⟨meeting, streams⟩, reply, effects)
    | some (connectionId, st) => (⟨meeting, streams.insert connectionId st⟩, reply, effects)
  | .meeting (.exit handle) =>
    (⟨(s.meeting.step R (.exit handle)).1,
      modify s.streams handle.connectionId fun st =>
        { st with isOpen := false, pipe := st.pipe.close }⟩, .silent, [])
  | .meeting (.panic handle) =>
    (⟨(s.meeting.step R (.panic handle)).1,
      modify s.streams handle.connectionId fun st =>
        { st with isOpen := false, pipe := st.pipe.close }⟩, .silent, [])
  | .respond connectionId =>
    ({ s with streams := modify s.streams connectionId ({ · with responded := true }) },
      .silent, [])
  | .handleUpdate connectionId =>
    ({ s with streams := modify s.streams connectionId fun st =>
        { st with pipe := st.pipe.process encodeParticipantUpdate outboundChannelBuffer } },
      .silent, [])
  | .forward connectionId =>
    ({ s with streams := modify s.streams connectionId fun st =>
        { st with pipe := st.pipe.write } }, .silent, [])

end DeliverySystem

/-- A history of the system. -/
abbrev DeliveryHistory := List (DeliveryEvent × MeetingActor.Reply × List Effect)

/-- The steps of the meeting in a history of the system. -/
def systemHistory (h : DeliveryHistory) : SystemHistory :=
  h.filterMap fun
    | (.meeting e, a) => some (e, a)
    | _ => none

/-- The meeting with the streams of its joins. The actor of a stream handles updates while
    it runs, and the bridge loop starts after the `JoinResponse`. -/
def deliveryMachine (R : Ring) (meetingId : String) (bindingManager : SessionBindingManager)
    (createdAt : ℤ) : Machine DeliverySystem DeliveryEvent (MeetingActor.Reply × List Effect) where
  init := ⟨(meetingSystem R meetingId bindingManager createdAt).init, ∅⟩
  step := DeliverySystem.step R
  allowed h s e :=
    match e with
    | .meeting e =>
      (meetingSystem R meetingId bindingManager createdAt).allowed (systemHistory h) s.meeting e
    | .respond c => (s.streams.lookup c).any (!·.responded) = true
    | .handleUpdate c => (s.streams.lookup c).any (·.isOpen) = true
    | .forward c => (s.streams.lookup c).any (·.responded) = true

variable {R : Ring} {meetingId : String} {mgr : SessionBindingManager} {createdAt : ℤ}

instance (h : DeliveryHistory) (s : DeliverySystem) (e : DeliveryEvent) :
    Decidable ((deliveryMachine R meetingId mgr createdAt).allowed h s e) := by
  cases e <;> unfold deliveryMachine <;> infer_instance

theorem DeliverySystem.step_meeting (s : DeliverySystem) (e : SystemEvent) :
    (s.step R (.meeting e)).1.meeting = (s.meeting.step R e).1 ∧
      (s.step R (.meeting e)).2 = (s.meeting.step R e).2 := by
  cases e with
  | meeting e =>
    simp only [step]
    cases joinedStream e (s.meeting.step R (.meeting e)).2.1 with
    | none => exact ⟨rfl, rfl⟩
    | some joined => exact ⟨rfl, rfl⟩
  | exit handle => exact ⟨rfl, rfl⟩
  | panic handle => exact ⟨rfl, rfl⟩

/-- The meeting of the system runs as it does alone. -/
theorem run_meetingSystem {h : DeliveryHistory} {s : DeliverySystem}
    (hr : (deliveryMachine R meetingId mgr createdAt).Run h s) :
    (meetingSystem R meetingId mgr createdAt).Run (systemHistory h) s.meeting := by
  refine Machine.Run.invariant (I := fun h s =>
    (meetingSystem R meetingId mgr createdAt).Run (systemHistory h) s.meeting) .nil ?_ hr
  intro h s e _ hallowed hI
  cases e with
  | meeting e =>
    obtain ⟨hstate, hanswer⟩ := DeliverySystem.step_meeting (R := R) s e
    have hrun := Machine.Run.cons e hI hallowed
    have hstep : (meetingSystem R meetingId mgr createdAt).step s.meeting e =
      s.meeting.step R e := rfl
    rw [hstep, ← hstate, ← hanswer] at hrun
    exact hrun
  | respond c => exact hI
  | handleUpdate c => exact hI
  | forward c => exact hI

/-! ## What a step does to a stream -/

namespace DeliverySystem

variable {s : DeliverySystem} {c : String}

theorem lookup_deliver (streams : StringMap Stream) (effects : List Effect) (c : String) :
    (deliver streams effects).lookup c = (streams.lookup c).map fun st =>
      if st.isOpen then { st with pipe := st.pipe.send (updatesTo c effects) } else st := by
  obtain ⟨entries, hkeys⟩ := streams
  show List.dlookup c (entries.map (arrive effects)) = (List.dlookup c entries).map _
  clear hkeys
  induction entries with
  | nil => rfl
  | cons entry entries ih =>
    obtain ⟨key, st⟩ := entry
    rw [List.map_cons, show arrive effects ⟨key, st⟩ = ⟨key, _⟩ from rfl]
    by_cases hkey : c = key
    · subst hkey
      rw [List.dlookup_cons_eq, List.dlookup_cons_eq]
      rfl
    · rw [List.dlookup_cons_ne _ ⟨key, _⟩ hkey, List.dlookup_cons_ne _ ⟨key, _⟩ hkey, ih]

theorem lookup_modify (streams : StringMap Stream) (c' : String) (f : Stream → Stream)
    (c : String) :
    (modify streams c' f).lookup c =
      if c = c' then (streams.lookup c).map f else streams.lookup c := by
  unfold modify
  cases hst : streams.lookup c' with
  | none =>
    split_ifs with hc
    · rw [hc, hst]
      rfl
    · rfl
  | some st =>
    dsimp only
    split_ifs with hc
    · rw [hc, AList.lookup_insert, hst]
      rfl
    · rw [AList.lookup_insert_ne hc]

/-- What a step does to a stream that was there. -/
inductive Moved (R : Ring) (s : DeliverySystem) (c : String) (st : Stream) :
    DeliveryEvent → Stream → Prop
  | sent (e : MeetingEvent) (hopen : st.isOpen = true) :
      Moved R s c st (.meeting (.meeting e))
        { st with pipe := st.pipe.send (updatesTo c (s.meeting.actor.handle R e).effects) }
  | missed (e : MeetingEvent) (hclosed : st.isOpen = false) :
      Moved R s c st (.meeting (.meeting e)) st
  | closed (e : DeliveryEvent) (he : ∀ e', e ≠ .meeting (.meeting e')) :
      Moved R s c st e { st with isOpen := false, pipe := st.pipe.close }
  | kept (e : DeliveryEvent) (he : ∀ e', e ≠ .meeting (.meeting e')) (responded : Bool) :
      Moved R s c st e { st with responded := responded }
  | handled : Moved R s c st (.handleUpdate c)
      { st with pipe := st.pipe.process encodeParticipantUpdate outboundChannelBuffer }
  | forwarded : Moved R s c st (.forward c) { st with pipe := st.pipe.write }

theorem joinedStream_eq_some {e : MeetingEvent} {reply : MeetingActor.Reply} {c : String}
    {st : Stream} (h : joinedStream e reply = some (c, st)) :
    MeetingSystem.newConnections e = [c] ∧ ∃ infos, MeetingActor.opened c e reply = some infos ∧
      st = ⟨existingParticipants infos, false, true, .empty⟩ := by
  unfold joinedStream at h
  split at h
  next _ _ _ connectionId _ _ _ result =>
    obtain ⟨rfl, rfl⟩ := Prod.ext_iff.mp (Option.some.inj h)
    exact ⟨rfl, result.participants, if_pos rfl, rfl⟩
  · cases h

theorem moved_deliver {e : MeetingEvent} {st' : Stream}
    (h : (deliver s.streams (s.meeting.actor.handle R e).effects).lookup c = some st') :
    ∃ st, s.streams.lookup c = some st ∧ Moved R s c st (.meeting (.meeting e)) st' := by
  rw [lookup_deliver] at h
  obtain ⟨st, hst, rfl⟩ := Option.map_eq_some_iff.mp h
  refine ⟨st, hst, ?_⟩
  split_ifs with hopen
  · exact .sent e hopen
  · exact .missed e (Bool.eq_false_iff.mpr hopen)

theorem moved_modify {e : DeliveryEvent} {c' : String} {f : Stream → Stream} {st' : Stream}
    (he : ∀ e', e ≠ .meeting (.meeting e')) (hf : ∀ st, c = c' → Moved R s c st e (f st))
    (h : (modify s.streams c' f).lookup c = some st') :
    ∃ st, s.streams.lookup c = some st ∧ Moved R s c st e st' := by
  rw [lookup_modify] at h
  split_ifs at h with hc
  · obtain ⟨st, hst, rfl⟩ := Option.map_eq_some_iff.mp h
    exact ⟨st, hst, hf st hc⟩
  · exact ⟨st', h, .kept e he st'.responded⟩

/-- A stream after a step was started by it, or was there. -/
theorem step_stream {e : DeliveryEvent} {st' : Stream}
    (hst' : (s.step R e).1.streams.lookup c = some st') :
    (∃ e' infos, e = .meeting (.meeting e') ∧ MeetingSystem.newConnections e' = [c] ∧
      MeetingActor.opened c e' (s.meeting.actor.handle R e').result = some infos ∧
      st' = ⟨existingParticipants infos, false, true, .empty⟩) ∨
    ∃ st, s.streams.lookup c = some st ∧ Moved R s c st e st' := by
  cases e with
  | meeting e =>
    cases e with
    | meeting e =>
      have hreply : (s.meeting.step R (.meeting e)).2.1 = (s.meeting.actor.handle R e).result := rfl
      simp only [step] at hst'
      cases hjoined : joinedStream e (s.meeting.step R (.meeting e)).2.1 with
      | none =>
        rw [hjoined] at hst'
        exact .inr (moved_deliver hst')
      | some joined =>
        obtain ⟨c', st⟩ := joined
        rw [hjoined] at hst'
        by_cases hc : c = c'
        · obtain ⟨hnew, infos, hopened, rfl⟩ := joinedStream_eq_some hjoined
          rw [hc, AList.lookup_insert] at hst'
          rw [hreply] at hopened
          exact .inl ⟨e, infos, rfl, hc ▸ hnew, hc ▸ hopened, (Option.some.inj hst').symm⟩
        · rw [AList.lookup_insert_ne hc] at hst'
          exact .inr (moved_deliver hst')
    | exit handle =>
      exact .inr (moved_modify (fun _ => by simp) (fun st _ => .closed _ fun _ => by simp) hst')
    | panic handle =>
      exact .inr (moved_modify (fun _ => by simp) (fun st _ => .closed _ fun _ => by simp) hst')
  | respond c' =>
    exact .inr (moved_modify (fun _ => by simp) (fun st _ => .kept _ (fun _ => by simp) true) hst')
  | handleUpdate c' =>
    exact .inr (moved_modify (fun _ => by simp) (fun st hc => hc ▸ .handled) hst')
  | forward c' =>
    exact .inr (moved_modify (fun _ => by simp) (fun st hc => hc ▸ .forwarded) hst')

end DeliverySystem

/-! ## Runs -/

/-- The list in the answer that opened a connection, and the updates sent to it since. -/
def sentTo (connectionId : String) :
    MeetingHistory → Option (List ParticipantInfo × List ParticipantStateUpdate)
  | [] => none
  | (e, reply, effects) :: h =>
    match MeetingActor.opened connectionId e reply with
    | some infos => some (infos, [])
    | none => (sentTo connectionId h).map fun sent =>
      (sent.1, sent.2 ++ updatesTo connectionId effects)

theorem told_eq_sentTo (c : String) (h : MeetingHistory) :
    told c h = (sentTo c h).map fun sent => sent.2.foldl Roster.apply (Roster.ofList sent.1) := by
  induction h with
  | nil => rfl
  | cons turn h ih =>
    obtain ⟨e, reply, effects⟩ := turn
    simp only [told, sentTo]
    cases MeetingActor.opened c e reply with
    | some infos => rfl
    | none =>
      simp only [ih, Option.map_map]
      congr 1
      funext sent
      exact List.foldl_append.symm

/-- An update the participant actor takes from its mailbox meets a channel with room. -/
def LosesNone (s : DeliverySystem) : DeliveryEvent → Prop
  | .handleUpdate c => ∀ st ∈ s.streams.lookup c,
    st.pipe.Fits encodeParticipantUpdate outboundChannelBuffer
  | _ => True

instance (s : DeliverySystem) (e : DeliveryEvent) : Decidable (LosesNone s e) := by
  cases e <;> unfold LosesNone <;> infer_instance

/-- The stream of a connection carries what was sent to it, in order and perhaps not all,
    and all of it if `exact`. The channel stays within its bound. -/
structure Carries (exact : Prop) (h : MeetingHistory) (s : DeliverySystem) (c : String)
    (st : Stream) : Prop where
  spawned : ∃ handle ∈ s.meeting.spawned, handle.connectionId = c
  carried : ∃ infos sent, sentTo c h = some (infos, sent) ∧
    st.existing = existingParticipants infos ∧
    (st.pipe.contents encodeParticipantUpdate).Sublist (sent.filterMap encodeParticipantUpdate) ∧
    (exact → st.isOpen = true →
      st.pipe.contents encodeParticipantUpdate = sent.filterMap encodeParticipantUpdate)
  bounded : st.pipe.outbound.length ≤ outboundChannelBuffer

/-- The turns of the meeting actor in a history of the system. -/
def meetingTurns (h : DeliveryHistory) : MeetingHistory := meetingHistory (systemHistory h)

theorem turns_of_ne {e : DeliveryEvent} {a : MeetingActor.Reply × List Effect}
    {h : DeliveryHistory} (he : ∀ e', e ≠ .meeting (.meeting e')) :
    meetingTurns ((e, a) :: h) = meetingTurns h := by
  rcases e with (e | handle | handle) | c | c | c
  · exact absurd rfl (he e)
  all_goals rfl

theorem spawned_of_ne {s : DeliverySystem} {e : DeliveryEvent}
    (he : ∀ e', e ≠ .meeting (.meeting e')) :
    (s.step R e).1.meeting.spawned = s.meeting.spawned := by
  rcases e with (e | handle | handle) | c | c | c
  · exact absurd rfl (he e)
  all_goals rfl

/-- A step that does not come from the meeting actor may only lose updates. -/
theorem Carries.of_ne {exact : Prop} {h : DeliveryHistory} {s : DeliverySystem}
    {e : DeliveryEvent} {c : String} {st st' : Stream} (hst : Carries exact (meetingTurns h) s c st)
    (he : ∀ e', e ≠ .meeting (.meeting e')) (hexisting : st'.existing = st.existing)
    (hcontents : (st'.pipe.contents encodeParticipantUpdate).Sublist
      (st.pipe.contents encodeParticipantUpdate))
    (hexact : exact → st'.isOpen = true → st.isOpen = true ∧
      st'.pipe.contents encodeParticipantUpdate = st.pipe.contents encodeParticipantUpdate)
    (hbounded : st'.pipe.outbound.length ≤ outboundChannelBuffer) :
    Carries exact (meetingTurns ((e, (s.step R e).2) :: h)) (s.step R e).1 c st' := by
  obtain ⟨hspawned, ⟨infos, sent, hsent, hlist, hpart, hall⟩, _⟩ := hst
  rw [turns_of_ne he]
  refine ⟨?_, ⟨infos, sent, hsent, hexisting.trans hlist, hcontents.trans hpart, ?_⟩, hbounded⟩
  · rw [spawned_of_ne he]
    exact hspawned
  · intro hx hopen
    obtain ⟨hwas, heq⟩ := hexact hx hopen
    exact heq.trans (hall hx hwas)

/-- A connection with a stream is not opened again. -/
theorem Carries.not_opened {exact : Prop} {h h' : DeliveryHistory} {s : DeliverySystem}
    {e : MeetingEvent} {reply : MeetingActor.Reply} {c : String} {st : Stream}
    (hst : Carries exact (meetingTurns h') s c st)
    (hallowed : (deliveryMachine R meetingId mgr createdAt).allowed h s (.meeting (.meeting e))) :
    MeetingActor.opened c e reply = none := by
  obtain ⟨handle, hmem, hc⟩ := hst.spawned
  by_contra hsome
  obtain ⟨infos, hopened⟩ := Option.ne_none_iff_exists'.mp hsome
  have hnew := MeetingActor.newConnections_of_opened hopened
  exact hallowed.2.1 c (hnew ▸ List.mem_singleton_self c) handle hmem hc

/-- A turn of the meeting actor. -/
theorem Carries.turn {exact : Prop} {h : DeliveryHistory} {s : DeliverySystem}
    {e : MeetingEvent} {c : String} {st st' : Stream} (hst : Carries exact (meetingTurns h) s c st)
    (hopened : MeetingActor.opened c e (s.meeting.actor.handle R e).result = none)
    (hst' : st' = st ∧ st.isOpen = false ∨
      st' = { st with pipe := st.pipe.send (updatesTo c (s.meeting.actor.handle R e).effects) }) :
    Carries exact
      (meetingTurns ((.meeting (.meeting e), (s.step R (.meeting (.meeting e))).2) :: h))
      (s.step R (.meeting (.meeting e))).1 c st' := by
  obtain ⟨⟨handle, hmem, hc⟩, ⟨infos, sent, hsent, hlist, hpart, hall⟩, hbounded⟩ := hst
  obtain ⟨hmeeting, hanswer⟩ := DeliverySystem.step_meeting (R := R) s (.meeting e)
  have hsent' : sentTo c (meetingTurns ((.meeting (.meeting e),
      (s.step R (.meeting (.meeting e))).2) :: h)) =
      some (infos, sent ++ updatesTo c (s.meeting.actor.handle R e).effects) := by
    rw [hanswer]
    change sentTo c ((e, (s.meeting.actor.handle R e).result,
      (s.meeting.actor.handle R e).effects) :: meetingTurns h) = _
    rw [sentTo, hopened]
    dsimp only
    rw [hsent]
    rfl
  refine ⟨⟨handle, ?_, hc⟩, ⟨infos, _, hsent', ?_⟩, ?_⟩
  · rw [hmeeting]
    exact List.mem_append_right _ hmem
  · rw [List.filterMap_append]
    rcases hst' with ⟨rfl, hclosed⟩ | rfl
    · refine ⟨hlist, hpart.trans (List.sublist_append_left _ _), fun _ hopen => ?_⟩
      rw [hclosed] at hopen
      cases hopen
    · refine ⟨hlist, ?_, fun hx hopen => ?_⟩
      · rw [Pipe.contents_send]
        exact hpart.append (List.Sublist.refl _)
      · rw [Pipe.contents_send, hall hx hopen]
  · rcases hst' with ⟨rfl, _⟩ | rfl
    · exact hbounded
    · exact hbounded

theorem carries_of_run (exact : Prop) {h : DeliveryHistory} {s : DeliverySystem}
    (hr : (deliveryMachine R meetingId mgr createdAt).Run h s)
    (hC : ∀ e a h', (e, a) :: h' <:+ h → exact →
      LosesNone ((deliveryMachine R meetingId mgr createdAt).stateAfter h') e)
    {c : String} {st : Stream} (hst : s.streams.lookup c = some st) :
    Carries exact (meetingTurns h) s c st := by
  refine Machine.Run.invariant_of_steps (C := fun s e => exact → LosesNone s e)
    (I := fun h s => ∀ c st, s.streams.lookup c = some st → Carries exact (meetingTurns h) s c st)
    ?_ ?_ hr hC c st hst
  · intro c st hst
    cases hst
  · intro h s e _ hallowed hnone hI c st' hst'
    rcases DeliverySystem.step_stream hst' with
      ⟨e, infos, rfl, _, hopened, rfl⟩ | ⟨st, hst, hmoved⟩
    · -- the stream of a connection that is answered in this step
      obtain ⟨hmeeting, hanswer⟩ := DeliverySystem.step_meeting (R := R) s (.meeting e)
      obtain ⟨p, hp⟩ := MeetingActor.spawned_of_opened hopened
      refine ⟨⟨⟨c, p⟩, ?_, rfl⟩, ⟨infos, [], ?_, rfl, ?_⟩, Nat.zero_le _⟩
      · change _ ∈ (s.step R _).1.meeting.spawned
        rw [hmeeting]
        exact List.mem_append_left _ hp
      · change sentTo c (meetingTurns ((_, (s.step R _).2) :: h)) = _
        rw [hanswer]
        change sentTo c ((e, (s.meeting.actor.handle R e).result,
          (s.meeting.actor.handle R e).effects) :: meetingTurns h) = _
        rw [sentTo, hopened]
      · exact ⟨List.Sublist.refl _, fun _ _ => rfl⟩
    · have hcarries := hI c st hst
      cases hmoved with
      | sent e hopen =>
        exact hcarries.turn (hcarries.not_opened hallowed) (.inr rfl)
      | missed e hclosed =>
        exact hcarries.turn (hcarries.not_opened hallowed) (.inl ⟨rfl, hclosed⟩)
      | closed e he =>
        exact hcarries.of_ne he rfl st.pipe.contents_close_sublist (fun _ hopen => by cases hopen)
          hcarries.bounded
      | kept e he responded =>
        exact hcarries.of_ne he rfl (List.Sublist.refl _) (fun _ hopen => ⟨hopen, rfl⟩)
          hcarries.bounded
      | handled =>
        exact hcarries.of_ne (R := R) (by simp) rfl st.pipe.contents_process_sublist
          (fun hx hopen => ⟨hopen, Pipe.contents_process (hnone hx st hst)⟩)
          (Pipe.process_outbound_le hcarries.bounded)
      | forwarded =>
        refine hcarries.of_ne (R := R) (by simp) rfl ?_
          (fun _ hopen => ⟨hopen, Pipe.contents_write⟩) (Pipe.write_outbound_le hcarries.bounded)
        rw [Pipe.contents_write]

/-- Whatever happens, a client gets the list of the answer that opened its connection and a
    part of the updates sent since, in their order and each at most once, and no more than
    the channel holds wait for it. -/
theorem received_sublist_of_run {h : DeliveryHistory} {s : DeliverySystem}
    (hr : (deliveryMachine R meetingId mgr createdAt).Run h s) {c : String} {st : Stream}
    (hst : s.streams.lookup c = some st) :
    ∃ infos sent, sentTo c (meetingTurns h) = some (infos, sent) ∧
      st.existing = existingParticipants infos ∧
      st.pipe.received.Sublist (sent.filterMap encodeParticipantUpdate) ∧
      st.pipe.outbound.length ≤ outboundChannelBuffer := by
  have hcarries := carries_of_run False hr (fun _ _ _ _ hx => hx.elim) hst
  obtain ⟨infos, sent, hsent, hlist, hpart, _⟩ := hcarries.carried
  exact ⟨infos, sent, hsent, hlist, Pipe.received_prefix.sublist.trans hpart, hcarries.bounded⟩

/-- Two participants join, the first one is answered and gets the update about the second,
    which mutes itself, and a third one joins. -/
def deliveryEvents : List DeliveryEvent :=
  [.meeting (.meeting (.message 0 sampleDraw₁ 0
      (.connectionJoin "conn-1" "user-1" "part-1" true))),
    .meeting (.meeting (.message 1 ⟨"id-2", [1]⟩ 0
      (.connectionJoin "conn-2" "user-2" "part-2" false))),
    .respond "conn-1", .handleUpdate "conn-1", .forward "conn-1",
    .meeting (.meeting (.message 2 ⟨"id-3", [2]⟩ 0 (.updateSelfMute "part-2" true false))),
    .meeting (.meeting (.message 3 ⟨"id-4", [3]⟩ 0
      (.connectionJoin "conn-3" "user-3" "part-3" false))),
    .handleUpdate "conn-1", .handleUpdate "conn-1"]

/-- The system of the concrete run. -/
abbrev sampleDelivery : Machine DeliverySystem DeliveryEvent (MeetingActor.Reply × List Effect) :=
  deliveryMachine Ring.sample "meeting-1" SessionBindingManager.sample 0

/-- The stream of `"conn-1"` at its end. -/
def deliveredStream : Stream :=
  { existing := []
    responded := true
    isOpen := true
    pipe :=
      { mailbox := []
        outbound := [.participantJoined "part-3" "Participant 3"]
        received := [.participantJoined "part-2" "Participant 2"] } }

theorem lookup_delivered : (sampleDelivery.playAll deliveryEvents).1.streams.lookup "conn-1" =
    some deliveredStream := by decide

theorem received_sublist_of_run_delivered :
    ∃ infos sent, sentTo "conn-1" (meetingTurns (sampleDelivery.playAll deliveryEvents).2) =
        some (infos, sent) ∧
      deliveredStream.existing = existingParticipants infos ∧
      deliveredStream.pipe.received.Sublist (sent.filterMap encodeParticipantUpdate) ∧
      deliveredStream.pipe.outbound.length ≤ outboundChannelBuffer :=
  received_sublist_of_run (Machine.run_of_admits (M := sampleDelivery) (by decide))
    lookup_delivered

/-- Until the meeting shuts down, and as long as no update meets a full channel, a client on
    the connection on record knows, once it has what is on its way to it, the names of
    exactly the other participants. -/
theorem client_of_run {h : DeliveryHistory} {s : DeliverySystem}
    (hr : (deliveryMachine R meetingId mgr createdAt).Run h s)
    (hnone : ∀ e a h', (e, a) :: h' <:+ h →
      LosesNone ((deliveryMachine R meetingId mgr createdAt).stateAfter h') e)
    (hlive : s.meeting.actor.isShuttingDown = false) {p : String}
    {handle : ParticipantActorHandle} (hc : s.meeting.actor.connectionOf p = some handle)
    {st : Stream} (hst : s.streams.lookup handle.connectionId = some st)
    (hopen : st.isOpen = true) {names : Names} (hclient : st.client = some names) :
    (st.pipe.outbound ++ st.pipe.mailbox.filterMap encodeParticipantUpdate).foldl Names.apply
      names = (s.meeting.actor.roster p).names := by
  have hcarries := carries_of_run True hr (fun e a h' hs _ => hnone e a h' hs) hst
  obtain ⟨infos, sent, hsent, hlist, _, hall⟩ := hcarries.carried
  have hheard := (informed_of_run (run_meetingSystem hr) hlive).heard p handle hc
  have hroster : sent.foldl Roster.apply (Roster.ofList infos) = s.meeting.actor.roster p := by
    have hturns : sentTo handle.connectionId (meetingHistory (systemHistory h)) =
        some (infos, sent) := hsent
    rw [told_eq_sentTo, hturns] at hheard
    exact Option.some.inj hheard
  have hnames : names = st.pipe.received.foldl Names.apply (Names.ofList st.existing) := by
    unfold Stream.client at hclient
    split_ifs at hclient
    exact (Option.some.inj hclient).symm
  calc (st.pipe.outbound ++ st.pipe.mailbox.filterMap encodeParticipantUpdate).foldl Names.apply
        names
      = (st.pipe.contents encodeParticipantUpdate).foldl Names.apply
          (Names.ofList st.existing) := by
        rw [hnames, Pipe.contents, List.append_assoc, ← List.foldl_append]
    _ = (sent.filterMap encodeParticipantUpdate).foldl Names.apply (Roster.ofList infos).names := by
        rw [hall trivial hopen, hlist, Names.ofList_existingParticipants]
    _ = (s.meeting.actor.roster p).names := by rw [← Roster.names_foldl, hroster]

theorem client_of_run_delivered :
    (Names.ofList [] |>.apply (.participantJoined "part-2" "Participant 2")
        |>.apply (.participantJoined "part-3" "Participant 3")) =
      ((sampleDelivery.playAll deliveryEvents).1.meeting.actor.roster "part-1").names :=
  have hc : (sampleDelivery.playAll deliveryEvents).1.meeting.actor.connectionOf "part-1" =
      some ⟨"conn-1", "part-1"⟩ := by decide
  client_of_run (Machine.run_of_admits (M := sampleDelivery) (by decide))
    (Machine.StepsMeet.forall_suffix (by decide)) (by decide) hc lookup_delivered rfl rfl

end DarkTower.Mc
