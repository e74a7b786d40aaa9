import DarkTower.Lib.Machine
import DarkTower.Lib.Multimap

/-!
# The session actor of a media handler (`mh-service/src/session/mod.rs`)

The actor owns the registered meetings, the active connections by meeting and
participant, the pending connections by meeting and one `Notify` per meeting.
It handles one message at a time; `handleMessage` is the state after a message
and the reply.

A `Notify` is modelled by the number of `notify_waiters` calls made on it, as
tokio does: a `notified()` future remembers that number when it is created and
completes once the number has grown.

An entry of a hash map is visited in the order of its list of entries. The
order matters to `remove_connection` only if a meeting has two connections
with one id.
-/

namespace DarkTower.Mh

open DarkTower.Lib DarkTower.Lib.Multimap
open scoped List

/-- `MeetingRegistration` (session/mod.rs:38). -/
structure MeetingRegistration where
  mcId : String
  mcGrpcEndpoint : String
  registeredAt : ℕ
deriving DecidableEq

/-- `ConnectionEntry` (session/mod.rs:49). -/
structure ConnectionEntry where
  connectionId : String
  participantId : String
  connectedAt : ℕ
deriving DecidableEq

/-- `PendingConnection` (session/mod.rs:60). -/
structure PendingConnection where
  connectionId : String
  meetingId : String
  participantId : String
  connectedAt : ℕ
deriving DecidableEq

/-- `SessionState` (session/mod.rs:129). -/
structure SessionState where
  registeredMeetings : AList fun _ : String => MeetingRegistration
  activeConnections : AList fun _ : String => AList fun _ : String => List ConnectionEntry
  pendingConnections : AList fun _ : String => List PendingConnection
  /-- The calls of `notify_waiters` on the `Notify` of a meeting. -/
  meetingNotifiers : AList fun _ : String => ℕ

/-- `SessionMessage` (session/mod.rs:80), without the channels for the replies. -/
inductive SessionMessage
  | registerMeeting (meetingId : String) (registration : MeetingRegistration)
  | isMeetingRegistered (meetingId : String)
  | getMcEndpoint (meetingId : String)
  | addConnection (meetingId : String) (entry : ConnectionEntry)
  | removeConnection (meetingId connectionId : String)
  | addPendingConnection (pending : PendingConnection)
  | removePendingConnection (meetingId connectionId : String)
  | activeConnectionCount
deriving DecidableEq

/-- The reply to a message. -/
inductive SessionReply
  | promoted (pending : List PendingConnection)
  | flag (value : Bool)
  | endpoint (endpoint : Option String)
  /-- The `Notify` of a meeting. -/
  | notify (meetingId : String)
  | count (count : ℕ)
  /-- The sender expects no reply. -/
  | silent
deriving DecidableEq

/-- The active connection that a pending one becomes. -/
def PendingConnection.promote (conn : PendingConnection) : ConnectionEntry :=
  ⟨conn.connectionId, conn.participantId, conn.connectedAt⟩

namespace SessionState

/-- `SessionState::default`. -/
def empty : SessionState := ⟨∅, ∅, ∅, ∅⟩

/-- `active_connections.entry(meeting_id).or_default().entry(participant_id)
    .or_default().push(entry)`. -/
def pushActive (meetingId : String)
    (active : AList fun _ : String => AList fun _ : String => List ConnectionEntry)
    (entry : ConnectionEntry) : AList fun _ : String => AList fun _ : String => List ConnectionEntry :=
  setCell active meetingId entry.participantId
    (cell active meetingId entry.participantId ++ [entry])

/-- The promotion loop of `handle_register_meeting` (session/mod.rs:271). -/
def promoteAll (meetingId : String)
    (active : AList fun _ : String => AList fun _ : String => List ConnectionEntry)
    (pending : List PendingConnection) :
    AList fun _ : String => AList fun _ : String => List ConnectionEntry :=
  pending.foldl (fun active conn => pushActive meetingId active conn.promote) active

/-- `handle_register_meeting` (session/mod.rs:243). -/
def handleRegisterMeeting (s : SessionState) (meetingId : String)
    (registration : MeetingRegistration) : SessionState × List PendingConnection :=
  let pending := bucket s.pendingConnections meetingId
  ({ registeredMeetings := s.registeredMeetings.insert meetingId registration
     pendingConnections := s.pendingConnections.erase meetingId
     activeConnections := promoteAll meetingId s.activeConnections pending
     meetingNotifiers :=
      match s.meetingNotifiers.lookup meetingId with
      | none => s.meetingNotifiers
      | some calls => s.meetingNotifiers.insert meetingId (calls + 1) },
    pending)

/-- `handle_add_connection` (session/mod.rs:292). -/
def handleAddConnection (s : SessionState) (meetingId : String) (entry : ConnectionEntry) :
    SessionState :=
  { s with activeConnections := pushActive meetingId s.activeConnections entry }

/-- `handle_remove_connection` (session/mod.rs:300). -/
def handleRemoveConnection (s : SessionState) (meetingId connectionId : String) :
    SessionState × Bool :=
  match (row s.activeConnections meetingId).entries.find? fun entry =>
      entry.2.any fun c => c.connectionId = connectionId with
  | none => (s, false)
  | some ⟨participantId, conns⟩ =>
    ({ s with
        activeConnections := setCell s.activeConnections meetingId participantId
          (conns.eraseP fun c => c.connectionId = connectionId) },
      true)

/-- `handle_add_pending_connection` (session/mod.rs:315). -/
def handleAddPendingConnection (s : SessionState) (pending : PendingConnection) : SessionState :=
  { s with
    pendingConnections := s.pendingConnections.insert pending.meetingId
      (bucket s.pendingConnections pending.meetingId ++ [pending])
    meetingNotifiers :=
      match s.meetingNotifiers.lookup pending.meetingId with
      | none => s.meetingNotifiers.insert pending.meetingId 0
      | some _ => s.meetingNotifiers }

/-- `handle_remove_pending_connection` (session/mod.rs:332). -/
def handleRemovePendingConnection (s : SessionState) (meetingId connectionId : String) :
    SessionState × Bool :=
  let pendingList := bucket s.pendingConnections meetingId
  if pendingList.any fun c => c.connectionId = connectionId then
    let rest := pendingList.eraseP fun c => c.connectionId = connectionId
    ({ s with
        pendingConnections :=
          if rest.isEmpty then s.pendingConnections.erase meetingId
          else s.pendingConnections.insert meetingId rest },
      true)
  else (s, false)

/-- `handle_message` (session/mod.rs:168). -/
def handleMessage (s : SessionState) : SessionMessage → SessionState × SessionReply
  | .registerMeeting meetingId registration =>
    ((s.handleRegisterMeeting meetingId registration).1,
      .promoted (s.handleRegisterMeeting meetingId registration).2)
  | .isMeetingRegistered meetingId => (s, .flag (decide (meetingId ∈ s.registeredMeetings)))
  | .getMcEndpoint meetingId =>
    (s, .endpoint ((s.registeredMeetings.lookup meetingId).map (·.mcGrpcEndpoint)))
  | .addConnection meetingId entry => (s.handleAddConnection meetingId entry, .silent)
  | .removeConnection meetingId connectionId =>
    ((s.handleRemoveConnection meetingId connectionId).1,
      .flag (s.handleRemoveConnection meetingId connectionId).2)
  | .addPendingConnection pending =>
    (s.handleAddPendingConnection pending, .notify pending.meetingId)
  | .removePendingConnection meetingId connectionId =>
    ((s.handleRemovePendingConnection meetingId connectionId).1,
      .flag (s.handleRemovePendingConnection meetingId connectionId).2)
  | .activeConnectionCount => (s, .count (items s.activeConnections).length)

/-! ## What is stored -/

/-- The active connections of a participant of a meeting. -/
def active (s : SessionState) (meetingId participantId : String) : List ConnectionEntry :=
  cell s.activeConnections meetingId participantId

/-- The active connections of a meeting. -/
def activeIn (s : SessionState) (meetingId : String) : List ConnectionEntry :=
  rowItems s.activeConnections meetingId

/-- The pending connections of a meeting. -/
def pendingIn (s : SessionState) (meetingId : String) : List PendingConnection :=
  bucket s.pendingConnections meetingId

/-- The calls made on the `Notify` of a meeting. -/
def notifyCalls (s : SessionState) (meetingId : String) : ℕ :=
  (s.meetingNotifiers.lookup meetingId).getD 0

/-- The ids of all connections, active and pending, of all meetings. -/
def connectionIds (s : SessionState) : List String :=
  (items s.activeConnections).map (·.connectionId) ++
    (flat id s.pendingConnections).map (·.connectionId)

/-- A meeting has an active connection with the id `c`. -/
def HasActive (s : SessionState) (meetingId c : String) : Prop :=
  ∃ entry ∈ s.activeIn meetingId, entry.connectionId = c

/-- A meeting has a pending connection with the id `c`. -/
def HasPending (s : SessionState) (meetingId c : String) : Prop :=
  ∃ conn ∈ s.pendingIn meetingId, conn.connectionId = c

instance (s : SessionState) (meetingId c : String) : Decidable (s.HasActive meetingId c) :=
  inferInstanceAs (Decidable (∃ entry ∈ s.activeIn meetingId, entry.connectionId = c))

instance (s : SessionState) (meetingId c : String) : Decidable (s.HasPending meetingId c) :=
  inferInstanceAs (Decidable (∃ conn ∈ s.pendingIn meetingId, conn.connectionId = c))

theorem mem_activeIn {s : SessionState} {meetingId : String} {entry : ConnectionEntry} :
    entry ∈ s.activeIn meetingId ↔ ∃ participantId, entry ∈ s.active meetingId participantId :=
  mem_rowItems _ _

theorem mem_connectionIds {s : SessionState} {c : String} :
    c ∈ s.connectionIds ↔ ∃ meetingId, s.HasActive meetingId c ∨ s.HasPending meetingId c := by
  unfold connectionIds HasActive HasPending activeIn pendingIn
  simp only [List.mem_append, List.mem_map, mem_items, mem_flat_id]
  grind

/-! ## Promotion and addition -/

section Push

variable (meetingId : String)
  (A : AList fun _ : String => AList fun _ : String => List ConnectionEntry)

theorem cell_pushActive (entry : ConnectionEntry) (m p : String) :
    cell (pushActive meetingId A entry) m p =
      cell A m p ++ if m = meetingId ∧ p = entry.participantId then [entry] else [] := by
  rw [pushActive, cell_setCell]
  split_ifs with h
  · rw [h.1, h.2]
  · rw [List.append_nil]

theorem items_pushActive (entry : ConnectionEntry) :
    items (pushActive meetingId A entry) ~ entry :: items A := by
  have h := items_setCell A meetingId entry.participantId
    (cell A meetingId entry.participantId ++ [entry])
  rw [List.append_assoc] at h
  exact (List.perm_append_left_iff _).mp h

theorem rowItems_pushActive (entry : ConnectionEntry) (m : String) :
    rowItems (pushActive meetingId A entry) m ~
      (if m = meetingId then [entry] else []) ++ rowItems A m := by
  split_ifs with hm
  · subst hm
    have h := rowItems_setCell A m entry.participantId (cell A m entry.participantId ++ [entry])
    rw [List.append_assoc] at h
    exact (List.perm_append_left_iff _).mp h
  · rw [pushActive, rowItems_setCell_of_ne A _ _ _ hm]
    rfl

theorem promoteAll_cons (conn : PendingConnection) (pending : List PendingConnection) :
    promoteAll meetingId A (conn :: pending) =
      promoteAll meetingId (pushActive meetingId A conn.promote) pending := rfl

theorem cell_promoteAll (pending : List PendingConnection) (m p : String) :
    cell (promoteAll meetingId A pending) m p = cell A m p ++
      if m = meetingId then (pending.filter (·.participantId = p)).map (·.promote) else [] := by
  induction pending generalizing A with
  | nil => simp [promoteAll]
  | cons conn pending ih =>
    rw [promoteAll_cons, ih, cell_pushActive, List.append_assoc]
    congr 1
    by_cases hm : m = meetingId
    · by_cases hp : p = conn.participantId
      · simp [hm, hp, PendingConnection.promote]
      · simp [hm, hp, PendingConnection.promote, Ne.symm hp]
    · simp [hm]

theorem items_promoteAll (pending : List PendingConnection) :
    items (promoteAll meetingId A pending) ~ pending.map (·.promote) ++ items A := by
  induction pending generalizing A with
  | nil => rfl
  | cons conn pending ih =>
    rw [promoteAll_cons, List.map_cons, List.cons_append]
    calc items (promoteAll meetingId (pushActive meetingId A conn.promote) pending)
        ~ pending.map (·.promote) ++ items (pushActive meetingId A conn.promote) := ih _
      _ ~ pending.map (·.promote) ++ conn.promote :: items A :=
          (items_pushActive meetingId A conn.promote).append_left _
      _ ~ conn.promote :: (pending.map (·.promote) ++ items A) := List.perm_middle

theorem rowItems_promoteAll (pending : List PendingConnection) (m : String) :
    rowItems (promoteAll meetingId A pending) m ~
      (if m = meetingId then pending.map (·.promote) else []) ++ rowItems A m := by
  induction pending generalizing A with
  | nil => simp [promoteAll]
  | cons conn pending ih =>
    rw [promoteAll_cons]
    refine (ih _).trans ?_
    have hpush := rowItems_pushActive meetingId A conn.promote m
    split_ifs with hm
    · rw [if_pos hm] at hpush
      exact (hpush.append_left _).trans List.perm_middle
    · rw [if_neg hm] at hpush
      exact hpush

end Push

/-! ## What each message does to the stored connections -/

section Effects

variable (s : SessionState)

theorem connectionIds_registerMeeting (meetingId : String) (registration : MeetingRegistration) :
    (s.handleRegisterMeeting meetingId registration).1.connectionIds ~ s.connectionIds := by
  have hactive := (items_promoteAll meetingId s.activeConnections
    (bucket s.pendingConnections meetingId)).map (·.connectionId)
  have hpending := (flat_bucket_erase s.pendingConnections meetingId).map (·.connectionId)
  rw [List.map_append] at hactive hpending
  rw [List.map_map] at hactive
  calc (s.handleRegisterMeeting meetingId registration).1.connectionIds
      ~ ((bucket s.pendingConnections meetingId).map (·.connectionId) ++
          (items s.activeConnections).map (·.connectionId)) ++
          (flat id (s.pendingConnections.erase meetingId)).map (·.connectionId) :=
        hactive.append_right _
    _ ~ (items s.activeConnections).map (·.connectionId) ++
          ((bucket s.pendingConnections meetingId).map (·.connectionId) ++
            (flat id (s.pendingConnections.erase meetingId)).map (·.connectionId)) := by
        rw [List.append_assoc]
        exact List.perm_append_comm_assoc _ _ _
    _ ~ s.connectionIds := hpending.symm.append_left _

theorem connectionIds_addConnection (meetingId : String) (entry : ConnectionEntry) :
    (s.handleAddConnection meetingId entry).connectionIds ~
      entry.connectionId :: s.connectionIds :=
  ((items_pushActive meetingId s.activeConnections entry).map (·.connectionId)).append_right _

theorem connectionIds_addPendingConnection (pending : PendingConnection) :
    (s.handleAddPendingConnection pending).connectionIds ~
      pending.connectionId :: s.connectionIds := by
  have h := flat_bucket_insert s.pendingConnections pending.meetingId
    (bucket s.pendingConnections pending.meetingId ++ [pending])
  rw [List.append_assoc] at h
  have hflat := ((List.perm_append_left_iff _).mp h).map (·.connectionId)
  exact (hflat.append_left _).trans List.perm_middle

/-- `remove_connection` finds nothing, or takes one entry out of one list. -/
inductive RemoveCase (meetingId connectionId : String) : SessionState × Bool → Prop
  | absent (h : ¬ s.HasActive meetingId connectionId) :
      RemoveCase meetingId connectionId (s, false)
  | found (participantId : String) (entry : ConnectionEntry)
      (hmem : entry ∈ s.active meetingId participantId)
      (hid : entry.connectionId = connectionId) :
      RemoveCase meetingId connectionId
        ({ s with
            activeConnections := setCell s.activeConnections meetingId participantId
              ((s.active meetingId participantId).eraseP fun c =>
                c.connectionId = connectionId) },
          true)

theorem handleRemoveConnection_cases (meetingId connectionId : String) :
    RemoveCase s meetingId connectionId (s.handleRemoveConnection meetingId connectionId) := by
  unfold handleRemoveConnection
  split
  · rename_i hfind
    refine .absent ?_
    rintro ⟨entry, hmem, hid⟩
    obtain ⟨participantId, hcell⟩ := mem_activeIn.mp hmem
    unfold active cell bucket at hcell
    cases hlookup : (row s.activeConnections meetingId).lookup participantId with
    | none => rw [hlookup] at hcell; cases hcell
    | some conns =>
      rw [hlookup, Option.getD_some] at hcell
      have hnone := List.find?_eq_none.mp hfind _ (AList.mem_lookup_iff.mp hlookup)
      simp only [List.any_eq_true, decide_eq_true_eq, not_exists, not_and] at hnone
      exact hnone entry hcell hid
  · rename_i participantId conns hfind
    have hconns : s.active meetingId participantId = conns := by
      have hlookup := AList.mem_lookup_iff.mpr (List.mem_of_find?_eq_some hfind)
      rw [active, cell, bucket, hlookup, Option.getD_some]
    have hany := List.find?_some hfind
    simp only [List.any_eq_true, decide_eq_true_eq] at hany
    obtain ⟨entry, hmem, hid⟩ := hany
    have hcase := RemoveCase.found (s := s) participantId entry (hconns ▸ hmem) hid
    rwa [hconns] at hcase

variable {s}

theorem RemoveCase.reply {meetingId connectionId : String} {r : SessionState × Bool}
    (h : RemoveCase s meetingId connectionId r) :
    r.2 = true ↔ s.HasActive meetingId connectionId := by
  cases h with
  | absent habsent => simp [habsent]
  | found participantId entry hmem hid =>
    exact iff_of_true rfl ⟨entry, mem_activeIn.mpr ⟨participantId, hmem⟩, hid⟩

/-- A successful removal takes one entry out of the meeting and out of the
    whole table. -/
theorem RemoveCase.perm {meetingId connectionId : String} {r : SessionState × Bool}
    (h : RemoveCase s meetingId connectionId r) (hr : r.2 = true) :
    ∃ entry : ConnectionEntry, entry.connectionId = connectionId ∧
      s.activeIn meetingId ~ entry :: r.1.activeIn meetingId ∧
      items s.activeConnections ~ entry :: items r.1.activeConnections := by
  cases h with
  | absent => cases hr
  | found participantId entry hmem hid =>
    obtain ⟨out, hout, hcond, hperm⟩ := perm_eraseP
      (p := fun c : ConnectionEntry => decide (c.connectionId = connectionId))
      ⟨entry, hmem, by simpa using hid⟩
    refine ⟨out, by simpa using hcond, ?_, ?_⟩
    · have hrow := rowItems_setCell s.activeConnections meetingId participantId
        ((s.active meetingId participantId).eraseP fun c => c.connectionId = connectionId)
      have hsplit := (hperm.append_right _).symm.trans hrow
      rw [List.cons_append] at hsplit
      exact ((List.perm_append_left_iff _).mp (List.perm_middle.trans hsplit)).symm
    · have hall := items_setCell s.activeConnections meetingId participantId
        ((s.active meetingId participantId).eraseP fun c => c.connectionId = connectionId)
      have hsplit := (hperm.append_right _).symm.trans hall
      rw [List.cons_append] at hsplit
      exact ((List.perm_append_left_iff _).mp (List.perm_middle.trans hsplit)).symm

/-- A removal writes to the active connections only. -/
theorem RemoveCase.frame {meetingId connectionId : String} {r : SessionState × Bool}
    (h : RemoveCase s meetingId connectionId r) :
    r.1.pendingConnections = s.pendingConnections ∧ r.1.meetingNotifiers = s.meetingNotifiers ∧
      r.1.registeredMeetings = s.registeredMeetings := by
  cases h with
  | absent => exact ⟨rfl, rfl, rfl⟩
  | found => exact ⟨rfl, rfl, rfl⟩

theorem RemoveCase.same {meetingId connectionId : String} {r : SessionState × Bool}
    (h : RemoveCase s meetingId connectionId r) (hr : r.2 = false) : r.1 = s := by
  cases h with
  | absent => rfl
  | found => cases hr

theorem RemoveCase.activeIn_of_ne {meetingId connectionId m : String} {r : SessionState × Bool}
    (h : RemoveCase s meetingId connectionId r) (hm : m ≠ meetingId) :
    r.1.activeIn m = s.activeIn m := by
  cases h with
  | absent => rfl
  | found => exact rowItems_setCell_of_ne _ _ _ _ hm

theorem RemoveCase.connectionIds {meetingId connectionId : String} {r : SessionState × Bool}
    (h : RemoveCase s meetingId connectionId r) (hr : r.2 = true) :
    s.connectionIds ~ connectionId :: r.1.connectionIds := by
  obtain ⟨entry, hid, _, hitems⟩ := h.perm hr
  have hmap := hitems.map (·.connectionId)
  rw [List.map_cons, hid] at hmap
  unfold SessionState.connectionIds
  rw [h.frame.1]
  exact hmap.append_right _

theorem nodup_items (hn : s.connectionIds.Nodup) :
    ((items s.activeConnections).map (·.connectionId)).Nodup :=
  (List.nodup_append.mp hn).1

theorem nodup_pending (hn : s.connectionIds.Nodup) :
    ((flat id s.pendingConnections).map (·.connectionId)).Nodup :=
  (List.nodup_append.mp hn).2.1

/-- Where the ids are distinct, a removal leaves exactly the other entries. -/
theorem RemoveCase.active {meetingId connectionId : String} {r : SessionState × Bool}
    (h : RemoveCase s meetingId connectionId r) (hn : s.connectionIds.Nodup) (m p : String) :
    r.1.active m p = if m = meetingId then
      (s.active m p).filter (fun c => c.connectionId ≠ connectionId) else s.active m p := by
  have hkeep : ∀ l : List ConnectionEntry, (∀ c ∈ l, c.connectionId ≠ connectionId) →
      l.filter (fun c => c.connectionId ≠ connectionId) = l := by
    intro l hl
    rw [List.filter_eq_self]
    intro c hc
    simpa using hl c hc
  cases h with
  | absent habsent =>
    split_ifs with hm
    · subst hm
      refine (hkeep _ fun c hc hid => habsent ⟨c, mem_activeIn.mpr ⟨p, hc⟩, hid⟩).symm
    · rfl
  | found participantId entry hmem hid =>
    have hnodup := nodup_items hn
    rw [SessionState.active, cell_setCell]
    split_ifs with hcell hm hm
    · rw [hcell.1, hcell.2]
      exact eraseP_eq_filter (nodup_cell hnodup meetingId participantId)
    · exact absurd hcell.1 hm
    · refine (hkeep _ fun c hc hcid => hcell ?_).symm
      exact cell_unique hnodup hmem hc (hid.trans hcid.symm)
    · rfl

/-! `remove_pending_connection`. -/

variable (s)

theorem removePending_reply (meetingId connectionId : String) :
    (s.handleRemovePendingConnection meetingId connectionId).2 = true ↔
      s.HasPending meetingId connectionId := by
  have hany : (bucket s.pendingConnections meetingId).any
      (fun c => c.connectionId = connectionId) = true ↔ s.HasPending meetingId connectionId := by
    simp [HasPending, pendingIn]
  rw [← hany, handleRemovePendingConnection]
  split_ifs with h
  · exact iff_of_true rfl h
  · exact iff_of_false not_false h

theorem pendingIn_removePending (meetingId connectionId m : String) :
    (s.handleRemovePendingConnection meetingId connectionId).1.pendingIn m =
      if m = meetingId then (s.pendingIn m).eraseP (fun c => c.connectionId = connectionId)
      else s.pendingIn m := by
  unfold handleRemovePendingConnection pendingIn
  by_cases h : (bucket s.pendingConnections meetingId).any fun c => c.connectionId = connectionId
  · simp only [h, if_true]
    split_ifs with hempty hm hm
    · rw [bucket_erase, if_pos hm, hm]
      exact (List.isEmpty_iff.mp hempty).symm
    · rw [bucket_erase, if_neg hm]
    · rw [bucket_insert, if_pos hm, hm]
    · rw [bucket_insert, if_neg hm]
  · simp only [h, Bool.false_eq_true, if_false]
    split_ifs with hm
    · subst hm
      rw [List.eraseP_of_forall_not]
      intro c hc hcid
      exact h (List.any_eq_true.mpr ⟨c, hc, hcid⟩)
    · rfl

/-- It writes to the pending connections only. -/
theorem removePending_frame (meetingId connectionId : String) :
    (s.handleRemovePendingConnection meetingId connectionId).1.activeConnections =
        s.activeConnections ∧
      (s.handleRemovePendingConnection meetingId connectionId).1.meetingNotifiers =
        s.meetingNotifiers ∧
      (s.handleRemovePendingConnection meetingId connectionId).1.registeredMeetings =
        s.registeredMeetings := by
  unfold handleRemovePendingConnection
  simp only
  split_ifs <;> exact ⟨rfl, rfl, rfl⟩

theorem removePending_of_absent {meetingId connectionId : String}
    (h : ¬ s.HasPending meetingId connectionId) :
    s.handleRemovePendingConnection meetingId connectionId = (s, false) := by
  unfold handleRemovePendingConnection
  rw [if_neg]
  intro hany
  simp only [List.any_eq_true, decide_eq_true_eq] at hany
  exact h hany

variable {s}

theorem connectionIds_removePending {meetingId connectionId : String}
    (h : s.HasPending meetingId connectionId) :
    s.connectionIds ~
      connectionId :: (s.handleRemovePendingConnection meetingId connectionId).1.connectionIds := by
  obtain ⟨conn, hconn, hid⟩ := h
  obtain ⟨out, _, hcond, hperm⟩ := perm_eraseP
    (p := fun c : PendingConnection => decide (c.connectionId = connectionId))
    ⟨conn, hconn, by simpa using hid⟩
  have hout : out.connectionId = connectionId := by simpa using hcond
  -- both ways of storing what is left hold the same connections
  have hflat : flat id s.pendingConnections ~ out ::
      flat id (s.handleRemovePendingConnection meetingId connectionId).1.pendingConnections := by
    have hany : (bucket s.pendingConnections meetingId).any fun c =>
        c.connectionId = connectionId :=
      List.any_eq_true.mpr ⟨conn, hconn, by simpa using hid⟩
    unfold handleRemovePendingConnection
    simp only [hany, if_true]
    have herase := flat_bucket_erase s.pendingConnections meetingId
    split_ifs with hempty
    · have hrest : (s.pendingIn meetingId).eraseP (fun c => c.connectionId = connectionId) = [] :=
        List.isEmpty_iff.mp hempty
      rw [hrest] at hperm
      exact herase.trans (hperm.append_right _)
    · have hinsert := flat_bucket_insert s.pendingConnections meetingId
        ((bucket s.pendingConnections meetingId).eraseP fun c => c.connectionId = connectionId)
      have hsplit := (hperm.append_right _).symm.trans hinsert
      rw [List.cons_append] at hsplit
      exact ((List.perm_append_left_iff _).mp (List.perm_middle.trans hsplit)).symm
  unfold SessionState.connectionIds
  rw [(s.removePending_frame meetingId connectionId).1]
  have hmap := hflat.map (·.connectionId)
  rw [List.map_cons, hout] at hmap
  exact (hmap.append_left _).trans List.perm_middle

end Effects

end SessionState

end DarkTower.Mh
