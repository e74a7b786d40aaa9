import DarkTower.Lib.Multimap

/-!
# The registry of media handler connections

Model of `MhConnectionRegistry` (`mc-service/src/mh_connection_registry.rs`) and
of the two RPCs of `McMediaCoordinationService`
(`mc-service/src/grpc/media_coordination.rs`) that write to it. Every operation
holds the lock of the map, so it is one step.

* `lists_addConnection`, `lists_removeConnection`: which handlers are listed for
  a participant afterwards. The connections of one handler are not told apart.
* `mem_addConnection`, `mem_removeConnection`, `mem_removeMeeting`: for which
  meetings there is an entry afterwards.
-/

namespace DarkTower.Mc

open DarkTower.Lib DarkTower.Lib.Multimap

/-- `MAX_CONNECTIONS_PER_MEETING` (mh_connection_registry.rs:26). -/
def maxConnectionsPerMeeting : ℕ := 1000

/-- `MAX_ID_LENGTH` (mh_connection_registry.rs:29). -/
def maxIdLength : ℕ := 256

/-- `MhConnectionInfo` (mh_connection_registry.rs:33). -/
structure MhConnectionInfo where
  handlerId : String
  connectedAt : ℕ
deriving DecidableEq

/-- `MhConnectionRegistry` (mh_connection_registry.rs:44). -/
structure MhConnectionRegistry where
  /-- By meeting and participant. -/
  connections : AList fun _ : String => AList fun _ : String => List MhConnectionInfo

namespace MhConnectionRegistry

/-- `MhConnectionRegistry::new`. -/
def new : MhConnectionRegistry := ⟨∅⟩

/-- `add_connection` (mh_connection_registry.rs:62). -/
def addConnection (r : MhConnectionRegistry) (now : ℕ)
    (meetingId participantId handlerId : String) : MhConnectionRegistry × Bool :=
  let meeting := row r.connections meetingId
  if maxConnectionsPerMeeting ≤ (rowItems r.connections meetingId).length then
    (⟨r.connections.insert meetingId meeting⟩, false)
  else
    let participantConnections := bucket meeting participantId
    if participantConnections.any fun c => c.handlerId = handlerId then
      (⟨setCell r.connections meetingId participantId participantConnections⟩, true)
    else
      (⟨setCell r.connections meetingId participantId
        (participantConnections ++ [⟨handlerId, now⟩])⟩, true)

/-- `remove_connection` (mh_connection_registry.rs:120). -/
def removeConnection (r : MhConnectionRegistry) (meetingId participantId handlerId : String) :
    MhConnectionRegistry × Bool :=
  match r.connections.lookup meetingId with
  | none => (r, false)
  | some meeting =>
    match meeting.lookup participantId with
    | none => (r, false)
    | some participantConnections =>
      let retained := participantConnections.filter fun c => c.handlerId ≠ handlerId
      let meeting' := if retained.isEmpty then meeting.erase participantId
        else meeting.insert participantId retained
      (⟨if meeting'.entries.isEmpty then r.connections.erase meetingId
        else r.connections.insert meetingId meeting'⟩,
        decide (retained.length < participantConnections.length))

/-- `remove_meeting` (mh_connection_registry.rs:175). -/
def removeMeeting (r : MhConnectionRegistry) (meetingId : String) : MhConnectionRegistry :=
  ⟨r.connections.erase meetingId⟩

/-- `get_connections` (mh_connection_registry.rs:189). -/
def getConnections (r : MhConnectionRegistry) (meetingId participantId : String) :
    List MhConnectionInfo :=
  cell r.connections meetingId participantId

/-- The registry lists a handler for a participant of a meeting. -/
def Lists (r : MhConnectionRegistry) (meetingId participantId handlerId : String) : Prop :=
  ∃ c ∈ r.getConnections meetingId participantId, c.handlerId = handlerId

instance (r : MhConnectionRegistry) (meetingId participantId handlerId : String) :
    Decidable (r.Lists meetingId participantId handlerId) :=
  inferInstanceAs (Decidable (∃ c ∈ r.getConnections meetingId participantId, c.handlerId = handlerId))

/-- A meeting has fewer connections than the limit. -/
def HasRoom (r : MhConnectionRegistry) (meetingId : String) : Prop :=
  (rowItems r.connections meetingId).length < maxConnectionsPerMeeting

instance (r : MhConnectionRegistry) (meetingId : String) : Decidable (r.HasRoom meetingId) :=
  inferInstanceAs (Decidable (_ < _))

variable (r : MhConnectionRegistry) (now : ℕ) (meetingId participantId handlerId : String)

/-! ## Which handlers are listed -/

theorem not_lists_new : ¬ new.Lists meetingId participantId handlerId := by
  rintro ⟨c, hc, -⟩
  cases hc

theorem any_handler_iff : ((bucket (row r.connections meetingId) participantId).any
    fun c => c.handlerId = handlerId) = true ↔ r.Lists meetingId participantId handlerId := by
  rw [List.any_eq_true]
  simp only [decide_eq_true_eq]
  rfl

theorem getConnections_addConnection (m p : String) :
    (r.addConnection now meetingId participantId handlerId).1.getConnections m p =
      if (m = meetingId ∧ p = participantId) ∧ r.HasRoom meetingId ∧
          ¬ r.Lists meetingId participantId handlerId then
        r.getConnections m p ++ [⟨handlerId, now⟩]
      else r.getConnections m p := by
  unfold addConnection
  by_cases hroom : r.HasRoom meetingId
  · have hlimit : ¬ maxConnectionsPerMeeting ≤ (rowItems r.connections meetingId).length :=
      Nat.not_le.mpr hroom
    simp only [hlimit, if_false, any_handler_iff, hroom, true_and]
    split_ifs with hlists hcell hcell
    · exact absurd hlists hcell.2
    · refine (cell_setCell ..).trans ?_
      split_ifs with hsame
      · rw [hsame.1, hsame.2]
        rfl
      · rfl
    · refine (cell_setCell ..).trans ?_
      rw [if_pos hcell.1, hcell.1.1, hcell.1.2]
      rfl
    · refine (cell_setCell ..).trans ?_
      rw [if_neg fun hsame => hcell ⟨hsame, hlists⟩]
      rfl
  · have hlimit : maxConnectionsPerMeeting ≤ (rowItems r.connections meetingId).length :=
      Nat.not_lt.mp hroom
    simp only [hlimit, if_true, hroom, false_and, and_false, if_false, getConnections, cell,
      row_insert]
    split_ifs with hm
    · rw [hm]
    · rfl

theorem lists_addConnection (m p h : String) :
    (r.addConnection now meetingId participantId handlerId).1.Lists m p h ↔
      r.Lists m p h ∨
        (m = meetingId ∧ p = participantId ∧ h = handlerId) ∧ r.HasRoom meetingId := by
  unfold Lists
  rw [getConnections_addConnection]
  split_ifs with hcond
  · obtain ⟨⟨rfl, rfl⟩, hroom, -⟩ := hcond
    simp only [List.mem_append, List.mem_singleton, or_and_right, exists_or, exists_eq_left,
      hroom, and_true, true_and, eq_comm]
  · refine ⟨.inl, fun hor => hor.elim id ?_⟩
    rintro ⟨⟨rfl, rfl, rfl⟩, hroom⟩
    by_contra hlists
    exact hcond ⟨⟨rfl, rfl⟩, hroom, hlists⟩

theorem getConnections_removeConnection (m p : String) :
    (r.removeConnection meetingId participantId handlerId).1.getConnections m p =
      if m = meetingId ∧ p = participantId then
        (r.getConnections m p).filter fun c => c.handlerId ≠ handlerId
      else r.getConnections m p := by
  unfold removeConnection
  cases hmeeting : r.connections.lookup meetingId with
  | none =>
    split_ifs with hcell
    · have hnil : r.getConnections m p = [] := by
        rw [getConnections, cell, row, hcell.1, hmeeting]
        rfl
      rw [hnil]
      rfl
    · rfl
  | some meeting =>
    have hrow : row r.connections meetingId = meeting := by rw [row, hmeeting, Option.getD_some]
    cases hconnections : meeting.lookup participantId with
    | none =>
      split_ifs with hcell
      · have hnil : r.getConnections m p = [] := by
          rw [getConnections, cell, hcell.1, hcell.2, hrow, bucket, hconnections]
          rfl
        simp only [hconnections, hnil]
        rfl
      · simp only [hconnections]
    | some participantConnections =>
      have hold : r.getConnections meetingId participantId = participantConnections := by
        rw [getConnections, cell, hrow, bucket, hconnections, Option.getD_some]
      -- the participant's list is stored or, if it is empty, its key is dropped
      have hbucket : ∀ retained : List MhConnectionInfo, bucket (if retained.isEmpty then
          meeting.erase participantId else meeting.insert participantId retained) p =
          if p = participantId then retained else bucket meeting p := by
        intro retained
        split_ifs with hempty hp hp
        · rw [bucket_erase, if_pos hp, List.isEmpty_iff.mp hempty]
        · rw [bucket_erase, if_neg hp]
        · rw [bucket_insert, if_pos hp]
        · rw [bucket_insert, if_neg hp]
      simp only [hconnections, getConnections, cell_storeRow, hbucket]
      by_cases hm : m = meetingId
      · by_cases hp : p = participantId
        · rw [if_pos hm, if_pos hp, if_pos ⟨hm, hp⟩, hm, hp, ← hold, getConnections]
        · rw [if_pos hm, if_neg hp, if_neg fun h => hp h.2, cell, hm, hrow]
      · rw [if_neg hm, if_neg fun h => hm h.1]

theorem lists_removeConnection (m p h : String) :
    (r.removeConnection meetingId participantId handlerId).1.Lists m p h ↔
      r.Lists m p h ∧ ¬ (m = meetingId ∧ p = participantId ∧ h = handlerId) := by
  unfold Lists
  rw [getConnections_removeConnection]
  split_ifs with hcell
  · simp only [hcell, true_and, List.mem_filter, decide_eq_true_eq]
    grind
  · grind

/-! ## Which meetings have an entry -/

theorem mem_addConnection (m : String) :
    m ∈ (r.addConnection now meetingId participantId handlerId).1.connections ↔
      m = meetingId ∨ m ∈ r.connections := by
  simp only [addConnection, setCell]
  split_ifs
  · exact AList.mem_insert r.connections
  · exact AList.mem_insert r.connections
  · exact AList.mem_insert r.connections

theorem mem_removeConnection {m : String}
    (h : m ∈ (r.removeConnection meetingId participantId handlerId).1.connections) :
    m ∈ r.connections := by
  unfold removeConnection at h
  cases hmeeting : r.connections.lookup meetingId with
  | none => simpa only [hmeeting] using h
  | some meeting =>
    have hmem : meetingId ∈ r.connections := AList.lookup_isSome.mp (by rw [hmeeting]; rfl)
    cases hconnections : meeting.lookup participantId with
    | none => simpa only [hmeeting, hconnections] using h
    | some participantConnections =>
      simp only [hmeeting, hconnections] at h
      split_ifs at h
      all_goals first
        | exact (AList.mem_erase.mp h).2
        | exact ((AList.mem_insert r.connections).mp h).elim (fun heq => heq ▸ hmem) id

theorem mem_removeMeeting (m : String) :
    m ∈ (r.removeMeeting meetingId).connections ↔ m ≠ meetingId ∧ m ∈ r.connections :=
  AList.mem_erase

end MhConnectionRegistry

/-! ## The RPCs of `McMediaCoordinationService` -/

/-- The `tonic::Status` of a rejected request. -/
inductive MediaStatus
  | invalidArgument (message : String)
deriving DecidableEq

/-- `validate_id_field` (media_coordination.rs:46). -/
def validateIdField (value : String) : Except MediaStatus Unit :=
  if value.isEmpty then .error (.invalidArgument "Invalid request")
  else if maxIdLength < value.utf8ByteSize then .error (.invalidArgument "Invalid request")
  else .ok ()

/-- The checks that both RPCs make first. -/
def validateIds (meetingId participantId handlerId : String) : Except MediaStatus Unit := do
  validateIdField meetingId
  validateIdField participantId
  validateIdField handlerId

/-- The ids of a request pass `validate_id_field`. -/
def IdsValid (meetingId participantId handlerId : String) : Prop :=
  validateIds meetingId participantId handlerId = .ok ()

instance (meetingId participantId handlerId : String) :
    Decidable (IdsValid meetingId participantId handlerId) :=
  match h : validateIds meetingId participantId handlerId with
  | .ok () => isTrue h
  | .error _ => isFalse fun hvalid => by rw [IdsValid, h] at hvalid; cases hvalid

namespace MhConnectionRegistry

/-- `notify_participant_connected` (media_coordination.rs:74). A full meeting is
    acknowledged as well. -/
def notifyParticipantConnected (r : MhConnectionRegistry) (now : ℕ)
    (meetingId participantId handlerId : String) :
    MhConnectionRegistry × Except MediaStatus Bool :=
  match validateIds meetingId participantId handlerId with
  | .error status => (r, .error status)
  | .ok () => ((r.addConnection now meetingId participantId handlerId).1, .ok true)

/-- `notify_participant_disconnected` (media_coordination.rs:123). -/
def notifyParticipantDisconnected (r : MhConnectionRegistry)
    (meetingId participantId handlerId : String) :
    MhConnectionRegistry × Except MediaStatus Bool :=
  match validateIds meetingId participantId handlerId with
  | .error status => (r, .error status)
  | .ok () => ((r.removeConnection meetingId participantId handlerId).1, .ok true)

variable (r : MhConnectionRegistry) (now : ℕ) (meetingId participantId handlerId : String)

/-- A notification with invalid ids does nothing. -/
theorem fst_of_validateIds (r' : MhConnectionRegistry) :
    (match validateIds meetingId participantId handlerId with
      | .error status => (r, Except.error status)
      | .ok () => (r', Except.ok true) : MhConnectionRegistry × Except MediaStatus Bool).1 =
      if IdsValid meetingId participantId handlerId then r' else r := by
  split
  · rename_i status hstatus
    rw [if_neg fun hvalid => by rw [IdsValid, hstatus] at hvalid; cases hvalid]
  · rename_i hvalid
    exact (if_pos hvalid).symm

theorem notifyParticipantConnected_registry :
    (r.notifyParticipantConnected now meetingId participantId handlerId).1 =
      if IdsValid meetingId participantId handlerId then
        (r.addConnection now meetingId participantId handlerId).1 else r :=
  fst_of_validateIds r meetingId participantId handlerId _

theorem notifyParticipantDisconnected_registry :
    (r.notifyParticipantDisconnected meetingId participantId handlerId).1 =
      if IdsValid meetingId participantId handlerId then
        (r.removeConnection meetingId participantId handlerId).1 else r :=
  fst_of_validateIds r meetingId participantId handlerId _

end MhConnectionRegistry

end DarkTower.Mc
