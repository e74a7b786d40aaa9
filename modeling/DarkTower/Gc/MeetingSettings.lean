import DarkTower.Gc.CreateMeeting
import DarkTower.Gc.MeetingLimit

/-!
# The settings of a meeting

`update_meeting_settings` (`gc-service/src/handlers/meetings.rs:698`) reads the meeting,
compares its creator with the user, and updates the row in another statement. The fields
that the request leaves out keep the values that the row has at the commit (`COALESCE`),
and in between other requests may commit.

* `settings_of_run`: in every run, each setting of a meeting is the last value that an
  update gave for it, whatever updates run at the same time; a meeting keeps its
  organization, its creator, its code and every other column but status and times.
* `host_of_change`: every update that commits was requested by the creator of the meeting.
-/

namespace DarkTower.Gc

open DarkTower.Common DarkTower.Lib

/-! ## The request -/

/-- `UpdateMeetingSettingsRequest` (models/mod.rs:282). -/
structure UpdateMeetingSettingsRequest where
  allowGuests : Option Bool
  allowExternalParticipants : Option Bool
  waitingRoomEnabled : Option Bool
deriving DecidableEq

/-- `UpdateMeetingSettingsRequest::has_changes` (models/mod.rs:298). -/
def UpdateMeetingSettingsRequest.hasChanges (request : UpdateMeetingSettingsRequest) : Bool :=
  request.allowGuests.isSome || request.allowExternalParticipants.isSome ||
    request.waitingRoomEnabled.isSome

/-- `MeetingResponse` (models/mod.rs:309). -/
structure MeetingResponse where
  meetingId : String
  displayName : String
  meetingCode : String
  status : MeetingStatus
  allowGuests : Bool
  allowExternalParticipants : Bool
  waitingRoomEnabled : Bool
  updatedAt : ℤ
deriving DecidableEq

/-- `MeetingResponse::from`. -/
def MeetingResponse.ofRow (row : MeetingRow) : MeetingResponse := { row with }

/-- `find_meeting_by_id` (line 786). -/
def findMeetingById (t : MeetingTables) (meetingId : String) : Except GcError MeetingRow :=
  match t.meetings.find? fun m => m.meetingId = meetingId with
  | none => .error (.notFound "Meeting not found")
  | some m => .ok m

/-- `update_meeting_settings` (line 698) up to its update: the user who asks. -/
def updateMeetingSettings (parseUuid : String → Option String) (t : MeetingTables)
    (claims : UserClaims) (meetingId : String) (request : UpdateMeetingSettingsRequest) :
    Except GcError String := do
  if request.hasChanges = false then .error (.badRequest "No changes provided")
  let meeting ← findMeetingById t meetingId
  let userId ← parseUserId parseUuid claims.sub
  if meeting.createdByUserId ≠ userId then
    .error (.forbidden "Only the meeting host can update settings")
  pure userId

/-- The row that `update_meeting_settings_in_db` writes. -/
def settingsRow (now : ℤ) (meetingId : String) (request : UpdateMeetingSettingsRequest)
    (m : MeetingRow) : MeetingRow :=
  if m.meetingId = meetingId then
    { m with
      allowGuests := request.allowGuests.getD m.allowGuests
      allowExternalParticipants :=
        request.allowExternalParticipants.getD m.allowExternalParticipants
      waitingRoomEnabled := request.waitingRoomEnabled.getD m.waitingRoomEnabled
      updatedAt := now }
  else m

theorem settingsRow_keys (now : ℤ) (meetingId : String) (request : UpdateMeetingSettingsRequest)
    (m : MeetingRow) :
    ((settingsRow now meetingId request m).meetingId, (settingsRow now meetingId request m).orgId,
      (settingsRow now meetingId request m).meetingCode) =
      (m.meetingId, m.orgId, m.meetingCode) := by
  unfold settingsRow
  split_ifs <;> rfl

/-- `update_meeting_settings_in_db` (line 799) at its commit. -/
def MeetingTables.updateMeetingSettingsInDb (t : MeetingTables) (now : ℤ) (meetingId : String)
    (request : UpdateMeetingSettingsRequest) : MeetingTables × Except GcError MeetingRow :=
  ({ t with
      meetings := t.meetings.map (settingsRow now meetingId request)
      meetingKey := by
        have hids : (fun m : MeetingRow => m.meetingId) ∘ settingsRow now meetingId request =
            fun m => m.meetingId := by
          funext m
          exact congrArg Prod.fst (settingsRow_keys now meetingId request m)
        rw [List.map_map, hids]
        exact t.meetingKey
      codeKey := by
        have hcodes : (fun m : MeetingRow => (m.orgId, m.meetingCode)) ∘
            settingsRow now meetingId request = fun m => (m.orgId, m.meetingCode) := by
          funext m
          exact congrArg Prod.snd (settingsRow_keys now meetingId request m)
        rw [List.map_map, hcodes]
        exact t.codeKey },
    match t.meetings.find? fun m => m.meetingId = meetingId with
    | none => .error (.notFound "Meeting not found")
    | some m => .ok (settingsRow now meetingId request m))

/-! ## Concurrent requests -/

/-- A handler between its check and its update. -/
structure SettingsUpdate where
  userId : String
  meetingId : String
  request : UpdateMeetingSettingsRequest
deriving DecidableEq

/-- The meetings with the updates that have passed their checks. -/
structure SettingsSystem where
  meetings : MeetingSystem
  updates : AList fun _ : ℕ => SettingsUpdate

/-- The rows of the meetings. -/
def SettingsSystem.tables (s : SettingsSystem) : MeetingTables := s.meetings.tables

/-- A step on the meetings, or of a call of `update_meeting_settings`. -/
inductive SettingsEvent
  | meeting (e : MeetingEvent)
  | updateMeetingSettings (call : ℕ) (claims : UserClaims) (meetingId : String)
      (request : UpdateMeetingSettingsRequest)
  | update (call : ℕ) (now : ℤ)
  /-- The connection to the database fails, maybe after the update has committed. -/
  | fail (call : ℕ) (now : ℤ) (committed : Bool)

/-- The answer to a request, and the update that was committed. -/
structure SettingsReply where
  answer : Option (Except GcError MeetingResponse)
  committed : Option SettingsUpdate

/-- Nothing is answered, and no settings are committed. -/
def SettingsReply.none : SettingsReply := ⟨.none, .none⟩

namespace SettingsSystem

variable (s : SettingsSystem)

/-- The update of a call is committed. -/
def commit (call : ℕ) (now : ℤ) (u : SettingsUpdate) : SettingsSystem where
  meetings := { s.meetings with
    tables := (s.tables.updateMeetingSettingsInDb now u.meetingId u.request).1 }
  updates := s.updates.erase call

/-- A call is checked, its update is executed, or it fails. -/
def step (parseUuid : String → Option String) : SettingsEvent → SettingsSystem × SettingsReply
  | .meeting e => ({ s with meetings := (s.meetings.step e).1 }, .none)
  | .updateMeetingSettings call claims meetingId request =>
    if call ∈ s.updates then (s, .none)
    else
      match updateMeetingSettings parseUuid s.tables claims meetingId request with
      | .error e => (s, ⟨some (.error e), .none⟩)
      | .ok userId =>
        ({ s with updates := s.updates.insert call ⟨userId, meetingId, request⟩ }, .none)
  | .update call now =>
    match s.updates.lookup call with
    | .none => (s, .none)
    | some u => (s.commit call now u,
        ⟨some ((s.tables.updateMeetingSettingsInDb now u.meetingId u.request).2.map
          MeetingResponse.ofRow), some u⟩)
  | .fail call now committed =>
    match s.updates.lookup call with
    | .none => (s, .none)
    | some u =>
      if committed then (s.commit call now u, ⟨some (.error .database), some u⟩)
      else ({ s with updates := s.updates.erase call }, ⟨some (.error .database), .none⟩)

end SettingsSystem

/-- The handlers and the database, from some tables. Nobody else writes the meetings. -/
def settingsMachine (parseUuid : String → Option String) (t₀ : MeetingTables) :
    Machine SettingsSystem SettingsEvent SettingsReply where
  init := ⟨⟨t₀, ∅⟩, ∅⟩
  step s := s.step parseUuid
  allowed _ _ e := ∀ t, e ≠ .meeting (.other t)

/-- The events so far with their answers, the last one first. -/
abbrev SettingsHistory := List (SettingsEvent × SettingsReply)

/-! ## What a step does to a row -/

/-- The settings that a request may give. -/
inductive Setting
  | allowGuests
  | allowExternalParticipants
  | waitingRoomEnabled

/-- The column of a setting. -/
def Setting.ofRow (row : MeetingRow) : Setting → Bool
  | .allowGuests => row.allowGuests
  | .allowExternalParticipants => row.allowExternalParticipants
  | .waitingRoomEnabled => row.waitingRoomEnabled

/-- The field of a setting in a request, if it is there. -/
def Setting.ofRequest (request : UpdateMeetingSettingsRequest) : Setting → Option Bool
  | .allowGuests => request.allowGuests
  | .allowExternalParticipants => request.allowExternalParticipants
  | .waitingRoomEnabled => request.waitingRoomEnabled

/-- The value that a step gives a setting of a meeting. -/
def Setting.given (setting : Setting) (meetingId : String) (reply : SettingsReply) : Option Bool :=
  reply.committed.bind fun u =>
    if u.meetingId = meetingId then setting.ofRequest u.request else none

/-- The last value that a history gives a setting of a meeting. -/
def Setting.lastGiven (setting : Setting) (meetingId : String) (h : SettingsHistory) :
    Option Bool :=
  h.findSome? fun x => setting.given meetingId x.2

/-- A row and a later one of the same meeting: settings, status and two times may differ. -/
structure SameMeeting (old new : MeetingRow) : Prop where
  meetingId : new.meetingId = old.meetingId
  orgId : new.orgId = old.orgId
  createdByUserId : new.createdByUserId = old.createdByUserId
  meetingCode : new.meetingCode = old.meetingCode
  others : { new with
    allowGuests := old.allowGuests
    allowExternalParticipants := old.allowExternalParticipants
    waitingRoomEnabled := old.waitingRoomEnabled
    status := old.status
    actualStartTime := old.actualStartTime
    updatedAt := old.updatedAt } = old

theorem SameMeeting.refl (row : MeetingRow) : SameMeeting row row := ⟨rfl, rfl, rfl, rfl, rfl⟩

theorem SameMeeting.trans {a b c : MeetingRow} (hab : SameMeeting a b) (hbc : SameMeeting b c) :
    SameMeeting a c where
  meetingId := hbc.meetingId.trans hab.meetingId
  orgId := hbc.orgId.trans hab.orgId
  createdByUserId := hbc.createdByUserId.trans hab.createdByUserId
  meetingCode := hbc.meetingCode.trans hab.meetingCode
  others := by
    have hold := hab.others
    rw [← hbc.others] at hold
    exact hold

theorem sameMeeting_activateRow (now : ℤ) (meetingId : String) (row : MeetingRow) :
    SameMeeting row (MeetingTables.activateRow now meetingId row) ∧
      ∀ setting : Setting, setting.ofRow (MeetingTables.activateRow now meetingId row) =
        setting.ofRow row := by
  unfold MeetingTables.activateRow
  split_ifs
  · exact ⟨⟨rfl, rfl, rfl, rfl, rfl⟩, fun setting => by cases setting <;> rfl⟩
  · exact ⟨.refl row, fun _ => rfl⟩

theorem sameMeeting_settingsRow (now : ℤ) (meetingId : String)
    (request : UpdateMeetingSettingsRequest) (row : MeetingRow) :
    SameMeeting row (settingsRow now meetingId request row) ∧
      ∀ setting : Setting, setting.ofRow (settingsRow now meetingId request row) =
        (if meetingId = row.meetingId then setting.ofRequest request else none).getD
          (setting.ofRow row) := by
  unfold settingsRow
  split_ifs with hid hid' hid'
  · exact ⟨⟨rfl, rfl, rfl, rfl, rfl⟩, fun setting => by cases setting <;> rfl⟩
  · exact absurd hid.symm hid'
  · exact absurd hid'.symm hid
  · exact ⟨.refl row, fun _ => rfl⟩

/-- A statement that commits keeps every row, or activates it. -/
theorem sameMeeting_commit {t : MeetingTables} (now : ℤ) (x : Statement) {row : MeetingRow}
    (hrow : row ∈ t.meetings) :
    ∃ row' ∈ (x.commit t now).1.meetings, SameMeeting row row' ∧
      ∀ setting : Setting, setting.ofRow row' = setting.ofRow row := by
  cases x with
  | inserting new =>
    refine ⟨row, ?_, .refl row, fun _ => rfl⟩
    change row ∈ (t.insertMeeting new).1.meetings
    unfold MeetingTables.insertMeeting
    split_ifs
    · exact List.mem_cons_of_mem _ hrow
    · exact hrow
  | activating meetingId =>
    exact ⟨_, List.mem_map_of_mem hrow, sameMeeting_activateRow now meetingId row⟩

theorem sameMeeting_meeting {s : MeetingSystem} {e : MeetingEvent} (hother : ∀ t, e ≠ .other t)
    {row : MeetingRow} (hrow : row ∈ s.tables.meetings) :
    ∃ row' ∈ (s.step e).1.tables.meetings, SameMeeting row row' ∧
      ∀ setting : Setting, setting.ofRow row' = setting.ofRow row := by
  have hkept : ∀ s' : MeetingSystem, s'.tables = s.tables → ∃ row' ∈ s'.tables.meetings,
      SameMeeting row row' ∧ ∀ setting : Setting, setting.ofRow row' = setting.ofRow row :=
    fun s' hs' => ⟨row, hs' ▸ hrow, .refl row, fun _ => rfl⟩
  cases e with
  | createMeetingWithLimitCheck statement now meetingId m =>
    refine hkept _ ?_
    unfold MeetingSystem.step
    dsimp only
    split_ifs
    · rfl
    · split <;> rfl
  | activateMeeting statement meetingId =>
    refine hkept _ ?_
    unfold MeetingSystem.step
    dsimp only
    split_ifs <;> rfl
  | commit statement now =>
    unfold MeetingSystem.step
    dsimp only
    split
    · exact hkept _ rfl
    · exact sameMeeting_commit now _ hrow
  | fail statement now committed =>
    unfold MeetingSystem.step
    dsimp only
    split
    · exact hkept _ rfl
    · cases committed with
      | false => exact hkept _ rfl
      | true => exact sameMeeting_commit now _ hrow
  | other t => exact absurd rfl (hother t)

section Steps

variable {parseUuid : String → Option String} {t₀ : MeetingTables} {s : SettingsSystem}

/-- What a step does besides the statements of `MeetingSystem`. -/
inductive SettingsCase (parseUuid : String → Option String) (s : SettingsSystem) :
    SettingsEvent → SettingsSystem → SettingsReply → Prop
  | meeting (e : MeetingEvent) :
      SettingsCase parseUuid s (.meeting e) { s with meetings := (s.meetings.step e).1 } .none
  | kept (e : SettingsEvent) (answer : Option (Except GcError MeetingResponse))
      (hmeeting : ∀ e', e ≠ .meeting e') : SettingsCase parseUuid s e s ⟨answer, none⟩
  | checked (call : ℕ) (claims : UserClaims) (meetingId : String)
      (request : UpdateMeetingSettingsRequest) (userId : String)
      (hok : updateMeetingSettings parseUuid s.tables claims meetingId request = .ok userId) :
      SettingsCase parseUuid s (.updateMeetingSettings call claims meetingId request)
        { s with updates := s.updates.insert call ⟨userId, meetingId, request⟩ } .none
  | committed (e : SettingsEvent) (call : ℕ) (now : ℤ) (u : SettingsUpdate)
      (answer : Option (Except GcError MeetingResponse)) (hmeeting : ∀ e', e ≠ .meeting e')
      (hu : s.updates.lookup call = some u) :
      SettingsCase parseUuid s e (s.commit call now u) ⟨answer, some u⟩
  | failed (call : ℕ) (now : ℤ) :
      SettingsCase parseUuid s (.fail call now false)
        { s with updates := s.updates.erase call } ⟨some (.error .database), none⟩

theorem settings_case (parseUuid : String → Option String) (s : SettingsSystem)
    (e : SettingsEvent) :
    SettingsCase parseUuid s e (s.step parseUuid e).1 (s.step parseUuid e).2 := by
  cases e with
  | meeting e => exact .meeting e
  | updateMeetingSettings call claims meetingId request =>
    simp only [SettingsSystem.step]
    split_ifs
    · exact .kept _ none (by simp)
    split
    next e _ => exact .kept _ (some (.error e)) (by simp)
    next userId hok => exact .checked call claims meetingId request userId hok
  | update call now =>
    simp only [SettingsSystem.step]
    split
    · exact .kept _ none (by simp)
    next u hu => exact .committed _ call now u _ (by simp) hu
  | fail call now committed =>
    simp only [SettingsSystem.step]
    split
    · exact .kept _ none (by simp)
    next u hu =>
      cases committed with
      | true => exact .committed _ call now u _ (by simp) hu
      | false => exact .failed call now

/-- A step keeps every meeting, with the settings that it gives. -/
theorem settings_step (parseUuid : String → Option String) {e : SettingsEvent}
    (hother : ∀ t, e ≠ .meeting (.other t))
    {row : MeetingRow} (hrow : row ∈ s.tables.meetings) :
    ∃ row' ∈ (s.step parseUuid e).1.tables.meetings, SameMeeting row row' ∧
      ∀ setting : Setting, setting.ofRow row' =
        (setting.given row.meetingId (s.step parseUuid e).2).getD (setting.ofRow row) := by
  have hcase := settings_case parseUuid s e
  generalize (s.step parseUuid e).1 = s', (s.step parseUuid e).2 = reply at hcase ⊢
  cases hcase with
  | meeting e => exact sameMeeting_meeting (fun t he => hother t (congrArg _ he)) hrow
  | kept e answer _ => exact ⟨row, hrow, .refl row, fun _ => rfl⟩
  | checked call claims meetingId request userId _ => exact ⟨row, hrow, .refl row, fun _ => rfl⟩
  | committed e call now u answer _ _ =>
    exact ⟨_, List.mem_map_of_mem hrow, sameMeeting_settingsRow now u.meetingId u.request row⟩
  | failed call now => exact ⟨row, hrow, .refl row, fun _ => rfl⟩

end Steps

/-! ## Runs -/

section Runs

variable {parseUuid : String → Option String} {t₀ : MeetingTables} {h : SettingsHistory}
  {s : SettingsSystem}

/-- A meeting stays, with its organization, its creator and its code. -/
theorem sameMeeting_of_suffix (hr : (settingsMachine parseUuid t₀).Run h s) {h' : SettingsHistory}
    (hs : h' <:+ h) {row : MeetingRow}
    (hrow : row ∈ ((settingsMachine parseUuid t₀).stateAfter h').tables.meetings) :
    ∃ row' ∈ s.tables.meetings, SameMeeting row row' := by
  have hle := Machine.Run.le_of_suffix (r := fun s s' : SettingsSystem =>
    ∀ row ∈ s.tables.meetings, ∃ row' ∈ s'.tables.meetings, SameMeeting row row')
    (C := fun _ _ => True) (fun _ row hrow => ⟨row, hrow, .refl row⟩)
    (fun a b c hab hbc row hrow => by
      obtain ⟨row', hrow', hsame⟩ := hab row hrow
      obtain ⟨row'', hrow'', hsame'⟩ := hbc row' hrow'
      exact ⟨row'', hrow'', hsame.trans hsame'⟩)
    (fun h s e _ hallowed _ row hrow => by
      obtain ⟨row', hrow', hsame, _⟩ := settings_step parseUuid hallowed hrow
      exact ⟨row', hrow', hsame⟩)
    hr (fun _ _ _ _ => trivial) hs (List.suffix_refl h)
  rw [hr.eq_stateAfter]
  exact hle row hrow

/-- From any state of a run on, each setting of a meeting is the last value that an update
    gave for it, and what is no setting, status or time stays. -/
theorem settings_of_run (newer : SettingsHistory)
    (hr : (settingsMachine parseUuid t₀).Run (newer ++ h) s) {row : MeetingRow}
    (hrow : row ∈ ((settingsMachine parseUuid t₀).stateAfter h).tables.meetings) :
    ∃ row' ∈ s.tables.meetings, SameMeeting row row' ∧
      ∀ setting : Setting, setting.ofRow row' =
        (setting.lastGiven row.meetingId newer).getD (setting.ofRow row) := by
  induction newer generalizing s with
  | nil =>
    refine ⟨row, ?_, .refl row, fun _ => rfl⟩
    rw [hr.eq_stateAfter]
    exact hrow
  | cons x newer ih =>
    obtain ⟨e, reply⟩ := x
    obtain ⟨hanswer, hallowed⟩ := hr.answer_of_suffix (List.suffix_refl _)
    change reply = (SettingsSystem.step ((settingsMachine parseUuid t₀).stateAfter (newer ++ h))
      parseUuid e).2 at hanswer
    obtain ⟨row₁, hrow₁, hsame₁, hset₁⟩ := ih (hr.suffix (List.suffix_cons _ _))
    obtain ⟨row₂, hrow₂, hsame₂, hset₂⟩ := settings_step parseUuid hallowed hrow₁
    refine ⟨row₂, ?_, hsame₁.trans hsame₂, fun setting => ?_⟩
    · rw [hr.eq_stateAfter]
      exact hrow₂
    · -- what the last step gives wins over what the earlier ones gave
      rw [hset₂, hset₁, hsame₁.meetingId]
      change (setting.given row.meetingId (SettingsSystem.step _ parseUuid e).2).getD _ =
        (List.findSome? (fun x => setting.given row.meetingId x.2) ((e, reply) :: newer)).getD _
      rw [List.findSome?_cons, ← hanswer]
      cases setting.given row.meetingId reply <;> rfl

/-- A meeting with its defaults. -/
def settingsTables : MeetingTables where
  organizations := onePlace.organizations
  meetings := [(sampleMeeting "aaaaaaaaaaaa").row ⟨"org-1", 1, 100, true⟩ 0 "meeting-1"]
  organizationKey := onePlace.organizationKey
  meetingKey := List.nodup_singleton _
  codeKey := List.nodup_singleton _

/-- The creator, from two windows: one lets guests in and ends the waiting room, the other
    brings the waiting room back. -/
def settingsEvents : List SettingsEvent :=
  let host : UserClaims := ⟨"user:user-1", "org-1", "", [], 0, 0, ""⟩
  [.updateMeetingSettings 1 host "meeting-1" ⟨some true, none, some false⟩,
    .updateMeetingSettings 2 host "meeting-1" ⟨none, none, some true⟩, .update 1 5, .update 2 6]

/-- The calls for a meeting of one organization. -/
abbrev sampleSettings : Machine SettingsSystem SettingsEvent SettingsReply :=
  settingsMachine some settingsTables

theorem run_settingsEvents : sampleSettings.Run (sampleSettings.playAll settingsEvents).2
    (sampleSettings.playAll settingsEvents).1 := by
  refine Machine.run_of_admits ⟨?_, ?_, ?_, ?_, trivial⟩ <;>
    exact fun t he => by cases he

theorem settings_of_run_windows :
    ∃ row ∈ (sampleSettings.playAll settingsEvents).1.tables.meetings,
      row.meetingId = "meeting-1" ∧ row.allowGuests = true ∧ row.waitingRoomEnabled = true := by
  obtain ⟨row, hrow, hsame, hsettings⟩ := settings_of_run
    (sampleSettings.playAll settingsEvents).2
    (by rw [List.append_nil]; exact run_settingsEvents) (List.mem_singleton_self _)
  exact ⟨row, hrow, hsame.meetingId, (hsettings .allowGuests).trans (by decide),
    (hsettings .waitingRoomEnabled).trans (by decide)⟩

theorem updateMeetingSettings_eq_ok {t : MeetingTables} {claims : UserClaims} {meetingId : String}
    {request : UpdateMeetingSettingsRequest} {userId : String}
    (hok : updateMeetingSettings parseUuid t claims meetingId request = .ok userId) :
    ∃ row ∈ t.meetings, row.meetingId = meetingId ∧
      parseUserId parseUuid claims.sub = .ok row.createdByUserId := by
  unfold updateMeetingSettings findMeetingById at hok
  simp only [bind, Except.bind, pure, Except.pure] at hok
  split at hok
  · cases hok
  · split at hok
    · cases hok
    next row hrow =>
      split at hrow
      · cases hrow
      next found hfind =>
        obtain rfl := Except.ok.inj hrow
        split at hok
        · cases hok
        next user huser =>
          split at hok
          · cases hok
          next hcreator =>
            rw [ne_eq, not_not] at hcreator
            have hfound := List.find?_some hfind
            exact ⟨found, List.mem_of_find?_eq_some hfind, of_decide_eq_true hfound,
              hcreator ▸ huser⟩

/-- The creator of the meeting has asked for an update. -/
def RequestedByHost (parseUuid : String → Option String) (t₀ : MeetingTables) (h : SettingsHistory)
    (u : SettingsUpdate) : Prop :=
  ∃ call claims h', (.updateMeetingSettings call claims u.meetingId u.request, .none) :: h' <:+ h ∧
    ∃ row ∈ ((settingsMachine parseUuid t₀).stateAfter h').tables.meetings,
      row.meetingId = u.meetingId ∧ parseUserId parseUuid claims.sub = .ok row.createdByUserId

theorem RequestedByHost.mono {h' : SettingsHistory} {u : SettingsUpdate}
    (hu : RequestedByHost parseUuid t₀ h' u) (hs : h' <:+ h) :
    RequestedByHost parseUuid t₀ h u := by
  obtain ⟨call, claims, h'', hsuffix, hrow⟩ := hu
  exact ⟨call, claims, h'', hsuffix.trans hs, hrow⟩

/-- What waits for its update was requested by the creator of the meeting. -/
theorem requested_of_run (hr : (settingsMachine parseUuid t₀).Run h s) :
    ∀ call u, s.updates.lookup call = some u → RequestedByHost parseUuid t₀ h u := by
  refine hr.invariant (I := fun h s => ∀ call u, s.updates.lookup call = some u →
    RequestedByHost parseUuid t₀ h u) ?_ ?_
  · intro call u hu
    cases hu
  · intro h s e hr hallowed hI call u hu
    have hcase := settings_case parseUuid s e
    change (s.step parseUuid e).1.updates.lookup call = some u at hu
    change RequestedByHost parseUuid t₀ ((e, (s.step parseUuid e).2) :: h) u
    have hkept : ∀ reply, s.updates.lookup call = some u →
        RequestedByHost parseUuid t₀ ((e, reply) :: h) u :=
      fun _ hu => (hI call u hu).mono (List.suffix_cons _ _)
    generalize (s.step parseUuid e).1 = s', (s.step parseUuid e).2 = reply at hcase hu ⊢
    cases hcase with
    | meeting e => exact hkept _ hu
    | kept e answer _ => exact hkept _ hu
    | checked call' claims meetingId request userId hok =>
      rcases Multimap.lookup_insert_eq_some.mp hu with ⟨rfl, rfl⟩ | ⟨_, hu⟩
      · obtain ⟨row, hrow, hid, huser⟩ := updateMeetingSettings_eq_ok hok
        rw [hr.eq_stateAfter] at hrow
        exact ⟨call, claims, h, List.suffix_refl _, row, hrow, hid, huser⟩
      · exact hkept _ hu
    | committed e call' now u' answer _ _ =>
      exact hkept _ (Multimap.lookup_erase_eq_some.mp hu).2
    | failed call' now => exact hkept _ (Multimap.lookup_erase_eq_some.mp hu).2

/-- Every update that commits was requested by the creator of the meeting, who is the same
    ever after. -/
theorem host_of_change (hr : (settingsMachine parseUuid t₀).Run h s) {e : SettingsEvent}
    {reply : SettingsReply} {h₁ : SettingsHistory} (hdone : (e, reply) :: h₁ <:+ h)
    {u : SettingsUpdate} (hu : reply.committed = some u) :
    ∃ call claims h', (.updateMeetingSettings call claims u.meetingId u.request, .none) :: h' <:+
        h₁ ∧
      ∃ row ∈ s.tables.meetings, row.meetingId = u.meetingId ∧
        parseUserId parseUuid claims.sub = .ok row.createdByUserId := by
  obtain ⟨hanswer, _⟩ := hr.answer_of_suffix hdone
  have hr₁ := hr.suffix ((List.suffix_cons _ _).trans hdone)
  have hcase := settings_case parseUuid
    ((settingsMachine parseUuid t₀).stateAfter h₁) e
  change reply = (SettingsSystem.step _ parseUuid e).2 at hanswer
  rw [← hanswer] at hcase
  generalize (SettingsSystem.step _ parseUuid e).1 = s' at hcase
  have hrequested : RequestedByHost parseUuid t₀ h₁ u := by
    cases hcase with
    | meeting e => cases hu
    | kept e answer _ => cases hu
    | checked call claims meetingId request userId _ => cases hu
    | committed e call now u' answer _ hlookup =>
      obtain rfl := Option.some.inj hu
      exact requested_of_run hr₁ call u' hlookup
    | failed call now => cases hu
  obtain ⟨call, claims, h', hsuffix, row, hrow, hid, huser⟩ := hrequested
  have hbefore := ((List.suffix_cons _ _).trans hsuffix).trans ((List.suffix_cons _ _).trans hdone)
  obtain ⟨row', hrow', hsame⟩ := sameMeeting_of_suffix hr hbefore hrow
  exact ⟨call, claims, h', hsuffix, row', hrow', hsame.meetingId.trans hid,
    hsame.createdByUserId ▸ huser⟩

theorem host_of_change_windows :
    ∃ call claims h', (.updateMeetingSettings call claims "meeting-1" ⟨none, none, some true⟩,
        .none) :: h' <:+ (sampleSettings.playAll settingsEvents).2.tail ∧
      ∃ row ∈ (sampleSettings.playAll settingsEvents).1.tables.meetings,
        row.meetingId = "meeting-1" ∧ parseUserId some claims.sub = .ok row.createdByUserId :=
  host_of_change run_settingsEvents (List.suffix_refl _)
    (show some (⟨"user-1", "meeting-1", ⟨none, none, some true⟩⟩ : SettingsUpdate) = some _
      from rfl)

end Runs

end DarkTower.Gc
