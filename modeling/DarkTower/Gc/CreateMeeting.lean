import DarkTower.Ac.InternalTokens
import DarkTower.Gc.Meetings
import DarkTower.Lib.Bytes
import DarkTower.Lib.Hex
import DarkTower.Lib.Text
import Mathlib.Data.Nat.Digits.Lemmas

/-!
# Creating a meeting, and finding it by its code

Model of `create_meeting` up to its loop, of `find_meeting_by_code` and of what
`join_meeting` and `get_guest_token` do with the meeting they find, up to the request
for the token (`gc-service/src/handlers/meetings.rs`). The assignment of a controller
in between decides nothing here.

* `generateMeetingCode_eq_iff`: two draws give the same code iff they are equal modulo
  `62 ^ 12`, which is less than `256 ^ 9`.
* `meetingCode_unique_iff`: every draw gives a code of twelve characters, which no other
  draw gives iff the draw is, as a number, from `256 ^ 9 - 62 ^ 12` on and below `62 ^ 12`.
* `findMeetingByCode_of_nodup`: where no two rows have one code, the lookup finds the row.

`Uuid::parse_str` is the parameter `parseUuid`: the identifier that a text spells.
-/

namespace DarkTower.Gc

open DarkTower.Common DarkTower.Lib
open DarkTower.Common.MeetingToken (MeetingTokenRequest GuestTokenRequest)

/-! ## Meeting codes -/

/-- `BASE62_CHARS` (line 55). -/
def base62Chars : List Char :=
  "0123456789ABCDEFGHIJKLMNOPQRSTUVWXYZabcdefghijklmnopqrstuvwxyz".toList

/-- `MEETING_CODE_LENGTH`. -/
def meetingCodeLength : ℕ := 12

/-- `MEETING_CODE_RANDOM_BYTES`. -/
def meetingCodeRandomBytes : ℕ := 9

/-- `MAX_CODE_COLLISION_RETRIES`. -/
def maxCodeCollisionRetries : ℕ := 3

/-- What the generator fills the buffer of a code with. -/
abbrev CodeBytes := { bytes : List UInt8 // bytes.length = meetingCodeRandomBytes }

/-- The digits that the loop pushes, the least significant one first. -/
def base62Digits : ℕ → ℕ → List ℕ
  | 0, _ => []
  | n + 1, value => value % 62 :: base62Digits n (value / 62)

/-- `generate_meeting_code` (line 898). -/
def generateMeetingCode : Option CodeBytes → Except GcError String
  | none => .error (.internal "RNG failure")
  | some bytes =>
    match (base62Digits meetingCodeLength (Bytes.getBE bytes.val)).mapM (base62Chars[·]?) with
    | none => .error (.internal "Base62 index out of range")
    | some code => .ok (String.ofList code.reverse)

@[simp] theorem length_base62Digits (n value : ℕ) : (base62Digits n value).length = n := by
  induction n generalizing value with
  | zero => rfl
  | succ n ih => simp [base62Digits, ih]

theorem base62Digits_lt (n value : ℕ) : ∀ d ∈ base62Digits n value, d < 62 := by
  induction n generalizing value with
  | zero => simp [base62Digits]
  | succ n ih =>
    intro d hd
    rcases List.mem_cons.mp hd with rfl | hd
    · exact Nat.mod_lt _ (by omega)
    · exact ih _ d hd

theorem ofDigits_base62Digits (n value : ℕ) :
    Nat.ofDigits 62 (base62Digits n value) = value % 62 ^ n := by
  induction n generalizing value with
  | zero => simp [base62Digits, Nat.mod_one]
  | succ n ih =>
    rw [base62Digits, Nat.ofDigits_cons, ih, pow_succ', Nat.mod_mul]

theorem base62Digits_eq_iff (n value value' : ℕ) :
    base62Digits n value = base62Digits n value' ↔ value % 62 ^ n = value' % 62 ^ n := by
  constructor
  · intro h
    rw [← ofDigits_base62Digits, h, ofDigits_base62Digits]
  · intro h
    refine Nat.ofDigits_inj_of_len_eq (b := 62) (by omega) ?_ (base62Digits_lt n value)
      (base62Digits_lt n value') ?_
    · rw [length_base62Digits, length_base62Digits]
    · rw [ofDigits_base62Digits, ofDigits_base62Digits, h]

/-- The character of a digit. -/
def base62Char (d : ℕ) : Char := base62Chars.getD d '0'

theorem length_base62Chars : base62Chars.length = 62 := by decide

theorem nodup_base62Chars : base62Chars.Nodup := by decide +kernel

theorem getElem?_base62Chars {d : ℕ} (hd : d < 62) : base62Chars[d]? = some (base62Char d) := by
  have hlen := length_base62Chars
  unfold base62Char
  rw [List.getElem?_eq_getElem (by omega), List.getD_eq_getElem _ _ (by omega)]

theorem idxOf_base62Char {d : ℕ} (hd : d < 62) : base62Chars.idxOf (base62Char d) = d := by
  have hlen := length_base62Chars
  unfold base62Char
  rw [List.getD_eq_getElem _ _ (by omega)]
  exact nodup_base62Chars.idxOf_getElem d (by omega)

/-- The digits can be read back from their characters. -/
theorem map_idxOf_base62Char {digits : List ℕ} (h : ∀ d ∈ digits, d < 62) :
    (digits.map base62Char).map (base62Chars.idxOf ·) = digits := by
  rw [List.map_map]
  calc digits.map ((base62Chars.idxOf ·) ∘ base62Char) = digits.map id :=
        List.map_congr_left fun d hd => idxOf_base62Char (h d hd)
    _ = digits := List.map_id _

theorem mapM_base62Chars {digits : List ℕ} (h : ∀ d ∈ digits, d < 62) :
    digits.mapM (base62Chars[·]?) = some (digits.map base62Char) := by
  induction digits with
  | nil => rfl
  | cons d digits ih =>
    rw [List.mapM_cons, getElem?_base62Chars (h d (by simp)), ih fun d' hd' => h d' (by simp [hd'])]
    rfl

/-- Every draw gives a code. -/
theorem generateMeetingCode_some (bytes : CodeBytes) :
    generateMeetingCode (some bytes) = .ok (String.ofList
      ((base62Digits meetingCodeLength (Bytes.getBE bytes.val)).map base62Char).reverse) := by
  unfold generateMeetingCode
  dsimp only
  rw [mapM_base62Chars (base62Digits_lt _ _)]

/-- Two draws give the same code iff they are equal modulo `62 ^ 12`. -/
theorem generateMeetingCode_eq_iff (bytes bytes' : CodeBytes) :
    generateMeetingCode (some bytes) = generateMeetingCode (some bytes') ↔
      Bytes.getBE bytes.val % 62 ^ meetingCodeLength =
        Bytes.getBE bytes'.val % 62 ^ meetingCodeLength := by
  rw [generateMeetingCode_some, generateMeetingCode_some, ← base62Digits_eq_iff]
  constructor
  · intro h
    have hchars := List.reverse_injective (String.ofList_injective (Except.ok.inj h))
    rw [← map_idxOf_base62Char (base62Digits_lt meetingCodeLength (Bytes.getBE bytes.val)), hchars,
      map_idxOf_base62Char (base62Digits_lt _ _)]
  · intro h
    rw [h]

/-! ## Which codes are drawn once -/

theorem base62Char_mem {d : ℕ} (hd : d < 62) : base62Char d ∈ base62Chars :=
  List.mem_of_getElem? (getElem?_base62Chars hd)

/-- The draw with a number. -/
def CodeBytes.ofNat (value : ℕ) : CodeBytes :=
  ⟨Bytes.putBE meetingCodeRandomBytes value, Bytes.length_putBE _ _⟩

theorem CodeBytes.getBE_ofNat {value : ℕ} (h : value < 256 ^ 9) :
    Bytes.getBE (CodeBytes.ofNat value).val = value :=
  Bytes.getBE_putBE_of_lt h

theorem CodeBytes.getBE_lt (bytes : CodeBytes) : Bytes.getBE bytes.val < 256 ^ 9 := by
  have hlt := Bytes.getBE_lt bytes.val
  rwa [bytes.property] at hlt

theorem CodeBytes.getBE_inj {bytes bytes' : CodeBytes} :
    Bytes.getBE bytes.val = Bytes.getBE bytes'.val ↔ bytes = bytes' :=
  (Bytes.getBE_inj (bytes.property.trans bytes'.property.symm)).trans Subtype.ext_iff.symm

/-- A draw with the code of another one, which is `62 ^ 12` away. -/
theorem generateMeetingCode_ofNat {bytes : CodeBytes} {value : ℕ} (hlt : value < 256 ^ 9)
    (h : value % 62 ^ 12 = Bytes.getBE bytes.val % 62 ^ 12) :
    generateMeetingCode (some (.ofNat value)) = generateMeetingCode (some bytes) := by
  rw [generateMeetingCode_eq_iff, CodeBytes.getBE_ofNat hlt]
  exact h

/-- Every draw gives a code of twelve base-62 characters. The code is that of no other draw iff
    the number of the draw has no second one below `256 ^ 9` that is equal to it modulo
    `62 ^ 12`. -/
theorem meetingCode_unique_iff (bytes : CodeBytes) :
    (∃ code, generateMeetingCode (some bytes) = .ok code ∧
      code.toList.length = meetingCodeLength ∧ ∀ c ∈ code.toList, c ∈ base62Chars) ∧
    ((∀ bytes', bytes' ≠ bytes →
        generateMeetingCode (some bytes') ≠ generateMeetingCode (some bytes)) ↔
      256 ^ 9 - 62 ^ 12 ≤ Bytes.getBE bytes.val ∧ Bytes.getBE bytes.val < 62 ^ 12) := by
  have hlt := bytes.getBE_lt
  refine ⟨⟨_, generateMeetingCode_some bytes, ?_, fun c hc => ?_⟩, ?_, ?_⟩
  · simp
  · rw [String.toList_ofList, List.mem_reverse] at hc
    obtain ⟨d, hd, rfl⟩ := List.mem_map.mp hc
    exact base62Char_mem (base62Digits_lt _ _ d hd)
  · intro hunique
    have hother : ∀ value, value < 256 ^ 9 → value ≠ Bytes.getBE bytes.val →
        value % 62 ^ 12 ≠ Bytes.getBE bytes.val % 62 ^ 12 := by
      intro value hvalue hne hmod
      refine hunique (.ofNat value) (fun heq => hne ?_) (generateMeetingCode_ofNat hvalue hmod)
      rw [← heq, CodeBytes.getBE_ofNat hvalue]
    constructor
    · by_contra hlow
      exact hother (Bytes.getBE bytes.val + 62 ^ 12) (by omega) (by omega) (Nat.add_mod_right _ _)
    · by_contra hhigh
      exact hother (Bytes.getBE bytes.val - 62 ^ 12) (by omega) (by omega) (by omega)
  · rintro ⟨hlow, hhigh⟩ bytes' hne hcode
    have hmod := (generateMeetingCode_eq_iff bytes' bytes).mp hcode
    have hlt' := bytes'.getBE_lt
    have hne' : Bytes.getBE bytes'.val ≠ Bytes.getBE bytes.val :=
      fun heq => hne (CodeBytes.getBE_inj.mp heq)
    unfold meetingCodeLength at hmod
    omega

/-- The draw of zeros has the code of the draw with the number `62 ^ 12`. -/
theorem zeros_collide :
    generateMeetingCode (some (.ofNat 0)) = .ok "000000000000" ∧
      generateMeetingCode (some (.ofNat (62 ^ 12))) = .ok "000000000000" ∧
      CodeBytes.ofNat 0 ≠ CodeBytes.ofNat (62 ^ 12) := by
  decide

/-! ## The checks of `create_meeting` -/

/-- `MEETING_CREATE_ROLES` (line 52). -/
def meetingCreateRoles : List String := ["user", "admin", "org_admin"]

/-- `MIN_PARTICIPANTS` (models/mod.rs:346). -/
def minParticipants : ℤ := 2

/-- `DEFAULT_MAX_PARTICIPANTS` (models/mod.rs:349). -/
def defaultMaxParticipants : ℤ := 100

/-- The length of a text in bytes, without the whitespace around it. -/
def trimmedLength (text : String) : ℕ := (String.ofList (Text.trim text.toList)).utf8ByteSize

/-- `CreateMeetingRequest` (models/mod.rs:357). -/
structure CreateMeetingRequest where
  displayName : String
  maxParticipants : Option ℤ := none
  scheduledStartTime : Option ℤ := none
  enableE2eEncryption : Option Bool := none
  requireAuth : Option Bool := none
  recordingEnabled : Option Bool := none
  allowGuests : Option Bool := none
  allowExternalParticipants : Option Bool := none
  waitingRoomEnabled : Option Bool := none

/-- `CreateMeetingRequest::validate` (models/mod.rs:392). -/
def CreateMeetingRequest.validate (request : CreateMeetingRequest) : Except String Unit :=
  if trimmedLength request.displayName < 1 then .error "Display name is required"
  else if 255 < trimmedLength request.displayName then
    .error "Display name must be at most 255 characters"
  else if request.maxParticipants.any (· < minParticipants) then
    .error "Maximum participants must be at least 2"
  else .ok ()

/-- `parse_user_id` (line 861). -/
def parseUserId (parseUuid : String → Option String) (sub : String) : Except GcError String :=
  let text := if "user:".toList <+: sub.toList then String.ofList (sub.toList.drop 5) else sub
  match parseUuid text with
  | none => .error (.invalidToken "Invalid user identifier in token")
  | some userId => .ok userId

/-- Steps 1 to 6 of `create_meeting` (line 125): the meeting to create, its code still to
    be drawn. `body` is what the request's body deserializes to. -/
def createMeetingChecks (parseUuid : String → Option String) (claims : UserClaims)
    (body : Option CreateMeetingRequest) (secret : Option (List UInt8)) :
    Except GcError NewMeeting := do
  let some request := body | .error (.badRequest "Invalid request body")
  if ¬ claims.roles.any (· ∈ meetingCreateRoles) then
    .error (.forbidden "Insufficient permissions to create meetings")
  match request.validate with
  | .error e => .error (.badRequest e)
  | .ok () => pure ()
  let userId ← parseUserId parseUuid claims.sub
  let some orgId := parseUuid claims.orgId
    | .error (.invalidToken "Invalid organization identifier in token")
  let maxParticipants := request.maxParticipants.getD defaultMaxParticipants
  if maxParticipants < minParticipants then
    .error (.badRequest "Maximum participants must be at least 2")
  let some bytes := secret | .error (.internal "RNG failure")
  pure
    { orgId := orgId
      createdByUserId := userId
      displayName := String.ofList (Text.trim request.displayName.toList)
      meetingCode := ""
      joinTokenSecret := Hex.encode bytes
      maxParticipants := maxParticipants
      enableE2eEncryption := request.enableE2eEncryption.getD true
      requireAuth := request.requireAuth.getD true
      recordingEnabled := request.recordingEnabled.getD false
      allowGuests := request.allowGuests.getD false
      allowExternalParticipants := request.allowExternalParticipants.getD false
      waitingRoomEnabled := request.waitingRoomEnabled.getD true
      scheduledStartTime := request.scheduledStartTime }

/-- `CreateMeetingResponse` (models/mod.rs:418). -/
structure CreateMeetingResponse where
  meetingId : String
  meetingCode : String
  displayName : String
  status : MeetingStatus
  maxParticipants : ℤ
  enableE2eEncryption : Bool
  requireAuth : Bool
  recordingEnabled : Bool
  allowGuests : Bool
  allowExternalParticipants : Bool
  waitingRoomEnabled : Bool
  createdAt : ℤ
deriving DecidableEq

/-- `CreateMeetingResponse::from` (models/mod.rs:456). -/
def CreateMeetingResponse.ofRow (row : MeetingRow) : CreateMeetingResponse :=
  { row with }

/-- The database errors that `create_meeting` takes for a code collision. -/
def isCodeCollision (error : String) : Bool :=
  Text.contains error.toList "unique constraint".toList ||
    Text.contains error.toList "duplicate key".toList

/-- What the server answers to a row that violates `meetings_org_code_unique`. -/
def uniqueViolation : String :=
  "error returned from database: duplicate key value violates unique constraint " ++
    "\"meetings_org_code_unique\""

example : isCodeCollision uniqueViolation = true := by decide +kernel

/-! ## Finding a meeting -/

/-- `find_meeting_by_code` (line 774), which takes one row; `rows` is the table in the
    order in which the server scans it. -/
def findMeetingByCode (rows : List MeetingRow) (code : String) : Except GcError MeetingRow :=
  match rows.find? fun m => m.meetingCode = code with
  | none => .error (.notFound "Meeting not found")
  | some m => .ok m

/-- Where no two rows have one code, the lookup finds the row. -/
theorem findMeetingByCode_of_nodup {rows : List MeetingRow}
    (hcodes : (rows.map (·.meetingCode)).Nodup) {m : MeetingRow} (hm : m ∈ rows) :
    findMeetingByCode rows m.meetingCode = .ok m := by
  unfold findMeetingByCode
  cases hfind : rows.find? fun m' => m'.meetingCode = m.meetingCode with
  | none =>
    have hnone := List.find?_eq_none.mp hfind m hm
    simp at hnone
  | some m' =>
    have hsame : m'.meetingCode = m.meetingCode := by simpa using List.find?_some hfind
    have hmem := List.mem_of_find?_eq_some hfind
    rw [List.inj_on_of_nodup_map hcodes hmem hm hsame]

/-- The status allows joining: `active` or `scheduled`. -/
def checkStatus (m : MeetingRow) : Except GcError Unit :=
  if m.status.isCounted then .ok () else .error (.notFound "Meeting not found or has ended")

/-- `DEFAULT_TOKEN_TTL_SECONDS`. -/
def defaultTokenTtlSeconds : ℕ := 900

/-- `DEFAULT_PARTICIPANT_CAPABILITIES`. -/
def defaultParticipantCapabilities : List String := ["audio", "video", "screen_share", "chat"]

/-- `join_meeting` (line 338) up to the request for the meeting token. -/
def joinMeeting (parseUuid : String → Option String) (rows : List MeetingRow)
    (claims : UserClaims) (code : String) : Except GcError MeetingTokenRequest := do
  let meeting ← findMeetingByCode rows code
  checkStatus meeting
  let userId ← parseUserId parseUuid claims.sub
  let some userOrgId := parseUuid claims.orgId
    | .error (.invalidToken "Invalid organization identifier in token")
  if userOrgId ≠ meeting.orgId ∧ meeting.allowExternalParticipants = false then
    .error (.forbidden "External participants are not allowed in this meeting")
  pure
    { subjectUserId := userId
      meetingId := meeting.meetingId
      meetingOrgId := meeting.orgId
      homeOrgId := userOrgId
      participantType := if userOrgId = meeting.orgId then .member else .external
      role := if meeting.createdByUserId = userId then .host else .participant
      capabilities := defaultParticipantCapabilities
      ttlSeconds := defaultTokenTtlSeconds }

/-- `GuestJoinRequest` (models/mod.rs:244). -/
structure GuestJoinRequest where
  displayName : String
  captchaToken : String

/-- `GuestJoinRequest::validate` (models/mod.rs:258). -/
def GuestJoinRequest.validate (request : GuestJoinRequest) : Except String Unit :=
  if trimmedLength request.displayName < 2 then
    .error "Display name must be at least 2 characters"
  else if 100 < trimmedLength request.displayName then
    .error "Display name must be at most 100 characters"
  else if request.captchaToken = "" then .error "Captcha token is required"
  else .ok ()

/-- `get_guest_token` (line 529) up to the request for the guest token; `guestId` is what
    `generate_guest_id` draws. -/
def getGuestToken (rows : List MeetingRow) (code : String) (request : GuestJoinRequest)
    (guestId : Option String) : Except GcError GuestTokenRequest := do
  match request.validate with
  | .error e => .error (.badRequest e)
  | .ok () => pure ()
  let meeting ← findMeetingByCode rows code
  checkStatus meeting
  if meeting.allowGuests = false then
    .error (.forbidden "Guest access is not allowed in this meeting")
  let some id := guestId | .error (.internal "RNG failure")
  pure
    { guestId := id
      displayName := String.ofList (Text.trim request.displayName.toList)
      meetingId := meeting.meetingId
      meetingOrgId := meeting.orgId
      waitingRoom := meeting.waitingRoomEnabled
      ttlSeconds := defaultTokenTtlSeconds }

/-- A user who is let in is let into the meeting that the lookup found. -/
theorem joinMeeting_ok {parseUuid : String → Option String} {rows : List MeetingRow}
    {claims : UserClaims} {code : String} {token : MeetingTokenRequest} {m : MeetingRow}
    (hfind : findMeetingByCode rows code = .ok m)
    (h : joinMeeting parseUuid rows claims code = .ok token) :
    token.meetingId = m.meetingId ∧ token.meetingOrgId = m.orgId := by
  unfold joinMeeting at h
  rw [hfind] at h
  simp only [bind, Except.bind, pure, Except.pure] at h
  split at h
  · cases h
  · split at h
    · cases h
    · split at h
      · split at h
        · cases h
        · obtain rfl := Except.ok.inj h
          exact ⟨rfl, rfl⟩
      · cases h

/-- A guest who is let in is let into the meeting that the lookup found. -/
theorem getGuestToken_ok {rows : List MeetingRow} {code : String} {request : GuestJoinRequest}
    {guestId : Option String} {token : GuestTokenRequest} {m : MeetingRow}
    (hfind : findMeetingByCode rows code = .ok m)
    (h : getGuestToken rows code request guestId = .ok token) :
    token.meetingId = m.meetingId ∧ token.meetingOrgId = m.orgId := by
  unfold getGuestToken at h
  rw [hfind] at h
  simp only [bind, Except.bind, pure, Except.pure] at h
  split at h
  · cases h
  · split at h
    · cases h
    · split_ifs at h
      split at h
      · obtain rfl := Except.ok.inj h
        exact ⟨rfl, rfl⟩
      · cases h

end DarkTower.Gc
