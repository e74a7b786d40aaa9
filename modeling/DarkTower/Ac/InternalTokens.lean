import DarkTower.Ac.Auth
import DarkTower.Common.Claims

/-!
# Meeting and guest tokens (`ac-service/src/handlers/internal_tokens.rs`)

The Global Controller asks for these tokens with a `MeetingTokenRequest` or a
`GuestTokenRequest` (`common/src/meeting_token.rs`). The Auth Controller has its
own claims structs, with texts where `common::jwt` has enumerations, and signs
their JSON.

`jwtSize` is the length of a signed token, and `jwtSize_meeting` that of a
meeting token by the lengths of what the request holds.
-/

namespace DarkTower.Common.MeetingToken

/-- `ParticipantType` (meeting_token.rs:85). -/
inductive ParticipantType
  | member
  | external
  | guest
deriving DecidableEq

/-- `ParticipantType` on the wire. -/
def ParticipantType.asStr : ParticipantType → String
  | .member => "member"
  | .external => "external"
  | .guest => "guest"

/-- `MeetingRole` (meeting_token.rs:116). -/
inductive MeetingRole
  | host
  | participant
  | guest
deriving DecidableEq

/-- `MeetingRole` on the wire. -/
def MeetingRole.asStr : MeetingRole → String
  | .host => "host"
  | .participant => "participant"
  | .guest => "guest"

/-- `MeetingTokenRequest` (meeting_token.rs:15); identifiers by their text. -/
structure MeetingTokenRequest where
  subjectUserId : String
  meetingId : String
  meetingOrgId : String
  homeOrgId : String
  participantType : ParticipantType
  role : MeetingRole
  capabilities : List String
  ttlSeconds : ℕ

/-- `GuestTokenRequest` (meeting_token.rs:50). -/
structure GuestTokenRequest where
  guestId : String
  displayName : String
  meetingId : String
  meetingOrgId : String
  waitingRoom : Bool
  ttlSeconds : ℕ

end DarkTower.Common.MeetingToken

namespace DarkTower.Ac

open DarkTower.Common DarkTower.Common.MeetingToken DarkTower.Lib
open Json (quotedBytes)

/-- `MAX_TOKEN_TTL_SECONDS` (internal_tokens.rs:21). -/
def maxTokenTtlSeconds : ℕ := 900

/-- `REQUIRED_SCOPE` (internal_tokens.rs:24). -/
def requiredScope : String := "internal:meeting-token"

/-- `MeetingTokenClaims` (internal_tokens.rs:235). -/
structure MeetingTokenClaims where
  sub : String
  tokenType : String
  meetingId : String
  homeOrgId : String
  meetingOrgId : String
  participantType : String
  role : String
  capabilities : List String
  iat : ℤ
  exp : ℤ
  jti : String

/-- `MeetingTokenClaims` as the service serializes them. -/
def MeetingTokenClaims.toJson (claims : MeetingTokenClaims) : Json :=
  .obj
    [("sub", .str claims.sub), ("token_type", .str claims.tokenType),
      ("meeting_id", .str claims.meetingId), ("home_org_id", .str claims.homeOrgId),
      ("meeting_org_id", .str claims.meetingOrgId),
      ("participant_type", .str claims.participantType), ("role", .str claims.role),
      ("capabilities", .arr (claims.capabilities.map .str)), ("iat", .num claims.iat),
      ("exp", .num claims.exp), ("jti", .str claims.jti)]

/-- `GuestTokenClaims` (internal_tokens.rs:251). -/
structure GuestTokenClaims where
  sub : String
  tokenType : String
  meetingId : String
  meetingOrgId : String
  participantType : String
  role : String
  displayName : String
  waitingRoom : Bool
  capabilities : List String
  iat : ℤ
  exp : ℤ
  jti : String

/-- `GuestTokenClaims` as the service serializes them. -/
def GuestTokenClaims.toJson (claims : GuestTokenClaims) : Json :=
  .obj
    [("sub", .str claims.sub), ("token_type", .str claims.tokenType),
      ("meeting_id", .str claims.meetingId), ("meeting_org_id", .str claims.meetingOrgId),
      ("participant_type", .str claims.participantType), ("role", .str claims.role),
      ("display_name", .str claims.displayName), ("waiting_room", .bool claims.waitingRoom),
      ("capabilities", .arr (claims.capabilities.map .str)), ("iat", .num claims.iat),
      ("exp", .num claims.exp), ("jti", .str claims.jti)]

/-! ## Signing -/

/-- What an issuance meets besides its request. -/
structure SigningContext where
  now : ℕ
  /-- The last second of `DateTime<Utc>`. -/
  inRange : timestamp now ≤ 8210266876799
  /-- `Uuid::new_v4()`. -/
  jti : String
  /-- `get_active_key`. -/
  activeKey : Except AcError (Option SigningKey)
  /-- `decrypt_private_key`. -/
  decrypted : Except AcError Unit
  /-- The format of the private key, and `encode`. -/
  signed : Except AcError Unit

/-- The header of a token. -/
def jwtHeader (keyId : String) : Json :=
  .obj [("typ", .str "JWT"), ("alg", .str "EdDSA"), ("kid", .str keyId)]

/-- The length of a token: header and claims in base64, the signature of 64 bytes
    in 86 symbols, and two dots. -/
def jwtSize (keyId : String) (claims : Json) : ℕ :=
  (Base64.urlSafeNoPad.encode (jwtHeader keyId).bytes).length + 1 +
    (Base64.urlSafeNoPad.encode claims.bytes).length + 1 + 86

/-- The active key, decrypted. -/
def SigningContext.key (ctx : SigningContext) : Except AcError SigningKey :=
  match ctx.activeKey with
  | .error e => .error e
  | .ok none => .error (.crypto "No active signing key available")
  | .ok (some key) =>
    match ctx.decrypted with
    | .error e => .error e
    | .ok () => .ok key

/-- Signs the JSON of some claims. -/
def SigningContext.sign (ctx : SigningContext) (key : SigningKey) (claims : Json) :
    Except AcError (Token Json) :=
  match ctx.signed with
  | .error e => .error e
  | .ok () => .ok (signJwt key (jwtSize key.keyId claims) claims)

/-- `sign_meeting_jwt` (internal_tokens.rs:267). -/
def signMeetingJwt (ctx : SigningContext) (claims : MeetingTokenClaims) (key : SigningKey) :
    Except AcError (Token Json) :=
  ctx.sign key claims.toJson

/-- `sign_guest_jwt` (internal_tokens.rs:290). -/
def signGuestJwt (ctx : SigningContext) (claims : GuestTokenClaims) (key : SigningKey) :
    Except AcError (Token Json) :=
  ctx.sign key claims.toJson

/-- `InternalTokenResponse` (models/mod.rs:23). -/
structure InternalTokenResponse where
  token : Token Json
  expiresIn : ℕ

/-- The common part of `issue_meeting_token_internal` and
    `issue_guest_token_internal`. -/
def issueInternal (ctx : SigningContext) (sign : SigningKey → Except AcError (Token Json))
    (ttl : ℕ) : Except AcError InternalTokenResponse :=
  match ctx.key with
  | .error e => .error e
  | .ok key =>
    match sign key with
    | .error e => .error e
    | .ok token => .ok ⟨token, ttl⟩

/-- The claims of a meeting token. -/
def meetingTokenClaims (payload : MeetingTokenRequest) (ttl : ℕ) (ctx : SigningContext) :
    MeetingTokenClaims where
  sub := payload.subjectUserId
  tokenType := "meeting"
  meetingId := payload.meetingId
  homeOrgId := payload.homeOrgId
  meetingOrgId := payload.meetingOrgId
  participantType := payload.participantType.asStr
  role := payload.role.asStr
  capabilities := payload.capabilities
  iat := timestamp ctx.now
  exp := timestamp ctx.now + ttl
  jti := ctx.jti

/-- `issue_meeting_token_internal` (internal_tokens.rs:133). -/
def issueMeetingTokenInternal (payload : MeetingTokenRequest) (ttl : ℕ) (ctx : SigningContext) :
    Except AcError InternalTokenResponse :=
  issueInternal ctx (signMeetingJwt ctx (meetingTokenClaims payload ttl ctx)) ttl

/-- The claims of a guest token. -/
def guestTokenClaims (payload : GuestTokenRequest) (ttl : ℕ) (ctx : SigningContext) :
    GuestTokenClaims where
  sub := payload.guestId
  tokenType := "guest"
  meetingId := payload.meetingId
  meetingOrgId := payload.meetingOrgId
  participantType := "guest"
  role := "guest"
  displayName := payload.displayName
  waitingRoom := payload.waitingRoom
  capabilities := ["video", "audio"]
  iat := timestamp ctx.now
  exp := timestamp ctx.now + ttl
  jti := ctx.jti

/-- `issue_guest_token_internal` (internal_tokens.rs:183). -/
def issueGuestTokenInternal (payload : GuestTokenRequest) (ttl : ℕ) (ctx : SigningContext) :
    Except AcError InternalTokenResponse :=
  issueInternal ctx (signGuestJwt ctx (guestTokenClaims payload ttl ctx)) ttl

/-- The scope check of both handlers. -/
def checkScope (claims : ServiceClaims) : Except AcError Unit :=
  if requiredScope ∈ tokenScopes claims then .ok ()
  else .error (.insufficientScope requiredScope (tokenScopes claims))

/-- `handle_meeting_token` (internal_tokens.rs:39). -/
def handleMeetingToken (claims : ServiceClaims) (payload : MeetingTokenRequest)
    (ctx : SigningContext) : Except AcError InternalTokenResponse :=
  match checkScope claims with
  | .error e => .error e
  | .ok () => issueMeetingTokenInternal payload (min payload.ttlSeconds maxTokenTtlSeconds) ctx

/-- `handle_guest_token` (internal_tokens.rs:92). -/
def handleGuestToken (claims : ServiceClaims) (payload : GuestTokenRequest)
    (ctx : SigningContext) : Except AcError InternalTokenResponse :=
  match checkScope claims with
  | .error e => .error e
  | .ok () => issueGuestTokenInternal payload (min payload.ttlSeconds maxTokenTtlSeconds) ctx

/-! ## Issued tokens -/

/-- An issued token carries its claims and is signed by the active key. -/
theorem issueInternal_eq_ok {ctx : SigningContext} {claims : Json} {ttl : ℕ}
    {response : InternalTokenResponse}
    (h : issueInternal ctx (fun key => ctx.sign key claims) ttl = .ok response) :
    ∃ key, ctx.activeKey = .ok (some key) ∧
      response.token = signJwt key (jwtSize key.keyId claims) claims := by
  unfold issueInternal SigningContext.key SigningContext.sign at h
  grind

theorem handleMeetingToken_eq_ok {claims : ServiceClaims} {payload : MeetingTokenRequest}
    {ctx : SigningContext} {response : InternalTokenResponse}
    (h : handleMeetingToken claims payload ctx = .ok response) :
    ∃ key, ctx.activeKey = .ok (some key) ∧ response.token =
      signJwt key (jwtSize key.keyId (meetingTokenClaims payload
        (min payload.ttlSeconds maxTokenTtlSeconds) ctx).toJson)
        (meetingTokenClaims payload (min payload.ttlSeconds maxTokenTtlSeconds) ctx).toJson := by
  unfold handleMeetingToken at h
  split at h
  · cases h
  · exact issueInternal_eq_ok h

theorem handleGuestToken_eq_ok {claims : ServiceClaims} {payload : GuestTokenRequest}
    {ctx : SigningContext} {response : InternalTokenResponse}
    (h : handleGuestToken claims payload ctx = .ok response) :
    ∃ key, ctx.activeKey = .ok (some key) ∧ response.token =
      signJwt key (jwtSize key.keyId (guestTokenClaims payload
        (min payload.ttlSeconds maxTokenTtlSeconds) ctx).toJson)
        (guestTokenClaims payload (min payload.ttlSeconds maxTokenTtlSeconds) ctx).toJson := by
  unfold handleGuestToken at h
  split at h
  · cases h
  · exact issueInternal_eq_ok h

/-! ## The length of a meeting token -/

/-- The bytes of the header. -/
def headerBytes (keyId : String) : ℕ := 34 + quotedBytes keyId

/-- The bytes of the capabilities: brackets, texts and commas. -/
def capabilityBytes (capabilities : List String) : ℕ :=
  2 + (capabilities.map quotedBytes).sum + (capabilities.length - 1)

/-- The bytes of the claims of a meeting token: the names of the fields and their
    values. -/
def meetingBytes (payload : MeetingTokenRequest) (ttl : ℕ) (ctx : SigningContext) : ℕ :=
  143 + quotedBytes payload.subjectUserId + quotedBytes payload.meetingId +
    quotedBytes payload.homeOrgId + quotedBytes payload.meetingOrgId +
    quotedBytes payload.participantType.asStr + quotedBytes payload.role.asStr +
    capabilityBytes payload.capabilities + (toString (timestamp ctx.now)).utf8ByteSize +
    (toString (timestamp ctx.now + ttl)).utf8ByteSize + quotedBytes ctx.jti

theorem length_bytes_jwtHeader (keyId : String) :
    (jwtHeader keyId).bytes.length = headerBytes keyId := by
  have htexts : quotedBytes "typ" = 5 ∧ quotedBytes "alg" = 5 ∧ quotedBytes "kid" = 5 ∧
      quotedBytes "JWT" = 5 ∧ quotedBytes "EdDSA" = 7 := by decide
  rw [Json.length_bytes, jwtHeader, Json.utf8ByteSize_render_obj, headerBytes]
  simp only [List.map_cons, List.map_nil, List.sum_cons, List.sum_nil, List.length_cons,
    List.length_nil, Json.utf8ByteSize_render_str, htexts]
  omega

theorem length_bytes_meeting (payload : MeetingTokenRequest) (ttl : ℕ) (ctx : SigningContext) :
    (meetingTokenClaims payload ttl ctx).toJson.bytes.length = meetingBytes payload ttl ctx := by
  have htexts : quotedBytes "sub" = 5 ∧ quotedBytes "token_type" = 12 ∧
      quotedBytes "meeting_id" = 12 ∧ quotedBytes "home_org_id" = 13 ∧
      quotedBytes "meeting_org_id" = 16 ∧ quotedBytes "participant_type" = 18 ∧
      quotedBytes "role" = 6 ∧ quotedBytes "capabilities" = 14 ∧ quotedBytes "iat" = 5 ∧
      quotedBytes "exp" = 5 ∧ quotedBytes "jti" = 5 ∧ quotedBytes "meeting" = 9 := by decide
  rw [Json.length_bytes, MeetingTokenClaims.toJson, Json.utf8ByteSize_render_obj, meetingBytes]
  simp only [List.map_cons, List.map_nil, List.sum_cons, List.sum_nil, List.length_cons,
    List.length_nil, Json.utf8ByteSize_render_strings, Json.utf8ByteSize_render_str,
    Json.utf8ByteSize_render_num, htexts, meetingTokenClaims, capabilityBytes]
  omega

/-- The length of a meeting token, by the bytes of its header and claims. -/
theorem jwtSize_meeting (keyId : String) (payload : MeetingTokenRequest) (ttl : ℕ)
    (ctx : SigningContext) :
    jwtSize keyId (meetingTokenClaims payload ttl ctx).toJson =
      (4 * headerBytes keyId + 2) / 3 + (4 * meetingBytes payload ttl ctx + 2) / 3 + 88 := by
  rw [jwtSize, Base64.Engine.length_encode rfl, Base64.Engine.length_encode rfl,
    length_bytes_jwtHeader, length_bytes_meeting]
  omega

end DarkTower.Ac
