import DarkTower.Common.Jwt
import DarkTower.Lib.Json

/-!
# The claims of the four token kinds (`common/src/jwt.rs`)

What a verifier reads from the JSON claims of a token: `ServiceClaims`,
`UserClaims`, `MeetingTokenClaims` and `GuestTokenClaims`, each with the rules
of its derived `Deserialize`. A struct is read from an object; that `serde`
also takes the values of an array in order is left out.

`JwtValidator.validateAs` is `JwtValidator::validate::<T>` on a token with JSON
claims. It validates the claims it reads (`validateAs_of_some`), and fails when
it cannot read them (`isOk_validateAs_of_none`).
-/

namespace DarkTower.Common

open DarkTower.Lib Json

/-- Deserialization of `ServiceClaims` (jwt.rs:161). -/
def ServiceClaims.fromJson : Json → Option ServiceClaims
  | .obj fields => do
    let sub ← required asString fields "sub"
    let exp ← required asInt fields "exp"
    let iat ← required asInt fields "iat"
    let scope ← required asString fields "scope"
    let serviceType ← optional asString fields "service_type"
    some ⟨sub, exp, iat, scope, serviceType⟩
  | _ => none

/-- `UserClaims` (jwt.rs:261). -/
structure UserClaims where
  sub : String
  orgId : String
  email : String
  roles : List String
  iat : ℤ
  exp : ℤ
  jti : String
deriving DecidableEq

instance : JwtClaims UserClaims := ⟨UserClaims.exp, UserClaims.iat⟩

/-- `UserClaims` read from the payload of a token. -/
def UserClaims.fromJson : Json → Option UserClaims
  | .obj fields => do
    let sub ← required asString fields "sub"
    let orgId ← required asString fields "org_id"
    let email ← required asString fields "email"
    let roles ← required asStrings fields "roles"
    let iat ← required asInt fields "iat"
    let exp ← required asInt fields "exp"
    let jti ← required asString fields "jti"
    some ⟨sub, orgId, email, roles, iat, exp, jti⟩
  | _ => none

/-- `ParticipantType` (jwt.rs:305). -/
inductive ParticipantType
  | member
  | external
deriving DecidableEq

/-- The name of a variant, `rename_all = "lowercase"`. -/
def ParticipantType.name : ParticipantType → String
  | .member => "member"
  | .external => "external"

/-- The names that serde reads a participant type from. -/
def ParticipantType.variants : List (String × ParticipantType) :=
  [("member", .member), ("external", .external)]

/-- `MeetingRole` (jwt.rs:321). -/
inductive MeetingRole
  | host
  | participant
deriving DecidableEq

/-- The name of a variant, `rename_all = "lowercase"`. -/
def MeetingRole.name : MeetingRole → String
  | .host => "host"
  | .participant => "participant"

/-- The names that serde reads a role from. -/
def MeetingRole.variants : List (String × MeetingRole) :=
  [("host", .host), ("participant", .participant)]

/-- `MeetingTokenClaims` (jwt.rs:356). -/
structure MeetingTokenClaims where
  sub : String
  tokenType : String
  meetingId : String
  homeOrgId : Option String
  meetingOrgId : String
  participantType : ParticipantType
  role : MeetingRole
  capabilities : List String
  iat : ℤ
  exp : ℤ
  jti : String
deriving DecidableEq

instance : JwtClaims MeetingTokenClaims := ⟨MeetingTokenClaims.exp, MeetingTokenClaims.iat⟩

/-- `MeetingTokenClaims` read from the payload of a token. -/
def MeetingTokenClaims.fromJson : Json → Option MeetingTokenClaims
  | .obj fields => do
    let sub ← required asString fields "sub"
    let tokenType ← required asString fields "token_type"
    let meetingId ← required asString fields "meeting_id"
    let homeOrgId ← optional asString fields "home_org_id"
    let meetingOrgId ← required asString fields "meeting_org_id"
    let participantType ← required (asVariant ParticipantType.variants) fields "participant_type"
    let role ← required (asVariant MeetingRole.variants) fields "role"
    let capabilities ← required asStrings fields "capabilities"
    let iat ← required asInt fields "iat"
    let exp ← required asInt fields "exp"
    let jti ← required asString fields "jti"
    some ⟨sub, tokenType, meetingId, homeOrgId, meetingOrgId, participantType, role, capabilities,
      iat, exp, jti⟩
  | _ => none

/-- `GuestTokenClaims` (jwt.rs:425). -/
structure GuestTokenClaims where
  sub : String
  tokenType : String
  meetingId : String
  meetingOrgId : String
  participantType : String
  role : String
  displayName : String
  waitingRoom : Bool
  capabilities : List String
  iat : ℤ
  exp : ℤ
  jti : String
deriving DecidableEq

instance : JwtClaims GuestTokenClaims := ⟨GuestTokenClaims.exp, GuestTokenClaims.iat⟩

/-- `GuestTokenClaims` read from the payload of a token. -/
def GuestTokenClaims.fromJson : Json → Option GuestTokenClaims
  | .obj fields => do
    let sub ← required asString fields "sub"
    let tokenType ← required asString fields "token_type"
    let meetingId ← required asString fields "meeting_id"
    let meetingOrgId ← required asString fields "meeting_org_id"
    let participantType ← required asString fields "participant_type"
    let role ← required asString fields "role"
    let displayName ← required asString fields "display_name"
    let waitingRoom ← required asBool fields "waiting_room"
    let capabilities ← required asStrings fields "capabilities"
    let iat ← required asInt fields "iat"
    let exp ← required asInt fields "exp"
    let jti ← required asString fields "jti"
    some ⟨sub, tokenType, meetingId, meetingOrgId, participantType, role, displayName,
      waitingRoom, capabilities, iat, exp, jti⟩
  | _ => none

/-- `GuestTokenClaims::validate` (jwt.rs:462). -/
def GuestTokenClaims.validate (claims : GuestTokenClaims) : Except String Unit :=
  if claims.tokenType ≠ "guest" then .error "Guest token must have token_type 'guest'"
  else if claims.participantType ≠ "guest" then
    .error "Guest token must have participant_type 'guest'"
  else if claims.role ≠ "guest" then .error "Guest token must have role 'guest'"
  else .ok ()

/-! ## Tokens with JSON claims -/

variable {γ : Type} [JwtClaims γ]

/-- The token with its claims as they were read. -/
def Token.withClaims (token : Token Json) (claims : γ) : Token γ :=
  ⟨token.size, token.kid, claims, token.signer⟩

/-- `verify_token::<T>` (jwt.rs:993): claims that cannot be read are an error of
    `decode`. -/
def verifyTokenAs (fromJson : Json → Option γ) (token : Token Json) (jwk : Jwk) (now : ℕ) :
    Except JwtError γ :=
  match fromJson token.claims with
  | none => .error .invalidSignature
  | some claims => verifyToken (token.withClaims claims) jwk now

/-- `JwtValidator::validate::<T>` (jwt.rs:1096). -/
def JwtValidator.validateAs (fromJson : Json → Option γ) (clockSkewSeconds : ℕ)
    (cache : Option CachedJwks) (cacheTtl : ℕ) (answer : Option (List Jwk)) (now : ℕ)
    (token : Token Json) : Option CachedJwks × Except JwtError γ :=
  match extractKid token with
  | .error e => (cache, .error e)
  | .ok kid =>
    match JwksClient.getKey cache cacheTtl answer now kid with
    | (cache', .error e) => (cache', .error e)
    | (cache', .ok jwk) =>
      match verifyTokenAs fromJson token jwk now with
      | .error e => (cache', .error e)
      | .ok claims =>
        match validateIat (JwtClaims.iat claims) clockSkewSeconds now with
        | .error e => (cache', .error e)
        | .ok () => (cache', .ok claims)

section ValidateAs

variable {fromJson : Json → Option γ} {clockSkew cacheTtl now : ℕ} {cache : Option CachedJwks}
  {answer : Option (List Jwk)} {token : Token Json}

theorem JwtValidator.validateAs_of_some {claims : γ} (h : fromJson token.claims = some claims) :
    JwtValidator.validateAs fromJson clockSkew cache cacheTtl answer now token =
      JwtValidator.validate clockSkew cache cacheTtl answer now (token.withClaims claims) := by
  unfold JwtValidator.validateAs JwtValidator.validate verifyTokenAs
  rw [h]
  rfl

theorem JwtValidator.isOk_validateAs_of_none (h : fromJson token.claims = none) :
    (JwtValidator.validateAs fromJson clockSkew cache cacheTtl answer now token).2.isOk =
      false := by
  unfold JwtValidator.validateAs verifyTokenAs
  rw [h]
  split
  · rfl
  · split <;> rfl

end ValidateAs

end DarkTower.Common
