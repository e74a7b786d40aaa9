import DarkTower.Ac.InternalTokens
import DarkTower.Mc.Messages

/-!
# The contract between the issuer and the verifiers of meeting tokens

A meeting or guest token that the Auth Controller issues should be readable as
the claims type of its kind in `common::jwt`, with the same values, pass the
validator of its kind (`mc-service/src/auth/mod.rs`) and no other, and live for
at most 900 s.

* Guest tokens meet the contract.
* A request for a meeting token may name the participant type or the role
  `guest`, which `common::jwt` does not know, and any number of capabilities,
  while the validators refuse tokens of more than 8192 bytes. In all other cases
  the token meets the contract: `contract_iff`.
-/

namespace DarkTower.Mc

open DarkTower.Common DarkTower.Common.MeetingToken DarkTower.Lib
open Ac (SigningContext SigningKey)

/-! ## The verifiers -/

/-- A service when it validates a token: its cache, what the JWKS endpoint
    answers, and its clock. -/
structure Verifier where
  clockSkewSeconds : ℕ
  cache : Option CachedJwks
  cacheTtl : ℕ
  answer : Option (List Jwk)
  now : ℕ

section

variable {γ : Type} [JwtClaims γ]

/-- `JwtValidator::validate::<T>`. -/
def Verifier.validate (V : Verifier) (fromJson : Json → Option γ) (token : Token Json) :
    Except JwtError γ :=
  (JwtValidator.validateAs fromJson V.clockSkewSeconds V.cache V.cacheTtl V.answer V.now token).2

end

/-- `From<JwtError> for McError` (errors.rs:232). -/
def McError.ofJwtError : JwtError → McError
  | .serviceUnavailable _ => .internal "Authentication service unavailable"
  | _ => .jwtValidation "The access token is invalid or expired"

/-- `validate_meeting_token` (auth/mod.rs:63). -/
def Verifier.validateMeetingToken (V : Verifier) (token : Token Json) :
    Except McError Common.MeetingTokenClaims :=
  match V.validate MeetingTokenClaims.fromJson token with
  | .error e => .error (.ofJwtError e)
  | .ok claims =>
    if claims.tokenType ≠ "meeting" then
      .error (.jwtValidation "The access token is invalid or expired")
    else .ok claims

/-- `validate_guest_token` (auth/mod.rs:91). -/
def Verifier.validateGuestToken (V : Verifier) (token : Token Json) :
    Except McError Common.GuestTokenClaims :=
  match V.validate GuestTokenClaims.fromJson token with
  | .error e => .error (.ofJwtError e)
  | .ok claims =>
    match claims.validate with
    | .error _ => .error (.jwtValidation "The access token is invalid or expired")
    | .ok () => .ok claims

/-! ## The contract -/

/-- The claims that are read have the values that were written. -/
structure SameMeetingFields (issued : Ac.MeetingTokenClaims) (claims : Common.MeetingTokenClaims) :
    Prop where
  sub : claims.sub = issued.sub
  tokenType : claims.tokenType = issued.tokenType
  meetingId : claims.meetingId = issued.meetingId
  homeOrgId : claims.homeOrgId = some issued.homeOrgId
  meetingOrgId : claims.meetingOrgId = issued.meetingOrgId
  participantType : claims.participantType.name = issued.participantType
  role : claims.role.name = issued.role
  capabilities : claims.capabilities = issued.capabilities
  iat : claims.iat = issued.iat
  exp : claims.exp = issued.exp
  jti : claims.jti = issued.jti

/-- The claims that are read are those that were issued. -/
structure SameGuestFields (issued : Ac.GuestTokenClaims) (claims : Common.GuestTokenClaims) :
    Prop where
  sub : claims.sub = issued.sub
  tokenType : claims.tokenType = issued.tokenType
  meetingId : claims.meetingId = issued.meetingId
  meetingOrgId : claims.meetingOrgId = issued.meetingOrgId
  participantType : claims.participantType = issued.participantType
  role : claims.role = issued.role
  displayName : claims.displayName = issued.displayName
  waitingRoom : claims.waitingRoom = issued.waitingRoom
  capabilities : claims.capabilities = issued.capabilities
  iat : claims.iat = issued.iat
  exp : claims.exp = issued.exp
  jti : claims.jti = issued.jti

/-- What is expected of a meeting token with the claims `issued`. -/
structure MeetingContract (V : Verifier) (issued : Ac.MeetingTokenClaims) (token : Token Json) :
    Prop where
  serialised : token.claims = issued.toJson
  accepted : ∃ claims, MeetingTokenClaims.fromJson token.claims = some claims ∧
    SameMeetingFields issued claims ∧ V.validateMeetingToken token = .ok claims
  notService : ∀ V' : Verifier, (V'.validate ServiceClaims.fromJson token).isOk = false
  notUser : ∀ V' : Verifier, (V'.validate UserClaims.fromJson token).isOk = false
  notGuest : ∀ V' : Verifier, (V'.validateGuestToken token).isOk = false
  lifetime : issued.exp - issued.iat ≤ 900

/-- What is expected of a guest token with the claims `issued`. -/
structure GuestContract (issued : Ac.GuestTokenClaims) (token : Token Json) : Prop where
  serialised : token.claims = issued.toJson
  accepted : ∃ claims, GuestTokenClaims.fromJson token.claims = some claims ∧
    SameGuestFields issued claims ∧ claims.validate = .ok ()
  notService : ∀ V' : Verifier, (V'.validate ServiceClaims.fromJson token).isOk = false
  notUser : ∀ V' : Verifier, (V'.validate UserClaims.fromJson token).isOk = false
  notMeeting : ∀ V' : Verifier, (V'.validateMeetingToken token).isOk = false
  lifetime : issued.exp - issued.iat ≤ 900

/-- A request to the internal endpoints. -/
inductive TokenRequest
  | meeting (payload : MeetingTokenRequest)
  | guest (payload : GuestTokenRequest)

namespace TokenRequest

/-- The handler of a token request. -/
def handle (claims : ServiceClaims) (ctx : SigningContext) :
    TokenRequest → Except Ac.AcError Ac.InternalTokenResponse
  | .meeting payload => Ac.handleMeetingToken claims payload ctx
  | .guest payload => Ac.handleGuestToken claims payload ctx

/-- The lifetime that is granted. -/
def ttl : TokenRequest → ℕ
  | .meeting payload => min payload.ttlSeconds Ac.maxTokenTtlSeconds
  | .guest payload => min payload.ttlSeconds Ac.maxTokenTtlSeconds

/-- The token meets the contract of its kind. -/
def Contract (V : Verifier) (ctx : SigningContext) (token : Token Json) (request : TokenRequest) :
    Prop :=
  match request with
  | .meeting payload => MeetingContract V (Ac.meetingTokenClaims payload request.ttl ctx) token
  | .guest payload => GuestContract (Ac.guestTokenClaims payload request.ttl ctx) token

/-- The request names nothing that verifiers do not know, and is not too long. -/
def Usable (keyId : String) (ctx : SigningContext) (request : TokenRequest) : Prop :=
  match request with
  | .meeting payload =>
    payload.participantType ≠ .guest ∧ payload.role ≠ .guest ∧
      (4 * Ac.headerBytes keyId + 2) / 3 + (4 * Ac.meetingBytes payload request.ttl ctx + 2) / 3 +
        88 ≤ maxJwtSizeBytes
  | .guest _ => True

end TokenRequest

/-- The verifier finds the key, and validates the token between its issue, with
    the skew that is allowed, and its expiry, with the leeway of 60 s. -/
structure Verifier.Ready (V : Verifier) (key : SigningKey) (issuedAt ttl : ℕ) : Prop where
  named : key.keyId ≠ ""
  found : ∃ jwks, V.answer = some jwks ∧ ∃ jwk,
    (JwksClient.keysAt V.cache jwks V.now).lookup key.keyId = some jwk ∧
      jwk.Encodes key.privateKey
  issued : timestamp issuedAt ≤ timestamp V.now + V.clockSkewSeconds
  unexpired : timestamp V.now - 60 ≤ timestamp issuedAt + ttl

/-! ## Reading the claims -/

section Reading

variable (issued : Ac.MeetingTokenClaims) (issuedGuest : Ac.GuestTokenClaims)

theorem asInt_num {n : ℤ} (h₀ : 0 ≤ n) (h₁ : n < 2 ^ 63) : Json.asInt (.num n) = some n := by
  rw [Json.asInt, if_pos ⟨by omega, h₁⟩]

/-- The claims of a meeting token as they are read, for a participant type and a
    role. -/
def meetingRead (participantType : Common.ParticipantType) (role : Common.MeetingRole) :
    Common.MeetingTokenClaims :=
  ⟨issued.sub, issued.tokenType, issued.meetingId, some issued.homeOrgId, issued.meetingOrgId,
    participantType, role, issued.capabilities, issued.iat, issued.exp, issued.jti⟩

theorem fromJson_meeting (hiat : Json.asInt (.num issued.iat) = some issued.iat)
    (hexp : Json.asInt (.num issued.exp) = some issued.exp) :
    MeetingTokenClaims.fromJson issued.toJson =
      (ParticipantType.variants.lookup issued.participantType).bind fun participantType =>
        (MeetingRole.variants.lookup issued.role).bind fun role =>
          some (meetingRead issued participantType role) := by
  simp [Ac.MeetingTokenClaims.toJson, MeetingTokenClaims.fromJson, Json.required, Json.optional,
    Json.asString, Json.asVariant, Json.asStrings_arr_str, hiat, hexp, meetingRead]

theorem fromJson_guest (hiat : Json.asInt (.num issuedGuest.iat) = some issuedGuest.iat)
    (hexp : Json.asInt (.num issuedGuest.exp) = some issuedGuest.exp) :
    GuestTokenClaims.fromJson issuedGuest.toJson =
      some ⟨issuedGuest.sub, issuedGuest.tokenType, issuedGuest.meetingId,
        issuedGuest.meetingOrgId, issuedGuest.participantType, issuedGuest.role,
        issuedGuest.displayName, issuedGuest.waitingRoom, issuedGuest.capabilities,
        issuedGuest.iat, issuedGuest.exp, issuedGuest.jti⟩ := by
  simp [Ac.GuestTokenClaims.toJson, GuestTokenClaims.fromJson, Json.required, Json.asString,
    Json.asBool, Json.asStrings_arr_str, hiat, hexp]

theorem serviceClaims_meeting : ServiceClaims.fromJson issued.toJson = none := by
  simp [Ac.MeetingTokenClaims.toJson, ServiceClaims.fromJson, Json.required]

theorem userClaims_meeting : UserClaims.fromJson issued.toJson = none := by
  simp [Ac.MeetingTokenClaims.toJson, UserClaims.fromJson, Json.required]

theorem guestClaims_meeting : GuestTokenClaims.fromJson issued.toJson = none := by
  simp [Ac.MeetingTokenClaims.toJson, GuestTokenClaims.fromJson, Json.required]

theorem serviceClaims_guest : ServiceClaims.fromJson issuedGuest.toJson = none := by
  simp [Ac.GuestTokenClaims.toJson, ServiceClaims.fromJson, Json.required]

theorem userClaims_guest : UserClaims.fromJson issuedGuest.toJson = none := by
  simp [Ac.GuestTokenClaims.toJson, UserClaims.fromJson, Json.required]

/-- The claims of a guest lack nothing that a meeting token has, but name a
    participant type that it does not know. -/
theorem meetingClaims_guest (h : issuedGuest.participantType = "guest") :
    MeetingTokenClaims.fromJson issuedGuest.toJson = none := by
  simp [Ac.GuestTokenClaims.toJson, MeetingTokenClaims.fromJson, Json.required, Json.asVariant, h,
    ParticipantType.variants, List.lookup_cons, List.lookup_nil]

end Reading

/-! ## Validating the token -/

section Validating

variable {V : Verifier} {token : Token Json}

/-- Claims that cannot be read are refused by every verifier. -/
theorem Verifier.validate_of_none {γ : Type} [JwtClaims γ] {fromJson : Json → Option γ}
    (h : fromJson token.claims = none) : ∃ e, V.validate fromJson token = .error e := by
  have hrefused : (V.validate fromJson token).isOk = false :=
    JwtValidator.isOk_validateAs_of_none h
  cases hvalidate : V.validate fromJson token with
  | error e => exact ⟨e, rfl⟩
  | ok claims =>
    rw [hvalidate] at hrefused
    cases hrefused

theorem Verifier.isOk_validate_of_none {γ : Type} [JwtClaims γ] {fromJson : Json → Option γ}
    (h : fromJson token.claims = none) : (V.validate fromJson token).isOk = false := by
  obtain ⟨e, he⟩ := Verifier.validate_of_none (V := V) h
  rw [he]
  rfl

theorem Verifier.isOk_validateMeetingToken_of_none
    (h : MeetingTokenClaims.fromJson token.claims = none) :
    (V.validateMeetingToken token).isOk = false := by
  obtain ⟨e, he⟩ := Verifier.validate_of_none (V := V) h
  rw [Verifier.validateMeetingToken, he]
  rfl

theorem Verifier.isOk_validateGuestToken_of_none
    (h : GuestTokenClaims.fromJson token.claims = none) :
    (V.validateGuestToken token).isOk = false := by
  obtain ⟨e, he⟩ := Verifier.validate_of_none (V := V) h
  rw [Verifier.validateGuestToken, he]
  rfl

/-- A verifier that is ready accepts the claims of a token that is not too long. -/
theorem Verifier.Ready.validate_isOk_iff {γ : Type} [JwtClaims γ] {fromJson : Json → Option γ}
    {key : SigningKey} {issuedAt ttl size : ℕ} {json : Json} {claims : γ}
    (hready : V.Ready key issuedAt ttl) (hread : fromJson json = some claims)
    (hiat : JwtClaims.iat claims = timestamp issuedAt)
    (hexp : JwtClaims.exp claims = timestamp issuedAt + ttl) :
    (V.validate fromJson (Ac.signJwt key size json)).isOk = true ↔ size ≤ maxJwtSizeBytes := by
  obtain ⟨jwks, hanswer, jwk, hlookup, hencodes⟩ := hready.found
  have hissued := hready.issued
  have hunexpired := hready.unexpired
  rw [Verifier.validate, JwtValidator.validateAs_of_some hread, hanswer,
    JwtValidator.validate_isOk_iff]
  constructor
  · rintro ⟨hsize, -⟩
    exact hsize
  · intro hsize
    refine ⟨hsize, key.keyId, rfl, hready.named, jwk, hlookup, ?_, ?_⟩
    · rw [verifyToken_isOk_iff hencodes]
      refine ⟨rfl, ?_⟩
      show timestamp V.now - 60 ≤ JwtClaims.exp claims
      omega
    · show JwtClaims.iat claims ≤ _
      omega

theorem Verifier.validate_eq_ok {γ : Type} [JwtClaims γ] {fromJson : Json → Option γ} {claims : γ}
    (hread : fromJson token.claims = some claims)
    (hok : (V.validate fromJson token).isOk = true) : V.validate fromJson token = .ok claims := by
  rw [Verifier.validate, JwtValidator.validateAs_of_some hread] at hok ⊢
  cases hresult : (JwtValidator.validate V.clockSkewSeconds V.cache V.cacheTtl V.answer V.now
      (token.withClaims claims)).2 with
  | error e =>
    rw [hresult] at hok
    cases hok
  | ok found => rw [JwtValidator.claims_of_validate hresult]; rfl

end Validating

/-! ## When the contract is met -/

section Contract

variable {V : Verifier} {ctx : SigningContext} {key : SigningKey} {ttl : ℕ}

theorem asInt_timestamp (ctx : SigningContext) (httl : ttl ≤ 900) :
    Json.asInt (.num (timestamp ctx.now)) = some (timestamp ctx.now) ∧
      Json.asInt (.num (timestamp ctx.now + ttl)) = some (timestamp ctx.now + ttl) := by
  have hrange := ctx.inRange
  have hnonneg : 0 ≤ timestamp ctx.now := Int.natCast_nonneg _
  exact ⟨asInt_num hnonneg (by omega), asInt_num (by omega) (by omega)⟩

/-- Verifiers know every participant type of a request but `guest`. -/
theorem lookup_participantType (participantType : MeetingToken.ParticipantType) :
    participantType = .guest ∧ ParticipantType.variants.lookup participantType.asStr = none ∨
      participantType ≠ .guest ∧ ∃ known, known.name = participantType.asStr ∧
        ParticipantType.variants.lookup participantType.asStr = some known := by
  cases participantType with
  | member => exact .inr ⟨by decide, .member, rfl, rfl⟩
  | external => exact .inr ⟨by decide, .external, rfl, rfl⟩
  | guest => exact .inl ⟨rfl, rfl⟩

/-- Verifiers know every role of a request but `guest`. -/
theorem lookup_role (role : MeetingToken.MeetingRole) :
    role = .guest ∧ MeetingRole.variants.lookup role.asStr = none ∨
      role ≠ .guest ∧ ∃ known, known.name = role.asStr ∧
        MeetingRole.variants.lookup role.asStr = some known := by
  cases role with
  | host => exact .inr ⟨by decide, .host, rfl, rfl⟩
  | participant => exact .inr ⟨by decide, .participant, rfl, rfl⟩
  | guest => exact .inl ⟨rfl, rfl⟩

/-- The claims of a meeting token can be read unless they name a guest. -/
theorem read_meeting (payload : MeetingTokenRequest) (ctx : SigningContext) (httl : ttl ≤ 900) :
    ((payload.participantType = .guest ∨ payload.role = .guest) ∧
        MeetingTokenClaims.fromJson (Ac.meetingTokenClaims payload ttl ctx).toJson = none) ∨
      ((payload.participantType ≠ .guest ∧ payload.role ≠ .guest) ∧
        ∃ claims, SameMeetingFields (Ac.meetingTokenClaims payload ttl ctx) claims ∧
          MeetingTokenClaims.fromJson (Ac.meetingTokenClaims payload ttl ctx).toJson =
            some claims) := by
  obtain ⟨hiat, hexp⟩ := asInt_timestamp ctx httl
  have htypeText : (Ac.meetingTokenClaims payload ttl ctx).participantType =
    payload.participantType.asStr := rfl
  have hroleText : (Ac.meetingTokenClaims payload ttl ctx).role = payload.role.asStr := rfl
  rw [fromJson_meeting (Ac.meetingTokenClaims payload ttl ctx) hiat hexp, htypeText, hroleText]
  rcases lookup_participantType payload.participantType with ⟨htype, hnone⟩ | ⟨htype, t, htname, ht⟩
  · exact .inl ⟨.inl htype, by rw [hnone, Option.bind_none]⟩
  rcases lookup_role payload.role with ⟨hrole, hnone⟩ | ⟨hrole, r, hrname, hr⟩
  · exact .inl ⟨.inr hrole, by rw [ht, Option.bind_some, hnone, Option.bind_none]⟩
  · refine .inr ⟨⟨htype, hrole⟩, meetingRead (Ac.meetingTokenClaims payload ttl ctx) t r, ?_, ?_⟩
    · exact ⟨rfl, rfl, rfl, rfl, rfl, htname, hrname, rfl, rfl, rfl, rfl⟩
    · rw [ht, Option.bind_some, hr, Option.bind_some]

/-- A meeting token meets its contract when its claims can be read and it is not
    too long. -/
theorem meetingContract_iff {payload : MeetingTokenRequest} {size : ℕ} (httl : ttl ≤ 900)
    (hready : V.Ready key ctx.now ttl) :
    MeetingContract V (Ac.meetingTokenClaims payload ttl ctx)
        (Ac.signJwt key size (Ac.meetingTokenClaims payload ttl ctx).toJson) ↔
      payload.participantType ≠ .guest ∧ payload.role ≠ .guest ∧ size ≤ maxJwtSizeBytes := by
  rcases read_meeting payload ctx httl with ⟨hguest, hnone⟩ | ⟨⟨htype, hrole⟩, claims,
    hsame, hread⟩
  · constructor
    · intro hcontract
      obtain ⟨claims, hsome, -⟩ := hcontract.accepted
      cases hnone.symm.trans hsome
    · rintro ⟨htype, hrole, -⟩
      exact absurd hguest (not_or.mpr ⟨htype, hrole⟩)
  have hvalid : (V.validate MeetingTokenClaims.fromJson (Ac.signJwt key size
      (Ac.meetingTokenClaims payload ttl ctx).toJson)).isOk = true ↔ size ≤ maxJwtSizeBytes :=
    hready.validate_isOk_iff hread hsame.iat hsame.exp
  constructor
  · intro hcontract
    refine ⟨htype, hrole, hvalid.mp ?_⟩
    obtain ⟨found, -, -, hok⟩ := hcontract.accepted
    unfold Verifier.validateMeetingToken at hok
    split at hok
    · cases hok
    · rename_i hvalidate
      rw [hvalidate]
      rfl
  · rintro ⟨-, -, hsize⟩
    refine ⟨rfl, ⟨claims, hread, hsame, ?_⟩, ?_, ?_, ?_, ?_⟩
    · have hok := Verifier.validate_eq_ok hread (hvalid.mpr hsize)
      simp only [Verifier.validateMeetingToken, hok]
      rw [if_neg]
      rw [hsame.tokenType]
      exact not_not.mpr rfl
    · exact fun V' => Verifier.isOk_validate_of_none (serviceClaims_meeting _)
    · exact fun V' => Verifier.isOk_validate_of_none (userClaims_meeting _)
    · exact fun V' => Verifier.isOk_validateGuestToken_of_none (guestClaims_meeting _)
    · show timestamp ctx.now + ttl - timestamp ctx.now ≤ 900
      omega

/-- A guest token meets its contract. -/
theorem guestContract {payload : GuestTokenRequest} {size : ℕ} (httl : ttl ≤ 900) :
    GuestContract (Ac.guestTokenClaims payload ttl ctx)
      (Ac.signJwt key size (Ac.guestTokenClaims payload ttl ctx).toJson) := by
  obtain ⟨hiat, hexp⟩ := asInt_timestamp ctx httl
  refine ⟨rfl, ⟨_, fromJson_guest (Ac.guestTokenClaims payload ttl ctx) hiat hexp, ?_, rfl⟩,
    ?_, ?_, ?_, ?_⟩
  · exact ⟨rfl, rfl, rfl, rfl, rfl, rfl, rfl, rfl, rfl, rfl, rfl, rfl⟩
  · exact fun V' => Verifier.isOk_validate_of_none (serviceClaims_guest _)
  · exact fun V' => Verifier.isOk_validate_of_none (userClaims_guest _)
  · exact fun V' => Verifier.isOk_validateMeetingToken_of_none (meetingClaims_guest _ rfl)
  · show timestamp ctx.now + ttl - timestamp ctx.now ≤ 900
    omega

theorem TokenRequest.ttl_le (request : TokenRequest) : request.ttl ≤ 900 := by
  cases request with
  | meeting payload => exact Nat.min_le_right _ _
  | guest payload => exact Nat.min_le_right _ _

/-- An issued token meets the contract of its kind, at a verifier that is ready to
    check it, exactly when its request is usable. -/
theorem contract_iff {claims : ServiceClaims} {request : TokenRequest}
    {response : Ac.InternalTokenResponse} (hkey : ctx.activeKey = .ok (some key))
    (hissue : request.handle claims ctx = .ok response)
    (hready : V.Ready key ctx.now request.ttl) :
    request.Contract V ctx response.token ↔ request.Usable key.keyId ctx := by
  have httl := request.ttl_le
  cases request with
  | meeting payload =>
    obtain ⟨key', hkey', htoken⟩ := Ac.handleMeetingToken_eq_ok hissue
    cases hkey.symm.trans hkey'
    rw [TokenRequest.Contract, TokenRequest.Usable, htoken, ← Ac.jwtSize_meeting]
    exact meetingContract_iff httl hready
  | guest payload =>
    obtain ⟨key', -, htoken⟩ := Ac.handleGuestToken_eq_ok hissue
    rw [TokenRequest.Contract, htoken]
    exact iff_of_true (guestContract httl) trivial

end Contract

/-! ## Concrete requests -/

/-- The active key of the Auth Controller. -/
def sampleKey : SigningKey := ⟨"auth-eu-2026-01", "", [7], true, 0, fromSecs 5000, 0⟩

/-- A context in which signing succeeds. -/
def sampleContext : SigningContext where
  now := fromSecs 1000
  inRange := by decide
  jti := "5b2c7f0e-8a53-4f0a-9a55-0d8a2f6c1e11"
  activeKey := .ok (some sampleKey)
  decrypted := .ok ()
  signed := .ok ()

/-- A Meeting Controller that fetches the key. -/
def sampleVerifier : Verifier :=
  ⟨300, none, fromSecs 300, some [⟨"OKP", "auth-eu-2026-01", some "Ed25519",
    some (Base64.urlSafeNoPad.encode [7]), some "EdDSA", some "sig"⟩], fromSecs 1001⟩

/-- The claims of the Global Controller. -/
def gcClaims : ServiceClaims :=
  ⟨"global-controller", 4600, 1000, "service.write.mc internal:meeting-token",
    some "global-controller"⟩

/-- A request with a lifetime above the limit. -/
def sampleRequest (participantType : MeetingToken.ParticipantType)
    (role : MeetingToken.MeetingRole) (capabilities : List String) : MeetingTokenRequest :=
  ⟨"11111111-1111-4111-8111-111111111111", "22222222-2222-4222-8222-222222222222",
    "33333333-3333-4333-8333-333333333333", "44444444-4444-4444-8444-444444444444",
    participantType, role, capabilities, 86400⟩

theorem sampleVerifier_ready : sampleVerifier.Ready sampleKey sampleContext.now 900 where
  named := by decide
  found := ⟨_, rfl, _, rfl, rfl, .inr rfl, _, rfl, Base64.Engine.decode_encode [7]⟩
  issued := by decide
  unexpired := by decide

theorem handle_sampleRequest (participantType : MeetingToken.ParticipantType)
    (role : MeetingToken.MeetingRole) (capabilities : List String) :
    ∃ response, (TokenRequest.meeting (sampleRequest participantType role capabilities)).handle
      gcClaims sampleContext = .ok response := by
  have hscope : Ac.checkScope gcClaims = .ok () := by decide
  rw [TokenRequest.handle, Ac.handleMeetingToken, hscope]
  exact ⟨_, rfl⟩

theorem contract_externalHost :
    ∃ response, (TokenRequest.meeting (sampleRequest .external .host ["video", "audio"])).handle
        gcClaims sampleContext = .ok response ∧
      (TokenRequest.meeting (sampleRequest .external .host ["video", "audio"])).Contract
        sampleVerifier sampleContext response.token := by
  obtain ⟨response, hissue⟩ := handle_sampleRequest .external .host ["video", "audio"]
  refine ⟨response, hissue, (contract_iff rfl hissue sampleVerifier_ready).mpr ?_⟩
  exact ⟨by decide, by decide, by decide +kernel⟩

/-- A request for a meeting token of a guest is granted, and no verifier can read
    the token. -/
theorem guest_meeting_token_refused :
    ∃ response, (TokenRequest.meeting (sampleRequest .guest .participant ["audio"])).handle
        gcClaims sampleContext = .ok response ∧
      sampleVerifier.Ready sampleKey sampleContext.now 900 ∧
      MeetingTokenClaims.fromJson response.token.claims = none ∧
      ¬(TokenRequest.meeting (sampleRequest .guest .participant ["audio"])).Contract
        sampleVerifier sampleContext response.token := by
  obtain ⟨response, hissue⟩ := handle_sampleRequest .guest .participant ["audio"]
  have hmeeting : Ac.handleMeetingToken gcClaims (sampleRequest .guest .participant ["audio"])
    sampleContext = .ok response := hissue
  obtain ⟨key, -, htoken⟩ := Ac.handleMeetingToken_eq_ok hmeeting
  have hnone : MeetingTokenClaims.fromJson response.token.claims = none := by
    rw [htoken]
    rcases read_meeting (sampleRequest .guest .participant ["audio"]) sampleContext
      (Nat.min_le_right 86400 900) with ⟨-, hnone⟩ | ⟨⟨htype, -⟩, -⟩
    · exact hnone
    · exact absurd rfl htype
  refine ⟨response, hissue, sampleVerifier_ready, hnone, fun hcontract => ?_⟩
  obtain ⟨claims, hsome, -⟩ := hcontract.accepted
  cases hnone.symm.trans hsome

/-- A thousand capabilities make a token that is too long. -/
example : ¬(TokenRequest.meeting (sampleRequest .member .host
    (List.replicate 1000 "capability"))).Usable sampleKey.keyId sampleContext := by
  rintro ⟨-, -, hsize⟩
  have hquoted : Json.quotedBytes "capability" = 12 := by decide
  have hcaps : Ac.capabilityBytes (List.replicate 1000 "capability") = 13001 := by
    rw [Ac.capabilityBytes, List.map_replicate, List.sum_replicate_nat, List.length_replicate,
      hquoted]
  have hbytes : 13001 ≤ Ac.meetingBytes
      (sampleRequest .member .host (List.replicate 1000 "capability")) 900 sampleContext := by
    unfold Ac.meetingBytes
    rw [show (sampleRequest .member .host (List.replicate 1000 "capability")).capabilities =
      List.replicate 1000 "capability" from rfl, hcaps]
    omega
  have hlimit : maxJwtSizeBytes = 8192 := rfl
  have httl : (TokenRequest.meeting (sampleRequest .member .host
    (List.replicate 1000 "capability"))).ttl = 900 := rfl
  rw [httl] at hsize
  omega

end DarkTower.Mc
