import DarkTower.Ac.UserLogins
import DarkTower.Gc.Controllers
import DarkTower.Mesh.ServiceAuth

/-!
# Who is behind the requests of users

The routes of the Global Controller for users stand behind `require_user_auth`
(`gc-service/src/middleware/auth.rs:82`), which takes any token of the Auth Controller that
can be read as the claims of a user. The tokens of users come from the logins of
`ac-service`; the texts of JWTs are a parameter.

* `account_of_request`: behind every request that gets through is a registration with the
  email and the organization of the claims, and a login with a password that fits, at most
  61 minutes ago.
-/

namespace DarkTower.Gc

open DarkTower.Common DarkTower.Lib

/-- The header `authorization` of a request. -/
inductive UserAuthorization
  /-- Absent, or not visible ASCII. -/
  | missing
  /-- A text that does not start with `"Bearer "`. -/
  | other
  /-- `"Bearer "` and a text that is no JWT. -/
  | malformed
  | bearer (token : Token Json)

/-- `From<JwtError> for GcError` (errors.rs:177). -/
def GcError.ofJwtError : JwtError → GcError
  | .serviceUnavailable message => .serviceUnavailable message
  | _ => .invalidToken "The access token is invalid or expired"

/-- `require_user_auth` (auth.rs:82), up to the handler. -/
def requireUserAuth (V : Mc.Verifier) : UserAuthorization → Except GcError UserClaims
  | .missing => .error (.invalidToken "Missing Authorization header")
  | .other => .error (.invalidToken "Invalid Authorization header format")
  | .malformed => .error (GcError.ofJwtError .malformedToken)
  | .bearer token =>
    match V.validate UserClaims.fromJson token with
    | .error e => .error (GcError.ofJwtError e)
    | .ok claims => .ok claims

theorem requireUserAuth_eq_ok {V : Mc.Verifier} {header : UserAuthorization} {claims : UserClaims}
    (h : requireUserAuth V header = .ok claims) :
    ∃ token, header = .bearer token ∧ V.validate UserClaims.fromJson token = .ok claims := by
  cases header with
  | bearer token =>
    unfold requireUserAuth at h
    dsimp only at h
    split at h
    · cases h
    next found hvalid => exact ⟨token, rfl, hvalid.trans (congrArg _ (Except.ok.inj h))⟩
  | _ => cases h

end DarkTower.Gc

namespace DarkTower.Mesh

open DarkTower.Ac hiding MeetingTokenClaims GuestTokenClaims
open DarkTower.Common DarkTower.Lib
open DarkTower.Mc (Verifier)
open DarkTower.Gc (UserAuthorization requireUserAuth requireUserAuth_eq_ok)

/-- The claims of a user are read as they were written. -/
theorem userClaims_user {claims read : UserClaims}
    (h : UserClaims.fromJson claims.toJson = some read) : read = claims := by
  cases hiat : Json.asInt (.num claims.iat) with
  | none =>
    simp [UserClaims.toJson, UserClaims.fromJson, Json.required, Json.asString,
      Json.asStrings_arr_str, hiat] at h
  | some iat =>
    cases hexp : Json.asInt (.num claims.exp) with
    | none =>
      simp [UserClaims.toJson, UserClaims.fromJson, Json.required, Json.asString,
        Json.asStrings_arr_str, hiat, hexp] at h
    | some exp =>
      obtain rfl := asInt_eq_some hiat
      obtain rfl := asInt_eq_some hexp
      simp [UserClaims.toJson, UserClaims.fromJson, Json.required, Json.asString,
        Json.asStrings_arr_str, hiat, hexp] at h
      exact h.symm

variable {S : ClientSettings} {seed : Seed} {h : AuthorityHistory} {s : CredentialStore}

/-- What can be read as the claims of a user was issued to a user. -/
theorem login_of_userClaims (hr : (authority S seed).Run h s) {token : Token Json}
    (hissued : token ∈ issued h) {claims : UserClaims}
    (hread : UserClaims.fromJson token.claims = some claims) :
    ∃ e, (e, .userToken token) ∈ h := by
  obtain ⟨⟨e, reply⟩, hmem, htoken⟩ := List.mem_filterMap.mp hissued
  cases reply with
  | admin result => cases htoken
  | userToken token' => exact ⟨e, Option.some.inj htoken ▸ hmem⟩
  | serviceToken result =>
    cases result with
    | error e => cases htoken
    | ok response =>
      rw [← Option.some.inj htoken, serviceJson, userClaims_service] at hread
      cases hread
  | internalToken result =>
    cases result with
    | error e => cases htoken
    | ok response =>
      obtain ⟨newer, h', hh⟩ := List.append_of_mem hmem
      obtain ⟨hanswer, _⟩ := hr.answer_of_suffix ⟨newer, hh.symm⟩
      change AuthorityReply.internalToken (.ok response) = (authorityStep S _ e).2 at hanswer
      cases e with
      | admin =>
        simp only [authorityStep] at hanswer
        split at hanswer <;> cases hanswer
      | serviceToken => cases hanswer
      | userToken => cases hanswer
      | internalToken caller request ctx =>
        simp only [authorityStep] at hanswer
        split at hanswer
        · cases hanswer
        · have hok := (AuthorityReply.internalToken.inj hanswer).symm
          rw [← Option.some.inj htoken] at hread
          cases request with
          | meeting payload =>
            obtain ⟨key, _, hsigned⟩ := handleMeetingToken_eq_ok hok
            rw [hsigned, signJwt, Mc.userClaims_meeting] at hread
            cases hread
          | guest payload =>
            obtain ⟨key, _, hsigned⟩ := handleGuestToken_eq_ok hok
            rw [hsigned, signJwt, Mc.userClaims_guest] at hread
            cases hread

/-- What `sign_user_jwt` gives is the text of a token over the claims, signed with a key. -/
def Signs (decode : String → Option (Token Json)) (env : TokenEnv) : Prop :=
  ∀ claims text, env.signUserJwt claims = .ok text →
    ∃ key size, decode text = some (signJwt key size claims.toJson)

/-- The tokens that the logins of a history gave. -/
def loginTokens (decode : String → Option (Token Json)) (h : UserHistory) : List (Token Json) :=
  h.filterMap fun x => x.2.accessToken.bind decode

/-- Who is behind a request to the Global Controller that `require_user_auth` lets through, if
    the tokens of users are those that logins gave. -/
theorem account_of_request {L : RateLimits} {T : Organizations}
    (decode : String → Option (Token Json)) {hu : UserHistory} {su : AuthStore}
    (hr : (authority S seed).Run h s) (hru : (userRoutes L T noUsers).Run hu su)
    (hsigns : ∀ x ∈ hu, Signs decode x.1.body.tokenEnv)
    (hlogins : ∀ e token, (e, .userToken token) ∈ h → token ∈ loginTokens decode hu)
    {V : Verifier} {header : UserAuthorization}
    (hgenuine : ∀ token, header = .bearer token → Genuine (issued h) V token)
    {claims : UserClaims} (hok : requireUserAuth V header = .ok claims) :
    ∃ request reply h' text user, (request, reply) :: h' <:+ hu ∧
      TokenFor T ((request, reply) :: h') request text user claims ∧
      timestamp V.now ≤ claims.iat + 3660 := by
  obtain ⟨token, hheader, hvalid⟩ := requireUserAuth_eq_ok hok
  obtain ⟨hread, _, hexp, _⟩ := validate_eq_ok hvalid
  obtain ⟨e, hmem⟩ := login_of_userClaims hr
    (mem_issued_of_validate (hgenuine token hheader) hvalid) hread
  obtain ⟨⟨request, reply⟩, hmem, hbind⟩ := List.mem_filterMap.mp (hlogins e token hmem)
  obtain ⟨text, htext, hdecode⟩ := Option.bind_eq_some_iff.mp hbind
  obtain ⟨newer, h', hh⟩ := List.append_of_mem hmem
  have hsuffix : (request, reply) :: h' <:+ hu := ⟨newer, hh.symm⟩
  obtain ⟨user, claims', hfor⟩ := tokenFor_of_run hru hsuffix htext
  obtain ⟨key, size, hsigned⟩ := hsigns _ hmem claims' text hfor.signed
  obtain rfl : token = signJwt key size claims'.toJson :=
    Option.some.inj (hdecode.symm.trans hsigned)
  obtain rfl := userClaims_user hread
  refine ⟨request, reply, h', text, user, hsuffix, hfor, ?_⟩
  change timestamp V.now - 60 ≤ claims.exp at hexp
  have hexp' := hfor.exp
  rw [hfor.iat]
  unfold userTokenExpirySeconds at hexp'
  omega

/-! ## The first user -/

/-- The claims of a user. -/
def aliceClaims : UserClaims := ⟨"user-1", "org-1", "a@example.org", ["user"], 0, 3600, ""⟩

/-- The token of this user. -/
def aliceToken : Token Json := signJwt signingKey 400 aliceClaims.toJson

/-- The texts of JWTs, of which there is one. -/
def aliceDecode (text : String) : Option (Token Json) :=
  if text = "alice" then some aliceToken else none

/-- The registration of a user that gets the token. -/
def aliceRegistration : UserRequest :=
  sampleRequest "acme.example.org" (.register ⟨"a@example.org", "password", "Alice"⟩
    { now := 0, countFailure := false, emailCheckFailure := none
      hashClientSecret := fun _ => .ok "hash", userId := "user-1", createFailure := false
      roleFailure := false, registeredAt := 0, eventFailure := false
      token := { sampleToken 0 with
        signUserJwt := fun claims => if claims = aliceClaims then .ok "alice" else .error "" } })

theorem account_of_request_alice :
    ∃ request reply h' text user,
      (request, reply) :: h' <:+ (sampleRoutes.playAll [aliceRegistration]).2 ∧
      TokenFor twoOrganizations ((request, reply) :: h') request text user aliceClaims ∧
      timestamp sampleVerifier.now ≤ aliceClaims.iat + 3660 := by
  have hr : (authority clientSettings serviceSeed).Run
      [(.userToken aliceClaims signingKey 400, .userToken aliceToken)] _ := .cons _ .nil trivial
  have hru : sampleRoutes.Run (sampleRoutes.playAll [aliceRegistration]).2 _ :=
    Machine.run_of_admits (by decide)
  have hok : requireUserAuth sampleVerifier (.bearer aliceToken) = .ok aliceClaims := by
    decide +kernel
  refine account_of_request aliceDecode hr hru ?_ ?_ ?_ hok
  · intro x hx claims text hsigned
    obtain rfl := List.mem_singleton.mp hx
    change (if claims = aliceClaims then Except.ok "alice" else .error "") = .ok text at hsigned
    split_ifs at hsigned with hclaims
    · obtain rfl := Except.ok.inj hsigned
      exact ⟨signingKey, 400, hclaims ▸ rfl⟩
  · intro e token hmem
    obtain ⟨_, htoken⟩ := Prod.mk.inj (List.mem_singleton.mp hmem)
    obtain rfl := AuthorityReply.userToken.inj htoken
    exact List.mem_singleton_self _
  · rintro token hheader _ _ _ _ _
    obtain rfl := UserAuthorization.bearer.inj hheader
    exact List.mem_singleton_self _

end DarkTower.Mesh
