import DarkTower.Ac.ClientAdmin
import DarkTower.Mc.TokenContract

/-!
# The Auth Controller as the source of every token

All its routes that issue tokens or write credentials, in one system: the
administration behind `require_admin_scope`, the token endpoint of the services, the
internal endpoints behind `require_service_auth`, and the login of users
(`ac-service/src/routes/mod.rs:20`). Credentials are seeded by the deployment.

Nobody else holds the signing keys: a token signed with a key of the Auth Controller
was issued by it (`Caller.Genuine`, `Genuine`). Generated ids are new.

* `origin_of_serviceClaims`: what can be read as the claims of a service was issued by
  the token endpoint, for the credential that the client had then; tokens of users,
  meetings and guests cannot be read so.
* `unadministered_of_run`: if no seeded credential holds `admin:services`, the
  credentials stay as they were seeded, in every run.
-/

namespace DarkTower.Common

open DarkTower.Lib

/-- Serialization of `ServiceClaims` (jwt.rs:161). -/
def ServiceClaims.toJson (claims : ServiceClaims) : Json :=
  .obj ([("sub", .str claims.sub), ("exp", .num claims.exp), ("iat", .num claims.iat),
      ("scope", .str claims.scope)] ++
    (claims.serviceType.map fun serviceType => ("service_type", Json.str serviceType)).toList)

/-- Serialization of `UserClaims` (jwt.rs:261). -/
def UserClaims.toJson (claims : UserClaims) : Json :=
  .obj
    [("sub", .str claims.sub), ("org_id", .str claims.orgId), ("email", .str claims.email),
      ("roles", .arr (claims.roles.map .str)), ("iat", .num claims.iat), ("exp", .num claims.exp),
      ("jti", .str claims.jti)]

end DarkTower.Common

namespace DarkTower.Mesh

open DarkTower.Ac hiding MeetingTokenClaims GuestTokenClaims
open DarkTower.Common DarkTower.Lib
open DarkTower.Mc (TokenRequest Verifier)

/-! ## Claims of one kind, read as another -/

theorem asInt_eq_some {n m : ℤ} (h : Json.asInt (.num n) = some m) : m = n := by
  simp only [Json.asInt] at h
  split_ifs at h
  exact (Option.some.inj h).symm

/-- The claims of a service are read as they were written. -/
theorem serviceClaims_service {claims read : ServiceClaims}
    (h : ServiceClaims.fromJson claims.toJson = some read) : read = claims := by
  obtain ⟨sub, exp, iat, scope, serviceType⟩ := claims
  cases hexp : Json.asInt (.num exp) with
  | none => cases serviceType <;>
      simp [ServiceClaims.toJson, ServiceClaims.fromJson, Json.required, Json.asString, hexp] at h
  | some exp' =>
    cases hiat : Json.asInt (.num iat) with
    | none => cases serviceType <;>
        simp [ServiceClaims.toJson, ServiceClaims.fromJson, Json.required, Json.asString, hexp,
          hiat] at h
    | some iat' =>
      obtain rfl := asInt_eq_some hexp
      obtain rfl := asInt_eq_some hiat
      cases serviceType <;>
        simp [ServiceClaims.toJson, ServiceClaims.fromJson, Json.required, Json.optional,
          Json.asString, hexp, hiat] at h <;>
        exact h.symm

variable (service : ServiceClaims) (user : UserClaims)

theorem userClaims_service : UserClaims.fromJson service.toJson = none := by
  cases h : service.serviceType <;>
    simp [ServiceClaims.toJson, UserClaims.fromJson, Json.required, h]

theorem meetingClaims_service : Common.MeetingTokenClaims.fromJson service.toJson = none := by
  cases h : service.serviceType <;>
    simp [ServiceClaims.toJson, Common.MeetingTokenClaims.fromJson, Json.required, h]

theorem guestClaims_service : Common.GuestTokenClaims.fromJson service.toJson = none := by
  cases h : service.serviceType <;>
    simp [ServiceClaims.toJson, Common.GuestTokenClaims.fromJson, Json.required, h]

theorem serviceClaims_user : ServiceClaims.fromJson user.toJson = none := by
  simp [UserClaims.toJson, ServiceClaims.fromJson, Json.required]

theorem meetingClaims_user : Common.MeetingTokenClaims.fromJson user.toJson = none := by
  simp [UserClaims.toJson, Common.MeetingTokenClaims.fromJson, Json.required]

theorem guestClaims_user : Common.GuestTokenClaims.fromJson user.toJson = none := by
  simp [UserClaims.toJson, Common.GuestTokenClaims.fromJson, Json.required]

/-! ## Callers -/

/-- A request behind one of the middlewares, with the keys and the clock at that time. -/
structure Caller where
  keys : KeyTable
  clockSkew : ℕ
  now : ℕ
  header : Authorization Json

/-- The header with its claims as the claims of a service. -/
def readHeader : Authorization Json → Option (Authorization ServiceClaims)
  | .missing => some .missing
  | .other => some .other
  | .bearer token => (ServiceClaims.fromJson token.claims).map fun claims =>
    .bearer (token.withClaims claims)

/-- A middleware of `Ac.Auth` on a token with JSON claims: `decode` fails on claims that
    cannot be read. -/
def Caller.check (caller : Caller)
    (middleware : KeyTable → ℕ → ℕ → Authorization ServiceClaims → Except AcError ServiceClaims) :
    Except AcError ServiceClaims :=
  match readHeader caller.header with
  | some header => middleware caller.keys caller.clockSkew caller.now header
  | none =>
    match caller.keys.getActiveKey caller.now with
    | none => .error (.crypto "No active signing key available")
    | some _ => .error invalidOrExpired

/-- The caller has no token signed with a key of the table but the issued ones. -/
def Caller.Genuine (issued : List (Token Json)) (caller : Caller) : Prop :=
  match caller.header with
  | .bearer token =>
    ∀ key ∈ caller.keys, decodePublicKeyPem key.publicKey = some token.signer → token ∈ issued
  | _ => True

theorem mem_of_getActiveKey {table : KeyTable} {now : ℕ} {key : SigningKey}
    (h : table.getActiveKey now = some key) : key ∈ table := by
  have hmem := List.mem_of_head? h
  rw [KeyTable.getAllActiveKeys, List.mem_insertionSort] at hmem
  exact List.mem_of_mem_filter hmem

theorem verifyJwt_eq_ok {γ : Type} [JwtClaims γ] {token : Token γ} {publicKey : String}
    {clockSkew now : ℕ} {claims : γ} (h : verifyJwt token publicKey clockSkew now = .ok claims) :
    claims = token.claims ∧ decodePublicKeyPem publicKey = some token.signer := by
  unfold verifyJwt decode at h
  split at h
  · cases h
  split at h
  · cases h
  next bytes hbytes =>
    split at h
    · cases h
    next read hread =>
      split_ifs at hread with hsigned
      split at h
      · cases h
      · rw [← Except.ok.inj h, ← Option.some.inj hread, hbytes, hsigned.1]
        exact ⟨rfl, rfl⟩

/-- The token behind a request that `require_service_auth` lets through. -/
theorem requireServiceAuth_eq_ok {caller : Caller} {claims : ServiceClaims}
    (h : caller.check requireServiceAuth = .ok claims) :
    ∃ token key, caller.header = .bearer token ∧ ServiceClaims.fromJson token.claims = some claims ∧
      key ∈ caller.keys ∧ decodePublicKeyPem key.publicKey = some token.signer := by
  unfold Caller.check at h
  split at h
  next header hheader =>
    unfold readHeader at hheader
    split at hheader
    · obtain rfl := Option.some.inj hheader
      cases h
    · obtain rfl := Option.some.inj hheader
      cases h
    next token htoken =>
      obtain ⟨read, hread, rfl⟩ := Option.map_eq_some_iff.mp hheader
      simp only [requireServiceAuth, bearerToken] at h
      split at h
      · cases h
      next key hkey =>
        obtain ⟨rfl, hsigned⟩ := verifyJwt_eq_ok h
        exact ⟨token, key, htoken, hread, mem_of_getActiveKey hkey, hsigned⟩
  · split at h <;> cases h

theorem requireAdminScope_eq_ok {caller : Caller} {claims : ServiceClaims}
    (h : caller.check requireAdminScope = .ok claims) :
    caller.check requireServiceAuth = .ok claims ∧ "admin:services" ∈ tokenScopes claims := by
  unfold Caller.check at h ⊢
  split at h
  next header hheader =>
    unfold requireAdminScope at h
    split at h
    · cases h
    next read hread =>
      split_ifs at h with hscope
      obtain rfl := Except.ok.inj h
      exact ⟨hread, hscope⟩
  · split at h <;> cases h

/-! ## The system -/

/-- A request to the Auth Controller. -/
inductive AuthorityEvent
  | admin (caller : Caller) (request : AdminRequest)
  | serviceToken (payload : ServiceTokenRequest) (env : ServiceTokenEnv)
  | internalToken (caller : Caller) (request : TokenRequest) (ctx : SigningContext)
  /-- A login signs the claims of a user. -/
  | userToken (claims : UserClaims) (key : SigningKey) (size : ℕ)

/-- The answer to a request. -/
inductive AuthorityReply
  /-- The answer of the middleware, or of the handler. -/
  | admin (result : Except AcError AdminReply)
  | serviceToken (result : Except AcError TokenResponse)
  | internalToken (result : Except AcError InternalTokenResponse)
  | userToken (token : Token Json)

/-- The requests so far with their answers, the last one first. -/
abbrev AuthorityHistory := List (AuthorityEvent × AuthorityReply)

/-- One request. -/
def authorityStep (S : ClientSettings) (s : CredentialStore) :
    AuthorityEvent → CredentialStore × AuthorityReply
  | .admin caller request =>
    match caller.check requireAdminScope with
    | .error e => (s, .admin (.error e))
    | .ok _ => ((request.handle s).1, .admin (.ok (request.handle s).2))
  | .serviceToken payload env =>
    ((s.handleServiceToken S env payload).1,
      .serviceToken (s.handleServiceToken S env payload).2)
  | .internalToken caller request ctx =>
    match caller.check requireServiceAuth with
    | .error e => (s, .internalToken (.error e))
    | .ok claims => (s, .internalToken (request.handle claims ctx))
  | .userToken claims key size => (s, .userToken (signJwt key size claims.toJson))

/-- The text of a service token. -/
def serviceJson (token : Token ServiceClaims) : Token Json :=
  ⟨token.size, token.kid, token.claims.toJson, token.signer⟩

/-- The token of an answer. -/
def AuthorityReply.token : AuthorityReply → Option (Token Json)
  | .serviceToken (.ok response) => some (serviceJson response.accessToken)
  | .internalToken (.ok response) => some response.token
  | .userToken token => some token
  | _ => none

/-- The tokens issued in a history. -/
def issued (h : AuthorityHistory) : List (Token Json) := h.filterMap (·.2.token)

/-- The credentials that the deployment seeds, with the unique columns of the table. -/
structure Seed extends CredentialStore where
  words : ScopesAreWords credentials
  idKey : (credentials.map (·.credentialId)).Nodup
  clientKey : (credentials.map (·.clientId)).Nodup

/-- The ids that a history has drawn. -/
def drawnIds (h : AuthorityHistory) : List (String × String) :=
  h.filterMap fun
    | (.admin _ request, _) => request.drawn.map fun drawn => (drawn.credentialId, drawn.clientId)
    | _ => none

/-- The ids that were seeded or drawn. -/
def usedIds (seed : Seed) (h : AuthorityHistory) : List (String × String) :=
  drawnIds h ++ seed.credentials.map fun row => (row.credentialId, row.clientId)

/-- What the environment promises of a request. -/
def AuthorityEvent.Genuine (seed : Seed) (h : AuthorityHistory) : AuthorityEvent → Prop
  | .admin caller request => caller.Genuine (issued h) ∧ ∀ drawn ∈ request.drawn,
    ∀ ids ∈ usedIds seed h, ids.1 ≠ drawn.credentialId ∧ ids.2 ≠ drawn.clientId
  | .internalToken caller _ _ => caller.Genuine (issued h)
  | _ => True

/-- The Auth Controller from its seeded credentials. -/
def authority (S : ClientSettings) (seed : Seed) :
    Machine CredentialStore AuthorityEvent AuthorityReply where
  init := seed.toCredentialStore
  step := authorityStep S
  allowed h _ e := e.Genuine seed h

variable {S : ClientSettings} {seed : Seed} {h : AuthorityHistory} {s : CredentialStore}

/-- What a request does to the store. -/
inductive AuthorityCase (s : CredentialStore) (e : AuthorityEvent) (reply : AuthorityReply)
    (s' : CredentialStore) : Prop
  | refused (hadmin : ∀ answer, reply ≠ .admin (.ok answer))
      (hcredentials : s'.credentials = s.credentials) (hevents : s.authEvents ⊆ s'.authEvents)
  | administered (caller : Caller) (request : AdminRequest) (claims : ServiceClaims)
      (answer : AdminReply) (he : e = .admin caller request) (hreply : reply = .admin (.ok answer))
      (hcaller : caller.check requireAdminScope = .ok claims)
      (hdone : Administered s request answer s')

theorem authority_case (s : CredentialStore) (e : AuthorityEvent) :
    AuthorityCase s e (authorityStep S s e).2 (authorityStep S s e).1 := by
  cases e with
  | admin caller request =>
    simp only [authorityStep]
    split
    · exact .refused (by simp) rfl (List.Subset.refl _)
    next claims hcaller =>
      exact .administered caller request claims _ rfl rfl hcaller (administered_handle request)
  | serviceToken payload env =>
    exact .refused (by simp [authorityStep]) handleServiceToken_store.1 handleServiceToken_store.2
  | internalToken caller request ctx =>
    simp only [authorityStep]
    split <;> exact .refused (by simp) rfl (List.Subset.refl _)
  | userToken claims key size => exact .refused (by simp [authorityStep]) rfl (List.Subset.refl _)

/-! ## Where tokens come from -/

/-- The request that issued a token. -/
inductive Origin (S : ClientSettings) (seed : Seed) (h : AuthorityHistory) (token : Token Json) :
    Prop
  | service (payload : ServiceTokenRequest) (env : ServiceTokenEnv) (response : TokenResponse)
      (h' : AuthorityHistory)
      (hsuffix : (.serviceToken payload env, .serviceToken (.ok response)) :: h' <:+ h)
      (htoken : token = serviceJson response.accessToken)
  | internal (caller : Caller) (request : TokenRequest) (ctx : SigningContext)
      (response : InternalTokenResponse) (claims : ServiceClaims) (h' : AuthorityHistory)
      (hsuffix : (.internalToken caller request ctx, .internalToken (.ok response)) :: h' <:+ h)
      (hcaller : caller.check requireServiceAuth = .ok claims)
      (hgenuine : caller.Genuine (issued h'))
      (hok : request.handle claims ctx = .ok response) (htoken : token = response.token)
  | user (claims : UserClaims) (key : SigningKey) (size : ℕ)
      (htoken : token = signJwt key size claims.toJson)

theorem origin_of_run (hr : (authority S seed).Run h s) {token : Token Json}
    (hissued : token ∈ issued h) : Origin S seed h token := by
  obtain ⟨⟨e, reply⟩, hmem, htoken⟩ := List.mem_filterMap.mp hissued
  obtain ⟨newer, h', hh⟩ := List.append_of_mem hmem
  have hsuffix : (e, reply) :: h' <:+ h := ⟨newer, hh.symm⟩
  obtain ⟨hanswer, hallowed⟩ := hr.answer_of_suffix hsuffix
  change reply = (authorityStep S ((authority S seed).stateAfter h') e).2 at hanswer
  subst hanswer
  cases e with
  | admin caller request =>
    simp only [authorityStep] at htoken
    split at htoken <;> cases htoken
  | serviceToken payload env =>
    simp only [authorityStep] at htoken hsuffix
    cases hok : (((authority S seed).stateAfter h').handleServiceToken S env payload).2 with
    | error e =>
      rw [hok] at htoken
      cases htoken
    | ok response =>
      rw [hok] at htoken hsuffix
      exact .service payload env response h' hsuffix (Option.some.inj htoken).symm
  | internalToken caller request ctx =>
    simp only [authorityStep] at htoken hsuffix
    cases hcaller : caller.check requireServiceAuth with
    | error e =>
      rw [hcaller] at htoken
      cases htoken
    | ok claims =>
      rw [hcaller] at htoken hsuffix
      dsimp only at htoken hsuffix
      cases hok : request.handle claims ctx with
      | error e =>
        rw [hok] at htoken
        cases htoken
      | ok response =>
        rw [hok] at htoken hsuffix
        exact .internal caller request ctx response claims h' hsuffix hcaller hallowed hok
          (Option.some.inj htoken).symm
  | userToken claims key size => exact .user claims key size (Option.some.inj htoken).symm

/-- In the history `h`, a client got some claims in the state after `h'`, with a secret, for
    its credential. -/
def IssuedFor (S : ClientSettings) (seed : Seed) (h h' : AuthorityHistory) (clientSecret : String)
    (claims : ServiceClaims) (credential : ServiceCredential) : Prop :=
  ∃ payload env response clientId,
    (.serviceToken payload env, .serviceToken (.ok response)) :: h' <:+ h ∧
    extractClientCredentials payload = .ok (clientId, clientSecret) ∧
    response.accessToken.claims = claims ∧
    Granted S.toTokenSettings ((authority S seed).stateAfter h').credentials env.now clientSecret
      (payload.scope.map Text.splitWhitespace) claims credential

/-- Every token response is issued for a credential, with the secret of the request. -/
theorem issuedFor_of_suffix (hr : (authority S seed).Run h s) {payload : ServiceTokenRequest}
    {env : ServiceTokenEnv} {response : TokenResponse} {h' : AuthorityHistory}
    (hsuffix : (.serviceToken payload env, .serviceToken (.ok response)) :: h' <:+ h) :
    ∃ clientId clientSecret credential,
      extractClientCredentials payload = .ok (clientId, clientSecret) ∧
      IssuedFor S seed h h' clientSecret response.accessToken.claims credential := by
  have hok := (AuthorityReply.serviceToken.inj (hr.answer_of_suffix hsuffix).1).symm
  obtain ⟨clientId, clientSecret, credential, hextract, hgranted⟩ :=
    granted_of_handleServiceToken hok
  exact ⟨clientId, clientSecret, credential, hextract, payload, env, response, clientId, hsuffix,
    hextract, rfl, hgranted⟩

/-- What can be read as the claims of a service was issued by the token endpoint. -/
theorem origin_of_serviceClaims (hr : (authority S seed).Run h s) {token : Token Json}
    (hissued : token ∈ issued h) {claims : ServiceClaims}
    (hread : ServiceClaims.fromJson token.claims = some claims) :
    ∃ h' clientSecret credential, IssuedFor S seed h h' clientSecret claims credential := by
  cases origin_of_run hr hissued with
  | service payload env response h' hsuffix htoken =>
    have hclaims : claims = response.accessToken.claims :=
      serviceClaims_service (by rw [← hread, htoken]; rfl)
    obtain ⟨_, clientSecret, credential, _, hissued⟩ := issuedFor_of_suffix hr hsuffix
    exact ⟨h', clientSecret, credential, hclaims ▸ hissued⟩
  | internal caller request ctx response claims' h' hsuffix hcaller hgenuine hok htoken =>
    cases request with
    | meeting payload =>
      obtain ⟨key, _, hsigned⟩ := handleMeetingToken_eq_ok hok
      rw [htoken, hsigned, signJwt, Mc.serviceClaims_meeting] at hread
      cases hread
    | guest payload =>
      obtain ⟨key, _, hsigned⟩ := handleGuestToken_eq_ok hok
      rw [htoken, hsigned, signJwt, Mc.serviceClaims_guest] at hread
      cases hread
  | user claims' key size htoken =>
    rw [htoken, signJwt, serviceClaims_user] at hread
    cases hread

/-- A caller that a middleware lets through got its token from the token endpoint. -/
theorem origin_of_caller (hr : (authority S seed).Run h s) {caller : Caller}
    (hgenuine : caller.Genuine (issued h)) {claims : ServiceClaims}
    (hcaller : caller.check requireServiceAuth = .ok claims) :
    ∃ h' clientSecret credential, IssuedFor S seed h h' clientSecret claims credential := by
  obtain ⟨token, key, hheader, hread, hkey, hsigned⟩ := requireServiceAuth_eq_ok hcaller
  unfold Caller.Genuine at hgenuine
  rw [hheader] at hgenuine
  exact origin_of_serviceClaims hr (hgenuine key hkey hsigned) hread

/-! ## Scopes -/

theorem ScopesAreWords.of_administered {s s' : CredentialStore} {request : AdminRequest}
    {answer : AdminReply} (hwords : ScopesAreWords s.credentials)
    (hdone : Administered s request answer s') : ScopesAreWords s'.credentials := by
  cases hdone with
  | kept _ hs => exact hs ▸ hwords
  | inserted row _ serviceType _ _ hcredentials _ _ _ _ hscopes _ =>
    rw [hcredentials]
    exact List.forall_mem_cons.mpr ⟨hscopes ▸ isWord_defaultScopes serviceType, hwords⟩
  | updated id scopes now _ hvalid hcredentials _ =>
    rw [hcredentials]
    exact ScopesAreWords.of_written hwords (.updated id scopes now hvalid)
  | rotated id hash now _ hcredentials _ =>
    rw [hcredentials]
    intro row hrow
    obtain ⟨old, hold, rfl⟩ := List.mem_map.mp hrow
    split_ifs <;> exact hwords old hold
  | deleted id _ hcredentials _ _ =>
    rw [hcredentials]
    exact fun row hrow => hwords row (List.mem_of_mem_filter hrow)

theorem words_of_run (hr : (authority S seed).Run h s) : ScopesAreWords s.credentials := by
  refine hr.invariant (I := fun _ s => ScopesAreWords s.credentials) seed.words ?_
  intro h s e _ _ hwords
  cases authority_case (S := S) s e with
  | refused _ hcredentials _ => exact hcredentials ▸ hwords
  | administered _ _ _ _ _ _ _ hdone => exact ScopesAreWords.of_administered hwords hdone

/-- The scopes of a token are stored for its client when it is issued. -/
theorem scopes_of_issuedFor (hr : (authority S seed).Run h s) {h' : AuthorityHistory}
    {clientSecret : String} {claims : ServiceClaims} {credential : ServiceCredential}
    (hissued : IssuedFor S seed h h' clientSecret claims credential) :
    credential ∈ ((authority S seed).stateAfter h').credentials ∧
      tokenScopes claims ⊆ credential.scopes := by
  obtain ⟨payload, env, response, clientId, hsuffix, hextract, hclaims, hgranted⟩ := hissued
  have hwords := words_of_run (hr.suffix ((List.suffix_cons _ _).trans hsuffix))
  have hmem := List.mem_of_find?_eq_some hgranted.found
  obtain ⟨scopes, hselect, hscope⟩ := hgranted.scopes
  have hsubset := (selectScopes_eq_ok hselect).1
  refine ⟨hmem, ?_⟩
  rw [tokenScopes, hscope, Text.splitWhitespace_intercalate fun scope hscope =>
    hwords credential hmem scope (hsubset hscope)]
  exact hsubset

/-! ## No administration without an administrator -/

/-- An administrative request that gets past its middleware was sent with a token issued for
    a credential that held `admin:services` then. -/
theorem administrator_of_caller (hr : (authority S seed).Run h s) {caller : Caller}
    (hgenuine : caller.Genuine (issued h)) {claims : ServiceClaims}
    (hcaller : caller.check requireAdminScope = .ok claims) :
    ∃ h' clientSecret credential, IssuedFor S seed h h' clientSecret claims credential ∧
      credential ∈ ((authority S seed).stateAfter h').credentials ∧
      "admin:services" ∈ credential.scopes := by
  obtain ⟨hauth, hscope⟩ := requireAdminScope_eq_ok hcaller
  obtain ⟨h', clientSecret, credential, hissued⟩ := origin_of_caller hr hgenuine hauth
  obtain ⟨hmem, hsubset⟩ := scopes_of_issuedFor hr hissued
  exact ⟨h', clientSecret, credential, hissued, hmem, hsubset hscope⟩

/-- Every administrative request of a run that gets past its middleware was sent with a
    token issued earlier, for a credential that held `admin:services` then. -/
theorem administrator_of_run (hr : (authority S seed).Run h s) {caller : Caller}
    {request : AdminRequest} {answer : AdminReply} {h₀ : AuthorityHistory}
    (hdone : (.admin caller request, .admin (.ok answer)) :: h₀ <:+ h) :
    ∃ h' clientSecret claims credential, IssuedFor S seed h₀ h' clientSecret claims credential ∧
      caller.check requireAdminScope = .ok claims ∧
      credential ∈ ((authority S seed).stateAfter h').credentials ∧
      "admin:services" ∈ credential.scopes := by
  obtain ⟨hanswer, hallowed⟩ := hr.answer_of_suffix hdone
  have hr₀ := hr.suffix ((List.suffix_cons _ _).trans hdone)
  change _ = (authorityStep S ((authority S seed).stateAfter h₀) (.admin caller request)).2
    at hanswer
  simp only [authorityStep] at hanswer
  split at hanswer
  · cases hanswer
  next claims hcaller =>
    obtain ⟨h', clientSecret, credential, hissued, hmem, hscope⟩ :=
      administrator_of_caller hr₀ hallowed.1 hcaller
    exact ⟨h', clientSecret, claims, credential, hissued, hcaller, hmem, hscope⟩

theorem run_serviceToken (hr : (authority S seed).Run h s) {payload : ServiceTokenRequest}
    {env : ServiceTokenEnv} {response : TokenResponse}
    (hok : (s.handleServiceToken S env payload).2 = .ok response) :
    (authority S seed).Run ((.serviceToken payload env, .serviceToken (.ok response)) :: h)
      (s.handleServiceToken S env payload).1 := by
  have hallowed : (authority S seed).allowed h s (.serviceToken payload env) := trivial
  have hrun := Machine.Run.cons _ hr hallowed
  change (authority S seed).Run ((_, .serviceToken (s.handleServiceToken S env payload).2) :: h) _
    at hrun
  rw [hok] at hrun
  exact hrun

theorem run_admin (hr : (authority S seed).Run h s) {caller : Caller} {request : AdminRequest}
    {claims : ServiceClaims} (hgenuine : (AuthorityEvent.admin caller request).Genuine seed h)
    (hcaller : caller.check requireAdminScope = .ok claims) :
    (authority S seed).Run ((.admin caller request, .admin (.ok (request.handle s).2)) :: h)
      (request.handle s).1 := by
  have hstep : (authority S seed).step s (.admin caller request) =
      ((request.handle s).1, .admin (.ok (request.handle s).2)) := by
    change authorityStep S s (.admin caller request) = _
    simp only [authorityStep, hcaller]
  have hrun := Machine.Run.cons (M := authority S seed) (.admin caller request) hr hgenuine
  rw [hstep] at hrun
  exact hrun

/-! ### A concrete history -/

/-- Settings with a window of 15 minutes. -/
def clientSettings : ClientSettings := ⟨plainSettings, 15⟩

/-- The active key. -/
def signingKey : SigningKey := ⟨"k", publicKeyPem [7], [7], true, 0, fromSecs 9000, 0⟩

/-- An administrator, and a controller that nothing has been logged about. -/
def adminSeed : Seed where
  credentials :=
    [⟨"id-1", "admin", "s", "global-controller", none, ["admin:services"], true, 0, 0⟩,
      ⟨"id-2", "mc", "t", "meeting-controller", none, ["service.write.mh", "service.write.gc"],
        true, 0, 0⟩]
  authEvents := []
  references := by simp
  words := by unfold ScopesAreWords; decide
  idKey := by decide
  clientKey := by decide

/-- A request for a token, a second after the epoch. -/
def tokenPayload (clientId clientSecret : String) : ServiceTokenRequest :=
  ⟨none, "client_credentials", some clientId, some clientSecret, none⟩

/-- A context in which a token is issued. -/
def tokenEnv : ServiceTokenEnv :=
  ⟨fromSecs 1, none, none, .ok (some signingKey), .ok (), .ok 700, some (fromSecs 1)⟩

/-- The token that the administrator gets. -/
def adminToken : Token ServiceClaims :=
  ⟨700, some "k", ⟨"admin", 3601, 1, "admin:services", some "global-controller"⟩, [7]⟩

/-- The administrator with its token. -/
def adminCaller : Caller := ⟨[signingKey], 300, fromSecs 2, .bearer (serviceJson adminToken)⟩

/-- A request to delete the client `id-2`. -/
def deletion : AdminRequest := .delete ⟨"id-2", none, none⟩

/-- The administrator gets its token. -/
abbrev tokenHistory : AuthorityHistory :=
  [(.serviceToken (tokenPayload "admin" "s") tokenEnv,
    .serviceToken (.ok ⟨adminToken, "Bearer", 3600, "admin:services"⟩))]

/-- The store with the event of that token. -/
def tokenStore : CredentialStore :=
  (adminSeed.handleServiceToken clientSettings tokenEnv (tokenPayload "admin" "s")).1

theorem run_token : (authority clientSettings adminSeed).Run tokenHistory tokenStore :=
  run_serviceToken .nil (by decide +kernel)

theorem check_adminCaller : adminCaller.check requireAdminScope = .ok adminToken.claims := by
  decide +kernel

theorem genuine_adminCaller : adminCaller.Genuine (issued tokenHistory) :=
  fun _ _ _ => List.mem_singleton_self _

theorem run_deletion : (authority clientSettings adminSeed).Run
    ((.admin adminCaller deletion, .admin (.ok (deletion.handle tokenStore).2)) :: tokenHistory)
    (deletion.handle tokenStore).1 :=
  run_admin run_token ⟨genuine_adminCaller, by simp [deletion, AdminRequest.drawn]⟩
    check_adminCaller

theorem administrator_of_run_deletion :
    ∃ h' clientSecret claims credential,
      IssuedFor clientSettings adminSeed tokenHistory h' clientSecret claims credential ∧
      adminCaller.check requireAdminScope = .ok claims ∧
      credential ∈ ((authority clientSettings adminSeed).stateAfter h').credentials ∧
      "admin:services" ∈ credential.scopes :=
  administrator_of_run run_deletion (List.suffix_refl _)

/-- If no seeded credential holds `admin:services`, no administrative request gets past its
    middleware, and the credentials stay as they were seeded. -/
theorem unadministered_of_run (hr : (authority S seed).Run h s)
    (hseed : ∀ row ∈ seed.credentials, "admin:services" ∉ row.scopes) :
    s.credentials = seed.credentials ∧
      ∀ e answer, (e, AuthorityReply.admin (.ok answer)) ∉ h := by
  suffices hall : (∀ h', h' <:+ h →
      ((authority S seed).stateAfter h').credentials = seed.credentials) ∧
      ∀ e answer, (e, AuthorityReply.admin (.ok answer)) ∉ h by
    rw [hr.eq_stateAfter]
    exact ⟨hall.1 h (List.suffix_refl _), hall.2⟩
  refine hr.invariant (I := fun h s => (∀ h', h' <:+ h →
    ((authority S seed).stateAfter h').credentials = seed.credentials) ∧
    ∀ e answer, (e, AuthorityReply.admin (.ok answer)) ∉ h) ⟨?_, by simp⟩ ?_
  · intro h' hs
    obtain rfl := List.suffix_nil.mp hs
    rfl
  · intro h s e hr hallowed hI
    have hs : s.credentials = seed.credentials := by
      rw [hr.eq_stateAfter]
      exact hI.1 h (List.suffix_refl _)
    cases authority_case (S := S) s e with
    | refused hadmin hcredentials _ =>
      refine ⟨fun h' hs' => ?_, fun e' answer hmem => ?_⟩
      · rcases List.suffix_cons_iff.mp hs' with rfl | hs'
        · rw [← (Machine.Run.cons e hr hallowed).eq_stateAfter]
          exact hcredentials.trans hs
        · exact hI.1 h' hs'
      · rcases List.mem_cons.mp hmem with heq | hmem
        · exact hadmin answer (congrArg Prod.snd heq).symm
        · exact hI.2 e' answer hmem
    | administered caller request claims answer he _ hcaller _ =>
      -- its token would be one of a seeded administrator
      subst he
      obtain ⟨h', _, credential, hissued, hmem, hscope⟩ :=
        administrator_of_caller hr hallowed.1 hcaller
      obtain ⟨_, _, _, _, hsuffix, _⟩ := hissued
      rw [hI.1 h' ((List.suffix_cons _ _).trans hsuffix)] at hmem
      exact absurd hscope (hseed credential hmem)

/-- The three services with their default scopes. -/
def serviceSeed : Seed where
  credentials :=
    [⟨"id-1", "gc", "s", "global-controller", none, ["service.write.mc", "internal:meeting-token"],
        true, 0, 0⟩,
      ⟨"id-2", "mc", "t", "meeting-controller", none, ["service.write.mh", "service.write.gc"],
        true, 0, 0⟩,
      ⟨"id-3", "mh", "u", "media-handler", none, ["service.write.mc", "service.write.gc"],
        true, 0, 0⟩]
  authEvents := []
  references := by simp
  words := by unfold ScopesAreWords; decide
  idKey := by decide
  clientKey := by decide

/-- The token that the meeting controller gets. -/
def controllerToken : Token ServiceClaims :=
  ⟨700, some "k", ⟨"mc", 3601, 1, "service.write.mh service.write.gc", some "meeting-controller"⟩,
    [7]⟩

/-- The meeting controller gets its token. -/
abbrev controllerHistory : AuthorityHistory :=
  [(.serviceToken (tokenPayload "mc" "t") tokenEnv,
    .serviceToken (.ok ⟨controllerToken, "Bearer", 3600, "service.write.mh service.write.gc"⟩))]

/-- The store after a token for the Meeting Controller. -/
def controllerStore : CredentialStore :=
  (serviceSeed.handleServiceToken clientSettings tokenEnv (tokenPayload "mc" "t")).1

theorem run_controller :
    (authority clientSettings serviceSeed).Run controllerHistory controllerStore :=
  run_serviceToken .nil (by decide +kernel)

/-- The meeting controller tries a deletion with its token. -/
def controllerCaller : Caller :=
  ⟨[signingKey], 300, fromSecs 2, .bearer (serviceJson controllerToken)⟩

theorem unadministered_of_run_refused :
    ((authority clientSettings serviceSeed).step controllerStore
        (.admin controllerCaller deletion)).1.credentials = serviceSeed.credentials ∧
      ∀ e answer, (e, AuthorityReply.admin (.ok answer)) ∉
        (.admin controllerCaller deletion, ((authority clientSettings serviceSeed).step
          controllerStore (.admin controllerCaller deletion)).2) :: controllerHistory := by
  have hgenuine : (AuthorityEvent.admin controllerCaller deletion).Genuine serviceSeed
      controllerHistory :=
    ⟨fun _ _ _ => List.mem_singleton_self _, by simp [deletion, AdminRequest.drawn]⟩
  exact unadministered_of_run (.cons _ run_controller hgenuine) (by decide)

end DarkTower.Mesh
