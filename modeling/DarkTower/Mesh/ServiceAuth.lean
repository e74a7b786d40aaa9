import DarkTower.Mesh.ClientSecrets

/-!
# Calls between the services

Each service puts a layer before its gRPC services: `GrpcAuthLayer` of the Global
Controller (`gc-service/src/grpc/auth_layer.rs`), `McAuthLayer` of the Meeting
Controllers (`mc-service/src/grpc/auth_interceptor.rs`) and `MhAuthLayer` of the Media
Handlers (`mh-service/src/grpc/auth_interceptor.rs`). A layer validates the token with
the keys of the Auth Controller, asks for a scope of its own, and for the service type
that belongs to the gRPC service called.

* `authorized_of_call`: a call that gets through was made with a token that the Auth
  Controller issued within the last 61 minutes, for a credential of the type of the
  route that held the scope then, in every history of the Auth Controller.
* `issued_before_deletion`: a deleted client still gets through with a token from before
  its deletion only.
* `default_token_authorized_iff`: the default scopes of a service open exactly the
  routes of its type.
-/

namespace DarkTower.Mesh

open DarkTower.Ac hiding MeetingTokenClaims GuestTokenClaims
open DarkTower.Common DarkTower.Lib
open DarkTower.Mc (Verifier)

/-! ## The layers -/

/-- `tonic::Status`, as far as the layers answer with it. -/
inductive GrpcStatus
  | unauthenticated (message : String)
  | permissionDenied (message : String)
deriving DecidableEq

/-- The header `authorization` of a gRPC request. -/
inductive GrpcHeader
  | missing
  | notAscii
  /-- A text that does not start with `"Bearer "`. -/
  | other
  /-- `"Bearer "` and a text that is empty, or no JWT. -/
  | malformed
  | bearer (token : Token Json)

/-- What distinguishes the layers: the scope that callers need, and the type of caller for
    the gRPC services by the start of their paths. -/
structure AuthLayer where
  requiredScope : String
  routes : List (String × String)

/-- `GrpcAuthLayer` (auth_layer.rs:65). -/
def grpcAuthLayer : AuthLayer where
  requiredScope := "service.write.gc"
  routes :=
    [("/dark_tower.internal.v1.GlobalControllerService/", "meeting-controller"),
      ("/dark_tower.internal.v1.MediaHandlerRegistryService/", "media-handler")]

/-- `McAuthLayer` (auth_interceptor.rs:62). -/
def mcAuthLayer : AuthLayer where
  requiredScope := "service.write.mc"
  routes :=
    [("/dark_tower.internal.v1.MeetingControllerService/", "global-controller"),
      ("/dark_tower.internal.v1.MediaCoordinationService/", "media-handler")]

/-- `MhAuthLayer` (auth_interceptor.rs:60). -/
def mhAuthLayer : AuthLayer where
  requiredScope := "service.write.mh"
  routes := [("/dark_tower.internal.v1.MediaHandlerService/", "meeting-controller")]

/-- The type of caller for a path, none if no gRPC service has it. -/
def AuthLayer.expectedType (L : AuthLayer) (grpcPath : String) : Option String :=
  (L.routes.find? fun route => route.1.toList.isPrefixOf grpcPath.toList).map (·.2)

/-- The status for a token that is not valid. -/
def invalidToken : GrpcStatus := .unauthenticated "Invalid token"

/-- The status for a caller that is of another type. -/
def accessDenied : GrpcStatus := .permissionDenied "Access denied"

/-- `GrpcAuthService::call`, `McAuthService::call` and `MhAuthService::call`: the claims
    that go to the inner service with the request. -/
def AuthLayer.call (L : AuthLayer) (V : Verifier) (grpcPath : String) (header : GrpcHeader) :
    Except GrpcStatus ServiceClaims :=
  match header with
  | .missing => .error invalidToken
  | .notAscii => .error invalidToken
  | .other => .error invalidToken
  | .malformed => .error invalidToken
  | .bearer token =>
    if maxJwtSizeBytes < token.size then .error invalidToken
    else
      match V.validate ServiceClaims.fromJson token with
      | .error _ => .error invalidToken
      | .ok claims =>
        if !claims.hasScope L.requiredScope then .error invalidToken
        else
          match L.expectedType grpcPath with
          | none => .error accessDenied
          | some expectedType =>
            if claims.serviceType.getD "unknown" ≠ expectedType then .error accessDenied
            else .ok claims

/-! ## What a layer lets through -/

/-- The keys that a verifier finds for a token sign no token but the issued ones. -/
def Genuine (issued : List (Token Json)) (V : Verifier) (token : Token Json) : Prop :=
  ∀ kid jwk, token.kid = some kid →
    (JwksClient.getKey V.cache V.cacheTtl V.answer V.now kid).2 = .ok jwk →
    jwk.x.bind decodePublicKeyJwk = some token.signer → token ∈ issued

section Validating

variable {γ : Type} [JwtClaims γ] {fromJson : Json → Option γ} {V : Verifier} {token : Token Json}
  {claims : γ}

theorem verifyTokenAs_eq_ok {jwk : Jwk} {now : ℕ}
    (h : verifyTokenAs fromJson token jwk now = .ok claims) :
    fromJson token.claims = some claims ∧ jwk.x.bind decodePublicKeyJwk = some token.signer ∧
      timestamp now - 60 ≤ JwtClaims.exp claims := by
  unfold verifyTokenAs at h
  split at h
  · cases h
  next read hread =>
    unfold verifyToken at h
    split_ifs at h
    split at h
    · cases h
    next x hx =>
      split at h
      · cases h
      next publicKey hkey =>
        split at h
        · cases h
        next decoded hdecode =>
          obtain rfl := Except.ok.inj h
          unfold decode at hdecode
          split_ifs at hdecode with hsigned
          obtain rfl := Option.some.inj hdecode
          refine ⟨hread, ?_, hsigned.2⟩
          rw [hx, Option.bind_some, hkey, ← hsigned.1]
          rfl

/-- A validated token has readable claims, a key that the verifier found, and is neither too
    long nor expired. -/
theorem validate_eq_ok (h : V.validate fromJson token = .ok claims) :
    fromJson token.claims = some claims ∧ token.size ≤ maxJwtSizeBytes ∧
      timestamp V.now - 60 ≤ JwtClaims.exp claims ∧
      ∃ kid jwk, token.kid = some kid ∧
        (JwksClient.getKey V.cache V.cacheTtl V.answer V.now kid).2 = .ok jwk ∧
        jwk.x.bind decodePublicKeyJwk = some token.signer := by
  unfold Mc.Verifier.validate JwtValidator.validateAs at h
  split at h
  · cases h
  next kid hkid =>
    split at h
    · cases h
    next cache jwk hget =>
      split at h
      · cases h
      next verified hverify =>
        split at h
        · cases h
        · obtain rfl := Except.ok.inj h
          obtain ⟨hread, hsigned, hexp⟩ := verifyTokenAs_eq_ok hverify
          obtain ⟨hsize, hnamed, _⟩ := extractKid_eq_ok.mp hkid
          refine ⟨hread, hsize, hexp, kid, jwk, hnamed, ?_, hsigned⟩
          rw [hget]

/-- A token that a verifier accepts was issued. -/
theorem mem_issued_of_validate {issued : List (Token Json)} (hgenuine : Genuine issued V token)
    (h : V.validate fromJson token = .ok claims) : token ∈ issued := by
  obtain ⟨_, _, _, kid, jwk, hkid, hget, hsigned⟩ := validate_eq_ok h
  exact hgenuine kid jwk hkid hget hsigned

end Validating

variable {L : AuthLayer} {V : Verifier} {grpcPath : String}

theorem call_eq_ok {header : GrpcHeader} {claims : ServiceClaims}
    (h : L.call V grpcPath header = .ok claims) :
    ∃ token, header = .bearer token ∧ V.validate ServiceClaims.fromJson token = .ok claims ∧
      claims.hasScope L.requiredScope = true ∧
      L.expectedType grpcPath = some (claims.serviceType.getD "unknown") := by
  unfold AuthLayer.call at h
  split at h
  · cases h
  · cases h
  · cases h
  · cases h
  next token =>
    split at h
    · cases h
    split at h
    · cases h
    next validated hvalid =>
      split at h
      · cases h
      next hscope =>
        split at h
        · cases h
        next expectedType hroute =>
          split at h
          · cases h
          next htype =>
            obtain rfl := Except.ok.inj h
            rw [Bool.not_eq_true, Bool.not_eq_false'] at hscope
            rw [ne_eq, not_not] at htype
            exact ⟨token, rfl, hvalid, hscope, htype ▸ hroute⟩

variable {S : ClientSettings} {seed : Seed} {h : AuthorityHistory} {s : CredentialStore}

/-- A call that gets through was issued a token, and is not older than 61 minutes. -/
theorem issuedFor_of_call (hr : (authority S seed).Run h s) {token : Token Json}
    (hgenuine : Genuine (issued h) V token) {claims : ServiceClaims}
    (hcall : L.call V grpcPath (.bearer token) = .ok claims) :
    (∃ h' clientSecret credential, IssuedFor S seed h h' clientSecret claims credential) ∧
      timestamp V.now ≤ claims.iat + 3660 := by
  obtain ⟨token', htoken, hvalid, _⟩ := call_eq_ok hcall
  obtain rfl := GrpcHeader.bearer.inj htoken
  obtain ⟨hread, _, hexp, _⟩ := validate_eq_ok hvalid
  obtain ⟨h', clientSecret, credential, hissued⟩ :=
    origin_of_serviceClaims hr (mem_issued_of_validate hgenuine hvalid) hread
  refine ⟨⟨h', clientSecret, credential, hissued⟩, ?_⟩
  obtain ⟨_, _, _, _, _, _, _, hgranted⟩ := hissued
  obtain ⟨hiat, hexp'⟩ := hgranted.dated
  have hlife : JwtClaims.exp claims = claims.iat + 3600 := by
    rw [hiat]
    exact hexp'
  omega

/-- The credential of a token that gets through held the scope of the layer, and is of the type
    of the route. -/
theorem credential_of_call (hr : (authority S seed).Run h s) {token : Token Json}
    {claims : ServiceClaims} (hcall : L.call V grpcPath (.bearer token) = .ok claims)
    {h' : AuthorityHistory} {clientSecret : String} {credential : ServiceCredential}
    (hissued : IssuedFor S seed h h' clientSecret claims credential) :
    credential ∈ ((authority S seed).stateAfter h').credentials ∧
      L.requiredScope ∈ credential.scopes ∧
      L.expectedType grpcPath = some credential.serviceType := by
  obtain ⟨_, _, _, hscope, hroute⟩ := call_eq_ok hcall
  obtain ⟨hmem, hsubset⟩ := scopes_of_issuedFor hr hissued
  refine ⟨hmem, hsubset (hasScope_iff.mp hscope), ?_⟩
  obtain ⟨_, _, _, _, _, _, _, hgranted⟩ := hissued
  rw [hroute, hgranted.serviceType, Option.getD_some]

/-- A call that gets through carries a token that was issued within the last 61 minutes, for
    a credential of the type of the route that held the scope of the layer then. -/
theorem authorized_of_call (hr : (authority S seed).Run h s) {token : Token Json}
    (hgenuine : Genuine (issued h) V token) {claims : ServiceClaims}
    (hcall : L.call V grpcPath (.bearer token) = .ok claims) :
    ∃ h' clientSecret credential, IssuedFor S seed h h' clientSecret claims credential ∧
      credential ∈ ((authority S seed).stateAfter h').credentials ∧
      L.requiredScope ∈ credential.scopes ∧
      L.expectedType grpcPath = some credential.serviceType ∧
      timestamp V.now ≤ claims.iat + 3660 := by
  obtain ⟨⟨h', clientSecret, credential, hissued⟩, hlife⟩ := issuedFor_of_call hr hgenuine hcall
  obtain ⟨hmem, hscope, hroute⟩ := credential_of_call hr hcall hissued
  exact ⟨h', clientSecret, credential, hissued, hmem, hscope, hroute, hlife⟩

/-- The verifier of the concrete calls, with the key of the Auth Controller. -/
def sampleVerifier : Verifier where
  clockSkewSeconds := 300
  cache := none
  cacheTtl := fromSecs 300
  answer := some [⟨"OKP", "k", some "Ed25519", some (Base64.urlSafeNoPad.encode [7]),
    some "EdDSA", some "sig"⟩]
  now := fromSecs 3000

theorem call_controllerToken : grpcAuthLayer.call sampleVerifier
    "/dark_tower.internal.v1.GlobalControllerService/RegisterMc"
    (.bearer (serviceJson controllerToken)) = .ok controllerToken.claims := by decide +kernel

/-- The meeting controller registers with the Global Controller, 50 minutes after it got its
    token. -/
theorem authorized_of_call_controller :
    ∃ h' clientSecret credential, IssuedFor clientSettings serviceSeed controllerHistory h'
        clientSecret controllerToken.claims credential ∧
      credential ∈ ((authority clientSettings serviceSeed).stateAfter h').credentials ∧
      grpcAuthLayer.requiredScope ∈ credential.scopes ∧
      grpcAuthLayer.expectedType "/dark_tower.internal.v1.GlobalControllerService/RegisterMc" =
        some credential.serviceType ∧
      timestamp sampleVerifier.now ≤ controllerToken.claims.iat + 3660 := by
  exact authorized_of_call run_controller (fun _ _ _ _ _ => List.mem_singleton_self _)
    call_controllerToken

/-! ## Deleted clients -/

/-- A call that gets through for a deleted client carries a token from before the deletion,
    and no older than 61 minutes. -/
theorem issued_before_deletion (hr : (authority S seed).Run h s) {caller : Caller}
    {request : DeleteClientRequest} {h₀ : AuthorityHistory} {row : ServiceCredential}
    (hdeleted : (.admin caller (.delete request), .admin (.ok (.deleted (.ok ())))) :: h₀ <:+ h)
    (hrow : row ∈ ((authority S seed).stateAfter h₀).credentials)
    (hid : row.credentialId = request.id) {token : Token Json}
    (hgenuine : Genuine (issued h) V token) {claims : ServiceClaims}
    (hcall : L.call V grpcPath (.bearer token) = .ok claims) (hsub : claims.sub = row.clientId) :
    (∃ h' clientSecret credential, IssuedFor S seed h₀ h' clientSecret claims credential) ∧
      timestamp V.now ≤ claims.iat + 3660 := by
  obtain ⟨⟨h', clientSecret, credential, hissued⟩, hlife⟩ := issuedFor_of_call hr hgenuine hcall
  refine ⟨⟨h', clientSecret, credential, ?_⟩, hlife⟩
  obtain ⟨payload, env, response, clientId, hsuffix, hrest⟩ := hissued
  refine ⟨payload, env, response, clientId, ?_, hrest⟩
  -- the issue is before the deletion or after it
  rcases List.suffix_or_suffix_of_suffix hsuffix hdeleted with hbefore | hafter
  · rcases List.suffix_cons_iff.mp hbefore with heq | hbefore
    · cases congrArg (·.head?) heq
    · exact hbefore
  · rcases List.suffix_cons_iff.mp hafter with heq | hafter
    · cases congrArg (·.head?) heq
    · obtain ⟨hused, habsent⟩ := absent_of_deletion hr hdeleted hrow hid
      exact absurd hsub (sub_ne_of_absent hr hafter hused habsent
        ⟨payload, env, response, clientId, hsuffix, hrest⟩)

/-- The event of a token request is not logged. -/
def unloggedEnv : ServiceTokenEnv := { tokenEnv with loggedAt := none }

/-- `"mc"` and the administrator get tokens. -/
abbrev unloggedHistory : AuthorityHistory :=
  [(.serviceToken (tokenPayload "admin" "s") tokenEnv,
      .serviceToken (.ok ⟨adminToken, "Bearer", 3600, "admin:services"⟩)),
    (.serviceToken (tokenPayload "mc" "t") unloggedEnv,
      .serviceToken (.ok ⟨controllerToken, "Bearer", 3600, "service.write.mh service.write.gc"⟩))]

/-- The store after two tokens, the first of them not logged. -/
def unloggedStore : CredentialStore :=
  ((adminSeed.handleServiceToken clientSettings unloggedEnv
    (tokenPayload "mc" "t")).1.handleServiceToken clientSettings tokenEnv
      (tokenPayload "admin" "s")).1

theorem run_unlogged : (authority clientSettings adminSeed).Run unloggedHistory unloggedStore :=
  run_serviceToken (run_serviceToken .nil (by decide +kernel)) (by decide +kernel)

/-- `"mc"` calls after its deletion. -/
theorem issued_before_deletion_mc :
    (∃ h' clientSecret credential, IssuedFor clientSettings adminSeed unloggedHistory h'
        clientSecret controllerToken.claims credential) ∧
      timestamp sampleVerifier.now ≤ controllerToken.claims.iat + 3660 := by
  have hok : (handleDeleteClient unloggedStore ⟨"id-2", none, none⟩).2 = .ok () := by
    decide +kernel
  have hgenuine : (AuthorityEvent.admin adminCaller deletion).Genuine adminSeed unloggedHistory :=
    ⟨fun _ _ _ => List.mem_cons_self, by simp [deletion, AdminRequest.drawn]⟩
  have hrun := run_admin run_unlogged hgenuine check_adminCaller
  change (authority clientSettings adminSeed).Run ((_, .admin (.ok (.deleted
    (handleDeleteClient unloggedStore ⟨"id-2", none, none⟩).2))) :: _) _ at hrun
  rw [hok] at hrun
  have hrow : (⟨"id-2", "mc", "t", "meeting-controller", none,
      ["service.write.mh", "service.write.gc"], true, 0, 0⟩ : ServiceCredential) ∈
      ((authority clientSettings adminSeed).stateAfter unloggedHistory).credentials := by
    rw [← run_unlogged.eq_stateAfter]
    decide +kernel
  exact issued_before_deletion hrun (List.suffix_refl _) hrow rfl
    (fun _ _ _ _ _ => List.mem_cons_of_mem _ (List.mem_singleton_self _)) call_controllerToken rfl

/-! ## Default scopes -/

theorem fromStr_eq_ok {text : String} {serviceType : ServiceType}
    (h : ServiceType.fromStr text = .ok serviceType) :
    (serviceType = .globalController ∧ text = "global-controller") ∨
      (serviceType = .meetingController ∧ text = "meeting-controller") ∨
      (serviceType = .mediaHandler ∧ text = "media-handler") := by
  unfold ServiceType.fromStr at h
  split_ifs at h with hgc hmc hmh
  · exact .inl ⟨(Except.ok.inj h).symm, hgc⟩
  · exact .inr (.inl ⟨(Except.ok.inj h).symm, hmc⟩)
  · exact .inr (.inr ⟨(Except.ok.inj h).symm, hmh⟩)

/-- The default scopes of a service hold the scope of every layer with a route for it. -/
theorem requiredScope_mem_defaultScopes {text : String} {serviceType : ServiceType}
    (htype : ServiceType.fromStr text = .ok serviceType)
    (hL : L ∈ [grpcAuthLayer, mcAuthLayer, mhAuthLayer])
    (hroute : L.expectedType grpcPath = some text) :
    L.requiredScope ∈ serviceType.defaultScopes := by
  obtain ⟨route, hfind, rfl⟩ := Option.map_eq_some_iff.mp hroute
  have hmem := List.mem_of_find?_eq_some hfind
  have hall : ∀ L ∈ [grpcAuthLayer, mcAuthLayer, mhAuthLayer], ∀ route ∈ L.routes,
      (route.2 = "global-controller" → L.requiredScope ∈
        ServiceType.globalController.defaultScopes) ∧
      (route.2 = "meeting-controller" → L.requiredScope ∈
        ServiceType.meetingController.defaultScopes) ∧
      (route.2 = "media-handler" → L.requiredScope ∈ ServiceType.mediaHandler.defaultScopes) := by
    decide
  obtain ⟨hgc, hmc, hmh⟩ := hall L hL route hmem
  rcases fromStr_eq_ok htype with ⟨rfl, htext⟩ | ⟨rfl, htext⟩ | ⟨rfl, htext⟩
  · exact hgc htext
  · exact hmc htext
  · exact hmh htext

/-- A service with its default scopes that asks for no fewer gets through, with a token that
    validates, exactly where its type belongs. -/
theorem default_token_authorized_iff (hr : (authority S seed).Run h s)
    {payload : ServiceTokenRequest} {env : ServiceTokenEnv} {response : TokenResponse}
    {h' : AuthorityHistory}
    (hissued : (.serviceToken payload env, .serviceToken (.ok response)) :: h' <:+ h)
    (hscope : payload.scope = none) {credential : ServiceCredential} {serviceType : ServiceType}
    (hfound : ((authority S seed).stateAfter h').credentials.find? (fun row =>
      row.clientId = response.accessToken.claims.sub) = some credential)
    (htype : ServiceType.fromStr credential.serviceType = .ok serviceType)
    (hdefault : credential.scopes = serviceType.defaultScopes)
    (hvalid : V.validate ServiceClaims.fromJson (serviceJson response.accessToken) =
      .ok response.accessToken.claims)
    (hL : L ∈ [grpcAuthLayer, mcAuthLayer, mhAuthLayer]) :
    L.call V grpcPath (.bearer (serviceJson response.accessToken)) =
        .ok response.accessToken.claims ↔
      L.expectedType grpcPath = some credential.serviceType := by
  obtain ⟨clientId, clientSecret, credential', hextract, hgranted⟩ := granted_of_handleServiceToken
    (AuthorityReply.serviceToken.inj (hr.answer_of_suffix hissued).1).symm
  change Granted _ ((authority S seed).stateAfter h').credentials _ _ _ _ _ at hgranted
  obtain rfl := Option.some.inj (hfound.symm.trans hgranted.found)
  constructor
  · intro hcall
    obtain ⟨_, _, _, _, hroute⟩ := call_eq_ok hcall
    rw [hroute, hgranted.serviceType, Option.getD_some]
  · intro hroute
    have hrequired := requiredScope_mem_defaultScopes htype hL hroute
    have hhas : response.accessToken.claims.hasScope L.requiredScope = true := by
      obtain ⟨scopes, hselect, hclaim⟩ := hgranted.scopes
      rw [hscope] at hselect
      obtain rfl := Except.ok.inj hselect
      rw [hasScope_iff, tokenScopes, hclaim, hdefault,
        Text.splitWhitespace_intercalate (isWord_defaultScopes serviceType)]
      exact hrequired
    have hsize := (validate_eq_ok hvalid).2.1
    simp only [AuthLayer.call, if_neg (not_lt.mpr hsize), hvalid, hhas, hroute,
      hgranted.serviceType, Option.getD_some, Bool.not_true, Bool.false_eq_true, if_false, ne_eq,
      not_true_eq_false]

theorem default_token_authorized_iff_controller :
    mhAuthLayer.call sampleVerifier "/dark_tower.internal.v1.MediaHandlerService/RegisterMeeting"
        (.bearer (serviceJson controllerToken)) = .ok controllerToken.claims ↔
      mhAuthLayer.expectedType "/dark_tower.internal.v1.MediaHandlerService/RegisterMeeting" =
        some "meeting-controller" := by
  have hfound : ((authority clientSettings serviceSeed).stateAfter []).credentials.find? (fun row =>
      row.clientId = "mc") = some ⟨"id-2", "mc", "t", "meeting-controller", none,
        ["service.write.mh", "service.write.gc"], true, 0, 0⟩ := by decide
  exact default_token_authorized_iff run_controller (List.suffix_refl _) rfl hfound
    (show ServiceType.fromStr _ = .ok .meetingController by decide) rfl (by decide +kernel)
    (by simp)

end DarkTower.Mesh
