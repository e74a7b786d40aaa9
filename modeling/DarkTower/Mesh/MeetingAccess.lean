import DarkTower.Gc.MeetingSettings
import DarkTower.Mesh.ServiceAuth

/-!
# Who gets into a meeting

A user asks the Global Controller for a meeting (`join_meeting`), which checks the row of
the meeting and asks the Auth Controller for a token; the user takes it to a Meeting
Controller (`mc-service/src/webtransport/connection.rs`). Meanwhile the settings of the
meeting may be updated, clients of the Auth Controller may be registered, changed or
deleted, and every token may be used again and by everyone.

The handlers of the Global Controller ask with its own token (`AcClient`), and nobody else
has it.

* `kind_of_run`: no issued token is accepted as two kinds of token.
* `lookup_of_join`: if no other client ever holds `internal:meeting-token`, whoever a
  Meeting Controller lets into a meeting presents the token that a call of `join_meeting`
  for the meeting and the user was answered with, at most 16 minutes before: the lookup of
  the call found the meeting scheduled or active, the user in its organization or external
  users allowed, and the user is the host exactly if it created the meeting.
-/

namespace DarkTower.Mc

open DarkTower.Common DarkTower.Lib

/-- `MAX_PARTICIPANT_NAME_LEN` (connection.rs:36). -/
def maxParticipantNameLen : ℕ := 256

/-- `JoinRequest`, as far as it is read; `joinToken` is none if the text is no JWT. -/
structure JoinRequest where
  meetingId : String
  participantName : String
  joinToken : Option (Token Json)

/-- The first message of a client. -/
inductive ClientMessage
  | joinRequest (request : JoinRequest)
  | other

/-- `JoinConnection` for the controller, without its channels. -/
structure JoinConnection where
  meetingId : String
  connectionId : String
  userId : String
  participantId : String
  isHost : Bool
deriving DecidableEq

/-- The codes of `signaling::v1::ErrorCode` that a join is refused with. -/
inductive ErrorCode
  | invalidRequest
  | unauthorized
deriving DecidableEq

/-- A refused client: the error message that it is sent, and the result of the task. -/
structure JoinRefusal where
  sent : Option (ErrorCode × String)
  error : McError
deriving DecidableEq

/-- `handle_connection` (connection.rs:57) from the first message to the request to the
    controller (steps 3 to 7); `message` is what `read_framed_message` and `decode` give. -/
def joinConnection (V : Verifier) (connectionId participantId : String)
    (message : Except McError ClientMessage) : Except JoinRefusal JoinConnection :=
  match message with
  | .error e => .error ⟨none, e⟩
  | .ok .other =>
    .error ⟨some (.invalidRequest, "First message must be JoinRequest"),
      .internal "Expected JoinRequest as first message"⟩
  | .ok (.joinRequest request) =>
    if maxParticipantNameLen < request.participantName.utf8ByteSize then
      .error ⟨some (.invalidRequest, "Participant name too long"),
        .internal "Participant name too long"⟩
    else
      match request.joinToken with
      | none => .error ⟨some (.unauthorized, "Invalid or expired token"),
          .jwtValidation "The access token is invalid or expired"⟩
      | some token =>
        match V.validateMeetingToken token with
        | .error e => .error ⟨some (.unauthorized, "Invalid or expired token"), e⟩
        | .ok claims =>
          if claims.meetingId ≠ request.meetingId then
            .error ⟨some (.unauthorized, "Invalid or expired token"),
              .jwtValidation "Token meeting_id mismatch"⟩
          else
            .ok ⟨request.meetingId, connectionId, claims.sub, participantId,
              claims.role = .host⟩

theorem joinConnection_eq_ok {V : Verifier} {connectionId participantId : String}
    {message : Except McError ClientMessage} {joined : JoinConnection}
    (hok : joinConnection V connectionId participantId message = .ok joined) :
    ∃ request token claims, message = .ok (.joinRequest request) ∧
      request.joinToken = some token ∧ V.validateMeetingToken token = .ok claims ∧
      joined.meetingId = claims.meetingId ∧ joined.userId = claims.sub ∧
      (joined.isHost = true ↔ claims.role = .host) := by
  unfold joinConnection at hok
  split at hok
  · cases hok
  · cases hok
  next request =>
    split_ifs at hok
    split at hok
    · cases hok
    next token htoken =>
      split at hok
      · cases hok
      next claims hclaims =>
        split_ifs at hok with hmeeting
        rw [ne_eq, not_not] at hmeeting
        obtain rfl := Except.ok.inj hok
        exact ⟨request, token, claims, rfl, htoken, hclaims, hmeeting.symm, rfl,
          decide_eq_true_iff⟩

/-- The converse: a valid token for the meeting lets the client in. -/
theorem joinConnection_of_valid {V : Verifier} {request : JoinRequest} {token : Token Json}
    {claims : Common.MeetingTokenClaims} (connectionId participantId : String)
    (hname : request.participantName.utf8ByteSize ≤ maxParticipantNameLen)
    (htoken : request.joinToken = some token) (hvalid : V.validateMeetingToken token = .ok claims)
    (hmeeting : claims.meetingId = request.meetingId) :
    joinConnection V connectionId participantId (.ok (.joinRequest request)) =
      .ok ⟨request.meetingId, connectionId, claims.sub, participantId, claims.role = .host⟩ := by
  simp only [joinConnection, if_neg (not_lt.mpr hname), htoken, hvalid, hmeeting, ne_eq,
    not_true_eq_false, if_false]

theorem validateMeetingToken_eq_ok {V : Verifier} {token : Token Json}
    {claims : Common.MeetingTokenClaims} (hok : V.validateMeetingToken token = .ok claims) :
    V.validate MeetingTokenClaims.fromJson token = .ok claims := by
  unfold Verifier.validateMeetingToken at hok
  split at hok
  · cases hok
  next found hfound =>
    split_ifs at hok
    rw [hfound, Except.ok.inj hok]

theorem validateGuestToken_eq_ok {V : Verifier} {token : Token Json}
    {claims : Common.GuestTokenClaims} (hok : V.validateGuestToken token = .ok claims) :
    V.validate GuestTokenClaims.fromJson token = .ok claims := by
  unfold Verifier.validateGuestToken at hok
  split at hok
  · cases hok
  next found hfound =>
    split at hok
    · cases hok
    · rw [hfound, Except.ok.inj hok]

end DarkTower.Mc

namespace DarkTower.Mesh

open DarkTower.Ac hiding MeetingTokenClaims GuestTokenClaims
open DarkTower.Common DarkTower.Lib DarkTower.Common.MeetingToken
open DarkTower.Mc (Verifier TokenRequest)
open DarkTower.Gc

variable {S : ClientSettings} {seed : Seed} {V : Verifier} {token : Token Json}

/-! ## Kinds of tokens -/

/-- The kinds of tokens that services accept. -/
inductive TokenKind
  | service
  | user
  | meeting
  | guest
deriving DecidableEq

/-- The validator of a kind. -/
def TokenKind.accepts (V : Verifier) (token : Token Json) : TokenKind → Bool
  | .service => (V.validate ServiceClaims.fromJson token).isOk
  | .user => (V.validate UserClaims.fromJson token).isOk
  | .meeting => (V.validateMeetingToken token).isOk
  | .guest => (V.validateGuestToken token).isOk

/-- The claims can be read as the claims of a kind. -/
def TokenKind.reads (claims : Json) : TokenKind → Bool
  | .service => (ServiceClaims.fromJson claims).isSome
  | .user => (UserClaims.fromJson claims).isSome
  | .meeting => (Common.MeetingTokenClaims.fromJson claims).isSome
  | .guest => (Common.GuestTokenClaims.fromJson claims).isSome

theorem exists_of_isOk {ε α : Type} {x : Except ε α} (h : x.isOk = true) : ∃ a, x = .ok a := by
  cases x with
  | error e => cases h
  | ok a => exact ⟨a, rfl⟩

/-- What is accepted as a kind can be read as its claims, and is signed with a key that the
    verifier found. -/
theorem accepts_spec {issued : List (Token Json)} {kind : TokenKind}
    (hgenuine : Genuine issued V token) (h : kind.accepts V token = true) :
    kind.reads token.claims = true ∧ token ∈ issued := by
  have hvalid : ∀ {γ : Type} [JwtClaims γ] {fromJson : Json → Option γ} {claims : γ},
      V.validate fromJson token = .ok claims →
        (fromJson token.claims).isSome = true ∧ token ∈ issued := by
    intro γ _ fromJson claims hok
    rw [(validate_eq_ok hok).1]
    exact ⟨rfl, mem_issued_of_validate hgenuine hok⟩
  cases kind with
  | service =>
    obtain ⟨claims, hok⟩ := exists_of_isOk h
    exact hvalid hok
  | user =>
    obtain ⟨claims, hok⟩ := exists_of_isOk h
    exact hvalid hok
  | meeting =>
    obtain ⟨claims, hok⟩ := exists_of_isOk h
    exact hvalid (Mc.validateMeetingToken_eq_ok hok)
  | guest =>
    obtain ⟨claims, hok⟩ := exists_of_isOk h
    exact hvalid (Mc.validateGuestToken_eq_ok hok)

/-- Issued claims can be read as one kind only. -/
theorem reads_of_origin {h : AuthorityHistory} (horigin : Origin S seed h token) :
    ∃ kind, ∀ kind' : TokenKind, kind'.reads token.claims = true → kind' = kind := by
  cases horigin with
  | service payload env response h' hsuffix htoken =>
    refine ⟨.service, fun kind' hreads => ?_⟩
    rw [htoken, serviceJson] at hreads
    cases kind' with
    | service => rfl
    | user => simp [TokenKind.reads, userClaims_service] at hreads
    | meeting => simp [TokenKind.reads, meetingClaims_service] at hreads
    | guest => simp [TokenKind.reads, guestClaims_service] at hreads
  | internal caller request ctx response claims h' hsuffix hcaller hgenuine hok htoken =>
    cases request with
    | meeting payload =>
      obtain ⟨key, _, hsigned⟩ := handleMeetingToken_eq_ok hok
      refine ⟨.meeting, fun kind' hreads => ?_⟩
      rw [htoken, hsigned, signJwt] at hreads
      cases kind' with
      | service => simp [TokenKind.reads, Mc.serviceClaims_meeting] at hreads
      | user => simp [TokenKind.reads, Mc.userClaims_meeting] at hreads
      | meeting => rfl
      | guest => simp [TokenKind.reads, Mc.guestClaims_meeting] at hreads
    | guest payload =>
      obtain ⟨key, _, hsigned⟩ := handleGuestToken_eq_ok hok
      refine ⟨.guest, fun kind' hreads => ?_⟩
      rw [htoken, hsigned, signJwt] at hreads
      have hmeeting := Mc.meetingClaims_guest
        (guestTokenClaims payload (min payload.ttlSeconds maxTokenTtlSeconds) ctx) rfl
      cases kind' with
      | service => simp [TokenKind.reads, Mc.serviceClaims_guest] at hreads
      | user => simp [TokenKind.reads, Mc.userClaims_guest] at hreads
      | meeting => simp [TokenKind.reads, hmeeting] at hreads
      | guest => rfl
  | user claims key size htoken =>
    refine ⟨.user, fun kind' hreads => ?_⟩
    rw [htoken, signJwt] at hreads
    cases kind' with
    | service => simp [TokenKind.reads, serviceClaims_user] at hreads
    | user => rfl
    | meeting => simp [TokenKind.reads, meetingClaims_user] at hreads
    | guest => simp [TokenKind.reads, guestClaims_user] at hreads

/-- No token is accepted as two kinds, by whatever services and at whatever times. -/
theorem kind_of_run {h : AuthorityHistory} {s : CredentialStore}
    (hr : (authority S seed).Run h s) {V' : Verifier} (hgenuine : Genuine (issued h) V token)
    (hgenuine' : Genuine (issued h) V' token) {kind kind' : TokenKind}
    (haccepts : kind.accepts V token = true) (haccepts' : kind'.accepts V' token = true) :
    kind = kind' := by
  obtain ⟨hreads, hissued⟩ := accepts_spec hgenuine haccepts
  obtain ⟨hreads', _⟩ := accepts_spec hgenuine' haccepts'
  obtain ⟨only, honly⟩ := reads_of_origin (origin_of_run hr hissued)
  rw [honly kind hreads, honly kind' hreads']

theorem kind_of_run_controller :
    TokenKind.user.accepts sampleVerifier (serviceJson controllerToken) ≠ true := by
  have haccepts : TokenKind.service.accepts sampleVerifier (serviceJson controllerToken) =
      true := by decide +kernel
  intro huser
  cases kind_of_run run_controller (fun _ _ _ _ _ => List.mem_singleton_self _)
    (fun _ _ _ _ _ => List.mem_singleton_self _) haccepts huser

/-! ## Meeting tokens -/

/-- The claims that a meeting token is read as are those of its request. -/
theorem meetingClaims_meeting {payload : MeetingTokenRequest} {ctx : SigningContext} {ttl : ℕ}
    (httl : ttl ≤ 900) {claims : Common.MeetingTokenClaims}
    (hread : Common.MeetingTokenClaims.fromJson (meetingTokenClaims payload ttl ctx).toJson =
      some claims) :
    Mc.SameMeetingFields (meetingTokenClaims payload ttl ctx) claims := by
  rcases Mc.read_meeting payload ctx httl with ⟨_, hnone⟩ | ⟨_, found, hsame, hfound⟩
  · cases hnone.symm.trans hread
  · exact Option.some.inj (hfound.symm.trans hread) ▸ hsame

theorem handleMeetingToken_scope {claims : ServiceClaims} {payload : MeetingTokenRequest}
    {ctx : SigningContext} {response : InternalTokenResponse}
    (hok : handleMeetingToken claims payload ctx = .ok response) :
    requiredScope ∈ tokenScopes claims := by
  unfold handleMeetingToken checkScope at hok
  split at hok
  · cases hok
  next hscope =>
    split_ifs at hscope with hmem
    exact hmem

/-- The request that issued a meeting token with some claims. -/
structure IssuedMeeting (h h' : AuthorityHistory) (caller : Caller) (service : ServiceClaims)
    (payload : MeetingTokenRequest) (ctx : SigningContext) (token : Token Json)
    (claims : Common.MeetingTokenClaims) : Prop where
  suffix : ∃ response, response.token = token ∧
    (.internalToken caller (.meeting payload) ctx, .internalToken (.ok response)) :: h' <:+ h
  checked : caller.check requireServiceAuth = .ok service
  genuine : caller.Genuine (issued h')
  scope : requiredScope ∈ tokenScopes service
  sub : claims.sub = payload.subjectUserId
  meetingId : claims.meetingId = payload.meetingId
  role : claims.role.name = payload.role.asStr
  exp : claims.exp ≤ timestamp ctx.now + 900

/-- A meeting token that a service accepts was issued by the internal endpoint. -/
theorem issuedMeeting_of_validate {h : AuthorityHistory} {s : CredentialStore}
    (hr : (authority S seed).Run h s) (hgenuine : Genuine (issued h) V token)
    {claims : Common.MeetingTokenClaims} (hok : V.validateMeetingToken token = .ok claims) :
    ∃ h' caller service payload ctx, IssuedMeeting h h' caller service payload ctx token claims ∧
      timestamp V.now ≤ timestamp ctx.now + 960 := by
  have hvalid := Mc.validateMeetingToken_eq_ok hok
  obtain ⟨hread, _, hexp, _⟩ := validate_eq_ok hvalid
  cases origin_of_run hr (mem_issued_of_validate hgenuine hvalid) with
  | service payload env response h' hsuffix htoken =>
    rw [htoken, serviceJson, meetingClaims_service] at hread
    cases hread
  | user claims' key size htoken =>
    rw [htoken, signJwt, meetingClaims_user] at hread
    cases hread
  | internal caller request ctx response service h' hsuffix hcaller hgenuine' hhandle htoken =>
    cases request with
    | guest payload =>
      obtain ⟨key, _, hsigned⟩ := handleGuestToken_eq_ok hhandle
      rw [htoken, hsigned, signJwt, Mc.meetingClaims_guest _ rfl] at hread
      cases hread
    | meeting payload =>
      obtain ⟨key, _, hsigned⟩ := handleMeetingToken_eq_ok hhandle
      rw [htoken, hsigned, signJwt] at hread
      have hresponse : ∃ response, response.token = token ∧
        (.internalToken caller (.meeting payload) ctx, .internalToken (.ok response)) :: h' <:+ h :=
        ⟨response, htoken.symm, hsuffix⟩
      have httl : min payload.ttlSeconds maxTokenTtlSeconds ≤ 900 := Nat.min_le_right _ _
      have hsame := meetingClaims_meeting httl hread
      have hends : claims.exp ≤ timestamp ctx.now + 900 := by
        rw [hsame.exp]
        change timestamp ctx.now + _ ≤ _
        omega
      refine ⟨h', caller, service, payload, ctx, ⟨hresponse, hcaller, hgenuine',
        handleMeetingToken_scope hhandle, hsame.sub, hsame.meetingId, hsame.role, hends⟩, ?_⟩
      change timestamp V.now - 60 ≤ claims.exp at hexp
      omega

/-! ## The services together -/

/-- The Global Controllers, with the calls that are about to ask for a token, and the Auth
    Controller. -/
structure AccessSystem where
  gc : SettingsSystem
  /-- The handlers that have passed their checks and have not asked for their token. -/
  asking : AList fun _ : ℕ => TokenRequest
  store : CredentialStore

/-- A step of a call for a meeting token, or of one of the services. -/
inductive AccessEvent
  | settings (e : SettingsEvent)
  /-- `join_meeting` reads the meetings, in the order `rows`. -/
  | join (call : ℕ) (rows : List MeetingRow) (claims : UserClaims) (code : String)
  | guest (call : ℕ) (rows : List MeetingRow) (code : String) (request : GuestJoinRequest)
      (guestId : Option String)
  /-- A handler fails: no controller is assigned, or the Auth Controller is not reached. -/
  | giveUp (call : ℕ)
  /-- A handler asks the Auth Controller. -/
  | ask (call : ℕ) (caller : Caller) (ctx : SigningContext)
  /-- A request to the Auth Controller from elsewhere. -/
  | authority (e : AuthorityEvent)

/-- The answer to an event. -/
inductive AccessReply
  | none
  | settings (reply : SettingsReply)
  | refused (e : GcError)
  | asked (request : TokenRequest) (reply : AuthorityReply)
  | authority (reply : AuthorityReply)

/-- The events so far with their answers, the last one first. -/
abbrev AccessHistory := List (AccessEvent × AccessReply)

/-- A handler of the Global Controller after its checks. -/
def AccessSystem.check (s : AccessSystem) (call : ℕ) (checked : Except GcError TokenRequest) :
    AccessSystem × AccessReply :=
  if call ∈ s.asking then (s, .none)
  else
    match checked with
    | .error e => (s, .refused e)
    | .ok request => ({ s with asking := s.asking.insert call request }, .none)

/-- A call is checked, it asks for its token, or a service does something else. -/
def AccessSystem.step (parseUuid : String → Option String) (S : ClientSettings)
    (s : AccessSystem) : AccessEvent → AccessSystem × AccessReply
  | .settings e =>
    ({ s with gc := (s.gc.step parseUuid e).1 }, .settings (s.gc.step parseUuid e).2)
  | .join call rows claims code =>
    s.check call ((joinMeeting parseUuid rows claims code).map .meeting)
  | .guest call rows code request guestId =>
    s.check call ((getGuestToken rows code request guestId).map .guest)
  | .giveUp call => ({ s with asking := s.asking.erase call }, .none)
  | .ask call caller ctx =>
    match s.asking.lookup call with
    | none => (s, .none)
    | some request =>
      ({ s with
          asking := s.asking.erase call
          store := (authorityStep S s.store (.internalToken caller request ctx)).1 },
        .asked request (authorityStep S s.store (.internalToken caller request ctx)).2)
  | .authority e =>
    ({ s with store := (authorityStep S s.store e).1 }, .authority (authorityStep S s.store e).2)

/-- The request of a step to the Auth Controller. -/
def authorityTurn : AccessEvent × AccessReply → Option (AuthorityEvent × AuthorityReply)
  | (.ask _ caller ctx, .asked request reply) => some (.internalToken caller request ctx, reply)
  | (.authority e, .authority reply) => some (e, reply)
  | _ => none

/-- The turns of the Auth Controller. -/
def authorityHistory (h : AccessHistory) : AuthorityHistory := h.filterMap authorityTurn

/-- The step of the settings, if it is one. -/
def settingsTurn : AccessEvent × AccessReply → Option (SettingsEvent × SettingsReply)
  | (.settings e, .settings reply) => some (e, reply)
  | _ => none

/-- The turns of the settings. -/
def settingsHistory (h : AccessHistory) : SettingsHistory := h.filterMap settingsTurn

/-- A request that is not made with a token of the client `clientId`. -/
def AuthorityEvent.Elsewhere (clientId : String) : AuthorityEvent → Prop
  | .internalToken caller _ _ =>
    ∀ claims, caller.check requireServiceAuth = .ok claims → claims.sub ≠ clientId
  | _ => True

/-- The Global Controller, which is the client `gcClientId`, and the Auth Controller. -/
def access (parseUuid : String → Option String) (t₀ : MeetingTables) (S : ClientSettings)
    (seed : Seed) (gcClientId : String) : Machine AccessSystem AccessEvent AccessReply where
  init := ⟨⟨⟨t₀, ∅⟩, ∅⟩, ∅, seed.toCredentialStore⟩
  step s := s.step parseUuid S
  allowed h s e :=
    match e with
    | .settings e => ∀ t, e ≠ .meeting (.other t)
    | .join _ rows _ _ => rows.Perm s.gc.tables.meetings
    | .guest _ rows _ _ _ => rows.Perm s.gc.tables.meetings
    | .giveUp _ => True
    | .ask _ caller _ => caller.Genuine (issued (authorityHistory h))
    | .authority e => e.Genuine seed (authorityHistory h) ∧ e.Elsewhere gcClientId

section Access

variable {parseUuid : String → Option String} {t₀ : MeetingTables} {gcClientId : String}
  {h : AccessHistory} {s : AccessSystem}

theorem AccessSystem.check_gc (s : AccessSystem) (call : ℕ)
    (checked : Except GcError TokenRequest) :
    (s.check call checked).1.gc = s.gc ∧ (s.check call checked).1.store = s.store := by
  unfold AccessSystem.check
  split_ifs
  · exact ⟨rfl, rfl⟩
  · split <;> exact ⟨rfl, rfl⟩

/-- What the Auth Controller sees of a run is a run of it. -/
theorem run_authority (hr : (access parseUuid t₀ S seed gcClientId).Run h s) :
    (authority S seed).Run (authorityHistory h) s.store := by
  refine hr.invariant (I := fun h s => (authority S seed).Run (authorityHistory h) s.store)
    .nil ?_
  intro h s e _ hallowed hI
  change (authority S seed).Run (List.filterMap authorityTurn ((e, (s.step parseUuid S e).2) :: h))
    (s.step parseUuid S e).1.store
  cases e with
  | settings e => exact hI
  | join call rows claims code =>
    rw [List.filterMap_cons_none rfl]
    change (authority S seed).Run _ (s.check call _).1.store
    rw [(s.check_gc call _).2]
    exact hI
  | guest call rows code request guestId =>
    rw [List.filterMap_cons_none rfl]
    change (authority S seed).Run _ (s.check call _).1.store
    rw [(s.check_gc call _).2]
    exact hI
  | giveUp call => exact hI
  | ask call caller ctx =>
    simp only [AccessSystem.step]
    split
    · exact hI
    next request hrequest =>
      have hgenuine : (authority S seed).allowed (authorityHistory h) s.store
        (.internalToken caller request ctx) := hallowed
      exact .cons _ hI hgenuine
  | authority e =>
    have hgenuine : (authority S seed).allowed (authorityHistory h) s.store e := hallowed.1
    exact .cons _ hI hgenuine

/-- What the settings see of a run is a run of theirs. -/
theorem run_settings (hr : (access parseUuid t₀ S seed gcClientId).Run h s) :
    (settingsMachine parseUuid t₀).Run (settingsHistory h) s.gc := by
  refine hr.invariant (I := fun h s => (settingsMachine parseUuid t₀).Run (settingsHistory h) s.gc)
    .nil ?_
  intro h s e _ hallowed hI
  change (settingsMachine parseUuid t₀).Run
    (List.filterMap settingsTurn ((e, (s.step parseUuid S e).2) :: h)) (s.step parseUuid S e).1.gc
  cases e with
  | settings e =>
    have hother : (settingsMachine parseUuid t₀).allowed (settingsHistory h) s.gc e := hallowed
    exact .cons _ hI hother
  | join call rows claims code =>
    rw [List.filterMap_cons_none rfl]
    change (settingsMachine parseUuid t₀).Run _ (s.check call _).1.gc
    rw [(s.check_gc call _).1]
    exact hI
  | guest call rows code request guestId =>
    rw [List.filterMap_cons_none rfl]
    change (settingsMachine parseUuid t₀).Run _ (s.check call _).1.gc
    rw [(s.check_gc call _).1]
    exact hI
  | giveUp call => exact hI
  | ask call caller ctx =>
    simp only [AccessSystem.step]
    split <;> exact hI
  | authority e => exact hI

/-- What a user who is let in was found to be. -/
structure Allowed (parseUuid : String → Option String) (row : MeetingRow) (claims : UserClaims)
    (code : String) (payload : MeetingTokenRequest) : Prop where
  meetingCode : row.meetingCode = code
  meetingId : payload.meetingId = row.meetingId
  isOpen : row.status.isCounted = true
  user : parseUserId parseUuid claims.sub = .ok payload.subjectUserId
  org : parseUuid claims.orgId = some row.orgId ∨ row.allowExternalParticipants = true
  role : payload.role = if row.createdByUserId = payload.subjectUserId then .host else .participant

theorem joinMeeting_eq_ok {rows : List MeetingRow} {claims : UserClaims} {code : String}
    {payload : MeetingTokenRequest} (hok : joinMeeting parseUuid rows claims code = .ok payload) :
    ∃ row ∈ rows, Allowed parseUuid row claims code payload := by
  unfold joinMeeting findMeetingByCode checkStatus at hok
  simp only [bind, Except.bind, pure, Except.pure] at hok
  split at hok
  · cases hok
  next row hrow =>
    split at hrow
    · cases hrow
    next found hfind =>
      obtain rfl := Except.ok.inj hrow
      split at hok
      · cases hok
      next hstatus =>
        split_ifs at hstatus with hcounted
        split at hok
        · cases hok
        next userId huser =>
          split at hok
          next userOrgId horg =>
            split at hok
            · cases hok
            next hforeign =>
              obtain rfl := Except.ok.inj hok
              have hcode := List.find?_some hfind
              refine ⟨found, List.mem_of_find?_eq_some hfind, of_decide_eq_true hcode, rfl,
                hcounted, huser, ?_, rfl⟩
              rw [not_and, ne_eq, Bool.not_eq_false] at hforeign
              by_cases heq : userOrgId = found.orgId
              · exact .inl (heq ▸ horg)
              · exact .inr (hforeign heq)
          · cases hok

/-- The handler of a call has looked up the meeting of its request. -/
def LookedUp (parseUuid : String → Option String) (t₀ : MeetingTables) (S : ClientSettings)
    (seed : Seed) (gcClientId : String) (h : AccessHistory) (call : ℕ)
    (payload : MeetingTokenRequest) : Prop :=
  ∃ rows claims code h', (.join call rows claims code, .none) :: h' <:+ h ∧
    ∃ row ∈ ((access parseUuid t₀ S seed gcClientId).stateAfter h').gc.tables.meetings,
      Allowed parseUuid row claims code payload

theorem LookedUp.mono {h' : AccessHistory} {call : ℕ} {payload : MeetingTokenRequest}
    (hlooked : LookedUp parseUuid t₀ S seed gcClientId h' call payload) (hs : h' <:+ h) :
    LookedUp parseUuid t₀ S seed gcClientId h call payload := by
  obtain ⟨rows, claims, code, h'', hsuffix, hrow⟩ := hlooked
  exact ⟨rows, claims, code, h'', hsuffix.trans hs, hrow⟩

/-- What a handler asks for after its checks, or what was asked for before. -/
theorem lookup_check {call call' : ℕ} {checked : Except GcError TokenRequest}
    {request : TokenRequest}
    (hlookup : (s.check call checked).1.asking.lookup call' = some request) :
    (call' = call ∧ checked = .ok request ∧ (s.check call checked).2 = .none) ∨
      s.asking.lookup call' = some request := by
  unfold AccessSystem.check at hlookup ⊢
  split_ifs at hlookup ⊢
  · exact .inr hlookup
  · split at hlookup
    · exact .inr hlookup
    · rcases Multimap.lookup_insert_eq_some.mp hlookup with ⟨hcall, rfl⟩ | ⟨_, hold⟩
      · exact .inl ⟨hcall, rfl, rfl⟩
      · exact .inr hold

/-- Handlers ask for meeting tokens after a lookup. -/
theorem lookedUp_of_run (hr : (access parseUuid t₀ S seed gcClientId).Run h s) :
    ∀ call payload, s.asking.lookup call = some (.meeting payload) →
      LookedUp parseUuid t₀ S seed gcClientId h call payload := by
  refine hr.invariant (I := fun h s => ∀ call payload,
    s.asking.lookup call = some (.meeting payload) →
      LookedUp parseUuid t₀ S seed gcClientId h call payload) ?_ ?_
  · intro call payload hlookup
    cases hlookup
  · intro h s e hr hallowed hI call payload hlookup
    change (s.step parseUuid S e).1.asking.lookup call = _ at hlookup
    change LookedUp parseUuid t₀ S seed gcClientId ((e, (s.step parseUuid S e).2) :: h) call payload
    have hkept : s.asking.lookup call = some (.meeting payload) →
        LookedUp parseUuid t₀ S seed gcClientId ((e, (s.step parseUuid S e).2) :: h) call
          payload :=
      fun hold => (hI call payload hold).mono (List.suffix_cons _ _)
    cases e with
    | settings e => exact hkept hlookup
    | join call' rows claims code =>
      rcases lookup_check hlookup with ⟨rfl, hchecked, hreply⟩ | hold
      · cases hjoin : joinMeeting parseUuid rows claims code with
        | error e =>
          rw [hjoin] at hchecked
          cases hchecked
        | ok found =>
          rw [hjoin] at hchecked
          obtain rfl : found = payload := TokenRequest.meeting.inj (Except.ok.inj hchecked)
          obtain ⟨row, hrow, hallow⟩ := joinMeeting_eq_ok hjoin
          refine ⟨rows, claims, code, h, ?_, row, ?_, hallow⟩
          · rw [show (s.step parseUuid S (.join call rows claims code)).2 = .none from hreply]
          · rw [← hr.eq_stateAfter]
            exact hallowed.mem_iff.mp hrow
      · exact hkept hold
    | guest call' rows code request guestId =>
      rcases lookup_check hlookup with ⟨_, hchecked, _⟩ | hold
      · cases hguest : getGuestToken rows code request guestId with
        | error e =>
          rw [hguest] at hchecked
          cases hchecked
        | ok found =>
          rw [hguest] at hchecked
          cases hchecked
      · exact hkept hold
    | giveUp call' => exact hkept (Multimap.lookup_erase_eq_some.mp hlookup).2
    | ask call' caller ctx =>
      refine hkept ?_
      simp only [AccessSystem.step] at hlookup
      split at hlookup
      · exact hlookup
      · exact (Multimap.lookup_erase_eq_some.mp hlookup).2
    | authority e => exact hkept hlookup

/-- Only the client of the Global Controller ever holds the scope of the internal
    endpoints. -/
def OnlyHolder (S : ClientSettings) (seed : Seed) (gcClientId : String) (h : AuthorityHistory) :
    Prop :=
  ∀ h', h' <:+ h → ∀ row ∈ ((authority S seed).stateAfter h').credentials,
    requiredScope ∈ row.scopes → row.clientId = gcClientId

/-- Then every meeting token is issued to that client. -/
theorem client_of_issuedMeeting {h h' : AuthorityHistory} {s : CredentialStore}
    (hr : (authority S seed).Run h s) (hholder : OnlyHolder S seed gcClientId h) {caller : Caller}
    {service : ServiceClaims} {payload : MeetingTokenRequest} {ctx : SigningContext}
    {claims : Common.MeetingTokenClaims}
    (hissued : IssuedMeeting h h' caller service payload ctx token claims) :
    service.sub = gcClientId := by
  obtain ⟨_, _, hsuffix⟩ := hissued.suffix
  have hr' := hr.suffix ((List.suffix_cons _ _).trans hsuffix)
  obtain ⟨h₁, clientSecret, credential, hfor⟩ :=
    origin_of_caller hr' hissued.genuine hissued.checked
  obtain ⟨hmem, hscopes⟩ := scopes_of_issuedFor hr' hfor
  obtain ⟨_, _, _, _, hsuffix₁, _, _, hgranted⟩ := hfor
  have hbefore : h₁ <:+ h :=
    (((List.suffix_cons _ _).trans hsuffix₁).trans (List.suffix_cons _ _)).trans hsuffix
  have hfound := List.find?_some hgranted.found
  have hsub : credential.clientId = service.sub := of_decide_eq_true hfound
  exact hsub.symm.trans (hholder h₁ hbefore credential hmem (hscopes hissued.scope))

/-- The role of the token is that of the lookup. -/
theorem IssuedMeeting.role_host_iff {h h' : AuthorityHistory} {caller : Caller}
    {service : ServiceClaims} {payload : MeetingTokenRequest} {ctx : SigningContext}
    {claims : Common.MeetingTokenClaims} {row : MeetingRow} {user : UserClaims} {code : String}
    (hissued : IssuedMeeting h h' caller service payload ctx token claims)
    (hallowed : Allowed parseUuid row user code payload) :
    claims.role = .host ↔ row.createdByUserId = payload.subjectUserId := by
  have hrole := hissued.role
  rw [hallowed.role] at hrole
  split_ifs at hrole with hcreator
  · refine iff_of_true ?_ hcreator
    cases hclaims : claims.role with
    | host => rfl
    | participant =>
      rw [hclaims] at hrole
      exact absurd hrole (by decide)
  · refine iff_of_false (fun hclaims => ?_) hcreator
    rw [hclaims] at hrole
    exact absurd hrole (by decide)

/-- Then every meeting token is issued to a handler that has looked the meeting up. -/
theorem asked_of_issuedMeeting (hr : (access parseUuid t₀ S seed gcClientId).Run h s)
    (hholder : OnlyHolder S seed gcClientId (authorityHistory h)) {h' : AuthorityHistory}
    {caller : Caller} {service : ServiceClaims} {payload : MeetingTokenRequest}
    {ctx : SigningContext} {claims : Common.MeetingTokenClaims}
    (hissued : IssuedMeeting (authorityHistory h) h' caller service payload ctx token claims) :
    ∃ call response h'', response.token = token ∧
      (.ask call caller ctx, .asked (.meeting payload) (.internalToken (.ok response))) :: h'' <:+
        h ∧
      LookedUp parseUuid t₀ S seed gcClientId h'' call payload := by
  obtain ⟨response, htoken, hsuffix⟩ := hissued.suffix
  obtain ⟨rest, hrest, hfilter⟩ := List.suffix_filterMap_iff.mp hsuffix
  obtain ⟨skipped, ⟨e, reply⟩, h'', rfl, _, hturn, hbefore⟩ :=
    List.filterMap_eq_cons_iff.mp hfilter.symm
  have hat : (e, reply) :: h'' <:+ h := (List.suffix_append _ _).trans hrest
  obtain ⟨hanswer, hallowed⟩ := hr.answer_of_suffix hat
  have hr'' := hr.suffix ((List.suffix_cons _ _).trans hat)
  unfold authorityTurn at hturn
  split at hturn
  next call caller' ctx' request reply' heq =>
    obtain ⟨rfl, rfl⟩ := Prod.mk.inj heq
    obtain ⟨hevent, rfl⟩ := Prod.mk.inj (Option.some.inj hturn)
    obtain ⟨rfl, rfl, rfl⟩ := AuthorityEvent.internalToken.inj hevent
    refine ⟨call, response, h'', htoken, hat, lookedUp_of_run hr'' call payload ?_⟩
    change _ = (AccessSystem.step parseUuid S _ (.ask call caller' ctx')).2 at hanswer
    simp only [AccessSystem.step] at hanswer
    split at hanswer
    · cases hanswer
    next request hrequest =>
      rw [hrequest, (AccessReply.asked.inj hanswer).1]
  next e' reply' heq =>
    -- nobody else has a token with the scope
    obtain ⟨rfl, rfl⟩ := Prod.mk.inj heq
    obtain ⟨rfl, rfl⟩ := Prod.mk.inj (Option.some.inj hturn)
    exact absurd (client_of_issuedMeeting (run_authority hr) hholder hissued)
      (hallowed.2 service hissued.checked)
  · cases hturn

/-- Whoever a Meeting Controller lets in presents the token that a call of `join_meeting` for
    that meeting and user was answered with, at most 16 minutes before; the same call had looked
    the meeting up and found the user to be allowed in, who is a host exactly as the creator. -/
theorem lookup_of_join (hr : (access parseUuid t₀ S seed gcClientId).Run h s)
    (hholder : OnlyHolder S seed gcClientId (authorityHistory h))
    {connectionId participantId : String} {request : Mc.JoinRequest} {joined : Mc.JoinConnection}
    (hgenuine : ∀ token, request.joinToken = some token →
      Genuine (issued (authorityHistory h)) V token)
    (hok : Mc.joinConnection V connectionId participantId (.ok (.joinRequest request)) =
      .ok joined) :
    ∃ call caller ctx payload response h₁,
      (.ask call caller ctx, .asked (.meeting payload) (.internalToken (.ok response))) :: h₁ <:+
        h ∧
      request.joinToken = some response.token ∧ payload.meetingId = joined.meetingId ∧
      payload.subjectUserId = joined.userId ∧ timestamp V.now ≤ timestamp ctx.now + 960 ∧
      ∃ rows claims code h₀, (.join call rows claims code, .none) :: h₀ <:+ h₁ ∧
      ∃ row ∈ ((access parseUuid t₀ S seed gcClientId).stateAfter h₀).gc.tables.meetings,
      ∃ row' ∈ s.gc.tables.meetings, SameMeeting row row' ∧
        row.meetingCode = code ∧ row.meetingId = joined.meetingId ∧
        row.status.isCounted = true ∧ parseUserId parseUuid claims.sub = .ok joined.userId ∧
        (parseUuid claims.orgId = some row.orgId ∨ row.allowExternalParticipants = true) ∧
        (joined.isHost = true ↔ row'.createdByUserId = joined.userId) := by
  obtain ⟨request', token, claims, heq, htoken, hvalid, hmeeting, huser, hhost⟩ :=
    Mc.joinConnection_eq_ok hok
  obtain rfl := Mc.ClientMessage.joinRequest.inj (Except.ok.inj heq)
  obtain ⟨h', caller, service, payload, ctx, hissued, hage⟩ :=
    issuedMeeting_of_validate (run_authority hr) (hgenuine token htoken) hvalid
  obtain ⟨call, response, h₁, rfl, hasked, rows, user, code, h₀, hlooked, row, hrow, hallowed⟩ :=
    asked_of_issuedMeeting hr hholder hissued
  have hbefore : h₀ <:+ h := ((List.suffix_cons _ _).trans hlooked).trans
    ((List.suffix_cons _ _).trans hasked)
  have hrow₀ : row ∈
      ((settingsMachine parseUuid t₀).stateAfter (settingsHistory h₀)).tables.meetings := by
    rw [← (run_settings (hr.suffix hbefore)).eq_stateAfter]
    exact hrow
  obtain ⟨row', hrow', hsame⟩ := sameMeeting_of_suffix (run_settings hr)
    (hbefore.filterMap settingsTurn) hrow₀
  refine ⟨call, caller, ctx, payload, response, h₁, hasked, htoken,
    (hmeeting.trans hissued.meetingId).symm, (huser.trans hissued.sub).symm, hage, rows, user, code,
    h₀, hlooked, row, hrow, row', hrow', hsame, hallowed.meetingCode, ?_, hallowed.isOpen, ?_,
    hallowed.org, ?_⟩
  · rw [hmeeting, hissued.meetingId, hallowed.meetingId]
  · rw [huser, hissued.sub]
    exact hallowed.user
  · rw [hhost, hsame.createdByUserId, huser, hissued.sub]
    exact hissued.role_host_iff hallowed

/-! ### A concrete run -/

theorem run_accessToken (hr : (access parseUuid t₀ S seed gcClientId).Run h s)
    {payload : ServiceTokenRequest} {env : ServiceTokenEnv} {response : TokenResponse}
    (hok : (s.store.handleServiceToken S env payload).2 = .ok response) :
    (access parseUuid t₀ S seed gcClientId).Run
      ((.authority (.serviceToken payload env), .authority (.serviceToken (.ok response))) :: h)
      { s with store := (s.store.handleServiceToken S env payload).1 } := by
  have hallowed : (access parseUuid t₀ S seed gcClientId).allowed h s
    (.authority (.serviceToken payload env)) := ⟨trivial, trivial⟩
  have hrun := Machine.Run.cons _ hr hallowed
  change (access parseUuid t₀ S seed gcClientId).Run
    ((_, .authority (.serviceToken (s.store.handleServiceToken S env payload).2)) :: h) _ at hrun
  rw [hok] at hrun
  exact hrun

theorem run_join (hr : (access parseUuid t₀ S seed gcClientId).Run h s) {call : ℕ}
    (hfree : call ∉ s.asking) {claims : UserClaims} {code : String} {payload : MeetingTokenRequest}
    (hok : joinMeeting parseUuid s.gc.tables.meetings claims code = .ok payload) :
    (access parseUuid t₀ S seed gcClientId).Run
      ((.join call s.gc.tables.meetings claims code, .none) :: h)
      { s with asking := s.asking.insert call (.meeting payload) } := by
  have hallowed : (access parseUuid t₀ S seed gcClientId).allowed h s
    (.join call s.gc.tables.meetings claims code) := List.Perm.refl _
  have hrun := Machine.Run.cons _ hr hallowed
  have hstep : (access parseUuid t₀ S seed gcClientId).step s
      (.join call s.gc.tables.meetings claims code) =
        ({ s with asking := s.asking.insert call (.meeting payload) }, .none) := by
    change s.check call ((joinMeeting parseUuid s.gc.tables.meetings claims code).map .meeting) = _
    rw [hok]
    unfold AccessSystem.check
    rw [if_neg hfree]
    rfl
  rw [hstep] at hrun
  exact hrun

theorem run_ask (hr : (access parseUuid t₀ S seed gcClientId).Run h s) {call : ℕ}
    {request : TokenRequest} (hlookup : s.asking.lookup call = some request) {caller : Caller}
    (hgenuine : caller.Genuine (issued (authorityHistory h))) {claims : ServiceClaims}
    (hcaller : caller.check requireServiceAuth = .ok claims) {ctx : SigningContext}
    {response : InternalTokenResponse} (hok : request.handle claims ctx = .ok response) :
    (access parseUuid t₀ S seed gcClientId).Run
      ((.ask call caller ctx, .asked request (.internalToken (.ok response))) :: h)
      { s with asking := s.asking.erase call } := by
  have hallowed : (access parseUuid t₀ S seed gcClientId).allowed h s (.ask call caller ctx) :=
    hgenuine
  have hrun := Machine.Run.cons _ hr hallowed
  have hstep : (access parseUuid t₀ S seed gcClientId).step s (.ask call caller ctx) =
      ({ s with asking := s.asking.erase call },
        .asked request (.internalToken (.ok response))) := by
    change s.step parseUuid S (.ask call caller ctx) = _
    simp only [AccessSystem.step, hlookup, authorityStep, hcaller, hok]
  rw [hstep] at hrun
  exact hrun

/-- The token that the Global Controller gets. -/
def gcToken : Token ServiceClaims :=
  ⟨700, some "k", ⟨"gc", 3601, 1, "service.write.mc internal:meeting-token",
    some "global-controller"⟩, [7]⟩

/-- A call with the token of the Global Controller. -/
def gcCaller : Caller := ⟨[signingKey], 300, fromSecs 2, .bearer (serviceJson gcToken)⟩

/-- The creator of the meeting of `settingsTables`. -/
def hostClaims : UserClaims := ⟨"user:user-1", "org-1", "", [], 0, 0, ""⟩

/-- The request for the token of a host. -/
def hostPayload : MeetingTokenRequest :=
  ⟨"user-1", "meeting-1", "org-1", "org-1", .member, .host, defaultParticipantCapabilities, 900⟩

/-- A context in which the token is signed. -/
def askContext : SigningContext :=
  ⟨fromSecs 3, by decide, "j", .ok (some signingKey), .ok (), .ok ()⟩

/-- The token of the host. -/
def hostToken : Token Json :=
  let claims := (meetingTokenClaims hostPayload 900 askContext).toJson
  signJwt signingKey (jwtSize "k" claims) claims

/-- The Global Controller gets its token, looks the meeting up and asks for the host. -/
abbrev hostHistory : AccessHistory :=
  [(.ask 1 gcCaller askContext, .asked (.meeting hostPayload)
      (.internalToken (.ok ⟨hostToken, 900⟩))),
    (.join 1 settingsTables.meetings hostClaims "aaaaaaaaaaaa", .none),
    (.authority (.serviceToken (tokenPayload "gc" "s") tokenEnv), .authority (.serviceToken
      (.ok ⟨gcToken, "Bearer", 3600, "service.write.mc internal:meeting-token"⟩)))]

/-- The system after the host has asked. -/
def hostSystem : AccessSystem where
  gc := ⟨⟨settingsTables, ∅⟩, ∅⟩
  asking := (AList.insert 1 (.meeting hostPayload) ∅ : AList fun _ : ℕ => TokenRequest).erase 1
  store := (serviceSeed.handleServiceToken clientSettings tokenEnv (tokenPayload "gc" "s")).1

theorem run_hostHistory :
    (access some settingsTables clientSettings serviceSeed "gc").Run hostHistory hostSystem := by
  have htoken : (access some settingsTables clientSettings serviceSeed "gc").Run
      [(.authority (.serviceToken (tokenPayload "gc" "s") tokenEnv), .authority (.serviceToken
        (.ok ⟨gcToken, "Bearer", 3600, "service.write.mc internal:meeting-token"⟩)))] _ :=
    run_accessToken .nil (by decide +kernel)
  have hjoin : (access some settingsTables clientSettings serviceSeed "gc").Run
      ((.join 1 settingsTables.meetings hostClaims "aaaaaaaaaaaa", .none) :: _) _ :=
    run_join htoken (by decide) (show joinMeeting some settingsTables.meetings hostClaims
      "aaaaaaaaaaaa" = .ok hostPayload from rfl)
  have hgenuine : gcCaller.Genuine [serviceJson gcToken] :=
    fun _ _ _ => List.mem_singleton_self _
  have hcaller : gcCaller.check requireServiceAuth = .ok gcToken.claims := by decide +kernel
  have hscope : checkScope gcToken.claims = .ok () := by decide
  refine run_ask hjoin (AList.lookup_insert _) hgenuine hcaller ?_
  rw [TokenRequest.handle, handleMeetingToken, hscope]
  rfl

theorem unanswered_hostHistory : ∀ x ∈ authorityHistory hostHistory,
    ∀ answer, x.2 ≠ .admin (.ok answer) := by
  change ∀ x ∈ [_, _], _
  simp

/-- Without an answered administrative request the credentials stay. -/
theorem credentials_of_unanswered {h : AuthorityHistory} {s : CredentialStore}
    (hr : (authority S seed).Run h s) (hnone : ∀ x ∈ h, ∀ answer, x.2 ≠ .admin (.ok answer)) :
    s.credentials = seed.credentials := by
  induction hr with
  | nil => rfl
  | cons e hr _ ih =>
    obtain ⟨hlast, hnone⟩ := List.forall_mem_cons.mp hnone
    cases authority_case (S := S) _ e with
    | refused _ hcredentials _ => exact hcredentials.trans (ih hnone)
    | administered _ _ _ answer _ hreply _ _ => exact absurd hreply (hlast answer)

/-- A Meeting Controller a second later. -/
def joinVerifier : Verifier := { sampleVerifier with now := fromSecs 4 }

/-- The host joins with its token. -/
def hostRequest : Mc.JoinRequest := ⟨"meeting-1", "Ada", some hostToken⟩

theorem joinVerifier_ready : joinVerifier.Ready signingKey askContext.now 900 where
  named := by decide
  found := ⟨_, rfl, _, rfl, rfl, .inr rfl, _, rfl, Base64.Engine.decode_encode [7]⟩
  issued := by decide
  unexpired := by decide

theorem jwtSize_hostToken : jwtSize "k" (meetingTokenClaims hostPayload 900 askContext).toJson ≤
    maxJwtSizeBytes := by
  rw [jwtSize_meeting]
  decide +kernel

theorem joinConnection_hostRequest :
    Mc.joinConnection joinVerifier "conn-1" "part-1" (.ok (.joinRequest hostRequest)) =
      .ok ⟨"meeting-1", "conn-1", "user-1", "part-1", true⟩ := by
  have hcontract := (Mc.meetingContract_iff (show 900 ≤ 900 from Nat.le_refl _)
    joinVerifier_ready).mpr
      ⟨(by decide : hostPayload.participantType ≠ .guest), by decide, jwtSize_hostToken⟩
  obtain ⟨claims, _, hsame, hvalid⟩ := hcontract.accepted
  have hhost : claims.role = .host := by
    cases hrole : claims.role with
    | host => rfl
    | participant => exact absurd (hrole ▸ hsame.role) (by decide)
  have hok := Mc.joinConnection_of_valid "conn-1" "part-1"
    (by decide : hostRequest.participantName.utf8ByteSize ≤ Mc.maxParticipantNameLen)
    (rfl : hostRequest.joinToken = some hostToken) hvalid hsame.meetingId
  rw [hok, hhost, hsame.sub]
  rfl

theorem onlyHolder_hostHistory :
    OnlyHolder clientSettings serviceSeed "gc" (authorityHistory hostHistory) := by
  intro h' hs
  rw [credentials_of_unanswered ((run_authority run_hostHistory).suffix hs)
    fun x hx => unanswered_hostHistory x (hs.subset hx)]
  decide

/-- The host is let in as the host. -/
theorem lookup_of_join_host :
    timestamp joinVerifier.now ≤ timestamp askContext.now + 960 ∧
      ∃ row ∈ hostSystem.gc.tables.meetings, row.meetingId = "meeting-1" ∧
        row.createdByUserId = "user-1" := by
  have hgenuine : ∀ token, hostRequest.joinToken = some token →
      Genuine (issued (authorityHistory hostHistory)) joinVerifier token :=
    fun token htoken _ _ _ _ _ => Option.some.inj htoken ▸ List.mem_cons_self
  obtain ⟨_, _, _, _, _, _, _, _, _, _, _, _, _, _, _, _, row, _, row', hrow', hsame, _, hid, _, _,
    _, hhost⟩ := lookup_of_join run_hostHistory onlyHolder_hostHistory hgenuine
      joinConnection_hostRequest
  exact ⟨by decide, row', hrow', hsame.meetingId.trans hid, hhost.mp rfl⟩

end Access

end DarkTower.Mesh
