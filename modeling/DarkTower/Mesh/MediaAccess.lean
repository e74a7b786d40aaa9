import DarkTower.Mesh.MeetingAccess
import DarkTower.Mh.Admission

/-!
# Who gets media

A Media Handler takes a client with a meeting token
(`mh-service/src/webtransport/connection.rs`) into meetings that Meeting Controllers
register with it (`mh-service/src/grpc/mh_service.rs`), beside the services of
`DarkTower.Mesh.access`. The tokens of clients and callers may come from anyone and may be
used again.

* `media_of_active`: if no other client of the Auth Controller than the Global Controller
  ever holds `internal:meeting-token`, every active connection of a Media Handler was opened
  with a token that the Global Controller asked for after it had looked the meeting up and
  let its participant in, at most 16 minutes before, and a call of a Meeting Controller
  registered the meeting.
* `media_of_notification`: so is what a Media Handler tells about, and it is told to an
  endpoint that a call of a Meeting Controller gave for the meeting.
-/

namespace DarkTower.Mh

open DarkTower.Common DarkTower.Lib
open DarkTower.Mc (Verifier)

/-- `MhError`, as far as `handle_connection` makes one before step 5. -/
inductive MhError
  | internal (message : String)
  | jwtValidation (message : String)
  | webTransportError (message : String)
deriving DecidableEq

/-- `From<JwtError>` (errors.rs:101). -/
def MhError.ofJwtError : JwtError → MhError
  | .serviceUnavailable _ => .internal "Authentication service unavailable"
  | _ => .jwtValidation "The access token is invalid or expired"

/-- `MhJwtValidator::validate_meeting_token` (auth/mod.rs:61). -/
def validateMeetingToken (V : Verifier) (token : Token Json) :
    Except MhError Common.MeetingTokenClaims :=
  match V.validate Common.MeetingTokenClaims.fromJson token with
  | .error e => .error (.ofJwtError e)
  | .ok claims =>
    if claims.tokenType ≠ "meeting" then
      .error (.jwtValidation "The access token is invalid or expired")
    else .ok claims

/-- A Media Handler takes the meeting tokens that a Meeting Controller takes. -/
theorem validateMeetingToken_eq_ok {V : Verifier} {token : Token Json}
    {claims : Common.MeetingTokenClaims} :
    validateMeetingToken V token = .ok claims ↔ V.validateMeetingToken token = .ok claims := by
  unfold validateMeetingToken Verifier.validateMeetingToken
  cases V.validate Common.MeetingTokenClaims.fromJson token with
  | error e => simp
  | ok found =>
    dsimp only
    split_ifs
    · simp
    · simp only [Except.ok.injEq]

/-- What `MhClientMessage::decode` gives; the token is none if the text is no JWT. -/
inductive ConnectMessage
  | undecodable
  /-- No variant of the `oneof`. -/
  | empty
  | connectRequest (joinToken : Option (Token Json))

/-- `handle_connection` (connection.rs:125) up to the claims of the token (steps 1 to 4);
    `message` is what the session, the stream and `read_framed_message` give. -/
def connectionClaims (V : Verifier) (message : Except MhError ConnectMessage) :
    Except MhError Common.MeetingTokenClaims :=
  match message with
  | .error e => .error e
  | .ok .undecodable => .error (.webTransportError "Invalid connect message")
  | .ok .empty => .error (.webTransportError "Invalid connect message")
  | .ok (.connectRequest none) =>
    .error (.jwtValidation "The access token is invalid or expired")
  | .ok (.connectRequest (some token)) => validateMeetingToken V token

theorem connectionClaims_eq_ok {V : Verifier} {message : Except MhError ConnectMessage}
    {claims : Common.MeetingTokenClaims} (hok : connectionClaims V message = .ok claims) :
    ∃ token, message = .ok (.connectRequest (some token)) ∧
      V.validateMeetingToken token = .ok claims := by
  unfold connectionClaims at hok
  split at hok
  · cases hok
  · cases hok
  · cases hok
  · cases hok
  next token => exact ⟨token, rfl, validateMeetingToken_eq_ok.mp hok⟩

/-- `MAX_ID_LENGTH` (mh_service.rs:32). -/
def maxIdLength : ℕ := 256

/-- `MAX_ENDPOINT_LENGTH` (mh_service.rs:36). -/
def maxEndpointLength : ℕ := 2048

/-- `RegisterMeetingRequest` (internal.proto:129). -/
structure RegisterMeetingRequest where
  meetingId : String
  mcId : String
  mcGrpcEndpoint : String
deriving DecidableEq

/-- The checks of `register_meeting` (mh_service.rs:103), with the text of
    `Status::invalid_argument`. -/
def RegisterMeetingRequest.check (request : RegisterMeetingRequest) : Except String Unit :=
  if request.meetingId.isEmpty then .error "meeting_id is required"
  else if request.mcId.isEmpty then .error "mc_id is required"
  else if request.mcGrpcEndpoint.isEmpty then .error "mc_grpc_endpoint is required"
  else if maxIdLength < request.meetingId.utf8ByteSize then
    .error "meeting_id exceeds maximum length"
  else if maxIdLength < request.mcId.utf8ByteSize then .error "mc_id exceeds maximum length"
  else if maxEndpointLength < request.mcGrpcEndpoint.utf8ByteSize then
    .error "mc_grpc_endpoint exceeds maximum length"
  else if ¬ ("http://".toList.isPrefixOf request.mcGrpcEndpoint.toList) ∧
      ¬ ("https://".toList.isPrefixOf request.mcGrpcEndpoint.toList) ∧
      ¬ ("grpc://".toList.isPrefixOf request.mcGrpcEndpoint.toList) then
    .error "mc_grpc_endpoint must use http://, https://, or grpc:// scheme"
  else .ok ()

/-- An event of the tasks, the actor, the clients or the clock, which needs no token. -/
def MhEvent.Internal : MhEvent → Prop
  | .reject _ | .connect _ _ _ | .register _ _ _ => False
  | _ => True

end DarkTower.Mh

namespace DarkTower.Mesh

open DarkTower.Ac hiding MeetingTokenClaims GuestTokenClaims
open DarkTower.Common DarkTower.Lib DarkTower.Common.MeetingToken
open DarkTower.Mc (Verifier TokenRequest)
open DarkTower.Gc
open DarkTower.Mh

/-! ## A Media Handler beside the other services -/

/-- The Auth Controller and the Global Controllers with a Media Handler. -/
structure MediaSystem where
  access : AccessSystem
  handler : MhSystem

/-- A step of one of the services, or a call between them. -/
inductive MediaEvent
  | access (e : AccessEvent)
  /-- A client connects to the Media Handler. -/
  | connect (connectionId : String) (V : Verifier) (message : Except MhError ConnectMessage)
  /-- A call of `RegisterMeeting`. -/
  | registerMeeting (V : Verifier) (header : GrpcHeader) (request : RegisterMeetingRequest)
  | handler (e : Mh.MhEvent)

/-- The answer to a call of `RegisterMeeting`. -/
inductive RegisterMeetingReply
  | denied (status : GrpcStatus)
  | invalidArgument (message : String)
  | accepted

/-- The answer to an event. -/
inductive MediaReply
  | access (reply : AccessReply)
  | connection (claims : Except MhError Common.MeetingTokenClaims)
  | registerMeeting (reply : RegisterMeetingReply)
  | handler (notification : Option Notification)

/-- The events so far with their answers, the last one first. -/
abbrev MediaHistory := List (MediaEvent × MediaReply)

/-- The path of the call, which the layer checks the caller for. -/
def registerMeetingPath : String := "/dark_tower.internal.v1.MediaHandlerService/RegisterMeeting"

/-- The layer and the checks before the message to the session. -/
def registerMeeting (V : Verifier) (header : GrpcHeader) (request : RegisterMeetingRequest) :
    RegisterMeetingReply :=
  match mhAuthLayer.call V registerMeetingPath header with
  | .error status => .denied status
  | .ok _ =>
    match request.check with
    | .error message => .invalidArgument message
    | .ok () => .accepted

/-- What the Media Handler sees of an event with its answer. -/
def handlerTurn : MediaEvent × MediaReply → Option (Mh.MhEvent × Option Notification)
  | (.connect c _ _, .connection (.error _)) => some (.reject c, none)
  | (.connect c _ _, .connection (.ok claims)) =>
    some (.connect c claims.meetingId claims.sub, none)
  | (.registerMeeting _ _ request, .registerMeeting .accepted) =>
    some (.register request.meetingId request.mcId request.mcGrpcEndpoint, none)
  | (.handler e, .handler n) => some (e, n)
  | _ => none

/-- The turns of the Media Handler. -/
def handlerHistory (h : MediaHistory) : Mh.MhHistory := h.filterMap handlerTurn

/-- What the other services see. -/
def accessTurn : MediaEvent × MediaReply → Option (AccessEvent × AccessReply)
  | (.access e, .access reply) => some (e, reply)
  | _ => none

/-- The turns of the Auth Controller and the Global Controllers. -/
def accessHistory (h : MediaHistory) : AccessHistory := h.filterMap accessTurn

/-- The answer to an event. -/
def MediaSystem.answer (parseUuid : String → Option String) (S : ClientSettings) (T : ℕ)
    (s : MediaSystem) : MediaEvent → MediaReply
  | .access e => .access (s.access.step parseUuid S e).2
  | .connect _ V message => .connection (connectionClaims V message)
  | .registerMeeting V header request => .registerMeeting (registerMeeting V header request)
  | .handler e => .handler (s.handler.step T e).2

/-- An event is answered, and the service that it is for takes its turn. -/
def MediaSystem.step (parseUuid : String → Option String) (S : ClientSettings) (T : ℕ)
    (s : MediaSystem) (e : MediaEvent) : MediaSystem × MediaReply :=
  let reply := s.answer parseUuid S T e
  (⟨((accessTurn (e, reply)).map fun x => (s.access.step parseUuid S x.1).1).getD s.access,
    ((handlerTurn (e, reply)).map fun x => (s.handler.step T x.1).1).getD s.handler⟩, reply)

/-- A Media Handler with the timeout `T` for registrations, beside the other services. -/
def media (parseUuid : String → Option String) (t₀ : MeetingTables) (S : ClientSettings)
    (seed : Seed) (gcClientId : String) (T : ℕ) : Machine MediaSystem MediaEvent MediaReply where
  init := ⟨(access parseUuid t₀ S seed gcClientId).init, .start⟩
  step s := s.step parseUuid S T
  allowed h s e :=
    match e with
    | .access e => (access parseUuid t₀ S seed gcClientId).allowed (accessHistory h) s.access e
    | .connect c V message => s.handler.tasks c = none ∧
        ∀ token, message = .ok (.connectRequest (some token)) →
          Genuine (issued (authorityHistory (accessHistory h))) V token
    | .registerMeeting V header _ => ∀ token, header = .bearer token →
        Genuine (issued (authorityHistory (accessHistory h))) V token
    | .handler e => e.Internal ∧ (mhMachine T).allowed (handlerHistory h) s.handler e

section Media

variable {parseUuid : String → Option String} {t₀ : MeetingTables} {S : ClientSettings}
  {seed : Seed} {gcClientId : String} {T : ℕ} {h : MediaHistory} {s : MediaSystem}

/-- What the other services see of a run is a run of theirs. -/
theorem run_access (hr : (media parseUuid t₀ S seed gcClientId T).Run h s) :
    (access parseUuid t₀ S seed gcClientId).Run (accessHistory h) s.access := by
  refine hr.invariant
    (I := fun h s => (access parseUuid t₀ S seed gcClientId).Run (accessHistory h) s.access)
    .nil ?_
  intro h s e _ hallowed hI
  cases e with
  | access e =>
    have hother : (access parseUuid t₀ S seed gcClientId).allowed (accessHistory h) s.access e :=
      hallowed
    exact .cons e hI hother
  | connect c V message => exact hI
  | registerMeeting V header request => exact hI
  | handler e => exact hI

/-- What the Media Handler sees of a run is a run of it. -/
theorem run_handler (hr : (media parseUuid t₀ S seed gcClientId T).Run h s) :
    (mhMachine T).Run (handlerHistory h) s.handler := by
  refine hr.invariant (I := fun h s => (mhMachine T).Run (handlerHistory h) s.handler) .nil ?_
  intro h s e _ hallowed hI
  change (mhMachine T).Run
    (List.filterMap handlerTurn ((e, s.answer parseUuid S T e) :: h))
    (((handlerTurn (e, s.answer parseUuid S T e)).map fun x =>
      (s.handler.step T x.1).1).getD s.handler)
  cases e with
  | access e => exact hI
  | connect c V message =>
    have hfree : s.handler.tasks c = none := hallowed.1
    simp only [MediaSystem.answer]
    cases connectionClaims V message with
    | error e =>
      have hreject : (mhMachine T).allowed (handlerHistory h) s.handler (.reject c) := hfree
      exact .cons _ hI hreject
    | ok claims =>
      have hconnect : (mhMachine T).allowed (handlerHistory h) s.handler
        (.connect c claims.meetingId claims.sub) := hfree
      exact .cons _ hI hconnect
  | registerMeeting V header request =>
    simp only [MediaSystem.answer]
    cases registerMeeting V header request with
    | denied status => exact hI
    | invalidArgument message => exact hI
    | accepted =>
      have hregister : (mhMachine T).allowed (handlerHistory h) s.handler
        (.register request.meetingId request.mcId request.mcGrpcEndpoint) := trivial
      exact .cons _ hI hregister
  | handler e => exact .cons e hI hallowed.2

/-! ## What the session stands for -/

theorem OnlyHolder.mono {h h' : AuthorityHistory} (hholder : OnlyHolder S seed gcClientId h)
    (hs : h' <:+ h) : OnlyHolder S seed gcClientId h' :=
  fun h'' hs' => hholder h'' (hs'.trans hs)

/-- The client `c` connected for the participant `p` of the meeting `m`, with a token that a
    handler of the Global Controller was answered with at most 16 minutes before, after it had
    looked the meeting up and found the participant to be allowed in. -/
def LetIn (parseUuid : String → Option String) (t₀ : MeetingTables) (S : ClientSettings)
    (seed : Seed) (gcClientId : String) (h : MediaHistory) (c m p : String) : Prop :=
  ∃ V token claims h', (.connect c V (.ok (.connectRequest (some token))),
      .connection (.ok claims)) :: h' <:+ h ∧
    claims.meetingId = m ∧ claims.sub = p ∧
    ∃ call caller ctx payload response h₁,
      (.ask call caller ctx, .asked (.meeting payload) (.internalToken (.ok response))) :: h₁ <:+
        accessHistory h' ∧
      response.token = token ∧ timestamp V.now ≤ timestamp ctx.now + 960 ∧
      payload.meetingId = m ∧ payload.subjectUserId = p ∧
      LookedUp parseUuid t₀ S seed gcClientId h₁ call payload

/-- The meeting `m` was registered with an endpoint by a call that the layer let through on a
    token with some claims, and the Auth Controller had issued these claims within the last 61
    minutes for a Meeting Controller that held `service.write.mh` then. -/
def RegisteredAt (S : ClientSettings) (seed : Seed) (h : MediaHistory)
    (m mcGrpcEndpoint : String) : Prop :=
  ∃ V token request h',
    (.registerMeeting V (.bearer token) request, .registerMeeting .accepted) :: h' <:+ h ∧
    request.meetingId = m ∧ request.mcGrpcEndpoint = mcGrpcEndpoint ∧
    ∃ h'' clientSecret claims credential,
      mhAuthLayer.call V registerMeetingPath (.bearer token) = .ok claims ∧
      IssuedFor S seed (authorityHistory (accessHistory h')) h'' clientSecret claims credential ∧
      credential ∈ ((authority S seed).stateAfter h'').credentials ∧
      "service.write.mh" ∈ credential.scopes ∧
      credential.serviceType = "meeting-controller" ∧
      timestamp V.now ≤ claims.iat + 3660

/-- An event that the Media Handler has seen is one of the run. -/
theorem exists_of_happened {e : Mh.MhEvent} (he : Happened (handlerHistory h) e) :
    ∃ x n h', x :: h' <:+ h ∧ handlerTurn x = some (e, n) := by
  obtain ⟨⟨e', n⟩, hmem, rfl⟩ := List.mem_map.mp he
  obtain ⟨x, hx, hturn⟩ := List.mem_filterMap.mp hmem
  obtain ⟨newer, older, rfl⟩ := List.append_of_mem hx
  exact ⟨x, n, older, List.suffix_append _ _, hturn⟩

/-- What the Media Handler does by itself it sees as it is; anything else is a client that
    connects or a call of `RegisterMeeting` that is accepted. -/
theorem handlerTurn_cases {x : MediaEvent × MediaReply} {e : Mh.MhEvent}
    {n : Option Notification} (hturn : handlerTurn x = some (e, n)) :
    x = (.handler e, .handler n) ∨
      (∃ c V message error, x = (.connect c V message, .connection (.error error)) ∧
        e = .reject c) ∨
      (∃ c V message claims, x = (.connect c V message, .connection (.ok claims)) ∧
        e = .connect c claims.meetingId claims.sub) ∨
      ∃ V header request, x = (.registerMeeting V header request, .registerMeeting .accepted) ∧
        e = .register request.meetingId request.mcId request.mcGrpcEndpoint := by
  unfold handlerTurn at hturn
  split at hturn
  next c V message error =>
    exact .inr (.inl ⟨c, V, message, error, rfl, (Prod.mk.inj (Option.some.inj hturn)).1.symm⟩)
  next c V message claims =>
    exact .inr (.inr (.inl ⟨c, V, message, claims, rfl,
      (Prod.mk.inj (Option.some.inj hturn)).1.symm⟩))
  next V header request =>
    exact .inr (.inr (.inr ⟨V, header, request, rfl,
      (Prod.mk.inj (Option.some.inj hturn)).1.symm⟩))
  next e' n' =>
    obtain ⟨rfl, rfl⟩ := Prod.mk.inj (Option.some.inj hturn)
    exact .inl rfl
  · cases hturn

theorem letIn_of_happened (hr : (media parseUuid t₀ S seed gcClientId T).Run h s)
    (hholder : OnlyHolder S seed gcClientId (authorityHistory (accessHistory h)))
    {c m p : String} (hhappened : Happened (handlerHistory h) (.connect c m p)) :
    LetIn parseUuid t₀ S seed gcClientId h c m p := by
  obtain ⟨x, n, h', hsuffix, hturn⟩ := exists_of_happened hhappened
  have hr' := hr.suffix ((List.suffix_cons _ _).trans hsuffix)
  rcases handlerTurn_cases hturn with rfl | ⟨c', V, message, error, rfl, heq⟩ |
    ⟨c', V, message, claims, rfl, heq⟩ | ⟨V, header, request, rfl, heq⟩
  · -- the Media Handler opens no connection by itself
    exact (hr.answer_of_suffix hsuffix).2.1.elim
  · cases heq
  · obtain ⟨hanswer, hallowed⟩ := hr.answer_of_suffix hsuffix
    obtain ⟨rfl, rfl, rfl⟩ := Mh.MhEvent.connect.inj heq
    obtain ⟨token, rfl, hvalid⟩ :=
      connectionClaims_eq_ok (MediaReply.connection.inj hanswer).symm
    obtain ⟨h₀, caller, service, payload, ctx, hissued, hage⟩ :=
      issuedMeeting_of_validate (run_authority (run_access hr')) (hallowed.2 token rfl) hvalid
    have hbefore : authorityHistory (accessHistory h') <:+ authorityHistory (accessHistory h) :=
      ((((List.suffix_cons _ _).trans hsuffix).filterMap accessTurn).filterMap authorityTurn)
    obtain ⟨call, response, h₁, htoken, hasked, hlooked⟩ :=
      asked_of_issuedMeeting (run_access hr') (hholder.mono hbefore) hissued
    exact ⟨V, token, claims, h', hsuffix, rfl, rfl, call, caller, ctx, payload, response, h₁,
      hasked, htoken, hage, hissued.meetingId.symm, hissued.sub.symm, hlooked⟩
  · cases heq

theorem registerMeeting_eq_accepted {V : Verifier} {header : GrpcHeader}
    {request : RegisterMeetingRequest} (h : registerMeeting V header request = .accepted) :
    ∃ claims, mhAuthLayer.call V registerMeetingPath header = .ok claims := by
  unfold registerMeeting at h
  split at h
  · cases h
  next claims hcall => exact ⟨claims, hcall⟩

theorem registeredAt_of_happened (hr : (media parseUuid t₀ S seed gcClientId T).Run h s)
    {m mcId mcGrpcEndpoint : String}
    (hhappened : Happened (handlerHistory h) (.register m mcId mcGrpcEndpoint)) :
    RegisteredAt S seed h m mcGrpcEndpoint := by
  obtain ⟨x, n, h', hsuffix, hturn⟩ := exists_of_happened hhappened
  have hr' := hr.suffix ((List.suffix_cons _ _).trans hsuffix)
  rcases handlerTurn_cases hturn with rfl | ⟨c, V, message, error, rfl, heq⟩ |
    ⟨c, V, message, claims, rfl, heq⟩ | ⟨V, header, request, rfl, heq⟩
  · -- nor does it register a meeting
    exact (hr.answer_of_suffix hsuffix).2.1.elim
  · cases heq
  · cases heq
  · obtain ⟨hanswer, hallowed⟩ := hr.answer_of_suffix hsuffix
    obtain ⟨rfl, rfl, rfl⟩ := Mh.MhEvent.register.inj heq
    obtain ⟨claims, hcall⟩ :=
      registerMeeting_eq_accepted (MediaReply.registerMeeting.inj hanswer).symm
    obtain ⟨token, rfl, _⟩ := call_eq_ok hcall
    have hauthority := run_authority (run_access hr')
    obtain ⟨⟨h'', clientSecret, credential, hissued⟩, hlife⟩ :=
      issuedFor_of_call hauthority (hallowed token rfl) hcall
    obtain ⟨hmem, hscope, htype⟩ := credential_of_call hauthority hcall hissued
    exact ⟨V, token, request, h', hsuffix, rfl, rfl, h'', clientSecret, claims, credential, hcall,
      hissued, hmem, hscope, (Option.some.inj htype).symm, hlife⟩

/-! ## A concrete run -/

theorem run_answered (hr : (media parseUuid t₀ S seed gcClientId T).Run h s) {e : MediaEvent}
    (hallowed : (media parseUuid t₀ S seed gcClientId T).allowed h s e) {reply : MediaReply}
    (hanswer : s.answer parseUuid S T e = reply) :
    (media parseUuid t₀ S seed gcClientId T).Run ((e, reply) :: h)
      ⟨((accessTurn (e, reply)).map fun x => (s.access.step parseUuid S x.1).1).getD s.access,
        ((handlerTurn (e, reply)).map fun x => (s.handler.step T x.1).1).getD s.handler⟩ := by
  subst hanswer
  exact .cons e hr hallowed

theorem run_connect (hr : (media parseUuid t₀ S seed gcClientId T).Run h s) {c : String}
    (hfree : s.handler.tasks c = none) {V : Verifier} {token : Token Json}
    (hgenuine : Genuine (issued (authorityHistory (accessHistory h))) V token)
    {claims : Common.MeetingTokenClaims} (hok : V.validateMeetingToken token = .ok claims) :
    (media parseUuid t₀ S seed gcClientId T).Run
      ((.connect c V (.ok (.connectRequest (some token))), .connection (.ok claims)) :: h)
      ⟨s.access, (s.handler.step T (.connect c claims.meetingId claims.sub)).1⟩ := by
  have hallowed : (media parseUuid t₀ S seed gcClientId T).allowed h s
      (.connect c V (.ok (.connectRequest (some token)))) := by
    refine ⟨hfree, fun token' htoken => ?_⟩
    rw [← Option.some.inj (ConnectMessage.connectRequest.inj (Except.ok.inj htoken))]
    exact hgenuine
  have hanswer : s.answer parseUuid S T (.connect c V (.ok (.connectRequest (some token)))) =
      .connection (.ok claims) :=
    congrArg MediaReply.connection (validateMeetingToken_eq_ok.mpr hok)
  exact run_answered hr hallowed hanswer

theorem run_registerMeeting (hr : (media parseUuid t₀ S seed gcClientId T).Run h s)
    {V : Verifier} {token : Token Json}
    (hgenuine : Genuine (issued (authorityHistory (accessHistory h))) V token)
    {request : RegisterMeetingRequest}
    (hok : registerMeeting V (.bearer token) request = .accepted) :
    (media parseUuid t₀ S seed gcClientId T).Run
      ((.registerMeeting V (.bearer token) request, .registerMeeting .accepted) :: h)
      ⟨s.access, (s.handler.step T
        (.register request.meetingId request.mcId request.mcGrpcEndpoint)).1⟩ := by
  have hallowed : (media parseUuid t₀ S seed gcClientId T).allowed h s
      (.registerMeeting V (.bearer token) request) := by
    intro token' htoken
    rw [← GrpcHeader.bearer.inj htoken]
    exact hgenuine
  have hanswer : s.answer parseUuid S T (.registerMeeting V (.bearer token) request) =
      .registerMeeting .accepted := congrArg MediaReply.registerMeeting hok
  exact run_answered hr hallowed hanswer

theorem run_internal (hr : (media parseUuid t₀ S seed gcClientId T).Run h s) {e : Mh.MhEvent}
    (hinternal : e.Internal) (hallowed : (mhMachine T).allowed (handlerHistory h) s.handler e) :
    (media parseUuid t₀ S seed gcClientId T).Run
      ((.handler e, .handler (s.handler.step T e).2) :: h)
      ⟨s.access, (s.handler.step T e).1⟩ :=
  Machine.Run.cons (M := media parseUuid t₀ S seed gcClientId T) (.handler e) hr
    ⟨hinternal, hallowed⟩

/-- What the other services do before anyone comes to the Media Handler. -/
def beforeMedia (h : AccessHistory) : MediaHistory := h.map fun x => (.access x.1, .access x.2)

theorem accessHistory_beforeMedia (h : AccessHistory) : accessHistory (beforeMedia h) = h := by
  unfold accessHistory beforeMedia
  rw [List.filterMap_map]
  exact List.filterMap_some

theorem run_beforeMedia {h : AccessHistory} {a : AccessSystem}
    (hr : (access parseUuid t₀ S seed gcClientId).Run h a) :
    (media parseUuid t₀ S seed gcClientId T).Run (beforeMedia h) ⟨a, .start⟩ := by
  induction hr with
  | nil => exact .nil
  | @cons h a e hr hallowed ih =>
    have hmedia : (media parseUuid t₀ S seed gcClientId T).allowed (beforeMedia h) ⟨a, .start⟩
        (.access e) := by
      change (access parseUuid t₀ S seed gcClientId).allowed (accessHistory (beforeMedia h)) a e
      rw [accessHistory_beforeMedia]
      exact hallowed
    exact Machine.Run.cons _ ih hmedia

end Media

/-- After `hostHistory` the Meeting Controller gets its token. -/
abbrev mcTokenHistory : AccessHistory :=
  (.authority (.serviceToken (tokenPayload "mc" "t") tokenEnv), .authority (.serviceToken
    (.ok ⟨controllerToken, "Bearer", 3600, "service.write.mh service.write.gc"⟩))) :: hostHistory

/-- The host has joined, and the Meeting Controller has a token. -/
def mcTokenSystem : AccessSystem :=
  { hostSystem with
    store := (hostSystem.store.handleServiceToken clientSettings tokenEnv
      (tokenPayload "mc" "t")).1 }

theorem run_mcTokenHistory : (access some settingsTables clientSettings serviceSeed "gc").Run
    mcTokenHistory mcTokenSystem :=
  run_accessToken run_hostHistory (by decide +kernel)

theorem onlyHolder_mcTokenHistory :
    OnlyHolder clientSettings serviceSeed "gc" (authorityHistory mcTokenHistory) := by
  have hunanswered : ∀ x ∈ authorityHistory mcTokenHistory, ∀ answer,
      x.2 ≠ .admin (.ok answer) := by
    change ∀ x ∈ [_, _, _], _
    simp
  intro h' hs
  rw [credentials_of_unanswered ((run_authority run_mcTokenHistory).suffix hs)
    fun x hx => hunanswered x (hs.subset hx)]
  decide

/-- The Meeting Controller registers the meeting. -/
def mediaRequest : RegisterMeetingRequest := ⟨"meeting-1", "mc", "http://mc"⟩

theorem registerMeeting_mediaRequest : registerMeeting sampleVerifier
    (.bearer (serviceJson controllerToken)) mediaRequest = .accepted := by
  have hcall : mhAuthLayer.call sampleVerifier registerMeetingPath
      (.bearer (serviceJson controllerToken)) = .ok controllerToken.claims := by decide +kernel
  unfold registerMeeting
  rw [hcall]
  rfl

/-- The events of the Media Handler: the host connects after the registration. -/
def mediaEvents : List Mh.MhEvent :=
  [.register "meeting-1" "mc" "http://mc", .connect "conn-1" "meeting-1" "user-1", .handle, .handle,
    .resume "conn-1", .handle, .resume "conn-1", .handle]

/-- The host connects, and its connection is active and told to the Meeting Controller. -/
theorem run_mediaEvents : ∃ h, (media some settingsTables clientSettings serviceSeed "gc" 15).Run
    ((.handler .handle, .handler (some (.connected "http://mc" "meeting-1" "user-1"))) :: h)
      ⟨mcTokenSystem, ((mhMachine 15).playAll mediaEvents).1⟩ ∧
    accessHistory h = mcTokenHistory := by
  obtain ⟨_, token, claims, heq, htoken, hvalid, hmeeting, huser, _⟩ :=
    Mc.joinConnection_eq_ok joinConnection_hostRequest
  obtain rfl := Mc.ClientMessage.joinRequest.inj (Except.ok.inj heq)
  obtain rfl := Option.some.inj htoken
  have hissued : ∀ {token}, token = serviceJson controllerToken ∨ token = hostToken →
      token ∈ issued (authorityHistory (accessHistory (beforeMedia mcTokenHistory))) := by
    rw [accessHistory_beforeMedia]
    rintro _ (rfl | rfl)
    · exact List.mem_cons_self
    · exact List.mem_cons_of_mem _ List.mem_cons_self
  have hregister := run_registerMeeting (run_beforeMedia (T := 15) run_mcTokenHistory)
    (V := sampleVerifier) (fun _ _ _ _ _ => hissued (.inl rfl)) registerMeeting_mediaRequest
  have hconnect := run_connect (c := "conn-1") hregister rfl (V := joinVerifier)
    (fun _ _ _ _ _ => hissued (.inr rfl)) hvalid
  rw [← hmeeting, ← huser] at hconnect
  have hhandled := run_internal (run_internal hconnect (e := .handle) trivial trivial)
    (e := .handle) trivial trivial
  have hadded := run_internal (run_internal hhandled (e := .resume "conn-1") trivial trivial)
    (e := .handle) trivial trivial
  have htold := run_internal (run_internal hadded (e := .resume "conn-1") trivial trivial)
    (e := .handle) trivial trivial
  exact ⟨_, htold, accessHistory_beforeMedia _⟩

/-! ## Connections and notifications -/

section Results

variable {parseUuid : String → Option String} {t₀ : MeetingTables} {S : ClientSettings}
  {seed : Seed} {gcClientId : String} {T : ℕ} {h : MediaHistory} {s : MediaSystem}

/-- An active connection was let in, and its meeting is registered by a Meeting Controller. -/
theorem media_of_active (hr : (media parseUuid t₀ S seed gcClientId T).Run h s)
    (hholder : OnlyHolder S seed gcClientId (authorityHistory (accessHistory h)))
    {m p : String} {entry : ConnectionEntry} (hactive : entry ∈ s.handler.session.active m p) :
    LetIn parseUuid t₀ S seed gcClientId h entry.connectionId m p ∧
      ∃ registration, s.handler.session.registeredMeetings.lookup m = some registration ∧
        RegisteredAt S seed h m registration.mcGrpcEndpoint := by
  have hrun := run_handler hr
  have hsourced := (sourced_of_run hrun).session
  refine ⟨letIn_of_happened hr hholder (hsourced.active m p entry hactive), ?_⟩
  obtain ⟨registration, hlookup⟩ := Option.isSome_iff_exists.mp
    (AList.lookup_isSome.mpr ((opened_of_run hrun).active m p entry hactive))
  exact ⟨registration, hlookup, registeredAt_of_happened hr (hsourced.registered m _ hlookup)⟩

/-- The host, connected. -/
theorem media_of_active_host : ∃ h,
    LetIn some settingsTables clientSettings serviceSeed "gc" h "conn-1" "meeting-1" "user-1" ∧
      RegisteredAt clientSettings serviceSeed h "meeting-1" "http://mc" := by
  obtain ⟨h, hrun, haccess⟩ := run_mediaEvents
  have hholder : OnlyHolder clientSettings serviceSeed "gc" (authorityHistory (accessHistory h)) :=
    haccess ▸ onlyHolder_mcTokenHistory
  have hactive : (⟨"conn-1", "user-1", 0⟩ : ConnectionEntry) ∈
      ((mhMachine 15).playAll mediaEvents).1.session.active "meeting-1" "user-1" := by decide
  obtain ⟨hlet, registration, hlookup, hregistered⟩ := media_of_active hrun hholder hactive
  obtain rfl : registration = ⟨"mc", "http://mc", 0⟩ := by
    exact Option.some.inj (hlookup.symm.trans rfl)
  exact ⟨_, hlet, hregistered⟩

/-- A notification is about a connection that was let in, and goes to an endpoint that a
    Meeting Controller registered its meeting with. -/
theorem media_of_notification (hr : (media parseUuid t₀ S seed gcClientId T).Run h s)
    (hholder : OnlyHolder S seed gcClientId (authorityHistory (accessHistory h)))
    {e : Mh.MhEvent} {n : Notification} {h' : MediaHistory}
    (hn : (.handler e, .handler (some n)) :: h' <:+ h) :
    (∃ c, LetIn parseUuid t₀ S seed gcClientId h' c n.participant.1 n.participant.2) ∧
      RegisteredAt S seed h' n.participant.1 n.mcEndpoint := by
  have hbefore := (List.suffix_cons _ _).trans hn
  have hr' := hr.suffix hbefore
  obtain ⟨hanswer, _⟩ := hr.answer_of_suffix hn
  obtain ⟨⟨c, hopened⟩, mcId, hregistered⟩ :=
    sourced_notification (run_handler hr') (MediaReply.handler.inj hanswer).symm
  have hholder' := hholder.mono ((hbefore.filterMap accessTurn).filterMap authorityTurn)
  exact ⟨⟨c, letIn_of_happened hr' hholder' hopened⟩, registeredAt_of_happened hr' hregistered⟩

/-- The Meeting Controller is told of the host. -/
theorem media_of_notification_host : ∃ h,
    (∃ c, LetIn some settingsTables clientSettings serviceSeed "gc" h c "meeting-1" "user-1") ∧
      RegisteredAt clientSettings serviceSeed h "meeting-1" "http://mc" := by
  obtain ⟨h, hrun, haccess⟩ := run_mediaEvents
  have hholder : OnlyHolder clientSettings serviceSeed "gc" (authorityHistory (accessHistory h)) :=
    haccess ▸ onlyHolder_mcTokenHistory
  exact ⟨h, media_of_notification hrun hholder (List.suffix_refl _)⟩

end Results

end DarkTower.Mesh
