import DarkTower.Ac.SigningKeys
import DarkTower.Common.Claims
import DarkTower.Lib.Text
import Mathlib.Data.List.Perm.Basic

/-!
# User accounts of the Auth Controller

Model of `register_user` (`ac-service/src/services/user_service.rs:56`) and
`issue_user_token` (`token_service.rs:204`) on the tables `users`, `user_roles` and
`auth_events`. A call runs alone; what it does not decide itself (the clock, generated
ids, bcrypt, which query fails) is its environment. An insert of an event that fails is
warned about, and the call goes on.

* `issueUserToken_cases`: everything a login can do.
* `createAccount_cases`: everything a registration can do before its automatic login.
-/

namespace DarkTower.Ac

open DarkTower.Common DarkTower.Lib

/-- The limits of `config.rs`; `parse_rate_limit_i64` refuses a maximum of attempts
    below 1. -/
structure RateLimits where
  rateLimitWindowMinutes : ℕ
  rateLimitMaxAttempts : ℕ
  registrationRateLimitWindowMinutes : ℕ
  registrationRateLimitMaxAttempts : ℕ
  attemptsPos : 1 ≤ rateLimitMaxAttempts
  registrationPos : 1 ≤ registrationRateLimitMaxAttempts

/-- The start of a window of some minutes that ends now, in nanoseconds. -/
def windowStart (now : ℤ) (minutes : ℕ) : ℤ := now - fromSecs (minutes * 60)

/-- A row of `users`, as far as it is read. -/
structure User where
  userId : String
  orgId : String
  email : String
  passwordHash : String
  displayName : String
  isActive : Bool
deriving DecidableEq

/-- A row of `auth_events` about a user; `registration` is the flag of its metadata. -/
structure AuthEvent where
  eventType : String
  userId : String
  success : Bool
  failureReason : Option String
  ipAddress : Option String
  userAgent : Option String
  registration : Bool
  createdAt : ℤ
deriving DecidableEq

/-- The three tables, with the unique constraints of `users` and the foreign key of
    `auth_events`. The newest row comes first. -/
structure AuthStore where
  users : List User
  userRoles : List (String × String)
  authEvents : List AuthEvent
  userKey : (users.map (·.userId)).Nodup
  emailKey : (users.map fun u => (u.orgId, u.email)).Nodup
  eventUser : ∀ e ∈ authEvents, e.userId ∈ users.map (·.userId)

namespace AuthStore

variable (s : AuthStore)

/-- `get_by_email` (users.rs:31). -/
def getByEmail (orgId email : String) : Option User :=
  s.users.find? fun u => u.orgId = orgId ∧ u.email = email

/-- `email_exists_in_org` (users.rs:218). -/
def emailExistsInOrg (orgId email : String) : Bool := (s.getByEmail orgId email).isSome

/-- `get_user_roles` (users.rs:145). -/
def getUserRoles (userId : String) : List String :=
  ((s.userRoles.filter fun r => r.1 = userId).map (·.2)).insertionSort (· ≤ ·)

/-- `create_user` (users.rs:85), unless a unique constraint is violated. -/
def createUser (u : User) : Option AuthStore :=
  if h : u.userId ∉ s.users.map (·.userId) ∧
      (u.orgId, u.email) ∉ s.users.map fun u => (u.orgId, u.email) then
    some { s with
      users := u :: s.users
      userKey := List.nodup_cons.mpr ⟨h.1, s.userKey⟩
      emailKey := List.nodup_cons.mpr ⟨h.2, s.emailKey⟩
      eventUser := fun e he => List.mem_cons_of_mem _ (s.eventUser e he) }
  else none

/-- `add_user_role` (users.rs:169). -/
def addUserRole (userId role : String) : AuthStore :=
  { s with userRoles := s.userRoles.insert (userId, role) }

/-- `log_event` (auth_events.rs:11), or an insert that fails. The callers go on in either
    case. -/
def logEvent (failure : Bool) (e : AuthEvent) : AuthStore :=
  if h : failure = false ∧ e.userId ∈ s.users.map (·.userId) then
    { s with
      authEvents := e :: s.authEvents
      eventUser := by
        intro e' he'
        rcases List.mem_cons.mp he' with rfl | he'
        · exact h.2
        · exact s.eventUser e' he' }
  else s

/-- `get_failed_attempts_count_by_user` (auth_events.rs:197). -/
def failedAttemptsCountByUser (userId : String) (since : ℤ) : ℕ :=
  s.authEvents.countP fun e => e.userId = userId ∧ e.success = false ∧ since ≤ e.createdAt

/-- The query of `count_registrations_from_ip` (user_service.rs:208). -/
def countRegistrationsFromIp (ipAddress : String) (since : ℤ) : ℕ :=
  s.authEvents.countP fun e => e.ipAddress = some ipAddress ∧ e.eventType = "user_login" ∧
    e.success = true ∧ since ≤ e.createdAt

end AuthStore

/-! ## `issue_user_token` -/

/-- What a login does not decide itself. -/
structure TokenEnv where
  /-- `Utc::now` for the window. -/
  now : ℤ
  lookupFailure : Option String
  countFailure : Bool
  /-- `verify_client_secret`: password and stored hash. -/
  verifyClientSecret : String → String → Except String Bool
  rolesFailure : Option String
  /-- `get_active_key`: whether there is an active key. -/
  activeKey : Except String Bool
  /-- The decryption of the key and the signature. -/
  signUserJwt : UserClaims → Except String String
  /-- `Utc::now` in seconds for the claims. -/
  issuedAt : ℤ
  jti : String
  /-- The instant of the event that is logged. -/
  loggedAt : ℤ
  /-- The insert of the event fails. -/
  logFailure : Bool

/-- `UserTokenResponse` (token_service.rs:186). -/
structure UserTokenResponse where
  accessToken : String
  tokenType : String
  expiresIn : ℕ
deriving DecidableEq

/-- `TOKEN_EXPIRY_SECONDS`. -/
def userTokenExpirySeconds : ℕ := 3600

/-- The dummy hash for users that do not exist. -/
def dummyHash : String := "$2b$12$LQv3c1yqBWVHxkd0LHAkCOYz6TtxMQJqhN8/LewY5GyYqExt7YD3a"

/-- The event of `log_user_auth_event` (token_service.rs:340). -/
def userAuthEvent (userId : String) (failureReason : Option String)
    (ipAddress userAgent : Option String) (loggedAt : ℤ) : AuthEvent where
  eventType := if failureReason = none then "user_login" else "user_login_failed"
  userId := userId
  success := failureReason = none
  failureReason := failureReason
  ipAddress := ipAddress
  userAgent := userAgent
  registration := false
  createdAt := loggedAt

/-- The claims of a user token. -/
def userClaims (s : AuthStore) (user : User) (env : TokenEnv) : UserClaims where
  sub := user.userId
  orgId := user.orgId
  email := user.email
  roles := s.getUserRoles user.userId
  iat := env.issuedAt
  exp := env.issuedAt + userTokenExpirySeconds
  jti := env.jti

/-- The steps of `issue_user_token` between the check of the password and the event. -/
def signUserToken (s : AuthStore) (user : User) (env : TokenEnv) : Except AcError String :=
  match env.rolesFailure, env.activeKey with
  | some message, _ => .error (.database ("Failed to fetch user roles: " ++ message))
  | none, .error message => .error (.database ("Failed to fetch active key: " ++ message))
  | none, .ok false => .error (.crypto "No active signing key available")
  | none, .ok true =>
    match env.signUserJwt (userClaims s user env) with
    | .error message => .error (.crypto message)
    | .ok token => .ok token

/-- The count of failed attempts of a user; a query that fails counts 0. -/
def failedCount (L : RateLimits) (s : AuthStore) (env : TokenEnv) (user : User) : ℕ :=
  if env.countFailure then 0
  else s.failedAttemptsCountByUser user.userId (windowStart env.now L.rateLimitWindowMinutes)

/-- `issue_user_token` (token_service.rs:204). -/
def issueUserToken (L : RateLimits) (s : AuthStore) (orgId email password : String)
    (ipAddress userAgent : Option String) (env : TokenEnv) :
    AuthStore × Except AcError UserTokenResponse :=
  match env.lookupFailure with
  | some message => (s, .error (.database ("Failed to fetch user by email: " ++ message)))
  | none =>
    let user := s.getByEmail orgId email
    if ∃ u ∈ user, L.rateLimitMaxAttempts ≤ failedCount L s env u then
      (s, .error (.tooManyRequests (L.rateLimitWindowMinutes * 60)
        "Too many failed login attempts. Please try again later."))
    else
      match env.verifyClientSecret password ((user.map (·.passwordHash)).getD dummyHash), user with
      | .error message, _ => (s, .error (.crypto ("Password verification failed: " ++ message)))
      | .ok _, none => (s, .error .invalidCredentials)
      | .ok isValid, some user =>
        let log := fun reason =>
          s.logEvent env.logFailure
            (userAuthEvent user.userId reason ipAddress userAgent env.loggedAt)
        if ¬ user.isActive then
          (log (some "User account is inactive"), .error .invalidCredentials)
        else if ¬ isValid then (log (some "Invalid password"), .error .invalidCredentials)
        else
          match signUserToken s user env with
          | .error e => (s, .error e)
          | .ok token => (log none, .ok ⟨token, "Bearer", userTokenExpirySeconds⟩)

/-! ## `register_user` -/

/-- `RegistrationRequest` (user_service.rs:18). -/
structure RegistrationRequest where
  email : String
  password : String
  displayName : String

/-- `RegistrationResponse` (user_service.rs:26). -/
structure RegistrationResponse where
  userId : String
  email : String
  displayName : String
  accessToken : String
  tokenType : String
  expiresIn : ℕ
deriving DecidableEq

/-- What a registration does not decide itself. -/
structure RegisterEnv where
  /-- `Utc::now` for the window. -/
  now : ℤ
  countFailure : Bool
  emailCheckFailure : Option String
  /-- `hash_client_secret`, with the salt drawn for the account. -/
  hashClientSecret : String → Except String String
  /-- The generated key. -/
  userId : String
  createFailure : Bool
  roleFailure : Bool
  /-- The instant of the registration's event. -/
  registeredAt : ℤ
  /-- The insert of that event fails. -/
  eventFailure : Bool
  token : TokenEnv

/-- `is_valid_email` (user_service.rs:175). -/
def isValidEmail (email : String) : Bool :=
  match email.toList.splitOn '@' with
  | [localPart, domain] =>
    !localPart.isEmpty && decide (2 ≤ (domain.splitOn '.').length) &&
      (domain.splitOn '.').all fun part => !part.isEmpty
  | _ => false

/-- `MIN_PASSWORD_LENGTH`. -/
def minPasswordLength : ℕ := 8

/-- The event of `log_registration_event` (user_service.rs:232). -/
def registrationEvent (userId : String) (ipAddress userAgent : Option String)
    (registeredAt : ℤ) : AuthEvent where
  eventType := "user_login"
  userId := userId
  success := true
  failureReason := none
  ipAddress := ipAddress
  userAgent := userAgent
  registration := true
  createdAt := registeredAt

/-- The count that `register_user` compares with its limit; a query that fails counts 0. -/
def registrationCount (L : RateLimits) (s : AuthStore) (ipAddress : String) (env : RegisterEnv) :
    ℕ :=
  if env.countFailure then 0
  else
    s.countRegistrationsFromIp ipAddress (windowStart env.now L.registrationRateLimitWindowMinutes)

/-- The count reaches the limit of the address. -/
def LimitReached (L : RateLimits) (s : AuthStore) (ipAddress : Option String) (env : RegisterEnv) :
    Prop :=
  ∃ ip ∈ ipAddress, L.registrationRateLimitMaxAttempts ≤ registrationCount L s ip env

instance (L : RateLimits) (s : AuthStore) (ipAddress : Option String) (env : RegisterEnv) :
    Decidable (LimitReached L s ipAddress env) :=
  inferInstanceAs (Decidable (∃ ip ∈ ipAddress, _))

/-- The refusal of a registration. -/
def registrationLimitError (L : RateLimits) : AcError :=
  .tooManyRequests (L.registrationRateLimitWindowMinutes * 60)
    "Too many registration attempts. Please try again later."

/-- The checks of `register_user` before the account is made. -/
def checkRegistration (L : RateLimits) (s : AuthStore) (orgId : String)
    (request : RegistrationRequest) (ipAddress : Option String) (env : RegisterEnv) :
    Except AcError String :=
  if LimitReached L s ipAddress env then .error (registrationLimitError L)
  else if ¬ isValidEmail request.email then .error (.invalidToken "Invalid email format")
  else if request.password.utf8ByteSize < minPasswordLength then
    .error (.invalidToken
      ("Password must be at least " ++ toString minPasswordLength ++ " characters"))
  else if Text.trim request.displayName.toList = [] then
    .error (.invalidToken "Display name cannot be empty")
  else
    match env.emailCheckFailure, env.hashClientSecret request.password with
    | some message, _ => .error (.database ("Failed to check email existence: " ++ message))
    | none, passwordHash =>
      if s.emailExistsInOrg orgId request.email then
        .error (.invalidToken "An account with this email already exists")
      else
        match passwordHash with
        | .error message => .error (.crypto message)
        | .ok passwordHash => .ok passwordHash

/-- `register_user` (user_service.rs:57) up to the automatic login. -/
def createAccount (L : RateLimits) (s : AuthStore) (orgId : String) (request : RegistrationRequest)
    (ipAddress userAgent : Option String) (env : RegisterEnv) : AuthStore × Except AcError User :=
  match checkRegistration L s orgId request ipAddress env with
  | .error e => (s, .error e)
  | .ok passwordHash =>
    let user : User := ⟨env.userId, orgId, request.email, passwordHash,
      String.ofList (Text.trim request.displayName.toList), true⟩
    match s.createUser user, env.createFailure with
    | some s', false =>
      if env.roleFailure then (s', .error .internal)
      else
        ((s'.addUserRole user.userId "user").logEvent env.eventFailure
          (registrationEvent user.userId ipAddress userAgent env.registeredAt), .ok user)
    | _, _ => (s, .error .internal)

/-- `register_user` (user_service.rs:57). -/
def registerUser (L : RateLimits) (s : AuthStore) (orgId : String) (request : RegistrationRequest)
    (ipAddress userAgent : Option String) (env : RegisterEnv) :
    AuthStore × Except AcError RegistrationResponse :=
  match createAccount L s orgId request ipAddress userAgent env with
  | (s', .error e) => (s', .error e)
  | (s', .ok user) =>
    match issueUserToken L s' orgId request.email request.password ipAddress userAgent
      env.token with
    | (s'', .error e) => (s'', .error e)
    | (s'', .ok token) =>
      (s'', .ok ⟨user.userId, user.email, user.displayName, token.accessToken, token.tokenType,
        token.expiresIn⟩)

/-! ## What the calls do -/

/-- The error is `TooManyRequests`. -/
def AcError.IsTooManyRequests : AcError → Prop
  | .tooManyRequests _ _ => True
  | _ => False

section

variable {L : RateLimits} {s : AuthStore} {orgId email password : String}
  {ipAddress userAgent : Option String} {request : RegistrationRequest}

theorem AuthStore.getByEmail_mem {user : User} (h : s.getByEmail orgId email = some user) :
    user.userId ∈ s.users.map (·.userId) :=
  List.mem_map_of_mem (List.mem_of_find?_eq_some h)

theorem AuthStore.authEvents_logEvent {failure : Bool} {e : AuthEvent}
    (h : e.userId ∈ s.users.map (·.userId)) :
    (s.logEvent failure e).authEvents = if failure then s.authEvents else e :: s.authEvents := by
  unfold AuthStore.logEvent
  cases failure with
  | true => rw [dif_neg (by simp), if_pos rfl]
  | false => rw [dif_pos ⟨rfl, h⟩, if_neg Bool.false_ne_true]

theorem AuthStore.users_logEvent (failure : Bool) (e : AuthEvent) :
    (s.logEvent failure e).users = s.users := by
  unfold AuthStore.logEvent
  split_ifs <;> rfl

theorem AuthStore.createUser_eq_some {user : User} {s' : AuthStore}
    (h : s.createUser user = some s') :
    s'.users = user :: s.users ∧ s'.authEvents = s.authEvents ∧
      user.userId ∉ s.users.map (·.userId) := by
  unfold AuthStore.createUser at h
  split_ifs at h with hfree
  obtain rfl := Option.some.inj h
  exact ⟨rfl, rfl, hfree.1⟩

theorem signUserToken_error {user : User} {env : TokenEnv} {e : AcError}
    (h : signUserToken s user env = .error e) : ¬ e.IsTooManyRequests := by
  unfold signUserToken at h
  split at h
  · cases h
    exact id
  · cases h
    exact id
  · cases h
    exact id
  · split at h <;> cases h
    exact id

/-- Everything a login can do. -/
inductive TokenCase (L : RateLimits) (s : AuthStore) (orgId email : String)
    (ipAddress userAgent : Option String) (env : TokenEnv) :
    AuthStore × Except AcError UserTokenResponse → Prop
  /-- No event is logged; a locked account has reached the limit of failed attempts. -/
  | refused (e : AcError) (he : e.IsTooManyRequests → ∃ user, s.getByEmail orgId email = some user ∧
      L.rateLimitMaxAttempts ≤ failedCount L s env user) :
      TokenCase L s orgId email ipAddress userAgent env (s, .error e)
  | failed (e : AuthEvent) (huser : e.userId ∈ s.users.map (·.userId))
      (hfailed : e.success = false) :
      TokenCase L s orgId email ipAddress userAgent env
        (s.logEvent env.logFailure e, .error .invalidCredentials)
  | issued (userId : String) (huser : userId ∈ s.users.map (·.userId))
      (response : UserTokenResponse) :
      TokenCase L s orgId email ipAddress userAgent env
        (s.logEvent env.logFailure (userAuthEvent userId none ipAddress userAgent env.loggedAt),
          .ok response)

theorem issueUserToken_cases (L : RateLimits) (s : AuthStore) (orgId email password : String)
    (ipAddress userAgent : Option String) (env : TokenEnv) :
    TokenCase L s orgId email ipAddress userAgent env
      (issueUserToken L s orgId email password ipAddress userAgent env) := by
  unfold issueUserToken
  split
  · exact .refused _ fun h => h.elim
  · dsimp only
    split_ifs with hlocked
    · exact .refused _ fun _ => hlocked
    · split
      next => exact .refused _ fun h => h.elim
      next => exact .refused _ fun h => h.elim
      next isValid user _ huser =>
        have hmem := AuthStore.getByEmail_mem huser
        split
        · exact .failed (userAuthEvent user.userId (some _) _ _ _) hmem rfl
        · split
          · exact .failed (userAuthEvent user.userId (some _) _ _ _) hmem rfl
          · split
            next e herror => exact .refused _ fun h => absurd h (signUserToken_error herror)
            next token _ => exact .issued user.userId hmem _

/-- The checks refuse with `TooManyRequests` only where the limit is reached. -/
theorem checkRegistration_error {env : RegisterEnv} {e : AcError}
    (h : checkRegistration L s orgId request ipAddress env = .error e) :
    e.IsTooManyRequests ↔ LimitReached L s ipAddress env := by
  by_cases hlimit : LimitReached L s ipAddress env
  · unfold checkRegistration at h
    rw [if_pos hlimit] at h
    cases h
    exact iff_of_true trivial hlimit
  · refine iff_of_false ?_ hlimit
    unfold checkRegistration at h
    rw [if_neg hlimit] at h
    split at h
    · cases h
      exact id
    · split at h
      · cases h
        exact id
      · split at h
        · cases h
          exact id
        · split at h
          · cases h
            exact id
          · split at h
            · cases h
              exact id
            · split at h <;> cases h
              exact id

theorem checkRegistration_ok {env : RegisterEnv} {passwordHash : String}
    (h : checkRegistration L s orgId request ipAddress env = .ok passwordHash) :
    ¬ LimitReached L s ipAddress env := by
  intro hlimit
  unfold checkRegistration at h
  rw [if_pos hlimit] at h
  cases h

/-- Everything a registration can do before its automatic login. -/
inductive AccountCase (L : RateLimits) (s : AuthStore) (orgId : String)
    (request : RegistrationRequest) (ipAddress userAgent : Option String) (env : RegisterEnv) :
    AuthStore × Except AcError User → Prop
  | rejected (s' : AuthStore) (e : AcError) (hevents : s'.authEvents = s.authEvents)
      (he : e.IsTooManyRequests ↔ LimitReached L s ipAddress env) :
      AccountCase L s orgId request ipAddress userAgent env (s', .error e)
  /-- The event is logged or its insert fails, and the user is new and found by its email. -/
  | created (s' : AuthStore) (user : User)
      (hevents : s'.authEvents = if env.eventFailure then s.authEvents else
        registrationEvent user.userId ipAddress userAgent env.registeredAt :: s.authEvents)
      (hfound : s'.getByEmail orgId request.email = some user)
      (hnew : user.userId ∉ s.users.map (·.userId))
      (hlimit : ¬ LimitReached L s ipAddress env) :
      AccountCase L s orgId request ipAddress userAgent env (s', .ok user)

theorem createAccount_cases (L : RateLimits) (s : AuthStore) (orgId : String)
    (request : RegistrationRequest) (ipAddress userAgent : Option String) (env : RegisterEnv) :
    AccountCase L s orgId request ipAddress userAgent env
      (createAccount L s orgId request ipAddress userAgent env) := by
  unfold createAccount
  split
  next e herror => exact .rejected _ _ rfl (checkRegistration_error herror)
  next passwordHash hok =>
    have hlimit := checkRegistration_ok hok
    dsimp only
    split
    next s' hcreated _ =>
      obtain ⟨husers, hevents, hnew⟩ := AuthStore.createUser_eq_some hcreated
      split_ifs
      · exact .rejected _ _ hevents (iff_of_false id hlimit)
      · refine .created _ _ ?_ ?_ hnew hlimit
        · rw [AuthStore.authEvents_logEvent]
          · rw [← hevents]
            rfl
          · show env.userId ∈ (s'.addUserRole env.userId "user").users.map (·.userId)
            show env.userId ∈ s'.users.map (·.userId)
            rw [husers]
            exact List.mem_cons_self
        · unfold AuthStore.getByEmail
          rw [AuthStore.users_logEvent]
          show s'.users.find? _ = _
          rw [husers, List.find?_cons_of_pos]
          simp
    next => exact .rejected _ _ rfl (iff_of_false id hlimit)

end

end DarkTower.Ac
