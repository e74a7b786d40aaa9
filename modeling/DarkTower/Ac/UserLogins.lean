import DarkTower.Ac.Tenancy

/-!
# Who logs in

Runs of the routes for users from empty tables.

* `issueUserToken_login`: everything a login can do, with its account.
* `tokenFor_of_run`: an access token is for an account that a registration of the same
  organization made, with its email, to someone whose password fits the hash.
* `locked_iff_of_run`: a login is refused as locked exactly if the failed logins of the
  account in the window whose events were inserted reach the limit.
-/

namespace DarkTower.Ac

open DarkTower.Common DarkTower.Lib

/-! ## A login -/

section

variable {L : RateLimits} {s : AuthStore} {orgId email password : String}
  {ipAddress userAgent : Option String} {env : TokenEnv}

/-- The account has reached the limit of failed logins, and the queries say so. -/
def Locked (L : RateLimits) (s : AuthStore) (orgId email : String) (env : TokenEnv) : Prop :=
  env.lookupFailure = none ∧ ∃ user, s.getByEmail orgId email = some user ∧
    L.rateLimitMaxAttempts ≤ failedCount L s env user

/-- Everything a login can do, with its account. -/
inductive LoginCase (L : RateLimits) (s : AuthStore) (orgId email password : String)
    (ipAddress userAgent : Option String) (env : TokenEnv) :
    AuthStore × Except AcError UserTokenResponse → Prop
  | refused (e : AcError) (hlocked : e.IsTooManyRequests ↔ Locked L s orgId email env)
      (hunknown : e = .invalidCredentials → s.getByEmail orgId email = none) :
      LoginCase L s orgId email password ipAddress userAgent env (s, .error e)
  | failed (user : User) (hfound : s.getByEmail orgId email = some user)
      (hfree : ¬ Locked L s orgId email env) (reason : String) :
      LoginCase L s orgId email password ipAddress userAgent env
        (s.logEvent env.logFailure
            (userAuthEvent user.userId (some reason) ipAddress userAgent env.loggedAt),
          .error .invalidCredentials)
  | issued (user : User) (hfound : s.getByEmail orgId email = some user)
      (hfree : ¬ Locked L s orgId email env)
      (hverified : env.verifyClientSecret password user.passwordHash = .ok true) (token : String)
      (hsigned : env.signUserJwt (userClaims s user env) = .ok token) :
      LoginCase L s orgId email password ipAddress userAgent env
        (s.logEvent env.logFailure
            (userAuthEvent user.userId none ipAddress userAgent env.loggedAt),
          .ok ⟨token, "Bearer", userTokenExpirySeconds⟩)

theorem signUserToken_eq_ok {user : User} {token : String}
    (h : signUserToken s user env = .ok token) :
    env.signUserJwt (userClaims s user env) = .ok token := by
  unfold signUserToken at h
  split at h
  · cases h
  · cases h
  · cases h
  · split at h
    · cases h
    next hsigned => rw [hsigned, Except.ok.inj h]

/-- A token that is not signed is no matter of credentials. -/
theorem signUserToken_credentials {user : User} {e : AcError}
    (h : signUserToken s user env = .error e) : e ≠ .invalidCredentials := by
  rintro rfl
  unfold signUserToken at h
  split at h
  · cases h
  · cases h
  · cases h
  · split at h <;> cases h

theorem issueUserToken_login (L : RateLimits) (s : AuthStore) (orgId email password : String)
    (ipAddress userAgent : Option String) (env : TokenEnv) :
    LoginCase L s orgId email password ipAddress userAgent env
      (issueUserToken L s orgId email password ipAddress userAgent env) := by
  unfold issueUserToken
  split
  next message hlookup =>
    refine .refused _ (iff_of_false id ?_) fun h => by cases h
    rintro ⟨hnone, _⟩
    cases hlookup.symm.trans hnone
  next hlookup =>
    dsimp only
    split_ifs with hlocked
    · exact .refused _ (iff_of_true trivial ⟨hlookup, hlocked⟩) fun h => by cases h
    · have hfree : ¬ Locked L s orgId email env := fun h => hlocked h.2
      split
      next => exact .refused _ (iff_of_false id hfree) fun h => by cases h
      next hnone => exact .refused _ (iff_of_false id hfree) fun _ => hnone
      next isValid user hverified hfound =>
        rw [hfound] at hverified
        split
        · exact .failed user hfound hfree _
        · split
          · exact .failed user hfound hfree _
          next hvalid =>
            split
            next e herror =>
              exact .refused _ (iff_of_false (signUserToken_error herror) hfree) fun h =>
                absurd h (signUserToken_credentials herror)
            next token hsigned =>
              rw [not_not] at hvalid
              subst hvalid
              exact .issued user hfound hfree hverified token (signUserToken_eq_ok hsigned)

end

/-! ## A registration -/

section

variable {L : RateLimits} {s : AuthStore} {orgId passwordHash : String}
  {request : RegistrationRequest} {ipAddress userAgent : Option String} {env : RegisterEnv}

theorem checkRegistration_credentials {e : AcError}
    (h : checkRegistration L s orgId request ipAddress env = .error e) :
    e ≠ .invalidCredentials := by
  rintro rfl
  unfold checkRegistration registrationLimitError at h
  split at h
  · cases h
  split at h
  · cases h
  split at h
  · cases h
  split at h
  · cases h
  split at h
  · cases h
  split at h
  · cases h
  split at h <;> cases h

/-- The checks that a registration has passed. -/
theorem checkRegistration_spec
    (h : checkRegistration L s orgId request ipAddress env = .ok passwordHash) :
    isValidEmail request.email = true ∧ minPasswordLength ≤ request.password.utf8ByteSize ∧
      env.hashClientSecret request.password = .ok passwordHash := by
  unfold checkRegistration at h
  split at h
  · cases h
  split at h
  · cases h
  next hemail =>
    split at h
    · cases h
    next hlength =>
      split at h
      · cases h
      split at h
      · cases h
      split at h
      · cases h
      split at h
      · cases h
      next hash hhash =>
        rw [not_not] at hemail
        exact ⟨hemail, not_lt.mp hlength, hhash.trans (congrArg _ (Except.ok.inj h))⟩

/-- Everything a registration can do. -/
inductive RegisterCase (L : RateLimits) (s : AuthStore) (orgId : String)
    (request : RegistrationRequest) (ipAddress userAgent : Option String) (env : RegisterEnv) :
    AuthStore × Except AcError RegistrationResponse → Prop
  /-- No event is logged; the user may be inserted, without a role. -/
  | rejected (s' : AuthStore) (e : AcError)
      (husers : s'.users = s.users ∨ ∃ passwordHash,
        Inserts L s orgId request ipAddress env passwordHash ∧
          s'.users = env.newUser orgId request passwordHash :: s.users)
      (hroles : s'.userRoles = s.userRoles) (hevents : s'.authEvents = s.authEvents)
      (he : e ≠ .invalidCredentials) :
      RegisterCase L s orgId request ipAddress userAgent env (s', .error e)
  | created (passwordHash : String)
      (hinserts : Inserts L s orgId request ipAddress env passwordHash)
      (s' : AuthStore) (husers : s'.users = env.newUser orgId request passwordHash :: s.users)
      (hroles : s'.userRoles = s.userRoles.insert (env.userId, "user"))
      (hevents : s'.authEvents = if env.eventFailure then s.authEvents else
        registrationEvent env.userId ipAddress userAgent env.registeredAt :: s.authEvents)
      (login : AuthStore × Except AcError UserTokenResponse)
      (hlogin : LoginCase L s' orgId request.email request.password ipAddress userAgent env.token
        login) :
      RegisterCase L s orgId request ipAddress userAgent env
        (login.1, login.2.map fun token => ⟨env.userId, request.email,
          String.ofList (Text.trim request.displayName.toList), token.accessToken, token.tokenType,
          token.expiresIn⟩)

theorem createUser_of_inserts (h : Inserts L s orgId request ipAddress env passwordHash) :
    ∃ s', s.createUser (env.newUser orgId request passwordHash) = some s' ∧
      s'.users = env.newUser orgId request passwordHash :: s.users ∧
      s'.userRoles = s.userRoles ∧ s'.authEvents = s.authEvents :=
  ⟨_, dif_pos h.2.1, rfl, rfl, rfl⟩

/-- An account that is not made fails before the automatic login. -/
theorem createAccount_credentials {s' : AuthStore} {e : AcError}
    (h : createAccount L s orgId request ipAddress userAgent env = (s', .error e)) :
    e ≠ .invalidCredentials := by
  rintro rfl
  unfold createAccount at h
  split at h
  next herror =>
    rw [Except.error.inj (Prod.mk.inj h).2] at herror
    exact checkRegistration_credentials herror rfl
  · dsimp only at h
    split at h
    · split_ifs at h
      · cases (Prod.mk.inj h).2
      · cases (Prod.mk.inj h).2
    · cases (Prod.mk.inj h).2

theorem registerUser_case (L : RateLimits) (s : AuthStore) (orgId : String)
    (request : RegistrationRequest) (ipAddress userAgent : Option String) (env : RegisterEnv) :
    RegisterCase L s orgId request ipAddress userAgent env
      (registerUser L s orgId request ipAddress userAgent env) := by
  by_cases hinserts : ∃ passwordHash, Inserts L s orgId request ipAddress env passwordHash
  · obtain ⟨passwordHash, hinserts⟩ := hinserts
    obtain ⟨s', hcreated, husers, hroles, hevents⟩ := createUser_of_inserts hinserts
    have haccount := createAccount_inserted userAgent hinserts hcreated
    unfold registerUser
    rw [haccount]
    by_cases hrole : env.roleFailure = true
    · rw [if_pos hrole]
      exact .rejected s' _ (.inr ⟨passwordHash, hinserts, husers⟩) hroles hevents (by simp)
    · rw [if_neg hrole]
      let s'' := (s'.addUserRole env.userId "user").logEvent env.eventFailure
        (registrationEvent env.userId ipAddress userAgent env.registeredAt)
      have husers'' : s''.users = env.newUser orgId request passwordHash :: s.users := by
        rw [AuthStore.users_logEvent]
        exact husers
      have hroles'' : s''.userRoles = s.userRoles.insert (env.userId, "user") := by
        rw [AuthStore.userRoles_logEvent, ← hroles]
        rfl
      have hevents'' : s''.authEvents = if env.eventFailure then s.authEvents else
          registrationEvent env.userId ipAddress userAgent env.registeredAt :: s.authEvents := by
        rw [AuthStore.authEvents_logEvent, ← hevents]
        · rfl
        · change env.userId ∈ s'.users.map (·.userId)
          rw [husers]
          exact List.mem_cons_self
      have hcase := RegisterCase.created passwordHash hinserts s'' husers'' hroles'' hevents'' _
        (issueUserToken_login L s'' orgId request.email request.password ipAddress userAgent
          env.token)
      dsimp only
      rcases hlogin : issueUserToken L s'' orgId request.email request.password ipAddress userAgent
        env.token with ⟨s₁, _ | token⟩
      · rw [hlogin] at hcase
        exact hcase
      · rw [hlogin] at hcase
        exact hcase
  · obtain ⟨e, haccount⟩ := createAccount_of_not_inserts userAgent (not_exists.mp hinserts)
    have he := createAccount_credentials haccount
    unfold registerUser
    rw [haccount]
    exact .rejected s e (.inl rfl) rfl rfl he

end

/-! ## Accounts -/

/-- A registration with a request that made an account. -/
structure UserRegistration (T : Organizations) (h : UserHistory) (user : User)
    (request : UserRequest) (payload : RegistrationRequest) (env : RegisterEnv)
    (context : OrgContext) (passwordHash : String) : Prop where
  called : ∃ reply h', (request, reply) :: h' <:+ h
  body : request.body = .register payload env
  organization : request.context T = .ok context
  validEmail : isValidEmail payload.email = true
  passwordLength : minPasswordLength ≤ payload.password.utf8ByteSize
  hashed : env.hashClientSecret payload.password = .ok passwordHash
  row : user = env.newUser context.orgId payload passwordHash

/-- The account was made by a registration of the history. -/
def Registered (T : Organizations) (h : UserHistory) (user : User) : Prop :=
  ∃ request payload env context passwordHash,
    UserRegistration T h user request payload env context passwordHash

theorem Registered.mono {T : Organizations} {h h' : UserHistory} {user : User}
    (hregistered : Registered T h user) (hs : h <:+ h') : Registered T h' user := by
  obtain ⟨request, payload, env, context, passwordHash, hmade⟩ := hregistered
  obtain ⟨reply, before, hcalled⟩ := hmade.called
  exact ⟨request, payload, env, context, passwordHash,
    { hmade with called := ⟨reply, before, hcalled.trans hs⟩ }⟩

section

variable {L : RateLimits} {T : Organizations} {h : UserHistory} {s : AuthStore}
  {orgId email password : String} {ipAddress userAgent : Option String}

theorem users_login {env : TokenEnv} {login : AuthStore × Except AcError UserTokenResponse}
    (hcase : LoginCase L s orgId email password ipAddress userAgent env login) :
    login.1.users = s.users ∧ login.1.userRoles = s.userRoles := by
  cases hcase with
  | refused => exact ⟨rfl, rfl⟩
  | failed => exact ⟨AuthStore.users_logEvent _ _, AuthStore.userRoles_logEvent _ _⟩
  | issued => exact ⟨AuthStore.users_logEvent _ _, AuthStore.userRoles_logEvent _ _⟩

theorem users_register {request : RegistrationRequest} {env : RegisterEnv}
    {result : AuthStore × Except AcError RegistrationResponse}
    (hcase : RegisterCase L s orgId request ipAddress userAgent env result) :
    result.1.users = s.users ∨ ∃ passwordHash,
      Inserts L s orgId request ipAddress env passwordHash ∧
        result.1.users = env.newUser orgId request passwordHash :: s.users := by
  cases hcase with
  | rejected s' e husers => exact husers
  | created passwordHash hinserts s' husers hroles hevents login hlogin =>
    exact .inr ⟨passwordHash, hinserts, (users_login hlogin).1.trans husers⟩

theorem roles_register {request : RegistrationRequest} {env : RegisterEnv}
    {result : AuthStore × Except AcError RegistrationResponse}
    (hcase : RegisterCase L s orgId request ipAddress userAgent env result) :
    ∀ r ∈ result.1.userRoles, r ∈ s.userRoles ∨ r = (env.userId, "user") := by
  cases hcase with
  | rejected s' e husers hroles =>
    intro r hr
    exact .inl (hroles ▸ hr)
  | created passwordHash hinserts s' husers hroles hevents login hlogin =>
    intro r hr
    rw [(users_login hlogin).2, hroles] at hr
    exact (List.mem_insert_iff.mp hr).symm

/-- What a run from empty tables has in `users` and `user_roles`. -/
structure AccountsOf (T : Organizations) (h : UserHistory) (s : AuthStore) : Prop where
  users : ∀ user ∈ s.users, Registered T h user
  roles : ∀ r ∈ s.userRoles, r.2 = "user"

theorem AccountsOf.step (hs : AccountsOf T h s) (request : UserRequest) :
    AccountsOf T ((request, (userStep L T s request).2) :: h) (userStep L T s request).1 := by
  generalize hreply : (userStep L T s request).2 = reply
  have hold : ∀ user ∈ s.users, Registered T ((request, reply) :: h) user :=
    fun user hmem => (hs.users user hmem).mono (List.suffix_cons _ _)
  unfold userStep UserRequest.handle
  split
  · exact ⟨hold, hs.roles⟩
  next context hcontext =>
    split
    next payload env hbody =>
      have hcase := registerUser_case L s context.orgId payload (some request.addr)
        request.userAgent env
      refine ⟨?_, fun r hr => ?_⟩
      · rcases users_register hcase with husers | ⟨passwordHash, hinserts, husers⟩
        · exact husers ▸ hold
        · intro user hmem
          rw [show (handleRegister L s context request.addr request.userAgent payload env).1.users =
            _ from husers] at hmem
          rcases List.mem_cons.mp hmem with rfl | hmem
          · obtain ⟨hemail, hlength, hhash⟩ := checkRegistration_spec hinserts.1
            exact ⟨request, payload, env, context, passwordHash, ⟨reply, h, List.suffix_refl _⟩,
              hbody, hcontext, hemail, hlength, hhash, rfl⟩
          · exact hold user hmem
      · rcases roles_register hcase r hr with hr | rfl
        · exact hs.roles r hr
        · rfl
    next email password env hbody =>
      obtain ⟨husers, hroles⟩ := users_login (issueUserToken_login L s context.orgId email password
        (some request.addr) request.userAgent env)
      exact ⟨husers ▸ hold, hroles ▸ hs.roles⟩

theorem accountsOf_of_run (hr : (userRoutes L T noUsers).Run h s) : AccountsOf T h s := by
  refine Machine.Run.invariant (I := AccountsOf T) ⟨?_, ?_⟩ ?_ hr
  · exact fun user hmem => absurd hmem List.not_mem_nil
  · exact fun r hr => absurd hr List.not_mem_nil
  · exact fun h s request _ _ hs => hs.step request

end

/-! ## Tokens -/

/-- The access token of an answer. -/
def UserReply.accessToken : UserReply → Option String
  | .registered (.ok response) => some response.accessToken
  | .issued (.ok response) => some response.accessToken
  | _ => none

/-- The email address in a request. -/
def UserBody.email : UserBody → String
  | .register payload _ => payload.email
  | .token email _ _ => email

/-- The password in a request. -/
def UserBody.password : UserBody → String
  | .register payload _ => payload.password
  | .token _ password _ => password

/-- The environment of the login, automatic or not. -/
def UserBody.tokenEnv : UserBody → TokenEnv
  | .register _ env => env.token
  | .token _ _ env => env

/-- The token of a login is for the account with the email, and signed over its claims. -/
theorem token_of_login {L : RateLimits} {s : AuthStore} {orgId email password : String}
    {ipAddress userAgent : Option String} {env : TokenEnv}
    {login : AuthStore × Except AcError UserTokenResponse}
    (hcase : LoginCase L s orgId email password ipAddress userAgent env login)
    {response : UserTokenResponse} (hok : login.2 = .ok response) :
    ∃ user ∈ login.1.users, user.orgId = orgId ∧ user.email = email ∧
      env.verifyClientSecret password user.passwordHash = .ok true ∧
      env.signUserJwt (userClaims login.1 user env) = .ok response.accessToken := by
  have htables := users_login hcase
  cases hcase with
  | refused => cases hok
  | failed => cases hok
  | issued user hfound hfree hverified token hsigned =>
    obtain rfl := Except.ok.inj hok
    obtain ⟨hmem, horg, hemail⟩ := AuthStore.getByEmail_spec hfound
    refine ⟨user, htables.1 ▸ hmem, horg, hemail, hverified, ?_⟩
    have hclaims : userClaims (s.logEvent env.logFailure (userAuthEvent user.userId none ipAddress
        userAgent env.loggedAt)) user env = userClaims s user env := by
      unfold userClaims AuthStore.getUserRoles
      rw [htables.2]
    rw [hclaims]
    exact hsigned

/-- A request whose answer has a token for an account, signed over some claims. -/
structure TokenFor (T : Organizations) (h : UserHistory) (request : UserRequest) (text : String)
    (user : User) (claims : UserClaims) : Prop where
  registered : Registered T h user
  organization : ∃ context, request.context T = .ok context ∧ context.orgId = user.orgId
  sameEmail : request.body.email = user.email
  verified : request.body.tokenEnv.verifyClientSecret request.body.password user.passwordHash =
    .ok true
  signed : request.body.tokenEnv.signUserJwt claims = .ok text
  sub : claims.sub = user.userId
  orgId : claims.orgId = user.orgId
  email : claims.email = user.email
  roles : ∀ role ∈ claims.roles, role = "user"
  iat : claims.iat = request.body.tokenEnv.issuedAt
  exp : claims.exp = request.body.tokenEnv.issuedAt + userTokenExpirySeconds

theorem role_of_getUserRoles {T : Organizations} {h : UserHistory} {s : AuthStore}
    (hs : AccountsOf T h s) (userId : String) : ∀ role ∈ s.getUserRoles userId, role = "user" := by
  intro role hrole
  rw [AuthStore.getUserRoles, List.mem_insertionSort] at hrole
  obtain ⟨r, hr, rfl⟩ := List.mem_map.mp hrole
  exact hs.roles r (List.mem_of_mem_filter hr)

/-- The login behind the token of an answer. -/
theorem tokenLogin_of_step {L : RateLimits} {T : Organizations} {s : AuthStore}
    {request : UserRequest} {text : String}
    (htoken : (userStep L T s request).2.accessToken = some text) :
    ∃ context, request.context T = .ok context ∧
      ∃ user ∈ (userStep L T s request).1.users, user.orgId = context.orgId ∧
        user.email = request.body.email ∧
        request.body.tokenEnv.verifyClientSecret request.body.password user.passwordHash =
          .ok true ∧
        request.body.tokenEnv.signUserJwt (userClaims (userStep L T s request).1 user
          request.body.tokenEnv) = .ok text := by
  unfold userStep UserRequest.handle at htoken ⊢
  split at htoken
  · cases htoken
  next context hcontext =>
    refine ⟨context, hcontext, ?_⟩
    cases hbody : request.body with
    | register payload env =>
      rw [hbody] at htoken
      have hcase := registerUser_case L s context.orgId payload (some request.addr)
        request.userAgent env
      dsimp only [handleRegister] at htoken ⊢
      generalize registerUser L s context.orgId payload (some request.addr) request.userAgent env =
        result at hcase htoken ⊢
      cases hcase with
      | rejected => cases htoken
      | created passwordHash hinserts s' husers hroles hevents login hlogin =>
        dsimp only at htoken ⊢
        cases hresult : login.2 with
        | error e =>
          rw [hresult] at htoken
          cases htoken
        | ok response =>
          rw [hresult] at htoken
          obtain rfl := Option.some.inj htoken
          exact token_of_login hlogin hresult
    | token email password env =>
      rw [hbody] at htoken
      have hcase := issueUserToken_login L s context.orgId email password (some request.addr)
        request.userAgent env
      dsimp only [handleUserToken] at htoken ⊢
      generalize issueUserToken L s context.orgId email password (some request.addr)
        request.userAgent env = login at hcase htoken ⊢
      cases hresult : login.2 with
      | error e =>
        rw [hresult] at htoken
        cases htoken
      | ok response =>
        rw [hresult] at htoken
        obtain rfl := Option.some.inj htoken
        exact token_of_login hcase hresult

/-- Every token of a run is for an account that a registration of the organization made, with
    its email, given to someone whose password fits the hash. -/
theorem tokenFor_of_run {L : RateLimits} {T : Organizations} {h : UserHistory} {s : AuthStore}
    (hr : (userRoutes L T noUsers).Run h s) {request : UserRequest} {reply : UserReply}
    {h' : UserHistory} (hs : (request, reply) :: h' <:+ h) {text : String}
    (htoken : reply.accessToken = some text) :
    ∃ user claims, TokenFor T ((request, reply) :: h') request text user claims := by
  obtain ⟨hreply, _⟩ := hr.answer_of_suffix hs
  have haccounts := accountsOf_of_run (hr.suffix hs)
  change reply = (userStep L T ((userRoutes L T noUsers).stateAfter h') request).2 at hreply
  rw [hreply] at htoken
  obtain ⟨context, hcontext, user, hmem, horg, hemail, hverified, hsigned⟩ :=
    tokenLogin_of_step htoken
  exact ⟨user, _, haccounts.users user hmem, ⟨context, hcontext, horg.symm⟩, hemail.symm, hverified,
    hsigned, rfl, rfl, rfl, role_of_getUserRoles haccounts user.userId, rfl, rfl⟩

/-! ## Locked accounts -/

/-- The failed login of an existing account, if its event is inserted: its id, and when it was
    logged. -/
def failedLogin (s : AuthStore) (orgId : String) : UserBody → UserReply → Option (String × ℤ)
  | .token email _ env, .issued (.error .invalidCredentials) =>
    if env.logFailure then none
    else (s.getByEmail orgId email).map fun user => (user.userId, env.loggedAt)
  | .register _ env, .registered (.error .invalidCredentials) =>
    if env.token.logFailure then none else some (env.userId, env.token.loggedAt)
  | _, _ => none

/-- The failed logins of a history that were logged, newest first. -/
def failedLogins (L : RateLimits) (T : Organizations) : UserHistory → List (String × ℤ)
  | [] => []
  | (request, reply) :: h =>
    let s := (userRoutes L T noUsers).stateAfter h
    match request.context T with
    | .error _ => failedLogins L T h
    | .ok context =>
      (failedLogin s context.orgId request.body reply).toList ++ failedLogins L T h

/-- The failed logins in `auth_events`. -/
def AuthStore.failedStamps (s : AuthStore) : List (String × ℤ) :=
  (s.authEvents.filter fun e => !e.success).map fun e => (e.userId, e.createdAt)

theorem AuthStore.failedAttempts_eq (s : AuthStore) (userId : String) (since : ℤ) :
    s.failedAttemptsCountByUser userId since =
      s.failedStamps.countP fun x => x.1 = userId ∧ since ≤ x.2 := by
  unfold failedAttemptsCountByUser failedStamps
  rw [List.countP_map, List.countP_filter]
  refine List.countP_congr fun e _ => ?_
  rw [Function.comp_apply, Bool.and_eq_true, decide_eq_true_iff, decide_eq_true_iff,
    Bool.not_eq_true']
  tauto

theorem failedStamps_congr {s s' : AuthStore} (h : s'.authEvents = s.authEvents) :
    s'.failedStamps = s.failedStamps := by
  unfold AuthStore.failedStamps
  rw [h]

theorem failedStamps_cons {s s' : AuthStore} {failure : Bool} {e : AuthEvent}
    (h : s'.authEvents = if failure then s.authEvents else e :: s.authEvents) :
    s'.failedStamps = if failure || e.success then s.failedStamps
      else (e.userId, e.createdAt) :: s.failedStamps := by
  unfold AuthStore.failedStamps
  rw [h]
  cases failure with
  | true => rfl
  | false =>
    cases hsuccess : e.success with
    | true => simp [hsuccess]
    | false => simp [hsuccess]

section

variable {L : RateLimits} {T : Organizations} {h : UserHistory} {s : AuthStore}
  {orgId email password : String} {ipAddress userAgent : Option String}

theorem failedLogin_error {env : TokenEnv} {e : AcError} (he : e ≠ .invalidCredentials) :
    failedLogin s orgId (.token email password env) (.issued (.error e)) = none := by
  cases e with
  | invalidCredentials => exact absurd rfl he
  | _ => rfl

theorem failedLogin_register_error {request : RegistrationRequest} {env : RegisterEnv}
    {e : AcError} (he : e ≠ .invalidCredentials) :
    failedLogin s orgId (.register request env) (.registered (.error e)) = none := by
  cases e with
  | invalidCredentials => exact absurd rfl he
  | _ => rfl

theorem failedStamps_login {env : TokenEnv} {login : AuthStore × Except AcError UserTokenResponse}
    (hcase : LoginCase L s orgId email password ipAddress userAgent env login) :
    login.1.failedStamps =
      (failedLogin s orgId (.token email password env) (.issued login.2)).toList ++
        s.failedStamps := by
  cases hcase with
  | refused e hlocked hunknown =>
    by_cases he : e = .invalidCredentials
    · subst he
      rw [failedLogin, hunknown rfl, Option.map_none, ite_self]
      rfl
    · rw [failedLogin_error he]
      rfl
  | failed user hfound hfree reason =>
    have hmem := AuthStore.getByEmail_mem hfound
    rw [failedLogin, hfound, failedStamps_cons (AuthStore.authEvents_logEvent hmem)]
    cases env.logFailure <;> rfl
  | issued user hfound hfree hverified token hsigned =>
    have hmem := AuthStore.getByEmail_mem hfound
    rw [failedStamps_cons (AuthStore.authEvents_logEvent hmem)]
    cases env.logFailure <;> rfl

/-- A failed automatic login is one of the new account. -/
theorem failedLogin_register {request : RegistrationRequest} {env : RegisterEnv} {s' : AuthStore}
    {passwordHash : String}
    (husers : s'.users = env.newUser orgId request passwordHash :: s.users)
    (result : Except AcError UserTokenResponse)
    (response : UserTokenResponse → RegistrationResponse) :
    failedLogin s' orgId (.token request.email request.password env.token) (.issued result) =
      failedLogin s orgId (.register request env) (.registered (result.map response)) := by
  have hfound : s'.getByEmail orgId request.email =
      some (env.newUser orgId request passwordHash) := by
    rw [AuthStore.getByEmail, husers, List.find?_cons_of_pos]
    simp [RegisterEnv.newUser]
  cases result with
  | ok token => rfl
  | error e =>
    by_cases he : e = .invalidCredentials
    · subst he
      rw [failedLogin, hfound]
      rfl
    · rw [failedLogin_error he]
      exact (failedLogin_register_error he).symm

theorem failedStamps_register {request : RegistrationRequest} {env : RegisterEnv}
    {result : AuthStore × Except AcError RegistrationResponse}
    (hcase : RegisterCase L s orgId request ipAddress userAgent env result) :
    result.1.failedStamps =
      (failedLogin s orgId (.register request env) (.registered result.2)).toList ++
        s.failedStamps := by
  cases hcase with
  | rejected s' e husers hroles hevents he =>
    rw [failedLogin_register_error he]
    exact failedStamps_congr hevents
  | created passwordHash hinserts s' husers hroles hevents login hlogin =>
    have hcreated : s'.failedStamps = s.failedStamps := by
      rw [failedStamps_cons hevents]
      exact if_pos (Bool.or_true _)
    dsimp only
    rw [failedStamps_login hlogin, hcreated, failedLogin_register husers]

/-- The failed logins of a run are those that its tables have. -/
theorem failedStamps_of_run (hr : (userRoutes L T noUsers).Run h s) :
    s.failedStamps = failedLogins L T h := by
  refine Machine.Run.invariant (I := fun h s => s.failedStamps = failedLogins L T h) rfl ?_ hr
  intro h s request hr _ hs
  rw [failedLogins, ← hr.eq_stateAfter, ← hs]
  change (userStep L T s request).1.failedStamps =
    match request.context T with
    | .error _ => s.failedStamps
    | .ok context => (failedLogin s context.orgId request.body
      (userStep L T s request).2).toList ++ s.failedStamps
  unfold userStep UserRequest.handle
  cases request.context T with
  | error e => rfl
  | ok context =>
    cases request.body with
    | register payload env => exact failedStamps_register (registerUser_case ..)
    | token email password env => exact failedStamps_login (issueUserToken_login ..)

theorem locked_iff_login {env : TokenEnv} {login : AuthStore × Except AcError UserTokenResponse}
    (hcase : LoginCase L s orgId email password ipAddress userAgent env login) :
    (∃ e, login.2 = .error e ∧ e.IsTooManyRequests) ↔ Locked L s orgId email env := by
  cases hcase with
  | refused e hlocked =>
    rw [← hlocked]
    constructor
    · rintro ⟨e', herror, he'⟩
      obtain rfl := Except.error.inj herror
      exact he'
    · exact fun he => ⟨e, rfl, he⟩
  | failed user hfound hfree =>
    refine iff_of_false ?_ hfree
    rintro ⟨e, herror, he⟩
    obtain rfl := Except.error.inj herror
    exact he
  | issued user hfound hfree =>
    refine iff_of_false ?_ hfree
    rintro ⟨e, herror, _⟩
    cases herror

theorem getByEmail_of_mem {user : User} (hmem : user ∈ s.users) (horg : user.orgId = orgId)
    (hemail : user.email = email) : s.getByEmail orgId email = some user := by
  cases hfound : s.getByEmail orgId email with
  | none =>
    have hnone := List.find?_eq_none.mp hfound user hmem
    exact absurd (decide_eq_true ⟨horg, hemail⟩) hnone
  | some user' =>
    obtain ⟨hmem', horg', hemail'⟩ := AuthStore.getByEmail_spec hfound
    rw [List.inj_on_of_nodup_map s.emailKey hmem' hmem]
    rw [horg', hemail', horg, hemail]

/-- Locked, as the count of failed logins. -/
theorem locked_iff_count {env : TokenEnv} :
    Locked L s orgId email env ↔ env.lookupFailure = none ∧ env.countFailure = false ∧
      ∃ user ∈ s.users, user.orgId = orgId ∧ user.email = email ∧
        L.rateLimitMaxAttempts ≤ s.failedStamps.countP fun x =>
          x.1 = user.userId ∧ windowStart env.now L.rateLimitWindowMinutes ≤ x.2 := by
  unfold Locked failedCount
  refine and_congr_right fun _ => ?_
  cases env.countFailure with
  | true =>
    refine iff_of_false ?_ fun h => by cases h.1
    rintro ⟨_, _, hcount⟩
    rw [if_pos rfl] at hcount
    have := L.attemptsPos
    omega
  | false =>
    rw [and_iff_right rfl]
    constructor
    · rintro ⟨user, hfound, hcount⟩
      obtain ⟨hmem, horg, hemail⟩ := AuthStore.getByEmail_spec hfound
      rw [if_neg Bool.false_ne_true, AuthStore.failedAttempts_eq] at hcount
      exact ⟨user, hmem, horg, hemail, hcount⟩
    · rintro ⟨user, hmem, horg, hemail, hcount⟩
      refine ⟨user, getByEmail_of_mem hmem horg hemail, ?_⟩
      rw [if_neg Bool.false_ne_true, AuthStore.failedAttempts_eq]
      exact hcount

end

/-- A login is refused as locked exactly if the queries succeed and the logged failures of the
    account in the window reach the limit, whatever its password. -/
theorem locked_iff_of_run (L : RateLimits) (T : Organizations) {h : UserHistory} {s : AuthStore}
    (hr : (userRoutes L T noUsers).Run h s) {request : UserRequest}
    {result : Except AcError UserTokenResponse} {h' : UserHistory}
    (hs : (request, .issued result) :: h' <:+ h) :
    ∃ email password env context, request.body = .token email password env ∧
      request.context T = .ok context ∧
      ((∃ e, result = .error e ∧ e.IsTooManyRequests) ↔
        env.lookupFailure = none ∧ env.countFailure = false ∧
          ∃ user ∈ ((userRoutes L T noUsers).stateAfter h').users,
            user.orgId = context.orgId ∧ user.email = email ∧
              L.rateLimitMaxAttempts ≤ (failedLogins L T h').countP fun x =>
                x.1 = user.userId ∧ windowStart env.now L.rateLimitWindowMinutes ≤ x.2) := by
  obtain ⟨hreply, _⟩ := hr.answer_of_suffix hs
  have hlogged := failedStamps_of_run (hr.suffix ((List.suffix_cons _ _).trans hs))
  rw [← hlogged]
  generalize (userRoutes L T noUsers).stateAfter h' = s' at hreply ⊢
  change UserReply.issued result = (userStep L T s' request).2 at hreply
  unfold userStep UserRequest.handle at hreply
  cases hcontext : request.context T with
  | error e =>
    rw [hcontext] at hreply
    cases hreply
  | ok context =>
    rw [hcontext] at hreply
    cases hbody : request.body with
    | register payload env =>
      rw [hbody] at hreply
      cases hreply
    | token email password env =>
      rw [hbody] at hreply
      obtain rfl := UserReply.issued.inj hreply
      exact ⟨email, password, env, context, rfl, rfl,
        (locked_iff_login (issueUserToken_login ..)).trans locked_iff_count⟩

/-! ## An account that is locked -/

/-- One failed login locks. -/
def strictLimits : RateLimits := { defaultLimits with
  rateLimitMaxAttempts := 1
  attemptsPos := Nat.le_refl 1 }

/-- A login with the password. -/
def lastLogin : UserRequest :=
  sampleRequest "acme.localhost" (.token "a@example.org" "password" (sampleToken 2))

/-- A registration, and a login with a wrong password. -/
def wrongPassword : List UserRequest :=
  [sampleRequest "acme.example.org" (sampleRegistration "user-1" 0),
    sampleRequest "acme.example.org" (.token "a@example.org" "guess"
      { sampleToken 1 with verifyClientSecret := fun _ _ => .ok false })]

/-- The user routes with limits of one attempt. -/
abbrev strictRoutes := userRoutes strictLimits twoOrganizations noUsers

theorem locked_iff_of_run_wrongPassword :
    ∃ result h, (strictRoutes.playAll (wrongPassword ++ [lastLogin])).2 =
        (lastLogin, .issued result) :: h ∧ ∃ e, result = .error e ∧ e.IsTooManyRequests := by
  have hrun : strictRoutes.Run (strictRoutes.playAll (wrongPassword ++ [lastLogin])).2
      (strictRoutes.playAll (wrongPassword ++ [lastLogin])).1 := Machine.run_of_admits (by decide)
  refine ⟨_, _, rfl, ?_⟩
  obtain ⟨email, password, env, context, hbody, hcontext, hlocked⟩ :=
    locked_iff_of_run strictLimits twoOrganizations hrun (List.suffix_refl _)
  obtain ⟨rfl, rfl, rfl⟩ := UserBody.token.inj hbody
  obtain rfl : context = ⟨"org-1", "acme"⟩ := Except.ok.inj (hcontext.symm.trans (by decide))
  exact hlocked.mpr ⟨rfl, rfl, _, List.mem_cons_self, rfl, rfl, by decide⟩

end DarkTower.Ac
