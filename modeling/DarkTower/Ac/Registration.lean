import DarkTower.Ac.RegistrationLimit

/-!
# What a failed registration leaves behind

`register_user` (user_service.rs:57) inserts the user, inserts the role and logs in
with the new account, without a transaction around them. An error before the first
insert leaves the tables as they were, an error after it leaves the account.

* `createAccount_inserted`, `issueUserToken_isOk_iff`: what follows once the user is
  inserted.
* `registration_atomic_iff`: an error leaves `users` and `user_roles` as they were iff
  the user is not inserted or everything after the insert succeeds; otherwise every
  later registration with the same email fails.
* `noKey_leaves_user`: a registration without an active signing key.
-/

namespace DarkTower.Ac

open DarkTower.Common DarkTower.Lib

/-- The row that `register_user` inserts. -/
def RegisterEnv.newUser (env : RegisterEnv) (orgId : String) (request : RegistrationRequest)
    (passwordHash : String) : User :=
  ⟨env.userId, orgId, request.email, passwordHash,
    String.ofList (Text.trim request.displayName.toList), true⟩

section

variable (L : RateLimits) (s : AuthStore) (orgId : String) (request : RegistrationRequest)
  (ipAddress userAgent : Option String) (env : RegisterEnv)

/-- The checks pass and the row is inserted. -/
def Inserts (passwordHash : String) : Prop :=
  checkRegistration L s orgId request ipAddress env = .ok passwordHash ∧
    (env.userId ∉ s.users.map (·.userId) ∧
      (orgId, request.email) ∉ s.users.map fun u => (u.orgId, u.email)) ∧
    env.createFailure = false

/-- The role is inserted, and the automatic login finds the account, accepts the password
    and signs a token. -/
def Finishes (passwordHash : String) : Prop :=
  env.roleFailure = false ∧ env.token.lookupFailure = none ∧
    env.token.verifyClientSecret request.password passwordHash = .ok true ∧
    ∃ token, signUserToken (s.addUserRole env.userId "user")
      (env.newUser orgId request passwordHash) env.token = .ok token

/-- An error leaves `users` and `user_roles` as they were. -/
def AllOrNothing : Prop :=
  ∀ e, (registerUser L s orgId request ipAddress userAgent env).2 = .error e →
    (registerUser L s orgId request ipAddress userAgent env).1.users = s.users ∧
      (registerUser L s orgId request ipAddress userAgent env).1.userRoles = s.userRoles

end

section

variable {L : RateLimits} {s : AuthStore} {orgId passwordHash : String}
  {request : RegistrationRequest} {ipAddress : Option String} {env : RegisterEnv}

/-! ## The login -/

theorem AuthStore.userRoles_logEvent (failure : Bool) (e : AuthEvent) :
    (s.logEvent failure e).userRoles = s.userRoles := by
  unfold AuthStore.logEvent
  split_ifs <;> rfl

/-- A login touches `auth_events` only. -/
theorem issueUserToken_tables (L : RateLimits) (s : AuthStore) (orgId email password : String)
    (ipAddress userAgent : Option String) (tokenEnv : TokenEnv) :
    (issueUserToken L s orgId email password ipAddress userAgent tokenEnv).1.users = s.users ∧
      (issueUserToken L s orgId email password ipAddress userAgent tokenEnv).1.userRoles =
        s.userRoles := by
  have hcase := issueUserToken_cases L s orgId email password ipAddress userAgent tokenEnv
  generalize issueUserToken L s orgId email password ipAddress userAgent tokenEnv = r at hcase ⊢
  cases hcase with
  | refused e he => exact ⟨rfl, rfl⟩
  | failed e huser hfailed =>
    exact ⟨AuthStore.users_logEvent _ e, AuthStore.userRoles_logEvent _ e⟩
  | issued userId huser response =>
    exact ⟨AuthStore.users_logEvent _ _, AuthStore.userRoles_logEvent _ _⟩

/-- The login of an active account that is not locked. -/
theorem issueUserToken_isOk_iff (password : String) (ipAddress userAgent : Option String)
    {email : String} {tokenEnv : TokenEnv} {user : User}
    (hfound : s.getByEmail orgId email = some user)
    (hfree : failedCount L s tokenEnv user < L.rateLimitMaxAttempts)
    (hactive : user.isActive = true) :
    (∃ response, (issueUserToken L s orgId email password ipAddress userAgent tokenEnv).2 =
        .ok response) ↔
      tokenEnv.lookupFailure = none ∧
        tokenEnv.verifyClientSecret password user.passwordHash = .ok true ∧
        ∃ token, signUserToken s user tokenEnv = .ok token := by
  have hunlocked : ¬ ∃ u ∈ s.getByEmail orgId email,
      L.rateLimitMaxAttempts ≤ failedCount L s tokenEnv u := by
    rintro ⟨u, hu, hlocked⟩
    obtain rfl := Option.some.inj (hfound.symm.trans hu)
    omega
  unfold issueUserToken
  cases hlookup : tokenEnv.lookupFailure with
  | some message => simp
  | none =>
    dsimp only
    rw [if_neg hunlocked, hfound]
    dsimp only [Option.map_some, Option.getD_some]
    cases hverify : tokenEnv.verifyClientSecret password user.passwordHash with
    | error message => simp
    | ok isValid =>
      cases isValid with
      | false => simp [hactive]
      | true =>
        cases hsign : signUserToken s user tokenEnv with
        | error e => simp [hactive, hsign]
        | ok token => simp [hactive, hsign]

/-! ## The registration -/

theorem createAccount_of_not_inserts (userAgent : Option String)
    (h : ∀ passwordHash, ¬ Inserts L s orgId request ipAddress env passwordHash) :
    ∃ e, createAccount L s orgId request ipAddress userAgent env = (s, .error e) := by
  unfold createAccount
  split
  · rename_i e herror
    exact ⟨e, rfl⟩
  · rename_i passwordHash hok
    dsimp only
    split
    · rename_i s' hcreated hfailure
      refine absurd ⟨hok, ?_, hfailure⟩ (h passwordHash)
      by_contra htaken
      rw [AuthStore.createUser, dif_neg htaken] at hcreated
      cases hcreated
    · exact ⟨_, rfl⟩

theorem createAccount_inserted (userAgent : Option String)
    (h : Inserts L s orgId request ipAddress env passwordHash) {s' : AuthStore}
    (hcreated : s.createUser (env.newUser orgId request passwordHash) = some s') :
    createAccount L s orgId request ipAddress userAgent env =
      if env.roleFailure then (s', .error .internal)
      else
        ((s'.addUserRole env.userId "user").logEvent env.eventFailure
          (registrationEvent env.userId ipAddress userAgent env.registeredAt),
          .ok (env.newUser orgId request passwordHash)) := by
  unfold createAccount
  rw [h.1, h.2.2]
  dsimp only
  unfold RegisterEnv.newUser at hcreated
  rw [hcreated]
  rfl

/-- Once the user is inserted, the call fails at the role or logs in with the account. -/
theorem createAccount_of_inserts (userAgent : Option String)
    (h : Inserts L s orgId request ipAddress env passwordHash) :
    ∃ s', s'.users = env.newUser orgId request passwordHash :: s.users ∧
      if env.roleFailure then
        createAccount L s orgId request ipAddress userAgent env = (s', .error .internal)
      else
        createAccount L s orgId request ipAddress userAgent env =
            (s', .ok (env.newUser orgId request passwordHash)) ∧
          s'.userRoles = (s.addUserRole env.userId "user").userRoles ∧
          s'.authEvents = if env.eventFailure then s.authEvents else
            registrationEvent env.userId ipAddress userAgent env.registeredAt :: s.authEvents := by
  have hcreated : ∃ s', s.createUser (env.newUser orgId request passwordHash) = some s' ∧
      s'.users = env.newUser orgId request passwordHash :: s.users ∧
      s'.userRoles = s.userRoles ∧ s'.authEvents = s.authEvents :=
    ⟨_, dif_pos h.2.1, rfl, rfl, rfl⟩
  obtain ⟨s', hcreated, husers, hroles, hevents⟩ := hcreated
  rw [createAccount_inserted userAgent h hcreated]
  by_cases hrole : env.roleFailure = true
  · simp only [if_pos hrole]
    exact ⟨s', husers, rfl⟩
  · simp only [if_neg hrole]
    refine ⟨(s'.addUserRole env.userId "user").logEvent _ _, ?_, rfl, ?_, ?_⟩
    · rw [AuthStore.users_logEvent]
      exact husers
    · rw [AuthStore.userRoles_logEvent]
      show s'.userRoles.insert _ = s.userRoles.insert _
      rw [hroles]
    · rw [AuthStore.authEvents_logEvent, ← hevents]
      · rfl
      · show env.userId ∈ s'.users.map (·.userId)
        rw [husers]
        exact List.mem_cons_self

theorem signUserToken_congr {s s' : AuthStore} (h : s'.userRoles = s.userRoles) (user : User)
    (tokenEnv : TokenEnv) : signUserToken s' user tokenEnv = signUserToken s user tokenEnv := by
  have hclaims : userClaims s' user tokenEnv = userClaims s user tokenEnv := by
    unfold userClaims AuthStore.getUserRoles
    rw [h]
  unfold signUserToken
  rw [hclaims]

/-- With an inserted user the call succeeds iff everything after the insert does. -/
theorem registerUser_isOk_iff (userAgent : Option String)
    (h : Inserts L s orgId request ipAddress env passwordHash) :
    (∃ response, (registerUser L s orgId request ipAddress userAgent env).2 = .ok response) ↔
      Finishes s orgId request env passwordHash := by
  obtain ⟨s', husers, haccount⟩ := createAccount_of_inserts userAgent h
  unfold registerUser Finishes
  cases hrole : env.roleFailure with
  | true =>
    rw [hrole, if_pos rfl] at haccount
    rw [haccount]
    simp
  | false =>
    rw [hrole, if_neg Bool.false_ne_true] at haccount
    obtain ⟨haccount, hroles, hevents⟩ := haccount
    rw [haccount, ← signUserToken_congr hroles]
    have hfound : s'.getByEmail orgId request.email =
        some (env.newUser orgId request passwordHash) := by
      rw [AuthStore.getByEmail, husers, List.find?_cons_of_pos]
      simp [RegisterEnv.newUser]
    have hfree : failedCount L s' env.token (env.newUser orgId request passwordHash) <
        L.rateLimitMaxAttempts := by
      rw [failedCount_new hevents h.2.1.1]
      exact L.attemptsPos
    have hlogin := issueUserToken_isOk_iff request.password ipAddress userAgent hfound hfree rfl
    rw [and_iff_right rfl]
    refine Iff.trans ?_ hlogin
    dsimp only
    generalize issueUserToken L s' orgId request.email request.password ipAddress userAgent
      env.token = login
    obtain ⟨s'', result⟩ := login
    cases result with
    | error e => simp
    | ok token => simp

/-- An inserted user stays. -/
theorem registerUser_users (userAgent : Option String)
    (h : Inserts L s orgId request ipAddress env passwordHash) :
    (registerUser L s orgId request ipAddress userAgent env).1.users =
      env.newUser orgId request passwordHash :: s.users := by
  obtain ⟨s', husers, haccount⟩ := createAccount_of_inserts userAgent h
  rw [← husers]
  unfold registerUser
  cases hrole : env.roleFailure with
  | true =>
    rw [hrole, if_pos rfl] at haccount
    rw [haccount]
  | false =>
    rw [hrole, if_neg Bool.false_ne_true] at haccount
    rw [haccount.1]
    have htables := issueUserToken_tables L s' orgId request.email request.password ipAddress
      userAgent env.token
    dsimp only
    generalize issueUserToken L s' orgId request.email request.password ipAddress userAgent
      env.token = login at htables
    obtain ⟨s'', result⟩ := login
    cases result with
    | error e => exact htables.1
    | ok token => exact htables.1

theorem allOrNothing_iff (userAgent : Option String) :
    AllOrNothing L s orgId request ipAddress userAgent env ↔
    ∀ passwordHash, Inserts L s orgId request ipAddress env passwordHash →
      Finishes s orgId request env passwordHash := by
  by_cases hinserts : ∃ passwordHash, Inserts L s orgId request ipAddress env passwordHash
  · obtain ⟨passwordHash, hinserts⟩ := hinserts
    constructor
    · intro hatomic passwordHash' hinserts'
      rw [← registerUser_isOk_iff userAgent hinserts']
      cases hresult : (registerUser L s orgId request ipAddress userAgent env).2 with
      | ok response => exact ⟨response, rfl⟩
      | error e =>
        have husers := (hatomic e hresult).1
        rw [registerUser_users userAgent hinserts'] at husers
        exact absurd husers (List.cons_ne_self _ _)
    · intro hfinishes e herror
      obtain ⟨response, hok⟩ := (registerUser_isOk_iff userAgent hinserts).mpr
        (hfinishes passwordHash hinserts)
      rw [hok] at herror
      cases herror
  · have hnot : ∀ passwordHash, ¬ Inserts L s orgId request ipAddress env passwordHash :=
      fun passwordHash h => hinserts ⟨passwordHash, h⟩
    refine iff_of_true (fun e _ => ?_) fun passwordHash h => absurd h (hnot passwordHash)
    obtain ⟨e', haccount⟩ := createAccount_of_not_inserts userAgent hnot
    unfold registerUser
    rw [haccount]
    exact ⟨rfl, rfl⟩

/-- A registration with an email that is taken fails. -/
theorem registerUser_of_taken {user : User} (hmem : user ∈ s.users) (horg : user.orgId = orgId)
    (hemail : user.email = request.email) (userAgent : Option String) :
    ∃ e, (registerUser L s orgId request ipAddress userAgent env).2 = .error e := by
  have hnot : ∀ passwordHash, ¬ Inserts L s orgId request ipAddress env passwordHash := by
    rintro passwordHash ⟨_, ⟨_, hfree⟩, _⟩
    exact hfree (List.mem_map.mpr ⟨user, hmem, by rw [horg, hemail]⟩)
  obtain ⟨e, haccount⟩ := createAccount_of_not_inserts userAgent hnot
  refine ⟨e, ?_⟩
  unfold registerUser
  rw [haccount]

end

/-- A registration that fails leaves `users` and `user_roles` as they were iff it does not
    insert the user or everything after the insert succeeds. Otherwise the email is taken:
    every later registration with it in the organization fails. -/
theorem registration_atomic_iff (L : RateLimits) (s : AuthStore) (orgId : String)
    (request : RegistrationRequest) (ipAddress userAgent : Option String) (env : RegisterEnv) :
    (AllOrNothing L s orgId request ipAddress userAgent env ↔
      ∀ passwordHash, Inserts L s orgId request ipAddress env passwordHash →
        Finishes s orgId request env passwordHash) ∧
    (¬ AllOrNothing L s orgId request ipAddress userAgent env →
      ∀ request' ipAddress' userAgent' env', request'.email = request.email →
        ∃ e, (registerUser L (registerUser L s orgId request ipAddress userAgent env).1 orgId
          request' ipAddress' userAgent' env').2 = .error e) := by
  refine ⟨allOrNothing_iff userAgent, fun hnot request' ipAddress' userAgent' env' hemail => ?_⟩
  rw [allOrNothing_iff] at hnot
  obtain ⟨passwordHash, hnot⟩ := not_forall.mp hnot
  obtain ⟨hinserts, _⟩ := Classical.not_imp.mp hnot
  have hmem : env.newUser orgId request passwordHash ∈
      (registerUser L s orgId request ipAddress userAgent env).1.users := by
    rw [registerUser_users userAgent hinserts]
    exact List.mem_cons_self
  exact registerUser_of_taken hmem rfl hemail.symm userAgent'

/-! ## Without an active signing key -/

/-- The registration of a new email, while there is no active key. -/
def noKeyEnv : RegisterEnv where
  now := 0
  countFailure := false
  emailCheckFailure := none
  hashClientSecret := fun _ => .ok "hash"
  userId := "user-1"
  createFailure := false
  roleFailure := false
  registeredAt := 0
  eventFailure := false
  token := { sampleToken 0 with activeKey := .ok false }

/-- A user who registers. -/
def aliceRequest : RegistrationRequest := ⟨"a@example.org", "password", "Alice"⟩

/-- The call returns an error and leaves the user and the role, and the same call with an
    active key is refused. -/
theorem noKey_leaves_user :
    (registerUser defaultLimits noAccounts.val "org-1" aliceRequest none none noKeyEnv).2 =
        .error (.crypto "No active signing key available") ∧
      ¬ AllOrNothing defaultLimits noAccounts.val "org-1" aliceRequest none none noKeyEnv ∧
      (registerUser defaultLimits
        (registerUser defaultLimits noAccounts.val "org-1" aliceRequest none none noKeyEnv).1
        "org-1" aliceRequest none none
        { noKeyEnv with userId := "user-2", token := sampleToken 1 }).2 =
        .error (.invalidToken "An account with this email already exists") := by
  have herror : (registerUser defaultLimits noAccounts.val "org-1" aliceRequest none none
      noKeyEnv).2 = .error (.crypto "No active signing key available") := by decide
  refine ⟨herror, fun hatomic => ?_, by decide⟩
  exact absurd (hatomic _ herror).1 (by decide)

end DarkTower.Ac
