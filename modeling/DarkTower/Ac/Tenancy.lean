import DarkTower.Ac.UserRoutes

/-!
# Organizations do not see each other's requests

All organizations share the tables `users`, `user_roles` and `auth_events`; what one of them
has there is `AuthStore.restrict`.

* `issueUserToken_restrict`, `registerUser_restrict`: a request does to its organization
  what it would do in a database of that organization alone, with the same answer, and
  nothing to another.
* `purge_of_run`: leaving the requests with other hosts out of a run gives a run with the
  same answers.

Organizations share the limit of registrations from an address: the results are about
registrations that it does not refuse.
-/

namespace DarkTower.Ac

open DarkTower.Common DarkTower.Lib

/-! ## The tables of one organization -/

namespace AuthStore

variable {s s' : AuthStore} {orgId : String}

theorem eq_of (husers : s.users = s'.users) (hroles : s.userRoles = s'.userRoles)
    (hevents : s.authEvents = s'.authEvents) : s = s' := by
  obtain ⟨users, userRoles, authEvents, _, _, _⟩ := s
  obtain ⟨users', userRoles', authEvents', _, _, _⟩ := s'
  obtain rfl : users = users' := husers
  obtain rfl : userRoles = userRoles' := hroles
  obtain rfl : authEvents = authEvents' := hevents
  rfl

/-- The organization has a user with the id. -/
def has (s : AuthStore) (orgId userId : String) : Bool :=
  s.users.any fun u => u.orgId = orgId ∧ u.userId = userId

/-- What an organization has in the tables. -/
def restrict (s : AuthStore) (orgId : String) : AuthStore where
  users := s.users.filter (·.orgId = orgId)
  userRoles := s.userRoles.filter fun r => s.has orgId r.1
  authEvents := s.authEvents.filter fun e => s.has orgId e.userId
  userKey := s.userKey.sublist (List.filter_sublist.map _)
  emailKey := s.emailKey.sublist (List.filter_sublist.map _)
  eventUser := by
    intro e he
    obtain ⟨u, hu, horg⟩ := List.any_eq_true.mp (List.mem_filter.mp he).2
    obtain ⟨horg, hid⟩ := of_decide_eq_true horg
    exact List.mem_map.mpr ⟨u, List.mem_filter.mpr ⟨hu, decide_eq_true horg⟩, hid⟩

@[simp] theorem restrict_users :
    (s.restrict orgId).users = s.users.filter (·.orgId = orgId) := rfl

@[simp] theorem restrict_userRoles :
    (s.restrict orgId).userRoles = s.userRoles.filter fun r => s.has orgId r.1 := rfl

@[simp] theorem restrict_authEvents :
    (s.restrict orgId).authEvents = s.authEvents.filter fun e => s.has orgId e.userId := rfl

theorem has_of_mem {u : User} (hu : u ∈ s.users) :
    s.has orgId u.userId = decide (u.orgId = orgId) := by
  rw [Bool.eq_iff_iff, has, List.any_eq_true, decide_eq_true_iff]
  constructor
  · rintro ⟨u', hu', hsame⟩
    obtain ⟨horg, hid⟩ := of_decide_eq_true hsame
    exact List.inj_on_of_nodup_map s.userKey hu' hu hid ▸ horg
  · exact fun horg => ⟨u, hu, decide_eq_true ⟨horg, rfl⟩⟩

theorem has_congr (husers : s'.users = s.users) : s'.has orgId = s.has orgId := by
  funext userId
  rw [has, has, husers]

/-! ### Queries -/

theorem getByEmail_restrict (email : String) :
    (s.restrict orgId).getByEmail orgId email = s.getByEmail orgId email := by
  rw [getByEmail, getByEmail, restrict, List.find?_filter]
  congr 1
  funext u
  by_cases horg : u.orgId = orgId <;> simp [horg]

theorem getByEmail_spec {email : String} {u : User} (h : s.getByEmail orgId email = some u) :
    u ∈ s.users ∧ u.orgId = orgId ∧ u.email = email := by
  have hfound := List.find?_some h
  exact ⟨List.mem_of_find?_eq_some h, of_decide_eq_true hfound⟩

theorem failedAttempts_restrict {u : User} (hu : u ∈ s.users) (horg : u.orgId = orgId)
    (since : ℤ) : (s.restrict orgId).failedAttemptsCountByUser u.userId since =
      s.failedAttemptsCountByUser u.userId since := by
  rw [failedAttemptsCountByUser, failedAttemptsCountByUser, restrict, List.countP_filter]
  refine List.countP_congr fun e _ => ?_
  by_cases hid : e.userId = u.userId
  · rw [hid, has_of_mem hu, decide_eq_true horg]
    simp
  · simp [hid]

theorem getUserRoles_restrict {u : User} (hu : u ∈ s.users) (horg : u.orgId = orgId) :
    (s.restrict orgId).getUserRoles u.userId = s.getUserRoles u.userId := by
  rw [getUserRoles, getUserRoles, restrict, List.filter_filter]
  congr 2
  refine List.filter_congr fun r _ => ?_
  by_cases hid : r.1 = u.userId
  · rw [hid, has_of_mem hu, decide_eq_true horg]
    simp
  · simp [hid]

theorem countRegistrations_restrict_le (ipAddress : String) (since : ℤ) :
    (s.restrict orgId).countRegistrationsFromIp ipAddress since ≤
      s.countRegistrationsFromIp ipAddress since :=
  List.Sublist.countP_le List.filter_sublist

/-! ### Updates -/

theorem restrict_logEvent {u : User} (hu : u ∈ s.users) (failure : Bool) {e : AuthEvent}
    (he : e.userId = u.userId) :
    (s.logEvent failure e).restrict orgId =
      if u.orgId = orgId then (s.restrict orgId).logEvent failure e else s.restrict orgId := by
  cases failure with
  | true => exact (ite_self _).symm
  | false =>
  have hhas : (s.logEvent false e).has orgId = s.has orgId := has_congr (users_logEvent false e)
  have hlogged : e.userId ∈ s.users.map (·.userId) := he ▸ List.mem_map_of_mem hu
  have hevents : (s.logEvent false e).authEvents = e :: s.authEvents :=
    authEvents_logEvent hlogged
  split_ifs with horg
  · have hmem : e.userId ∈ (s.restrict orgId).users.map (·.userId) :=
      he ▸ List.mem_map_of_mem (List.mem_filter.mpr ⟨hu, decide_eq_true horg⟩)
    refine eq_of ?_ ?_ ?_
    · rw [users_logEvent, restrict_users, restrict_users, users_logEvent]
    · rw [userRoles_logEvent, restrict_userRoles, restrict_userRoles, hhas, userRoles_logEvent]
    · have hrestrict : ((s.restrict orgId).logEvent false e).authEvents =
          e :: (s.restrict orgId).authEvents := authEvents_logEvent hmem
      rw [hrestrict, restrict_authEvents, restrict_authEvents, hhas, hevents,
        List.filter_cons_of_pos]
      rw [he, has_of_mem hu]
      exact decide_eq_true horg
  · refine eq_of ?_ ?_ ?_
    · rw [restrict_users, restrict_users, users_logEvent]
    · rw [restrict_userRoles, restrict_userRoles, hhas, userRoles_logEvent]
    · rw [restrict_authEvents, restrict_authEvents, hhas, hevents, List.filter_cons_of_neg]
      rw [he, has_of_mem hu]
      exact fun h => horg (of_decide_eq_true h)

theorem restrict_addUserRole {u : User} (hu : u ∈ s.users) (role : String) :
    (s.addUserRole u.userId role).restrict orgId =
      if u.orgId = orgId then (s.restrict orgId).addUserRole u.userId role
      else s.restrict orgId := by
  have hfilter : ((s.addUserRole u.userId role).restrict orgId).userRoles =
      (s.userRoles.insert (u.userId, role)).filter fun r => s.has orgId r.1 := rfl
  have hhas : s.has orgId u.userId = decide (u.orgId = orgId) := has_of_mem hu
  by_cases hmem : (u.userId, role) ∈ s.userRoles
  · rw [List.insert_of_mem hmem] at hfilter
    split_ifs with horg
    · refine eq_of rfl ?_ rfl
      have hmem' : (u.userId, role) ∈ s.userRoles.filter fun r => s.has orgId r.1 :=
        List.mem_filter.mpr ⟨hmem, hhas.trans (decide_eq_true horg)⟩
      exact hfilter.trans (List.insert_of_mem hmem').symm
    · exact eq_of rfl hfilter rfl
  · rw [List.insert_of_not_mem hmem] at hfilter
    split_ifs with horg
    · refine eq_of rfl ?_ rfl
      have hmem' : (u.userId, role) ∉ s.userRoles.filter fun r => s.has orgId r.1 :=
        fun h => hmem (List.mem_filter.mp h).1
      rw [hfilter, List.filter_cons_of_pos]
      · exact (List.insert_of_not_mem hmem').symm
      · exact hhas.trans (decide_eq_true horg)
    · refine eq_of rfl ?_ rfl
      rw [hfilter, List.filter_cons_of_neg]
      · rfl
      · exact fun h => horg (of_decide_eq_true (hhas.symm.trans h))

/-- A new user of an organization. -/
theorem restrict_createUser {u : User} (hroles : s.RolesOwned)
    (hnew : u.userId ∉ s.users.map (·.userId)) {s' : AuthStore} (h : s.createUser u = some s') :
    (u.orgId = orgId → (s.restrict orgId).createUser u = some (s'.restrict orgId)) ∧
      (u.orgId ≠ orgId → s'.restrict orgId = s.restrict orgId) := by
  obtain ⟨husers, hevents, _⟩ := createUser_eq_some h
  have huserRoles : s'.userRoles = s.userRoles := by
    unfold createUser at h
    split_ifs at h
    rw [← Option.some.inj h]
  -- nothing refers to the id yet
  have hhas : ∀ userId ∈ s.users.map (·.userId), s'.has orgId userId = s.has orgId userId := by
    intro userId hmem
    have hne : u.userId ≠ userId := fun heq => hnew (heq ▸ hmem)
    rw [has, has, husers, List.any_cons]
    simp [hne]
  have hroles' : s'.userRoles.filter (fun r => s'.has orgId r.1) =
      s.userRoles.filter fun r => s.has orgId r.1 := by
    rw [huserRoles]
    exact List.filter_congr fun r hr => hhas r.1 (hroles r hr)
  have hevents' : s'.authEvents.filter (fun e => s'.has orgId e.userId) =
      s.authEvents.filter fun e => s.has orgId e.userId := by
    rw [hevents]
    exact List.filter_congr fun e he => hhas e.userId (s.eventUser e he)
  constructor
  · intro horg
    unfold createUser at h
    split_ifs at h with hfree
    have hfree' : u.userId ∉ (s.restrict orgId).users.map (·.userId) ∧
        (u.orgId, u.email) ∉ (s.restrict orgId).users.map fun u => (u.orgId, u.email) :=
      ⟨fun hmem => hfree.1 ((List.filter_sublist.map _).subset hmem),
        fun hmem => hfree.2 ((List.filter_sublist.map _).subset hmem)⟩
    rw [createUser, dif_pos hfree', Option.some.injEq]
    refine eq_of ?_ hroles'.symm hevents'.symm
    change u :: (s.restrict orgId).users = (s'.restrict orgId).users
    rw [restrict_users, restrict_users, husers, List.filter_cons_of_pos]
    exact decide_eq_true horg
  · intro horg
    refine eq_of ?_ hroles' hevents'
    rw [restrict_users, restrict_users, husers, List.filter_cons_of_neg]
    exact fun heq => horg (of_decide_eq_true heq)

/-- A new user whose email is taken in its organization. -/
theorem createUser_restrict_none {u : User} (hnew : u.userId ∉ s.users.map (·.userId))
    (h : s.createUser u = none) : (s.restrict u.orgId).createUser u = none := by
  unfold createUser at h ⊢
  split_ifs at h with hfree
  have htaken : (u.orgId, u.email) ∈ s.users.map fun u => (u.orgId, u.email) := by
    by_contra hemail
    exact hfree ⟨hnew, hemail⟩
  obtain ⟨u', hu', heq⟩ := List.mem_map.mp htaken
  refine dif_neg fun hfree' => hfree'.2 (List.mem_map.mpr ⟨u', List.mem_filter.mpr ⟨hu', ?_⟩, heq⟩)
  exact decide_eq_true (Prod.mk.inj heq).1

end AuthStore

/-! ## Logins -/

section Requests

variable {L : RateLimits} {s : AuthStore} {orgId orgId' email password : String}
  {ipAddress userAgent : Option String}

theorem failedCount_restrict {u : User} (hu : u ∈ s.users) (horg : u.orgId = orgId)
    (env : TokenEnv) : failedCount L (s.restrict orgId) env u = failedCount L s env u := by
  unfold failedCount
  split_ifs
  · rfl
  · exact AuthStore.failedAttempts_restrict hu horg _

theorem signUserToken_restrict {u : User} (hu : u ∈ s.users) (horg : u.orgId = orgId)
    (env : TokenEnv) : signUserToken (s.restrict orgId) u env = signUserToken s u env := by
  unfold signUserToken userClaims
  rw [AuthStore.getUserRoles_restrict hu horg]

/-- A login does to its organization what it would do to it alone. -/
theorem issueUserToken_restrict (env : TokenEnv) :
    issueUserToken L (s.restrict orgId) orgId email password ipAddress userAgent env =
      ((issueUserToken L s orgId email password ipAddress userAgent env).1.restrict orgId,
        (issueUserToken L s orgId email password ipAddress userAgent env).2) := by
  unfold issueUserToken
  rw [AuthStore.getByEmail_restrict]
  split
  · rfl
  cases huser : s.getByEmail orgId email with
  | none =>
    simp only [Option.mem_def, reduceCtorEq, false_and, exists_false, if_false]
    split
    · rfl
    · rfl
    next hfound => cases hfound
  | some user =>
    obtain ⟨hmem, horg, _⟩ := AuthStore.getByEmail_spec huser
    have hlog : ∀ reason, (s.logEvent env.logFailure (userAuthEvent user.userId reason ipAddress
        userAgent env.loggedAt)).restrict orgId = (s.restrict orgId).logEvent env.logFailure
          (userAuthEvent user.userId reason ipAddress userAgent env.loggedAt) := by
      intro reason
      rw [AuthStore.restrict_logEvent hmem _ rfl, if_pos horg]
    simp only [Option.mem_def, Option.some.injEq, exists_eq_left', failedCount_restrict hmem horg]
    split
    · rfl
    · split
      · rfl
      · rfl
      next isValid found _ hfound =>
        obtain rfl := Option.some.inj hfound
        rw [signUserToken_restrict hmem horg]
        split
        · rw [hlog]
        · split
          · rw [hlog]
          · split
            · rfl
            · rw [hlog]

/-- A login logs at most an event of a user of its organization. -/
theorem issueUserToken_store (env : TokenEnv) :
    (issueUserToken L s orgId email password ipAddress userAgent env).1 = s ∨
      ∃ user ∈ s.users, user.orgId = orgId ∧ ∃ e, e.userId = user.userId ∧
        (issueUserToken L s orgId email password ipAddress userAgent env).1 =
          s.logEvent env.logFailure e := by
  unfold issueUserToken
  split
  · exact .inl rfl
  dsimp only
  split_ifs
  · exact .inl rfl
  · split
    · exact .inl rfl
    · exact .inl rfl
    next isValid user _ huser =>
      obtain ⟨hmem, horg, _⟩ := AuthStore.getByEmail_spec huser
      split
      · exact .inr ⟨user, hmem, horg, userAuthEvent user.userId _ _ _ _, rfl, rfl⟩
      · split
        · exact .inr ⟨user, hmem, horg, userAuthEvent user.userId _ _ _ _, rfl, rfl⟩
        · split
          · exact .inl rfl
          · exact .inr ⟨user, hmem, horg, userAuthEvent user.userId _ _ _ _, rfl, rfl⟩

/-- A login does nothing to another organization. -/
theorem issueUserToken_other (hne : orgId ≠ orgId') (env : TokenEnv) :
    (issueUserToken L s orgId email password ipAddress userAgent env).1.restrict orgId' =
      s.restrict orgId' := by
  rcases issueUserToken_store env with hstore | ⟨user, hmem, horg, e, he, hstore⟩
  · rw [hstore]
  · rw [hstore, AuthStore.restrict_logEvent hmem _ he, if_neg (horg ▸ hne)]

/-! ## Registrations -/

variable {request : RegistrationRequest} {env : RegisterEnv}

theorem limitReached_of_restrict (h : LimitReached L (s.restrict orgId) ipAddress env) :
    LimitReached L s ipAddress env := by
  obtain ⟨ip, hip, hreached⟩ := h
  refine ⟨ip, hip, hreached.trans ?_⟩
  unfold registrationCount
  split_ifs
  · exact Nat.le_refl _
  · exact AuthStore.countRegistrations_restrict_le _ _

theorem checkRegistration_restrict (hlimit : ¬ LimitReached L s ipAddress env) :
    checkRegistration L (s.restrict orgId) orgId request ipAddress env =
      checkRegistration L s orgId request ipAddress env := by
  unfold checkRegistration
  rw [if_neg hlimit, if_neg fun h => hlimit (limitReached_of_restrict h),
    AuthStore.emailExistsInOrg, AuthStore.emailExistsInOrg, AuthStore.getByEmail_restrict]

/-- The role and the event of a new user. -/
theorem restrict_registered {user : User} (hmem : user ∈ s.users) (failure : Bool)
    {e : AuthEvent} (he : e.userId = user.userId) (role : String) :
    ((s.addUserRole user.userId role).logEvent failure e).restrict orgId =
      if user.orgId = orgId then
        ((s.restrict orgId).addUserRole user.userId role).logEvent failure e
      else s.restrict orgId := by
  have hmem' : user ∈ (s.addUserRole user.userId role).users := hmem
  rw [AuthStore.restrict_logEvent hmem' failure he, AuthStore.restrict_addUserRole hmem]
  split_ifs <;> rfl

/-- A registration that the limit does not refuse does to its organization what it would do
    to it alone, up to the automatic login. -/
theorem createAccount_restrict (hroles : s.RolesOwned)
    (hnew : env.userId ∉ s.users.map (·.userId)) (hlimit : ¬ LimitReached L s ipAddress env) :
    createAccount L (s.restrict orgId) orgId request ipAddress userAgent env =
      ((createAccount L s orgId request ipAddress userAgent env).1.restrict orgId,
        (createAccount L s orgId request ipAddress userAgent env).2) := by
  unfold createAccount
  rw [checkRegistration_restrict hlimit]
  split
  · rfl
  next passwordHash _ =>
    dsimp only
    generalize huser : (⟨env.userId, orgId, request.email, passwordHash,
      String.ofList (Text.trim request.displayName.toList), true⟩ : User) = user
    have hid : user.userId = env.userId := by rw [← huser]
    have horg : user.orgId = orgId := by rw [← huser]
    cases hcreate : s.createUser user with
    | none =>
      have hnone := AuthStore.createUser_restrict_none (hid ▸ hnew) hcreate
      rw [horg] at hnone
      rw [hnone]
    | some s' =>
      rw [(AuthStore.restrict_createUser hroles (hid ▸ hnew) hcreate).1 horg]
      have hmem : user ∈ s'.users := by
        rw [(AuthStore.createUser_eq_some hcreate).1]
        exact List.mem_cons_self
      cases env.createFailure with
      | true => rfl
      | false =>
        dsimp only
        split_ifs
        · rfl
        · rw [← hid, restrict_registered hmem _ rfl, if_pos horg]

theorem createAccount_other (hroles : s.RolesOwned) (hnew : env.userId ∉ s.users.map (·.userId))
    (hne : orgId ≠ orgId') :
    (createAccount L s orgId request ipAddress userAgent env).1.restrict orgId' =
      s.restrict orgId' := by
  unfold createAccount
  split
  · rfl
  next passwordHash _ =>
    dsimp only
    generalize huser : (⟨env.userId, orgId, request.email, passwordHash,
      String.ofList (Text.trim request.displayName.toList), true⟩ : User) = user
    have hid : user.userId = env.userId := by rw [← huser]
    have horg : user.orgId ≠ orgId' := by rw [← huser]; exact hne
    cases hcreate : s.createUser user with
    | none => rfl
    | some s' =>
      have hother := (AuthStore.restrict_createUser hroles (hid ▸ hnew) hcreate).2 horg
      have hmem : user ∈ s'.users := by
        rw [(AuthStore.createUser_eq_some hcreate).1]
        exact List.mem_cons_self
      cases env.createFailure with
      | true => rfl
      | false =>
        dsimp only
        split_ifs
        · exact hother
        · rw [← hid, restrict_registered hmem _ rfl, if_neg horg]
          exact hother

/-- A registration that the limit does not refuse does to its organization what it would do
    to it alone. -/
theorem registerUser_restrict (hroles : s.RolesOwned)
    (hnew : env.userId ∉ s.users.map (·.userId)) (hlimit : ¬ LimitReached L s ipAddress env) :
    registerUser L (s.restrict orgId) orgId request ipAddress userAgent env =
      ((registerUser L s orgId request ipAddress userAgent env).1.restrict orgId,
        (registerUser L s orgId request ipAddress userAgent env).2) := by
  unfold registerUser
  rw [createAccount_restrict hroles hnew hlimit]
  generalize createAccount L s orgId request ipAddress userAgent env = created
  obtain ⟨s', _ | user⟩ := created
  · rfl
  · dsimp only
    rw [issueUserToken_restrict]
    generalize issueUserToken L s' orgId _ _ _ _ _ = issued
    obtain ⟨s'', _ | token⟩ := issued <;> rfl

/-- A registration does nothing to another organization. -/
theorem registerUser_other (hroles : s.RolesOwned) (hnew : env.userId ∉ s.users.map (·.userId))
    (hne : orgId ≠ orgId') :
    (registerUser L s orgId request ipAddress userAgent env).1.restrict orgId' =
      s.restrict orgId' := by
  have hcreated : (createAccount L s orgId request ipAddress userAgent env).1.restrict orgId' =
      s.restrict orgId' := createAccount_other hroles hnew hne
  unfold registerUser
  generalize createAccount L s orgId request ipAddress userAgent env = created at hcreated
  obtain ⟨s', _ | user⟩ := created
  · exact hcreated
  · have hissued : (issueUserToken L s' orgId request.email request.password ipAddress userAgent
        env.token).1.restrict orgId' = s'.restrict orgId' := issueUserToken_other hne env.token
    dsimp only
    generalize issueUserToken L s' orgId _ _ _ _ _ = issued at hissued
    obtain ⟨s'', _ | token⟩ := issued
    · exact hissued.trans hcreated
    · exact hissued.trans hcreated

end Requests

/-! ## Runs -/

namespace AuthStore

variable {s : AuthStore}

theorem rolesOwned_restrict (s : AuthStore) (orgId : String) : (s.restrict orgId).RolesOwned := by
  intro r hr
  obtain ⟨u, hu, hsame⟩ := List.any_eq_true.mp (List.mem_filter.mp hr).2
  obtain ⟨horg, hid⟩ := of_decide_eq_true hsame
  exact List.mem_map.mpr ⟨u, List.mem_filter.mpr ⟨hu, decide_eq_true horg⟩, hid⟩

theorem RolesOwned.logEvent (hroles : s.RolesOwned) (failure : Bool) (e : AuthEvent) :
    (s.logEvent failure e).RolesOwned := by
  intro r hr
  rw [userRoles_logEvent] at hr
  rw [users_logEvent]
  exact hroles r hr

theorem RolesOwned.addUserRole (hroles : s.RolesOwned) {userId : String}
    (hmem : userId ∈ s.users.map (·.userId)) (role : String) :
    (s.addUserRole userId role).RolesOwned := by
  intro r hr
  rcases List.mem_insert_iff.mp hr with rfl | hr
  · exact hmem
  · exact hroles r hr

theorem RolesOwned.createUser (hroles : s.RolesOwned) {u : User} {s' : AuthStore}
    (h : s.createUser u = some s') : s'.RolesOwned := by
  unfold AuthStore.createUser at h
  split_ifs at h
  obtain rfl := Option.some.inj h
  exact fun r hr => List.mem_cons_of_mem _ (hroles r hr)

theorem RolesOwned.issueUserToken {L : RateLimits} (hroles : s.RolesOwned)
    (orgId email password : String) (ipAddress userAgent : Option String) (env : TokenEnv) :
    (issueUserToken L s orgId email password ipAddress userAgent env).1.RolesOwned := by
  rcases (issueUserToken_store env :
    (Ac.issueUserToken L s orgId email password ipAddress userAgent env).1 = s ∨ _) with
    hstore | ⟨_, _, _, e, _, hstore⟩
  · rw [hstore]
    exact hroles
  · rw [hstore]
    exact hroles.logEvent _ e

theorem RolesOwned.createAccount {L : RateLimits} (hroles : s.RolesOwned) (orgId : String)
    (request : RegistrationRequest) (ipAddress userAgent : Option String) (env : RegisterEnv) :
    (createAccount L s orgId request ipAddress userAgent env).1.RolesOwned := by
  unfold Ac.createAccount
  split
  · exact hroles
  · dsimp only
    split
    next s' hcreate _ =>
      have hcreated := hroles.createUser hcreate
      split_ifs
      · exact hcreated
      · refine (hcreated.addUserRole ?_ _).logEvent _ _
        rw [(createUser_eq_some hcreate).1]
        exact List.mem_cons_self
    next => exact hroles

theorem RolesOwned.registerUser {L : RateLimits} (hroles : s.RolesOwned) (orgId : String)
    (request : RegistrationRequest) (ipAddress userAgent : Option String) (env : RegisterEnv) :
    (registerUser L s orgId request ipAddress userAgent env).1.RolesOwned := by
  have hcreated := hroles.createAccount (L := L) orgId request ipAddress userAgent env
  unfold Ac.registerUser
  generalize Ac.createAccount L s orgId request ipAddress userAgent env = created at hcreated
  obtain ⟨s', _ | user⟩ := created
  · exact hcreated
  · have hissued := hcreated.issueUserToken (L := L) orgId request.email request.password
      ipAddress userAgent env.token
    dsimp only at hissued ⊢
    generalize Ac.issueUserToken L s' orgId _ _ _ _ _ = issued at hissued
    obtain ⟨s'', _ | token⟩ := issued
    · exact hissued
    · exact hissued

end AuthStore

/-- The accounts of one organization. -/
def Accounts.restrict (s : Accounts) (orgId : String) : Accounts :=
  ⟨s.val.restrict orgId, s.val.rolesOwned_restrict orgId⟩

/-- The host is one of the organization. -/
def UserRequest.isFor (T : Organizations) (orgId : String) (request : UserRequest) : Bool :=
  match request.context T with
  | .error _ => false
  | .ok context => context.orgId = orgId

/-- The request is a registration that the limit of its address refuses. -/
def UserRequest.Limited (L : RateLimits) (s : AuthStore) (request : UserRequest) : Prop :=
  match request.body with
  | .register _ env => LimitReached L s (some request.addr) env
  | .token _ _ _ => False

instance decidableLimited (L : RateLimits) (s : AuthStore) (request : UserRequest) :
    Decidable (request.Limited L s) := by
  unfold UserRequest.Limited
  split <;> infer_instance

section Runs

variable {L : RateLimits} {T : Organizations} {s₀ : Accounts} {h : UserHistory} {s : AuthStore}
  {request : UserRequest}

theorem rolesOwned_of_run (hr : (userRoutes L T s₀).Run h s) : s.RolesOwned := by
  refine Machine.Run.invariant (I := fun _ s => s.RolesOwned) s₀.property ?_ hr
  intro h s request _ _ hroles
  change (userStep L T s request).1.RolesOwned
  unfold userStep UserRequest.handle
  split
  · exact hroles
  · split
    · exact hroles.registerUser _ _ _ _ _
    · exact hroles.issueUserToken _ _ _ _ _ _

/-- A request for another organization. -/
theorem userStep_other {orgId : String} (hroles : s.RolesOwned) (hfresh : request.body.IsFresh s)
    (hother : request.isFor T orgId = false) :
    (userStep L T s request).1.restrict orgId = s.restrict orgId := by
  unfold UserRequest.isFor at hother
  unfold userStep UserRequest.handle
  split
  · rfl
  next context hcontext =>
    rw [hcontext] at hother
    have hne : context.orgId ≠ orgId := of_decide_eq_false hother
    split
    next payload env hbody =>
      rw [hbody] at hfresh
      exact registerUser_other hroles hfresh hne
    next env _ => exact issueUserToken_other hne env

/-- A request for the organization, in its own tables. -/
theorem userStep_own {orgId : String} (hroles : s.RolesOwned) (hfresh : request.body.IsFresh s)
    (hown : request.isFor T orgId = true) (hlimit : ¬ request.Limited L s) :
    userStep L T (s.restrict orgId) request =
      ((userStep L T s request).1.restrict orgId, (userStep L T s request).2) := by
  unfold UserRequest.isFor at hown
  unfold UserRequest.Limited at hlimit
  unfold userStep UserRequest.handle
  split
  · rfl
  next context hcontext =>
    rw [hcontext] at hown
    obtain rfl : context.orgId = orgId := of_decide_eq_true hown
    cases hbody : request.body with
    | register payload env =>
      rw [hbody] at hfresh hlimit
      exact congrArg (fun result => (result.1, UserReply.registered result.2))
        (registerUser_restrict hroles hfresh hlimit)
    | token email password env =>
      exact congrArg (fun result => (result.1, UserReply.issued result.2))
        (issueUserToken_restrict env)

/-- An id that is new is new to the organization. -/
theorem isFresh_restrict {body : UserBody} (hfresh : body.IsFresh s) (orgId : String) :
    body.IsFresh (s.restrict orgId) := by
  cases body with
  | register => exact fun hmem => hfresh ((List.filter_sublist.map _).subset hmem)
  | token => trivial

end Runs

/-- Leaving the requests with hosts of other organizations, or of none, out of a run gives a run
    in the tables of the organization, with the same answers and up to the same rows. -/
theorem purge_of_run (L : RateLimits) (T : Organizations) (s₀ : Accounts) (orgId : String)
    {h : UserHistory} {s : AuthStore} (hr : (userRoutes L T s₀).Run h s)
    (hlimit : ∀ request reply h', (request, reply) :: h' <:+ h → request.isFor T orgId = true →
      ¬ request.Limited L ((userRoutes L T s₀).stateAfter h')) :
    (userRoutes L T (s₀.restrict orgId)).Run (h.filter fun x => x.1.isFor T orgId)
      (s.restrict orgId) := by
  refine hr.purge (C := fun s request => ¬ request.Limited L s) (userRoutes L T (s₀.restrict orgId))
    (AuthStore.restrict · orgId) (UserRequest.isFor T orgId) rfl ?_ ?_ hlimit
  · intro h s request hr hfresh hown hfree
    exact ⟨isFresh_restrict hfresh orgId, userStep_own (rolesOwned_of_run hr) hfresh hown hfree⟩
  · intro h s request hr hfresh hother
    exact userStep_other (rolesOwned_of_run hr) hfresh hother

/-! ## Two organizations -/

/-- Two active organizations. -/
def twoOrganizations : Organizations where
  rows := [⟨"org-1", "acme", true⟩, ⟨"org-2", "globex", true⟩]
  orgKey := by decide
  subdomainKey := by decide
  format := by decide

/-- Accounts without users. -/
def noUsers : Accounts := ⟨noAccounts.val, fun _ hr => absurd hr List.not_mem_nil⟩

/-- A request to this host that meets no failure of the lookup. -/
def sampleRequest (host : String) (body : UserBody) : UserRequest :=
  ⟨some host, none, "192.0.2.1", none, body⟩

/-- Every query and every check of a password succeeds. -/
def sampleRegistration (userId : String) (now : ℤ) : UserBody :=
  .register ⟨"a@example.org", "password", "Alice"⟩
    { now := now, countFailure := false, emailCheckFailure := none
      hashClientSecret := fun _ => .ok "hash", userId := userId, createFailure := false
      roleFailure := false, registeredAt := now, eventFailure := false, token := sampleToken now }

/-- An email that two organizations have, and a request to no organization. -/
def twoTenants : List UserRequest :=
  [sampleRequest "acme.example.org" (sampleRegistration "user-1" 0),
    sampleRequest "globex.example.org:8443" (sampleRegistration "user-2" 1),
    sampleRequest "localhost" (.token "a@example.org" "password" (sampleToken 2)),
    sampleRequest "acme.localhost" (.token "a@example.org" "password" (sampleToken 3))]

/-- The user routes of two organizations. -/
abbrev sampleRoutes := userRoutes defaultLimits twoOrganizations noUsers

theorem run_twoTenants :
    sampleRoutes.Run (sampleRoutes.playAll twoTenants).2 (sampleRoutes.playAll twoTenants).1 :=
  Machine.run_of_admits (by decide)

theorem purge_of_run_twoTenants :
    (userRoutes defaultLimits twoOrganizations (noUsers.restrict "org-1")).Run
      ((sampleRoutes.playAll twoTenants).2.filter fun x => x.1.isFor twoOrganizations "org-1")
      ((sampleRoutes.playAll twoTenants).1.restrict "org-1") := by
  refine purge_of_run defaultLimits twoOrganizations noUsers "org-1" run_twoTenants ?_
  have hsteps : sampleRoutes.StepsMeet (fun s request => ¬ request.Limited defaultLimits s)
      (sampleRoutes.playAll twoTenants).2 := by decide
  exact fun request reply h' hs _ => hsteps.forall_suffix request reply h' hs

end DarkTower.Ac
