import DarkTower.Ac.UserAccounts
import DarkTower.Lib.Machine

/-!
# Does the registration limit count registrations?

Calls of `register_user` and `issue_user_token` from any addresses, one after another,
from any users and an empty `auth_events` on, whose inserts of events succeed.
`register_user` compares its limit with
the number of successful `user_login` events of the address in the window
(`count_registrations_from_ip`, user_service.rs:208). Every login logs one, and a
registration logs one of its own before its automatic login.

* `Logged.count_eq`: what is counted are the registrations that succeeded, the
  registrations whose automatic login failed, and the logins.
* `registration_limit_iff`: a registration is refused exactly when the registrations of
  its address that succeeded in the window reach the limit, iff they do or all that is
  counted stays below it (`CountsRight`).
* `fourth_registration_refused`: after three registrations, with a limit of five.
-/

namespace DarkTower.Ac

open DarkTower.Common DarkTower.Lib

/-- An address and an instant. -/
abbrev Stamp := Option String × ℤ

/-- The tables, with a record of what the calls so far came to. -/
structure AccountSystem where
  store : AuthStore
  /-- The registrations that succeeded, at the instant of their event. -/
  registered : List Stamp
  /-- The registrations that made an account and failed in the automatic login. -/
  unfinished : List Stamp
  /-- The logins that succeeded, the automatic ones among them. -/
  loggedIn : List Stamp

/-- A call, with its environment. -/
inductive AccountEvent
  | registerUser (orgId : String) (request : RegistrationRequest)
      (ipAddress userAgent : Option String) (env : RegisterEnv)
  | issueUserToken (orgId email password : String) (ipAddress userAgent : Option String)
      (env : TokenEnv)

/-- The events of the call are inserted. -/
def AccountEvent.Logs : AccountEvent → Prop
  | .registerUser _ _ _ _ env => env.eventFailure = false ∧ env.token.logFailure = false
  | .issueUserToken _ _ _ _ _ env => env.logFailure = false

instance decidableLogs : ∀ e : AccountEvent, Decidable e.Logs
  | .registerUser _ _ _ _ env =>
    inferInstanceAs (Decidable (env.eventFailure = false ∧ env.token.logFailure = false))
  | .issueUserToken _ _ _ _ _ env => inferInstanceAs (Decidable (env.logFailure = false))

/-- What a call returns. -/
inductive AccountReply
  | registered (result : Except AcError RegistrationResponse)
  | issued (result : Except AcError UserTokenResponse)

namespace AccountSystem

variable (L : RateLimits) (s : AccountSystem)

/-- The record of a registration. -/
def register (orgId : String) (request : RegistrationRequest) (ipAddress userAgent : Option String)
    (env : RegisterEnv) : AccountSystem :=
  let s' := { s with store := (registerUser L s.store orgId request ipAddress userAgent env).1 }
  match (createAccount L s.store orgId request ipAddress userAgent env).2,
    (registerUser L s.store orgId request ipAddress userAgent env).2 with
  | .ok _, .ok _ =>
    { s' with
      registered := (ipAddress, env.registeredAt) :: s.registered
      loggedIn := (ipAddress, env.token.loggedAt) :: s.loggedIn }
  | .ok _, .error _ => { s' with unfinished := (ipAddress, env.registeredAt) :: s.unfinished }
  | .error _, _ => s'

/-- The record of a login. -/
def login (orgId email password : String) (ipAddress userAgent : Option String)
    (env : TokenEnv) : AccountSystem :=
  let result := issueUserToken L s.store orgId email password ipAddress userAgent env
  match result.2 with
  | .ok _ => { s with store := result.1, loggedIn := (ipAddress, env.loggedAt) :: s.loggedIn }
  | .error _ => { s with store := result.1 }

/-- A call. -/
def step : AccountEvent → AccountSystem × AccountReply
  | .registerUser orgId request ipAddress userAgent env =>
    (s.register L orgId request ipAddress userAgent env,
      .registered (registerUser L s.store orgId request ipAddress userAgent env).2)
  | .issueUserToken orgId email password ipAddress userAgent env =>
    (s.login L orgId email password ipAddress userAgent env,
      .issued (issueUserToken L s.store orgId email password ipAddress userAgent env).2)

end AccountSystem

/-- Tables without events. -/
abbrev FreshStore := { s : AuthStore // s.authEvents = [] }

/-- The calls, one after another. -/
def accountMachine (L : RateLimits) (s₀ : FreshStore) :
    Machine AccountSystem AccountEvent AccountReply where
  init := ⟨s₀.val, [], [], []⟩
  step := AccountSystem.step L
  allowed _ _ e := e.Logs

instance decidableAccountMachine (L : RateLimits) (s₀ : FreshStore)
    (h : List (AccountEvent × AccountReply)) (s : AccountSystem) (e : AccountEvent) :
    Decidable ((accountMachine L s₀).allowed h s e) := decidableLogs e

/-- How many of the stamps are of the address, from an instant on. -/
def countSince (stamps : List Stamp) (ipAddress : String) (since : ℤ) : ℕ :=
  stamps.countP fun x => x.1 = some ipAddress ∧ since ≤ x.2

/-- A registration from an address is refused with `TooManyRequests` exactly when the
    registrations from it that succeeded in the window reach the limit. -/
def LimitRight (L : RateLimits) (s : AccountSystem) : AccountEvent → AccountReply → Prop
  | .registerUser _ _ (some ip) _ env, .registered result =>
    (∃ e, result = .error e ∧ e.IsTooManyRequests) ↔
      L.registrationRateLimitMaxAttempts ≤
        countSince s.registered ip (windowStart env.now L.registrationRateLimitWindowMinutes)
  | _, _ => True

/-- The registrations that succeeded in the window reach the limit, or stay below it
    together with the unfinished ones and with all logins; a count that fails must not
    have had anything to refuse. -/
def CountsRight (L : RateLimits) (s : AccountSystem) : AccountEvent → Prop
  | .registerUser _ _ (some ip) _ env =>
    let since := windowStart env.now L.registrationRateLimitWindowMinutes
    if env.countFailure then
      countSince s.registered ip since < L.registrationRateLimitMaxAttempts
    else
      L.registrationRateLimitMaxAttempts ≤ countSince s.registered ip since ∨
        countSince s.registered ip since + countSince s.unfinished ip since +
          countSince s.loggedIn ip since < L.registrationRateLimitMaxAttempts
  | _ => True

instance (L : RateLimits) (s : AccountSystem) : ∀ e, Decidable (CountsRight L s e)
  | .registerUser _ _ (some ip) _ env => by
    unfold CountsRight
    infer_instance
  | .registerUser _ _ none _ _ | .issueUserToken _ _ _ _ _ _ => inferInstanceAs (Decidable True)

/-! ## What is counted -/

/-- The event is one that `count_registrations_from_ip` counts for its address. -/
def AuthEvent.isUserLogin (e : AuthEvent) : Bool :=
  e.eventType = "user_login" ∧ e.success = true

/-- Where and when the event was logged. -/
def AuthEvent.stamp (e : AuthEvent) : Stamp := (e.ipAddress, e.createdAt)

/-- The stamps of the successful logins in `auth_events`. -/
def AuthStore.loginStamps (s : AuthStore) : List Stamp :=
  (s.authEvents.filter AuthEvent.isUserLogin).map AuthEvent.stamp

theorem AuthStore.countRegistrationsFromIp_eq (s : AuthStore) (ip : String) (since : ℤ) :
    s.countRegistrationsFromIp ip since = countSince s.loginStamps ip since := by
  unfold AuthStore.countRegistrationsFromIp countSince AuthStore.loginStamps
  rw [List.countP_map, List.countP_filter]
  refine List.countP_congr fun e _ => ?_
  rw [Function.comp_apply, AuthEvent.isUserLogin, AuthEvent.stamp, Bool.and_eq_true,
    decide_eq_true_iff, decide_eq_true_iff, decide_eq_true_iff]
  tauto

/-- The events in the table are those of the recorded calls. -/
def Logged (s : AccountSystem) : Prop :=
  s.store.loginStamps.Perm (s.registered ++ s.unfinished ++ s.loggedIn)

variable {L : RateLimits} {s : AccountSystem} {s₀ : FreshStore}
  {h : List (AccountEvent × AccountReply)}

/-- What `register_user` counts. -/
theorem Logged.count_eq (hs : Logged s) (ip : String) (since : ℤ) :
    s.store.countRegistrationsFromIp ip since =
      countSince s.registered ip since + countSince s.unfinished ip since +
        countSince s.loggedIn ip since := by
  rw [AuthStore.countRegistrationsFromIp_eq]
  unfold countSince
  rw [hs.countP_eq, List.countP_append, List.countP_append]

/-! ## What a call adds -/

section

variable {s : AuthStore} {orgId email password : String} {ipAddress userAgent : Option String}
  {request : RegistrationRequest} {env : TokenEnv} {renv : RegisterEnv} {e : AcError}

theorem loginStamps_cons {s s' : AuthStore} {ev : AuthEvent}
    (h : s'.authEvents = ev :: s.authEvents) (hlogin : ev.isUserLogin = true) :
    s'.loginStamps = ev.stamp :: s.loginStamps := by
  unfold AuthStore.loginStamps
  rw [h, List.filter_cons_of_pos hlogin, List.map_cons]

theorem loginStamps_congr {s s' : AuthStore} (h : s'.authEvents = s.authEvents) :
    s'.loginStamps = s.loginStamps := by
  unfold AuthStore.loginStamps
  rw [h]

/-- A login that succeeds is one more event. -/
theorem loginStamps_issued {response : UserTokenResponse} (hlog : env.logFailure = false)
    (h : (issueUserToken L s orgId email password ipAddress userAgent env).2 = .ok response) :
    (issueUserToken L s orgId email password ipAddress userAgent env).1.loginStamps =
      (ipAddress, env.loggedAt) :: s.loginStamps := by
  have hcase := issueUserToken_cases L s orgId email password ipAddress userAgent env
  generalize issueUserToken L s orgId email password ipAddress userAgent env = r at h hcase ⊢
  cases hcase with
  | refused => cases h
  | failed => cases h
  | issued userId huser response =>
    refine loginStamps_cons ((AuthStore.authEvents_logEvent huser).trans (if_neg ?_)) ?_
    · exact hlog ▸ Bool.false_ne_true
    · simp [AuthEvent.isUserLogin, userAuthEvent]

/-- A login that fails is none. -/
theorem loginStamps_failed
    (h : (issueUserToken L s orgId email password ipAddress userAgent env).2 = .error e) :
    (issueUserToken L s orgId email password ipAddress userAgent env).1.loginStamps =
      s.loginStamps := by
  have hcase := issueUserToken_cases L s orgId email password ipAddress userAgent env
  generalize issueUserToken L s orgId email password ipAddress userAgent env = r at h hcase ⊢
  cases hcase with
  | refused => rfl
  | failed ev huser hfailed =>
    show (s.logEvent env.logFailure ev).loginStamps = _
    unfold AuthStore.loginStamps
    rw [AuthStore.authEvents_logEvent huser]
    split_ifs
    · rfl
    · rw [List.filter_cons_of_neg]
      simp [AuthEvent.isUserLogin, hfailed]
  | issued => cases h

/-- The automatic login of a new account is not locked. -/
theorem failedCount_new {s' : AuthStore} {user : User}
    (hevents : s'.authEvents = if renv.eventFailure then s.authEvents else
      registrationEvent user.userId ipAddress userAgent renv.registeredAt :: s.authEvents)
    (hnew : user.userId ∉ s.users.map (·.userId)) : failedCount L s' env user = 0 := by
  have hnone : ∀ since, s'.failedAttemptsCountByUser user.userId since = 0 := by
    intro since
    have hold : s.failedAttemptsCountByUser user.userId since = 0 := by
      refine List.countP_eq_zero.mpr fun ev hev hcounted => ?_
      obtain ⟨huser, _⟩ := of_decide_eq_true hcounted
      exact hnew (huser ▸ s.eventUser ev hev)
    unfold AuthStore.failedAttemptsCountByUser at hold ⊢
    rw [hevents]
    split_ifs
    · exact hold
    · rw [List.countP_cons_of_neg, hold]
      simp [registrationEvent]
  unfold failedCount
  rw [hnone, ite_self]

/-- The automatic login of a new account is never refused with `TooManyRequests`. -/
theorem issueUserToken_new {s' : AuthStore} {user : User}
    (hevents : s'.authEvents = if renv.eventFailure then s.authEvents else
      registrationEvent user.userId ipAddress userAgent renv.registeredAt :: s.authEvents)
    (hfound : s'.getByEmail orgId email = some user)
    (hnew : user.userId ∉ s.users.map (·.userId))
    (h : (issueUserToken L s' orgId email password ipAddress userAgent env).2 = .error e) :
    ¬ e.IsTooManyRequests := by
  have hcase := issueUserToken_cases L s' orgId email password ipAddress userAgent env
  generalize issueUserToken L s' orgId email password ipAddress userAgent env = r at h hcase
  cases hcase with
  | refused e he =>
    obtain rfl := Except.error.inj h
    intro htoo
    obtain ⟨user', hfound', hcount⟩ := he htoo
    obtain rfl := Option.some.inj (hfound.symm.trans hfound')
    rw [failedCount_new hevents hnew] at hcount
    have := L.attemptsPos
    omega
  | failed =>
    obtain rfl := Except.error.inj h
    exact id
  | issued => cases h

/-- A registration is refused with `TooManyRequests` iff the count reaches the limit. -/
theorem registerUser_refused_iff (L : RateLimits) (s : AuthStore) (orgId : String)
    (request : RegistrationRequest) (ipAddress userAgent : Option String) (env : RegisterEnv) :
    (∃ e, (registerUser L s orgId request ipAddress userAgent env).2 = .error e ∧
      e.IsTooManyRequests) ↔ LimitReached L s ipAddress env := by
  have hcase := createAccount_cases L s orgId request ipAddress userAgent env
  unfold registerUser
  generalize createAccount L s orgId request ipAddress userAgent env = r at hcase ⊢
  cases hcase with
  | rejected s' e _ he =>
    rw [← he]
    constructor
    · rintro ⟨e', herror, he'⟩
      obtain rfl := Except.error.inj herror
      exact he'
    · intro he'
      exact ⟨e, rfl, he'⟩
  | created s' user hevents hfound hnew hlimit =>
    refine iff_of_false ?_ hlimit
    rintro ⟨e, herror, he⟩
    dsimp only at herror
    split at herror
    next s'' e' hlogin =>
      obtain rfl := Except.error.inj herror
      exact issueUserToken_new hevents hfound hnew (congrArg Prod.snd hlogin) he
    next => cases herror

end

/-! ## Runs -/

theorem Logged.login (hs : Logged s) (orgId email password : String)
    (ipAddress userAgent : Option String) {env : TokenEnv} (hlog : env.logFailure = false) :
    Logged (s.login L orgId email password ipAddress userAgent env) := by
  unfold AccountSystem.login
  dsimp only
  split
  next response hok =>
    show AuthStore.loginStamps _ |>.Perm (s.registered ++ s.unfinished ++ (_ :: s.loggedIn))
    rw [loginStamps_issued hlog hok]
    exact (hs.cons _).trans List.perm_middle.symm
  next e herror =>
    show AuthStore.loginStamps _ |>.Perm (s.registered ++ s.unfinished ++ s.loggedIn)
    rw [loginStamps_failed herror]
    exact hs

theorem Logged.register (hs : Logged s) (orgId : String) (request : RegistrationRequest)
    (ipAddress userAgent : Option String) {env : RegisterEnv} (hevent : env.eventFailure = false)
    (hlog : env.token.logFailure = false) :
    Logged (s.register L orgId request ipAddress userAgent env) := by
  have hcase := createAccount_cases L s.store orgId request ipAddress userAgent env
  unfold AccountSystem.register registerUser
  generalize createAccount L s.store orgId request ipAddress userAgent env = r at hcase ⊢
  cases hcase with
  | rejected s' e hevents he =>
    show s'.loginStamps.Perm _
    rw [loginStamps_congr hevents]
    exact hs
  | created s' user hevents hfound hnew hlimit =>
    rw [hevent, if_neg Bool.false_ne_true] at hevents
    have hcreated := loginStamps_cons hevents (by simp [AuthEvent.isUserLogin, registrationEvent])
    cases hlogin : issueUserToken L s' orgId request.email request.password ipAddress userAgent
        env.token with
    | mk s'' result =>
      have hsnd := congrArg Prod.snd hlogin
      cases result with
      | error e =>
        have hstamps := loginStamps_failed hsnd
        rw [hlogin] at hstamps
        dsimp only
        rw [hlogin]
        show s''.loginStamps.Perm (s.registered ++ (_ :: s.unfinished) ++ s.loggedIn)
        rw [hstamps, hcreated]
        exact (hs.cons _).trans (List.perm_middle.symm.append_right _)
      | ok token =>
        have hstamps := loginStamps_issued hlog hsnd
        rw [hlogin] at hstamps
        dsimp only
        rw [hlogin]
        let registered := (ipAddress, env.registeredAt) :: s.registered
        have hmoved : ((ipAddress, env.token.loggedAt) ::
            (registered ++ s.unfinished ++ s.loggedIn)).Perm
            (registered ++ s.unfinished ++ (ipAddress, env.token.loggedAt) :: s.loggedIn) :=
          List.perm_middle.symm
        show s''.loginStamps.Perm (registered ++ s.unfinished ++ _ :: s.loggedIn)
        rw [hstamps, hcreated]
        exact ((hs.cons _).cons _).trans hmoved

theorem run_logged (hr : (accountMachine L s₀).Run h s) : Logged s := by
  refine Machine.Run.invariant (I := fun _ s => Logged s) ?_ ?_ hr
  · show (AuthStore.loginStamps s₀.val).Perm []
    unfold AuthStore.loginStamps
    rw [s₀.property]
    exact List.Perm.refl _
  · intro h s e _ hlogs hs
    cases e with
    | registerUser orgId request ipAddress userAgent env =>
      exact hs.register orgId request ipAddress userAgent hlogs.1 hlogs.2
    | issueUserToken orgId email password ipAddress userAgent env =>
      exact hs.login orgId email password ipAddress userAgent hlogs

/-- The refusal of a call is right iff the condition on the state before it holds. -/
theorem Logged.limitRight_iff (hs : Logged s) (e : AccountEvent) :
    LimitRight L s e (s.step L e).2 ↔ CountsRight L s e := by
  cases e with
  | issueUserToken => exact Iff.rfl
  | registerUser orgId request ipAddress userAgent env =>
    cases ipAddress with
    | none => exact Iff.rfl
    | some ip =>
      have hpos := L.registrationPos
      show ((∃ e, (registerUser L s.store orgId request (some ip) userAgent env).2 = .error e ∧
        e.IsTooManyRequests) ↔ _) ↔ _
      rw [registerUser_refused_iff]
      have hreached : LimitReached L s.store (some ip) env ↔
          L.registrationRateLimitMaxAttempts ≤ registrationCount L s.store ip env := by
        simp [LimitReached]
      rw [hreached]
      unfold registrationCount CountsRight
      dsimp only
      split_ifs with hfailure
      · omega
      · rw [hs.count_eq]
        omega

/-- In every run, the refusals of registrations count the registrations of their address
    exactly where the condition holds. -/
theorem registration_limit_iff (L : RateLimits) (s₀ : FreshStore)
    {h : List (AccountEvent × AccountReply)} {s : AccountSystem}
    (hr : (accountMachine L s₀).Run h s) {e : AccountEvent} {a : AccountReply}
    {h' : List (AccountEvent × AccountReply)} (hs : (e, a) :: h' <:+ h) :
    LimitRight L ((accountMachine L s₀).stateAfter h') e a ↔
      CountsRight L ((accountMachine L s₀).stateAfter h') e := by
  obtain ⟨rfl, _⟩ := hr.answer_of_suffix hs
  have hrun := hr.suffix ((List.suffix_cons _ _).trans hs)
  exact (run_logged hrun).limitRight_iff e

/-! ## Four registrations with a limit of five -/

/-- The defaults of `config.rs`. -/
def defaultLimits : RateLimits where
  rateLimitWindowMinutes := 15
  rateLimitMaxAttempts := 5
  registrationRateLimitWindowMinutes := 60
  registrationRateLimitMaxAttempts := 5
  attemptsPos := by decide
  registrationPos := by decide

/-- A store without users. -/
def noAccounts : FreshStore :=
  ⟨{ users := [], userRoles := [], authEvents := [], userKey := List.nodup_nil,
     emailKey := List.nodup_nil, eventUser := fun _ h => nomatch h }, rfl⟩

/-- Every query and every check of a password succeeds. -/
def sampleToken (now : ℤ) : TokenEnv where
  now := now
  lookupFailure := none
  countFailure := false
  verifyClientSecret := fun _ _ => .ok true
  rolesFailure := none
  activeKey := .ok true
  signUserJwt := fun claims => .ok claims.sub
  issuedAt := now
  jti := ""
  loggedAt := now
  logFailure := false

/-- A registration that meets no failure. -/
def registerCall (email userId : String) (now : ℤ) : AccountEvent :=
  .registerUser "org-1" ⟨email, "password", "Alice"⟩ (some "192.0.2.1") none
    { now := now, countFailure := false, emailCheckFailure := none
      hashClientSecret := fun _ => .ok "hash", userId := userId, createFailure := false
      roleFailure := false, registeredAt := now, eventFailure := false, token := sampleToken now }

/-- A login that meets no failure. -/
def loginCall (email : String) (now : ℤ) : AccountEvent :=
  .issueUserToken "org-1" email "password" (some "192.0.2.1") none (sampleToken now)

/-- Two registrations and a login between them. -/
def twoRegistrations : List AccountEvent :=
  [registerCall "a@example.org" "user-1" 0, loginCall "a@example.org" 1,
    registerCall "b@example.org" "user-2" 2]

/-- Four registrations and nothing else. -/
def fourRegistrations : List AccountEvent :=
  [registerCall "a@example.org" "user-1" 0, registerCall "b@example.org" "user-2" 1,
    registerCall "c@example.org" "user-3" 2, registerCall "d@example.org" "user-4" 3]

/-- The user endpoints over an empty store. -/
abbrev sampleAccounts := accountMachine defaultLimits noAccounts

theorem run_twoRegistrations :
    sampleAccounts.Run (sampleAccounts.playAll twoRegistrations).2
      (sampleAccounts.playAll twoRegistrations).1 :=
  Machine.run_of_admits (by decide)

theorem registration_limit_twoRegistrations :
    sampleAccounts.Run (sampleAccounts.playAll twoRegistrations).2
        (sampleAccounts.playAll twoRegistrations).1 ∧
      ∀ e a h', (e, a) :: h' <:+ (sampleAccounts.playAll twoRegistrations).2 →
        LimitRight defaultLimits (sampleAccounts.stateAfter h') e a := by
  refine ⟨run_twoRegistrations, fun e a h' hs => ?_⟩
  have hsteps : sampleAccounts.StepsMeet (CountsRight defaultLimits)
      (sampleAccounts.playAll twoRegistrations).2 := by decide
  exact (registration_limit_iff defaultLimits noAccounts run_twoRegistrations hs).mpr
    (hsteps.forall_suffix e a h' hs)

/-- Three registrations succeed, and the fourth is refused. -/
theorem fourth_registration_refused :
    sampleAccounts.Run (sampleAccounts.playAll fourRegistrations).2
        (sampleAccounts.playAll fourRegistrations).1 ∧
      (sampleAccounts.playAll fourRegistrations).1.registered.length = 3 ∧
      ∃ e a h', (e, a) :: h' <:+ (sampleAccounts.playAll fourRegistrations).2 ∧
        ¬ LimitRight defaultLimits (sampleAccounts.stateAfter h') e a := by
  have hrun : sampleAccounts.Run (sampleAccounts.playAll fourRegistrations).2
      (sampleAccounts.playAll fourRegistrations).1 :=
    Machine.run_of_admits (by decide)
  have hlast : ∃ e a, ∃ h', (sampleAccounts.playAll fourRegistrations).2 = (e, a) :: h' ∧
      ¬ CountsRight defaultLimits (sampleAccounts.stateAfter h') e := ⟨_, _, _, rfl, by decide⟩
  obtain ⟨e, a, h', hlast, hcounts⟩ := hlast
  have hs : (e, a) :: h' <:+ (sampleAccounts.playAll fourRegistrations).2 :=
    hlast ▸ List.suffix_refl _
  refine ⟨hrun, by decide, e, a, h', hs, ?_⟩
  obtain ⟨rfl, _⟩ := hrun.answer_of_suffix hs
  have hlogged := run_logged (hrun.suffix ((List.suffix_cons _ _).trans hs))
  exact fun hright => hcounts ((hlogged.limitRight_iff e).mp hright)

end DarkTower.Ac
