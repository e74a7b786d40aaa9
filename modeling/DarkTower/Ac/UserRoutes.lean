import DarkTower.Ac.Registration

/-!
# The routes for users

`/api/v1/auth/register` and `/api/v1/auth/user/token` (`ac-service/src/routes/mod.rs:88`).
Both are for the organization that `require_org_context`
(`middleware/org_extraction.rs:86`) finds by the subdomain in the Host header.

* `extractSubdomain_eq_some_iff`: what is before the first dot, if the host is not a list of
  numbers.
* `requireOrgContext_iff`: an organization is found exactly by the hosts under its subdomain.
* `userRoutes`: requests to the two routes, one after another.
-/

namespace DarkTower.Ac

open DarkTower.Common DarkTower.Lib

/-! ## Organizations -/

/-- A character of a subdomain, other than the hyphen. -/
def isSubdomainAlnum (c : Char) : Bool := c.isLower || c.isDigit

/-- The check of `extract_subdomain` on the first part of a host. -/
def isSubdomain (subdomain : List Char) : Bool :=
  !subdomain.isEmpty && subdomain.head? != some '-' && subdomain.getLast? != some '-' &&
    subdomain.all fun c => isSubdomainAlnum c || c == '-'

/-- The constraint `subdomain_format`:
    `^[a-z0-9]([a-z0-9-]{0,61}[a-z0-9])?$`. -/
def subdomainFormat : List Char → Bool
  | [] => false
  | first :: rest =>
    isSubdomainAlnum first && match rest.reverse with
      | [] => true
      | last :: middle =>
        isSubdomainAlnum last && decide (middle.length ≤ 61) &&
          middle.all fun c => isSubdomainAlnum c || c == '-'

/-- A row of `organizations`, as far as it is read. -/
structure Organization where
  orgId : String
  subdomain : String
  isActive : Bool
deriving DecidableEq

/-- The table `organizations` with its constraints. -/
structure Organizations where
  rows : List Organization
  orgKey : (rows.map (·.orgId)).Nodup
  subdomainKey : (rows.map (·.subdomain)).Nodup
  format : ∀ org ∈ rows, subdomainFormat org.subdomain.toList = true

/-- `get_by_subdomain` (organizations.rs:31). -/
def Organizations.getBySubdomain (T : Organizations) (subdomain : String) :
    Option Organization :=
  T.rows.find? fun org => org.subdomain = subdomain ∧ org.isActive = true

/-! ## `require_org_context` -/

/-- `host.split(':').next()`. -/
def hostWithoutPort (host : List Char) : List Char := (host.splitOn ':').headD host

/-- `str::parse::<u8>` succeeds. -/
def isU8 (part : List Char) : Bool :=
  let digits := if part.head? = some '+' then part.tail else part
  !digits.isEmpty && digits.all Char.isDigit &&
    decide (digits.foldl (fun n c => 10 * n + (c.toNat - '0'.toNat)) 0 < 256)

/-- The host is an IP address, or looks like one. -/
def isNumeric (name : List Char) : Bool := (name.splitOn '.').all isU8

/-- `extract_subdomain` (org_extraction.rs:47). -/
def extractSubdomain (host : List Char) : Option (List Char) :=
  let parts := (hostWithoutPort host).splitOn '.'
  if parts.length < 2 then none
  else if parts.all isU8 then none
  else
    match parts.head? with
    | none => none
    | some subdomain => if isSubdomain subdomain then some subdomain else none

/-- `OrgContext`. -/
structure OrgContext where
  orgId : String
  subdomain : String
deriving DecidableEq

/-- `require_org_context` (org_extraction.rs:86), up to the handler; `host` is none if there is
    no Host header or one that is no text, and `lookupFailure` the failure of the query. -/
def requireOrgContext (T : Organizations) (lookupFailure host : Option String) :
    Except AcError OrgContext :=
  match host with
  | none => .error (.invalidToken "Missing or invalid Host header")
  | some host =>
    match extractSubdomain host.toList with
    | none => .error (.invalidToken "Invalid subdomain")
    | some subdomain =>
      match lookupFailure with
      | some message =>
        .error (.database ("Failed to fetch organization by subdomain: " ++ message))
      | none =>
        match T.getBySubdomain (String.ofList subdomain) with
        | none => .error (.notFound "Organization not found")
        | some org => .ok ⟨org.orgId, String.ofList subdomain⟩

/-! ### The hosts of a subdomain -/

/-- What follows the name in a host. -/
def IsPort (port : List Char) : Prop := port = [] ∨ ∃ digits, port = ':' :: digits

/-- The host is `<subdomain>.<domain>`, with or without a port, and not a list of numbers. -/
structure IsUnder (subdomain domain port host : List Char) : Prop where
  host_eq : host = subdomain ++ '.' :: (domain ++ port)
  noColon : ':' ∉ domain
  isPort : IsPort port
  notNumeric : isNumeric (subdomain ++ '.' :: domain) = false

theorem isSubdomain_notMem {subdomain : List Char} (h : isSubdomain subdomain = true) {c : Char}
    (hc : isSubdomainAlnum c = false) (hhyphen : c ≠ '-') : c ∉ subdomain := by
  simp only [isSubdomain, Bool.and_eq_true, List.all_eq_true] at h
  intro hmem
  have hchar := h.2 c hmem
  rw [hc, Bool.false_or, beq_iff_eq] at hchar
  exact hhyphen hchar

theorem hostWithoutPort_append {name port : List Char} (hname : ':' ∉ name) (hport : IsPort port) :
    hostWithoutPort (name ++ port) = name := by
  unfold hostWithoutPort
  obtain rfl | ⟨digits, rfl⟩ := hport
  · rw [List.append_nil, List.splitOn_eq_singleton hname, List.headD_cons]
  · rw [List.splitOn_append_cons_self_of_not_mem hname, List.headD_cons]

/-- Every host is a name without colon and a port. -/
theorem exists_port (host : List Char) :
    ∃ port, host = hostWithoutPort host ++ port ∧ ':' ∉ hostWithoutPort host ∧ IsPort port := by
  by_cases hcolon : ':' ∈ host
  · obtain ⟨name, digits, hhost, hname⟩ := List.eq_append_cons_of_mem hcolon
    have hport : IsPort (':' :: digits) := .inr ⟨digits, rfl⟩
    rw [hhost, hostWithoutPort_append hname hport]
    exact ⟨_, rfl, hname, hport⟩
  · have hwhole := hostWithoutPort_append hcolon (.inl rfl)
    rw [List.append_nil] at hwhole
    rw [hwhole]
    exact ⟨[], (List.append_nil host).symm, hcolon, .inl rfl⟩

/-- What is before the first dot of a host that is not a list of numbers. -/
theorem extractSubdomain_eq_some_iff {host subdomain : List Char} :
    extractSubdomain host = some subdomain ↔
      isSubdomain subdomain = true ∧ ∃ domain port, IsUnder subdomain domain port host := by
  constructor
  · intro h
    obtain ⟨port, hhost, hcolon, hport⟩ := exists_port host
    unfold extractSubdomain at h
    dsimp only at h
    generalize hostWithoutPort host = name at h hhost hcolon
    split_ifs at h with hlen hnumeric
    have hdot : '.' ∈ name := by
      by_contra hdot
      rw [List.splitOn_eq_singleton hdot] at hlen
      exact hlen (Nat.lt_succ_self 1)
    obtain ⟨first, domain, rfl, hfirst⟩ := List.eq_append_cons_of_mem hdot
    have hnumeric' : isNumeric (first ++ '.' :: domain) = false := Bool.not_eq_true _ ▸ hnumeric
    rw [List.splitOn_append_cons_self_of_not_mem hfirst] at h
    dsimp only [List.head?_cons] at h
    split_ifs at h with hsubdomain
    obtain rfl := Option.some.inj h
    refine ⟨hsubdomain, domain, port, ?_, ?_, hport, hnumeric'⟩
    · rw [hhost, List.append_assoc, List.cons_append]
    · exact fun hmem => hcolon (List.mem_append_right _ (List.mem_cons_of_mem _ hmem))
  · rintro ⟨hsubdomain, domain, port, rfl, hcolon, hport, hnumeric⟩
    have hdot : '.' ∉ subdomain := isSubdomain_notMem hsubdomain (by decide) (by decide)
    have hname : ':' ∉ subdomain ++ '.' :: domain := by
      rw [List.mem_append, List.mem_cons, not_or, not_or]
      exact ⟨isSubdomain_notMem hsubdomain (by decide) (by decide), by decide, hcolon⟩
    have hhost : subdomain ++ '.' :: (domain ++ port) = (subdomain ++ '.' :: domain) ++ port := by
      rw [List.append_assoc, List.cons_append]
    have hparts : (domain.splitOn '.').length ≠ 0 := by
      rw [ne_eq, List.length_eq_zero_iff]
      exact List.splitOn_ne_nil _ _
    unfold extractSubdomain
    rw [hhost, hostWithoutPort_append hname hport]
    dsimp only
    rw [show ((subdomain ++ '.' :: domain).splitOn '.').all isU8 = false from hnumeric,
      List.splitOn_append_cons_self_of_not_mem hdot, if_neg (by rw [List.length_cons]; omega),
      if_neg Bool.false_ne_true, List.head?_cons]
    exact if_pos hsubdomain

theorem ne_hyphen {c : Char} (h : isSubdomainAlnum c = true) : c ≠ '-' := by
  rintro rfl
  exact absurd h (by decide)

/-- What the database takes as a subdomain, the middleware does. -/
theorem isSubdomain_of_format {subdomain : List Char} (h : subdomainFormat subdomain = true) :
    isSubdomain subdomain = true := by
  cases subdomain with
  | nil => cases h
  | cons first rest =>
    rw [subdomainFormat, Bool.and_eq_true] at h
    obtain ⟨hfirst, hrest⟩ := h
    have hne := ne_hyphen hfirst
    cases hreverse : rest.reverse with
    | nil =>
      obtain rfl := List.reverse_eq_nil_iff.mp hreverse
      simp [isSubdomain, hfirst, hne]
    | cons last middle =>
      obtain rfl : rest = middle.reverse ++ [last] := by
        rw [← List.reverse_reverse rest, hreverse, List.reverse_cons]
      rw [hreverse] at hrest
      simp only [Bool.and_eq_true, List.all_eq_true] at hrest
      obtain ⟨⟨hlast, _⟩, hmiddle⟩ := hrest
      have hlastChar : ((first :: (middle.reverse ++ [last])).getLast? != some '-') = true := by
        rw [← List.cons_append, List.getLast?_concat]
        simp [ne_hyphen hlast]
      have hall : (first :: (middle.reverse ++ [last])).all
          (fun c => isSubdomainAlnum c || c == '-') = true := by
        simp only [List.all_cons, List.all_append, List.all_reverse, List.all_nil, hfirst, hlast,
          List.all_eq_true.mpr hmiddle, Bool.true_or, Bool.and_true]
      simp only [isSubdomain, hall, Bool.and_true, Bool.and_eq_true]
      exact ⟨⟨rfl, by simp [hne]⟩, hlastChar⟩

namespace Organizations

variable {T : Organizations} {org : Organization}

theorem getBySubdomain_eq_some_iff {subdomain : String} :
    T.getBySubdomain subdomain = some org ↔
      org ∈ T.rows ∧ org.isActive = true ∧ org.subdomain = subdomain := by
  constructor
  · intro h
    have hfound := List.find?_some h
    obtain ⟨heq, hactive⟩ := of_decide_eq_true hfound
    exact ⟨List.mem_of_find?_eq_some h, hactive, heq⟩
  · rintro ⟨hmem, hactive, rfl⟩
    cases hfind : T.getBySubdomain org.subdomain with
    | none =>
      have hnone := List.find?_eq_none.mp hfind org hmem
      exact absurd (decide_eq_true ⟨rfl, hactive⟩) hnone
    | some org' =>
      have hfound := List.find?_some hfind
      have hmem' := List.mem_of_find?_eq_some hfind
      rw [List.inj_on_of_nodup_map T.subdomainKey hmem' hmem (of_decide_eq_true hfound).1]

end Organizations

/-- An organization is found exactly by the hosts under its subdomain, and only while it is
    active. -/
theorem requireOrgContext_iff (T : Organizations) (host : String) (context : OrgContext) :
    requireOrgContext T none (some host) = .ok context ↔
      ∃ org ∈ T.rows, org.isActive = true ∧ context = ⟨org.orgId, org.subdomain⟩ ∧
        ∃ domain port, IsUnder org.subdomain.toList domain port host.toList := by
  unfold requireOrgContext
  dsimp only
  constructor
  · intro h
    split at h
    · cases h
    next subdomain hsubdomain =>
      obtain ⟨_, hunder⟩ := extractSubdomain_eq_some_iff.mp hsubdomain
      split at h
      · cases h
      next org horg =>
        obtain ⟨hmem, hactive, heq⟩ := Organizations.getBySubdomain_eq_some_iff.mp horg
        refine ⟨org, hmem, hactive, ?_, ?_⟩
        · rw [heq]
          exact (Except.ok.inj h).symm
        · rw [heq, String.toList_ofList]
          exact hunder
  · rintro ⟨org, hmem, hactive, rfl, hunder⟩
    have hformat := isSubdomain_of_format (T.format org hmem)
    rw [extractSubdomain_eq_some_iff.mpr ⟨hformat, hunder⟩]
    dsimp only
    rw [String.ofList_toList,
      Organizations.getBySubdomain_eq_some_iff.mpr ⟨hmem, hactive, rfl⟩]

/-! ## The handlers -/

/-- `handle_register` (auth_handler.rs:146), the address of the client as text. -/
def handleRegister (L : RateLimits) (s : AuthStore) (context : OrgContext) (addr : String)
    (userAgent : Option String) (payload : RegistrationRequest) (env : RegisterEnv) :
    AuthStore × Except AcError RegistrationResponse :=
  registerUser L s context.orgId payload (some addr) userAgent env

/-- `handle_user_token` (auth_handler.rs:91). -/
def handleUserToken (L : RateLimits) (s : AuthStore) (context : OrgContext) (addr : String)
    (userAgent : Option String) (email password : String) (env : TokenEnv) :
    AuthStore × Except AcError UserTokenResponse :=
  issueUserToken L s context.orgId email password (some addr) userAgent env

/-- The route of a request and what comes with it. -/
inductive UserBody
  | register (payload : RegistrationRequest) (env : RegisterEnv)
  | token (email password : String) (env : TokenEnv)

/-- A request to a user route. -/
structure UserRequest where
  host : Option String
  /-- The failure of the query for the organization. -/
  lookupFailure : Option String
  addr : String
  userAgent : Option String
  body : UserBody

/-- The answer to such a request. -/
inductive UserReply
  /-- By `require_org_context`. -/
  | refused (e : AcError)
  | registered (result : Except AcError RegistrationResponse)
  | issued (result : Except AcError UserTokenResponse)

/-- The requests so far with their answers, the last one first. -/
abbrev UserHistory := List (UserRequest × UserReply)

/-- The organization of a request. -/
def UserRequest.context (T : Organizations) (request : UserRequest) : Except AcError OrgContext :=
  requireOrgContext T request.lookupFailure request.host

/-- A request behind `require_org_context`. -/
def UserRequest.handle (L : RateLimits) (s : AuthStore) (request : UserRequest)
    (context : OrgContext) : AuthStore × UserReply :=
  match request.body with
  | .register payload env =>
    let result := handleRegister L s context request.addr request.userAgent payload env
    (result.1, .registered result.2)
  | .token email password env =>
    let result := handleUserToken L s context request.addr request.userAgent email password env
    (result.1, .issued result.2)

/-- A request. -/
def userStep (L : RateLimits) (T : Organizations) (s : AuthStore) (request : UserRequest) :
    AuthStore × UserReply :=
  match request.context T with
  | .error e => (s, .refused e)
  | .ok context => request.handle L s context

/-- Every role is a user's (`user_roles.user_id` references `users`). -/
def AuthStore.RolesOwned (s : AuthStore) : Prop :=
  ∀ r ∈ s.userRoles, r.1 ∈ s.users.map (·.userId)

/-- Tables whose roles are users'. -/
abbrev Accounts := { s : AuthStore // s.RolesOwned }

/-- The id of a new user is new (`gen_random_uuid`). -/
def UserBody.IsFresh (s : AuthStore) : UserBody → Prop
  | .register _ env => env.userId ∉ s.users.map (·.userId)
  | .token _ _ _ => True

instance decidableIsFresh (s : AuthStore) : ∀ body, Decidable (UserBody.IsFresh s body)
  | .register _ env => inferInstanceAs (Decidable (env.userId ∉ s.users.map (·.userId)))
  | .token _ _ _ => inferInstanceAs (Decidable True)

/-- Requests to the two routes, one after another. -/
def userRoutes (L : RateLimits) (T : Organizations) (s₀ : Accounts) :
    Machine AuthStore UserRequest UserReply where
  init := s₀.val
  step := userStep L T
  allowed _ s request := request.body.IsFresh s

instance decidableUserRoutes (L : RateLimits) (T : Organizations) (s₀ : Accounts) (h : UserHistory)
    (s : AuthStore) (request : UserRequest) :
    Decidable ((userRoutes L T s₀).allowed h s request) :=
  decidableIsFresh s request.body

end DarkTower.Ac
