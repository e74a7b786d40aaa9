import DarkTower.Ac.Scopes

/-!
# Clients and the events about them

The table `service_credentials` together with the rows of `auth_events` that refer to
it, as the migrations declare them: the reference has no `ON DELETE`, so a credential
with an event cannot be deleted. `CredentialStore` carries that constraint.

On it the handlers under `/api/v1/admin` (`ac-service/src/handlers/admin_handler.rs`)
beyond `Ac.Credentials`, and `issue_service_token` with its events. A rotation stores
the hash of a new secret and answers with the secret, once. A deletion takes the row
out.

* `administered_handle`: all that one administrative request can do.
* `issueServiceToken_table`: token requests answer as they do on the table alone.
-/

namespace DarkTower.Ac

open DarkTower.Common DarkTower.Lib

/-- A row of `auth_events` about a credential, as far as it is read. -/
structure CredentialLog where
  credentialId : String
  success : Bool
  createdAt : ℕ
deriving DecidableEq

/-- The two tables; an event refers to a credential. -/
structure CredentialStore where
  credentials : CredentialTable
  authEvents : List CredentialLog
  references : ∀ e ∈ authEvents, e.credentialId ∈ credentials.map (·.credentialId)

/-- Newest `created_at` first (`get_all`, service_credentials.rs:135). -/
def CredentialTable.getAll (table : CredentialTable) (failure : Option String) :
    Except AcError (List ServiceCredential) :=
  query "Failed to fetch all credentials: " failure
    (table.insertionSort fun row row' => row'.createdAt ≤ row.createdAt)

/-- The row that `rotate_secret` writes. -/
def CredentialTable.withSecret (row : ServiceCredential) (newSecretHash : String) (now : ℕ) :
    ServiceCredential :=
  { row with clientSecretHash := newSecretHash, updatedAt := now }

/-- `rotate_secret` (service_credentials.rs:223): the new table and the row it returns. -/
def CredentialTable.rotateSecret (table : CredentialTable) (credentialId newSecretHash : String)
    (now : ℕ) (failure : Option String) :
    Except AcError (CredentialTable × ServiceCredential) :=
  match table.find? fun row => row.credentialId = credentialId with
  | none =>
    .error (.database ("Failed to rotate secret: " ++ failure.getD
      "no rows returned by a query that expected to return at least one row"))
  | some row =>
    query "Failed to rotate secret: " failure
      (table.map fun row => if row.credentialId = credentialId then
        withSecret row newSecretHash now else row, withSecret row newSecretHash now)

namespace CredentialStore

/-- The store with other credentials, unless an event would refer to none of them. -/
def withCredentials (s : CredentialStore) (table : CredentialTable) : Option CredentialStore :=
  if h : ∀ e ∈ s.authEvents, e.credentialId ∈ table.map (·.credentialId) then
    some ⟨table, s.authEvents, h⟩
  else none

/-- A write that leaves the ids of the credentials, or adds to them. -/
def write (s : CredentialStore) (table : CredentialTable) : CredentialStore :=
  (s.withCredentials table).getD s

/-- `log_event` (auth_events.rs:11) about a credential at an instant, or an insert that
    fails. The callers go on in either case. -/
def logEvent (s : CredentialStore) (credentialId : String) (success : Bool)
    (loggedAt : Option ℕ) : CredentialStore :=
  match loggedAt with
  | none => s
  | some createdAt =>
    if h : credentialId ∈ s.credentials.map (·.credentialId) then
      { s with
        authEvents := ⟨credentialId, success, createdAt⟩ :: s.authEvents
        references := List.forall_mem_cons.mpr ⟨h, s.references⟩ }
    else s

/-- `get_failed_attempts_count` (auth_events.rs:169). -/
def getFailedAttemptsCount (s : CredentialStore) (credentialId : String) (since : ℤ)
    (failure : Option String) : Except AcError ℕ :=
  query "Failed to count failed attempts: " failure
    (s.authEvents.countP fun e =>
      e.credentialId = credentialId ∧ e.success = false ∧ since ≤ e.createdAt)

/-- What the database says of a deletion that an event forbids. -/
def referenced : String :=
  "error returned from database: update or delete on table \"service_credentials\" violates " ++
    "foreign key constraint \"auth_events_credential_id_fkey\" on table \"auth_events\""

/-- `delete` (service_credentials.rs:203). -/
def delete (s : CredentialStore) (credentialId : String) (failure : Option String) :
    Except AcError CredentialStore :=
  let rest := s.credentials.filter fun row => row.credentialId ≠ credentialId
  match failure, s.withCredentials rest with
  | some message, _ => .error (.database ("Failed to delete credential: " ++ message))
  | none, none => .error (.database ("Failed to delete credential: " ++ referenced))
  | none, some s' =>
    if rest.length = s.credentials.length then .error (.database "Credential not found")
    else .ok s'

end CredentialStore

/-! ## The handlers -/

/-- `ClientListItem` (admin_handler.rs:407). -/
structure ClientListItem where
  id : String
  clientId : String
  serviceType : String
  scopes : List String
  isActive : Bool
  createdAt : ℕ
deriving DecidableEq

/-- What the list says of a row. -/
def ServiceCredential.item (row : ServiceCredential) : ClientListItem :=
  ⟨row.credentialId, row.clientId, row.serviceType, row.scopes, row.isActive, row.createdAt⟩

/-- `handle_list_clients` (admin_handler.rs:533). -/
def handleListClients (table : CredentialTable) (failure : Option String) :
    Except AcError (List ClientListItem) :=
  match table.getAll failure with
  | .error e => .error e
  | .ok credentials => .ok (credentials.map (·.item))

/-- The answer when no client has the id. -/
def clientNotFound (id : String) : AcError := .notFound ("Client with ID " ++ id ++ " not found")

/-- `handle_get_client` (admin_handler.rs:595). -/
def handleGetClient (table : CredentialTable) (id : String) (failure : Option String) :
    Except AcError ClientDetailResponse :=
  match table.getByCredentialId id failure with
  | .error e => .error e
  | .ok none => .error (clientNotFound id)
  | .ok (some credential) => .ok credential.detail

/-- A request of `handle_delete_client`, and which of its queries fails. -/
structure DeleteClientRequest where
  id : String
  fetchFailure : Option String
  deleteFailure : Option String

/-- `handle_delete_client` (admin_handler.rs:956). -/
def handleDeleteClient (s : CredentialStore) (request : DeleteClientRequest) :
    CredentialStore × Except AcError Unit :=
  match s.credentials.getByCredentialId request.id request.fetchFailure with
  | .error e => (s, .error e)
  | .ok none => (s, .error (clientNotFound request.id))
  | .ok (some _) =>
    match s.delete request.id request.deleteFailure with
    | .error e => (s, .error e)
    | .ok s' => (s', .ok ())

/-- A request of `handle_rotate_client_secret`, what is drawn for it, and which of its
    queries fails. -/
structure RotateSecretRequest where
  now : ℕ
  id : String
  fetchFailure : Option String
  /-- `generate_client_secret`. -/
  newClientSecret : Except AcError String
  /-- `hash_client_secret`, with the salt drawn for the request. -/
  hashClientSecret : String → Except AcError String
  rotateFailure : Option String

/-- `RotateSecretResponse` (admin_handler.rs:494). -/
structure RotateSecretResponse where
  clientId : String
  clientSecret : String
deriving DecidableEq

/-- `handle_rotate_client_secret` (admin_handler.rs:1053). -/
def handleRotateClientSecret (s : CredentialStore) (request : RotateSecretRequest) :
    CredentialStore × Except AcError RotateSecretResponse :=
  match s.credentials.getByCredentialId request.id request.fetchFailure with
  | .error e => (s, .error e)
  | .ok none => (s, .error (clientNotFound request.id))
  | .ok (some credential) =>
    match request.newClientSecret with
    | .error e => (s, .error e)
    | .ok newClientSecret =>
      match request.hashClientSecret newClientSecret with
      | .error e => (s, .error e)
      | .ok newSecretHash =>
        match s.credentials.rotateSecret request.id newSecretHash request.now
            request.rotateFailure with
        | .error e => (s, .error e)
        | .ok (table, _) => (s.write table, .ok ⟨credential.clientId, newClientSecret⟩)

/-- `register_service` (registration_service.rs:24) with the event it logs. -/
def CredentialStore.registerService (s : CredentialStore) (request : RegisterServiceRequest)
    (drawn : Registration) (loggedAt : Option ℕ) : CredentialStore :=
  match Ac.registerService s.credentials request drawn with
  | .error _ => s
  | .ok (table, _) => (s.write table).logEvent drawn.credentialId true loggedAt

/-- The requests behind `require_admin_scope` (`routes/mod.rs:31`). -/
inductive AdminRequest
  | register (request : RegisterServiceRequest) (drawn : Registration) (loggedAt : Option ℕ)
  | list (failure : Option String)
  | create (request : RegisterServiceRequest) (drawn : Registration) (loggedAt : Option ℕ)
  | get (id : String) (failure : Option String)
  | update (request : UpdateClientRequest)
  | delete (request : DeleteClientRequest)
  | rotateSecret (request : RotateSecretRequest)

/-- The answer of a handler, by its request. -/
inductive AdminReply
  | registered (result : Except AcError RegisterServiceResponse)
  | listed (result : Except AcError (List ClientListItem))
  | created (result : Except AcError CreateClientResponse)
  | detail (result : Except AcError ClientDetailResponse)
  | deleted (result : Except AcError Unit)
  | rotated (result : Except AcError RotateSecretResponse)

namespace AdminRequest

/-- One request. -/
def handle (s : CredentialStore) : AdminRequest → CredentialStore × AdminReply
  | .register request drawn loggedAt =>
    (s.registerService request drawn loggedAt,
      .registered (handleRegisterService s.credentials request drawn).2)
  | .list failure => (s, .listed (handleListClients s.credentials failure))
  | .create request drawn loggedAt =>
    (s.registerService request drawn loggedAt,
      .created (handleCreateClient s.credentials request drawn).2)
  | .get id failure => (s, .detail (handleGetClient s.credentials id failure))
  | .update request =>
    (s.write (handleUpdateClient s.credentials request).1,
      .detail (handleUpdateClient s.credentials request).2)
  | .delete request => ((handleDeleteClient s request).1, .deleted (handleDeleteClient s request).2)
  | .rotateSecret request =>
    ((handleRotateClientSecret s request).1, .rotated (handleRotateClientSecret s request).2)

/-- What a request draws for a new row. -/
def drawn : AdminRequest → Option Registration
  | .register _ drawn _ => some drawn
  | .create _ drawn _ => some drawn
  | _ => none

end AdminRequest

/-- The credential whose secret an answered request replaced, with the new hash, or which
    it deleted. -/
def secretChange : AdminRequest → AdminReply → Option (String × Option String)
  | .delete request, .deleted (.ok ()) => some (request.id, none)
  | .rotateSecret request, .rotated (.ok response) =>
    some (request.id, (request.hashClientSecret response.clientSecret).toOption)
  | _, _ => none

/-! ## Token requests -/

/-- What a token request meets outside the two tables. -/
structure ServiceTokenEnv where
  now : ℕ
  fetchFailure : Option String
  countFailure : Option String
  /-- `get_active_key`. -/
  activeKey : Except AcError (Option SigningKey)
  /-- `decrypt_private_key`. -/
  decrypted : Except AcError Unit
  /-- `sign_jwt`: the length of the token. -/
  signed : Except AcError ℕ
  /-- The instant of the event that is logged; none when its insert fails. -/
  loggedAt : Option ℕ

/-- The settings of the token endpoint with its window. -/
structure ClientSettings extends TokenSettings where
  rateLimitWindowMinutes : ℕ

/-- The request on the table alone, with the count that the events give. -/
def ServiceTokenEnv.context (S : ClientSettings) (s : CredentialStore) (env : ServiceTokenEnv)
    (clientId : String) : TokenContext where
  now := env.now
  fetchFailure := env.fetchFailure
  failedCount :=
    match s.credentials.find? fun row => row.clientId = clientId with
    | none => .ok 0
    | some credential => s.getFailedAttemptsCount credential.credentialId
        ((env.now : ℤ) - fromSecs (S.rateLimitWindowMinutes * 60)) env.countFailure
  activeKey := env.activeKey
  decrypted := env.decrypted
  signed := env.signed

/-- `issue_service_token` (token_service.rs:29). -/
def CredentialStore.issueServiceToken (S : ClientSettings) (s : CredentialStore)
    (env : ServiceTokenEnv) (clientId clientSecret grantType : String)
    (requestedScopes : Option (List String)) : CredentialStore × Except AcError TokenResponse :=
  let ctx := env.context S s clientId
  if grantType ≠ "client_credentials" then (s, .error .invalidCredentials)
  else
    match s.credentials.getByClientId clientId env.fetchFailure with
    | .error e => (s, .error e)
    | .ok credential =>
      match checkLockout S.toTokenSettings ctx credential with
      | .error e => (s, .error e)
      | .ok () =>
        match S.verifyClientSecret clientSecret (hashToVerify credential) with
        | .error e => (s, .error e)
        | .ok isValid =>
          match credential with
          | none => (s, .error .invalidCredentials)
          | some credential =>
            if !credential.isActive || !isValid then
              (s.logEvent credential.credentialId false env.loggedAt, .error .invalidCredentials)
            else
              match selectScopes credential requestedScopes with
              | .error e => (s, .error e)
              | .ok scopes =>
                match signToken ctx clientId credential scopes with
                | .error e => (s, .error e)
                | .ok response =>
                  (s.logEvent credential.credentialId true env.loggedAt, .ok response)

/-- `handle_service_token` (auth_handler.rs:221). -/
def CredentialStore.handleServiceToken (S : ClientSettings) (s : CredentialStore)
    (env : ServiceTokenEnv) (payload : ServiceTokenRequest) :
    CredentialStore × Except AcError TokenResponse :=
  if payload.grantType ≠ "client_credentials" then (s, .error .invalidCredentials)
  else
    match extractClientCredentials payload with
    | .error e => (s, .error e)
    | .ok (clientId, clientSecret) =>
      s.issueServiceToken S env clientId clientSecret payload.grantType
        (payload.scope.map Text.splitWhitespace)

/-! ## What a request does -/

namespace CredentialStore

variable {s s' : CredentialStore} {table : CredentialTable} {id : String} {success : Bool}
  {loggedAt : Option ℕ}

theorem withCredentials_eq_some (h : s.withCredentials table = some s') :
    s'.credentials = table ∧ s'.authEvents = s.authEvents := by
  unfold withCredentials at h
  split_ifs at h
  obtain rfl := Option.some.inj h
  exact ⟨rfl, rfl⟩

theorem write_of_ids (h : s.credentials.map (·.credentialId) ⊆ table.map (·.credentialId)) :
    (s.write table).credentials = table ∧ (s.write table).authEvents = s.authEvents := by
  have hrefs : ∀ e ∈ s.authEvents, e.credentialId ∈ table.map (·.credentialId) :=
    fun e he => h (s.references e he)
  rw [write, withCredentials, dif_pos hrefs]
  exact ⟨rfl, rfl⟩

@[simp] theorem write_self : s.write s.credentials = s := by
  rw [write, withCredentials, dif_pos s.references]
  rfl

@[simp] theorem logEvent_credentials :
    (s.logEvent id success loggedAt).credentials = s.credentials := by
  unfold logEvent
  split
  · rfl
  · split_ifs <;> rfl

theorem subset_logEvent : s.authEvents ⊆ (s.logEvent id success loggedAt).authEvents := by
  unfold logEvent
  split
  · exact List.Subset.refl _
  · split_ifs
    · exact List.subset_cons_self _ _
    · exact List.Subset.refl _

/-- A deletion that succeeds takes out one credential, to which no event refers. -/
theorem delete_eq_ok {failure : Option String} (h : s.delete id failure = .ok s') :
    s'.credentials = s.credentials.filter (fun row => row.credentialId ≠ id) ∧
      s'.authEvents = s.authEvents ∧ ∀ e ∈ s.authEvents, e.credentialId ≠ id := by
  unfold delete at h
  dsimp only at h
  split at h
  · cases h
  · cases h
  next hwith =>
    split_ifs at h
    obtain rfl := (Except.ok.inj h).symm
    obtain ⟨hcredentials, hevents⟩ := withCredentials_eq_some hwith
    refine ⟨hcredentials, hevents, fun e he heq => ?_⟩
    have href := s'.references e (hevents ▸ he)
    rw [hcredentials] at href
    obtain ⟨row, hrow, hid⟩ := List.mem_map.mp href
    simp [hid, heq] at hrow

end CredentialStore

/-- All that an administrative request can do. -/
inductive Administered (s : CredentialStore) (request : AdminRequest) (reply : AdminReply)
    (s' : CredentialStore) : Prop
  | kept (hchange : secretChange request reply = none) (hs : s' = s)
  | inserted (row : ServiceCredential) (drawn : Registration) (serviceType : ServiceType)
      (hchange : secretChange request reply = none) (hdrawn : request.drawn = some drawn)
      (hcredentials : s'.credentials = row :: s.credentials)
      (hevents : s.authEvents ⊆ s'.authEvents)
      (hids : row.credentialId = drawn.credentialId ∧ row.clientId = drawn.clientId)
      (hhash : drawn.clientSecretHash = .ok row.clientSecretHash)
      (htype : ServiceType.fromStr row.serviceType = .ok serviceType)
      (hscopes : row.scopes = serviceType.defaultScopes)
      (hnew : CredentialTable.duplicateKey s.credentials row = none)
  | updated (id : String) (scopes : List String) (now : ℕ)
      (hchange : secretChange request reply = none) (hvalid : validateScopes scopes = .ok ())
      (hcredentials : s'.credentials = s.credentials.map fun row =>
        if row.credentialId = id then CredentialTable.withScopes row scopes now else row)
      (hevents : s'.authEvents = s.authEvents)
  | rotated (id hash : String) (now : ℕ)
      (hchange : secretChange request reply = some (id, some hash))
      (hcredentials : s'.credentials = s.credentials.map fun row =>
        if row.credentialId = id then CredentialTable.withSecret row hash now else row)
      (hevents : s'.authEvents = s.authEvents)
  | deleted (id : String) (hchange : secretChange request reply = some (id, none))
      (hcredentials : s'.credentials = s.credentials.filter fun row => row.credentialId ≠ id)
      (hevents : s'.authEvents = s.authEvents) (hunlogged : ∀ e ∈ s.authEvents, e.credentialId ≠ id)

section Handlers

variable {s : CredentialStore}

theorem registerService_eq_ok {table table' : CredentialTable} {request : RegisterServiceRequest}
    {drawn : Registration} {response : RegisterServiceResponse}
    (h : registerService table request drawn = .ok (table', response)) :
    ∃ row serviceType, table' = row :: table ∧
      (row.credentialId = drawn.credentialId ∧ row.clientId = drawn.clientId) ∧
      drawn.clientSecretHash = .ok row.clientSecretHash ∧
      ServiceType.fromStr row.serviceType = .ok serviceType ∧
      row.scopes = serviceType.defaultScopes ∧ table.duplicateKey row = none := by
  unfold registerService at h
  split at h
  · cases h
  next serviceType htype =>
    split at h
    · cases h
    next clientSecret hsecret =>
    split at h
    · cases h
    next clientSecretHash hhash =>
      dsimp only at h
      split at h
      · cases h
      next hinsert =>
        rw [Except.ok.injEq, Prod.mk.injEq] at h
        have htable := query_eq_ok hinsert
        have hdrawn : drawn.clientSecretHash = .ok clientSecretHash := by
          rw [Registration.clientSecretHash, hsecret]
          exact hhash
        refine ⟨_, serviceType, h.1 ▸ htable, ⟨rfl, rfl⟩, hdrawn, htype, rfl, ?_⟩
        unfold CredentialTable.createServiceCredential at hinsert
        cases hdup : CredentialTable.duplicateKey table _ with
        | none => rfl
        | some message =>
          rw [hdup] at hinsert
          cases hfail : drawn.insertFailure <;> rw [hfail] at hinsert <;> cases hinsert

theorem administered_registerService {request : AdminRequest} {reply : AdminReply}
    {drawn : Registration} (payload : RegisterServiceRequest) (loggedAt : Option ℕ)
    (hchange : secretChange request reply = none) (hdrawn : request.drawn = some drawn) :
    Administered s request reply (s.registerService payload drawn loggedAt) := by
  unfold CredentialStore.registerService
  split
  · exact .kept hchange rfl
  next table response hregister =>
    obtain ⟨row, serviceType, rfl, hids, hhash, htype, hscopes, hnew⟩ :=
      registerService_eq_ok hregister
    obtain ⟨hcredentials, hevents⟩ := CredentialStore.write_of_ids
      (show s.credentials.map (·.credentialId) ⊆
        (row :: s.credentials).map (·.credentialId) by simp)
    refine .inserted row drawn serviceType hchange hdrawn ?_ ?_ hids hhash htype hscopes hnew
    · rw [CredentialStore.logEvent_credentials, hcredentials]
    · rw [← hevents]
      exact CredentialStore.subset_logEvent

theorem ids_map (f : ServiceCredential → ServiceCredential)
    (hf : ∀ row, (f row).credentialId = row.credentialId) (table : CredentialTable) :
    table.map (·.credentialId) ⊆ (table.map f).map (·.credentialId) := by
  simp [Function.comp_def, hf]

theorem administered_update (request : UpdateClientRequest) :
    Administered s (.update request) (.detail (handleUpdateClient s.credentials request).2)
      (s.write (handleUpdateClient s.credentials request).1) := by
  unfold handleUpdateClient
  split
  · exact .kept rfl CredentialStore.write_self
  · exact .kept rfl CredentialStore.write_self
  split
  · exact .kept rfl CredentialStore.write_self
  split
  · exact .kept rfl CredentialStore.write_self
  next hvalid =>
    split
    · exact .kept rfl CredentialStore.write_self
    next table credential hupdate =>
      unfold CredentialTable.updateMetadata at hupdate
      split at hupdate
      · cases hupdate
      · obtain rfl := (Prod.mk.injEq .. ▸ query_eq_ok hupdate).1
        obtain ⟨hcredentials, hevents⟩ := CredentialStore.write_of_ids (s := s)
          (ids_map (fun row => if row.credentialId = request.id then
            CredentialTable.withScopes row _ request.now else row)
            (fun row => by split_ifs <;> rfl) s.credentials)
        exact .updated request.id _ request.now rfl hvalid hcredentials hevents

theorem administered_delete (request : DeleteClientRequest) :
    Administered s (.delete request) (.deleted (handleDeleteClient s request).2)
      (handleDeleteClient s request).1 := by
  unfold handleDeleteClient
  split
  · exact .kept rfl rfl
  · exact .kept rfl rfl
  split
  · exact .kept rfl rfl
  next s' hdelete =>
    obtain ⟨hcredentials, hevents, hunlogged⟩ := CredentialStore.delete_eq_ok hdelete
    exact .deleted request.id rfl hcredentials hevents hunlogged

theorem administered_rotateSecret (request : RotateSecretRequest) :
    Administered s (.rotateSecret request) (.rotated (handleRotateClientSecret s request).2)
      (handleRotateClientSecret s request).1 := by
  unfold handleRotateClientSecret
  split
  · exact .kept rfl rfl
  · exact .kept rfl rfl
  split
  · exact .kept rfl rfl
  split
  · exact .kept rfl rfl
  next newSecretHash hhash =>
    split
    · exact .kept rfl rfl
    next table row hrotate =>
      unfold CredentialTable.rotateSecret at hrotate
      split at hrotate
      · cases hrotate
      · obtain rfl := (Prod.mk.injEq .. ▸ query_eq_ok hrotate).1
        obtain ⟨hcredentials, hevents⟩ := CredentialStore.write_of_ids (s := s)
          (ids_map (fun row => if row.credentialId = request.id then
            CredentialTable.withSecret row newSecretHash request.now else row)
            (fun row => by split_ifs <;> rfl) s.credentials)
        refine .rotated request.id newSecretHash request.now ?_ hcredentials hevents
        simp [secretChange, hhash, Except.toOption]

theorem administered_handle (request : AdminRequest) :
    Administered s request (request.handle s).2 (request.handle s).1 := by
  cases request with
  | register payload drawn loggedAt => exact administered_registerService payload loggedAt rfl rfl
  | list failure => exact .kept rfl rfl
  | create payload drawn loggedAt => exact administered_registerService payload loggedAt rfl rfl
  | get id failure => exact .kept rfl rfl
  | update request => exact administered_update request
  | delete request => exact administered_delete request
  | rotateSecret request => exact administered_rotateSecret request

/-! ### Token requests -/

variable {S : ClientSettings} {env : ServiceTokenEnv} {payload : ServiceTokenRequest}

/-- Apart from the event it logs, a token request is what it is on the table alone. -/
theorem issueServiceToken_table {clientId clientSecret grantType : String}
    {requestedScopes : Option (List String)} :
    (s.issueServiceToken S env clientId clientSecret grantType requestedScopes).2 =
      issueServiceToken S.toTokenSettings s.credentials (env.context S s clientId) clientId
        clientSecret grantType requestedScopes := by
  have hfetch : (env.context S s clientId).fetchFailure = env.fetchFailure := rfl
  unfold CredentialStore.issueServiceToken issueServiceToken
  rw [hfetch]
  dsimp only
  split
  · rfl
  cases s.credentials.getByClientId clientId env.fetchFailure with
  | error e => rfl
  | ok credential =>
    dsimp only
    cases checkLockout S.toTokenSettings (env.context S s clientId) credential with
    | error e => rfl
    | ok _ =>
      dsimp only
      cases S.verifyClientSecret clientSecret (hashToVerify credential) with
      | error e => rfl
      | ok isValid =>
        cases credential with
        | none => rfl
        | some credential =>
          dsimp only
          split
          · rfl
          cases selectScopes credential requestedScopes with
          | error e => rfl
          | ok scopes =>
            dsimp only
            cases signToken (env.context S s clientId) clientId credential scopes <;> rfl

/-- A token request leaves the store alone or logs one event. -/
theorem issueServiceToken_store (S : ClientSettings) (s : CredentialStore)
    (env : ServiceTokenEnv) (clientId clientSecret grantType : String)
    (requestedScopes : Option (List String)) :
    (s.issueServiceToken S env clientId clientSecret grantType requestedScopes).1 = s ∨
      ∃ id success, (s.issueServiceToken S env clientId clientSecret grantType
        requestedScopes).1 = s.logEvent id success env.loggedAt := by
  unfold CredentialStore.issueServiceToken
  dsimp only
  split
  · exact .inl rfl
  split
  · exact .inl rfl
  split
  · exact .inl rfl
  split
  · exact .inl rfl
  split
  · exact .inl rfl
  split
  · exact .inr ⟨_, _, rfl⟩
  split
  · exact .inl rfl
  split
  · exact .inl rfl
  · exact .inr ⟨_, _, rfl⟩

theorem handleServiceToken_store :
    (s.handleServiceToken S env payload).1.credentials = s.credentials ∧
      s.authEvents ⊆ (s.handleServiceToken S env payload).1.authEvents := by
  unfold CredentialStore.handleServiceToken
  split
  · exact ⟨rfl, List.Subset.refl _⟩
  split
  · exact ⟨rfl, List.Subset.refl _⟩
  next clientId clientSecret _ =>
    rcases issueServiceToken_store S s env clientId clientSecret payload.grantType
      (payload.scope.map Text.splitWhitespace) with h | ⟨id, success, h⟩
    · rw [h]
      exact ⟨rfl, List.Subset.refl _⟩
    · rw [h]
      exact ⟨CredentialStore.logEvent_credentials, CredentialStore.subset_logEvent⟩

/-- What a token was issued on: the credential of its client, the secret presented, and the
    scopes requested. -/
structure Granted (S : TokenSettings) (table : CredentialTable) (now : ℕ) (clientSecret : String)
    (requestedScopes : Option (List String)) (claims : ServiceClaims)
    (credential : ServiceCredential) : Prop where
  found : table.find? (fun row => row.clientId = claims.sub) = some credential
  active : credential.isActive = true
  verified : S.verifyClientSecret clientSecret credential.clientSecretHash = .ok true
  serviceType : claims.serviceType = some credential.serviceType
  scopes : ∃ scopes, selectScopes credential requestedScopes = .ok scopes ∧
    claims.scope = " ".intercalate scopes
  dated : claims.iat = timestamp now ∧ claims.exp = timestamp now + tokenExpirySeconds

theorem granted_of_issueServiceToken {S : TokenSettings} {table : CredentialTable}
    {ctx : TokenContext} {clientId clientSecret grantType : String}
    {requestedScopes : Option (List String)} {response : TokenResponse}
    (h : issueServiceToken S table ctx clientId clientSecret grantType requestedScopes =
      .ok response) :
    ∃ credential, Granted S table ctx.now clientSecret requestedScopes
      response.accessToken.claims credential := by
  obtain ⟨credential, scopes, hfound, hactive, hverify, hscopes, hsign⟩ :=
    issueServiceToken_eq_ok h
  obtain ⟨rfl, hscope, htype, hdated⟩ := signToken_eq_ok hsign
  exact ⟨credential, hfound, hactive, hverify, htype, ⟨scopes, hscopes, hscope⟩, hdated⟩

/-- A token response of the store. -/
theorem granted_of_handleServiceToken {response : TokenResponse}
    (h : (s.handleServiceToken S env payload).2 = .ok response) :
    ∃ clientId clientSecret credential,
      extractClientCredentials payload = .ok (clientId, clientSecret) ∧
      Granted S.toTokenSettings s.credentials env.now clientSecret
        (payload.scope.map Text.splitWhitespace) response.accessToken.claims credential := by
  unfold CredentialStore.handleServiceToken at h
  split at h
  · cases h
  split at h
  · cases h
  next clientId clientSecret hextract =>
    rw [issueServiceToken_table] at h
    obtain ⟨credential, hgranted⟩ := granted_of_issueServiceToken h
    exact ⟨clientId, clientSecret, credential, hextract, hgranted⟩

end Handlers

end DarkTower.Ac
