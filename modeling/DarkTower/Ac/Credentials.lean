import DarkTower.Ac.Auth
import DarkTower.Lib.Machine
import DarkTower.Lib.Unicode

/-!
# Service credentials and the tokens issued for them

The table `service_credentials` (`ac-service/src/repositories/service_credentials.rs`)
and the requests that write or read its scopes:

* `handleRegisterService` and `handleCreateClient` insert a row with the default
  scopes of its service type (`handlers/admin_handler.rs`,
  `services/registration_service.rs`);
* `handleUpdateClient` replaces the scopes of a row (admin_handler.rs:789);
* `handleServiceToken` issues a token (`handlers/auth_handler.rs:221`,
  `services/token_service.rs:29`).

A token request reads its row once, and that reading is its step: what follows
does not look at the table. `bcrypt` is a parameter; what a request reads
elsewhere (failed attempts, signing key, random draws) and which query fails is
part of the request.
-/

namespace DarkTower.Ac

open DarkTower.Common DarkTower.Lib

/-- A row of `service_credentials`. -/
structure ServiceCredential where
  credentialId : String
  clientId : String
  clientSecretHash : String
  serviceType : String
  region : Option String
  scopes : List String
  isActive : Bool
  createdAt : ℕ
  updatedAt : ℕ
deriving DecidableEq

/-- The rows of `service_credentials`. -/
abbrev CredentialTable := List ServiceCredential

/-- A query that answers `result`, or fails; `what` starts the error text. -/
def query {α : Type} (what : String) (failure : Option String) (result : α) : Except AcError α :=
  match failure with
  | none => .ok result
  | some message => .error (.database (what ++ message))

namespace CredentialTable

/-- `get_by_client_id` (service_credentials.rs:39). -/
def getByClientId (table : CredentialTable) (clientId : String) (failure : Option String) :
    Except AcError (Option ServiceCredential) :=
  query "Failed to fetch service credential: " failure
    (table.find? fun row => row.clientId = clientId)

/-- `get_by_credential_id` (service_credentials.rs:156). -/
def getByCredentialId (table : CredentialTable) (credentialId : String)
    (failure : Option String) : Except AcError (Option ServiceCredential) :=
  query "Failed to fetch service credential: " failure
    (table.find? fun row => row.credentialId = credentialId)

/-- The unique columns of a new row that the table has already. -/
def duplicateKey (table : CredentialTable) (row : ServiceCredential) : Option String :=
  if table.any fun row' => row'.credentialId = row.credentialId then
    some "duplicate key value violates unique constraint \"service_credentials_pkey\""
  else if table.any fun row' => row'.clientId = row.clientId then
    some "duplicate key value violates unique constraint \"service_credentials_client_id_key\""
  else none

/-- `create_service_credential` (service_credentials.rs:9). -/
def createServiceCredential (table : CredentialTable) (row : ServiceCredential)
    (failure : Option String) : Except AcError CredentialTable :=
  query "Failed to create service credential: " (failure.or (table.duplicateKey row))
    (row :: table)

/-- The row that `update_metadata` writes. -/
def withScopes (row : ServiceCredential) (scopes : List String) (now : ℕ) : ServiceCredential :=
  { row with scopes := scopes, updatedAt := now }

/-- `update_metadata` (service_credentials.rs:178): the new table and the row it
    returns. -/
def updateMetadata (table : CredentialTable) (credentialId : String) (scopes : List String)
    (now : ℕ) (failure : Option String) : Except AcError (CredentialTable × ServiceCredential) :=
  match table.find? fun row => row.credentialId = credentialId with
  | none =>
    .error (.database ("Failed to update metadata: " ++ failure.getD
      "no rows returned by a query that expected to return at least one row"))
  | some row =>
    query "Failed to update metadata: " failure
      (table.map fun row => if row.credentialId = credentialId then withScopes row scopes now
        else row, withScopes row scopes now)

end CredentialTable

/-! ## Registration -/

/-- `ServiceType` (`models/mod.rs:182`). -/
inductive ServiceType
  | globalController
  | meetingController
  | mediaHandler
deriving DecidableEq

/-- `ServiceType::default_scopes` (models/mod.rs:193). -/
def ServiceType.defaultScopes : ServiceType → List String
  | .globalController => ["service.write.mc", "internal:meeting-token"]
  | .meetingController => ["service.write.mh", "service.write.gc"]
  | .mediaHandler => ["service.write.mc", "service.write.gc"]

/-- `ServiceType::from_str` (models/mod.rs:224). -/
def ServiceType.fromStr (text : String) : Except String ServiceType :=
  if text = "global-controller" then .ok .globalController
  else if text = "meeting-controller" then .ok .meetingController
  else if text = "media-handler" then .ok .mediaHandler
  else .error ("Invalid service type: " ++ text)

/-- `RegisterServiceRequest` and `CreateClientRequest`. -/
structure RegisterServiceRequest where
  serviceType : String
  region : Option String

/-- What is drawn for a new row, and which query of the request fails. -/
structure Registration where
  now : ℕ
  /-- `gen_random_uuid()` of the database. -/
  credentialId : String
  /-- `Uuid::new_v4()`. -/
  clientId : String
  /-- `generate_client_secret`. -/
  clientSecret : Except AcError String
  /-- `hash_client_secret`, with the salt drawn for the row. -/
  hashClientSecret : String → Except AcError String
  insertFailure : Option String
  fetchFailure : Option String

/-- The hash that is stored for the drawn secret. -/
def Registration.clientSecretHash (drawn : Registration) : Except AcError String :=
  drawn.clientSecret.bind drawn.hashClientSecret

/-- `RegisterServiceResponse` (models/mod.rs:114). -/
structure RegisterServiceResponse where
  clientId : String
  clientSecret : String
  serviceType : String
  scopes : List String
deriving DecidableEq

/-- `CreateClientResponse` (admin_handler.rs:442). -/
structure CreateClientResponse where
  id : String
  clientId : String
  clientSecret : String
  serviceType : String
  scopes : List String
deriving DecidableEq

/-- `register_service` (registration_service.rs:24). -/
def registerService (table : CredentialTable) (request : RegisterServiceRequest)
    (drawn : Registration) : Except AcError (CredentialTable × RegisterServiceResponse) :=
  match ServiceType.fromStr request.serviceType with
  | .error e =>
    .error (.database ("Invalid service_type: '" ++ request.serviceType ++ "'. " ++ e))
  | .ok serviceType =>
    match drawn.clientSecret with
    | .error e => .error e
    | .ok clientSecret =>
      match drawn.hashClientSecret clientSecret with
      | .error e => .error e
      | .ok clientSecretHash =>
        let scopes := serviceType.defaultScopes
        let row : ServiceCredential :=
          ⟨drawn.credentialId, drawn.clientId, clientSecretHash, request.serviceType,
            request.region, scopes, true, drawn.now, drawn.now⟩
        match table.createServiceCredential row drawn.insertFailure with
        | .error e => .error e
        | .ok table => .ok (table, ⟨drawn.clientId, clientSecret, request.serviceType, scopes⟩)

/-- The types that both handlers accept. -/
def validTypes : List String := ["global-controller", "meeting-controller", "media-handler"]

/-- The answer to any other type. -/
def invalidServiceType (serviceType : String) : AcError :=
  .database ("Invalid service_type: '" ++ serviceType ++ "'. Must be one of: " ++
    ", ".intercalate validTypes)

/-- `handle_register_service` (admin_handler.rs:43). -/
def handleRegisterService (table : CredentialTable) (request : RegisterServiceRequest)
    (drawn : Registration) : CredentialTable × Except AcError RegisterServiceResponse :=
  if request.serviceType ∉ validTypes then (table, .error (invalidServiceType request.serviceType))
  else
    match registerService table request drawn with
    | .error e => (table, .error e)
    | .ok (table, response) => (table, .ok response)

/-- `handle_create_client` (admin_handler.rs:685): the row is read back for its
    `credential_id`. -/
def handleCreateClient (table : CredentialTable) (request : RegisterServiceRequest)
    (drawn : Registration) : CredentialTable × Except AcError CreateClientResponse :=
  if request.serviceType ∉ validTypes then (table, .error (invalidServiceType request.serviceType))
  else
    match registerService table request drawn with
    | .error e => (table, .error e)
    | .ok (table, registration) =>
      match table.getByClientId registration.clientId drawn.fetchFailure with
      | .error e => (table, .error e)
      | .ok none => (table, .error (.database "Failed to retrieve created credential"))
      | .ok (some credential) =>
        (table, .ok ⟨credential.credentialId, registration.clientId, registration.clientSecret,
          registration.serviceType, registration.scopes⟩)

/-! ## Scope updates -/

/-- A character that a scope may hold. -/
def isScopeChar (c : Char) : Bool :=
  Unicode.isAlphanumeric c || c == '-' || c == '.' || c == ':'

/-- The checks of one scope (admin_handler.rs:842–913). -/
def validateScope (scope : String) : Except AcError Unit :=
  if scope = "" then .error (.database "Scope cannot be empty")
  else if 100 < scope.utf8ByteSize then
    .error (.database ("Scope '" ++ scope ++ "' exceeds maximum length of 100 characters"))
  else if !scope.toList.all isScopeChar then
    .error (.database ("Scope '" ++ scope ++ "' contains invalid characters. Only alphanumeric, " ++
      "hyphens, dots, and colons are allowed"))
  else .ok ()

/-- The loop over the new scopes: the first error ends it. -/
def validateScopes : List String → Except AcError Unit
  | [] => .ok ()
  | scope :: scopes =>
    match validateScope scope with
    | .error e => .error e
    | .ok () => validateScopes scopes

/-- A request of `handle_update_client`, and which of its queries fails. -/
structure UpdateClientRequest where
  now : ℕ
  id : String
  scopes : Option (List String)
  fetchFailure : Option String
  updateFailure : Option String

/-- `ClientDetailResponse` (admin_handler.rs:418). -/
structure ClientDetailResponse where
  id : String
  clientId : String
  serviceType : String
  region : Option String
  scopes : List String
  isActive : Bool
  createdAt : ℕ
  updatedAt : ℕ
deriving DecidableEq

/-- What the response says of a row. -/
def ServiceCredential.detail (row : ServiceCredential) : ClientDetailResponse :=
  ⟨row.credentialId, row.clientId, row.serviceType, row.region, row.scopes, row.isActive,
    row.createdAt, row.updatedAt⟩

/-- `handle_update_client` (admin_handler.rs:789). -/
def handleUpdateClient (table : CredentialTable) (request : UpdateClientRequest) :
    CredentialTable × Except AcError ClientDetailResponse :=
  match table.getByCredentialId request.id request.fetchFailure with
  | .error e => (table, .error e)
  | .ok none => (table, .error (.notFound ("Client with ID " ++ request.id ++ " not found")))
  | .ok (some credential) =>
    match request.scopes with
    | none => (table, .ok credential.detail)
    | some scopes =>
      match validateScopes scopes with
      | .error e => (table, .error e)
      | .ok () =>
        match table.updateMetadata request.id scopes request.now request.updateFailure with
        | .error e => (table, .error e)
        | .ok (table, credential) => (table, .ok credential.detail)

/-! ## Token requests -/

/-- `TOKEN_EXPIRY_SECONDS` (token_service.rs:18). -/
def tokenExpirySeconds : ℕ := 3600

/-- The settings of the token endpoint, and the comparison of `bcrypt`. -/
structure TokenSettings where
  rateLimitMaxAttempts : ℕ
  /-- `verify_client_secret` (`crypto/mod.rs:331`): secret and stored hash. -/
  verifyClientSecret : String → String → Except AcError Bool

/-- `ServiceTokenRequest` (auth_handler.rs:61), with the header `authorization`. -/
structure ServiceTokenRequest where
  /-- Absent, not visible ASCII (`some none`), or a text. -/
  authorization : Option (Option String)
  grantType : String
  clientId : Option String
  clientSecret : Option String
  scope : Option String

/-- What a token request meets outside `service_credentials`. -/
structure TokenContext where
  now : ℕ
  fetchFailure : Option String
  /-- `get_failed_attempts_count` for the credential. -/
  failedCount : Except AcError ℕ
  /-- `get_active_key`. -/
  activeKey : Except AcError (Option SigningKey)
  /-- `decrypt_private_key`. -/
  decrypted : Except AcError Unit
  /-- `sign_jwt`: the length of the token. -/
  signed : Except AcError ℕ

/-- `TokenResponse` (models/mod.rs:99). -/
structure TokenResponse where
  accessToken : Token ServiceClaims
  tokenType : String
  expiresIn : ℕ
  scope : String
deriving DecidableEq

/-- `credentials.splitn(2, ':')` into two parts. -/
def splitCredentials (text : List Char) : Except AcError (String × String) :=
  if ':' ∈ text then
    .ok (String.ofList (text.takeWhile (· ≠ ':')), String.ofList (text.dropWhile (· ≠ ':')).tail)
  else .error .invalidCredentials

/-- The credentials of a `Basic` header, after `"Basic "`. -/
def basicCredentials (basicAuth : String) : Except AcError (String × String) :=
  match Base64.standard.decode basicAuth with
  | none => .error .invalidCredentials
  | some decoded =>
    match String.fromUTF8? ⟨decoded.toArray⟩ with
    | none => .error .invalidCredentials
    | some credentials => splitCredentials credentials.toList

/-- The credentials of the request body. -/
def bodyCredentials (payload : ServiceTokenRequest) : Except AcError (String × String) :=
  match payload.clientId, payload.clientSecret with
  | some id, some secret => .ok (id, secret)
  | _, _ => .error .invalidCredentials

/-- `extract_client_credentials` (auth_handler.rs:306). -/
def extractClientCredentials (payload : ServiceTokenRequest) : Except AcError (String × String) :=
  match payload.authorization with
  | none => bodyCredentials payload
  | some none => .error .invalidCredentials
  | some (some header) =>
    if "Basic ".toList.isPrefixOf header.toList then
      basicCredentials (String.ofList (header.toList.drop 6))
    else bodyCredentials payload

/-- The lockout of a known credential. -/
def checkLockout (S : TokenSettings) (ctx : TokenContext) (credential : Option ServiceCredential) :
    Except AcError Unit :=
  match credential with
  | none => .ok ()
  | some _ =>
    match ctx.failedCount with
    | .error e => .error e
    | .ok failedCount =>
      if S.rateLimitMaxAttempts ≤ failedCount then .error .rateLimitExceeded else .ok ()

/-- The hash to compare with, a dummy for an unknown client. -/
def hashToVerify (credential : Option ServiceCredential) : String :=
  match credential with
  | some c => c.clientSecretHash
  | none => "$2b$12$LQv3c1yqBWVHxkd0LHAkCOYz6TtxMQJqhN8/LewY5GyYqExt7YD3a"

/-- The scopes of the token (token_service.rs:112–128). -/
def selectScopes (credential : ServiceCredential) (requestedScopes : Option (List String)) :
    Except AcError (List String) :=
  match requestedScopes with
  | none => .ok credential.scopes
  | some reqScopes =>
    if reqScopes.all fun scope => credential.scopes.contains scope then .ok reqScopes
    else .error (.insufficientScope (" ".intercalate reqScopes) credential.scopes)

/-- The signed token (token_service.rs:130–189). -/
def signToken (ctx : TokenContext) (clientId : String) (credential : ServiceCredential)
    (scopes : List String) : Except AcError TokenResponse :=
  match ctx.activeKey with
  | .error e => .error e
  | .ok none => .error (.crypto "No active signing key available")
  | .ok (some key) =>
    match ctx.decrypted with
    | .error e => .error e
    | .ok () =>
      match ctx.signed with
      | .error e => .error e
      | .ok size =>
        let claims : ServiceClaims :=
          ⟨clientId, timestamp ctx.now + tokenExpirySeconds, timestamp ctx.now,
            " ".intercalate scopes, some credential.serviceType⟩
        .ok ⟨signJwt key size claims, "Bearer", tokenExpirySeconds, " ".intercalate scopes⟩

/-- `issue_service_token` (token_service.rs:29). -/
def issueServiceToken (S : TokenSettings) (table : CredentialTable) (ctx : TokenContext)
    (clientId clientSecret grantType : String) (requestedScopes : Option (List String)) :
    Except AcError TokenResponse :=
  if grantType ≠ "client_credentials" then .error .invalidCredentials
  else
    match table.getByClientId clientId ctx.fetchFailure with
    | .error e => .error e
    | .ok credential =>
      match checkLockout S ctx credential with
      | .error e => .error e
      | .ok () =>
        match S.verifyClientSecret clientSecret (hashToVerify credential) with
        | .error e => .error e
        | .ok isValid =>
          match credential with
          | none => .error .invalidCredentials
          | some credential =>
            if !credential.isActive || !isValid then .error .invalidCredentials
            else
              match selectScopes credential requestedScopes with
              | .error e => .error e
              | .ok scopes => signToken ctx clientId credential scopes

/-- `handle_service_token` (auth_handler.rs:221). -/
def handleServiceToken (S : TokenSettings) (table : CredentialTable) (ctx : TokenContext)
    (payload : ServiceTokenRequest) : Except AcError TokenResponse :=
  if payload.grantType ≠ "client_credentials" then .error .invalidCredentials
  else
    match extractClientCredentials payload with
    | .error e => .error e
    | .ok (clientId, clientSecret) =>
      issueServiceToken S table ctx clientId clientSecret payload.grantType
        (payload.scope.map Text.splitWhitespace)

/-! ## Histories -/

/-- A request that reads or writes credentials. -/
inductive CredentialEvent
  | register (request : RegisterServiceRequest) (drawn : Registration)
  | create (request : RegisterServiceRequest) (drawn : Registration)
  | update (request : UpdateClientRequest)
  | token (payload : ServiceTokenRequest) (ctx : TokenContext)

/-- The answer to such a request. -/
inductive CredentialReply
  | registered (result : Except AcError RegisterServiceResponse)
  | created (result : Except AcError CreateClientResponse)
  | updated (result : Except AcError ClientDetailResponse)
  | token (result : Except AcError TokenResponse)

/-- One request. -/
def CredentialTable.step (S : TokenSettings) (table : CredentialTable) :
    CredentialEvent → CredentialTable × CredentialReply
  | .register request drawn =>
    let (table, result) := handleRegisterService table request drawn
    (table, .registered result)
  | .create request drawn =>
    let (table, result) := handleCreateClient table request drawn
    (table, .created result)
  | .update request =>
    let (table, result) := handleUpdateClient table request
    (table, .updated result)
  | .token payload ctx => (table, .token (handleServiceToken S table ctx payload))

/-- The requests in any order, from an empty table. -/
def credentialSystem (S : TokenSettings) :
    Machine CredentialTable CredentialEvent CredentialReply where
  init := []
  step := CredentialTable.step S
  allowed _ _ _ := True

end DarkTower.Ac
