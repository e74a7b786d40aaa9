import DarkTower.Ac.SigningKeys

/-!
# The verification paths of the Auth Controller

Four paths decide whether a token carries an acceptable key and signature:

* `requireServiceAuth` and `requireAdminScope`
  (`ac-service/src/middleware/auth.rs`) verify with the active key and do not
  read the `kid` of the token;
* `authorizeRotation`, the head of `handle_rotate_keys`
  (`ac-service/src/handlers/admin_handler.rs`), looks the `kid` up and checks
  the validity window of the key, but not that it is active;
* `JwtValidator.validate`, in the other services, looks the `kid` up in the
  published JWKS.

`verifyJwt_isOk_iff` says what verification with a stored key accepts, and the
lemmas `*_isOk_iff` what each path accepts of a token signed with a key of the
table. The paths agree on such a token exactly when, while the key is in its
window, it is active iff the token names it (`pathsAgree_iff`).
-/

namespace DarkTower.Ac

open DarkTower.Common DarkTower.Lib

variable {γ : Type} [JwtClaims γ]

/-- The message of every failed verification. -/
def invalidOrExpired : AcError := .invalidToken "The access token is invalid or expired"

/-- `sign_jwt` (`ac-service/src/crypto/mod.rs:200`): the header names the key. -/
def signJwt (key : SigningKey) (size : ℕ) (claims : γ) : Token γ where
  size := size
  kid := some key.keyId
  claims := claims
  signer := key.privateKey

/-- `verify_jwt` (`ac-service/src/crypto/mod.rs:245`). -/
def verifyJwt (token : Token γ) (publicKey : String) (clockSkew now : ℕ) : Except AcError γ :=
  if maxJwtSizeBytes < token.size then .error invalidOrExpired
  else
    match decodePublicKeyPem publicKey with
    | none => .error invalidOrExpired
    | some bytes =>
      match decode token bytes now with
      | none => .error invalidOrExpired
      | some claims =>
        match validateIat (JwtClaims.iat claims) clockSkew now with
        | .error _ => .error invalidOrExpired
        | .ok () => .ok claims

/-- The header `authorization` of a request. -/
inductive Authorization (γ : Type)
  /-- Absent, or not visible ASCII. -/
  | missing
  /-- A text that does not start with `"Bearer "`. -/
  | other
  | bearer (token : Token γ)

/-- The token of a request. -/
def bearerToken (header : Authorization γ) : Except AcError (Token γ) :=
  match header with
  | .missing => .error (.invalidToken "Missing Authorization header")
  | .other => .error (.invalidToken "Invalid Authorization header format")
  | .bearer token => .ok token

/-- `require_service_auth` (middleware/auth.rs:24): the claims handed to the
    next handler. -/
def requireServiceAuth (table : KeyTable) (clockSkew now : ℕ) (header : Authorization γ) :
    Except AcError γ :=
  match bearerToken header with
  | .error e => .error e
  | .ok token =>
    match table.getActiveKey now with
    | none => .error (.crypto "No active signing key available")
    | some key => verifyJwt token key.publicKey clockSkew now

/-- `claims.scope.split_whitespace()`. -/
def tokenScopes (claims : ServiceClaims) : List String :=
  Text.splitWhitespace claims.scope

/-- `require_admin_scope` (middleware/auth.rs:68). -/
def requireAdminScope (table : KeyTable) (clockSkew now : ℕ)
    (header : Authorization ServiceClaims) : Except AcError ServiceClaims :=
  match requireServiceAuth table clockSkew now header with
  | .error e => .error e
  | .ok claims =>
    if "admin:services" ∈ tokenScopes claims then .ok claims
    else .error (.insufficientScope "admin:services" (tokenScopes claims))

/-- The verification of `handle_rotate_keys` (admin_handler.rs:119): with the
    key that the token names. -/
def verifyByKid (table : KeyTable) (clockSkew now : ℕ) (header : Authorization γ) :
    Except AcError γ :=
  match bearerToken header with
  | .error e => .error e
  | .ok token =>
    match extractKid token with
    | .error _ => .error (.invalidToken "Missing or invalid key ID in token header")
    | .ok kid =>
      match table.getByKeyId kid with
      | none => .error invalidOrExpired
      | some key =>
        if now < key.validFrom ∨ key.validUntil ≤ now then .error invalidOrExpired
        else verifyJwt token key.publicKey clockSkew now

/-- The authorisation of `handle_rotate_keys` (admin_handler.rs:119–243):
    whether the caller may force the rotation. -/
def authorizeRotation (table : KeyTable) (clockSkew now : ℕ)
    (header : Authorization ServiceClaims) : Except AcError Bool :=
  match verifyByKid table clockSkew now header with
  | .error e => .error e
  | .ok claims =>
    if claims.serviceType = none then
      .error (.invalidToken "User tokens are not authorized for key rotation")
    else if "service.rotate-keys.ac" ∉ tokenScopes claims ∧
        "admin.force-rotate-keys.ac" ∉ tokenScopes claims then
      .error (.insufficientScope "service.rotate-keys.ac" (tokenScopes claims))
    else .ok (decide ("admin.force-rotate-keys.ac" ∈ tokenScopes claims))

/-! ## What each path accepts -/

/-- Size, expiry and date of the token are in order at `now`. -/
def InOrder (token : Token γ) (clockSkew now : ℕ) : Prop :=
  token.size ≤ maxJwtSizeBytes ∧ timestamp now - 60 ≤ JwtClaims.exp token.claims ∧
    JwtClaims.iat token.claims ≤ timestamp now + clockSkew

/-- The request failed at its scopes. -/
def AcError.isScope : AcError → Bool
  | .insufficientScope _ _ => true
  | _ => false

/-- The key and the signature were accepted: the request passed, or failed at
    its scopes. -/
def keyAccepted {α : Type} (result : Except AcError α) : Bool :=
  match result with
  | .ok _ => true
  | .error e => e.isScope

section Paths

variable {C : Calendar} {table : KeyTable} {t now clockSkew : ℕ} {key : SigningKey}

/-- Verification with a stored key accepts the tokens of that key that are in
    order. -/
theorem verifyJwt_isOk_iff {token : Token γ} {publicKey : List UInt8} :
    (verifyJwt token (publicKeyPem publicKey) clockSkew now).isOk = true ↔
      token.signer = publicKey ∧ InOrder token clockSkew now := by
  unfold verifyJwt InOrder
  rw [decodePublicKeyPem_publicKeyPem]
  by_cases hsize : maxJwtSizeBytes < token.size
  · rw [if_pos hsize]
    exact iff_of_false Bool.false_ne_true fun h => absurd h.2.1 (by omega)
  rw [if_neg hsize]
  by_cases hdecode : token.signer = publicKey ∧ timestamp now - 60 ≤ JwtClaims.exp token.claims
  · simp only [decode, if_pos hdecode]
    by_cases hiat : timestamp now + clockSkew < JwtClaims.iat token.claims
    · simp only [validateIat, if_pos hiat]
      refine iff_of_false Bool.false_ne_true fun h => ?_
      have := h.2.2.2
      omega
    · simp only [validateIat, if_neg hiat]
      exact iff_of_true rfl ⟨hdecode.1, by omega, hdecode.2, by omega⟩
  · simp only [decode, if_neg hdecode]
    exact iff_of_false Bool.false_ne_true fun h => hdecode ⟨h.1, h.2.2.1⟩

/-- The middleware accepts the tokens of the active key. -/
theorem requireServiceAuth_isOk_iff (hinv : KeyInv table t) (hnow : t ≤ now) (hkey : key ∈ table)
    {token : Token γ} (hsigner : token.signer = key.privateKey) :
    (requireServiceAuth table clockSkew now (.bearer token)).isOk = true ↔
      key.activeAt now = true ∧ InOrder token clockSkew now := by
  simp only [requireServiceAuth, bearerToken]
  cases hactive : table.getActiveKey now with
  | none =>
    refine iff_of_false Bool.false_ne_true fun h => ?_
    rw [(hinv.getActiveKey_eq_some hnow).mpr ⟨hkey, h.1⟩] at hactive
    cases hactive
  | some active =>
    obtain ⟨hmem, hon⟩ := (hinv.getActiveKey_eq_some hnow).mp hactive
    simp only [hinv.pem active hmem]
    rw [verifyJwt_isOk_iff, hsigner]
    refine and_congr_left fun _ => ⟨fun heq => ?_, fun hact => ?_⟩
    · rwa [hinv.eq_of_privateKey hkey hmem heq]
    · have hsome := (hinv.getActiveKey_eq_some hnow).mpr ⟨hkey, hact⟩
      rw [hactive, Option.some.injEq] at hsome
      rw [hsome]

/-- The verification of `handle_rotate_keys` accepts the tokens that name a key
    in its window, active or not. -/
theorem verifyByKid_isOk_iff (hinv : KeyInv table t) (hkey : key ∈ table) {token : Token γ}
    (hsigner : token.signer = key.privateKey) :
    (verifyByKid table clockSkew now (.bearer token)).isOk = true ↔
      token.kid = some key.keyId ∧ key.inWindow now = true ∧ InOrder token clockSkew now := by
  simp only [verifyByKid, bearerToken]
  cases hkid : extractKid token with
  | error e =>
    refine iff_of_false Bool.false_ne_true fun h => ?_
    have := extractKid_eq_ok.mpr ⟨h.2.2.1, h.1, hinv.named key hkey⟩
    rw [hkid] at this
    cases this
  | ok kid =>
    obtain ⟨-, htoken, -⟩ := extractKid_eq_ok.mp hkid
    simp only [htoken, Option.some.injEq]
    cases hfind : table.getByKeyId kid with
    | none =>
      refine iff_of_false Bool.false_ne_true fun h => ?_
      rw [hinv.getByKeyId_eq_some.mpr ⟨hkey, h.1.symm⟩] at hfind
      cases hfind
    | some found =>
      obtain ⟨hmem, rfl⟩ := hinv.getByKeyId_eq_some.mp hfind
      simp only [hinv.pem found hmem]
      have hid : found.keyId = key.keyId ↔ key = found :=
        ⟨fun h => hinv.eq_of_keyId hkey hmem h.symm, fun h => h ▸ rfl⟩
      have hpriv : key.privateKey = found.privateKey ↔ key = found :=
        ⟨fun h => hinv.eq_of_privateKey hkey hmem h, fun h => h ▸ rfl⟩
      split_ifs with hout
      · refine iff_of_false Bool.false_ne_true fun h => ?_
        obtain rfl := hid.mp h.1
        have hwin : key.validFrom ≤ now ∧ now < key.validUntil := by
          simpa [SigningKey.inWindow] using h.2.1
        omega
      · rw [verifyJwt_isOk_iff, hsigner, hpriv, hid]
        refine and_congr_right fun heq => ?_
        subst heq
        have hwin : key.inWindow now = true := by
          simp only [SigningKey.inWindow, Bool.and_eq_true, decide_eq_true_eq]
          omega
        exact (and_iff_right hwin).symm

/-- Every key of `keys` is published for the row of the table with its id. -/
def Published (table : KeyTable) (keys : AList fun _ : String => Jwk) : Prop :=
  ∀ kid jwk, keys.lookup kid = some jwk → ∃ key ∈ table, key.keyId = kid ∧ key.webKey = jwk

/-- A service accepts the tokens that name a key it has. -/
theorem validate_isOk_iff (hinv : KeyInv table t) (hkey : key ∈ table) {token : Token γ}
    (hsigner : token.signer = key.privateKey) {cache : Option CachedJwks} {jwks : List Jwk}
    (hpub : Published table (JwksClient.keysAt cache jwks now)) (cacheTtl : ℕ) :
    (JwtValidator.validate clockSkew cache cacheTtl (some jwks) now token).2.isOk = true ↔
      token.kid = some key.keyId ∧ key.keyId ∈ JwksClient.keysAt cache jwks now ∧
        InOrder token clockSkew now := by
  rw [JwtValidator.validate_isOk_iff]
  constructor
  · rintro ⟨hsize, kid, hkid, -, jwk, hlookup, hverify, hiat⟩
    obtain ⟨found, hmem, rfl, rfl⟩ := hpub kid jwk hlookup
    obtain ⟨heq, hexp⟩ := (verifyToken_isOk_iff found.webKey_encodes).mp hverify
    obtain rfl := hinv.eq_of_privateKey hkey hmem (hsigner.symm.trans heq)
    have hhas : key.keyId ∈ JwksClient.keysAt cache jwks now := by
      rw [← AList.lookup_isSome, hlookup]
      rfl
    exact ⟨hkid, hhas, hsize, hexp, hiat⟩
  · rintro ⟨hkid, hhas, hsize, hexp, hiat⟩
    obtain ⟨jwk, hlookup⟩ := Option.isSome_iff_exists.mp (AList.lookup_isSome.mpr hhas)
    obtain ⟨found, hmem, hid, rfl⟩ := hpub key.keyId jwk hlookup
    obtain rfl := hinv.eq_of_keyId hkey hmem hid.symm
    exact ⟨hsize, key.keyId, hkid, hinv.named key hkey, _, hlookup,
      (verifyToken_isOk_iff key.webKey_encodes).mpr ⟨hsigner, hexp⟩, hiat⟩

theorem published_getJwks (hinv : KeyInv table t) : Published table (keyMap (getJwks table now)) := by
  intro kid jwk hlookup
  obtain ⟨hmem, rfl⟩ := lookup_keyMap hlookup
  obtain ⟨key, hkey, -, rfl⟩ := hinv.mem_getJwks.mp hmem
  exact ⟨key, hkey, rfl, rfl⟩

/-- The published JWKS has the id of a key iff the key is active. -/
theorem mem_keyMap_getJwks (hinv : KeyInv table t) (hkey : key ∈ table) :
    key.keyId ∈ keyMap (getJwks table now) ↔ key.activeAt now = true := by
  rw [mem_keyMap]
  constructor
  · rintro ⟨jwk, hmem, hkid⟩
    obtain ⟨found, hfound, hactive, rfl⟩ := hinv.mem_getJwks.mp hmem
    rwa [hinv.eq_of_keyId hkey hfound hkid.symm]
  · intro hactive
    exact ⟨key.webKey, hinv.mem_getJwks.mpr ⟨key, hkey, hactive, rfl⟩, rfl⟩

/-- Verification returns the claims of the token or fails with one error. -/
theorem verifyJwt_cases (token : Token γ) (publicKey : String) (clockSkew now : ℕ) :
    verifyJwt token publicKey clockSkew now = .ok token.claims ∨
      verifyJwt token publicKey clockSkew now = .error invalidOrExpired := by
  unfold verifyJwt decode
  split_ifs
  · exact .inr rfl
  all_goals
    cases decodePublicKeyPem publicKey with
    | none => exact .inr rfl
    | some bytes =>
      dsimp only
      split_ifs
      · dsimp only
        cases validateIat (JwtClaims.iat token.claims) clockSkew now with
        | error e => exact .inr rfl
        | ok _ => exact .inl rfl
      · exact .inr rfl

theorem requireServiceAuth_cases (table : KeyTable) (clockSkew now : ℕ) (token : Token γ) :
    requireServiceAuth table clockSkew now (.bearer token) = .ok token.claims ∨
      ∃ e, requireServiceAuth table clockSkew now (.bearer token) = .error e ∧
        e.isScope = false := by
  simp only [requireServiceAuth, bearerToken]
  cases table.getActiveKey now with
  | none => exact .inr ⟨_, rfl, rfl⟩
  | some active =>
    exact (verifyJwt_cases token active.publicKey clockSkew now).imp_right
      fun h => ⟨invalidOrExpired, h, rfl⟩

theorem verifyByKid_cases (table : KeyTable) (clockSkew now : ℕ) (token : Token γ) :
    verifyByKid table clockSkew now (.bearer token) = .ok token.claims ∨
      ∃ e, verifyByKid table clockSkew now (.bearer token) = .error e ∧
        e.isScope = false := by
  simp only [verifyByKid, bearerToken]
  cases extractKid token with
  | error e => exact .inr ⟨_, rfl, rfl⟩
  | ok kid =>
    dsimp only
    cases table.getByKeyId kid with
    | none => exact .inr ⟨_, rfl, rfl⟩
    | some found =>
      dsimp only
      split_ifs
      · exact .inr ⟨_, rfl, rfl⟩
      · exact (verifyJwt_cases token found.publicKey clockSkew now).imp_right
          fun h => ⟨invalidOrExpired, h, rfl⟩

theorem keyAccepted_requireServiceAuth (token : Token γ) :
    keyAccepted (requireServiceAuth table clockSkew now (.bearer token)) =
      (requireServiceAuth table clockSkew now (.bearer token)).isOk := by
  rcases requireServiceAuth_cases table clockSkew now token with h | ⟨e, h, he⟩
  · rw [h]
    rfl
  · rw [h]
    exact he

theorem keyAccepted_requireAdminScope (token : Token ServiceClaims) :
    keyAccepted (requireAdminScope table clockSkew now (.bearer token)) =
      (requireServiceAuth table clockSkew now (.bearer token)).isOk := by
  unfold requireAdminScope
  rcases requireServiceAuth_cases table clockSkew now token with h | ⟨e, h, he⟩
  · rw [h]
    dsimp only
    split_ifs <;> rfl
  · rw [h]
    exact he

theorem keyAccepted_authorizeRotation {token : Token ServiceClaims}
    (hservice : token.claims.serviceType ≠ none) :
    keyAccepted (authorizeRotation table clockSkew now (.bearer token)) =
      (verifyByKid table clockSkew now (.bearer token)).isOk := by
  unfold authorizeRotation
  rcases verifyByKid_cases table clockSkew now token with h | ⟨e, h, he⟩
  · rw [h]
    dsimp only
    rw [if_neg hservice]
    split_ifs <;> rfl
  · rw [h]
    exact he

end Paths

/-! ## Agreement -/

/-- The four paths give one verdict on the key and the signature of a service
    token, and it is a rejection when the key was rotated out. The service has
    no cache yet and fetches the JWKS. -/
def PathsAgree (table : KeyTable) (acSkew skew cacheTtl now : ℕ) (key : SigningKey)
    (token : Token ServiceClaims) : Prop :=
  ∃ verdict : Bool,
    keyAccepted (requireServiceAuth table acSkew now (.bearer token)) = verdict ∧
    keyAccepted (requireAdminScope table acSkew now (.bearer token)) = verdict ∧
    keyAccepted (authorizeRotation table acSkew now (.bearer token)) = verdict ∧
    (JwtValidator.validate skew none cacheTtl (some (getJwks table now)) now token).2.isOk =
      verdict ∧
    (key.isActive = false → verdict = false)

/-- For every table that initialisation and rotations reach and every unexpired
    service token of a key of the table, the four paths agree exactly when,
    while the key is in its window, it is active iff the token names it. A token
    over the size limit is rejected by all. -/
theorem pathsAgree_iff {C : Calendar} {table : KeyTable} {t now acSkew skew : ℕ} {key : SigningKey}
    {token : Token ServiceClaims} (hr : ReachableKeys C table t) (hnow : t ≤ now)
    (hkey : key ∈ table) (hsigner : token.signer = key.privateKey)
    (hservice : token.claims.serviceType ≠ none) (hexp : timestamp now < token.claims.exp)
    (hiat : token.claims.iat ≤ timestamp now + min acSkew skew) (cacheTtl : ℕ) :
    PathsAgree table acSkew skew cacheTtl now key token ↔
      (token.size ≤ maxJwtSizeBytes → key.inWindow now = true →
        (key.isActive = true ↔ token.kid = some key.keyId)) := by
  have hinv := reachableKeys_inv hr
  have hskew := min_le_left acSkew skew
  have hskew' := min_le_right acSkew skew
  have hexp' : timestamp now - 60 ≤ JwtClaims.exp token.claims := by
    change timestamp now - 60 ≤ token.claims.exp
    omega
  have horder : InOrder token acSkew now ↔ token.size ≤ maxJwtSizeBytes :=
    ⟨fun h => h.1, fun h => ⟨h, hexp', hiat.trans (by omega)⟩⟩
  have horder' : InOrder token skew now ↔ token.size ≤ maxJwtSizeBytes :=
    ⟨fun h => h.1, fun h => ⟨h, hexp', hiat.trans (by omega)⟩⟩
  have hactive : key.activeAt now = true ↔ key.isActive = true ∧ key.inWindow now = true := by
    rw [SigningKey.activeAt, Bool.and_eq_true]
  have hmiddleware : (requireServiceAuth table acSkew now (.bearer token)).isOk = true ↔
      (key.isActive = true ∧ key.inWindow now = true) ∧ token.size ≤ maxJwtSizeBytes := by
    rw [requireServiceAuth_isOk_iff hinv hnow hkey hsigner, hactive, horder]
  have hrotation : (verifyByKid table acSkew now (.bearer token)).isOk = true ↔
      token.kid = some key.keyId ∧ key.inWindow now = true ∧ token.size ≤ maxJwtSizeBytes := by
    rw [verifyByKid_isOk_iff hinv hkey hsigner, horder]
  have hvalidator : (JwtValidator.validate skew none cacheTtl (some (getJwks table now)) now
      token).2.isOk = true ↔ token.kid = some key.keyId ∧
        (key.isActive = true ∧ key.inWindow now = true) ∧ token.size ≤ maxJwtSizeBytes := by
    have hpub : Published table (JwksClient.keysAt none (getJwks table now) now) :=
      published_getJwks hinv
    rw [validate_isOk_iff hinv hkey hsigner hpub cacheTtl, horder']
    exact and_congr_right fun _ => and_congr_left fun _ => (mem_keyMap_getJwks hinv hkey).trans hactive
  unfold PathsAgree
  rw [keyAccepted_requireServiceAuth, keyAccepted_requireAdminScope,
    keyAccepted_authorizeRotation hservice]
  constructor
  · rintro ⟨verdict, hA, -, hR, -, -⟩ hsize hwin
    rw [hA] at hmiddleware
    rw [hR] at hrotation
    have hon : verdict = true ↔ key.isActive = true := by
      rw [hmiddleware]
      exact ⟨fun h => h.1.1, fun h => ⟨⟨h, hwin⟩, hsize⟩⟩
    rw [← hon, hrotation]
    exact ⟨fun h => h.1, fun h => ⟨h, hwin, hsize⟩⟩
  · intro h
    refine ⟨_, rfl, rfl, ?_, ?_, fun hoff => ?_⟩
    · rw [Bool.eq_iff_iff, hrotation, hmiddleware]
      grind
    · rw [Bool.eq_iff_iff, hvalidator, hmiddleware]
      grind
    · rw [Bool.eq_false_iff, ne_eq, hmiddleware, hoff]
      exact fun h => absurd h.1.1 Bool.false_ne_true

/-- A service token minted at 3 h with the key that was rotated out at 2 h. -/
def mintedLate : Token ServiceClaims where
  size := 412
  kid := some "auth-default-2025-01"
  claims :=
    { sub := "global-controller"
      exp := 4 * 3600
      iat := 3 * 3600
      scope := "service.rotate-keys.ac"
      serviceType := some "global-controller" }
  signer := [1]

theorem pathsAgree_iff_mintedLate :
    PathsAgree rotatedTable 300 300 (fromSecs defaultCacheTtlSeconds) (hours 3)
        (sampleKey "auth-default-2025-01" [1] false 0) mintedLate ↔
      (mintedLate.size ≤ maxJwtSizeBytes →
        (sampleKey "auth-default-2025-01" [1] false 0).inWindow (hours 3) = true →
        ((sampleKey "auth-default-2025-01" [1] false 0).isActive = true ↔
          mintedLate.kid = some (sampleKey "auth-default-2025-01" [1] false 0).keyId)) :=
  pathsAgree_iff rotatedTable_reachable (by decide) (by decide) rfl (by decide) (by decide)
    (by decide) _

/-- The token is rejected by the middleware and accepted for a rotation. -/
theorem mintedLate_disagreement :
    ReachableKeys Calendar.sample rotatedTable (hours 2) ∧
      sampleKey "auth-default-2025-01" [1] false 0 ∈ rotatedTable ∧
      mintedLate.signer = (sampleKey "auth-default-2025-01" [1] false 0).privateKey ∧
      timestamp (hours 3) < mintedLate.claims.exp ∧
      requireServiceAuth rotatedTable 300 (hours 3) (.bearer mintedLate) =
        .error invalidOrExpired ∧
      authorizeRotation rotatedTable 300 (hours 3) (.bearer mintedLate) = .ok false ∧
      ¬ PathsAgree rotatedTable 300 300 (fromSecs defaultCacheTtlSeconds) (hours 3)
        (sampleKey "auth-default-2025-01" [1] false 0) mintedLate := by
  have hmiddleware : requireServiceAuth rotatedTable 300 (hours 3) (.bearer mintedLate) =
      .error invalidOrExpired := by decide +kernel
  have hrotation : authorizeRotation rotatedTable 300 (hours 3) (.bearer mintedLate) =
      .ok false := by decide +kernel
  refine ⟨rotatedTable_reachable, by decide, rfl, by decide, hmiddleware, hrotation, ?_⟩
  rintro ⟨verdict, hservice, -, hrotate, -⟩
  rw [hmiddleware] at hservice
  rw [hrotation] at hrotate
  cases hservice.trans hrotate.symm

end DarkTower.Ac
