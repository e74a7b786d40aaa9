import DarkTower.Common.Time
import DarkTower.Lib.Base64
import DarkTower.Lib.Text
import Mathlib.Data.List.AList

/-!
# JWT validation (`common/src/jwt.rs`)

A token is modelled by what its text carries: the `kid` of its header, its
claims, the length of the text and the key that signed it. Ed25519
verification succeeds exactly with the public half of that key. Claims of any
type are decoded, given their `exp` and `iat`.

* `decodePublicKeyPem_publicKeyPem`: a public key survives its PEM text.
* `JwksClient.getKey_eq`: a key lookup answers from the cache while the cache
  has not expired, else from the JWKS it fetches.
* `JwtValidator.validate_isOk_iff`: a validation accepts a token when the key
  its header names is found, signed it and the token is neither expired nor
  from the future.
-/

namespace DarkTower.Common

open DarkTower.Lib

/-- `MAX_JWT_SIZE_BYTES` (jwt.rs:73). -/
def maxJwtSizeBytes : ℕ := 8192

/-- `DEFAULT_CACHE_TTL_SECONDS` (jwt.rs:749). -/
def defaultCacheTtlSeconds : ℕ := 300

/-- `JwtError` (jwt.rs:96). -/
inductive JwtError
  | tokenTooLarge
  | malformedToken
  | missingKid
  | iatTooFarInFuture
  | invalidSignature
  | keyNotFound
  | serviceUnavailable (message : String)
deriving DecidableEq

/-- The claims a decoder reads: `exp`, and `iat` of the trait `HasIat`. -/
class JwtClaims (γ : Type) where
  exp : γ → ℤ
  iat : γ → ℤ

/-- `ServiceClaims` (jwt.rs:161). -/
structure ServiceClaims where
  sub : String
  exp : ℤ
  iat : ℤ
  scope : String
  serviceType : Option String
deriving DecidableEq

instance : JwtClaims ServiceClaims := ⟨ServiceClaims.exp, ServiceClaims.iat⟩

/-- `ServiceClaims::has_scope` (jwt.rs:230). -/
def ServiceClaims.hasScope (claims : ServiceClaims) (scope : String) : Bool :=
  (Text.splitWhitespace claims.scope).any (· == scope)

/-- A JWT with claims of type `γ`. -/
structure Token (γ : Type) where
  /-- The length of the text in bytes. -/
  size : ℕ
  /-- `kid` of the header. -/
  kid : Option String
  claims : γ
  /-- The public half of the key that signed the token. -/
  signer : List UInt8
deriving DecidableEq

variable {γ : Type} [JwtClaims γ]

/-- `jsonwebtoken::decode` with `Validation::new(EdDSA)` and `validate_exp`: the
    signature, and the expiry with the crate's default leeway of 60 s. -/
def decode (token : Token γ) (publicKey : List UInt8) (now : ℕ) : Option γ :=
  if token.signer = publicKey ∧ timestamp now - 60 ≤ JwtClaims.exp token.claims then
    some token.claims
  else none

/-- `extract_kid` (jwt.rs:571). -/
def extractKid (token : Token γ) : Except JwtError String :=
  if maxJwtSizeBytes < token.size then .error .tokenTooLarge
  else
    match token.kid with
    | none => .error .missingKid
    | some kid => if kid = "" then .error .missingKid else .ok kid

/-- `validate_iat` (jwt.rs:648), with the skew in seconds. -/
def validateIat (iat : ℤ) (clockSkew : ℕ) (now : ℕ) : Except JwtError Unit :=
  if timestamp now + clockSkew < iat then .error .iatTooFarInFuture else .ok ()

/-! ## Public keys -/

/-- The PEM text of `generate_signing_key` (`ac-service/src/crypto/mod.rs:85`). -/
def publicKeyPem (publicKey : List UInt8) : String :=
  "-----BEGIN PUBLIC KEY-----\n" ++ Base64.standard.encode publicKey ++
    "\n-----END PUBLIC KEY-----"

/-- The base64 body of a PEM text: its lines but for the boundaries. -/
def pemBody (pem : String) : String :=
  String.ofList ((Text.lines pem.toList).filter fun line =>
    !"-----".toList.isPrefixOf line).flatten

/-- `decode_ed25519_public_key_pem` (jwt.rs:704). -/
def decodePublicKeyPem (pem : String) : Option (List UInt8) :=
  Base64.standard.decode (pemBody pem)

/-- `decode_ed25519_public_key_jwk` (jwt.rs:740). -/
def decodePublicKeyJwk (x : String) : Option (List UInt8) := Base64.urlSafeNoPad.decode x

/-- A character of the standard alphabet, padding included, ends no line and
    starts no boundary. -/
theorem not_mem_encodeChars (publicKey : List UInt8) {c : Char}
    (hc : c ∉ Base64.standard.symbols) (hne : c ≠ '=') :
    c ∉ Base64.standard.encodeChars publicKey := by
  intro hmem
  rcases Base64.Engine.mem_encodeChars hmem with h | h
  · exact hc h
  · exact hne h

theorem isPrefixOf_encodeChars (publicKey : List UInt8) :
    "-----".toList.isPrefixOf (Base64.standard.encodeChars publicKey) = false := by
  have hdash : '-' ∉ Base64.standard.encodeChars publicKey :=
    not_mem_encodeChars publicKey (by decide) (by decide)
  cases hbody : Base64.standard.encodeChars publicKey with
  | nil => rfl
  | cons c cs =>
    rw [hbody, List.mem_cons, not_or] at hdash
    simp [List.isPrefixOf, hdash.1]

theorem toList_pem (body : List Char) :
    ("-----BEGIN PUBLIC KEY-----\n" ++ String.ofList body ++ "\n-----END PUBLIC KEY-----").toList =
      "-----BEGIN PUBLIC KEY-----".toList ++ '\n' ::
        (body ++ '\n' :: "-----END PUBLIC KEY-----".toList) := by
  have hbegin : "-----BEGIN PUBLIC KEY-----\n".toList =
      "-----BEGIN PUBLIC KEY-----".toList ++ ['\n'] := by decide
  have hend : "\n-----END PUBLIC KEY-----".toList =
      '\n' :: "-----END PUBLIC KEY-----".toList := by decide
  rw [String.toList_append, String.toList_append, hbegin, hend, String.toList_ofList (l := body),
    List.append_assoc, List.append_assoc, List.singleton_append]

/-- The body of a PEM text of one body line. -/
theorem pemBody_pem {body : List Char} (hbody : "-----".toList.isPrefixOf body = false)
    (hn : '\n' ∉ body) (hr : '\r' ∉ body) :
    pemBody ("-----BEGIN PUBLIC KEY-----\n" ++ String.ofList body ++
      "\n-----END PUBLIC KEY-----") = String.ofList body := by
  have hbegin : '\n' ∉ "-----BEGIN PUBLIC KEY-----".toList := by decide
  have hend : '\n' ∉ "-----END PUBLIC KEY-----".toList := by decide
  have hlines := Text.lines_three hbegin hn hend (by decide) hr (by decide)
  have hfilter : ["-----BEGIN PUBLIC KEY-----".toList, body,
      "-----END PUBLIC KEY-----".toList].filter (fun line => !"-----".toList.isPrefixOf line) =
        [body] := by
    rw [List.filter_cons_of_neg (by decide), List.filter_cons_of_pos (by rw [hbody]; rfl),
      List.filter_cons_of_neg (by decide), List.filter_nil]
  rw [pemBody, toList_pem, hlines, hfilter, List.flatten_singleton]

theorem pemBody_publicKeyPem (publicKey : List UInt8) :
    pemBody (publicKeyPem publicKey) = Base64.standard.encode publicKey := by
  have hbody := isPrefixOf_encodeChars publicKey
  have hn : '\n' ∉ Base64.standard.encodeChars publicKey :=
    not_mem_encodeChars publicKey (by decide) (by decide)
  have hr : '\r' ∉ Base64.standard.encodeChars publicKey :=
    not_mem_encodeChars publicKey (by decide) (by decide)
  exact pemBody_pem hbody hn hr

/-- A public key survives its PEM text. -/
theorem decodePublicKeyPem_publicKeyPem (publicKey : List UInt8) :
    decodePublicKeyPem (publicKeyPem publicKey) = some publicKey := by
  rw [decodePublicKeyPem, pemBody_publicKeyPem, Base64.Engine.decode_encode]

/-! ## JWKS -/

/-- `Jwk` (jwt.rs:754), and `JsonWebKey` on the issuing side. -/
structure Jwk where
  kty : String
  kid : String
  crv : Option String
  x : Option String
  alg : Option String
  keyUse : Option String
deriving DecidableEq

/-- `verify_token` (jwt.rs:993). -/
def verifyToken (token : Token γ) (jwk : Jwk) (now : ℕ) : Except JwtError γ :=
  if jwk.kty ≠ "OKP" then .error .invalidSignature
  else if jwk.alg ≠ none ∧ jwk.alg ≠ some "EdDSA" then .error .invalidSignature
  else
    match jwk.x with
    | none => .error .invalidSignature
    | some x =>
      match decodePublicKeyJwk x with
      | none => .error .invalidSignature
      | some publicKey =>
        match decode token publicKey now with
        | none => .error .invalidSignature
        | some claims => .ok claims

/-- `CachedJwks` (jwt.rs:786). -/
structure CachedJwks where
  keys : AList fun _ : String => Jwk
  expiresAt : ℕ

/-- The map of a JWKS by key id; a later key with the same id wins. -/
def keyMap (jwks : List Jwk) : AList fun _ : String => Jwk :=
  jwks.foldl (fun keys jwk => keys.insert jwk.kid jwk) ∅

namespace JwksClient

/-- `refresh_cache` (jwt.rs:905) at `now`, with the answer of the endpoint: the
    new cache. -/
def refreshCache (cache : Option CachedJwks) (cacheTtl : ℕ) (answer : Option (List Jwk))
    (now : ℕ) : Option CachedJwks × Except JwtError Unit :=
  match answer with
  | none => (cache, .error (.serviceUnavailable "Authentication service unavailable"))
  | some jwks => (some ⟨keyMap jwks, now + cacheTtl⟩, .ok ())

/-- The key a cache holds for an id. -/
def find (cache : Option CachedJwks) (kid : String) : Except JwtError Jwk :=
  match cache.bind fun cached => cached.keys.lookup kid with
  | none => .error .keyNotFound
  | some jwk => .ok jwk

/-- The cache can be used at `now`. -/
def fresh (cache : Option CachedJwks) (now : ℕ) : Bool :=
  match cache with
  | none => false
  | some cached => decide (now < cached.expiresAt)

/-- `get_key` (jwt.rs:870): the cache after it and the key. -/
def getKey (cache : Option CachedJwks) (cacheTtl : ℕ) (answer : Option (List Jwk)) (now : ℕ)
    (kid : String) : Option CachedJwks × Except JwtError Jwk :=
  if fresh cache now then (cache, find cache kid)
  else
    match refreshCache cache cacheTtl answer now with
    | (cache', .error e) => (cache', .error e)
    | (cache', .ok ()) => (cache', find cache' kid)

/-- The keys a lookup at `now` answers from when the endpoint answers `jwks`. -/
def keysAt (cache : Option CachedJwks) (jwks : List Jwk) (now : ℕ) : AList fun _ : String => Jwk :=
  match cache with
  | none => keyMap jwks
  | some cached => if now < cached.expiresAt then cached.keys else keyMap jwks

theorem getKey_eq (cache : Option CachedJwks) (cacheTtl : ℕ) (jwks : List Jwk) (now : ℕ)
    (kid : String) :
    (getKey cache cacheTtl (some jwks) now kid).2 =
      match (keysAt cache jwks now).lookup kid with
      | none => .error .keyNotFound
      | some jwk => .ok jwk := by
  unfold getKey keysAt
  cases cache with
  | none => rfl
  | some cached =>
    by_cases hlive : now < cached.expiresAt
    · simp [fresh, hlive, find]
    · simp [fresh, hlive, find, refreshCache]

theorem getKey_cache (cache : Option CachedJwks) (cacheTtl : ℕ) (jwks : List Jwk) (now : ℕ)
    (kid : String) :
    (getKey cache cacheTtl (some jwks) now kid).1 =
      if fresh cache now then cache else some ⟨keyMap jwks, now + cacheTtl⟩ := by
  unfold getKey
  split_ifs <;> rfl

end JwksClient

/-- `JwtValidator::validate` (jwt.rs:1096): the cache after it and the claims. -/
def JwtValidator.validate (clockSkewSeconds : ℕ) (cache : Option CachedJwks) (cacheTtl : ℕ)
    (answer : Option (List Jwk)) (now : ℕ) (token : Token γ) :
    Option CachedJwks × Except JwtError γ :=
  match extractKid token with
  | .error e => (cache, .error e)
  | .ok kid =>
    match JwksClient.getKey cache cacheTtl answer now kid with
    | (cache', .error e) => (cache', .error e)
    | (cache', .ok jwk) =>
      match verifyToken token jwk now with
      | .error e => (cache', .error e)
      | .ok claims =>
        match validateIat (JwtClaims.iat claims) clockSkewSeconds now with
        | .error e => (cache', .error e)
        | .ok () => (cache', .ok claims)

/-! ## What a validation accepts -/

theorem keyMap_cons_aux (jwks : List Jwk) :
    ∀ keys : AList fun _ : String => Jwk, ∀ kid : String,
      (kid ∈ jwks.foldl (fun keys jwk => keys.insert jwk.kid jwk) keys ↔
        kid ∈ keys ∨ ∃ jwk ∈ jwks, jwk.kid = kid) ∧
      ∀ jwk, (jwks.foldl (fun keys jwk => keys.insert jwk.kid jwk) keys).lookup kid = some jwk →
        keys.lookup kid = some jwk ∨ jwk ∈ jwks ∧ jwk.kid = kid := by
  induction jwks with
  | nil => intro keys kid; simp
  | cons jwk jwks ih =>
    intro keys kid
    obtain ⟨hmem, hlookup⟩ := ih (keys.insert jwk.kid jwk) kid
    refine ⟨?_, fun found hfound => ?_⟩
    · rw [List.foldl_cons, hmem, AList.mem_insert]
      grind
    · rcases hlookup found hfound with h | ⟨h, hk⟩
      · by_cases hkid : kid = jwk.kid
        · subst hkid
          rw [AList.lookup_insert, Option.some.injEq] at h
          exact .inr ⟨h ▸ List.mem_cons_self, h ▸ rfl⟩
        · exact .inl (by rwa [AList.lookup_insert_ne hkid] at h)
      · exact .inr ⟨List.mem_cons_of_mem _ h, hk⟩

theorem mem_keyMap {jwks : List Jwk} {kid : String} :
    kid ∈ keyMap jwks ↔ ∃ jwk ∈ jwks, jwk.kid = kid := by
  simpa [keyMap] using (keyMap_cons_aux jwks ∅ kid).1

theorem lookup_keyMap {jwks : List Jwk} {kid : String} {jwk : Jwk}
    (h : (keyMap jwks).lookup kid = some jwk) : jwk ∈ jwks ∧ jwk.kid = kid := by
  simpa using (keyMap_cons_aux jwks ∅ kid).2 jwk h

omit [JwtClaims γ] in
theorem extractKid_eq_ok {token : Token γ} {kid : String} :
    extractKid token = .ok kid ↔
      token.size ≤ maxJwtSizeBytes ∧ token.kid = some kid ∧ kid ≠ "" := by
  unfold extractKid
  by_cases hsize : maxJwtSizeBytes < token.size
  · simp [hsize, Nat.not_le.mpr hsize]
  · cases hkid : token.kid with
    | none => simp [hsize]
    | some id => by_cases hempty : id = "" <;> grind

/-- The key `jwk` has the bytes `publicKey`, in the form `verify_token` asks for. -/
def Jwk.Encodes (jwk : Jwk) (publicKey : List UInt8) : Prop :=
  jwk.kty = "OKP" ∧ (jwk.alg = none ∨ jwk.alg = some "EdDSA") ∧
    ∃ x, jwk.x = some x ∧ decodePublicKeyJwk x = some publicKey

theorem verifyToken_isOk_iff {token : Token γ} {jwk : Jwk} {publicKey : List UInt8} {now : ℕ}
    (h : jwk.Encodes publicKey) :
    (verifyToken token jwk now).isOk = true ↔
      token.signer = publicKey ∧ timestamp now - 60 ≤ JwtClaims.exp token.claims := by
  obtain ⟨hkty, halg, x, hx, hdecode⟩ := h
  rw [verifyToken, if_neg (by simp [hkty]), if_neg (by grind), hx]
  simp only [hdecode, decode]
  split_ifs with hok
  · exact iff_of_true rfl hok
  · exact iff_of_false Bool.false_ne_true hok

/-- What `verify_token` returns are the token's claims. -/
theorem claims_of_verifyToken {token : Token γ} {jwk : Jwk} {now : ℕ} {claims : γ}
    (h : verifyToken token jwk now = .ok claims) : claims = token.claims := by
  unfold verifyToken at h
  split_ifs at h
  split at h
  · cases h
  split at h
  · cases h
  unfold decode at h
  split_ifs at h
  · exact (Except.ok.inj h).symm

theorem validateIat_isOk_iff {iat : ℤ} {clockSkew now : ℕ} :
    (validateIat iat clockSkew now).isOk = true ↔ iat ≤ timestamp now + clockSkew := by
  unfold validateIat
  split_ifs with hlate
  · exact iff_of_false Bool.false_ne_true (by omega)
  · exact iff_of_true rfl (by omega)

/-- A validation leaves the cache alone, or replaces an expired one by the JWKS
    it fetches. -/
theorem JwtValidator.validate_cache (clockSkew : ℕ) (cache : Option CachedJwks) (cacheTtl : ℕ)
    (jwks : List Jwk) (now : ℕ) (token : Token γ) :
    (JwtValidator.validate clockSkew cache cacheTtl (some jwks) now token).1 = cache ∨
      (JwtValidator.validate clockSkew cache cacheTtl (some jwks) now token).1 =
        some ⟨keyMap jwks, now + cacheTtl⟩ := by
  unfold JwtValidator.validate
  cases extractKid token with
  | error e => exact .inl rfl
  | ok kid =>
    have hcache := JwksClient.getKey_cache cache cacheTtl jwks now kid
    cases hget : JwksClient.getKey cache cacheTtl (some jwks) now kid with
    | mk cache' answer =>
      have hcases : cache' = cache ∨ cache' = some ⟨keyMap jwks, now + cacheTtl⟩ := by
        rw [hget] at hcache
        split_ifs at hcache
        · exact .inl hcache
        · exact .inr hcache
      cases answer with
      | error e => simpa [hget] using hcases
      | ok jwk =>
        cases hverify : verifyToken token jwk now with
        | error e => simpa [hget, hverify] using hcases
        | ok claims =>
          cases hiat : validateIat (JwtClaims.iat claims) clockSkew now with
          | error e => simpa [hget, hverify, hiat] using hcases
          | ok _ => simpa [hget, hverify, hiat] using hcases

/-- What a validation returns are the token's claims. -/
theorem JwtValidator.claims_of_validate {clockSkew cacheTtl now : ℕ} {cache : Option CachedJwks}
    {answer : Option (List Jwk)} {token : Token γ} {claims : γ}
    (h : (JwtValidator.validate clockSkew cache cacheTtl answer now token).2 = .ok claims) :
    claims = token.claims := by
  unfold JwtValidator.validate at h
  split at h
  · cases h
  split at h
  · cases h
  split at h
  · cases h
  rename_i hverify
  split at h
  · cases h
  · rw [← Except.ok.inj h]
    exact claims_of_verifyToken hverify

theorem JwtValidator.validate_isOk_iff {clockSkew cacheTtl now : ℕ} {cache : Option CachedJwks}
    {jwks : List Jwk} {token : Token γ} :
    (JwtValidator.validate clockSkew cache cacheTtl (some jwks) now token).2.isOk = true ↔
      token.size ≤ maxJwtSizeBytes ∧ ∃ kid, token.kid = some kid ∧ kid ≠ "" ∧
        ∃ jwk, (JwksClient.keysAt cache jwks now).lookup kid = some jwk ∧
          (verifyToken token jwk now).isOk = true ∧
          JwtClaims.iat token.claims ≤ timestamp now + clockSkew := by
  unfold JwtValidator.validate
  cases hkid : extractKid token with
  | error e =>
    refine iff_of_false Bool.false_ne_true ?_
    rintro ⟨hsize, kid, htoken, hne, _⟩
    cases (extractKid_eq_ok.mpr ⟨hsize, htoken, hne⟩).symm.trans hkid
  | ok kid =>
    obtain ⟨hsize, htoken, hne⟩ := extractKid_eq_ok.mp hkid
    have hget := JwksClient.getKey_eq cache cacheTtl jwks now kid
    simp only [htoken, Option.some.injEq, exists_eq_left', hsize, hne, true_and, ne_eq,
      not_false_eq_true]
    cases hanswer : JwksClient.getKey cache cacheTtl (some jwks) now kid with
    | mk cache' answer =>
      rw [hanswer] at hget
      cases hlookup : (JwksClient.keysAt cache jwks now).lookup kid with
      | none =>
        rw [hlookup] at hget
        obtain rfl : answer = .error .keyNotFound := hget
        exact iff_of_false Bool.false_ne_true (by simp)
      | some jwk =>
        rw [hlookup] at hget
        obtain rfl : answer = .ok jwk := hget
        simp only [Option.some.injEq, exists_eq_left']
        cases hverify : verifyToken token jwk now with
        | error e => exact iff_of_false Bool.false_ne_true (by simp [Except.toBool])
        | ok claims =>
          obtain rfl := claims_of_verifyToken hverify
          rw [← validateIat_isOk_iff]
          cases hiat : validateIat (JwtClaims.iat token.claims) clockSkew now with
          | error e => simp [hiat, Except.toBool]
          | ok _ => simp [hiat, Except.toBool]

end DarkTower.Common
