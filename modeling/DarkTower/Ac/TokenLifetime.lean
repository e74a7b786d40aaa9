import DarkTower.Ac.Auth
import DarkTower.Lib.Machine

/-!
# Tokens across key rotations

The Auth Controller issues tokens, rotates its keys and answers with its JWKS;
every service validates tokens with a cached JWKS. The machine `tokenSystem`
interleaves all of it:

* an issuance loads the active key (`loadKey`) and signs later (`sign`), so a
  rotation can come in between;
* a service's refresh is an answer of the endpoint (`answer`) that the service
  stores later (`store`), so answers can be overtaken; a validation with an
  expired cache fetches and stores at once (`validate`);
* time passes between the steps (`advance`).

`IssuedAccepted` is the property that every issued, unexpired token is accepted
by the middleware and by every service. It holds all along a run exactly when
every step meets `KeepsAccepted` (`issuedAccepted_along_iff`): no rotation
takes place while an issued token is unexpired, a token is signed with a key
that is still active and that no unexpired cache lacks, no stale answer is
stored, and no token outlives its key.
-/

namespace DarkTower.Ac

open DarkTower.Common DarkTower.Lib

variable {γ : Type} [JwtClaims γ]

/-- The clock skews of the Auth Controller and of each service, in seconds. -/
structure Skews where
  ac : ℕ
  service : String → ℕ

/-- The keys, the tokens and the caches. -/
structure TokenState (γ : Type) where
  now : ℕ
  table : KeyTable
  /-- The keys of the issuances that have not signed yet. -/
  loading : List SigningKey
  issued : List (Token γ)
  /-- Answers of the JWKS endpoint on their way to a service. -/
  answers : List (String × List Jwk)
  /-- The cache of each service's `JwksClient`. -/
  caches : String → Option CachedJwks

/-- A step of the Auth Controller, or of a service that validates tokens. -/
inductive TokenEvent (γ : Type)
  | advance (now : ℕ)
  | initKey (clusterName : String) (keyPair : List UInt8)
  | rotate (clusterName : String) (keyPair : List UInt8)
  | loadKey
  | sign (key : SigningKey) (size : ℕ) (claims : γ)
  | answer (service : String)
  | store (service : String) (jwks : List Jwk)
  | validate (service : String) (token : Token γ)

/-- The lifetime of a cache. -/
def cacheTtl : ℕ := fromSecs defaultCacheTtlSeconds

/-- `JwtValidator::validate` in a service, when the endpoint answers at once. -/
def TokenState.validate (skews : Skews) (s : TokenState γ) (service : String) (token : Token γ) :
    Option CachedJwks × Except JwtError γ :=
  JwtValidator.validate (skews.service service) (s.caches service) cacheTtl
    (some (getJwks s.table s.now)) s.now token

/-- One step, and the verdict of a validation. -/
def TokenState.step (C : Calendar) (skews : Skews) (s : TokenState γ) :
    TokenEvent γ → TokenState γ × Option (Except JwtError γ)
  | .advance now => ({ s with now := now }, none)
  | .initKey clusterName keyPair =>
    match initializeSigningKey C s.table s.now clusterName keyPair with
    | .error _ => (s, none)
    | .ok table => ({ s with table := table }, none)
  | .rotate clusterName keyPair =>
    match rotateSigningKeyTx C s.table s.now clusterName keyPair with
    | .error _ => (s, none)
    | .ok (table, _) => ({ s with table := table }, none)
  | .loadKey =>
    match s.table.getActiveKey s.now with
    | none => (s, none)
    | some key => ({ s with loading := key :: s.loading }, none)
  | .sign key size claims =>
    ({ s with
        loading := s.loading.erase key
        issued := signJwt key size claims :: s.issued }, none)
  | .answer service =>
    ({ s with answers := (service, getJwks s.table s.now) :: s.answers }, none)
  | .store service jwks =>
    ({ s with
        answers := s.answers.erase (service, jwks)
        caches := Function.update s.caches service
          (JwksClient.refreshCache (s.caches service) cacheTtl (some jwks) s.now).1 }, none)
  | .validate service token =>
    let (cache, verdict) := s.validate skews service token
    ({ s with caches := Function.update s.caches service cache }, some verdict)

/-- The clock does not go back, key pairs are fresh, a signature is by a loaded
    key and dated now, and only answers of the endpoint are stored. -/
def TokenState.Allowed (s : TokenState γ) : TokenEvent γ → Prop
  | .advance now => s.now ≤ now
  | .initKey _ keyPair => ∀ key ∈ s.table, key.privateKey ≠ keyPair
  | .rotate _ keyPair => ∀ key ∈ s.table, key.privateKey ≠ keyPair
  | .sign key _ claims => key ∈ s.loading ∧ JwtClaims.iat claims = timestamp s.now
  | .store service jwks => (service, jwks) ∈ s.answers
  | _ => True

instance decidableAllowed (s : TokenState γ) (e : TokenEvent γ) : Decidable (s.Allowed e) :=
  match e with
  | .advance now => inferInstanceAs (Decidable (s.now ≤ now))
  | .initKey _ keyPair =>
    inferInstanceAs (Decidable (∀ key ∈ s.table, key.privateKey ≠ keyPair))
  | .rotate _ keyPair =>
    inferInstanceAs (Decidable (∀ key ∈ s.table, key.privateKey ≠ keyPair))
  | .sign key _ claims =>
    inferInstanceAs (Decidable (key ∈ s.loading ∧ JwtClaims.iat claims = timestamp s.now))
  | .store service jwks => inferInstanceAs (Decidable ((service, jwks) ∈ s.answers))
  | .loadKey => inferInstanceAs (Decidable True)
  | .answer _ => inferInstanceAs (Decidable True)
  | .validate _ _ => inferInstanceAs (Decidable True)

/-- The system, from an empty table and empty caches. -/
def tokenSystem (γ : Type) [JwtClaims γ] (C : Calendar) (skews : Skews) :
    Machine (TokenState γ) (TokenEvent γ) (Option (Except JwtError γ)) where
  init := ⟨0, [], [], [], [], fun _ => none⟩
  step := TokenState.step C skews
  allowed _ s e := s.Allowed e

instance (C : Calendar) (skews : Skews) (h s) (e : TokenEvent γ) :
    Decidable ((tokenSystem γ C skews).allowed h s e) :=
  decidableAllowed s e

/-- An issued token that has not expired is accepted by the middleware and by
    every service. -/
def IssuedAccepted (skews : Skews) (s : TokenState γ) : Prop :=
  ∀ token ∈ s.issued, timestamp s.now < JwtClaims.exp token.claims →
    (requireServiceAuth s.table skews.ac s.now (.bearer token)).isOk = true ∧
      ∀ service, (s.validate skews service token).2.isOk = true

/-- What a step must meet for the tokens to stay accepted. -/
def KeepsAccepted (C : Calendar) (s : TokenState γ) : TokenEvent γ → Prop
  -- no unexpired token outlives its key
  | .advance now => ∀ token ∈ s.issued, timestamp now < JwtClaims.exp token.claims →
      ∀ key ∈ s.table, token.kid = some key.keyId → now < key.validUntil
  -- a rotation that takes place finds every issued token expired
  | .rotate clusterName keyPair =>
      s.table.Admits (newKey C s.table s.now clusterName keyPair) →
        ∀ token ∈ s.issued, JwtClaims.exp token.claims ≤ timestamp s.now
  -- the loaded key is still active, and in every cache that is in use
  | .sign key size claims => timestamp s.now < JwtClaims.exp claims →
      size ≤ maxJwtSizeBytes ∧
      (∃ k ∈ s.table, k.keyId = key.keyId ∧ k.activeAt s.now = true) ∧
      ∀ service cached, s.caches service = some cached → s.now < cached.expiresAt →
        key.keyId ∈ cached.keys
  -- the answer has the key of every unexpired token
  | .store _ jwks => ∀ token ∈ s.issued, timestamp s.now < JwtClaims.exp token.claims →
      ∃ jwk ∈ jwks, token.kid = some jwk.kid
  | _ => True

/-! ## The invariant -/

/-- Every key of `table` has its id and private key in `table'`. -/
def KeyTable.Kept (table table' : KeyTable) : Prop :=
  ∀ key ∈ table, ∃ key' ∈ table', key'.keyId = key.keyId ∧ key'.privateKey = key.privateKey

theorem Published.mono {table table' : KeyTable} {keys : AList fun _ : String => Jwk}
    (h : Published table keys) (hkept : table.Kept table') : Published table' keys := by
  intro kid jwk hlookup
  obtain ⟨key, hkey, rfl, rfl⟩ := h kid jwk hlookup
  obtain ⟨key', hkey', hid, hpriv⟩ := hkept key hkey
  refine ⟨key', hkey', hid, ?_⟩
  rw [SigningKey.webKey, SigningKey.webKey, hid, hpriv]

/-- What every step keeps: tokens, loaded keys and published keys are those of
    rows of the table. -/
structure TokenInv (C : Calendar) (s : TokenState γ) : Prop where
  keys : ∃ t, t ≤ s.now ∧ ReachableKeys C s.table t
  loaded : ∀ key ∈ s.loading, ∃ k ∈ s.table, k.keyId = key.keyId ∧ k.privateKey = key.privateKey
  issued : ∀ token ∈ s.issued, ∃ key ∈ s.table, token.kid = some key.keyId ∧
    token.signer = key.privateKey
  dated : ∀ token ∈ s.issued, JwtClaims.iat token.claims ≤ timestamp s.now
  answers : ∀ answer ∈ s.answers, Published s.table (keyMap answer.2)
  caches : ∀ service cached, s.caches service = some cached → Published s.table cached.keys

section Invariant

variable {C : Calendar} {skews : Skews} {s : TokenState γ}

theorem timestamp_mono {t now : ℕ} (h : t ≤ now) : timestamp t ≤ timestamp now := by
  unfold timestamp
  have := Nat.div_le_div_right (c := 1000000000) h
  omega

theorem TokenInv.keyInv (hinv : TokenInv C s) : KeyInv s.table s.now := by
  obtain ⟨t, ht, hr⟩ := hinv.keys
  exact (reachableKeys_inv hr).mono ht

/-- A change of the table that keeps the keys keeps the invariant. -/
theorem TokenInv.setTable (hinv : TokenInv C s) {table : KeyTable}
    (hr : ReachableKeys C table s.now) (hkept : s.table.Kept table) :
    TokenInv C { s with table := table } := by
  refine ⟨⟨s.now, le_rfl, hr⟩, fun key hkey => ?_, fun token htoken => ?_, hinv.dated,
    fun answer hanswer => (hinv.answers answer hanswer).mono hkept,
    fun service cached hcached => (hinv.caches service cached hcached).mono hkept⟩
  · obtain ⟨k, hk, hid, hpriv⟩ := hinv.loaded key hkey
    obtain ⟨k', hk', hid', hpriv'⟩ := hkept k hk
    exact ⟨k', hk', hid'.trans hid, hpriv'.trans hpriv⟩
  · obtain ⟨k, hk, hkid, hsigner⟩ := hinv.issued token htoken
    obtain ⟨k', hk', hid', hpriv'⟩ := hkept k hk
    exact ⟨k', hk', hkid.trans (by rw [hid']), hsigner.trans hpriv'.symm⟩

theorem initializeSigningKey_kept {table table' : KeyTable} {now : ℕ} {clusterName : String}
    {keyPair : List UInt8} (h : initializeSigningKey C table now clusterName keyPair = .ok table') :
    table.Kept table' := by
  unfold initializeSigningKey at h
  cases hactive : table.getActiveKey now with
  | some key =>
    rw [hactive] at h
    obtain rfl := Except.ok.inj h
    exact fun key hkey => ⟨key, hkey, rfl, rfl⟩
  | none =>
    rw [hactive] at h
    obtain ⟨rfl, -⟩ := insertKey_eq_ok h
    exact fun key hkey => ⟨key, List.mem_append_left _ hkey, rfl, rfl⟩

theorem rotateSigningKeyTx_kept {table table' : KeyTable} {now : ℕ} {clusterName keyId : String}
    {keyPair : List UInt8}
    (h : rotateSigningKeyTx C table now clusterName keyPair = .ok (table', keyId)) :
    table.Kept table' := by
  obtain ⟨rfl, -⟩ := rotateSigningKeyTx_eq h
  exact fun key hkey =>
    ⟨key.deactivated, List.mem_append_left _ (List.mem_map_of_mem hkey), rfl, rfl⟩

/-- A service that stores published keys keeps the invariant. -/
theorem TokenInv.setCache (hinv : TokenInv C s) {service : String} {cache : Option CachedJwks}
    (hcache : ∀ cached, cache = some cached → Published s.table cached.keys) :
    TokenInv C { s with caches := Function.update s.caches service cache } := by
  refine ⟨hinv.keys, hinv.loaded, hinv.issued, hinv.dated, hinv.answers,
    fun service' cached hcached => ?_⟩
  by_cases hservice : service' = service
  · subst hservice
    dsimp only at hcached
    rw [Function.update_self] at hcached
    exact hcache cached hcached
  · dsimp only at hcached
    rw [Function.update_of_ne hservice] at hcached
    exact hinv.caches service' cached hcached

theorem tokenInv_step {e : TokenEvent γ} (hinv : TokenInv C s) (ha : s.Allowed e) :
    TokenInv C (s.step C skews e).1 := by
  cases e with
  | advance now =>
    obtain ⟨t, ht, hr⟩ := hinv.keys
    have hle : s.now ≤ now := ha
    exact ⟨⟨t, ht.trans hle, hr⟩, hinv.loaded, hinv.issued,
      fun token htoken => (hinv.dated token htoken).trans (timestamp_mono hle),
      hinv.answers, hinv.caches⟩
  | initKey clusterName keyPair =>
    simp only [TokenState.step]
    cases h : initializeSigningKey C s.table s.now clusterName keyPair with
    | error e => exact hinv
    | ok table =>
      obtain ⟨t, ht, hr⟩ := hinv.keys
      exact hinv.setTable (hr.initKey s.now clusterName keyPair ht ha h) (initializeSigningKey_kept h)
  | rotate clusterName keyPair =>
    simp only [TokenState.step]
    cases h : rotateSigningKeyTx C s.table s.now clusterName keyPair with
    | error e => exact hinv
    | ok result =>
      obtain ⟨table, keyId⟩ := result
      obtain ⟨t, ht, hr⟩ := hinv.keys
      exact hinv.setTable (hr.rotate s.now clusterName keyPair keyId ht ha h) (rotateSigningKeyTx_kept h)
  | loadKey =>
    simp only [TokenState.step]
    cases h : s.table.getActiveKey s.now with
    | none => exact hinv
    | some key =>
      refine ⟨hinv.keys, fun key' hkey' => ?_, hinv.issued, hinv.dated, hinv.answers, hinv.caches⟩
      rcases List.mem_cons.mp hkey' with rfl | hkey'
      · exact ⟨key', (mem_getAllActiveKeys.mp (List.mem_of_head? h)).1, rfl, rfl⟩
      · exact hinv.loaded key' hkey'
  | sign key size claims =>
    obtain ⟨hloading, hiat⟩ := ha
    refine ⟨hinv.keys, fun k hk => hinv.loaded k (List.mem_of_mem_erase hk),
      fun token htoken => ?_, fun token htoken => ?_, hinv.answers, hinv.caches⟩
    · rcases List.mem_cons.mp htoken with rfl | htoken
      · obtain ⟨k, hk, hid, hpriv⟩ := hinv.loaded key hloading
        exact ⟨k, hk, congrArg some hid.symm, hpriv.symm⟩
      · exact hinv.issued token htoken
    · rcases List.mem_cons.mp htoken with rfl | htoken
      · exact hiat.le
      · exact hinv.dated token htoken
  | answer service =>
    refine ⟨hinv.keys, hinv.loaded, hinv.issued, hinv.dated, fun answer hanswer => ?_, hinv.caches⟩
    rcases List.mem_cons.mp hanswer with rfl | hanswer
    · exact published_getJwks hinv.keyInv
    · exact hinv.answers answer hanswer
  | store service jwks =>
    have hstored : TokenInv C { s with
        caches := Function.update s.caches service
          (some ⟨keyMap jwks, s.now + cacheTtl⟩) } := by
      refine hinv.setCache fun cached hcached => ?_
      obtain rfl := Option.some.inj hcached
      exact hinv.answers _ ha
    exact ⟨hstored.keys, hstored.loaded, hstored.issued, hstored.dated,
      fun answer hanswer => hstored.answers answer (List.mem_of_mem_erase hanswer),
      hstored.caches⟩
  | validate service token =>
    refine hinv.setCache fun cached hcached => ?_
    rcases JwtValidator.validate_cache (skews.service service) (s.caches service) cacheTtl
      (getJwks s.table s.now) s.now token with h | h
    · exact hinv.caches service cached (h.symm.trans hcached)
    · obtain rfl := Option.some.inj (h.symm.trans hcached)
      exact published_getJwks hinv.keyInv

theorem run_tokenInv {h : List (TokenEvent γ × Option (Except JwtError γ))}
    (hr : (tokenSystem γ C skews).Run h s) : TokenInv C s := by
  refine Machine.Run.invariant (I := fun _ s => TokenInv C s) ?_
    (fun h s e _ ha hinv => tokenInv_step hinv ha) hr
  refine ⟨⟨0, le_rfl, .empty 0⟩, ?_, ?_, ?_, ?_, ?_⟩ <;> simp [tokenSystem]

end Invariant

/-! ## Which tokens are accepted -/

/-- A cache in use has the key of the token. -/
def CachesHave (s : TokenState γ) (kid : Option String) : Prop :=
  ∀ service cached, s.caches service = some cached → s.now < cached.expiresAt →
    ∃ keyId, kid = some keyId ∧ keyId ∈ cached.keys

/-- The token fits, its key is active and in every cache in use. -/
structure Servable (s : TokenState γ) (token : Token γ) : Prop where
  fits : token.size ≤ maxJwtSizeBytes
  active : ∃ key ∈ s.table, token.kid = some key.keyId ∧ key.activeAt s.now = true
  cached : CachesHave s token.kid

section Accepted

variable {C : Calendar} {skews : Skews} {s : TokenState γ}

/-- The keys a service answers from have the id of a key iff the cache in use
    has it, or the key is active and no cache is in use. -/
theorem mem_keysAt (hinv : TokenInv C s) {key : SigningKey} (hkey : key ∈ s.table)
    (service : String) :
    key.keyId ∈ JwksClient.keysAt (s.caches service) (getJwks s.table s.now) s.now ↔
      (∀ cached, s.caches service = some cached → s.now < cached.expiresAt →
        key.keyId ∈ cached.keys) ∧
      ((∀ cached, s.caches service = some cached → ¬ s.now < cached.expiresAt) →
        key.activeAt s.now = true) := by
  have hjwks : key.keyId ∈ keyMap (getJwks s.table s.now) ↔ key.activeAt s.now = true :=
    mem_keyMap_getJwks hinv.keyInv hkey
  unfold JwksClient.keysAt
  cases hcache : s.caches service with
  | none => simpa using hjwks
  | some cached =>
    by_cases hlive : s.now < cached.expiresAt
    · simp [hlive]
    · simpa [hlive, Nat.not_lt.mp hlive] using hjwks

theorem published_keysAt (hinv : TokenInv C s) (service : String) :
    Published s.table (JwksClient.keysAt (s.caches service) (getJwks s.table s.now) s.now) := by
  have hjwks : Published s.table (keyMap (getJwks s.table s.now)) :=
    published_getJwks hinv.keyInv
  unfold JwksClient.keysAt
  cases hcache : s.caches service with
  | none => exact hjwks
  | some cached =>
    dsimp only
    split_ifs
    · exact hinv.caches service cached hcache
    · exact hjwks

/-- An issued token that has not expired is accepted everywhere iff it is
    servable. -/
theorem accepted_iff_servable (hinv : TokenInv C s) {token : Token γ} (htoken : token ∈ s.issued)
    (hexp : timestamp s.now < JwtClaims.exp token.claims) :
    ((requireServiceAuth s.table skews.ac s.now (.bearer token)).isOk = true ∧
      ∀ service, (s.validate skews service token).2.isOk = true) ↔ Servable s token := by
  obtain ⟨key, hkey, hkid, hsigner⟩ := hinv.issued token htoken
  have hiat := hinv.dated token htoken
  have horder : ∀ clockSkew, InOrder token clockSkew s.now ↔ token.size ≤ maxJwtSizeBytes :=
    fun clockSkew => ⟨fun h => h.1, fun h => ⟨h, by omega, by omega⟩⟩
  have hmiddleware : (requireServiceAuth s.table skews.ac s.now (.bearer token)).isOk = true ↔
      key.activeAt s.now = true ∧ token.size ≤ maxJwtSizeBytes := by
    rw [requireServiceAuth_isOk_iff hinv.keyInv le_rfl hkey hsigner, horder]
  have hservice : ∀ service, (s.validate skews service token).2.isOk = true ↔
      key.keyId ∈ JwksClient.keysAt (s.caches service) (getJwks s.table s.now) s.now ∧
        token.size ≤ maxJwtSizeBytes := by
    intro service
    rw [TokenState.validate, validate_isOk_iff hinv.keyInv hkey hsigner
      (published_keysAt hinv service), horder, and_iff_right hkid]
  rw [hmiddleware]
  constructor
  · rintro ⟨⟨hactive, hsize⟩, hall⟩
    refine ⟨hsize, ⟨key, hkey, hkid, hactive⟩, fun service cached hcached hlive => ?_⟩
    have hhas := ((hservice service).mp (hall service)).1
    exact ⟨key.keyId, hkid, ((mem_keysAt hinv hkey service).mp hhas).1 cached hcached hlive⟩
  · rintro ⟨hsize, ⟨key', hkey', hkid', hactive⟩, hcached⟩
    have hid : key.keyId = key'.keyId := Option.some.inj (hkid.symm.trans hkid')
    obtain rfl := hinv.keyInv.eq_of_keyId hkey hkey' hid
    refine ⟨⟨hactive, hsize⟩, fun service => (hservice service).mpr ⟨?_, hsize⟩⟩
    refine (mem_keysAt hinv hkey service).mpr ⟨fun cached hc hlive => ?_, fun _ => hactive⟩
    obtain ⟨keyId, hk, hmem⟩ := hcached service cached hc hlive
    rwa [Option.some.inj (hkid.symm.trans hk)]

/-- Every issued, unexpired token is servable. -/
def AllServable (s : TokenState γ) : Prop :=
  ∀ token ∈ s.issued, timestamp s.now < JwtClaims.exp token.claims → Servable s token

theorem issuedAccepted_iff (hinv : TokenInv C s) : IssuedAccepted skews s ↔ AllServable s :=
  forall₃_congr fun _ htoken hexp => accepted_iff_servable hinv htoken hexp

end Accepted

/-! ## Steps -/

section Steps

variable {C : Calendar} {skews : Skews} {s : TokenState γ}

theorem allServable_advance_iff {now : ℕ} (hinv : TokenInv C s) (hnow : s.now ≤ now)
    (h : AllServable s) :
    AllServable { s with now := now } ↔ KeepsAccepted C s (.advance now) := by
  constructor
  · intro hafter token htoken hexp key hkey hkid
    obtain ⟨key', hkey', hkid', hactive⟩ := (hafter token htoken hexp).active
    obtain rfl := hinv.keyInv.eq_of_keyId hkey hkey' (Option.some.inj (hkid.symm.trans hkid'))
    exact ((hinv.keyInv.activeAt_iff hnow hkey).mp hactive).2
  · intro hkeeps token htoken hexp
    obtain ⟨hsize, ⟨key, hkey, hkid, hactive⟩, hcached⟩ :=
      h token htoken ((timestamp_mono hnow).trans_lt hexp)
    have hon := ((hinv.keyInv.activeAt_iff le_rfl hkey).mp hactive).1
    refine ⟨hsize, ⟨key, hkey, hkid, ?_⟩, fun service cached hc hlive => ?_⟩
    · exact (hinv.keyInv.activeAt_iff hnow hkey).mpr ⟨hon, hkeeps token htoken hexp key hkey hkid⟩
    · exact hcached service cached hc (hnow.trans_lt hlive)

/-- Adding a key when none is active keeps the tokens servable. -/
theorem allServable_initKey {clusterName : String} {keyPair : List UInt8} {table : KeyTable}
    (hok : initializeSigningKey C s.table s.now clusterName keyPair = .ok table)
    (h : AllServable s) : AllServable { s with table := table } := by
  intro token htoken hexp
  obtain ⟨hsize, ⟨key, hkey, hkid, hactive⟩, hcached⟩ := h token htoken hexp
  refine ⟨hsize, ⟨key, ?_, hkid, hactive⟩, hcached⟩
  unfold initializeSigningKey at hok
  cases hfind : s.table.getActiveKey s.now with
  | some found =>
    rw [hfind] at hok
    exact Except.ok.inj hok ▸ hkey
  | none =>
    rw [hfind] at hok
    rw [(insertKey_eq_ok hok).1]
    exact List.mem_append_left _ hkey

/-- After a rotation only the new key is active, which signed nothing yet. -/
theorem allServable_rotate_iff {clusterName keyId : String} {keyPair : List UInt8}
    {table : KeyTable} (hinv : TokenInv C s)
    (hok : rotateSigningKeyTx C s.table s.now clusterName keyPair = .ok (table, keyId)) :
    AllServable { s with table := table } ↔
      ∀ token ∈ s.issued, JwtClaims.exp token.claims ≤ timestamp s.now := by
  constructor
  · intro hafter token htoken
    by_contra hexp
    obtain ⟨key, hkey, hkid, hactive⟩ := (hafter token htoken (Int.not_le.mp hexp)).active
    obtain ⟨rfl, rfl, hnew⟩ := rotateSigningKeyTx_eq hok
    obtain ⟨signer, hsigner, hkid', -⟩ := hinv.issued token htoken
    rcases List.mem_append.mp hkey with hold | hadded
    · obtain ⟨k, -, rfl⟩ := List.mem_map.mp hold
      rw [SigningKey.activeAt, SigningKey.deactivated] at hactive
      cases hactive
    · obtain rfl := List.mem_singleton.mp hadded
      exact hnew signer hsigner (Option.some.inj (hkid'.symm.trans hkid))
  · intro hexpired token htoken hexp
    exact absurd (hexpired token htoken) (Int.not_le.mpr hexp)

theorem allServable_sign_iff {key : SigningKey} {size : ℕ} {claims : γ} (h : AllServable s) :
    AllServable { s with
        loading := s.loading.erase key
        issued := signJwt key size claims :: s.issued } ↔
      KeepsAccepted C s (.sign key size claims) := by
  constructor
  · intro hafter hexp
    obtain ⟨hsize, ⟨k, hk, hkid, hactive⟩, hcached⟩ :=
      hafter (signJwt key size claims) List.mem_cons_self hexp
    refine ⟨hsize, ⟨k, hk, (Option.some.inj hkid).symm, hactive⟩, fun service cached hc hlive => ?_⟩
    obtain ⟨keyId, hkid', hmem⟩ := hcached service cached hc hlive
    exact Option.some.inj hkid' ▸ hmem
  · intro hkeeps token htoken hexp
    rcases List.mem_cons.mp htoken with rfl | htoken
    · obtain ⟨hsize, ⟨k, hk, hid, hactive⟩, hcached⟩ := hkeeps hexp
      exact ⟨hsize, ⟨k, hk, congrArg some hid.symm, hactive⟩,
        fun service cached hc hlive => ⟨key.keyId, rfl, hcached service cached hc hlive⟩⟩
    · have hs := h token htoken hexp
      exact ⟨hs.fits, hs.active, hs.cached⟩

/-- A new cache keeps the tokens servable iff it has their keys. -/
theorem allServable_setCache_iff {service : String} {cache : Option CachedJwks}
    (h : AllServable s) :
    AllServable { s with caches := Function.update s.caches service cache } ↔
      ∀ token ∈ s.issued, timestamp s.now < JwtClaims.exp token.claims →
        ∀ cached, cache = some cached → s.now < cached.expiresAt →
          ∃ keyId, token.kid = some keyId ∧ keyId ∈ cached.keys := by
  constructor
  · intro hafter token htoken hexp cached hcached hlive
    refine (hafter token htoken hexp).cached service cached ?_ hlive
    dsimp only
    rw [Function.update_self, hcached]
  · intro hkeys token htoken hexp
    have hs := h token htoken hexp
    refine ⟨hs.fits, hs.active, fun service' cached hcached hlive => ?_⟩
    dsimp only at hcached
    by_cases hservice : service' = service
    · subst hservice
      rw [Function.update_self] at hcached
      exact hkeys token htoken hexp cached hcached hlive
    · rw [Function.update_of_ne hservice] at hcached
      exact hs.cached service' cached hcached hlive

theorem allServable_store_iff {service : String} {jwks : List Jwk} (h : AllServable s) :
    AllServable { s with
        answers := s.answers.erase (service, jwks)
        caches := Function.update s.caches service (some ⟨keyMap jwks, s.now + cacheTtl⟩) } ↔
      KeepsAccepted C s (.store service jwks) := by
  have hlive : s.now < s.now + cacheTtl := Nat.lt_add_of_pos_right (by decide)
  refine Iff.trans (b := AllServable { s with
    caches := Function.update s.caches service (some ⟨keyMap jwks, s.now + cacheTtl⟩) }) ?_ ?_
  · exact forall₃_congr fun _ _ _ => ⟨fun hs => ⟨hs.fits, hs.active, hs.cached⟩,
      fun hs => ⟨hs.fits, hs.active, hs.cached⟩⟩
  · rw [allServable_setCache_iff h]
    refine forall₃_congr fun token htoken hexp => ⟨fun hkeys => ?_, ?_⟩
    · obtain ⟨keyId, hkid, hmem⟩ := hkeys _ rfl hlive
      obtain ⟨jwk, hjwk, rfl⟩ := mem_keyMap.mp hmem
      exact ⟨jwk, hjwk, hkid⟩
    · rintro ⟨jwk, hjwk, hkid⟩ cached hcached -
      obtain rfl := Option.some.inj hcached
      exact ⟨jwk.kid, hkid, mem_keyMap.mpr ⟨jwk, hjwk, rfl⟩⟩

/-- A validation fetches a JWKS that has every active key. -/
theorem allServable_validate {service : String} {token : Token γ} (hinv : TokenInv C s)
    (h : AllServable s) :
    AllServable { s with
      caches := Function.update s.caches service (s.validate skews service token).1 } := by
  rw [allServable_setCache_iff h]
  intro token' htoken' hexp' cached hcached hlive
  rcases JwtValidator.validate_cache (skews.service service) (s.caches service) cacheTtl
    (getJwks s.table s.now) s.now token with hcache | hcache
  · exact (h token' htoken' hexp').cached service cached (hcache.symm.trans hcached) hlive
  · obtain rfl := Option.some.inj (hcache.symm.trans hcached)
    obtain ⟨key, hkey, hkid, hactive⟩ := (h token' htoken' hexp').active
    exact ⟨key.keyId, hkid, (mem_keyMap_getJwks hinv.keyInv hkey).mpr hactive⟩

/-- One step keeps the tokens servable exactly when it meets the condition. -/
theorem allServable_step_iff {e : TokenEvent γ} (hinv : TokenInv C s) (ha : s.Allowed e)
    (h : AllServable s) : AllServable (s.step C skews e).1 ↔ KeepsAccepted C s e := by
  cases e with
  | advance now => exact allServable_advance_iff hinv ha h
  | initKey clusterName keyPair =>
    refine iff_of_true ?_ trivial
    simp only [TokenState.step]
    cases hok : initializeSigningKey C s.table s.now clusterName keyPair with
    | error e => exact h
    | ok table => exact allServable_initKey hok h
  | rotate clusterName keyPair =>
    simp only [TokenState.step, KeepsAccepted]
    cases hok : rotateSigningKeyTx C s.table s.now clusterName keyPair with
    | error e =>
      refine iff_of_true h fun hadmits => ?_
      obtain ⟨table, keyId, hok'⟩ := rotateSigningKeyTx_ok_of_admits hadmits
      cases hok.symm.trans hok'
    | ok result =>
      obtain ⟨table, keyId⟩ := result
      rw [forall_prop_of_true (admits_of_rotateSigningKeyTx hok)]
      exact allServable_rotate_iff hinv hok
  | loadKey =>
    refine iff_of_true ?_ trivial
    simp only [TokenState.step]
    cases s.table.getActiveKey s.now with
    | none => exact h
    | some key =>
      intro token htoken hexp
      have hs := h token htoken hexp
      exact ⟨hs.fits, hs.active, hs.cached⟩
  | sign key size claims => exact allServable_sign_iff h
  | answer service =>
    refine iff_of_true (fun token htoken hexp => ?_) trivial
    have hs := h token htoken hexp
    exact ⟨hs.fits, hs.active, hs.cached⟩
  | store service jwks => exact allServable_store_iff h
  | validate service token => exact iff_of_true (allServable_validate hinv h) trivial

/-- Every issued, unexpired token is accepted everywhere in every state of a
    run iff every step of the run meets the condition. -/
theorem issuedAccepted_along_iff {h : List (TokenEvent γ × Option (Except JwtError γ))}
    (hr : (tokenSystem γ C skews).Run h s) :
    (∀ h', h' <:+ h → IssuedAccepted skews ((tokenSystem γ C skews).stateAfter h')) ↔
      ∀ e a h', (e, a) :: h' <:+ h →
        KeepsAccepted C ((tokenSystem γ C skews).stateAfter h') e := by
  refine Machine.Run.always_iff ?_ ?_ hr
  · intro token htoken
    exact absurd htoken List.not_mem_nil
  · intro h s e hr ha hs
    have hinv := run_tokenInv hr
    have hinv' : TokenInv C (s.step C skews e).1 := tokenInv_step hinv ha
    exact (issuedAccepted_iff hinv').trans
      (allServable_step_iff hinv ha ((issuedAccepted_iff hinv).mp hs))

end Steps

/-! ## A rotation within the lifetime of a token -/

/-- The system of the concrete run, with the default skews. -/
abbrev sampleTokens : Machine (TokenState ServiceClaims) (TokenEvent ServiceClaims)
    (Option (Except JwtError ServiceClaims)) :=
  tokenSystem ServiceClaims Calendar.sample ⟨300, fun _ => 300⟩

/-- The claims of a service token issued at 2 h. -/
def sampleClaims : ServiceClaims where
  sub := "global-controller"
  exp := 3 * 3600
  iat := 2 * 3600
  scope := "internal:meeting-token"
  serviceType := some "global-controller"

/-- A token issued at 2 h, and a rotation right after it. -/
def rotationEvents : List (TokenEvent ServiceClaims) :=
  [.initKey "default" [1], .advance (hours 2), .loadKey,
    .sign (sampleKey "auth-default-2025-01" [1] true 0) 412 sampleClaims,
    .rotate "default" [2]]

theorem issuedAccepted_along_rotation :
    sampleTokens.Run (sampleTokens.playAll rotationEvents).2
        (sampleTokens.playAll rotationEvents).1 ∧
      ((∀ h', h' <:+ (sampleTokens.playAll rotationEvents).2 →
          IssuedAccepted ⟨300, fun _ => 300⟩ (sampleTokens.stateAfter h')) ↔
        ∀ e a h', (e, a) :: h' <:+ (sampleTokens.playAll rotationEvents).2 →
          KeepsAccepted Calendar.sample (sampleTokens.stateAfter h') e) :=
  have hr : sampleTokens.Run (sampleTokens.playAll rotationEvents).2
      (sampleTokens.playAll rotationEvents).1 := Machine.run_of_admits (by decide)
  ⟨hr, issuedAccepted_along_iff hr⟩

/-- The token is rejected by the middleware an hour before it expires. -/
theorem rotation_rejects_issued :
    sampleTokens.Run (sampleTokens.playAll rotationEvents).2
        (sampleTokens.playAll rotationEvents).1 ∧
      ¬ IssuedAccepted ⟨300, fun _ => 300⟩ (sampleTokens.playAll rotationEvents).1 := by
  refine ⟨Machine.run_of_admits (by decide), fun h => ?_⟩
  have hmiddleware := (h (signJwt (sampleKey "auth-default-2025-01" [1] true 0) 412 sampleClaims)
    List.mem_cons_self (by decide)).1
  have hrejected : requireServiceAuth (sampleTokens.playAll rotationEvents).1.table 300 (hours 2)
      (.bearer (signJwt (sampleKey "auth-default-2025-01" [1] true 0) 412 sampleClaims)) =
        .error invalidOrExpired := by decide +kernel
  rw [show (sampleTokens.playAll rotationEvents).1.now = hours 2 from rfl, hrejected] at hmiddleware
  cases hmiddleware

end DarkTower.Ac
