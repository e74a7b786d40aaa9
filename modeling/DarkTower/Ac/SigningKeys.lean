import DarkTower.Common.Jwt
import Mathlib.Algebra.Group.Nat.Defs
import Mathlib.Data.List.Sort

/-!
# Signing keys of the Auth Controller

The table `signing_keys`, the statements of
`ac-service/src/repositories/signing_keys.rs` on it, and the operations of
`ac-service/src/services/key_management_service.rs` built from them, each at
one instant `now` (`NOW()` and `Utc::now()` of one transaction).

* A table is the list of its rows, in the order of their insertion.
* A private key is stored encrypted; it is modelled by the public key of its
  pair. Encryption under the constant master key is left out.
* The year of a date, which `chrono` formats, is a parameter.

`TableInv` is the invariant of the tables that initialisation and rotations
make: ids are distinct and at most one active key is not expired. With fresh
key pairs (`ReachableKeys`) the keys are distinct too (`KeyInv`).
`rotateSigningKeyTx_eq` and `TableInv.getActiveKey_eq_some` say what a rotation
and the lookup of the active key do.
-/

namespace DarkTower.Ac

open DarkTower.Common DarkTower.Lib

/-- `AcError` (`ac-service/src/errors.rs:10`), as far as it is used here. -/
inductive AcError
  | database (message : String)
  | crypto (message : String)
  | invalidCredentials
  | insufficientScope (required : String) (provided : List String)
  | invalidToken (message : String)
  | notFound (message : String)
  | rateLimitExceeded
  | tooManyRequests (retryAfterSeconds : ℤ) (message : String)
  | internal
deriving DecidableEq

/-- A row of `signing_keys`. -/
structure SigningKey where
  keyId : String
  /-- PEM text of the public key. -/
  publicKey : String
  /-- The public half of the stored private key. -/
  privateKey : List UInt8
  isActive : Bool
  validFrom : ℕ
  validUntil : ℕ
  createdAt : ℕ
deriving DecidableEq

/-- The rows of `signing_keys`. -/
abbrev KeyTable := List SigningKey

/-- `valid_from <= NOW() AND valid_until > NOW()`. -/
def SigningKey.inWindow (key : SigningKey) (now : ℕ) : Bool :=
  decide (key.validFrom ≤ now) && decide (now < key.validUntil)

/-- `is_active = true AND valid_from <= NOW() AND valid_until > NOW()`. -/
def SigningKey.activeAt (key : SigningKey) (now : ℕ) : Bool := key.isActive && key.inWindow now

namespace KeyTable

/-- `get_all_active_keys` (signing_keys.rs:145): newest `valid_from` first. -/
def getAllActiveKeys (table : KeyTable) (now : ℕ) : List SigningKey :=
  (table.filter (·.activeAt now)).insertionSort fun k k' => k'.validFrom ≤ k.validFrom

/-- `get_active_key` (signing_keys.rs:55): the first of them. -/
def getActiveKey (table : KeyTable) (now : ℕ) : Option SigningKey :=
  (table.getAllActiveKeys now).head?

/-- `get_by_key_id` (signing_keys.rs:83). -/
def getByKeyId (table : KeyTable) (keyId : String) : Option SigningKey :=
  table.find? fun key => key.keyId = keyId

/-- `SELECT created_at … ORDER BY created_at DESC LIMIT 1` (admin_handler.rs:266). -/
def lastRotation (table : KeyTable) : Option ℕ := (table.map (·.createdAt)).max?

/-- `SELECT COUNT(*) … WHERE key_id LIKE $1`. -/
def countLike (table : KeyTable) (pattern : String) : ℕ :=
  table.countP fun key => Text.like pattern.toList key.keyId.toList

/-- `INSERT INTO signing_keys …`: `key_id` is the primary key, of type
    `VARCHAR(50)`. -/
def insertKey (table : KeyTable) (key : SigningKey) : Except AcError KeyTable :=
  if 50 < key.keyId.length then
    .error (.database ("Failed to create signing key: error returned from database: " ++
      "value too long for type character varying(50)"))
  else if (table.getByKeyId key.keyId).isSome then
    .error (.database ("Failed to create signing key: error returned from database: " ++
      "duplicate key value violates unique constraint \"signing_keys_pkey\""))
  else .ok (table ++ [key])

/-- `UPDATE signing_keys SET is_active = b WHERE` the key is in `keyIds`. -/
def setActive (table : KeyTable) (keyIds : List String) (b : Bool) : KeyTable :=
  table.map fun key => if key.keyId ∈ keyIds then { key with isActive := b } else key

/-- The keys of `WHERE is_active = true`. -/
def activeIds (table : KeyTable) : List String := (table.filter (·.isActive)).map (·.keyId)

end KeyTable

/-! ## Key management -/

/-- `KEY_VALIDITY_DAYS` (key_management_service.rs:14). -/
def keyValidityDays : ℕ := 365

/-- `{:02}`. -/
def pad2 (n : ℕ) : String := if n < 10 then "0" ++ toString n else toString n

/-- What the operations take from outside: the year of an instant as text. -/
structure Calendar where
  year : ℕ → String

/-- The new key of an operation: `auth-{cluster}-{YYYY}-{NN}`, where `NN` is
    one more than the number of keys with that prefix, as a `u32`. -/
def newKey (C : Calendar) (table : KeyTable) (now : ℕ) (clusterName : String)
    (keyPair : List UInt8) : SigningKey :=
  let keyPrefix := "auth-" ++ clusterName ++ "-" ++ C.year now ++ "-"
  let sequence := (table.countLike (keyPrefix ++ "%") + 1) % 2 ^ 32
  { keyId := keyPrefix ++ pad2 sequence
    publicKey := publicKeyPem keyPair
    privateKey := keyPair
    isActive := true
    validFrom := now
    validUntil := now + days keyValidityDays
    createdAt := now }

/-- `initialize_signing_key` (key_management_service.rs:34). -/
def initializeSigningKey (C : Calendar) (table : KeyTable) (now : ℕ) (clusterName : String)
    (keyPair : List UInt8) : Except AcError KeyTable :=
  match table.getActiveKey now with
  | some _ => .ok table
  | none => table.insertKey (newKey C table now clusterName keyPair)

/-- `rotate_signing_key_tx` (key_management_service.rs:180): insert the new
    key, deactivate all active keys, activate the new one. -/
def rotateSigningKeyTx (C : Calendar) (table : KeyTable) (now : ℕ) (clusterName : String)
    (keyPair : List UInt8) : Except AcError (KeyTable × String) :=
  let key := newKey C table now clusterName keyPair
  match table.insertKey key with
  | .error e => .error e
  | .ok inserted =>
    let deactivated := inserted.setActive inserted.activeIds false
    .ok (deactivated.setActive [key.keyId] true, key.keyId)

/-- The entry of `get_jwks` for a key; a key whose PEM text cannot be decoded
    is skipped. -/
def jsonWebKey (key : SigningKey) : Option Jwk :=
  (decodePublicKeyPem key.publicKey).map fun bytes =>
    { kty := "OKP"
      kid := key.keyId
      crv := some "Ed25519"
      x := some (Base64.urlSafeNoPad.encode bytes)
      alg := some "EdDSA"
      keyUse := some "sig" }

/-- `get_jwks` (key_management_service.rs:277). -/
def getJwks (table : KeyTable) (now : ℕ) : List Jwk :=
  (table.getAllActiveKeys now).filterMap jsonWebKey

/-! ## What the statements do -/

section Statements

variable {C : Calendar} {table : KeyTable} {now : ℕ} {clusterName : String} {keyPair : List UInt8}

/-- The row with `is_active = false`. -/
def SigningKey.deactivated (key : SigningKey) : SigningKey := { key with isActive := false }

theorem mem_getAllActiveKeys {key : SigningKey} :
    key ∈ table.getAllActiveKeys now ↔ key ∈ table ∧ key.activeAt now = true := by
  rw [KeyTable.getAllActiveKeys, List.mem_insertionSort, List.mem_filter]

theorem getByKeyId_isSome_iff {keyId : String} :
    (table.getByKeyId keyId).isSome = true ↔ ∃ key ∈ table, key.keyId = keyId := by
  simp [KeyTable.getByKeyId, List.find?_isSome]

/-- The id of the key fits the column and is new. -/
def KeyTable.Admits (table : KeyTable) (key : SigningKey) : Prop :=
  key.keyId.length ≤ 50 ∧ ∀ k ∈ table, k.keyId ≠ key.keyId

theorem insertKey_eq_ok_iff {key : SigningKey} {table' : KeyTable} :
    table.insertKey key = .ok table' ↔ table.Admits key ∧ table' = table ++ [key] := by
  unfold KeyTable.insertKey KeyTable.Admits
  split_ifs with hlong hdup
  · refine iff_of_false (fun h => by cases h) fun h => ?_
    have := h.1.1
    omega
  · obtain ⟨k, hk, heq⟩ := getByKeyId_isSome_iff.mp hdup
    exact iff_of_false (fun h => by cases h) fun h => h.1.2 k hk heq
  · rw [getByKeyId_isSome_iff] at hdup
    rw [Except.ok.injEq, eq_comm]
    refine (and_iff_right ⟨by omega, fun k hk heq => hdup ⟨k, hk, heq⟩⟩).symm

theorem insertKey_eq_ok {key : SigningKey} {table' : KeyTable}
    (h : table.insertKey key = .ok table') :
    table' = table ++ [key] ∧ ∀ k ∈ table, k.keyId ≠ key.keyId := by
  obtain ⟨hadmits, htable⟩ := insertKey_eq_ok_iff.mp h
  exact ⟨htable, hadmits.2⟩

/-- Deactivating the active keys leaves none. -/
theorem setActive_activeIds : table.setActive table.activeIds false =
    table.map SigningKey.deactivated := by
  refine List.map_congr_left fun key hkey => ?_
  split_ifs with hmem
  · rfl
  · have hoff : key.isActive = false := by
      by_contra hon
      exact hmem (List.mem_map.mpr ⟨key, List.mem_filter.mpr ⟨hkey, by simpa using hon⟩, rfl⟩)
    rw [SigningKey.deactivated, ← hoff]

/-- A rotation deactivates every key and adds an active one under a new id. -/
theorem rotateSigningKeyTx_eq {table' : KeyTable} {keyId : String}
    (h : rotateSigningKeyTx C table now clusterName keyPair = .ok (table', keyId)) :
    table' = table.map SigningKey.deactivated ++ [newKey C table now clusterName keyPair] ∧
      keyId = (newKey C table now clusterName keyPair).keyId ∧
      ∀ k ∈ table, k.keyId ≠ keyId := by
  unfold rotateSigningKeyTx at h
  cases hins : table.insertKey (newKey C table now clusterName keyPair) with
  | error e => simp [hins] at h
  | ok inserted =>
    simp only [hins, Except.ok.injEq, Prod.mk.injEq] at h
    obtain ⟨hinserted, hnew⟩ := insertKey_eq_ok hins
    obtain ⟨htable, rfl⟩ := h
    refine ⟨?_, rfl, hnew⟩
    rw [← htable, setActive_activeIds, hinserted, List.map_append, KeyTable.setActive,
      List.map_append, List.map_map]
    refine congrArg₂ (· ++ ·) ?_ ?_
    · refine List.map_congr_left fun k hk => ?_
      simp [SigningKey.deactivated, hnew k hk]
    · simp [SigningKey.deactivated, newKey]

/-- A rotation fails only when the new id is too long or taken. -/
theorem rotateSigningKeyTx_ok_of_admits
    (h : table.Admits (newKey C table now clusterName keyPair)) :
    ∃ table' keyId, rotateSigningKeyTx C table now clusterName keyPair = .ok (table', keyId) := by
  unfold rotateSigningKeyTx
  simp only [insertKey_eq_ok_iff.mpr ⟨h, rfl⟩]
  exact ⟨_, _, rfl⟩

theorem admits_of_rotateSigningKeyTx {result : KeyTable × String}
    (h : rotateSigningKeyTx C table now clusterName keyPair = .ok result) :
    table.Admits (newKey C table now clusterName keyPair) := by
  unfold rotateSigningKeyTx at h
  cases hins : table.insertKey (newKey C table now clusterName keyPair) with
  | error e => simp [hins] at h
  | ok inserted => exact (insertKey_eq_ok_iff.mp hins).1

end Statements

/-! ## Reachable tables -/

/-- What initialisation and rotations keep, up to the instant `t`. -/
structure TableInv (table : KeyTable) (t : ℕ) : Prop where
  nodup_ids : (table.map (·.keyId)).Nodup
  pem : ∀ key ∈ table, key.publicKey = publicKeyPem key.privateKey
  named : ∀ key ∈ table, key.keyId ≠ ""
  dated : ∀ key ∈ table, key.validFrom = key.createdAt ∧
    key.validUntil = key.createdAt + days keyValidityDays ∧ key.createdAt ≤ t
  single : ∀ key ∈ table, ∀ key' ∈ table, key.isActive = true → key'.isActive = true →
    t < key.validUntil → t < key'.validUntil → key = key'

/-- What they keep when every key pair is fresh. -/
structure KeyInv (table : KeyTable) (t : ℕ) : Prop extends TableInv table t where
  nodup_keys : (table.map (·.privateKey)).Nodup

/-- The tables that initialisation and rotations with fresh key pairs reach, and
    the instant of the last change. -/
inductive ReachableKeys (C : Calendar) : KeyTable → ℕ → Prop
  | empty (t : ℕ) : ReachableKeys C [] t
  | initKey {table table' : KeyTable} {t : ℕ} (now : ℕ) (clusterName : String)
      (keyPair : List UInt8) (hr : ReachableKeys C table t) (hnow : t ≤ now)
      (hfresh : ∀ key ∈ table, key.privateKey ≠ keyPair)
      (h : initializeSigningKey C table now clusterName keyPair = .ok table') :
      ReachableKeys C table' now
  | rotate {table table' : KeyTable} {t : ℕ} (now : ℕ) (clusterName : String)
      (keyPair : List UInt8) (keyId : String) (hr : ReachableKeys C table t) (hnow : t ≤ now)
      (hfresh : ∀ key ∈ table, key.privateKey ≠ keyPair)
      (h : rotateSigningKeyTx C table now clusterName keyPair = .ok (table', keyId)) :
      ReachableKeys C table' now

section KeyInv

variable {C : Calendar} {table : KeyTable} {t now : ℕ} {clusterName : String}
  {keyPair : List UInt8}

theorem TableInv.mono (hinv : TableInv table t) (h : t ≤ now) : TableInv table now := by
  refine ⟨hinv.nodup_ids, hinv.pem, hinv.named, fun key hkey => ?_,
    fun key hkey key' hkey' hon hon' hlive hlive' => ?_⟩
  · obtain ⟨hfrom, huntil, hcreated⟩ := hinv.dated key hkey
    exact ⟨hfrom, huntil, hcreated.trans h⟩
  · exact hinv.single key hkey key' hkey' hon hon' (h.trans_lt hlive) (h.trans_lt hlive')

theorem KeyInv.mono (hinv : KeyInv table t) (h : t ≤ now) : KeyInv table now :=
  ⟨hinv.toTableInv.mono h, hinv.nodup_keys⟩

theorem newKey_keyId_ne : (newKey C table now clusterName keyPair).keyId ≠ "" := by
  intro h
  have hlen := congrArg String.length h
  simp [newKey] at hlen

theorem newKey_activeAt : (newKey C table now clusterName keyPair).activeAt now = true := by
  have : 0 < days keyValidityDays := by decide
  simp [SigningKey.activeAt, SigningKey.inWindow, newKey, this]

/-- A key added to expired keys is the only active one. -/
theorem TableInv.append_newKey (hinv : TableInv table t) (hnow : t ≤ now)
    (hids : ∀ key ∈ table, key.keyId ≠ (newKey C table now clusterName keyPair).keyId)
    (hoff : ∀ key ∈ table, key.isActive = true → key.validUntil ≤ now) :
    TableInv (table ++ [newKey C table now clusterName keyPair]) now := by
  refine ⟨?_, fun key hkey => ?_, fun key hkey => ?_, fun key hkey => ?_,
    fun key hkey key' hkey' hon hon' hlive hlive' => ?_⟩
  · rw [List.map_append, List.nodup_append']
    refine ⟨hinv.nodup_ids, List.nodup_singleton _, fun x hx hx' => ?_⟩
    obtain ⟨key, hkey, rfl⟩ := List.mem_map.mp hx
    exact hids key hkey (by simpa using hx')
  · rcases List.mem_append.mp hkey with hkey | hkey
    · exact hinv.pem key hkey
    · rw [List.mem_singleton.mp hkey]
      rfl
  · rcases List.mem_append.mp hkey with hkey | hkey
    · exact hinv.named key hkey
    · rw [List.mem_singleton.mp hkey]
      exact newKey_keyId_ne
  · rcases List.mem_append.mp hkey with hkey | hkey
    · obtain ⟨hfrom, huntil, hcreated⟩ := hinv.dated key hkey
      exact ⟨hfrom, huntil, hcreated.trans hnow⟩
    · rw [List.mem_singleton.mp hkey]
      exact ⟨rfl, rfl, le_rfl⟩
  · rcases List.mem_append.mp hkey with hkey | hkey
    · have := hoff key hkey hon
      omega
    rcases List.mem_append.mp hkey' with hkey' | hkey'
    · have := hoff key' hkey' hon'
      omega
    rw [List.mem_singleton.mp hkey, List.mem_singleton.mp hkey']

theorem TableInv.deactivated (hinv : TableInv table t) :
    TableInv (table.map SigningKey.deactivated) t := by
  refine ⟨?_, fun key hkey => ?_, fun key hkey => ?_, fun key hkey => ?_,
    fun key hkey _ _ hon => ?_⟩
  · rw [List.map_map]
    exact hinv.nodup_ids
  all_goals obtain ⟨k, hk, rfl⟩ := List.mem_map.mp hkey
  · exact hinv.pem k hk
  · exact hinv.named k hk
  · exact hinv.dated k hk
  · cases hon

/-- The new key depends on the ids of the table only. -/
theorem newKey_deactivated :
    newKey C (table.map SigningKey.deactivated) now clusterName keyPair =
      newKey C table now clusterName keyPair := by
  have hcount : ∀ pattern, KeyTable.countLike (table.map SigningKey.deactivated) pattern =
      table.countLike pattern := by
    intro pattern
    rw [KeyTable.countLike, KeyTable.countLike, List.countP_map]
    rfl
  rw [newKey, newKey, hcount]

/-- A rotation keeps the invariant, whatever the key pair. -/
theorem TableInv.rotate (hinv : TableInv table t) (hnow : t ≤ now)
    (hids : ∀ key ∈ table, key.keyId ≠ (newKey C table now clusterName keyPair).keyId) :
    TableInv (table.map SigningKey.deactivated ++ [newKey C table now clusterName keyPair])
      now := by
  rw [← newKey_deactivated]
  refine hinv.deactivated.append_newKey hnow (fun key hkey => ?_) fun key hkey hon => ?_
  · obtain ⟨k, hk, rfl⟩ := List.mem_map.mp hkey
    rw [newKey_deactivated]
    exact hids k hk
  · obtain ⟨k, -, rfl⟩ := List.mem_map.mp hkey
    cases hon

theorem TableInv.activeAt_iff (hinv : TableInv table t) (hnow : t ≤ now) {key : SigningKey}
    (hkey : key ∈ table) :
    key.activeAt now = true ↔ key.isActive = true ∧ now < key.validUntil := by
  obtain ⟨hfrom, _, hcreated⟩ := hinv.dated key hkey
  have hle : key.validFrom ≤ now := by omega
  simp [SigningKey.activeAt, SigningKey.inWindow, hle]

/-- When no key is active, the keys marked active have expired. -/
theorem TableInv.expired_of_getActiveKey (hinv : TableInv table t) (hnow : t ≤ now)
    (h : table.getActiveKey now = none) :
    ∀ key ∈ table, key.isActive = true → key.validUntil ≤ now := by
  intro key hkey hon
  by_contra hlive
  have hmem := mem_getAllActiveKeys.mpr
    ⟨hkey, (hinv.activeAt_iff hnow hkey).mpr ⟨hon, by omega⟩⟩
  rw [List.head?_eq_none_iff.mp h] at hmem
  exact List.not_mem_nil hmem

theorem nodup_append_keyPair (hnodup : (table.map (·.privateKey)).Nodup)
    (hfresh : ∀ key ∈ table, key.privateKey ≠ keyPair) :
    ((table ++ [newKey C table now clusterName keyPair]).map (·.privateKey)).Nodup := by
  rw [List.map_append, List.nodup_append']
  refine ⟨hnodup, List.nodup_singleton _, fun x hx hx' => ?_⟩
  obtain ⟨key, hkey, rfl⟩ := List.mem_map.mp hx
  exact hfresh key hkey (by simpa [newKey] using hx')

theorem reachableKeys_inv (hr : ReachableKeys C table t) : KeyInv table t := by
  induction hr with
  | empty t => exact ⟨by constructor <;> simp, List.nodup_nil⟩
  | @initKey table table' t now clusterName keyPair hr hnow hfresh h hinv =>
    unfold initializeSigningKey at h
    cases hactive : table.getActiveKey now with
    | some key =>
      rw [hactive] at h
      exact Except.ok.inj h ▸ hinv.mono hnow
    | none =>
      rw [hactive] at h
      obtain ⟨rfl, hids⟩ := insertKey_eq_ok h
      exact ⟨hinv.append_newKey hnow hids (hinv.expired_of_getActiveKey hnow hactive),
        nodup_append_keyPair hinv.nodup_keys hfresh⟩
  | @rotate table table' t now clusterName keyPair keyId hr hnow hfresh h hinv =>
    obtain ⟨rfl, rfl, hids⟩ := rotateSigningKeyTx_eq h
    refine ⟨hinv.rotate hnow hids, ?_⟩
    rw [← newKey_deactivated]
    refine nodup_append_keyPair ?_ fun key hkey => ?_
    · rw [List.map_map]
      exact hinv.nodup_keys
    · obtain ⟨k, hk, rfl⟩ := List.mem_map.mp hkey
      exact hfresh k hk

theorem TableInv.eq_of_keyId (hinv : TableInv table t) {key key' : SigningKey} (hkey : key ∈ table)
    (hkey' : key' ∈ table) (h : key.keyId = key'.keyId) : key = key' :=
  List.inj_on_of_nodup_map hinv.nodup_ids hkey hkey' h

theorem KeyInv.eq_of_privateKey (hinv : KeyInv table t) {key key' : SigningKey}
    (hkey : key ∈ table) (hkey' : key' ∈ table) (h : key.privateKey = key'.privateKey) :
    key = key' :=
  List.inj_on_of_nodup_map hinv.nodup_keys hkey hkey' h

/-- The active key is the only key that is active and in its window. -/
theorem TableInv.getActiveKey_eq_some (hinv : TableInv table t) (hnow : t ≤ now) {key : SigningKey} :
    table.getActiveKey now = some key ↔ key ∈ table ∧ key.activeAt now = true := by
  constructor
  · intro h
    exact mem_getAllActiveKeys.mp (List.mem_of_head? h)
  · rintro ⟨hkey, hactive⟩
    obtain ⟨head, hhead⟩ : ∃ head, table.getActiveKey now = some head := by
      rw [← Option.isSome_iff_exists, KeyTable.getActiveKey, List.isSome_head?]
      have hne := List.ne_nil_of_mem (mem_getAllActiveKeys.mpr ⟨hkey, hactive⟩)
      simpa using hne
    obtain ⟨hmem, hactive'⟩ := mem_getAllActiveKeys.mp (List.mem_of_head? hhead)
    obtain ⟨hon, hlive⟩ := (hinv.activeAt_iff hnow hkey).mp hactive
    obtain ⟨hon', hlive'⟩ := (hinv.activeAt_iff hnow hmem).mp hactive'
    rw [hhead, hinv.single head hmem key hkey hon' hon (hnow.trans_lt hlive')
      (hnow.trans_lt hlive)]

theorem TableInv.getByKeyId_eq_some (hinv : TableInv table t) {keyId : String} {key : SigningKey} :
    table.getByKeyId keyId = some key ↔ key ∈ table ∧ key.keyId = keyId := by
  constructor
  · intro h
    exact ⟨List.mem_of_find?_eq_some h, by simpa using List.find?_some h⟩
  · rintro ⟨hkey, rfl⟩
    obtain ⟨found, hfound⟩ := Option.isSome_iff_exists.mp
      (getByKeyId_isSome_iff.mpr ⟨key, hkey, rfl⟩)
    have hid : found.keyId = key.keyId := by simpa using List.find?_some hfound
    rw [hfound, hinv.eq_of_keyId (List.mem_of_find?_eq_some hfound) hkey hid]

/-- The published form of a key. -/
def SigningKey.webKey (key : SigningKey) : Jwk where
  kty := "OKP"
  kid := key.keyId
  crv := some "Ed25519"
  x := some (Base64.urlSafeNoPad.encode key.privateKey)
  alg := some "EdDSA"
  keyUse := some "sig"

theorem SigningKey.webKey_encodes (key : SigningKey) : key.webKey.Encodes key.privateKey :=
  ⟨rfl, .inr rfl, _, rfl, Base64.Engine.decode_encode _⟩

/-- The JWKS publishes the active keys. -/
theorem TableInv.mem_getJwks (hinv : TableInv table t) {jwk : Jwk} :
    jwk ∈ getJwks table now ↔ ∃ key ∈ table, key.activeAt now = true ∧ key.webKey = jwk := by
  have hweb : ∀ key ∈ table, jsonWebKey key = some key.webKey := by
    intro key hkey
    rw [jsonWebKey, hinv.pem key hkey, decodePublicKeyPem_publicKeyPem]
    rfl
  rw [getJwks, List.mem_filterMap]
  constructor
  · rintro ⟨key, hmem, heq⟩
    obtain ⟨hkey, hactive⟩ := mem_getAllActiveKeys.mp hmem
    rw [hweb key hkey, Option.some.injEq] at heq
    exact ⟨key, hkey, hactive, heq⟩
  · rintro ⟨key, hkey, hactive, rfl⟩
    exact ⟨key, mem_getAllActiveKeys.mpr ⟨hkey, hactive⟩, hweb key hkey⟩

end KeyInv

/-! ## A concrete table -/

/-- The calendar of the concrete runs. -/
def Calendar.sample : Calendar := ⟨fun _ => "2025"⟩

/-- A key of the concrete runs, created at `now`. -/
def sampleKey (keyId : String) (keyPair : List UInt8) (isActive : Bool) (now : ℕ) : SigningKey where
  keyId := keyId
  publicKey := publicKeyPem keyPair
  privateKey := keyPair
  isActive := isActive
  validFrom := now
  validUntil := now + days keyValidityDays
  createdAt := now

/-- The table after initialisation at 0 h and one rotation at 2 h. -/
def rotatedTable : KeyTable :=
  [sampleKey "auth-default-2025-01" [1] false 0,
    sampleKey "auth-default-2025-02" [2] true (hours 2)]

theorem rotatedTable_reachable : ReachableKeys Calendar.sample rotatedTable (hours 2) :=
  have hinit : initializeSigningKey Calendar.sample [] 0 "default" [1] =
      .ok [sampleKey "auth-default-2025-01" [1] true 0] := rfl
  .rotate (hours 2) "default" [2] "auth-default-2025-02"
    (.initKey 0 "default" [1] (.empty 0) le_rfl (by simp) hinit) (Nat.zero_le _) (by decide) rfl

end DarkTower.Ac
