import DarkTower.Ac.Auth
import DarkTower.Lib.Machine

/-!
# Concurrent key rotations

`handle_rotate_keys` (`ac-service/src/handlers/admin_handler.rs:119`) as the
statements of its transaction, for any number of requests at once. Every
statement is a step; the requests interleave freely but for the advisory lock,
which a transaction takes before it reads. A statement sees the committed table
and the transaction's own writes (READ COMMITTED). Any statement can fail, which
rolls the transaction back. Each request has one instant.

`step_cases` lists the ways a step can go. The lock keeps the committed table
still from the first read of a transaction to its commit (`RotationInv`), so a
commit does to it what `rotateSigningKeyTx` does in one piece (`view_activated`).
`rotationSafety_of_run` collects what follows for every run.
-/

namespace DarkTower.Ac

open DarkTower.Common DarkTower.Lib

/-! ## Requests -/

/-- A write of a transaction that is not committed yet. -/
inductive Write
  | insert (key : SigningKey)
  | setActive (keyIds : List String) (isActive : Bool)
deriving DecidableEq

/-- What a write does to the table. -/
def Write.apply (table : KeyTable) : Write → KeyTable
  | .insert key => table ++ [key]
  | .setActive keyIds isActive => table.setActive keyIds isActive

/-- How far a request has come: the last statement that succeeded, with what it
    returned that is still needed. -/
inductive Stage
  | authorized
  | begun
  /-- `pg_advisory_xact_lock` returned. -/
  | locked
  /-- The rate limit is met. -/
  | checked
  | fetched (oldKey : SigningKey)
  /-- The new key is made from the count of keys. -/
  | counted (oldKey newKey : SigningKey)
  | inserted (oldKey newKey : SigningKey)
  | deactivated (oldKey newKey : SigningKey)
  | activated (oldKey newKey : SigningKey)
  | committed (oldKeyId newKeyId : String)
  | done
deriving DecidableEq

/-- The transaction holds the advisory lock. -/
def Stage.holds : Stage → Bool
  | .authorized | .begun | .committed _ _ | .done => false
  | _ => true

/-- The error text when the next statement fails. -/
def Stage.failure : Stage → String
  | .authorized => "Failed to begin transaction: "
  | .begun => "Failed to acquire rotation lock: "
  | .locked => "Failed to query last rotation: "
  | .checked => "Failed to fetch active key: "
  | .fetched _ => "Failed to count keys: "
  | .counted _ _ => "Failed to create signing key: "
  | .inserted _ _ => "Failed to deactivate old keys: "
  | .deactivated _ _ => "Failed to activate new key: "
  | .activated _ _ => "Failed to commit rotation transaction: "
  | .committed _ _ => "Failed to fetch key by id: "
  | .done => ""

/-- A request for a rotation, with the writes that its transaction has made. -/
structure Request where
  now : ℕ
  /-- The caller has the scope `admin.force-rotate-keys.ac`. -/
  forced : Bool
  clusterName : String
  stage : Stage
  writes : List Write
deriving DecidableEq

/-- What a statement of the transaction sees. -/
def Request.view (r : Request) (table : KeyTable) : KeyTable := r.writes.foldl Write.apply table

theorem Request.view_of_no_writes {r : Request} (h : r.writes = []) (table : KeyTable) :
    r.view table = table := by
  rw [Request.view, h]
  rfl

/-- `RotateKeysResponse` (admin_handler.rs:96). -/
structure RotateKeysResponse where
  rotated : Bool
  newKeyId : String
  oldKeyId : String
  oldKeyValidUntil : ℕ
deriving DecidableEq

/-- The least time since the last creation of a key (admin_handler.rs:283–287). -/
def minDuration (forced : Bool) : ℕ :=
  if forced then days 0 + hours 1 else days 6 + hours 0

/-- The rate limit (admin_handler.rs:290–331). -/
def checkRateLimit (lastRotation : Option ℕ) (now : ℕ) (forced : Bool) : Except AcError Unit :=
  match lastRotation with
  | none => .ok ()
  | some last =>
    let elapsed : ℤ := now - last
    if elapsed < minDuration forced then
      .error (.tooManyRequests ((minDuration forced - elapsed) / 1000000000)
        "Key rotation temporarily unavailable")
    else .ok ()

/-- What the next statement of a request does. -/
inductive Outcome
  | run (r : Request)
  /-- The statement waits for the advisory lock. -/
  | acquire (r : Request)
  /-- The request fails with an error; its transaction is rolled back. -/
  | abort (e : AcError)
  | commit (r : Request)
  | reply (response : RotateKeysResponse)

/-- The statements of `handle_rotate_keys` in their order, on the committed
    table. The key pair is the one `generate_signing_key` draws. -/
def Request.next (C : Calendar) (table : KeyTable) (keyPair : List UInt8) (r : Request) :
    Outcome :=
  match r.stage with
  | .authorized => .run { r with stage := .begun }
  | .begun => .acquire { r with stage := .locked }
  | .locked =>
    match checkRateLimit (r.view table).lastRotation r.now r.forced with
    | .error e => .abort e
    | .ok () => .run { r with stage := .checked }
  | .checked =>
    match (r.view table).getActiveKey r.now with
    | none => .abort (.crypto "No active signing key available")
    | some oldKey => .run { r with stage := .fetched oldKey }
  | .fetched oldKey =>
    .run { r with
      stage := .counted oldKey (newKey C (r.view table) r.now r.clusterName keyPair) }
  | .counted oldKey key =>
    match (r.view table).insertKey key with
    | .error e => .abort e
    | .ok _ => .run { r with stage := .inserted oldKey key, writes := r.writes ++ [.insert key] }
  | .inserted oldKey key =>
    .run { r with
      stage := .deactivated oldKey key
      writes := r.writes ++ [.setActive (r.view table).activeIds false] }
  | .deactivated oldKey key =>
    .run { r with
      stage := .activated oldKey key
      writes := r.writes ++ [.setActive [key.keyId] true] }
  | .activated oldKey key =>
    .commit { r with stage := .committed oldKey.keyId key.keyId, writes := [] }
  | .committed oldKeyId newKeyId =>
    match table.getByKeyId oldKeyId with
    | none => .abort (.crypto "Failed to retrieve old key after rotation")
    | some oldKey => .reply ⟨true, newKeyId, oldKeyId, oldKey.validUntil⟩
  | .done => .run r

/-! ## The system -/

/-- The keys and the requests under way. -/
structure RotationState where
  /-- The committed rows. -/
  table : KeyTable
  /-- The holder of the advisory lock. -/
  lock : Option ℕ
  requests : ℕ → Option Request

/-- What a request answers: nothing yet, or its result. -/
abbrev RotationReply := Option (Except AcError RotateKeysResponse)

/-- A request arrives, or one of those under way takes its next step. -/
inductive RotationEvent
  | request (id now : ℕ) (clusterName : String) (header : Authorization ServiceClaims)
  | next (id : ℕ) (keyPair : List UInt8)
  /-- The next statement of a request fails. -/
  | fail (id : ℕ) (message : String)
  /-- The key of a request cannot be made or encrypted. -/
  | keyFailure (id : ℕ) (message : String)

/-- The request that an event is about. -/
def RotationEvent.id : RotationEvent → ℕ
  | .request id _ _ _ | .next id _ | .fail id _ | .keyFailure id _ => id

namespace RotationState

variable (s : RotationState)

/-- A request goes on as `r`. -/
def setRequest (id : ℕ) (r : Request) : RotationState :=
  { s with requests := Function.update s.requests id (some r) }

/-- The request ends with an error: its writes are dropped and its lock is
    released. -/
def rollback (id : ℕ) (r : Request) (e : AcError) : RotationState × RotationReply :=
  ({ s.setRequest id { r with stage := .done, writes := [] } with
      lock := if s.lock = some id then none else s.lock }, some (.error e))

/-- What the outcome of a statement does to the table and the lock. -/
def apply (id : ℕ) (r : Request) : Outcome → RotationState × RotationReply
  | .run r' => (s.setRequest id r', none)
  | .acquire r' =>
    match s.lock with
    | none => ({ s.setRequest id r' with lock := some id }, none)
    | some _ => (s, none)
  | .abort e => s.rollback id r e
  | .commit r' => ({ s.setRequest id r' with table := r.view s.table, lock := none }, none)
  | .reply response =>
    (s.setRequest id { r with stage := .done }, some (.ok response))

/-- A request takes a step. A failure rolls its transaction back. -/
def step (C : Calendar) (clockSkew : ℕ) : RotationEvent → RotationState × RotationReply
  | .request id now clusterName header =>
    match authorizeRotation s.table clockSkew now header with
    | .error e => (s.setRequest id ⟨now, false, clusterName, .done, []⟩, some (.error e))
    | .ok forced => (s.setRequest id ⟨now, forced, clusterName, .authorized, []⟩, none)
  | .next id keyPair =>
    match s.requests id with
    | none => (s, none)
    | some r => s.apply id r (r.next C s.table keyPair)
  | .fail id message =>
    match s.requests id with
    | none => (s, none)
    | some r =>
      if r.stage = .done then (s, none)
      else s.rollback id r (.database (r.stage.failure ++ message))
  | .keyFailure id message =>
    match s.requests id with
    | none => (s, none)
    | some r =>
      match r.stage with
      | .fetched _ => s.rollback id r (.crypto message)
      | _ => (s, none)

end RotationState

/-- A request has an id of its own and comes at `t₀` or later. -/
def RotationState.Allowed (t₀ : ℕ) (s : RotationState) : RotationEvent → Prop
  | .request id now _ _ => s.requests id = none ∧ t₀ ≤ now
  | _ => True

instance decidableRotationAllowed (t₀ : ℕ) (s : RotationState) (e : RotationEvent) :
    Decidable (s.Allowed t₀ e) :=
  match e with
  | .request id now _ _ => inferInstanceAs (Decidable (s.requests id = none ∧ t₀ ≤ now))
  | .next _ _ => inferInstanceAs (Decidable True)
  | .fail _ _ => inferInstanceAs (Decidable True)
  | .keyFailure _ _ => inferInstanceAs (Decidable True)

/-- The requests from the instant `t₀` on, over a table. -/
def rotationSystem (C : Calendar) (clockSkew t₀ : ℕ) (table : KeyTable) :
    Machine RotationState RotationEvent RotationReply where
  init := ⟨table, none, fun _ => none⟩
  step s e := s.step C clockSkew e
  allowed _ s e := s.Allowed t₀ e

instance (C : Calendar) (clockSkew t₀ : ℕ) (table : KeyTable) (h s) (e : RotationEvent) :
    Decidable ((rotationSystem C clockSkew t₀ table).allowed h s e) :=
  decidableRotationAllowed t₀ s e

/-! ## What a step does -/

/-- The ways a step can go. -/
inductive RotationStep (C : Calendar) (s : RotationState) :
    RotationEvent → RotationState × RotationReply → Prop
  /-- There is nothing to do, or the request waits for the lock. -/
  | idle {e : RotationEvent} : RotationStep C s e (s, none)
  | refuse {id now : ℕ} {clusterName : String} {header : Authorization ServiceClaims}
      (err : AcError) :
      RotationStep C s (.request id now clusterName header)
        (s.setRequest id ⟨now, false, clusterName, .done, []⟩, some (.error err))
  | accept {id now : ℕ} {clusterName : String} {header : Authorization ServiceClaims}
      (forced : Bool) :
      RotationStep C s (.request id now clusterName header)
        (s.setRequest id ⟨now, forced, clusterName, .authorized, []⟩, none)
  | rollback {e : RotationEvent} {r : Request} (err : AcError) (h : s.requests e.id = some r) :
      RotationStep C s e (s.rollback e.id r err)
  | run {id : ℕ} {keyPair : List UInt8} {r r' : Request} (h : s.requests id = some r)
      (hnext : r.next C s.table keyPair = .run r') :
      RotationStep C s (.next id keyPair) (s.setRequest id r', none)
  | acquire {id : ℕ} {keyPair : List UInt8} {r r' : Request} (h : s.requests id = some r)
      (hnext : r.next C s.table keyPair = .acquire r') (hlock : s.lock = none) :
      RotationStep C s (.next id keyPair) ({ s.setRequest id r' with lock := some id }, none)
  | commit {id : ℕ} {keyPair : List UInt8} {r r' : Request} (h : s.requests id = some r)
      (hnext : r.next C s.table keyPair = .commit r') :
      RotationStep C s (.next id keyPair)
        ({ s.setRequest id r' with table := r.view s.table, lock := none }, none)
  | reply {id : ℕ} {keyPair : List UInt8} {r : Request} {response : RotateKeysResponse}
      (h : s.requests id = some r) (hnext : r.next C s.table keyPair = .reply response) :
      RotationStep C s (.next id keyPair)
        (s.setRequest id { r with stage := .done }, some (.ok response))

theorem step_cases (C : Calendar) (clockSkew : ℕ) (s : RotationState) (e : RotationEvent) :
    RotationStep C s e (s.step C clockSkew e) := by
  cases e with
  | request id now clusterName header =>
    simp only [RotationState.step]
    cases authorizeRotation s.table clockSkew now header with
    | error err => exact .refuse err
    | ok forced => exact .accept forced
  | next id keyPair =>
    simp only [RotationState.step]
    cases h : s.requests id with
    | none => exact .idle
    | some r =>
      dsimp only
      cases hnext : r.next C s.table keyPair with
      | run r' => exact .run h hnext
      | abort err => exact .rollback err h
      | commit r' => exact .commit h hnext
      | reply response => exact .reply h hnext
      | acquire r' =>
        simp only [RotationState.apply]
        cases hlock : s.lock with
        | none => exact .acquire h hnext hlock
        | some _ => exact .idle
  | fail id message =>
    simp only [RotationState.step]
    cases h : s.requests id with
    | none => exact .idle
    | some r =>
      dsimp only
      split_ifs
      · exact .idle
      · exact .rollback _ h
  | keyFailure id message =>
    simp only [RotationState.step]
    cases h : s.requests id with
    | none => exact .idle
    | some r =>
      dsimp only
      split
      · exact .rollback _ h
      · exact .idle

/-! ## The invariant -/

/-- Every key is old enough for the rate limit of the request. -/
def Request.Spaced (r : Request) (table : KeyTable) : Prop :=
  ∀ key ∈ table, key.createdAt + minDuration r.forced ≤ r.now

/-- The key is made for the request from the table. -/
def Request.Makes (C : Calendar) (r : Request) (table : KeyTable) (key : SigningKey) : Prop :=
  ∃ keyPair, key = newKey C table r.now r.clusterName keyPair

/-- What a transaction knows of the committed table, and its writes so far. -/
def Request.StageInv (C : Calendar) (table : KeyTable) (r : Request) : Prop :=
  match r.stage with
  | .checked => r.Spaced table ∧ r.writes = []
  | .fetched _ => r.Spaced table ∧ r.writes = []
  | .counted _ key => r.Spaced table ∧ r.Makes C table key ∧ r.writes = []
  | .inserted _ key => r.Spaced table ∧ r.Makes C table key ∧ table.Admits key ∧
      r.writes = [.insert key]
  | .deactivated _ key => r.Spaced table ∧ r.Makes C table key ∧ table.Admits key ∧
      r.writes = [.insert key, .setActive (KeyTable.activeIds (table ++ [key])) false]
  | .activated _ key => r.Spaced table ∧ r.Makes C table key ∧ table.Admits key ∧
      r.writes = [.insert key, .setActive (KeyTable.activeIds (table ++ [key])) false,
        .setActive [key.keyId] true]
  | _ => r.writes = []

/-- What every step keeps: the table was last changed at some `t`, when it had an
    active key; who is past the lock holds it; and every transaction knows the
    committed table. -/
structure RotationInv (C : Calendar) (t₀ : ℕ) (s : RotationState) : Prop where
  table : ∃ t, t₀ ≤ t ∧ (t = t₀ ∨ ∃ key ∈ s.table, key.createdAt = t) ∧ TableInv s.table t ∧
    ∃ key ∈ s.table, key.activeAt t = true
  holder : ∀ id r, s.requests id = some r → r.stage.holds = true → s.lock = some id
  begun : ∀ id r, s.requests id = some r → t₀ ≤ r.now
  stage : ∀ id r, s.requests id = some r → r.StageInv C s.table

section Invariant

variable {C : Calendar} {t₀ clockSkew : ℕ} {s : RotationState} {table : KeyTable} {r : Request}

theorem lastRotation_ge {last : ℕ} (h : table.lastRotation = some last) :
    ∀ key ∈ table, key.createdAt ≤ last := by
  intro key hkey
  exact (List.max?_eq_some_iff.mp h).2 _ (List.mem_map_of_mem hkey)

theorem spaced_of_checkRateLimit (h : checkRateLimit table.lastRotation r.now r.forced = .ok ()) :
    r.Spaced table := by
  intro key hkey
  cases hlast : table.lastRotation with
  | none =>
    rw [KeyTable.lastRotation, List.max?_eq_none_iff, List.map_eq_nil_iff] at hlast
    rw [hlast] at hkey
    cases hkey
  | some last =>
    have hle := lastRotation_ge hlast key hkey
    rw [hlast] at h
    unfold checkRateLimit at h
    dsimp only at h
    split_ifs at h with hsoon
    omega

/-- A transaction that does not hold the lock knows nothing of the table. -/
theorem stageInv_of_not_holds (h : r.StageInv C table) (hfree : r.stage.holds = false)
    (table' : KeyTable) : r.StageInv C table' := by
  unfold Request.StageInv at h ⊢
  cases hstage : r.stage <;> simp only [hstage, Stage.holds] at h hfree ⊢ <;>
    first | exact h | cases hfree

/-- The writes of a transaction that is about to commit make the rotation. -/
theorem view_activated {oldKey key : SigningKey} (h : r.StageInv C table)
    (hstage : r.stage = .activated oldKey key) :
    ∃ keyPair, key = newKey C table r.now r.clusterName keyPair ∧
      rotateSigningKeyTx C table r.now r.clusterName keyPair =
        .ok (r.view table, key.keyId) := by
  unfold Request.StageInv at h
  rw [hstage] at h
  obtain ⟨-, ⟨keyPair, hkey⟩, hadmits, hwrites⟩ := h
  refine ⟨keyPair, hkey, ?_⟩
  rw [Request.view, hwrites, rotateSigningKeyTx, ← hkey]
  simp only [insertKey_eq_ok_iff.mpr ⟨hadmits, rfl⟩]
  rfl

/-- What the next statement of a transaction does when it knows the table. -/
theorem next_spec (h : r.StageInv C table) (keyPair : List UInt8) :
    match r.next C table keyPair with
    | .run r' => r'.now = r.now ∧ r'.stage.holds = r.stage.holds ∧ r'.StageInv C table
    | .acquire r' => r'.now = r.now ∧ r'.StageInv C table
    | .abort _ => True
    | .commit r' => r'.now = r.now ∧ r'.stage.holds = false ∧ r'.StageInv C table ∧
        ∃ oldKey key, r.stage = .activated oldKey key
    | .reply _ => r.stage.holds = false ∧ r.writes = [] := by
  unfold Request.StageInv at h
  unfold Request.next
  cases hstage : r.stage with
  | authorized =>
    rw [hstage] at h
    exact ⟨rfl, rfl, h⟩
  | begun =>
    rw [hstage] at h
    exact ⟨rfl, h⟩
  | locked =>
    rw [hstage] at h
    simp only [Request.view_of_no_writes (show r.writes = [] from h)]
    cases hlimit : checkRateLimit table.lastRotation r.now r.forced with
    | error e => trivial
    | ok _ => exact ⟨rfl, rfl, spaced_of_checkRateLimit hlimit, h⟩
  | checked =>
    rw [hstage] at h
    dsimp only
    cases (r.view table).getActiveKey r.now with
    | none => trivial
    | some oldKey => exact ⟨rfl, rfl, h⟩
  | fetched oldKey =>
    rw [hstage] at h
    refine ⟨rfl, rfl, h.1, ⟨keyPair, ?_⟩, h.2⟩
    rw [Request.view_of_no_writes h.2]
  | counted oldKey key =>
    rw [hstage] at h
    obtain ⟨hspaced, hmakes, hwrites⟩ := h
    simp only [Request.view_of_no_writes hwrites]
    cases hinsert : table.insertKey key with
    | error e => trivial
    | ok inserted =>
      refine ⟨rfl, rfl, hspaced, hmakes, (insertKey_eq_ok_iff.mp hinsert).1, ?_⟩
      simp [hwrites]
  | inserted oldKey key =>
    rw [hstage] at h
    obtain ⟨hspaced, hmakes, hadmits, hwrites⟩ := h
    refine ⟨rfl, rfl, hspaced, hmakes, hadmits, ?_⟩
    simp [hwrites, Request.view, Write.apply]
  | deactivated oldKey key =>
    rw [hstage] at h
    obtain ⟨hspaced, hmakes, hadmits, hwrites⟩ := h
    refine ⟨rfl, rfl, hspaced, hmakes, hadmits, ?_⟩
    simp [hwrites]
  | activated oldKey key => exact ⟨rfl, rfl, rfl, oldKey, key, rfl⟩
  | committed oldKeyId newKeyId =>
    rw [hstage] at h
    dsimp only
    cases table.getByKeyId oldKeyId with
    | none => trivial
    | some oldKey => exact ⟨rfl, h⟩
  | done =>
    have hinv : r.StageInv C table := by
      unfold Request.StageInv
      exact h
    rw [hstage] at h
    exact ⟨rfl, hstage ▸ rfl, hinv⟩

/-- A step replaces one request. The others keep what they know: the table is
    the same, or none of them is past the lock. -/
theorem RotationInv.replace (hinv : RotationInv C t₀ s) {s' : RotationState} {id : ℕ}
    (hrequests : s'.requests = Function.update s.requests id (some r))
    (htable : ∃ t, t₀ ≤ t ∧ (t = t₀ ∨ ∃ key ∈ s'.table, key.createdAt = t) ∧
      TableInv s'.table t ∧ ∃ key ∈ s'.table, key.activeAt t = true)
    (hnow : t₀ ≤ r.now) (hstage : r.StageInv C s'.table)
    (hlock : r.stage.holds = true → s'.lock = some id)
    (hothers : ∀ id' r', id' ≠ id → s.requests id' = some r' → r'.stage.holds = true →
      s'.lock = some id' ∧ s'.table = s.table) : RotationInv C t₀ s' := by
  have hcases : ∀ id' r', s'.requests id' = some r' →
      id' = id ∧ r' = r ∨ id' ≠ id ∧ s.requests id' = some r' := by
    intro id' r' h
    rw [hrequests] at h
    by_cases hid : id' = id
    · subst hid
      rw [Function.update_self, Option.some.injEq] at h
      exact .inl ⟨rfl, h.symm⟩
    · rw [Function.update_of_ne hid] at h
      exact .inr ⟨hid, h⟩
  refine ⟨htable, fun id' r' h hholds => ?_, fun id' r' h => ?_, fun id' r' h => ?_⟩
  · rcases hcases id' r' h with ⟨rfl, rfl⟩ | ⟨hid, h⟩
    · exact hlock hholds
    · exact (hothers id' r' hid h hholds).1
  · rcases hcases id' r' h with ⟨rfl, rfl⟩ | ⟨hid, h⟩
    · exact hnow
    · exact hinv.begun id' r' h
  · rcases hcases id' r' h with ⟨rfl, rfl⟩ | ⟨hid, h⟩
    · exact hstage
    · by_cases hholds : r'.stage.holds = true
      · rw [(hothers id' r' hid h hholds).2]
        exact hinv.stage id' r' h
      · exact stageInv_of_not_holds (hinv.stage id' r' h) (by simpa using hholds) _

theorem rotationInv_rollback (hinv : RotationInv C t₀ s) {id : ℕ} (h : s.requests id = some r)
    (e : AcError) : RotationInv C t₀ (s.rollback id r e).1 := by
  refine hinv.replace rfl hinv.table (hinv.begun id r h) rfl (fun hholds => by cases hholds) ?_
  intro id' r' hid h' hholds
  have hlock := hinv.holder id' r' h' hholds
  have hne : ¬ s.lock = some id := by
    rw [hlock, Option.some.injEq]
    exact hid
  exact ⟨(if_neg hne).trans hlock, rfl⟩

/-- A commit is a rotation of the committed table. -/
theorem table_commit (hinv : RotationInv C t₀ s) {id : ℕ} (h : s.requests id = some r)
    {oldKey key : SigningKey} (hstage : r.stage = .activated oldKey key) :
    TableInv (r.view s.table) r.now ∧ key ∈ r.view s.table ∧ key.createdAt = r.now ∧
      key.activeAt r.now = true := by
  obtain ⟨t, ht₀, ht, htable, -⟩ := hinv.table
  have hinvr := hinv.stage id r h
  obtain ⟨keyPair, hmakes, hrotate⟩ := view_activated hinvr hstage
  obtain ⟨hview, hid, hids⟩ := rotateSigningKeyTx_eq hrotate
  have hspaced : r.Spaced s.table := by
    unfold Request.StageInv at hinvr
    rw [hstage] at hinvr
    exact hinvr.1
  have hle : t ≤ r.now := by
    rcases ht with rfl | ⟨k, hk, rfl⟩
    · exact hinv.begun id r h
    · exact le_trans (Nat.le_add_right _ _) (hspaced k hk)
  rw [hid] at hids
  rw [hview, hmakes]
  exact ⟨htable.rotate hle hids, List.mem_append_right _ (List.mem_singleton_self _), rfl,
    newKey_activeAt⟩

theorem rotationInv_step (hinv : RotationInv C t₀ s) {e : RotationEvent}
    (ha : s.Allowed t₀ e) : RotationInv C t₀ (s.step C clockSkew e).1 := by
  have hstep := step_cases C clockSkew s e
  have hsame : ∀ id' r', s.requests id' = some r' → r'.stage.holds = true →
      s.lock = some id' ∧ s.table = s.table := fun id' r' h hh => ⟨hinv.holder id' r' h hh, rfl⟩
  generalize s.step C clockSkew e = result at hstep ⊢
  cases hstep with
  | idle => exact hinv
  | refuse err =>
    exact hinv.replace rfl hinv.table ha.2 rfl (fun hh => by cases hh) fun id' r' _ => hsame id' r'
  | accept forced =>
    exact hinv.replace rfl hinv.table ha.2 rfl (fun hh => by cases hh) fun id' r' _ => hsame id' r'
  | rollback err h => exact rotationInv_rollback hinv h err
  | @run id keyPair r r' h hnext =>
    have hspec := next_spec (hinv.stage id r h) keyPair
    rw [hnext] at hspec
    obtain ⟨hnow, hholds, hstage⟩ := hspec
    exact hinv.replace rfl hinv.table (hnow ▸ hinv.begun id r h) hstage
      (fun hh => hinv.holder id r h (hholds ▸ hh)) fun id' r' _ => hsame id' r'
  | @acquire id keyPair r r' h hnext hlock =>
    have hspec := next_spec (hinv.stage id r h) keyPair
    rw [hnext] at hspec
    obtain ⟨hnow, hstage⟩ := hspec
    refine hinv.replace rfl hinv.table (hnow ▸ hinv.begun id r h) hstage (fun _ => rfl) ?_
    intro id' r'' _ h' hh
    cases hlock.symm.trans (hinv.holder id' r'' h' hh)
  | @commit id keyPair r r' h hnext =>
    have hspec := next_spec (hinv.stage id r h) keyPair
    rw [hnext] at hspec
    obtain ⟨hnow, hholds, hstage, oldKey, key, hact⟩ := hspec
    obtain ⟨htable, hmem, hcreated, hactive⟩ := table_commit hinv h hact
    have hbegun := hinv.begun id r h
    refine hinv.replace rfl ⟨r.now, hbegun, .inr ⟨key, hmem, hcreated⟩, htable, key, hmem, hactive⟩
      (hnow ▸ hbegun) (stageInv_of_not_holds hstage hholds _)
      (fun hh => by rw [hholds] at hh; cases hh) ?_
    -- no other transaction is past the lock: this one is
    intro id' r'' hid h' hh
    have hlock := hinv.holder id r h (by rw [hact]; rfl)
    have hlock' := hinv.holder id' r'' h' hh
    exact absurd (Option.some.inj (hlock'.symm.trans hlock)) hid
  | @reply id keyPair r response h hnext =>
    have hspec := next_spec (hinv.stage id r h) keyPair
    rw [hnext] at hspec
    exact hinv.replace rfl hinv.table (hinv.begun id r h) hspec.2 (fun hh => by cases hh)
      fun id' r' _ => hsame id' r'

/-- The invariant holds along every run from an initialised table. -/
theorem run_rotationInv {h : List (RotationEvent × RotationReply)}
    (hreach : ReachableKeys C table t₀) (hactive : table.getActiveKey t₀ ≠ none)
    (hr : (rotationSystem C clockSkew t₀ table).Run h s) : RotationInv C t₀ s := by
  refine Machine.Run.invariant (I := fun _ s => RotationInv C t₀ s) ?_
    (fun h s e _ ha hinv => rotationInv_step hinv ha) hr
  have hinv := (reachableKeys_inv hreach).toTableInv
  obtain ⟨key, hkey⟩ := Option.ne_none_iff_exists'.mp hactive
  obtain ⟨hmem, hact⟩ := (hinv.getActiveKey_eq_some le_rfl).mp hkey
  refine ⟨⟨t₀, le_rfl, .inl rfl, hinv, key, hmem, hact⟩, ?_, ?_, ?_⟩ <;>
    · intro id r h
      cases h

end Invariant

/-! ## Safety -/

/-- The instant of the last change of a table that was initialised by `t₀`. -/
def lastChange (t₀ : ℕ) (table : KeyTable) : ℕ := max t₀ (table.lastRotation.getD 0)

/-- One key is active and in its window, from the last change of the table until
    the key expires. -/
def OneActive (t₀ : ℕ) (table : KeyTable) : Prop :=
  ∃ key ∈ table, key.activeAt (lastChange t₀ table) = true ∧
    ∀ now, lastChange t₀ table ≤ now → now < key.validUntil →
      ∀ k ∈ table, (k.activeAt now = true ↔ k = key)

/-- The step commits the transaction of the request `r`. -/
def RotationState.Commits (s : RotationState) (e : RotationEvent) (r : Request) : Prop :=
  ∃ id keyPair oldKey key, e = .next id keyPair ∧ s.requests id = some r ∧
    r.stage = .activated oldKey key

section Steps

variable {C : Calendar} {t₀ clockSkew : ℕ} {s : RotationState} {r : Request}

theorem lastChange_eq {table : KeyTable} {t : ℕ} (ht₀ : t₀ ≤ t)
    (ht : t = t₀ ∨ ∃ key ∈ table, key.createdAt = t) (hle : ∀ key ∈ table, key.createdAt ≤ t) :
    lastChange t₀ table = t := by
  unfold lastChange
  cases hlast : table.lastRotation with
  | none =>
    rw [KeyTable.lastRotation, List.max?_eq_none_iff, List.map_eq_nil_iff] at hlast
    subst hlast
    rcases ht with rfl | ⟨key, hkey, -⟩
    · simp
    · cases hkey
  | some last =>
    obtain ⟨hmem, -⟩ := List.max?_eq_some_iff.mp hlast
    obtain ⟨newest, hnewest, rfl⟩ := List.mem_map.mp hmem
    have hnew := hle newest hnewest
    dsimp only [Option.getD_some]
    rcases ht with rfl | ⟨key, hkey, rfl⟩
    · omega
    · have := lastRotation_ge hlast key hkey
      omega

theorem RotationInv.oneActive (hinv : RotationInv C t₀ s) : OneActive t₀ s.table := by
  obtain ⟨t, ht₀, ht, htable, key, hkey, hactive⟩ := hinv.table
  have hchange := lastChange_eq ht₀ ht fun k hk => (htable.dated k hk).2.2
  obtain ⟨hon, hlive⟩ := (htable.activeAt_iff le_rfl hkey).mp hactive
  refine ⟨key, hkey, by rwa [hchange], fun now hnow hunexpired k hk => ?_⟩
  rw [hchange] at hnow
  rw [htable.activeAt_iff hnow hk]
  constructor
  · rintro ⟨hon', hlive'⟩
    exact (htable.mono hnow).single k hk key hkey hon' hon hlive' hunexpired
  · rintro rfl
    exact ⟨hon, hunexpired⟩

theorem stage_of_next_commit {table : KeyTable} {keyPair : List UInt8} {r' : Request}
    (h : r.next C table keyPair = .commit r') :
    ∃ oldKey key, r.stage = .activated oldKey key := by
  unfold Request.next at h
  cases hstage : r.stage <;> simp only [hstage] at h <;>
    first
    | exact ⟨_, _, rfl⟩
    | (split at h <;> cases h)
    | cases h

/-- Only a commit changes the table. -/
theorem table_step_of_not_commits {e : RotationEvent} (h : ¬ ∃ r, s.Commits e r) :
    (s.step C clockSkew e).1.table = s.table := by
  have hstep := step_cases C clockSkew s e
  generalize s.step C clockSkew e = result at hstep ⊢
  cases hstep with
  | @commit id keyPair r r' hreq hnext =>
    obtain ⟨oldKey, key, hstage⟩ := stage_of_next_commit hnext
    exact absurd ⟨r, id, keyPair, oldKey, key, rfl, hreq, hstage⟩ h
  | _ => rfl

/-- A commit makes the writes of the request permanent. -/
theorem step_of_commits {e : RotationEvent} (h : s.Commits e r) :
    (s.step C clockSkew e).1.table = r.view s.table ∧ (s.step C clockSkew e).2 = none := by
  obtain ⟨id, keyPair, oldKey, key, rfl, hreq, hstage⟩ := h
  simp only [RotationState.step, hreq, Request.next, hstage]
  exact ⟨rfl, rfl⟩

/-- A commit adds a key created at the instant of the request. -/
theorem createdAt_of_commits (hinv : RotationInv C t₀ s) {e : RotationEvent}
    (h : s.Commits e r) : ∃ key ∈ (s.step C clockSkew e).1.table, key.createdAt = r.now := by
  rw [(step_of_commits h).1]
  obtain ⟨id, keyPair, oldKey, key, -, hreq, hstage⟩ := h
  obtain ⟨-, hmem, hcreated, -⟩ := table_commit hinv hreq hstage
  exact ⟨key, hmem, hcreated⟩

/-- A commit keeps to the rate limit. -/
theorem spaced_of_commits (hinv : RotationInv C t₀ s) {e : RotationEvent} (h : s.Commits e r) :
    r.Spaced s.table := by
  obtain ⟨id, keyPair, oldKey, key, -, hreq, hstage⟩ := h
  have hstageInv := hinv.stage id r hreq
  unfold Request.StageInv at hstageInv
  rw [hstage] at hstageInv
  exact hstageInv.1

/-- No step removes a key. -/
theorem createdAt_step (hinv : RotationInv C t₀ s) (e : RotationEvent) :
    ∀ key ∈ s.table, ∃ key' ∈ (s.step C clockSkew e).1.table, key'.createdAt = key.createdAt := by
  intro key hkey
  by_cases hcommits : ∃ r, s.Commits e r
  · obtain ⟨r, hr⟩ := hcommits
    rw [(step_of_commits hr).1]
    obtain ⟨id, keyPair, oldKey, newKey, -, hreq, hstage⟩ := hr
    obtain ⟨keyPair', -, hrotate⟩ := view_activated (hinv.stage id r hreq) hstage
    rw [(rotateSigningKeyTx_eq hrotate).1]
    exact ⟨key.deactivated, List.mem_append_left _ (List.mem_map_of_mem hkey), rfl⟩
  · rw [table_step_of_not_commits hcommits]
    exact ⟨key, hkey, rfl⟩

/-- The request `id` has answered. -/
def RotationState.Done (s : RotationState) (id : ℕ) : Prop :=
  ∃ r, s.requests id = some r ∧ r.stage = .done

theorem done_rollback (s : RotationState) (id : ℕ) (r : Request) (e : AcError) :
    (s.rollback id r e).1.Done id :=
  ⟨{ r with stage := .done, writes := [] }, Function.update_self .., rfl⟩

/-- A request that answers with an error is done. -/
theorem done_of_error {e : RotationEvent} {err : AcError}
    (h : (s.step C clockSkew e).2 = some (.error err)) : (s.step C clockSkew e).1.Done e.id := by
  have hstep := step_cases C clockSkew s e
  generalize s.step C clockSkew e = result at h hstep ⊢
  cases hstep with
  | refuse err => exact ⟨_, Function.update_self .., rfl⟩
  | rollback err hreq => exact done_rollback s _ _ err
  | _ => cases h

/-- A step of one request leaves the others alone. -/
theorem requests_step_of_ne {e : RotationEvent} {id : ℕ} (hne : id ≠ e.id) :
    (s.step C clockSkew e).1.requests id = s.requests id := by
  have hstep := step_cases C clockSkew s e
  generalize s.step C clockSkew e = result at hstep ⊢
  cases hstep with
  | idle => rfl
  | _ => exact Function.update_of_ne hne ..

/-- A request that is done stays done. -/
theorem done_step {e : RotationEvent} (ha : s.Allowed t₀ e) {id : ℕ} (h : s.Done id) :
    (s.step C clockSkew e).1.Done id := by
  obtain ⟨r, hreq, hstage⟩ := h
  by_cases hid : id = e.id
  swap
  · exact ⟨r, (requests_step_of_ne hid).trans hreq, hstage⟩
  subst hid
  have hnext : ∀ keyPair, r.next C s.table keyPair = .run r := by
    intro keyPair
    rw [Request.next, hstage]
  have hstep := step_cases C clockSkew s e
  generalize s.step C clockSkew e = result at hstep ⊢
  cases hstep with
  | idle => exact ⟨r, hreq, hstage⟩
  | refuse err => cases ha.1.symm.trans hreq
  | accept forced => cases ha.1.symm.trans hreq
  | rollback err hreq' => exact done_rollback s _ _ err
  | run hreq' hnext' =>
    obtain rfl := Option.some.inj (hreq.symm.trans hreq')
    rw [hnext, Outcome.run.injEq] at hnext'
    exact ⟨r, hnext' ▸ Function.update_self .., hstage⟩
  | acquire hreq' hnext' _ =>
    obtain rfl := Option.some.inj (hreq.symm.trans hreq')
    cases (hnext _).symm.trans hnext'
  | commit hreq' hnext' =>
    obtain rfl := Option.some.inj (hreq.symm.trans hreq')
    cases (hnext _).symm.trans hnext'
  | reply hreq' hnext' =>
    obtain rfl := Option.some.inj (hreq.symm.trans hreq')
    cases (hnext _).symm.trans hnext'

end Steps

/-! ## Safety of every run -/

/-- What holds of a history of requests over a table that was initialised by
    `t₀`. -/
structure RotationSafety (M : Machine RotationState RotationEvent RotationReply) (t₀ : ℕ)
    (h : List (RotationEvent × RotationReply)) : Prop where
  /-- Every committed table has one active key until it expires. -/
  oneActive : ∀ h', h' <:+ h → OneActive t₀ (M.stateAfter h').table
  nodupIds : ∀ h', h' <:+ h → ((M.stateAfter h').table.map (·.keyId)).Nodup
  /-- Two rotations are at least one hour apart. -/
  hourApart : ∀ e₁ a₁ h₁ e₂ a₂ h₂ r₁ r₂, (e₁, a₁) :: h₁ <:+ h₂ → (e₂, a₂) :: h₂ <:+ h →
    (M.stateAfter h₁).Commits e₁ r₁ → (M.stateAfter h₂).Commits e₂ r₂ →
      r₁.now + hours 1 ≤ r₂.now
  /-- A rotation without the force scope is at least six days after the creation
      of every key. -/
  daysApart : ∀ e a h' r, (e, a) :: h' <:+ h → (M.stateAfter h').Commits e r →
    r.forced = false → ∀ key ∈ (M.stateAfter h').table, key.createdAt + days 6 ≤ r.now
  /-- No step of a request that answers with an error before it commits changes
      the table. -/
  errorUnchanged : ∀ e err h', (e, some (.error err)) :: h' <:+ h →
    (∀ e' a' h'' r, (e', a') :: h'' <:+ h' → e'.id = e.id → ¬ (M.stateAfter h'').Commits e' r) →
      ∀ e' a' h'', (e', a') :: h'' <:+ h → e'.id = e.id →
        (M.stateAfter ((e', a') :: h'')).table = (M.stateAfter h'').table

section Runs

variable {C : Calendar} {t₀ clockSkew : ℕ} {s : RotationState} {table : KeyTable}
  {h : List (RotationEvent × RotationReply)}

/-- No key is removed along a run. -/
theorem createdAt_of_suffix (hreach : ReachableKeys C table t₀)
    (hactive : table.getActiveKey t₀ ≠ none) (hr : (rotationSystem C clockSkew t₀ table).Run h s)
    {h₁ h₂ : List (RotationEvent × RotationReply)} (h₁₂ : h₁ <:+ h₂) (h₂h : h₂ <:+ h) :
    ∀ key ∈ ((rotationSystem C clockSkew t₀ table).stateAfter h₁).table,
      ∃ key' ∈ ((rotationSystem C clockSkew t₀ table).stateAfter h₂).table,
        key'.createdAt = key.createdAt := by
  refine Machine.Run.le_of_suffix (C := fun _ _ => True)
    (r := fun s s' : RotationState => ∀ key ∈ s.table, ∃ key' ∈ s'.table,
      key'.createdAt = key.createdAt) (fun s key hkey => ⟨key, hkey, rfl⟩) ?_ ?_ hr
    (fun _ _ _ _ => trivial) h₁₂ h₂h
  · intro s₁ s₂ s₃ h12 h23 key hkey
    obtain ⟨key', hkey', heq⟩ := h12 key hkey
    obtain ⟨key'', hkey'', heq'⟩ := h23 key' hkey'
    exact ⟨key'', hkey'', heq'.trans heq⟩
  · intro h s e hr _ _
    exact createdAt_step (run_rotationInv hreach hactive hr) e

/-- A request that is done stays done along a run. -/
theorem done_of_suffix (hr : (rotationSystem C clockSkew t₀ table).Run h s)
    {h₁ h₂ : List (RotationEvent × RotationReply)} (h₁₂ : h₁ <:+ h₂) (h₂h : h₂ <:+ h) {id : ℕ}
    (hdone : ((rotationSystem C clockSkew t₀ table).stateAfter h₁).Done id) :
    ((rotationSystem C clockSkew t₀ table).stateAfter h₂).Done id :=
  Machine.Run.le_of_suffix (C := fun _ _ => True)
    (r := fun s s' : RotationState => s.Done id → s'.Done id) (fun _ h => h)
    (fun _ _ _ h12 h23 h => h23 (h12 h)) (fun _ _ _ _ ha _ h => done_step ha h) hr
    (fun _ _ _ _ => trivial) h₁₂ h₂h hdone

/-- A request that answered with an error does not commit afterwards. -/
theorem not_commits_of_error (hr : (rotationSystem C clockSkew t₀ table).Run h s)
    {e : RotationEvent} {err : AcError} {h' : List (RotationEvent × RotationReply)}
    (herr : (e, some (.error err)) :: h' <:+ h)
    (hbefore : ∀ e' a' h'' r, (e', a') :: h'' <:+ h' → e'.id = e.id →
      ¬ ((rotationSystem C clockSkew t₀ table).stateAfter h'').Commits e' r)
    {e' : RotationEvent} {a' : RotationReply} {h'' : List (RotationEvent × RotationReply)}
    (hs : (e', a') :: h'' <:+ h) (hid : e'.id = e.id) (r : Request) :
    ¬ ((rotationSystem C clockSkew t₀ table).stateAfter h'').Commits e' r := by
  intro hcommits
  have hanswer : a' = none :=
    (hr.answer_of_suffix hs).1.trans (step_of_commits hcommits).2
  have hsame : (e', a') :: h'' ≠ (e, some (.error err)) :: h' := by
    rw [hanswer]
    intro heq
    simp at heq
  rcases List.suffix_or_suffix_of_suffix hs herr with hle | hle
  · rcases List.suffix_cons_iff.mp hle with heq | hle
    · exact hsame heq
    · exact hbefore e' a' h'' r hle hid hcommits
  · rcases List.suffix_cons_iff.mp hle with heq | hle
    · exact hsame heq.symm
    · have hstep := (hr.answer_of_suffix herr).1
      have hdone := done_of_suffix hr hle ((List.suffix_cons _ _).trans hs)
        (done_of_error hstep.symm)
      obtain ⟨r', hreq', hstage'⟩ := hdone
      obtain ⟨id, keyPair, oldKey, key, rfl, hreq, hstage⟩ := hcommits
      rw [← hid, RotationEvent.id, hreq, Option.some.injEq] at hreq'
      rw [hreq', hstage'] at hstage
      cases hstage

/-- Concurrent rotations are safe: every run of requests over an initialised
    table keeps one active key and distinct ids, keeps rotations apart, and
    leaves the table alone where a request fails before its commit. -/
theorem rotationSafety_of_run (hreach : ReachableKeys C table t₀)
    (hactive : table.getActiveKey t₀ ≠ none)
    (hr : (rotationSystem C clockSkew t₀ table).Run h s) :
    RotationSafety (rotationSystem C clockSkew t₀ table) t₀ h := by
  have hinv : ∀ h', h' <:+ h →
      RotationInv C t₀ ((rotationSystem C clockSkew t₀ table).stateAfter h') :=
    fun h' hs => run_rotationInv hreach hactive (hr.suffix hs)
  have hbefore : ∀ {e : RotationEvent} {a : RotationReply}
      {h' : List (RotationEvent × RotationReply)}, (e, a) :: h' <:+ h → h' <:+ h :=
    fun hs => (List.suffix_cons _ _).trans hs
  refine ⟨fun h' hs => (hinv h' hs).oneActive, fun h' hs => ?_, ?_, ?_, ?_⟩
  · obtain ⟨_, _, _, htable, _⟩ := (hinv h' hs).table
    exact htable.nodup_ids
  · intro e₁ a₁ h₁ e₂ a₂ h₂ r₁ r₂ hs₁ hs₂ hcommits₁ hcommits₂
    have hadded : ∃ key ∈ ((rotationSystem C clockSkew t₀ table).stateAfter
        ((e₁, a₁) :: h₁)).table, key.createdAt = r₁.now :=
      createdAt_of_commits (hinv h₁ (hbefore (hs₁.trans (hbefore hs₂)))) hcommits₁
    obtain ⟨key, hkey, hcreated⟩ := hadded
    obtain ⟨key', hkey', hcreated'⟩ :=
      createdAt_of_suffix hreach hactive hr hs₁ (hbefore hs₂) key hkey
    have hspaced := spaced_of_commits (hinv h₂ (hbefore hs₂)) hcommits₂ key' hkey'
    have hhour : hours 1 ≤ minDuration r₂.forced := by
      cases r₂.forced <;> decide
    omega
  · intro e a h' r hs hcommits hforced key hkey
    have hspaced := spaced_of_commits (hinv h' (hbefore hs)) hcommits key hkey
    rw [hforced] at hspaced
    exact hspaced
  · intro e err h' herr hnone e' a' h'' hs hid
    exact table_step_of_not_commits fun ⟨r, hcommits⟩ =>
      not_commits_of_error hr herr hnone hs hid r hcommits

end Runs

/-- The table of the concrete run, initialised at 0 h. -/
def initialTable : KeyTable := [sampleKey "auth-default-2025-01" [1] true 0]

/-- Rotations of a table with one key. -/
abbrev sampleRotations : Machine RotationState RotationEvent RotationReply :=
  rotationSystem Calendar.sample 300 0 initialTable

/-- A token that may force a rotation at 2 h. -/
def forceToken : Token ServiceClaims where
  size := 420
  kid := some "auth-default-2025-01"
  claims :=
    { sub := "operator"
      exp := 3 * 3600
      iat := 2 * 3600
      scope := "admin.force-rotate-keys.ac"
      serviceType := some "global-controller" }
  signer := [1]

/-- Two requests at 2 h. The second waits for the lock until the first commits,
    and is then too soon. -/
def concurrentEvents : List RotationEvent :=
  [.request 1 (hours 2) "default" (.bearer forceToken),
    .request 2 (hours 2) "default" (.bearer forceToken),
    .next 1 [2], .next 2 [3], .next 1 [2], .next 2 [3], .next 1 [2], .next 1 [2], .next 1 [2],
    .next 1 [2], .next 1 [2], .next 1 [2], .next 2 [3], .next 1 [2], .next 2 [3], .next 2 [3]]

theorem rotationSafety_concurrent :
    RotationSafety sampleRotations 0 (sampleRotations.playAll concurrentEvents).2 ∧
      (sampleRotations.playAll concurrentEvents).1.table.map (fun key => (key.keyId, key.isActive)) =
        [("auth-default-2025-01", false), ("auth-default-2025-02", true)] :=
  have hinit : initializeSigningKey Calendar.sample [] 0 "default" [1] = .ok initialTable := rfl
  ⟨rotationSafety_of_run (.initKey 0 "default" [1] (.empty 0) le_rfl (by simp) hinit) (by decide)
    (Machine.run_of_admits (by decide +kernel)), by decide +kernel⟩

end DarkTower.Ac
