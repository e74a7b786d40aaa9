import DarkTower.Ac.SigningKeys
import DarkTower.Lib.Machine
import Mathlib.Data.List.Count

/-!
# The lockout after failed attempts

`issue_service_token` and `issue_user_token`
(`ac-service/src/services/token_service.rs`) up to the point where the secret is
accepted, for one credential or one user and any number of requests at once.
Counting the failed attempts, comparing the secret with the stored hash and
logging a failure are separate steps without a lock.

* A request that is admitted has counted before the failures of the requests in
  flight were logged, so the number of wrong secrets compared in one window is
  not bounded by the limit (`concurrent_guesses_exceed`).
* `bruteForceBound_along`: it is, in every run where a request with a wrong
  secret is admitted only while the failures logged in its window and the wrong
  secrets in flight stay below the limit together. A request that runs alone and
  whose count succeeds meets this (`admitsWithin_of_alone`); the user path also
  admits a request when its count fails.

Inserts of events succeed. `bcrypt` is a parameter.
-/

namespace DarkTower.Ac

open DarkTower.Common DarkTower.Lib

/-- The endpoints that check a secret. -/
inductive LoginPath
  /-- `issue_service_token` (token_service.rs:29). -/
  | service
  /-- `issue_user_token` (token_service.rs:204). -/
  | user
deriving DecidableEq

/-- The settings of a login, and the comparison of `bcrypt`. -/
structure Login where
  path : LoginPath
  rateLimitWindowMinutes : ℕ
  rateLimitMaxAttempts : ℕ
  /-- `verify_client_secret` (`crypto/mod.rs:331`): secret and stored hash. -/
  verifyClientSecret : String → String → Except AcError Bool

/-- What a request reads of its credential or user. -/
structure Credential where
  secretHash : String
  isActive : Bool
deriving DecidableEq

/-- A request, from the moment it computes the start of its window. -/
structure Attempt where
  /-- `rate_limit_window_ago`. -/
  since : ℤ
  secret : String
  credential : Credential
deriving DecidableEq

/-- A row of `auth_events` with `success = false` for the credential or user. -/
structure AuthFailure where
  createdAt : ℕ
  reason : String
deriving DecidableEq

/-- Both endpoints for one client or user: the clock, the logged failures, and the requests under
    way. -/
structure LoginState where
  now : ℕ
  failures : List AuthFailure
  /-- Requests that have not counted yet. -/
  started : List Attempt
  /-- Requests that may compare their secret. -/
  admitted : List Attempt
  /-- Requests that have compared and are about to log a failure, with the
      instant of the comparison. -/
  failing : List (ℕ × Attempt)
  /-- The instants at which a wrong secret was compared with the stored hash. -/
  compared : List ℕ

/-- A step of a request, or of the clock. -/
inductive LoginEvent
  | advance (now : ℕ)
  | start (secret : String) (credential : Credential)
  /-- The request counts; the query may fail with a message. -/
  | count (attempt : Attempt) (failure : Option String)
  | verify (attempt : Attempt)
  | log (comparedAt : ℕ) (attempt : Attempt) (createdAt : ℕ)

/-- What a request answers; nothing while it goes on. -/
abbrev LoginReply := Option (Except AcError Unit)

namespace Login

variable (L : Login)

/-- `chrono::Duration::minutes(rate_limit_window_minutes)`. -/
def window : ℕ := fromSecs (L.rateLimitWindowMinutes * 60)

/-- The secret is wrong for the stored hash. -/
def wrong (attempt : Attempt) : Bool :=
  match L.verifyClientSecret attempt.secret attempt.credential.secretHash with
  | .ok valid => !valid
  | .error _ => false

/-- `get_failed_attempts_count` and `get_failed_attempts_count_by_user`
    (`repositories/auth_events.rs:169`). -/
def failedSince (s : LoginState) (since : ℤ) : ℕ :=
  s.failures.countP fun failure => decide (since ≤ failure.createdAt)

/-- The count as the path uses it: an error ends a service request, and counts
    as 0 for a user. -/
def failedCount (s : LoginState) (attempt : Attempt) (failure : Option String) :
    Except AcError ℕ :=
  match failure with
  | none => .ok (failedSince s attempt.since)
  | some message =>
    match L.path with
    | .service => .error (.database ("Failed to count failed attempts: " ++ message))
    | .user => .ok 0

/-- The answer of a locked account. -/
def lockedError : AcError :=
  match L.path with
  | .service => .rateLimitExceeded
  | .user => .tooManyRequests (L.rateLimitWindowMinutes * 60)
      "Too many failed login attempts. Please try again later."

/-- The reason that is logged for a failed comparison. -/
def failureReason (credential : Credential) : String :=
  match L.path with
  | .service => if credential.isActive then "Invalid client secret" else "Credential is inactive"
  | .user => if credential.isActive then "Invalid password" else "User account is inactive"

/-- One step of a request, or the clock. -/
def step (s : LoginState) : LoginEvent → LoginState × LoginReply
  | .advance now => ({ s with now := now }, none)
  | .start secret credential =>
    ({ s with started := ⟨s.now - L.window, secret, credential⟩ :: s.started }, none)
  | .count attempt failure =>
    match L.failedCount s attempt failure with
    | .error e => ({ s with started := s.started.erase attempt }, some (.error e))
    | .ok failedCount =>
      if L.rateLimitMaxAttempts ≤ failedCount then
        ({ s with started := s.started.erase attempt }, some (.error L.lockedError))
      else
        ({ s with
            started := s.started.erase attempt
            admitted := attempt :: s.admitted }, none)
  | .verify attempt =>
    match L.verifyClientSecret attempt.secret attempt.credential.secretHash with
    | .error e => ({ s with admitted := s.admitted.erase attempt }, some (.error e))
    | .ok isValid =>
      let s' := { s with
        admitted := s.admitted.erase attempt
        compared := if isValid then s.compared else s.now :: s.compared }
      if attempt.credential.isActive && isValid then (s', some (.ok ()))
      else ({ s' with failing := (s.now, attempt) :: s.failing }, none)
  | .log comparedAt attempt createdAt =>
    ({ s with
        failing := s.failing.erase (comparedAt, attempt)
        failures := ⟨createdAt, L.failureReason attempt.credential⟩ :: s.failures },
      some (.error .invalidCredentials))

end Login

/-- The clock does not go back, a request takes its steps in order, and a row is
    dated between the comparison and its insertion. -/
def LoginState.Allowed (s : LoginState) : LoginEvent → Prop
  | .advance now => s.now ≤ now
  | .start _ _ => True
  | .count attempt _ => attempt ∈ s.started
  | .verify attempt => attempt ∈ s.admitted
  | .log comparedAt attempt createdAt =>
    (comparedAt, attempt) ∈ s.failing ∧ comparedAt ≤ createdAt ∧ createdAt ≤ s.now

instance decidableLoginAllowed (s : LoginState) (e : LoginEvent) : Decidable (s.Allowed e) :=
  match e with
  | .advance now => inferInstanceAs (Decidable (s.now ≤ now))
  | .start _ _ => inferInstanceAs (Decidable True)
  | .count attempt _ => inferInstanceAs (Decidable (attempt ∈ s.started))
  | .verify attempt => inferInstanceAs (Decidable (attempt ∈ s.admitted))
  | .log comparedAt attempt createdAt => inferInstanceAs (Decidable
      ((comparedAt, attempt) ∈ s.failing ∧ comparedAt ≤ createdAt ∧ createdAt ≤ s.now))

/-- The requests for one credential or user. -/
def loginSystem (L : Login) : Machine LoginState LoginEvent LoginReply where
  init := ⟨0, [], [], [], [], []⟩
  step := L.step
  allowed _ s e := s.Allowed e

instance (L : Login) (h s) (e : LoginEvent) : Decidable ((loginSystem L).allowed h s e) :=
  decidableLoginAllowed s e

/-- At most `rate_limit_max_attempts` wrong secrets are compared in any window
    of `rate_limit_window_minutes`. -/
def BruteForceBound (L : Login) (s : LoginState) : Prop :=
  ∀ a : ℕ, s.compared.countP (fun t => decide (a ≤ t ∧ t ≤ a + L.window)) ≤ L.rateLimitMaxAttempts

/-- Admitted requests with a wrong secret whose failure is not logged yet. -/
def Login.inFlight (L : Login) (s : LoginState) : ℕ :=
  s.admitted.countP L.wrong + s.failing.countP fun x => L.wrong x.2

/-- A wrong secret that the count admits is within the limit, together with the
    failures of its window and the wrong secrets in flight. -/
def Login.HasRoom (L : Login) (s : LoginState) (attempt : Attempt) : Except AcError ℕ → Prop
  | .error _ => True
  | .ok failedCount => L.wrong attempt = true → failedCount < L.rateLimitMaxAttempts →
      Login.failedSince s attempt.since + L.inFlight s < L.rateLimitMaxAttempts

/-- The step admits a wrong secret only if there is room for it. -/
def Login.AdmitsWithin (L : Login) (s : LoginState) : LoginEvent → Prop
  | .count attempt failure => L.HasRoom s attempt (L.failedCount s attempt failure)
  | _ => True

instance decidableHasRoom (L : Login) (s : LoginState) (attempt : Attempt) :
    ∀ failedCount, Decidable (L.HasRoom s attempt failedCount)
  | .error _ => inferInstanceAs (Decidable True)
  | .ok failedCount => inferInstanceAs (Decidable (L.wrong attempt = true →
      failedCount < L.rateLimitMaxAttempts →
        Login.failedSince s attempt.since + L.inFlight s < L.rateLimitMaxAttempts))

instance (L : Login) (s : LoginState) : ∀ e, Decidable (L.AdmitsWithin s e)
  | .count attempt failure => decidableHasRoom L s attempt (L.failedCount s attempt failure)
  | .advance _ => inferInstanceAs (Decidable True)
  | .start _ _ => inferInstanceAs (Decidable True)
  | .verify _ => inferInstanceAs (Decidable True)
  | .log _ _ _ => inferInstanceAs (Decidable True)

section Bound

variable {L : Login} {s : LoginState}

/-- A request that runs alone, with a count that succeeds, meets the condition:
    it counts every failure of its window. -/
theorem admitsWithin_of_alone (h : L.inFlight s = 0) (attempt : Attempt) :
    L.AdmitsWithin s (.count attempt none) := by
  intro _ hlt
  omega

/-! ## The invariant -/

/-- The wrong secrets compared from `since` on. -/
def LoginState.comparedSince (s : LoginState) (since : ℤ) : ℕ :=
  s.compared.countP fun t : ℕ => decide (since ≤ (t : ℤ))

/-- The wrong secrets compared from `since` on whose failure is not logged. -/
def Login.failingSince (L : Login) (s : LoginState) (since : ℤ) : ℕ :=
  s.failing.countP fun x => L.wrong x.2 && decide (since ≤ x.1)

/-- What every step keeps: a wrong secret compared since an instant is logged
    since that instant, or about to be. -/
structure LoginInv (L : Login) (s : LoginState) : Prop where
  started : ∀ attempt ∈ s.started, attempt.since ≤ s.now - L.window
  past : ∀ t ∈ s.compared, t ≤ s.now
  covered : ∀ since, s.comparedSince since ≤ Login.failedSince s since + L.failingSince s since

/-- What the steps that meet the condition keep: since some instant before the
    window, the wrong secrets that were and that will be compared are within the
    limit. -/
def Budget (L : Login) (s : LoginState) : Prop :=
  ∃ since : ℤ, since ≤ s.now - L.window ∧
    s.comparedSince since + s.admitted.countP L.wrong ≤ L.rateLimitMaxAttempts

theorem failingSince_le (since : ℤ) :
    L.failingSince s since ≤ s.failing.countP fun x => L.wrong x.2 := by
  refine List.countP_mono_left fun x _ hx => ?_
  rw [Bool.and_eq_true] at hx
  exact hx.1

/-- What a comparison does: the request ends, or fails with a right secret, or
    fails with a wrong one. -/
theorem step_verify_cases (s : LoginState) (attempt : Attempt) :
    (L.wrong attempt = false ∧
      (L.step s (.verify attempt)).1 = { s with admitted := s.admitted.erase attempt }) ∨
    (L.wrong attempt = false ∧
      (L.step s (.verify attempt)).1 = { s with
        admitted := s.admitted.erase attempt
        failing := (s.now, attempt) :: s.failing }) ∨
    (L.wrong attempt = true ∧
      (L.step s (.verify attempt)).1 = { s with
        admitted := s.admitted.erase attempt
        failing := (s.now, attempt) :: s.failing
        compared := s.now :: s.compared }) := by
  simp only [Login.step, Login.wrong]
  cases L.verifyClientSecret attempt.secret attempt.credential.secretHash with
  | error e => simp
  | ok isValid => cases isValid <;> cases attempt.credential.isActive <;> simp

theorem loginInv_verify (hinv : LoginInv L s) (attempt : Attempt) :
    LoginInv L (L.step s (.verify attempt)).1 := by
  rcases step_verify_cases (L := L) s attempt with ⟨hwrong, h⟩ | ⟨hwrong, h⟩ | ⟨hwrong, h⟩
  · rw [h]
    exact ⟨hinv.started, hinv.past, hinv.covered⟩
  · rw [h]
    refine ⟨hinv.started, hinv.past, fun since => ?_⟩
    have hcovered := hinv.covered since
    simp only [LoginState.comparedSince, Login.failedSince, Login.failingSince, List.countP_cons,
      hwrong, Bool.false_and, Bool.false_eq_true, if_false] at hcovered ⊢
    omega
  · rw [h]
    refine ⟨hinv.started, fun t ht => ?_, fun since => ?_⟩
    · rcases List.mem_cons.mp ht with rfl | ht
      · exact le_rfl
      · exact hinv.past t ht
    · have hcovered := hinv.covered since
      simp only [LoginState.comparedSince, Login.failedSince, Login.failingSince, List.countP_cons,
        hwrong, Bool.true_and] at hcovered ⊢
      omega

theorem loginInv_log (hinv : LoginInv L s) {comparedAt createdAt : ℕ} {attempt : Attempt}
    (hle : comparedAt ≤ createdAt) :
    LoginInv L (L.step s (.log comparedAt attempt createdAt)).1 := by
  refine ⟨hinv.started, hinv.past, fun since => ?_⟩
  have hcovered := hinv.covered since
  simp only [Login.step, LoginState.comparedSince, Login.failedSince, Login.failingSince,
    List.countP_cons, List.countP_erase] at hcovered ⊢
  by_cases hsince : since ≤ comparedAt
  · have hsince' : since ≤ createdAt := by omega
    simp only [hsince', decide_true, if_true]
    split_ifs <;> omega
  · have hnot : ¬((comparedAt, attempt) ∈ s.failing ∧
        (L.wrong attempt && decide (since ≤ (comparedAt : ℤ))) = true) := by
      simp [hsince]
    rw [if_neg hnot]
    omega

theorem loginInv_step (hinv : LoginInv L s) {e : LoginEvent} (ha : s.Allowed e) :
    LoginInv L (L.step s e).1 := by
  cases e with
  | advance now =>
    have hle : s.now ≤ now := ha
    refine ⟨fun attempt hattempt => ?_, fun t ht => (hinv.past t ht).trans hle, hinv.covered⟩
    have := hinv.started attempt hattempt
    simp only [Login.step]
    omega
  | start secret credential =>
    refine ⟨fun attempt hattempt => ?_, hinv.past, hinv.covered⟩
    rcases List.mem_cons.mp hattempt with rfl | hattempt
    · exact le_rfl
    · exact hinv.started attempt hattempt
  | count attempt failure =>
    have hstarted : ∀ a ∈ s.started.erase attempt, a.since ≤ s.now - L.window :=
      fun a h => hinv.started a (List.mem_of_mem_erase h)
    simp only [Login.step]
    cases L.failedCount s attempt failure with
    | error e => exact ⟨hstarted, hinv.past, hinv.covered⟩
    | ok n =>
      dsimp only
      split_ifs
      · exact ⟨hstarted, hinv.past, hinv.covered⟩
      · exact ⟨hstarted, hinv.past, hinv.covered⟩
  | verify attempt => exact loginInv_verify hinv attempt
  | log comparedAt attempt createdAt => exact loginInv_log hinv ha.2.1

/-! ## The budget -/

/-- An admission within the condition starts a new budget at the window of the
    request. -/
theorem budget_count (hinv : LoginInv L s) {attempt : Attempt} {failure : Option String}
    (hmem : attempt ∈ s.started) (hC : L.AdmitsWithin s (.count attempt failure))
    (hbudget : Budget L s) : Budget L (L.step s (.count attempt failure)).1 := by
  obtain ⟨since, hsince, hle⟩ := hbudget
  simp only [Login.step]
  cases hcount : L.failedCount s attempt failure with
  | error e => exact ⟨since, hsince, hle⟩
  | ok n =>
    dsimp only
    split_ifs with hfull
    · exact ⟨since, hsince, hle⟩
    by_cases hwrong : L.wrong attempt = true
    · rw [Login.AdmitsWithin, hcount] at hC
      have hroom := hC hwrong (Nat.not_le.mp hfull)
      have hcovered := hinv.covered attempt.since
      have hflight : L.failingSince s attempt.since ≤ s.failing.countP fun x => L.wrong x.2 :=
        failingSince_le _
      refine ⟨attempt.since, hinv.started attempt hmem, ?_⟩
      rw [List.countP_cons_of_pos hwrong]
      unfold Login.inFlight at hroom
      change s.comparedSince attempt.since + (s.admitted.countP L.wrong + 1) ≤ _
      omega
    · refine ⟨since, hsince, ?_⟩
      rw [List.countP_cons_of_neg hwrong]
      exact hle

/-- A comparison moves an attempt from those to be compared to those compared. -/
theorem budget_verify {attempt : Attempt} (hmem : attempt ∈ s.admitted) (hbudget : Budget L s) :
    Budget L (L.step s (.verify attempt)).1 := by
  obtain ⟨since, hsince, hle⟩ := hbudget
  have hfewer : (s.admitted.erase attempt).countP L.wrong ≤ s.admitted.countP L.wrong :=
    List.erase_sublist.countP_le
  rcases step_verify_cases (L := L) s attempt with ⟨hwrong, h⟩ | ⟨hwrong, h⟩ | ⟨hwrong, h⟩
  · rw [h]
    exact ⟨since, hsince, (Nat.add_le_add_left hfewer _).trans hle⟩
  · rw [h]
    exact ⟨since, hsince, (Nat.add_le_add_left hfewer _).trans hle⟩
  · rw [h]
    have hpos : 0 < s.admitted.countP L.wrong := List.countP_pos_iff.mpr ⟨attempt, hmem, hwrong⟩
    have herase := List.countP_erase L.wrong s.admitted attempt
    rw [if_pos ⟨hmem, hwrong⟩] at herase
    have hnow : since ≤ s.now := by omega
    refine ⟨since, hsince, ?_⟩
    simp only [LoginState.comparedSince, List.countP_cons, hnow, decide_true, if_true,
      herase] at hle ⊢
    omega

theorem budget_step (hinv : LoginInv L s) {e : LoginEvent} (ha : s.Allowed e)
    (hC : L.AdmitsWithin s e) (hbudget : Budget L s) : Budget L (L.step s e).1 := by
  cases e with
  | advance now =>
    obtain ⟨since, hsince, hle⟩ := hbudget
    have hnow : s.now ≤ now := ha
    exact ⟨since, by simp only [Login.step]; omega, hle⟩
  | start secret credential => exact hbudget
  | count attempt failure => exact budget_count hinv ha hC hbudget
  | verify attempt => exact budget_verify ha hbudget
  | log comparedAt attempt createdAt => exact hbudget

/-- Only a comparison adds to the compared secrets, at the current instant. -/
theorem compared_step (e : LoginEvent) :
    (L.step s e).1.compared = s.compared ∨
      (L.step s e).1.compared = s.now :: s.compared ∧ (L.step s e).1.now = s.now := by
  cases e with
  | advance now => exact .inl rfl
  | start secret credential => exact .inl rfl
  | count attempt failure =>
    simp only [Login.step]
    cases L.failedCount s attempt failure with
    | error e => exact .inl rfl
    | ok n =>
      dsimp only
      split_ifs <;> exact .inl rfl
  | verify attempt =>
    rcases step_verify_cases (L := L) s attempt with ⟨_, h⟩ | ⟨_, h⟩ | ⟨_, h⟩
    · exact .inl (by rw [h])
    · exact .inl (by rw [h])
    · exact .inr (by rw [h]; exact ⟨rfl, rfl⟩)
  | log comparedAt attempt createdAt => exact .inl rfl

/-- A budget after the step bounds the windows that hold the new comparison. -/
theorem bruteForceBound_step {e : LoginEvent} (hbound : BruteForceBound L s)
    (hbudget : Budget L (L.step s e).1) : BruteForceBound L (L.step s e).1 := by
  rcases compared_step (L := L) (s := s) e with h | ⟨h, hnow⟩
  · intro a
    rw [h]
    exact hbound a
  · intro a
    by_cases hin : a ≤ s.now ∧ s.now ≤ a + L.window
    · obtain ⟨since, hsince, hle⟩ := hbudget
      rw [hnow] at hsince
      have hmono : (L.step s e).1.compared.countP
          (fun t => decide (a ≤ t ∧ t ≤ a + L.window)) ≤ (L.step s e).1.comparedSince since := by
        unfold LoginState.comparedSince
        refine List.countP_mono_left fun t _ ht => ?_
        simp only [decide_eq_true_eq] at ht ⊢
        omega
      omega
    · rw [h, List.countP_cons_of_neg (by simpa using hin)]
      exact hbound a

/-- In every state of a run whose steps meet the condition, the bound holds. -/
theorem bruteForceBound_along {h : List (LoginEvent × LoginReply)}
    (hr : (loginSystem L).Run h s)
    (hC : ∀ e a h', (e, a) :: h' <:+ h → L.AdmitsWithin ((loginSystem L).stateAfter h') e) :
    ∀ h', h' <:+ h → BruteForceBound L ((loginSystem L).stateAfter h') := by
  intro h' hs
  have hall : LoginInv L ((loginSystem L).stateAfter h') ∧
      Budget L ((loginSystem L).stateAfter h') ∧
      BruteForceBound L ((loginSystem L).stateAfter h') := by
    refine Machine.Run.invariant_of_steps (C := L.AdmitsWithin)
      (I := fun _ s => LoginInv L s ∧ Budget L s ∧ BruteForceBound L s) ?_ ?_ (hr.suffix hs)
      fun e a h'' hs' => hC e a h'' (hs'.trans hs)
    · have hempty : (loginSystem L).init = ⟨0, [], [], [], [], []⟩ := rfl
      rw [hempty]
      refine ⟨⟨by simp, by simp, fun since => Nat.zero_le _⟩, ⟨-L.window, by simp, ?_⟩, fun a => ?_⟩
      · exact Nat.zero_le _
      · exact Nat.zero_le _
    · rintro h s e - ha hCe ⟨hinv, hbudget, hbound⟩
      have hbudget' := budget_step hinv ha hCe hbudget
      exact ⟨loginInv_step hinv ha, hbudget', bruteForceBound_step hbound hbudget'⟩
  exact hall.2.2

end Bound

/-! ## Guesses at once -/

/-- A login with the default settings (`config.rs:36`), and a comparison that
    knows one secret. -/
def Login.sample (path : LoginPath) : Login where
  path := path
  rateLimitWindowMinutes := 15
  rateLimitMaxAttempts := 5
  verifyClientSecret secret _ := .ok (decide (secret = "valid-secret-12345"))

/-- An active credential. -/
def sampleCredential : Credential where
  secretHash := "$2b$12$KIXQ0yq0vVfR5v0mJt2r7eN8a3uG1y5p9QwZr6sT4uVxYzAbCdEfG"
  isActive := true

/-- An attempt with a wrong secret at the instant 0. -/
def wrongAttempt (path : LoginPath) : Attempt :=
  ⟨-(Login.sample path).window, "wrong-password", sampleCredential⟩

/-- The steps of a request with a wrong secret at the instant 0, one after the
    other. -/
def aloneEvents (path : LoginPath) (failure : Option String) : List LoginEvent :=
  [.start "wrong-password" sampleCredential, .count (wrongAttempt path) failure,
    .verify (wrongAttempt path), .log 0 (wrongAttempt path) 0]

/-- Two requests with a wrong secret, one after the other. -/
def twoAlone : List LoginEvent := aloneEvents .service none ++ aloneEvents .service none

theorem bruteForceBound_along_two :
    (loginSystem (Login.sample .service)).Run
        ((loginSystem (Login.sample .service)).playAll twoAlone).2
        ((loginSystem (Login.sample .service)).playAll twoAlone).1 ∧
      ∀ h', h' <:+ ((loginSystem (Login.sample .service)).playAll twoAlone).2 →
        BruteForceBound (Login.sample .service)
          ((loginSystem (Login.sample .service)).stateAfter h') :=
  have hr : (loginSystem (Login.sample .service)).Run
      ((loginSystem (Login.sample .service)).playAll twoAlone).2
      ((loginSystem (Login.sample .service)).playAll twoAlone).1 :=
    Machine.run_of_admits (by decide)
  ⟨hr, bruteForceBound_along hr (Machine.StepsMeet.forall_suffix (by decide))⟩

/-- Six requests with a wrong secret that all count before one of them logs. -/
def concurrentGuesses : List LoginEvent :=
  List.replicate 6 (.start "wrong-password" sampleCredential) ++
    List.replicate 6 (.count (wrongAttempt .service) none) ++
    List.replicate 6 (.verify (wrongAttempt .service))

/-- Six requests of a user, one after the other, whose counts fail. -/
def uncountedGuesses : List LoginEvent :=
  (List.replicate 6 (aloneEvents .user (some "connection reset"))).flatten

/-- Six wrong secrets are compared at one instant, where five is the limit. -/
theorem concurrent_guesses_exceed :
    ((loginSystem (Login.sample .service)).Run
        ((loginSystem (Login.sample .service)).playAll concurrentGuesses).2
        ((loginSystem (Login.sample .service)).playAll concurrentGuesses).1 ∧
      ¬ BruteForceBound (Login.sample .service)
        ((loginSystem (Login.sample .service)).playAll concurrentGuesses).1) ∧
    (loginSystem (Login.sample .user)).Run
        ((loginSystem (Login.sample .user)).playAll uncountedGuesses).2
        ((loginSystem (Login.sample .user)).playAll uncountedGuesses).1 ∧
      ¬ BruteForceBound (Login.sample .user)
        ((loginSystem (Login.sample .user)).playAll uncountedGuesses).1 := by
  refine ⟨⟨Machine.run_of_admits (by decide), fun h => ?_⟩,
    Machine.run_of_admits (by decide), fun h => ?_⟩
  · exact absurd (h 0) (by decide)
  · exact absurd (h 0) (by decide)

end DarkTower.Ac
