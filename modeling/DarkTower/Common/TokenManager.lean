import DarkTower.Lib.Machine
import Mathlib.Algebra.Group.Int.Defs
import Mathlib.Algebra.Group.Nat.Defs

/-!
# The token manager (`common/src/token_manager.rs`)

The task of `token_refresh_loop` (token_manager.rs:513) together with
`spawn_token_manager` (token_manager.rs:474), which waits for its first token, and
with the receivers of the watch channel.

* The answers of the Auth Controller, the readings of the clock and the order of the
  two tasks are events. A reading is a Unix timestamp in seconds, any `i64`.
* `i64` arithmetic wraps around, as it does in a release build.
* The HTTP client is there; logs and the refresh callback are left out.

`StepRight` says of one step that its numbers are those of the integers, that the
back-off is the one of the failures so far, that the attempt after a success is not
late and that no receiver of a returned manager has an empty token. `StepFits` is the
condition on the step.

* `steps_right_iff`: in every run, the steps are all right iff they all meet the
  condition.
* `empty_token_sent`, `expiry_wraps`: two runs that do not.
-/

namespace DarkTower.Common.Token

open DarkTower.Lib

/-- The numbers of an `i64`. -/
def Fits (x : ℤ) : Prop := -2 ^ 63 ≤ x ∧ x < 2 ^ 63

instance (x : ℤ) : Decidable (Fits x) := inferInstanceAs (Decidable (_ ∧ _))

/-- The `i64` that a number wraps around to. -/
def toI64 (x : ℤ) : ℤ := (x + 2 ^ 63) % 2 ^ 64 - 2 ^ 63

theorem toI64_of_fits {x : ℤ} (h : Fits x) : toI64 x = x := by
  unfold Fits at h
  unfold toI64
  omega

/-! ## The constants and the requests -/

/-- `INITIAL_BACKOFF_MS` (token_manager.rs:69). -/
def initialBackoffMs : ℕ := 1000

/-- `MAX_BACKOFF_MS` (token_manager.rs:72). -/
def maxBackoffMs : ℕ := 30000

/-- `CLOCK_DRIFT_MARGIN_SECS` (token_manager.rs:88). -/
def clockDriftMarginSecs : ℤ := 30

/-- `TokenError` (token_manager.rs:96). -/
inductive TokenError
  | acquisitionFailed (message : String)
  | httpError (message : String)
  | authenticationRejected (message : String)
  | invalidResponse (message : String)
  | configuration (message : String)
  | channelClosed
deriving DecidableEq

/-- `OAuthTokenResponse` (token_manager.rs:425), without the fields that nothing reads. -/
structure OAuthTokenResponse where
  accessToken : String
  expiresIn : UInt64
deriving DecidableEq

/-- What the request to the Auth Controller comes to. -/
inductive HttpReply
  | sendFailed (message : String)
  /-- `statusText` is how the status is displayed; the body may fail to parse. -/
  | response (status : ℕ) (statusText : String) (body : Except String OAuthTokenResponse)

/-- `now + expires_in as i64` (token_manager.rs:681). -/
def expiresAtOf (now : ℤ) (expiresIn : UInt64) : ℤ := toI64 (now + toI64 expiresIn.toNat)

/-- `acquire_token` (token_manager.rs:639). -/
def acquireToken (reply : HttpReply) (now : ℤ) : Except TokenError (String × ℤ) :=
  match reply with
  | .sendFailed message => .error (.httpError message)
  | .response status statusText body =>
    if 200 ≤ status ∧ status < 300 then
      match body with
      | .error message => .error (.invalidResponse message)
      | .ok response => .ok (response.accessToken, expiresAtOf now response.expiresIn)
    else if status = 401 ∨ status = 400 then
      .error (.authenticationRejected ("Status " ++ statusText))
    else if 500 ≤ status ∧ status < 600 then
      .error (.httpError ("AC server error: " ++ statusText))
    else .error (.httpError ("Unexpected status: " ++ statusText))

/-! ## The task -/

/-- A sleep until the next refresh: the clock before it and its length in seconds. -/
structure Sleep where
  planned : ℤ
  secs : ℤ
deriving DecidableEq

/-- Where `token_refresh_loop` stands. -/
inductive LoopPc
  /-- Before the check; after a sleep until the next refresh, with that sleep. -/
  | top (slept : Option Sleep)
  | acquiring
  | backingOff
  /-- Before the computation of the sleep. -/
  | planning
  | sleeping (sleep : Sleep)
  | exited
deriving DecidableEq

/-- Where `spawn_token_manager` stands. -/
inductive SpawnPc
  | waiting
  | returned
  | failed (error : TokenError)
deriving DecidableEq

/-- The refresh loop with its channel. -/
structure TokenManager where
  pc : LoopPc
  backoff : ℕ
  expiresAt : Option ℤ
  /-- The value in the channel, and whether it is the initial one. -/
  token : String
  changed : Bool
  /-- Some receiver is left. -/
  receivers : Bool
  spawn : SpawnPc
  /-- A record: the failures since the last success. -/
  failures : ℕ
deriving DecidableEq

/-- A step of the loop or of its receivers. -/
inductive TokenEvent
  /-- The check at the top of the loop. -/
  | check (now : ℤ)
  /-- The answer of `acquire_token`. -/
  | answer (reply : HttpReply) (now : ℤ)
  /-- The computation of the sleep. -/
  | plan (now : ℤ)
  /-- A sleep is over. -/
  | wake
  /-- `spawn_token_manager` sees the first token. -/
  | spawnReturns
  | dropReceivers

/-- What a step does. -/
inductive TokenAction
  | attempt (now : ℤ)
  | backOff (millis : ℕ)
  | sleep (secs : ℤ)
  | send (token : String)
deriving DecidableEq

/-- `needs_refresh` (token_manager.rs:526). -/
def needsRefresh (refreshThreshold : UInt64) (exp now : ℤ) : Bool :=
  toI64 (exp - now) ≤ toI64 (toI64 refreshThreshold.toNat + clockDriftMarginSecs)

/-- `sleep_secs` (token_manager.rs:621); `as u64` keeps a number from 1 on. -/
def sleepSecs (refreshThreshold : UInt64) (exp now : ℤ) : ℤ :=
  max (toI64 (toI64 (toI64 (exp - toI64 refreshThreshold.toNat) - clockDriftMarginSecs) - now)) 1

namespace TokenManager

variable (refreshThreshold : UInt64) (s : TokenManager)

/-- The task with the token and its expiry. Without receivers, `send` fails and the loop
    ends. -/
def succeed (token : String) (expiresAt : ℤ) : TokenManager × List TokenAction :=
  if s.receivers then
    ({ s with
        pc := .planning
        backoff := initialBackoffMs
        expiresAt := some expiresAt
        token := token
        changed := true
        failures := 0 }, [.send token])
  else ({ s with pc := .exited, expiresAt := some expiresAt, failures := 0 }, [])

/-- One step; an event whose turn it is not does nothing. -/
def step : TokenEvent → TokenManager × List TokenAction
  | .check now =>
    match s.pc, s.expiresAt with
    | .top _, none => ({ s with pc := .acquiring }, [.attempt now])
    | .top _, some exp =>
      if needsRefresh refreshThreshold exp now then ({ s with pc := .acquiring }, [.attempt now])
      else ({ s with pc := .planning }, [])
    | _, _ => (s, [])
  | .answer reply now =>
    match s.pc, acquireToken reply now with
    | .acquiring, .ok (token, expiresAt) => s.succeed token expiresAt
    | .acquiring, .error _ =>
      ({ s with pc := .backingOff, failures := s.failures + 1 }, [.backOff s.backoff])
    | _, _ => (s, [])
  | .plan now =>
    match s.pc, s.expiresAt with
    | .planning, none => ({ s with pc := .sleeping ⟨now, 1⟩ }, [.sleep 1])
    | .planning, some exp =>
      let secs := sleepSecs refreshThreshold exp now
      ({ s with pc := .sleeping ⟨now, secs⟩ }, [.sleep secs])
    | _, _ => (s, [])
  | .wake =>
    match s.pc with
    | .backingOff =>
      ({ s with pc := .top none, backoff := min (s.backoff * 2 % 2 ^ 64) maxBackoffMs }, [])
    | .sleeping sleep => ({ s with pc := .top (some sleep) }, [])
    | _ => (s, [])
  | .spawnReturns =>
    if s.spawn = .waiting ∧ s.changed = true then
      if s.token = "" then
        ({ s with
            spawn := .failed (.acquisitionFailed "Token is empty after acquisition")
            receivers := false }, [])
      else ({ s with spawn := .returned }, [])
    else (s, [])
  | .dropReceivers =>
    if s.spawn = .returned then ({ s with receivers := false }, []) else (s, [])

end TokenManager

/-- The clock that an event reads. -/
def TokenEvent.now? : TokenEvent → Option ℤ
  | .check now | .answer _ now | .plan now => some now
  | .wake | .spawnReturns | .dropReceivers => none

/-- A manager with its receiver, before the first request. Readings are `i64`s. -/
def tokenMachine (refreshThreshold : UInt64) :
    Machine TokenManager TokenEvent (List TokenAction) where
  init := ⟨.top none, initialBackoffMs, none, "", false, true, .waiting, 0⟩
  step s e := s.step refreshThreshold e
  allowed _ _ e := ∀ now ∈ e.now?, Fits now

/-! ## When a step is right -/

/-- The token that an answer brings. -/
def HttpReply.token? : HttpReply → Option OAuthTokenResponse
  | .response status _ (.ok r) => if 200 ≤ status ∧ status < 300 then some r else none
  | _ => none

section

variable (threshold exp now : ℤ)

/-- The numbers of a check. -/
def CheckFits : Prop :=
  Fits threshold ∧ Fits (threshold + clockDriftMarginSecs) ∧ Fits (exp - now)

/-- The numbers of a sleep. -/
def PlanFits : Prop :=
  Fits threshold ∧ Fits (exp - threshold) ∧ Fits (exp - threshold - clockDriftMarginSecs) ∧
    Fits (exp - threshold - clockDriftMarginSecs - now)

/-- The numbers of an expiry. -/
def ExpiryFits (expiresIn : ℤ) : Prop := Fits expiresIn ∧ Fits (now + expiresIn)

/-- The moment at which the remaining lifetime is the threshold and the margin. -/
def refreshAt : ℤ := exp - threshold - clockDriftMarginSecs

end

/-- The back-off after a number of failures and one more. -/
def backoffAfter (failures : ℕ) : ℕ := min (initialBackoffMs * 2 ^ failures) maxBackoffMs

section

variable (refreshThreshold : UInt64) (s : TokenManager)

/-- The numbers of a step are those of the integers, a failed attempt backs off for as long
    as its predecessors ask for, and the attempt after a success comes before the lifetime
    has dropped below the threshold and the margin, or one second after it had. -/
def NumbersRight : TokenEvent → Prop
  | .check now => ∀ slept exp, s.pc = .top slept → s.expiresAt = some exp →
      CheckFits refreshThreshold.toNat exp now ∧
        ((s.step refreshThreshold (.check now)).1.pc = .acquiring ↔
          exp - now ≤ refreshThreshold.toNat + clockDriftMarginSecs) ∧
        ((s.step refreshThreshold (.check now)).1.pc = .acquiring → s.failures = 0 →
          ∀ x ∈ slept, now ≤ max (refreshAt refreshThreshold.toNat exp) (x.planned + 1))
  | .answer reply now => s.pc = .acquiring →
      (∀ r ∈ reply.token?, ExpiryFits now r.expiresIn.toNat ∧
        (s.step refreshThreshold (.answer reply now)).1.expiresAt =
          some (now + r.expiresIn.toNat)) ∧
      (reply.token? = none → (s.step refreshThreshold (.answer reply now)).2 =
        [.backOff (backoffAfter s.failures)])
  | .plan now => ∀ exp, s.pc = .planning → s.expiresAt = some exp →
      PlanFits refreshThreshold.toNat exp now ∧
        (s.step refreshThreshold (.plan now)).2 =
          [.sleep (max (refreshAt refreshThreshold.toNat exp - now) 1)]
  | _ => True

/-- A step is right: its numbers are, and the receivers of a manager that has returned have
    a token. -/
def StepRight (e : TokenEvent) : Prop :=
  NumbersRight refreshThreshold s e ∧
    ((s.step refreshThreshold e).1.spawn = .returned → (s.step refreshThreshold e).1.token ≠ "")

/-- The condition on a step: its sums fit into an `i64`, the clock has not advanced by more
    than the sleep, and no empty token comes once the manager has returned. -/
def StepFits : TokenEvent → Prop
  | .check now => ∀ slept exp, s.pc = .top slept → s.expiresAt = some exp →
      CheckFits refreshThreshold.toNat exp now ∧
        (s.failures = 0 → ∀ x ∈ slept, now ≤ x.planned + x.secs)
  | .answer reply now => s.pc = .acquiring → ∀ r ∈ reply.token?,
      ExpiryFits now r.expiresIn.toNat ∧
        (s.spawn = .returned → s.receivers = true → r.accessToken ≠ "")
  | .plan now => ∀ exp, s.pc = .planning → s.expiresAt = some exp →
      PlanFits refreshThreshold.toNat exp now
  | _ => True

/-- What holds between the steps that meet the condition. -/
structure Sound : Prop where
  token : s.spawn = .returned → s.token ≠ ""
  backoff : s.pc ≠ .backingOff → s.pc ≠ .exited → s.backoff = backoffAfter s.failures
  backedOff : s.pc = .backingOff → ∃ k, s.failures = k + 1 ∧ s.backoff = backoffAfter k
  sleeps : ∀ x exp, s.pc = .sleeping x ∨ s.pc = .top (some x) → s.expiresAt = some exp →
    x.secs = max (refreshAt refreshThreshold.toNat exp - x.planned) 1

end

/-! ## The numbers -/

section

variable {refreshThreshold : UInt64} {exp now : ℤ}

theorem needsRefresh_iff (h : CheckFits refreshThreshold.toNat exp now) :
    needsRefresh refreshThreshold exp now = true ↔
      exp - now ≤ refreshThreshold.toNat + clockDriftMarginSecs := by
  unfold needsRefresh
  rw [toI64_of_fits h.1, toI64_of_fits h.2.1, toI64_of_fits h.2.2, decide_eq_true_iff]

theorem sleepSecs_eq (h : PlanFits refreshThreshold.toNat exp now) :
    sleepSecs refreshThreshold exp now =
      max (refreshAt refreshThreshold.toNat exp - now) 1 := by
  unfold sleepSecs refreshAt
  rw [toI64_of_fits h.1, toI64_of_fits h.2.1, toI64_of_fits h.2.2.1, toI64_of_fits h.2.2.2]

theorem expiresAtOf_eq {expiresIn : UInt64} (h : ExpiryFits now expiresIn.toNat) :
    expiresAtOf now expiresIn = now + expiresIn.toNat := by
  unfold expiresAtOf
  rw [toI64_of_fits h.1, toI64_of_fits h.2]

theorem acquireToken_of_token {reply : HttpReply} {r : OAuthTokenResponse}
    (h : reply.token? = some r) :
    acquireToken reply now = .ok (r.accessToken, expiresAtOf now r.expiresIn) := by
  unfold HttpReply.token? at h
  split at h
  · rename_i status statusText r
    split_ifs at h with hok
    obtain rfl := Option.some.inj h
    unfold acquireToken
    simp only
    rw [if_pos hok]
  · cases h

theorem acquireToken_of_none {reply : HttpReply} (h : reply.token? = none) (now : ℤ) :
    ∃ e, acquireToken reply now = .error e := by
  unfold acquireToken
  split
  · exact ⟨_, rfl⟩
  · rename_i status statusText body
    split_ifs with hok
    · cases body with
      | error message => exact ⟨_, rfl⟩
      | ok r =>
        rw [HttpReply.token?, if_pos hok] at h
        cases h
    all_goals exact ⟨_, rfl⟩

/-- The next back-off: doubled, up to the maximum. -/
theorem backoffAfter_succ (k : ℕ) :
    min (backoffAfter k * 2 % 2 ^ 64) maxBackoffMs = backoffAfter (k + 1) := by
  have hsmall : backoffAfter k * 2 < 2 ^ 64 := by
    have hle : backoffAfter k ≤ maxBackoffMs := Nat.min_le_right _ _
    unfold maxBackoffMs at hle
    omega
  rw [Nat.mod_eq_of_lt hsmall]
  unfold backoffAfter initialBackoffMs maxBackoffMs
  rw [Nat.pow_succ]
  omega

end

/-! ## What a step does -/

section

variable {refreshThreshold : UInt64} {s : TokenManager}

theorem step_check {slept : Option Sleep} {exp : ℤ} (hpc : s.pc = .top slept)
    (hexp : s.expiresAt = some exp) (now : ℤ) :
    s.step refreshThreshold (.check now) =
      if needsRefresh refreshThreshold exp now then ({ s with pc := .acquiring }, [.attempt now])
      else ({ s with pc := .planning }, []) := by
  rw [TokenManager.step, hpc, hexp]

theorem step_plan_none (hpc : s.pc = .planning) (hexp : s.expiresAt = none) (now : ℤ) :
    s.step refreshThreshold (.plan now) = ({ s with pc := .sleeping ⟨now, 1⟩ }, [.sleep 1]) := by
  rw [TokenManager.step, hpc, hexp]

theorem step_plan {exp : ℤ} (hpc : s.pc = .planning) (hexp : s.expiresAt = some exp) (now : ℤ) :
    s.step refreshThreshold (.plan now) =
      ({ s with pc := .sleeping ⟨now, sleepSecs refreshThreshold exp now⟩ },
        [.sleep (sleepSecs refreshThreshold exp now)]) := by
  rw [TokenManager.step, hpc, hexp]

theorem step_answer_token {reply : HttpReply} {r : OAuthTokenResponse} (hpc : s.pc = .acquiring)
    (hr : reply.token? = some r) (now : ℤ) :
    s.step refreshThreshold (.answer reply now) =
      s.succeed r.accessToken (expiresAtOf now r.expiresIn) := by
  rw [TokenManager.step, hpc, acquireToken_of_token hr]

theorem step_answer_failure {reply : HttpReply} (hpc : s.pc = .acquiring)
    (hr : reply.token? = none) (now : ℤ) :
    s.step refreshThreshold (.answer reply now) =
      ({ s with pc := .backingOff, failures := s.failures + 1 }, [.backOff s.backoff]) := by
  obtain ⟨e, he⟩ := acquireToken_of_none hr now
  rw [TokenManager.step, hpc, he]

theorem step_plan_of_ne {now : ℤ} (hpc : s.pc ≠ .planning) :
    s.step refreshThreshold (.plan now) = (s, []) := by
  simp only [TokenManager.step]
  split
  · exact absurd ‹_› hpc
  · exact absurd ‹_› hpc
  · rfl

theorem step_answer_of_ne (hpc : s.pc ≠ .acquiring) (reply : HttpReply) (now : ℤ) :
    s.step refreshThreshold (.answer reply now) = (s, []) := by
  simp only [TokenManager.step]
  split
  · rename_i token expiresAt hacquiring _
    exact absurd hacquiring hpc
  · rename_i e hacquiring _
    exact absurd hacquiring hpc
  · rfl

theorem succeed_expiresAt (token : String) (expiresAt : ℤ) :
    (s.succeed token expiresAt).1.expiresAt = some expiresAt := by
  unfold TokenManager.succeed
  split_ifs <;> rfl

theorem succeed_token (token : String) (expiresAt : ℤ) :
    (s.succeed token expiresAt).1.token = if s.receivers then token else s.token := by
  unfold TokenManager.succeed
  split_ifs <;> rfl

theorem succeed_spawn (token : String) (expiresAt : ℤ) :
    (s.succeed token expiresAt).1.spawn = s.spawn := by
  unfold TokenManager.succeed
  split_ifs <;> rfl

/-- The manager returns with a token; what the loop does between two answers does not
    touch it. -/
theorem token_step (h : s.spawn = .returned → s.token ≠ "") {e : TokenEvent}
    (he : ∀ reply now, e ≠ .answer reply now)
    (hspawn : (s.step refreshThreshold e).1.spawn = .returned) :
    (s.step refreshThreshold e).1.token ≠ "" := by
  unfold TokenManager.step at hspawn ⊢
  split at hspawn
  · split at hspawn
    · exact h hspawn
    · split_ifs at hspawn ⊢ <;> exact h hspawn
    · exact h hspawn
  · exact absurd rfl (he _ _)
  · split at hspawn <;> exact h hspawn
  · split at hspawn <;> exact h hspawn
  · split_ifs at hspawn ⊢ with hchanged hempty
    · exact hempty
    · exact h hspawn
  · split_ifs at hspawn ⊢ <;> exact h hspawn

/-- By cases on the event: the numbers are right where they fit, the deadline of an attempt is
    the end of the sleep before it, and only an answer can bring an empty token. -/
theorem stepRight_iff (hs : Sound refreshThreshold s) (e : TokenEvent) :
    StepRight refreshThreshold s e ↔ StepFits refreshThreshold s e := by
  cases e with
  | check now =>
    rw [StepRight, and_iff_left (token_step hs.token (by nofun))]
    refine forall₂_congr fun slept exp => forall₂_congr fun hpc hexp => ?_
    refine and_congr_right fun hfits => ?_
    have hcheck := needsRefresh_iff hfits
    have hattempt : (s.step refreshThreshold (.check now)).1.pc = .acquiring ↔
        exp - now ≤ refreshThreshold.toNat + clockDriftMarginSecs := by
      rw [step_check hpc hexp, ← hcheck]
      split_ifs with hneeds <;> simp [hneeds]
    rw [and_iff_right hattempt, hattempt]
    constructor
    · intro hlate hfailures x hx
      have hsecs := hs.sleeps x exp (.inr (by rw [hpc, hx])) hexp
      by_cases hdue : exp - now ≤ refreshThreshold.toNat + clockDriftMarginSecs
      · have hby := hlate hdue hfailures x hx
        omega
      · unfold refreshAt at hsecs
        omega
    · intro hwake _ hfailures x hx
      have hsecs := hs.sleeps x exp (.inr (by rw [hpc, hx])) hexp
      have hby := hwake hfailures x hx
      omega
  | answer reply now =>
    simp only [StepRight, NumbersRight, StepFits]
    by_cases hpc : s.pc = .acquiring
    · cases hr : reply.token? with
      | none =>
        have hbackoff := hs.backoff (by rw [hpc]; nofun) (by rw [hpc]; nofun)
        rw [step_answer_failure hpc hr]
        simpa [hbackoff] using hs.token
      | some r =>
        rw [step_answer_token hpc hr, succeed_expiresAt, succeed_token, succeed_spawn]
        simp only [hpc, forall_const, Option.mem_some_iff, forall_eq', reduceCtorEq,
          IsEmpty.forall_iff, and_true]
        constructor
        · rintro ⟨⟨hfits, _⟩, htoken⟩
          refine ⟨hfits, fun hspawn hreceivers => ?_⟩
          have hne := htoken hspawn
          rwa [if_pos hreceivers] at hne
        · rintro ⟨hfits, htoken⟩
          refine ⟨⟨hfits, by rw [expiresAtOf_eq hfits]⟩, fun hspawn => ?_⟩
          split_ifs with hreceivers
          · exact htoken hspawn hreceivers
          · exact hs.token hspawn
    · rw [step_answer_of_ne hpc]
      exact iff_of_true ⟨fun h => absurd h hpc, hs.token⟩ fun h => absurd h hpc
  | plan now =>
    rw [StepRight, and_iff_left (token_step hs.token (by nofun))]
    refine forall_congr' fun exp => forall₂_congr fun hpc hexp => ?_
    refine and_iff_left_of_imp fun hfits => ?_
    rw [step_plan hpc hexp, sleepSecs_eq hfits]
  | wake | spawnReturns | dropReceivers =>
    rw [StepRight, and_iff_left (token_step hs.token (by nofun))]
    exact Iff.rfl

/-- The loop goes from one place to another, neither a back-off. -/
theorem Sound.goTo (hs : Sound refreshThreshold s) (hback : s.pc ≠ .backingOff)
    (hexited : s.pc ≠ .exited) {pc : LoopPc} (hpc : pc ≠ .backingOff)
    (hsleeps : ∀ x exp, pc = .sleeping x ∨ pc = .top (some x) → s.expiresAt = some exp →
      x.secs = max (refreshAt refreshThreshold.toNat exp - x.planned) 1) :
    Sound refreshThreshold { s with pc := pc } where
  token := hs.token
  backoff _ _ := hs.backoff hback hexited
  backedOff h := absurd h hpc
  sleeps := hsleeps

/-- A success starts the back-off again. -/
theorem Sound.succeed {token : String} {expiresAt : ℤ}
    (htoken : (s.succeed token expiresAt).1.spawn = .returned →
      (s.succeed token expiresAt).1.token ≠ "") :
    Sound refreshThreshold (s.succeed token expiresAt).1 := by
  refine ⟨htoken, ?_, ?_, ?_⟩ <;> unfold TokenManager.succeed <;> split_ifs
  · intro _ _
    rfl
  · intro _ hexited
    exact absurd rfl hexited
  all_goals simp

/-- By cases on the event, and on where the loop stands. -/
theorem Sound.step (hs : Sound refreshThreshold s) {e : TokenEvent}
    (hfits : StepFits refreshThreshold s e) :
    Sound refreshThreshold (s.step refreshThreshold e).1 := by
  have htoken := ((stepRight_iff hs e).mpr hfits).2
  cases e with
  | check now =>
    simp only [TokenManager.step] at htoken ⊢
    split
    · rename_i slept hpc _
      exact hs.goTo (by rw [hpc]; nofun) (by rw [hpc]; nofun) (by nofun) (by simp)
    · rename_i slept exp hpc _
      split_ifs
      all_goals exact hs.goTo (by rw [hpc]; nofun) (by rw [hpc]; nofun) (by nofun) (by simp)
    · exact hs
  | answer reply now =>
    by_cases hpc : s.pc = .acquiring
    · cases hr : reply.token? with
      | none =>
        have hbackoff := hs.backoff (by rw [hpc]; nofun) (by rw [hpc]; nofun)
        rw [step_answer_failure hpc hr]
        exact ⟨hs.token, fun h => absurd rfl h, fun _ => ⟨_, rfl, hbackoff⟩, by simp⟩
      | some r =>
        rw [step_answer_token hpc hr] at htoken ⊢
        exact Sound.succeed htoken
    · rw [step_answer_of_ne hpc]
      exact hs
  | plan now =>
    by_cases hpc : s.pc = .planning
    · cases hexp : s.expiresAt with
      | none =>
        rw [step_plan_none hpc hexp]
        refine hs.goTo (by rw [hpc]; nofun) (by rw [hpc]; nofun) (by nofun) ?_
        simp [hexp]
      | some exp =>
        rw [step_plan hpc hexp, sleepSecs_eq (hfits exp hpc hexp)]
        refine hs.goTo (by rw [hpc]; nofun) (by rw [hpc]; nofun) (by nofun) ?_
        rintro x exp' (hx | hx) hexp'
        · obtain rfl := Option.some.inj (hexp.symm.trans hexp')
          obtain rfl := LoopPc.sleeping.inj hx
          rfl
        · cases hx
    · rw [step_plan_of_ne hpc]
      exact hs
  | wake =>
    simp only [TokenManager.step] at htoken ⊢
    split
    · rename_i hpc
      obtain ⟨k, hfailures, hbackoff⟩ := hs.backedOff hpc
      refine ⟨hs.token, fun _ _ => ?_, nofun, by simp⟩
      rw [hbackoff, hfailures, backoffAfter_succ]
    · rename_i sleep hpc
      refine hs.goTo (by rw [hpc]; nofun) (by rw [hpc]; nofun) (by nofun) ?_
      rintro x exp (hx | hx) hexp
      · cases hx
      · obtain rfl := Option.some.inj (LoopPc.top.inj hx)
        exact hs.sleeps sleep exp (.inl hpc) hexp
    · exact hs
  | spawnReturns | dropReceivers =>
    refine ⟨htoken, ?_, ?_, ?_⟩ <;> simp only [TokenManager.step] <;> split_ifs
    all_goals first | exact hs.backoff | exact hs.backedOff | exact hs.sleeps

/-- The initial state has no token, no failure and no sleep. -/
theorem Sound.init : Sound refreshThreshold (tokenMachine refreshThreshold).init :=
  ⟨nofun, fun _ _ => rfl, nofun, by simp [tokenMachine]⟩

end

/-! ## Runs -/

/-- In every run, the steps are all right iff they all meet the condition. -/
theorem steps_right_iff {refreshThreshold : UInt64}
    {h : List (TokenEvent × List TokenAction)} {s : TokenManager}
    (hr : (tokenMachine refreshThreshold).Run h s) :
    (∀ e a h', (e, a) :: h' <:+ h →
        StepRight refreshThreshold ((tokenMachine refreshThreshold).stateAfter h') e) ↔
      ∀ e a h', (e, a) :: h' <:+ h →
        StepFits refreshThreshold ((tokenMachine refreshThreshold).stateAfter h') e :=
  Machine.Run.steps_iff Sound.init (fun _ _ e _ _ hs => stepRight_iff hs e)
    (fun _ _ _ _ _ hs hfits => hs.step hfits) hr

/-! ## Two runs that go wrong -/

/-- The answer with a token. -/
def issued (accessToken : String) (expiresIn : UInt64) : HttpReply :=
  .response 200 "200 OK" (.ok ⟨accessToken, expiresIn⟩)

/-- A token for an hour, refreshed five minutes and the margin before its end. -/
def refreshed (second : String) : List TokenEvent :=
  [.check 0, .answer (issued "jwt" 3600) 0, .spawnReturns, .plan 0, .wake, .check 3270,
    .answer (issued second 3600) 3270]

theorem run_refreshed (second : String) :
    (tokenMachine 300).Run ((tokenMachine 300).playAll (refreshed second)).2
      ((tokenMachine 300).playAll (refreshed second)).1 := by
  apply Machine.run_of_admits
  simp [refreshed, Machine.Admits, tokenMachine, TokenEvent.now?, Fits]

theorem steps_right_refreshed :
    (tokenMachine 300).Run ((tokenMachine 300).playAll (refreshed "jwt2")).2
        ((tokenMachine 300).playAll (refreshed "jwt2")).1 ∧
      ((∀ e a h', (e, a) :: h' <:+ ((tokenMachine 300).playAll (refreshed "jwt2")).2 →
          StepRight 300 ((tokenMachine 300).stateAfter h') e) ↔
        ∀ e a h', (e, a) :: h' <:+ ((tokenMachine 300).playAll (refreshed "jwt2")).2 →
          StepFits 300 ((tokenMachine 300).stateAfter h') e) :=
  ⟨run_refreshed "jwt2", steps_right_iff (run_refreshed "jwt2")⟩

/-- The manager has returned, and the answer to its refresh has an empty token. -/
theorem empty_token_sent :
    (tokenMachine 300).Run ((tokenMachine 300).playAll (refreshed "")).2
        ((tokenMachine 300).playAll (refreshed "")).1 ∧
      ((tokenMachine 300).playAll (refreshed "")).1.spawn = .returned ∧
      ((tokenMachine 300).playAll (refreshed "")).1.receivers = true ∧
      ((tokenMachine 300).playAll (refreshed "")).1.token = "" :=
  ⟨run_refreshed "", by decide, by decide, by decide⟩

/-- A lifetime of `2 ^ 63` seconds ends before it began. -/
theorem expiry_wraps :
    expiresAtOf 1 9223372036854775808 = 1 - 2 ^ 63 ∧
      ¬ ExpiryFits 1 (9223372036854775808 : UInt64).toNat := by
  refine ⟨by decide, fun h => ?_⟩
  have hfits := h.1.2
  simp at hfits

end DarkTower.Common.Token
