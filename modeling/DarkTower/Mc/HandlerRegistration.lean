import DarkTower.Lib.Machine
import DarkTower.Mc.Assignment

/-!
# The registration of a meeting with its handlers (`mc-service/src/webtransport/connection.rs`)

The task `register_meeting_with_handlers` (connection.rs:748), and the token that
cancels it at any time. The result of every RPC is part of an event, as is the branch of
`select!` that is taken when a back-off is over and the token is cancelled. The check of the token
and the start of the RPC behind it are one step. Errors are only logged, so their type is a
parameter; logs are left out.

* `fanOut`: in every run the calls are, handler by handler in order, results up to the
  first success or the third failure, then some failures of the handler that is next. Unless
  it is cancelled, the task returns only when all handlers have been served, and it returns
  after at most nine steps for each of them. After the cancellation there is no further call.
-/

namespace DarkTower.Mc

open DarkTower.Lib

/-- `MAX_REGISTER_ATTEMPTS` (connection.rs:42). -/
def maxRegisterAttempts : ℕ := 3

/-- `REGISTER_BACKOFF_DELAYS` (connection.rs:45), in seconds. -/
def registerBackoffDelays : List ℕ := [1, 2]

/-- Where the task stands, with the handler that the outer loop has reached and the ones
    behind it. -/
inductive RegisterPc
  /-- Before the check of the token. -/
  | check (handler : MhEndpointInfo) (rest : List MhEndpointInfo) (attempt : ℕ)
  /-- The RPC is under way. -/
  | calling (handler : MhEndpointInfo) (rest : List MhEndpointInfo) (attempt : ℕ)
  | backingOff (handler : MhEndpointInfo) (rest : List MhEndpointInfo) (attempt : ℕ)
  | returned
deriving DecidableEq

/-- The task that registers a meeting with a handler. -/
structure RegisterTask where
  pc : RegisterPc
  /-- The token is cancelled. -/
  cancelled : Bool
deriving DecidableEq

/-- A step of the task, or of what it waits for. -/
inductive RegisterEvent (ε : Type)
  /-- The task checks the token and starts the RPC. -/
  | poll
  /-- The RPC ends. -/
  | answer (result : Except ε Unit)
  /-- The back-off is over. -/
  | timer
  /-- `select!` takes the branch of the token. -/
  | cancelSeen
  /-- The token is cancelled from outside. -/
  | cancel

/-- What a step does. -/
inductive RegisterAct (ε : Type)
  | contact (handler : MhEndpointInfo)
  | result (handler : MhEndpointInfo) (result : Except ε Unit)
  | backOff (secs : ℕ)

section

variable {ε : Type}

/-- The next iteration of the outer loop. -/
def RegisterPc.next : List MhEndpointInfo → RegisterPc
  | [] => .returned
  | handler :: rest => .check handler rest 1

/-- The next iteration of the inner loop. -/
def RegisterPc.retry (handler : MhEndpointInfo) (rest : List MhEndpointInfo) (attempt : ℕ) :
    RegisterPc :=
  if attempt < maxRegisterAttempts then .check handler rest (attempt + 1) else .next rest

/-- One step; an event whose turn it is not does nothing. -/
def RegisterTask.step (s : RegisterTask) : RegisterEvent ε → RegisterTask × List (RegisterAct ε)
  | .poll =>
    match s.pc with
    | .check handler rest attempt =>
      if s.cancelled then ({ s with pc := .returned }, [])
      else ({ s with pc := .calling handler rest attempt }, [.contact handler])
    | _ => (s, [])
  | .answer result =>
    match s.pc, result with
    | .calling handler rest _, .ok () =>
      ({ s with pc := .next rest }, [.result handler (.ok ())])
    | .calling handler rest attempt, .error e =>
      match registerBackoffDelays[attempt - 1]? with
      | some delay =>
        ({ s with pc := .backingOff handler rest attempt },
          [.result handler (.error e), .backOff delay])
      | none =>
        ({ s with pc := .retry handler rest attempt }, [.result handler (.error e)])
    | _, _ => (s, [])
  | .timer =>
    match s.pc with
    | .backingOff handler rest attempt => ({ s with pc := .retry handler rest attempt }, [])
    | _ => (s, [])
  | .cancelSeen =>
    match s.pc with
    | .backingOff _ _ _ => if s.cancelled then ({ s with pc := .returned }, []) else (s, [])
    | _ => (s, [])
  | .cancel => ({ s with cancelled := true }, [])

variable (ε) in
/-- The task for the handlers of `mh_data`. -/
def registerMachine (handlers : List MhEndpointInfo) :
    Machine RegisterTask (RegisterEvent ε) (List (RegisterAct ε)) where
  init := ⟨.next handlers, false⟩
  step := RegisterTask.step
  allowed _ _ _ := True

/-! ## What a run did -/

/-- What the task did, oldest first. -/
def registerActs (h : List (RegisterEvent ε × List (RegisterAct ε))) : List (RegisterAct ε) :=
  h.reverse.flatMap (·.2)

/-- The handlers contacted. -/
def contacts (acts : List (RegisterAct ε)) : List MhEndpointInfo :=
  acts.filterMap fun
    | .contact handler => some handler
    | _ => none

/-- The calls that have ended, with their results. -/
def results (acts : List (RegisterAct ε)) : List (MhEndpointInfo × Except ε Unit) :=
  acts.filterMap fun
    | .result handler result => some (handler, result)
    | _ => none

/-- A handler and the results of its calls. -/
structure Served (ε : Type) where
  handler : MhEndpointInfo
  results : List (Except ε Unit)

/-- The calls of a handler. -/
def Served.calls (b : Served ε) : List (MhEndpointInfo × Except ε Unit) :=
  b.results.map (b.handler, ·)

/-- All of them are failures. -/
def Failures (l : List (Except ε Unit)) : Prop := ∀ result ∈ l, ∃ e, result = .error e

/-- The calls of a handler end with its first success or its third failure. -/
def Served.Ended (b : Served ε) : Prop :=
  Failures b.results ∧ b.results.length = maxRegisterAttempts ∨
    ∃ failures, Failures failures ∧ failures.length < maxRegisterAttempts ∧
      b.results = failures ++ [.ok ()]

/-- The handler whose RPC is under way. -/
def RegisterPc.inFlight : RegisterPc → List MhEndpointInfo
  | .calling handler _ _ => [handler]
  | _ => []

/-- The step is one that the task waits for. -/
def RegisterTask.turn (s : RegisterTask) (e : RegisterEvent ε) : Bool :=
  match e, s.pc with
  | .poll, .check _ _ _ => true
  | .answer _, .calling _ _ _ => true
  | .timer, .backingOff _ _ _ => true
  | .cancelSeen, .backingOff _ _ _ => s.cancelled
  | _, _ => false

/-- A history of the task. -/
abbrev RegisterHistory (ε : Type) := List (RegisterEvent ε × List (RegisterAct ε))

/-- How many steps the task has made. -/
def turns (handlers : List MhEndpointInfo) : RegisterHistory ε → ℕ
  | [] => 0
  | (e, _) :: h =>
    turns handlers h + (((registerMachine ε handlers).stateAfter h).turn e).toNat

/-- Where the task stands, after so many failures of the first handler that is left. -/
def RegisterPc.At (left : List MhEndpointInfo) (failures : ℕ) : RegisterPc → Prop
  | .check handler rest attempt | .calling handler rest attempt =>
    left = handler :: rest ∧ attempt = failures + 1
  | .backingOff handler rest attempt =>
    left = handler :: rest ∧ attempt = failures ∧ 0 < failures
  | .returned => True

/-- What the task did and where it stands: the handlers `served`, then the failures
    `current` of the first handler that is left. -/
structure Trace (handlers : List MhEndpointInfo) (acts : List (RegisterAct ε))
    (s : RegisterTask) (served : List (Served ε)) (left : List MhEndpointInfo)
    (current : List (Except ε Unit)) : Prop where
  handlers : handlers = served.map (·.handler) ++ left
  ended : ∀ b ∈ served, b.Ended
  failures : Failures current ∧ current.length < maxRegisterAttempts
  ends : results acts = served.flatMap Served.calls ++
    left.head?.toList.flatMap fun handler => current.map (handler, ·)
  starts : contacts acts = (results acts).map (·.1) ++ s.pc.inFlight
  pc : s.pc.At left current.length
  returned : s.pc = .returned → s.cancelled = false → left = []

/-- The task in a history and the state it leads to. -/
structure FanOut (handlers : List MhEndpointInfo) (h : RegisterHistory ε) (s : RegisterTask) :
    Prop where
  trace : ∃ served left current, Trace handlers (registerActs h) s served left current
  afterCancel : ∀ e a h', (e, a) :: h' <:+ h → (∃ x ∈ h', x.1 = .cancel) → contacts a = []
  bounded : turns handlers h ≤ 9 * handlers.length
  waits : s.pc ≠ .returned → ∃ e : RegisterEvent ε, s.turn e = true

/-! ## The trace -/

variable {handlers left : List MhEndpointInfo} {served : List (Served ε)}
  {current : List (Except ε Unit)} {acts acts' : List (RegisterAct ε)} {s : RegisterTask}
  {handler : MhEndpointInfo} {rest : List MhEndpointInfo} {attempt : ℕ}

theorem contacts_append : contacts (acts ++ acts') = contacts acts ++ contacts acts' :=
  List.filterMap_append

theorem results_append : results (acts ++ acts') = results acts ++ results acts' :=
  List.filterMap_append

theorem registerActs_cons (x : RegisterEvent ε × List (RegisterAct ε)) (h : RegisterHistory ε) :
    registerActs (x :: h) = registerActs h ++ x.2 := by
  simp [registerActs]

theorem Failures.concat {l : List (Except ε Unit)} (h : Failures l) (e : ε) :
    Failures (l ++ [.error e]) := by
  intro result hresult
  rcases List.mem_append.mp hresult with hresult | hresult
  · exact h result hresult
  · exact ⟨e, List.mem_singleton.mp hresult⟩

/-- The task goes on without a call. -/
theorem Trace.goTo (ht : Trace handlers acts s served left current) {pc : RegisterPc}
    (hcalling : s.pc.inFlight = []) (hpc : pc.inFlight = []) (hat : pc.At left current.length)
    (hreturned : pc = .returned → s.cancelled = false → left = []) :
    Trace handlers (acts ++ []) { s with pc := pc } served left current := by
  refine ⟨ht.handlers, ht.ended, ht.failures, ?_, ?_, hat, hreturned⟩
  · rw [List.append_nil, ht.ends]
  · rw [List.append_nil, ht.starts, hcalling, hpc]

/-- The task returns when it has been cancelled. -/
theorem Trace.exit (ht : Trace handlers acts s served left current)
    (hcalling : s.pc.inFlight = []) (hcancelled : s.cancelled = true) :
    Trace handlers (acts ++ []) { s with pc := .returned } served left current := by
  refine ht.goTo hcalling rfl trivial fun _ hnot => ?_
  rw [hcancelled] at hnot
  cases hnot

/-- A call begins. -/
theorem Trace.contact (ht : Trace handlers acts s served left current)
    (hpc : s.pc = .check handler rest attempt) :
    Trace handlers (acts ++ [.contact handler]) { s with pc := .calling handler rest attempt }
      served left current := by
  have hat := ht.pc
  have hcontacts := ht.starts
  rw [hpc] at hat hcontacts
  refine ⟨ht.handlers, ht.ended, ht.failures, ?_, ?_, hat, by nofun⟩
  · rw [results_append, ht.ends]
    exact List.append_nil _
  · rw [contacts_append, results_append, hcontacts]
    simp [results, contacts, RegisterPc.inFlight]

/-- A call fails, and others of its handler follow. -/
theorem Trace.failed (ht : Trace handlers acts s served left current)
    (hpc : s.pc = .calling handler rest attempt) (hattempt : attempt < maxRegisterAttempts)
    (e : ε) (delay : ℕ) :
    Trace handlers (acts ++ [.result handler (.error e), .backOff delay])
      { s with pc := .backingOff handler rest attempt } served left (current ++ [.error e]) := by
  have hat := ht.pc
  have hcontacts := ht.starts
  rw [hpc] at hat hcontacts
  obtain ⟨rfl, rfl⟩ := hat
  refine ⟨ht.handlers, ht.ended, ⟨ht.failures.1.concat e, ?_⟩, ?_, ?_, ?_, by nofun⟩
  · rw [List.length_append]
    exact hattempt
  · rw [results_append, ht.ends]
    simp [results]
  · rw [contacts_append, results_append, hcontacts]
    simp [results, contacts, RegisterPc.inFlight]
  · refine ⟨rfl, ?_, ?_⟩ <;> simp

/-- The last call of a handler ends, and the task goes to the next one. -/
theorem Trace.next (ht : Trace handlers acts s served left current)
    (hpc : s.pc = .calling handler rest attempt) (result : Except ε Unit)
    (hended : Served.Ended ⟨handler, current ++ [result]⟩) :
    Trace handlers (acts ++ [.result handler result]) { s with pc := .next rest }
      (served ++ [⟨handler, current ++ [result]⟩]) rest [] := by
  have hat := ht.pc
  have hcontacts := ht.starts
  rw [hpc] at hat hcontacts
  obtain ⟨rfl, rfl⟩ := hat
  refine ⟨?_, ?_, ⟨by nofun, Nat.zero_lt_succ 2⟩, ?_, ?_, ?_, ?_⟩
  · rw [ht.handlers]
    simp
  · intro b hb
    rcases List.mem_append.mp hb with hb | hb
    · exact ht.ended b hb
    · rw [List.mem_singleton.mp hb]
      exact hended
  · rw [results_append, ht.ends]
    cases rest <;> simp [results, Served.calls]
  · rw [contacts_append, results_append, hcontacts]
    cases rest <;> simp [results, contacts, RegisterPc.inFlight, RegisterPc.next]
  · cases rest with
    | nil => trivial
    | cons handler' rest => exact ⟨rfl, rfl⟩
  · intro hreturned _
    cases rest with
    | nil => rfl
    | cons handler' rest => cases hreturned

/-- A step that changes nothing. -/
theorem Trace.stays (ht : Trace handlers acts s served left current) :
    Trace handlers (acts ++ []) s served left current := by
  rw [List.append_nil]
  exact ht

/-- The attempt is not above the third, and a back-off comes before the third. -/
theorem Trace.attempt_le (ht : Trace handlers acts s served left current)
    (hpc : s.pc = .calling handler rest attempt) : attempt ≤ maxRegisterAttempts := by
  have hat := ht.pc
  rw [hpc] at hat
  rw [hat.2]
  exact ht.failures.2

/-- A call fails: another one follows after a back-off, or it was the third. -/
theorem Trace.failure (ht : Trace handlers acts s served left current)
    (hpc : s.pc = .calling handler rest attempt) (e : ε) :
    ∃ served' left' current',
      Trace handlers (acts ++ (s.step (.answer (.error e))).2) (s.step (.answer (.error e))).1
        served' left' current' := by
  have hat := ht.pc
  have hle := ht.attempt_le hpc
  have hthree : maxRegisterAttempts = 3 := rfl
  simp only [RegisterTask.step, hpc] at hat ⊢
  split
  · rename_i delay hdelay
    obtain ⟨hlt, _⟩ := List.getElem?_eq_some_iff.mp hdelay
    have hlt : attempt - 1 < 2 := hlt
    exact ⟨_, _, _, ht.failed hpc (by omega) e delay⟩
  · rename_i hdelay
    have hlast : 2 ≤ attempt - 1 := List.getElem?_eq_none_iff.mp hdelay
    have hthird : attempt = 3 := by omega
    have hnext := ht.next hpc (.error e) (.inl ⟨ht.failures.1.concat e, ?_⟩)
    · rw [RegisterPc.retry, if_neg (by rw [hthird]; decide)]
      exact ⟨_, _, _, hnext⟩
    · rw [List.length_append, List.length_singleton, ← hat.2]
      exact hthird

/-- By cases on the event and on where the task stands. -/
theorem Trace.step (ht : Trace handlers acts s served left current) (e : RegisterEvent ε) :
    ∃ served' left' current',
      Trace handlers (acts ++ (s.step e).2) (s.step e).1 served' left' current' := by
  cases e with
  | poll =>
    simp only [RegisterTask.step]
    split
    · rename_i handler rest attempt hpc
      split_ifs with hcancelled
      · exact ⟨_, _, _, ht.exit (by rw [hpc]; rfl) hcancelled⟩
      · exact ⟨_, _, _, ht.contact hpc⟩
    · exact ⟨_, _, _, ht.stays⟩
  | answer result =>
    by_cases hpc : ∃ handler rest attempt, s.pc = .calling handler rest attempt
    · obtain ⟨handler, rest, attempt, hpc⟩ := hpc
      cases result with
      | ok =>
        have hnext := ht.next hpc (.ok ()) (.inr ⟨current, ht.failures.1, ht.failures.2, rfl⟩)
        simp only [RegisterTask.step, hpc]
        exact ⟨_, _, _, hnext⟩
      | error e => exact ht.failure hpc e
    · have hsame : s.step (.answer result) = (s, []) := by
        simp only [RegisterTask.step]
        split
        · rename_i heq
          exact absurd ⟨_, _, _, heq⟩ hpc
        · rename_i heq
          exact absurd ⟨_, _, _, heq⟩ hpc
        · rfl
      rw [hsame]
      exact ⟨_, _, _, ht.stays⟩
  | timer =>
    simp only [RegisterTask.step]
    split
    · rename_i handler rest attempt hpc
      have hat := ht.pc
      rw [hpc] at hat
      obtain ⟨rfl, rfl, hpos⟩ := hat
      rw [RegisterPc.retry, if_pos ht.failures.2]
      exact ⟨_, _, _, ht.goTo (by rw [hpc]; rfl) rfl ⟨rfl, rfl⟩ (by nofun)⟩
    · exact ⟨_, _, _, ht.stays⟩
  | cancelSeen =>
    simp only [RegisterTask.step]
    split
    · rename_i hpc
      split_ifs with hcancelled
      · exact ⟨_, _, _, ht.exit (by rw [hpc]; rfl) hcancelled⟩
      · exact ⟨_, _, _, ht.stays⟩
    · exact ⟨_, _, _, ht.stays⟩
  | cancel =>
    have hkept := ht.stays
    exact ⟨_, _, _, hkept.handlers, hkept.ended, hkept.failures, hkept.ends, hkept.starts,
      hkept.pc, by nofun⟩

/-! ## The steps -/

/-- How many more steps the task makes, at most. -/
def RegisterPc.remaining : RegisterPc → ℕ
  | .check _ rest attempt => 9 * rest.length + 3 * (3 - attempt) + 3
  | .calling _ rest attempt => 9 * rest.length + 3 * (3 - attempt) + 2
  | .backingOff _ rest attempt => 9 * rest.length + 3 * (3 - attempt) + 1
  | .returned => 0

@[simp] theorem remaining_check (handler : MhEndpointInfo) (rest : List MhEndpointInfo)
    (attempt : ℕ) : (RegisterPc.check handler rest attempt).remaining =
      9 * rest.length + 3 * (3 - attempt) + 3 := rfl

@[simp] theorem remaining_calling (handler : MhEndpointInfo) (rest : List MhEndpointInfo)
    (attempt : ℕ) : (RegisterPc.calling handler rest attempt).remaining =
      9 * rest.length + 3 * (3 - attempt) + 2 := rfl

@[simp] theorem remaining_backingOff (handler : MhEndpointInfo) (rest : List MhEndpointInfo)
    (attempt : ℕ) : (RegisterPc.backingOff handler rest attempt).remaining =
      9 * rest.length + 3 * (3 - attempt) + 1 := rfl

@[simp] theorem remaining_returned : RegisterPc.returned.remaining = 0 := rfl

@[simp] theorem remaining_next (handlers : List MhEndpointInfo) :
    (RegisterPc.next handlers).remaining = 9 * handlers.length := by
  cases handlers with
  | nil => rfl
  | cons handler rest =>
    rw [RegisterPc.next, remaining_check, List.length_cons]
    omega

theorem remaining_retry_le (handler : MhEndpointInfo) (rest : List MhEndpointInfo)
    (attempt : ℕ) :
    (RegisterPc.retry handler rest attempt).remaining ≤ 9 * rest.length + 3 * (3 - attempt) := by
  unfold RegisterPc.retry maxRegisterAttempts
  split_ifs with hattempt
  · rw [remaining_check]
    omega
  · rw [remaining_next]
    omega

/-- Every step that the task waits for brings it nearer to its end. -/
theorem remaining_step (s : RegisterTask) (e : RegisterEvent ε) :
    (s.step e).1.pc.remaining + (s.turn e).toNat ≤ s.pc.remaining := by
  obtain ⟨pc, cancelled⟩ := s
  cases e with
  | poll =>
    cases pc with
    | check handler rest attempt =>
      simp only [RegisterTask.step, RegisterTask.turn, Bool.toNat_true, remaining_check]
      split_ifs
      · rw [remaining_returned]
        omega
      · rw [remaining_calling]
    | _ => exact le_refl _
  | answer result =>
    cases pc with
    | calling handler rest attempt =>
      have hretry := remaining_retry_le handler rest attempt
      simp only [RegisterTask.step, RegisterTask.turn, Bool.toNat_true, remaining_calling]
      cases result with
      | ok _ =>
        simp only [remaining_next]
        omega
      | error e =>
        simp only
        split
        · rw [remaining_backingOff]
        · simp only
          omega
    | _ => exact le_refl _
  | timer =>
    cases pc with
    | backingOff handler rest attempt =>
      have hretry := remaining_retry_le handler rest attempt
      simp only [RegisterTask.step, RegisterTask.turn, Bool.toNat_true, remaining_backingOff]
      omega
    | _ => exact le_refl _
  | cancelSeen =>
    cases pc with
    | backingOff handler rest attempt =>
      simp only [RegisterTask.step, RegisterTask.turn]
      cases cancelled <;> simp
    | _ => exact le_refl _
  | cancel => exact le_refl _

theorem turns_le {h : RegisterHistory ε} (hr : (registerMachine ε handlers).Run h s) :
    turns handlers h + s.pc.remaining ≤ 9 * handlers.length := by
  induction hr with
  | nil => exact le_of_eq (by rw [turns, Nat.zero_add]; exact remaining_next handlers)
  | @cons h s e hr _ ih =>
    have hstep := remaining_step s e
    have hturns : turns handlers ((e, (s.step e).2) :: h) =
        turns handlers h + (s.turn e).toNat := by
      rw [turns, ← hr.eq_stateAfter]
    show turns handlers ((e, (s.step e).2) :: h) + (s.step e).1.pc.remaining ≤ _
    omega

/-- The task waits for something until it has returned. -/
theorem exists_turn (h : s.pc ≠ .returned) : ∃ e : RegisterEvent ε, s.turn e = true := by
  obtain ⟨pc, cancelled⟩ := s
  cases pc with
  | check handler rest attempt => exact ⟨.poll, rfl⟩
  | calling handler rest attempt => exact ⟨.answer (.ok ()), rfl⟩
  | backingOff handler rest attempt => exact ⟨.timer, rfl⟩
  | returned => exact absurd rfl h

/-! ## The cancellation -/

theorem step_cancelled (hs : s.cancelled = true) (e : RegisterEvent ε) :
    (s.step e).1.cancelled = true ∧ contacts (s.step e).2 = [] := by
  obtain ⟨pc, cancelled⟩ := s
  obtain rfl : cancelled = true := hs
  cases e with
  | answer result =>
    simp only [RegisterTask.step]
    split
    · exact ⟨rfl, rfl⟩
    · split <;> exact ⟨rfl, rfl⟩
    · exact ⟨rfl, rfl⟩
  | _ => cases pc <;> exact ⟨rfl, rfl⟩

theorem cancelled_of_mem {h : RegisterHistory ε} (hr : (registerMachine ε handlers).Run h s)
    (hcancel : ∃ x ∈ h, x.1 = .cancel) : s.cancelled = true := by
  induction hr with
  | nil =>
    obtain ⟨x, hx, _⟩ := hcancel
    cases hx
  | @cons h s e hr _ ih =>
    obtain ⟨x, hx, hcancel⟩ := hcancel
    rcases List.mem_cons.mp hx with rfl | hx
    · obtain rfl : e = .cancel := hcancel
      rfl
    · exact (step_cancelled (ih ⟨x, hx, hcancel⟩) e).1

/-- What holds of every run. -/
theorem fanOut {h : RegisterHistory ε} (hr : (registerMachine ε handlers).Run h s) :
    FanOut handlers h s := by
  refine ⟨?_, fun e a h' hs hcancel => ?_, le_trans (Nat.le_add_right _ _) (turns_le hr),
    exists_turn⟩
  · refine Machine.Run.invariant (I := fun h s => ∃ served left current,
      Trace handlers (registerActs h) s served left current) ?_ (fun h s e _ _ hI => ?_) hr
    · refine ⟨[], handlers, [], rfl, by nofun, ⟨by nofun, Nat.zero_lt_succ 2⟩, ?_, ?_, ?_, ?_⟩
      all_goals cases handlers <;> simp [registerMachine, RegisterPc.next, registerActs, results,
        contacts, RegisterPc.inFlight, RegisterPc.At]
    · obtain ⟨served, left, current, ht⟩ := hI
      rw [registerActs_cons]
      exact ht.step e
  · obtain ⟨rfl, _⟩ := hr.answer_of_suffix hs
    have hrun := hr.suffix ((List.suffix_cons _ _).trans hs)
    exact (step_cancelled (cancelled_of_mem hrun hcancel) e).2

end

/-- Two handlers. -/
def twoHandlers : List MhEndpointInfo :=
  [⟨"mh-1", "wt://mh-1:4433", "http://mh-1:50053"⟩, ⟨"mh-2", "wt://mh-2:4433", "http://mh-2:50053"⟩]

/-- The first call of the first handler fails, the ones of the second all do. -/
def partialFailure : List (RegisterEvent String) :=
  [.poll, .answer (.error "transient"), .timer, .poll, .answer (.ok ()),
    .poll, .answer (.error "fail-1"), .timer, .poll, .answer (.error "fail-2"), .timer,
    .poll, .answer (.error "fail-3")]

theorem fanOut_partialFailure :
    ((registerMachine String twoHandlers).playAll partialFailure).1.pc = .returned ∧
      (contacts (registerActs ((registerMachine String twoHandlers).playAll partialFailure).2)).map
        (·.mhId) = ["mh-1", "mh-1", "mh-2", "mh-2", "mh-2"] ∧
      FanOut twoHandlers ((registerMachine String twoHandlers).playAll partialFailure).2
        ((registerMachine String twoHandlers).playAll partialFailure).1 := by
  refine ⟨by decide, by decide, fanOut (Machine.run_of_admits ?_)⟩
  simp [partialFailure, Machine.Admits, registerMachine]

end DarkTower.Mc
