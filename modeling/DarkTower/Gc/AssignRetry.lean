import DarkTower.Gc.AssignMeeting

/-!
# One call of `assign_meeting_with_mh` (`gc-service/src/services/mc_assignment.rs`)

The retry loop of one call, whatever the candidates are that `get_candidate_mcs`
returns, whatever the meeting controllers answer and whatever is drawn. Between two
steps of the call, others may change the tables in any way.

A step is answered by what it does for the loop (`CallAct`): it begins an attempt, sends
`assign_meeting` to a controller, or receives that the controller has accepted.

* `retries_right`: in every run the call contacts no controller twice and makes at most
  `MAX_MC_ASSIGNMENT_RETRIES` attempts; it writes `meeting_assignments` only after a
  controller that it has contacted accepted; and if it returns an error it has not
  written, unless the statement was executed and its answer was lost.
-/

namespace DarkTower.Gc

open DarkTower.Lib Tables

/-- The tables and the call. -/
structure OneCall where
  tables : Tables
  call : Call

/-- A step of the one call, or of others. -/
inductive OneCallEvent
  | call (e : CallEvent)
  /-- Others change the tables. -/
  | other (tables : Tables)

/-- What a step does for the loop. -/
inductive CallAct
  | attempt
  | assignMeeting (controllerId : String)
  | accepted (controllerId : String)
deriving DecidableEq

/-- What the step from `pc` to `pc'` at an event does. -/
def callActs (pc : CallPc) (e : CallEvent) (pc' : CallPc) : List CallAct :=
  match pc, e, pc' with
  | .getCandidateMcs _, _, .assignMeeting _ selectedMc =>
    [.assignMeeting selectedMc.controllerId, .attempt]
  | .getCandidateMcs _, _, .done _ => [.attempt]
  | .assignMeeting _ selectedMc, .assignMeeting (.ok .accepted), _ =>
    [.accepted selectedMc.controllerId]
  | _, _, _ => []

section

variable (meetingId region gcId : String) (t₀ : Tables)

/-- One step. -/
def OneCall.step (s : OneCall) : OneCallEvent → OneCall × List CallAct
  | .call e =>
    let r := callStep meetingId region s.tables s.call e
    (⟨r.1, { s.call with pc := r.2 }⟩, callActs s.call.pc e r.2)
  | .other tables => (⟨tables, s.call⟩, [])

/-- The call from the tables `t₀` on. -/
def oneCallMachine : Machine OneCall OneCallEvent (List CallAct) where
  init := ⟨t₀, gcId, .getHealthyAssignment⟩
  step := OneCall.step meetingId region
  allowed _ _ _ := True

/-- A step of the call changes `meeting_assignments`. -/
def OneCall.Writes (s : OneCall) : OneCallEvent → Prop
  | .call e => (callStep meetingId region s.tables s.call e).1.meetingAssignments ≠
      s.tables.meetingAssignments
  | .other _ => False

end

/-- The statement of `atomic_assign` is executed and its answer is lost. -/
def OneCall.LosesAnswer (s : OneCall) (e : OneCallEvent) : Prop :=
  (∃ mhSelection selectedMc, s.call.pc = .atomicAssign mhSelection selectedMc) ∧
    ∃ now, e = .call (.fail now true)

/-- A history of the call. -/
abbrev CallHistory := List (OneCallEvent × List CallAct)

/-- What the call has done for the loop, newest first. -/
def acts (h : CallHistory) : List CallAct := h.flatMap (·.2)

/-- The controllers contacted. -/
def contacted (h : CallHistory) : List String :=
  (acts h).filterMap fun
    | .assignMeeting controllerId => some controllerId
    | _ => none

/-- The number of attempts. -/
def attempts (h : CallHistory) : ℕ := (acts h).count .attempt

/-- The loop in a history and the state it leads to. -/
structure RetriesRight (meetingId region gcId : String) (t₀ : Tables) (h : CallHistory)
    (s : OneCall) : Prop where
  contactedOnce : (contacted h).Nodup
  contactedLe : (contacted h).length ≤ attempts h
  attemptsLe : attempts h ≤ maxMcAssignmentRetries
  writes : ∀ e a h', (e, a) :: h' <:+ h →
    OneCall.Writes meetingId region ((oneCallMachine meetingId region gcId t₀).stateAfter h') e →
    ∃ controllerId ∈ contacted h', .accepted controllerId ∈ acts h'
  error : ∀ error, s.call.pc = .done (.error error) → ∀ e a h', (e, a) :: h' <:+ h →
    OneCall.Writes meetingId region ((oneCallMachine meetingId region gcId t₀).stateAfter h') e →
    ((oneCallMachine meetingId region gcId t₀).stateAfter h').LosesAnswer e

/-! ## The variables of the loop -/

/-- What the variables of the loop say of the history. -/
def LoopInv (h : CallHistory) : CallPc → Prop
  | .getHealthyAssignment | .selectMhs _ => contacted h = [] ∧ attempts h = 0
  | .getCandidateMcs loop =>
    (∀ id ∈ contacted h, id ∈ loop.triedMcs) ∧ attempts h + 1 = loop.attempt ∧
      loop.attempt ≤ maxMcAssignmentRetries
  | .assignMeeting loop selectedMc =>
    (∀ id ∈ contacted h, id ∈ loop.triedMcs ++ [selectedMc.controllerId]) ∧
      attempts h = loop.attempt ∧ selectedMc.controllerId ∈ contacted h
  | .atomicAssign _ selectedMc =>
    selectedMc.controllerId ∈ contacted h ∧ .accepted selectedMc.controllerId ∈ acts h
  | .getCurrentAssignment _ | .done _ => True

/-- The counts of the loop in a history that leads to `pc`. -/
structure LoopCounts (h : CallHistory) (pc : CallPc) : Prop where
  contactedOnce : (contacted h).Nodup
  contactedLe : (contacted h).length ≤ attempts h
  attemptsLe : attempts h ≤ maxMcAssignmentRetries
  loop : LoopInv h pc

section

variable {h : CallHistory} {pc : CallPc} {x : OneCallEvent}

theorem acts_cons (a : List CallAct) : acts ((x, a) :: h) = a ++ acts h := rfl

theorem attempts_cons_accepted (id : String) :
    attempts ((x, [.accepted id]) :: h) = attempts h := by
  simp [attempts, acts_cons]

theorem attempts_cons_attempt : attempts ((x, [.attempt]) :: h) = attempts h + 1 := by
  simp [attempts, acts_cons]

theorem contacted_cons_assignMeeting (id : String) :
    contacted ((x, [.assignMeeting id, .attempt]) :: h) = id :: contacted h := rfl

theorem attempts_cons_assignMeeting (id : String) :
    attempts ((x, [.assignMeeting id, .attempt]) :: h) = attempts h + 1 := by
  simp [attempts, acts_cons]

/-- A step that begins no attempt. -/
theorem LoopCounts.quiet (hI : LoopCounts h pc) {a : List CallAct}
    (ha : a = [] ∨ ∃ id, a = [.accepted id]) {pc' : CallPc}
    (hloop : LoopInv ((x, a) :: h) pc') : LoopCounts ((x, a) :: h) pc' := by
  rcases ha with rfl | ⟨id, rfl⟩
  · exact ⟨hI.contactedOnce, hI.contactedLe, hI.attemptsLe, hloop⟩
  · refine ⟨hI.contactedOnce, ?_, ?_, hloop⟩ <;> rw [attempts_cons_accepted]
    · exact hI.contactedLe
    · exact hI.attemptsLe

/-- An attempt that finds no controller. -/
theorem LoopCounts.attempt (hI : LoopCounts h pc) (hlt : attempts h < maxMcAssignmentRetries)
    {pc' : CallPc} (hloop : LoopInv ((x, [.attempt]) :: h) pc') :
    LoopCounts ((x, [.attempt]) :: h) pc' := by
  refine ⟨hI.contactedOnce, ?_, ?_, hloop⟩ <;> rw [attempts_cons_attempt]
  · exact hI.contactedLe.trans (Nat.le_succ _)
  · exact hlt

/-- An attempt that contacts a controller which has not been contacted. -/
theorem LoopCounts.contact (hI : LoopCounts h pc) (hlt : attempts h < maxMcAssignmentRetries)
    {id : String} (hid : id ∉ contacted h) {pc' : CallPc}
    (hloop : LoopInv ((x, [.assignMeeting id, .attempt]) :: h) pc') :
    LoopCounts ((x, [.assignMeeting id, .attempt]) :: h) pc' := by
  refine ⟨?_, ?_, ?_, hloop⟩
  · rw [contacted_cons_assignMeeting, List.nodup_cons]
    exact ⟨hid, hI.contactedOnce⟩
  · rw [contacted_cons_assignMeeting, attempts_cons_assignMeeting, List.length_cons]
    exact Nat.succ_le_succ hI.contactedLe
  · rw [attempts_cons_assignMeeting]
    exact hlt

/-- A step that stays where it is. -/
theorem LoopInv.quiet (hI : LoopInv h pc) {a : List CallAct}
    (ha : a = [] ∨ ∃ id, a = [.accepted id]) : LoopInv ((x, a) :: h) pc := by
  have hcontacted : contacted ((x, a) :: h) = contacted h := by
    rcases ha with rfl | ⟨id, rfl⟩ <;> rfl
  have hattempts : attempts ((x, a) :: h) = attempts h := by
    rcases ha with rfl | ⟨id, rfl⟩
    · rfl
    · exact attempts_cons_accepted id
  cases pc with
  | atomicAssign mhSelection selectedMc =>
    exact ⟨hcontacted ▸ hI.1, acts_cons a ▸ List.mem_append_right a hI.2⟩
  | getCurrentAssignment | done => trivial
  | _ => simpa only [LoopInv, hcontacted, hattempts] using hI

theorem callActs_self (e : CallEvent) :
    callActs pc e pc = [] ∨ ∃ id, callActs pc e pc = [.accepted id] := by
  unfold callActs
  split <;> simp_all

/-- Attempts begin with the candidates. -/
theorem callActs_of_ne (hpc : ∀ loop, pc ≠ .getCandidateMcs loop) (e : CallEvent)
    (pc' : CallPc) :
    callActs pc e pc' = [] ∨ ∃ id, callActs pc e pc' = [.accepted id] := by
  unfold callActs
  split
  · exact absurd rfl (hpc _)
  · exact absurd rfl (hpc _)
  · exact .inr ⟨_, rfl⟩
  · exact .inl rfl

theorem loopInv_afterAssign (mhSelection : MhSelection) (selectedMc : McCandidate)
    (result : Except GcError (Option String)) :
    LoopInv h (afterAssign mhSelection selectedMc result) := by
  unfold afterAssign
  split <;> trivial

/-- By cases on the step: an attempt contacts a controller that has not been tried. -/
theorem LoopCounts.step {meetingId region : String} {t : Tables} {c : Call} {e : CallEvent}
    {r : Tables × CallPc} (hI : LoopCounts h c.pc) (hcase : CallCase meetingId region t c e r) :
    LoopCounts ((x, callActs c.pc e r.2) :: h) r.2 := by
  have hloop := hI.loop
  cases hcase with
  | stays e => exact hI.quiet (callActs_self e) (hloop.quiet (callActs_self e))
  | failed e error hasked haccepted =>
    by_cases hpc : ∃ loop, c.pc = .getCandidateMcs loop
    · obtain ⟨loop, hpc⟩ := hpc
      rw [hpc] at hloop ⊢
      obtain ⟨_, hattempts, hle⟩ := hloop
      exact hI.attempt (by omega) trivial
    · exact hI.quiet (callActs_of_ne (fun loop heq => hpc ⟨loop, heq⟩) _ _) trivial
  | looked now hpc =>
    rw [hpc] at hloop ⊢
    exact hI.quiet (.inl rfl) hloop
  | reused candidates choice₁ choice₂ existing mhSelection hpc =>
    rw [hpc]
    exact hI.quiet (.inl rfl) trivial
  | selected candidates choice₁ choice₂ mhSelection hpc =>
    rw [hpc] at hloop ⊢
    obtain ⟨hnone, hzero⟩ := hloop
    refine hI.quiet (.inl rfl) ⟨?_, ?_, ?_⟩
    · show ∀ id ∈ contacted h, _
      rw [hnone]
      nofun
    · show attempts h + 1 = 1
      rw [hzero]
    · show 1 ≤ maxMcAssignmentRetries
      decide
  | tries now candidates choice loop selectedMc hpc hmem =>
    rw [hpc] at hloop ⊢
    obtain ⟨htried, hattempts, hle⟩ := hloop
    have huntried : selectedMc.controllerId ∉ loop.triedMcs := by
      simpa using (List.mem_filter.mp hmem).2
    refine hI.contact (by omega) (fun hin => huntried (htried _ hin)) ⟨?_, ?_, ?_⟩
    · rw [contacted_cons_assignMeeting]
      intro id hid
      rcases List.mem_cons.mp hid with rfl | hid
      · exact List.mem_append_right _ List.mem_cons_self
      · exact List.mem_append_left _ (htried id hid)
    · rw [attempts_cons_assignMeeting]
      exact hattempts
    · rw [contacted_cons_assignMeeting]
      exact List.mem_cons_self
  | retries result loop selectedMc lastRejectionReason hpc hattempt =>
    have hne : ∀ loop, c.pc ≠ .getCandidateMcs loop := by
      rw [hpc]
      nofun
    have hacts := callActs_of_ne hne (.assignMeeting result)
      (.getCandidateMcs { loop with
        attempt := loop.attempt + 1
        triedMcs := loop.triedMcs ++ [selectedMc.controllerId]
        lastRejectionReason })
    have hquiet := hloop.quiet (x := x) hacts
    rw [hpc] at hquiet
    obtain ⟨htried, hattempts, _⟩ := hquiet
    rw [hpc] at hacts hI ⊢
    exact hI.quiet hacts ⟨htried, congrArg (· + 1) hattempts, hattempt⟩
  | accepted loop selectedMc hpc =>
    rw [hpc] at hloop ⊢
    exact hI.quiet (.inr ⟨_, rfl⟩) ⟨hloop.2.2, List.mem_cons_self⟩
  | assigned now mhSelection selectedMc hpc =>
    exact hI.quiet (callActs_of_ne (by rw [hpc]; nofun) _ _) (loopInv_afterAssign _ _ _)
  | lost now mhSelection selectedMc hpc =>
    rw [hpc]
    exact hI.quiet (.inl rfl) trivial
  | reread now mhSelection current hpc hcurrent =>
    rw [hpc]
    exact hI.quiet (.inl rfl) trivial

end

/-! ## The writes -/

section

variable {meetingId region gcId : String} {t₀ : Tables} {s : OneCall} {e : CallEvent}

/-- A call that has returned does nothing. -/
theorem callStep_done {t : Tables} {c : Call} {result : Except GcError AssignmentWithMh}
    (hpc : c.pc = .done result) (e : CallEvent) :
    callStep meetingId region t c e = (t, .done result) := by
  obtain ⟨gcId, pc⟩ := c
  obtain rfl : pc = .done result := hpc
  cases e <;> rfl

/-- Only the statement of `atomic_assign` writes; the call then returns its assignment, or the
    answer was lost. -/
theorem OneCall.Writes.cases (h : s.Writes meetingId region (.call e)) :
    ∃ mhSelection selectedMc, s.call.pc = .atomicAssign mhSelection selectedMc ∧
      ((∃ now, e = .fail now true) ∨
        ∃ a, (callStep meetingId region s.tables s.call e).2 = .done (.ok a)) := by
  have hcase := callStep_cases meetingId region s.tables s.call e
  have hchanged : (callStep meetingId region s.tables s.call e).1.meetingAssignments ≠
    s.tables.meetingAssignments := h
  generalize callStep meetingId region s.tables s.call e = r at hchanged hcase
  cases hcase with
  | assigned now mhSelection selectedMc hpc =>
    refine ⟨mhSelection, selectedMc, hpc, .inr ?_⟩
    have hrow := assignRow_cases s.tables now meetingId region selectedMc.controllerId s.call.gcId
    generalize s.tables.assignRow now meetingId region selectedMc.controllerId s.call.gcId = r
      at hchanged hrow
    cases hrow with
    | inserted t' hnone hrow => exact ⟨_, rfl⟩
    | replaced t' r hold hreplaceable hrow => exact ⟨_, rfl⟩
    | kept r hold hnot => exact absurd rfl hchanged
    | refused hmissing => exact absurd rfl hchanged
  | lost now mhSelection selectedMc hpc => exact ⟨mhSelection, selectedMc, hpc, .inl ⟨now, rfl⟩⟩
  | _ => exact absurd rfl hchanged

/-- What holds between two steps. -/
structure RetryInv (meetingId region gcId : String) (t₀ : Tables) (h : CallHistory)
    (s : OneCall) : Prop where
  counts : LoopCounts h s.call.pc
  writes : ∀ e a h', (e, a) :: h' <:+ h →
    OneCall.Writes meetingId region ((oneCallMachine meetingId region gcId t₀).stateAfter h') e →
    ∃ controllerId ∈ contacted h', .accepted controllerId ∈ acts h'
  unwritten : (∀ a, s.call.pc ≠ .done (.ok a)) → ∀ e a h', (e, a) :: h' <:+ h →
    OneCall.Writes meetingId region ((oneCallMachine meetingId region gcId t₀).stateAfter h') e →
    ((oneCallMachine meetingId region gcId t₀).stateAfter h').LosesAnswer e

theorem RetryInv.call {h : CallHistory}
    (hI : RetryInv meetingId region gcId t₀ h s)
    (hs : s = (oneCallMachine meetingId region gcId t₀).stateAfter h) (e : CallEvent) :
    RetryInv meetingId region gcId t₀ ((.call e, (s.step meetingId region (.call e)).2) :: h)
      (s.step meetingId region (.call e)).1 := by
  refine ⟨hI.counts.step (callStep_cases meetingId region s.tables s.call e), ?_, fun hnew => ?_⟩
  · refine Machine.forall_suffix_cons.mpr ⟨fun hwrites => ?_, hI.writes⟩
    rw [← hs] at hwrites
    obtain ⟨mhSelection, selectedMc, hpc, _⟩ := hwrites.cases
    have hloop := hI.counts.loop
    rw [hpc] at hloop
    exact ⟨_, hloop⟩
  · refine Machine.forall_suffix_cons.mpr ⟨fun hwrites => ?_, hI.unwritten fun a hpc => ?_⟩
    · rw [← hs] at hwrites ⊢
      obtain ⟨mhSelection, selectedMc, hpc, ⟨now, he⟩ | ⟨a, ha⟩⟩ := hwrites.cases
      · exact ⟨⟨mhSelection, selectedMc, hpc⟩, now, by rw [he]⟩
      · exact absurd ha (hnew a)
    · refine hnew a ?_
      show (callStep meetingId region s.tables s.call e).2 = _
      rw [callStep_done hpc]

/-- What others do to the tables is not the call's. -/
theorem RetryInv.other {h : CallHistory} (hI : RetryInv meetingId region gcId t₀ h s)
    (t : Tables) :
    RetryInv meetingId region gcId t₀ ((.other t, []) :: h) ⟨t, s.call⟩ where
  counts := hI.counts.quiet (.inl rfl) (hI.counts.loop.quiet (.inl rfl))
  writes := Machine.forall_suffix_cons.mpr ⟨False.elim, hI.writes⟩
  unwritten hnew := Machine.forall_suffix_cons.mpr ⟨False.elim, hI.unwritten hnew⟩

theorem RetryInv.init :
    RetryInv meetingId region gcId t₀ [] (oneCallMachine meetingId region gcId t₀).init where
  counts := ⟨List.nodup_nil, le_refl 0, Nat.zero_le _, rfl, rfl⟩
  writes := Machine.forall_suffix_nil
  unwritten _ := Machine.forall_suffix_nil

/-- The controllers contacted, the attempts and the writes, in every run of the call. -/
theorem retries_right {h : CallHistory} (hr : (oneCallMachine meetingId region gcId t₀).Run h s) :
    RetriesRight meetingId region gcId t₀ h s := by
  have hI : RetryInv meetingId region gcId t₀ h s := by
    refine Machine.Run.invariant RetryInv.init (fun h s e hr _ hI => ?_) hr
    cases e with
    | call e => exact hI.call hr.eq_stateAfter e
    | other t => exact hI.other t
  refine ⟨hI.counts.contactedOnce, hI.counts.contactedLe, hI.counts.attemptsLe, hI.writes,
    fun error hpc => hI.unwritten fun a ha => ?_⟩
  rw [hpc] at ha
  cases ha

end

/-- One controller is full, the request to the other fails. -/
def refusedEvents : List OneCallEvent :=
  let candidates := [⟨"mc-1", "grpc://mc-1:50052", "https://mc-1:4433"⟩,
    ⟨"mc-2", "grpc://mc-2:50052", "https://mc-2:4433"⟩]
  [.call (.getHealthyAssignment 0),
    .call (.selectMhs [⟨"mh-1", "https://mh-1:4434", "grpc://mh-1:50053"⟩] 0 0),
    .call (.getCandidateMcs 0 candidates 0),
    .call (.assignMeeting (.ok (.rejected .atCapacity))),
    .call (.getCandidateMcs 0 candidates 0),
    .call (.assignMeeting (.error .database)),
    .call (.getCandidateMcs 0 candidates 0)]

/-- The call with them. -/
def refusedRun : OneCall × CallHistory :=
  (oneCallMachine "meeting-1" "eu" "gc-1" .empty).playAll refusedEvents

theorem retries_right_refused :
    refusedRun.1.call.pc = .done (.error (.serviceUnavailable
        "All meeting controllers are at capacity")) ∧
      contacted refusedRun.2 = ["mc-2", "mc-1"] ∧ attempts refusedRun.2 = 3 ∧
      RetriesRight "meeting-1" "eu" "gc-1" .empty refusedRun.2 refusedRun.1 :=
  ⟨by decide, by decide, by decide,
    retries_right (Machine.run_of_admits ⟨trivial, trivial, trivial, trivial, trivial, trivial,
      trivial, trivial⟩)⟩

end DarkTower.Gc
