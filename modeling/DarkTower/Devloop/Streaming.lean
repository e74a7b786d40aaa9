import DarkTower.Devloop.Error
import DarkTower.Lib.Machine

/-!
# Running a command with its process group

Model of the receive loop of `run_command_streaming`
(`devloop-helper/src/commands.rs:1429`) next to the process group of its child. An
iteration is a message of the reader threads or a timeout (`recv`), then the load of the
cancel token (`loadCancel`) and the rest of the checks (`act`); the flags, the clock and
the group change in between. Signals to the group succeed, so the fallback to the leader
alone is not modelled.

* `FlagsInv.signalsSound`: each signal is sent at most once, and none before cancel, shutdown
  or a failed write.
* `reaches_group_iff`: at the end of an iteration that finds the helper shutting down or
  the grace period over, a group that still holds a pipe has been killed iff this holds
  of the state at its checks (`CanReach`): after a cancel, with a pipe still held, the
  shutdown does not fall into the grace period, and the leader has not exited when it is
  over.
* `descendant_survives`: the leader dies of SIGTERM and a descendant with a pipe does not.
-/

namespace DarkTower.Devloop

open DarkTower.Lib

/-- `CANCEL_GRACEFUL_TIMEOUT`, in nanoseconds. -/
def cancelGracefulTimeout : ℕ := 2000000000

/-- The signals that the loop sends to the group. -/
inductive Signal
  | sigterm
  | sigkill
deriving DecidableEq

/-- A process of the group. -/
structure Process where
  holdsPipe : Bool
  ignoresTerm : Bool
deriving DecidableEq

/-- The group: its leader, `none` when it has exited, and the other processes. -/
structure Group where
  leader : Option Process
  descendants : List Process
deriving DecidableEq

namespace Group

/-- A signal reaches every process of the group. -/
def signal (g : Group) : Signal → Group
  | .sigterm => ⟨g.leader.filter (·.ignoresTerm), g.descendants.filter (·.ignoresTerm)⟩
  | .sigkill => ⟨none, []⟩

/-- Some process holds an output pipe. -/
def holdsPipe (g : Group) : Bool := (g.leader.toList ++ g.descendants).any (·.holdsPipe)

/-- `try_wait` finds the leader. -/
def leaderExited (g : Group) : Bool := g.leader.isNone

/-- What the processes can do by themselves: exit, start others, close a pipe. -/
def CanBecome (g g' : Group) : Prop :=
  (g.leader = none → g'.leader = none) ∧ (g = ⟨none, []⟩ → g' = ⟨none, []⟩)

instance (g g' : Group) : Decidable (g.CanBecome g') := inferInstanceAs (Decidable (_ ∧ _))

end Group

/-- What `recv_timeout` returns; for a line, whether the client took it. -/
inductive Received
  | line (written : Bool)
  | done
  | timeout
  | disconnected
deriving DecidableEq

/-- Where the loop stands. -/
inductive LoopPc
  | receiving
  | looking
  | acting (cancelSeen : Bool)
  | ended
deriving DecidableEq

/-- The locals of `run_command_streaming`, the two flags, the clock, the group, and the
    signals sent to it. -/
structure Streaming where
  pc : LoopPc
  doneCount : ℕ
  writeFailed : Bool
  childKilled : Bool
  cancelTermed : Bool
  termAt : Option ℕ
  escalated : Bool
  cancel : Bool
  shutdown : Bool
  now : ℕ
  group : Group
  sent : List Signal
deriving DecidableEq

/-- What happens to the loop or around it. -/
inductive StreamingEvent
  | setCancel
  | setShutdown
  | tick (now : ℕ)
  | groupBecomes (group : Group)
  | recv (received : Received)
  | loadCancel
  | act
deriving DecidableEq

namespace Streaming

/-- The loop when the child has been spawned. -/
def start (leader : Process) : Streaming where
  pc := .receiving
  doneCount := 0
  writeFailed := false
  childKilled := false
  cancelTermed := false
  termAt := none
  escalated := false
  cancel := false
  shutdown := false
  now := 0
  group := ⟨some leader, []⟩
  sent := []

/-- `signal_process_group` (line 77). -/
def signalProcessGroup (s : Streaming) (sig : Signal) : Streaming :=
  { s with group := s.group.signal sig, sent := s.sent ++ [sig] }

/-- What the match on the received message does to the flags (lines 1481–1516). -/
def receive (s : Streaming) : Received → Streaming
  | .line written =>
    if s.writeFailed ∨ written then s
    else if s.childKilled then { s with writeFailed := true }
    else { s.signalProcessGroup .sigkill with writeFailed := true, childKilled := true }
  | .done => { s with doneCount := s.doneCount + 1 }
  | .timeout | .disconnected => s

/-- The second `Done` and a closed channel break the loop. -/
def afterReceive (s : Streaming) : Received → LoopPc
  | .line _ | .timeout => .looking
  | .done => if 2 ≤ s.doneCount + 1 then .ended else .looking
  | .disconnected => .ended

/-- The grace period after cancel's SIGTERM is over. -/
def graceOver (s : Streaming) : Bool :=
  match s.termAt with
  | some t => decide (t + cancelGracefulTimeout ≤ s.now)
  | none => false

/-- The checks at the end of an iteration (lines 1549–1613). -/
def check (s : Streaming) (cancelSeen : Bool) : Streaming :=
  if s.childKilled then s
  else if cancelSeen ∧ ¬ s.cancelTermed then
    { s.signalProcessGroup .sigterm with cancelTermed := true, termAt := some s.now }
  else if s.cancelTermed then
    if s.graceOver then
      if s.group.leaderExited then { s with childKilled := true }
      else { s.signalProcessGroup .sigkill with childKilled := true, escalated := true }
    else if s.group.leaderExited then { s with childKilled := true }
    else s
  else if s.shutdown then { s.signalProcessGroup .sigkill with childKilled := true }
  else s

/-- One event. -/
def step (s : Streaming) : StreamingEvent → Streaming
  | .setCancel => { s with cancel := true }
  | .setShutdown => { s with shutdown := true }
  | .tick now => { s with now }
  | .groupBecomes group => { s with group }
  | .recv received => { s.receive received with pc := s.afterReceive received }
  | .loadCancel => { s with pc := .acting s.cancel }
  | .act =>
    match s.pc with
    | .acting cancelSeen => { s.check cancelSeen with pc := .receiving }
    | _ => s

/-- The loop is where the event says, the clock does not go back, and no process comes
    back to life. -/
def CanDo (s : Streaming) : StreamingEvent → Prop
  | .setCancel | .setShutdown => True
  | .tick now => s.now ≤ now
  | .groupBecomes group => s.group.CanBecome group
  | .recv _ => s.pc = .receiving
  | .loadCancel => s.pc = .looking
  | .act => s.pc = .acting true ∨ s.pc = .acting false

instance (s : Streaming) : ∀ e, Decidable (s.CanDo e)
  | .setCancel | .setShutdown => inferInstanceAs (Decidable True)
  | .tick now => inferInstanceAs (Decidable (s.now ≤ now))
  | .groupBecomes group => inferInstanceAs (Decidable (s.group.CanBecome group))
  | .recv _ => inferInstanceAs (Decidable (s.pc = .receiving))
  | .loadCancel => inferInstanceAs (Decidable (s.pc = .looking))
  | .act => inferInstanceAs (Decidable (s.pc = .acting true ∨ s.pc = .acting false))

end Streaming

/-- The exit of the child, as `wait` reports it. -/
structure ExitStatus where
  success : Bool
  text : String
deriving DecidableEq

/-- The end of `run_command_streaming` (lines 1616–1656); `cancelSet` is the cancel token
    when it is read last. -/
def streamingResult (description : String) (wait : Except String ExitStatus)
    (writeFailed cancelSet escalated childKilled : Bool) : Except HelperError Unit :=
  match wait with
  | .error e => .error (.commandFailed description ("failed to wait for child: " ++ e))
  | .ok status =>
    if writeFailed then
      .error (.commandFailed description "stream write failed: client disconnected")
    else if cancelSet then .error (.cancelled escalated)
    else if !status.success then
      .error (.commandFailed description ("exit code: " ++ status.text ++
        if childKilled then " (killed due to SIGTERM)" else ""))
    else .ok ()

/-- A command is reported as cancelled only when its token was set. -/
theorem streamingResult_cancelled {description : String} {wait : Except String ExitStatus}
    {writeFailed cancelSet escalated childKilled b : Bool}
    (h : streamingResult description wait writeFailed cancelSet escalated childKilled =
      .error (.cancelled b)) : cancelSet = true := by
  unfold streamingResult at h
  split at h
  · cases h
  · split_ifs at h with hfailed hset hstatus hkilled
    · cases h
    · exact hset
    · cases h
    · cases h

/-- The loop with the child `leader`. -/
def streamingMachine (leader : Process) : Machine Streaming StreamingEvent Unit where
  init := .start leader
  step s e := (s.step e, ())
  allowed _ s e := s.CanDo e

instance (leader : Process) (h : List (StreamingEvent × Unit)) (s : Streaming)
    (e : StreamingEvent) : Decidable ((streamingMachine leader).allowed h s e) :=
  inferInstanceAs (Decidable (s.CanDo e))

/-- Each signal is sent at most once, and only after a cancel, a shutdown or a failed
    write. -/
structure SignalsSound (s : Streaming) : Prop where
  sigtermOnce : s.sent.count .sigterm ≤ 1
  sigkillOnce : s.sent.count .sigkill ≤ 1
  caused : s.sent ≠ [] → s.cancel ∨ s.shutdown ∨ s.writeFailed

/-- The end of an iteration: when it found the helper shutting down or the grace period
    over, and a process still holds a pipe, the group has been sent SIGKILL. -/
def ReachesGroup (s : Streaming) (e : StreamingEvent) : Prop :=
  e = .act → s.shutdown ∨ s.graceOver → (s.step .act).group.holdsPipe →
    .sigkill ∈ (s.step .act).sent

/-- The condition on the state at the checks of an iteration. When cancel's SIGTERM has
    been sent or is about to be, SIGKILL has not, and a process that outlives the SIGTERM
    holds a pipe: within the grace period the helper is not shutting down, and after it
    the leader has not exited. -/
def CanReach (s : Streaming) (e : StreamingEvent) : Prop :=
  e = .act → .sigkill ∉ s.sent → s.cancelTermed ∨ s.pc = .acting true →
    (if s.cancelTermed then s.group else s.group.signal .sigterm).holdsPipe →
      if s.graceOver then ¬ s.group.leaderExited else ¬ s.shutdown

/-! ## What the flags say about the signals -/

instance (s : Streaming) (e : StreamingEvent) : Decidable (CanReach s e) :=
  inferInstanceAs (Decidable (_ → _ → _ → _ → _))

/-- What the flags of the loop say about the signals that were sent. -/
structure FlagsInv (s : Streaming) : Prop where
  sigterm : s.sent.count .sigterm = if s.cancelTermed then 1 else 0
  sigkill : s.sent.count .sigkill ≤ 1
  killed : .sigkill ∈ s.sent → s.childKilled
  exited : s.childKilled → .sigkill ∉ s.sent → s.cancelTermed ∧ s.group.leaderExited
  termed : s.cancelTermed ↔ s.termAt.isSome
  cancelCause : s.cancelTermed → s.cancel
  killCause : .sigkill ∈ s.sent → s.cancel ∨ s.shutdown ∨ s.writeFailed

/-- What holds in every state. -/
structure StreamingInv (s : Streaming) : Prop where
  flags : FlagsInv s
  seen : s.pc = .acting true → s.cancel

variable {s : Streaming}

theorem streamingInv_start (leader : Process) : StreamingInv (.start leader) := by
  refine ⟨?_, fun h => nomatch h⟩
  constructor <;> simp [Streaming.start]

/-- The flags do not say where the loop stands. -/
theorem FlagsInv.move (hI : FlagsInv s) (pc : LoopPc) (doneCount : ℕ) :
    FlagsInv { s with pc := pc, doneCount := doneCount } :=
  ⟨hI.sigterm, hI.sigkill, hI.killed, hI.exited, hI.termed, hI.cancelCause, hI.killCause⟩

/-- A SIGKILL, the first, with its cause. -/
theorem FlagsInv.kill (hI : FlagsInv s) (hnot : ¬ s.childKilled) {writeFailed escalated : Bool}
    (hcause : s.cancel ∨ s.shutdown ∨ writeFailed) :
    FlagsInv { s.signalProcessGroup .sigkill with
      writeFailed := writeFailed, childKilled := true, escalated := escalated } := by
  have hnone : Signal.sigkill ∉ s.sent := fun hmem => hnot (hI.killed hmem)
  refine ⟨?_, ?_, fun _ => rfl, fun _ hmem => ?_, hI.termed, hI.cancelCause, fun _ => hcause⟩
  · show (s.sent ++ [Signal.sigkill]).count Signal.sigterm = _
    rw [List.count_append, hI.sigterm]
    rfl
  · show (s.sent ++ [Signal.sigkill]).count Signal.sigkill ≤ 1
    rw [List.count_append, List.count_eq_zero_of_not_mem hnone]
    decide
  · exact absurd (List.mem_append_right s.sent (List.mem_singleton_self _)) hmem

/-- The leader is found to have exited after the SIGTERM. -/
theorem FlagsInv.exit (hI : FlagsInv s) (htermed : s.cancelTermed)
    (hexited : s.group.leaderExited) : FlagsInv { s with childKilled := true } :=
  ⟨hI.sigterm, hI.sigkill, fun _ => rfl, fun _ _ => ⟨htermed, hexited⟩, hI.termed, hI.cancelCause,
    hI.killCause⟩

/-- The SIGTERM, the first since the loop has not recorded one. -/
theorem FlagsInv.terminate (hI : FlagsInv s) (hnot : ¬ s.childKilled) (hterm : ¬ s.cancelTermed)
    (hcancel : s.cancel) :
    FlagsInv { s.signalProcessGroup .sigterm with
      cancelTermed := true, termAt := some s.now } := by
  have hterm' : s.cancelTermed = false := by simpa using hterm
  refine ⟨?_, ?_, fun hmem => ?_, fun hkilled => absurd hkilled hnot, by simp, fun _ => hcancel,
    fun _ => .inl hcancel⟩
  · show (s.sent ++ [Signal.sigterm]).count Signal.sigterm = 1
    rw [List.count_append, hI.sigterm, hterm']
    decide
  · show (s.sent ++ [Signal.sigterm]).count Signal.sigkill ≤ 1
    rw [List.count_append]
    exact hI.sigkill
  · apply hI.killed
    simpa [Streaming.signalProcessGroup] using hmem

theorem FlagsInv.receive (hI : FlagsInv s) (received : Received) :
    FlagsInv (s.receive received) := by
  unfold Streaming.receive
  cases received with
  | line written =>
    dsimp only
    split_ifs with hwritten hkilled
    · exact hI
    · exact ⟨hI.sigterm, hI.sigkill, hI.killed, hI.exited, hI.termed, hI.cancelCause,
        fun _ => .inr (.inr rfl)⟩
    · exact hI.kill hkilled (.inr (.inr rfl))
  | done => exact hI.move s.pc _
  | timeout => exact hI
  | disconnected => exact hI

theorem FlagsInv.check (hI : FlagsInv s) {cancelSeen : Bool} (hseen : cancelSeen → s.cancel) :
    FlagsInv (s.check cancelSeen) := by
  unfold Streaming.check
  split_ifs with hkilled hterm htermed hgrace hexited hexited' hshutdown
  · exact hI
  · exact hI.terminate hkilled hterm.2 (hseen hterm.1)
  · exact hI.exit htermed hexited
  · exact hI.kill hkilled (.inl (hI.cancelCause htermed))
  · exact hI.exit htermed hexited'
  · exact hI
  · exact hI.kill hkilled (.inr (.inl hshutdown))
  · exact hI

theorem StreamingInv.step (hI : StreamingInv s) {e : StreamingEvent} (hallowed : s.CanDo e) :
    StreamingInv (s.step e) := by
  obtain ⟨hF, hseen⟩ := hI
  cases e with
  | setCancel =>
    exact ⟨⟨hF.sigterm, hF.sigkill, hF.killed, hF.exited, hF.termed, fun _ => rfl,
      fun _ => .inl rfl⟩, fun _ => rfl⟩
  | setShutdown =>
    exact ⟨⟨hF.sigterm, hF.sigkill, hF.killed, hF.exited, hF.termed, hF.cancelCause,
      fun _ => .inr (.inl rfl)⟩, hseen⟩
  | tick now =>
    exact ⟨⟨hF.sigterm, hF.sigkill, hF.killed, hF.exited, hF.termed, hF.cancelCause,
      hF.killCause⟩, hseen⟩
  | groupBecomes group =>
    refine ⟨⟨hF.sigterm, hF.sigkill, hF.killed, fun hkilled hnone => ?_, hF.termed,
      hF.cancelCause, hF.killCause⟩, hseen⟩
    obtain ⟨htermed, hexited⟩ := hF.exited hkilled hnone
    refine ⟨htermed, ?_⟩
    exact Option.isNone_iff_eq_none.mpr (hallowed.1 (Option.isNone_iff_eq_none.mp hexited))
  | recv received =>
    refine ⟨(hF.receive received).move _ _, fun hpc => ?_⟩
    have hpc : s.afterReceive received = .acting true := hpc
    unfold Streaming.afterReceive at hpc
    split at hpc
    · cases hpc
    · cases hpc
    · split_ifs at hpc
    · cases hpc
  | loadCancel => exact ⟨hF.move _ _, fun hpc => LoopPc.acting.inj hpc⟩
  | act =>
    show StreamingInv (match s.pc with
      | .acting cancelSeen => { s.check cancelSeen with pc := .receiving }
      | _ => s)
    have hunseen : false → s.cancel := fun h => Bool.noConfusion h
    rcases hallowed with hpc | hpc
    · rw [hpc]
      exact ⟨(hF.check fun _ => hseen hpc).move _ _, fun h => nomatch h⟩
    · rw [hpc]
      exact ⟨(hF.check hunseen).move _ _, fun h => nomatch h⟩

theorem FlagsInv.signalsSound (hI : FlagsInv s) : SignalsSound s := by
  refine ⟨?_, hI.sigkill, fun hsent => ?_⟩
  · rw [hI.sigterm]
    split_ifs <;> decide
  · obtain ⟨sig, hsig⟩ := List.exists_mem_of_ne_nil _ hsent
    cases sig with
    | sigkill => exact hI.killCause hsig
    | sigterm =>
      have hpos : 0 < s.sent.count .sigterm := List.count_pos_iff.mpr hsig
      rw [hI.sigterm] at hpos
      split_ifs at hpos with htermed
      · exact .inl (hI.cancelCause htermed)
      · exact absurd hpos (by decide)

theorem run_streamingInv {leader : Process} {h : List (StreamingEvent × Unit)}
    (hr : (streamingMachine leader).Run h s) : StreamingInv s :=
  Machine.Run.invariant (I := fun _ s => StreamingInv s) (streamingInv_start leader)
    (fun _ _ _ _ hallowed hI => hI.step hallowed) hr

/-! ## The end of an iteration -/

theorem graceOver_of_not_termed (hI : FlagsInv s) (h : ¬ s.cancelTermed) : ¬ s.graceOver := by
  have hnone : s.termAt = none := by
    have hsome := hI.termed.not.mp h
    simpa using hsome
  simp [Streaming.graceOver, hnone]

/-- The checks reach the group iff the state they find is one of those where they can. -/
theorem reachesGroup_check_iff (hI : FlagsInv s) (cancelSeen : Bool) :
    (s.shutdown ∨ s.graceOver → (s.check cancelSeen).group.holdsPipe →
        .sigkill ∈ (s.check cancelSeen).sent) ↔
      (.sigkill ∉ s.sent → s.cancelTermed ∨ cancelSeen →
        (if s.cancelTermed then s.group else s.group.signal .sigterm).holdsPipe →
          if s.graceOver then ¬ s.group.leaderExited else ¬ s.shutdown) := by
  unfold Streaming.check
  by_cases hkilled : s.childKilled
  · rw [if_pos hkilled]
    by_cases hmem : Signal.sigkill ∈ s.sent
    · exact iff_of_true (fun _ _ => hmem) fun hnone => absurd hmem hnone
    · obtain ⟨htermed, hexited⟩ := hI.exited hkilled hmem
      by_cases hgrace : s.graceOver <;> simp [hmem, htermed, hexited, hgrace]
  · have hnone : Signal.sigkill ∉ s.sent := fun hmem => hkilled (hI.killed hmem)
    rw [if_neg hkilled]
    by_cases htermed : s.cancelTermed
    · -- the SIGTERM has been sent: the grace period and the leader decide
      by_cases hgrace : s.graceOver
      · by_cases hexited : s.group.leaderExited
        · simp [htermed, hgrace, hexited, hnone]
        · simp [htermed, hgrace, hexited, hnone, Streaming.signalProcessGroup]
      · by_cases hexited : s.group.leaderExited <;> simp [htermed, hgrace, hexited, hnone]
    · have hgrace := graceOver_of_not_termed hI htermed
      by_cases hcancel : cancelSeen
      · simp [htermed, hgrace, hcancel, hnone, Streaming.signalProcessGroup]
      · by_cases hshutdown : s.shutdown <;>
          simp [htermed, hgrace, hcancel, hnone, hshutdown, Streaming.signalProcessGroup]

/-- The signals are sound in every run, and they reach the group at the end of every
    iteration iff every iteration finds a state where they can. -/
theorem reaches_group_iff (leader : Process) {h : List (StreamingEvent × Unit)} {s : Streaming}
    (hr : (streamingMachine leader).Run h s) :
    (∀ h', h' <:+ h → SignalsSound ((streamingMachine leader).stateAfter h')) ∧
      ((∀ e a h', (e, a) :: h' <:+ h → ReachesGroup ((streamingMachine leader).stateAfter h') e) ↔
        ∀ e a h', (e, a) :: h' <:+ h → CanReach ((streamingMachine leader).stateAfter h') e) := by
  have hinv : ∀ h', h' <:+ h → StreamingInv ((streamingMachine leader).stateAfter h') :=
    fun h' hs => run_streamingInv (hr.suffix hs)
  refine ⟨fun h' hs => (hinv h' hs).flags.signalsSound, ?_⟩
  refine forall_congr' fun e => forall_congr' fun a => forall_congr' fun h' =>
    forall_congr' fun hs => forall_congr' fun hact => ?_
  subst hact
  have hF := (hinv h' ((List.suffix_cons _ _).trans hs)).flags
  obtain ⟨_, hallowed⟩ := hr.answer_of_suffix hs
  generalize (streamingMachine leader).stateAfter h' = s at hF hallowed
  have hstep : ∀ cancelSeen, s.pc = .acting cancelSeen →
      s.step .act = { s.check cancelSeen with pc := .receiving } := by
    intro cancelSeen hpc
    show (match s.pc with
      | .acting cancelSeen => { s.check cancelSeen with pc := .receiving }
      | _ => s) = _
    rw [hpc]
  rcases hallowed with hpc | hpc
  · rw [hstep true hpc, hpc]
    simpa using reachesGroup_check_iff hF true
  · rw [hstep false hpc, hpc]
    simpa using reachesGroup_check_iff hF false

/-! ## A descendant that outlives its leader -/

/-- `setup.sh`: dies of SIGTERM. -/
def sampleLeader : Process := ⟨true, false⟩

/-- A run whose group is its leader. -/
abbrev sampleStreaming := streamingMachine sampleLeader

/-- The leader starts a process that ignores SIGTERM, a cancel comes, the leader dies of
    the SIGTERM; three seconds later the loop looks again. -/
def survivorEvents : List StreamingEvent :=
  [.groupBecomes ⟨some sampleLeader, [⟨true, true⟩]⟩, .setCancel, .recv .timeout, .loadCancel, .act,
    .tick 3000000000, .recv .timeout, .loadCancel]

/-- The same with a leader that waits for its descendant. -/
def waitingEvents : List StreamingEvent :=
  [.groupBecomes ⟨some ⟨true, true⟩, [⟨true, true⟩]⟩, .setCancel, .recv .timeout, .loadCancel, .act,
    .tick 3000000000, .recv .timeout, .loadCancel, .act]

theorem reaches_group_waiting :
    sampleStreaming.Run (sampleStreaming.playAll waitingEvents).2
        (sampleStreaming.playAll waitingEvents).1 ∧
      (sampleStreaming.playAll waitingEvents).1.sent = [.sigterm, .sigkill] ∧
      ∀ e a h', (e, a) :: h' <:+ (sampleStreaming.playAll waitingEvents).2 →
        ReachesGroup (sampleStreaming.stateAfter h') e := by
  have hrun : sampleStreaming.Run (sampleStreaming.playAll waitingEvents).2
      (sampleStreaming.playAll waitingEvents).1 := Machine.run_of_admits (by decide)
  have hsteps : sampleStreaming.StepsMeet CanReach (sampleStreaming.playAll waitingEvents).2 := by
    decide
  exact ⟨hrun, by decide, (reaches_group_iff sampleLeader hrun).2.mpr hsteps.forall_suffix⟩

/-- The grace period is over, the descendant holds its pipe, and no SIGKILL is sent, now
    or later. -/
theorem descendant_survives :
    sampleStreaming.Run (sampleStreaming.playAll survivorEvents).2
        (sampleStreaming.playAll survivorEvents).1 ∧
      (sampleStreaming.playAll survivorEvents).1.CanDo .act ∧
      ¬ ReachesGroup (sampleStreaming.playAll survivorEvents).1 .act := by
  refine ⟨Machine.run_of_admits (by decide), by decide, fun hreaches => ?_⟩
  exact absurd (hreaches rfl (by decide) (by decide)) (by decide)

end DarkTower.Devloop
