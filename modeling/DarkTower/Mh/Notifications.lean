import DarkTower.Mh.Registration

/-!
# Which notifications the connection tasks spawn

* `run_backed`: a task that looks up the endpoint of its meeting finds one, so
  `spawn_notify_connected` and the cleanup of step 7 never skip a notification.
* `step_announces`: a step spawns no notification and changes the announcements
  of no task, or it spawns one notification of one task.
-/

namespace DarkTower.Mh

open DarkTower.Lib DarkTower.Lib.Multimap

/-- The task has been told, or has seen, that its meeting is registered. -/
def Pc.Backed : Pc → Prop
  | .checked true | .added | .connectedNotice | .holding | .removing _ | .removed _
  | .disconnectedNotice _ => True
  | _ => False

/-- A task that looks up the endpoint of its meeting has a registered meeting,
    and a provisional connection does not end as a closed one. -/
structure Backed (s : MhSystem) : Prop where
  notified : ∀ m, 0 < s.session.notifyCalls m → m ∈ s.session.registeredMeetings
  registered : ∀ c task, s.tasks c = some task → task.pc.Backed →
    task.meetingId ∈ s.session.registeredMeetings
  provisional : ∀ c task ending, s.tasks c = some task → task.pc = .pendingRemove ending →
    ending ≠ .closed

namespace Backed

variable {s : MhSystem}

theorem start : Backed MhSystem.start where
  notified m h := absurd h (Nat.lt_irrefl 0)
  registered c task h := by cases h
  provisional c task ending h := by cases h

/-- A step that changes one task. -/
theorem updates (hs : Backed s) {c : String} {task : ConnectionTask} (mailbox : List Mail)
    (hregistered : task.pc.Backed → task.meetingId ∈ s.session.registeredMeetings)
    (hprovisional : ∀ ending, task.pc = .pendingRemove ending → ending ≠ .closed) :
    Backed { s with mailbox, tasks := Function.update s.tasks c (some task) } := by
  refine ⟨hs.notified, fun c' task' htask => ?_, fun c' task' ending htask => ?_⟩
  all_goals
    dsimp only at htask ⊢
    by_cases hne : c' = c
  · rw [hne, Function.update_self, Option.some.injEq] at htask
    exact htask ▸ hregistered
  · rw [Function.update_of_ne hne] at htask
    exact hs.registered c' task' htask
  · rw [hne, Function.update_self, Option.some.injEq] at htask
    exact htask ▸ hprovisional ending
  · rw [Function.update_of_ne hne] at htask
    exact hs.provisional c' task' ending htask

theorem advance (hs : Backed s) {T : ℕ} {c : String} {task : ConnectionTask}
    (htask : s.tasks c = some task) {e : MhEvent} {s' : MhSystem}
    (h : Advance T s c task e s') : Backed s' := by
  have hsame : ∀ {pc : Pc}, task.pc = pc → pc.Backed →
      task.meetingId ∈ s.session.registeredMeetings :=
    fun hpc hb => hs.registered c task htask (hpc ▸ hb)
  cases h with
  | addConnection hpc => exact hs.updates _ (fun _ => hsame hpc trivial) (fun _ => Pc.noConfusion)
  | addPending hpc => exact hs.updates _ False.elim (fun _ => Pc.noConfusion)
  | notice hpc => exact hs.updates _ (fun _ => hsame hpc trivial) (fun _ => Pc.noConfusion)
  | wait hpc => exact hs.updates s.mailbox False.elim (fun _ => Pc.noConfusion)
  | lastNotice reason hpc =>
    exact hs.updates _ (fun _ => hsame hpc trivial) (fun _ => Pc.noConfusion)
  | wake deadline calls hpc hready =>
    exact hs.updates _ (fun _ => hs.notified _ (Nat.zero_lt_of_lt hready))
      (fun _ => Pc.noConfusion)
  | timeout deadline calls hpc hready =>
    refine hs.updates _ False.elim fun ending h => ?_
    rw [← Pc.pendingRemove.inj h]
    exact Ending.noConfusion
  | cancelWait deadline calls hpc =>
    refine hs.updates _ False.elim fun ending h => ?_
    rw [← Pc.pendingRemove.inj h]
    exact Ending.noConfusion
  | cancelHold hpc => exact hs.updates _ (fun _ => hsame hpc trivial) (fun _ => Pc.noConfusion)
  | close reason hpc => exact hs.updates _ (fun _ => hsame hpc trivial) (fun _ => Pc.noConfusion)

/-- The actor handles the next message. -/
theorem handle (hs : Backed s) (hc : Consistent s) {sender : Option String}
    {message : SessionMessage} {mailbox : List Mail}
    (hmail : s.mailbox = ⟨sender, message⟩ :: mailbox) :
    Backed { s with
      session := (s.session.handleMessage message).1
      mailbox := mailbox
      tasks := MhSystem.replied s.tasks sender (s.session.handleMessage message).2
      registeredSince := MhSystem.registers s.registeredSince s.now message } := by
  have hkept : ∀ {m}, m ∈ s.session.registeredMeetings →
      m ∈ (s.session.handleMessage message).1.registeredMeetings :=
    fun hm => SessionState.mem_registered_handleMessage.mpr (.inr hm)
  refine ⟨fun m hpos => ?_, fun c task htask hpc => ?_, fun c task ending htask hpc => ?_⟩
  · by_cases hreg : ∃ registration, message = .registerMeeting m registration
    · exact SessionState.mem_registered_handleMessage.mpr (.inl hreg)
    · dsimp only at hpos
      rw [SessionState.notifyCalls_handleMessage fun r heq => hreg ⟨r, heq⟩] at hpos
      exact hkept (hs.notified m hpos)
  · obtain ⟨old, hold, hm, -, rfl | ⟨rfl, hreply⟩⟩ := replied_cases htask
    · exact hkept (hs.registered c task hold hpc)
    · obtain ⟨_, place, hsender, hstands, -⟩ := hc.sender hmail
      obtain rfl : old = _ := Option.some.inj (hold.symm.trans hsender)
      rw [hm]
      refine hkept ?_
      rw [hreply] at hpc
      have hbacked := hs.registered c old hold
      generalize old.pc = pc at hstands hpc hbacked
      generalize mailOf mailbox c = mail at hstands
      cases hstands with
      | checking =>
        by_contra hnot
        have hflag : decide (old.meetingId ∈ s.session.registeredMeetings) = false :=
          decide_eq_false hnot
        simp only [SessionState.handleMessage, Pc.reply, hflag] at hpc
        exact hpc
      | pendingAdd => exact False.elim hpc
      | pendingRemove => exact False.elim hpc
      | disconnectedNotice => exact hbacked trivial
      | addSent => exact hbacked trivial
      | noticeAddSent => exact hbacked trivial
      | connectedNotice => exact hbacked trivial
      | removing => exact hbacked trivial
  · obtain ⟨old, hold, hm, -, rfl | ⟨rfl, hreply⟩⟩ := replied_cases htask
    · exact hs.provisional c task ending hold hpc
    · obtain ⟨_, place, hsender, hstands, -⟩ := hc.sender hmail
      obtain rfl : old = _ := Option.some.inj (hold.symm.trans hsender)
      rw [hpc] at hreply
      generalize old.pc = pc at hstands hreply
      generalize mailOf mailbox c = mail at hstands
      cases hstands <;> cases hreply

theorem step (hs : Backed s) (hc : Consistent s) {T : ℕ} {e : MhEvent} {s' : MhSystem}
    (hcase : StepCase T s e s') : Backed s' := by
  cases hcase with
  | stutter => exact hs
  | reject c => exact hs.updates s.mailbox False.elim (fun _ => Pc.noConfusion)
  | connect c meetingId participantId =>
    exact hs.updates _ False.elim (fun _ => Pc.noConfusion)
  | register => exact ⟨hs.notified, hs.registered, hs.provisional⟩
  | handle sender message mailbox hmail => exact hs.handle hc hmail
  | advance c task htask e s' hadvance => exact hs.advance htask hadvance
  | tick now => exact ⟨hs.notified, hs.registered, hs.provisional⟩
  | shutdown => exact ⟨hs.notified, hs.registered, hs.provisional⟩

end Backed

theorem run_backed {T : ℕ} {h : MhHistory} {s : MhSystem} (hr : (mhMachine T).Run h s) :
    Backed s :=
  Machine.Run.invariant (I := fun _ s => Backed s) Backed.start
    (fun _ s e hr _ hs => hs.step (run_consistent hr) (step_cases T s e)) hr

/-! ## The participant of a connection -/

/-- The meeting and the participant of a connection. -/
def MhSystem.participantOf (s : MhSystem) (c : String) : Option (String × String) :=
  (s.tasks c).map fun task => (task.meetingId, task.participantId)

/-- The connection that an event starts. -/
def MhEvent.opens : MhEvent → Option String
  | .reject c | .connect c _ _ => some c
  | _ => none

theorem participantOf_update (s : MhSystem) {s' : MhSystem} {c : String} {task : ConnectionTask}
    (pc : Pc) (htask : s.tasks c = some task)
    (h : s'.tasks = Function.update s.tasks c (some { task with pc })) :
    s'.participantOf = s.participantOf := by
  funext c'
  by_cases hne : c' = c
  · rw [hne, MhSystem.participantOf, h, Function.update_self, MhSystem.participantOf, htask]
    rfl
  · rw [MhSystem.participantOf, h, Function.update_of_ne hne, MhSystem.participantOf]

/-- A connection keeps its participant. -/
theorem participantOf_step {T : ℕ} {s s' : MhSystem} {e : MhEvent} (hcase : StepCase T s e s')
    {c : String} (hopens : e.opens ≠ some c) : s'.participantOf c = s.participantOf c := by
  cases hcase with
  | stutter => rfl
  | reject c' =>
    have hne : c ≠ c' := fun h => hopens (congrArg some h.symm)
    simp only [MhSystem.participantOf, Function.update_of_ne hne]
  | connect c' meetingId participantId =>
    have hne : c ≠ c' := fun h => hopens (congrArg some h.symm)
    simp only [MhSystem.participantOf, MhSystem.sends_tasks, Function.update_of_ne hne]
  | register => rfl
  | handle sender message mailbox hmail =>
    cases sender with
    | none => rfl
    | some c' =>
      cases htask : s.tasks c' with
      | none =>
        simp only [MhSystem.participantOf, MhSystem.replied, htask, Option.map_none]
        by_cases hne : c = c'
        · rw [hne, Function.update_self, htask]
        · rw [Function.update_of_ne hne]
      | some task =>
        let reply := (s.session.handleMessage message).2
        refine congrFun (participantOf_update s (task.pc.reply reply) htask ?_) c
        rw [MhSystem.replied, htask]
        rfl
  | advance c' task htask e s' hadvance =>
    obtain ⟨-, -, pc, -, htasks⟩ := hadvance.not_ended
    exact congrFun (participantOf_update s pc htask htasks) c
  | tick now => rfl
  | shutdown => rfl

theorem participantOf_eq_none {s : MhSystem} {c : String} :
    s.participantOf c = none ↔ s.tasks c = none := Option.map_eq_none_iff

/-- A connection that has a participant keeps it. -/
theorem participantOf_step_some {T : ℕ} {h : MhHistory} {s s' : MhSystem} {e : MhEvent}
    (ha : (mhMachine T).allowed h s e) (hcase : StepCase T s e s') {c : String}
    {who : String × String} (hwho : s.participantOf c = some who) :
    s'.participantOf c = some who := by
  rw [participantOf_step hcase, hwho]
  intro hopens
  have hnone : s.participantOf c = none := by
    rw [participantOf_eq_none]
    cases e with
    | reject c' => exact (Option.some.inj hopens) ▸ ha
    | connect c' m p => exact (Option.some.inj hopens) ▸ ha
    | _ => cases hopens
  rw [hwho] at hnone
  cases hnone

/-! ## Announcements -/

/-- Whether a task has spawned the notification of its connection, and that of
    the end of its connection. -/
def Pc.announced : Pc → Bool × Bool
  | .holding | .removing _ | .removed _ | .disconnectedNotice _ => (true, false)
  | .ended .closed => (true, true)
  | _ => (false, false)

/-- What the task of a connection has announced. -/
def MhSystem.announced (s : MhSystem) (c : String) : Bool × Bool :=
  ((s.tasks c).map (·.pc.announced)).getD (false, false)

namespace Notification

/-- What a task has announced before and after a notification. -/
def before : Notification → Bool × Bool
  | .connected _ _ _ => (false, false)
  | .disconnected _ _ _ _ => (true, false)

@[inherit_doc before] def after : Notification → Bool × Bool
  | .connected _ _ _ => (true, false)
  | .disconnected _ _ _ _ => (true, true)

/-- The meeting and the participant that a notification names. -/
def participant : Notification → String × String
  | .connected _ m p => (m, p)
  | .disconnected _ m p _ => (m, p)

end Notification

/-- What a step announces. -/
inductive Announces (s s' : MhSystem) : Option Notification → Prop
  | quiet (h : s'.announced = s.announced) : Announces s s' none
  | loud (c : String) (n : Notification) (hsender : s.mailbox.head?.bind (·.sender) = some c)
      (hof : s.participantOf c = some n.participant) (hbefore : s.announced c = n.before)
      (hafter : s'.announced = Function.update s.announced c n.after) : Announces s s' (some n)

theorem announced_update (s : MhSystem) {s' : MhSystem} {c : String} {task : ConnectionTask}
    (h : s'.tasks = Function.update s.tasks c (some task)) :
    s'.announced = Function.update s.announced c task.pc.announced := by
  funext c'
  by_cases hne : c' = c
  · rw [hne, Function.update_self, MhSystem.announced, h, Function.update_self]
    rfl
  · rw [Function.update_of_ne hne, MhSystem.announced, h, Function.update_of_ne hne,
      MhSystem.announced]

/-- A task that announces nothing new. -/
theorem announced_update_same {s s' : MhSystem} {c : String} {task : ConnectionTask}
    (h : s'.tasks = Function.update s.tasks c (some task))
    (hsame : task.pc.announced = s.announced c) : s'.announced = s.announced := by
  rw [announced_update s h, hsame, Function.update_eq_self]

/-- A task that goes on by itself announces nothing. -/
theorem Advance.announced {T : ℕ} {s s' : MhSystem} {c : String} {task : ConnectionTask}
    (htask : s.tasks c = some task) {e : MhEvent} (h : Advance T s c task e s') :
    s'.announced = s.announced := by
  have hbefore : ∀ {pc : Pc}, task.pc = pc → s.announced c = pc.announced := by
    rintro _ rfl
    rw [MhSystem.announced, htask]
    rfl
  cases h with
  | addConnection hpc => exact announced_update_same rfl (hbefore hpc).symm
  | addPending hpc => exact announced_update_same rfl (hbefore hpc).symm
  | notice hpc => exact announced_update_same rfl (hbefore hpc).symm
  | wait hpc => exact announced_update_same rfl (hbefore hpc).symm
  | lastNotice reason hpc => exact announced_update_same rfl (hbefore hpc).symm
  | wake deadline calls hpc => exact announced_update_same rfl (hbefore hpc).symm
  | timeout deadline calls hpc => exact announced_update_same rfl (hbefore hpc).symm
  | cancelWait deadline calls hpc => exact announced_update_same rfl (hbefore hpc).symm
  | cancelHold hpc => exact announced_update_same rfl (hbefore hpc).symm
  | close reason hpc => exact announced_update_same rfl (hbefore hpc).symm

/-- The actor handles a message of the task of `c`. -/
theorem announces_reply {s s' : MhSystem} (hc : Consistent s) (hb : Backed s) {c : String}
    {message : SessionMessage} {mailbox : List Mail}
    (hmail : s.mailbox = ⟨some c, message⟩ :: mailbox)
    (htasks : s'.tasks = MhSystem.replied s.tasks (some c) (s.session.handleMessage message).2) :
    Announces s s' ((s.tasks c).bind fun task =>
      task.notification (s.session.handleMessage message).2) := by
  obtain ⟨task, place, htask, hstands, -⟩ := hc.sender hmail
  rw [htask, Option.bind_some]
  rw [MhSystem.replied, htask, Option.map_some] at htasks
  have hbefore : s.announced c = task.pc.announced := by
    rw [MhSystem.announced, htask]
    rfl
  have hsender : s.mailbox.head?.bind (·.sender) = some c := by rw [hmail]; rfl
  have hendpoint : task.pc.Backed → ∃ endpoint,
      (s.session.registeredMeetings.lookup task.meetingId).map (·.mcGrpcEndpoint) =
        some endpoint := by
    intro hpc
    have hmem := AList.lookup_isSome.mpr (hb.registered c task htask hpc)
    obtain ⟨registration, hlookup⟩ := Option.isSome_iff_exists.mp hmem
    exact ⟨registration.mcGrpcEndpoint, by rw [hlookup, Option.map_some]⟩
  have hprovisional := hb.provisional c task
  have hof : s.participantOf c = some (task.meetingId, task.participantId) := by
    rw [MhSystem.participantOf, htask]
    rfl
  obtain ⟨meetingId, participantId, pc⟩ := task
  generalize mailOf mailbox c = mail at hstands
  dsimp only at hstands hbefore hendpoint hprovisional htasks
  cases hstands with
  | checking => exact .quiet (announced_update_same htasks hbefore.symm)
  | addSent => exact .quiet (announced_update_same htasks hbefore.symm)
  | noticeAddSent => exact .quiet (announced_update_same htasks hbefore.symm)
  | pendingAdd => exact .quiet (announced_update_same htasks hbefore.symm)
  | removing => exact .quiet (announced_update_same htasks hbefore.symm)
  | pendingRemove ending promoted =>
    refine .quiet (announced_update_same htasks ?_)
    rw [hbefore]
    cases ending with
    | closed => exact absurd rfl (hprovisional .closed htask rfl)
    | rejected => rfl
    | timeout deadline => rfl
    | cancelled => rfl
  | connectedNotice =>
    obtain ⟨endpoint, hlookup⟩ := hendpoint trivial
    simp only [SessionState.handleMessage, hlookup, ConnectionTask.notification] at htasks ⊢
    exact .loud c _ hsender hof hbefore (announced_update s htasks)
  | disconnectedNotice reason =>
    obtain ⟨endpoint, hlookup⟩ := hendpoint trivial
    simp only [SessionState.handleMessage, hlookup, ConnectionTask.notification] at htasks ⊢
    exact .loud c _ hsender hof hbefore (announced_update s htasks)

theorem step_announces {T : ℕ} {h : MhHistory} {s : MhSystem} (hc : Consistent s)
    (hb : Backed s) {e : MhEvent} (ha : (mhMachine T).allowed h s e) :
    Announces s (s.step T e).1 (s.step T e).2 := by
  have hfresh : ∀ {c}, s.tasks c = none → s.announced c = (false, false) := by
    intro c hnone
    rw [MhSystem.announced, hnone]
    rfl
  -- every event but `handle` spawns nothing
  have hquiet : ∀ {s'}, StepCase T s e s' → e ≠ .handle → s'.announced = s.announced := by
    intro s' hcase he
    cases hcase with
    | stutter => rfl
    | reject c => exact announced_update_same rfl (hfresh ha).symm
    | connect c meetingId participantId => exact announced_update_same rfl (hfresh ha).symm
    | register => rfl
    | handle => exact absurd rfl he
    | advance c task htask e s' hadvance => exact hadvance.announced htask
    | tick now => rfl
    | shutdown => rfl
  cases e with
  | handle =>
    simp only [MhSystem.step, MhSystem.handleMail]
    cases hmail : s.mailbox with
    | nil => exact .quiet rfl
    | cons mail mailbox =>
      obtain ⟨sender, message⟩ := mail
      cases sender with
      | none => exact .quiet rfl
      | some c => exact announces_reply hc hb hmail rfl
  | reject c => exact .quiet (hquiet (step_cases T s (.reject c)) MhEvent.noConfusion)
  | connect c m p => exact .quiet (hquiet (step_cases T s (.connect c m p)) MhEvent.noConfusion)
  | register m mc endpoint =>
    exact .quiet (hquiet (step_cases T s (.register m mc endpoint)) MhEvent.noConfusion)
  | resume c => exact .quiet (hquiet (step_cases T s (.resume c)) MhEvent.noConfusion)
  | wake c => exact .quiet (hquiet (step_cases T s (.wake c)) MhEvent.noConfusion)
  | timeout c => exact .quiet (hquiet (step_cases T s (.timeout c)) MhEvent.noConfusion)
  | cancel c => exact .quiet (hquiet (step_cases T s (.cancel c)) MhEvent.noConfusion)
  | close c reason =>
    exact .quiet (hquiet (step_cases T s (.close c reason)) MhEvent.noConfusion)
  | tick now => exact .quiet (hquiet (step_cases T s (.tick now)) MhEvent.noConfusion)
  | shutdown => exact .quiet (hquiet (step_cases T s .shutdown) MhEvent.noConfusion)

end DarkTower.Mh
