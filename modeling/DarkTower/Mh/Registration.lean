import DarkTower.Mh.Provisional

/-!
# Is a connection of a registered meeting abandoned?

* `NoneAbandoned`: no registered meeting has pending connections, and no task
  ended with the timeout of a meeting that was registered in time.
* `noneAbandoned_along`: it holds along every run in which no registration
  comes between the check of a task and its `add_pending_connection`, none
  between that and the start of its wait, and no task that was notified in time
  takes the branch of the timeout all the same.
* `registration_between_check_and_add`: without the first condition a meeting
  is registered and has a pending connection, without the second a task times
  out whose meeting was registered long before.
-/

namespace DarkTower.Mh

open DarkTower.Lib DarkTower.Lib.Multimap

/-- A task took the branch of the timeout. -/
def Pc.TimedOut (pc : Pc) (deadline : ℕ) : Prop :=
  pc = .pendingRemove (.timeout deadline) ∨ pc = .ended (.timeout deadline)

/-- No registered meeting has pending connections, and a task ended with the
    timeout only if no `RegisterMeeting` of its meeting was handled before. -/
def NoneAbandoned (s : MhSystem) : Prop :=
  (∀ m ∈ s.session.registeredMeetings, s.session.pendingIn m = []) ∧
    ∀ c task deadline, s.tasks c = some task → task.pc = .ended (.timeout deadline) →
      ∀ since, s.registeredSince task.meetingId = some since → deadline ≤ since

/-- The pending connection that a message adds. -/
def SessionMessage.pending? : SessionMessage → Option PendingConnection
  | .addPendingConnection conn => some conn
  | _ => none

/-- The deadline of a waiting task and the calls it has not waited for. -/
def Pc.wait? : Pc → Option (ℕ × ℕ)
  | .waiting deadline calls => some (deadline, calls)
  | _ => none

/-- The condition on a step: a pending connection is added, and a wait begins,
    only while the meeting is not registered, and the branch of the timeout is
    not taken by a task whose `notified()` was ready before the deadline. -/
def WaitsInformed (s : MhSystem) : MhEvent → Prop
  | .handle => ∀ mail ∈ s.mailbox.head?, ∀ conn ∈ mail.message.pending?,
      conn.meetingId ∉ s.session.registeredMeetings
  | .resume c => ∀ task ∈ s.tasks c, task.pc = .notifyReady →
      task.meetingId ∉ s.session.registeredMeetings
  | .timeout c => ∀ task ∈ s.tasks c, ∀ wait ∈ task.pc.wait?,
      wait.1 ≤ s.now → wait.2 < s.session.notifyCalls task.meetingId →
      ∀ since ∈ s.registeredSince task.meetingId, wait.1 ≤ since
  | _ => True

instance (s : MhSystem) (e : MhEvent) : Decidable (WaitsInformed s e) :=
  match e with
  | .handle => inferInstanceAs (Decidable (∀ mail ∈ s.mailbox.head?, ∀ conn ∈ mail.message.pending?,
      conn.meetingId ∉ s.session.registeredMeetings))
  | .resume c => inferInstanceAs (Decidable (∀ task ∈ s.tasks c, task.pc = .notifyReady →
      task.meetingId ∉ s.session.registeredMeetings))
  | .timeout c => inferInstanceAs (Decidable (∀ task ∈ s.tasks c, ∀ wait ∈ task.pc.wait?,
      wait.1 ≤ s.now → wait.2 < s.session.notifyCalls task.meetingId →
      ∀ since ∈ s.registeredSince task.meetingId, wait.1 ≤ since))
  | .reject _ | .connect _ _ _ | .register _ _ _ | .wake _ | .cancel _ | .close _ _ | .tick _
  | .shutdown => inferInstanceAs (Decidable True)

/-! ## Registrations and their `Notify` -/

namespace SessionState

variable {s : SessionState}

theorem mem_registered_handleMessage {message : SessionMessage} {m : String} :
    m ∈ (s.handleMessage message).1.registeredMeetings ↔
      (∃ registration, message = .registerMeeting m registration) ∨ m ∈ s.registeredMeetings := by
  cases message with
  | registerMeeting meetingId registration =>
    have hinsert : m ∈ s.registeredMeetings.insert meetingId registration ↔
      m = meetingId ∨ m ∈ s.registeredMeetings := AList.mem_insert _
    refine hinsert.trans (or_congr_left ?_)
    constructor
    · rintro rfl
      exact ⟨registration, rfl⟩
    · rintro ⟨_, h⟩
      exact (SessionMessage.registerMeeting.inj h).1.symm
  | removeConnection meetingId connectionId =>
    have hcase := s.handleRemoveConnection_cases meetingId connectionId
    simp only [handleMessage, reduceCtorEq, exists_false, false_or]
    rw [hcase.frame.2.2]
  | removePendingConnection meetingId connectionId =>
    simp only [handleMessage, reduceCtorEq, exists_false, false_or]
    rw [(s.removePending_frame _ _).2.2]
  | addConnection meetingId entry => exact (or_iff_right (by rintro ⟨_, ⟨⟩⟩)).symm
  | addPendingConnection conn => exact (or_iff_right (by rintro ⟨_, ⟨⟩⟩)).symm
  | isMeetingRegistered meetingId => exact (or_iff_right (by rintro ⟨_, ⟨⟩⟩)).symm
  | getMcEndpoint meetingId => exact (or_iff_right (by rintro ⟨_, ⟨⟩⟩)).symm
  | activeConnectionCount => exact (or_iff_right (by rintro ⟨_, ⟨⟩⟩)).symm

/-- A `Notify` is never dropped. -/
theorem mem_notifiers_handleMessage {m : String} (h : m ∈ s.meetingNotifiers)
    (message : SessionMessage) : m ∈ (s.handleMessage message).1.meetingNotifiers := by
  cases message with
  | registerMeeting meetingId registration =>
    simp only [handleMessage, handleRegisterMeeting]
    split
    · exact h
    · exact (AList.mem_insert _).mpr (.inr h)
  | addPendingConnection conn =>
    simp only [handleMessage, handleAddPendingConnection]
    split
    · exact (AList.mem_insert _).mpr (.inr h)
    · exact h
  | removeConnection meetingId connectionId =>
    simp only [handleMessage, (s.handleRemoveConnection_cases meetingId connectionId).frame.2.1]
    exact h
  | removePendingConnection meetingId connectionId =>
    simp only [handleMessage, (s.removePending_frame _ _).2.1]
    exact h
  | addConnection meetingId entry => exact h
  | isMeetingRegistered meetingId => exact h
  | getMcEndpoint meetingId => exact h
  | activeConnectionCount => exact h

theorem mem_notifiers_addPending (conn : PendingConnection) :
    conn.meetingId ∈ (s.handleMessage (.addPendingConnection conn)).1.meetingNotifiers := by
  simp only [handleMessage, handleAddPendingConnection]
  split
  · exact (AList.mem_insert _).mpr (.inl rfl)
  · rename_i calls hlookup
    exact AList.lookup_isSome.mp (by rw [hlookup]; rfl)

/-- A registration notifies the waiters of its meeting. -/
theorem notifyCalls_registerMeeting {m : String} (h : m ∈ s.meetingNotifiers)
    (registration : MeetingRegistration) :
    (s.handleMessage (.registerMeeting m registration)).1.notifyCalls m = s.notifyCalls m + 1 := by
  obtain ⟨calls, hlookup⟩ := Option.isSome_iff_exists.mp (AList.lookup_isSome.mpr h)
  simp only [notifyCalls, handleMessage, handleRegisterMeeting, hlookup, AList.lookup_insert,
    Option.getD_some]

theorem notifyCalls_mono {m : String} (h : m ∈ s.meetingNotifiers) (message : SessionMessage) :
    s.notifyCalls m ≤ (s.handleMessage message).1.notifyCalls m := by
  by_cases hreg : ∃ registration, message = .registerMeeting m registration
  · obtain ⟨registration, rfl⟩ := hreg
    rw [notifyCalls_registerMeeting h]
    exact Nat.le_succ _
  · rw [notifyCalls_handleMessage fun registration heq => hreg ⟨registration, heq⟩]

/-- A meeting without pending connections gets one from `add_pending_connection`
    only. -/
theorem pendingIn_handleMessage_eq_nil (hn : s.connectionIds.Nodup) {m : String}
    {message : SessionMessage} (h : s.pendingIn m = [])
    (hadd : ∀ conn, message = .addPendingConnection conn → conn.meetingId ≠ m) :
    (s.handleMessage message).1.pendingIn m = [] := by
  have hexact := exactConnections_handleMessage hn message
  cases message with
  | registerMeeting meetingId registration =>
    rw [hexact.2.1, h]
    exact ite_self _
  | addConnection meetingId entry => rw [hexact.1, h]
  | removeConnection meetingId connectionId => rw [hexact.2.1, h]
  | addPendingConnection conn => rw [hexact.1, h, if_neg (hadd conn rfl).symm, List.append_nil]
  | removePendingConnection meetingId connectionId =>
    rw [hexact.2.1, h]
    exact ite_self _
  | isMeetingRegistered meetingId => exact h
  | getMcEndpoint meetingId => exact h
  | activeConnectionCount => exact h

end SessionState

/-! ## Tasks and replies -/

theorem Pc.waiting_of_reply {pc : Pc} {reply : SessionReply} {deadline calls : ℕ}
    (h : pc.reply reply = .waiting deadline calls) : pc = .waiting deadline calls := by
  unfold Pc.reply at h
  split at h <;> first | exact h | cases h

theorem Pc.timedOut_of_reply {pc : Pc} {reply : SessionReply} {deadline : ℕ}
    (h : (pc.reply reply).TimedOut deadline) : pc.TimedOut deadline := by
  unfold Pc.reply at h
  split at h
  all_goals rcases h with h | h
  all_goals first
    | exact .inl h
    | exact .inr h
    | cases h
  exact .inl rfl

/-- The task of `c` after a reply to `sender`. -/
theorem replied_cases {tasks : String → Option ConnectionTask} {sender : Option String}
    {reply : SessionReply} {c : String} {task' : ConnectionTask}
    (h : MhSystem.replied tasks sender reply c = some task') :
    ∃ task, tasks c = some task ∧ task'.meetingId = task.meetingId ∧
      task'.participantId = task.participantId ∧
      (task' = task ∨ sender = some c ∧ task'.pc = task.pc.reply reply) := by
  cases sender with
  | none => exact ⟨task', h, rfl, rfl, .inl rfl⟩
  | some c' =>
    by_cases hc : c = c'
    · rw [MhSystem.replied, hc, Function.update_self] at h
      obtain ⟨task, htask, rfl⟩ := Option.map_eq_some_iff.mp h
      exact ⟨task, hc ▸ htask, rfl, rfl, .inr ⟨by rw [hc], rfl⟩⟩
    · rw [MhSystem.replied, Function.update_of_ne hc] at h
      exact ⟨task', h, rfl, rfl, .inl rfl⟩

/-- A message registers its own meeting only. -/
theorem registers_cases (s : MhSystem) (message : SessionMessage) :
    (∀ m, (∃ registration, message = .registerMeeting m registration) →
      MhSystem.registers s.registeredSince s.now message m =
        some ((s.registeredSince m).getD s.now)) ∧
    ∀ m, (¬ ∃ registration, message = .registerMeeting m registration) →
      MhSystem.registers s.registeredSince s.now message m = s.registeredSince m := by
  constructor
  · rintro m ⟨registration, rfl⟩
    exact Function.update_self _ _ _
  · intro m hm
    cases message with
    | registerMeeting meetingId registration =>
      exact Function.update_of_ne (fun h => hm ⟨registration, by rw [h]⟩) _ _
    | _ => rfl

/-- What holds where the steps so far have met `WaitsInformed`. -/
structure Attentive (s : MhSystem) : Prop where
  registered : ∀ m, m ∈ s.session.registeredMeetings ↔ s.registeredSince m ≠ none
  past : ∀ m since, s.registeredSince m = some since → since ≤ s.now
  noPending : ∀ m ∈ s.session.registeredMeetings, s.session.pendingIn m = []
  ready : ∀ c task, s.tasks c = some task → task.pc = .notifyReady →
    task.meetingId ∈ s.session.meetingNotifiers
  /-- The `Notify` of a waiting task counts the registrations since it waits. -/
  waits : ∀ c task deadline calls, s.tasks c = some task → task.pc = .waiting deadline calls →
    task.meetingId ∈ s.session.meetingNotifiers ∧
      calls ≤ s.session.notifyCalls task.meetingId ∧
      (task.meetingId ∈ s.session.registeredMeetings →
        calls < s.session.notifyCalls task.meetingId)
  timely : ∀ c task deadline, s.tasks c = some task → task.pc.TimedOut deadline →
    deadline ≤ s.now ∧ ∀ since, s.registeredSince task.meetingId = some since → deadline ≤ since

namespace Attentive

variable {s : MhSystem}

theorem start : Attentive MhSystem.start where
  registered m := iff_of_false (AList.notMem_empty m) fun h => h rfl
  past m since h := by cases h
  noPending m h := absurd h (AList.notMem_empty m)
  ready c task h := by cases h
  waits c task deadline calls h := by cases h
  timely c task deadline h := by cases h

/-- A step that changes one task. -/
theorem updates (hs : Attentive s) {c : String} {task : ConnectionTask} (mailbox : List Mail)
    (hready : task.pc = .notifyReady → task.meetingId ∈ s.session.meetingNotifiers)
    (hwaits : ∀ deadline calls, task.pc = .waiting deadline calls →
      task.meetingId ∈ s.session.meetingNotifiers ∧
        calls ≤ s.session.notifyCalls task.meetingId ∧
        (task.meetingId ∈ s.session.registeredMeetings →
          calls < s.session.notifyCalls task.meetingId))
    (htimely : ∀ deadline, task.pc.TimedOut deadline → deadline ≤ s.now ∧
      ∀ since, s.registeredSince task.meetingId = some since → deadline ≤ since) :
    Attentive { s with mailbox, tasks := Function.update s.tasks c (some task) } := by
  refine ⟨hs.registered, hs.past, hs.noPending, fun c' task' htask => ?_,
    fun c' task' deadline calls htask => ?_, fun c' task' deadline htask => ?_⟩
  all_goals
    dsimp only at htask ⊢
    by_cases hne : c' = c
  · rw [hne, Function.update_self, Option.some.injEq] at htask
    exact htask ▸ hready
  · rw [Function.update_of_ne hne] at htask
    exact hs.ready c' task' htask
  · rw [hne, Function.update_self, Option.some.injEq] at htask
    exact htask ▸ hwaits deadline calls
  · rw [Function.update_of_ne hne] at htask
    exact hs.waits c' task' deadline calls htask
  · rw [hne, Function.update_self, Option.some.injEq] at htask
    exact htask ▸ htimely deadline
  · rw [Function.update_of_ne hne] at htask
    exact hs.timely c' task' deadline htask

/-- A step that makes a task neither wait nor time out. -/
theorem updates_of_ne (hs : Attentive s) {c : String} {task : ConnectionTask} {mailbox : List Mail}
    (hready : task.pc ≠ .notifyReady) (hwaits : ∀ deadline calls, task.pc ≠ .waiting deadline calls)
    (htimely : ∀ deadline, ¬ task.pc.TimedOut deadline) :
    Attentive { s with mailbox, tasks := Function.update s.tasks c (some task) } :=
  hs.updates _ (fun h => absurd h hready) (fun deadline calls h => absurd h (hwaits deadline calls))
    fun deadline h => absurd h (htimely deadline)

/-- A task goes on by itself. -/
theorem advance (hs : Attentive s) {T : ℕ} {c : String} {task : ConnectionTask}
    (htask : s.tasks c = some task) {e : MhEvent} {s' : MhSystem}
    (h : Advance T s c task e s') (hcond : WaitsInformed s e) : Attentive s' := by
  cases h with
  | wait hpc =>
    refine hs.updates s.mailbox (fun h => by cases h) (fun deadline calls h => ?_)
      fun deadline h => h.elim Pc.noConfusion Pc.noConfusion
    obtain ⟨-, rfl⟩ := Pc.waiting.inj h
    exact ⟨hs.ready c task htask hpc, Nat.le_refl _,
      fun hmem => absurd hmem (hcond task htask hpc)⟩
  | timeout deadline calls hpc hready =>
    refine hs.updates _ (fun h => by cases h) (fun deadline calls h => by cases h)
      fun deadline' h => ?_
    obtain rfl : deadline = deadline' := by
      rcases h with h | h
      · exact Ending.timeout.inj (Pc.pendingRemove.inj h)
      · cases h
    refine ⟨hready, fun since hsince => ?_⟩
    have hmem : task.meetingId ∈ s.session.registeredMeetings :=
      (hs.registered _).mpr fun hnone => by rw [hsince] at hnone; cases hnone
    have hcalls := (hs.waits c task deadline calls htask hpc).2.2 hmem
    exact hcond task htask (deadline, calls) (by rw [hpc]; rfl) hready hcalls since hsince
  | cancelWait deadline calls hpc =>
    refine hs.updates_of_ne Pc.noConfusion (fun _ _ => Pc.noConfusion) fun deadline' h => ?_
    rcases h with h | h
    · cases h
    · cases h
  | _ =>
    exact hs.updates_of_ne Pc.noConfusion (fun _ _ => Pc.noConfusion)
      fun _ h => h.elim Pc.noConfusion Pc.noConfusion

theorem noPending_handle (hs : Attentive s) (hc : Consistent s) {sender : Option String}
    {message : SessionMessage} {mailbox : List Mail}
    (hmail : s.mailbox = ⟨sender, message⟩ :: mailbox) (hcond : WaitsInformed s .handle)
    {m : String} (hmem : m ∈ (s.session.handleMessage message).1.registeredMeetings) :
    (s.session.handleMessage message).1.pendingIn m = [] := by
  rcases SessionState.mem_registered_handleMessage.mp hmem with ⟨registration, rfl⟩ | hmem
  · have hexact :=
      SessionState.exactConnections_handleMessage hc.nodup (.registerMeeting m registration)
    rw [hexact.2.1, if_pos rfl]
  · refine SessionState.pendingIn_handleMessage_eq_nil hc.nodup (hs.noPending m hmem) ?_
    rintro conn rfl rfl
    exact hcond ⟨sender, .addPendingConnection conn⟩ (by rw [hmail]; rfl) conn rfl hmem

/-- `add_pending_connection` returns the `Notify` of its meeting. -/
theorem ready_handle (hs : Attentive s) (hc : Consistent s) {sender : Option String}
    {message : SessionMessage} {mailbox : List Mail}
    (hmail : s.mailbox = ⟨sender, message⟩ :: mailbox) {c : String} {task : ConnectionTask}
    (htask : MhSystem.replied s.tasks sender (s.session.handleMessage message).2 c = some task)
    (hpc : task.pc = .notifyReady) :
    task.meetingId ∈ (s.session.handleMessage message).1.meetingNotifiers := by
  obtain ⟨old, hold, hm, -, rfl | ⟨rfl, hreply⟩⟩ := replied_cases htask
  · exact SessionState.mem_notifiers_handleMessage (hs.ready c task hold hpc) message
  · obtain ⟨_, place, hsender, hstands, -⟩ := hc.sender hmail
    obtain rfl : old = _ := Option.some.inj (hold.symm.trans hsender)
    rw [hpc] at hreply
    rw [hm]
    generalize old.pc = pc at hstands hreply
    generalize mailOf mailbox c = mail at hstands
    cases hstands with
    | pendingAdd conn hid hm =>
      rw [← hm]
      exact SessionState.mem_notifiers_addPending conn
    | _ => cases hreply

/-- The actor handles the next message. -/
theorem handle (hs : Attentive s) (hc : Consistent s) {sender : Option String}
    {message : SessionMessage} {mailbox : List Mail}
    (hmail : s.mailbox = ⟨sender, message⟩ :: mailbox) (hcond : WaitsInformed s .handle) :
    Attentive { s with
      session := (s.session.handleMessage message).1
      mailbox := mailbox
      tasks := MhSystem.replied s.tasks sender (s.session.handleMessage message).2
      registeredSince := MhSystem.registers s.registeredSince s.now message } := by
  obtain ⟨hmine, hothers⟩ := registers_cases s message
  have hregistered : ∀ m, m ∈ (s.session.handleMessage message).1.registeredMeetings ↔
      MhSystem.registers s.registeredSince s.now message m ≠ none := by
    intro m
    rw [SessionState.mem_registered_handleMessage, hs.registered]
    by_cases hreg : ∃ registration, message = .registerMeeting m registration
    · rw [hmine m hreg]
      exact iff_of_true (.inl hreg) (Option.some_ne_none _)
    · rw [hothers m hreg]
      exact or_iff_right hreg
  refine ⟨hregistered, fun m since h => ?_, fun m hmem => ?_, fun c task htask hpc => ?_,
    fun c task deadline calls htask hpc => ?_, fun c task deadline htask hpc => ?_⟩
  · dsimp only at h ⊢
    by_cases hreg : ∃ registration, message = .registerMeeting m registration
    · rw [hmine m hreg, Option.some.injEq] at h
      cases hold : s.registeredSince m with
      | none => rw [hold] at h; exact h.symm.le
      | some old => rw [hold] at h; exact h ▸ hs.past m old hold
    · rw [hothers m hreg] at h
      exact hs.past m since h
  · exact hs.noPending_handle hc hmail hcond hmem
  · exact hs.ready_handle hc hmail htask hpc
  · obtain ⟨old, hold, hm, -, hpc'⟩ := replied_cases htask
    have hwaits : old.pc = .waiting deadline calls := by
      rcases hpc' with rfl | ⟨-, hreply⟩
      · exact hpc
      · exact Pc.waiting_of_reply (hreply ▸ hpc)
    obtain ⟨hnotifier, hle, hlt⟩ := hs.waits c old deadline calls hold hwaits
    have hmono := SessionState.notifyCalls_mono hnotifier message
    rw [hm]
    refine ⟨SessionState.mem_notifiers_handleMessage hnotifier message, hle.trans hmono,
      fun hmem => ?_⟩
    rcases SessionState.mem_registered_handleMessage.mp hmem with ⟨registration, rfl⟩ | hmem
    · dsimp only
      rw [SessionState.notifyCalls_registerMeeting hnotifier]
      exact Nat.lt_succ_of_le hle
    · exact (hlt hmem).trans_le hmono
  · obtain ⟨old, hold, hm, -, hpc'⟩ := replied_cases htask
    have htimed : old.pc.TimedOut deadline := by
      rcases hpc' with rfl | ⟨-, hreply⟩
      · exact hpc
      · exact Pc.timedOut_of_reply (hreply ▸ hpc)
    obtain ⟨hnow, hfirst⟩ := hs.timely c old deadline hold htimed
    refine ⟨hnow, fun since hsince => ?_⟩
    dsimp only at hsince
    rw [hm] at hsince
    by_cases hreg : ∃ registration, message = .registerMeeting old.meetingId registration
    · rw [hmine _ hreg, Option.some.injEq] at hsince
      cases hbefore : s.registeredSince old.meetingId with
      | none => rw [hbefore] at hsince; exact hsince ▸ hnow
      | some before => rw [hbefore] at hsince; exact hsince ▸ hfirst before hbefore
    · rw [hothers _ hreg] at hsince
      exact hfirst since hsince

theorem step (hs : Attentive s) (hc : Consistent s) {T : ℕ} {h : MhHistory} {e : MhEvent}
    {s' : MhSystem} (ha : (mhMachine T).allowed h s e) (hcase : StepCase T s e s')
    (hcond : WaitsInformed s e) : Attentive s' := by
  cases hcase with
  | stutter => exact hs
  | reject c =>
    refine hs.updates_of_ne Pc.noConfusion (fun _ _ => Pc.noConfusion) fun deadline h => ?_
    rcases h with h | h
    · cases h
    · cases h
  | connect c meetingId participantId =>
    exact hs.updates_of_ne Pc.noConfusion (fun _ _ => Pc.noConfusion)
      fun _ h => h.elim Pc.noConfusion Pc.noConfusion
  | register => exact ⟨hs.registered, hs.past, hs.noPending, hs.ready, hs.waits, hs.timely⟩
  | handle sender message mailbox hmail => exact hs.handle hc hmail hcond
  | advance c task htask e s' hadvance => exact hs.advance htask hadvance hcond
  | tick now =>
    refine ⟨hs.registered, fun m since h => (hs.past m since h).trans ha, hs.noPending, hs.ready,
      hs.waits, fun c task deadline htask hpc => ?_⟩
    obtain ⟨hnow, hfirst⟩ := hs.timely c task deadline htask hpc
    exact ⟨hnow.trans ha, hfirst⟩
  | shutdown => exact ⟨hs.registered, hs.past, hs.noPending, hs.ready, hs.waits, hs.timely⟩

/-- In such a state no connection is abandoned. -/
theorem noneAbandoned (hs : Attentive s) : NoneAbandoned s :=
  ⟨hs.noPending, fun c task deadline htask hpc => (hs.timely c task deadline htask (.inr hpc)).2⟩

end Attentive

theorem run_attentive {T : ℕ} {h : MhHistory} {s : MhSystem} (hr : (mhMachine T).Run h s)
    (hC : ∀ e a h', (e, a) :: h' <:+ h → WaitsInformed ((mhMachine T).stateAfter h') e) :
    Attentive s :=
  Machine.Run.invariant_of_steps (I := fun _ s => Attentive s) Attentive.start
    (fun _ s e hr ha hcond hs => hs.step (run_consistent hr) ha (step_cases T s e) hcond) hr hC

/-- No connection of a registered meeting is abandoned in a run whose steps all
    meet `WaitsInformed`. -/
theorem noneAbandoned_along {T : ℕ} {h : MhHistory} {s : MhSystem} (hr : (mhMachine T).Run h s)
    (hC : ∀ e a h', (e, a) :: h' <:+ h → WaitsInformed ((mhMachine T).stateAfter h') e) :
    NoneAbandoned s :=
  (run_attentive hr hC).noneAbandoned

/-- A connection waits, its meeting is registered and the task goes on. -/
def promotedEvents : List MhEvent :=
  [.connect "conn-1" "meeting-1" "user-1", .handle, .resume "conn-1", .handle, .resume "conn-1",
    .tick 10, .register "meeting-1" "mc-1" "http://mc:50052", .handle, .wake "conn-1", .handle,
    .tick 20, .timeout "conn-1"]

theorem noneAbandoned_along_promoted :
    (mhMachine 15).Run ((mhMachine 15).playAll promotedEvents).2
        ((mhMachine 15).playAll promotedEvents).1 ∧
      NoneAbandoned ((mhMachine 15).playAll promotedEvents).1 :=
  have hr := Machine.run_of_admits (M := mhMachine 15) (l := promotedEvents) (by decide)
  ⟨hr, noneAbandoned_along hr (Machine.StepsMeet.forall_suffix (by decide))⟩

/-- A registration is handled between the check of a task and its
    `add_pending_connection`. -/
def lateAddEvents : List MhEvent :=
  [.connect "conn-1" "meeting-1" "user-1", .handle,
    .register "meeting-1" "mc-1" "http://mc:50052", .handle, .resume "conn-1", .handle]

/-- After `lateAddEvents` a registered meeting has a pending connection, and
    after `lostWakeupEvents` a task has timed out at 15 whose meeting has been
    registered since 0. -/
theorem registration_between_check_and_add :
    ((mhMachine 15).Run ((mhMachine 15).playAll lateAddEvents).2
        ((mhMachine 15).playAll lateAddEvents).1 ∧
      ¬ NoneAbandoned ((mhMachine 15).playAll lateAddEvents).1) ∧
    (mhMachine 15).Run ((mhMachine 15).playAll lostWakeupEvents).2
        ((mhMachine 15).playAll lostWakeupEvents).1 ∧
      ¬ NoneAbandoned ((mhMachine 15).playAll lostWakeupEvents).1 := by
  refine ⟨⟨Machine.run_of_admits (by decide), fun h => ?_⟩, Machine.run_of_admits (by decide),
    fun h => ?_⟩
  · have hmem : "meeting-1" ∈
      ((mhMachine 15).playAll lateAddEvents).1.session.registeredMeetings := by decide
    exact absurd (h.1 _ hmem) (by decide)
  · have htask : ((mhMachine 15).playAll lostWakeupEvents).1.tasks "conn-1" =
      some ⟨"meeting-1", "user-1", .ended (.timeout 15)⟩ := by decide
    exact absurd (h.2 _ _ 15 htask rfl 0 (by decide)) (by decide)

end DarkTower.Mh
