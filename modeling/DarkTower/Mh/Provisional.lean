import DarkTower.Mh.Connection

/-!
# What an ended connection task leaves in the session

* `SessionState.At` and `Place.after`: a connection is nowhere, pending or
  active, and each message moves it.
* `Stands`: where a task stands fixes which of its messages are in the mailbox
  and where its connection is; `run_consistent` is the invariant.
* `nothingLeft_along_iff`: no ended task leaves its connection behind, in any
  state of a run, iff the run handles no `remove_pending_connection` of a
  connection that a registration has promoted. `await_meeting_registration`
  removes from the pending connections only: `lostWakeup_leaves_active` is a
  run in which the registration comes before the task waits for it.
-/

namespace DarkTower.Mh

open DarkTower.Lib DarkTower.Lib.Multimap

/-- Where a session has a connection. -/
inductive Place
  | absent
  | pending (meetingId : String)
  | active (meetingId : String)
deriving DecidableEq

/-- The session has the connection `c` in exactly one place, or nowhere. -/
def SessionState.At (s : SessionState) (c : String) (place : Place) : Prop :=
  ∀ m, (s.HasActive m c ↔ place = .active m) ∧ (s.HasPending m c ↔ place = .pending m)

/-- Where the connection `c` is after a message. -/
def Place.after (place : Place) (c : String) : SessionMessage → Place
  | .registerMeeting meetingId _ =>
    if place = .pending meetingId then .active meetingId else place
  | .addConnection meetingId entry => if entry.connectionId = c then .active meetingId else place
  | .removeConnection meetingId connectionId =>
    if connectionId = c ∧ place = .active meetingId then .absent else place
  | .addPendingConnection conn =>
    if conn.connectionId = c then .pending conn.meetingId else place
  | .removePendingConnection meetingId connectionId =>
    if connectionId = c ∧ place = .pending meetingId then .absent else place
  | .isMeetingRegistered _ | .getMcEndpoint _ | .activeConnectionCount => place

namespace SessionState

variable {s : SessionState} {c : String} {place : Place}

theorem hasActive_iff {m : String} :
    s.HasActive m c ↔ ∃ p, ∃ entry ∈ s.active m p, entry.connectionId = c := by
  unfold HasActive
  simp only [mem_activeIn]
  grind

theorem At.unique (h : s.At c place) {place' : Place} (h' : s.At c place') : place = place' := by
  cases place with
  | active m => exact ((h' m).1.mp ((h m).1.mpr rfl)).symm
  | pending m => exact ((h' m).2.mp ((h m).2.mpr rfl)).symm
  | absent =>
    cases place' with
    | active m => cases (h m).1.mp ((h' m).1.mpr rfl)
    | pending m => cases (h m).2.mp ((h' m).2.mpr rfl)
    | absent => rfl

theorem At.mem_iff (h : s.At c place) : c ∈ s.connectionIds ↔ place ≠ .absent := by
  rw [mem_connectionIds]
  constructor
  · rintro ⟨m, hm | hm⟩ rfl
    · cases (h m).1.mp hm
    · cases (h m).2.mp hm
  · intro hne
    cases place with
    | absent => exact absurd rfl hne
    | pending m => exact ⟨m, .inr ((h m).2.mpr rfl)⟩
    | active m => exact ⟨m, .inl ((h m).1.mpr rfl)⟩

/-- A registration makes the pending connections of its meeting active ones. -/
theorem hasActive_registerMeeting (hn : s.connectionIds.Nodup) (meetingId : String)
    (registration : MeetingRegistration) (m : String) :
    (s.handleMessage (.registerMeeting meetingId registration)).1.HasActive m c ↔
      s.HasActive m c ∨ m = meetingId ∧ s.HasPending m c := by
  obtain ⟨_, _, hactive⟩ :=
    exactConnections_handleMessage hn (.registerMeeting meetingId registration)
  simp only [hasActive_iff, hactive, List.mem_append]
  by_cases hm : m = meetingId
  · subst hm
    simp only [if_true, List.mem_map, List.mem_filter, true_and, HasPending]
    constructor
    · rintro ⟨p, entry, hmem | ⟨conn, ⟨hconn, _⟩, rfl⟩, hid⟩
      · exact .inl ⟨p, entry, hmem, hid⟩
      · exact .inr ⟨conn, hconn, hid⟩
    · rintro (⟨p, entry, hmem, hid⟩ | ⟨conn, hconn, hid⟩)
      · exact ⟨p, entry, .inl hmem, hid⟩
      · exact ⟨conn.participantId, conn.promote, .inr ⟨conn, ⟨hconn, by simp⟩, rfl⟩, hid⟩
  · simp [hm]

theorem hasPending_registerMeeting (hn : s.connectionIds.Nodup) (meetingId : String)
    (registration : MeetingRegistration) (m : String) :
    (s.handleMessage (.registerMeeting meetingId registration)).1.HasPending m c ↔
      m ≠ meetingId ∧ s.HasPending m c := by
  obtain ⟨_, hpending, _⟩ :=
    exactConnections_handleMessage hn (.registerMeeting meetingId registration)
  rw [HasPending, hpending]
  by_cases hm : m = meetingId <;> simp [hm, HasPending]

theorem hasActive_addConnection (meetingId : String) (entry : ConnectionEntry) (m : String) :
    (s.handleMessage (.addConnection meetingId entry)).1.HasActive m c ↔
      s.HasActive m c ∨ m = meetingId ∧ entry.connectionId = c := by
  have hperm := rowItems_pushActive meetingId s.activeConnections entry m
  unfold HasActive
  simp only [handleMessage, handleAddConnection, activeIn, hperm.mem_iff, List.mem_append]
  by_cases hm : m = meetingId
  · simp [hm, or_and_right, exists_or, or_comm]
  · simp [hm]

theorem hasPending_addPendingConnection (conn : PendingConnection) (m : String) :
    (s.handleMessage (.addPendingConnection conn)).1.HasPending m c ↔
      s.HasPending m c ∨ m = conn.meetingId ∧ conn.connectionId = c := by
  unfold HasPending
  simp only [handleMessage, handleAddPendingConnection, pendingIn, bucket_insert]
  by_cases hm : m = conn.meetingId
  · simp [hm, or_and_right, exists_or]
  · simp [hm]

theorem hasActive_removeConnection (hn : s.connectionIds.Nodup)
    (meetingId connectionId m : String) :
    (s.handleMessage (.removeConnection meetingId connectionId)).1.HasActive m c ↔
      s.HasActive m c ∧ ¬ (m = meetingId ∧ connectionId = c) := by
  obtain ⟨_, _, hactive⟩ :=
    exactConnections_handleMessage hn (.removeConnection meetingId connectionId)
  simp only [hasActive_iff, hactive]
  by_cases hm : m = meetingId
  · simp only [hm, if_true, List.mem_filter, true_and]
    grind
  · simp [hm]

theorem hasPending_removePendingConnection (hn : s.connectionIds.Nodup)
    (meetingId connectionId m : String) :
    (s.handleMessage (.removePendingConnection meetingId connectionId)).1.HasPending m c ↔
      s.HasPending m c ∧ ¬ (m = meetingId ∧ connectionId = c) := by
  obtain ⟨_, hpending, _⟩ :=
    exactConnections_handleMessage hn (.removePendingConnection meetingId connectionId)
  rw [HasPending, hpending]
  by_cases hm : m = meetingId
  · simp only [hm, if_true, List.mem_filter, true_and, HasPending]
    grind
  · simp [hm, HasPending]

/-- A message moves a connection as `Place.after` says. -/
theorem At.handleMessage (h : s.At c place) (hn : s.connectionIds.Nodup) (message : SessionMessage)
    (hadd : message.added? = some c → place = .absent) :
    (s.handleMessage message).1.At c (place.after c message) := by
  intro m
  have hm := h m
  cases message with
  | registerMeeting meetingId registration =>
    rw [hasActive_registerMeeting hn, hasPending_registerMeeting hn, hm.1, hm.2, Place.after]
    grind
  | addConnection meetingId entry =>
    have hframe : (s.handleMessage (.addConnection meetingId entry)).1.HasPending m c ↔
        s.HasPending m c := Iff.rfl
    rw [hasActive_addConnection, hframe, hm.1, hm.2, Place.after]
    grind [SessionMessage.added?]
  | removeConnection meetingId connectionId =>
    have hframe : (s.handleMessage (.removeConnection meetingId connectionId)).1.HasPending m c ↔
        s.HasPending m c := by
      obtain ⟨_, hpending, _⟩ :=
        exactConnections_handleMessage hn (.removeConnection meetingId connectionId)
      rw [HasPending, hpending, HasPending]
    rw [hasActive_removeConnection hn, hframe, hm.1, hm.2, Place.after]
    grind
  | addPendingConnection conn =>
    have hframe : (s.handleMessage (.addPendingConnection conn)).1.HasActive m c ↔
        s.HasActive m c := Iff.rfl
    rw [hasPending_addPendingConnection, hframe, hm.1, hm.2, Place.after]
    grind [SessionMessage.added?]
  | removePendingConnection meetingId connectionId =>
    have hframe : (s.handleMessage (.removePendingConnection meetingId connectionId)).1.HasActive
        m c ↔ s.HasActive m c := by
      simp only [HasActive, activeIn, SessionState.handleMessage, (s.removePending_frame _ _).1]
    rw [hasPending_removePendingConnection hn, hframe, hm.1, hm.2, Place.after]
    grind
  | isMeetingRegistered meetingId => exact hm
  | getMcEndpoint meetingId => exact hm
  | activeConnectionCount => exact hm

/-- Only a registration of a meeting calls `notify_waiters` on its `Notify`. -/
theorem notifyCalls_handleMessage {message : SessionMessage} {m : String}
    (hne : ∀ registration, message ≠ .registerMeeting m registration) :
    (s.handleMessage message).1.notifyCalls m = s.notifyCalls m := by
  unfold notifyCalls
  cases message with
  | registerMeeting meetingId registration =>
    have hm : m ≠ meetingId := fun h => hne registration (by rw [h])
    simp only [SessionState.handleMessage, handleRegisterMeeting]
    split
    · rfl
    · rw [AList.lookup_insert_ne hm]
  | addPendingConnection conn =>
    simp only [SessionState.handleMessage, handleAddPendingConnection]
    split
    · rename_i hnone
      by_cases hm : m = conn.meetingId
      · rw [hm, AList.lookup_insert, hnone]
        rfl
      · rw [AList.lookup_insert_ne hm]
    · rfl
  | removeConnection meetingId connectionId =>
    have hcase := s.handleRemoveConnection_cases meetingId connectionId
    simp only [SessionState.handleMessage, hcase.frame.2.1]
  | removePendingConnection meetingId connectionId =>
    simp only [SessionState.handleMessage, (s.removePending_frame _ _).2.1]
  | addConnection meetingId entry => rfl
  | isMeetingRegistered meetingId => rfl
  | getMcEndpoint meetingId => rfl
  | activeConnectionCount => rfl

end SessionState

/-! ## Where the connection of a task is -/

/-- The place of a connection that was added as a pending one. -/
def Place.provisional (meetingId : String) : (promoted : Bool) → Place
  | true => .active meetingId
  | false => .pending meetingId

/-- The messages of a task that are still in the mailbox, and the place of its
    connection, by where the task stands. -/
inductive Stands (c m : String) : Pc → List SessionMessage → Place → Prop
  | checking : Stands c m .checking [.isMeetingRegistered m] .absent
  | checked (registered : Bool) : Stands c m (.checked registered) [] .absent
  | addSent (entry : ConnectionEntry) (hid : entry.connectionId = c) :
      Stands c m .added [.addConnection m entry] .absent
  | added : Stands c m .added [] (.active m)
  | noticeAddSent (entry : ConnectionEntry) (hid : entry.connectionId = c) :
      Stands c m .connectedNotice [.addConnection m entry, .getMcEndpoint m] .absent
  | connectedNotice : Stands c m .connectedNotice [.getMcEndpoint m] (.active m)
  | holding : Stands c m .holding [] (.active m)
  | pendingAdd (conn : PendingConnection) (hid : conn.connectionId = c)
      (hm : conn.meetingId = m) :
      Stands c m .pendingAdd [.addPendingConnection conn] .absent
  | notifyReady (promoted : Bool) : Stands c m .notifyReady [] (.provisional m promoted)
  | waiting (deadline calls : ℕ) (promoted : Bool) :
      Stands c m (.waiting deadline calls) [] (.provisional m promoted)
  | pendingRemove (ending : Ending) (promoted : Bool) :
      Stands c m (.pendingRemove ending) [.removePendingConnection m c] (.provisional m promoted)
  | removing (reason : DisconnectReason) :
      Stands c m (.removing reason) [.removeConnection m c] (.active m)
  | removed (reason : DisconnectReason) : Stands c m (.removed reason) [] .absent
  | disconnectedNotice (reason : DisconnectReason) :
      Stands c m (.disconnectedNotice reason) [.getMcEndpoint m] .absent
  | ended (ending : Ending) : Stands c m (.ended ending) [] .absent
  /-- A task that ended without its promoted connection. -/
  | leaked (ending : Ending) : Stands c m (.ended ending) [] (.active m)

/-- The messages of a task that are still in the mailbox. -/
def mailOf (mailbox : List Mail) (c : String) : List SessionMessage :=
  (mailbox.filter fun mail => mail.sender = some c).map (·.message)

theorem mailOf_append (mailbox : List Mail) (sender : Option String) (message : SessionMessage)
    (c : String) : mailOf (mailbox ++ [⟨sender, message⟩]) c =
      mailOf mailbox c ++ if sender = some c then [message] else [] := by
  unfold mailOf
  by_cases h : sender = some c <;> simp [h]

theorem mailOf_cons (mailbox : List Mail) (sender : Option String) (message : SessionMessage)
    (c : String) : mailOf (⟨sender, message⟩ :: mailbox) c =
      (if sender = some c then [message] else []) ++ mailOf mailbox c := by
  unfold mailOf
  by_cases h : sender = some c <;> simp [h]

/-- A message of the task of `c` concerns no other connection. -/
theorem Stands.after_of_ne {c m : String} {pc : Pc} {message : SessionMessage}
    {mail : List SessionMessage} {place : Place} (h : Stands c m pc (message :: mail) place)
    {c' : String} (hne : c' ≠ c) (place' : Place) : place'.after c' message = place' := by
  cases h with
  | checking => rfl
  | addSent entry hid => rw [Place.after, if_neg (by rw [hid]; exact Ne.symm hne)]
  | noticeAddSent entry hid => rw [Place.after, if_neg (by rw [hid]; exact Ne.symm hne)]
  | connectedNotice => rfl
  | pendingAdd conn hid hm => rw [Place.after, if_neg (by rw [hid]; exact Ne.symm hne)]
  | pendingRemove ending promoted => rw [Place.after, if_neg fun hc => hne hc.1.symm]
  | removing reason => rw [Place.after, if_neg fun hc => hne hc.1.symm]
  | disconnectedNotice reason => rfl

/-- A message of a task adds its own connection, which is nowhere yet. -/
theorem Stands.added_eq {c m : String} {pc : Pc} {message : SessionMessage}
    {mail : List SessionMessage} {place : Place} (h : Stands c m pc (message :: mail) place)
    {c' : String} (hadd : message.added? = some c') : c' = c ∧ place = .absent := by
  cases h with
  | checking => cases hadd
  | addSent entry hid => exact ⟨(Option.some.inj hadd).symm.trans hid, rfl⟩
  | noticeAddSent entry hid => exact ⟨(Option.some.inj hadd).symm.trans hid, rfl⟩
  | connectedNotice => cases hadd
  | pendingAdd conn hid hm => exact ⟨(Option.some.inj hadd).symm.trans hid, rfl⟩
  | pendingRemove ending promoted => cases hadd
  | removing reason => cases hadd
  | disconnectedNotice reason => cases hadd

/-- The actor handles the next message of a task. -/
theorem Stands.reply {c m : String} {pc : Pc} {message : SessionMessage}
    {mail : List SessionMessage} {place : Place} (h : Stands c m pc (message :: mail) place)
    (s : SessionState) :
    Stands c m (pc.reply (s.handleMessage message).2) mail (place.after c message) := by
  cases h with
  | checking => exact .checked _
  | addSent entry hid =>
    rw [Place.after, if_pos hid]
    exact .added
  | noticeAddSent entry hid =>
    rw [Place.after, if_pos hid]
    exact .connectedNotice
  | connectedNotice => exact .holding
  | pendingAdd conn hid hm =>
    rw [Place.after, if_pos hid, hm]
    exact .notifyReady false
  | pendingRemove ending promoted =>
    cases promoted with
    | true =>
      have hplace : (Place.provisional m true).after c (.removePendingConnection m c) =
        .active m := if_neg fun hc => Place.noConfusion hc.2
      rw [hplace]
      exact .leaked ending
    | false =>
      have hplace : (Place.provisional m false).after c (.removePendingConnection m c) =
        .absent := if_pos ⟨rfl, rfl⟩
      rw [hplace]
      exact .ended ending
  | removing reason =>
    rw [Place.after, if_pos ⟨rfl, rfl⟩]
    exact .removed reason
  | disconnectedNotice reason => exact .ended .closed

/-- No reply makes a task wait. -/
theorem Stands.reply_ne_waiting {c m : String} {pc : Pc} {message : SessionMessage}
    {mail : List SessionMessage} {place : Place} (h : Stands c m pc (message :: mail) place)
    (s : SessionState) (deadline calls : ℕ) :
    pc.reply (s.handleMessage message).2 ≠ .waiting deadline calls := by
  cases h <;> exact Pc.noConfusion

/-- A task sends no registration. -/
theorem Stands.ne_registerMeeting {c m : String} {pc : Pc} {message : SessionMessage}
    {mail : List SessionMessage} {place : Place} (h : Stands c m pc (message :: mail) place)
    (meetingId : String) (registration : MeetingRegistration) :
    message ≠ .registerMeeting meetingId registration := by
  cases h <;> exact SessionMessage.noConfusion

/-- A registration can promote the connection of a task. -/
theorem Stands.register {c m : String} {pc : Pc} {mail : List SessionMessage} {place : Place}
    (h : Stands c m pc mail place) (meetingId : String) (registration : MeetingRegistration) :
    Stands c m pc mail (place.after c (.registerMeeting meetingId registration)) := by
  have hprovisional : ∀ promoted, ∃ promoted', (Place.provisional m promoted).after c
      (.registerMeeting meetingId registration) = .provisional m promoted' := by
    intro promoted
    cases promoted with
    | true => exact ⟨true, rfl⟩
    | false =>
      by_cases hm : m = meetingId
      · exact ⟨true, by rw [hm]; exact if_pos rfl⟩
      · exact ⟨false, if_neg fun hc => hm (Place.pending.inj hc)⟩
  cases h with
  | checking => exact .checking
  | checked registered => exact .checked registered
  | addSent entry hid => exact .addSent entry hid
  | added => exact .added
  | noticeAddSent entry hid => exact .noticeAddSent entry hid
  | connectedNotice => exact .connectedNotice
  | holding => exact .holding
  | pendingAdd conn hid hm => exact .pendingAdd conn hid hm
  | notifyReady promoted =>
    obtain ⟨promoted', hp⟩ := hprovisional promoted
    rw [hp]
    exact .notifyReady promoted'
  | waiting deadline calls promoted =>
    obtain ⟨promoted', hp⟩ := hprovisional promoted
    rw [hp]
    exact .waiting deadline calls promoted'
  | pendingRemove ending promoted =>
    obtain ⟨promoted', hp⟩ := hprovisional promoted
    rw [hp]
    exact .pendingRemove ending promoted'
  | removing reason => exact .removing reason
  | removed reason => exact .removed reason
  | disconnectedNotice reason => exact .disconnectedNotice reason
  | ended ending => exact .ended ending
  | leaked ending => exact .leaked ending

/-- The session, the mailbox and the tasks fit together. A task that waits
    while its connection is pending has missed no call on its `Notify`. -/
structure Consistent (s : MhSystem) : Prop where
  nodup : s.session.connectionIds.Nodup
  fresh : ∀ c, s.tasks c = none → mailOf s.mailbox c = [] ∧ s.session.At c .absent
  stands : ∀ c task, s.tasks c = some task → ∃ place,
    Stands c task.meetingId task.pc (mailOf s.mailbox c) place ∧ s.session.At c place
  registrations : ∀ mail ∈ s.mailbox, mail.sender = none →
    ∃ meetingId registration, mail.message = .registerMeeting meetingId registration
  missed : ∀ c task deadline calls, s.tasks c = some task → task.pc = .waiting deadline calls →
    s.session.HasPending task.meetingId c → s.session.notifyCalls task.meetingId ≤ calls

namespace Consistent

variable {s : MhSystem}

theorem start : Consistent MhSystem.start where
  nodup := List.nodup_nil
  fresh c _ := by
    refine ⟨rfl, fun m => ⟨?_, ?_⟩⟩
    · exact iff_of_false (fun ⟨_, hmem, _⟩ => List.not_mem_nil hmem) Place.noConfusion
    · exact iff_of_false (fun ⟨_, hmem, _⟩ => List.not_mem_nil hmem) Place.noConfusion
  stands c task htask := by cases htask
  registrations mail hmail := absurd hmail List.not_mem_nil
  missed c task deadline calls htask := by cases htask

/-- A task sends a message, or goes on without one, and does not begin to wait. -/
theorem updates (hs : Consistent s) {c : String} (task : ConnectionTask) {place : Place}
    (message : Option SessionMessage) (hat : s.session.At c place)
    (hstands : Stands c task.meetingId task.pc (mailOf s.mailbox c ++ message.toList) place)
    (hmissed : ∀ deadline calls, task.pc = .waiting deadline calls →
      s.session.notifyCalls task.meetingId ≤ calls) :
    Consistent { s with
      mailbox := s.mailbox ++ message.toList.map fun message => ⟨some c, message⟩
      tasks := Function.update s.tasks c (some task) } := by
  have hmail : ∀ c', mailOf (s.mailbox ++ message.toList.map fun message => ⟨some c, message⟩) c' =
      mailOf s.mailbox c' ++ if c' = c then message.toList else [] := by
    intro c'
    cases message with
    | none => simp
    | some message =>
      refine (mailOf_append s.mailbox (some c) message c').trans ?_
      simp only [Option.some.injEq, eq_comm (a := c), Option.toList_some]
  refine ⟨hs.nodup, fun c' hc' => ?_, fun c' task' hc' => ?_, fun mail hmem hsender => ?_,
    fun c' task' deadline calls hc' hpc hpending => ?_⟩
  · dsimp only at hc' ⊢
    by_cases hne : c' = c
    · subst hne
      rw [Function.update_self] at hc'
      cases hc'
    · rw [Function.update_of_ne hne] at hc'
      rw [hmail, if_neg hne, List.append_nil]
      exact hs.fresh c' hc'
  · dsimp only at hc' ⊢
    by_cases hne : c' = c
    · subst hne
      rw [Function.update_self, Option.some.injEq] at hc'
      subst hc'
      refine ⟨place, ?_, hat⟩
      rw [hmail, if_pos rfl]
      exact hstands
    · rw [Function.update_of_ne hne] at hc'
      rw [hmail, if_neg hne, List.append_nil]
      exact hs.stands c' task' hc'
  · rcases List.mem_append.mp hmem with hmem | hmem
    · exact hs.registrations mail hmem hsender
    · obtain ⟨message', _, rfl⟩ := List.mem_map.mp hmem
      cases hsender
  · dsimp only at hc' hpending ⊢
    by_cases hne : c' = c
    · subst hne
      rw [Function.update_self, Option.some.injEq] at hc'
      subst hc'
      exact hmissed deadline calls hpc
    · rw [Function.update_of_ne hne] at hc'
      exact hs.missed c' task' deadline calls hc' hpc hpending

theorem sends (hs : Consistent s) {c : String} {task : ConnectionTask} {message : SessionMessage}
    {pc : Pc} {place : Place} (hat : s.session.At c place)
    (hstands : Stands c task.meetingId pc (mailOf s.mailbox c ++ [message]) place)
    (hpc : ∀ deadline calls, pc ≠ .waiting deadline calls) :
    Consistent (s.sends c task message pc) :=
  hs.updates { task with pc } (some message) hat hstands
    fun deadline calls h => absurd h (hpc deadline calls)

/-- A task goes on by itself. -/
theorem advance (hs : Consistent s) {T : ℕ} {c : String} {task : ConnectionTask}
    (htask : s.tasks c = some task) {e : MhEvent} {s' : MhSystem}
    (h : Advance T s c task e s') : Consistent s' := by
  obtain ⟨place, hstands, hat⟩ := hs.stands c task htask
  generalize hmail : mailOf s.mailbox c = mail at hstands
  cases h with
  | addConnection hpc =>
    rw [hpc] at hstands
    cases hstands with
    | checked => exact hs.sends hat (by rw [hmail]; exact .addSent _ rfl) (by simp)
  | addPending hpc =>
    rw [hpc] at hstands
    cases hstands with
    | checked => exact hs.sends hat (by rw [hmail]; exact .pendingAdd _ rfl rfl) (by simp)
  | notice hpc =>
    rw [hpc] at hstands
    cases hstands with
    | addSent entry hid =>
      exact hs.sends hat (by rw [hmail]; exact .noticeAddSent entry hid) (by simp)
    | added => exact hs.sends hat (by rw [hmail]; exact .connectedNotice) (by simp)
  | wait hpc =>
    rw [hpc] at hstands
    cases hstands with
    | notifyReady promoted =>
      have hupdates := hs.updates
        { task with pc := .waiting (s.now + T) (s.session.notifyCalls task.meetingId) }
        none hat (by rw [hmail]; exact .waiting _ _ promoted) (by simp)
      simpa [MhSystem.moves] using hupdates
  | lastNotice reason hpc =>
    rw [hpc] at hstands
    cases hstands with
    | removed => exact hs.sends hat (by rw [hmail]; exact .disconnectedNotice reason) (by simp)
  | wake deadline calls hpc hready =>
    have hmissed := hs.missed c task deadline calls htask hpc
    rw [hpc] at hstands
    cases hstands with
    | waiting _ _ promoted =>
      -- a call that this task did not miss promoted its connection
      cases promoted with
      | false => exact absurd (hmissed ((hat task.meetingId).2.mpr rfl)) (Nat.not_le.mpr hready)
      | true => exact hs.sends hat (by rw [hmail]; exact .connectedNotice) (by simp)
  | timeout deadline calls hpc hready =>
    rw [hpc] at hstands
    cases hstands with
    | waiting _ _ promoted =>
      exact hs.sends hat (by rw [hmail]; exact .pendingRemove _ promoted) (by simp)
  | cancelWait deadline calls hpc =>
    rw [hpc] at hstands
    cases hstands with
    | waiting _ _ promoted =>
      exact hs.sends hat (by rw [hmail]; exact .pendingRemove _ promoted) (by simp)
  | cancelHold hpc =>
    rw [hpc] at hstands
    cases hstands with
    | holding => exact hs.sends hat (by rw [hmail]; exact .removing _) (by simp)
  | close reason hpc =>
    rw [hpc] at hstands
    cases hstands with
    | holding => exact hs.sends hat (by rw [hmail]; exact .removing _) (by simp)

/-- The actor handles a registration. -/
theorem register (hs : Consistent s) {meetingId : String} {registration : MeetingRegistration}
    {mailbox : List Mail}
    (hmail : s.mailbox = ⟨none, .registerMeeting meetingId registration⟩ :: mailbox) :
    Consistent { s with
      session := (s.session.handleMessage (.registerMeeting meetingId registration)).1
      mailbox := mailbox
      registeredSince := MhSystem.registers s.registeredSince s.now
        (.registerMeeting meetingId registration) } := by
  have hof : ∀ c, mailOf s.mailbox c = mailOf mailbox c := by
    intro c
    rw [hmail, mailOf_cons, if_neg (Option.some_ne_none c).symm, List.nil_append]
  have hat : ∀ {c place}, s.session.At c place →
      (s.session.handleMessage (.registerMeeting meetingId registration)).1.At c
        (place.after c (.registerMeeting meetingId registration)) :=
    fun h => h.handleMessage hs.nodup _ fun hadd => by cases hadd
  refine ⟨?_, fun c hc => ?_, fun c task htask => ?_, fun mail hmem => ?_,
    fun c task deadline calls htask hpc hpending => ?_⟩
  · exact (s.session.connectionIds_registerMeeting meetingId registration).nodup_iff.mpr hs.nodup
  · obtain ⟨hnil, habsent⟩ := hs.fresh c hc
    exact ⟨(hof c).symm.trans hnil, hat habsent⟩
  · obtain ⟨place, hstands, hplace⟩ := hs.stands c task htask
    rw [hof c] at hstands
    exact ⟨_, hstands.register meetingId registration, hat hplace⟩
  · exact hs.registrations mail (hmail ▸ List.mem_cons_of_mem _ hmem)
  · dsimp only at hpending ⊢
    rw [SessionState.hasPending_registerMeeting hs.nodup] at hpending
    rw [SessionState.notifyCalls_handleMessage fun r heq =>
      hpending.1 (SessionMessage.registerMeeting.inj heq).1.symm]
    exact hs.missed c task deadline calls htask hpc hpending.2

/-- The next message comes from a task that stands where it has sent it. -/
theorem sender (hs : Consistent s) {c : String} {message : SessionMessage} {mailbox : List Mail}
    (hmail : s.mailbox = ⟨some c, message⟩ :: mailbox) :
    ∃ task place, s.tasks c = some task ∧
      Stands c task.meetingId task.pc (message :: mailOf mailbox c) place ∧
      s.session.At c place := by
  have hself : mailOf s.mailbox c = message :: mailOf mailbox c := by
    rw [hmail, mailOf_cons, if_pos rfl]
    rfl
  cases htask : s.tasks c with
  | none =>
    have hnil := (hs.fresh c htask).1
    rw [hself] at hnil
    cases hnil
  | some task =>
    obtain ⟨place, hstands, hplace⟩ := hs.stands c task htask
    rw [hself] at hstands
    exact ⟨task, place, rfl, hstands, hplace⟩

/-- A message of a task leaves the other connections where they are. -/
theorem at_of_ne (hs : Consistent s) {c m : String} {pc : Pc} {message : SessionMessage}
    {mail : List SessionMessage} {place : Place} (hstands : Stands c m pc (message :: mail) place)
    {c' : String} {place' : Place} (hne : c' ≠ c) (hat : s.session.At c' place') :
    (s.session.handleMessage message).1.At c' place' := by
  have hat' := hat.handleMessage hs.nodup message
    fun hadd => absurd (hstands.added_eq hadd).1 hne
  rwa [hstands.after_of_ne hne] at hat'

/-- The actor handles a message of a task. -/
theorem reply (hs : Consistent s) {c : String} {message : SessionMessage} {mailbox : List Mail}
    (hmail : s.mailbox = ⟨some c, message⟩ :: mailbox) :
    Consistent { s with
      session := (s.session.handleMessage message).1
      mailbox := mailbox
      tasks := MhSystem.replied s.tasks (some c) (s.session.handleMessage message).2
      registeredSince := MhSystem.registers s.registeredSince s.now message } := by
  obtain ⟨task, place, htask, hstands, hplace⟩ := hs.sender hmail
  have hof : ∀ c', c' ≠ c → mailOf s.mailbox c' = mailOf mailbox c' := by
    intro c' hne
    rw [hmail, mailOf_cons, if_neg fun h => hne (Option.some.inj h).symm, List.nil_append]
  have hother : ∀ {c' place'}, c' ≠ c → s.session.At c' place' →
      (s.session.handleMessage message).1.At c' place' :=
    fun hne hat => hs.at_of_ne hstands hne hat
  have hreplied : MhSystem.replied s.tasks (some c) (s.session.handleMessage message).2 =
      Function.update s.tasks c
        (some { task with pc := task.pc.reply (s.session.handleMessage message).2 }) := by
    rw [MhSystem.replied, htask]
    rfl
  refine ⟨?_, fun c' hc' => ?_, fun c' task' hc' => ?_, fun mail hmem => ?_,
    fun c' task' deadline calls hc' hpc hpending => ?_⟩
  · obtain ⟨gone, hperm⟩ := s.session.connectionIds_handleMessage message
    have hfresh : (message.added?.toList ++ s.session.connectionIds).Nodup := by
      cases hadd : message.added? with
      | none => exact hs.nodup
      | some c' =>
        obtain ⟨rfl, rfl⟩ := hstands.added_eq hadd
        refine List.nodup_cons.mpr ⟨fun hmem => ?_, hs.nodup⟩
        exact hplace.mem_iff.mp hmem rfl
    exact (List.nodup_append.mp (hperm.nodup_iff.mpr hfresh)).2.1
  · dsimp only at hc' ⊢
    rw [hreplied] at hc'
    by_cases hne : c' = c
    · rw [hne, Function.update_self] at hc'
      cases hc'
    · rw [Function.update_of_ne hne] at hc'
      obtain ⟨hnil, habsent⟩ := hs.fresh c' hc'
      exact ⟨(hof c' hne).symm.trans hnil, hother hne habsent⟩
  · dsimp only at hc' ⊢
    rw [hreplied] at hc'
    by_cases hne : c' = c
    · subst hne
      rw [Function.update_self, Option.some.injEq] at hc'
      subst hc'
      exact ⟨_, hstands.reply s.session,
        hplace.handleMessage hs.nodup _ fun hadd => (hstands.added_eq hadd).2⟩
    · rw [Function.update_of_ne hne] at hc'
      obtain ⟨place', hstands', hplace'⟩ := hs.stands c' task' hc'
      rw [hof c' hne] at hstands'
      exact ⟨place', hstands', hother hne hplace'⟩
  · exact hs.registrations mail (hmail ▸ List.mem_cons_of_mem _ hmem)
  · dsimp only at hc' hpending ⊢
    rw [hreplied] at hc'
    rw [SessionState.notifyCalls_handleMessage fun r => hstands.ne_registerMeeting _ r]
    by_cases hne : c' = c
    · subst hne
      rw [Function.update_self, Option.some.injEq] at hc'
      subst hc'
      exact absurd hpc (hstands.reply_ne_waiting s.session deadline calls)
    · rw [Function.update_of_ne hne] at hc'
      obtain ⟨place', _, hplace'⟩ := hs.stands c' task' hc'
      refine hs.missed c' task' deadline calls hc' hpc ?_
      rw [(hplace' _).2, ← (hother hne hplace' _).2]
      exact hpending

theorem step (hs : Consistent s) {T : ℕ} {h : MhHistory} {e : MhEvent} {s' : MhSystem}
    (ha : (mhMachine T).allowed h s e) (hcase : StepCase T s e s') : Consistent s' := by
  cases hcase with
  | stutter => exact hs
  | reject c =>
    obtain ⟨hnil, habsent⟩ := hs.fresh c ha
    have hupdates := hs.updates (c := c) ⟨"", "", .ended .rejected⟩ none
      habsent (by rw [hnil]; exact .ended .rejected) (by simp)
    simpa using hupdates
  | connect c meetingId participantId =>
    obtain ⟨hnil, habsent⟩ := hs.fresh c ha
    exact hs.sends habsent (by rw [hnil]; exact .checking) (by simp)
  | register meetingId mcId mcGrpcEndpoint =>
    have hof : ∀ c, mailOf (s.mailbox ++ [⟨none, .registerMeeting meetingId
        ⟨mcId, mcGrpcEndpoint, s.now⟩⟩]) c = mailOf s.mailbox c := by
      intro c
      rw [mailOf_append, if_neg (Option.some_ne_none c).symm, List.append_nil]
    refine ⟨hs.nodup, fun c hc => ?_, fun c task htask => ?_, fun mail hmem hsender => ?_,
      hs.missed⟩
    · rw [hof]
      exact hs.fresh c hc
    · rw [hof]
      exact hs.stands c task htask
    · rcases List.mem_append.mp hmem with hmem | hmem
      · exact hs.registrations mail hmem hsender
      · exact ⟨meetingId, ⟨mcId, mcGrpcEndpoint, s.now⟩, by rw [List.mem_singleton.mp hmem]⟩
  | handle sender message mailbox hmail =>
    cases sender with
    | none =>
      obtain ⟨meetingId, registration, hmessage⟩ :=
        hs.registrations ⟨none, message⟩ (hmail ▸ List.mem_cons_self) rfl
      obtain rfl : message = .registerMeeting meetingId registration := hmessage
      exact hs.register hmail
    | some c => exact hs.reply hmail
  | advance c task htask e s' hadvance => exact hs.advance htask hadvance
  | tick now => exact ⟨hs.nodup, hs.fresh, hs.stands, hs.registrations, hs.missed⟩
  | shutdown => exact ⟨hs.nodup, hs.fresh, hs.stands, hs.registrations, hs.missed⟩

end Consistent

theorem run_consistent {T : ℕ} {h : MhHistory} {s : MhSystem} (hr : (mhMachine T).Run h s) :
    Consistent s :=
  Machine.Run.invariant (I := fun _ s => Consistent s) Consistent.start
    (fun _ s e _ ha hs => hs.step ha (step_cases T s e)) hr

/-! ## What an ended task leaves behind -/

/-- No ended task has left its connection in the session. -/
def NothingLeft (s : MhSystem) : Prop :=
  ∀ c task ending, s.tasks c = some task → task.pc = .ended ending →
    ∀ m, ¬ s.session.HasActive m c ∧ ¬ s.session.HasPending m c

/-- The condition on a step: when the actor handles the
    `remove_pending_connection` of a task, the connection is still pending. -/
def RemovesPending (s : MhSystem) : MhEvent → Prop
  | .handle => ∀ c m, s.mailbox.head? = some ⟨some c, .removePendingConnection m c⟩ →
      s.session.HasPending m c
  | _ => True

theorem nothingLeft_iff {s : MhSystem} : NothingLeft s ↔
    ∀ c task ending, s.tasks c = some task → task.pc = .ended ending → s.session.At c .absent := by
  constructor
  · intro h c task ending htask hpc m
    obtain ⟨hactive, hpending⟩ := h c task ending htask hpc m
    exact ⟨iff_of_false hactive Place.noConfusion, iff_of_false hpending Place.noConfusion⟩
  · intro h c task ending htask hpc m
    obtain ⟨hactive, hpending⟩ := h c task ending htask hpc m
    exact ⟨fun ha => Place.noConfusion (hactive.mp ha), fun hp => Place.noConfusion (hpending.mp hp)⟩

/-- A task that goes on by itself does not end. -/
theorem Advance.not_ended {T : ℕ} {s s' : MhSystem} {c : String} {task : ConnectionTask}
    {e : MhEvent} (h : Advance T s c task e s') :
    s'.session = s.session ∧ e ≠ .handle ∧ ∃ pc, (∀ ending, pc ≠ .ended ending) ∧
      s'.tasks = Function.update s.tasks c (some { task with pc }) := by
  cases h <;> exact ⟨rfl, MhEvent.noConfusion, _, fun _ => Pc.noConfusion, rfl⟩

/-- The condition on a step that handles the message of a task. -/
theorem removesPending_handle_iff {s : MhSystem} {c : String} {message : SessionMessage}
    {mailbox : List Mail} (hmail : s.mailbox = ⟨some c, message⟩ :: mailbox) :
    RemovesPending s .handle ↔
      ∀ m, message = .removePendingConnection m c → s.session.HasPending m c := by
  constructor
  · intro h m hmessage
    exact h c m (by rw [hmail, hmessage]; rfl)
  · intro h c' m hhead
    rw [hmail, List.head?_cons, Option.some.injEq, Mail.mk.injEq, Option.some.injEq] at hhead
    obtain ⟨rfl, hmessage⟩ := hhead
    exact h m hmessage

/-- What the actor handles for a task leaves nothing behind iff it is not the
    removal of a pending connection that is no longer pending. -/
theorem nothingLeft_reply_iff {s : MhSystem} (hs : Consistent s) (hleft : NothingLeft s)
    {c : String} {message : SessionMessage} {mailbox : List Mail}
    (hmail : s.mailbox = ⟨some c, message⟩ :: mailbox) {s' : MhSystem}
    (hsession : s'.session = (s.session.handleMessage message).1)
    (htasks : s'.tasks = MhSystem.replied s.tasks (some c) (s.session.handleMessage message).2) :
    NothingLeft s' ↔ RemovesPending s .handle := by
  obtain ⟨task, place, htask, hstands, hplace⟩ := hs.sender hmail
  rw [nothingLeft_iff] at hleft
  have hplace' := hplace.handleMessage hs.nodup message
    fun hadd => (hstands.added_eq hadd).2
  have hself : s'.tasks c = some
      { task with pc := task.pc.reply (s.session.handleMessage message).2 } := by
    rw [htasks, MhSystem.replied, Function.update_self, htask]
    rfl
  -- only the task whose message is handled can have left something
  have hkey : NothingLeft s' ↔ ∀ ending,
      task.pc.reply (s.session.handleMessage message).2 = .ended ending →
        place.after c message = .absent := by
    rw [nothingLeft_iff, hsession]
    constructor
    · intro h ending hpc
      exact hplace'.unique (h c _ ending hself hpc)
    · intro h c' task' ending htask' hpc
      by_cases hne : c' = c
      · subst hne
        rw [hself, Option.some.injEq] at htask'
        subst htask'
        rw [← h ending hpc]
        exact hplace'
      · rw [htasks, MhSystem.replied, Function.update_of_ne hne] at htask'
        exact hs.at_of_ne hstands hne (hleft c' task' ending htask' hpc)
  have htrivial : (∀ m, message ≠ .removePendingConnection m c) → RemovesPending s .handle :=
    fun hne => (removesPending_handle_iff hmail).mpr fun m hmessage => absurd hmessage (hne m)
  rw [hkey]
  generalize mailOf mailbox c = mail at hstands
  generalize hpc : task.pc = pc at hstands
  cases hstands with
  | pendingRemove ending promoted =>
    have hcond : RemovesPending s .handle ↔ s.session.HasPending task.meetingId c := by
      rw [removesPending_handle_iff hmail]
      refine ⟨fun h => h task.meetingId rfl, fun h m hmessage => ?_⟩
      rw [SessionMessage.removePendingConnection.injEq] at hmessage
      exact hmessage.1 ▸ h
    rw [hcond, (hplace task.meetingId).2]
    cases promoted with
    | true =>
      refine iff_of_false (fun h => ?_) Place.noConfusion
      have habsent := h ending rfl
      rw [Place.after, if_neg fun hc => Place.noConfusion hc.2] at habsent
      cases habsent
    | false => exact iff_of_true (fun _ _ => if_pos ⟨rfl, rfl⟩) rfl
  | disconnectedNotice reason =>
    exact iff_of_true (fun _ _ => rfl) (htrivial fun _ => SessionMessage.noConfusion)
  | checking =>
    exact iff_of_true (fun _ h => Pc.noConfusion h) (htrivial fun _ => SessionMessage.noConfusion)
  | addSent entry hid =>
    exact iff_of_true (fun _ h => Pc.noConfusion h) (htrivial fun _ => SessionMessage.noConfusion)
  | noticeAddSent entry hid =>
    exact iff_of_true (fun _ h => Pc.noConfusion h) (htrivial fun _ => SessionMessage.noConfusion)
  | connectedNotice =>
    exact iff_of_true (fun _ h => Pc.noConfusion h) (htrivial fun _ => SessionMessage.noConfusion)
  | pendingAdd conn hid hm =>
    exact iff_of_true (fun _ h => Pc.noConfusion h) (htrivial fun _ => SessionMessage.noConfusion)
  | removing reason =>
    exact iff_of_true (fun _ h => Pc.noConfusion h) (htrivial fun _ => SessionMessage.noConfusion)

theorem nothingLeft_step_iff {T : ℕ} {h : MhHistory} {s s' : MhSystem} {e : MhEvent}
    (hs : Consistent s) (ha : (mhMachine T).allowed h s e) (hcase : StepCase T s e s')
    (hleft : NothingLeft s) : NothingLeft s' ↔ RemovesPending s e := by
  cases hcase with
  | stutter _ hmail =>
    refine iff_of_true hleft ?_
    cases e with
    | handle =>
      intro c m hhead
      rw [hmail rfl] at hhead
      cases hhead
    | _ => trivial
  | reject c =>
    refine iff_of_true (nothingLeft_iff.mpr fun c' task ending htask hpc => ?_) trivial
    by_cases hne : c' = c
    · exact (hs.fresh c' (hne ▸ ha)).2
    · dsimp only at htask
      rw [Function.update_of_ne hne] at htask
      exact nothingLeft_iff.mp hleft c' task ending htask hpc
  | connect c meetingId participantId =>
    refine iff_of_true (fun c' task ending htask hpc => ?_) trivial
    by_cases hne : c' = c
    · rw [MhSystem.sends_tasks, hne, Function.update_self, Option.some.injEq] at htask
      rw [← htask] at hpc
      cases hpc
    · rw [MhSystem.sends_tasks, Function.update_of_ne hne] at htask
      exact hleft c' task ending htask hpc
  | register => exact iff_of_true hleft trivial
  | handle sender message mailbox hmail =>
    cases sender with
    | some c => exact nothingLeft_reply_iff hs hleft hmail rfl rfl
    | none =>
      obtain ⟨meetingId, registration, hmessage⟩ :=
        hs.registrations ⟨none, message⟩ (hmail ▸ List.mem_cons_self) rfl
      obtain rfl : message = .registerMeeting meetingId registration := hmessage
      refine iff_of_true (nothingLeft_iff.mpr fun c task ending htask hpc => ?_) ?_
      · have habsent := nothingLeft_iff.mp hleft c task ending htask hpc
        exact habsent.handleMessage hs.nodup _ fun hadd => by cases hadd
      · intro c m hhead
        rw [hmail] at hhead
        cases hhead
  | advance c task htask e s' hadvance =>
    obtain ⟨hsession, he, pc, hpc, htasks⟩ := hadvance.not_ended
    have htrivial : RemovesPending s e := by
      cases e with
      | handle => exact absurd rfl he
      | _ => trivial
    refine iff_of_true (fun c' task' ending htask' hpc' => ?_) htrivial
    rw [hsession]
    by_cases hne : c' = c
    · rw [htasks, hne, Function.update_self, Option.some.injEq] at htask'
      rw [← htask'] at hpc'
      exact absurd hpc' (hpc ending)
    · rw [htasks, Function.update_of_ne hne] at htask'
      exact hleft c' task' ending htask' hpc'
  | tick now => exact iff_of_true hleft trivial
  | shutdown => exact iff_of_true hleft trivial

/-- An ended task leaves nothing behind in any state of a run iff the run
    handles no `remove_pending_connection` of a connection that is no longer
    pending. -/
theorem nothingLeft_along_iff {T : ℕ} {h : MhHistory} {s : MhSystem}
    (hr : (mhMachine T).Run h s) :
    (∀ h', h' <:+ h → NothingLeft ((mhMachine T).stateAfter h')) ↔
      ∀ e a h', (e, a) :: h' <:+ h → RemovesPending ((mhMachine T).stateAfter h') e := by
  refine Machine.Run.always_iff ?_ ?_ hr
  · intro c task ending htask
    cases htask
  · intro h s e hr ha hleft
    exact nothingLeft_step_iff (run_consistent hr) ha (step_cases T s e) hleft

/-- A registration is handled after the `add_pending_connection` of a task and
    before the task waits, so that its timeout elapses. -/
def lostWakeupEvents : List MhEvent :=
  [.connect "conn-1" "meeting-1" "user-1", .handle, .resume "conn-1",
    .register "meeting-1" "mc-1" "http://mc:50052", .handle, .handle, .resume "conn-1",
    .tick 15, .timeout "conn-1", .handle]

theorem nothingLeft_along_lostWakeup :
    (mhMachine 15).Run ((mhMachine 15).playAll lostWakeupEvents).2
        ((mhMachine 15).playAll lostWakeupEvents).1 ∧
      ((∀ h', h' <:+ ((mhMachine 15).playAll lostWakeupEvents).2 →
          NothingLeft ((mhMachine 15).stateAfter h')) ↔
        ∀ e a h', (e, a) :: h' <:+ ((mhMachine 15).playAll lostWakeupEvents).2 →
          RemovesPending ((mhMachine 15).stateAfter h') e) :=
  have hr := Machine.run_of_admits (M := mhMachine 15) (l := lostWakeupEvents) (by decide)
  ⟨hr, nothingLeft_along_iff hr⟩

/-- The task has ended with the timeout and its promoted connection is still
    active. -/
theorem lostWakeup_leaves_active :
    (mhMachine 15).Run ((mhMachine 15).playAll lostWakeupEvents).2
        ((mhMachine 15).playAll lostWakeupEvents).1 ∧
      ¬ NothingLeft ((mhMachine 15).playAll lostWakeupEvents).1 := by
  refine ⟨Machine.run_of_admits (by decide), fun hleft => ?_⟩
  have htask : ((mhMachine 15).playAll lostWakeupEvents).1.tasks "conn-1" =
    some ⟨"meeting-1", "user-1", .ended (.timeout 15)⟩ := by decide
  exact (hleft "conn-1" _ _ htask rfl "meeting-1").1 (by decide)

end DarkTower.Mh
