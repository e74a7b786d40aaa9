import DarkTower.Mh.Notifications

/-!
# Where the connections and endpoints of a media handler come from

* `sourced_of_run`: every connection of the session was opened for its meeting and its
  participant, and every endpoint was given by a registration of its meeting.
* `open_of_run`: a meeting with an active connection is registered.
* `sourced_notification`: what the tasks tell the controllers names such a connection and
  goes to such an endpoint.
-/

namespace DarkTower.Mh

open DarkTower.Lib DarkTower.Lib.Multimap

/-- The event is one of a history. -/
def Happened (h : MhHistory) (e : MhEvent) : Prop := e ∈ h.map (·.1)

theorem Happened.cons {h : MhHistory} {e : MhEvent} (he : Happened h e)
    (x : MhEvent × Option Notification) : Happened (x :: h) e :=
  List.mem_cons_of_mem _ he

theorem happened_self (h : MhHistory) (e : MhEvent) (n : Option Notification) :
    Happened ((e, n) :: h) e :=
  List.mem_cons_self

/-- What a message adds comes from an event. -/
def SessionMessage.Sourced (h : MhHistory) : SessionMessage → Prop
  | .registerMeeting m r => Happened h (.register m r.mcId r.mcGrpcEndpoint)
  | .addConnection m entry => Happened h (.connect entry.connectionId m entry.participantId)
  | .addPendingConnection conn =>
    Happened h (.connect conn.connectionId conn.meetingId conn.participantId)
  | _ => True

theorem SessionMessage.Sourced.cons {h : MhHistory} {message : SessionMessage}
    (hs : message.Sourced h) (x : MhEvent × Option Notification) : message.Sourced (x :: h) := by
  cases message with
  | registerMeeting m r => exact Happened.cons hs x
  | addConnection m entry => exact Happened.cons hs x
  | addPendingConnection conn => exact Happened.cons hs x
  | _ => trivial

/-! ## The session -/

/-- What the session holds comes from events. -/
structure SessionState.Sourced (h : MhHistory) (s : SessionState) : Prop where
  registered : ∀ m r, s.registeredMeetings.lookup m = some r →
    Happened h (.register m r.mcId r.mcGrpcEndpoint)
  active : ∀ m p, ∀ entry ∈ s.active m p, Happened h (.connect entry.connectionId m p)
  pending : ∀ m, ∀ conn ∈ s.pendingIn m,
    Happened h (.connect conn.connectionId m conn.participantId)

namespace SessionState

variable {h : MhHistory} {s : SessionState}

theorem Sourced.cons (hs : s.Sourced h) (x : MhEvent × Option Notification) :
    s.Sourced (x :: h) where
  registered m r hr := (hs.registered m r hr).cons x
  active m p entry he := (hs.active m p entry he).cons x
  pending m conn hc := (hs.pending m conn hc).cons x

/-- A registration is the one of a message, or was there before. -/
theorem lookup_handleMessage {message : SessionMessage} {m : String} {r : MeetingRegistration}
    (hlookup : (s.handleMessage message).1.registeredMeetings.lookup m = some r) :
    message = .registerMeeting m r ∨ s.registeredMeetings.lookup m = some r := by
  cases message with
  | registerMeeting meetingId registration =>
    rcases lookup_insert_eq_some.mp hlookup with ⟨rfl, rfl⟩ | ⟨_, hold⟩
    · exact .inl rfl
    · exact .inr hold
  | removeConnection meetingId connectionId =>
    have hcase := s.handleRemoveConnection_cases meetingId connectionId
    simp only [handleMessage, hcase.frame.2.2] at hlookup
    exact .inr hlookup
  | removePendingConnection meetingId connectionId =>
    simp only [handleMessage, (s.removePending_frame _ _).2.2] at hlookup
    exact .inr hlookup
  | addConnection meetingId entry => exact .inr hlookup
  | addPendingConnection conn => exact .inr hlookup
  | isMeetingRegistered meetingId => exact .inr hlookup
  | getMcEndpoint meetingId => exact .inr hlookup
  | activeConnectionCount => exact .inr hlookup

/-- An active connection is the one that a message adds, one that it promotes, or was there
    before. -/
theorem mem_active_handleMessage (hn : s.connectionIds.Nodup) {message : SessionMessage}
    {m p : String} {entry : ConnectionEntry}
    (hmem : entry ∈ (s.handleMessage message).1.active m p) :
    (message = .addConnection m entry ∧ p = entry.participantId) ∨
      (∃ r, message = .registerMeeting m r ∧ ∃ conn ∈ s.pendingIn m,
        conn.participantId = p ∧ entry = conn.promote) ∨ entry ∈ s.active m p := by
  have hexact := exactConnections_handleMessage hn message
  cases message with
  | registerMeeting meetingId registration =>
    rw [hexact.2.2, List.mem_append] at hmem
    rcases hmem with hold | hnew
    · exact .inr (.inr hold)
    · split_ifs at hnew with hm
      · obtain ⟨conn, hconn, rfl⟩ := List.mem_map.mp hnew
        obtain ⟨hconn, hp⟩ := List.mem_filter.mp hconn
        exact .inr (.inl ⟨registration, by rw [hm], conn, hconn, of_decide_eq_true hp, rfl⟩)
      · cases hnew
  | addConnection meetingId entry' =>
    rw [hexact.2, List.mem_append] at hmem
    rcases hmem with hold | hnew
    · exact .inr (.inr hold)
    · split_ifs at hnew with hmp
      · obtain rfl := List.mem_singleton.mp hnew
        exact .inl ⟨by rw [hmp.1], hmp.2⟩
      · cases hnew
  | removeConnection meetingId connectionId =>
    rw [hexact.2.2] at hmem
    split_ifs at hmem with hm
    · exact .inr (.inr (List.mem_filter.mp hmem).1)
    · exact .inr (.inr hmem)
  | addPendingConnection conn =>
    rw [hexact.2] at hmem
    exact .inr (.inr hmem)
  | removePendingConnection meetingId connectionId =>
    rw [hexact.2.2] at hmem
    exact .inr (.inr hmem)
  | isMeetingRegistered meetingId => exact .inr (.inr hmem)
  | getMcEndpoint meetingId => exact .inr (.inr hmem)
  | activeConnectionCount => exact .inr (.inr hmem)

/-- A pending connection is the one that a message adds, or was there before. -/
theorem mem_pendingIn_handleMessage (hn : s.connectionIds.Nodup) {message : SessionMessage}
    {m : String} {conn : PendingConnection}
    (hmem : conn ∈ (s.handleMessage message).1.pendingIn m) :
    (message = .addPendingConnection conn ∧ m = conn.meetingId) ∨ conn ∈ s.pendingIn m := by
  have hexact := exactConnections_handleMessage hn message
  cases message with
  | registerMeeting meetingId registration =>
    rw [hexact.2.1] at hmem
    split_ifs at hmem with hm
    · cases hmem
    · exact .inr hmem
  | addConnection meetingId entry =>
    rw [hexact.1] at hmem
    exact .inr hmem
  | removeConnection meetingId connectionId =>
    rw [hexact.2.1] at hmem
    exact .inr hmem
  | addPendingConnection conn' =>
    rw [hexact.1, List.mem_append] at hmem
    rcases hmem with hold | hnew
    · exact .inr hold
    · split_ifs at hnew with hm
      · obtain rfl := List.mem_singleton.mp hnew
        exact .inl ⟨rfl, hm⟩
      · cases hnew
  | removePendingConnection meetingId connectionId =>
    rw [hexact.2.1] at hmem
    split_ifs at hmem with hm
    · exact .inr (List.mem_filter.mp hmem).1
    · exact .inr hmem
  | isMeetingRegistered meetingId => exact .inr hmem
  | getMcEndpoint meetingId => exact .inr hmem
  | activeConnectionCount => exact .inr hmem

/-- The actor keeps it. -/
theorem Sourced.handleMessage (hs : s.Sourced h) (hn : s.connectionIds.Nodup)
    {message : SessionMessage} (hmessage : message.Sourced h) :
    (s.handleMessage message).1.Sourced h where
  registered m r hlookup := by
    rcases lookup_handleMessage hlookup with rfl | hold
    · exact hmessage
    · exact hs.registered m r hold
  active m p entry hmem := by
    rcases mem_active_handleMessage hn hmem with
      ⟨rfl, rfl⟩ | ⟨r, _, conn, hconn, rfl, rfl⟩ | hold
    · exact hmessage
    · exact hs.pending m conn hconn
    · exact hs.active m p entry hold
  pending m conn hmem := by
    rcases mem_pendingIn_handleMessage hn hmem with ⟨rfl, rfl⟩ | hold
    · exact hmessage
    · exact hs.pending m conn hold

end SessionState

/-! ## The tasks -/

/-- The tasks, the mailbox and the session of a media handler come from its history. -/
structure Sourced (h : MhHistory) (s : MhSystem) : Prop where
  tasks : ∀ c task, s.tasks c = some task → task.pc ≠ .ended .rejected →
    Happened h (.connect c task.meetingId task.participantId)
  mailbox : ∀ mail ∈ s.mailbox, mail.message.Sourced h
  session : s.session.Sourced h

namespace Sourced

variable {h : MhHistory} {s : MhSystem}

theorem start : Sourced [] MhSystem.start where
  tasks c task htask := by cases htask
  mailbox mail hmail := absurd hmail List.not_mem_nil
  session :=
    { registered := fun m r hlookup => by cases hlookup
      active := fun m p entry hmem => absurd hmem List.not_mem_nil
      pending := fun m conn hmem => absurd hmem List.not_mem_nil }

theorem cons (hs : Sourced h s) (x : MhEvent × Option Notification) : Sourced (x :: h) s where
  tasks c task htask hpc := (hs.tasks c task htask hpc).cons x
  mailbox mail hmail := (hs.mailbox mail hmail).cons x
  session := hs.session.cons x

/-- A step that changes one task and may send a message. -/
theorem updates (hs : Sourced h s) {c : String} (task : ConnectionTask)
    (message : Option SessionMessage)
    (htask : task.pc ≠ .ended .rejected →
      Happened h (.connect c task.meetingId task.participantId))
    (hmessage : ∀ m ∈ message, m.Sourced h) :
    Sourced h { s with
      mailbox := s.mailbox ++ message.toList.map fun message => ⟨some c, message⟩
      tasks := Function.update s.tasks c (some task) } where
  tasks c' task' htask' hpc := by
    dsimp only at htask'
    by_cases hne : c' = c
    · rw [hne, Function.update_self, Option.some.injEq] at htask'
      subst hne htask'
      exact htask hpc
    · rw [Function.update_of_ne hne] at htask'
      exact hs.tasks c' task' htask' hpc
  mailbox mail hmail := by
    rcases List.mem_append.mp hmail with hold | hnew
    · exact hs.mailbox mail hold
    · obtain ⟨sent, hsent, rfl⟩ := List.mem_map.mp hnew
      exact hmessage sent (Option.mem_toList.mp hsent)
  session := hs.session

theorem advance (hs : Sourced h s) {T : ℕ} {c : String} {task : ConnectionTask}
    (htask : s.tasks c = some task) {e : MhEvent} {s' : MhSystem}
    (hadvance : Advance T s c task e s') : Sourced h s' := by
  have hopened : ∀ {pc : Pc}, task.pc = pc → pc ≠ .ended .rejected →
      Happened h (.connect c task.meetingId task.participantId) :=
    fun hpc hne => hs.tasks c task htask (hpc ▸ hne)
  have hsends : ∀ {pc pc' : Pc} {message : SessionMessage}, task.pc = pc → pc ≠ .ended .rejected →
      message.Sourced h → Sourced h (s.sends c task message pc') := by
    intro pc pc' message hpc hne hmessage
    refine hs.updates { task with pc := pc' } (some message) (fun _ => hopened hpc hne)
      fun m hm => ?_
    rw [← Option.some.inj hm]
    exact hmessage
  cases hadvance with
  | addConnection hpc =>
    exact hsends hpc Pc.noConfusion (hopened hpc Pc.noConfusion)
  | addPending hpc =>
    exact hsends hpc Pc.noConfusion (hopened hpc Pc.noConfusion)
  | notice hpc => exact hsends hpc Pc.noConfusion trivial
  | wait hpc =>
    have hmoves := hs.updates
      { task with pc := .waiting (s.now + T) (s.session.notifyCalls task.meetingId) } none
      (fun _ => hopened hpc Pc.noConfusion) fun m hm => by cases hm
    simp only [Option.toList_none, List.map_nil, List.append_nil] at hmoves
    exact hmoves
  | lastNotice reason hpc => exact hsends hpc Pc.noConfusion trivial
  | wake deadline calls hpc hready => exact hsends hpc Pc.noConfusion trivial
  | timeout deadline calls hpc hready => exact hsends hpc Pc.noConfusion trivial
  | cancelWait deadline calls hpc => exact hsends hpc Pc.noConfusion trivial
  | cancelHold hpc => exact hsends hpc Pc.noConfusion trivial
  | close reason hpc => exact hsends hpc Pc.noConfusion trivial

/-- The actor handles the next message. -/
theorem handle (hs : Sourced h s) (hn : s.session.connectionIds.Nodup) {sender : Option String}
    {message : SessionMessage} {mailbox : List Mail}
    (hmail : s.mailbox = ⟨sender, message⟩ :: mailbox) :
    Sourced h { s with
      session := (s.session.handleMessage message).1
      mailbox := mailbox
      tasks := MhSystem.replied s.tasks sender (s.session.handleMessage message).2
      registeredSince := MhSystem.registers s.registeredSince s.now message } where
  tasks c task htask hpc := by
    obtain ⟨old, hold, hm, hp, hpc'⟩ := replied_cases htask
    rw [hm, hp]
    refine hs.tasks c old hold fun hrejected => hpc ?_
    -- no reply moves a task that was rejected
    rcases hpc' with rfl | ⟨_, hreply⟩
    · exact hrejected
    · rw [hreply, hrejected]
      rfl
  mailbox mail hmem := hs.mailbox mail (hmail ▸ List.mem_cons_of_mem _ hmem)
  session := hs.session.handleMessage hn (hs.mailbox _ (hmail ▸ List.mem_cons_self))

theorem step (hs : Sourced h s) (hn : s.session.connectionIds.Nodup) {T : ℕ} {e : MhEvent}
    {s' : MhSystem} (hcase : StepCase T s e s') (n : Option Notification) :
    Sourced ((e, n) :: h) s' := by
  have hs' := hs.cons (e, n)
  cases hcase with
  | stutter => exact hs'
  | reject c =>
    have hreject := hs'.updates (c := c) ⟨"", "", .ended .rejected⟩ none (absurd rfl) fun m hm => by
      cases hm
    simp only [Option.toList_none, List.map_nil, List.append_nil] at hreject
    exact hreject
  | connect c meetingId participantId =>
    refine hs'.updates ⟨meetingId, participantId, .checking⟩ (some _)
      (fun _ => happened_self h _ n) fun m hm => ?_
    rw [← Option.some.inj hm]
    trivial
  | register meetingId mcId mcGrpcEndpoint =>
    refine ⟨hs'.tasks, fun mail hmail => ?_, hs'.session⟩
    rcases List.mem_append.mp hmail with hold | hnew
    · exact hs'.mailbox mail hold
    · rw [List.mem_singleton.mp hnew]
      exact happened_self h _ n
  | handle sender message mailbox hmail => exact hs'.handle hn hmail
  | advance c task htask e s' hadvance => exact hs'.advance htask hadvance
  | tick now => exact ⟨hs'.tasks, hs'.mailbox, hs'.session⟩
  | shutdown => exact ⟨hs'.tasks, hs'.mailbox, hs'.session⟩

end Sourced

section Runs

variable {T : ℕ} {h : MhHistory} {s : MhSystem}

theorem sourced_of_run (hr : (mhMachine T).Run h s) : Sourced h s :=
  hr.invariant (I := Sourced) .start fun _ s e hr _ hs =>
    hs.step (run_consistent hr).nodup (step_cases T s e) _

/-! ## Meetings with active connections -/

/-- Meetings with active connections, and with ones to come, are registered. -/
structure Opened (s : MhSystem) : Prop where
  mailbox : ∀ mail ∈ s.mailbox, ∀ m entry, mail.message = .addConnection m entry →
    m ∈ s.session.registeredMeetings
  active : ∀ m p, ∀ entry ∈ s.session.active m p, m ∈ s.session.registeredMeetings

namespace Opened

theorem updates (hs : Opened s) {c : String} (tasks : String → Option ConnectionTask)
    (message : SessionMessage)
    (hmessage : ∀ m entry, message = .addConnection m entry →
      m ∈ s.session.registeredMeetings) :
    Opened { s with mailbox := s.mailbox ++ [⟨some c, message⟩], tasks } where
  mailbox mail hmail m entry hadd := by
    rcases List.mem_append.mp hmail with hold | hnew
    · exact hs.mailbox mail hold m entry hadd
    · rw [List.mem_singleton.mp hnew] at hadd
      exact hmessage m entry hadd
  active := hs.active

theorem step (hs : Opened s) (hn : s.session.connectionIds.Nodup) (hb : Backed s) {e : MhEvent}
    {s' : MhSystem} (hcase : StepCase T s e s') : Opened s' := by
  cases hcase with
  | stutter => exact hs
  | reject => exact ⟨hs.mailbox, hs.active⟩
  | connect => exact hs.updates _ _ fun _ _ hadd => by cases hadd
  | register =>
    refine ⟨fun mail hmail m entry hadd => ?_, hs.active⟩
    rcases List.mem_append.mp hmail with hold | hnew
    · exact hs.mailbox mail hold m entry hadd
    · rw [List.mem_singleton.mp hnew] at hadd
      cases hadd
  | handle sender message mailbox hmail =>
    have hkept : ∀ {m}, m ∈ s.session.registeredMeetings →
        m ∈ (s.session.handleMessage message).1.registeredMeetings :=
      fun hm => SessionState.mem_registered_handleMessage.mpr (.inr hm)
    refine ⟨fun mail hmem m entry hadd => ?_, fun m p entry hmem => ?_⟩
    · exact hkept (hs.mailbox mail (hmail ▸ List.mem_cons_of_mem _ hmem) m entry hadd)
    · rcases SessionState.mem_active_handleMessage hn hmem with ⟨hadd, _⟩ | ⟨r, hreg, _⟩ | hold
      · exact hkept (hs.mailbox ⟨sender, message⟩ (hmail ▸ List.mem_cons_self) m entry hadd)
      · exact SessionState.mem_registered_handleMessage.mpr (.inl ⟨r, hreg⟩)
      · exact hkept (hs.active m p entry hold)
  | advance c task htask e s' hadvance =>
    cases hadvance with
    | addConnection hpc =>
      refine hs.updates _ _ fun m entry hadd => ?_
      rw [← (SessionMessage.addConnection.inj hadd).1]
      exact hb.registered c task htask (by rw [hpc]; trivial)
    | wait => exact ⟨hs.mailbox, hs.active⟩
    | addPending => exact hs.updates _ _ fun _ _ hadd => by cases hadd
    | notice => exact hs.updates _ _ fun _ _ hadd => by cases hadd
    | lastNotice => exact hs.updates _ _ fun _ _ hadd => by cases hadd
    | wake => exact hs.updates _ _ fun _ _ hadd => by cases hadd
    | timeout => exact hs.updates _ _ fun _ _ hadd => by cases hadd
    | cancelWait => exact hs.updates _ _ fun _ _ hadd => by cases hadd
    | cancelHold => exact hs.updates _ _ fun _ _ hadd => by cases hadd
    | close => exact hs.updates _ _ fun _ _ hadd => by cases hadd
  | tick => exact ⟨hs.mailbox, hs.active⟩
  | shutdown => exact ⟨hs.mailbox, hs.active⟩

end Opened

theorem opened_of_run (hr : (mhMachine T).Run h s) : Opened s := by
  refine hr.invariant (I := fun _ s => Opened s) ⟨?_, ?_⟩ fun _ s e hr _ hs =>
    hs.step (run_consistent hr).nodup (run_backed hr) (step_cases T s e)
  · exact fun mail hmail => absurd hmail List.not_mem_nil
  · exact fun m p entry hmem => absurd hmem List.not_mem_nil

/-! ## Notifications -/

/-- The controller that a notification goes to. -/
def Notification.mcEndpoint : Notification → String
  | .connected mcEndpoint _ _ => mcEndpoint
  | .disconnected mcEndpoint _ _ _ => mcEndpoint

/-- A task tells of itself, with its endpoint looked up. -/
theorem notification_eq_some {task : ConnectionTask} {reply : SessionReply} {n : Notification}
    (hn : task.notification reply = some n) :
    reply = .endpoint (some n.mcEndpoint) ∧ n.participant = (task.meetingId, task.participantId) ∧
      task.pc ≠ .ended .rejected := by
  unfold ConnectionTask.notification at hn
  split at hn
  next hpc =>
    obtain rfl := Option.some.inj hn
    exact ⟨rfl, rfl, by rw [hpc]; exact Pc.noConfusion⟩
  next hpc =>
    obtain rfl := Option.some.inj hn
    exact ⟨rfl, rfl, by rw [hpc]; exact Pc.noConfusion⟩
  · cases hn

/-- Only a lookup is replied to with an endpoint. -/
theorem endpoint_of_handleMessage {s : SessionState} {message : SessionMessage}
    {endpoint : String} (hreply : (s.handleMessage message).2 = .endpoint (some endpoint)) :
    ∃ m r, message = .getMcEndpoint m ∧ s.registeredMeetings.lookup m = some r ∧
      r.mcGrpcEndpoint = endpoint := by
  cases message with
  | getMcEndpoint m =>
    obtain ⟨r, hr, hendpoint⟩ := Option.map_eq_some_iff.mp (SessionReply.endpoint.inj hreply)
    exact ⟨m, r, rfl, hr, hendpoint⟩
  | _ => cases hreply

/-- A notification is about a connection that was opened for its meeting and participant, and
    goes where a registration of the meeting says. -/
theorem sourced_notification (hr : (mhMachine T).Run h s) {e : MhEvent} {n : Notification}
    (hn : (s.step T e).2 = some n) :
    (∃ c, Happened h (.connect c n.participant.1 n.participant.2)) ∧
      ∃ mcId, Happened h (.register n.participant.1 mcId n.mcEndpoint) := by
  have hs := sourced_of_run hr
  cases e with
  | handle =>
    simp only [MhSystem.step, MhSystem.handleMail] at hn
    split at hn
    · cases hn
    next sender message mailbox hmail =>
      dsimp only at hn
      obtain ⟨task, hwho, hnotice⟩ := Option.bind_eq_some_iff.mp hn
      obtain ⟨c, rfl, htask⟩ := Option.bind_eq_some_iff.mp hwho
      obtain ⟨hreply, hparticipant, hpc⟩ := notification_eq_some hnotice
      obtain ⟨m, r, rfl, hlookup, hendpoint⟩ := endpoint_of_handleMessage hreply
      -- the lookup is for the meeting of the task
      obtain ⟨task', place, htask', hstands, _⟩ := (run_consistent hr).sender hmail
      obtain rfl : task = task' := Option.some.inj (htask.symm.trans htask')
      have hmeeting : m = task.meetingId := by
        generalize mailOf mailbox c = mail at hstands
        generalize task.pc = pc at hstands
        cases hstands <;> rfl
      rw [hparticipant]
      refine ⟨⟨c, hs.tasks c task htask hpc⟩, r.mcId, ?_⟩
      rw [← hmeeting, ← hendpoint]
      exact hs.session.registered m r hlookup
  | _ => cases hn

end Runs

end DarkTower.Mh
