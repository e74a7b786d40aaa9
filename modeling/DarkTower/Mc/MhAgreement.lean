import DarkTower.Mh.Notifications
import DarkTower.Mc.MhConnectionRegistry

/-!
# Does the registry of a meeting controller agree with the media handler?

One media handler, whose connection tasks spawn the notifications of
`Mh.Connection`, and the registry of the meeting controller that all its
meetings are registered with. Every notification is a task of its own
(`McClient`, `mh-service/src/grpc/mc_client.rs`), so the RPCs arrive in any
order; an RPC whose answer is lost or an error is sent again, three times in
all.

* `run_told`: every notification that a task has spawned is in flight or has
  been applied.
* `registryAgrees_along`: once every notification has been applied the registry
  lists the handler for exactly the participants with an open connection, in
  every run in which no `connected` is applied after the `disconnected` of its
  connection, no `disconnected` while another connection of the participant is
  known, and every `connected` finds valid ids and room in its meeting.
* `notifications_disagree`: a participant with two connections closes one and is
  no longer listed; the two notifications of a connection arrive in the wrong
  order and the participant stays listed.
-/

namespace DarkTower.Mc

open DarkTower.Lib DarkTower.Mh

/-- `MAX_RETRY_ATTEMPTS` (mc_client.rs:41). -/
def maxRetryAttempts : ℕ := 3

/-- An RPC in flight, with the connection whose task spawned it (which the
    request does not carry). -/
structure Rpc where
  connection : String
  notification : Notification
  attempt : ℕ
deriving DecidableEq

/-- The Media Handler, its RPCs in flight, and the registry of the Meeting Controller. -/
structure MediaSystem where
  mh : MhSystem
  flight : List Rpc
  registry : MhConnectionRegistry
  /-- The connections whose `connected` has been applied, and those whose
      `disconnected` has (ghosts: the controller does not know them). -/
  connected : List String
  disconnected : List String

/-- A step of the handler, or the delivery of an RPC. -/
inductive MediaEvent
  /-- The media handler takes a step. -/
  | mh (e : MhEvent)
  /-- The controller applies an RPC in flight; the answer arrives or is lost. -/
  | deliver (i : ℕ) (answered : Bool)
deriving DecidableEq

namespace MediaSystem

/-- The RPC that a step of the media handler spawns. -/
def spawned (mh : MhSystem) (notification : Option Notification) : List Rpc :=
  match notification, mh.mailbox.head?.bind (·.sender) with
  | some n, some c => [⟨c, n, 1⟩]
  | _, _ => []

/-- The controller applies a notification of the handler `handlerId`. -/
def apply (handlerId : String) (registry : MhConnectionRegistry) (now : ℕ) :
    Notification → MhConnectionRegistry × Except MediaStatus Bool
  | .connected _ meetingId participantId =>
    registry.notifyParticipantConnected now meetingId participantId handlerId
  | .disconnected _ meetingId participantId _ =>
    registry.notifyParticipantDisconnected meetingId participantId handlerId

/-- `send_with_retry` (mc_client.rs:161): the RPC is sent again unless its answer
    arrives and is no error. -/
def retried (flight : List Rpc) (i : ℕ) (rpc : Rpc) (done : Bool) : List Rpc :=
  if done ∨ maxRetryAttempts ≤ rpc.attempt then flight.eraseIdx i
  else flight.set i { rpc with attempt := rpc.attempt + 1 }

/-- An RPC is applied. -/
def deliver (handlerId : String) (s : MediaSystem) (i : ℕ) (answered : Bool) : MediaSystem :=
  match s.flight[i]? with
  | none => s
  | some rpc =>
    let applied := apply handlerId s.registry s.mh.now rpc.notification
    { s with
      registry := applied.1
      flight := retried s.flight i rpc (answered && applied.2.isOk)
      connected :=
        match rpc.notification with
        | .connected _ _ _ => rpc.connection :: s.connected
        | .disconnected _ _ _ _ => s.connected
      disconnected :=
        match rpc.notification with
        | .connected _ _ _ => s.disconnected
        | .disconnected _ _ _ _ => rpc.connection :: s.disconnected }

/-- The handler takes a step, or an RPC in flight is delivered. -/
def step (T : ℕ) (handlerId : String) (s : MediaSystem) : MediaEvent → MediaSystem × Unit
  | .mh e =>
    let stepped := s.mh.step T e
    ({ s with mh := stepped.1, flight := s.flight ++ spawned s.mh stepped.2 }, ())
  | .deliver i answered => (s.deliver handlerId i answered, ())

/-- The handler and the registry at their start. -/
def start : MediaSystem := ⟨.start, [], .new, [], []⟩

end MediaSystem

/-- The events so far, the last one first. -/
abbrev MediaHistory := List (MediaEvent × Unit)

/-- The media handler `handlerId` and its controller. -/
def mediaMachine (T : ℕ) (handlerId : String) : Machine MediaSystem MediaEvent Unit where
  init := .start
  step := MediaSystem.step T handlerId
  allowed _ s e :=
    match e with
    | .mh e => (mhMachine T).allowed [] s.mh e
    | .deliver _ _ => True

instance (T : ℕ) (handlerId : String) (h : MediaHistory) (s : MediaSystem) (e : MediaEvent) :
    Decidable ((mediaMachine T handlerId).allowed h s e) :=
  match e with
  | .mh e => inferInstanceAs (Decidable ((mhMachine T).allowed [] s.mh e))
  | .deliver _ _ => inferInstanceAs (Decidable True)

/-! ## The claim -/

/-- The task is neither opening nor closing its connection. -/
def Pc.Settled : Pc → Prop
  | .added | .connectedNotice | .removing _ | .removed _ | .disconnectedNotice _ => False
  | _ => True

/-- Every notification has been applied and no task is opening or closing a
    connection. -/
def Settled (s : MediaSystem) : Prop :=
  s.flight = [] ∧ ∀ c task, s.mh.tasks c = some task → Pc.Settled task.pc

/-- The media handler holds a connection of the participant open. -/
def HasOpen (s : MhSystem) (meetingId participantId : String) : Prop :=
  ∃ c task, s.tasks c = some task ∧ task.pc = .holding ∧
    task.meetingId = meetingId ∧ task.participantId = participantId

/-- The registry lists the handler for the participants with an open connection. -/
def RegistryAgrees (handlerId : String) (s : MediaSystem) : Prop :=
  Settled s → ∀ m p, s.registry.Lists m p handlerId ↔ HasOpen s.mh m p

/-- The condition on an RPC that is applied. -/
def AppliesInOrder (handlerId : String) (s : MediaSystem) (rpc : Rpc) : Prop :=
  match rpc.notification with
  | .connected _ m p => s.registry.Lists m p handlerId ∨
      rpc.connection ∉ s.disconnected ∧ IdsValid m p handlerId ∧ s.registry.HasRoom m
  | .disconnected _ m p _ => ∀ c ∈ s.connected, c ≠ rpc.connection → c ∉ s.disconnected →
      s.mh.participantOf c ≠ some (m, p)

/-- The condition on a step: a `connected` is applied before the `disconnected`
    of its connection, to a meeting with room, and a `disconnected` while no
    other connection of its participant is known (or it changes nothing). -/
def DeliversInOrder (handlerId : String) (s : MediaSystem) : MediaEvent → Prop
  | .mh _ => True
  | .deliver i _ => ∀ rpc ∈ s.flight[i]?, AppliesInOrder handlerId s rpc

instance (handlerId : String) (s : MediaSystem) (rpc : Rpc) :
    Decidable (AppliesInOrder handlerId s rpc) :=
  match h : rpc.notification with
  | .connected _ m p => decidable_of_iff (s.registry.Lists m p handlerId ∨
      rpc.connection ∉ s.disconnected ∧ IdsValid m p handlerId ∧ s.registry.HasRoom m)
      (by rw [AppliesInOrder, h])
  | .disconnected _ m p _ => decidable_of_iff (∀ c ∈ s.connected, c ≠ rpc.connection →
      c ∉ s.disconnected → s.mh.participantOf c ≠ some (m, p)) (by rw [AppliesInOrder, h])

instance (handlerId : String) (s : MediaSystem) (e : MediaEvent) :
    Decidable (DeliversInOrder handlerId s e) :=
  match e with
  | .mh _ => inferInstanceAs (Decidable True)
  | .deliver i _ =>
    inferInstanceAs (Decidable (∀ rpc ∈ s.flight[i]?, AppliesInOrder handlerId s rpc))

/-! ## What has been announced and what has been applied -/

/-- The notification is that of an opened connection. -/
def opening : Notification → Bool
  | .connected _ _ _ => true
  | .disconnected _ _ _ _ => false

/-- The connections whose notification of a kind has been applied. -/
def MediaSystem.heard (s : MediaSystem) : Bool → List String
  | true => s.connected
  | false => s.disconnected

/-- A notification of a kind is in flight. -/
def InFlight (flight : List Rpc) (kind : Bool) (c : String) : Prop :=
  ∃ rpc ∈ flight, rpc.connection = c ∧ opening rpc.notification = kind

/-- The task of a connection has spawned its notification of a kind. -/
def Spawned (mh : MhSystem) (kind : Bool) (c : String) : Prop :=
  match kind with
  | true => (mh.announced c).1 = true
  | false => (mh.announced c).2 = true

/-- Every spawned notification is in flight or has been applied. -/
structure Told (s : MediaSystem) : Prop where
  consistent : Consistent s.mh
  backed : Backed s.mh
  told : ∀ kind c, c ∈ s.heard kind ∨ InFlight s.flight kind c ↔ Spawned s.mh kind c
  named : ∀ rpc ∈ s.flight, s.mh.participantOf rpc.connection = some rpc.notification.participant

theorem inFlight_append (flight : List Rpc) (c' : String) (n : Notification) (attempt : ℕ)
    (kind : Bool) (c : String) : InFlight (flight ++ [⟨c', n, attempt⟩]) kind c ↔
      InFlight flight kind c ∨ c' = c ∧ opening n = kind := by
  simp only [InFlight, List.mem_append, List.mem_singleton, or_and_right, exists_or,
    exists_eq_left]

/-- A task that spawns a notification has spawned no notification of that kind
    before, and it has spawned the other kind as before. -/
theorem spawned_update {s s' : MhSystem} {c : String} {n : Notification}
    (hbefore : s.announced c = n.before)
    (hafter : s'.announced = Function.update s.announced c n.after) (kind : Bool) (c' : String) :
    Spawned s' kind c' ↔ Spawned s kind c' ∨ c = c' ∧ opening n = kind := by
  unfold Spawned
  rw [hafter]
  by_cases hne : c' = c
  · subst hne
    rw [Function.update_self, hbefore]
    cases n with
    | connected => cases kind <;> simp [Notification.before, Notification.after, opening]
    | disconnected => cases kind <;> simp [Notification.before, Notification.after, opening]
  · rw [Function.update_of_ne hne]
    simp only [Ne.symm hne, false_and, or_false]

/-- An RPC that has been applied is the only one that can leave the flight. -/
theorem mem_retried_of_mem {flight : List Rpc} {i : ℕ} {rpc : Rpc}
    (hrpc : flight[i]? = some rpc) (done : Bool) {kind : Bool} {c : String}
    (h : InFlight flight kind c) : InFlight (MediaSystem.retried flight i rpc done) kind c ∨
      rpc.connection = c ∧ opening rpc.notification = kind := by
  obtain ⟨x, hx, hc, hkind⟩ := h
  obtain ⟨j, hj⟩ := List.mem_iff_getElem?.mp hx
  by_cases hij : i = j
  · rw [hij, hj, Option.some.injEq] at hrpc
    exact .inr (hrpc ▸ ⟨hc, hkind⟩)
  · refine .inl ⟨x, ?_, hc, hkind⟩
    unfold MediaSystem.retried
    split_ifs
    · exact List.mem_eraseIdx_iff_getElem?.mpr ⟨j, Ne.symm hij, hj⟩
    · exact List.mem_iff_getElem?.mpr ⟨j, by rw [List.getElem?_set_ne hij, hj]⟩

theorem mem_of_mem_retried {flight : List Rpc} {i : ℕ} {rpc : Rpc}
    (hrpc : flight[i]? = some rpc) {done : Bool} {x : Rpc}
    (h : x ∈ MediaSystem.retried flight i rpc done) :
    ∃ y ∈ flight, y.connection = x.connection ∧ y.notification = x.notification := by
  unfold MediaSystem.retried at h
  split_ifs at h
  · exact ⟨x, List.mem_of_mem_eraseIdx h, rfl, rfl⟩
  · rcases List.mem_or_eq_of_mem_set h with hx | rfl
    · exact ⟨x, hx, rfl, rfl⟩
    · exact ⟨rpc, List.mem_of_getElem? hrpc, rfl, rfl⟩

theorem flight_deliver {s : MediaSystem} {i : ℕ} {rpc : Rpc} (hrpc : s.flight[i]? = some rpc)
    (handlerId : String) (answered : Bool) :
    (s.deliver handlerId i answered).flight = MediaSystem.retried s.flight i rpc (answered &&
      (MediaSystem.apply handlerId s.registry s.mh.now rpc.notification).2.isOk) := by
  rw [MediaSystem.deliver, hrpc]

theorem mh_deliver (s : MediaSystem) (handlerId : String) (i : ℕ) (answered : Bool) :
    (s.deliver handlerId i answered).mh = s.mh := by
  unfold MediaSystem.deliver
  split <;> rfl

theorem mem_heard_deliver {s : MediaSystem} {i : ℕ} {rpc : Rpc} (hrpc : s.flight[i]? = some rpc)
    {handlerId : String} {answered : Bool} {kind : Bool} {c : String} :
    c ∈ (s.deliver handlerId i answered).heard kind ↔
      c ∈ s.heard kind ∨ rpc.connection = c ∧ opening rpc.notification = kind := by
  rw [MediaSystem.deliver, hrpc]
  obtain ⟨c', n, attempt⟩ := rpc
  cases n <;> cases kind <;>
    simp [MediaSystem.heard, opening, or_comm, eq_comm]

namespace Told

variable {s : MediaSystem}

theorem start : Told MediaSystem.start where
  consistent := Consistent.start
  backed := Backed.start
  told kind c := by
    refine iff_of_false ?_ ?_
    · rintro (h | ⟨rpc, hrpc, -⟩)
      · cases kind <;> cases h
      · cases hrpc
    · cases kind <;> exact Bool.false_ne_true
  named rpc h := by cases h

theorem mhStep (hs : Told s) {T : ℕ} {e : MhEvent} (ha : (mhMachine T).allowed [] s.mh e) :
    Told { s with
      mh := (s.mh.step T e).1
      flight := s.flight ++ MediaSystem.spawned s.mh (s.mh.step T e).2 } := by
  have hcase := step_cases T s.mh e
  have hannounces := step_announces hs.consistent hs.backed ha
  have hkept : ∀ rpc ∈ s.flight, (s.mh.step T e).1.participantOf rpc.connection =
      some rpc.notification.participant :=
    fun rpc hrpc => participantOf_step_some ha hcase (hs.named rpc hrpc)
  have hconsistent := hs.consistent.step ha hcase
  have hbacked := hs.backed.step hs.consistent hcase
  have hwho : ∀ {c who}, s.mh.participantOf c = some who →
      (s.mh.step T e).1.participantOf c = some who :=
    fun h => participantOf_step_some ha hcase h
  generalize (s.mh.step T e).1 = mh' at *
  generalize (s.mh.step T e).2 = notification at *
  refine ⟨hconsistent, hbacked, fun kind c => ?_, fun rpc hrpc => ?_⟩
  · cases hannounces with
    | quiet hsame =>
      have hspawned : Spawned mh' kind c ↔ Spawned s.mh kind c := by
        unfold Spawned
        rw [hsame]
      rw [hspawned, ← hs.told kind c]
      simp only [MediaSystem.spawned, List.append_nil]
      rfl
    | loud c' n hsender hof hbefore hafter =>
      rw [spawned_update hbefore hafter, ← hs.told kind c]
      simp only [MediaSystem.spawned, hsender, inFlight_append, or_assoc]
      rfl
  · cases hannounces with
    | quiet hsame =>
      simp only [MediaSystem.spawned, List.append_nil] at hrpc
      exact hkept rpc hrpc
    | loud c' n hsender hof hbefore hafter =>
      simp only [MediaSystem.spawned, hsender, List.mem_append, List.mem_singleton] at hrpc
      rcases hrpc with hrpc | rfl
      · exact hkept rpc hrpc
      · exact hwho hof

theorem deliver (hs : Told s) (handlerId : String) (i : ℕ) (answered : Bool) :
    Told (s.deliver handlerId i answered) := by
  cases hrpc : s.flight[i]? with
  | none =>
    rw [MediaSystem.deliver, hrpc]
    exact hs
  | some rpc =>
    have hflight := flight_deliver hrpc handlerId answered
    have hmh := mh_deliver s handlerId i answered
    have hmem : rpc ∈ s.flight := List.mem_of_getElem? hrpc
    refine ⟨hmh ▸ hs.consistent, hmh ▸ hs.backed, fun kind c => ?_, fun x hx => ?_⟩
    · rw [hmh, ← hs.told kind c, mem_heard_deliver hrpc, hflight]
      constructor
      · rintro ((hheard | ⟨rfl, rfl⟩) | ⟨x, hx, rfl, rfl⟩)
        · exact .inl hheard
        · exact .inr ⟨rpc, hmem, rfl, rfl⟩
        · obtain ⟨y, hy, hc, hn⟩ := mem_of_mem_retried hrpc hx
          exact .inr ⟨y, hy, hc, by rw [hn]⟩
      · rintro (hheard | hfly)
        · exact .inl (.inl hheard)
        · rcases mem_retried_of_mem hrpc _ hfly with hfly | hself
          · exact .inr hfly
          · exact .inl (.inr hself)
    · rw [hflight] at hx
      obtain ⟨y, hy, hc, hn⟩ := mem_of_mem_retried hrpc hx
      rw [hmh, ← hc, ← hn]
      exact hs.named y hy

end Told

theorem run_told {T : ℕ} {handlerId : String} {h : MediaHistory} {s : MediaSystem}
    (hr : (mediaMachine T handlerId).Run h s) : Told s := by
  refine Machine.Run.invariant (I := fun _ s => Told s) Told.start ?_ hr
  intro h s e _ ha hs
  cases e with
  | mh e => exact hs.mhStep ha
  | deliver i answered => exact hs.deliver handlerId i answered

/-! ## What the registry lists -/

/-- The registry lists the participants of the connections whose `connected`
    has been applied and whose `disconnected` has not. -/
structure InStep (handlerId : String) (s : MediaSystem) : Prop where
  lists : ∀ m p, s.registry.Lists m p handlerId ↔
    ∃ c ∈ s.connected, c ∉ s.disconnected ∧ s.mh.participantOf c = some (m, p)
  valid : ∀ m p, s.registry.Lists m p handlerId → IdsValid m p handlerId

namespace InStep

variable {handlerId : String} {s : MediaSystem}

theorem start : InStep handlerId MediaSystem.start where
  lists m p := by
    refine iff_of_false (MhConnectionRegistry.not_lists_new m p handlerId) ?_
    rintro ⟨c, hc, -⟩
    cases hc
  valid m p h := absurd h (MhConnectionRegistry.not_lists_new m p handlerId)

theorem mhStep (hs : InStep handlerId s) (ht : Told s) {T : ℕ} {e : MhEvent}
    (ha : (mhMachine T).allowed [] s.mh e) (flight : List Rpc) :
    InStep handlerId { s with mh := (s.mh.step T e).1, flight } := by
  refine ⟨fun m p => ?_, hs.valid⟩
  dsimp only
  rw [hs.lists]
  refine exists_congr fun c => and_congr_right fun hc => and_congr_right fun _ => ?_
  -- the task of a connection that was announced has a participant, which it keeps
  have hannounced : (s.mh.announced c).1 = true := (ht.told true c).mp (.inl hc)
  cases hwho : s.mh.participantOf c with
  | none =>
    rw [MhSystem.announced, participantOf_eq_none.mp hwho] at hannounced
    cases hannounced
  | some who => rw [participantOf_step_some ha (step_cases T s.mh e) hwho]

theorem connected (hs : InStep handlerId s) {c m p : String}
    (hof : s.mh.participantOf c = some (m, p)) (flight : List Rpc) (now : ℕ)
    (hcond : s.registry.Lists m p handlerId ∨
      c ∉ s.disconnected ∧ IdsValid m p handlerId ∧ s.registry.HasRoom m) :
    InStep handlerId { s with
      registry := (s.registry.notifyParticipantConnected now m p handlerId).1
      flight := flight
      connected := c :: s.connected } := by
  have hvalid : IdsValid m p handlerId := hcond.elim (hs.valid m p) (·.2.1)
  have hlists : ∀ m' p', (s.registry.notifyParticipantConnected now m p handlerId).1.Lists m' p'
      handlerId ↔ s.registry.Lists m' p' handlerId ∨ m' = m ∧ p' = p := by
    intro m' p'
    rw [MhConnectionRegistry.notifyParticipantConnected_registry, if_pos hvalid,
      MhConnectionRegistry.lists_addConnection]
    constructor
    · rintro (h | ⟨⟨rfl, rfl, -⟩, -⟩)
      · exact .inl h
      · exact .inr ⟨rfl, rfl⟩
    · rintro (h | ⟨rfl, rfl⟩)
      · exact .inl h
      · exact hcond.imp id fun h => ⟨⟨rfl, rfl, rfl⟩, h.2.2⟩
  refine ⟨fun m' p' => ?_, fun m' p' h => ?_⟩
  · dsimp only
    rw [hlists, hs.lists]
    constructor
    · rintro (⟨c', hc', hrest⟩ | ⟨rfl, rfl⟩)
      · exact ⟨c', List.mem_cons_of_mem _ hc', hrest⟩
      · rcases hcond with hlisted | ⟨hopen, -⟩
        · obtain ⟨c', hc', hrest⟩ := (hs.lists _ _).mp hlisted
          exact ⟨c', List.mem_cons_of_mem _ hc', hrest⟩
        · exact ⟨c, List.mem_cons_self, hopen, hof⟩
    · rintro ⟨c', hc', hopen, hof'⟩
      rcases List.mem_cons.mp hc' with rfl | hc'
      · rw [hof, Option.some.injEq, Prod.mk.injEq] at hof'
        exact .inr ⟨hof'.1.symm, hof'.2.symm⟩
      · exact .inl ⟨c', hc', hopen, hof'⟩
  · rcases (hlists m' p').mp h with h | ⟨rfl, rfl⟩
    · exact hs.valid m' p' h
    · exact hvalid

theorem disconnected (hs : InStep handlerId s) {c m p : String}
    (hof : s.mh.participantOf c = some (m, p)) (flight : List Rpc)
    (hcond : ∀ c' ∈ s.connected, c' ≠ c → c' ∉ s.disconnected →
      s.mh.participantOf c' ≠ some (m, p)) :
    InStep handlerId { s with
      registry := (s.registry.notifyParticipantDisconnected m p handlerId).1
      flight := flight
      disconnected := c :: s.disconnected } := by
  have hlists : ∀ m' p', (s.registry.notifyParticipantDisconnected m p handlerId).1.Lists m' p'
      handlerId ↔ s.registry.Lists m' p' handlerId ∧ ¬ (m' = m ∧ p' = p) := by
    intro m' p'
    rw [MhConnectionRegistry.notifyParticipantDisconnected_registry]
    split_ifs with hvalid
    · rw [MhConnectionRegistry.lists_removeConnection]
      simp only [and_true]
    · refine (and_iff_left_of_imp fun h => ?_).symm
      rintro ⟨rfl, rfl⟩
      exact hvalid (hs.valid _ _ h)
  refine ⟨fun m' p' => ?_, fun m' p' h => hs.valid m' p' ((hlists m' p').mp h).1⟩
  dsimp only
  rw [hlists, hs.lists]
  constructor
  · rintro ⟨⟨c', hc', hopen, hof'⟩, hother⟩
    refine ⟨c', hc', fun hmem => ?_, hof'⟩
    rcases List.mem_cons.mp hmem with rfl | hmem
    · rw [hof, Option.some.injEq, Prod.mk.injEq] at hof'
      exact hother ⟨hof'.1.symm, hof'.2.symm⟩
    · exact hopen hmem
  · rintro ⟨c', hc', hnot, hof'⟩
    have hne : c' ≠ c := fun h => hnot (h ▸ List.mem_cons_self)
    have hopen : c' ∉ s.disconnected := fun h => hnot (List.mem_cons_of_mem _ h)
    refine ⟨⟨c', hc', hopen, hof'⟩, ?_⟩
    rintro ⟨rfl, rfl⟩
    exact hcond c' hc' hne hopen hof'

theorem deliver (hs : InStep handlerId s) (ht : Told s) {i : ℕ} (answered : Bool)
    (hcond : DeliversInOrder handlerId s (.deliver i answered)) :
    InStep handlerId (s.deliver handlerId i answered) := by
  unfold MediaSystem.deliver
  cases hrpc : s.flight[i]? with
  | none => exact hs
  | some rpc =>
    have hof := ht.named rpc (List.mem_of_getElem? hrpc)
    have hrpc' := hcond rpc hrpc
    obtain ⟨c, n, attempt⟩ := rpc
    cases n with
    | connected endpoint m p => exact hs.connected hof _ _ hrpc'
    | disconnected endpoint m p reason => exact hs.disconnected hof _ hrpc'

/-- A connection that has been announced, is not closed and not closing is held
    open. -/
theorem holding_of_announced {pc : Pc} (hsettled : Pc.Settled pc) (hopened : pc.announced.1 = true)
    (hopen : ¬ pc.announced.2 = true) : pc = .holding := by
  cases pc with
  | holding => rfl
  | ended ending =>
    cases ending with
    | closed => exact absurd rfl hopen
    | _ => cases hopened
  | removing | removed | disconnectedNotice => exact False.elim hsettled
  | _ => cases hopened

/-- Once everything has been applied, what is listed is what is open. -/
theorem agrees (hs : InStep handlerId s) (ht : Told s) : RegistryAgrees handlerId s := by
  intro hsettled m p
  have htold : ∀ kind c, c ∈ s.heard kind ↔ Spawned s.mh kind c := by
    intro kind c
    rw [← ht.told kind c, or_iff_left]
    rintro ⟨rpc, hrpc, -⟩
    rw [hsettled.1] at hrpc
    cases hrpc
  rw [hs.lists]
  constructor
  · rintro ⟨c, hc, hopen, hof⟩
    have hc' : (s.mh.announced c).1 = true := (htold true c).mp hc
    have hopen' : ¬ (s.mh.announced c).2 = true := fun h => hopen ((htold false c).mpr h)
    obtain ⟨task, htask, hwho⟩ := Option.map_eq_some_iff.mp hof
    have hpc := hsettled.2 c task htask
    rw [Prod.mk.injEq] at hwho
    rw [MhSystem.announced, htask, Option.map_some, Option.getD_some] at hc' hopen'
    exact ⟨c, task, htask, holding_of_announced hpc hc' hopen', hwho⟩
  · rintro ⟨c, task, htask, hpc, rfl, rfl⟩
    have hannounced : s.mh.announced c = (true, false) := by
      rw [MhSystem.announced, htask, Option.map_some, hpc]
      rfl
    refine ⟨c, (htold true c).mpr (congrArg Prod.fst hannounced), fun h => ?_, ?_⟩
    · have hfalse : (s.mh.announced c).2 = true := (htold false c).mp h
      rw [hannounced] at hfalse
      cases hfalse
    · rw [MhSystem.participantOf, htask]
      rfl

end InStep

/-- The registry agrees with the media handler in every run that applies the
    notifications in order. -/
theorem registryAgrees_along {T : ℕ} {handlerId : String} {h : MediaHistory} {s : MediaSystem}
    (hr : (mediaMachine T handlerId).Run h s)
    (hC : ∀ e a h', (e, a) :: h' <:+ h →
      DeliversInOrder handlerId ((mediaMachine T handlerId).stateAfter h') e) :
    RegistryAgrees handlerId s := by
  refine InStep.agrees (Machine.Run.invariant_of_steps (I := fun _ s => InStep handlerId s)
    InStep.start ?_ hr hC) (run_told hr)
  intro h s e hr ha hcond hs
  cases e with
  | mh e => exact hs.mhStep (run_told hr) ha _
  | deliver i answered => exact hs.deliver (run_told hr) answered hcond

/-- A connection of a registered meeting opens, up to its notification. -/
def opens (c : String) : List MediaEvent :=
  [.mh (.connect c "meeting-1" "user-1"), .mh .handle, .mh (.resume c), .mh .handle,
    .mh (.resume c), .mh .handle]

/-- The client closes a connection, up to its notification. -/
def closes (c : String) : List MediaEvent :=
  [.mh (.close c .clientClosed), .mh .handle, .mh (.resume c), .mh .handle]

/-- The meeting is registered. -/
def registers : List MediaEvent :=
  [.mh (.register "meeting-1" "mc-1" "http://mc:50052"), .mh .handle]

/-- One connection after the other; the first answer is lost. -/
def reconnectEvents : List MediaEvent :=
  registers ++ opens "conn-1" ++ [.deliver 0 false, .deliver 0 true] ++ closes "conn-1" ++
    [.deliver 0 true] ++ opens "conn-2" ++ [.deliver 0 true]

theorem registryAgrees_along_reconnect :
    (mediaMachine 15 "mh-1").Run ((mediaMachine 15 "mh-1").playAll reconnectEvents).2
        ((mediaMachine 15 "mh-1").playAll reconnectEvents).1 ∧
      RegistryAgrees "mh-1" ((mediaMachine 15 "mh-1").playAll reconnectEvents).1 :=
  have hr := Machine.run_of_admits (M := mediaMachine 15 "mh-1") (l := reconnectEvents)
    (by decide)
  ⟨hr, registryAgrees_along hr (Machine.StepsMeet.forall_suffix (by decide))⟩

/-- The connection that an event starts. -/
def MediaEvent.opens : MediaEvent → Option String
  | .mh e => e.opens
  | .deliver _ _ => none

/-- Every task was started by an event of the run. -/
theorem opened_of_run {T : ℕ} {handlerId : String} {h : MediaHistory} {s : MediaSystem}
    (hr : (mediaMachine T handlerId).Run h s) :
    ∀ c, s.mh.tasks c ≠ none → c ∈ h.filterMap fun x => x.1.opens := by
  refine Machine.Run.invariant (I := fun h s => ∀ c, s.mh.tasks c ≠ none →
    c ∈ h.filterMap fun x => x.1.opens) (fun c hc => absurd rfl hc) ?_ hr
  intro h s e _ _ hs c hc
  rw [List.mem_filterMap]
  by_cases hopens : e.opens = some c
  · exact ⟨(e, ()), List.mem_cons_self, hopens⟩
  · have hold : s.mh.tasks c ≠ none := by
      cases e with
      | mh e =>
        intro hnone
        have hwho := participantOf_step (step_cases T s.mh e) hopens
        rw [participantOf_eq_none.mpr hnone] at hwho
        exact hc (participantOf_eq_none.mp hwho)
      | deliver i answered =>
        intro hnone
        refine hc ?_
        rw [← hnone]
        exact congrArg (MhSystem.tasks · c) (mh_deliver s handlerId i answered)
    obtain ⟨x, hx, hxc⟩ := List.mem_filterMap.mp (hs c hold)
    exact ⟨x, List.mem_cons_of_mem _ hx, hxc⟩

/-- Two connections of one participant, of which one is closed. -/
def secondConnectionEvents : List MediaEvent :=
  registers ++ opens "conn-1" ++ [.deliver 0 true] ++ opens "conn-2" ++ [.deliver 0 true] ++
    closes "conn-1" ++ [.deliver 0 true]

/-- A connection whose notifications arrive in the wrong order. -/
def reorderedEvents : List MediaEvent :=
  registers ++ opens "conn-1" ++ closes "conn-1" ++ [.deliver 1 true, .deliver 0 true]

theorem settled_secondConnection :
    Settled ((mediaMachine 15 "mh-1").playAll secondConnectionEvents).1 := by
  have hr := Machine.run_of_admits (M := mediaMachine 15 "mh-1") (l := secondConnectionEvents)
    (by decide)
  refine ⟨by decide, fun c task htask => ?_⟩
  have hopened := opened_of_run hr c (by rw [htask]; exact Option.some_ne_none _)
  have hlist : ((mediaMachine 15 "mh-1").playAll secondConnectionEvents).2.filterMap
    (fun x => x.1.opens) = ["conn-2", "conn-1"] := by decide
  rw [hlist, List.mem_cons, List.mem_singleton] at hopened
  rcases hopened with rfl | rfl
  · have hpc : ((mediaMachine 15 "mh-1").playAll secondConnectionEvents).1.mh.tasks "conn-2" =
      some ⟨"meeting-1", "user-1", .holding⟩ := by decide
    obtain rfl := Option.some.inj (hpc.symm.trans htask)
    trivial
  · have hpc : ((mediaMachine 15 "mh-1").playAll secondConnectionEvents).1.mh.tasks "conn-1" =
      some ⟨"meeting-1", "user-1", .ended .closed⟩ := by decide
    obtain rfl := Option.some.inj (hpc.symm.trans htask)
    trivial

theorem task_reordered {c : String} {task : ConnectionTask}
    (htask : ((mediaMachine 15 "mh-1").playAll reorderedEvents).1.mh.tasks c = some task) :
    task = ⟨"meeting-1", "user-1", .ended .closed⟩ := by
  have hr := Machine.run_of_admits (M := mediaMachine 15 "mh-1") (l := reorderedEvents)
    (by decide)
  have hopened := opened_of_run hr c (by rw [htask]; exact Option.some_ne_none _)
  have hlist : ((mediaMachine 15 "mh-1").playAll reorderedEvents).2.filterMap
    (fun x => x.1.opens) = ["conn-1"] := by decide
  rw [hlist, List.mem_singleton] at hopened
  have hpc : ((mediaMachine 15 "mh-1").playAll reorderedEvents).1.mh.tasks "conn-1" =
    some ⟨"meeting-1", "user-1", .ended .closed⟩ := by decide
  rw [hopened, hpc] at htask
  exact (Option.some.inj htask).symm

/-- After `secondConnectionEvents` the second connection is open and the
    participant is not listed; after `reorderedEvents` the participant is
    listed and has no connection. -/
theorem notifications_disagree :
    ((mediaMachine 15 "mh-1").Run ((mediaMachine 15 "mh-1").playAll secondConnectionEvents).2
        ((mediaMachine 15 "mh-1").playAll secondConnectionEvents).1 ∧
      ¬ RegistryAgrees "mh-1" ((mediaMachine 15 "mh-1").playAll secondConnectionEvents).1) ∧
    (mediaMachine 15 "mh-1").Run ((mediaMachine 15 "mh-1").playAll reorderedEvents).2
        ((mediaMachine 15 "mh-1").playAll reorderedEvents).1 ∧
      ¬ RegistryAgrees "mh-1" ((mediaMachine 15 "mh-1").playAll reorderedEvents).1 := by
  refine ⟨⟨Machine.run_of_admits (by decide), fun h => ?_⟩, Machine.run_of_admits (by decide),
    fun h => ?_⟩
  · have hopen : HasOpen ((mediaMachine 15 "mh-1").playAll secondConnectionEvents).1.mh
        "meeting-1" "user-1" := ⟨"conn-2", ⟨"meeting-1", "user-1", .holding⟩, by decide⟩
    have hlists := (h settled_secondConnection "meeting-1" "user-1").mpr hopen
    exact absurd hlists (by decide)
  · have hsettled : Settled ((mediaMachine 15 "mh-1").playAll reorderedEvents).1 := by
      refine ⟨by decide, fun c task htask => ?_⟩
      rw [task_reordered htask]
      trivial
    obtain ⟨c, task, htask, hpc, -⟩ := (h hsettled "meeting-1" "user-1").mp (by decide)
    rw [task_reordered htask] at hpc
    cases hpc

end DarkTower.Mc
