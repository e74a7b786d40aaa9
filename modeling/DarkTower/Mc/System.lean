import DarkTower.Lib.Gauge
import DarkTower.Lib.Multimap
import DarkTower.Mc.Controller
import DarkTower.Mc.Participants

/-!
# The controller with its meeting actors

`McSystem` puts the controller actor together with the meeting actors it
spawned, each under its number (a meeting id can be used again), and the two
counters they share: `ControllerMetrics::current_participants` and
`ActorMetrics::active_connections` (`mc-service/src/actors/metrics.rs`). An
actor leaves the system when its task ends.

`Drops` and `Adds` say what a handler did to a map and told its counter;
`step_turnCase` lists what a step does to the actors.
-/

namespace DarkTower.Mc

open DarkTower.Common DarkTower.Lib

/-- The counters an effect moves: `increment_participants` and
    `decrement_participants`. -/
def participantTick : Effect → Option Tick
  | .incrementParticipants => some .up
  | .decrementParticipants => some .down
  | _ => none

/-- `connection_created` and `connection_closed`. -/
def connectionTick : Effect → Option Tick
  | .connectionCreated => some .up
  | .connectionClosed => some .down
  | _ => none

/-- The controller with the meeting actors that it has started. -/
structure McSystem where
  controller : MeetingController
  /-- The actors the controller holds a handle of. -/
  handles : StringMap ℕ
  /-- The actors whose task has not ended. -/
  actors : AList fun _ : ℕ => MeetingActor
  spawned : ℕ
  /-- `ControllerMetrics::current_participants`, an `AtomicU32`. -/
  currentParticipants : Gauge 32
  /-- `ActorMetrics::active_connections`, an `AtomicUsize`. -/
  activeConnections : Gauge 64

/-- A message of the controller, a step of an actor, or the end of one. -/
inductive McEvent
  /-- `CreateMeeting` is handled. -/
  | createMeeting (now : ℕ) (createdAt : ℤ) (meetingId : String)
  /-- `RemoveMeeting` is handled. -/
  | removeMeeting (meetingId : String)
  | checkHealth
  /-- `Shutdown` is handled. -/
  | shutdown
  /-- `MeetingControllerActorHandle::cancel`. -/
  | cancel
  /-- The controller sees the cancellation. -/
  | stop
  /-- A turn of the loop of a meeting actor; `shutdown` is its last. -/
  | meeting (n : ℕ) (e : MeetingEvent)
  /-- The task of a meeting actor panics. -/
  | lost (n : ℕ)
deriving DecidableEq

namespace McSystem

/-- `cancel` of the handle of a meeting. -/
def cancelMeeting (s : McSystem) (meetingId : String) : McSystem :=
  match s.handles.lookup meetingId with
  | none => s
  | some n =>
    match s.actors.lookup n with
    | none => s
    | some m => { s with actors := s.actors.insert n { m with cancelled := true } }

/-- The task of the actor `n` of a meeting ends. -/
def actorEnds (s : McSystem) (n : ℕ) (meetingId : String) (task : TaskState) : McSystem :=
  { s with
    actors := s.actors.erase n
    controller :=
      if s.handles.lookup meetingId = some n then s.controller.taskEnds meetingId task
      else s.controller }

/-- The counters after the effects of a handler. -/
def count (s : McSystem) (effects : List Effect) : McSystem :=
  { s with
    currentParticipants := s.currentParticipants.run (effects.filterMap participantTick)
    activeConnections := s.activeConnections.run (effects.filterMap connectionTick) }

/-- The controller handles a message, or an actor takes a step. -/
def step (R : Ring) (mgr : SessionBindingManager) (s : McSystem) : McEvent → McSystem
  | .createMeeting now createdAt meetingId =>
    let created := s.controller.createMeeting now meetingId
    if created.2.isOk then
      { s with
        controller := created.1
        handles := s.handles.insert meetingId s.spawned
        actors := s.actors.insert s.spawned (MeetingActor.spawn meetingId mgr createdAt)
        spawned := s.spawned + 1 }
    else s
  | .removeMeeting meetingId =>
    let removed := s.controller.removeMeeting meetingId
    if removed.2.isOk then { s.cancelMeeting meetingId with controller := removed.1 } else s
  | .checkHealth => { s with controller := s.controller.checkMeetingHealth }
  | .shutdown => { s with controller := s.controller.initiateShutdown }
  | .cancel => { s with controller := { s.controller with cancelled := true } }
  | .stop =>
    { s.controller.meetings.keys.foldl cancelMeeting s with
      controller := s.controller.gracefulShutdown }
  | .meeting n e =>
    match s.actors.lookup n with
    | none => s
    | some m =>
      let handled := m.handle R e
      let s := s.count handled.effects
      if e.isShutdown then s.actorEnds n m.meetingId .exited
      else { s with actors := s.actors.insert n handled.actor }
  | .lost n =>
    match s.actors.lookup n with
    | none => s
    | some m => s.actorEnds n m.meetingId .panicked

/-- The controller at its start. -/
def start : McSystem := ⟨.new, ∅, ∅, 0, .zero 32, .zero 64⟩

/-- An actor sees the cancellation of its own token or of the controller's. -/
def SeesCancellation (s : McSystem) (n : ℕ) : Prop :=
  ∃ m ∈ s.actors.lookup n, m.cancelled = true ∨ s.controller.cancelled = true

instance (s : McSystem) (n : ℕ) : Decidable (s.SeesCancellation n) := by
  unfold SeesCancellation
  cases s.actors.lookup n with
  | none => exact isFalse (by simp)
  | some m =>
    exact decidable_of_iff (m.cancelled = true ∨ s.controller.cancelled = true) (by simp)

end McSystem

/-- The controller from its start on. A loop takes the branch of the
    cancellation only when its token is cancelled, and actors that have ended
    do nothing. Nothing is promised of the clock or of the values drawn. -/
def mcMachine (R : Ring) (mgr : SessionBindingManager) : Machine McSystem McEvent Unit where
  init := .start
  step s e := (s.step R mgr e, ())
  allowed _ s e :=
    match e with
    | .stop => s.controller.cancelled = true
    | .meeting n e => n ∈ s.actors ∧ (e.isShutdown = true → s.SeesCancellation n)
    | .lost n => n ∈ s.actors
    | _ => True

instance (R : Ring) (mgr : SessionBindingManager) (h : List (McEvent × Unit)) (s : McSystem)
    (e : McEvent) : Decidable ((mcMachine R mgr).allowed h s e) := by
  cases e <;> unfold mcMachine <;> infer_instance

/-! ## Totals -/

/-- A collection of a meeting actor: empty at first, and no matter of its token. -/
structure Collects (items : MeetingActor → List String) : Prop where
  spawn : ∀ meetingId mgr createdAt, items (MeetingActor.spawn meetingId mgr createdAt) = []
  cancelled : ∀ m : MeetingActor, items { m with cancelled := true } = items m

namespace McSystem

variable {R : Ring} {mgr : SessionBindingManager} (items : MeetingActor → List String)
  {s : McSystem} {n : ℕ} {m : MeetingActor}

/-- The size of a collection over all live actors. -/
def total (s : McSystem) : ℕ := (Multimap.flat items s.actors).length

theorem total_erase (hm : s.actors.lookup n = some m) :
    (Multimap.flat items (s.actors.erase n)).length + (items m).length = total items s := by
  have h := (Multimap.flat_of_lookup items hm).length_eq
  rw [List.length_append] at h
  rw [total, h]
  omega

theorem total_insert (hm : s.actors.lookup n = some m) (m' : MeetingActor) :
    (Multimap.flat items (s.actors.insert n m')).length + (items m).length =
      total items s + (items m').length := by
  have herase := total_erase items hm
  rw [Multimap.flat_insert_eq, List.length_append]
  omega

theorem total_spawn (hitems : Collects items) (hn : n ∉ s.actors) (meetingId : String)
    (createdAt : ℤ) :
    (Multimap.flat items (s.actors.insert n (MeetingActor.spawn meetingId mgr createdAt))).length =
      total items s := by
  rw [Multimap.flat_insert_of_notMem items hn, hitems.spawn, List.nil_append, total]

/-! ## What a step does -/

/-- The numbers of the actors have been given out. -/
def Numbered (s : McSystem) : Prop := ∀ n ∈ s.actors, n < s.spawned

/-- Two systems with the same actors, but for new ones and for their tokens, and
    the same counters. -/
structure SameCounts (s s' : McSystem) : Prop where
  numbered : Numbered s → Numbered s'
  total : ∀ items, Collects items → total items s' = total items s
  currentParticipants : s'.currentParticipants = s.currentParticipants
  activeConnections : s'.activeConnections = s.activeConnections

theorem SameCounts.refl (s : McSystem) : SameCounts s s := ⟨id, fun _ _ => rfl, rfl, rfl⟩

theorem SameCounts.trans {s t u : McSystem} (h : SameCounts s t) (h' : SameCounts t u) :
    SameCounts s u where
  numbered hs := h'.numbered (h.numbered hs)
  total items hitems := (h'.total items hitems).trans (h.total items hitems)
  currentParticipants := h'.currentParticipants.trans h.currentParticipants
  activeConnections := h'.activeConnections.trans h.activeConnections

theorem SameCounts.withController {s s' : McSystem} (h : SameCounts s s')
    (controller : MeetingController) : SameCounts s { s' with controller } :=
  ⟨h.numbered, h.total, h.currentParticipants, h.activeConnections⟩

theorem mem_insert_of_lookup (hm : s.actors.lookup n = some m) {m' : MeetingActor} {k : ℕ}
    (hk : k ∈ s.actors.insert n m') : k ∈ s.actors := by
  rcases (AList.mem_insert s.actors).mp hk with rfl | hk
  · exact AList.lookup_isSome.mp (by rw [hm]; rfl)
  · exact hk

theorem sameCounts_cancelMeeting (s : McSystem) (meetingId : String) :
    SameCounts s (s.cancelMeeting meetingId) := by
  unfold cancelMeeting
  split
  · exact .refl s
  · rename_i n _
    split
    · exact .refl s
    · rename_i m hm
      refine ⟨fun hs k hk => hs k (mem_insert_of_lookup hm hk), fun items hitems => ?_, rfl, rfl⟩
      have h := total_insert items hm { m with cancelled := true }
      rw [hitems.cancelled] at h
      exact Nat.add_right_cancel h

theorem sameCounts_foldl_cancelMeeting (meetingIds : List String) (s : McSystem) :
    SameCounts s (meetingIds.foldl cancelMeeting s) := by
  induction meetingIds generalizing s with
  | nil => exact .refl s
  | cons meetingId meetingIds ih =>
    exact (sameCounts_cancelMeeting s meetingId).trans (ih (s.cancelMeeting meetingId))

theorem sameCounts_createMeeting (hs : Numbered s) (now : ℕ) (createdAt : ℤ) (meetingId : String) :
    SameCounts s (s.step R mgr (.createMeeting now createdAt meetingId)) := by
  simp only [step]
  split_ifs
  · have hnew : s.spawned ∉ s.actors := fun h => absurd (hs _ h) (Nat.lt_irrefl _)
    refine ⟨fun hs k hk => ?_,
      fun items hitems => total_spawn items hitems hnew meetingId createdAt, rfl, rfl⟩
    rcases (AList.mem_insert s.actors).mp hk with rfl | hk
    · exact Nat.lt_succ_self _
    · exact Nat.lt_succ_of_lt (hs k hk)
  · exact .refl s

theorem sameCounts_removeMeeting (s : McSystem) (meetingId : String) :
    SameCounts s (s.step R mgr (.removeMeeting meetingId)) := by
  simp only [step]
  split_ifs
  · exact (sameCounts_cancelMeeting s meetingId).withController _
  · exact .refl s

/-- What a step does to the actors and the counters. -/
inductive TurnCase (R : Ring) (s : McSystem) : McEvent → McSystem → Prop
  /-- The controller does something, or nobody. -/
  | controller (e : McEvent) (s' : McSystem) (h : SameCounts s s')
      (hmeeting : ∀ n e', e = .meeting n e' → n ∉ s.actors)
      (hlost : ∀ n, e = .lost n → n ∉ s.actors) : TurnCase R s e s'
  | turn (n : ℕ) (e : MeetingEvent) (m : MeetingActor) (hm : s.actors.lookup n = some m)
      (he : e.isShutdown = false) :
      TurnCase R s (.meeting n e)
        { s.count (m.handle R e).effects with actors := s.actors.insert n (m.handle R e).actor }
  /-- The last turn of an actor. -/
  | ended (n now : ℕ) (m : MeetingActor) (hm : s.actors.lookup n = some m) :
      TurnCase R s (.meeting n (.shutdown now))
        ((s.count m.gracefulShutdown.effects).actorEnds n m.meetingId .exited)
  | lost (n : ℕ) (m : MeetingActor) (hm : s.actors.lookup n = some m) :
      TurnCase R s (.lost n) (s.actorEnds n m.meetingId .panicked)

theorem step_turnCase (hs : Numbered s) (e : McEvent) : TurnCase R s e (s.step R mgr e) := by
  cases e with
  | createMeeting now createdAt meetingId =>
    exact .controller _ _ (sameCounts_createMeeting hs now createdAt meetingId) (by simp) (by simp)
  | removeMeeting meetingId =>
    exact .controller _ _ (sameCounts_removeMeeting s meetingId) (by simp) (by simp)
  | checkHealth =>
    exact .controller _ _ ((SameCounts.refl s).withController _) (by simp) (by simp)
  | shutdown => exact .controller _ _ ((SameCounts.refl s).withController _) (by simp) (by simp)
  | cancel => exact .controller _ _ ((SameCounts.refl s).withController _) (by simp) (by simp)
  | stop =>
    exact .controller _ _ ((sameCounts_foldl_cancelMeeting _ s).withController _) (by simp)
      (by simp)
  | meeting n e =>
    simp only [step]
    cases hm : s.actors.lookup n with
    | none =>
      refine .controller _ _ (.refl s) ?_ (by simp)
      rintro n' e' ⟨rfl, rfl⟩
      exact AList.lookup_eq_none.mp hm
    | some m =>
      cases e with
      | shutdown now => exact .ended n now m hm
      | message now draw depth message => exact .turn n _ m hm rfl
      | tick now => exact .turn n _ m hm rfl
      | health now finished => exact .turn n _ m hm rfl
  | lost n =>
    simp only [step]
    cases hm : s.actors.lookup n with
    | none =>
      refine .controller _ _ (.refl s) (by simp) ?_
      rintro n' ⟨rfl⟩
      exact AList.lookup_eq_none.mp hm
    | some m => exact .lost n m hm

theorem TurnCase.numbered {e : McEvent} {s' : McSystem} (h : TurnCase R s e s')
    (hs : Numbered s) : Numbered s' := by
  cases h with
  | controller e s' h _ _ => exact h.numbered hs
  | turn n e m hm he => exact fun k hk => hs k (mem_insert_of_lookup hm hk)
  | ended n now m hm => exact fun k hk => hs k (AList.mem_erase.mp hk).2
  | lost n m hm => exact fun k hk => hs k (AList.mem_erase.mp hk).2

/-! ## Handlers and counters -/

/-- A handler took `told + untold` items out of a collection and lowered the
    counter by `told`. -/
structure Drops (tick : Effect → Option Tick) (items : MeetingActor → List String)
    (m : MeetingActor) (effects : List Effect) (m' : MeetingActor) (told untold : ℕ) : Prop where
  ticks : effects.filterMap tick = List.replicate told .down
  length : (items m').length + told + untold = (items m).length

/-- A handler raised the counter by one for an item that was new or not. -/
structure Adds (tick : Effect → Option Tick) (items : MeetingActor → List String)
    (m : MeetingActor) (effects : List Effect) (m' : MeetingActor) (new : ℕ) : Prop where
  ticks : effects.filterMap tick = [.up]
  length : (items m').length = (items m).length + new
  new_le : new ≤ 1

variable {items} {tick : Effect → Option Tick} {effects effects' : List Effect}
  {m' m'' : MeetingActor} {told untold told' untold' new w : ℕ} {g : Gauge w}

theorem Drops.none (hticks : effects.filterMap tick = []) (hitems : items m' = items m) :
    Drops tick items m effects m' 0 0 :=
  ⟨hticks, congrArg List.length hitems⟩

theorem Drops.trans (h : Drops tick items m effects m' told untold)
    (h' : Drops tick items m' effects' m'' told' untold') :
    Drops tick items m (effects ++ effects') m'' (told + told') (untold + untold') where
  ticks := by rw [List.filterMap_append, h.ticks, h'.ticks, List.replicate_append_replicate]
  length := by
    have hfirst := h.length
    have hsecond := h'.length
    omega

theorem shows_of_drops (hg : g.Shows (total items s)) (hm : s.actors.lookup n = some m)
    (h : Drops tick items m effects m' told untold) :
    (g.run (effects.filterMap tick)).Shows
        (Multimap.flat items (s.actors.insert n m')).length ↔ untold = 0 := by
  rw [h.ticks]
  refine hg.run_down_iff ?_
  have hlength := h.length
  have htotal := total_insert items hm m'
  omega

theorem shows_of_adds (hw : 0 < w) (hg : g.Shows (total items s))
    (hm : s.actors.lookup n = some m) (h : Adds tick items m effects m' new) :
    (g.run (effects.filterMap tick)).Shows
        (Multimap.flat items (s.actors.insert n m')).length ↔
      new = 1 ∧ total items s + 1 < 2 ^ w := by
  rw [h.ticks]
  refine hg.run_up_iff hw ?_ h.new_le
  have hlength := h.length
  have htotal := total_insert items hm m'
  omega

/-- The end of an actor tells no counter. -/
theorem shows_of_ended (hg : g.Shows (total items s)) (hm : s.actors.lookup n = some m) :
    g.Shows (Multimap.flat items (s.actors.erase n)).length ↔ items m = [] := by
  rw [hg.eq_iff, ← List.length_eq_zero_iff]
  have htotal := total_erase items hm
  omega

end McSystem

namespace MeetingActor

@[simp] theorem participantTick_broadcastUpdate (m : MeetingActor) (p : String)
    (update : ParticipantStateUpdate) :
    (m.broadcastUpdate p update).filterMap participantTick = [] :=
  m.filterMap_broadcastUpdate (fun _ _ => rfl) p update

@[simp] theorem connectionTick_broadcastUpdate (m : MeetingActor) (p : String)
    (update : ParticipantStateUpdate) :
    (m.broadcastUpdate p update).filterMap connectionTick = [] :=
  m.filterMap_broadcastUpdate (fun _ _ => rfl) p update

end MeetingActor

theorem run_numbered {R : Ring} {mgr : SessionBindingManager} {h : List (McEvent × Unit)}
    {s : McSystem} (hr : (mcMachine R mgr).Run h s) : s.Numbered := by
  refine Machine.Run.invariant (I := fun _ s => s.Numbered) ?_ ?_ hr
  · exact fun n hn => absurd hn (AList.notMem_empty n)
  · exact fun h s e _ _ hs => (McSystem.step_turnCase hs e).numbered hs

end DarkTower.Mc
