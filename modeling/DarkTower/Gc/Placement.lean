import DarkTower.Gc.MeetingStores
import DarkTower.Lib.Exclusive

/-!
# A meeting in one place

`Placed`: the handlers stored in Redis are those that were sent to the controller
of the row, and no other controller has the meeting. Between the receipt of a
request and the write of the row, the two stores and the controllers do not fit
together. `KeepsPlacement` is the condition under which only one request or call
is there at a time, and `Ordered` is the invariant of the runs that meet it.

* `KeepsPlacement`: a request begins to store only while nobody else has the
  meeting or is about to write it, its call waits for the answer, and the row can
  then be written.
* `Moves.enter`, `Moves.pass`, `Moves.leave`, `Moves.frame`: the ways in which a
  step of a request keeps the invariant.
-/

namespace DarkTower.Gc

open DarkTower.Lib Tables

/-- The controller has begun to handle the request and has not answered it. -/
def RequestPc.busy : RequestPc → Bool
  | .incrementing _ | .writing _ _ | .creating _ | .counting | .reading | .deleting _ => true
  | .sent | .answered _ | .cancelled => false

/-- The controller has accepted the request. -/
def RequestPc.isAccepted : RequestPc → Bool
  | .answered response => response.accepted
  | _ => false

/-- The request waits for its `CreateMeeting`. -/
def RequestPc.isCreating : RequestPc → Bool
  | .creating _ => true
  | _ => false

/-- The request is about to write its handlers. -/
def RequestPc.isWriting : RequestPc → Bool
  | .writing _ _ => true
  | _ => false

/-- The controller that the call is about to write into the row. -/
def CallPc.written : CallPc → Option McCandidate
  | .atomicAssign _ selectedMc => some selectedMc
  | _ => none

/-- The call has its result. -/
def CallPc.isDone : CallPc → Bool
  | .done _ => true
  | _ => false

/-- The statement of `atomic_assign` writes the row: there is none, or its
    controller is not healthy or stale. -/
def Assignable (P : StoresSetting) (t : Tables) (now : ℤ) (controllerId : String) : Prop :=
  (∃ c ∈ t.meetingControllers, c.controllerId = controllerId) ∧
    ∀ r ∈ t.assignment P.meetingId P.region, t.Replaceable now r

instance (P : StoresSetting) (t : Tables) (now : ℤ) (controllerId : String) :
    Decidable (Assignable P t now controllerId) :=
  inferInstanceAs (Decidable (_ ∧ ∀ r ∈ t.assignment P.meetingId P.region, _))

theorem assignRow_of_assignable {P : StoresSetting} {t : Tables} {now : ℤ}
    {controllerId : String} (gcId : String) (h : Assignable P t now controllerId) :
    (t.assignRow now P.meetingId P.region controllerId gcId).2 = .ok (some controllerId) ∧
      ∃ r, (t.assignRow now P.meetingId P.region controllerId gcId).1.assignment P.meetingId
        P.region = some r ∧ r.meetingControllerId = controllerId := by
  have hcase := assignRow_cases t now P.meetingId P.region controllerId gcId
  generalize t.assignRow now P.meetingId P.region controllerId gcId = result at hcase ⊢
  cases hcase with
  | inserted t' hnone hrow => exact ⟨rfl, _, hrow, rfl⟩
  | replaced t' r hold hreplaceable hrow => exact ⟨rfl, _, hrow, rfl⟩
  | kept r hold hnot => exact absurd (h.2 r hold) hnot
  | refused hmissing => exact absurd h.1 hmissing

/-- What can have the meeting in hand: a request, or a call that writes the row. -/
inductive Worker
  | request (request : ℕ)
  | call (call : ℕ)

namespace MeetingStores

variable (P : StoresSetting) (s : MeetingStores)

/-- The controller works on the request, or has accepted it and its call waits
    for the answer. -/
def Works (request : ℕ) (q : McRequest) : Prop :=
  q.pc.busy = true ∨ q.pc.isAccepted = true ∧ s.awaits q.call = some request

instance (request : ℕ) (q : McRequest) : Decidable (s.Works request q) :=
  inferInstanceAs (Decidable (_ ∨ _ ∧ _))

/-- A worker that still writes to one of the three places. -/
def Active : Worker → Prop
  | .request request => ∃ q, s.requests.lookup request = some q ∧ s.Works request q
  | .call call => ∃ c, s.gc.calls.lookup call = some c ∧ c.pc.written ≠ none

/-- No request and no call has the meeting in hand. -/
def NobodyWorks : Prop :=
  (∀ x ∈ s.requests.entries, ¬ s.Works x.1 x.2) ∧ ∀ x ∈ s.gc.calls.entries, x.2.pc.written = none

instance : Decidable s.NobodyWorks :=
  inferInstanceAs (Decidable ((∀ x ∈ s.requests.entries, _) ∧ ∀ x ∈ s.gc.calls.entries, _))

/-- No controller has the meeting. -/
def NobodyLive : Prop := ∀ x ∈ s.servers.entries, P.meetingId ∉ x.2.controller.meetings

instance : Decidable (s.NobodyLive P) :=
  inferInstanceAs (Decidable (∀ x ∈ s.servers.entries, _))

/-- The meeting has an assignment that has not ended. -/
def HasActiveRow : Prop := ∃ r ∈ s.row P, r.endedAt = none

instance : Decidable (s.HasActiveRow P) :=
  inferInstanceAs (Decidable (∃ r ∈ s.row P, _))

/-- Redis has the handlers that were sent to the controller. -/
def StoredFor (controllerId : String) : Prop :=
  ∃ handlers now, s.accepted controllerId = some (handlers, now) ∧
    s.keys.mh = some (P.encode handlers now)

/-- Only the controller of the row has the meeting, and Redis has the handlers
    that were sent to it, unless the meeting is over. -/
def Placed : Prop :=
  (∀ controllerId, s.Live P controllerId →
      ∃ r, s.row P = some r ∧ r.meetingControllerId = controllerId) ∧
    ∀ r, s.row P = some r → s.StoredFor P r.meetingControllerId ∨
      r.endedAt ≠ none ∧ ∀ controllerId, ¬ s.Live P controllerId

/-- All calls have returned. -/
def AllDone : Prop := ∀ x ∈ s.gc.calls.entries, x.2.pc.isDone = true

instance : Decidable s.AllDone :=
  inferInstanceAs (Decidable (∀ x ∈ s.gc.calls.entries, _))

/-- A request whose failure does no harm: it has not stored its assignment in place
    of another, nor created the meeting. -/
def CanGiveUp (q : McRequest) : Prop :=
  (q.pc.isCreating = true → ¬ s.HasActiveRow P) ∧ q.pc ≠ .counting ∧ q.pc.isAccepted = false

instance (q : McRequest) : Decidable (s.CanGiveUp P q) :=
  inferInstanceAs (Decidable (_ ∧ _ ∧ _))

/-- The condition on a step. -/
def KeepsPlacement : StoresEvent → Prop
  | .receive request now => ∀ q ∈ s.requests.lookup request, q.pc = .sent →
      ∀ m ∈ s.servers.lookup q.controllerId, (m.firstPc now q.mhAssignments).busy = true →
        s.NobodyWorks ∧ s.NobodyLive P
  | .redis request => ∀ q ∈ s.requests.lookup request, q.pc.isWriting = true →
      s.awaits q.call = some request ∨ ¬ s.HasActiveRow P
  | .redisFail request executed _ => ∀ q ∈ s.requests.lookup request, q.pc.isWriting = true →
      executed = true → ¬ s.HasActiveRow P
  | .create request _ => ∀ q ∈ s.requests.lookup request, q.pc.isCreating = true →
      ∀ m ∈ s.servers.lookup q.controllerId,
        if Mc.RefusesCreation m.running m.controller P.meetingId then ¬ s.HasActiveRow P
        else s.awaits q.call = some request
  | .cancel request => ∀ q ∈ s.requests.lookup request, q.pc.isAccepted = false →
      s.CanGiveUp P q
  | .rpcError call _ => ∀ request ∈ s.awaits call, ∀ q ∈ s.requests.lookup request,
      s.CanGiveUp P q
  | .gc (.call call (.atomicAssign now)) => ∀ c ∈ s.gc.calls.lookup call,
      ∀ selectedMc ∈ c.pc.written, Assignable P s.gc.tables now selectedMc.controllerId
  | .gc (.call call (.fail now executed)) => ∀ c ∈ s.gc.calls.lookup call,
      ∀ selectedMc ∈ c.pc.written, executed = true ∧
        Assignable P s.gc.tables now selectedMc.controllerId
  | _ => True

instance (e : StoresEvent) : Decidable (s.KeepsPlacement P e) :=
  match e with
  | .receive request now => inferInstanceAs (Decidable (∀ q ∈ s.requests.lookup request,
      q.pc = .sent → ∀ m ∈ s.servers.lookup q.controllerId,
        (m.firstPc now q.mhAssignments).busy = true → _ ∧ _))
  | .redis request => inferInstanceAs (Decidable (∀ q ∈ s.requests.lookup request,
      q.pc.isWriting = true → _ ∨ _))
  | .redisFail request executed _ => inferInstanceAs (Decidable (∀ q ∈ s.requests.lookup request,
      q.pc.isWriting = true → executed = true → _))
  | .create request _ => inferInstanceAs (Decidable (∀ q ∈ s.requests.lookup request,
      q.pc.isCreating = true → ∀ m ∈ s.servers.lookup q.controllerId,
        if Mc.RefusesCreation m.running m.controller P.meetingId then ¬ s.HasActiveRow P
        else s.awaits q.call = some request))
  | .cancel request => inferInstanceAs (Decidable (∀ q ∈ s.requests.lookup request,
      q.pc.isAccepted = false → s.CanGiveUp P q))
  | .rpcError call _ => inferInstanceAs (Decidable (∀ request ∈ s.awaits call,
      ∀ q ∈ s.requests.lookup request, s.CanGiveUp P q))
  | .gc (.call call (.atomicAssign now)) => inferInstanceAs (Decidable
      (∀ c ∈ s.gc.calls.lookup call, ∀ selectedMc ∈ c.pc.written,
        Assignable P s.gc.tables now selectedMc.controllerId))
  | .gc (.call call (.fail now executed)) => inferInstanceAs (Decidable
      (∀ c ∈ s.gc.calls.lookup call, ∀ selectedMc ∈ c.pc.written, executed = true ∧
        Assignable P s.gc.tables now selectedMc.controllerId))
  | .gc (.start _ _) | .gc (.other _) | .gc (.call _ (.getHealthyAssignment _))
  | .gc (.call _ (.selectMhs _ _ _)) | .gc (.call _ (.getCandidateMcs _ _ _))
  | .gc (.call _ (.assignMeeting _)) | .gc (.call _ (.getCurrentAssignment _)) | .send _ _ | .count _
  | .reply _ | .serverChanges _ _ => inferInstanceAs (Decidable True)

/-- Only this controller has the meeting, and Redis has the handlers that were
    sent to it. -/
def OwnedBy (controllerId : String) : Prop :=
  (∀ controllerId', s.Live P controllerId' → controllerId' = controllerId) ∧
    s.StoredFor P controllerId

/-- What is true while a request is worked on. -/
def RequestHolds (request : ℕ) (q : McRequest) : Prop :=
  match q.pc with
  | .incrementing _ | .writing _ _ => (∀ controllerId, ¬ s.Live P controllerId) ∧ s.Placed P
  | .creating now =>
    (∀ controllerId, ¬ s.Live P controllerId) ∧
      s.keys.mh = some (P.encode q.mhAssignments now) ∧
        (s.awaits q.call = some request ∨ ¬ s.HasActiveRow P)
  | .reading | .deleting _ => (∀ controllerId, ¬ s.Live P controllerId) ∧ ¬ s.HasActiveRow P
  | .counting | .answered _ => s.OwnedBy P q.controllerId ∧ s.awaits q.call = some request
  | .sent | .cancelled => True

/-- What is true while a request or a call has the meeting in hand. -/
def Holds : Worker → Prop
  | .request request => ∀ q, s.requests.lookup request = some q → s.RequestHolds P request q
  | .call call => ∀ c, s.gc.calls.lookup call = some c →
      ∀ selectedMc, c.pc.written = some selectedMc → s.OwnedBy P selectedMc.controllerId

/-- A call that waits for the answer to a request has sent it to the controller it
    has selected. -/
def Linked : Prop :=
  ∀ call request, s.awaits call = some request →
    ∃ q gcId loop selectedMc, s.requests.lookup request = some q ∧ q.call = call ∧
      s.gc.calls.lookup call = some ⟨gcId, .assignMeeting loop selectedMc⟩ ∧
        q.controllerId = selectedMc.controllerId

/-- The invariant of the runs that keep the placement. -/
structure Ordered : Prop where
  linked : s.Linked
  exclusive : Exclusive s.Active (s.Holds P) (s.Placed P)

variable {P s}

/-! ## Readings -/

theorem nobodyWorks_iff : s.NobodyWorks ↔ ∀ w, ¬ s.Active w := by
  constructor
  · rintro ⟨hrequests, hcalls⟩ w hw
    cases w with
    | request request =>
      obtain ⟨q, hq, hworks⟩ := hw
      exact hrequests _ (AList.mem_lookup_iff.mp hq) hworks
    | call call =>
      obtain ⟨c, hc, hwritten⟩ := hw
      exact hwritten (hcalls _ (AList.mem_lookup_iff.mp hc))
  · intro h
    refine ⟨fun x hx hworks => ?_, fun x hx => ?_⟩
    · exact h (.request x.1) ⟨x.2, AList.mem_lookup_iff.mpr hx, hworks⟩
    · by_contra hwritten
      exact h (.call x.1) ⟨x.2, AList.mem_lookup_iff.mpr hx, hwritten⟩

theorem nobodyLive_iff : s.NobodyLive P ↔ ∀ controllerId, ¬ s.Live P controllerId := by
  constructor
  · rintro h controllerId ⟨m, hm, hmem⟩
    exact h _ (AList.mem_lookup_iff.mp hm) hmem
  · intro h x hx hmem
    exact h x.1 ⟨x.2, AList.mem_lookup_iff.mpr hx, hmem⟩

/-- A meeting that is over is placed. -/
theorem placed_of_notLive (hlive : ∀ controllerId, ¬ s.Live P controllerId)
    (hrow : ¬ s.HasActiveRow P) : s.Placed P :=
  ⟨fun controllerId h => absurd h (hlive controllerId),
    fun r hr => .inr ⟨fun hactive => hrow ⟨r, hr, hactive⟩, hlive⟩⟩

/-- A meeting whose row names its owner is placed. -/
theorem placed_of_ownedBy {controllerId : String} (h : s.OwnedBy P controllerId) {r : AssignmentRow}
    (hrow : s.row P = some r) (hid : r.meetingControllerId = controllerId) : s.Placed P := by
  refine ⟨fun controllerId' hlive => ⟨r, hrow, ?_⟩, fun r' hr' => .inl ?_⟩
  · rw [hid, h.1 controllerId' hlive]
  · rw [hrow] at hr'
    rw [← Option.some.inj hr', hid]
    exact h.2

/-- A request that is worked on and can be given up leaves the meeting placed. -/
theorem RequestHolds.placed {request : ℕ} {q : McRequest} (h : s.RequestHolds P request q)
    (hbusy : q.pc.busy = true) (hgive : s.CanGiveUp P q) : s.Placed P := by
  obtain ⟨hcreating, hcounting, _⟩ := hgive
  unfold RequestHolds at h
  split at h
  · exact h.2
  · exact h.2
  · rename_i now hpc
    exact placed_of_notLive h.1 (hcreating (by rw [hpc]; rfl))
  · exact placed_of_notLive h.1 h.2
  · exact placed_of_notLive h.1 h.2
  · rename_i hpc
    exact absurd hpc hcounting
  all_goals
    rename_i hpc
    rw [hpc] at hbusy
    cases hbusy

/-- A request that no call waits for can be given up. -/
theorem RequestHolds.canGiveUp {request : ℕ} {q : McRequest} (h : s.RequestHolds P request q)
    (hnobody : s.awaits q.call ≠ some request) : s.CanGiveUp P q := by
  refine ⟨fun hcreating => ?_, fun hpc => ?_, ?_⟩
  · cases hpc : q.pc with
    | creating now =>
      rw [RequestHolds, hpc] at h
      exact h.2.2.resolve_left hnobody
    | _ => rw [hpc] at hcreating; cases hcreating
  · rw [RequestHolds, hpc] at h
    exact absurd h.2 hnobody
  · cases hpc : q.pc with
    | answered response =>
      rw [RequestHolds, hpc] at h
      exact absurd h.2 hnobody
    | _ => rfl

/-! ## Frames -/

/-- The row, the controllers that have the meeting and the assignment in Redis
    are the same. -/
structure SameStores (P : StoresSetting) (s s' : MeetingStores) : Prop where
  row : s'.row P = s.row P
  live : ∀ controllerId, s'.Live P controllerId ↔ s.Live P controllerId
  accepted : s'.accepted = s.accepted
  mh : s'.keys.mh = s.keys.mh

namespace SameStores

variable {s' : MeetingStores}

theorem placed (h : SameStores P s s') (hs : s.Placed P) : s'.Placed P := by
  unfold Placed StoredFor at hs ⊢
  simp only [h.row, h.live, h.accepted, h.mh]
  exact hs

theorem ownedBy (h : SameStores P s s') {controllerId : String} (hs : s.OwnedBy P controllerId) :
    s'.OwnedBy P controllerId := by
  unfold OwnedBy StoredFor at hs ⊢
  simp only [h.live, h.accepted, h.mh]
  exact hs

theorem hasActiveRow (h : SameStores P s s') : s'.HasActiveRow P ↔ s.HasActiveRow P := by
  unfold HasActiveRow
  rw [h.row]

theorem requestHolds (h : SameStores P s s') {request : ℕ} {q : McRequest}
    (hawaits : s.awaits q.call = some request → s'.awaits q.call = some request ∨
      s.CanGiveUp P q ∧ q.pc.busy = true)
    (hs : s.RequestHolds P request q) : s'.RequestHolds P request q := by
  have hnone : (∀ controllerId, ¬ s.Live P controllerId) → ∀ controllerId, ¬ s'.Live P controllerId :=
    fun hnone controllerId hlive => hnone controllerId ((h.live controllerId).mp hlive)
  unfold RequestHolds at hs ⊢
  split
  · rename_i hpc
    rw [hpc] at hs
    exact ⟨hnone hs.1, h.placed hs.2⟩
  · rename_i hpc
    rw [hpc] at hs
    exact ⟨hnone hs.1, h.placed hs.2⟩
  · rename_i hpc
    rw [hpc] at hs
    rw [h.mh, h.hasActiveRow]
    refine ⟨hnone hs.1, hs.2.1, hs.2.2.elim (fun hthis => ?_) .inr⟩
    exact (hawaits hthis).imp_right fun hgive => hgive.1.1 (by rw [hpc]; rfl)
  · rename_i hpc
    rw [hpc] at hs
    exact ⟨hnone hs.1, fun hrow => hs.2 (h.hasActiveRow.mp hrow)⟩
  · rename_i hpc
    rw [hpc] at hs
    exact ⟨hnone hs.1, fun hrow => hs.2 (h.hasActiveRow.mp hrow)⟩
  · rename_i hpc
    rw [hpc] at hs
    exact ⟨h.ownedBy hs.1, (hawaits hs.2).resolve_right fun hgive => hgive.1.2.1 hpc⟩
  · rename_i hpc
    rw [hpc] at hs
    refine ⟨h.ownedBy hs.1, (hawaits hs.2).resolve_right fun hgive => ?_⟩
    rw [hpc] at hgive
    cases hgive.2
  · trivial
  · trivial

/-- A call that is about to write was about to write the same. -/
theorem holds_call (h : SameStores P s s') {call : ℕ}
    (hwriting : ∀ c, c.pc.written ≠ none → s'.gc.calls.lookup call = some c →
      s.gc.calls.lookup call = some c) (hs : s.Holds P (.call call)) : s'.Holds P (.call call) := by
  intro c hc selectedMc hwritten
  have hold := hwriting c (by rw [hwritten]; exact Option.some_ne_none _) hc
  exact h.ownedBy (hs c hold selectedMc hwritten)

end SameStores

/-- The same calls are about to write. -/
theorem active_call_iff {s' : MeetingStores} {call : ℕ}
    (hwriting : ∀ c, c.pc.written ≠ none →
      (s'.gc.calls.lookup call = some c ↔ s.gc.calls.lookup call = some c)) :
    s'.Active (.call call) ↔ s.Active (.call call) := by
  constructor
  · rintro ⟨c, hc, hwritten⟩
    exact ⟨c, (hwriting c hwritten).mp hc, hwritten⟩
  · rintro ⟨c, hc, hwritten⟩
    exact ⟨c, (hwriting c hwritten).mpr hc, hwritten⟩

/-- A controller that keeps the meeting, or keeps being without it. -/
theorem live_insert_iff {controllerId : String} {m : McServer} {s' : MeetingStores}
    (hservers : s'.servers = s.servers.insert controllerId m)
    (hm : P.meetingId ∈ m.controller.meetings ↔ s.Live P controllerId) (controllerId' : String) :
    s'.Live P controllerId' ↔ s.Live P controllerId' := by
  unfold Live
  rw [hservers]
  by_cases heq : controllerId' = controllerId
  · rw [heq, AList.lookup_insert]
    unfold Live at hm
    rw [← hm]
    simp
  · rw [AList.lookup_insert_ne heq]

theorem live_iff_of_lookup {controllerId : String} {m : McServer}
    (h : s.servers.lookup controllerId = some m) :
    s.Live P controllerId ↔ P.meetingId ∈ m.controller.meetings := by
  unfold Live
  rw [h]
  simp

/-! ## Steps of a request -/

/-- A step of a request, which changes where it stands. -/
structure Moves (s s' : MeetingStores) (request : ℕ) (q : McRequest) (pc : RequestPc) : Prop where
  old : s.requests.lookup request = some q
  new : s'.requests = s.requests.insert request { q with pc }
  awaits : s'.awaits = s.awaits
  calls : s'.gc.calls = s.gc.calls

namespace Moves

variable {s' : MeetingStores} {request : ℕ} {q : McRequest} {pc : RequestPc}

theorem lookup_new (h : Moves s s' request q pc) :
    s'.requests.lookup request = some { q with pc } := by
  rw [h.new, AList.lookup_insert]

theorem works_iff (h : Moves s s' request q pc) :
    s'.Active (.request request) ↔ s'.Works request { q with pc } := by
  show (∃ q', s'.requests.lookup request = some q' ∧ s'.Works request q') ↔ _
  rw [h.lookup_new]
  simp

theorem active_iff (h : Moves s s' request q pc) {w : Worker} (hw : w ≠ .request request) :
    s'.Active w ↔ s.Active w := by
  cases w with
  | request request' =>
    have hne : request' ≠ request := fun heq => hw (by rw [heq])
    show (∃ q', s'.requests.lookup request' = some q' ∧ s'.Works request' q') ↔ _
    rw [h.new, AList.lookup_insert_ne hne]
    unfold Works
    rw [h.awaits]
    rfl
  | call call =>
    show (∃ c, s'.gc.calls.lookup call = some c ∧ c.pc.written ≠ none) ↔ _
    rw [h.calls]
    rfl

theorem linked (h : Moves s s' request q pc) (hs : s.Linked) : s'.Linked := by
  intro call request' hawaits
  rw [h.awaits] at hawaits
  obtain ⟨q', gcId, loop, selectedMc, hq', hcall, hpc, hid⟩ := hs call request' hawaits
  rw [h.calls]
  by_cases heq : request' = request
  · subst heq
    rw [h.old] at hq'
    obtain rfl := Option.some.inj hq'
    exact ⟨_, gcId, loop, selectedMc, h.lookup_new, hcall, hpc, hid⟩
  · refine ⟨q', gcId, loop, selectedMc, ?_, hcall, hpc, hid⟩
    rw [h.new, AList.lookup_insert_ne heq]
    exact hq'

/-- The controller begins to handle the request. -/
theorem enter (h : Moves s s' request q pc) (hs : Ordered P s) (hfree : ∀ w, ¬ s.Active w)
    (hpc : pc.busy = true) (hholds : s.Placed P → s'.RequestHolds P request { q with pc }) :
    Ordered P s' := by
  refine ⟨h.linked hs.linked, hs.exclusive.enter hfree (h.works_iff.mpr (.inl hpc)) ?_ ?_⟩
  · intro w hw
    by_cases heq : w = .request request
    · exact .inl heq
    · exact .inr ((h.active_iff heq).mp hw)
  · intro hplaced q' hq'
    rw [h.lookup_new] at hq'
    obtain rfl := Option.some.inj hq'
    exact hholds hplaced

/-- The request is worked on before and after. -/
theorem pass (h : Moves s s' request q pc) (hs : Ordered P s) (hbusy : q.pc.busy = true)
    (hpc : s'.Works request { q with pc })
    (hholds : s.RequestHolds P request q → s'.RequestHolds P request { q with pc }) :
    Ordered P s' := by
  refine ⟨h.linked hs.linked, hs.exclusive.pass (i := .request request) ⟨q, h.old, .inl hbusy⟩
    (h.works_iff.mpr hpc) ?_ ?_⟩
  · intro w hw
    by_cases heq : w = .request request
    · exact .inl heq
    · exact .inr ⟨(h.active_iff heq).mp hw, heq⟩
  · intro hold q' hq'
    rw [h.lookup_new] at hq'
    obtain rfl := Option.some.inj hq'
    exact hholds (hold q h.old)

/-- The request is no longer worked on. -/
theorem leave (h : Moves s s' request q pc) (hs : Ordered P s) (hbusy : q.pc.busy = true)
    (hpc : ¬ s'.Works request { q with pc }) (hquiet : s.RequestHolds P request q → s'.Placed P) :
    Ordered P s' := by
  refine ⟨h.linked hs.linked, hs.exclusive.leave (i := .request request) ⟨q, h.old, .inl hbusy⟩ ?_
    fun hold => hquiet (hold q h.old)⟩
  intro w hw
  by_cases heq : w = .request request
  · rw [heq] at hw
    exact absurd (h.works_iff.mp hw) hpc
  · exact ⟨(h.active_iff heq).mp hw, heq⟩

/-- The request was not worked on and is not afterwards. -/
theorem frame (h : Moves s s' request q pc) (hs : Ordered P s) (hidle : ¬ s.Works request q)
    (hpc : ¬ s'.Works request { q with pc })
    (hholds : ∀ w, s.Holds P w → w ≠ .request request → s'.Holds P w)
    (hquiet : s.Placed P → s'.Placed P) : Ordered P s' := by
  have hold : ¬ s.Active (.request request) := by
    rintro ⟨q', hq', hworks⟩
    rw [h.old] at hq'
    obtain rfl := Option.some.inj hq'
    exact hidle hworks
  refine ⟨h.linked hs.linked, hs.exclusive.frame (fun w => ?_) (fun w hw hholds' => ?_) hquiet⟩
  · by_cases heq : w = .request request
    · rw [heq]
      exact iff_of_false (mt h.works_iff.mp hpc) hold
    · exact h.active_iff heq
  · exact hholds w hholds' fun heq => hold (heq ▸ hw)

end Moves

/-- Where a request stands, on its own. -/
theorem moves_setRequest {request : ℕ} {q : McRequest} (pc : RequestPc)
    (hq : s.requests.lookup request = some q) :
    Moves s (s.setRequest request { q with pc }) request q pc := ⟨hq, rfl, rfl, rfl⟩

theorem not_works_rejected {request : ℕ} {q : McRequest} {reason : Mc.RejectionReason} :
    ¬ s.Works request { q with pc := .answered ⟨false, reason⟩ } := by
  rintro (hbusy | ⟨haccepted, _⟩)
  · cases hbusy
  · cases haccepted

/-- The other workers hold what they held. -/
theorem holds_setRequest {request : ℕ} {q : McRequest} {w : Worker} (hw : w ≠ .request request)
    (h : s.Holds P w) : (s.setRequest request q).Holds P w := by
  cases w with
  | request request' =>
    intro q' hq'
    have hne : request' ≠ request := fun heq => hw (by rw [heq])
    rw [setRequest, AList.lookup_insert_ne hne] at hq'
    exact h q' hq'
  | call call => exact h

/-! ### Redis -/

/-- What a Redis command of a request does to the request and the assignment. -/
inductive CommandCase (s : MeetingStores) (P : StoresSetting) (q : McRequest) :
    Mc.Redis.Waiting → Prop
  | incrementing (now : ℕ) (hpc : q.pc = .incrementing now) :
      CommandCase s P q (.storeIncrement (P.encode q.mhAssignments now))
  | writing (now generation : ℕ) (hpc : q.pc = .writing now generation) :
      CommandCase s P q (.storeWrite generation (P.encode q.mhAssignments now))
  | reading (hpc : q.pc = .reading) : CommandCase s P q .deleteGet
  | deleting (generation : ℕ) (hpc : q.pc = .deleting generation) :
      CommandCase s P q (.deleteFenced generation)

theorem command_cases {q : McRequest} {waiting : Mc.Redis.Waiting}
    (h : q.command P.encode = some waiting) : CommandCase s P q waiting := by
  unfold McRequest.command at h
  split at h
  · rename_i now hpc
    obtain rfl := Option.some.inj h
    exact .incrementing now hpc
  · rename_i now generation hpc
    obtain rfl := Option.some.inj h
    exact .writing now generation hpc
  · rename_i hpc
    obtain rfl := Option.some.inj h
    exact .reading hpc
  · rename_i generation hpc
    obtain rfl := Option.some.inj h
    exact .deleting generation hpc
  · cases h

/-- A fenced write stores the text and succeeds, or does nothing and fails. -/
theorem fencedWrite_cases (keys : Mc.Redis.MeetingKeys) (generation : ℕ) (json : String) :
    ((Mc.Redis.fencedWrite keys (.number generation) json).1.mh = some json ∧
        (Mc.Redis.fencedWrite keys (.number generation) json).2 = 1) ∨
      (Mc.Redis.fencedWrite keys (.number generation) json).1 = keys ∧
        (Mc.Redis.fencedWrite keys (.number generation) json).2 ≠ 1 := by
  have hcase := Mc.Redis.fenced_cases keys generation
    (fun expectedGen => (keys.setGeneration expectedGen).setMh json)
    fun expectedGen => (keys.setGeneration expectedGen).setMh json
  unfold Mc.Redis.fencedWrite
  generalize Mc.Redis.fenced _ _ _ _ = r at hcase
  cases hcase with
  | absent => exact .inl ⟨rfl, rfl⟩
  | accept => exact .inl ⟨rfl, rfl⟩
  | stale => exact .inr ⟨rfl, by simp⟩
  | malformed => exact .inr ⟨rfl, by simp⟩

section

variable {request : ℕ} {q : McRequest} {waiting : Mc.Redis.Waiting}

theorem Ordered.ran (hs : Ordered P s) (hq : s.requests.lookup request = some q)
    (hcommand : q.command P.encode = some waiting) (hcond : s.KeepsPlacement P (.redis request)) :
    Ordered P { s.setRequest request { q with pc := q.pc.next (waiting.run P.server s.keys).2.2 }
      with keys := (waiting.run P.server s.keys).1 } := by
  have hmoves : ∀ pc keys, Moves s { s.setRequest request { q with pc } with keys } request q pc :=
    fun pc keys => ⟨hq, rfl, rfl, rfl⟩
  cases command_cases (s := s) hcommand with
  | incrementing now hpc =>
    refine (hmoves _ _).pass hs (by rw [hpc]; rfl) (.inl (by rw [hpc]; rfl)) fun hold => ?_
    unfold RequestHolds at hold ⊢
    rw [hpc] at hold
    simp only [hpc]
    exact ⟨hold.1, SameStores.placed (s := s) ⟨rfl, fun _ => Iff.rfl, rfl, rfl⟩ hold.2⟩
  | writing now generation hpc =>
    have hrow := hcond q hq (by rw [hpc]; rfl)
    rcases fencedWrite_cases s.keys generation (P.encode q.mhAssignments now) with
      ⟨hmh, hresult⟩ | ⟨hkeys, hresult⟩
    · have hnext : q.pc.next ((Mc.Redis.Waiting.storeWrite generation
          (P.encode q.mhAssignments now)).run P.server s.keys).2.2 = .creating now := by
        simp [Mc.Redis.Waiting.run, Mc.Redis.writeResult, hresult, hpc, RequestPc.next]
      rw [hnext]
      refine (hmoves _ _).pass hs (by rw [hpc]; rfl) (.inl rfl) fun hold => ?_
      unfold RequestHolds at hold
      rw [hpc] at hold
      exact ⟨hold.1, hmh, hrow⟩
    · have hnext : q.pc.next ((Mc.Redis.Waiting.storeWrite generation
          (P.encode q.mhAssignments now)).run P.server s.keys).2.2 =
            .answered ⟨false, .unhealthy⟩ := by
        simp only [Mc.Redis.Waiting.run, Mc.Redis.writeResult, if_neg hresult, hpc]
        split_ifs <;> rfl
      rw [hnext]
      refine (hmoves _ _).leave hs (by rw [hpc]; rfl) not_works_rejected fun hold => ?_
      unfold RequestHolds at hold
      rw [hpc] at hold
      exact SameStores.placed (s := s) ⟨rfl, fun _ => Iff.rfl, rfl, congrArg _ hkeys⟩ hold.2
  | reading hpc =>
    refine (hmoves _ _).pass hs (by rw [hpc]; rfl) (.inl (by rw [hpc]; rfl)) fun hold => ?_
    unfold RequestHolds at hold ⊢
    rw [hpc] at hold
    simp only [hpc]
    exact hold
  | deleting generation hpc =>
    have hnext : ∀ result, q.pc.next result = .answered ⟨false, .unhealthy⟩ := by
      intro result
      rw [hpc]
      rfl
    rw [hnext]
    refine (hmoves _ _).leave hs (by rw [hpc]; rfl) not_works_rejected fun hold => ?_
    unfold RequestHolds at hold
    rw [hpc] at hold
    exact placed_of_notLive hold.1 hold.2

theorem Ordered.commandFailed (hs : Ordered P s) (hq : s.requests.lookup request = some q)
    {executed : Bool} {error : String} (hcommand : q.command P.encode = some waiting)
    (hcond : s.KeepsPlacement P (.redisFail request executed error)) :
    Ordered P { s.setRequest request { q with pc := .answered ⟨false, .unhealthy⟩ } with
      keys := if executed then (waiting.run P.server s.keys).1 else s.keys } := by
  have hmoves : ∀ keys, Moves s { s.setRequest request
      { q with pc := .answered ⟨false, .unhealthy⟩ } with keys } request q
        (.answered ⟨false, .unhealthy⟩) := fun keys => ⟨hq, rfl, rfl, rfl⟩
  cases command_cases (s := s) hcommand with
  | incrementing now hpc =>
    refine (hmoves _).leave hs (by rw [hpc]; rfl) not_works_rejected fun hold => ?_
    unfold RequestHolds at hold
    rw [hpc] at hold
    refine SameStores.placed (s := s) ⟨rfl, fun _ => Iff.rfl, rfl, ?_⟩ hold.2
    cases executed <;> rfl
  | writing now generation hpc =>
    refine (hmoves _).leave hs (by rw [hpc]; rfl) not_works_rejected fun hold => ?_
    unfold RequestHolds at hold
    rw [hpc] at hold
    cases executed with
    | false => exact SameStores.placed (s := s) ⟨rfl, fun _ => Iff.rfl, rfl, rfl⟩ hold.2
    | true => exact placed_of_notLive hold.1 (hcond q hq (by rw [hpc]; rfl) rfl)
  | reading hpc =>
    refine (hmoves _).leave hs (by rw [hpc]; rfl) not_works_rejected fun hold => ?_
    unfold RequestHolds at hold
    rw [hpc] at hold
    exact placed_of_notLive hold.1 hold.2
  | deleting generation hpc =>
    refine (hmoves _).leave hs (by rw [hpc]; rfl) not_works_rejected fun hold => ?_
    unfold RequestHolds at hold
    rw [hpc] at hold
    exact placed_of_notLive hold.1 hold.2

end

/-! ### The other steps of a request -/

section

variable {request : ℕ} {q : McRequest}

theorem Ordered.refused (hs : Ordered P s) (hq : s.requests.lookup request = some q)
    (hpc : q.pc = .sent) {response : Mc.AssignMeetingWithMhResponse}
    (hresponse : response.accepted = false) :
    Ordered P (s.setRequest request { q with pc := .answered response }) := by
  refine (moves_setRequest _ hq).frame hs ?_ ?_ (fun w hw hne => holds_setRequest hne hw) fun h => h
  · rintro (hbusy | ⟨haccepted, _⟩)
    · rw [hpc] at hbusy
      cases hbusy
    · rw [hpc] at haccepted
      cases haccepted
  · rintro (hbusy | ⟨haccepted, _⟩)
    · cases hbusy
    · have hfalse : response.accepted = true := haccepted
      rw [hresponse] at hfalse
      cases hfalse

theorem Ordered.started (hs : Ordered P s) {now : ℕ} {m : McServer}
    (hq : s.requests.lookup request = some q) (hpc : q.pc = .sent)
    (hserver : s.servers.lookup q.controllerId = some m)
    (hfirst : m.firstPc now q.mhAssignments = .incrementing now)
    (hcond : s.KeepsPlacement P (.receive request now)) :
    Ordered P (s.setRequest request { q with pc := .incrementing now }) := by
  obtain ⟨hfree, hlive⟩ := hcond q hq hpc m hserver (by rw [hfirst]; rfl)
  exact (moves_setRequest _ hq).enter hs (nobodyWorks_iff.mp hfree) rfl
    fun hplaced => ⟨nobodyLive_iff.mp hlive, hplaced⟩

theorem Ordered.created (hs : Ordered P s) {now storedAt : ℕ} {m : McServer}
    (hq : s.requests.lookup request = some q) (hpc : q.pc = .creating storedAt)
    (hserver : s.servers.lookup q.controllerId = some m)
    (hcreates : ¬ Mc.RefusesCreation m.running m.controller P.meetingId)
    (hcond : s.KeepsPlacement P (.create request now)) (m' : McServer) :
    Ordered P { s.setRequest request { q with pc := .counting } with
      servers := s.servers.insert q.controllerId m'
      accepted := Function.update s.accepted q.controllerId (some (q.mhAssignments, storedAt)) } := by
  have hawaits := hcond q hq (by rw [hpc]; rfl) m hserver
  rw [if_neg hcreates] at hawaits
  refine Moves.pass ⟨hq, rfl, rfl, rfl⟩ hs (by rw [hpc]; rfl) (.inl rfl) fun hold => ?_
  unfold RequestHolds at hold
  rw [hpc] at hold
  obtain ⟨hnone, hmh, _⟩ := hold
  refine ⟨⟨fun controllerId hlive => ?_, q.mhAssignments, storedAt, ?_, hmh⟩, hawaits⟩
  · by_contra hne
    obtain ⟨m₁, hm₁, hmem⟩ := hlive
    refine hnone controllerId ⟨m₁, ?_, hmem⟩
    rw [← AList.lookup_insert_ne hne]
    exact hm₁
  · exact Function.update_self ..

theorem Ordered.creationRefused (hs : Ordered P s) {now storedAt : ℕ} {m : McServer}
    (hq : s.requests.lookup request = some q) (hpc : q.pc = .creating storedAt)
    (hserver : s.servers.lookup q.controllerId = some m)
    (hrefuses : Mc.RefusesCreation m.running m.controller P.meetingId)
    (hcond : s.KeepsPlacement P (.create request now)) :
    Ordered P { s.setRequest request { q with pc := .reading } with
      servers := s.servers.insert q.controllerId m } := by
  have hrow := hcond q hq (by rw [hpc]; rfl) m hserver
  rw [if_pos hrefuses] at hrow
  refine Moves.pass ⟨hq, rfl, rfl, rfl⟩ hs (by rw [hpc]; rfl) (.inl rfl) fun hold => ?_
  unfold RequestHolds at hold
  rw [hpc] at hold
  refine ⟨fun controllerId hlive => hold.1 controllerId ?_, hrow⟩
  exact (live_insert_iff rfl (live_iff_of_lookup hserver).symm controllerId).mp hlive

theorem Ordered.counted (hs : Ordered P s) {m : McServer} (hq : s.requests.lookup request = some q)
    (hpc : q.pc = .counting) (hserver : s.servers.lookup q.controllerId = some m) :
    Ordered P { s.setRequest request { q with pc := .answered ⟨true, .unspecified⟩ } with
      servers := s.servers.insert q.controllerId
        { m with service := m.service.countMeeting } } := by
  have hcounting := (hs.exclusive.whileActive (.request request)
    ⟨q, hq, .inl (by rw [hpc]; rfl)⟩) q hq
  unfold RequestHolds at hcounting
  rw [hpc] at hcounting
  refine Moves.pass ⟨hq, rfl, rfl, rfl⟩ hs (by rw [hpc]; rfl) (.inr ⟨rfl, hcounting.2⟩) fun _ => ?_
  refine ⟨?_, hcounting.2⟩
  apply SameStores.ownedBy (s := s) ?_ hcounting.1
  exact ⟨rfl, live_insert_iff (m := { m with service := m.service.countMeeting }) rfl
    (live_iff_of_lookup hserver).symm, rfl, rfl⟩

theorem Ordered.cancelled (hs : Ordered P s) (hq : s.requests.lookup request = some q)
    (hpc : ∀ response, q.pc ≠ .answered response) (hcond : s.KeepsPlacement P (.cancel request)) :
    Ordered P (s.setRequest request { q with pc := .cancelled }) := by
  have hidle : ¬ (s.setRequest request { q with pc := .cancelled }).Works request
      { q with pc := .cancelled } := by
    rintro (hbusy | ⟨haccepted, _⟩)
    · cases hbusy
    · cases haccepted
  have hrejected : q.pc.isAccepted = false := by
    cases hpc' : q.pc with
    | answered response => exact absurd hpc' (hpc response)
    | _ => rfl
  by_cases hbusy : q.pc.busy = true
  · exact (moves_setRequest _ hq).leave hs hbusy hidle fun hold =>
      hold.placed hbusy (hcond q hq hrejected)
  · refine (moves_setRequest _ hq).frame hs ?_ hidle (fun w hw hne => holds_setRequest hne hw)
      fun h => h
    rintro (hbusy' | ⟨haccepted, _⟩)
    · exact hbusy hbusy'
    · rw [hrejected] at haccepted
      cases haccepted

end

end MeetingStores

end DarkTower.Gc
