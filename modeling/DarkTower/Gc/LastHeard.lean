import DarkTower.Gc.AssignMeeting
import Mathlib.Data.Set.Card

/-!
# Controllers are asked on the strength of their last report

What the Global Controllers last heard from a Meeting Controller, by a registration
(`register_mc`) or a heartbeat (`update_heartbeat`), and the candidates that
`get_candidate_mcs` finds in `meeting_controllers`, which the health checker writes too.

* `Agrees.step`: a row says what was last heard, or that the health checker marked it.
* `candidates_iff_of_run`: the candidates are controllers last heard to be healthy with room,
  in the region, within the last 30 seconds, and all of these if they are at most five.
* `asked_of_run`: whatever calls and statements interleave, a call asks only controllers that
  were so when it queried.
-/

namespace DarkTower.Gc

open DarkTower.Lib Tables

/-! ## The last report -/

/-- What was last heard from a controller. -/
structure Heard where
  heardAt : ℤ
  healthStatus : HealthStatus
  currentMeetings : ℤ
  registration : Registration
deriving DecidableEq

/-- What was last heard from a controller along some statements, newest first. Heartbeats of
    controllers that have not registered go nowhere. -/
def lastHeard : List PlacementEvent → String → Option Heard
  | [], _ => none
  | .registerMc now registration :: es, id =>
    if registration.id = id then
      some ⟨now, .pending, ((lastHeard es id).map (·.currentMeetings)).getD 0, registration⟩
    else lastHeard es id
  | .updateHeartbeat now controllerId currentMeetings _ healthStatus :: es, id =>
    if controllerId = id then
      (lastHeard es id).map fun x => { x with
        heardAt := now
        healthStatus := healthStatus
        currentMeetings := currentMeetings }
    else lastHeard es id
  | _ :: es, id => lastHeard es id

/-- The health checker looked when the controller was silent for longer than its threshold. -/
def MissedIn (stalenessThreshold : ℤ) (es : List PlacementEvent) (heardAt : ℤ) : Prop :=
  ∃ now, .markStaleControllersUnhealthy now ∈ es ∧ heardAt < secondsBefore now stalenessThreshold

/-- The row of a controller says what was last heard, up to marks of the health checker. -/
structure Tells (stalenessThreshold : ℤ) (es : List PlacementEvent) (x : Heard)
    (c : MeetingController) : Prop where
  region : c.region = x.registration.region
  grpcEndpoint : c.grpcEndpoint = x.registration.grpcEndpoint
  webtransportEndpoint : c.webtransportEndpoint = x.registration.webtransportEndpoint
  maxMeetings : c.maxMeetings = x.registration.maxMeetings
  currentMeetings : c.currentMeetings = x.currentMeetings
  lastHeartbeatAt : c.lastHeartbeatAt = x.heardAt
  healthStatus : c.healthStatus = x.healthStatus ∨
    c.healthStatus = .unhealthy ∧ MissedIn stalenessThreshold es x.heardAt

/-- The table says what was last heard from the controllers. -/
structure Agrees (stalenessThreshold : ℤ) (es : List PlacementEvent) (t : Tables) : Prop where
  tells : ∀ c ∈ t.meetingControllers, ∃ x, lastHeard es c.controllerId = some x ∧
    Tells stalenessThreshold es x c
  has : ∀ id x, lastHeard es id = some x → ∃ c ∈ t.meetingControllers, c.controllerId = id

variable {stalenessThreshold : ℤ} {es : List PlacementEvent} {t : Tables}

theorem Tells.cons {x : Heard} {c : MeetingController} (h : Tells stalenessThreshold es x c)
    (e : PlacementEvent) : Tells stalenessThreshold (e :: es) x c := by
  refine { h with healthStatus := h.healthStatus.imp_right ?_ }
  rintro ⟨hunhealthy, now, hmem, hmissed⟩
  exact ⟨hunhealthy, now, List.mem_cons_of_mem _ hmem, hmissed⟩

/-- A statement that leaves the controllers as they are, and what was heard. -/
theorem Agrees.congr (h : Agrees stalenessThreshold es t) {t' : Tables} {e : PlacementEvent}
    (hcontrollers : t'.meetingControllers = t.meetingControllers)
    (hheard : ∀ id, lastHeard (e :: es) id = lastHeard es id) :
    Agrees stalenessThreshold (e :: es) t' := by
  constructor
  · intro c hc
    rw [hcontrollers] at hc
    obtain ⟨x, hx, htells⟩ := h.tells c hc
    exact ⟨x, (hheard _).trans hx, htells.cons e⟩
  · intro id x hx
    rw [hcontrollers]
    exact h.has id x ((hheard id).symm.trans hx)

/-- An update of the rows, with what is heard of each. -/
theorem Agrees.update (h : Agrees stalenessThreshold es t) {e : PlacementEvent}
    {f : MeetingController → MeetingController} (hf : ∀ c, (f c).controllerId = c.controllerId)
    (htells : ∀ c x, c ∈ t.meetingControllers → lastHeard es c.controllerId = some x →
      Tells stalenessThreshold es x c → ∃ x', lastHeard (e :: es) c.controllerId = some x' ∧
        Tells stalenessThreshold (e :: es) x' (f c))
    (hhas : ∀ id x, lastHeard (e :: es) id = some x →
      ∃ c ∈ t.meetingControllers, c.controllerId = id) :
    Agrees stalenessThreshold (e :: es) (t.updateControllers f hf) := by
  constructor
  · intro c' hc'
    obtain ⟨c, hc, rfl⟩ := List.mem_map.mp hc'
    obtain ⟨x, hx, htold⟩ := h.tells c hc
    rw [hf]
    exact htells c x hc hx htold
  · intro id x hx
    obtain ⟨c, hc, hid⟩ := hhas id x hx
    exact ⟨f c, List.mem_map_of_mem hc, (hf c).trans hid⟩

theorem Agrees.registerMc (h : Agrees stalenessThreshold es t) (now : ℤ)
    (registration : Registration) :
    Agrees stalenessThreshold (.registerMc now registration :: es)
      (t.registerMc now registration) := by
  unfold Tables.registerMc
  split_ifs with hnew
  · have hnone : lastHeard es registration.id = none := by
      by_contra hsome
      obtain ⟨x, hx⟩ := Option.ne_none_iff_exists'.mp hsome
      obtain ⟨c, hc, hid⟩ := h.has _ _ hx
      exact hnew c hc hid
    constructor
    · intro c hc
      rcases List.mem_cons.mp hc with rfl | hc
      · refine ⟨_, if_pos rfl, rfl, rfl, rfl, rfl, ?_, rfl, .inl rfl⟩
        change 0 = ((lastHeard es registration.id).map (·.currentMeetings)).getD 0
        rw [hnone]
        rfl
      · obtain ⟨x, hx, htold⟩ := h.tells c hc
        rw [lastHeard, if_neg (hnew c hc).symm]
        exact ⟨x, hx, htold.cons _⟩
    · intro id x hx
      by_cases hid : registration.id = id
      · exact ⟨_, List.mem_cons_self, hid⟩
      · rw [lastHeard, if_neg hid] at hx
        obtain ⟨c, hc, hcid⟩ := h.has id x hx
        exact ⟨c, List.mem_cons_of_mem _ hc, hcid⟩
  · refine h.update _ (fun c x hc hx htold => ?_) fun id x hx => ?_
    · unfold Registration.updateRow
      by_cases hid : c.controllerId = registration.id
      · rw [if_pos hid, lastHeard, if_pos hid.symm]
        refine ⟨_, rfl, rfl, rfl, rfl, rfl, ?_, rfl, .inl rfl⟩
        rw [hx]
        exact htold.currentMeetings
      · rw [if_neg hid, lastHeard, if_neg (Ne.symm hid)]
        exact ⟨x, hx, htold.cons _⟩
    · by_cases hid : registration.id = id
      · obtain ⟨c, hnew⟩ := not_forall.mp hnew
        obtain ⟨hc, hcid⟩ := Classical.not_imp.mp hnew
        exact ⟨c, hc, (not_not.mp hcid).trans hid⟩
      · rw [lastHeard, if_neg hid] at hx
        exact h.has id x hx

theorem Agrees.updateHeartbeat (h : Agrees stalenessThreshold es t) (now : ℤ)
    (controllerId : String) (currentMeetings currentParticipants : ℤ)
    (healthStatus : HealthStatus) :
    Agrees stalenessThreshold
      (.updateHeartbeat now controllerId currentMeetings currentParticipants healthStatus :: es)
      (t.updateHeartbeat now controllerId currentMeetings currentParticipants healthStatus).1 := by
  refine h.update (heartbeatRow_controllerId now controllerId currentMeetings currentParticipants
    healthStatus) (fun c x hc hx htold => ?_) fun id x hx => ?_
  · unfold heartbeatRow
    by_cases hid : c.controllerId = controllerId
    · rw [if_pos hid, lastHeard, if_pos hid.symm, hx]
      exact ⟨_, rfl, htold.region, htold.grpcEndpoint, htold.webtransportEndpoint,
        htold.maxMeetings, rfl, rfl, .inl rfl⟩
    · rw [if_neg hid, lastHeard, if_neg (Ne.symm hid)]
      exact ⟨x, hx, htold.cons _⟩
  · unfold lastHeard at hx
    split_ifs at hx
    · obtain ⟨x', hx', _⟩ := Option.map_eq_some_iff.mp hx
      exact h.has id x' hx'
    · exact h.has id x hx

theorem Agrees.markStale (h : Agrees stalenessThreshold es t) (now : ℤ) :
    Agrees stalenessThreshold (.markStaleControllersUnhealthy now :: es)
      (t.markStaleControllersUnhealthy now stalenessThreshold).1 := by
  refine h.update (markRow_controllerId now stalenessThreshold)
    (fun c x hc hx htold => ⟨x, hx, ?_⟩) fun id x hx => h.has id x hx
  unfold markRow
  split_ifs with hmissed
  · refine { htold with healthStatus := .inr ⟨rfl, now, List.mem_cons_self, ?_⟩ }
    rw [← htold.lastHeartbeatAt]
    exact hmissed.1
  · exact htold.cons _

theorem Agrees.step (h : Agrees stalenessThreshold es t) (e : PlacementEvent) :
    Agrees stalenessThreshold (e :: es) (placementStep stalenessThreshold t e).1 := by
  cases e with
  | registerMc now registration => exact h.registerMc now registration
  | updateHeartbeat now controllerId currentMeetings currentParticipants healthStatus =>
    exact h.updateHeartbeat now controllerId currentMeetings currentParticipants healthStatus
  | markStaleControllersUnhealthy now => exact h.markStale now
  | atomicAssign now meetingId region controllerId gcId =>
    exact h.congr (assignRow_controllers t now meetingId region controllerId gcId) fun _ => rfl
  | endStaleAssignments now inactivityHours picked => exact h.congr rfl fun _ => rfl
  | cleanupOldAssignments now retentionDays picked => exact h.congr rfl fun _ => rfl

theorem Agrees.empty : Agrees stalenessThreshold [] .empty := by
  constructor
  · intro c hc
    exact absurd hc List.not_mem_nil
  · intro id x hx
    cases hx

/-! ## Candidates -/

/-- The controller was last heard to be healthy with room, in the region, within the staleness
    threshold of the queries. -/
structure HeardFree (es : List PlacementEvent) (now : ℤ) (region : String) (mc : McCandidate)
    (x : Heard) : Prop where
  heard : lastHeard es mc.controllerId = some x
  healthy : x.healthStatus = .healthy
  recent : secondsBefore now defaultHeartbeatStalenessSeconds < x.heardAt
  region : x.registration.region = region
  room : x.currentMeetings < x.registration.maxMeetings
  grpcEndpoint : mc.grpcEndpoint = x.registration.grpcEndpoint
  webtransportEndpoint : mc.webtransportEndpoint = x.registration.webtransportEndpoint

theorem Agrees.heardFree_of_candidate (h : Agrees stalenessThreshold es t) {now : ℤ}
    {region : String} {mc : McCandidate} (hmem : mc ∈ t.candidateRows now region) :
    ∃ x, HeardFree es now region mc x := by
  obtain ⟨c, hc, rfl⟩ := List.mem_map.mp hmem
  obtain ⟨hc, hcandidate⟩ := List.mem_filter.mp hc
  obtain ⟨⟨hhealthy, hfresh⟩, hregion, hroom⟩ := of_decide_eq_true hcandidate
  obtain ⟨x, hx, htold⟩ := h.tells c hc
  refine ⟨x, hx, ?_, htold.lastHeartbeatAt ▸ hfresh, htold.region ▸ hregion, ?_,
    htold.grpcEndpoint, htold.webtransportEndpoint⟩
  · rcases htold.healthStatus with heq | ⟨hunhealthy, _⟩
    · exact heq.symm.trans hhealthy
    · cases hhealthy.symm.trans hunhealthy
  · rw [← htold.currentMeetings, ← htold.maxMeetings]
    exact hroom

/-- The converse, if the health checker cannot have missed a controller heard of lately. -/
theorem Agrees.candidate_of_heardFree (h : Agrees stalenessThreshold es t) {now : ℤ}
    (hthreshold : defaultHeartbeatStalenessSeconds ≤ stalenessThreshold)
    (hclock : ∀ e ∈ es, e.now ≤ now) {region : String} {mc : McCandidate} {x : Heard}
    (hfree : HeardFree es now region mc x) : mc ∈ t.candidateRows now region := by
  obtain ⟨c, hc, hid⟩ := h.has _ _ hfree.heard
  obtain ⟨x', hx', htold⟩ := h.tells c hc
  rw [hid, hfree.heard] at hx'
  obtain rfl := Option.some.inj hx'
  have hhealthy : c.healthStatus = .healthy := by
    rcases htold.healthStatus with heq | ⟨_, marked, hmarked, hmissed⟩
    · exact heq.trans hfree.healthy
    · have hmarkedNow : marked ≤ now := hclock _ hmarked
      have hrecent := hfree.recent
      unfold secondsBefore at hmissed hrecent
      omega
  have hcandidate : IsCandidate now region c :=
    ⟨⟨hhealthy, htold.lastHeartbeatAt ▸ hfree.recent⟩, htold.region.trans hfree.region, by
      rw [htold.currentMeetings, htold.maxMeetings]
      exact hfree.room⟩
  refine List.mem_map.mpr ⟨c, List.mem_filter.mpr ⟨hc, decide_eq_true hcandidate⟩, ?_⟩
  rw [hid, htold.grpcEndpoint, htold.webtransportEndpoint, ← hfree.grpcEndpoint,
    ← hfree.webtransportEndpoint]

/-- The statements of a history. -/
def statements (h : PlacementHistory) : List PlacementEvent := h.map (·.1)

theorem agrees_of_run {h : PlacementHistory} (hr : (placementMachine stalenessThreshold).Run h t) :
    Agrees stalenessThreshold (statements h) t := by
  refine Machine.Run.invariant (I := fun h t => Agrees stalenessThreshold (statements h) t)
    .empty ?_ hr
  exact fun h t e _ _ hagrees => hagrees.step e

/-- The controllers that were last heard to be free, along some statements. -/
def freeControllers (es : List PlacementEvent) (now : ℤ) (region : String) : Set McCandidate :=
  {mc | ∃ x, HeardFree es now region mc x}

/-- The rows that the condition of the query finds; the health checker, which waits no shorter,
    takes none of them away. -/
theorem mem_candidateRows_of_run
    (hthreshold : defaultHeartbeatStalenessSeconds ≤ stalenessThreshold)
    {h : PlacementHistory} (hr : (placementMachine stalenessThreshold).Run h t) {now : ℤ}
    (hclock : ∀ x ∈ h, x.1.now ≤ now) (region : String) (mc : McCandidate) :
    mc ∈ t.candidateRows now region ↔ mc ∈ freeControllers (statements h) now region := by
  have hagrees := agrees_of_run hr
  constructor
  · exact hagrees.heardFree_of_candidate
  · rintro ⟨x, hfree⟩
    refine hagrees.candidate_of_heardFree hthreshold (fun e he => ?_) hfree
    obtain ⟨y, hy, rfl⟩ := List.mem_map.mp he
    exact hclock y hy

theorem candidateRows_nodup (t : Tables) (now : ℤ) (region : String) :
    (t.candidateRows now region).Nodup := by
  refine List.Nodup.of_map (·.controllerId) ?_
  rw [candidateRows, List.map_map]
  exact t.controllerKey.sublist (List.filter_sublist.map _)

/-- `LIMIT` on a list of rows that are the elements of a set. -/
theorem Picks.spec {α : Type*} [DecidableEq α] {n : ℕ} {rows picked : List α} {S : Set α}
    (hpicks : Picks n rows picked) (hnodup : rows.Nodup) (hrows : ∀ r, r ∈ rows ↔ r ∈ S) :
    (∀ r ∈ picked, r ∈ S) ∧ picked.Nodup ∧ picked.length = min n S.ncard ∧
      (S.ncard ≤ n → ∀ r ∈ S, r ∈ picked) := by
  have hset : S = rows.toFinset := by
    ext r
    rw [← hrows, Finset.mem_coe, List.mem_toFinset]
  have hcard : S.ncard = rows.length := by
    rw [hset, Set.ncard_coe_finset, List.toFinset_card_of_nodup hnodup]
  obtain ⟨order, hperm, rfl⟩ := hpicks
  refine ⟨fun r hr => ?_, ?_, ?_, fun hle r hr => ?_⟩
  · exact (hrows r).mp (hperm.subset (List.mem_of_mem_take hr))
  · exact (hperm.nodup_iff.mpr hnodup).sublist (List.take_sublist n order)
  · rw [List.length_take, hperm.length_eq, hcard]
  · rw [List.take_of_length_le (by rw [hperm.length_eq, ← hcard]; exact hle), hperm.mem_iff]
    exact (hrows r).mpr hr

/-- In every run, the rows that `get_candidate_mcs` returns for a region are of controllers that
    were last heard to be healthy with room there, within the last 30 seconds: of all of them if
    they are at most five, of five otherwise. -/
theorem candidates_iff_of_run (hthreshold : defaultHeartbeatStalenessSeconds ≤ stalenessThreshold)
    {h : PlacementHistory} (hr : (placementMachine stalenessThreshold).Run h t) {now : ℤ}
    (hclock : ∀ x ∈ h, x.1.now ≤ now) {region : String} {candidates : List McCandidate}
    (hpicks : Picks loadBalancingCandidateCount (t.candidateRows now region) candidates) :
    (∀ mc ∈ candidates, mc ∈ freeControllers (statements h) now region) ∧
      candidates.Nodup ∧ candidates.length = min loadBalancingCandidateCount
        (freeControllers (statements h) now region).ncard ∧
      ((freeControllers (statements h) now region).ncard ≤ loadBalancingCandidateCount →
        ∀ mc ∈ freeControllers (statements h) now region, mc ∈ candidates) :=
  hpicks.spec (candidateRows_nodup t now region)
    (mem_candidateRows_of_run hthreshold hr hclock region)

/-- A controller that has registered and reported. -/
def heardEvents : List PlacementEvent :=
  [.registerMc 0 sampleRegistration, .updateHeartbeat 1 "mc-1" 7 20 .healthy,
    .markStaleControllersUnhealthy 2]

/-- A controller that can be selected. -/
def sampleCandidate : McCandidate := ⟨"mc-1", "https://mc1:50051", none⟩

theorem candidates_iff_of_run_heard :
    sampleCandidate ∈ freeControllers (statements (samplePlacement.playAll heardEvents).2) 3
      "us" := by
  have hrun : samplePlacement.Run (samplePlacement.playAll heardEvents).2
      (samplePlacement.playAll heardEvents).1 :=
    Machine.run_of_admits
      ⟨⟨by decide, trivial⟩, ⟨by decide, trivial⟩, ⟨by decide, trivial⟩, trivial⟩
  have hpicks : Picks loadBalancingCandidateCount
      ((samplePlacement.playAll heardEvents).1.candidateRows 3 "us") [sampleCandidate] :=
    ⟨[sampleCandidate], by decide, rfl⟩
  exact (candidates_iff_of_run (by decide) hrun (by decide) hpicks).1 _ List.mem_cons_self

/-! ## Calls -/

/-- The calls for a meeting in a region, among any other statements. -/
def askMachine (stalenessThreshold : ℤ) (meetingId region : String) :
    Machine GcSystem AssignEvent Unit where
  init := ⟨.empty, ∅⟩
  step s e := (s.step stalenessThreshold meetingId region e, ())
  allowed _ s
    | .call _ (.getCandidateMcs now candidates _) =>
      Picks loadBalancingCandidateCount (s.tables.candidateRows now region) candidates
    | _ => True

/-- The events so far, the last one first. -/
abbrev AskHistory := List (AssignEvent × Unit)

/-- The statements on the controllers. -/
def otherStatements (h : AskHistory) : List PlacementEvent :=
  h.filterMap fun x => match x.1 with
    | .other e => some e
    | _ => none

/-- The controller that a call asks, or has asked to take the meeting. -/
def CallPc.asked : CallPc → Option McCandidate
  | .assignMeeting _ selectedMc => some selectedMc
  | .atomicAssign _ selectedMc => some selectedMc
  | _ => none

/-- The call has queried when the controller was last heard to be free. -/
def Queried (region : String) (h : AskHistory) (call : ℕ) (mc : McCandidate) : Prop :=
  ∃ now candidates choice h',
    (.call call (.getCandidateMcs now candidates choice), ()) :: h' <:+ h ∧
      ∃ x, HeardFree (otherStatements h') now region mc x

theorem Queried.mono {region : String} {h h' : AskHistory} {call : ℕ} {mc : McCandidate}
    (hq : Queried region h' call mc) (hs : h' <:+ h) : Queried region h call mc := by
  obtain ⟨now, candidates, choice, h'', hsuffix, hfree⟩ := hq
  exact ⟨now, candidates, choice, h'', hsuffix.trans hs, hfree⟩

section

variable {meetingId region : String} {c : Call} {e : CallEvent}

theorem callStep_controllers :
    (callStep meetingId region t c e).1.meetingControllers = t.meetingControllers := by
  have hcase := callStep_cases meetingId region t c e
  generalize callStep meetingId region t c e = result at hcase ⊢
  cases hcase with
  | assigned now mhSelection selectedMc => exact assignRow_controllers t now meetingId region _ _
  | lost now mhSelection selectedMc => exact assignRow_controllers t now meetingId region _ _
  | _ => rfl

/-- A controller that is asked is a candidate that the step found, or was asked before. -/
theorem asked_of_callStep {mc : McCandidate}
    (hasked : (callStep meetingId region t c e).2.asked = some mc) :
    (∃ now candidates choice, e = .getCandidateMcs now candidates choice ∧ mc ∈ candidates) ∨
      c.pc.asked = some mc := by
  have hcase := callStep_cases meetingId region t c e
  generalize callStep meetingId region t c e = result at hcase hasked
  cases hcase with
  | stays => exact .inr hasked
  | tries now candidates choice loop selectedMc hpc hmem =>
    obtain rfl := Option.some.inj hasked
    exact .inl ⟨now, candidates, choice, rfl, List.mem_of_mem_filter hmem⟩
  | accepted loop selectedMc hpc =>
    rw [hpc]
    exact .inr hasked
  | assigned now mhSelection selectedMc hpc =>
    unfold afterAssign at hasked
    split at hasked <;> cases hasked
  | _ => cases hasked

end

/-- What every run of the calls keeps. -/
structure Asks (stalenessThreshold : ℤ) (region : String) (h : AskHistory) (s : GcSystem) :
    Prop where
  agrees : Agrees stalenessThreshold (otherStatements h) s.tables
  queried : ∀ call c mc, s.calls.lookup call = some c → c.pc.asked = some mc →
    Queried region h call mc

theorem Asks.step {meetingId region : String} {h : AskHistory} {s : GcSystem} {e : AssignEvent}
    (hs : Asks stalenessThreshold region h s)
    (ha : (askMachine stalenessThreshold meetingId region).allowed h s e) :
    Asks stalenessThreshold region ((e, ()) :: h)
      (s.step stalenessThreshold meetingId region e) := by
  have hkept : ∀ call c mc, s.calls.lookup call = some c → c.pc.asked = some mc →
      Queried region ((e, ()) :: h) call mc :=
    fun call c mc hcall hasked => (hs.queried call c mc hcall hasked).mono (List.suffix_cons _ _)
  cases e with
  | start call gcId =>
    simp only [GcSystem.step]
    split
    · refine ⟨hs.agrees, fun call' c mc hcall hasked => ?_⟩
      rcases GcSystem.lookup_set.mp hcall with ⟨_, rfl⟩ | ⟨_, hcall⟩
      · cases hasked
      · exact hkept call' c mc hcall hasked
    · exact ⟨hs.agrees, hkept⟩
  | call call e =>
    simp only [GcSystem.step]
    split
    · exact ⟨hs.agrees, hkept⟩
    next c₀ hc₀ =>
      constructor
      · exact ⟨fun c hc => hs.agrees.tells c (callStep_controllers ▸ hc),
          fun id x hx => callStep_controllers.symm ▸ hs.agrees.has id x hx⟩
      · intro call' c mc hcall hasked
        rcases GcSystem.lookup_set.mp hcall with ⟨rfl, rfl⟩ | ⟨_, hcall⟩
        · rcases asked_of_callStep hasked with ⟨now, candidates, choice, rfl, hmem⟩ | hold
          · exact ⟨now, candidates, choice, h, List.suffix_refl _,
              hs.agrees.heardFree_of_candidate (ha.subset hmem)⟩
          · exact hkept call' c₀ mc hc₀ hold
        · exact hkept call' c mc hcall hasked
  | other e => exact ⟨hs.agrees.step e, hkept⟩

/-- In every run of calls among statements on the controllers, a call asks only controllers that
    were last heard to be healthy with room in the region, within 30 seconds, when it queried. -/
theorem asked_of_run {meetingId region : String} {h : AskHistory} {s : GcSystem}
    (hr : (askMachine stalenessThreshold meetingId region).Run h s) {call : ℕ} {c : Call}
    (hcall : s.calls.lookup call = some c) {mc : McCandidate} (hasked : c.pc.asked = some mc) :
    Queried region h call mc := by
  have hasks : Asks stalenessThreshold region h s := by
    refine Machine.Run.invariant (I := Asks stalenessThreshold region) ⟨.empty, ?_⟩ ?_ hr
    · intro call c mc hcall
      cases hcall
    · exact fun h s e _ ha hs => hs.step ha
  exact hasks.queried call c mc hcall hasked

/-- A call that finds the controller. -/
def askingEvents : List AssignEvent :=
  heardEvents.map .other ++
    [.start 1 "gc-1", .call 1 (.getHealthyAssignment 3),
      .call 1 (.selectMhs [⟨"mh-1", "https://mh1:4433", "http://mh1:50053"⟩] 0 0),
      .call 1 (.getCandidateMcs 4 [sampleCandidate] 0)]

/-- The calls for one meeting. -/
abbrev sampleAsk : Machine GcSystem AssignEvent Unit := askMachine 60 "meeting-1" "us"

theorem asked_of_run_asking :
    Queried "us" (sampleAsk.playAll askingEvents).2 1 sampleCandidate := by
  have hrun : sampleAsk.Run (sampleAsk.playAll askingEvents).2
      (sampleAsk.playAll askingEvents).1 :=
    Machine.run_of_admits ⟨trivial, trivial, trivial, trivial, trivial, trivial,
      ⟨_, List.Perm.refl _, by decide⟩, trivial⟩
  exact asked_of_run hrun
    (show _ = some ⟨"gc-1", .assignMeeting (.start ⟨_⟩) sampleCandidate⟩ from rfl) rfl

end DarkTower.Gc
