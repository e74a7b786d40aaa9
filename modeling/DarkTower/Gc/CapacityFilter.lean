import DarkTower.Gc.MediaHandlers
import DarkTower.Lib.Machine
import Mathlib.Algebra.Order.Field.Basic
import Mathlib.Algebra.Order.Field.Rat
import Mathlib.Data.List.Sort
import Mathlib.Data.UInt
import Mathlib.Tactic.NormNum

/-!
# Is the capacity filter of `get_candidate_mhs` sound?

`RegisterMh` and `SendLoadReport` requests with any `u32` counts, and the health
checker, in any order. The filter compares the counts as `i32`.

* `run_countsAgree`: in every run a row holds the registered maximum, and a healthy one
  the reported count, both reduced to 32-bit signed integers.
* `toInt32_lt_iff`: that reduction keeps the order of two counts iff they are in the
  same half of the range.
* `capacity_filter_iff`: a call of `get_candidate_mhs` returns no full handler and
  leaves out none with spare capacity iff the counts of every available handler are
  in the same half.
-/

namespace DarkTower.Gc

open DarkTower.Lib
open scoped List

/-- A request, or a statement of the health checker. -/
inductive MhEvent
  | registerMh (now : ℤ) (req : RegisterMhRequest) (outcome : StatementOutcome)
  | sendLoadReport (now : ℤ) (req : SendLoadReportRequest) (outcome : StatementOutcome)
  | markStaleHandlersUnhealthy (now stalenessThresholdSeconds : ℤ)

/-- What a request is answered. -/
inductive MhAnswer
  | registered (response : Except Status RegisterMhResponse)
  | reported (response : Except Status SendLoadReportResponse)
  | marked

/-- The events so far with their answers, the last one first. -/
abbrev MhHistory := List (MhEvent × MhAnswer)

/-- One request. -/
def mhStep (t : HandlerTable) : MhEvent → HandlerTable × MhAnswer
  | .registerMh now req outcome =>
    ((registerMh now req outcome t).1, .registered (registerMh now req outcome t).2)
  | .sendLoadReport now req outcome =>
    ((sendLoadReport now req outcome t).1, .reported (sendLoadReport now req outcome t).2)
  | .markStaleHandlersUnhealthy now threshold =>
    (t.markStaleHandlersUnhealthy now threshold, .marked)

/-- The registry from its empty table on. -/
def mhMachine : Machine HandlerTable MhEvent MhAnswer where
  init := .empty
  step := mhStep
  allowed _ _ _ := True

/-- The `max_streams` of the handler's last registration that the database took. -/
def registeredMaxStreams : MhHistory → String → UInt32
  | [], _ => 0
  | (.registerMh _ req outcome, _) :: h, id =>
    if req.handlerId = id ∧ req.validate.isOk ∧ outcome ≠ .failed then req.maxStreams
    else registeredMaxStreams h id
  | _ :: h, id => registeredMaxStreams h id

/-- The `current_streams` of the handler's last load report that the database took. -/
def reportedStreams : MhHistory → String → UInt32
  | [], _ => 0
  | (.sendLoadReport _ req outcome, _) :: h, id =>
    if req.handlerId = id ∧ (validateHandlerId req.handlerId).isOk ∧ outcome ≠ .failed then
      req.currentStreams
    else reportedStreams h id
  | _ :: h, id => reportedStreams h id

/-- A call of `get_candidate_mhs` at `now` returns only handlers with fewer streams than
    their maximum, and such a handler, healthy and fresh, satisfies its condition. -/
structure CapacityFilterSound (loadRatio : Int32 → Int32 → ℚ) (h : MhHistory) (t : HandlerTable)
    (now : ℤ) (region : String) : Prop where
  noneFull : ∀ candidates, t.GetCandidateMhs loadRatio now region candidates →
    ∀ c ∈ candidates, reportedStreams h c.handlerId < registeredMaxStreams h c.handlerId
  spareFound : ∀ m ∈ t.rows, m.Available now region →
    reportedStreams h m.handlerId < registeredMaxStreams h m.handlerId →
      m.IsMhCandidate now region

/-- The sign of the quotient that the database computes. -/
structure QuotientSigns (loadRatio : Int32 → Int32 → ℚ) : Prop where
  neg : ∀ a b : Int32, a.toInt < 0 → 0 < b.toInt → loadRatio a b < 0
  nonneg : ∀ a b : Int32, 0 ≤ a.toInt → 0 < b.toInt → 0 ≤ loadRatio a b
  nonneg_of_neg : ∀ a b : Int32, a.toInt < 0 → b.toInt < 0 → 0 ≤ loadRatio a b

/-! ## `as i32` -/

theorem toInt_toInt32 (a : UInt32) :
    a.toInt32.toInt = if a.toNat < 2 ^ 31 then (a.toNat : ℤ) else a.toNat - 2 ^ 32 := by
  show a.toBitVec.toInt = _
  rw [BitVec.toInt_eq_toNat_cond]
  show (if 2 * a.toNat < 2 ^ 32 then (a.toNat : ℤ) else a.toNat - (2 ^ 32 : ℕ)) = _
  split_ifs <;> omega

/-- The order survives iff both counts are in the same half. -/
theorem toInt32_lt_iff (a b : UInt32) :
    (a.toInt32 < b.toInt32 ↔ a < b) ↔ (a.toNat < 2 ^ 31 ↔ b.toNat < 2 ^ 31) := by
  have ha := a.toNat_lt
  have hb := b.toNat_lt
  rw [Int32.lt_iff_toInt_lt, UInt32.lt_iff_toNat_lt, toInt_toInt32, toInt_toInt32]
  split_ifs <;> omega

/-! ## The rows of a run -/

/-- What a run knows of a row. -/
structure CountsAgree (h : MhHistory) (m : MediaHandler) : Prop where
  registered : registeredMaxStreams h m.handlerId ≠ 0
  maxStreams : m.maxStreams = (registeredMaxStreams h m.handlerId).toInt32
  currentStreams : m.healthStatus = .healthy →
    m.currentStreams = (reportedStreams h m.handlerId).toInt32

/-- An event with another handler's id changes nothing about the row. -/
theorem CountsAgree.congr {h h' : MhHistory} {m : MediaHandler} (hm : CountsAgree h m)
    (hmax : registeredMaxStreams h' m.handlerId = registeredMaxStreams h m.handlerId)
    (hreported : reportedStreams h' m.handlerId = reportedStreams h m.handlerId) :
    CountsAgree h' m := by
  refine ⟨?_, ?_, fun hhealthy => ?_⟩
  · rw [hmax]
    exact hm.registered
  · rw [hmax]
    exact hm.maxStreams
  · rw [hreported]
    exact hm.currentStreams hhealthy

theorem registered_cons {h : MhHistory} {now : ℤ} {req : RegisterMhRequest}
    {outcome : StatementOutcome} {a : MhAnswer} (hok : req.validate.isOk)
    (hdone : outcome ≠ .failed) (id : String) :
    registeredMaxStreams ((.registerMh now req outcome, a) :: h) id =
      if req.handlerId = id then req.maxStreams else registeredMaxStreams h id := by
  simp [registeredMaxStreams, hok, hdone]

theorem reported_cons {h : MhHistory} {now : ℤ} {req : SendLoadReportRequest}
    {outcome : StatementOutcome} {a : MhAnswer} (hok : (validateHandlerId req.handlerId).isOk)
    (hdone : outcome ≠ .failed) (id : String) :
    reportedStreams ((.sendLoadReport now req outcome, a) :: h) id =
      if req.handlerId = id then req.currentStreams else reportedStreams h id := by
  simp [reportedStreams, hok, hdone]

theorem maxStreams_ne_zero {req : RegisterMhRequest} (hok : req.validate.isOk) :
    req.maxStreams ≠ 0 := by
  intro hzero
  unfold RegisterMhRequest.validate at hok
  rw [if_pos hzero] at hok
  cases hid : validateHandlerId req.handlerId <;>
    cases hregion : validateRegion req.region <;>
    cases hweb : validateEndpoint req.webtransportEndpoint "webtransport_endpoint" <;>
    cases hgrpc : validateEndpoint req.grpcEndpoint "grpc_endpoint" <;>
    rw [hid, hregion, hweb, hgrpc] at hok <;> cases hok

/-- A registration leaves the row with its id pending, with the new maximum. -/
theorem countsAgree_registered {h : MhHistory} {t : HandlerTable} {now : ℤ}
    {req : RegisterMhRequest} {outcome : StatementOutcome} {a : MhAnswer}
    (hok : req.validate.isOk) (hdone : outcome ≠ .failed) (hI : ∀ m ∈ t.rows, CountsAgree h m) :
    ∀ m ∈ (t.registerMh now req.registration).rows,
      CountsAgree ((.registerMh now req outcome, a) :: h) m := by
  have hother : ∀ m ∈ t.rows, m.handlerId ≠ req.handlerId →
      CountsAgree ((.registerMh now req outcome, a) :: h) m := by
    intro m hm hid
    refine (hI m hm).congr ?_ rfl
    rw [registered_cons hok hdone, if_neg hid.symm]
  have hself : registeredMaxStreams ((.registerMh now req outcome, a) :: h) req.handlerId =
      req.maxStreams := by
    rw [registered_cons hok hdone, if_pos rfl]
  intro m hm
  unfold HandlerTable.registerMh at hm
  split_ifs at hm with hnew
  · rcases List.mem_cons.mp hm with rfl | hm
    · refine ⟨?_, ?_, fun hhealthy => absurd hhealthy (by intro hpending; cases hpending)⟩
      · show registeredMaxStreams _ req.handlerId ≠ 0
        rw [hself]
        exact maxStreams_ne_zero hok
      · show req.maxStreams.toInt32 = (registeredMaxStreams _ req.handlerId).toInt32
        rw [hself]
    · exact hother m hm (hnew m hm)
  · obtain ⟨m₀, hm₀, rfl⟩ := List.mem_map.mp hm
    unfold MhRegistration.updateRow
    split_ifs with hid
    · have hid' : m₀.handlerId = req.handlerId := hid
      refine ⟨?_, ?_, fun hhealthy => absurd hhealthy (by intro hpending; cases hpending)⟩
      · show registeredMaxStreams _ m₀.handlerId ≠ 0
        rw [hid', hself]
        exact maxStreams_ne_zero hok
      · show req.maxStreams.toInt32 = (registeredMaxStreams _ m₀.handlerId).toInt32
        rw [hid', hself]
    · exact hother m₀ hm₀ hid

/-- A report leaves the row with its id with the new count. -/
theorem countsAgree_reported {h : MhHistory} {t : HandlerTable} {now : ℤ}
    {req : SendLoadReportRequest} {outcome : StatementOutcome} {a : MhAnswer}
    (hok : (validateHandlerId req.handlerId).isOk) (hdone : outcome ≠ .failed)
    (hI : ∀ m ∈ t.rows, CountsAgree h m) :
    ∀ m ∈ (t.updateLoadReport now req.handlerId req.currentStreams.toInt32
      (healthOfReport req.health)).1.rows,
      CountsAgree ((.sendLoadReport now req outcome, a) :: h) m := by
  intro m hm
  obtain ⟨m₀, hm₀, rfl⟩ := List.mem_map.mp hm
  unfold loadReportRow
  split_ifs with hid
  · refine ⟨(hI m₀ hm₀).registered, (hI m₀ hm₀).maxStreams, fun _ => ?_⟩
    show req.currentStreams.toInt32 = (reportedStreams _ m₀.handlerId).toInt32
    rw [reported_cons hok hdone, if_pos hid.symm]
  · refine (hI m₀ hm₀).congr rfl ?_
    rw [reported_cons hok hdone, if_neg (Ne.symm hid)]

theorem run_countsAgree {h : MhHistory} {t : HandlerTable} (hr : mhMachine.Run h t) :
    ∀ m ∈ t.rows, CountsAgree h m := by
  refine Machine.Run.invariant (I := fun h t => ∀ m ∈ t.rows, CountsAgree h m) ?_ ?_ hr
  · exact fun m hm => absurd hm List.not_mem_nil
  · intro h t e _ _ hI
    cases e with
    | registerMh now req outcome =>
      show ∀ m ∈ (registerMh now req outcome t).1.rows, _
      unfold registerMh
      cases hvalid : req.validate with
      | error e =>
        -- a refused request is no registration
        refine fun m hm => (hI m hm).congr ?_ rfl
        simp [registeredMaxStreams, hvalid, Except.isOk, Except.toBool]
      | ok _ =>
        have hok : req.validate.isOk := by rw [hvalid]; rfl
        cases outcome with
        | failed =>
          refine fun m hm => (hI m hm).congr ?_ rfl
          simp [registeredMaxStreams]
        | done => exact countsAgree_registered hok (by decide) hI
        | lost => exact countsAgree_registered hok (by decide) hI
    | sendLoadReport now req outcome =>
      show ∀ m ∈ (sendLoadReport now req outcome t).1.rows, _
      unfold sendLoadReport
      cases hvalid : validateHandlerId req.handlerId with
      | error e =>
        refine fun m hm => (hI m hm).congr rfl ?_
        simp [reportedStreams, hvalid, Except.isOk, Except.toBool]
      | ok _ =>
        have hok : (validateHandlerId req.handlerId).isOk := by rw [hvalid]; rfl
        cases outcome with
        | failed =>
          refine fun m hm => (hI m hm).congr rfl ?_
          simp [reportedStreams]
        | done =>
          dsimp only
          split_ifs
          · exact countsAgree_reported hok (by decide) hI
          · exact countsAgree_reported hok (by decide) hI
        | lost => exact countsAgree_reported hok (by decide) hI
    | markStaleHandlersUnhealthy now threshold =>
      intro m hm
      obtain ⟨m₀, hm₀, rfl⟩ := List.mem_map.mp hm
      unfold markHandlerRow
      split_ifs
      · exact ⟨(hI m₀ hm₀).registered, (hI m₀ hm₀).maxStreams,
          fun hhealthy => absurd hhealthy (by intro hu; cases hu)⟩
      · exact (hI m₀ hm₀).congr rfl rfl

/-! ## The order of the candidates -/

variable {loadRatio : Int32 → Int32 → ℚ}

theorem candidateOrder_trans {a b c : MediaHandler} (hab : CandidateOrder loadRatio a b)
    (hbc : CandidateOrder loadRatio b c) : CandidateOrder loadRatio a c := by
  unfold CandidateOrder at *
  rcases hab with hab | ⟨hab, ht⟩
  · rcases hbc with hbc | ⟨hbc, _⟩
    · exact .inl (hab.trans hbc)
    · exact .inl (hbc ▸ hab)
  · rcases hbc with hbc | ⟨hbc, ht'⟩
    · exact .inl (hab ▸ hbc)
    · exact .inr ⟨hab.trans hbc, ht'.trans ht⟩

theorem candidateOrder_total (a b : MediaHandler) :
    CandidateOrder loadRatio a b ∨ CandidateOrder loadRatio b a := by
  unfold CandidateOrder
  rcases lt_trichotomy (a.ratio loadRatio) (b.ratio loadRatio) with h | h | h
  · exact .inl (.inl h)
  · rcases le_total b.lastHeartbeatAt a.lastHeartbeatAt with ht | ht
    · exact .inl (.inr ⟨h, ht⟩)
    · exact .inr (.inr ⟨h.symm, ht⟩)
  · exact .inr (.inl h)

/-- The rows have an order that `get_candidate_mhs` can return them in. -/
theorem exists_candidateOrder (loadRatio : Int32 → Int32 → ℚ) (rows : List MediaHandler) :
    ∃ order, order ~ rows ∧ order.Pairwise (CandidateOrder loadRatio) := by
  classical
  refine ⟨rows.mergeSort fun a b => decide (CandidateOrder loadRatio a b),
    List.mergeSort_perm _ _, ?_⟩
  refine (List.pairwise_mergeSort ?_ ?_ rows).imp fun h => of_decide_eq_true h
  · intro a b c hab hbc
    exact decide_eq_true (candidateOrder_trans (of_decide_eq_true hab) (of_decide_eq_true hbc))
  · intro a b
    simpa using candidateOrder_total a b

/-- A candidate of a negative ratio is returned before any of another, so one is
    returned if there is any. -/
theorem exists_returned_of_neg {t : HandlerTable} {now : ℤ} {region : String} {m : MediaHandler}
    (hm : m ∈ t.rows) (hcandidate : m.IsMhCandidate now region) (hneg : m.ratio loadRatio < 0) :
    ∃ candidates, t.GetCandidateMhs loadRatio now region candidates ∧ ∃ m' ∈ t.rows,
      m'.IsMhCandidate now region ∧ m'.ratio loadRatio < 0 ∧
        ⟨m'.handlerId, m'.webtransportEndpoint, m'.grpcEndpoint⟩ ∈ candidates := by
  obtain ⟨order, hperm, hsorted⟩ := exists_candidateOrder loadRatio
    (t.rows.filter (·.IsMhCandidate now region))
  have hmem : m ∈ order := hperm.mem_iff.mpr (List.mem_filter.mpr ⟨hm, decide_eq_true hcandidate⟩)
  refine ⟨_, ⟨order, hperm, hsorted, rfl⟩, ?_⟩
  cases order with
  | nil => exact absurd hmem List.not_mem_nil
  | cons first order =>
    obtain ⟨hfirst, hsatisfied⟩ := List.mem_filter.mp (hperm.mem_iff.mp List.mem_cons_self)
    refine ⟨first, hfirst, of_decide_eq_true hsatisfied, ?_, List.mem_cons_self⟩
    rcases List.mem_cons.mp hmem with rfl | hmem
    · exact hneg
    · rcases List.rel_of_pairwise_cons hsorted hmem with hlt | ⟨heq, _⟩
      · exact hlt.trans hneg
      · exact heq ▸ hneg

/-! ## The filter -/

/-- Among the rows that satisfy the condition, those with a wrapped count have a
    negative ratio. -/
theorem ratio_neg_iff (hsigns : QuotientSigns loadRatio) {m : MediaHandler}
    (hlt : m.currentStreams < m.maxStreams) :
    m.ratio loadRatio < 0 ↔ m.currentStreams.toInt < 0 ∧ 0 < m.maxStreams.toInt := by
  rw [Int32.lt_iff_toInt_lt] at hlt
  unfold MediaHandler.ratio
  split_ifs with hzero
  · rw [hzero]
    exact iff_of_false (by norm_num) fun h => absurd h.2 (by decide)
  · constructor
    · intro hneg
      rcases lt_trichotomy m.maxStreams.toInt 0 with hmax | hmax | hmax
      · exact absurd (hsigns.nonneg_of_neg _ _ (by omega) hmax) (not_le.mpr hneg)
      · exact absurd (Int32.toInt_inj.mp hmax) hzero
      · refine ⟨?_, hmax⟩
        by_contra hcurrent
        exact absurd (hsigns.nonneg _ _ (by omega) hmax) (not_le.mpr hneg)
    · exact fun ⟨hcurrent, hmax⟩ => hsigns.neg _ _ hcurrent hmax

/-- A call of `get_candidate_mhs` is sound iff the reported count and the maximum of
    every available handler are both below `2^31` or both not. -/
theorem capacity_filter_iff {loadRatio : Int32 → Int32 → ℚ} (hsigns : QuotientSigns loadRatio)
    {h : MhHistory} {t : HandlerTable} (hr : mhMachine.Run h t) (now : ℤ) (region : String) :
    CapacityFilterSound loadRatio h t now region ↔
      ∀ m ∈ t.rows, m.Available now region →
        ((reportedStreams h m.handlerId).toNat < 2 ^ 31 ↔
          (registeredMaxStreams h m.handlerId).toNat < 2 ^ 31) := by
  have hI := run_countsAgree hr
  have hcounts : ∀ m ∈ t.rows, m.Available now region →
      (m.currentStreams < m.maxStreams ↔
        (reportedStreams h m.handlerId).toInt32 < (registeredMaxStreams h m.handlerId).toInt32) := by
    intro m hm havailable
    rw [(hI m hm).currentStreams havailable.1, (hI m hm).maxStreams]
  constructor
  · intro hsound m hm havailable
    rw [← toInt32_lt_iff, ← hcounts m hm havailable]
    refine ⟨fun hlt => ?_, fun hspare => (hsound.spareFound m hm havailable hspare).2⟩
    by_contra hfull
    -- a full handler that satisfies the condition has wrapped, so it heads the order
    have hwraps : ∀ m' ∈ t.rows, m'.Available now region → m'.currentStreams < m'.maxStreams →
        (m'.ratio loadRatio < 0 ↔
          ¬ reportedStreams h m'.handlerId < registeredMaxStreams h m'.handlerId) := by
      intro m' hm' havailable' hlt'
      have hne := (hI m' hm').registered
      rw [ratio_neg_iff hsigns hlt', (hI m' hm').currentStreams havailable'.1,
        (hI m' hm').maxStreams, toInt_toInt32, toInt_toInt32, UInt32.lt_iff_toNat_lt]
      rw [hcounts m' hm' havailable', Int32.lt_iff_toInt_lt, toInt_toInt32, toInt_toInt32] at hlt'
      have hpos : (registeredMaxStreams h m'.handlerId).toNat ≠ 0 := fun h0 =>
        hne (UInt32.toNat_inj.mp h0)
      have hmax := (registeredMaxStreams h m'.handlerId).toNat_lt
      have hreported := (reportedStreams h m'.handlerId).toNat_lt
      split_ifs at hlt' ⊢ <;> omega
    obtain ⟨candidates, hreturned, m', hm', hcandidate, hneg, hmem⟩ :=
      exists_returned_of_neg hm ⟨havailable, hlt⟩ ((hwraps m hm havailable hlt).mpr hfull)
    exact (hwraps m' hm' hcandidate.1 hcandidate.2).mp hneg (hsound.noneFull _ hreturned _ hmem)
  · intro hhalves
    have hsame : ∀ m ∈ t.rows, m.Available now region →
        (m.currentStreams < m.maxStreams ↔
          reportedStreams h m.handlerId < registeredMaxStreams h m.handlerId) := by
      intro m hm havailable
      rw [hcounts m hm havailable, toInt32_lt_iff]
      exact hhalves m hm havailable
    refine ⟨?_, fun m hm havailable hspare => ⟨havailable, (hsame m hm havailable).mpr hspare⟩⟩
    rintro _ ⟨order, hperm, _, rfl⟩ c hc
    obtain ⟨m, hm, rfl⟩ := List.mem_map.mp hc
    obtain ⟨hrow, hsatisfied⟩ := List.mem_filter.mp (hperm.mem_iff.mp (List.mem_of_mem_take hm))
    obtain ⟨havailable, hlt⟩ := of_decide_eq_true hsatisfied
    exact (hsame m hrow havailable).mp hlt

/-! ## A wrapped count -/

/-- The quotient without rounding. -/
def exactRatio (a b : Int32) : ℚ := a.toInt / b.toInt

theorem exactRatio_signs : QuotientSigns exactRatio where
  neg a b ha hb := by
    have ha' : (a.toInt : ℚ) < 0 := by exact_mod_cast ha
    have hb' : (0 : ℚ) < b.toInt := by exact_mod_cast hb
    exact div_neg_of_neg_of_pos ha' hb'
  nonneg a b ha hb := by
    have ha' : (0 : ℚ) ≤ a.toInt := by exact_mod_cast ha
    have hb' : (0 : ℚ) < b.toInt := by exact_mod_cast hb
    exact div_nonneg ha' hb'.le
  nonneg_of_neg a b ha hb := by
    have ha' : (a.toInt : ℚ) ≤ 0 := by exact_mod_cast ha.le
    have hb' : (b.toInt : ℚ) ≤ 0 := by exact_mod_cast hb.le
    exact div_nonneg_of_nonpos ha' hb'

/-- A handler registers for `maxStreams` and reports itself healthy with
    `currentStreams`. -/
def reportingEvents (maxStreams currentStreams : UInt32) : List MhEvent :=
  [.registerMh 0 ⟨"mh-1", "eu", "https://mh-1:443", "grpc://mh-1:50051", maxStreams⟩ .done,
    .sendLoadReport 1000000 ⟨"mh-1", currentStreams, 1⟩ .done]

theorem run_reportingEvents (maxStreams currentStreams : UInt32) :
    mhMachine.Run (mhMachine.playAll (reportingEvents maxStreams currentStreams)).2
      (mhMachine.playAll (reportingEvents maxStreams currentStreams)).1 :=
  Machine.run_of_admits ⟨trivial, trivial, trivial⟩

theorem capacity_filter_quarterFull :
    mhMachine.Run (mhMachine.playAll (reportingEvents 100 25)).2
        (mhMachine.playAll (reportingEvents 100 25)).1 ∧
      CapacityFilterSound exactRatio (mhMachine.playAll (reportingEvents 100 25)).2
        (mhMachine.playAll (reportingEvents 100 25)).1 2000000 "eu" := by
  refine ⟨run_reportingEvents 100 25,
    (capacity_filter_iff exactRatio_signs (run_reportingEvents 100 25) _ _).mpr ?_⟩
  decide +kernel

/-- A handler with a maximum of 100 streams that reports `2^31` of them stays a
    candidate. -/
theorem overloaded_is_candidate :
    mhMachine.Run (mhMachine.playAll (reportingEvents 100 (2 ^ 31))).2
        (mhMachine.playAll (reportingEvents 100 (2 ^ 31))).1 ∧
      (mhMachine.playAll (reportingEvents 100 (2 ^ 31))).1.GetCandidateMhs exactRatio 2000000 "eu"
        [⟨"mh-1", "https://mh-1:443", "grpc://mh-1:50051"⟩] ∧
      ¬ CapacityFilterSound exactRatio (mhMachine.playAll (reportingEvents 100 (2 ^ 31))).2
        (mhMachine.playAll (reportingEvents 100 (2 ^ 31))).1 2000000 "eu" := by
  have hreturned : (mhMachine.playAll (reportingEvents 100 (2 ^ 31))).1.GetCandidateMhs exactRatio
      2000000 "eu" [⟨"mh-1", "https://mh-1:443", "grpc://mh-1:50051"⟩] := by
    refine ⟨[⟨"mh-1", "eu", "https://mh-1:443", "grpc://mh-1:50051", 100, (2 ^ 31 : UInt32).toInt32,
      .healthy, 1000000⟩], ?_, List.pairwise_singleton _ _, rfl⟩
    decide +kernel
  refine ⟨run_reportingEvents _ _, hreturned, fun hsound => ?_⟩
  exact absurd (hsound.noneFull _ hreturned _ (List.mem_singleton_self _)) (by decide +kernel)

end DarkTower.Gc
