import DarkTower.Gc.AssignMeeting
import DarkTower.Lib.Unicode
import Mathlib.Data.Rat.Defs

/-!
# Registration and load reports of media handlers

Model of `gc-service/src/repositories/media_handlers.rs` and of the service over it,
`gc-service/src/grpc/mh_service.rs`. `media_handlers` keeps the stream counts in
`INTEGER` columns; the requests carry them as `u32`, and both entry points convert
with `as i32`, which wraps from `2^31` on.

The columns that no query here reads (the usage percentages, `registered_at`,
`updated_at`) are left out. The order of `get_candidate_mhs` is by the quotient that
the database computes in double precision; it is a parameter (`loadRatio`).
-/

namespace DarkTower.Gc

open DarkTower.Lib

/-- The statuses of the service, with their messages. -/
inductive Status
  | invalidArgument (message : String)
  | notFound (message : String)
  | internal (message : String)
deriving DecidableEq

/-- A row of `media_handlers`. -/
structure MediaHandler where
  handlerId : String
  region : String
  webtransportEndpoint : String
  grpcEndpoint : String
  maxStreams : Int32
  currentStreams : Int32
  healthStatus : HealthStatus
  lastHeartbeatAt : ℤ
deriving DecidableEq

/-- The table, with its primary key. -/
structure HandlerTable where
  rows : List MediaHandler
  handlerKey : (rows.map (·.handlerId)).Nodup

/-- The arguments of `register_mh`. -/
structure MhRegistration where
  handlerId : String
  region : String
  webtransportEndpoint : String
  grpcEndpoint : String
  maxStreams : Int32
deriving DecidableEq

/-- The row that `register_mh` inserts; `current_streams` is the column's default. -/
def MhRegistration.newRow (now : ℤ) (r : MhRegistration) : MediaHandler where
  handlerId := r.handlerId
  region := r.region
  webtransportEndpoint := r.webtransportEndpoint
  grpcEndpoint := r.grpcEndpoint
  maxStreams := r.maxStreams
  currentStreams := 0
  healthStatus := .pending
  lastHeartbeatAt := now

/-- The `DO UPDATE` of `register_mh`, on the row with its id. -/
def MhRegistration.updateRow (now : ℤ) (r : MhRegistration) (m : MediaHandler) : MediaHandler :=
  if m.handlerId = r.handlerId then
    { m with
      region := r.region
      webtransportEndpoint := r.webtransportEndpoint
      grpcEndpoint := r.grpcEndpoint
      maxStreams := r.maxStreams
      healthStatus := .pending
      lastHeartbeatAt := now }
  else m

theorem MhRegistration.updateRow_handlerId (now : ℤ) (r : MhRegistration) (m : MediaHandler) :
    (r.updateRow now m).handlerId = m.handlerId := by
  unfold updateRow
  split_ifs <;> rfl

/-- The update of `update_load_report`, on the row with the given id. -/
def loadReportRow (now : ℤ) (handlerId : String) (currentStreams : Int32)
    (healthStatus : HealthStatus) (m : MediaHandler) : MediaHandler :=
  if m.handlerId = handlerId then
    { m with currentStreams, healthStatus, lastHeartbeatAt := now }
  else m

theorem loadReportRow_handlerId (now : ℤ) (handlerId : String) (currentStreams : Int32)
    (healthStatus : HealthStatus) (m : MediaHandler) :
    (loadReportRow now handlerId currentStreams healthStatus m).handlerId = m.handlerId := by
  unfold loadReportRow
  split_ifs <;> rfl

/-- The update of `mark_stale_handlers_unhealthy`. -/
def markHandlerRow (now stalenessThresholdSeconds : ℤ) (m : MediaHandler) : MediaHandler :=
  if m.lastHeartbeatAt < secondsBefore now stalenessThresholdSeconds ∧
      m.healthStatus ≠ .unhealthy ∧ m.healthStatus ≠ .draining then
    { m with healthStatus := .unhealthy }
  else m

theorem markHandlerRow_handlerId (now stalenessThresholdSeconds : ℤ) (m : MediaHandler) :
    (markHandlerRow now stalenessThresholdSeconds m).handlerId = m.handlerId := by
  unfold markHandlerRow
  split_ifs <;> rfl

namespace HandlerTable

/-- No rows. -/
def empty : HandlerTable := ⟨[], List.nodup_nil⟩

variable (t : HandlerTable)

/-- An update that keeps the ids. -/
def updateRows (f : MediaHandler → MediaHandler) (hf : ∀ m, (f m).handlerId = m.handlerId) :
    HandlerTable where
  rows := t.rows.map f
  handlerKey := by
    have hids : (fun m : MediaHandler => m.handlerId) ∘ f = fun m => m.handlerId := by
      funext m
      exact hf m
    rw [List.map_map, hids]
    exact t.handlerKey

/-- A new row. -/
def insertRow (m : MediaHandler) (h : ∀ m' ∈ t.rows, m'.handlerId ≠ m.handlerId) :
    HandlerTable where
  rows := m :: t.rows
  handlerKey := by
    rw [List.map_cons, List.nodup_cons]
    refine ⟨fun hmem => ?_, t.handlerKey⟩
    obtain ⟨m', hm', hid⟩ := List.mem_map.mp hmem
    exact h m' hm' hid

/-- `register_mh` (media_handlers.rs:84). -/
def registerMh (now : ℤ) (r : MhRegistration) : HandlerTable :=
  if h : ∀ m ∈ t.rows, m.handlerId ≠ r.handlerId then t.insertRow (r.newRow now) h
  else t.updateRows (r.updateRow now) (r.updateRow_handlerId now)

/-- `update_load_report` (media_handlers.rs:156), with whether a row was updated. -/
def updateLoadReport (now : ℤ) (handlerId : String) (currentStreams : Int32)
    (healthStatus : HealthStatus) : HandlerTable × Bool :=
  (t.updateRows (loadReportRow now handlerId currentStreams healthStatus)
      (loadReportRow_handlerId now handlerId currentStreams healthStatus),
    t.rows.any fun m => m.handlerId = handlerId)

/-- `mark_stale_handlers_unhealthy` (media_handlers.rs:231). -/
def markStaleHandlersUnhealthy (now stalenessThresholdSeconds : ℤ) : HandlerTable :=
  t.updateRows (markHandlerRow now stalenessThresholdSeconds)
    (markHandlerRow_handlerId now stalenessThresholdSeconds)

end HandlerTable

/-! ## `get_candidate_mhs` -/

/-- `DEFAULT_HEARTBEAT_STALENESS_SECONDS` (media_handlers.rs:26). -/
def mhHeartbeatStalenessSeconds : ℤ := 30

/-- `LOAD_BALANCING_CANDIDATE_COUNT` (media_handlers.rs:29). -/
def mhCandidateCount : ℕ := 5

/-- A healthy handler of the region with a recent heartbeat. -/
def MediaHandler.Available (now : ℤ) (region : String) (m : MediaHandler) : Prop :=
  m.healthStatus = .healthy ∧ m.region = region ∧
    secondsBefore now mhHeartbeatStalenessSeconds < m.lastHeartbeatAt

instance (now : ℤ) (region : String) (m : MediaHandler) : Decidable (m.Available now region) :=
  inferInstanceAs (Decidable (_ ∧ _ ∧ _))

/-- The `WHERE` of `get_candidate_mhs`. -/
def MediaHandler.IsMhCandidate (now : ℤ) (region : String) (m : MediaHandler) : Prop :=
  m.Available now region ∧ m.currentStreams < m.maxStreams

instance (now : ℤ) (region : String) (m : MediaHandler) : Decidable (m.IsMhCandidate now region) :=
  inferInstanceAs (Decidable (_ ∧ _))

/-- The column `load_ratio`; `loadRatio` is `current_streams::float / max_streams`. -/
def MediaHandler.ratio (loadRatio : Int32 → Int32 → ℚ) (m : MediaHandler) : ℚ :=
  if m.maxStreams = 0 then 1 else loadRatio m.currentStreams m.maxStreams

/-- `ORDER BY load_ratio ASC, last_heartbeat_at DESC`. -/
def CandidateOrder (loadRatio : Int32 → Int32 → ℚ) (a b : MediaHandler) : Prop :=
  a.ratio loadRatio < b.ratio loadRatio ∨
    a.ratio loadRatio = b.ratio loadRatio ∧ b.lastHeartbeatAt ≤ a.lastHeartbeatAt

open scoped List in
/-- `get_candidate_mhs` (media_handlers.rs:283) can return `candidates`: the first rows
    of the ones that satisfy its condition, in its order. -/
def HandlerTable.GetCandidateMhs (loadRatio : Int32 → Int32 → ℚ) (t : HandlerTable) (now : ℤ)
    (region : String) (candidates : List MhCandidate) : Prop :=
  ∃ order, order ~ t.rows.filter (·.IsMhCandidate now region) ∧
    order.Pairwise (CandidateOrder loadRatio) ∧
    candidates = (order.take mhCandidateCount).map fun m =>
      ⟨m.handlerId, m.webtransportEndpoint, m.grpcEndpoint⟩

/-! ## The service -/

/-- `DEFAULT_LOAD_REPORT_INTERVAL_MS` (mh_service.rs:25). -/
def defaultLoadReportIntervalMs : ℕ := 10000

/-- `MAX_HANDLER_ID_LENGTH` (mh_service.rs:28). -/
def maxHandlerIdLength : ℕ := 255

/-- `MAX_REGION_LENGTH` (mh_service.rs:31). -/
def maxRegionLength : ℕ := 50

/-- `MAX_ENDPOINT_LENGTH` (mh_service.rs:34). -/
def maxEndpointLength : ℕ := 255

/-- `validate_handler_id` (mh_service.rs:55). -/
def validateHandlerId (id : String) : Except Status Unit :=
  if id = "" then .error (.invalidArgument "handler_id is required")
  else if maxHandlerIdLength < id.utf8ByteSize then
    .error (.invalidArgument "handler_id is too long")
  else if !id.toList.all (fun c => Unicode.isAlphanumeric c || c == '-' || c == '_') then
    .error (.invalidArgument "handler_id contains invalid characters")
  else .ok ()

/-- `validate_region` (mh_service.rs:78). -/
def validateRegion (region : String) : Except Status Unit :=
  if region = "" then .error (.invalidArgument "region is required")
  else if maxRegionLength < region.utf8ByteSize then
    .error (.invalidArgument "region is too long")
  else .ok ()

/-- `validate_endpoint` (mh_service.rs:96). -/
def validateEndpoint (endpoint fieldName : String) : Except Status Unit :=
  if endpoint = "" then .error (.invalidArgument (fieldName ++ " is required"))
  else if maxEndpointLength < endpoint.utf8ByteSize then
    .error (.invalidArgument (fieldName ++ " is too long"))
  else if !"http://".toList.isPrefixOf endpoint.toList &&
      !"https://".toList.isPrefixOf endpoint.toList &&
      !"grpc://".toList.isPrefixOf endpoint.toList then
    .error (.invalidArgument
      (fieldName ++ " must be a valid URL with http, https, or grpc scheme"))
  else .ok ()

/-- `RegisterMhRequest`. -/
structure RegisterMhRequest where
  handlerId : String
  region : String
  webtransportEndpoint : String
  grpcEndpoint : String
  maxStreams : UInt32
deriving DecidableEq

/-- `RegisterMhResponse`. -/
structure RegisterMhResponse where
  accepted : Bool
  message : String
  loadReportIntervalMs : ℕ
deriving DecidableEq

/-- `SendLoadReportRequest`. -/
structure SendLoadReportRequest where
  handlerId : String
  currentStreams : UInt32
  health : Int32
deriving DecidableEq

/-- `SendLoadReportResponse`. -/
structure SendLoadReportResponse where
  acknowledged : Bool
  timestamp : ℤ
deriving DecidableEq

/-- What becomes of a statement: it runs, it fails, or it runs and its answer is lost. -/
inductive StatementOutcome
  | done
  | failed
  | lost
deriving DecidableEq

/-- The checks of `register_mh` (mh_service.rs:141–153). -/
def RegisterMhRequest.validate (req : RegisterMhRequest) : Except Status Unit := do
  validateHandlerId req.handlerId
  validateRegion req.region
  validateEndpoint req.webtransportEndpoint "webtransport_endpoint"
  validateEndpoint req.grpcEndpoint "grpc_endpoint"
  if req.maxStreams = 0 then
    throw (.invalidArgument "max_streams must be greater than 0")

/-- What `register_mh` passes to the repository: `max_streams as i32`. -/
def RegisterMhRequest.registration (req : RegisterMhRequest) : MhRegistration where
  handlerId := req.handlerId
  region := req.region
  webtransportEndpoint := req.webtransportEndpoint
  grpcEndpoint := req.grpcEndpoint
  maxStreams := req.maxStreams.toInt32

/-- `register_mh` (mh_service.rs:135). -/
def registerMh (now : ℤ) (req : RegisterMhRequest) (outcome : StatementOutcome)
    (t : HandlerTable) : HandlerTable × Except Status RegisterMhResponse :=
  match req.validate with
  | .error e => (t, .error e)
  | .ok () =>
    match outcome with
    | .done => (t.registerMh now req.registration,
        .ok ⟨true, "Registered successfully", defaultLoadReportIntervalMs⟩)
    | .failed => (t, .error (.internal "Registration failed"))
    | .lost => (t.registerMh now req.registration, .error (.internal "Registration failed"))

/-- The health of a load report (mh_service.rs:205). -/
def healthOfReport (health : Int32) : HealthStatus :=
  if health = 0 then .pending
  else if health = 1 then .healthy
  else if health = 2 then .degraded
  else if health = 3 then .unhealthy
  else if health = 4 then .draining
  else .pending

/-- `send_load_report` (mh_service.rs:192). -/
def sendLoadReport (now : ℤ) (req : SendLoadReportRequest) (outcome : StatementOutcome)
    (t : HandlerTable) : HandlerTable × Except Status SendLoadReportResponse :=
  match validateHandlerId req.handlerId with
  | .error e => (t, .error e)
  | .ok () =>
    let r := t.updateLoadReport now req.handlerId req.currentStreams.toInt32
      (healthOfReport req.health)
    match outcome with
    | .done =>
      if r.2 then (r.1, .ok ⟨true, now / 1000000⟩)
      else (r.1, .error (.notFound "Handler not registered"))
    | .failed => (t, .error (.internal "Load report update failed"))
    | .lost => (r.1, .error (.internal "Load report update failed"))

end DarkTower.Gc
