import DarkTower.Gc.AssignMeeting
import DarkTower.Mc.Assignment

/-!
# The two stores of a meeting's placement

The calls of `assign_meeting_with_mh` of the global controllers for one meeting
in one region, together with the meeting controllers they ask
(`mc-service/src/grpc/mc_service.rs:205`) and the keys of the meeting in Redis.
A request runs at its controller in steps of its own: the capacity check, each
Redis command, the creation of the meeting and the count interleave with
everything else, also after the call has given it up.

* A call sends each request to the controller it has selected, and a request is
  answered at most once. A call whose request fails does not know how far it got.
* A controller can do anything else at any time, but it creates and removes this
  meeting for requests only.
* `storesStep_cases`: everything a step can do.
-/

namespace DarkTower.Gc

open DarkTower.Lib

/-- What the system is about and what it rests on: the meeting, the Redis server,
    the JSON text of an assignment and the threshold of the health checker. -/
structure StoresSetting where
  meetingId : String
  region : String
  server : Mc.Redis.Server
  encode : List Mc.MhEndpointInfo → ℕ → String
  stalenessThreshold : ℤ

/-- A meeting controller as a request finds it. -/
structure McServer where
  service : Mc.AssignmentService
  controller : Mc.MeetingController
  /-- The message loop of the controller runs. -/
  running : Bool

/-- Where a request stands. -/
inductive RequestPc
  | sent
  /-- `store_mh_assignment` waits for `INCREMENT_GENERATION`. -/
  | incrementing (now : ℕ)
  /-- `store_mh_assignment` waits for `FENCED_WRITE`. -/
  | writing (now generation : ℕ)
  | creating (now : ℕ)
  /-- Has created the meeting and not counted it. -/
  | counting
  /-- `delete_mh_assignment` waits for `GET`. -/
  | reading
  /-- `delete_mh_assignment` waits for `FENCED_DELETE`. -/
  | deleting (generation : ℕ)
  | answered (response : Mc.AssignMeetingWithMhResponse)
  /-- The handler was dropped. -/
  | cancelled
deriving DecidableEq

/-- A request of a call to a controller. -/
structure McRequest where
  call : ℕ
  controllerId : String
  mhAssignments : List Mc.MhEndpointInfo
  pc : RequestPc
deriving DecidableEq

/-- The three places that hold the assignments of a meeting: the tables of the Global Controllers,
    Redis, and the Meeting Controllers, with the requests under way between them. -/
structure MeetingStores where
  gc : GcSystem
  servers : AList fun _ : String => McServer
  /-- The keys of the meeting in Redis. -/
  keys : Mc.Redis.MeetingKeys
  requests : AList fun _ : ℕ => McRequest
  /-- The request whose answer a call waits for. -/
  awaits : ℕ → Option ℕ
  /-- The handlers in the request that each controller has accepted last, and the
      time it stored them. -/
  accepted : String → Option (List Mc.MhEndpointInfo × ℕ)

/-- A step of a Global Controller, of a Meeting Controller, or of Redis. -/
inductive StoresEvent
  /-- A step of the global controllers other than an answer to a request. -/
  | gc (e : AssignEvent)
  | send (call request : ℕ)
  /-- The controller receives a request and checks its capacity. -/
  | receive (request now : ℕ)
  /-- Redis executes the command of a request. -/
  | redis (request : ℕ)
  | redisFail (request : ℕ) (executed : Bool) (error : String)
  /-- The controller answers the `CreateMeeting` of a request. -/
  | create (request now : ℕ)
  | count (request : ℕ)
  | cancel (request : ℕ)
  /-- The answer to its request reaches a call. -/
  | reply (call : ℕ)
  /-- The request of a call fails. -/
  | rpcError (call : ℕ) (error : GcError)
  /-- A controller does something else. -/
  | serverChanges (controllerId : String) (m : McServer)

/-- `assign_meeting_with_mh` up to its first Redis command. -/
def McServer.firstPc (m : McServer) (now : ℕ) (mhAssignments : List Mc.MhEndpointInfo) : RequestPc :=
  match m.service.canAcceptMeeting with
  | some reason => .answered ⟨false, reason⟩
  | none =>
    match Mc.validateMhAssignments mhAssignments with
    | .error _ => .answered ⟨false, .unhealthy⟩
    | .ok _ => .incrementing now

/-- The Redis command that a request waits for. -/
def McRequest.command (encode : List Mc.MhEndpointInfo → ℕ → String) (q : McRequest) :
    Option Mc.Redis.Waiting :=
  match q.pc with
  | .incrementing now => some (.storeIncrement (encode q.mhAssignments now))
  | .writing now generation => some (.storeWrite generation (encode q.mhAssignments now))
  | .reading => some .deleteGet
  | .deleting generation => some (.deleteFenced generation)
  | _ => none

/-- A request after its Redis command. -/
def RequestPc.next (pc : RequestPc) (result : Mc.Redis.Waiting ⊕ Except Mc.McError Mc.Redis.Outcome) :
    RequestPc :=
  match pc, result with
  | .incrementing now, .inl (.storeWrite generation _) => .writing now generation
  | .writing now _, .inr (.ok _) => .creating now
  | .reading, .inl (.deleteFenced generation) => .deleting generation
  | _, _ => .answered ⟨false, .unhealthy⟩

/-- `McRejectionReason::from` (mc_client.rs:49). -/
def McRejectionReason.ofProto : Mc.RejectionReason → McRejectionReason
  | .atCapacity => .atCapacity
  | .draining => .draining
  | .unhealthy => .unhealthy
  | .unspecified => .unspecified

/-- The result of `assign_meeting` (mc_client.rs:207). -/
def assignResult (response : Mc.AssignMeetingWithMhResponse) : McAssignmentResult :=
  if response.accepted then .accepted else .rejected (.ofProto response.rejectionReason)

/-- `MhAssignment` of a selected handler (mc_client.rs:166). -/
def MhAssignmentInfo.toProto (info : MhAssignmentInfo) : Mc.MhEndpointInfo :=
  ⟨info.mhId, info.webtransportEndpoint, info.grpcEndpoint⟩

namespace MeetingStores

variable (P : StoresSetting) (s : MeetingStores)

/-- The row of the meeting in `meeting_assignments`. -/
def row : Option AssignmentRow := s.gc.tables.assignment P.meetingId P.region

/-- The controller has the meeting. -/
def Live (controllerId : String) : Prop :=
  ∃ m ∈ s.servers.lookup controllerId, P.meetingId ∈ m.controller.meetings

instance (controllerId : String) : Decidable (s.Live P controllerId) :=
  inferInstanceAs (Decidable (∃ m ∈ s.servers.lookup controllerId,
    P.meetingId ∈ m.controller.meetings))

/-! ## Steps -/

/-- A request goes on as `q`. -/
def setRequest (request : ℕ) (q : McRequest) : MeetingStores :=
  { s with requests := s.requests.insert request q }

/-- A step of the global controllers. -/
def gcStep (e : AssignEvent) : MeetingStores :=
  { s with gc := s.gc.step P.stalenessThreshold P.meetingId P.region e }

/-- An answer reaches a call, or its request fails. -/
def answer (call : ℕ) (result : Except GcError McAssignmentResult) : MeetingStores :=
  { s.gcStep P (.call call (.assignMeeting result)) with
    awaits := Function.update s.awaits call none }

/-- A call sends its request to the controller that it has selected. -/
def send (call request : ℕ) : MeetingStores :=
  match s.gc.calls.lookup call, s.requests.lookup request, s.awaits call with
  | some ⟨_, .assignMeeting loop selectedMc⟩, none, none =>
    { s.setRequest request ⟨call, selectedMc.controllerId,
        loop.mhSelection.handlers.map (·.toProto), .sent⟩ with
      awaits := Function.update s.awaits call (some request) }
  | _, _, _ => s

/-- A controller takes a request and checks its capacity and its handlers. -/
def receive (request now : ℕ) (q : McRequest) : MeetingStores :=
  match q.pc, s.servers.lookup q.controllerId with
  | .sent, some m => s.setRequest request { q with pc := m.firstPc now q.mhAssignments }
  | _, _ => s

/-- Redis executes the command that a request waits for. -/
def redis (request : ℕ) (q : McRequest) : MeetingStores :=
  match q.command P.encode with
  | none => s
  | some waiting =>
    let r := waiting.run P.server s.keys
    { s.setRequest request { q with pc := q.pc.next r.2.2 } with keys := r.1 }

/-- The command of a request fails, before or after Redis has executed it. -/
def redisFail (request : ℕ) (executed : Bool) (error : String) (q : McRequest) : MeetingStores :=
  match q.command P.encode with
  | none => s
  | some waiting =>
    { s.setRequest request
        { q with pc := q.pc.next (.inr (.error (.redis (waiting.errorText ++ error)))) } with
      keys := if executed then (waiting.run P.server s.keys).1 else s.keys }

/-- The controller creates the meeting of a request, or it refuses. -/
def create (request now : ℕ) (q : McRequest) : MeetingStores :=
  match q.pc, s.servers.lookup q.controllerId with
  | .creating storedAt, some m =>
    match Mc.createMeetingCall m.running m.controller now P.meetingId with
    | (controller, .ok ()) =>
      { s.setRequest request { q with pc := .counting } with
        servers := s.servers.insert q.controllerId { m with controller }
        accepted := Function.update s.accepted q.controllerId (some (q.mhAssignments, storedAt)) }
    | (controller, .error _) =>
      { s.setRequest request { q with pc := .reading } with
        servers := s.servers.insert q.controllerId { m with controller } }
  | _, _ => s

/-- The controller counts the meeting of a request and answers it. -/
def count (request : ℕ) (q : McRequest) : MeetingStores :=
  match q.pc, s.servers.lookup q.controllerId with
  | .counting, some m =>
    { s.setRequest request { q with pc := .answered ⟨true, .unspecified⟩ } with
      servers := s.servers.insert q.controllerId { m with service := m.service.countMeeting } }
  | _, _ => s

/-- A request ends without an answer. -/
def cancel (request : ℕ) (q : McRequest) : MeetingStores :=
  match q.pc with
  | .answered _ => s
  | _ => s.setRequest request { q with pc := .cancelled }

/-- The answer to its request reaches a call. -/
def reply (call : ℕ) : MeetingStores :=
  match (s.awaits call).bind s.requests.lookup with
  | some ⟨_, _, _, .answered response⟩ => s.answer P call (.ok (assignResult response))
  | _ => s

/-- A request goes on, or there is none. -/
def onRequest (request : ℕ) (f : McRequest → MeetingStores) : MeetingStores :=
  match s.requests.lookup request with
  | none => s
  | some q => f q

/-- One step. -/
def step : StoresEvent → MeetingStores
  | .gc e => s.gcStep P e
  | .send call request => s.send call request
  | .receive request now => s.onRequest request (s.receive request now)
  | .redis request => s.onRequest request (s.redis P request)
  | .redisFail request executed error => s.onRequest request (s.redisFail P request executed error)
  | .create request now => s.onRequest request (s.create P request now)
  | .count request => s.onRequest request (s.count request)
  | .cancel request => s.onRequest request (s.cancel request)
  | .reply call => s.reply P call
  | .rpcError call error => s.answer P call (.error error)
  | .serverChanges controllerId m => { s with servers := s.servers.insert controllerId m }

/-- What the environment promises of an event. -/
def Admits : StoresEvent → Prop
  | .gc e =>
    s.gc.Admits P.stalenessThreshold P.meetingId P.region e ∧
      ∀ call result, e ≠ .call call (.assignMeeting result)
  | .serverChanges controllerId m => P.meetingId ∈ m.controller.meetings ↔ s.Live P controllerId
  | _ => True

/-! ## What a step can do -/

/-- Everything a step can do. -/
inductive StoresCase : StoresEvent → MeetingStores → Prop
  | stutter (e : StoresEvent) : StoresCase e s
  | gc (e : AssignEvent) : StoresCase (.gc e) (s.gcStep P e)
  | sent (call request : ℕ) (gcId : String) (loop : Attempts) (selectedMc : McCandidate)
      (hcall : s.gc.calls.lookup call = some ⟨gcId, .assignMeeting loop selectedMc⟩)
      (hrequest : s.requests.lookup request = none) (hawaits : s.awaits call = none) :
      StoresCase (.send call request)
        { s.setRequest request ⟨call, selectedMc.controllerId,
            loop.mhSelection.handlers.map (·.toProto), .sent⟩ with
          awaits := Function.update s.awaits call (some request) }
  | refused (request now : ℕ) (q : McRequest) (response : Mc.AssignMeetingWithMhResponse)
      (hq : s.requests.lookup request = some q) (hpc : q.pc = .sent)
      (hresponse : response.accepted = false) :
      StoresCase (.receive request now) (s.setRequest request { q with pc := .answered response })
  | started (request now : ℕ) (q : McRequest) (m : McServer)
      (hq : s.requests.lookup request = some q) (hpc : q.pc = .sent)
      (hserver : s.servers.lookup q.controllerId = some m)
      (hfirst : m.firstPc now q.mhAssignments = .incrementing now) :
      StoresCase (.receive request now) (s.setRequest request { q with pc := .incrementing now })
  | ran (request : ℕ) (q : McRequest) (waiting : Mc.Redis.Waiting)
      (hq : s.requests.lookup request = some q) (hcommand : q.command P.encode = some waiting) :
      StoresCase (.redis request)
        { s.setRequest request { q with pc := q.pc.next (waiting.run P.server s.keys).2.2 } with
          keys := (waiting.run P.server s.keys).1 }
  | commandFailed (request : ℕ) (executed : Bool) (error : String) (q : McRequest)
      (waiting : Mc.Redis.Waiting) (hq : s.requests.lookup request = some q)
      (hcommand : q.command P.encode = some waiting) :
      StoresCase (.redisFail request executed error)
        { s.setRequest request { q with pc := .answered ⟨false, .unhealthy⟩ } with
          keys := if executed then (waiting.run P.server s.keys).1 else s.keys }
  | created (request now storedAt : ℕ) (q : McRequest) (m : McServer)
      (hq : s.requests.lookup request = some q) (hpc : q.pc = .creating storedAt)
      (hserver : s.servers.lookup q.controllerId = some m)
      (hcreates : ¬ Mc.RefusesCreation m.running m.controller P.meetingId) :
      StoresCase (.create request now)
        { s.setRequest request { q with pc := .counting } with
          servers := s.servers.insert q.controllerId { m with
            controller := { m.controller with
              meetings := m.controller.meetings.insert P.meetingId ⟨.running, now⟩ } }
          accepted := Function.update s.accepted q.controllerId (some (q.mhAssignments, storedAt)) }
  | creationRefused (request now storedAt : ℕ) (q : McRequest) (m : McServer)
      (hq : s.requests.lookup request = some q) (hpc : q.pc = .creating storedAt)
      (hserver : s.servers.lookup q.controllerId = some m)
      (hrefuses : Mc.RefusesCreation m.running m.controller P.meetingId) :
      StoresCase (.create request now)
        { s.setRequest request { q with pc := .reading } with
          servers := s.servers.insert q.controllerId m }
  | counted (request : ℕ) (q : McRequest) (m : McServer)
      (hq : s.requests.lookup request = some q) (hpc : q.pc = .counting)
      (hserver : s.servers.lookup q.controllerId = some m) :
      StoresCase (.count request)
        { s.setRequest request { q with pc := .answered ⟨true, .unspecified⟩ } with
          servers := s.servers.insert q.controllerId { m with service := m.service.countMeeting } }
  | cancelled (request : ℕ) (q : McRequest) (hq : s.requests.lookup request = some q)
      (hpc : ∀ response, q.pc ≠ .answered response) :
      StoresCase (.cancel request) (s.setRequest request { q with pc := .cancelled })
  | replied (call request : ℕ) (q : McRequest) (response : Mc.AssignMeetingWithMhResponse)
      (hawaits : s.awaits call = some request) (hq : s.requests.lookup request = some q)
      (hpc : q.pc = .answered response) :
      StoresCase (.reply call) (s.answer P call (.ok (assignResult response)))
  | lost (call : ℕ) (error : GcError) :
      StoresCase (.rpcError call error) (s.answer P call (.error error))
  | serverChanges (controllerId : String) (m : McServer) :
      StoresCase (.serverChanges controllerId m)
        { s with servers := s.servers.insert controllerId m }

theorem receive_cases {request now : ℕ} {q : McRequest}
    (hq : s.requests.lookup request = some q) :
    s.StoresCase P (.receive request now) (s.receive request now q) := by
  unfold receive
  split
  · rename_i m hpc hserver
    unfold McServer.firstPc
    split
    · exact .refused request now q _ hq hpc rfl
    · rename_i haccept
      split
      · exact .refused request now q _ hq hpc rfl
      · rename_i handlers hvalid
        refine .started request now q m hq hpc hserver ?_
        simp only [McServer.firstPc, haccept, hvalid]
  · exact .stutter _

theorem create_cases {request now : ℕ} {q : McRequest}
    (hq : s.requests.lookup request = some q) :
    s.StoresCase P (.create request now) (s.create P request now q) := by
  unfold create
  split
  · rename_i storedAt m hpc hserver
    rcases Mc.createMeetingCall_cases m.running m.controller now P.meetingId with
      ⟨hrefuses, e, hcall⟩ | ⟨hcreates, hcall⟩
    · rw [hcall]
      exact .creationRefused request now storedAt q m hq hpc hserver hrefuses
    · rw [hcall]
      exact .created request now storedAt q m hq hpc hserver hcreates
  · exact .stutter _

theorem redisFail_cases {request : ℕ} {executed : Bool} {error : String} {q : McRequest}
    (hq : s.requests.lookup request = some q) :
    s.StoresCase P (.redisFail request executed error)
      (s.redisFail P request executed error q) := by
  unfold redisFail
  split
  · exact .stutter _
  · rename_i waiting hcommand
    have hnext : ∀ e, q.pc.next (.inr (.error e)) = .answered ⟨false, .unhealthy⟩ := by
      intro e
      cases q.pc <;> rfl
    rw [hnext]
    exact .commandFailed request executed error q waiting hq hcommand

theorem storesStep_cases (e : StoresEvent) : s.StoresCase P e (s.step P e) := by
  have hrequest : ∀ {e : StoresEvent} (request : ℕ) (f : McRequest → MeetingStores),
      (∀ q, s.requests.lookup request = some q → s.StoresCase P e (f q)) →
        s.StoresCase P e (s.onRequest request f) := by
    intro e request f hf
    unfold onRequest
    split
    · exact .stutter _
    · rename_i q hq
      exact hf q hq
  cases e with
  | gc e => exact .gc e
  | send call request =>
    show s.StoresCase P _ (s.send call request)
    unfold send
    split
    · rename_i gcId loop selectedMc hcall hnone hawaits
      exact .sent call request gcId loop selectedMc hcall hnone hawaits
    · exact .stutter _
  | receive request now => exact hrequest request _ fun q hq => receive_cases P s hq
  | redis request =>
    refine hrequest request _ fun q hq => ?_
    unfold redis
    split
    · exact .stutter _
    · rename_i waiting hcommand
      exact .ran request q waiting hq hcommand
  | redisFail request executed error =>
    exact hrequest request _ fun q hq => redisFail_cases P s hq
  | create request now => exact hrequest request _ fun q hq => create_cases P s hq
  | count request =>
    refine hrequest request _ fun q hq => ?_
    unfold count
    split
    · rename_i m hpc hserver
      exact .counted request q m hq hpc hserver
    · exact .stutter _
  | cancel request =>
    refine hrequest request _ fun q hq => ?_
    unfold cancel
    split
    · exact .stutter _
    · rename_i hpc
      exact .cancelled request q hq hpc
  | reply call =>
    show s.StoresCase P _ (s.reply P call)
    unfold reply
    split
    · rename_i call' controllerId mhAssignments response hfound
      obtain ⟨request, hawaits, hq⟩ := Option.bind_eq_some_iff.mp hfound
      exact .replied call request _ response hawaits hq rfl
    · exact .stutter _
  | rpcError call error => exact .lost call error
  | serverChanges controllerId m => exact .serverChanges controllerId m

end MeetingStores

/-- The system from a state without calls and requests on. -/
def storesMachine (P : StoresSetting) (t₀ : Tables) (servers : AList fun _ : String => McServer)
    (keys : Mc.Redis.MeetingKeys) (accepted : String → Option (List Mc.MhEndpointInfo × ℕ)) :
    Machine MeetingStores StoresEvent Unit where
  init := ⟨⟨t₀, ∅⟩, servers, keys, ∅, fun _ => none, accepted⟩
  step s e := (s.step P e, ())
  allowed _ s e := s.Admits P e

end DarkTower.Gc
