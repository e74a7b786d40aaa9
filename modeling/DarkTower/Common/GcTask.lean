import DarkTower.Common.Time
import DarkTower.Lib.Machine

/-!
# The task that keeps a service registered with the global controller

`run_gc_task` of the meeting controller (`mc-service/src/main.rs:429`) and of the
media handler (`mh-service/src/main.rs:305`): registration until it succeeds, then
heartbeats at ticks, with one attempt to register again when a heartbeat is
answered `NOT_FOUND`. The client (`grpc/gc_client.rs` of each service) keeps the
flag `is_registered`.

* The order of the ticks and the answers of the global controller are events; the
  intervals, back-offs, logs and metrics only affect when they happen.
* A tick issues the calls in its answer; a call whose authorisation header cannot
  be built is made and fails before anything is sent.

`notStuck_along_iff`: all along a run every state of the heartbeat loop without
registration issues a registration call at its next tick, iff every attempt to
register again is accepted. A tick without registration issues nothing
(`unregistered_tick`), so one failed attempt is final (`failedAttempt_stuck`).
-/

namespace DarkTower.Common.Gc

open DarkTower.Lib

/-- The services that register. -/
inductive GcService
  | mc
  | mh
deriving DecidableEq

/-- The reports of a service. -/
inductive Heartbeat
  | fast
  | comprehensive
  | loadReport
deriving DecidableEq

/-- The tickers of the heartbeat loop. -/
def GcService.heartbeats : GcService → List Heartbeat
  | .mc => [.fast, .comprehensive]
  | .mh => [.loadReport]

/-- The text before the status of a failed heartbeat. -/
def Heartbeat.failed : Heartbeat → String
  | .fast => "Fast heartbeat failed: "
  | .comprehensive => "Comprehensive heartbeat failed: "
  | .loadReport => "SendLoadReport failed: "

/-- A `tonic::Code`, as far as the clients look at it. -/
inductive Code
  | notFound
  | other
deriving DecidableEq

/-- How a call ends. -/
inductive RpcReply (ρ : Type)
  | response (response : ρ)
  | status (code : Code) (text : String)
  /-- `add_auth` fails. -/
  | unsent (text : String)
deriving DecidableEq

/-- `RegisterMcResponse` and `RegisterMhResponse`. -/
structure RegisterResponse where
  accepted : Bool
  message : String
deriving DecidableEq

/-- The variants of `McError` and `MhError` that the clients return. -/
inductive ClientError
  | grpc (message : String)
  | notRegistered
  | config (message : String)
deriving DecidableEq

/-- The calls a client makes. -/
inductive GcCall
  | register
  | heartbeat (heartbeat : Heartbeat)
deriving DecidableEq

/-- `GcClient` of either service. -/
structure GcClient where
  isRegistered : Bool
deriving DecidableEq

/-- The error where the header for the token cannot be made. -/
def headerFailed (text : String) : ClientError :=
  .config ("Authorization header parse failed: " ++ text)

namespace GcService

/-- `try_register` of the service. -/
def tryRegister (service : GcService) : RpcReply RegisterResponse → Except ClientError RegisterResponse
  | .response response => .ok response
  | .status _ text =>
    match service with
    | .mc => .error (.grpc ("RegisterMC RPC failed: " ++ text))
    | .mh => .error (.grpc ("RegisterMH failed: " ++ text))
  | .unsent text => .error (headerFailed text)

/-- The error for a rejected registration. -/
def rejected (service : GcService) (message : String) : ClientError :=
  match service with
  | .mc => .config message
  | .mh => .grpc message

end GcService

/-! ## The first registration -/

/-- `MAX_REGISTRATION_RETRIES` and `MAX_REGISTRATION_DURATION`
    (mc-service/src/grpc/gc_client.rs:54, 60). -/
def maxRegistrationRetries : ℕ := 20

/-- `MAX_REGISTRATION_DURATION` (gc_client.rs:60). -/
def maxRegistrationDuration : ℕ := fromSecs 300

/-- The locals of `register`. The media handler has no limits. -/
structure RegisterCall where
  retryCount : ℕ
  deadline : ℕ
deriving DecidableEq

/-- A turn of the loop of `register` goes on or returns. -/
inductive Turn
  | again (call : RegisterCall)
  | returned (result : Except ClientError Unit)

/-- A turn of the loop of `register` (mc-service/src/grpc/gc_client.rs:206). -/
def mcRegister (client : GcClient) (call : RegisterCall) (now : ℕ)
    (reply : RpcReply RegisterResponse) : GcClient × List GcCall × Turn :=
  if call.deadline ≤ now then
    (client, [], .returned (.error (.config "Registration failed after 300s deadline")))
  else
    match GcService.mc.tryRegister reply with
    | .ok response =>
      if response.accepted then (⟨true⟩, [.register], .returned (.ok ()))
      else
        (client, [.register], .returned
          (.error (GcService.mc.rejected ("GC rejected registration: " ++ response.message))))
    | .error e =>
      let call := { call with retryCount := call.retryCount + 1 }
      if maxRegistrationRetries ≤ call.retryCount then
        (client, [.register], .returned (.error e))
      else (client, [.register], .again call)

/-- A turn of the loop of `register` (mh-service/src/grpc/gc_client.rs:145). -/
def mhRegister (client : GcClient) (call : RegisterCall) (reply : RpcReply RegisterResponse) :
    GcClient × List GcCall × Turn :=
  match GcService.mh.tryRegister reply with
  | .ok response =>
    if response.accepted then (⟨true⟩, [.register], .returned (.ok ()))
    else
      (client, [.register], .returned
        (.error (GcService.mh.rejected ("GC rejected registration: " ++ response.message))))
  | .error _ => (client, [.register], .again call)

/-- A turn of the registration loop of the service. -/
def GcService.register (service : GcService) (client : GcClient) (call : RegisterCall) (now : ℕ)
    (reply : RpcReply RegisterResponse) : GcClient × List GcCall × Turn :=
  match service with
  | .mc => mcRegister client call now reply
  | .mh => mhRegister client call reply

/-! ## Heartbeats -/

/-- A heartbeat of a client. -/
def heartbeat (kind : Heartbeat) (client : GcClient) (reply : RpcReply Unit) :
    GcClient × List GcCall × Except ClientError Unit :=
  if !client.isRegistered then (client, [], .ok ())
  else
    match reply with
    | .response _ => (client, [.heartbeat kind], .ok ())
    | .status code text =>
      if code = .notFound then (⟨false⟩, [.heartbeat kind], .error .notRegistered)
      else (client, [.heartbeat kind], .error (.grpc (kind.failed ++ text)))
    | .unsent text => (client, [.heartbeat kind], .error (headerFailed text))

/-- `fast_heartbeat` (mc-service/src/grpc/gc_client.rs:327). -/
def fastHeartbeat := heartbeat .fast

/-- `comprehensive_heartbeat` (mc-service/src/grpc/gc_client.rs:413). -/
def comprehensiveHeartbeat := heartbeat .comprehensive

/-- `send_load_report` (mh-service/src/grpc/gc_client.rs:228). -/
def sendLoadReport := heartbeat .loadReport

/-- The heartbeat of a ticker. -/
def Heartbeat.send : Heartbeat → GcClient → RpcReply Unit →
    GcClient × List GcCall × Except ClientError Unit
  | .fast => fastHeartbeat
  | .comprehensive => comprehensiveHeartbeat
  | .loadReport => sendLoadReport

/-- `attempt_reregistration` (mc-service/src/grpc/gc_client.rs:505,
    mh-service/src/grpc/gc_client.rs:286). -/
def attemptReregistration (service : GcService) (client : GcClient)
    (reply : RpcReply RegisterResponse) : GcClient × List GcCall × Except ClientError Unit :=
  match service.tryRegister reply with
  | .ok response =>
    if response.accepted then (⟨true⟩, [.register], .ok ())
    else
      (client, [.register],
        .error (service.rejected ("GC rejected re-registration: " ++ response.message)))
  | .error e => (client, [.register], .error e)

/-- `handle_heartbeat_error` (mc-service/src/main.rs:527), which the media handler
    has inline (mh-service/src/main.rs:353). -/
def handleHeartbeatError (service : GcService) (client : GcClient)
    (reply : RpcReply RegisterResponse) : ClientError → GcClient × List GcCall
  | .notRegistered =>
    let attempt := attemptReregistration service client reply
    (attempt.1, attempt.2.1)
  | _ => (client, [])

/-- A tick of the heartbeat loop; `reregister` answers the attempt to register
    again, if there is one. -/
def tick (service : GcService) (client : GcClient) (kind : Heartbeat) (reply : RpcReply Unit)
    (reregister : RpcReply RegisterResponse) : GcClient × List GcCall :=
  let sent := kind.send client reply
  match sent.2.2 with
  | .ok () => (sent.1, sent.2.1)
  | .error e =>
    let handled := handleHeartbeatError service sent.1 reregister e
    (handled.1, sent.2.1 ++ handled.2)

/-! ## The task -/

/-- Where `run_gc_task` stands. -/
inductive Phase
  /-- Registers for the first time, in a call of `register` or between two. -/
  | registering (call : Option RegisterCall)
  | heartbeating
  | stopped
deriving DecidableEq

/-- The client with how far its task has come. -/
structure GcTask where
  client : GcClient
  phase : Phase
deriving DecidableEq

/-- What the task for the Global Controller can meet. -/
inductive GcTaskEvent
  /-- A turn of the loop of `register`. -/
  | register (now : ℕ) (reply : RpcReply RegisterResponse)
  | tick (kind : Heartbeat) (reply : RpcReply Unit) (reregister : RpcReply RegisterResponse)
  /-- `cancel_token` is cancelled. -/
  | cancel
deriving DecidableEq

/-- One step of `run_gc_task`, with the calls it makes. -/
def GcTask.step (service : GcService) (s : GcTask) : GcTaskEvent → GcTask × List GcCall
  | .register now reply =>
    match s.phase with
    | .registering call =>
      let turn := service.register s.client (call.getD ⟨0, now + maxRegistrationDuration⟩) now reply
      match turn.2.2 with
      | .again call => (⟨turn.1, .registering (some call)⟩, turn.2.1)
      | .returned (.ok ()) => (⟨turn.1, .heartbeating⟩, turn.2.1)
      | .returned (.error _) => (⟨turn.1, .registering none⟩, turn.2.1)
    | _ => (s, [])
  | .tick kind reply reregister =>
    match s.phase with
    | .heartbeating =>
      let ticked := tick service s.client kind reply reregister
      (⟨ticked.1, .heartbeating⟩, ticked.2)
    | _ => (s, [])
  | .cancel => (⟨s.client, .stopped⟩, [])

/-- The task of a service; it has no other tickers than its own. -/
def gcTask (service : GcService) : Machine GcTask GcTaskEvent (List GcCall) where
  init := ⟨⟨false⟩, .registering none⟩
  step s e := s.step service e
  allowed _ _ e :=
    match e with
    | .tick kind _ _ => kind ∈ service.heartbeats
    | _ => True

instance (service : GcService) (h : List (GcTaskEvent × List GcCall)) (s : GcTask)
    (e : GcTaskEvent) : Decidable ((gcTask service).allowed h s e) :=
  match e with
  | .tick kind _ _ => inferInstanceAs (Decidable (kind ∈ service.heartbeats))
  | .register _ _ => inferInstanceAs (Decidable True)
  | .cancel => inferInstanceAs (Decidable True)

/-- In the heartbeat loop, an unregistered client registers at the next tick. -/
def NotStuck (service : GcService) (s : GcTask) : Prop :=
  s.phase = .heartbeating → s.client.isRegistered = false →
    ∀ kind ∈ service.heartbeats, ∀ reply reregister,
      GcCall.register ∈ (s.step service (.tick kind reply reregister)).2

/-- The condition on a step: an attempt to register again is accepted. -/
def ReregistersAtOnce (s : GcTask) : GcTaskEvent → Prop
  | .tick _ (.status .notFound _) reregister => s.phase = .heartbeating →
      s.client.isRegistered = true → ∃ message, reregister = .response ⟨true, message⟩
  | _ => True

/-! ## What a step can do -/

/-- A tick without registration does nothing. -/
theorem unregistered_tick (service : GcService) {s : GcTask} (hs : s.client.isRegistered = false)
    (kind : Heartbeat) (reply : RpcReply Unit) (reregister : RpcReply RegisterResponse) :
    s.step service (.tick kind reply reregister) = (s, []) := by
  obtain ⟨⟨isRegistered⟩, phase⟩ := s
  subst hs
  cases phase with
  | heartbeating => cases kind <;> rfl
  | registering call => rfl
  | stopped => rfl

theorem notStuck_iff {service : GcService} {s : GcTask} :
    NotStuck service s ↔ (s.phase = .heartbeating → s.client.isRegistered = true) := by
  constructor
  · intro h hphase
    by_contra hnot
    have hs : s.client.isRegistered = false := by simpa using hnot
    cases service with
    | mc =>
      have hcall := h hphase hs .fast (by decide) (.response ()) (.unsent "")
      simp [unregistered_tick _ hs] at hcall
    | mh =>
      have hcall := h hphase hs .loadReport (by decide) (.response ()) (.unsent "")
      simp [unregistered_tick _ hs] at hcall
  · intro h hphase hs
    simp [h hphase] at hs

/-- `register` returns `Ok` only with the flag set. -/
theorem isRegistered_of_register (service : GcService) (client : GcClient) (call : RegisterCall)
    (now : ℕ) (reply : RpcReply RegisterResponse)
    (h : (service.register client call now reply).2.2 = .returned (.ok ())) :
    (service.register client call now reply).1.isRegistered = true := by
  cases service with
  | mc =>
    simp only [GcService.register, mcRegister] at h ⊢
    by_cases hlate : call.deadline ≤ now
    · simp [hlate] at h
    · rw [if_neg hlate] at h ⊢
      rcases reply with ⟨⟨accepted, message⟩⟩ | ⟨code, text⟩ | ⟨text⟩
      · cases accepted <;> simp_all [GcService.tryRegister]
      · simp only [GcService.tryRegister] at h
        split_ifs at h
        simp at h
      · simp only [GcService.tryRegister] at h
        split_ifs at h
        simp at h
  | mh =>
    simp only [GcService.register, mhRegister] at h ⊢
    rcases reply with ⟨⟨accepted, message⟩⟩ | ⟨code, text⟩ | ⟨text⟩
    · cases accepted <;> simp_all [GcService.tryRegister]
    · simp [GcService.tryRegister] at h
    · simp [GcService.tryRegister] at h

/-- The flag after an attempt to register again of an unregistered client. -/
theorem isRegistered_attempt (service : GcService) (reply : RpcReply RegisterResponse) :
    (attemptReregistration service ⟨false⟩ reply).1.isRegistered = true ↔
      ∃ message, reply = .response ⟨true, message⟩ := by
  rcases reply with ⟨⟨accepted, message⟩⟩ | ⟨code, text⟩ | ⟨text⟩
  · cases accepted <;> simp [attemptReregistration, GcService.tryRegister]
  · cases service <;> simp [attemptReregistration, GcService.tryRegister]
  · simp [attemptReregistration, GcService.tryRegister]

/-- A heartbeat of a registered client clears the flag iff it is answered
    `NOT_FOUND`. -/
theorem send_registered (kind : Heartbeat) (reply : RpcReply Unit) :
    (∃ text, reply = .status .notFound text ∧
      kind.send ⟨true⟩ reply = (⟨false⟩, [.heartbeat kind], .error .notRegistered)) ∨
    ((∀ text, reply ≠ .status .notFound text) ∧ ∃ result, result ≠ .error .notRegistered ∧
      kind.send ⟨true⟩ reply = (⟨true⟩, [.heartbeat kind], result)) := by
  have hsend : kind.send = heartbeat kind := by cases kind <;> rfl
  rw [hsend]
  rcases reply with ⟨response⟩ | ⟨code, text⟩ | ⟨text⟩
  · exact .inr ⟨by simp, _, by simp, rfl⟩
  · cases code with
    | notFound => exact .inl ⟨text, rfl, rfl⟩
    | other => exact .inr ⟨by simp, _, by simp, rfl⟩
  · exact .inr ⟨by simp, _, by simp [headerFailed], rfl⟩

/-- The flag after a tick of a registered client. -/
theorem isRegistered_tick (service : GcService) (kind : Heartbeat) (reply : RpcReply Unit)
    (reregister : RpcReply RegisterResponse) :
    (tick service ⟨true⟩ kind reply reregister).1.isRegistered = true ↔
      ((∃ text, reply = .status .notFound text) →
        ∃ message, reregister = .response ⟨true, message⟩) := by
  rcases send_registered kind reply with ⟨text, rfl, hsend⟩ | ⟨hreply, result, hresult, hsend⟩
  · simp only [tick, hsend, handleHeartbeatError, isRegistered_attempt]
    simp
  · have hkept : (tick service ⟨true⟩ kind reply reregister).1.isRegistered = true := by
      simp only [tick, hsend]
      cases result with
      | ok _ => rfl
      | error e => cases e <;> simp_all [handleHeartbeatError]
    simp [hkept, hreply]

/-- From a state that is not stuck, a step leads to one iff it meets the
    condition. -/
theorem notStuck_step_iff (service : GcService) {s : GcTask} (hs : NotStuck service s)
    (e : GcTaskEvent) : NotStuck service (s.step service e).1 ↔ ReregistersAtOnce s e := by
  rw [notStuck_iff] at hs ⊢
  obtain ⟨client, phase⟩ := s
  cases e with
  | cancel => simp [GcTask.step, ReregistersAtOnce]
  | register now reply =>
    simp only [ReregistersAtOnce, iff_true]
    cases phase with
    | registering call =>
      have hok := isRegistered_of_register service client
        (call.getD ⟨0, now + maxRegistrationDuration⟩) now reply
      simp only [GcTask.step]
      generalize service.register client _ now reply = turn at hok ⊢
      obtain ⟨client', calls, outcome⟩ := turn
      rcases outcome with ⟨call'⟩ | ⟨_ | _⟩ <;> simp_all
    | heartbeating => simpa [GcTask.step] using hs
    | stopped => simp [GcTask.step]
  | tick kind reply reregister =>
    cases phase with
    | registering call =>
      rcases reply with _ | ⟨_ | _, _⟩ | _ <;> simp [GcTask.step, ReregistersAtOnce]
    | stopped =>
      rcases reply with _ | ⟨_ | _, _⟩ | _ <;> simp [GcTask.step, ReregistersAtOnce]
    | heartbeating =>
      obtain ⟨isRegistered⟩ := client
      have hregistered : isRegistered = true := hs rfl
      subst hregistered
      simp only [GcTask.step, forall_const, isRegistered_tick]
      rcases reply with _ | ⟨_ | _, _⟩ | _ <;> simp [ReregistersAtOnce]

/-- No state of a run is stuck iff every attempt to register again is accepted. -/
theorem notStuck_along_iff (service : GcService) {h : List (GcTaskEvent × List GcCall)}
    {s : GcTask} (hr : (gcTask service).Run h s) :
    (∀ h', h' <:+ h → NotStuck service ((gcTask service).stateAfter h')) ↔
      ∀ e a h', (e, a) :: h' <:+ h → ReregistersAtOnce ((gcTask service).stateAfter h') e := by
  refine Machine.Run.always_iff ?_ ?_ hr
  · intro hphase
    simp [gcTask] at hphase
  · intro h s e _ _ hs
    exact notStuck_step_iff service hs e

/-- The registration succeeds, a heartbeat is answered `NOT_FOUND` and the
    attempt to register again fails. -/
def failedAttemptEvents (kind : Heartbeat) : List GcTaskEvent :=
  [.register 0 (.response ⟨true, "ok"⟩),
    .tick kind (.status .notFound "unknown") (.status .other "unavailable")]

theorem notStuck_along_failedAttempt :
    (gcTask .mc).Run ((gcTask .mc).playAll (failedAttemptEvents .fast)).2
        ((gcTask .mc).playAll (failedAttemptEvents .fast)).1 ∧
      ((∀ h', h' <:+ ((gcTask .mc).playAll (failedAttemptEvents .fast)).2 →
          NotStuck .mc ((gcTask .mc).stateAfter h')) ↔
        ∀ e a h', (e, a) :: h' <:+ ((gcTask .mc).playAll (failedAttemptEvents .fast)).2 →
          ReregistersAtOnce ((gcTask .mc).stateAfter h') e) :=
  have hr := Machine.run_of_admits (M := gcTask .mc) (l := failedAttemptEvents .fast) (by decide)
  ⟨hr, notStuck_along_iff .mc hr⟩

/-- After it, either service is stuck. -/
theorem failedAttempt_stuck :
    ((gcTask .mc).Run ((gcTask .mc).playAll (failedAttemptEvents .fast)).2
        ((gcTask .mc).playAll (failedAttemptEvents .fast)).1 ∧
      ¬ NotStuck .mc ((gcTask .mc).playAll (failedAttemptEvents .fast)).1) ∧
    (gcTask .mh).Run ((gcTask .mh).playAll (failedAttemptEvents .loadReport)).2
        ((gcTask .mh).playAll (failedAttemptEvents .loadReport)).1 ∧
      ¬ NotStuck .mh ((gcTask .mh).playAll (failedAttemptEvents .loadReport)).1 := by
  refine ⟨⟨Machine.run_of_admits (by decide), fun h => ?_⟩, Machine.run_of_admits (by decide),
    fun h => ?_⟩
  · exact absurd (notStuck_iff.mp h (by decide)) (by decide)
  · exact absurd (notStuck_iff.mp h (by decide)) (by decide)

end DarkTower.Common.Gc
