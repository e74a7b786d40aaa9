import DarkTower.Devloop.Streaming
import DarkTower.Lib.Exclusive
import Mathlib.Logic.Function.Basic

/-!
# The write slot of the devloop helper

Model of `run_with_write_slot`, `cmd_cancel` and `snapshot_busy`
(`devloop-helper/src/commands.rs:386`, 575, 233) on concurrent connections, one command
each. What runs under the lock of `write_state` is one step. The body of a write is the
sequence of its operations (`stages`), each with the outcome that the event says; those
that run a command end as `streamingResult` does, and no other operation returns
`Cancelled`.

* `HelperInv.slotSafe`: at most one write is in flight, the slot is free when none is, and a
  result is reported as cancelled only if the write's own token was set.
* `write_slot_safe`: besides, a second write is refused without effect, a cancel sets the
  token of the write that occupied the slot when it looked and no other write has that
  token, and a write that exits frees the slot.
-/

namespace DarkTower.Devloop

open DarkTower.Lib

/-- `Service` (protocol.rs:22). -/
inductive Service
  | ac
  | gc
  | mc
  | mh
deriving DecidableEq

namespace Service

/-- `Service::ALL` (protocol.rs:31). -/
def all : List Service := [ac, gc, mc, mh]

/-- `as_str` (protocol.rs:34). -/
def asStr : Service → String
  | ac => "ac"
  | gc => "gc"
  | mc => "mc"
  | mh => "mh"

/-- `image_tag` (protocol.rs:44). -/
def imageTag (svc : Service) : String := "localhost/" ++ svc.asStr ++ "-service:latest"

end Service

/-- `HelperCommand` (protocol.rs:85), without its test variants. -/
inductive HelperCommand
  | setup (skipObservability : Bool)
  | rebuild (svc : Service)
  | rebuildAll
  | deploy (svc : Service)
  | teardown
  | status
  | cancel
deriving DecidableEq

namespace HelperCommand

/-- `name` (protocol.rs:128). -/
def name : HelperCommand → String
  | setup _ => "setup"
  | rebuild _ => "rebuild"
  | rebuildAll => "rebuild-all"
  | deploy _ => "deploy"
  | teardown => "teardown"
  | status => "status"
  | cancel => "cancel"

/-- `args_for_log` (protocol.rs:149). -/
def argsForLog : HelperCommand → List String
  | setup skipObservability => if skipObservability then ["--skip-observability"] else []
  | rebuild svc | deploy svc => [svc.asStr]
  | rebuildAll | teardown | status | cancel => []

/-- `is_write` (protocol.rs:174). -/
def isWrite : HelperCommand → Bool
  | setup _ | rebuild _ | rebuildAll | deploy _ | teardown => true
  | status | cancel => false

end HelperCommand

/-! ## The bodies of the writes -/

/-- `ContainerRuntime` (commands.rs:245). -/
inductive ContainerRuntime
  | podman
  | docker
deriving DecidableEq

/-- `as_str` of the runtime. -/
def ContainerRuntime.asStr : ContainerRuntime → String
  | podman => "podman"
  | docker => "docker"

/-- An operation of a body whose error ends the body. -/
inductive Stage
  /-- `run_command_streaming`. -/
  | streaming (description : String)
  /-- `run_command_streaming`, with the error swallowed unless it is a cancellation. -/
  | kindDelete (description : String)
  /-- Any other operation. -/
  | operation (name : String)
deriving DecidableEq

/-- `load_image_to_kind` (commands.rs:1218). -/
def loadImageToKind (imageTag : String) : ContainerRuntime → List Stage
  | .podman => [.streaming ("podman save " ++ imageTag), .streaming "kind load image-archive"]
  | .docker => [.streaming "kind load docker-image"]

/-- `restart_deployment` (commands.rs:1274). -/
def restartDeployment : Service → List Stage
  | .ac => [.streaming "kubectl rollout restart ac-service"]
  | .gc => [.streaming "kubectl rollout restart gc-service"]
  | .mc => [.streaming "kubectl rollout restart mc-0", .streaming "kubectl rollout restart mc-1"]
  | .mh => [.streaming "kubectl rollout restart mh-0", .streaming "kubectl rollout restart mh-1"]

/-- `cmd_rebuild` (commands.rs:1084). -/
def rebuildStages (runtime : ContainerRuntime) (svc : Service) : List Stage :=
  .streaming (runtime.asStr ++ " build " ++ svc.asStr) ::
    (loadImageToKind svc.imageTag runtime ++ restartDeployment svc)

/-- The body of a write; `clusterExists` is what `cluster_already_exists` finds. -/
def stages (runtime : ContainerRuntime) (clusterExists : Bool) : HelperCommand → List Stage
  | .setup _ =>
    [.operation "allocate_ports", .operation "verify_ports_available", .operation "kind-config",
      .operation "write_port_map", .operation "cluster_already_exists"] ++
    (if clusterExists then [] else [.streaming "kind create cluster"]) ++
    [.operation "write_port_map_shell", .streaming "setup.sh",
      .operation "generate_container_kubeconfig", .operation "serialize port map"]
  | .rebuild svc => rebuildStages runtime svc
  | .rebuildAll => Service.all.flatMap (rebuildStages runtime)
  | .deploy svc => [.operation "validate_gateway_ip",
      .streaming ("setup.sh --skip-build --only " ++ svc.asStr)]
  | .teardown => [.kindDelete "kind delete cluster"]
  | .status | .cancel => []

/-- An error of an operation that knows nothing of cancellation. -/
abbrev OperationError := { e : HelperError // ∀ b, e ≠ .cancelled b }

/-- How a stage ends: an operation succeeds, an operation or a spawn fails, or the
    receive loop of a command has ended. -/
inductive StageOutcome
  | done
  | failed (e : OperationError)
  | finished (wait : Except String ExitStatus) (writeFailed escalated childKilled : Bool)

/-- What a stage returns when its command's token is read as `cancelSet`. -/
def StageOutcome.result (description : String) (cancelSet : Bool) :
    StageOutcome → Except HelperError Unit
  | done => .ok ()
  | failed e => .error e.val
  | finished wait writeFailed escalated childKilled =>
    streamingResult description wait writeFailed cancelSet escalated childKilled

/-- `propagate_teardown_kind_result` (commands.rs:1206). -/
def propagateTeardownKindResult : Except HelperError Unit → Except HelperError Unit
  | .error (.cancelled escalated) => .error (.cancelled escalated)
  | _ => .ok ()

/-- What the body sees of a stage. -/
def Stage.result (cancelSet : Bool) (outcome : StageOutcome) : Stage → Except HelperError Unit
  | streaming description => outcome.result description cancelSet
  | kindDelete description => propagateTeardownKindResult (outcome.result description cancelSet)
  | operation name => outcome.result name cancelSet

/-! ## Connections -/

/-- `InFlightOp` (commands.rs:156), with the number of its cancel token. -/
structure InFlightOp where
  op : String
  args : List String
  startedAt : String
  cancelToken : ℕ
deriving DecidableEq

/-- `BusyHint` (commands.rs:206). -/
structure BusyHint where
  op : String
  args : List String
  startedAt : String
  cancelPending : Bool
deriving DecidableEq

/-- The data of a result. -/
inductive CommandData
  | none
  | portMap
  | busy (op : String) (args : List String)
  | cancelled (op : String) (args : List String) (startedAt : String)
  | noOp
  | status (hint : Option BusyHint)
deriving DecidableEq

/-- `CommandResult`, without its duration. -/
structure CommandResult where
  ok : Bool
  exitCode : Option ℤ
  error : Option String
  errorKind : Option String
  data : CommandData
deriving DecidableEq

/-- The result that `execute` (commands.rs:316) reports. -/
def commandResult : Except HelperError CommandData → CommandResult
  | .ok data => ⟨true, some 0, none, none, data⟩
  | .error e => ⟨false, none, some e.display, some e.kind,
      match e with
      | .busy op args => .busy op args
      | _ => .none⟩

/-- Where a connection is in its command; `token` is that of its write. A result is
    absent when the command panicked. -/
inductive ConnPc
  | idle
  | claiming (token : ℕ) (cmd : HelperCommand) (todo : List Stage)
  | running (token : ℕ) (cmd : HelperCommand) (todo : List Stage)
  | mapping (token : ℕ) (result : Except HelperError CommandData)
  | leaving (token : ℕ) (result : Option (Except HelperError CommandData))
  | cancelling (seen : InFlightOp)
  | ended (token : Option ℕ) (result : Option (Except HelperError CommandData))

namespace ConnPc

/-- The token of the connection's write. -/
def token? : ConnPc → Option ℕ
  | claiming token _ _ | running token _ _ | mapping token _ | leaving token _ => some token
  | ended token _ => token
  | idle | cancelling _ => none

/-- The write has claimed the slot and not given it back. -/
def InFlight : ConnPc → Prop
  | running _ _ _ | mapping _ _ | leaving _ _ => True
  | _ => False

/-- The result that the write has reached, if any. -/
def result? : ConnPc → Option (Except HelperError CommandData)
  | mapping _ result => some result
  | leaving _ result | ended _ result => result
  | _ => none

end ConnPc

/-- The helper: the slot, the cancel tokens, and its connections. -/
structure Helper where
  inFlight : Option InFlightOp
  tokens : ℕ → Bool
  nextToken : ℕ
  conns : ℕ → ConnPc

/-- What a connection does next. -/
inductive HelperEvent
  | write (conn : ℕ) (cmd : HelperCommand) (runtime : ContainerRuntime) (clusterExists : Bool)
  | claim (conn : ℕ) (startedAt : String)
  | stage (conn : ℕ) (outcome : StageOutcome)
  | panic (conn : ℕ)
  | remap (conn : ℕ)
  | release (conn : ℕ)
  | status (conn : ℕ)
  | cancelLook (conn : ℕ)
  | cancelStore (conn : ℕ)

namespace Helper

variable (s : Helper)

/-- A helper without connections. -/
def start : Helper := ⟨none, fun _ => false, 0, fun _ => .idle⟩

/-- A connection moves on. -/
def moveTo (conn : ℕ) (pc : ConnPc) : Helper := { s with conns := Function.update s.conns conn pc }

/-- `snapshot_busy` (commands.rs:233). -/
def snapshotBusy : Option BusyHint :=
  s.inFlight.map fun o => ⟨o.op, o.args, o.startedAt, s.tokens o.cancelToken⟩

/-- The data of a write that succeeds. -/
def dataOf : HelperCommand → CommandData
  | .setup _ => .portMap
  | _ => .none

/-- The `map_err` at the end of `run_with_write_slot` (commands.rs:449). -/
def remapResult (cancelSet : Bool) :
    Except HelperError CommandData → Except HelperError CommandData
  | .ok data => .ok data
  | .error e =>
    if cancelSet then
      match e with
      | .cancelled escalated => .error (.cancelled escalated)
      | _ => .error (.cancelled false)
    else .error e

/-- One event; an event that the connection is not ready for does nothing. -/
def step : HelperEvent → Helper
  | .write conn cmd runtime clusterExists =>
    match s.conns conn, cmd.isWrite with
    -- a fresh token, not shared with anybody yet
    | .idle, true =>
      { s with
        tokens := Function.update s.tokens s.nextToken false
        nextToken := s.nextToken + 1
        conns := Function.update s.conns conn
          (.claiming s.nextToken cmd (stages runtime clusterExists cmd)) }
    | _, _ => s
  | .claim conn startedAt =>
    match s.conns conn, s.inFlight with
    | .claiming token _ _, some o =>
      s.moveTo conn (.ended (some token) (some (.error (.busy o.op o.args))))
    | .claiming token cmd todo, none =>
      { s.moveTo conn (.running token cmd todo) with
        inFlight := some ⟨cmd.name, cmd.argsForLog, startedAt, token⟩ }
    | _, _ => s
  | .stage conn outcome =>
    match s.conns conn with
    | .running token cmd [] => s.moveTo conn (.mapping token (.ok (dataOf cmd)))
    | .running token cmd (stage :: todo) =>
      match stage.result (s.tokens token) outcome with
      | .ok () => s.moveTo conn (.running token cmd todo)
      | .error e => s.moveTo conn (.mapping token (.error e))
    | _ => s
  | .panic conn =>
    match s.conns conn with
    | .running token _ _ => s.moveTo conn (.leaving token none)
    | _ => s
  | .remap conn =>
    match s.conns conn with
    | .mapping token result =>
      s.moveTo conn (.leaving token (some (remapResult (s.tokens token) result)))
    | _ => s
  | .release conn =>
    match s.conns conn with
    -- the guard is dropped
    | .leaving token result => { s.moveTo conn (.ended (some token) result) with inFlight := none }
    | _ => s
  | .status conn =>
    match s.conns conn with
    | .idle => s.moveTo conn (.ended none (some (.ok (.status s.snapshotBusy))))
    | _ => s
  | .cancelLook conn =>
    match s.conns conn, s.inFlight with
    | .idle, some o => s.moveTo conn (.cancelling o)
    | .idle, none => s.moveTo conn (.ended none (some (.ok .noOp)))
    | _, _ => s
  | .cancelStore conn =>
    match s.conns conn with
    | .cancelling o =>
      { s.moveTo conn (.ended none (some (.ok (.cancelled o.op o.args o.startedAt)))) with
        tokens := Function.update s.tokens o.cancelToken true }
    | _ => s

end Helper

/-- The helper under any interleaving of its connections. -/
def helperMachine : Machine Helper HelperEvent Unit where
  init := .start
  step s e := (s.step e, ())
  allowed _ _ _ := True

/-- The events so far, the last one first. -/
abbrev HelperHistory := List (HelperEvent × Unit)

/-! ## What a step does -/

/-- Only a command that read its own token as set returns `Cancelled`. -/
theorem stageResult_cancelled {stage : Stage} {cancelSet : Bool} {outcome : StageOutcome} {b : Bool}
    (h : stage.result cancelSet outcome = .error (.cancelled b)) : cancelSet = true := by
  have houtcome : ∀ description, outcome.result description cancelSet = .error (.cancelled b) →
      cancelSet = true := by
    intro description hresult
    cases outcome with
    | done => cases hresult
    | failed e => exact absurd (Except.error.inj hresult) (e.property b)
    | finished wait writeFailed escalated childKilled => exact streamingResult_cancelled hresult
  cases stage with
  | streaming description => exact houtcome _ h
  | operation name => exact houtcome _ h
  | kindDelete description =>
    apply houtcome description
    unfold Stage.result propagateTeardownKindResult at h
    dsimp only at h
    split at h
    · next heq =>
      rw [heq]
      exact h
    · cases h

/-- The result is a cancellation. -/
def ConnPc.Cancelled (pc : ConnPc) : Prop := ∃ b, pc.result? = some (.error (.cancelled b))

/-- What an event does to the helper. -/
inductive HelperCase (s : Helper) : HelperEvent → Helper → Prop
  | nothing (e : HelperEvent) : HelperCase s e s
  | began (e : HelperEvent) (conn : ℕ) (cmd : HelperCommand) (todo : List Stage)
      (hidle : s.conns conn = .idle) :
      HelperCase s e
        { s with
          tokens := Function.update s.tokens s.nextToken false
          nextToken := s.nextToken + 1
          conns := Function.update s.conns conn (.claiming s.nextToken cmd todo) }
  | refused (conn token : ℕ) (startedAt : String) (cmd : HelperCommand) (todo : List Stage)
      (o : InFlightOp) (hpc : s.conns conn = .claiming token cmd todo)
      (hslot : s.inFlight = some o) :
      HelperCase s (.claim conn startedAt)
        (s.moveTo conn (.ended (some token) (some (.error (.busy o.op o.args)))))
  | claimed (e : HelperEvent) (conn token : ℕ) (cmd : HelperCommand) (todo : List Stage)
      (o : InFlightOp) (hpc : s.conns conn = .claiming token cmd todo) (hslot : s.inFlight = none)
      (ho : o.cancelToken = token) :
      HelperCase s e { s.moveTo conn (.running token cmd todo) with inFlight := some o }
  | moved (e : HelperEvent) (conn token : ℕ) (pc : ConnPc) (hin : (s.conns conn).InFlight)
      (hin' : pc.InFlight) (htoken : (s.conns conn).token? = some token)
      (htoken' : pc.token? = some token)
      (hresult : pc.Cancelled → s.tokens token ∨ (s.conns conn).Cancelled) :
      HelperCase s e (s.moveTo conn pc)
  | released (conn token : ℕ) (result : Option (Except HelperError CommandData))
      (hpc : s.conns conn = .leaving token result) :
      HelperCase s (.release conn)
        { s.moveTo conn (.ended (some token) result) with inFlight := none }
  | answered (e : HelperEvent) (conn : ℕ) (data : CommandData) (hidle : s.conns conn = .idle) :
      HelperCase s e (s.moveTo conn (.ended none (some (.ok data))))
  | looked (conn : ℕ) (o : InFlightOp) (hidle : s.conns conn = .idle)
      (hslot : s.inFlight = some o) :
      HelperCase s (.cancelLook conn) (s.moveTo conn (.cancelling o))
  | stored (conn : ℕ) (o : InFlightOp) (data : CommandData) (hpc : s.conns conn = .cancelling o) :
      HelperCase s (.cancelStore conn)
        { s.moveTo conn (.ended none (some (.ok data))) with
          tokens := Function.update s.tokens o.cancelToken true }

theorem remapResult_cancelled {cancelSet : Bool} {result : Except HelperError CommandData}
    {b : Bool} (h : Helper.remapResult cancelSet result = .error (.cancelled b)) :
    cancelSet ∨ ∃ b', result = .error (.cancelled b') := by
  unfold Helper.remapResult at h
  split at h
  · cases h
  · split_ifs at h with hset
    · exact .inl hset
    · exact .inr ⟨b, h⟩

theorem helper_cases (s : Helper) (e : HelperEvent) : HelperCase s e (s.step e) := by
  cases e with
  | write conn cmd runtime clusterExists =>
    simp only [Helper.step]
    split
    next hidle _ => exact .began _ conn cmd _ hidle
    next => exact .nothing _
  | claim conn startedAt =>
    simp only [Helper.step]
    split
    next token cmd todo o hpc hslot => exact .refused conn token startedAt cmd todo o hpc hslot
    next token cmd todo hpc hslot => exact .claimed _ conn token cmd todo _ hpc hslot rfl
    next => exact .nothing _
  | stage conn outcome =>
    simp only [Helper.step]
    split
    next token cmd hpc =>
      refine .moved _ conn token _ (by rw [hpc]; trivial) trivial (by rw [hpc]; rfl) rfl ?_
      exact fun ⟨b, hresult⟩ => nomatch Option.some.inj hresult
    next token cmd stage todo hpc =>
      split
      next =>
        refine .moved _ conn token _ (by rw [hpc]; trivial) trivial (by rw [hpc]; rfl) rfl ?_
        exact fun ⟨b, hresult⟩ => nomatch hresult
      next e herror =>
        refine .moved _ conn token _ (by rw [hpc]; trivial) trivial (by rw [hpc]; rfl) rfl ?_
        rintro ⟨b, hresult⟩
        have hcancelled : e = .cancelled b := Except.error.inj (Option.some.inj hresult)
        exact .inl (stageResult_cancelled (hcancelled ▸ herror))
    next => exact .nothing _
  | panic conn =>
    simp only [Helper.step]
    split
    next token cmd todo hpc =>
      refine .moved _ conn token _ (by rw [hpc]; trivial) trivial (by rw [hpc]; rfl) rfl ?_
      exact fun ⟨b, hresult⟩ => nomatch hresult
    next => exact .nothing _
  | remap conn =>
    simp only [Helper.step]
    split
    next token result hpc =>
      refine .moved _ conn token _ (by rw [hpc]; trivial) trivial (by rw [hpc]; rfl) rfl ?_
      rintro ⟨b, hresult⟩
      refine (remapResult_cancelled (Option.some.inj hresult)).imp_right fun ⟨b', hold⟩ => ?_
      rw [hpc, hold]
      exact ⟨b', rfl⟩
    next => exact .nothing _
  | release conn =>
    simp only [Helper.step]
    split
    next token result hpc => exact .released conn token result hpc
    next => exact .nothing _
  | status conn =>
    simp only [Helper.step]
    split
    next hidle => exact .answered _ conn _ hidle
    next => exact .nothing _
  | cancelLook conn =>
    simp only [Helper.step]
    split
    next o hidle hslot => exact .looked conn o hidle hslot
    next hidle _ => exact .answered _ conn _ hidle
    next => exact .nothing _
  | cancelStore conn =>
    simp only [Helper.step]
    split
    next o hpc => exact .stored conn o _ hpc
    next => exact .nothing _

/-! ## What holds in every state -/

/-- The write occupies the slot. -/
def Occupies (s : Helper) (conn : ℕ) : Prop :=
  ∃ o, s.inFlight = some o ∧ (s.conns conn).token? = some o.cancelToken

/-- The slot belongs to the one write in flight, tokens belong to one write each, and
    what a write returns as cancelled has its token set. -/
structure HelperInv (s : Helper) : Prop where
  slot : Exclusive (fun conn => (s.conns conn).InFlight) (Occupies s) (s.inFlight = none)
  fresh : ∀ conn token, (s.conns conn).token? = some token → token < s.nextToken
  own : ∀ conn conn' token, (s.conns conn).token? = some token →
    (s.conns conn').token? = some token → conn = conn'
  cancelled : ∀ conn token, (s.conns conn).token? = some token → (s.conns conn).Cancelled →
    s.tokens token = true

variable {s : Helper}

theorem conns_moveTo (conn : ℕ) (pc : ConnPc) (conn' : ℕ) :
    (s.moveTo conn pc).conns conn' = if conn' = conn then pc else s.conns conn' :=
  Function.update_apply s.conns conn pc conn'

/-- A connection that moves on and keeps its token leaves the tokens with their writes. -/
theorem own_moveTo (hI : HelperInv s) {conn : ℕ} {pc : ConnPc}
    (hkeep : ∀ token, pc.token? = some token → (s.conns conn).token? = some token) :
    (∀ conn' token, ((s.moveTo conn pc).conns conn').token? = some token →
        (s.conns conn').token? = some token) ∧
      ∀ conn₁ conn₂ token, ((s.moveTo conn pc).conns conn₁).token? = some token →
        ((s.moveTo conn pc).conns conn₂).token? = some token → conn₁ = conn₂ := by
  have hback : ∀ conn' token, ((s.moveTo conn pc).conns conn').token? = some token →
      (s.conns conn').token? = some token := by
    intro conn' token htoken
    rw [conns_moveTo] at htoken
    split_ifs at htoken with heq
    · rw [heq]
      exact hkeep token htoken
    · exact htoken
  exact ⟨hback, fun conn₁ conn₂ token h₁ h₂ =>
    hI.own conn₁ conn₂ token (hback _ _ h₁) (hback _ _ h₂)⟩

theorem helperInv_start : HelperInv .start where
  slot := Exclusive.of_free (fun _ h => h) rfl
  fresh _ _ h := nomatch h
  own _ _ _ h := nomatch h
  cancelled _ _ h := nomatch h

/-- A connection that is not in flight and answers something that is no cancellation. -/
theorem HelperInv.answer (hI : HelperInv s) {conn : ℕ} {pc : ConnPc}
    (hout : ¬ (s.conns conn).InFlight) (hout' : ¬ pc.InFlight)
    (hkeep : ∀ token, pc.token? = some token → (s.conns conn).token? = some token)
    (hresult : ¬ pc.Cancelled) : HelperInv (s.moveTo conn pc) := by
  obtain ⟨hback, hown⟩ := own_moveTo hI hkeep
  refine ⟨hI.slot.frame (fun conn' => ?_) (fun conn' hin ho => ?_) id, ?_, hown, ?_⟩
  · rw [conns_moveTo]
    split_ifs with heq
    · rw [heq]
      exact iff_of_false hout' hout
    · rfl
  · obtain ⟨o, hslot, htoken⟩ := ho
    have hne : conn' ≠ conn := fun heq => hout (heq ▸ hin)
    refine ⟨o, hslot, ?_⟩
    rw [conns_moveTo, if_neg hne]
    exact htoken
  · exact fun conn' token htoken => hI.fresh conn' token (hback conn' token htoken)
  · intro conn' token htoken hcancelled
    have hold := hback conn' token htoken
    rw [conns_moveTo] at hcancelled
    split_ifs at hcancelled with heq
    · exact absurd hcancelled hresult
    · exact hI.cancelled conn' token hold hcancelled

/-- A write in flight moves on. -/
theorem HelperInv.move (hI : HelperInv s) {conn token : ℕ} {pc : ConnPc}
    (hin : (s.conns conn).InFlight) (hin' : pc.InFlight)
    (htoken : (s.conns conn).token? = some token) (htoken' : pc.token? = some token)
    (hresult : pc.Cancelled → s.tokens token ∨ (s.conns conn).Cancelled) :
    HelperInv (s.moveTo conn pc) := by
  have hkeep : ∀ t, pc.token? = some t → (s.conns conn).token? = some t := by
    intro t ht
    rw [htoken, ← htoken', ht]
  obtain ⟨hback, hown⟩ := own_moveTo hI hkeep
  refine ⟨hI.slot.frame (fun conn' => ?_) (fun conn' _ ho => ?_) id, ?_, hown, ?_⟩
  · rw [conns_moveTo]
    split_ifs with heq
    · rw [heq]
      exact iff_of_true hin' hin
    · rfl
  · obtain ⟨o, hslot, ho⟩ := ho
    refine ⟨o, hslot, ?_⟩
    rw [conns_moveTo]
    split_ifs with heq
    · rw [heq, htoken] at ho
      rw [htoken', ho]
    · exact ho
  · exact fun conn' t ht => hI.fresh conn' t (hback conn' t ht)
  · intro conn' t ht hcancelled
    have hold := hback conn' t ht
    rw [conns_moveTo] at hcancelled
    split_ifs at hcancelled with heq
    · rw [heq] at hold
      obtain rfl := Option.some.inj (htoken.symm.trans hold)
      rcases hresult hcancelled with hset | hcancelled
      · exact hset
      · exact hI.cancelled conn _ hold hcancelled
    · exact hI.cancelled conn' t hold hcancelled

/-- A write claims the free slot. -/
theorem HelperInv.claim (hI : HelperInv s) {conn token : ℕ} {cmd : HelperCommand}
    {todo : List Stage} {o : InFlightOp} (hpc : s.conns conn = .claiming token cmd todo)
    (hslot : s.inFlight = none) (ho : o.cancelToken = token) :
    HelperInv { s.moveTo conn (.running token cmd todo) with inFlight := some o } := by
  have hkeep : ∀ t, (ConnPc.running token cmd todo).token? = some t →
      (s.conns conn).token? = some t := by
    intro t ht
    rw [hpc]
    exact ht
  obtain ⟨hback, hown⟩ := own_moveTo hI hkeep
  have hfree : ∀ conn', ¬ (s.conns conn').InFlight := by
    intro conn' hin
    obtain ⟨o', hslot', _⟩ := hI.slot.whileActive conn' hin
    rw [hslot] at hslot'
    cases hslot'
  have hself : (s.moveTo conn (.running token cmd todo)).conns conn = .running token cmd todo := by
    rw [conns_moveTo, if_pos rfl]
  refine ⟨hI.slot.enter hfree (i := conn) ?_ (fun conn' hin => ?_) fun _ => ⟨o, rfl, ?_⟩,
    ?_, hown, ?_⟩
  · show ((s.moveTo conn (.running token cmd todo)).conns conn).InFlight
    rw [hself]
    trivial
  · have hin : ((s.moveTo conn (.running token cmd todo)).conns conn').InFlight := hin
    rw [conns_moveTo] at hin
    split_ifs at hin with heq
    · exact .inl heq
    · exact .inr hin
  · show ((s.moveTo conn (.running token cmd todo)).conns conn).token? = _
    rw [hself, ho]
    rfl
  · exact fun conn' t ht => hI.fresh conn' t (hback conn' t ht)
  · intro conn' t ht hcancelled
    have hcancelled : ((s.moveTo conn (.running token cmd todo)).conns conn').Cancelled :=
      hcancelled
    rw [conns_moveTo] at hcancelled
    split_ifs at hcancelled with heq
    · obtain ⟨b, hresult⟩ := hcancelled
      cases hresult
    · exact hI.cancelled conn' t (hback conn' t ht) hcancelled

/-- The guard of a write is dropped. -/
theorem HelperInv.release (hI : HelperInv s) {conn token : ℕ}
    {result : Option (Except HelperError CommandData)}
    (hpc : s.conns conn = .leaving token result) :
    HelperInv { s.moveTo conn (.ended (some token) result) with inFlight := none } := by
  have hkeep : ∀ t, (ConnPc.ended (some token) result).token? = some t →
      (s.conns conn).token? = some t := by
    intro t ht
    rw [hpc]
    exact ht
  obtain ⟨hback, hown⟩ := own_moveTo hI hkeep
  have hin : (s.conns conn).InFlight := by
    rw [hpc]
    trivial
  refine ⟨hI.slot.leave hin (fun conn' hin' => ?_) fun _ => rfl, ?_, hown, ?_⟩
  · have hin' : ((s.moveTo conn (.ended (some token) result)).conns conn').InFlight := hin'
    rw [conns_moveTo] at hin'
    split_ifs at hin' with heq
    · exact hin'.elim
    · exact ⟨hin', heq⟩
  · exact fun conn' t ht => hI.fresh conn' t (hback conn' t ht)
  · intro conn' t ht hcancelled
    refine hI.cancelled conn' t (hback conn' t ht) ?_
    have hcancelled : ((s.moveTo conn (.ended (some token) result)).conns conn').Cancelled :=
      hcancelled
    rw [conns_moveTo] at hcancelled
    split_ifs at hcancelled with heq
    · rw [heq, hpc]
      exact hcancelled
    · exact hcancelled

/-- A write begins, with a token that nobody has. -/
theorem HelperInv.begin (hI : HelperInv s) {conn : ℕ} (cmd : HelperCommand) (todo : List Stage)
    (hidle : s.conns conn = .idle) :
    HelperInv
      { s with
        tokens := Function.update s.tokens s.nextToken false
        nextToken := s.nextToken + 1
        conns := Function.update s.conns conn (.claiming s.nextToken cmd todo) } := by
  have hconns : ∀ conn', Function.update s.conns conn (.claiming s.nextToken cmd todo) conn' =
      if conn' = conn then .claiming s.nextToken cmd todo else s.conns conn' :=
    Function.update_apply s.conns conn _
  have htokens : ∀ conn' t, (Function.update s.conns conn
      (.claiming s.nextToken cmd todo) conn').token? = some t →
        conn' = conn ∧ t = s.nextToken ∨
          conn' ≠ conn ∧ (s.conns conn').token? = some t ∧ t < s.nextToken := by
    intro conn' t ht
    rw [hconns] at ht
    split_ifs at ht with heq
    · exact .inl ⟨heq, (Option.some.inj ht).symm⟩
    · exact .inr ⟨heq, ht, hI.fresh conn' t ht⟩
  refine ⟨hI.slot.frame (fun conn' => ?_) (fun conn' hin ho => ?_) id, ?_, ?_, ?_⟩
  · dsimp only
    rw [hconns]
    split_ifs with heq
    · rw [heq, hidle]
      exact Iff.rfl
    · exact Iff.rfl
  · obtain ⟨o, hslot, htoken⟩ := ho
    have hne : conn' ≠ conn := by
      intro heq
      rw [heq, hidle] at hin
      exact hin
    refine ⟨o, hslot, ?_⟩
    dsimp only
    rw [hconns, if_neg hne]
    exact htoken
  · intro conn' t ht
    show t < s.nextToken + 1
    rcases htokens conn' t ht with ⟨_, rfl⟩ | ⟨_, _, hlt⟩ <;> omega
  · intro conn₁ conn₂ t h₁ h₂
    rcases htokens conn₁ t h₁ with ⟨rfl, rfl⟩ | ⟨hne₁, h₁, hlt₁⟩ <;>
      rcases htokens conn₂ _ h₂ with ⟨rfl, ht⟩ | ⟨hne₂, h₂, hlt₂⟩
    · rfl
    · omega
    · omega
    · exact hI.own conn₁ conn₂ t h₁ h₂
  · intro conn' t ht hcancelled
    have hcancelled : (Function.update s.conns conn
        (.claiming s.nextToken cmd todo) conn').Cancelled := hcancelled
    rcases htokens conn' t ht with ⟨rfl, rfl⟩ | ⟨hne, hold, hlt⟩
    · rw [hconns, if_pos rfl] at hcancelled
      obtain ⟨b, hresult⟩ := hcancelled
      cases hresult
    · rw [hconns, if_neg hne] at hcancelled
      show Function.update s.tokens s.nextToken false t = true
      rw [Function.update_of_ne (by omega)]
      exact hI.cancelled conn' t hold hcancelled

/-- Setting tokens takes nothing away. -/
theorem HelperInv.setToken (hI : HelperInv s) (token : ℕ) :
    HelperInv { s with tokens := Function.update s.tokens token true } := by
  refine ⟨hI.slot, hI.fresh, hI.own, fun conn t ht hcancelled => ?_⟩
  show Function.update s.tokens token true t = true
  rw [Function.update_apply]
  split_ifs
  · rfl
  · exact hI.cancelled conn t ht hcancelled

theorem HelperInv.step (hI : HelperInv s) (e : HelperEvent) : HelperInv (s.step e) := by
  have hcase := helper_cases s e
  generalize s.step e = s' at hcase
  cases hcase with
  | nothing => exact hI
  | began _ conn cmd todo hidle => exact hI.begin cmd todo hidle
  | refused conn token startedAt cmd todo o hpc hslot =>
    refine hI.answer ?_ id (fun t ht => ?_) fun ⟨b, hresult⟩ => nomatch Option.some.inj hresult
    · rw [hpc]
      exact id
    · rw [hpc]
      exact ht
  | claimed _ conn token cmd todo o hpc hslot ho => exact hI.claim hpc hslot ho
  | moved _ conn token pc hin hin' htoken htoken' hresult =>
    exact hI.move hin hin' htoken htoken' hresult
  | released conn token result hpc => exact hI.release hpc
  | answered _ conn data hidle =>
    refine hI.answer ?_ id (fun t ht => nomatch ht) fun ⟨b, hresult⟩ =>
      nomatch Option.some.inj hresult
    rw [hidle]
    exact id
  | looked conn o hidle hslot =>
    refine hI.answer ?_ id (fun t ht => nomatch ht) fun ⟨b, hresult⟩ => nomatch hresult
    rw [hidle]
    exact id
  | stored conn o data hpc =>
    refine HelperInv.setToken (s := s.moveTo conn _) ?_ o.cancelToken
    refine hI.answer ?_ id (fun t ht => nomatch ht) fun ⟨b, hresult⟩ =>
      nomatch Option.some.inj hresult
    rw [hpc]
    exact id

/-! ## What a cancel has seen -/

/-- A write keeps its token. -/
theorem token_step (s : Helper) (e : HelperEvent) {w token : ℕ}
    (h : (s.conns w).token? = some token) : ((s.step e).conns w).token? = some token := by
  have hmove : ∀ conn pc, (∀ t, (s.conns conn).token? = some t → pc.token? = some t) →
      ((s.moveTo conn pc).conns w).token? = some token := by
    intro conn pc hkeep
    rw [conns_moveTo]
    split_ifs with heq
    · exact hkeep token (heq ▸ h)
    · exact h
  have hcase := helper_cases s e
  generalize s.step e = s' at hcase
  cases hcase with
  | nothing => exact h
  | began _ conn cmd todo hidle =>
    have hne : w ≠ conn := by
      intro heq
      rw [heq, hidle] at h
      cases h
    show (Function.update s.conns conn _ w).token? = some token
    rw [Function.update_of_ne hne]
    exact h
  | refused conn t startedAt cmd todo o hpc hslot =>
    refine hmove conn _ fun t ht => ?_
    rw [hpc] at ht
    exact ht
  | claimed _ conn t cmd todo o hpc hslot ho =>
    refine hmove conn _ fun t ht => ?_
    rw [hpc] at ht
    exact ht
  | moved _ conn t pc hin hin' htoken htoken' hresult =>
    refine hmove conn pc fun t ht => ?_
    rw [htoken', ← htoken, ht]
  | released conn t result hpc => exact hmove conn _ fun t ht => by rw [hpc] at ht; exact ht
  | answered _ conn data hidle => exact hmove conn _ fun t ht => by rw [hidle] at ht; cases ht
  | looked conn o hidle hslot => exact hmove conn _ fun t ht => by rw [hidle] at ht; cases ht
  | stored conn o data hpc => exact hmove conn _ fun t ht => by rw [hpc] at ht; cases ht

/-- A connection that is cancelling has just looked, or was cancelling before. -/
theorem cancelling_step (s : Helper) (e : HelperEvent) {conn : ℕ} {o : InFlightOp}
    (h : (s.step e).conns conn = .cancelling o) :
    s.conns conn = .cancelling o ∨ e = .cancelLook conn ∧ s.inFlight = some o := by
  have hmove : ∀ conn' pc, pc ≠ .cancelling o → (s.moveTo conn' pc).conns conn = .cancelling o →
      s.conns conn = .cancelling o := by
    intro conn' pc hpc h
    rw [conns_moveTo] at h
    split_ifs at h
    · exact absurd h hpc
    · exact h
  have hcase := helper_cases s e
  generalize s.step e = s' at hcase h
  cases hcase with
  | nothing => exact .inl h
  | began _ conn' cmd todo hidle =>
    have h : Function.update s.conns conn' (.claiming s.nextToken cmd todo) conn = _ := h
    rw [Function.update_apply] at h
    split_ifs at h
    exact .inl h
  | refused => exact .inl (hmove _ _ (by simp) h)
  | claimed => exact .inl (hmove _ _ (by simp) h)
  | moved _ conn' t pc hin hin' htoken htoken' hresult =>
    refine .inl (hmove conn' pc (fun heq => ?_) h)
    rw [heq] at hin'
    exact hin'
  | released => exact .inl (hmove _ _ (by simp) h)
  | answered => exact .inl (hmove _ _ (by simp) h)
  | stored => exact .inl (hmove _ _ (by simp) h)
  | looked conn' o' hidle hslot =>
    rw [conns_moveTo] at h
    split_ifs at h with heq
    · obtain rfl := ConnPc.cancelling.inj h
      exact .inr ⟨by rw [heq], hslot⟩
    · exact .inl h

/-- The write that occupied the slot when the cancel of the connection looked at it. -/
def SeenAtLook (h : HelperHistory) (conn : ℕ) (o : InFlightOp) (w : ℕ) : Prop :=
  ∃ a h', (HelperEvent.cancelLook conn, a) :: h' <:+ h ∧
    (helperMachine.stateAfter h').inFlight = some o ∧
    ((helperMachine.stateAfter h').conns w).InFlight

/-- A cancel that has looked holds the token of the write that it saw. -/
def SeenInv (h : HelperHistory) (s : Helper) : Prop :=
  ∀ conn o, s.conns conn = .cancelling o →
    ∃ w, SeenAtLook h conn o w ∧ (s.conns w).token? = some o.cancelToken

theorem HelperInv.occupant (hI : HelperInv s) {o : InFlightOp} (hslot : s.inFlight = some o) :
    ∃ w, (s.conns w).InFlight ∧ (s.conns w).token? = some o.cancelToken := by
  by_contra hnone
  have hfree : ∀ w, ¬ (s.conns w).InFlight := by
    intro w hin
    obtain ⟨o', hslot', htoken⟩ := hI.slot.whileActive w hin
    obtain rfl := Option.some.inj (hslot.symm.trans hslot')
    exact hnone ⟨w, hin, htoken⟩
  rw [hI.slot.whileFree hfree] at hslot
  cases hslot

theorem run_helperInv {h : HelperHistory} (hr : helperMachine.Run h s) :
    HelperInv s ∧ SeenInv h s := by
  refine Machine.Run.invariant (I := fun h s => HelperInv s ∧ SeenInv h s) ?_ ?_ hr
  · exact ⟨helperInv_start, fun _ _ hpc => nomatch hpc⟩
  · rintro h s e hrun _ ⟨hI, hseen⟩
    refine ⟨hI.step e, fun conn o hpc => ?_⟩
    rcases cancelling_step s e hpc with hold | ⟨rfl, hslot⟩
    · obtain ⟨w, ⟨a, h', hs, hlook⟩, htoken⟩ := hseen conn o hold
      exact ⟨w, ⟨a, h', hs.trans (List.suffix_cons _ _), hlook⟩, token_step s e htoken⟩
    · obtain ⟨w, hin, htoken⟩ := hI.occupant hslot
      refine ⟨w, ⟨_, h, List.suffix_refl _, ?_⟩, token_step s _ htoken⟩
      rw [← hrun.eq_stateAfter]
      exact ⟨hslot, hin⟩

/-! ## The slot is safe -/

/-- What holds in a state: one write in flight, the slot free without one, a token for
    each write, and `cancelled` reported only by a write whose own token is set. -/
structure SlotSafe (s : Helper) : Prop where
  oneInFlight : ∀ conn conn', (s.conns conn).InFlight → (s.conns conn').InFlight → conn = conn'
  free : (∀ conn, ¬ (s.conns conn).InFlight) → s.inFlight = none
  ownToken : ∀ conn conn' token, (s.conns conn).token? = some token →
    (s.conns conn').token? = some token → conn = conn'
  cancelledOwn : ∀ conn token result, s.conns conn = .ended (some token) (some result) →
    (commandResult result).errorKind = some "cancelled" → s.tokens token = true

theorem HelperInv.slotSafe (hI : HelperInv s) : SlotSafe s := by
  refine ⟨hI.slot.unique, hI.slot.whileFree, hI.own, fun conn token result hpc hkind => ?_⟩
  cases result with
  | ok data => cases hkind
  | error e =>
    obtain ⟨b, rfl⟩ := (HelperError.kind_eq_cancelled_iff e).mp (Option.some.inj hkind)
    refine hI.cancelled conn token (by rw [hpc]; rfl) ⟨b, ?_⟩
    rw [hpc]
    rfl

/-- What a step does: a claim of the occupied slot changes nothing but its connection;
    the store of a cancel sets the token of the one write that occupied the slot when the
    cancel looked; the exit of a write frees the slot; nothing else sets a token. -/
def StepSafe (h : HelperHistory) (s : Helper) (e : HelperEvent) : Prop :=
  match e with
  | .claim conn _ => ∀ token cmd todo o, s.conns conn = .claiming token cmd todo →
      s.inFlight = some o →
        (s.step e).inFlight = s.inFlight ∧ (s.step e).tokens = s.tokens ∧
          (s.step e).conns conn = .ended (some token) (some (.error (.busy o.op o.args))) ∧
          ∀ conn' ≠ conn, (s.step e).conns conn' = s.conns conn'
  | .cancelStore conn => ∀ o, s.conns conn = .cancelling o →
      (s.step e).inFlight = s.inFlight ∧
        (s.step e).tokens = Function.update s.tokens o.cancelToken true ∧
        ∃ w, SeenAtLook h conn o w ∧ ∀ w', (s.conns w').token? = some o.cancelToken ↔ w' = w
  | .release conn => ∀ token result, s.conns conn = .leaving token result →
      (s.step e).inFlight = none ∧ (s.step e).conns conn = .ended (some token) result
  | .status _ | .cancelLook _ => (s.step e).inFlight = s.inFlight ∧ (s.step e).tokens = s.tokens
  | .write _ _ _ _ | .stage _ _ | .panic _ | .remap _ =>
    (s.step e).inFlight = s.inFlight ∧
      ∀ token, (s.step e).tokens token = true → s.tokens token = true

theorem stepSafe_of_inv {h : HelperHistory} (hI : HelperInv s) (hseen : SeenInv h s)
    (e : HelperEvent) : StepSafe h s e := by
  cases e with
  | claim conn startedAt =>
    intro token cmd todo o hpc hslot
    have hstep : s.step (.claim conn startedAt) =
        s.moveTo conn (.ended (some token) (some (.error (.busy o.op o.args)))) := by
      simp only [Helper.step, hpc, hslot]
    rw [hstep]
    refine ⟨rfl, rfl, ?_, fun conn' hne => ?_⟩
    · rw [conns_moveTo, if_pos rfl]
    · rw [conns_moveTo, if_neg hne]
  | cancelStore conn =>
    intro o hpc
    obtain ⟨w, hlook, htoken⟩ := hseen conn o hpc
    unfold Helper.step
    dsimp only
    rw [hpc]
    refine ⟨rfl, rfl, w, hlook, fun w' => ⟨fun htoken' => ?_, fun heq => ?_⟩⟩
    · exact hI.own w' w o.cancelToken htoken' htoken
    · rw [heq]
      exact htoken
  | release conn =>
    intro token result hpc
    unfold Helper.step
    dsimp only
    rw [hpc]
    refine ⟨rfl, ?_⟩
    show (s.moveTo conn (.ended (some token) result)).conns conn = _
    rw [conns_moveTo, if_pos rfl]
  | status conn | cancelLook conn =>
    show (s.step _).inFlight = s.inFlight ∧ (s.step _).tokens = s.tokens
    unfold Helper.step
    constructor
    · dsimp only
      split <;> rfl
    · dsimp only
      split <;> rfl
  | write conn cmd runtime clusterExists =>
    show (s.step _).inFlight = s.inFlight ∧ ∀ token, (s.step _).tokens token = true → _
    simp only [Helper.step]
    split
    · refine ⟨rfl, fun token hset => ?_⟩
      have hset : Function.update s.tokens s.nextToken false token = true := hset
      rw [Function.update_apply] at hset
      split_ifs at hset
      exact hset
    · exact ⟨rfl, fun _ hset => hset⟩
  | stage conn outcome =>
    show (s.step _).inFlight = s.inFlight ∧ ∀ token, (s.step _).tokens token = true → _
    simp only [Helper.step]
    split
    · exact ⟨rfl, fun _ hset => hset⟩
    · split <;> exact ⟨rfl, fun _ hset => hset⟩
    · exact ⟨rfl, fun _ hset => hset⟩
  | panic conn | remap conn =>
    show (s.step _).inFlight = s.inFlight ∧ ∀ token, (s.step _).tokens token = true → _
    simp only [Helper.step]
    split <;> exact ⟨rfl, fun _ hset => hset⟩

/-- The write slot is safe under every interleaving. -/
theorem write_slot_safe {h : HelperHistory} {s : Helper} (hr : helperMachine.Run h s) :
    SlotSafe s ∧ ∀ e a h', (e, a) :: h' <:+ h → StepSafe h' (helperMachine.stateAfter h') e := by
  refine ⟨(run_helperInv hr).1.slotSafe, fun e a h' hs => ?_⟩
  obtain ⟨hI, hseen⟩ := run_helperInv (hr.suffix ((List.suffix_cons _ _).trans hs))
  exact stepSafe_of_inv hI hseen e

/-! ## A cancel between two writes -/

/-- A teardown runs; a cancel looks at the slot; the teardown ends, a deploy claims the
    slot, a second write is refused, and only then the cancel stores. -/
def lateStoreEvents : List HelperEvent :=
  [.write 0 .teardown .docker true, .claim 0 "10:00", .cancelLook 1, .stage 0 .done, .stage 0 .done,
    .remap 0, .release 0, .write 2 (.deploy .ac) .docker true, .claim 2 "10:01",
    .write 3 .teardown .docker true, .claim 3 "10:02", .cancelStore 1]

theorem write_slot_safe_lateStore :
    helperMachine.Run (helperMachine.playAll lateStoreEvents).2
        (helperMachine.playAll lateStoreEvents).1 ∧
      (helperMachine.playAll lateStoreEvents).1.snapshotBusy =
        some ⟨"deploy", ["ac"], "10:01", false⟩ ∧
      SlotSafe (helperMachine.playAll lateStoreEvents).1 ∧
      ∀ e a h', (e, a) :: h' <:+ (helperMachine.playAll lateStoreEvents).2 →
        StepSafe h' (helperMachine.stateAfter h') e := by
  have hrun : helperMachine.Run (helperMachine.playAll lateStoreEvents).2
      (helperMachine.playAll lateStoreEvents).1 :=
    Machine.run_of_admits ⟨trivial, trivial, trivial, trivial, trivial, trivial, trivial, trivial,
      trivial, trivial, trivial, trivial, trivial⟩
  exact ⟨hrun, rfl, write_slot_safe hrun⟩

end DarkTower.Devloop
