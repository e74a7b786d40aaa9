import DarkTower.Devloop.WriteSlot
import DarkTower.Lib.Hex
import DarkTower.Lib.Text

/-!
# A connection to the devloop helper

Model of `handle_connection` (`devloop-helper/src/main.rs:245`) on the bytes that a client sends
before it closes its side, with `validate_token` (`auth.rs:43`) and `parse_command`
(`protocol.rs:243`). A run is the list of what it does: the entries that it hands to the audit
log, the command that it executes, and the final lines that it tries to send. `serde_json`, the
execution of the command and the socket are parameters (`Connection`).

* `executed_admitted`: a command is executed only for a line that is short enough, is a request
  with the helper's token and is valid.
* `gate_iff`: besides, one entry is written and one answer tried iff the stream could be cloned
  and the bytes read are UTF-8. A line that is not UTF-8 leaves by `?`, with no entry and no
  answer.
-/

namespace DarkTower.Devloop

open DarkTower.Lib

/-- `MAX_REQUEST_SIZE` (protocol.rs:17). -/
def maxRequestSize : ℕ := 1048576

/-! ## Requests -/

/-- `from_str` of a service (protocol.rs:69). -/
def Service.fromStr (s : String) : Except HelperError Service :=
  match s with
  | "ac" => .ok .ac
  | "gc" => .ok .gc
  | "mc" => .ok .mc
  | "mh" => .ok .mh
  | other => .error (.invalidService other)

/-- The bytes of a text. -/
def textBytes (s : String) : List UInt8 := s.toByteArray.data.toList

/-- `validate_no_control_chars` (protocol.rs:448). -/
def validateNoControlChars (s fieldName : String) : Except HelperError Unit :=
  match (textBytes s).zipIdx.find? fun b => b.1 < 0x20 || b.1 = 0x7f with
  | none => .ok ()
  | some (b, i) =>
    .error (.invalidRequest (fieldName ++ " contains control character at byte " ++ toString i ++
      " (0x" ++ Hex.encode [b] ++ ")"))

/-- `Request` (protocol.rs:228). -/
structure Request where
  token : String
  command : String
  service : Option String
  skipObservability : Bool
deriving DecidableEq

namespace Request

variable (r : Request)

/-- A command that takes no service. -/
def withoutService (name : String) (cmd : HelperCommand) : Except HelperError HelperCommand :=
  if r.service.isSome then
    .error (.invalidRequest (name ++ " command does not accept a service argument"))
  else .ok cmd

/-- A command that takes a service. -/
def withService (name : String) (cmd : Service → HelperCommand) :
    Except HelperError HelperCommand :=
  match r.service with
  | none => .error (.invalidRequest (name ++ " command requires a service argument"))
  | some svc => (Service.fromStr svc).map cmd

/-- `parse_command` (protocol.rs:243). -/
def parseCommand : Except HelperError HelperCommand := do
  validateNoControlChars r.command "command"
  validateNoControlChars r.token "token"
  match r.service with
  | none => pure ()
  | some svc => validateNoControlChars svc "service"
  match r.command with
  | "setup" => r.withoutService "setup" (.setup r.skipObservability)
  | "rebuild" => r.withService "rebuild" .rebuild
  | "rebuild-all" => r.withoutService "rebuild-all" .rebuildAll
  | "deploy" => r.withService "deploy" .deploy
  | "teardown" => r.withoutService "teardown" .teardown
  | "status" => r.withoutService "status" .status
  | "cancel" => do
    let cmd ← r.withoutService "cancel" .cancel
    if r.skipObservability then
      .error (.invalidRequest "cancel command does not accept --skip-observability")
    else pure cmd
  | other => .error (.invalidCommand other)

end Request

/-- `constant_time_eq` (auth.rs:55); what it computes for other lengths is not used. -/
def constantTimeEq (a b : List UInt8) : Bool :=
  if a.length ≠ b.length then false
  else (a.zip b).foldl (fun acc p => acc ||| (p.1 ^^^ p.2)) 0 = 0

/-- `validate_token` (auth.rs:43). -/
def validateToken (provided expected : String) : Except HelperError Unit :=
  if !constantTimeEq (textBytes provided) (textBytes expected) then .error .authFailed else .ok ()

/-! ## Answers and the audit log -/

/-- `Response` (protocol.rs:325). -/
structure Response where
  success : Bool
  message : String
  errorKind : Option String
  data : CommandData
deriving DecidableEq

/-- `Response::err` (protocol.rs:350). -/
def Response.err (e : HelperError) : Response where
  success := false
  message := e.display
  errorKind := some e.kind
  data :=
    match e with
    | .busy op args => .busy op args
    | _ => .none

/-- The vocabulary of `outcome` (logging.rs:20). -/
inductive Outcome
  | completed
  | cancelled
  | error
  | rejected
  | noOp
deriving DecidableEq

/-- `LogEntry` (logging.rs:44), as `log_command` fills it in, without the time. -/
structure LogEntry where
  cmd : String
  args : List String
  durationMs : ℕ
  exitCode : ℤ
  error : Option String
  outcome : Option Outcome
deriving DecidableEq

/-- `extract_op_and_args` (main.rs:201). Other data have no `op` and no `args`. -/
def extractOpAndArgs : CommandData → String × String
  | .busy op args => (op, " ".intercalate args)
  | .cancelled op args _ => (op, " ".intercalate args)
  | _ => ("unknown", "")

/-- The entry for an executed command (main.rs:337–419). -/
def resultEntry (cmd : HelperCommand) (result : CommandResult) (durationMs : ℕ) : LogEntry :=
  let exitCode := result.exitCode.getD (-1)
  let (op, args) := extractOpAndArgs result.data
  if result.errorKind = some "busy" then
    ⟨"rejected_busy", ["rejected=" ++ cmd.name,
        "rejected_args=" ++ " ".intercalate cmd.argsForLog, "in_flight=" ++ op,
        "in_flight_args=" ++ args], durationMs, exitCode, none, some .rejected⟩
  else if cmd.name = "cancel" then
    match result.data with
    | .cancelled _ _ _ =>
      ⟨"cancel", ["target=" ++ op, "target_args=" ++ args], durationMs, exitCode, some op,
        some .completed⟩
    | _ => ⟨"cancel", [], durationMs, exitCode, some "none", some .noOp⟩
  else
    let outcome :=
      if result.errorKind = some "cancelled" then .cancelled
      else if exitCode = 0 then .completed
      else .error
    ⟨cmd.name, cmd.argsForLog, durationMs, exitCode, result.error, some outcome⟩

/-! ## The connection -/

/-- A final line for the client. -/
inductive Answer
  | response (response : Response)
  | result (result : CommandResult) (durationMs : ℕ)
deriving DecidableEq

/-- What the connection does, in order. -/
inductive ConnAction
  | audit (entry : LogEntry)
  | execute (cmd : HelperCommand)
  | answer (answer : Answer)
deriving DecidableEq

/-- What the code under the connection does. -/
structure Connection where
  /-- `try_clone`. -/
  cloned : Except String Unit
  /-- `serde_json::from_str::<Request>`. -/
  decode : String → Except String Request
  /-- `commands::execute`, with the duration of the result. -/
  execute : HelperCommand → CommandResult × ℕ
  /-- Writing a line to the client. -/
  send : Answer → Except String Unit

/-- The first line, with its newline. -/
def firstLine : List UInt8 → List UInt8
  | [] => []
  | b :: bs => if b = 10 then [b] else b :: firstLine bs

/-- What `read_line` takes from the limited stream. -/
def taken (sent : List UInt8) : List UInt8 := firstLine (sent.take maxRequestSize)

/-- The text of some bytes, if they are UTF-8. -/
def decodeUtf8 (bytes : List UInt8) : Option String := String.fromUTF8? ⟨bytes.toArray⟩

namespace Connection

variable (conn : Connection)

/-- `send_response` (main.rs:425). -/
def sendResponse (e : HelperError) : Except HelperError Unit :=
  (conn.send (.response (.err e))).mapError .io

/-- An exit that logs the error and answers with it. -/
def refuse (cmd : String) (e : HelperError) : List ConnAction × Except HelperError Unit :=
  ([.audit ⟨cmd, [], 0, 1, some e.display, some .error⟩, .answer (.response (.err e))],
    conn.sendResponse e)

/-- The rest of `handle_connection`, for a request with a valid token. -/
def run (request : Request) : List ConnAction × Except HelperError Unit :=
  match request.parseCommand with
  | .error e => conn.refuse request.command e
  | .ok cmd =>
    let (result, durationMs) := conn.execute cmd
    ([.execute cmd, .answer (.result result durationMs),
      .audit (resultEntry cmd result durationMs)], .ok ())

/-- `handle_connection` (main.rs:245). -/
def handleConnection (expectedToken : String) (sent : List UInt8) :
    List ConnAction × Except HelperError Unit :=
  match conn.cloned with
  | .error e => ([], .error (.io e))
  | .ok () =>
    match decodeUtf8 (taken sent) with
    | none => ([], .error (.io "stream did not contain valid UTF-8"))
    | some line =>
      if taken sent = [] then
        ([.answer (.response (.err (.invalidRequest "empty request")))],
          conn.sendResponse (.invalidRequest "empty request"))
      else if line.toList.getLast? ≠ some '\n' ∧ maxRequestSize ≤ line.utf8ByteSize then
        conn.refuse "unknown" .requestTooLarge
      else
        match conn.decode (String.ofList (Text.trim line.toList)) with
        | .error e => conn.refuse "unknown" (.invalidRequest ("invalid JSON: " ++ e))
        | .ok request =>
          match validateToken request.token expectedToken with
          | .error e => conn.refuse "auth" e
          | .ok () => conn.run request

end Connection

/-! ## Texts and bytes -/

variable {conn : Connection} {token line s s' : String} {sent bytes bytes' : List UInt8}

theorem textBytes_inj : textBytes s = textBytes s' ↔ s = s' := by
  refine ⟨fun h => ?_, fun h => h ▸ rfl⟩
  rw [← String.toByteArray_inj]
  exact ByteArray.ext (Array.toList_inj.mp h)

theorem textBytes_of_decodeUtf8 (h : decodeUtf8 bytes = some s) : textBytes s = bytes := by
  unfold decodeUtf8 String.fromUTF8? at h
  split_ifs at h
  obtain rfl := Option.some.inj h
  rfl

theorem length_textBytes (s : String) : (textBytes s).length = s.utf8ByteSize := by
  rw [textBytes, Array.length_toList]
  rfl

theorem newline_mem_textBytes (h : '\n' ∈ s.toList) : 10 ∈ textBytes s := by
  have hbytes : textBytes s = s.toList.flatMap String.utf8EncodeChar := by
    rw [textBytes, ← String.utf8Encode_toList]
    simp [List.utf8Encode]
  rw [hbytes]
  exact List.mem_flatMap.mpr ⟨'\n', h, by decide⟩

/-- The accumulator stays zero iff the bytes are the same. -/
theorem foldl_xor_eq_zero (acc : UInt8) (h : bytes.length = bytes'.length) :
    (bytes.zip bytes').foldl (fun acc p => acc ||| (p.1 ^^^ p.2)) acc = 0 ↔
      acc = 0 ∧ bytes = bytes' := by
  induction bytes generalizing acc bytes' with
  | nil =>
    obtain rfl := List.length_eq_zero_iff.mp h.symm
    simp
  | cons b bytes ih =>
    cases bytes' with
    | nil => cases h
    | cons b' bytes' =>
      rw [List.zip_cons_cons, List.foldl_cons, ih _ (Nat.succ.inj h), UInt8.or_eq_zero_iff,
        UInt8.xor_eq_zero_iff, List.cons_eq_cons, and_assoc]

theorem constantTimeEq_iff : constantTimeEq bytes bytes' = true ↔ bytes = bytes' := by
  unfold constantTimeEq
  split_ifs with h
  · exact iff_of_false (by simp) fun heq => h (congrArg List.length heq)
  · rw [decide_eq_true_iff, foldl_xor_eq_zero 0 (not_not.mp h)]
    simp

theorem validateToken_eq_ok_iff : validateToken s s' = .ok () ↔ s = s' := by
  unfold validateToken
  rw [← textBytes_inj, ← constantTimeEq_iff]
  cases constantTimeEq (textBytes s) (textBytes s') <;> simp

/-! ## The first line -/

theorem firstLine_append (h : 10 ∈ bytes) : firstLine (bytes ++ bytes') = firstLine bytes := by
  induction bytes with
  | nil => cases h
  | cons b bytes ih =>
    rw [List.cons_append, firstLine, firstLine]
    split_ifs with hb
    · rfl
    · rw [ih ((List.mem_cons.mp h).resolve_left (Ne.symm hb))]

theorem firstLine_of_notMem (h : 10 ∉ bytes) : firstLine bytes = bytes := by
  induction bytes with
  | nil => rfl
  | cons b bytes ih =>
    obtain ⟨hb, hbytes⟩ := List.ne_and_not_mem_of_not_mem_cons h
    rw [firstLine, if_neg (Ne.symm hb), ih hbytes]

theorem firstLine_isPrefix (bytes : List UInt8) : firstLine bytes <+: bytes := by
  induction bytes with
  | nil => exact List.prefix_refl []
  | cons b bytes ih =>
    rw [firstLine]
    split_ifs
    · exact ⟨bytes, rfl⟩
    · exact List.cons_prefix_cons.mpr ⟨rfl, ih⟩

theorem length_taken_le (sent : List UInt8) : (taken sent).length ≤ maxRequestSize :=
  (firstLine_isPrefix _).length_le.trans (List.length_take_le _ _)

/-- A line that ends below the limit was taken as a whole. -/
theorem taken_eq_firstLine (h : 10 ∈ taken sent ∨ (taken sent).length < maxRequestSize) :
    taken sent = firstLine sent := by
  by_cases hmem : 10 ∈ sent.take maxRequestSize
  · conv_rhs => rw [← List.take_append_drop maxRequestSize sent]
    exact (firstLine_append hmem).symm
  · obtain h | h := h
    · exact absurd ((firstLine_isPrefix _).subset h) hmem
    · rw [taken, firstLine_of_notMem hmem, List.length_take] at h
      have hlen : sent.length ≤ maxRequestSize := by omega
      rw [taken, List.take_of_length_le hlen]

theorem taken_ne_nil (h : sent ≠ []) : taken sent ≠ [] := by
  obtain ⟨b, sent, rfl⟩ := List.exists_cons_of_ne_nil h
  have htake : (b :: sent).take maxRequestSize = b :: sent.take (maxRequestSize - 1) := rfl
  rw [taken, htake, firstLine]
  split_ifs <;> exact List.cons_ne_nil _ _

/-! ## What a connection does -/

/-- The commands that were executed. -/
def executed (actions : List ConnAction) : List HelperCommand :=
  actions.filterMap fun | .execute cmd => some cmd | _ => none

/-- The entries for the audit log. -/
def audited (actions : List ConnAction) : List LogEntry :=
  actions.filterMap fun | .audit entry => some entry | _ => none

/-- The final lines for the client. -/
def answered (actions : List ConnAction) : List Answer :=
  actions.filterMap fun | .answer answer => some answer | _ => none

/-- The first line is short enough, and a request for the command with the token. -/
def Admitted (conn : Connection) (token : String) (sent : List UInt8) (cmd : HelperCommand) :
    Prop :=
  (firstLine sent).length ≤ maxRequestSize ∧
    ∃ line request, decodeUtf8 (firstLine sent) = some line ∧
      conn.decode (String.ofList (Text.trim line.toList)) = .ok request ∧
      request.token = token ∧ request.parseCommand = .ok cmd

/-- The stream was cloned, and what was read is a text. -/
def Readable (conn : Connection) (sent : List UInt8) : Prop :=
  conn.cloned = .ok () ∧ (decodeUtf8 (taken sent)).isSome = true

/-- The exits of `handle_connection`. -/
inductive ExitCase (conn : Connection) (token : String) (sent : List UInt8) :
    List ConnAction → Prop
  | unreadable (hread : ¬Readable conn sent) : ExitCase conn token sent []
  | empty (hread : Readable conn sent) (hsent : sent = []) (answer : Answer) :
    ExitCase conn token sent [.answer answer]
  | refused (hread : Readable conn sent) (entry : LogEntry) (answer : Answer) :
    ExitCase conn token sent [.audit entry, .answer answer]
  | executed (hread : Readable conn sent) {cmd : HelperCommand}
    (hcmd : Admitted conn token sent cmd) (answer : Answer) (entry : LogEntry) :
    ExitCase conn token sent [.execute cmd, .answer answer, .audit entry]

theorem handleConnection_cases (conn : Connection) (token : String) (sent : List UInt8) :
    ExitCase conn token sent (conn.handleConnection token sent).1 := by
  unfold Connection.handleConnection
  cases hcloned : conn.cloned with
  | error e => exact .unreadable fun h => by rw [h.1] at hcloned; cases hcloned
  | ok _ =>
    cases hline : decodeUtf8 (taken sent) with
    | none => exact .unreadable fun h => by rw [Readable, hline] at h; cases h.2
    | some line =>
      have hread : Readable conn sent := ⟨hcloned, by rw [hline]; rfl⟩
      dsimp only
      split_ifs with hempty hlarge
      · exact .empty hread (by_contra fun hne => taken_ne_nil hne hempty) _
      · exact .refused hread _ _
      · cases hrequest : conn.decode (String.ofList (Text.trim line.toList)) with
        | error e => exact .refused hread _ _
        | ok request =>
          dsimp only
          cases htoken : validateToken request.token token with
          | error e => exact .refused hread _ _
          | ok _ =>
            unfold Connection.run
            cases hcmd : request.parseCommand with
            | error e => exact .refused hread _ _
            | ok cmd =>
              refine .executed hread ?_ _ _
              have hwhole : taken sent = firstLine sent := by
                have htext := textBytes_of_decodeUtf8 hline
                refine taken_eq_firstLine ?_
                obtain hlast | hlen := not_and_or.mp hlarge
                · left
                  rw [← htext]
                  exact newline_mem_textBytes (List.mem_of_getLast? (not_not.mp hlast))
                · right
                  rw [← htext, length_textBytes]
                  exact Nat.lt_of_not_le hlen
              exact ⟨hwhole ▸ length_taken_le sent, line, request, hwhole ▸ hline, hrequest,
                validateToken_eq_ok_iff.mp htoken, hcmd⟩

/-- The gate: at most one command is executed, and only if the bytes admit it; one entry is
    written, and one final line is tried. -/
structure Gate (conn : Connection) (token : String) (sent : List UInt8) : Prop where
  admitted : ∀ cmd ∈ executed (conn.handleConnection token sent).1, Admitted conn token sent cmd
  once : (executed (conn.handleConnection token sent).1).length ≤ 1
  audited : (audited (conn.handleConnection token sent).1).length = 1
  answered : (answered (conn.handleConnection token sent).1).length = 1

theorem executed_admitted (conn : Connection) (token : String) (sent : List UInt8) :
    (executed (conn.handleConnection token sent).1).length ≤ 1 ∧
      ∀ cmd ∈ executed (conn.handleConnection token sent).1, Admitted conn token sent cmd := by
  have hcase := handleConnection_cases conn token sent
  generalize (conn.handleConnection token sent).1 = actions at hcase
  cases hcase with
  | unreadable hread => exact ⟨Nat.zero_le 1, nofun⟩
  | empty hread hsent answer => exact ⟨Nat.zero_le 1, nofun⟩
  | refused hread entry answer => exact ⟨Nat.zero_le 1, nofun⟩
  | executed hread hcmd answer entry =>
    exact ⟨le_refl 1, fun cmd hmem => by rwa [List.mem_singleton.mp hmem]⟩

theorem Gate.readable (h : Gate conn token sent) : Readable conn sent := by
  have haudited := h.audited
  have hcase := handleConnection_cases conn token sent
  generalize (conn.handleConnection token sent).1 = actions at hcase haudited
  cases hcase with
  | unreadable => cases haudited
  | empty hread | refused hread | executed hread => exact hread

/-- The gate holds for the bytes of a client exactly if they could be read as a text. -/
theorem gate_iff (conn : Connection) (token : String) {sent : List UInt8} (hsent : sent ≠ []) :
    Gate conn token sent ↔ Readable conn sent := by
  refine ⟨Gate.readable, fun hread => ?_⟩
  obtain ⟨honce, hadmitted⟩ := executed_admitted conn token sent
  have hcounts : (audited (conn.handleConnection token sent).1).length = 1 ∧
      (answered (conn.handleConnection token sent).1).length = 1 := by
    have hcase := handleConnection_cases conn token sent
    generalize (conn.handleConnection token sent).1 = actions at hcase
    cases hcase with
    | unreadable hno => exact absurd hread hno
    | empty _ hempty => exact absurd hempty hsent
    | refused => exact ⟨rfl, rfl⟩
    | executed => exact ⟨rfl, rfl⟩
  exact ⟨hadmitted, honce, hcounts.1, hcounts.2⟩

/-- A stream that is there, and requests that all ask for the status. -/
def sampleConnection : Connection where
  cloned := .ok ()
  decode _ := .ok ⟨"token", "status", none, false⟩
  execute _ := (⟨true, some 0, none, none, .status none⟩, 0)
  send _ := .ok ()

theorem gate_status : Gate sampleConnection "token" [0x7b, 0x7d, 10] :=
  (gate_iff _ _ (List.cons_ne_nil _ _)).mpr ⟨rfl, by decide +kernel⟩

/-- A byte that starts no character: the connection ends without an entry and an answer. -/
theorem invalid_utf8_unlogged : [0xff, 10] ≠ ([] : List UInt8) ∧
    ¬Gate sampleConnection "token" [0xff, 10] :=
  ⟨List.cons_ne_nil _ _, fun h => absurd h.readable.2 (by decide +kernel)⟩

end DarkTower.Devloop
