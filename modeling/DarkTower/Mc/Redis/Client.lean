import DarkTower.Lib.Machine
import DarkTower.Mc.Messages
import DarkTower.Mc.Redis.Scripts
import Mathlib.Algebra.Group.Int.Defs
import Mathlib.Algebra.Group.Nat.Defs
import Mathlib.Logic.Function.Basic

/-!
# The fenced Redis client (`mc-service/src/redis/client.rs`)

A client method is a sequence of round trips to Redis. A call in progress is
described by the command whose reply it waits for (`Waiting`), so the calls of
any number of controllers interleave at the commands.

* A round trip can fail with an error `e`, before or after Redis executed the
  command; the call then returns the error.
* `store_meeting_state` first tries `EVALSHA` and falls back to `EVAL` when the
  script is not cached; the failed attempt has no effect, so the script is one
  command here.
* The JSON text of `store_mh_assignment` is an argument: `serde_json` does not
  fail on it. `local_generation` is written and never read, and is left out.
-/

namespace DarkTower.Mc.Redis

open DarkTower.Lib

/-- How Redis answers with a Lua number, and how Rust reads back the text that
    `SET` stores for one. Both depend on the version of the server once the
    number is too large for a double to be exact. -/
structure Server where
  /-- The integer reply for a Lua number. -/
  integerReply : ℕ → ℤ
  /-- `parse::<u64>` of the text stored for a Lua number. -/
  parseU64 : ℕ → Option ℕ
  integerReply_of_le : ∀ n ≤ 2 ^ 53, integerReply n = n
  parseU64_of_le : ∀ n ≤ 2 ^ 53, parseU64 n = some n

/-- A server that answers with the exact numbers. -/
def Server.exact : Server where
  integerReply n := n
  parseU64 n := if n < 2 ^ 64 then some n else none
  integerReply_of_le _ _ := rfl
  parseU64_of_le n hn := if_pos (lt_of_le_of_lt hn (by decide))

/-- `i as u64` for an `i64`. -/
def asU64 (i : ℤ) : ℕ := (i % 2 ^ 64).toNat

/-- A call of a client method. -/
inductive Request
  | getGeneration
  | incrementGeneration
  | storeMhAssignment (json : String)
  | deleteMhAssignment
  | storeMeetingState (generation : ℕ) (fields : List (String × String))
  | deleteMeeting
deriving DecidableEq

/-- A call in progress, by the command it waits for. -/
inductive Waiting
  /-- `get_generation`: `GET`. -/
  | getGeneration
  /-- `increment_generation`: `INCREMENT_GENERATION`. -/
  | incrementGeneration
  /-- `store_mh_assignment`: `INCREMENT_GENERATION`. -/
  | storeIncrement (json : String)
  /-- `store_mh_assignment`: `FENCED_WRITE` with the incremented generation. -/
  | storeWrite (generation : ℕ) (json : String)
  /-- `delete_mh_assignment`: `GET`. -/
  | deleteGet
  /-- `delete_mh_assignment`: `FENCED_DELETE`, after `GET` gave `generation`. -/
  | deleteFenced (generation : ℕ)
  /-- `store_meeting_state`: `FENCED_HSET`. -/
  | storeState (generation : ℕ) (fields : List (String × String))
  /-- `delete_meeting`: `DEL`. -/
  | deleteMeeting
deriving DecidableEq

/-- The first command of a method. -/
def Request.waiting : Request → Waiting
  | .getGeneration => .getGeneration
  | .incrementGeneration => .incrementGeneration
  | .storeMhAssignment json => .storeIncrement json
  | .deleteMhAssignment => .deleteGet
  | .storeMeetingState generation fields => .storeState generation fields
  | .deleteMeeting => .deleteMeeting

/-- What a method returns on success. -/
inductive Outcome
  | generation (generation : ℕ)
  | unit
deriving DecidableEq

/-- A command as Redis executed it, with the values the client sees. -/
inductive Executed
  | get (generation : ℕ)
  | increment (generation : ℕ)
  | fencedWrite (generation : ℕ) (result : ℤ)
  | fencedHset (generation : ℕ) (result : ℤ)
  | fencedDelete (generation : ℕ) (result : ℤ)
  | del
deriving DecidableEq

/-- `get_generation` (client.rs:165): the text, parsed, or 0. -/
def Server.getGeneration (S : Server) (keys : MeetingKeys) : ℕ :=
  match keys.generation with
  | some (.number n) => (S.parseU64 n).getD 0
  | _ => 0

/-- The result of a fenced write (client.rs:297–331, 506–539). -/
def writeResult (generation : ℕ) (result : ℤ) : Except McError Outcome :=
  if result = 1 then .ok .unit
  else if result = 0 then .error (.fencedOut ("Generation " ++ toString generation ++ " is stale"))
  else .error (.redis "Invalid generation format")

/-- The result of a fenced delete (client.rs:403–418). -/
def deleteResult (result : ℤ) : Except McError Outcome :=
  if 0 ≤ result then .ok .unit else .error (.redis "Failed to delete MH assignment")

/-- Redis executes the command a call waits for: the keys after it, the
    command, and the call's next command or its result. -/
def Waiting.run (S : Server) (keys : MeetingKeys) :
    Waiting → MeetingKeys × Executed × (Waiting ⊕ Except McError Outcome)
  | .getGeneration =>
    let generation := S.getGeneration keys
    (keys, .get generation, .inr (.ok (.generation generation)))
  | .incrementGeneration =>
    let script := Redis.incrementGeneration keys
    let generation := asU64 (S.integerReply script.2)
    (script.1, .increment generation, .inr (.ok (.generation generation)))
  | .storeIncrement json =>
    let script := Redis.incrementGeneration keys
    let generation := asU64 (S.integerReply script.2)
    (script.1, .increment generation, .inl (.storeWrite generation json))
  | .storeWrite generation json =>
    let script := fencedWrite keys (.number generation) json
    (script.1, .fencedWrite generation script.2, .inr (writeResult generation script.2))
  | .deleteGet =>
    let generation := S.getGeneration keys
    (keys, .get generation, .inl (.deleteFenced generation))
  | .deleteFenced generation =>
    let script := fencedDelete keys (.number (generation + 1))
    (script.1, .fencedDelete (generation + 1) script.2, .inr (deleteResult script.2))
  | .storeState generation fields =>
    let script := fencedHset keys (.number generation) fields
    (script.1, .fencedHset generation script.2, .inr (writeResult generation script.2))
  | .deleteMeeting => (delMeeting keys, .del, .inr (.ok .unit))

/-- The error text a failed round trip is wrapped in. -/
def Waiting.errorText : Waiting → String
  | .getGeneration => "Failed to get generation: "
  | .incrementGeneration => "Failed to increment generation: "
  | .storeIncrement _ => "Failed to increment generation: "
  | .storeWrite _ _ => "Failed to store MH assignment: "
  | .deleteGet => "Failed to get generation: "
  | .deleteFenced _ => "Failed to delete MH assignment: "
  | .storeState _ _ => "Failed to store meeting state: "
  | .deleteMeeting => "Failed to delete meeting data: "

/-! ## Interleaved calls -/

/-- Redis and the calls in progress. -/
structure RedisSystem where
  keys : MeetingKeys
  calls : ℕ → Option Waiting

/-- One step of the system. -/
inductive RedisEvent
  /-- A controller calls a method. -/
  | start (call : ℕ) (request : Request)
  /-- Redis executes the command of a call and the reply arrives. -/
  | run (call : ℕ)
  /-- The round trip of a call fails with `e`, maybe after the command ran. -/
  | fail (call : ℕ) (executed : Bool) (e : String)
deriving DecidableEq

namespace RedisSystem

/-- The answer to a step: the command that was executed, if any, and the
    result of the call if it returned. -/
abbrev Answer := Option Executed × Option (Except McError Outcome)

/-- The command that a step makes Redis execute. -/
def executes (s : RedisSystem) : RedisEvent → Option Waiting
  | .start _ _ => none
  | .run call => s.calls call
  | .fail call executed _ => if executed then s.calls call else none

/-- The keys after a step. -/
def keysAfter (S : Server) (s : RedisSystem) (e : RedisEvent) : MeetingKeys :=
  match s.executes e with
  | none => s.keys
  | some waiting => (waiting.run S s.keys).1

/-- The command a step executed, as its answer shows it. -/
def executed (S : Server) (s : RedisSystem) (e : RedisEvent) : Option Executed :=
  (s.executes e).map fun waiting => (waiting.run S s.keys).2.1

/-- What becomes of the calls, and the result of the call that returned. -/
def advance (S : Server) (s : RedisSystem) :
    RedisEvent → (ℕ → Option Waiting) × Option (Except McError Outcome)
  | .start call request => (Function.update s.calls call (some request.waiting), none)
  | .run call =>
    match s.calls call with
    | none => (s.calls, none)
    | some waiting =>
      match (waiting.run S s.keys).2.2 with
      | .inl next => (Function.update s.calls call (some next), none)
      | .inr result => (Function.update s.calls call none, some result)
  | .fail call _ e =>
    match s.calls call with
    | none => (s.calls, none)
    | some waiting =>
      (Function.update s.calls call none, some (.error (.redis (waiting.errorText ++ e))))

/-- One step. -/
def step (S : Server) (s : RedisSystem) (e : RedisEvent) : RedisSystem × Answer :=
  (⟨s.keysAfter S e, (s.advance S e).1⟩, s.executed S e, (s.advance S e).2)

end RedisSystem

/-- The call an event starts. -/
def RedisEvent.started? : RedisEvent → Option ℕ
  | .start call _ => some call
  | _ => none

/-- A history of the system. -/
abbrev RedisHistory := List (RedisEvent × RedisSystem.Answer)

/-- The calls `permits` lets controllers make on one meeting, from a Redis
    without keys for it. A call is started once. -/
def redisMachine (S : Server) (permits : Request → Bool) :
    Machine RedisSystem RedisEvent RedisSystem.Answer where
  init := ⟨MeetingKeys.empty, fun _ => none⟩
  step := RedisSystem.step S
  allowed h s e :=
    match e with
    | .start call request => permits request = true ∧ ∀ x ∈ h, x.1.started? ≠ some call
    | .run call => s.calls call ≠ none
    | .fail call _ _ => s.calls call ≠ none

instance (S : Server) (permits : Request → Bool) (h : RedisHistory) (s : RedisSystem)
    (e : RedisEvent) : Decidable ((redisMachine S permits).allowed h s e) :=
  match e with
  | .start _ _ => inferInstanceAs (Decidable (_ ∧ _))
  | .run _ => inferInstanceAs (Decidable (_ ≠ _))
  | .fail _ _ _ => inferInstanceAs (Decidable (_ ≠ _))

end DarkTower.Mc.Redis
