import DarkTower.Lib.Binary64
import Mathlib.Data.List.AList

/-!
# The Lua scripts of the fenced Redis client (`mc-service/src/redis/lua_scripts.rs`)

The scripts run atomically on the keys of one meeting. Lua numbers are
doubles: `tonumber` rounds a decimal text to the nearest one (`Binary64.round`)
and `val + 1` rounds again. `SET` stores a Lua number as a text that
`tonumber` reads back as the same number, so a text is modelled by its value.

* `fenced_cases`: the four ways a fenced script can end.
* `incrementGeneration_le`: an increment does not lower the generation.
-/

namespace DarkTower.Mc.Redis

open DarkTower.Lib

/-- A Redis string as Lua's `tonumber` sees it: the decimal text of a number,
    or a text that is none. -/
inductive RedisText
  | number (n : ℕ)
  | other (text : String)
deriving DecidableEq

/-- `tonumber`; `none` is Lua's `nil`. -/
def RedisText.tonumber : RedisText → Option ℕ
  | .number n => some (Binary64.round n)
  | .other _ => none

/-- The keys `meeting:{id}:generation`, `meeting:{id}:mh` and
    `meeting:{id}:state` of one meeting. -/
structure MeetingKeys where
  generation : Option RedisText
  mh : Option String
  state : AList fun _ : String => String

/-- The keys of a meeting nobody has written to. -/
def MeetingKeys.empty : MeetingKeys := ⟨none, none, ∅⟩

/-- The generation a meeting has stored, as a number. -/
def MeetingKeys.storedGeneration (keys : MeetingKeys) : Option ℕ :=
  keys.generation.bind (·.tonumber)

/-- The common text of the fenced scripts. `absent` and `accept` are the keys
    after the two successful branches, given the number `expected_gen`. -/
def fenced (keys : MeetingKeys) (argv1 : RedisText) (absent accept : ℕ → MeetingKeys) :
    MeetingKeys × ℤ :=
  match argv1.tonumber with
  | none => (keys, -1)
  | some expectedGen =>
    match keys.generation with
    | none => (absent expectedGen, 1)
    | some currentGen =>
      match currentGen.tonumber with
      | none => (keys, -1)
      | some current => if current ≤ expectedGen then (accept expectedGen, 1) else (keys, 0)

/-- `SET KEYS[1] expected_gen`. -/
def MeetingKeys.setGeneration (keys : MeetingKeys) (expectedGen : ℕ) : MeetingKeys :=
  { keys with generation := some (.number expectedGen) }

/-- `SET KEYS[2] data`. -/
def MeetingKeys.setMh (keys : MeetingKeys) (data : String) : MeetingKeys :=
  { keys with mh := some data }

/-- `DEL KEYS[2]`. -/
def MeetingKeys.delMh (keys : MeetingKeys) : MeetingKeys :=
  { keys with mh := none }

/-- `HSET KEYS[2] field value` for each pair. -/
def MeetingKeys.hset (keys : MeetingKeys) (fields : List (String × String)) : MeetingKeys :=
  { keys with state := fields.foldl (fun state field => state.insert field.1 field.2) keys.state }

/-- `FENCED_WRITE` (lua_scripts.rs:26). -/
def fencedWrite (keys : MeetingKeys) (argv1 : RedisText) (data : String) : MeetingKeys × ℤ :=
  fenced keys argv1 (fun expectedGen => (keys.setGeneration expectedGen).setMh data)
    fun expectedGen => (keys.setGeneration expectedGen).setMh data

/-- `FENCED_HSET` (lua_scripts.rs:71). -/
def fencedHset (keys : MeetingKeys) (argv1 : RedisText) (fields : List (String × String)) :
    MeetingKeys × ℤ :=
  fenced keys argv1 (fun expectedGen => (keys.setGeneration expectedGen).hset fields)
    fun expectedGen => (keys.setGeneration expectedGen).hset fields

/-- `FENCED_DELETE` (lua_scripts.rs:140). Unlike the fenced writes it stores no
    generation when there is none. -/
def fencedDelete (keys : MeetingKeys) (argv1 : RedisText) : MeetingKeys × ℤ :=
  fenced keys argv1 (fun _ => keys) fun expectedGen => (keys.setGeneration expectedGen).delMh

/-- `INCREMENT_GENERATION` (lua_scripts.rs:114), with the Lua number it returns. -/
def incrementGeneration (keys : MeetingKeys) : MeetingKeys × ℕ :=
  let newGen :=
    match keys.generation with
    | none => 1
    | some current =>
      match current.tonumber with
      | none => 1
      | some val => Binary64.round (val + 1)
  (keys.setGeneration newGen, newGen)

/-- `DEL` of the keys of the meeting (client.rs:547–558). -/
def delMeeting (_keys : MeetingKeys) : MeetingKeys := MeetingKeys.empty

/-! ## The stored generation -/

section Generation

variable (keys : MeetingKeys)

@[simp] theorem storedGeneration_setMh (data : String) :
    (keys.setMh data).storedGeneration = keys.storedGeneration := rfl

@[simp] theorem storedGeneration_delMh : keys.delMh.storedGeneration = keys.storedGeneration := rfl

@[simp] theorem storedGeneration_hset (fields : List (String × String)) :
    (keys.hset fields).storedGeneration = keys.storedGeneration := rfl

@[simp] theorem storedGeneration_setGeneration (n : ℕ) :
    (keys.setGeneration n).storedGeneration = some (Binary64.round n) := rfl

/-- The four ways a fenced script can end. -/
inductive FenceCase (keys : MeetingKeys) (generation : ℕ) (absent accept : ℕ → MeetingKeys) :
    MeetingKeys × ℤ → Prop
  | absent (h : keys.generation = none) :
      FenceCase keys generation absent accept (absent (Binary64.round generation), 1)
  | accept (current : ℕ) (h : keys.storedGeneration = some current)
      (hle : current ≤ Binary64.round generation) :
      FenceCase keys generation absent accept (accept (Binary64.round generation), 1)
  | stale (current : ℕ) (h : keys.storedGeneration = some current)
      (hlt : Binary64.round generation < current) :
      FenceCase keys generation absent accept (keys, 0)
  | malformed (text : String) (h : keys.generation = some (.other text)) :
      FenceCase keys generation absent accept (keys, -1)

theorem fenced_cases (generation : ℕ) (absent accept : ℕ → MeetingKeys) :
    FenceCase keys generation absent accept
      (fenced keys (.number generation) absent accept) := by
  cases hgen : keys.generation with
  | none =>
    simp only [fenced, RedisText.tonumber, hgen]
    exact .absent hgen
  | some currentGen =>
    cases currentGen with
    | other text =>
      simp only [fenced, RedisText.tonumber, hgen]
      exact .malformed text hgen
    | number n =>
      have hstored : keys.storedGeneration = some (Binary64.round n) := by
        simp [MeetingKeys.storedGeneration, hgen, RedisText.tonumber]
      simp only [fenced, RedisText.tonumber, hgen]
      split_ifs with hle
      · exact .accept _ hstored hle
      · exact .stale _ hstored (by omega)

/-- An increment stores a generation that is not below the old one. -/
theorem incrementGeneration_le :
    ∃ newGen, (incrementGeneration keys).1.storedGeneration = some newGen ∧
      ∀ current ∈ keys.storedGeneration, current ≤ newGen := by
  refine ⟨_, rfl, fun current hcurrent => ?_⟩
  obtain ⟨currentGen, hgen, hnum⟩ := Option.bind_eq_some_iff.mp hcurrent
  simp only [hgen, hnum]
  cases currentGen with
  | other text => cases hnum
  | number n =>
    simp only [RedisText.tonumber, Option.some.injEq] at hnum
    subst hnum
    calc Binary64.round n = Binary64.round (Binary64.round n) := (Binary64.round_round n).symm
      _ ≤ Binary64.round (Binary64.round n + 1) := Binary64.round_mono (Nat.le_succ _)
      _ = Binary64.round (Binary64.round (Binary64.round n + 1)) :=
        (Binary64.round_round _).symm

end Generation

end DarkTower.Mc.Redis
