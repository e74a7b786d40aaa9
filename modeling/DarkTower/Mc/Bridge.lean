import DarkTower.Lib.Frames
import DarkTower.Lib.Machine
import DarkTower.Mc.Messages

/-!
# The bridge loop of a joined connection

Model of `run_bridge_loop` (`mc-service/src/webtransport/connection.rs:475`) with
`read_framed_message` (line 594) and `write_raw_framed` (line 642).

The loop is a `select!` between the cancellation token, the channel of outbound
updates and a fresh `read_framed_message`. The read takes bytes as they arrive, first
the length, then the body, and keeps them in buffers of its own (`taken`); whichever
arm wins, the other two futures are dropped, and with the read what it has taken.

* `readFramedMessage_of_prefix`: on a prefix of the client's frames the read is
  pending or returns exactly the first message.
* `Intact.handed_all`: a running loop that lost nothing and took the whole stream has
  handed on every message.
* `intact_along_iff`: the messages handed on are the client's, in order and with no
  byte lost, all along a run iff no outbound update is written while the pending read
  has taken part of a frame (`CutsRead`).
* `cutFrame_lost`: an update in the middle of a frame loses the frame's first bytes.
-/

namespace DarkTower.Mc

open DarkTower.Lib DarkTower.Lib.Bytes

/-- `MAX_MESSAGE_SIZE` (line 33). -/
def maxMessageSize : ℕ := 64 * 1024

/-- `read_framed_message` on the bytes it has taken from the stream so far: `none`
    while it waits for more of them. -/
def readFramedMessage (taken : List UInt8) : Option (Except McError (List UInt8)) :=
  if taken.length < 4 then none
  else
    let msgLen := getBE (taken.take 4)
    if maxMessageSize < msgLen then some (.error (.internal "Message too large"))
    else if msgLen = 0 then some (.error (.internal "Empty message"))
    else if taken.length < 4 + msgLen then none
    else some (.ok (taken.drop 4))

/-- How many bytes the `read_exact` at hand still asks for. -/
def wanted (taken : List UInt8) : ℕ :=
  if taken.length < 4 then 4 - taken.length else 4 + getBE (taken.take 4) - taken.length

/-- The error of the `read_exact` at hand when the stream ends or fails. -/
def readExactError (taken : List UInt8) : McError :=
  .internal (if taken.length < 4 then "Failed to read message" else "Failed to read message body")

/-- `write_raw_framed`; `write` is what `write_all` answers for the frame. -/
def writeRawFramed (data : List UInt8) (write : Except String Unit) :
    Except McError (List UInt8) :=
  if 2 ^ 32 ≤ data.length then .error (.internal "Message too large to frame")
  else
    match write with
    | .ok () => .ok (frame 4 data)
    | .error e => .error (.internal ("Stream write failed: " ++ e))

/-- The loop and its two streams. `consumed` is everything the reads of the loop ever
    took; `result` is set when the loop has ended. -/
structure Bridge where
  arrived : List UInt8
  consumed : List UInt8
  taken : List UInt8
  handed : List (List UInt8)
  written : List UInt8
  result : Option (Except McError Unit)
deriving DecidableEq

/-- What happens to the loop next. -/
inductive BridgeEvent
  /-- The client's stream delivers bytes. -/
  | arrive (chunk : List UInt8)
  /-- The pending read takes the next bytes that arrived. -/
  | read (n : ℕ)
  /-- The client's stream ends or fails under the pending read. -/
  | readFails
  /-- An outbound update wins the select. -/
  | outbound (data : List UInt8) (write : Except String Unit)
  | outboundClosed
  | cancelled

namespace Bridge

/-- The loop when it starts. -/
def start : Bridge :=
  { arrived := [], consumed := [], taken := [], handed := [], written := [], result := none }

/-- The read arm of the select: `data` goes to `handle_client_message`, an error ends
    the loop. -/
def readDone (s : Bridge) : Except McError (List UInt8) → Bridge
  | .ok data => { s with taken := [], handed := s.handed ++ [data] }
  | .error _ => { s with taken := [], result := some (.ok ()) }

/-- The pending read takes `n` bytes. -/
def readSome (s : Bridge) (n : ℕ) : Bridge :=
  let bytes := s.taken ++ s.arrived.take n
  let s' := { s with arrived := s.arrived.drop n, consumed := s.consumed ++ s.arrived.take n }
  match readFramedMessage bytes with
  | none => { s' with taken := bytes }
  | some result => s'.readDone result

/-- The outbound arm of the select. The read is dropped before the update is written. -/
def forward (s : Bridge) (data : List UInt8) (write : Except String Unit) : Bridge :=
  match writeRawFramed data write with
  | .ok bytes => { s with taken := [], written := s.written ++ bytes }
  | .error e => { s with taken := [], result := some (.error e) }

/-- One event. -/
def step (s : Bridge) : BridgeEvent → Bridge
  | .arrive chunk => { s with arrived := s.arrived ++ chunk }
  | .read n => s.readSome n
  | .readFails => s.readDone (.error (readExactError s.taken))
  | .outbound data write => s.forward data write
  | .outboundClosed | .cancelled => { s with taken := [], result := some (.ok ()) }

end Bridge

/-- A message a client may send after the join. -/
abbrev ClientBytes := { m : List UInt8 // 1 ≤ m.length ∧ m.length ≤ maxMessageSize }

/-- The frames of the client's messages. -/
def clientStream (messages : List ClientBytes) : List UInt8 := frames 4 (messages.map Subtype.val)

/-- The stream carries `messages`, a read takes no more than has arrived and than it
    asked for, and nothing happens in a loop that has ended. -/
def Bridge.CanDo (messages : List ClientBytes) (s : Bridge) : BridgeEvent → Prop
  | .arrive chunk => s.consumed ++ s.arrived ++ chunk <+: clientStream messages
  | .read n => s.result = none ∧ 0 < n ∧ n ≤ s.arrived.length ∧ n ≤ wanted s.taken
  | .readFails | .outbound _ _ | .outboundClosed | .cancelled => s.result = none

instance (messages : List ClientBytes) (s : Bridge) : ∀ e, Decidable (s.CanDo messages e)
  | .arrive chunk =>
    inferInstanceAs (Decidable (s.consumed ++ s.arrived ++ chunk <+: clientStream messages))
  | .read n => inferInstanceAs
    (Decidable (s.result = none ∧ 0 < n ∧ n ≤ s.arrived.length ∧ n ≤ wanted s.taken))
  | .readFails | .outbound _ _ | .outboundClosed | .cancelled =>
    inferInstanceAs (Decidable (s.result = none))

/-- The loop with chunks of any size and the arms of the select won in any order. -/
def bridgeMachine (messages : List ClientBytes) : Machine Bridge BridgeEvent Unit where
  init := .start
  step s e := (s.step e, ())
  allowed _ s e := s.CanDo messages e

instance (messages : List ClientBytes) (h : List (BridgeEvent × Unit)) (s : Bridge)
    (e : BridgeEvent) : Decidable ((bridgeMachine messages).allowed h s e) :=
  inferInstanceAs (Decidable (s.CanDo messages e))

/-- The messages handed on are the client's first ones, in order, and while the loop
    runs every byte it took is in one of them or in the hands of the pending read. -/
structure Intact (messages : List ClientBytes) (s : Bridge) : Prop where
  inOrder : s.handed <+: messages.map Subtype.val
  bytesKept : s.result = none → s.consumed = frames 4 s.handed ++ s.taken

/-- An outbound update is written while the pending read has taken part of a frame. -/
def CutsRead (s : Bridge) : BridgeEvent → Prop
  | .outbound data write => s.taken ≠ [] ∧ (writeRawFramed data write).isOk
  | _ => False

/-! ## The read on the client's frames -/

/-- On a prefix of the client's frames that is no longer than what it asked for, the
    read waits or returns the first message. -/
theorem readFramedMessage_of_prefix {bytes : List UInt8} {rest : List ClientBytes}
    (hpre : bytes <+: clientStream rest)
    (hlen : 4 ≤ bytes.length → bytes.length ≤ 4 + getBE (bytes.take 4)) :
    readFramedMessage bytes = none ∨
      ∃ m rest', rest = m :: rest' ∧ bytes = frame 4 m.val ∧
        readFramedMessage bytes = some (.ok m.val) := by
  by_cases hshort : bytes.length < 4
  · exact .inl (if_pos hshort)
  · cases rest with
    | nil =>
      have hnil : bytes = [] := List.prefix_nil.mp hpre
      simp [hnil] at hshort
    | cons m rest' =>
      obtain ⟨hpos, hmax⟩ := m.property
      have hfits : m.val.length < 256 ^ 4 := by
        have : maxMessageSize < 256 ^ 4 := by decide
        omega
      have hmsgLen : getBE (bytes.take 4) = m.val.length :=
        getBE_take_of_prefix hfits hpre (by omega)
      rw [hmsgLen] at hlen
      simp only [readFramedMessage, if_neg hshort, hmsgLen, if_neg (show ¬ maxMessageSize <
        m.val.length by omega), if_neg (show ¬ m.val.length = 0 by omega)]
      by_cases hmore : bytes.length < 4 + m.val.length
      · exact .inl (if_pos hmore)
      · have hbytes : bytes = frame 4 m.val :=
          eq_frame_of_prefix hpre (by omega)
        refine .inr ⟨m, rest', rfl, hbytes, ?_⟩
        rw [if_neg hmore, hbytes, drop_frame]

/-- What the pending read has taken is less than a whole frame. -/
theorem taken_lt_of_pending {taken : List UInt8} (h : readFramedMessage taken = none)
    (hlong : 4 ≤ taken.length) : taken.length < 4 + getBE (taken.take 4) := by
  simp only [readFramedMessage, if_neg (show ¬ taken.length < 4 by omega)] at h
  split_ifs at h with h₁ h₂ h₃
  exact h₃

/-- Taking no more than asked for, the read does not run past its frame. -/
theorem length_le_of_wanted {taken more : List UInt8} (h : readFramedMessage taken = none)
    (hmore : more.length ≤ wanted taken) (hlong : 4 ≤ (taken ++ more).length) :
    (taken ++ more).length ≤ 4 + getBE ((taken ++ more).take 4) := by
  rw [List.length_append] at hlong ⊢
  unfold wanted at hmore
  split_ifs at hmore with hshort
  · omega
  · have htaken := taken_lt_of_pending h (by omega)
    rw [List.take_append_of_le_length (by omega)]
    omega

/-! ## Runs -/

variable {messages : List ClientBytes} {h : List (BridgeEvent × Unit)} {s : Bridge}

/-- What holds in every run, whatever was dropped. -/
structure BridgeInv (messages : List ClientBytes) (s : Bridge) : Prop where
  delivered : s.consumed ++ s.arrived <+: clientStream messages
  pending : s.result = none → readFramedMessage s.taken = none

theorem readFramedMessage_nil : readFramedMessage [] = none := rfl

theorem run_bridgeInv (hr : (bridgeMachine messages).Run h s) : BridgeInv messages s := by
  refine Machine.Run.invariant (I := fun _ s => BridgeInv messages s) ?_ ?_ hr
  · exact ⟨List.nil_prefix, fun _ => readFramedMessage_nil⟩
  · intro h s e _ hallowed hI
    cases e with
    | arrive chunk =>
      refine ⟨?_, hI.pending⟩
      show s.consumed ++ (s.arrived ++ chunk) <+: _
      rw [← List.append_assoc]
      exact hallowed
    | read n =>
      have hmoved :
          s.consumed ++ s.arrived.take n ++ s.arrived.drop n <+: clientStream messages := by
        rw [List.append_assoc, List.take_append_drop]
        exact hI.delivered
      show BridgeInv messages (s.readSome n)
      unfold Bridge.readSome
      dsimp only
      split
      next hnone => exact ⟨hmoved, fun _ => hnone⟩
      next result _ =>
        cases result with
        | ok data => exact ⟨hmoved, fun _ => readFramedMessage_nil⟩
        | error e => exact ⟨hmoved, fun h => by cases h⟩
    | readFails => exact ⟨hI.delivered, fun h => by cases h⟩
    | outbound data write =>
      show BridgeInv messages (s.forward data write)
      unfold Bridge.forward
      split
      · exact ⟨hI.delivered, fun _ => readFramedMessage_nil⟩
      · exact ⟨hI.delivered, fun h => by cases h⟩
    | outboundClosed => exact ⟨hI.delivered, fun h => by cases h⟩
    | cancelled => exact ⟨hI.delivered, fun h => by cases h⟩

/-- Reading on keeps the messages intact. -/
theorem Intact.readSome (hP : Intact messages s) (hI : BridgeInv messages s)
    (hrun : s.result = none) {n : ℕ} (hn : n ≤ wanted s.taken) :
    Intact messages (s.readSome n) := by
  obtain ⟨rest, hrest⟩ := hP.inOrder
  -- the messages not handed on yet, as a list of client messages
  obtain ⟨done, todo, rfl, hdone, rfl⟩ := List.map_eq_append_iff.mp hrest.symm
  have hkept := hP.bytesKept hrun
  have hbytes : s.taken ++ s.arrived.take n <+: clientStream todo := by
    have hall : frames 4 s.handed ++ (s.taken ++ s.arrived.take n) ++ s.arrived.drop n <+:
        frames 4 s.handed ++ clientStream todo := by
      have hdelivered := hI.delivered
      rw [hkept] at hdelivered
      rw [clientStream, List.map_append, hdone, frames_append] at hdelivered
      rw [List.append_assoc, List.append_assoc, List.take_append_drop, ← List.append_assoc]
      exact hdelivered
    rw [List.append_assoc] at hall
    exact ((List.prefix_append _ _).trans ((List.prefix_append_right_inj _).mp hall))
  have hasked : (s.arrived.take n).length ≤ wanted s.taken := le_trans (List.length_take_le _ _) hn
  have hlen := length_le_of_wanted (hI.pending hrun) hasked
  have hconsumed : s.consumed ++ s.arrived.take n =
      frames 4 s.handed ++ (s.taken ++ s.arrived.take n) := by
    rw [hkept, List.append_assoc]
  unfold Bridge.readSome
  dsimp only
  rcases readFramedMessage_of_prefix hbytes hlen with hnone | ⟨m, rest', rfl, hframe, hsome⟩
  · rw [hnone]
    exact ⟨hP.inOrder, fun _ => hconsumed⟩
  · rw [hsome]
    refine ⟨⟨rest'.map Subtype.val, ?_⟩, fun _ => ?_⟩
    · show s.handed ++ [m.val] ++ _ = _
      rw [List.map_append, hdone, List.append_assoc]
      rfl
    · show s.consumed ++ s.arrived.take n = frames 4 (s.handed ++ [m.val]) ++ []
      rw [hconsumed, hframe, frames_append]
      simp

/-- A loop that runs, has lost nothing and has taken the whole stream has handed on all
    messages. -/
theorem Intact.handed_all (hP : Intact messages s) (hI : BridgeInv messages s)
    (hrun : s.result = none) (hall : s.consumed = clientStream messages) :
    s.handed = messages.map Subtype.val := by
  obtain ⟨rest, hrest⟩ := hP.inOrder
  obtain ⟨done, todo, rfl, hdone, rfl⟩ := List.map_eq_append_iff.mp hrest.symm
  have htaken : s.taken = clientStream todo := by
    rw [hP.bytesKept hrun, clientStream, List.map_append, frames_append, hdone] at hall
    exact List.append_cancel_left hall
  cases todo with
  | nil => simpa using hdone.symm
  | cons m todo =>
    -- a whole frame is left, so the read would not be pending
    exfalso
    have hlong : 4 + m.val.length ≤ s.taken.length := by
      rw [htaken, clientStream, List.map_cons, frames_cons, List.length_append, length_frame]
      omega
    have hmsgLen : getBE (s.taken.take 4) = m.val.length := by
      have hmax := m.property.2
      have : maxMessageSize < 256 ^ 4 := by decide
      rw [htaken] at hlong ⊢
      exact getBE_take_of_prefix (by omega) (List.prefix_refl _) (by omega)
    have hless := taken_lt_of_pending (hI.pending hrun) (by omega)
    omega

/-- An update that is written keeps the messages intact iff the read had taken nothing. -/
theorem intact_forward_iff (hP : Intact messages s) (hrun : s.result = none) (data : List UInt8)
    (write : Except String Unit) :
    Intact messages (s.forward data write) ↔ ¬ CutsRead s (.outbound data write) := by
  show Intact messages (s.forward data write) ↔ ¬ (s.taken ≠ [] ∧ (writeRawFramed data write).isOk)
  unfold Bridge.forward
  cases writeRawFramed data write with
  | error e =>
    refine iff_of_true ⟨hP.inOrder, fun h => by cases h⟩ fun hcut => ?_
    exact Bool.false_ne_true hcut.2
  | ok bytes =>
    have hkept := hP.bytesKept hrun
    constructor
    · intro hP' hcut
      have hkept' : s.consumed = frames 4 s.handed ++ [] := hP'.bytesKept hrun
      exact hcut.1 (List.append_cancel_left (hkept.symm.trans hkept'))
    · intro hcut
      have hnil : s.taken = [] := by
        by_contra hne
        exact hcut ⟨hne, rfl⟩
      refine ⟨hP.inOrder, fun _ => ?_⟩
      show s.consumed = frames 4 s.handed ++ []
      rw [hkept, hnil]

/-- The client's messages are handed on intact all along a run iff no outbound update
    is written while the pending read has taken part of a frame. -/
theorem intact_along_iff (messages : List ClientBytes) {h : List (BridgeEvent × Unit)} {s : Bridge}
    (hr : (bridgeMachine messages).Run h s) :
    (∀ h', h' <:+ h → Intact messages ((bridgeMachine messages).stateAfter h')) ↔
      ∀ e a h', (e, a) :: h' <:+ h → ¬ CutsRead ((bridgeMachine messages).stateAfter h') e := by
  refine Machine.Run.always_iff (C := fun s e => ¬ CutsRead s e) ?_ ?_ hr
  · exact ⟨List.nil_prefix, fun _ => rfl⟩
  · intro h s e hr hallowed hP
    cases e with
    | arrive chunk => exact iff_of_true ⟨hP.inOrder, hP.bytesKept⟩ id
    | read n =>
      obtain ⟨hrun, _, _, hn⟩ := hallowed
      exact iff_of_true (hP.readSome (run_bridgeInv hr) hrun hn) id
    | outbound data write => exact intact_forward_iff hP hallowed data write
    | readFails => exact iff_of_true ⟨hP.inOrder, fun h => by cases h⟩ id
    | outboundClosed => exact iff_of_true ⟨hP.inOrder, fun h => by cases h⟩ id
    | cancelled => exact iff_of_true ⟨hP.inOrder, fun h => by cases h⟩ id

/-! ## An update in the middle of a frame -/

/-- A message whose body spells a frame. -/
def sampleMessages : List ClientBytes := [⟨[7, 0, 0, 0, 1, 5], by decide⟩]

/-- The header and the first byte of the body, an update, and the rest of the body. -/
def cutEvents : List BridgeEvent :=
  [.arrive [0, 0, 0, 6, 7], .read 4, .read 1, .outbound [3] (.ok ()),
    .arrive [0, 0, 0, 1, 5], .read 4, .read 1]

/-- The same chunks with the update before and after the frame. -/
def wholeEvents : List BridgeEvent :=
  [.outbound [3] (.ok ()), .arrive [0, 0, 0, 6, 7], .read 4, .read 1,
    .arrive [0, 0, 0, 1, 5], .read 5, .outbound [3] (.ok ())]

/-- A bridge for one message. -/
abbrev sampleBridge := bridgeMachine sampleMessages

theorem run_cutEvents :
    sampleBridge.Run (sampleBridge.playAll cutEvents).2 (sampleBridge.playAll cutEvents).1 :=
  Machine.run_of_admits ⟨by decide, by decide, by decide, by decide, by decide, by decide,
    by decide, trivial⟩

theorem run_wholeEvents :
    sampleBridge.Run (sampleBridge.playAll wholeEvents).2 (sampleBridge.playAll wholeEvents).1 :=
  Machine.run_of_admits ⟨by decide, by decide, by decide, by decide, by decide, by decide,
    by decide, trivial⟩

theorem intact_along_wholeEvents :
    sampleBridge.Run (sampleBridge.playAll wholeEvents).2 (sampleBridge.playAll wholeEvents).1 ∧
      ∀ h', h' <:+ (sampleBridge.playAll wholeEvents).2 →
        Intact sampleMessages (sampleBridge.stateAfter h') := by
  refine ⟨run_wholeEvents, (intact_along_iff sampleMessages run_wholeEvents).mpr ?_⟩
  have hsteps : sampleBridge.StepsMeet (fun s e => ¬ CutsRead s e)
      (sampleBridge.playAll wholeEvents).2 := by
    refine ⟨?_, ?_, ?_, ?_, ?_, ?_, ?_, trivial⟩
    all_goals first | exact id | exact fun hcut => hcut.1 rfl
  exact hsteps.forall_suffix

/-- The rest of the body is taken for a frame of its own: a message is handed on that
    the client never sent. -/
theorem cutFrame_lost :
    sampleBridge.Run (sampleBridge.playAll cutEvents).2 (sampleBridge.playAll cutEvents).1 ∧
      (sampleBridge.playAll cutEvents).1.handed = [[5]] ∧
      ¬ Intact sampleMessages (sampleBridge.playAll cutEvents).1 := by
  have hhanded : (sampleBridge.playAll cutEvents).1.handed = [[5]] := by decide
  refine ⟨run_cutEvents, hhanded, fun hP => ?_⟩
  have hpre := hP.inOrder
  rw [hhanded] at hpre
  exact absurd hpre (by decide)

end DarkTower.Mc
