import DarkTower.Lib.Bytes

/-!
# Length-prefixed frames

A frame is the length of a message in `w` big-endian bytes, then the message. A
stream of frames can be cut back into its messages: the first `w` bytes of a prefix
of the stream spell the length of the first message (`getBE_take_of_prefix`), and a
prefix with that many bytes behind them is the first frame (`eq_frame_of_prefix`).
-/

namespace DarkTower.Lib.Bytes

variable {w : ℕ}

/-- A message behind its length. -/
def frame (w : ℕ) (message : List UInt8) : List UInt8 := putBE w message.length ++ message

/-- Messages one after the other. -/
def frames (w : ℕ) (messages : List (List UInt8)) : List UInt8 := messages.flatMap (frame w)

@[simp] theorem length_frame (w : ℕ) (message : List UInt8) :
    (frame w message).length = w + message.length := by simp [frame]

@[simp] theorem frames_nil (w : ℕ) : frames w [] = [] := rfl

@[simp] theorem frames_cons (w : ℕ) (m : List UInt8) (ms : List (List UInt8)) :
    frames w (m :: ms) = frame w m ++ frames w ms := rfl

theorem frames_append (w : ℕ) (ms₁ ms₂ : List (List UInt8)) :
    frames w (ms₁ ++ ms₂) = frames w ms₁ ++ frames w ms₂ := by simp [frames]

/-- What starts with a whole length starts with that of the first message. -/
theorem getBE_take_of_prefix {bytes m : List UInt8} {ms : List (List UInt8)}
    (hm : m.length < 256 ^ w) (hpre : bytes <+: frames w (m :: ms)) (hw : w ≤ bytes.length) :
    getBE (bytes.take w) = m.length := by
  have htake : bytes.take w = putBE w m.length := by
    rw [List.prefix_iff_eq_take.mp hpre, List.take_take, Nat.min_eq_left hw, frames_cons, frame,
      List.append_assoc, take_putBE]
  rw [htake, getBE_putBE_of_lt hm]

/-- A prefix as long as the first frame is the first frame. -/
theorem eq_frame_of_prefix {bytes m : List UInt8} {ms : List (List UInt8)}
    (hpre : bytes <+: frames w (m :: ms)) (hlen : bytes.length = w + m.length) :
    bytes = frame w m := by
  rw [List.prefix_iff_eq_take.mp hpre, frames_cons]
  apply List.take_left'
  rw [length_frame, hlen]

theorem drop_frame (w : ℕ) (m : List UInt8) : (frame w m).drop w = m := drop_putBE w _ _

end DarkTower.Lib.Bytes
