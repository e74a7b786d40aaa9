import Mathlib.Data.List.Infix
import Mathlib.Data.Nat.Notation
import Mathlib.Tactic.Common

/-!
# Two queues in a row

A sender appends items to a mailbox. An actor takes them out one by one, encodes
those that go on the wire and puts them into a second queue of bounded capacity,
without waiting for room: what does not fit is lost. A writer takes the second
queue to the receiver.

* `contents_send`, `contents_process`, `contents_write`: what the receiver has got
  and what is on the way together change only by what is sent, as long as nothing
  is lost.
* `received_prefix`: the receiver has the oldest part of it.
* `contents_process_sublist`, `contents_close_sublist`: a loss leaves the order as it
  was.
-/

namespace DarkTower.Lib

/-- The two queues, oldest item first, and what has come out. -/
structure Pipe (α β : Type*) where
  mailbox : List α
  outbound : List β
  received : List β
deriving DecidableEq

namespace Pipe

variable {α β : Type*}

/-- A pipe that nothing was written to. -/
def empty : Pipe α β := ⟨[], [], []⟩

/-- The sender appends some items. -/
def send (p : Pipe α β) (items : List α) : Pipe α β := { p with mailbox := p.mailbox ++ items }

variable (encode : α → Option β) (capacity : ℕ)

/-- The actor takes the oldest item of the mailbox. -/
def process (p : Pipe α β) : Pipe α β :=
  match p.mailbox with
  | [] => p
  | item :: mailbox =>
    match encode item with
    | none => { p with mailbox := mailbox }
    | some wire =>
      if p.outbound.length < capacity then
        { p with mailbox := mailbox, outbound := p.outbound ++ [wire] }
      else { p with mailbox := mailbox }

/-- The writer takes the oldest item of the second queue to the receiver. -/
def write (p : Pipe α β) : Pipe α β :=
  match p.outbound with
  | [] => p
  | wire :: outbound => { p with outbound := outbound, received := p.received ++ [wire] }

/-- The actor ends, and what it has not taken is dropped. -/
def close (p : Pipe α β) : Pipe α β := { p with mailbox := [] }

/-- What the receiver has got, and what is on the way to it. -/
def contents (p : Pipe α β) : List β :=
  p.received ++ p.outbound ++ p.mailbox.filterMap encode

/-- The next item of the mailbox fits into the second queue. -/
def Fits (p : Pipe α β) : Prop :=
  ∀ item ∈ p.mailbox.head?, encode item ≠ none → p.outbound.length < capacity

instance (p : Pipe α β) : Decidable (p.Fits encode capacity) :=
  inferInstanceAs (Decidable (∀ item ∈ p.mailbox.head?, _))

variable {encode capacity} {p : Pipe α β}

theorem contents_send (items : List α) :
    (p.send items).contents encode = p.contents encode ++ items.filterMap encode := by
  simp [contents, send, List.filterMap_append]

theorem contents_process (h : p.Fits encode capacity) :
    (p.process encode capacity).contents encode = p.contents encode := by
  unfold process
  split
  · rfl
  next item mailbox hmailbox =>
    cases hitem : encode item with
    | none => simp [contents, hmailbox, hitem]
    | some wire =>
      have hroom : p.outbound.length < capacity :=
        h item (by rw [hmailbox]; rfl) (by rw [hitem]; exact Option.some_ne_none wire)
      simp [contents, hmailbox, hitem, hroom]

/-- An item that does not fit is left out, and the others stay in their order. -/
theorem contents_process_sublist (p : Pipe α β) :
    ((p.process encode capacity).contents encode).Sublist (p.contents encode) := by
  unfold process
  split
  · exact List.Sublist.refl _
  next item mailbox hmailbox =>
    cases hitem : encode item with
    | none => simp [contents, hmailbox, hitem]
    | some wire =>
      simp only [contents, hmailbox, List.filterMap_cons_some hitem]
      split_ifs
      · simp
      · exact (List.Sublist.refl _).append (List.sublist_cons_self _ _)

@[simp] theorem contents_write : p.write.contents encode = p.contents encode := by
  unfold write
  split
  · rfl
  next wire outbound houtbound => simp [contents, houtbound]

theorem contents_close_sublist (p : Pipe α β) :
    (p.close.contents encode).Sublist (p.contents encode) := by
  simp [contents, close]

theorem received_prefix : p.received <+: p.contents encode := by
  rw [contents, List.append_assoc]
  exact List.prefix_append _ _

/-! ## The bound of the second queue -/

theorem process_outbound_le (h : p.outbound.length ≤ capacity) :
    (p.process encode capacity).outbound.length ≤ capacity := by
  unfold process
  split
  · exact h
  split
  · exact h
  split_ifs with hroom
  · rw [List.length_append, List.length_singleton]
    exact hroom
  · exact h

theorem write_outbound_le (h : p.outbound.length ≤ capacity) :
    p.write.outbound.length ≤ capacity := by
  unfold write
  split
  · exact h
  next wire outbound houtbound =>
    rw [houtbound, List.length_cons] at h
    exact Nat.le_of_succ_le h

end Pipe

end DarkTower.Lib
