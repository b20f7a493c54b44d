import Mathlib.Data.List.Basic
import Mathlib.Data.List.Range
import Mathlib.Data.Nat.ModEq
import Mathlib.Logic.Function.Basic
import Mathlib.Tactic.Common

/-!
# Bounded FIFO queues and circular buffers

`Fifo.push` and `Fifo.pop` are a first-in-first-out list of bounded capacity. A circular
buffer holds such a list in `len` cells, the oldest at `head`, cell `i` of the list at
`slot cap head i`. `contents` reads the list back, and `contents_write`, `contents_advance`
say what writing behind the newest element and moving the head do to it.

`Event` and `tally` describe a FIFO from the outside: `Explains` says that what was accepted
since the last clearing is what was delivered since then followed by what is held.
-/

namespace Fifo

universe u

variable {α : Type u}

/-- Append `x` when fewer than `cap` elements are held, and report whether it was appended. -/
def push (cap : Nat) (x : α) (held : List α) : Bool × List α :=
  if held.length < cap then (true, held ++ [x]) else (false, held)

/-- Remove the oldest element, if there is one. -/
def pop : List α → Option α × List α
  | [] => (none, [])
  | x :: held => (some x, held)

/-- The cell of element `i` of a circular buffer of `cap` cells whose oldest element is in
cell `head`. -/
def slot (cap head i : Nat) : Nat :=
  (head + i) % cap

theorem slot_lt {cap : Nat} (hcap : 0 < cap) (head i : Nat) : slot cap head i < cap :=
  Nat.mod_lt _ hcap

/-- The oldest element is in the head cell. -/
theorem slot_zero {cap head : Nat} (hhead : head < cap) : slot cap head 0 = head :=
  Nat.mod_eq_of_lt hhead

/-- Two elements of a buffer that is not overfull lie in different cells. -/
theorem slot_injective {cap head i j : Nat} (hi : i < cap) (hj : j < cap)
    (h : slot cap head i = slot cap head j) : i = j := by
  have hmod : (head + i) ≡ (head + j) [MOD cap] := h
  have hsame : i ≡ j [MOD cap] := Nat.ModEq.add_left_cancel' head hmod
  rwa [Nat.ModEq, Nat.mod_eq_of_lt hi, Nat.mod_eq_of_lt hj] at hsame

/-- Moving the head by one renumbers the elements by one. -/
theorem slot_advance (cap head i : Nat) :
    slot cap ((head + 1) % cap) i = slot cap head (i + 1) := by
  simp only [slot, Nat.mod_add_mod]
  congr 1
  omega

/-- The elements in the `len` cells from `head` on, oldest first. -/
def contents (cells : Nat → α) (cap head len : Nat) : List α :=
  (List.range len).map fun i => cells (slot cap head i)

@[simp] theorem contents_length (cells : Nat → α) (cap head len : Nat) :
    (contents cells cap head len).length = len := by
  simp [contents]

@[simp] theorem contents_zero (cells : Nat → α) (cap head : Nat) :
    contents cells cap head 0 = [] := rfl

/-- Writing the cell behind the newest element and lengthening the buffer appends to it: no
held element is overwritten. -/
theorem contents_write (cells : Nat → α) {cap len : Nat} (head : Nat) (x : α)
    (hlen : len < cap) :
    contents (Function.update cells (slot cap head len) x) cap head (len + 1) =
      contents cells cap head len ++ [x] := by
  have hold : ∀ i ∈ List.range len,
      Function.update cells (slot cap head len) x (slot cap head i) = cells (slot cap head i) := by
    intro i hi
    have hlt : i < len := List.mem_range.mp hi
    refine Function.update_of_ne ?_ _ _
    intro heq
    have := slot_injective (hlt.trans hlen) hlen heq
    omega
  simp only [contents, List.range_succ, List.map_append, List.map_cons, List.map_nil,
    Function.update_self]
  rw [List.map_congr_left hold]

/-- Advancing the head and shortening the buffer removes the oldest element, the one in the
head cell. -/
theorem contents_advance (cells : Nat → α) {cap head len : Nat} (hhead : head < cap) :
    contents cells cap head (len + 1) =
      cells head :: contents cells cap ((head + 1) % cap) len := by
  simp only [contents, List.range_succ_eq_map, List.map_cons, List.map_map, slot_zero hhead]
  congr 1
  refine List.map_congr_left ?_
  intro i _
  simp only [Function.comp, slot_advance]

/-! ## What a FIFO looks like from the outside -/

/-- What happens at a FIFO: an element is accepted or delivered, or the FIFO is cleared. -/
inductive Event (α : Type u) where
  | accept (x : α)
  | deliver (x : α)
  | clear

/-- One event on the elements accepted and the elements delivered since the last clearing. -/
def Event.tally : List α × List α → Event α → List α × List α
  | (sent, received), .accept x => (sent ++ [x], received)
  | (sent, received), .deliver x => (sent, received ++ [x])
  | _, .clear => ([], [])

/-- The elements accepted and the elements delivered since the last clearing. -/
def tally (events : List (Event α)) : List α × List α :=
  events.foldl Event.tally ([], [])

@[simp] theorem tally_append (events : List (Event α)) (event : Event α) :
    tally (events ++ [event]) = Event.tally (tally events) event := by
  simp [tally]

/-- The events are those of a FIFO that now holds `held`: since the last clearing every
accepted element was delivered once, in order, or is still held. -/
def Explains (events : List (Event α)) (held : List α) : Prop :=
  (tally events).1 = (tally events).2 ++ held

/-- Accepting an element keeps the FIFO law when the element joins the newest end. -/
theorem Explains.accept {events : List (Event α)} {held : List α} (h : Explains events held)
    (x : α) : Explains (events ++ [.accept x]) (held ++ [x]) := by
  have h' : (tally events).1 = (tally events).2 ++ held := h
  simp [Explains, Event.tally, h']

/-- Delivering an element keeps the FIFO law when it is the oldest one held. -/
theorem Explains.deliver {events : List (Event α)} {x : α} {held : List α}
    (h : Explains events (x :: held)) : Explains (events ++ [.deliver x]) held := by
  have h' : (tally events).1 = (tally events).2 ++ x :: held := h
  simp [Explains, Event.tally, h']

/-- Clearing keeps the FIFO law when nothing is held afterwards. -/
theorem Explains.clear (events : List (Event α)) : Explains (events ++ [.clear]) [] := by
  simp [Explains, Event.tally]

end Fifo
