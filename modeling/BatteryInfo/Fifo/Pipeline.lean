import Mathlib.Data.List.Basic
import Mathlib.Tactic.Common

/-!
# Pipelines that may lose what is superseded

A pipeline takes elements in at one end, hands them from stage to stage and passes them on at
the other. A stage with room for one element may drop an older one for a newer one. What
such a pipeline carries and has passed on is then still in the order of acceptance, with
nothing invented or repeated (`Ordered`), and the newest element is never lost (`Fresh`).
-/

namespace Fifo

universe u

variable {α : Type u}

/-- The elements a pipeline accepted, and those of them it has passed on or carries still;
both oldest first. -/
structure Pipeline (α : Type u) where
  accepted : List α
  carried : List α

namespace Pipeline

/-- What a pipeline may do without losing its newest element. -/
inductive Move : Pipeline α → Pipeline α → Prop where
  | keep {p} : Move p p
  | accept {accepted carried} (x) :
      Move ⟨accepted, carried⟩ ⟨accepted ++ [x], carried ++ [x]⟩
  | supersede {accepted older kept newer} : kept.Sublist older → newer ≠ [] →
      Move ⟨accepted, older ++ newer⟩ ⟨accepted, kept ++ newer⟩

/-- Taking in an element, if there is one. -/
theorem Move.offer (p : Pipeline α) (x : Option α) :
    Move p ⟨p.accepted ++ x.toList, p.carried ++ x.toList⟩ := by
  cases x with
  | none => simpa using Move.keep
  | some x => exact .accept x

/-- Nothing is invented, repeated or reordered. -/
def Ordered (p : Pipeline α) : Prop :=
  p.carried.Sublist p.accepted

/-- The newest element accepted is the newest carried or passed on. -/
def Fresh (p : Pipeline α) : Prop :=
  p.carried.getLast? = p.accepted.getLast?

theorem Move.ordered {p q : Pipeline α} (h : Move p q) (hp : p.Ordered) : q.Ordered := by
  cases h with
  | keep => exact hp
  | accept x => exact hp.append_right [x]
  | @supersede accepted older kept newer hkept hnewer =>
      have hp : (older ++ newer).Sublist accepted := hp
      exact (hkept.append_right newer).trans hp

theorem Move.fresh {p q : Pipeline α} (h : Move p q) (hp : p.Fresh) : q.Fresh := by
  cases h with
  | keep => exact hp
  | accept x => simp [Fresh]
  | @supersede accepted older kept newer hkept hnewer =>
      have hp : (older ++ newer).getLast? = accepted.getLast? := hp
      show (kept ++ newer).getLast? = accepted.getLast?
      rw [List.getLast?_append_of_ne_nil _ hnewer] at hp ⊢
      exact hp

/-- Losing elements keeps the order of the others. -/
theorem Ordered.lose {p : Pipeline α} (hp : p.Ordered) {carried : List α}
    (h : carried.Sublist p.carried) : Ordered ⟨p.accepted, carried⟩ :=
  h.trans hp

end Pipeline

end Fifo
