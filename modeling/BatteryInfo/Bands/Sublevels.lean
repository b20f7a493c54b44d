import Mathlib.Order.Interval.Set.OrdConnected

/-!
# Functions in bands

A function on an order is banded when the arguments at or below each value form one interval.
It is the same to say that no argument has a greater value than both of two around it
(`banded_iff_le_max`), which is what a single bad argument refutes.
-/

namespace Bands

variable {α β : Type} [Preorder α] [LinearOrder β] {s : Set α} {f : α → β}

/-- The arguments in `s` at or below each value form one interval. -/
def Banded (s : Set α) (f : α → β) : Prop :=
  ∀ r, {x ∈ s | f x ≤ r}.OrdConnected

/-- No argument is worse than both of two around it. -/
theorem banded_iff_le_max (hs : s.OrdConnected) :
    Banded s f ↔ ∀ a ∈ s, ∀ b ∈ s, ∀ c ∈ s, a ≤ b → b ≤ c → f b ≤ max (f a) (f c) := by
  constructor
  · intro hbanded a ha b _ c hc hab hbc
    have hmem : b ∈ {x ∈ s | f x ≤ max (f a) (f c)} :=
      (hbanded _).out ⟨ha, le_max_left _ _⟩ ⟨hc, le_max_right _ _⟩ ⟨hab, hbc⟩
    exact hmem.2
  · intro hmax r
    refine ⟨fun a ha c hc b hb => ?_⟩
    have hbs : b ∈ s := hs.out ha.1 hc.1 hb
    exact ⟨hbs, (hmax a ha.1 b hbs c hc.1 hb.1 hb.2).trans (max_le ha.2 hc.2)⟩

end Bands
