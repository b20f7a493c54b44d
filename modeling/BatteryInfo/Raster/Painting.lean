import Mathlib.Tactic.Common

/-!
# Painting

A picture that is painted in operations, each of which gives some points a colour and leaves the
others. The last operation that reaches a point decides on it. Where all operations that reach it
give it the same colour, neither their order nor how often they are repeated matters
(`paint_eq_of_agree`).
-/

namespace Raster

universe u v

/-- An operation: the colour that it gives a point, if it reaches it. -/
abbrev Operation (P : Type u) (C : Type v) := P → Option C

variable {P : Type u} {C : Type v} {background colour : C} {p : P} {ops : List (Operation P C)}

/-- The colour of a point after some operations. -/
def paint (ops : List (Operation P C)) (background : C) (p : P) : C :=
  ops.foldl (fun colour op => (op p).getD colour) background

/-- An operation that does not reach a point leaves its colour. -/
theorem paint_of_not_reached (h : ∀ op ∈ ops, op p = none) :
    paint ops background p = background := by
  induction ops with
  | nil => rfl
  | cons op rest ih =>
      have hop : op p = none := h op List.mem_cons_self
      show paint rest ((op p).getD background) p = background
      rw [hop]
      exact ih fun op' hop' => h op' (List.mem_cons_of_mem _ hop')

/-- A point on which all operations agree keeps the colour that it has. -/
theorem paint_of_agree (h : ∀ op ∈ ops, ∀ c, op p = some c → c = colour) :
    paint ops colour p = colour := by
  induction ops with
  | nil => rfl
  | cons op rest ih =>
      have hrest := ih fun op' hop' => h op' (List.mem_cons_of_mem _ hop')
      show paint rest ((op p).getD colour) p = colour
      cases hop : op p with
      | none => exact hrest
      | some c =>
          obtain rfl := h op List.mem_cons_self c hop
          exact hrest

/-- A point that some operation reaches, and on which all agree, has the colour that they give. -/
theorem paint_eq_of_agree {op : Operation P C} (hop : op ∈ ops) (hreached : op p = some colour)
    (h : ∀ op ∈ ops, ∀ c, op p = some c → c = colour) : paint ops background p = colour := by
  induction ops generalizing background with
  | nil => cases hop
  | cons first rest ih =>
      have hrest : ∀ op ∈ rest, ∀ c, op p = some c → c = colour :=
        fun op' hop' => h op' (List.mem_cons_of_mem _ hop')
      show paint rest ((first p).getD background) p = colour
      rcases List.mem_cons.1 hop with rfl | hop
      · rw [hreached]
        exact paint_of_agree hrest
      · exact ih hop hrest

end Raster
