import BatteryInfo.Sequence.Calls

/-!
# Initialising and destroying in balance

A log of the calls that initialise and destroy objects, some of which may fail. An object is
initialised from a successful initialisation to the next successful destruction. The log is
balanced if no object is initialised while it is initialised, nor destroyed while it is not.
-/

namespace Sequence

/-- The two ends of a lifetime. -/
inductive LifetimeOp where
  | init
  | destroy
deriving DecidableEq, Repr

/-- A call that initialises or destroys an object, and whether it succeeds. -/
structure LifetimeCall (ρ : Type) where
  object : ρ
  op : LifetimeOp
  ok : Bool
deriving DecidableEq, Repr

variable {ρ : Type} [DecidableEq ρ]

/-- Whether an object is initialised after the calls of a log, the newest last. -/
def initialised (r : ρ) (log : List (LifetimeCall ρ)) : Bool :=
  log.foldl (fun live e => if e.object = r ∧ e.ok then e.op = .init else live) false

/-- Every object is initialised only while it is not, and destroyed only while it is. -/
def Balanced (log : List (LifetimeCall ρ)) : Prop :=
  AtEveryPoint (fun l => ∀ before e, l = before ++ [e] →
    initialised e.object before = decide (e.op = .destroy)) log

@[simp] theorem initialised_concat (r : ρ) (log : List (LifetimeCall ρ)) (e : LifetimeCall ρ) :
    initialised r (log ++ [e]) =
      if e.object = r ∧ e.ok then decide (e.op = .init) else initialised r log := by
  simp [initialised, List.foldl_append]

theorem balanced_nil : Balanced ([] : List (LifetimeCall ρ)) :=
  atEveryPoint_nil.2 (by simp)

/-- A call keeps the balance if its object is in the right state. -/
theorem balanced_concat {log : List (LifetimeCall ρ)} {e : LifetimeCall ρ} :
    Balanced (log ++ [e]) ↔
      Balanced log ∧ initialised e.object log = decide (e.op = .destroy) := by
  rw [Balanced, atEveryPoint_concat]
  refine and_congr_right fun _ => ⟨fun h => h log e rfl, ?_⟩
  intro h before e' hlog
  obtain ⟨hbefore, he⟩ := List.append_inj' hlog rfl
  cases hbefore
  cases he
  exact h

end Sequence
