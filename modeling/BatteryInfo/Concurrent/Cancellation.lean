import BatteryInfo.Concurrent.Locks

/-!
# Deferred cancellation

Threads that end: where their code ends, or because they are cancelled. A request to cancel a
thread is pending until the thread comes to a cancellation point, and there the thread ends, with
whatever it has. So a mutex is lost if the point is inside the section that the mutex guards, and
no other way (`Reach.owner_running`).
-/

namespace Concurrent

universe u v w

variable {Tid : Type u} {Shared : Type v} {Local : Tid → Type w} {Mutex : Type}

/-- How threads end: the requests that are pending, the places that are cancellation points, and
the places where the code of a thread ends. -/
structure Endings {Tid : Type u} (Shared : Type v) (Local : Tid → Type w) where
  pending : Tid → Shared → Prop
  point : (t : Tid) → Local t → Prop
  last : (t : Tid) → Local t → Prop

/-- A step of a thread that can end. The private state of a thread that has ended is `none`. -/
inductive EndingStep (S : System Shared Local) (E : Endings Shared Local) (t : Tid) :
    Shared → Option (Local t) → Shared → Option (Local t) → Prop where
  | run {sh l sh' l'} : ¬ (E.point t l ∧ E.pending t sh) → S.Step t sh l sh' l' →
      EndingStep S E t sh (some l) sh' (some l')
  | cancelled {sh l} : E.point t l → E.pending t sh → EndingStep S E t sh (some l) sh none
  | returned {sh l} : E.last t l → EndingStep S E t sh (some l) sh none

/-- The threads of a system, as they can end. -/
def System.ending (S : System Shared Local) (E : Endings Shared Local) :
    System Shared fun t => Option (Local t) where
  Step := EndingStep S E

/-- A place that is no cancellation point is left by a step of the code. -/
theorem EndingStep.of_not_point {S : System Shared Local} {E : Endings Shared Local} {t : Tid}
    {sh sh' : Shared} {l l' : Local t} (hpoint : ¬ E.point t l) (hstep : S.Step t sh l sh' l') :
    (S.ending E).Step t sh (some l) sh' (some l') :=
  .run (fun h => hpoint h.1) hstep

/-- No thread is at a cancellation point inside a guarded section with a request pending. -/
def Endings.sparing (E : Endings Shared Local) (inside : (t : Tid) → Local t → Mutex → Prop) :
    StepCondition Shared fun t => Option (Local t) := fun c t _ =>
  ∀ l, c.locals t = some l → E.point t l → E.pending t c.shared → ∀ m, ¬ inside t l m

/-- A thread that is not cancelled inside a section gives back every mutex itself: in all reached
configurations a thread owns a mutex exactly while it runs inside the section. -/
theorem System.Reach.owner_running [DecidableEq Tid] {S : System Shared Local}
    {E : Endings Shared Local} {start : Config Shared (fun t => Option (Local t)) → Prop}
    (owner : Shared → Mutex → Option Tid) (inside : (t : Tid) → Local t → Mutex → Prop)
    (hstart : ∀ c, start c → ∀ t m,
      owner c.shared m = some t ↔ ∃ l, c.locals t = some l ∧ inside t l m)
    (hmove : ∀ t sh l sh' l', S.Step t sh l sh' l' → ∀ m,
      LockMove t (owner sh m) (owner sh' m) (inside t l m) (inside t l' m))
    (hlast : ∀ t l m, E.last t l → ¬ inside t l m)
    {c : Config Shared fun t => Option (Local t)}
    (h : (S.ending E).Reach start (E.sparing inside) c) :
    ∀ t m, owner c.shared m = some t ↔ ∃ l, c.locals t = some l ∧ inside t l m := by
  refine h.mutual_exclusion owner (fun t l m => ∃ l', l = some l' ∧ inside t l' m) hstart ?_
  intro c t sh l _ _ hstep hspared m
  -- a thread that ends outside leaves every mutex as it is
  have hends {l₀ : Local t} (hl : ¬ inside t l₀ m) : LockMove t (owner c.shared m)
      (owner c.shared m) (∃ l', some l₀ = some l' ∧ inside t l' m)
      (∃ l', (none : Option (Local t)) = some l' ∧ inside t l' m) := by
    refine .keep rfl (iff_of_false ?_ ?_)
    · rintro ⟨l', hnone, _⟩
      cases hnone
    · rintro ⟨l', hsome, hinside⟩
      cases hsome
      exact hl hinside
  generalize hlocal : c.locals t = l₀ at hstep
  cases hstep with
  | run _ hrun =>
      simpa only [Option.some.injEq, exists_eq_left'] using hmove _ _ _ _ _ hrun m
  | cancelled hpoint hpending => exact hends (hspared _ hlocal hpoint hpending m)
  | returned hl => exact hends (hlast _ _ m hl)

end Concurrent
