import Mathlib.Logic.Function.Basic
import Mathlib.Logic.Relation
import Mathlib.Tactic.Common

/-!
# Interleaved threads over a shared state

A `System` gives the atomic steps of each thread: what one step does to the shared state and to
the thread's own private state. `System.Reach` is what any schedule reaches when every step meets
a condition `allowed`. Two rules prove properties of all reached configurations:
`Reach.invariant` for a property of whole configurations, and `Reach.outline` for a proof
outline, which says of each thread separately what holds at its place in the code. An outline
is kept when each step establishes what its own thread claims next and disturbs the others only
in ways they can rely on. `Reach.exists_of_rank` proves that a schedule can get somewhere, by a
rank that some schedule lowers as long as it is not there.
-/

namespace Concurrent

universe u v w

/-- The shared state and the private state of every thread. -/
structure Config {Tid : Type u} (Shared : Type v) (Local : Tid → Type w) where
  shared : Shared
  locals : (t : Tid) → Local t

/-- Threads over a shared state. `Step t sh l sh' l'` is one atomic step of thread `t`. -/
structure System {Tid : Type u} (Shared : Type v) (Local : Tid → Type w) where
  Step : (t : Tid) → Shared → Local t → Shared → Local t → Prop

variable {Tid : Type u} [DecidableEq Tid] {Shared : Type v} {Local : Tid → Type w}

/-- The configuration after thread `t` moved to private state `l` and the shared state
to `sh`. -/
def Config.move (c : Config Shared Local) (t : Tid) (sh : Shared) (l : Local t) :
    Config Shared Local :=
  ⟨sh, Function.update c.locals t l⟩

@[simp] theorem Config.move_shared (c : Config Shared Local) (t : Tid) (sh : Shared)
    (l : Local t) : (c.move t sh l).shared = sh := rfl

@[simp] theorem Config.move_locals_self (c : Config Shared Local) (t : Tid) (sh : Shared)
    (l : Local t) : (c.move t sh l).locals t = l :=
  Function.update_self t l c.locals

theorem Config.move_locals_of_ne (c : Config Shared Local) {t u : Tid} (sh : Shared)
    (l : Local t) (h : u ≠ t) : (c.move t sh l).locals u = c.locals u :=
  Function.update_of_ne h l c.locals

/-- A condition on steps: the configuration before, the thread that moves and the configuration
after. -/
abbrev StepCondition {Tid : Type u} (Shared : Type v) (Local : Tid → Type w) :=
  Config Shared Local → Tid → Config Shared Local → Prop

/-- The condition every step meets. -/
def anyStep : StepCondition Shared Local := fun _ _ _ => True

/-- Some steps of one thread, from place to place as `ok` says, while the others stand still. -/
inductive ThreadRun {L : Type w} (Step : Shared → L → Shared → L → Prop) (ok : L → L → Prop) :
    Shared → L → Shared → L → Prop where
  | refl (sh l) : ThreadRun Step ok sh l sh l
  | head {sh l sh₁ l₁ sh₂ l₂} : Step sh l sh₁ l₁ → ok l l₁ →
      ThreadRun Step ok sh₁ l₁ sh₂ l₂ → ThreadRun Step ok sh l sh₂ l₂

theorem ThreadRun.trans {L : Type w} {Step : Shared → L → Shared → L → Prop} {ok : L → L → Prop}
    {sh sh₁ sh₂ : Shared} {l l₁ l₂ : L} (h : ThreadRun Step ok sh l sh₁ l₁)
    (h' : ThreadRun Step ok sh₁ l₁ sh₂ l₂) : ThreadRun Step ok sh l sh₂ l₂ := by
  induction h with
  | refl => exact h'
  | head hs hok _ ih => exact .head hs hok (ih h')

/-- The run of a thread in one system as a run in another whose places have those of the first
among them. -/
theorem ThreadRun.map {L L' : Type w} {Step : Shared → L → Shared → L → Prop}
    {Step' : Shared → L' → Shared → L' → Prop} {ok : L → L → Prop} {ok' : L' → L' → Prop}
    {sh sh' : Shared} {l l' : L} (f : L → L') (h : ThreadRun Step ok sh l sh' l')
    (hstep : ∀ sh l sh' l', Step sh l sh' l' → Step' sh (f l) sh' (f l'))
    (hok : ∀ l l', ok l l' → ok' (f l) (f l')) : ThreadRun Step' ok' sh (f l) sh' (f l') := by
  induction h with
  | refl => exact .refl _ _
  | head hs hl _ ih => exact .head (hstep _ _ _ _ hs) (hok _ _ hl) ih

namespace System

variable (S : System Shared Local)

/-- The configurations that some schedule reaches from `start` by steps that all meet
`allowed`. -/
inductive Reach (start : Config Shared Local → Prop) (allowed : StepCondition Shared Local) :
    Config Shared Local → Prop where
  | start {c} : start c → Reach start allowed c
  | step {c} {t : Tid} {sh : Shared} {l : Local t} :
      Reach start allowed c → S.Step t c.shared (c.locals t) sh l →
      allowed c t (c.move t sh l) → Reach start allowed (c.move t sh l)

variable {S} {start : Config Shared Local → Prop} {allowed : StepCondition Shared Local}

/-- A property that holds initially and is kept by every allowed step holds of all reached
configurations. The step may use what is known of reached configurations already. -/
theorem Reach.invariant {P : Config Shared Local → Prop}
    (hstart : ∀ c, start c → P c)
    (hstep : ∀ c t sh l, S.Reach start allowed c → P c →
      S.Step t c.shared (c.locals t) sh l → allowed c t (c.move t sh l) → P (c.move t sh l))
    {c : Config Shared Local} (h : S.Reach start allowed c) : P c := by
  induction h with
  | start h => exact hstart _ h
  | step h hs ha ih => exact hstep _ _ _ _ h ih hs ha

/-- Steps that meet one condition meet another, if an invariant of these runs says so. -/
theorem Reach.mono_invariant {allowed' : StepCondition Shared Local}
    {P : Config Shared Local → Prop} (hstart : ∀ c, start c → P c)
    (hstep : ∀ c t sh l, S.Reach start allowed' c → P c → S.Step t c.shared (c.locals t) sh l →
      allowed c t (c.move t sh l) → allowed' c t (c.move t sh l) ∧ P (c.move t sh l))
    {c : Config Shared Local} (h : S.Reach start allowed c) : S.Reach start allowed' c ∧ P c := by
  induction h with
  | start h => exact ⟨.start h, hstart _ h⟩
  | step _ hs ha ih =>
      obtain ⟨hreach, hP⟩ := ih
      obtain ⟨ha', hP'⟩ := hstep _ _ _ _ hreach hP hs ha
      exact ⟨.step hreach hs ha', hP'⟩

/-- Fewer conditions on the steps reach more. -/
theorem Reach.mono {allowed' : StepCondition Shared Local}
    (hallowed : ∀ c t c', allowed c t c' → allowed' c t c') {c : Config Shared Local}
    (h : S.Reach start allowed c) : S.Reach start allowed' c := by
  refine (h.mono_invariant (P := fun _ => True) (fun _ _ => trivial) ?_).1
  intro c t sh l _ _ _ ha
  exact ⟨hallowed _ _ _ ha, trivial⟩

/-- A schedule that goes on where another one has led. -/
theorem Reach.trans {c c' : Config Shared Local} (h : S.Reach start allowed c)
    (h' : S.Reach (· = c) allowed c') : S.Reach start allowed c' := by
  induction h' with
  | start heq => exact heq ▸ h
  | step _ hs ha ih => exact .step ih hs ha

/-- Running one thread for a while is a schedule. -/
theorem Reach.thread {t : Tid} {ok : Local t → Local t → Prop} {c : Config Shared Local}
    {sh : Shared} {l : Local t} (h : S.Reach start allowed c)
    (hallowed : ∀ c sh l, ok (c.locals t) l → allowed c t (c.move t sh l))
    (hrun : ThreadRun (S.Step t) ok c.shared (c.locals t) sh l) :
    S.Reach start allowed (c.move t sh l) := by
  generalize hsh : c.shared = sh₀ at hrun
  generalize hl : c.locals t = l₀ at hrun
  induction hrun generalizing c with
  | refl =>
      subst hsh hl
      have hc : c.move t c.shared (c.locals t) = c := by
        simp [Config.move, Function.update_eq_self]
      rwa [hc]
  | head hs hok _ ih =>
      subst hsh hl
      have hc := ih (.step h hs (hallowed _ _ _ hok)) rfl (Config.move_locals_self ..)
      simpa [Config.move, Function.update_idem] using hc

/-- Progress. If every configuration with `P` has `Q` or leads to one with `P` and a lower rank,
then each of them leads to one with `Q`. -/
theorem Reach.exists_of_rank {P Q : Config Shared Local → Prop}
    (rank : Config Shared Local → Nat)
    (hnearer : ∀ c, P c → Q c ∨ ∃ c', S.Reach (· = c) allowed c' ∧ P c' ∧ rank c' < rank c)
    {c : Config Shared Local} (hc : P c) : ∃ c', S.Reach (· = c) allowed c' ∧ Q c' := by
  induction hrank : rank c using Nat.strongRecOn generalizing c with
  | _ n ih =>
      rcases hnearer c hc with hq | ⟨c₁, hreach, hc₁, hlt⟩
      · exact ⟨c, .start rfl, hq⟩
      · obtain ⟨c₂, hreach₂, hq⟩ := ih (rank c₁) (hrank ▸ hlt) hc₁ rfl
        exact ⟨c₂, hreach.trans hreach₂, hq⟩

end System

/-! ## Proof outlines -/

/-- What holds of the shared state throughout, and what each thread claims about it at its
place in the code. -/
structure Outline {Tid : Type u} (Shared : Type v) (Local : Tid → Type w) where
  Inv : Shared → Prop
  At : (t : Tid) → Local t → Shared → Prop

/-- The outline is right about a configuration. -/
def Outline.Holds (O : Outline Shared Local) (c : Config Shared Local) : Prop :=
  O.Inv c.shared ∧ ∀ t, O.At t (c.locals t) c.shared

/-- The rely-guarantee rule. Every allowed step keeps the shared invariant, establishes the
claim of its own thread at its next place, and changes the shared state for every other thread
only as that thread relies on at its place; and what a thread claims survives such changes. -/
theorem System.Reach.outline {S : System Shared Local} {start : Config Shared Local → Prop}
    {allowed : StepCondition Shared Local} (O : Outline Shared Local)
    (Rely : (t : Tid) → Local t → Shared → Shared → Prop)
    (hstart : ∀ c, start c → O.Holds c)
    (hstep : ∀ c t sh l, S.Reach start allowed c → O.Holds c →
      S.Step t c.shared (c.locals t) sh l → allowed c t (c.move t sh l) →
      O.Inv sh ∧ O.At t l sh ∧ ∀ u, u ≠ t → Rely u (c.locals u) c.shared sh)
    (hstable : ∀ t l sh sh',
      O.Inv sh → O.Inv sh' → O.At t l sh → Rely t l sh sh' → O.At t l sh')
    {c : Config Shared Local} (h : S.Reach start allowed c) : O.Holds c := by
  refine h.invariant hstart ?_
  intro c t sh l hreach hholds hs ha
  obtain ⟨hinv, hown, hrely⟩ := hstep c t sh l hreach hholds hs ha
  refine ⟨hinv, ?_⟩
  intro u
  by_cases hut : u = t
  · subst hut
    simpa using hown
  · rw [Config.move_locals_of_ne c sh l hut]
    exact hstable u _ _ _ hholds.1 hinv (hholds.2 u) (hrely u hut)

end Concurrent
