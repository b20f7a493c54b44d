import BatteryInfo.Concurrent.Interleaving

/-!
# Simulation and atomic objects

`Reach.simulation` is forward simulation: what one system does in a step the other can follow in
some steps of its own, so that whatever the one reaches is related to something the other
reaches.

`atomicCalls run` is an object whose operations are called by threads and happen at one moment
each, somewhere between the call and the return. A `history` has the calls and the returns in
the order in which they came. A system that has no other histories than these hides from the
threads that use it that its operations take more than one step.
-/

namespace Concurrent

universe u v w

section Simulation

variable {Tid : Type u} [DecidableEq Tid] {Shared Shared' : Type v} {Local Local' : Tid → Type w}
  {S : System Shared Local} {S' : System Shared' Local'}
  {start : Config Shared Local → Prop} {start' : Config Shared' Local' → Prop}
  {allowed : StepCondition Shared Local} {allowed' : StepCondition Shared' Local'}

/-- Forward simulation. -/
theorem System.Reach.simulation {R : Config Shared Local → Config Shared' Local' → Prop}
    (hstart : ∀ c, start c → ∃ a, start' a ∧ R c a)
    (hstep : ∀ c t sh l a, S.Reach start allowed c → S'.Reach start' allowed' a → R c a →
      S.Step t c.shared (c.locals t) sh l → allowed c t (c.move t sh l) →
      ∃ a', S'.Reach start' allowed' a' ∧ R (c.move t sh l) a')
    {c : Config Shared Local} (h : S.Reach start allowed c) :
    ∃ a, S'.Reach start' allowed' a ∧ R c a := by
  induction h with
  | start hc =>
      obtain ⟨a, ha, hR⟩ := hstart _ hc
      exact ⟨a, .start ha, hR⟩
  | step hc hs hallowed ih =>
      obtain ⟨a, ha, hR⟩ := ih
      exact hstep _ _ _ _ a hc ha hR hs hallowed

end Simulation

variable {Tid : Type u} {State Op Result : Type v}

/-- What the threads that use an object see of it. -/
inductive Event (Tid : Type u) (Op Result : Type v) where
  | call (t : Tid) (op : Op)
  | ret (t : Tid) (result : Result)

/-- The places of a thread that uses an object: in no call, in a call that has yet to happen, or
in one that has happened. -/
inductive CallPlace (Op Result : Type v) where
  | outside
  | called (op : Op)
  | done (result : Result)

/-- An object with the calls and returns so far, the newest last. -/
structure Observed (Tid : Type u) (State Op Result : Type v) where
  state : State
  history : List (Event Tid Op Result)

/-- A step of thread `t` in a call of an operation that happens at one moment. -/
inductive AtomicStep (run : Op → State → Result × State) (t : Tid) :
    Observed Tid State Op Result → CallPlace Op Result →
    Observed Tid State Op Result → CallPlace Op Result → Prop where
  | call {s h} (op) : AtomicStep run t ⟨s, h⟩ .outside ⟨s, h ++ [.call t op]⟩ (.called op)
  | happen {s h op} : AtomicStep run t ⟨s, h⟩ (.called op) ⟨(run op s).2, h⟩ (.done (run op s).1)
  | ret {s h r} : AtomicStep run t ⟨s, h⟩ (.done r) ⟨s, h ++ [.ret t r]⟩ .outside

/-- Threads that use an object whose operations happen at one moment each. -/
def atomicCalls (run : Op → State → Result × State) :
    System (Observed Tid State Op Result) fun _ : Tid => CallPlace Op Result where
  Step := AtomicStep run

/-- Nobody has called anything yet. -/
structure AtomicStart (init : State → Prop)
    (a : Config (Observed Tid State Op Result) fun _ : Tid => CallPlace Op Result) : Prop where
  state : init a.shared.state
  history : a.shared.history = []
  locals : ∀ t, a.locals t = .outside

/-- What every operation keeps holds of the object throughout. -/
theorem atomicCalls_invariant [DecidableEq Tid] {run : Op → State → Result × State}
    {init P : State → Prop} (hinit : ∀ s, init s → P s) (hrun : ∀ op s, P s → P (run op s).2)
    {a : Config (Observed Tid State Op Result) fun _ : Tid => CallPlace Op Result}
    (h : (atomicCalls run).Reach (AtomicStart init) anyStep a) : P a.shared.state := by
  refine h.invariant (P := fun a => P a.shared.state) (fun a ha => hinit _ ha.state) ?_
  intro a t sh l _ hP hs _
  show P sh.state
  generalize hlocal : a.locals t = l₀ at hs
  generalize hshared : a.shared = sh₀ at hs hP
  cases hs with
  | call => exact hP
  | happen => exact hrun _ _ hP
  | ret => exact hP

/-- An object may be looked at through a function that its operations respect. -/
theorem atomicCalls_map [DecidableEq Tid] {State' : Type v}
    {run : Op → State → Result × State} {run' : Op → State' → Result × State'}
    {init : State → Prop} {init' : State' → Prop} (f : State → State')
    (hinit : ∀ s, init s → init' (f s))
    (hrun : ∀ op s, run' op (f s) = ((run op s).1, f (run op s).2))
    {a : Config (Observed Tid State Op Result) fun _ : Tid => CallPlace Op Result}
    (h : (atomicCalls run).Reach (AtomicStart init) anyStep a) :
    (atomicCalls run').Reach (AtomicStart init') anyStep
      ⟨⟨f a.shared.state, a.shared.history⟩, a.locals⟩ := by
  induction h with
  | start ha => exact .start ⟨hinit _ ha.state, ha.history, ha.locals⟩
  | @step a t sh l _ hs _ ih =>
      have hstep : AtomicStep run' t ⟨f a.shared.state, a.shared.history⟩ (a.locals t)
          ⟨f sh.state, sh.history⟩ l := by
        generalize a.locals t = l₀ at hs
        generalize a.shared = sh₀ at hs
        cases hs with
        | call op => exact .call op
        | ret => exact .ret
        | @happen s h op =>
            have hop : AtomicStep run' t ⟨f s, h⟩ (.called op) ⟨(run' op (f s)).2, h⟩
                (.done (run' op (f s)).1) := .happen
            rwa [hrun] at hop
      exact ih.step hstep trivial

end Concurrent
