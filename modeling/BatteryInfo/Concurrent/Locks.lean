import BatteryInfo.Concurrent.Interleaving

/-!
# Mutexes and waiting

Mutexes as a table of owners in the shared state of interleaved threads. A system whose steps
take and give back mutexes only where the code of the thread says so (`LockMove`) has mutual
exclusion: a thread owns a mutex exactly while its code is inside the section the mutex guards
(`Reach.mutual_exclusion`).

`WaitsFor` is the wait-for relation over mutexes and joins. It has no cycle when some rank
decreases along it (`WaitsFor.acyclic`).
-/

namespace Concurrent

universe u v w

variable {Tid : Type u} {Shared : Type v} {Local : Tid → Type w} {Mutex : Type}

/-- What one step of thread `t` does to one mutex: leave it, take it when it is free, or give
it back. `inside` and `inside'` say whether the thread's code is in the guarded section before
and after. -/
inductive LockMove (t : Tid) (owner owner' : Option Tid) (inside inside' : Prop) : Prop where
  | keep : owner' = owner → (inside' ↔ inside) → LockMove t owner owner' inside inside'
  | acquire : owner = none → owner' = some t → inside' → LockMove t owner owner' inside inside'
  | release : inside → owner' = none → ¬ inside' → LockMove t owner owner' inside inside'

/-- A step of a thread that owns a mutex exactly inside its section leaves it so. -/
theorem LockMove.own {t : Tid} {owner owner' : Option Tid} {inside inside' : Prop}
    (h : LockMove t owner owner' inside inside') (hown : owner = some t ↔ inside) :
    owner' = some t ↔ inside' := by
  cases h with
  | keep howner hinside => rw [howner, hinside, hown]
  | acquire _ howner hinside => simp [howner, hinside]
  | release _ howner hinside => simp [howner, hinside]

/-- Another thread's step neither gives a thread a mutex nor takes one from it. -/
theorem LockMove.other {t u : Tid} {owner owner' : Option Tid} {inside inside' : Prop}
    (h : LockMove t owner owner' inside inside') (hown : owner = some t ↔ inside) (hut : u ≠ t) :
    owner' = some u ↔ owner = some u := by
  cases h with
  | keep howner _ => rw [howner]
  | acquire hfree howner _ => simp [hfree, howner, Ne.symm hut]
  | release hinside howner _ => simp [hown.mpr hinside, howner, Ne.symm hut]

section Table

variable [DecidableEq Mutex] {t : Tid} {owner : Mutex → Option Tid} {m₀ : Mutex}
  {held held' : List Mutex}

/-- Entering the section of a free mutex and taking it. -/
theorem LockMove.of_acquire (hfree : owner m₀ = none)
    (h : ∀ m, m ∈ held' ↔ m = m₀ ∨ m ∈ held) (m : Mutex) :
    LockMove t (owner m) (Function.update owner m₀ (some t) m) (m ∈ held) (m ∈ held') := by
  by_cases hm : m = m₀
  · subst hm
    exact .acquire hfree (Function.update_self ..) ((h m).2 (.inl rfl))
  · exact .keep (Function.update_of_ne hm ..) (by simp [h, hm])

/-- Leaving the section of a mutex and giving it back. -/
theorem LockMove.of_release (hheld : m₀ ∈ held)
    (h : ∀ m, m ∈ held' ↔ m ≠ m₀ ∧ m ∈ held) (m : Mutex) :
    LockMove t (owner m) (Function.update owner m₀ none m) (m ∈ held) (m ∈ held') := by
  by_cases hm : m = m₀
  · subst hm
    exact .release hheld (Function.update_self ..) (by simp [h])
  · exact .keep (Function.update_of_ne hm ..) (by simp [h, hm])

end Table

/-- Mutual exclusion. If every step moves every mutex as `LockMove` allows, then in all
reached configurations a thread owns a mutex exactly while it is inside the guarded section. -/
theorem System.Reach.mutual_exclusion [DecidableEq Tid] {S : System Shared Local}
    {start : Config Shared Local → Prop} {allowed : StepCondition Shared Local}
    (owner : Shared → Mutex → Option Tid) (inside : (t : Tid) → Local t → Mutex → Prop)
    (hstart : ∀ c, start c → ∀ t m, owner c.shared m = some t ↔ inside t (c.locals t) m)
    (hmove : ∀ c t sh l, S.Reach start allowed c →
      (∀ u m, owner c.shared m = some u ↔ inside u (c.locals u) m) →
      S.Step t c.shared (c.locals t) sh l → allowed c t (c.move t sh l) →
      ∀ m, LockMove t (owner c.shared m) (owner sh m) (inside t (c.locals t) m) (inside t l m))
    {c : Config Shared Local} (h : S.Reach start allowed c) :
    ∀ t m, owner c.shared m = some t ↔ inside t (c.locals t) m := by
  refine (h.outline
    ⟨fun _ => True, fun t l sh => ∀ m, owner sh m = some t ↔ inside t l m⟩
    (fun t _ sh sh' => ∀ m, owner sh' m = some t ↔ owner sh m = some t) ?_ ?_ ?_).2
  · intro c hc
    exact ⟨trivial, hstart c hc⟩
  · intro c t sh l hreach hholds hs ha
    have hm := hmove c t sh l hreach hholds.2 hs ha
    exact ⟨trivial, fun m => (hm m).own (hholds.2 t m),
      fun u hut m => (hm m).other (hholds.2 t m) hut⟩
  · intro t l sh sh' _ _ hat hrely m
    rw [hrely m, hat m]

/-- Where a mutex may also be made anew, still nobody owns a mutex outside the guarded section. -/
theorem System.Reach.owner_inside [DecidableEq Tid] {S : System Shared Local}
    {start : Config Shared Local → Prop} {allowed : StepCondition Shared Local}
    (owner : Shared → Mutex → Option Tid) (inside : (t : Tid) → Local t → Mutex → Prop)
    (hstart : ∀ c, start c → ∀ t m, owner c.shared m = some t → inside t (c.locals t) m)
    (hmove : ∀ (c : Config Shared Local) t sh l, S.Step t c.shared (c.locals t) sh l → ∀ m,
      owner sh m = none ∨
        LockMove t (owner c.shared m) (owner sh m) (inside t (c.locals t) m) (inside t l m))
    {c : Config Shared Local} (h : S.Reach start allowed c) :
    ∀ t m, owner c.shared m = some t → inside t (c.locals t) m := by
  refine h.invariant hstart ?_
  intro c t sh l _ hinside hs _ u m howner
  have howner : owner sh m = some u := howner
  have hmove := (hmove c t sh l hs m).resolve_left fun hnone =>
    absurd (hnone.symm.trans howner) (by simp)
  by_cases hut : u = t
  · subst hut
    rw [Config.move_locals_self]
    cases hmove with
    | keep hsame hstays => exact hstays.2 (hinside u m (hsame.symm.trans howner))
    | acquire _ _ hnow => exact hnow
    | release _ hnone _ => exact absurd (hnone.symm.trans howner) (by simp)
  · rw [Config.move_locals_of_ne c sh l hut]
    cases hmove with
    | keep hsame _ => exact hinside u m (hsame.symm.trans howner)
    | acquire _ hsome _ => exact absurd (Option.some.inj (howner.symm.trans hsome)) hut
    | release _ hnone _ => exact absurd (hnone.symm.trans howner) (by simp)

/-! ## Waiting -/

/-- How a thread can be held up: it wants a mutex, or it waits for a thread to end. -/
structure Waiting {Tid : Type u} (Shared : Type v) (Local : Tid → Type w) (Mutex : Type) where
  owner : Shared → Mutex → Option Tid
  wants : (t : Tid) → Local t → Shared → Option Mutex
  joins : (t : Tid) → Local t → Shared → Option Tid
  ended : Tid → Shared → Prop

/-- Thread `t` cannot go on before thread `u` gives back a mutex or ends. -/
inductive WaitsFor (W : Waiting Shared Local Mutex) (c : Config Shared Local) :
    Tid → Tid → Prop where
  | mutex {t u : Tid} {m : Mutex} : W.wants t (c.locals t) c.shared = some m →
      W.owner c.shared m = some u → WaitsFor W c t u
  | join {t u : Tid} : W.joins t (c.locals t) c.shared = some u → ¬ W.ended u c.shared →
      WaitsFor W c t u

/-- A wait-for relation along which a rank decreases has no cycle. -/
theorem WaitsFor.acyclic {W : Waiting Shared Local Mutex} {c : Config Shared Local}
    (rank : Tid → Nat) (hrank : ∀ t u, WaitsFor W c t u → rank u < rank t) (t : Tid) :
    ¬ Relation.TransGen (WaitsFor W c) t t := by
  intro hcycle
  have hlt : ∀ u, Relation.TransGen (WaitsFor W c) t u → rank u < rank t := by
    intro u h
    induction h with
    | single h => exact hrank _ _ h
    | tail _ h ih => exact Nat.lt_trans (hrank _ _ h) ih
  exact Nat.lt_irrefl _ (hlt t hcycle)

end Concurrent
