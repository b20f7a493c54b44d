import BatteryInfo.Concurrent.Locks
import BatteryInfo.Concurrent.Objects

/-!
# Two-phase locking

An object in parts, each guarded by a mutex of its own. An operation is a piece of code that
takes mutexes, works on the parts that it holds, and gives the mutexes back. If no code takes a
mutex after it has given one back (`TwoPhase`), then the operations look as if each happened at
one moment: any number of threads, in any interleaving, sees only what the operations run one
after the other could show (`TwoPhase.atomic`). The moment is where an operation first gives a
mutex back. If moreover all code takes the mutexes in one order, then some thread can always go
on (`TwoPhase.progress`).
-/

namespace Concurrent

variable {Mutex : Type} {Part : Mutex → Type} {Op Result Pc : Type}

/-- What a thread does at a place of its code. Work is on one part at a time. -/
inductive Action (Part : Mutex → Type) (Result Pc : Type) where
  | acquire (m : Mutex) (next : Pc)
  | work (m : Mutex) (f : Part m → Pc × Part m)
  | release (m : Mutex) (next : Pc)
  | ret (result : Result)

/-- The code of some operations. -/
structure Code (Part : Mutex → Type) (Op Result Pc : Type) where
  entry : Op → Pc
  action : Pc → Action Part Result Pc

/-- The code from one place on, run without interruption. -/
inductive Code.Finishes [DecidableEq Mutex] (C : Code Part Op Result Pc) :
    Pc → (∀ m, Part m) → Result → (∀ m, Part m) → Prop where
  | acquire {l m next x r y} : C.action l = .acquire m next → C.Finishes next x r y →
      C.Finishes l x r y
  | work {l m f x r y} : C.action l = .work m f →
      C.Finishes (f (x m)).1 (Function.update x m (f (x m)).2) r y → C.Finishes l x r y
  | release {l m next x r y} : C.action l = .release m next → C.Finishes next x r y →
      C.Finishes l x r y
  | ret {l r x} : C.action l = .ret r → C.Finishes l x r x

namespace Code.Finishes

variable [DecidableEq Mutex] {C : Code Part Op Result Pc} {l next : Pc} {m : Mutex} {r r' : Result}
  {x y : ∀ m, Part m}

theorem of_acquire (h : C.Finishes l x r y) (haction : C.action l = .acquire m next) :
    C.Finishes next x r y := by
  cases h with
  | acquire h hrest =>
      cases haction.symm.trans h
      exact hrest
  | work h | release h | ret h => cases haction.symm.trans h

theorem of_work {f : Part m → Pc × Part m} (h : C.Finishes l x r y)
    (haction : C.action l = .work m f) :
    C.Finishes (f (x m)).1 (Function.update x m (f (x m)).2) r y := by
  cases h with
  | work h hrest =>
      cases haction.symm.trans h
      exact hrest
  | acquire h | release h | ret h => cases haction.symm.trans h

theorem of_release (h : C.Finishes l x r y) (haction : C.action l = .release m next) :
    C.Finishes next x r y := by
  cases h with
  | release h hrest =>
      cases haction.symm.trans h
      exact hrest
  | acquire h | work h | ret h => cases haction.symm.trans h

theorem of_ret (h : C.Finishes l x r y) (haction : C.action l = .ret r') : r = r' := by
  cases h with
  | ret h =>
      cases haction.symm.trans h
      rfl
  | acquire h | work h | release h => cases haction.symm.trans h

end Code.Finishes

/-- The mutexes that the code holds at each place, and the places from which on it only gives
mutexes back. -/
structure Code.TwoPhase (C : Code Part Op Result Pc) where
  held : Pc → List Mutex
  shrinking : Pc → Prop
  entry : ∀ op, ¬ shrinking (C.entry op) ∧ ∀ m, m ∉ held (C.entry op)
  acquire : ∀ {l m next}, C.action l = .acquire m next →
    ¬ shrinking l ∧ ¬ shrinking next ∧ m ∉ held l ∧ ∀ k, k ∈ held next ↔ k = m ∨ k ∈ held l
  work : ∀ {l m f}, C.action l = .work m f → m ∈ held l ∧
    ∀ x, (shrinking (f x).1 ↔ shrinking l) ∧ ∀ k, k ∈ held (f x).1 ↔ k ∈ held l
  release : ∀ {l m next}, C.action l = .release m next →
    m ∈ held l ∧ shrinking next ∧ ∀ k, k ∈ held next ↔ k ≠ m ∧ k ∈ held l
  ret : ∀ {l r}, C.action l = .ret r → shrinking l ∧ ∀ m, m ∉ held l

section Threads

variable {Tid : Type}

/-- The parts of the object, the owners of the mutexes, and the calls and returns so far. -/
structure Guarded (Tid : Type) (Part : Mutex → Type) (Op Result : Type) where
  owner : Mutex → Option Tid
  state : ∀ m, Part m
  history : List (Event Tid Op Result)

variable [DecidableEq Mutex]

/-- A step of thread `t`, which is in no call or at a place of the code. -/
inductive CodeStep (C : Code Part Op Result Pc) (t : Tid) :
    Guarded Tid Part Op Result → Option Pc → Guarded Tid Part Op Result → Option Pc → Prop where
  | call {s} (op) :
      CodeStep C t s none { s with history := s.history ++ [.call t op] } (some (C.entry op))
  | acquire {s l m next} : C.action l = .acquire m next → s.owner m = none →
      CodeStep C t s (some l) { s with owner := Function.update s.owner m (some t) } (some next)
  | work {s l m f} : C.action l = .work m f →
      CodeStep C t s (some l)
        { s with state := Function.update s.state m (f (s.state m)).2 } (some (f (s.state m)).1)
  | release {s l m next} : C.action l = .release m next →
      CodeStep C t s (some l) { s with owner := Function.update s.owner m none } (some next)
  | ret {s l r} : C.action l = .ret r →
      CodeStep C t s (some l) { s with history := s.history ++ [.ret t r] } none

/-- Threads that run the code. -/
def Code.threads (C : Code Part Op Result Pc) :
    System (Guarded Tid Part Op Result) fun _ : Tid => Option Pc where
  Step := CodeStep C

/-- No thread has called anything yet. -/
structure Code.Start (C : Code Part Op Result Pc) (init : (∀ m, Part m) → Prop)
    (c : Config (Guarded Tid Part Op Result) fun _ : Tid => Option Pc) : Prop where
  state : init c.shared.state
  owner : ∀ m, c.shared.owner m = none
  history : c.shared.history = []
  locals : ∀ t, c.locals t = none

end Threads

namespace Code.TwoPhase

variable [DecidableEq Mutex] {C : Code Part Op Result Pc} (D : C.TwoPhase)

/-- What the rest of an operation does once it takes no more mutexes: it leaves alone what it
does not hold, and does the same whatever that is. -/
theorem frame {l : Pc} {x y : ∀ m, Part m} {r : Result} (h : C.Finishes l x r y)
    (hl : D.shrinking l) :
    (∀ m, m ∉ D.held l → y m = x m) ∧
    ∀ x' : ∀ m, Part m, (∀ m ∈ D.held l, x' m = x m) →
      ∃ y', C.Finishes l x' r y' ∧ (∀ m ∈ D.held l, y' m = y m) ∧
        ∀ m, m ∉ D.held l → y' m = x' m := by
  induction h with
  | acquire haction => exact absurd hl (D.acquire haction).1
  | @work l m f x r y haction _ ih =>
      obtain ⟨hm, hnext⟩ := D.work haction
      obtain ⟨hshrinking, hheld⟩ := hnext (x m)
      obtain ⟨hsame, hany⟩ := ih (hshrinking.2 hl)
      constructor
      · intro k hk
        rw [hsame k (mt (hheld k).1 hk), Function.update_of_ne (by rintro rfl; exact hk hm)]
      · intro x' hx'
        have hagree : ∀ k ∈ D.held (f (x m)).1,
            Function.update x' m (f (x m)).2 k = Function.update x m (f (x m)).2 k := by
          intro k hk
          by_cases hkm : k = m
          · subst hkm
            rw [Function.update_self, Function.update_self]
          · rw [Function.update_of_ne hkm, Function.update_of_ne hkm]
            exact hx' k ((hheld k).1 hk)
        obtain ⟨y', hfinishes, hin, hout⟩ := hany _ hagree
        refine ⟨y', .work haction ?_, fun k hk => hin k ((hheld k).2 hk), fun k hk => ?_⟩
        · rwa [hx' m hm]
        · rw [hout k (mt (hheld k).1 hk), Function.update_of_ne (by rintro rfl; exact hk hm)]
  | @release l m next x r y haction _ ih =>
      obtain ⟨hm, hshrinking, hheld⟩ := D.release haction
      obtain ⟨hsame, hany⟩ := ih hshrinking
      constructor
      · intro k hk
        exact hsame k fun hmem => hk ((hheld k).1 hmem).2
      · intro x' hx'
        obtain ⟨y', hfinishes, hin, hout⟩ := hany x' fun k hk => hx' k ((hheld k).1 hk).2
        refine ⟨y', .release haction hfinishes, fun k hk => ?_, fun k hk => ?_⟩
        · by_cases hkm : k = m
          · -- the part that is given back is not touched any more
            subst hkm
            have hgone : k ∉ D.held next := fun hmem => ((hheld k).1 hmem).1 rfl
            rw [hout k hgone, hx' k hk, hsame k hgone]
          · exact hin k ((hheld k).2 ⟨hkm, hk⟩)
        · exact hout k fun hmem => hk ((hheld k).1 hmem).2
  | ret haction =>
      refine ⟨fun _ _ => rfl, fun x' _ => ⟨x', .ret haction, fun m hm => ?_, fun _ _ => rfl⟩⟩
      exact absurd hm ((D.ret haction).2 m)

/-! ## Who holds which mutex -/

variable {Tid : Type}

/-- The mutexes that a thread holds at its place. -/
def heldBy : Option Pc → List Mutex
  | none => []
  | some l => D.held l

theorem lockMove {t : Tid} {s s' : Guarded Tid Part Op Result} {l l' : Option Pc}
    (hstep : CodeStep C t s l s' l') (m : Mutex) :
    LockMove t (s.owner m) (s'.owner m) (m ∈ D.heldBy l) (m ∈ D.heldBy l') := by
  cases hstep with
  | call op => exact .keep rfl (iff_of_false ((D.entry op).2 m) List.not_mem_nil)
  | acquire haction hfree => exact .of_acquire hfree (D.acquire haction).2.2.2 m
  | work haction => exact .keep rfl (((D.work haction).2 _).2 m)
  | release haction => exact .of_release (D.release haction).1 (D.release haction).2.2 m
  | ret haction => exact .keep rfl (iff_of_false List.not_mem_nil ((D.ret haction).2 m))

variable [DecidableEq Tid] {init : (∀ m, Part m) → Prop}

/-- A thread owns a mutex exactly while its code holds it. -/
theorem owner_iff {c : Config (Guarded Tid Part Op Result) fun _ : Tid => Option Pc}
    (h : C.threads.Reach (C.Start init) anyStep c) (t : Tid) (m : Mutex) :
    c.shared.owner m = some t ↔ m ∈ D.heldBy (c.locals t) := by
  refine h.mutual_exclusion Guarded.owner (fun t l m => m ∈ D.heldBy l) ?_ ?_ t m
  · intro c hc t m
    simp [hc.owner, hc.locals, heldBy]
  · intro c t s l _ _ hstep _ m
    exact D.lockMove hstep m

/-! ## Atomicity -/

variable (run : Op → (∀ m, Part m) → Result × ∀ m, Part m)

/-- Where a thread is in an operation, over the parts `x`, and in the one that happens at one
moment, over the parts `y`. Before it gives a mutex back, the rest of its code does what the whole
operation does; after that, it brings the parts to where the operation has brought them. -/
inductive Abreast (x y : ∀ m, Part m) : Option Pc → CallPlace Op Result → Prop where
  | outside : Abreast x y none .outside
  | growing {l op} : ¬ D.shrinking l →
      (∀ x' y' : ∀ m, Part m, (∀ m ∈ D.held l, x' m = x m ∧ y' m = y m) →
        (∀ m, m ∉ D.held l → x' m = y' m) → C.Finishes l x' (run op y').1 (run op y').2) →
      Abreast x y (some l) (.called op)
  | shrinking {l r} : D.shrinking l →
      (∀ x' : ∀ m, Part m, (∀ m ∈ D.held l, x' m = x m) →
        (∀ m, m ∉ D.held l → x' m = y m) → C.Finishes l x' r y) →
      Abreast x y (some l) (.done r)

/-- What others do to parts that a thread does not hold does not concern it. -/
theorem Abreast.stable {x y x₁ y₁ : ∀ m, Part m} {l : Option Pc} {p : CallPlace Op Result}
    (h : D.Abreast run x y l p) (hsame : ∀ m ∈ D.heldBy l, x₁ m = x m ∧ y₁ m = y m) :
    D.Abreast run x₁ y₁ l p := by
  cases h with
  | outside => exact .outside
  | growing hl hfinishes =>
      refine .growing hl fun x' y' hheld hfree => hfinishes x' y' (fun m hm => ?_) hfree
      obtain ⟨hx, hy⟩ := hheld m hm
      obtain ⟨hx₁, hy₁⟩ := hsame m hm
      exact ⟨hx.trans hx₁, hy.trans hy₁⟩
  | @shrinking l r hl hfinishes =>
      refine .shrinking hl fun x' hheld hfree => ?_
      -- the thread brings its own parts to `y`, whatever the others are
      let x₀ : ∀ m, Part m := fun m => if m ∈ D.held l then x m else y m
      have hx₀ := hfinishes x₀ (fun m hm => if_pos hm) (fun m hm => if_neg hm)
      obtain ⟨y', hx', hin, hout⟩ := (D.frame hx₀ hl).2 x' fun m hm =>
        (hheld m hm).trans ((hsame m hm).1.trans (if_pos hm).symm)
      have hy' : y' = y₁ := by
        funext m
        by_cases hm : m ∈ D.held l
        · rw [hin m hm, (hsame m hm).2]
        · rw [hout m hm, hfree m hm]
      rwa [hy'] at hx'

section Steps

variable {run} {x y : ∀ m, Part m} {l next : Pc} {m : Mutex} {p : CallPlace Op Result}

theorem Abreast.acquire (h : D.Abreast run x y (some l) p) (haction : C.action l = .acquire m next)
    (hfree : x m = y m) : D.Abreast run x y (some next) p := by
  obtain ⟨hl, hnext, _, hheld⟩ := D.acquire haction
  cases h with
  | shrinking hshrinking => exact absurd hshrinking hl
  | growing _ hfinishes =>
      refine .growing hnext fun x' y' hin hout => ?_
      refine (hfinishes x' y' (fun k hk => hin k ((hheld k).2 (.inr hk))) fun k hk => ?_)
        |>.of_acquire haction
      by_cases hkm : k = m
      · subst hkm
        obtain ⟨hx, hy⟩ := hin k ((hheld k).2 (.inl rfl))
        rw [hx, hy, hfree]
      · exact hout k fun hmem => ((hheld k).1 hmem).elim hkm hk

theorem Abreast.work (h : D.Abreast run x y (some l) p) {f : Part m → Pc × Part m}
    (haction : C.action l = .work m f) :
    D.Abreast run (Function.update x m (f (x m)).2) y (some (f (x m)).1) p := by
  obtain ⟨hm, hany⟩ := D.work haction
  obtain ⟨hshrinking, hheld⟩ := hany (x m)
  -- the parts before the work, given those after it
  have hback : ∀ x' : ∀ m, Part m,
      (∀ k ∈ D.held (f (x m)).1, x' k = Function.update x m (f (x m)).2 k) →
      (∀ k ∈ D.held l, Function.update x' m (x m) k = x k) ∧
        ∀ r y', C.Finishes l (Function.update x' m (x m)) r y' →
          C.Finishes (f (x m)).1 x' r y' := by
    intro x' hx'
    constructor
    · intro k hk
      by_cases hkm : k = m
      · subst hkm
        exact Function.update_self ..
      · rw [Function.update_of_ne hkm, hx' k ((hheld k).2 hk), Function.update_of_ne hkm]
    · intro r y' hfinishes
      have hrest := hfinishes.of_work haction
      have hx'm := hx' m ((hheld m).2 hm)
      rw [Function.update_self] at hx'm
      rwa [Function.update_self, Function.update_idem, ← hx'm, Function.update_eq_self] at hrest
  have hother : ∀ (x' : ∀ m, Part m) k, k ∉ D.held l → Function.update x' m (x m) k = x' k := by
    intro x' k hk
    exact Function.update_of_ne (by rintro rfl; exact hk hm) _ _
  cases h with
  | growing hl hfinishes =>
      refine .growing (mt hshrinking.1 hl) fun x' y' hin hout => ?_
      obtain ⟨hagree, hrest⟩ := hback x' fun k hk => (hin k hk).1
      refine hrest _ _ (hfinishes _ y' (fun k hk => ?_) fun k hk => ?_)
      · exact ⟨hagree k hk, (hin k ((hheld k).2 hk)).2⟩
      · rw [hother x' k hk]
        exact hout k (mt (hheld k).1 hk)
  | shrinking hl hfinishes =>
      refine .shrinking (hshrinking.2 hl) fun x' hin hout => ?_
      obtain ⟨hagree, hrest⟩ := hback x' hin
      refine hrest _ _ (hfinishes _ hagree fun k hk => ?_)
      rw [hother x' k hk]
      exact hout k (mt (hheld k).1 hk)

/-- The first mutex is given back. This is where the operation happens. -/
theorem Abreast.happen {op : Op} (h : D.Abreast run x y (some l) (.called op))
    (haction : C.action l = .release m next) :
    D.Abreast run x (run op y).2 (some next) (.done (run op y).1) ∧
      (run op y).2 m = x m ∧ ∀ k, k ∉ D.held l → (run op y).2 k = y k := by
  obtain ⟨hm, hshrinking, hheld⟩ := D.release haction
  cases h with
  | growing hl hfinishes =>
      let x₀ : ∀ m, Part m := fun m => if m ∈ D.held l then x m else y m
      have hrest := (hfinishes x₀ y (fun k hk => ⟨if_pos hk, rfl⟩) fun k hk => if_neg hk)
        |>.of_release haction
      have hleft := (D.frame hrest hshrinking).1
      refine ⟨.shrinking hshrinking fun x' hin hout => ?_, ?_, fun k hk => ?_⟩
      · have hx' : x' = x₀ := by
          funext k
          by_cases hk : k ∈ D.held next
          · rw [hin k hk]
            exact (if_pos ((hheld k).1 hk).2).symm
          · rw [hout k hk, hleft k hk]
        rwa [hx']
      · rw [hleft m fun hmem => ((hheld m).1 hmem).1 rfl]
        exact if_pos hm
      · rw [hleft k fun hmem => hk ((hheld k).1 hmem).2]
        exact if_neg hk

/-- Another mutex is given back. -/
theorem Abreast.release {r : Result} (h : D.Abreast run x y (some l) (.done r))
    (haction : C.action l = .release m next) :
    D.Abreast run x y (some next) (.done r) ∧ y m = x m := by
  obtain ⟨hm, hshrinking, hheld⟩ := D.release haction
  cases h with
  | shrinking hl hfinishes =>
      let x₀ : ∀ m, Part m := fun m => if m ∈ D.held l then x m else y m
      have hrest := (hfinishes x₀ (fun k hk => if_pos hk) fun k hk => if_neg hk)
        |>.of_release haction
      have hsame : y m = x m := by
        rw [(D.frame hrest hshrinking).1 m fun hmem => ((hheld m).1 hmem).1 rfl]
        exact if_pos hm
      refine ⟨.shrinking hshrinking fun x' hin hout => ?_, hsame⟩
      refine (hfinishes x' (fun k hk => ?_) fun k hk => ?_).of_release haction
      · by_cases hkm : k = m
        · subst hkm
          rw [hout k fun hmem => ((hheld k).1 hmem).1 rfl, hsame]
        · exact hin k ((hheld k).2 ⟨hkm, hk⟩)
      · exact hout k fun hmem => hk ((hheld k).1 hmem).2

/-- The operation returns what it returned where it happened. -/
theorem Abreast.ret {r : Result} (h : D.Abreast run x y (some l) p)
    (haction : C.action l = .ret r) : p = .done r := by
  cases h with
  | growing hl => exact absurd (D.ret haction).1 hl
  | shrinking _ hfinishes =>
      let x₀ : ∀ m, Part m := fun m => if m ∈ D.held l then x m else y m
      rw [(hfinishes x₀ (fun k hk => if_pos hk) fun k hk => if_neg hk).of_ret haction]

end Steps

/-- The two systems side by side. -/
structure SideBySide (c : Config (Guarded Tid Part Op Result) fun _ : Tid => Option Pc)
    (a : Config (Observed Tid (∀ m, Part m) Op Result) fun _ : Tid => CallPlace Op Result) :
    Prop where
  history : c.shared.history = a.shared.history
  free : ∀ m, c.shared.owner m = none → c.shared.state m = a.shared.state m
  abreast : ∀ t, D.Abreast run c.shared.state a.shared.state (c.locals t) (a.locals t)

section SideBySide

variable {run} {c : Config (Guarded Tid Part Op Result) fun _ : Tid => Option Pc}
  {a : Config (Observed Tid (∀ m, Part m) Op Result) fun _ : Tid => CallPlace Op Result} {t : Tid}

/-- One thread moves in each system, and the parts that the others hold stay as they are. -/
theorem SideBySide.move (h : D.SideBySide run c a) {s : Guarded Tid Part Op Result}
    {l : Option Pc} {o : Observed Tid (∀ m, Part m) Op Result} {p : CallPlace Op Result}
    (hhistory : s.history = o.history) (hfree : ∀ m, s.owner m = none → s.state m = o.state m)
    (hown : D.Abreast run s.state o.state l p)
    (hothers : ∀ u, u ≠ t → ∀ m ∈ D.heldBy (c.locals u),
      s.state m = c.shared.state m ∧ o.state m = a.shared.state m) :
    D.SideBySide run (c.move t s l) (a.move t o p) := by
  refine ⟨hhistory, hfree, fun u => ?_⟩
  by_cases hut : u = t
  · subst hut
    rw [Config.move_locals_self, Config.move_locals_self]
    exact hown
  · rw [Config.move_locals_of_ne c s l hut, Config.move_locals_of_ne a o p hut]
    exact (h.abreast u).stable D run (hothers u hut)

omit [DecidableEq Mutex] in
theorem move_same : a.move t a.shared (a.locals t) = a := by
  simp [Config.move, Function.update_eq_self]

/-- The object stays as it is while thread `t` moves. -/
theorem SideBySide.stay (h : D.SideBySide run c a) {s : Guarded Tid Part Op Result} {l : Option Pc}
    (hhistory : s.history = a.shared.history)
    (hfree : ∀ m, s.owner m = none → s.state m = a.shared.state m)
    (hown : D.Abreast run s.state a.shared.state l (a.locals t))
    (hothers : ∀ u, u ≠ t → ∀ m ∈ D.heldBy (c.locals u), s.state m = c.shared.state m) :
    D.SideBySide run (c.move t s l) a := by
  have hmove := h.move D hhistory hfree hown fun u hut m hm => ⟨hothers u hut m hm, rfl⟩
  rwa [move_same] at hmove

variable {l next : Pc} {m : Mutex}

theorem SideBySide.acquire (h : D.SideBySide run c a) (hlocal : c.locals t = some l)
    (haction : C.action l = .acquire m next) (hfree : c.shared.owner m = none) :
    D.SideBySide run
      (c.move t { c.shared with owner := Function.update c.shared.owner m (some t) } (some next))
      a := by
  have hown := h.abreast t
  rw [hlocal] at hown
  refine h.stay D h.history (fun k hk => h.free k ?_) (hown.acquire D haction (h.free m hfree))
    fun _ _ _ _ => rfl
  have hk : Function.update c.shared.owner m (some t) k = none := hk
  by_cases hkm : k = m
  · rw [hkm, hfree]
  · rwa [Function.update_of_ne hkm] at hk

theorem SideBySide.work (h : D.SideBySide run c a)
    (hc : C.threads.Reach (C.Start init) anyStep c) (hlocal : c.locals t = some l)
    {f : Part m → Pc × Part m} (haction : C.action l = .work m f) :
    D.SideBySide run
      (c.move t
        { c.shared with
          state := Function.update c.shared.state m (f (c.shared.state m)).2 }
        (some (f (c.shared.state m)).1)) a := by
  have hown := h.abreast t
  rw [hlocal] at hown
  have howner : c.shared.owner m = some t := by
    rw [D.owner_iff hc, hlocal]
    exact (D.work haction).1
  refine h.stay D h.history (fun k hk => ?_) (hown.work D haction) fun u hut k hk => ?_
  · have hk : c.shared.owner k = none := hk
    have hkm : k ≠ m := by
      rintro rfl
      cases howner.symm.trans hk
    exact (Function.update_of_ne hkm ..).trans (h.free k hk)
  · have hkm : k ≠ m := by
      rintro rfl
      rw [← D.owner_iff hc, howner] at hk
      exact hut (Option.some.inj hk).symm
    exact Function.update_of_ne hkm ..

/-- Giving back the first mutex is the moment at which the operation happens. -/
theorem SideBySide.release (h : D.SideBySide run c a)
    (hc : C.threads.Reach (C.Start init) anyStep c)
    (ha : (atomicCalls run).Reach (AtomicStart init) anyStep a) (hlocal : c.locals t = some l)
    (haction : C.action l = .release m next) :
    ∃ a', (atomicCalls run).Reach (AtomicStart init) anyStep a' ∧
      D.SideBySide run
        (c.move t { c.shared with owner := Function.update c.shared.owner m none } (some next))
        a' := by
  have hown := h.abreast t
  rw [hlocal] at hown
  have hothers : ∀ u, u ≠ t → ∀ k ∈ D.heldBy (c.locals u), k ∉ D.held l := by
    intro u hut k hk hmem
    have hu := (D.owner_iff hc u k).2 hk
    have ht := (D.owner_iff hc t k).2 (by rw [hlocal]; exact hmem)
    exact hut (Option.some.inj (hu.symm.trans ht))
  have hfree : ∀ {k : Mutex}, k ≠ m → Function.update c.shared.owner m none k = none →
      c.shared.owner k = none := by
    intro k hkm hk
    rwa [Function.update_of_ne hkm] at hk
  generalize hplace : a.locals t = p at hown
  cases hown with
  | @growing _ op hl hfinishes =>
      obtain ⟨hnext, hgiven, hleft⟩ := (Abreast.growing hl hfinishes).happen D haction
      refine ⟨a.move t ⟨(run op a.shared.state).2, a.shared.history⟩
        (.done (run op a.shared.state).1), ?_, ?_⟩
      · refine ha.step ?_ trivial
        rw [hplace]
        exact .happen
      · refine h.move D h.history (fun k hk => ?_) hnext fun u hut k hk =>
          ⟨rfl, hleft k (hothers u hut k hk)⟩
        by_cases hkm : k = m
        · rw [hkm]
          exact hgiven.symm
        · have hk := hfree hkm hk
          have hout : k ∉ D.held l := by
            intro hmem
            have howner := (D.owner_iff hc t k).2 (by rw [hlocal]; exact hmem)
            cases hk.symm.trans howner
          exact (h.free k hk).trans (hleft k hout).symm
  | shrinking hl hfinishes =>
      obtain ⟨hnext, hgiven⟩ := (Abreast.shrinking hl hfinishes).release D haction
      refine ⟨a, ha, h.stay D h.history (fun k hk => ?_) (hplace ▸ hnext) fun _ _ _ _ => rfl⟩
      by_cases hkm : k = m
      · rw [hkm]
        exact hgiven.symm
      · exact h.free k (hfree hkm hk)

/-- What a thread does in a step, the object whose operations happen at one moment can follow. -/
theorem SideBySide.step (h : D.SideBySide run c a)
    (hrun : ∀ op x, C.Finishes (C.entry op) x (run op x).1 (run op x).2)
    (hc : C.threads.Reach (C.Start init) anyStep c)
    (ha : (atomicCalls run).Reach (AtomicStart init) anyStep a)
    {s : Guarded Tid Part Op Result} {l : Option Pc}
    (hstep : CodeStep C t c.shared (c.locals t) s l) :
    ∃ a', (atomicCalls run).Reach (AtomicStart init) anyStep a' ∧
      D.SideBySide run (c.move t s l) a' := by
  have hreach : ∀ {o p}, AtomicStep run t a.shared (a.locals t) o p →
      (atomicCalls run).Reach (AtomicStart init) anyStep (a.move t o p) :=
    fun hnext => ha.step hnext trivial
  have hown := h.abreast t
  generalize hlocal : c.locals t = l₀ at hstep hown
  cases hstep with
  | call op =>
      have hplace : a.locals t = .outside := by
        generalize a.locals t = p at hown
        cases hown
        rfl
      refine ⟨a.move t ⟨a.shared.state, a.shared.history ++ [.call t op]⟩ (.called op),
        hreach (by rw [hplace]; exact .call op), h.move D ?_ h.free ?_ fun _ _ _ _ => ⟨rfl, rfl⟩⟩
      · exact congrArg (· ++ [Event.call t op]) h.history
      · refine .growing (D.entry op).1 fun x' y' _ hout => ?_
        have hsame : x' = y' := funext fun m => hout m ((D.entry op).2 m)
        rw [hsame]
        exact hrun op y'
  | acquire haction hfree => exact ⟨a, ha, h.acquire D hlocal haction hfree⟩
  | work haction => exact ⟨a, ha, h.work D hc hlocal haction⟩
  | release haction => exact h.release D hc ha hlocal haction
  | @ret _ r haction =>
      have hplace := hown.ret D haction
      refine ⟨a.move t ⟨a.shared.state, a.shared.history ++ [.ret t r]⟩ .outside,
        hreach (by rw [hplace]; exact .ret), h.move D ?_ h.free .outside fun _ _ _ _ => ⟨rfl, rfl⟩⟩
      exact congrArg (· ++ [Event.ret t r]) h.history

end SideBySide

include D in
/-- Operations that lock in two phases look as if each happened at one moment: whatever the
threads do, the same calls and returns come in the same order where the operations happen at one
moment each, and every part that nobody holds is as it is there. -/
theorem atomic (hrun : ∀ op x, C.Finishes (C.entry op) x (run op x).1 (run op x).2)
    {c : Config (Guarded Tid Part Op Result) fun _ : Tid => Option Pc}
    (h : C.threads.Reach (C.Start init) anyStep c) :
    ∃ a, (atomicCalls run).Reach (AtomicStart init) anyStep a ∧
      c.shared.history = a.shared.history ∧
      ∀ m, c.shared.owner m = none → c.shared.state m = a.shared.state m := by
  obtain ⟨a, ha, hside⟩ : ∃ a, (atomicCalls run).Reach (AtomicStart init) anyStep a ∧
      D.SideBySide run c a := h.simulation
    (fun c hc => ⟨⟨⟨c.shared.state, []⟩, fun _ => .outside⟩, ⟨hc.state, rfl, fun _ => rfl⟩,
      hc.history, fun _ _ => rfl, fun t => by rw [hc.locals t]; exact .outside⟩)
    fun c t s l a hc ha hside hstep _ => hside.step D hrun hc ha hstep
  exact ⟨a, ha, hside.history, hside.free⟩

include D in
/-- What every operation keeps holds of the parts whenever no mutex is held. -/
theorem invariant (hrun : ∀ op x, C.Finishes (C.entry op) x (run op x).1 (run op x).2)
    {P : (∀ m, Part m) → Prop} (hinit : ∀ x, init x → P x) (hkeeps : ∀ op x, P x → P (run op x).2)
    {c : Config (Guarded Tid Part Op Result) fun _ : Tid => Option Pc}
    (h : C.threads.Reach (C.Start init) anyStep c) (hfree : ∀ m, c.shared.owner m = none) :
    P c.shared.state := by
  obtain ⟨a, ha, _, hstate⟩ := D.atomic run hrun h
  have hsame : c.shared.state = a.shared.state := funext fun m => hstate m (hfree m)
  rw [hsame]
  exact atomicCalls_invariant hinit hkeeps ha

/-! ## Calls that nobody disturbs -/

/-- The owners when thread `t` at place `l` is the only one that holds anything. -/
def owners (t : Tid) (l : Pc) (m : Mutex) : Option Tid :=
  if m ∈ D.held l then some t else none

omit [DecidableEq Tid] in
theorem finishes_run (t : Tid) {l : Pc} {x y : ∀ m, Part m} {r : Result}
    (h : C.Finishes l x r y) (history : List (Event Tid Op Result)) :
    ThreadRun (CodeStep C t) (fun _ _ => True) ⟨D.owners t l, x, history⟩ (some l)
      ⟨fun _ => none, y, history ++ [.ret t r]⟩ none := by
  induction h with
  | @acquire l m next x r y haction _ ih =>
      obtain ⟨_, _, hnew, hheld⟩ := D.acquire haction
      have howners : Function.update (D.owners t l) m (some t) = D.owners t next := by
        funext k
        by_cases hkm : k = m
        · subst hkm
          simp [owners, hheld]
        · simp [owners, hheld, hkm]
      have hstep := CodeStep.acquire (t := t) (s := ⟨D.owners t l, x, history⟩) haction
        (if_neg hnew)
      rw [howners] at hstep
      exact .head hstep trivial ih
  | @work l m f x r y haction _ ih =>
      have howners : D.owners t l = D.owners t (f (x m)).1 := by
        funext k
        simp [owners, ((D.work haction).2 (x m)).2]
      rw [howners]
      exact .head (CodeStep.work (t := t) (s := ⟨_, x, history⟩) haction) trivial ih
  | @release l m next x r y haction _ ih =>
      obtain ⟨_, _, hheld⟩ := D.release haction
      have howners : Function.update (D.owners t l) m none = D.owners t next := by
        funext k
        by_cases hkm : k = m
        · subst hkm
          simp [owners, hheld]
        · simp [owners, hheld, hkm]
      have hstep := CodeStep.release (t := t) (s := ⟨D.owners t l, x, history⟩) haction
      rw [howners] at hstep
      exact .head hstep trivial ih
  | @ret l r x haction =>
      have howners : D.owners t l = fun _ => none :=
        funext fun m => if_neg ((D.ret haction).2 m)
      rw [howners]
      exact .head (CodeStep.ret haction) trivial (.refl _ _)

include D in
/-- A call that finds every mutex free and is not disturbed runs to its end, and does what the
operation does. -/
theorem call_run (hrun : ∀ op x, C.Finishes (C.entry op) x (run op x).1 (run op x).2)
    {c : Config (Guarded Tid Part Op Result) fun _ : Tid => Option Pc}
    (h : C.threads.Reach (C.Start init) anyStep c) (hfree : c.shared.owner = fun _ => none)
    {t : Tid} (ht : c.locals t = none) (op : Op) :
    C.threads.Reach (C.Start init) anyStep
      (c.move t ⟨fun _ => none, (run op c.shared.state).2,
        c.shared.history ++ [.call t op] ++ [.ret t (run op c.shared.state).1]⟩ none) := by
  have howners : D.owners t (C.entry op) = c.shared.owner := by
    rw [hfree]
    exact funext fun m => if_neg ((D.entry op).2 m)
  have hcall := D.finishes_run t (hrun op c.shared.state) (c.shared.history ++ [.call t op])
  rw [howners] at hcall
  have hwhole : ThreadRun (C.threads.Step t) (fun _ _ => True) c.shared (c.locals t)
      ⟨fun _ => none, (run op c.shared.state).2,
        c.shared.history ++ [.call t op] ++ [.ret t (run op c.shared.state).1]⟩ none := by
    rw [ht]
    exact .head (.call op) trivial hcall
  exact h.thread (fun _ _ _ _ => trivial) hwhole

/-! ## Progress -/

/-- All code takes the mutexes in the order of their ranks, so that a thread that waits for a
mutex waits in the end for one that does not wait. -/
theorem progress (rank : Mutex → Nat) (bound : Nat) (hbound : ∀ m, rank m < bound)
    (hrank : ∀ {l m next}, C.action l = .acquire m next → ∀ k ∈ D.held l, rank k < rank m)
    {c : Config (Guarded Tid Part Op Result) fun _ : Tid => Option Pc}
    (h : C.threads.Reach (C.Start init) anyStep c) {t : Tid} (ht : c.locals t ≠ none) :
    ∃ u s l, c.locals u ≠ none ∧ C.threads.Step u c.shared (c.locals u) s l := by
  -- a thread that cannot move wants a mutex that another one holds
  have hblocked : ∀ u l, c.locals u = some l →
      (∃ s l', C.threads.Step u c.shared (c.locals u) s l') ∨
        ∃ m next v, C.action l = .acquire m next ∧ c.shared.owner m = some v := by
    intro u l hu
    rw [hu]
    cases haction : C.action l with
    | work m f => exact .inl ⟨_, _, .work haction⟩
    | release m next => exact .inl ⟨_, _, .release haction⟩
    | ret r => exact .inl ⟨_, _, .ret haction⟩
    | acquire m next =>
        cases howner : c.shared.owner m with
        | none => exact .inl ⟨_, _, .acquire haction howner⟩
        | some v => exact .inr ⟨m, next, v, rfl, howner⟩
  -- the induction is on how many ranks are left above the mutex that is waited for
  have hchain : ∀ n m v, c.shared.owner m = some v → bound ≤ n + rank m →
      ∃ u s l, c.locals u ≠ none ∧ C.threads.Step u c.shared (c.locals u) s l := by
    intro n
    induction n with
    | zero =>
        intro m v _ hn
        have hm := hbound m
        omega
    | succ n ih =>
        intro m v howner hn
        have hheld := (D.owner_iff h v m).1 howner
        cases hv : c.locals v with
        | none =>
            rw [hv] at hheld
            exact absurd hheld List.not_mem_nil
        | some l =>
            rw [hv] at hheld
            rcases hblocked v l hv with ⟨s, l', hstep⟩ | ⟨m', next, w, haction, howner'⟩
            · exact ⟨v, s, l', by simp [hv], hstep⟩
            · have hlt := hrank haction m hheld
              exact ih m' w howner' (by omega)
  obtain ⟨l, hl⟩ := Option.ne_none_iff_exists'.1 ht
  rcases hblocked t l hl with ⟨s, l', hstep⟩ | ⟨m, next, v, _, howner⟩
  · exact ⟨t, s, l', ht, hstep⟩
  · exact hchain bound m v howner (Nat.le_add_right ..)

end Code.TwoPhase

end Concurrent
