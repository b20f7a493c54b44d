import Mathlib.Data.List.Basic
import Mathlib.Data.List.Pairwise
import Mathlib.Logic.Function.Basic

/-!
# Forests of objects

Objects that are created on other objects and deleted with all that is on them, under handles that
are not used again. An object does not move, so that it can keep the whole way from itself to its
root; what a deletion takes away is then said by one condition on this way. From a log of what was
done one sees which objects are left (`Records`).
-/

namespace Objects

/-- An object: those that it is on, the nearest first, and its data. -/
structure Node (α : Type) where
  above : List Nat
  data : α

/-- The objects that are there. -/
structure Forest (α : Type) where
  node : Nat → Option (Node α)
  next : Nat
  /-- A handle to come is not in use. -/
  fresh : ∀ o, next ≤ o → node o = none
  /-- An object is a root, or on an object that is there. -/
  placed : ∀ o n, node o = some n →
    n.above = [] ∨ ∃ p m, node p = some m ∧ n.above = p :: m.above

namespace Forest

variable {α : Type} {f : Forest α} {o p x : Nat} {n m : Node α}

/-- No object was created yet. -/
def empty : Forest α where
  node := fun _ => none
  next := 0
  fresh := fun _ _ => rfl
  placed := nofun

theorem lt_next (ho : f.node o = some n) : o < f.next := by
  by_contra hge
  rw [f.fresh o (Nat.le_of_not_lt hge)] at ho
  cases ho

theorem ne_next (ho : f.node o = some n) : o ≠ f.next :=
  Nat.ne_of_lt (lt_next ho)

/-! ## Creation -/

/-- An object is created as a root. -/
def addRoot (data : α) (f : Forest α) : Forest α where
  node := Function.update f.node f.next (some ⟨[], data⟩)
  next := f.next + 1
  fresh := by
    intro o ho
    rw [Function.update_of_ne (Nat.ne_of_gt ho)]
    exact f.fresh o (Nat.le_of_succ_le ho)
  placed := by
    intro o n ho
    by_cases hnew : o = f.next
    · subst hnew
      rw [Function.update_self] at ho
      cases ho
      exact .inl rfl
    · rw [Function.update_of_ne hnew] at ho
      rcases f.placed o n ho with hroot | ⟨p, m, hp, hway⟩
      · exact .inl hroot
      · exact .inr ⟨p, m, by rwa [Function.update_of_ne (ne_next hp)], hway⟩

/-- An object is created on the object `p`. -/
def addOn (p : Nat) (m : Node α) (hp : f.node p = some m) (data : α) : Forest α where
  node := Function.update f.node f.next (some ⟨p :: m.above, data⟩)
  next := f.next + 1
  fresh := by
    intro o ho
    rw [Function.update_of_ne (Nat.ne_of_gt ho)]
    exact f.fresh o (Nat.le_of_succ_le ho)
  placed := by
    intro o n ho
    by_cases hnew : o = f.next
    · subst hnew
      rw [Function.update_self] at ho
      cases ho
      exact .inr ⟨p, m, by rwa [Function.update_of_ne (ne_next hp)], rfl⟩
    · rw [Function.update_of_ne hnew] at ho
      rcases f.placed o n ho with hroot | ⟨q, k, hq, hway⟩
      · exact .inl hroot
      · exact .inr ⟨q, k, by rwa [Function.update_of_ne (ne_next hq)], hway⟩

@[simp] theorem node_addRoot_self (data : α) : (f.addRoot data).node f.next = some ⟨[], data⟩ :=
  Function.update_self ..

theorem node_addRoot_of_ne (data : α) (hne : o ≠ f.next) : (f.addRoot data).node o = f.node o :=
  Function.update_of_ne hne ..

@[simp] theorem node_addOn_self (hp : f.node p = some m) (data : α) :
    (f.addOn p m hp data).node f.next = some ⟨p :: m.above, data⟩ :=
  Function.update_self ..

theorem node_addOn_of_ne (hp : f.node p = some m) (data : α) (hne : o ≠ f.next) :
    (f.addOn p m hp data).node o = f.node o :=
  Function.update_of_ne hne ..

/-! ## Changes -/

/-- The data of an object are changed. -/
def modify (o : Nat) (change : α → α) (f : Forest α) : Forest α where
  node := Function.update f.node o ((f.node o).map fun n => { n with data := change n.data })
  next := f.next
  fresh := by
    intro p hp
    by_cases hpo : p = o
    · subst hpo
      rw [Function.update_self, f.fresh p hp]
      rfl
    · rw [Function.update_of_ne hpo]
      exact f.fresh p hp
  placed := by
    have hkept {p : Nat} {m : Node α} (hp : f.node p = some m) :
        ∃ m', Function.update f.node o
          ((f.node o).map fun n => { n with data := change n.data }) p = some m' ∧
            m'.above = m.above := by
      by_cases hpo : p = o
      · subst hpo
        rw [Function.update_self, hp]
        exact ⟨_, rfl, rfl⟩
      · rw [Function.update_of_ne hpo]
        exact ⟨m, hp, rfl⟩
    intro p n hp
    have hbefore : ∃ n', f.node p = some n' ∧ n'.above = n.above := by
      by_cases hpo : p = o
      · subst hpo
        rw [Function.update_self] at hp
        obtain ⟨n', hn', rfl⟩ := Option.map_eq_some_iff.1 hp
        exact ⟨n', hn', rfl⟩
      · rw [Function.update_of_ne hpo] at hp
        exact ⟨n, hp, rfl⟩
    obtain ⟨n', hn', habove⟩ := hbefore
    rcases f.placed p n' hn' with hroot | ⟨q, m, hq, hway⟩
    · exact .inl (habove ▸ hroot)
    · obtain ⟨m', hm', hsame⟩ := hkept hq
      exact .inr ⟨q, m', hm', by rw [← habove, hway, hsame]⟩

theorem node_modify_self (change : α → α) :
    (f.modify o change).node o = (f.node o).map fun n => { n with data := change n.data } :=
  Function.update_self ..

theorem node_modify_of_ne (change : α → α) (hne : p ≠ o) :
    (f.modify o change).node p = f.node p :=
  Function.update_of_ne hne ..

/-! ## Deletion -/

/-- The objects that `keep` keeps, where that is so of the object below each. -/
def filter (keep : Nat → List Nat → Bool)
    (hdown : ∀ o p above, keep o (p :: above) → keep p above) (f : Forest α) : Forest α where
  node := fun o => (f.node o).filter fun n => keep o n.above
  next := f.next
  fresh := by
    intro o ho
    rw [f.fresh o ho]
    rfl
  placed := by
    intro o n ho
    obtain ⟨ho, hkeep⟩ := Option.filter_eq_some_iff.1 ho
    rcases f.placed o n ho with hroot | ⟨p, m, hp, hway⟩
    · exact .inl hroot
    · rw [hway] at hkeep
      exact .inr ⟨p, m, Option.filter_eq_some_iff.2 ⟨hp, hdown o p m.above hkeep⟩, hway⟩

theorem node_filter {keep : Nat → List Nat → Bool}
    {hdown : ∀ o p above, keep o (p :: above) → keep p above} :
    (f.filter keep hdown).node o = some n ↔ f.node o = some n ∧ keep o n.above :=
  Option.filter_eq_some_iff

/-- An object is kept unless it is `x` or on it. -/
def spared (x o : Nat) (above : List Nat) : Bool :=
  o ≠ x ∧ x ∉ above

/-- An object is kept unless it is on `x`. -/
def notOn (x _o : Nat) (above : List Nat) : Bool :=
  x ∉ above

theorem spared_down (x o p : Nat) (above : List Nat) (h : spared x o (p :: above)) :
    spared x p above := by
  simp only [spared, List.mem_cons, not_or, decide_eq_true_eq] at h ⊢
  exact ⟨Ne.symm h.2.1, h.2.2⟩

theorem notOn_down (x o p : Nat) (above : List Nat) (h : notOn x o (p :: above)) :
    notOn x p above := by
  simp only [notOn, List.mem_cons, not_or, decide_eq_true_eq] at h ⊢
  exact h.2

/-- An object is deleted with all that is on it. -/
def delete (x : Nat) (f : Forest α) : Forest α :=
  f.filter (spared x) (spared_down x)

/-- All that is on an object is deleted. -/
def clean (x : Nat) (f : Forest α) : Forest α :=
  f.filter (notOn x) (notOn_down x)

theorem node_delete : (f.delete x).node o = some n ↔
    f.node o = some n ∧ o ≠ x ∧ x ∉ n.above := by
  unfold delete
  rw [node_filter]
  simp [spared]

theorem node_clean : (f.clean x).node o = some n ↔ f.node o = some n ∧ x ∉ n.above := by
  unfold clean
  rw [node_filter]
  simp [notOn]

end Forest

/-! ## Lifetimes -/

/-- What was done to a forest. -/
inductive Change where
  | created (o : Nat) (above : List Nat)
  | deleted (x : Nat)
  | cleaned (x : Nat)
deriving DecidableEq

/-- A change that takes an object away, given those that it is on. -/
def Change.Ends : Change → Nat → List Nat → Prop
  | created _ _, _, _ => False
  | deleted x, o, above => o = x ∨ x ∈ above
  | cleaned x, _, above => x ∈ above

/-- The changes do not create the same object. -/
def Change.Apart (c c' : Change) : Prop :=
  ∀ o above above', c = created o above → c' ≠ created o above'

instance : Std.Symm Change.Apart where
  symm _ _ h o above above' h' heq := h o above' above heq h'

/-- What the changes so far leave: an object that was created and that no change after that took
away. -/
def Left (log : List Change) (o : Nat) (above : List Nat) : Prop :=
  ∃ before after, log = before ++ .created o above :: after ∧ ∀ c ∈ after, ¬ c.Ends o above

section Left

variable {log : List Change} {o : Nat} {above : List Nat}

theorem Left.mem (h : Left log o above) : .created o above ∈ log := by
  obtain ⟨before, after, rfl, _⟩ := h
  simp

/-- One more change. -/
theorem left_concat {c : Change} : Left (log ++ [c]) o above ↔
    c = .created o above ∨ Left log o above ∧ ¬ c.Ends o above := by
  constructor
  · rintro ⟨before, after, heq, hspared⟩
    rcases List.eq_nil_or_concat after with rfl | ⟨rest, d, rfl⟩
    · obtain ⟨_, hlast⟩ := List.append_inj' heq rfl
      exact .inl (List.singleton_inj.1 hlast)
    · rw [List.concat_eq_append, ← List.cons_append, ← List.append_assoc] at heq
      obtain ⟨hlog, hlast⟩ := List.append_inj' heq rfl
      obtain rfl := List.singleton_inj.1 hlast
      rw [List.concat_eq_append] at hspared
      refine .inr ⟨⟨before, rest, hlog, fun d hd => hspared d ?_⟩, hspared c ?_⟩
      · exact List.mem_append_left _ hd
      · exact List.mem_append_right _ List.mem_cons_self
  · rintro (rfl | ⟨⟨before, after, rfl, hspared⟩, hends⟩)
    · exact ⟨log, [], rfl, by simp⟩
    · refine ⟨before, after ++ [c], by simp, fun d hd => ?_⟩
      rcases List.mem_append.1 hd with hd | hd
      · exact hspared d hd
      · rw [List.mem_singleton.1 hd]
        exact hends

end Left

/-- The log says which objects are there. -/
structure Records {α : Type} (log : List Change) (f : Forest α) : Prop where
  there : ∀ o above, (∃ data, f.node o = some ⟨above, data⟩) ↔ Left log o above
  /-- The objects of the log are not to come. -/
  past : ∀ o above, .created o above ∈ log → o < f.next
  /-- An object was created once. -/
  once : log.Pairwise Change.Apart

namespace Records

variable {α : Type} {f : Forest α} {log : List Change}

theorem empty : Records [] (Forest.empty : Forest α) where
  there o above := by
    constructor
    · rintro ⟨data, hnode⟩
      cases hnode
    · rintro ⟨before, after, heq, _⟩
      simp at heq
  past := nofun
  once := .nil

theorem above_eq (h : Records log f) {o : Nat} {above above' : List Nat}
    (hmem : .created o above ∈ log) (hmem' : .created o above' ∈ log) : above = above' := by
  by_contra hne
  refine h.once.forall hmem hmem' (fun heq => hne ?_) o above above' rfl rfl
  cases heq
  rfl

theorem not_left_next (h : Records log f) (above : List Nat) : ¬ Left log f.next above :=
  fun hleft => Nat.lt_irrefl _ (h.past _ _ hleft.mem)

/-- An object is created somewhere, and all others stay. -/
theorem created (h : Records log f) {f' : Forest α} {above : List Nat} {data : α}
    (hself : f'.node f.next = some ⟨above, data⟩)
    (hothers : ∀ o, o ≠ f.next → f'.node o = f.node o) (hnext : f'.next = f.next + 1) :
    Records (log ++ [.created f.next above]) f' where
  there o above' := by
    rw [left_concat]
    by_cases hnew : o = f.next
    · subst hnew
      rw [hself]
      constructor
      · rintro ⟨data', heq⟩
        cases heq
        exact .inl rfl
      · rintro (heq | ⟨hleft, _⟩)
        · cases heq
          exact ⟨data, rfl⟩
        · exact absurd hleft (h.not_left_next above')
    · rw [hothers o hnew, h.there]
      constructor
      · exact fun hleft => .inr ⟨hleft, id⟩
      · rintro (heq | ⟨hleft, _⟩)
        · cases heq
          exact absurd rfl hnew
        · exact hleft
  past o above' hmem := by
    rw [hnext]
    rcases List.mem_append.1 hmem with hmem | hmem
    · exact Nat.lt_succ_of_lt (h.past o above' hmem)
    · cases List.mem_singleton.1 hmem
      exact Nat.lt_succ_self _
  once := by
    refine List.pairwise_append.2 ⟨h.once, List.pairwise_singleton .., ?_⟩
    rintro c hc c' hc' o above₁ above₂ rfl heq
    cases (List.mem_singleton.1 hc').symm.trans heq
    exact Nat.lt_irrefl _ (h.past _ _ hc)

theorem addRoot (h : Records log f) (data : α) :
    Records (log ++ [.created f.next []]) (f.addRoot data) :=
  h.created (Forest.node_addRoot_self data) (fun _ => Forest.node_addRoot_of_ne data) rfl

theorem addOn (h : Records log f) {p : Nat} {m : Node α} (hp : f.node p = some m) (data : α) :
    Records (log ++ [.created f.next (p :: m.above)]) (f.addOn p m hp data) :=
  h.created (Forest.node_addOn_self hp data) (fun _ => Forest.node_addOn_of_ne hp data) rfl

/-- A change of data is no change here. -/
theorem modify (h : Records log f) (o : Nat) (change : α → α) :
    Records log (f.modify o change) where
  there p above := by
    rw [← h.there]
    by_cases hpo : p = o
    · subst hpo
      rw [Forest.node_modify_self]
      constructor
      · rintro ⟨data, hnode⟩
        obtain ⟨⟨_, data'⟩, hn, heq⟩ := Option.map_eq_some_iff.1 hnode
        cases heq
        exact ⟨data', hn⟩
      · rintro ⟨data, hnode⟩
        exact ⟨change data, by rw [hnode]; rfl⟩
    · rw [Forest.node_modify_of_ne change hpo]
  past := h.past
  once := h.once

/-- A change that creates nothing. -/
theorem of_not_created (h : Records log f) {c : Change} {f' : Forest α}
    (hthere : ∀ o above, (∃ data, f'.node o = some ⟨above, data⟩) ↔ Left (log ++ [c]) o above)
    (hnext : f'.next = f.next) (hc : ∀ o above, c ≠ .created o above) :
    Records (log ++ [c]) f' where
  there := hthere
  past o above hmem := by
    rw [hnext]
    rcases List.mem_append.1 hmem with hmem | hmem
    · exact h.past o above hmem
    · exact absurd (List.mem_singleton.1 hmem).symm (hc o above)
  once := by
    refine List.pairwise_append.2 ⟨h.once, List.pairwise_singleton .., ?_⟩
    intro _ _ c' hc' o _ above _ heq
    exact hc o above ((List.mem_singleton.1 hc').symm.trans heq)

theorem delete (h : Records log f) (x : Nat) : Records (log ++ [.deleted x]) (f.delete x) := by
  refine h.of_not_created (fun o above => ?_) rfl nofun
  simp only [left_concat, Forest.node_delete, exists_and_right, h.there]
  simp [Change.Ends]

theorem clean (h : Records log f) (x : Nat) : Records (log ++ [.cleaned x]) (f.clean x) := by
  refine h.of_not_created (fun o above => ?_) rfl nofun
  simp only [left_concat, Forest.node_clean, exists_and_right, h.there]
  simp [Change.Ends]

/-- Where in the log an object was created says which changes could take it away. -/
theorem left_iff (h : Records log f) {o : Nat} {above : List Nat} {before after : List Change}
    (hsplit : log = before ++ .created o above :: after) :
    Left log o above ↔ ∀ c ∈ after, ¬ c.Ends o above := by
  constructor
  · rintro ⟨before', after', hsplit', hspared⟩
    have honce := h.once
    -- with another place than this one the object would be created twice
    rcases List.append_eq_append_iff.1 (hsplit.symm.trans hsplit') with
      ⟨as, rfl, hrest⟩ | ⟨as, rfl, hrest⟩
    · cases as with
      | nil =>
          cases hrest
          exact hspared
      | cons c as =>
          obtain ⟨rfl, rfl⟩ := List.cons.inj hrest
          rw [hsplit, List.pairwise_append, List.pairwise_cons] at honce
          exact absurd rfl (honce.2.1.1 _ (by simp) o above above rfl)
    · cases as with
      | nil =>
          cases hrest
          exact hspared
      | cons c as =>
          obtain ⟨rfl, rfl⟩ := List.cons.inj hrest
          rw [hsplit', List.pairwise_append, List.pairwise_cons] at honce
          exact absurd rfl (honce.2.1.1 _ (by simp) o above above rfl)
  · exact fun hspared => ⟨before, after, hsplit, hspared⟩

/-- An object on a root that was not deleted. -/
theorem there_on_root (h : Records log f) {o r : Nat} {before after : List Change}
    (hsplit : log = before ++ .created o [r] :: after) (hroot : .deleted r ∉ log) :
    f.node o ≠ none ↔ .deleted o ∉ after ∧ .cleaned r ∉ after := by
  have hthere : f.node o ≠ none ↔ Left log o [r] := by
    rw [← h.there]
    constructor
    · intro hne
      obtain ⟨⟨above, data⟩, hnode⟩ := Option.ne_none_iff_exists'.1 hne
      have hleft := (h.there o above).1 ⟨data, hnode⟩
      have hcreated : Change.created o [r] ∈ log := by simp [hsplit]
      rw [h.above_eq hcreated hleft.mem]
      exact ⟨data, hnode⟩
    · rintro ⟨data, hnode⟩ heq
      cases heq.symm.trans hnode
  rw [hthere, h.left_iff hsplit]
  constructor
  · intro hspared
    exact ⟨fun hdel => hspared _ hdel (.inl rfl),
      fun hclean => hspared _ hclean (List.mem_singleton.2 rfl)⟩
  · rintro ⟨hdel, hclean⟩ c hc hends
    cases c with
    | created _ _ => exact hends
    | deleted x =>
        rcases hends with rfl | hon
        · exact hdel hc
        · obtain rfl := List.mem_singleton.1 hon
          exact hroot (by rw [hsplit]; simp [hc])
    | cleaned x =>
        obtain rfl := List.mem_singleton.1 hends
        exact hclean hc

end Records

end Objects
