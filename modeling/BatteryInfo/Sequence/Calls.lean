import Mathlib.Data.List.Infix

/-!
# Sequences of calls

A component whose operations one caller runs one after the other: `step` is what a call does
to the state. `EveryCall step P s calls` says that `P` holds of the state before each call of
the sequence and of the call. What a component guarantees after every call, and when it does,
follows from one call by the two rules below.

A component that logs what it does: `AtEveryPoint Q log` says that `Q` held of the log at every
point of it.
-/

namespace Sequence

variable {σ τ ι : Type} {step : σ → ι → σ} {next : τ → ι → τ}

/-- `P` holds at each call of the sequence `calls` that starts in the state `s`. -/
def EveryCall (step : σ → ι → σ) (P : σ → ι → Prop) : σ → List ι → Prop
  | _, [] => True
  | s, i :: rest => P s i ∧ EveryCall step P (step s i) rest

@[simp] theorem everyCall_nil {P : σ → ι → Prop} {s : σ} : EveryCall step P s [] := trivial

@[simp] theorem everyCall_cons {P : σ → ι → Prop} {s : σ} {i : ι} {rest : List ι} :
    EveryCall step P s (i :: rest) ↔ P s i ∧ EveryCall step P (step s i) rest :=
  .rfl

/-- Two machines run the same calls from related states. If a call meets `P` in one exactly
when it meets `C` in the other, and such a call keeps the states related, then every call of
a sequence meets `P` in the one exactly when every call meets `C` in the other. -/
theorem EveryCall.iff_of_related {P : σ → ι → Prop} {C : τ → ι → Prop} {R : σ → τ → Prop}
    (hmeets : ∀ s t i, R s t → (P s i ↔ C t i))
    (hkeeps : ∀ s t i, R s t → C t i → R (step s i) (next t i)) {s : σ} {t : τ} (h : R s t)
    (calls : List ι) : EveryCall step P s calls ↔ EveryCall next C t calls := by
  induction calls generalizing s t with
  | nil => simp
  | cons i rest ih =>
      rw [everyCall_cons, everyCall_cons, hmeets s t i h]
      -- the first call meets its condition, so the states after it are related again
      exact and_congr_right fun hcall => ih (hkeeps s t i h hcall)

/-- The same for one machine with an invariant. -/
theorem EveryCall.iff_of_invariant {P C : σ → ι → Prop} {I : σ → Prop}
    (hmeets : ∀ s i, I s → (P s i ↔ C s i)) (hkeeps : ∀ s i, I s → C s i → I (step s i))
    {s : σ} (h : I s) (calls : List ι) :
    EveryCall step P s calls ↔ EveryCall step C s calls :=
  EveryCall.iff_of_related (R := fun s t => s = t ∧ I s)
    (fun s _ i hR => hR.1 ▸ hmeets s i hR.2)
    (fun s _ i hR hC => ⟨by rw [hR.1], hkeeps s i hR.2 (hR.1 ▸ hC)⟩) ⟨rfl, h⟩ calls

/-- The same for calls that all meet a further condition `H` in the first machine. -/
theorem EveryCall.iff_of_related_of {P H : σ → ι → Prop} {C : τ → ι → Prop} {R : σ → τ → Prop}
    (hmeets : ∀ s t i, R s t → H s i → (P s i ↔ C t i))
    (hkeeps : ∀ s t i, R s t → H s i → C t i → R (step s i) (next t i)) {s : σ} {t : τ}
    (h : R s t) {calls : List ι} (hall : EveryCall step H s calls) :
    EveryCall step P s calls ↔ EveryCall next C t calls := by
  induction calls generalizing s t with
  | nil => simp
  | cons i rest ih =>
      obtain ⟨hfirst, hrest⟩ := hall
      rw [everyCall_cons, everyCall_cons, hmeets s t i h hfirst]
      exact and_congr_right fun hcall => ih (hkeeps s t i h hfirst hcall) hrest

/-- If what a call meets does not depend on the state, every call of a sequence meets it exactly
when each call does on its own. -/
theorem EveryCall.iff_forall_mem {P : σ → ι → Prop} {C : ι → Prop}
    (hmeets : ∀ s i, P s i ↔ C i) (s : σ) (calls : List ι) :
    EveryCall step P s calls ↔ ∀ i ∈ calls, C i := by
  induction calls generalizing s with
  | nil => simp
  | cons i rest ih => rw [everyCall_cons, hmeets, ih, List.forall_mem_cons]

/-- What is so at the start and is kept by each call, given the calls before it, is so after all
calls. -/
theorem foldl_history {I : List ι → σ → Prop} {s : σ} (hstart : I [] s)
    (hkeeps : ∀ past s i, I past s → I (past ++ [i]) (step s i)) (calls : List ι) :
    I calls (calls.foldl step s) := by
  have hgo : ∀ past s, I past s → I (past ++ calls) (calls.foldl step s) := by
    induction calls with
    | nil => simp
    | cons i rest ih =>
        intro past s h
        have hrest := ih (past ++ [i]) (step s i) (hkeeps past s i h)
        rwa [List.append_assoc] at hrest
  exact hgo [] s hstart

variable {α : Type} {Q : List α → Prop}

/-- `Q` holds of what a log contains at each point of it. -/
def AtEveryPoint (Q : List α → Prop) (log : List α) : Prop :=
  ∀ before, before <+: log → Q before

theorem atEveryPoint_nil : AtEveryPoint Q [] ↔ Q [] := by
  refine ⟨fun h => h [] List.nil_prefix, fun h before hbefore => ?_⟩
  rw [List.prefix_nil.1 hbefore]
  exact h

theorem atEveryPoint_concat {log : List α} {a : α} :
    AtEveryPoint Q (log ++ [a]) ↔ AtEveryPoint Q log ∧ Q (log ++ [a]) := by
  constructor
  · intro h
    exact ⟨fun before hbefore => h before (hbefore.trans (List.prefix_append log [a])),
      h _ List.prefix_rfl⟩
  · rintro ⟨hlog, hlast⟩ before hbefore
    rcases List.prefix_concat_iff.1 hbefore with rfl | hbefore
    · exact hlast
    · exact hlog before hbefore

theorem atEveryPoint_cons {log : List α} {a : α} :
    AtEveryPoint Q (a :: log) ↔ Q [] ∧ AtEveryPoint (fun before => Q (a :: before)) log := by
  constructor
  · intro h
    exact ⟨h [] List.nil_prefix, fun before hbefore =>
      h _ (List.cons_prefix_cons.2 ⟨rfl, hbefore⟩)⟩
  · rintro ⟨hnil, hlog⟩ before hbefore
    rcases List.prefix_cons_iff.1 hbefore with rfl | ⟨rest, rfl, hrest⟩
    · exact hnil
    · exact hlog rest hrest

/-- What holds of the state after each call holds of what the calls up to any point make of the
first state. -/
theorem everyCall_iff_atEveryPoint {Q : σ → Prop} {s : σ} (h : Q s) (calls : List ι) :
    EveryCall step (fun s i => Q (step s i)) s calls ↔
      AtEveryPoint (fun before => Q (before.foldl step s)) calls := by
  induction calls generalizing s with
  | nil => simpa [atEveryPoint_nil] using h
  | cons i rest ih =>
      rw [everyCall_cons, atEveryPoint_cons]
      constructor
      · rintro ⟨hcall, hrest⟩
        exact ⟨h, (ih hcall).1 hrest⟩
      · rintro ⟨_, hrest⟩
        have hcall := hrest [] List.nil_prefix
        exact ⟨hcall, (ih hcall).2 hrest⟩

end Sequence
