import BatteryInfo.Audio.Threads

/-!
# What the calls of `Audio_PlayTrack` contribute

The messages that a caller has got into the queue are those of its calls that returned
`ERROR_NONE` (`Accounted`). A call that returned an error contributed nothing.
-/

namespace BatteryInfo.Audio

open Concurrent

/-- What the current call has put in the queue: the ID, and the session it is for. -/
def CallerPc.stored : CallerPc → Option (AudioTrackID × Option Nat)
  | .send id seen .signal | .send id seen (.unlock .errorNone) | .send id seen (.ret .errorNone) =>
      some (id, some seen)
  | _ => none

/-- A call that is to return an error has stored nothing. -/
theorem CallerPc.stored_error {id : AudioTrackID} {seen : Nat} {e : ErrorCode}
    (he : e ≠ .errorNone) :
    (CallerPc.send id seen (.unlock e)).stored = none ∧
      (CallerPc.send id seen (.ret e)).stored = none := by
  cases e with
  | errorNone => exact absurd rfl he
  | _ => exact ⟨rfl, rfl⟩

/-- Of the accepted messages, those of caller `i` are those of its calls that returned
`ERROR_NONE`, in this order, and that of its current call once it is stored. Each entered the
queue in the session in which its call read `Running`. -/
def Accounted (i : Nat) (l : Caller) (sh : Shared) : Prop :=
  (sh.hist.accepted.filter (·.caller = i)).map (fun r => (r.trackID, some r.session)) =
    (l.results.filter (·.code = .errorNone)).map (fun r => (r.trackID, r.seen)) ++
      l.pc.stored.toList

/-- `SendMessage` accepts a message at one place only. -/
theorem SendStep.accepted {t : Tid} {msg : Message} {request : Option Request}
    {sh sh' : Shared} {pc pc' : SendPc} (hstep : SendStep t msg request sh pc sh' pc') :
    sh'.hist.accepted = sh.hist.accepted ∨
      sh'.hist.accepted = sh.hist.accepted ++ request.toList := by
  cases hstep with
  | store _ => exact .inr rfl
  | _ => exact .inl rfl

/-- No step of another thread contributes to caller `i`. -/
theorem accepted_other {t : Tid} {l l' : Local t} {sh sh' : Shared}
    (hstep : service.Step t sh l sh' l') {i : Nat} (hi : .caller i ≠ t) :
    sh'.hist.accepted.filter (·.caller = i) = sh.hist.accepted.filter (·.caller = i) := by
  cases t with
  | control =>
      cases hstep with
      | init hstep => cases hstep <;> rfl
      | start hstep => cases hstep <;> rfl
      | «end» hstep =>
          cases hstep with
          | send hsend => rcases hsend.accepted with h | h <;> simp [h]
          | _ => rfl
  | caller j =>
      have hji : j ≠ i := fun h => hi (by rw [h])
      cases hstep with
      | send hsend => rcases hsend.accepted with h | h <;> simp [h, hji]
      | _ => rfl
  | task g => cases hstep <;> rfl
  | player g => cases hstep <;> rfl

/-- A step of caller `i` keeps its account, provided it stores in the session it has seen. -/
theorem accounted_step {i : Nat} {l l' : Caller} {sh sh' : Shared} (h : Accounted i l sh)
    (hseen : ∀ id seen, l.pc = .send id seen .body → sh.hist.session = seen)
    (hstep : CallerStep i sh l sh' l') : Accounted i l' sh' := by
  unfold Accounted at h ⊢
  cases hstep with
  | call id => exact h
  | running _ => exact h
  | stopped _ => simpa [CallerPc.stored] using h
  | ret =>
      rename_i rs id seen e
      by_cases he : e = .errorNone
      · subst he
        simpa [CallerPc.stored] using h
      · rw [(CallerPc.stored_error he).2] at h
        simpa [he, CallerPc.stored] using h
  | send hsend =>
      cases hsend with
      | store _ =>
          simp only [CallerPc.stored, Option.toList_none, List.append_nil] at h
          simp [History.store, h, CallerPc.stored, hseen _ _ rfl]
      | refuse _ he =>
          rw [(CallerPc.stored_error he).1]
          exact h
      | @unlock e => cases e <;> exact h
      | lock _ => exact h
      | lockError _ => exact h
      | wake _ => exact h
      | wakeNone _ => exact h

/-- The account is right in every run from where it is right, if every message is stored in the
session that its call has seen. -/
theorem calls_accounted {start : Service → Prop} {allowed : StepCondition Shared Local}
    (hstart : ∀ c, start c → ∀ i, Accounted i (c.locals (.caller i)) c.shared)
    (hseen : ∀ c, service.Reach start allowed c → ∀ i id seen,
      (c.locals (.caller i)).pc = .send id seen .body → c.shared.hist.session = seen)
    {c : Service} (h : service.Reach start allowed c) (i : Nat) :
    Accounted i (c.locals (.caller i)) c.shared := by
  refine h.invariant (P := fun c => ∀ i, Accounted i (c.locals (.caller i)) c.shared) hstart ?_ i
  intro c t sh l hreach hall hstep _ i
  by_cases hi : Tid.caller i = t
  · subst hi
    rw [Config.move_locals_self]
    exact accounted_step (hall i) (hseen c hreach i) hstep
  · rw [Config.move_locals_of_ne c sh l hi]
    show List.map _ (sh.hist.accepted.filter (·.caller = i)) = _
    rw [accepted_other hstep hi]
    exact hall i

end BatteryInfo.Audio
