import BatteryInfo.Sequence.Lifetimes
import BatteryInfo.Audio.MsgQueue
import BatteryInfo.Speaker.Device

/-!
# The life of the queue's mutex and condition variable

`Audio_init`, `Audio_start` and `Audio_end` as whole calls of one caller, with every outcome of
the functions they call, and the log of the calls that initialise and destroy `MsgMutex` and
`MsgCond`. Between two calls the `TaskLoop` thread may store `Ending`. What the threads do to
the queue is in `BatteryInfo.Audio.Threads`.

The balance is lost in two ways (`messaging_balanced`). An `Audio_init` that fails after
`pthread_mutex_init` leaves the mutex initialised in the state `Ended`. An `Audio_end` that
fails after it has destroyed one of the two destroys it again when it is called again.
-/

namespace BatteryInfo.Audio

open Sequence

/-- The two objects of the queue. -/
inductive SyncObject where
  | msgMutex
  | msgCond
  deriving DecidableEq, Repr

/-- `MyState`, and the calls that initialised and destroyed the two objects, the newest last. -/
structure Lifecycle where
  myState : ComponentState
  log : List (LifetimeCall SyncObject)

/-- The start of the program. -/
def Lifecycle.initial : Lifecycle where
  myState := .ended
  log := []

/-- What the functions called by `Audio_init` return. -/
structure InitOutcomes where
  mutexInit : Int
  condInit : Int
  speakerInit : Speaker.ErrorCode
  deriving DecidableEq, Repr

/-- What the functions called by `Audio_end` return. -/
structure EndOutcomes where
  speakerDeInit : Speaker.ErrorCode
  mutexDestroy : Int
  condDestroy : Int
  deriving DecidableEq, Repr

/-- The calls of `InitMessaging`, and what it returns. -/
def callInitMessaging (mutexInit condInit : Int) (s : Lifecycle) : ErrorCode × Lifecycle :=
  let s := { s with log := s.log ++ [⟨.msgMutex, .init, mutexInit = 0⟩] }
  if mutexInit ≠ 0 then (.errorMutexCreate, s)
  else
    let s := { s with log := s.log ++ [⟨.msgCond, .init, condInit = 0⟩] }
    if condInit ≠ 0 then (.errorCondCreate, s) else (.errorNone, s)

/-- It returns what `InitMessaging` returns on any queue. -/
theorem callInitMessaging_error (mutexInit condInit : Int) (s : Lifecycle) (q : MsgQueue) :
    (callInitMessaging mutexInit condInit s).1 = (q.initMessaging mutexInit condInit).1 := by
  unfold callInitMessaging MsgQueue.initMessaging
  by_cases hmutex : mutexInit = 0
  · by_cases hcond : condInit = 0 <;> simp [hmutex, hcond]
  · simp [hmutex]

/-- `Audio_init`. -/
def audioInit (o : InitOutcomes) (s : Lifecycle) : ErrorCode × Lifecycle :=
  if s.myState ≠ .ended then (.errorTaskRunning, s)
  else
    let (error, s) := callInitMessaging o.mutexInit o.condInit s
    if error ≠ .errorNone then (.errorNullMsgQueue, s)
    else if o.speakerInit ≠ .errorNone then (.errorHardwareInit, s)
    else (.errorNone, { s with myState := .inited })

/-- `Audio_start`. -/
def audioStart (threadCreate : Int) (s : Lifecycle) : ErrorCode × Lifecycle :=
  if s.myState ≠ .inited then (.errorTaskRunning, s)
  else if threadCreate ≠ 0 then (.errorTaskCreate, s)
  else (.errorNone, { s with myState := .running })

/-- The error that `Audio_end` has after its three releases: that of the last that failed. -/
def EndOutcomes.error (o : EndOutcomes) : ErrorCode :=
  let error := .errorNone
  let error := if o.speakerDeInit ≠ .errorNone ∧ o.speakerDeInit ≠ .errorState then
    .errorHardwareDeinit else error
  let error := if o.mutexDestroy ≠ 0 then .errorMutexDestroy else error
  if o.condDestroy ≠ 0 then .errorCondDestroy else error

/-- `Audio_end`. A running `TaskLoop` is told to end and has ended when the join returns. -/
def audioEnd (o : EndOutcomes) (s : Lifecycle) : ErrorCode × Lifecycle :=
  if s.myState = .ended then (.errorNone, s)
  else
    let s : Lifecycle := if s.myState = .running then { s with myState := .ending } else s
    if s.myState = .ending ∨ s.myState = .inited then
      let s : Lifecycle :=
        { s with log := s.log ++ [⟨.msgMutex, .destroy, o.mutexDestroy = 0⟩] }
      let s : Lifecycle :=
        { s with log := s.log ++ [⟨.msgCond, .destroy, o.condDestroy = 0⟩] }
      (o.error, if o.error = .errorNone then { s with myState := .ended } else s)
    else (.errorTaskRunning, s)

/-- A `TaskLoop` that has left its loop stores `Ending`. -/
def taskEnds (s : Lifecycle) : Lifecycle :=
  if s.myState = .running then { s with myState := .ending } else s

/-- What happens to the service: a call, or the end of its `TaskLoop`. -/
inductive LifecycleEvent where
  | audioInit (o : InitOutcomes)
  | audioStart (threadCreate : Int)
  | audioEnd (o : EndOutcomes)
  | taskEnds

/-- The state after an event. -/
def Lifecycle.step (s : Lifecycle) : LifecycleEvent → Lifecycle
  | .audioInit o => (Audio.audioInit o s).2
  | .audioStart threadCreate => (Audio.audioStart threadCreate s).2
  | .audioEnd o => (Audio.audioEnd o s).2
  | .taskEnds => Audio.taskEnds s

/-- After the event the log is balanced, and neither object is initialised if the service has
ended. -/
def KeepsBalance (s : Lifecycle) (event : LifecycleEvent) : Prop :=
  Balanced (s.step event).log ∧ ((s.step event).myState = .ended →
    initialised .msgMutex (s.step event).log = false ∧
    initialised .msgCond (s.step event).log = false)

/-- What the events so far amount to: the service has ended, it has both objects, or an
`Audio_end` has destroyed one of them and failed. -/
inductive Session where
  | closed
  | live
  | torn
  deriving DecidableEq, Repr

/-- All of an `Audio_init` succeeds. -/
def InitOutcomes.Succeeds (o : InitOutcomes) : Prop :=
  o.mutexInit = 0 ∧ o.condInit = 0 ∧ o.speakerInit = .errorNone

instance (o : InitOutcomes) : Decidable o.Succeeds :=
  inferInstanceAs (Decidable (_ ∧ _))

/-- One event. -/
def Session.next : Session → LifecycleEvent → Session
  | .closed, .audioInit o => if o.Succeeds then .live else .closed
  | .live, .audioEnd o =>
      if o.error = .errorNone then .closed
      else if o.mutexDestroy = 0 ∨ o.condDestroy = 0 then .torn
      else .live
  | session, _ => session

/-- An `Audio_init` of an ended service succeeds or fails at its first step, and no `Audio_end`
follows one that has destroyed an object and failed. -/
def AllOrNothing : Session → LifecycleEvent → Prop
  | .closed, .audioInit o => o.mutexInit = 0 → o.Succeeds
  | .torn, .audioEnd _ => False
  | _, _ => True

/-! ## One call -/

/-- Whether `MsgMutex` and `MsgCond` are initialised. -/
def Lifecycle.Has (s : Lifecycle) (mutex cond : Bool) : Prop :=
  initialised .msgMutex s.log = mutex ∧ initialised .msgCond s.log = cond

/-- `InitMessaging` initialises the condition variable after the mutex. -/
theorem callInitMessaging_of_closed (mutexInit condInit : Int) {s : Lifecycle}
    (hbalanced : Balanced s.log) (hhas : s.Has false false) :
    Balanced (callInitMessaging mutexInit condInit s).2.log ∧
      (callInitMessaging mutexInit condInit s).2.myState = s.myState ∧
      ((callInitMessaging mutexInit condInit s).1 = .errorNone ↔ mutexInit = 0 ∧ condInit = 0) ∧
      (callInitMessaging mutexInit condInit s).2.Has (mutexInit = 0)
        (mutexInit = 0 ∧ condInit = 0) := by
  obtain ⟨hmutex, hcond⟩ := hhas
  have hfirst : Balanced (s.log ++ [⟨.msgMutex, .init, mutexInit = 0⟩]) :=
    balanced_concat.2 ⟨hbalanced, by simp [hmutex]⟩
  unfold callInitMessaging
  by_cases hm : mutexInit = 0
  · have hsecond : Balanced (s.log ++ [⟨.msgMutex, .init, mutexInit = 0⟩] ++
        [⟨.msgCond, .init, condInit = 0⟩]) :=
      balanced_concat.2 ⟨hfirst, by simp [hcond]⟩
    rw [if_neg (not_not.2 hm)]
    by_cases hc : condInit = 0
    · rw [if_neg (not_not.2 hc)]
      exact ⟨hsecond, rfl, by simp [hm, hc], by simp [Lifecycle.Has, hm, hc, -List.append_assoc]⟩
    · rw [if_pos hc]
      exact ⟨hsecond, rfl, by simp [hc],
        by simp [Lifecycle.Has, hm, hc, hcond, -List.append_assoc]⟩
  · rw [if_pos hm]
    exact ⟨hfirst, rfl, by simp [hm], by simp [Lifecycle.Has, hm, hmutex, hcond]⟩

/-- `Audio_init` of an ended service without the two objects. -/
theorem audioInit_of_closed (o : InitOutcomes) {s : Lifecycle} (hended : s.myState = .ended)
    (hbalanced : Balanced s.log) (hhas : s.Has false false) :
    Balanced (audioInit o s).2.log ∧
      (audioInit o s).2.myState = (if o.Succeeds then .inited else .ended) ∧
      (audioInit o s).2.Has (o.mutexInit = 0) (o.mutexInit = 0 ∧ o.condInit = 0) := by
  obtain ⟨hlog, hstate, herror, hhas'⟩ :=
    callInitMessaging_of_closed o.mutexInit o.condInit hbalanced hhas
  unfold audioInit
  rw [if_neg (not_not.2 hended)]
  dsimp only
  split
  · rename_i hfails
    refine ⟨hlog, ?_, hhas'⟩
    rw [hstate, hended, if_neg fun hall => hfails (herror.2 ⟨hall.1, hall.2.1⟩)]
  · rename_i hinit
    obtain ⟨hm, hc⟩ := herror.1 (not_not.1 hinit)
    split
    · rename_i hspeaker
      refine ⟨hlog, ?_, hhas'⟩
      rw [hstate, hended, if_neg fun hall => hspeaker hall.2.2]
    · rename_i hspeaker
      refine ⟨hlog, ?_, hhas'⟩
      rw [if_pos ⟨hm, hc, not_not.1 hspeaker⟩]

/-- No error is left exactly if nothing failed. -/
theorem EndOutcomes.error_eq_none (o : EndOutcomes) :
    o.error = .errorNone ↔ (o.speakerDeInit = .errorNone ∨ o.speakerDeInit = .errorState) ∧
      o.mutexDestroy = 0 ∧ o.condDestroy = 0 := by
  unfold EndOutcomes.error
  by_cases hcond : o.condDestroy = 0 <;> by_cases hmutex : o.mutexDestroy = 0 <;>
    by_cases hnone : o.speakerDeInit = .errorNone <;>
    by_cases hstate : o.speakerDeInit = .errorState <;>
    simp [hcond, hmutex, hnone, hstate]

/-- `Audio_end` of a service that has not ended destroys both objects. -/
theorem audioEnd_of_live (o : EndOutcomes) {s : Lifecycle} (hlive : s.myState ≠ .ended) :
    (audioEnd o s).2.log = s.log ++ [⟨.msgMutex, .destroy, o.mutexDestroy = 0⟩] ++
        [⟨.msgCond, .destroy, o.condDestroy = 0⟩] ∧
      ((audioEnd o s).2.myState = .ended ↔ o.error = .errorNone) := by
  unfold audioEnd
  rw [if_neg hlive]
  cases hstate : s.myState with
  | ended => exact absurd hstate hlive
  | inited | running | ending => by_cases herror : o.error = .errorNone <;> simp [herror, hstate]

/-- `Audio_end` is balanced exactly if both objects are initialised before it. -/
theorem audioEnd_balanced (o : EndOutcomes) {s : Lifecycle} {mutex cond : Bool}
    (hlive : s.myState ≠ .ended) (hbalanced : Balanced s.log) (hhas : s.Has mutex cond) :
    (Balanced (audioEnd o s).2.log ↔ mutex ∧ cond) ∧
      (audioEnd o s).2.Has (o.mutexDestroy ≠ 0 ∧ mutex) (o.condDestroy ≠ 0 ∧ cond) := by
  obtain ⟨hmutex, hcond⟩ := hhas
  unfold Lifecycle.Has
  rw [(audioEnd_of_live o hlive).1]
  constructor
  · simp [balanced_concat, hbalanced, hmutex, hcond, -List.append_assoc]
  · by_cases hm : o.mutexDestroy = 0 <;> by_cases hc : o.condDestroy = 0 <;>
      simp [hm, hc, hmutex, hcond, -List.append_assoc]

/-- Where the service stands after a run of events. -/
inductive Stands (s : Lifecycle) : Session → Prop where
  | closed (hended : s.myState = .ended) (hhas : s.Has false false) : Stands s .closed
  | live (hlive : s.myState ≠ .ended) (hhas : s.Has true true) : Stands s .live
  | torn (mutex cond : Bool) (hlive : s.myState ≠ .ended) (hhas : s.Has mutex cond)
      (hlost : ¬ (mutex ∧ cond)) : Stands s .torn

/-- An event that touches neither object nor the end of the service. -/
theorem Stands.of_same {s s' : Lifecycle} {session : Session} (h : Stands s session)
    (hlog : s'.log = s.log) (hended : s'.myState = .ended ↔ s.myState = .ended) :
    Stands s' session := by
  have hhas' : ∀ mutex cond, s.Has mutex cond → s'.Has mutex cond := by
    intro mutex cond hhas
    unfold Lifecycle.Has
    rwa [hlog]
  cases h with
  | closed hclosed hhas => exact .closed (hended.2 hclosed) (hhas' _ _ hhas)
  | live hlive hhas => exact .live (mt hended.1 hlive) (hhas' _ _ hhas)
  | torn mutex cond hlive hhas hlost =>
      exact .torn mutex cond (mt hended.1 hlive) (hhas' _ _ hhas) hlost

/-- `Audio_start` and the end of the `TaskLoop` move between states that have not ended. -/
theorem audioStart_same (threadCreate : Int) (s : Lifecycle) :
    (audioStart threadCreate s).2.log = s.log ∧
      ((audioStart threadCreate s).2.myState = .ended ↔ s.myState = .ended) := by
  unfold audioStart
  split
  · exact ⟨rfl, .rfl⟩
  · rename_i hinited
    rw [not_not] at hinited
    split
    · exact ⟨rfl, .rfl⟩
    · simp [hinited]

theorem taskEnds_same (s : Lifecycle) :
    (taskEnds s).log = s.log ∧ ((taskEnds s).myState = .ended ↔ s.myState = .ended) := by
  unfold taskEnds
  split
  · rename_i hrunning
    simp [hrunning]
  · exact ⟨rfl, .rfl⟩

/-- The log is balanced, and the service stands where the events so far say. -/
structure InBalance (s : Lifecycle) (session : Session) : Prop where
  balanced : Balanced s.log
  stands : Stands s session

theorem InBalance.of_same {s s' : Lifecycle} {session : Session} (h : InBalance s session)
    (hlog : s'.log = s.log) (hended : s'.myState = .ended ↔ s.myState = .ended) :
    InBalance s' session :=
  ⟨by rw [hlog]; exact h.balanced, h.stands.of_same hlog hended⟩

/-- An `Audio_init` keeps the balance, or it leaves an object in a service that has ended. -/
theorem InBalance.audioInit {s : Lifecycle} {session : Session} (h : InBalance s session)
    (o : InitOutcomes) :
    (AllOrNothing session (.audioInit o) ∧
      InBalance (audioInit o s).2 (session.next (.audioInit o))) ∨
    (¬ AllOrNothing session (.audioInit o) ∧ ¬ KeepsBalance s (.audioInit o)) := by
  have hrefused : s.myState ≠ .ended → (Audio.audioInit o s).2 = s := by
    intro hlive
    simp [Audio.audioInit, hlive]
  obtain ⟨hbalanced, hstands⟩ := h
  cases hstands with
  | closed hended hhas =>
      obtain ⟨hlog, hstate, hhas'⟩ := audioInit_of_closed o hended hbalanced hhas
      by_cases hall : o.Succeeds
      · rw [if_pos hall] at hstate
        obtain ⟨hm, hc, _⟩ := id hall
        refine .inl ⟨fun _ => hall, hlog, ?_⟩
        rw [Session.next, if_pos hall]
        exact .live (by simp [hstate]) (by simpa [hm, hc] using hhas')
      · rw [if_neg hall] at hstate
        by_cases hm : o.mutexInit = 0
        -- the mutex is left behind, whichever of the two later steps failed
        · refine .inr ⟨fun hnone => hall (hnone hm), fun hkeeps => ?_⟩
          have hleft : initialised .msgMutex (Audio.audioInit o s).2.log = true := by
            simpa [hm] using hhas'.1
          have hgone := (hkeeps.2 hstate).1
          rw [Lifecycle.step, hleft] at hgone
          cases hgone
        · refine .inl ⟨fun hzero => absurd hzero hm, hlog, ?_⟩
          rw [Session.next, if_neg hall]
          exact .closed hstate (by simpa [hm] using hhas')
  | live hlive hhas =>
      rw [hrefused hlive]
      exact .inl ⟨trivial, hbalanced, .live hlive hhas⟩
  | torn mutex cond hlive hhas hlost =>
      rw [hrefused hlive]
      exact .inl ⟨trivial, hbalanced, .torn mutex cond hlive hhas hlost⟩

/-- An `Audio_end` keeps the balance, or it destroys an object a second time. -/
theorem InBalance.audioEnd {s : Lifecycle} {session : Session} (h : InBalance s session)
    (o : EndOutcomes) :
    (AllOrNothing session (.audioEnd o) ∧
      InBalance (audioEnd o s).2 (session.next (.audioEnd o))) ∨
    (¬ AllOrNothing session (.audioEnd o) ∧ ¬ KeepsBalance s (.audioEnd o)) := by
  obtain ⟨hbalanced, hstands⟩ := h
  cases hstands with
  | closed hended hhas =>
      have hnothing : (Audio.audioEnd o s).2 = s := by simp [Audio.audioEnd, hended]
      rw [hnothing]
      exact .inl ⟨trivial, hbalanced, .closed hended hhas⟩
  | live hlive hhas =>
      obtain ⟨_, hends⟩ := audioEnd_of_live o hlive
      obtain ⟨hlog, hhas'⟩ := audioEnd_balanced o hlive hbalanced hhas
      refine .inl ⟨trivial, hlog.2 ⟨rfl, rfl⟩, ?_⟩
      rw [Session.next]
      split
      · rename_i hnone
        obtain ⟨_, hm, hc⟩ := o.error_eq_none.1 hnone
        exact .closed (hends.2 hnone) (by simpa [hm, hc] using hhas')
      · rename_i herror
        split
        -- a partial teardown is balanced itself: only a second one finds an object gone
        · rename_i hdestroyed
          refine .torn _ _ (mt hends.1 herror) hhas' ?_
          rcases hdestroyed with hm | hc
          · simp [hm]
          · simp [hc]
        · rename_i hkept
          rw [not_or] at hkept
          exact .live (mt hends.1 herror) (by simpa [hkept.1, hkept.2] using hhas')
  | torn mutex cond hlive hhas hlost =>
      obtain ⟨hlog, _⟩ := audioEnd_balanced o hlive hbalanced hhas
      exact .inr ⟨id, fun hkeeps => hlost (hlog.1 hkeeps.1)⟩

/-- One event keeps the balance, or it is one of the two that lose it. -/
theorem InBalance.event {s : Lifecycle} {session : Session} (h : InBalance s session)
    (event : LifecycleEvent) :
    (AllOrNothing session event ∧ InBalance (s.step event) (session.next event)) ∨
    (¬ AllOrNothing session event ∧ ¬ KeepsBalance s event) := by
  cases event with
  | audioInit o => exact h.audioInit o
  | audioEnd o => exact h.audioEnd o
  | audioStart threadCreate =>
      obtain ⟨hlog, hended⟩ := audioStart_same threadCreate s
      have hnext := h.of_same hlog hended
      cases session <;> exact .inl ⟨trivial, hnext⟩
  | taskEnds =>
      obtain ⟨hlog, hended⟩ := taskEnds_same s
      have hnext := h.of_same hlog hended
      cases session <;> exact .inl ⟨trivial, hnext⟩

theorem InBalance.keepsBalance {s : Lifecycle} {session : Session} {event : LifecycleEvent}
    (h : InBalance (s.step event) session) : KeepsBalance s event := by
  obtain ⟨hbalanced, hstands⟩ := h
  refine ⟨hbalanced, fun hended => ?_⟩
  cases hstands with
  | closed _ hhas => exact hhas
  | live hlive _ => exact absurd hended hlive
  | torn _ _ hlive _ _ => exact absurd hended hlive

/-- From the start of the program and whatever the calls return, the two objects are initialised
and destroyed in balance, and neither is left in a service that has ended, exactly if every
`Audio_init` and every `Audio_end` is all or nothing. -/
theorem messaging_balanced (events : List LifecycleEvent) :
    EveryCall Lifecycle.step KeepsBalance .initial events ↔
      EveryCall Session.next AllOrNothing .closed events := by
  refine EveryCall.iff_of_related (R := InBalance) ?_ ?_
    ⟨balanced_nil, .closed rfl ⟨rfl, rfl⟩⟩ events
  · intro s session event h
    rcases h.event event with ⟨hall, hnext⟩ | ⟨hpart, hlost⟩
    · exact iff_of_true hnext.keepsBalance hall
    · exact iff_of_false hlost hpart
  · intro s session event h hall
    rcases h.event event with ⟨_, hnext⟩ | ⟨hpart, _⟩
    · exact hnext
    · exact absurd hall hpart

/-- An `Audio_init` that fails at `pthread_cond_init` leaves the mutex initialised, and an
`Audio_end` that is repeated because `pthread_cond_destroy` failed destroys the mutex twice. -/
theorem partial_failures_unbalanced :
    ¬ EveryCall Lifecycle.step KeepsBalance .initial [.audioInit ⟨0, 12, .errorNone⟩] ∧
    ¬ EveryCall Lifecycle.step KeepsBalance .initial
      [.audioInit ⟨0, 0, .errorNone⟩, .audioEnd ⟨.errorNone, 0, 16⟩,
        .audioEnd ⟨.errorNone, 0, 0⟩] := by
  constructor
  · intro h
    have hleft := (h.1.2 (by decide)).1
    revert hleft
    decide
  · intro h
    let released : List (LifetimeCall SyncObject) :=
      [⟨.msgMutex, .init, true⟩, ⟨.msgCond, .init, true⟩, ⟨.msgMutex, .destroy, true⟩,
        ⟨.msgCond, .destroy, false⟩]
    have htwice := h.2.2.1.1 (released ++ [⟨.msgMutex, .destroy, true⟩])
      ⟨[⟨.msgCond, .destroy, true⟩], rfl⟩ released _ rfl
    revert htwice
    decide

end BatteryInfo.Audio
