import BatteryInfo.Audio.Course

/-!
# A started service

`Audio_start` creates `TaskLoop` first and stores `Running` afterwards. A `TaskLoop` that
evaluates its loop condition in between leaves at once (`started_without_task`). When no
`TaskLoop` does (`checkedAfterStart`), the service serves from the return of `Audio_start` to
the next call of `Audio_end`, through any number of sessions; and when one does, the service can
come not to serve (`started_serves`).
-/

namespace BatteryInfo.Audio

open Concurrent

/-- No `TaskLoop` evaluates `MyState == Running` while `MyState` is still `Inited`. -/
def checkedAfterStart : StepCondition Shared Local := fun c t _ =>
  ∀ g, t = .task g → c.locals (.task g) = .check → c.shared.myState ≠ .inited

/-- The part of the shared state that tells whether the service serves. -/
structure Serving where
  myState : ComponentState
  held : List Message
  threadCreated : Bool
  startReturned : Bool
  endCalled : Bool
  endStored : Bool
  loopLeft : Bool

/-- How a shared state serves. -/
def Shared.serving (sh : Shared) : Serving where
  myState := sh.myState
  held := sh.queue.held
  threadCreated := sh.hist.threadCreated
  startReturned := sh.hist.startReturned
  endCalled := sh.hist.endCalled
  endStored := sh.hist.endStored
  loopLeft := sh.hist.loopLeft

namespace Serving

/-- No end message is in the queue. -/
def NoEnd (s : Serving) : Prop :=
  ∀ m ∈ s.held, m.msgID ≠ .msgIdEnd

/-- What holds throughout: whatever ends a service that was started comes from `Audio_end`. -/
structure Inv (s : Serving) : Prop where
  endStored : s.endStored = true → s.endCalled = true
  loopLeft : s.loopLeft = true → s.endCalled = true
  returned : s.startReturned = true → s.threadCreated = true
  endMessage : s.threadCreated = true ∨ s.myState = .inited →
    ∀ m ∈ s.held, m.msgID = .msgIdEnd → s.endStored = true
  running : s.startReturned = true → s.endCalled = false → s.myState = .running

/-- What `TaskLoop` claims. -/
def TaskAt : TaskPc → Serving → Prop
  | .release m, s | .process m, s => m.msgID = .msgIdEnd → s.endStored = true
  | .relockKill, s | .storeEnding, s => s.endCalled = true
  | _, _ => True

/-- What the controlling thread claims: `Audio_init` makes a queue without end messages,
`Audio_start` returns `ERROR_NONE` with `Running` stored, and it is in `Audio_end` only after a
call of it. -/
def ControlAt : ControlPc → Serving → Prop
  | .initSpeakerLock, s | .initSpeaker, s | .initStore, s => s.NoEnd
  | .startStore, s => s.endCalled = false
  | .startUnlock e, s =>
      e = .errorNone → s.threadCreated = true ∧ s.endCalled = false ∧ s.myState = .running
  | .endLock, s | .endCheckEnded, s | .endCheckRunning, s | .endStore, s | .endJoin, s
  | .endCheckEnding, s | .endCheckInited, s | .endSpeakerLock, s | .endSpeaker, s
  | .endDestroyMutex, s | .endDestroyCond _, s | .endClear _, s | .endStoreEnded _, s
  | .endUnlock _, s => s.endCalled = true
  | .endSend _, s => s.endCalled = true ∧ s.endStored = true
  | _, _ => True

/-- What other threads may do while thread `t` is at one place. -/
def Rely : (t : Tid) → Local t → Serving → Serving → Prop
  | .control, _, s, s' =>
      s'.threadCreated = s.threadCreated ∧ s'.endCalled = s.endCalled ∧
        s'.endStored = s.endStored ∧ (s.endCalled = false → s'.myState = s.myState) ∧
        (s.NoEnd → s'.NoEnd)
  | .task _, pc, s, s' => Course.InLoop pc →
      (s.endStored = true → s'.endStored = true) ∧ (s.endCalled = true → s'.endCalled = true)
  | _, _, _, _ => True

theorem Rely.refl (t : Tid) (l : Local t) (s : Serving) : Rely t l s s := by
  cases t with
  | control => exact ⟨rfl, rfl, rfl, fun _ => rfl, id⟩
  | task g => exact fun _ => ⟨id, id⟩
  | _ => trivial

/-- What the controlling thread does concerns a `TaskLoop` in its loop only. -/
theorem Rely.of_control {t : Tid} {l : Local t} {s s' : Serving} (ht : t ≠ .control)
    (hend : s.endStored = true → s'.endStored = true)
    (hcalled : s.endCalled = true → s'.endCalled = true) : Rely t l s s' := by
  cases t with
  | control => exact absurd rfl ht
  | task g => exact fun _ => ⟨hend, hcalled⟩
  | _ => trivial

/-- What the other threads do to the queue. -/
theorem Rely.of_held {t : Tid} {l : Local t} {s : Serving} {held : List Message}
    (h : t = .control → s.NoEnd → ∀ m ∈ held, m.msgID ≠ .msgIdEnd) :
    Rely t l s { s with held := held } := by
  cases t with
  | control => exact ⟨rfl, rfl, rfl, fun _ => rfl, h rfl⟩
  | task g => exact fun _ => ⟨id, id⟩
  | _ => trivial

/-! ## What each step does -/

variable {sh sh' : Shared}

/-- What a step leaves alone is still right, and nobody minds. -/
theorem keep {s : Serving} {t : Tid} {P : Prop} {locals : (u : Tid) → Local u} (hinv : s.Inv)
    (h : P) : s.Inv ∧ P ∧ ∀ u, u ≠ t → Rely u (locals u) s s :=
  ⟨hinv, h, fun u _ => .refl u _ s⟩

/-- `SendMessage`: end messages come from `Audio_end` only. -/
theorem send_step {t : Tid} {msg : Message} {request : Option Request} {pc pc' : SendPc}
    (hinv : sh.serving.Inv) (hstep : SendStep t msg request sh pc sh' pc')
    (hend : msg.msgID = .msgIdEnd → sh.hist.endStored = true ∧ t = .control) :
    sh'.serving.Inv ∧ (∀ u (l : Local u), u ≠ t → Rely u l sh.serving sh'.serving) ∧
      sh'.hist.endCalled = sh.hist.endCalled ∧ sh'.hist.endStored = sh.hist.endStored := by
  cases hstep with
  | @store q hsend =>
      have hheld : ∀ m ∈ q.held, m ∈ sh.queue.held ∨ m = msg := by
        intro m hm
        rwa [MsgRing.send_none hsend, List.mem_append, List.mem_singleton] at hm
      refine ⟨{ hinv with endMessage := ?_ }, fun u l hu => .of_held ?_, rfl, rfl⟩
      · intro hopen m hm hid
        rcases hheld m hm with hm | rfl
        · exact hinv.endMessage hopen m hm hid
        · exact (hend hid).1
      · rintro rfl hnone m hm hid
        rcases hheld m hm with hm | rfl
        · exact hnone m hm hid
        · exact hu (hend hid).2.symm
  | refuse hsend he =>
      obtain ⟨_, rfl, _⟩ := MsgRing.send_error hsend he
      exact ⟨hinv, fun u l _ => .refl u l _, rfl, rfl⟩
  | _ => exact ⟨hinv, fun u l _ => .refl u l _, rfl, rfl⟩

section Control

variable {locals : (u : Tid) → Local u} {pc pc' : ControlPc}

/-- `Audio_init` begins a session where no `TaskLoop` is in its loop. -/
theorem init_step (hinv : sh.serving.Inv) (hat : ControlAt pc sh.serving)
    (hcourse : Course.ControlAt pc sh.course)
    (hloop : ∀ g, Course.InLoop (locals (.task g)) → ¬ sh.course.Over)
    (hstep : InitStep sh pc sh' pc') :
    sh'.serving.Inv ∧ ControlAt pc' sh'.serving ∧
      ∀ u, u ≠ .control → Rely u (locals u) sh.serving sh'.serving := by
  cases hstep with
  | mutexInit =>
      obtain ⟨hstate, hover, _⟩ := hcourse
      have hstate : sh.myState = .ended := hstate
      refine ⟨?_, trivial, fun u hu => ?_⟩
      · exact
          { endStored := fun h => absurd h (by simp [Shared.serving, History.begin])
            loopLeft := fun h => absurd h (by simp [Shared.serving, History.begin])
            returned := fun h => absurd h (by simp [Shared.serving, History.begin])
            endMessage := fun h => absurd h (by simp [Shared.serving, History.begin, hstate])
            running := fun h => absurd h (by simp [Shared.serving, History.begin]) }
      · cases u with
        | control => exact absurd rfl hu
        | task g => exact fun h => absurd hover (hloop g h)
        | _ => trivial
  | queue =>
      have hnone : ∀ m ∈ (MsgRing.init sh.queue.queue).held, m.msgID ≠ .msgIdEnd := by
        simp
      refine ⟨{ hinv with endMessage := fun _ m hm hid => absurd hid (hnone m hm) }, hnone, ?_⟩
      exact fun u hu => .of_control hu id id
  | store =>
      obtain ⟨_, hcreated, _⟩ := hcourse
      refine ⟨{ hinv with
          endMessage := fun _ m hm hid => absurd hid (hat m hm)
          running := fun h => absurd ((hinv.returned h).symm.trans hcreated) (by simp) },
        trivial, fun u hu => .of_control hu id id⟩
  | call => exact keep hinv trivial
  | lock _ => exact keep hinv trivial
  | notEnded _ => exact keep hinv trivial
  | ended _ => exact keep hinv trivial
  | mutexError => exact keep hinv trivial
  | condError => exact keep hinv trivial
  | condInit => exact keep hinv trivial
  | speakerLock _ => exact keep hinv hat
  | speakerError => exact keep hinv trivial
  | speakerInit => exact keep hinv hat
  | unlock => exact keep hinv trivial

/-- `Audio_start` creates a thread where none is, and then stores `Running`. -/
theorem start_step (hinv : sh.serving.Inv) (hat : ControlAt pc sh.serving)
    (hcourse : Course.ControlAt pc sh.course) (hcourseInv : sh.course.Inv)
    (hloop : ∀ g, Course.InLoop (locals (.task g)) → ¬ sh.course.Over)
    (hstep : StartStep sh pc sh' pc') :
    sh'.serving.Inv ∧ ControlAt pc' sh'.serving ∧
      ∀ u, u ≠ .control → Rely u (locals u) sh.serving sh'.serving := by
  cases hstep with
  | create =>
      obtain ⟨hstate, hcreated, hend⟩ := hcourse
      have hnot : ∀ {b : Bool}, (b = true → sh.hist.threadCreated = true) → b ≠ true := by
        intro b h hb
        exact absurd ((h hb).symm.trans hcreated) (by simp)
      refine ⟨?_, rfl, fun u hu => ?_⟩
      · exact
          { endStored := fun h => absurd h (hnot hcourseInv.endStored)
            loopLeft := fun h => absurd h (hnot hcourseInv.left)
            returned := fun _ => rfl
            endMessage := fun _ => hinv.endMessage (.inr hstate)
            running := fun h => absurd h (hnot hinv.returned) }
      · cases u with
        | control => exact absurd rfl hu
        | task g => exact fun h => absurd (.inl hcreated) (hloop g h)
        | _ => trivial
  | store =>
      obtain ⟨hcreated, _⟩ := hcourse
      refine ⟨{ hinv with
          endMessage := fun _ => hinv.endMessage (.inl hcreated)
          running := fun _ _ => rfl }, fun _ => ⟨hcreated, hat, rfl⟩, ?_⟩
      exact fun u hu => .of_control hu id id
  | @unlock e =>
      refine ⟨{ hinv with returned := ?_, running := ?_ }, trivial,
        fun u hu => .of_control hu id id⟩
      · intro h
        have h : (sh.hist.startReturned || decide (e = .errorNone)) = true := h
        simp only [Bool.or_eq_true, decide_eq_true_eq] at h
        exact h.elim hinv.returned fun he => (hat he).1
      · intro h hcalled
        have h : (sh.hist.startReturned || decide (e = .errorNone)) = true := h
        simp only [Bool.or_eq_true, decide_eq_true_eq] at h
        exact h.elim (fun h => hinv.running h hcalled) fun he => (hat he).2.2
  | call => exact keep hinv trivial
  | lock _ => exact keep hinv trivial
  | notInited _ => exact keep hinv nofun
  | inited _ => exact keep hinv trivial
  | createError => exact keep hinv nofun

/-- The steps of `Audio_end` come after its call. -/
theorem end_step (hinv : sh.serving.Inv) (hat : ControlAt pc sh.serving)
    (hstep : EndStep sh pc sh' pc') :
    sh'.serving.Inv ∧ ControlAt pc' sh'.serving ∧
      ∀ u, u ≠ .control → Rely u (locals u) sh.serving sh'.serving := by
  -- after the call the service need not serve
  have hended : sh.hist.endCalled = true → ∀ {s : ComponentState},
      sh.hist.startReturned = true → sh.hist.endCalled = false → s = .running :=
    fun hcalled _ _ h => absurd (hcalled.symm.trans h) (by simp)
  cases hstep with
  | call =>
      refine ⟨{ hinv with endStored := fun _ => rfl, loopLeft := fun _ => rfl, running := ?_ },
        rfl, fun u hu => .of_control hu id fun _ => rfl⟩
      exact fun _ h => absurd h (by simp [Shared.serving])
  | store =>
      exact ⟨{ hinv with
          endStored := fun _ => hat
          endMessage := fun _ _ _ _ => rfl
          running := hended hat }, ⟨hat, rfl⟩, fun u hu => .of_control hu (fun _ => rfl) id⟩
  | send hsend =>
      obtain ⟨hinv', hrely, hcalled, hstored⟩ := send_step hinv hsend fun _ => ⟨hat.2, rfl⟩
      exact ⟨hinv', ⟨hcalled.trans hat.1, hstored.trans hat.2⟩, fun u hu => hrely u _ hu⟩
  | clear =>
      refine ⟨{ hinv with endMessage := ?_ }, hat, fun u hu => .of_control hu id id⟩
      intro _ m hm
      have hm : m ∈ sh.queue.clear.held := hm
      simp at hm
  | storeEnded =>
      refine ⟨{ hinv with endMessage := ?_, running := hended hat }, hat,
        fun u hu => .of_control hu id id⟩
      rintro (hcreated | hstate)
      · exact hinv.endMessage (.inl hcreated)
      · exact absurd hstate (by simp [Shared.serving])
  | lock _ => exact keep hinv hat
  | ended _ => exact keep hinv hat
  | notEnded _ => exact keep hinv hat
  | running _ => exact keep hinv hat
  | notRunning _ => exact keep hinv hat
  | sent => exact keep hinv hat.1
  | join _ => exact keep hinv hat
  | ending _ => exact keep hinv hat
  | notEnding _ => exact keep hinv hat
  | inited _ => exact keep hinv hat
  | notInited _ => exact keep hinv hat
  | speakerLock _ => exact keep hinv hat
  | speakerDeInit => exact keep hinv hat
  | destroyMutex => exact keep hinv hat
  | destroyMutexBusy _ => exact keep hinv hat
  | destroyCond => exact keep hinv hat
  | keepState _ => exact keep hinv hat
  | unlock => exact keep hinv trivial

end Control

/-- `TaskLoop` leaves its loop only after `Audio_end` was called; `hchecked` is the condition on
the steps of the run. -/
theorem task_step {locals : (u : Tid) → Local u} {g : Nat} {pc pc' : TaskPc}
    (hinv : sh.serving.Inv) (hat : TaskAt pc sh.serving) (hcourse : Course.TaskAt g pc sh.course)
    (hcourseInv : sh.course.Inv) (hstep : TaskStep g sh pc sh' pc')
    (hchecked : pc = .check → sh.myState ≠ .inited) :
    sh'.serving.Inv ∧ TaskAt pc' sh'.serving ∧
      ∀ u, u ≠ .task g → Rely u (locals u) sh.serving sh'.serving := by
  cases hstep with
  | notRunning hstate =>
      refine keep hinv (show sh.hist.endCalled = true from ?_)
      cases hsome : sh.myState with
      | running => exact absurd hsome hstate
      | inited => exact absurd hsome (hchecked rfl)
      | ending => exact (hcourseInv.ending hsome).elim hinv.endStored hinv.loopLeft
      | ended => exact absurd (hcourseInv.ended hsome) hcourse.2.not_over
  | @got m q hget =>
      have hheld := MsgRing.get_some hget
      have hrest : ∀ m' ∈ q.held, m' ∈ sh.queue.held := by
        intro m' hm'
        rw [hheld]
        exact List.mem_cons_of_mem _ hm'
      have hfirst : m ∈ sh.queue.held := by
        rw [hheld]
        exact List.mem_cons_self
      refine ⟨{ hinv with endMessage := ?_ }, ?_, fun u _ => .of_held ?_⟩
      · exact fun hopen m' hm' => hinv.endMessage hopen m' (hrest m' hm')
      · exact hinv.endMessage (.inl hcourse.2.1) m hfirst
      · exact fun _ hnone m' hm' => hnone m' (hrest m' hm')
  | gotNone hget =>
      obtain ⟨_, rfl⟩ := MsgRing.get_none hget
      exact keep hinv trivial
  | @processKill m id hkill =>
      refine keep hinv (hinv.endStored (hat ?_))
      unfold processMessage at hkill
      cases hid : m.msgID with
      | msgIdEnd => rfl
      | msgIdPlayTrack => simp [hid] at hkill
  | storeEnding =>
      have hcalled : sh.hist.endCalled = true := hat
      refine ⟨{ hinv with loopLeft := fun _ => hat, endMessage := ?_, running := ?_ }, trivial,
        fun u _ => ?_⟩
      · exact fun _ => hinv.endMessage (.inl hcourse.2.1)
      · exact fun _ h => absurd (hcalled.symm.trans h) (by simp)
      · cases u with
        | control =>
            exact ⟨rfl, rfl, rfl, fun h => absurd (hcalled.symm.trans h) (by simp), id⟩
        | task g' => exact fun _ => ⟨id, id⟩
        | _ => trivial
  | release => exact keep hinv hat
  | relockKill _ => exact keep hinv hat
  | processOk _ => exact keep hinv trivial
  | lock _ _ => exact keep hinv trivial
  | setPlayer => exact keep hinv trivial
  | createPlayer => exact keep hinv trivial
  | running _ => exact keep hinv trivial
  | wait => exact keep hinv trivial
  | spurious _ => exact keep hinv trivial
  | wake _ _ => exact keep hinv trivial
  | relock _ => exact keep hinv trivial
  | unlock => exact keep hinv trivial
  | stopPlayer => exact keep hinv trivial
  | joinPlayer _ => exact keep hinv trivial
  | playerEnded => exact keep hinv trivial

/-- `Audio_PlayTrack` sends play messages only. -/
theorem caller_step {locals : (u : Tid) → Local u} {i : Nat} {l l' : Caller}
    (hinv : sh.serving.Inv) (hstep : CallerStep i sh l sh' l') :
    sh'.serving.Inv ∧ ∀ u, u ≠ .caller i → Rely u (locals u) sh.serving sh'.serving := by
  cases hstep with
  | send hsend =>
      obtain ⟨hinv', hrely, _⟩ := send_step hinv hsend nofun
      exact ⟨hinv', fun u hu => hrely u _ hu⟩
  | _ => exact ⟨hinv, fun u _ => .refl u _ _⟩

/-- The player has nothing to do with it. -/
theorem player_step {g : Nat} {l l' : Player} (hstep : PlayerStep g sh l sh' l') :
    sh'.serving = sh.serving := by
  cases hstep <;> rfl

/-! ## The claims are stable -/

variable {s s' : Serving}

theorem control_stable {pc : ControlPc} (hat : ControlAt pc s) (hrely : Rely .control pc s s') :
    ControlAt pc s' := by
  obtain ⟨hcreated, hcalled, hstored, hstate, hnone⟩ := hrely
  cases pc with
  | initSpeakerLock | initSpeaker | initStore => exact hnone hat
  | startStore => exact hcalled.trans hat
  | startUnlock e =>
      intro he
      obtain ⟨hcreated', hcalled', hrunning⟩ := hat he
      exact ⟨hcreated.trans hcreated', hcalled.trans hcalled',
        (hstate hcalled').trans hrunning⟩
  | endLock | endCheckEnded | endCheckRunning | endStore | endJoin | endCheckEnding
  | endCheckInited | endSpeakerLock | endSpeaker | endDestroyMutex | endDestroyCond _
  | endClear _ | endStoreEnded _ | endUnlock _ => exact hcalled.trans hat
  | endSend _ => exact ⟨hcalled.trans hat.1, hstored.trans hat.2⟩
  | _ => trivial

theorem task_stable {g : Nat} {pc : TaskPc} (hat : TaskAt pc s)
    (hrely : Rely (.task g) pc s s') : TaskAt pc s' := by
  cases pc with
  | release m | process m => exact fun hid => (hrely trivial).1 (hat hid)
  | relockKill | storeEnding => exact (hrely trivial).2 hat
  | _ => trivial

end Serving

/-! ## The outline -/

/-- What each thread claims. -/
def ServingAt : (t : Tid) → Local t → Serving → Prop
  | .control, pc => Serving.ControlAt pc
  | .task _, pc => Serving.TaskAt pc
  | _, _ => fun _ => True

/-- The outline of a service that serves. -/
def servingOutline : Outline Shared Local where
  Inv sh := sh.serving.Inv
  At t l sh := ServingAt t l sh.serving

theorem ProgramStart.serving {c : Service} (h : ProgramStart c) : servingOutline.Holds c := by
  refine ⟨?_, ?_⟩
  · show c.shared.serving.Inv
    constructor <;> simp [Shared.serving, h.myState, h.hist, History.begin]
  · intro t
    cases t with
    | control =>
        show Serving.ControlAt (c.locals .control) _
        rw [h.control]
        trivial
    | task g =>
        show Serving.TaskAt (c.locals (.task g)) _
        rw [h.task]
        trivial
    | _ => trivial

/-- The runs from the start of the program in which every `TaskLoop` evaluates its loop condition
after `Running` was stored. -/
abbrev InCheckedProgram (c : Service) : Prop := service.Reach ProgramStart checkedAfterStart c

theorem InCheckedProgram.any {c : Service} (h : InCheckedProgram c) : AnyProgram c :=
  h.mono fun _ _ _ _ => trivial

section Runs

variable {c : Service} {sh : Shared}

/-- The controlling thread may do anything, and `TaskLoop` anything but evaluate its condition. -/
theorem InCheckedProgram.control {pc : ControlPc} (h : InCheckedProgram c)
    (hrun : ThreadRun ControlStep (fun _ _ => True) c.shared (c.locals .control) sh pc) :
    InCheckedProgram (c.move .control sh pc) :=
  h.thread (t := Tid.control) (fun _ _ _ _ => nofun) hrun

theorem InCheckedProgram.task {g : Nat} {pc : TaskPc} (h : InCheckedProgram c)
    (hrun : ThreadRun (TaskStep g) (fun pc _ => pc ≠ .check) c.shared (c.locals (.task g)) sh pc) :
    InCheckedProgram (c.move (.task g) sh pc) := by
  refine h.thread (t := Tid.task g) ?_ hrun
  rintro c sh l hpc g' heq hcheck
  cases heq
  exact absurd hcheck hpc

end Runs

end BatteryInfo.Audio
