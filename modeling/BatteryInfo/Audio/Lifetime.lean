import BatteryInfo.Audio.Exclusion
import BatteryInfo.Audio.Calls
import BatteryInfo.Audio.Course

/-!
# The lifetime of the queue

`Audio_PlayTrack` reads `MyState` and only then locks `MsgMutex`. In between, `Audio_end` may
end the session and destroy the mutex (`play_after_end`). When `Audio_end` destroys it with no
call in between (`destroyedUnused`), no message is ever offered to a queue that is not
initialised, and every call that returns `ERROR_NONE` put its message in the queue of the
session in which it read `Running`. When it destroys it with a call in between, the threads
can go on so that this fails (`requests_stay_in_session`).
-/

namespace BatteryInfo.Audio

open Concurrent

/-- A call of `Audio_PlayTrack` has read `Running` and has neither signalled nor been refused. -/
def CallerPc.usesQueue : CallerPc → Prop
  | .send _ _ .lock | .send _ _ .body | .send _ _ .signal => True
  | _ => False

/-- `Audio_end` comes to destroy `MsgMutex` only while no call of `Audio_PlayTrack` uses the
queue. -/
def destroyedUnused : StepCondition Shared Local := fun c t _ =>
  t = .control → c.locals .control = .endDestroyMutex →
    ∀ i, ¬ (c.locals (.caller i)).pc.usesQueue

/-- The part of the shared state that tells whether there is a queue. -/
structure Life where
  myState : ComponentState
  mutexInit : Bool
  condInit : Bool
  msgOwner : Option Tid
  session : Nat
  threadCreated : Bool
  serving : Bool

/-- The life of a shared state. -/
def Shared.life (sh : Shared) : Life where
  myState := sh.myState
  mutexInit := sh.mutexInit
  condInit := sh.condInit
  msgOwner := sh.owner .msgMutex
  session := sh.hist.session
  threadCreated := sh.hist.threadCreated
  serving := sh.hist.serving

namespace Life

/-- What holds throughout: while a session serves, its queue is initialised. -/
structure Inv (p : Life) : Prop where
  serving : p.serving = true → p.mutexInit = true ∧ p.condInit = true ∧ p.threadCreated = true
  running : p.myState = .running → p.serving = true
  inited : p.myState = .inited → p.serving = false
  ended : p.myState = .ended → p.serving = false
  owner : p.msgOwner ≠ none → p.threadCreated = true

/-- The claim of the controlling thread where no call has yet decided anything. -/
def Outside (p : Life) : Prop :=
  p.myState = .inited → p.mutexInit = true ∧ p.condInit = true

/-- What the controlling thread claims at each place. -/
def ControlAt : ControlPc → Life → Prop
  | .initCond, p => p.mutexInit = true ∧ p.serving = false
  | .initQueue, p | .initSpeakerLock, p | .initSpeaker, p | .initStore, p =>
      p.mutexInit = true ∧ p.condInit = true ∧ p.serving = false
  | .startCreate, p | .startStore, p => p.mutexInit = true ∧ p.condInit = true
  | .endStore, p | .endSend _, p | .endJoin, p => p.serving = true
  | .endDestroyCond e, p | .endClear e, p | .endStoreEnded e, p =>
      p.serving = false ∧ (p.myState = .inited → e = .errorNone)
  | _, p => p.Outside

/-- What a caller claims where it uses the queue. -/
def CallerAt : CallerPc → Life → Prop
  | .send _ seen .lock, p | .send _ seen .body, p | .send _ seen .signal, p =>
      p.serving = true ∧ p.session = seen
  | _, _ => True

/-- What other threads may do while thread `t` is at one place. -/
def Rely : (t : Tid) → Local t → Life → Life → Prop
  | .control, _, p, p' =>
      p'.mutexInit = p.mutexInit ∧ p'.condInit = p.condInit ∧ p'.serving = p.serving ∧
        (p'.myState = .inited → p.myState = .inited)
  | .caller _, l, p, p' =>
      l.pc.usesQueue → p.serving = true → p'.serving = true ∧ p'.session = p.session
  | _, _, _, _ => True

/-- Where nothing of the queue changes, nobody is disturbed. -/
theorem Rely.of_eq {t : Tid} {l : Local t} {p p' : Life} (hmutex : p'.mutexInit = p.mutexInit)
    (hcond : p'.condInit = p.condInit) (hserving : p'.serving = p.serving)
    (hsession : p'.session = p.session) (hstate : p'.myState = .inited → p.myState = .inited) :
    Rely t l p p' := by
  cases t with
  | control => exact ⟨hmutex, hcond, hserving, hstate⟩
  | caller i => exact fun _ h => ⟨hserving.trans h, hsession⟩
  | _ => trivial

theorem Rely.refl (t : Tid) (l : Local t) (p : Life) : Rely t l p p :=
  .of_eq rfl rfl rfl rfl id

/-- A step that changes only who owns `MsgMutex` disturbs nobody. -/
theorem Rely.owner (t : Tid) (l : Local t) (p : Life) (owner : Option Tid) :
    Rely t l p { p with msgOwner := owner } :=
  .of_eq rfl rfl rfl rfl id

/-- For a thread other than the controlling one only `serving` and the session count. -/
theorem Rely.of_serving {t : Tid} {l : Local t} {p p' : Life} (ht : t ≠ .control)
    (h : p.serving = true → p'.serving = true ∧ p'.session = p.session) : Rely t l p p' := by
  cases t with
  | control => exact absurd rfl ht
  | caller i => exact fun _ => h
  | _ => trivial

/-! ## What each step does -/

variable {sh sh' : Shared}

/-- `SendMessage` takes and gives back the mutex of a session that has a thread. -/
theorem send_step {t : Tid} {msg : Message} {request : Option Request} {pc pc' : SendPc}
    (hinv : sh.life.Inv) (hstep : SendStep t msg request sh pc sh' pc')
    (hcreated : pc = .lock → sh.hist.threadCreated = true) :
    sh'.life.Inv ∧ sh'.life = { sh.life with msgOwner := sh'.owner .msgMutex } := by
  cases hstep with
  | lock _ => exact ⟨{ hinv with owner := fun _ => hcreated rfl }, rfl⟩
  | unlock => exact ⟨{ hinv with owner := fun h => absurd (sh.release_owner .msgMutex) h }, rfl⟩
  | _ => exact ⟨hinv, rfl⟩

/-- `Audio_init`: the queue is made where none serves. -/
theorem init_step {pc pc' : ControlPc} (hinv : sh.life.Inv) (hat : ControlAt pc sh.life)
    (hcourse : Course.ControlAt pc sh.course) (hstep : InitStep sh pc sh' pc') :
    sh'.life.Inv ∧ ControlAt pc' sh'.life ∧
      ∀ u (l : Local u), u ≠ .control → Rely u l sh.life sh'.life := by
  have hrefl : ∀ u (l : Local u), u ≠ .control → Rely u l sh.life sh.life :=
    fun u l _ => .refl u l _
  have hnone : sh.myState = .ended → sh.life.Outside := fun hended h =>
    absurd (hended.symm.trans h) (by simp)
  cases hstep with
  | call => exact ⟨hinv, hat, hrefl⟩
  | lock _ => exact ⟨hinv, hat, hrefl⟩
  | notEnded _ => exact ⟨hinv, hat, hrefl⟩
  | ended _ => exact ⟨hinv, hat, hrefl⟩
  | mutexError => exact ⟨hinv, hnone hcourse.1, hrefl⟩
  | mutexInit =>
      have hstate : sh.myState = .ended := hcourse.1
      have hserving : sh.hist.serving = false := hinv.ended hstate
      refine ⟨{ hinv with
          serving := fun h => absurd h (by simp [Shared.life, History.begin])
          running := fun h => absurd (hstate.symm.trans h) (by simp)
          inited := fun _ => rfl
          ended := fun _ => rfl
          owner := fun h => absurd h (by simp [Shared.life]) }, ⟨rfl, rfl⟩, fun u l hu => ?_⟩
      exact .of_serving hu fun h => absurd (hserving.symm.trans h) (by simp)
  | condError => exact ⟨hinv, hnone hcourse.1, hrefl⟩
  | condInit =>
      obtain ⟨hmutex, hserving⟩ := hat
      exact ⟨{ hinv with serving := fun h => absurd (hserving.symm.trans h) (by simp) },
        ⟨hmutex, rfl, hserving⟩, fun u l hu => .of_serving hu fun h => ⟨h, rfl⟩⟩
  | queue => exact ⟨hinv, hat, hrefl⟩
  | speakerLock _ => exact ⟨hinv, hat, hrefl⟩
  | speakerError => exact ⟨hinv, hnone hcourse.1, hrefl⟩
  | speakerInit => exact ⟨hinv, hat, hrefl⟩
  | store =>
      obtain ⟨hmutex, hcond, hserving⟩ := hat
      exact ⟨{ hinv with
          running := fun h => absurd h (by simp [Shared.life])
          inited := fun _ => hserving
          ended := fun h => absurd h (by simp [Shared.life]) }, fun _ => ⟨hmutex, hcond⟩,
        fun u l hu => .of_serving hu fun h => ⟨h, rfl⟩⟩
  | unlock => exact ⟨hinv, hat, hrefl⟩

/-- `Audio_start`: `Running` is stored with the queue initialised. -/
theorem start_step {pc pc' : ControlPc} (hinv : sh.life.Inv) (hat : ControlAt pc sh.life)
    (hcourse : Course.ControlAt pc sh.course) (hstep : StartStep sh pc sh' pc') :
    sh'.life.Inv ∧ ControlAt pc' sh'.life ∧
      ∀ u (l : Local u), u ≠ .control → Rely u l sh.life sh'.life := by
  have hrefl : ∀ u (l : Local u), u ≠ .control → Rely u l sh.life sh.life :=
    fun u l _ => .refl u l _
  cases hstep with
  | call => exact ⟨hinv, hat, hrefl⟩
  | lock _ => exact ⟨hinv, hat, hrefl⟩
  | notInited _ => exact ⟨hinv, hat, hrefl⟩
  | inited hstate => exact ⟨hinv, hat hstate, hrefl⟩
  | createError => exact ⟨hinv, fun _ => hat, hrefl⟩
  | create =>
      exact ⟨{ hinv with
          serving := fun h => ⟨(hinv.serving h).1, (hinv.serving h).2.1, rfl⟩
          owner := fun _ => rfl }, hat, fun u l hu => .of_serving hu fun h => ⟨h, rfl⟩⟩
  | store =>
      exact ⟨{ hinv with
          serving := fun _ => ⟨hat.1, hat.2, hcourse.1⟩
          running := fun _ => rfl
          inited := fun h => absurd h (by simp [Shared.life])
          ended := fun h => absurd h (by simp [Shared.life]) },
        fun h => absurd h (by simp [Shared.life]),
        fun u l hu => .of_serving hu fun _ => ⟨rfl, rfl⟩⟩
  | unlock => exact ⟨hinv, hat, hrefl⟩

/-- A thread that uses the queue in a call of `Audio_PlayTrack`. -/
def UsesQueue : (t : Tid) → Local t → Prop
  | .caller _, l => l.pc.usesQueue
  | _, _ => False

/-- `Audio_end`: it destroys the queue of a session whose `TaskLoop` is over, while no call uses
the queue. A mutex that it finds busy is not that of a session without a thread. -/
theorem end_step {pc pc' : ControlPc} (hinv : sh.life.Inv) (hat : ControlAt pc sh.life)
    (hcourse : Course.ControlAt pc sh.course) (hstep : EndStep sh pc sh' pc') :
    sh'.life.Inv ∧ ControlAt pc' sh'.life ∧
      ∀ u (l : Local u), u ≠ .control → (pc = .endDestroyMutex → ¬ UsesQueue u l) →
        Rely u l sh.life sh'.life := by
  have hrefl : ∀ u (l : Local u), u ≠ .control → (pc = .endDestroyMutex → ¬ UsesQueue u l) →
      Rely u l sh.life sh.life := fun u l _ _ => .refl u l _
  -- whether the mutex is destroyed or found busy, the session serves no more
  have hunused : ∀ b u (l : Local u), u ≠ .control → ¬ UsesQueue u l →
      Rely u l sh.life { sh.life with mutexInit := b, serving := false } := by
    intro b u l hu hunused
    cases u with
    | control => exact absurd rfl hu
    | caller i => exact fun h => absurd h hunused
    | _ => trivial
  cases hstep with
  | running hstate => exact ⟨hinv, hinv.running hstate, hrefl⟩
  | store =>
      exact ⟨{ hinv with
          running := fun _ => hat
          inited := fun h => absurd h (by simp [Shared.life])
          ended := fun h => absurd h (by simp [Shared.life]) }, hat,
        fun u l hu _ => .of_serving hu fun h => ⟨h, rfl⟩⟩
  | send hsend =>
      obtain ⟨hinv', hlife⟩ := send_step hinv hsend fun _ => hcourse.1
      refine ⟨hinv', ?_, fun u l _ _ => ?_⟩
      · rw [hlife]
        exact hat
      · rw [hlife]
        exact .owner u l _ _
  | join _ =>
      obtain ⟨_, _, hinited, _⟩ := hcourse
      exact ⟨hinv, fun h => absurd h hinited, hrefl⟩
  | destroyMutex =>
      obtain ⟨_, hrunning, _, _⟩ := hcourse
      exact ⟨{ hinv with
          serving := fun h => absurd h (by simp [Shared.life])
          running := fun h => absurd h hrunning
          inited := fun _ => rfl
          ended := fun _ => rfl },
        ⟨rfl, fun _ => rfl⟩, fun u l hu h => hunused false u l hu (h rfl)⟩
  | destroyMutexBusy hheld =>
      obtain ⟨_, hrunning, _, hnone, _⟩ := hcourse
      exact ⟨{ hinv with
          serving := fun h => absurd h (by simp [Shared.life])
          running := fun h => absurd h hrunning
          inited := fun _ => rfl
          ended := fun _ => rfl },
        ⟨rfl, fun h => absurd ((hnone h).symm.trans (hinv.owner hheld)) (by simp)⟩,
        fun u l hu h => hunused sh.mutexInit u l hu (h rfl)⟩
  | destroyCond =>
      exact ⟨{ hinv with serving := fun h => absurd (hat.1.symm.trans h) (by simp) }, hat,
        fun u l hu _ => .of_serving hu fun h => ⟨h, rfl⟩⟩
  | storeEnded =>
      exact ⟨{ hinv with
          running := fun h => absurd h (by simp [Shared.life])
          inited := fun h => absurd h (by simp [Shared.life])
          ended := fun _ => hat.1 }, fun h => absurd h (by simp [Shared.life]),
        fun u l hu _ => .of_serving hu fun h => ⟨h, rfl⟩⟩
  | keepState he => exact ⟨hinv, fun h => absurd (hat.2 h) he, hrefl⟩
  | call => exact ⟨hinv, hat, hrefl⟩
  | lock _ => exact ⟨hinv, hat, hrefl⟩
  | ended _ => exact ⟨hinv, hat, hrefl⟩
  | notEnded _ => exact ⟨hinv, hat, hrefl⟩
  | notRunning _ => exact ⟨hinv, hat, hrefl⟩
  | sent => exact ⟨hinv, hat, hrefl⟩
  | ending _ => exact ⟨hinv, hat, hrefl⟩
  | notEnding _ => exact ⟨hinv, hat, hrefl⟩
  | inited _ => exact ⟨hinv, hat, hrefl⟩
  | notInited _ => exact ⟨hinv, hat, hrefl⟩
  | speakerLock _ => exact ⟨hinv, hat, hrefl⟩
  | speakerDeInit => exact ⟨hinv, hat, hrefl⟩
  | clear => exact ⟨hinv, hat, hrefl⟩
  | unlock => exact ⟨hinv, hat, hrefl⟩

/-- `Audio_PlayTrack` uses the queue of a session that serves. -/
theorem caller_step {i : Nat} {l l' : Caller} (hinv : sh.life.Inv)
    (hat : CallerAt l.pc sh.life) (hstep : CallerStep i sh l sh' l') :
    sh'.life.Inv ∧ CallerAt l'.pc sh'.life ∧
      ∀ u (l : Local u), Rely u l sh.life sh'.life := by
  cases hstep with
  | call _ => exact ⟨hinv, trivial, fun u l => .refl u l _⟩
  | running hstate => exact ⟨hinv, ⟨hinv.running hstate, rfl⟩, fun u l => .refl u l _⟩
  | stopped _ => exact ⟨hinv, trivial, fun u l => .refl u l _⟩
  | send hsend =>
      obtain ⟨hinv', hlife⟩ := send_step hinv hsend fun hlock => by
        subst hlock
        exact (hinv.serving hat.1).2.2
      refine ⟨hinv', ?_, fun u l => ?_⟩
      · rw [hlife]
        cases hsend with
        | lock _ => exact hat
        | store _ => exact hat
        | _ => trivial
      · rw [hlife]
        exact .owner u l _ _
  | ret => exact ⟨hinv, trivial, fun u l => .refl u l _⟩

/-- A `TaskLoop` of the session takes and gives back the mutex. -/
theorem task_step {g : Nat} {pc pc' : TaskPc} (hinv : sh.life.Inv)
    (hcourse : Course.TaskAt g pc sh.course) (hstep : TaskStep g sh pc sh' pc') :
    sh'.life.Inv ∧ ∀ u (l : Local u), Rely u l sh.life sh'.life := by
  have hacquire : sh.course.TaskLive g → (sh.acquire .msgMutex (.task g)).life.Inv :=
    fun hlive => { hinv with owner := fun _ => hlive.1 }
  have hrelease : (sh.release .msgMutex).life.Inv :=
    { hinv with owner := fun h => absurd (sh.release_owner .msgMutex) h }
  have howner : ∀ o u (l : Local u), Rely u l sh.life { sh.life with msgOwner := o } :=
    fun o u l => .owner u l _ o
  cases hstep with
  | lock hspawned _ => exact ⟨hacquire (hcourse hspawned), howner _⟩
  | wake _ _ => exact ⟨hacquire hcourse.2, howner _⟩
  | relock _ => exact ⟨hacquire hcourse.2, howner _⟩
  | relockKill _ => exact ⟨hacquire hcourse.2, howner _⟩
  | wait => exact ⟨hrelease, howner none⟩
  | release => exact ⟨hrelease, howner none⟩
  | unlock => exact ⟨hrelease, howner none⟩
  | storeEnding =>
      exact ⟨{ hinv with
          running := fun h => absurd h (by simp [Shared.life])
          inited := fun h => absurd h (by simp [Shared.life])
          ended := fun h => absurd h (by simp [Shared.life]) },
        fun u l => .of_eq rfl rfl rfl rfl fun h => absurd h (by simp [Shared.life])⟩
  | _ => exact ⟨hinv, fun u l => .refl u l _⟩

/-- The player has nothing to do with the queue. -/
theorem player_step {g : Nat} {l l' : Player} (hstep : PlayerStep g sh l sh' l') :
    sh'.life = sh.life := by
  cases hstep <;> rfl

/-! ## The claims are stable -/

variable {p p' : Life}

theorem control_stable {pc : ControlPc} (hat : ControlAt pc p) (hrely : Rely .control pc p p') :
    ControlAt pc p' := by
  obtain ⟨hmutex, hcond, hserving, hinited⟩ := hrely
  cases pc with
  | initCond => exact ⟨hmutex.trans hat.1, hserving.trans hat.2⟩
  | initQueue | initSpeakerLock | initSpeaker | initStore =>
      exact ⟨hmutex.trans hat.1, hcond.trans hat.2.1, hserving.trans hat.2.2⟩
  | startCreate | startStore => exact ⟨hmutex.trans hat.1, hcond.trans hat.2⟩
  | endStore | endSend _ | endJoin => exact hserving.trans hat
  | endDestroyCond _ | endClear _ | endStoreEnded _ =>
      exact ⟨hserving.trans hat.1, fun h => hat.2 (hinited h)⟩
  | _ => exact fun h => ⟨hmutex.trans (hat (hinited h)).1, hcond.trans (hat (hinited h)).2⟩

theorem caller_stable {i : Nat} {l : Caller} (hat : CallerAt l.pc p)
    (hrely : Rely (.caller i) l p p') : CallerAt l.pc p' := by
  obtain ⟨pc, rs⟩ := l
  cases pc with
  | send id seen pc =>
      cases pc with
      | lock | body | signal =>
          obtain ⟨hserving, hsession⟩ := hrely trivial hat.1
          exact ⟨hserving, hsession.trans hat.2⟩
      | _ => trivial
  | _ => trivial

end Life

/-! ## The outline -/

/-- The runs from the start of the program in which the queue is destroyed unused. -/
abbrev InProgram (c : Service) : Prop := service.Reach ProgramStart destroyedUnused c

theorem InProgram.any {c : Service} (h : InProgram c) : AnyProgram c :=
  h.mono fun _ _ _ _ => trivial

section Runs

variable {c : Service} {sh : Shared}

/-- The controlling thread may do anything as long as it destroys no mutex. -/
theorem InProgram.control {pc : ControlPc} (h : InProgram c)
    (hrun : ThreadRun ControlStep (fun pc _ => pc ≠ .endDestroyMutex) c.shared
      (c.locals .control) sh pc) : InProgram (c.move .control sh pc) :=
  h.thread (t := Tid.control) (fun _ _ _ hpc _ hdestroy => absurd hdestroy hpc) hrun

/-- The other threads may do anything. -/
theorem InProgram.caller {i : Nat} {l : Caller} (h : InProgram c)
    (hrun : ThreadRun (CallerStep i) (fun _ _ => True) c.shared (c.locals (.caller i)) sh l) :
    InProgram (c.move (.caller i) sh l) :=
  h.thread (t := Tid.caller i) (fun _ _ _ _ => nofun) hrun

theorem InProgram.task {g : Nat} {pc : TaskPc} (h : InProgram c)
    (hrun : ThreadRun (TaskStep g) (fun _ _ => True) c.shared (c.locals (.task g)) sh pc) :
    InProgram (c.move (.task g) sh pc) :=
  h.thread (t := Tid.task g) (fun _ _ _ _ => nofun) hrun

theorem InProgram.player {g : Nat} {l : Player} (h : InProgram c)
    (hrun : ThreadRun (PlayerStep g) (fun _ _ => True) c.shared (c.locals (.player g)) sh l) :
    InProgram (c.move (.player g) sh l) :=
  h.thread (t := Tid.player g) (fun _ _ _ _ => nofun) hrun

end Runs

/-- What each thread claims. -/
def LifeAt : (t : Tid) → Local t → Life → Prop
  | .control, pc => Life.ControlAt pc
  | .caller _, l => Life.CallerAt l.pc
  | _, _ => fun _ => True

/-- The outline of the queue. -/
def lifeOutline : Outline Shared Local where
  Inv sh := sh.life.Inv
  At t l sh := LifeAt t l sh.life

theorem ProgramStart.life {c : Service} (h : ProgramStart c) : lifeOutline.Holds c := by
  refine ⟨?_, ?_⟩
  · show c.shared.life.Inv
    constructor <;> simp [Shared.life, h.myState, h.owner, h.hist, History.begin]
  · intro t
    cases t with
    | control =>
        show Life.ControlAt (c.locals .control) _
        rw [h.control]
        exact fun hinited => absurd (h.myState.symm.trans hinited) (by simp)
    | caller i =>
        show Life.CallerAt (c.locals (.caller i)).pc _
        rw [h.caller]
        trivial
    | _ => trivial

/-- The outline holds in every such run. -/
theorem life_outline {c : Service} (h : InProgram c) : lifeOutline.Holds c := by
  refine h.outline lifeOutline (fun t l sh sh' => Life.Rely t l sh.life sh'.life)
    (fun _ h => h.life) ?_ ?_
  · rintro c t sh l hreach ⟨hinv, hat⟩ hstep hunused
    have hcourse : AnyProgram c := InProgram.any hreach
    cases t with
    | control =>
        cases hstep with
        | init hstep =>
            obtain ⟨hinv', hat', hrely⟩ :=
              Life.init_step hinv (hat .control) hcourse.controlAt hstep
            exact ⟨hinv', hat', fun u hu => hrely u _ hu⟩
        | start hstep =>
            obtain ⟨hinv', hat', hrely⟩ :=
              Life.start_step hinv (hat .control) hcourse.controlAt hstep
            exact ⟨hinv', hat', fun u hu => hrely u _ hu⟩
        | «end» hstep =>
            obtain ⟨hinv', hat', hrely⟩ :=
              Life.end_step hinv (hat .control) hcourse.controlAt hstep
            refine ⟨hinv', hat', fun u hu => hrely u _ hu fun hpc => ?_⟩
            cases u with
            | caller i => exact hunused rfl hpc i
            | _ => exact id
    | caller i =>
        obtain ⟨hinv', hat', hrely⟩ := Life.caller_step hinv (hat (.caller i)) hstep
        exact ⟨hinv', hat', fun u _ => hrely u _⟩
    | task g =>
        obtain ⟨hinv', hrely⟩ := Life.task_step hinv (hcourse.taskAt g) hstep
        exact ⟨hinv', trivial, fun u _ => hrely u _⟩
    | player g =>
        have hsame : sh.life = c.shared.life := Life.player_step hstep
        show sh.life.Inv ∧ True ∧ ∀ u, u ≠ .player g → Life.Rely u _ _ sh.life
        rw [hsame]
        exact ⟨hinv, trivial, fun u _ => .refl u _ _⟩
  · intro t l sh sh' _ _ hat hrely
    cases t with
    | control => exact Life.control_stable hat hrely
    | caller i => exact Life.caller_stable hat hrely
    | _ => trivial

/-! ## The requests stay in their sessions -/

/-- The next step of the thread, in `SendMessage`, locks `MsgMutex` or signals `MsgCond`. -/
def LocksOrSignals : (t : Tid) → Local t → Prop
  | .control, .endSend .lock | .control, .endSend .signal => True
  | .caller _, ⟨.send _ _ .lock, _⟩ | .caller _, ⟨.send _ _ .signal, _⟩ => True
  | _, _ => False

/-- `SendMessage` finds the mutex and the condition variable initialised, and every call that
returned `ERROR_NONE` put its message in the queue of the session in which it read `Running`. -/
def KeepsToSession (c : Service) : Prop :=
  (∀ t sh l, LocksOrSignals t (c.locals t) → service.Step t c.shared (c.locals t) sh l →
    c.shared.mutexInit = true ∧ c.shared.condInit = true) ∧
  ∀ i, Accounted i (c.locals (.caller i)) c.shared

/-- As long as `Audio_end` destroys the queue only while no call of `Audio_PlayTrack` uses it, no
message is offered to a queue that is not initialised, through any number of sessions. -/
theorem keepsToSession {c : Service} (h : InProgram c) : KeepsToSession c := by
  have hinv : c.shared.life.Inv := (life_outline h).1
  have hat := (life_outline h).2
  refine ⟨?_, calls_accounted ?_ ?_ h⟩
  · intro t sh l hnext _
    have hserving : c.shared.hist.serving = true := by
      cases t with
      | control =>
          have hat : Life.ControlAt (c.locals .control) c.shared.life := hat .control
          generalize c.locals .control = pc at hnext hat
          cases pc with
          | endSend pc => exact hat
          | _ => exact hnext.elim
      | caller i =>
          have hat : Life.CallerAt (c.locals (.caller i)).pc c.shared.life := hat (.caller i)
          generalize c.locals (.caller i) = l at hnext hat
          obtain ⟨pc, rs⟩ := l
          cases pc with
          | send id seen pc =>
              cases pc with
              | lock | signal => exact hat.1
              | _ => exact hnext.elim
          | _ => exact hnext.elim
      | _ => exact hnext.elim
    exact ⟨(hinv.serving hserving).1, (hinv.serving hserving).2.1⟩
  · intro c hstart i
    simp [Accounted, hstart.caller, hstart.hist, History.begin, CallerPc.stored]
  · intro c hreach i id seen hpc
    have hat : Life.CallerAt (c.locals (.caller i)).pc c.shared.life :=
      (life_outline hreach).2 (.caller i)
    rw [hpc] at hat
    exact hat.2

/-! ## A queue destroyed in use -/

section InUse

variable {c : Service} {i : Nat} {id : AudioTrackID} {seen : Nat} {rs : List CallResult}

/-- A call that signals `MsgCond` finds it destroyed. -/
theorem lost_at_signal (hcond : c.shared.condInit = false)
    (hcall : c.locals (.caller i) = ⟨.send id seen .signal, rs⟩) : ¬ KeepsToSession c := by
  rintro ⟨hkeeps, _⟩
  have hnext : LocksOrSignals (.caller i) (c.locals (.caller i)) := by
    rw [hcall]
    trivial
  have hstep : ∃ sh l, service.Step (.caller i) c.shared (c.locals (.caller i)) sh l := by
    rw [hcall]
    rcases c.shared.sleepers.eq_empty_or_nonempty with hnone | ⟨u, hu⟩
    · exact ⟨_, _, .send (.wakeNone hnone)⟩
    · exact ⟨_, _, .send (.wake hu)⟩
  obtain ⟨sh, l, hstep⟩ := hstep
  exact absurd (hcond.symm.trans (hkeeps _ sh l hnext hstep).2) (by simp)

/-- A call that locks `MsgMutex` finds it free with `MsgCond` destroyed. -/
theorem lost_at_lock (hcond : c.shared.condInit = false)
    (hcall : c.locals (.caller i) = ⟨.send id seen .lock, rs⟩)
    (hfree : c.shared.owner .msgMutex = none) : ¬ KeepsToSession c := by
  rintro ⟨hkeeps, _⟩
  have hnext : LocksOrSignals (.caller i) (c.locals (.caller i)) := by
    rw [hcall]
    trivial
  have hstep : ∃ sh l, service.Step (.caller i) c.shared (c.locals (.caller i)) sh l := by
    rw [hcall]
    exact ⟨_, _, .send (.lock hfree)⟩
  obtain ⟨sh, l, hstep⟩ := hstep
  exact absurd (hcond.symm.trans (hkeeps _ sh l hnext hstep).2) (by simp)

/-- The threads can go on from `c` so that a request does not stay in its session. -/
def CanLose (c : Service) : Prop :=
  ∃ c', service.Reach (· = c) destroyedUnused c' ∧ ¬ KeepsToSession c'

theorem CanLose.head {t : Tid} {sh : Shared} {l₀ l : Local t} (hat : c.locals t = l₀)
    (ht : t ≠ .control) (hstep : service.Step t c.shared l₀ sh l) (h : CanLose (c.move t sh l)) :
    CanLose c := by
  obtain ⟨c', hreach, hlost⟩ := h
  rw [← hat] at hstep
  exact ⟨c', .trans (.step (.start rfl) hstep fun h => absurd h ht) hreach, hlost⟩

/-- When `Audio_end` has destroyed what it can, whoever still holds `MsgMutex` is a call of
`Audio_PlayTrack`, or a `TaskLoop` that has left its loop. -/
theorem holder_after_end (h : AnyProgram c) {e : ErrorCode}
    (hcontrol : c.locals .control = .endStoreEnded e) {u : Tid}
    (howner : c.shared.owner .msgMutex = some u) :
    (∃ g, u = .task g ∧ c.locals (.task g) = .unlock) ∨
      ∃ i, u = .caller i ∧ .msgMutex ∈ (c.locals (.caller i)).pc.held := by
  have hheld := held_of_owner (fun _ h => h.owner) h howner
  have hover := h.controlAt
  rw [hcontrol] at hover
  cases u with
  | control =>
      rw [hcontrol] at hheld
      exact absurd (List.mem_singleton.1 hheld) (by simp)
  | caller i => exact .inr ⟨i, rfl, hheld⟩
  | task g =>
      refine .inl ⟨g, rfl, ?_⟩
      have hat := h.taskAt g
      have hheld : .msgMutex ∈ (c.locals (.task g)).held := hheld
      generalize c.locals (.task g) = pc at hat hheld
      cases pc with
      | unlock => rfl
      | setPlayer | createPlayer | check | get | wait | release m | storeEnding =>
          exact absurd hover.1 hat.2.not_over
      | _ => exact absurd hheld List.not_mem_nil
  | player g => exact absurd hheld (c.locals (.player g)).pc.msgMutex_notMem_held

/-- A call that stores its message in the cleared queue comes to signal. -/
theorem canLose_of_body (hcond : c.shared.condInit = false) (hempty : c.shared.queue.held = [])
    (hcall : c.locals (.caller i) = ⟨.send id seen .body, rs⟩) : CanLose c := by
  have hsend : (c.shared.queue.send (.playTrack id)).1 = .errorNone :=
    ((MsgRing.held_send _ _).1 (by simp [hempty, msgQLength])).1
  refine .head hcall (by simp) (.send (.store (Prod.ext hsend rfl))) ?_
  exact ⟨_, .start rfl, lost_at_signal hcond (Config.move_locals_self ..)⟩

/-- Once `Audio_end` has destroyed `MsgCond` and cleared the queue, a call that still uses the
queue can come to lock `MsgMutex` or to signal. -/
theorem canLose_of_usesQueue (h : AnyProgram c) {e : ErrorCode}
    (hcontrol : c.locals .control = .endStoreEnded e) (hcond : c.shared.condInit = false)
    (hempty : c.shared.queue.held = []) (huses : (c.locals (.caller i)).pc.usesQueue) :
    CanLose c := by
  -- a call that is past its lock signals in the end
  have hpast : ∀ {j id seen rs pc}, c.locals (.caller j) = ⟨.send id seen pc, rs⟩ →
      pc = .body ∨ pc = .signal → CanLose c := by
    rintro j id seen rs pc hcall (rfl | rfl)
    · exact canLose_of_body hcond hempty hcall
    · exact ⟨c, .start rfl, lost_at_signal hcond hcall⟩
  -- a call that is at its lock gets the mutex once its holder has given it back
  have hgiven : ∀ {t l id seen rs}, .caller i ≠ t →
      c.locals (.caller i) = ⟨.send id seen .lock, rs⟩ →
        CanLose (c.move t (c.shared.release .msgMutex) l) := by
    intro t l id seen rs hi hcall
    have hcall' := (Config.move_locals_of_ne c (c.shared.release .msgMutex) l hi).trans hcall
    exact ⟨_, .start rfl, lost_at_lock hcond hcall' (c.shared.release_owner .msgMutex)⟩
  generalize hcall : c.locals (.caller i) = l at huses
  obtain ⟨pc, rs⟩ := l
  cases pc with
  | idle => exact huses.elim
  | check id => exact huses.elim
  | send id seen pc =>
      cases pc with
      | body => exact hpast hcall (.inl rfl)
      | signal => exact hpast hcall (.inr rfl)
      | unlock e => exact huses.elim
      | ret e => exact huses.elim
      | lock =>
          cases howner : c.shared.owner .msgMutex with
          | none => exact ⟨c, .start rfl, lost_at_lock hcond hcall howner⟩
          | some u =>
              rcases holder_after_end h hcontrol howner with ⟨g, rfl, hpc⟩ | ⟨j, rfl, hheld⟩
              · exact .head hpc nofun .unlock (hgiven nofun hcall)
              · generalize hholder : c.locals (.caller j) = l at hheld
                obtain ⟨pc, rs'⟩ := l
                cases pc with
                | idle => exact absurd hheld List.not_mem_nil
                | check id => exact absurd hheld List.not_mem_nil
                | send id' seen' pc =>
                    cases pc with
                    | body => exact hpast hholder (.inl rfl)
                    | signal => exact hpast hholder (.inr rfl)
                    | unlock e =>
                        refine .head hholder nofun (.send .unlock) (hgiven ?_ hcall)
                        intro heq
                        obtain rfl : i = j := Tid.caller.inj heq
                        rw [hcall] at hholder
                        exact nomatch hholder
                    | lock => exact absurd hheld List.not_mem_nil
                    | ret e => exact absurd hheld List.not_mem_nil

end InUse

/-- Whether it has destroyed `MsgMutex` or found it busy, `Audio_end` destroys `MsgCond` and clears
the queue. -/
theorem end_clears {sh sh' : Shared} {pc : ControlPc}
    (hstep : ControlStep sh .endDestroyMutex sh' pc) :
    ∃ e sh₂, ThreadRun ControlStep (fun pc _ => pc ≠ .endDestroyMutex) sh' pc sh₂
        (.endStoreEnded e) ∧
      sh₂.condInit = false ∧ sh₂.queue.held = [] := by
  have hclear : ∀ sh e, ∃ sh₂, ThreadRun ControlStep (fun pc _ => pc ≠ .endDestroyMutex) sh
      (.endDestroyCond e) sh₂ (.endStoreEnded e) ∧
        sh₂.condInit = false ∧ sh₂.queue.held = [] := by
    intro sh e
    refine ⟨_, .head (.end .destroyCond) nofun (.head (.end .clear) nofun (.refl _ _)), rfl, ?_⟩
    exact MsgRing.held_clear _
  cases hstep with
  | init hstep => cases hstep
  | start hstep => cases hstep
  | «end» hstep =>
      cases hstep with
      | destroyMutex => exact ⟨_, hclear _ _⟩
      | destroyMutexBusy _ => exact ⟨_, hclear _ _⟩

/-- Destroyed while a call of `Audio_PlayTrack` uses it, the queue can be touched afterwards. -/
theorem canLose_of_destroyed {c : Service} (h : AnyProgram c) {i : Nat} {sh : Shared}
    {pc : ControlPc} (hpc : c.locals .control = .endDestroyMutex)
    (huses : (c.locals (.caller i)).pc.usesQueue)
    (hstep : ControlStep c.shared (c.locals .control) sh pc) : CanLose (c.move .control sh pc) := by
  have hcaller : Tid.caller i ≠ .control := nofun
  have hnext : AnyProgram (c.move .control sh pc) := h.step (t := Tid.control) hstep trivial
  rw [hpc] at hstep
  obtain ⟨e, sh₂, hrun, hcond, hempty⟩ := end_clears hstep
  rw [← Config.move_locals_self c .control sh pc] at hrun
  have hreach : service.Reach (· = c.move .control sh pc) destroyedUnused
      ((c.move .control sh pc).move .control sh₂ (.endStoreEnded e)) :=
    System.Reach.thread (t := Tid.control) (.start rfl)
      (fun _ _ _ hpc _ hdestroy => absurd hdestroy hpc) hrun
  have huses' : (((c.move .control sh pc).move .control sh₂ (.endStoreEnded e)).locals
      (.caller i)).pc.usesQueue := by
    rwa [Config.move_locals_of_ne _ _ _ hcaller, Config.move_locals_of_ne _ _ _ hcaller]
  obtain ⟨c', hreach', hlost⟩ :=
    canLose_of_usesQueue (hnext.trans (hreach.mono fun _ _ _ _ => trivial))
      (Config.move_locals_self ..) hcond hempty huses'
  exact ⟨c', hreach.trans hreach', hlost⟩

/-! ## The results -/

/-- As long as `Audio_end` destroys the queue only while no call of `Audio_PlayTrack` uses it, no
message is offered to a queue that is not initialised and every accepted one is in the queue of
its session, through any number of sessions. And a further step keeps it so, however such a run
goes on, exactly if it does not destroy a queue in use. -/
theorem requests_stay_in_session {c : Service} (h : InProgram c) :
    KeepsToSession c ∧
    ∀ t sh l, service.Step t c.shared (c.locals t) sh l →
      ((∀ c', service.Reach (· = c.move t sh l) destroyedUnused c' → KeepsToSession c') ↔
        destroyedUnused c t (c.move t sh l)) := by
  refine ⟨keepsToSession h, fun t sh l hstep => ⟨?_, ?_⟩⟩
  · rintro hkeeps rfl hpc i huses
    obtain ⟨c', hreach, hlost⟩ := canLose_of_destroyed h.any hpc huses hstep
    exact hlost (hkeeps c' hreach)
  · intro hunused c' hreach
    exact keepsToSession ((h.step hstep hunused).trans hreach)

/-- Caller 0 plays a track and its call returns, `Audio_end` destroys the queue, and in a second
session caller 1 is about to lock the new `MsgMutex`. -/
theorem requests_stay_in_second_session :
    ∃ c, InProgram c ∧ c.shared.hist.session = 2 ∧ c.shared.hist.accepted = [⟨0, .scale, 1⟩] ∧
      c.locals (.caller 0) = ⟨.idle, [⟨.scale, .errorNone, some 1⟩]⟩ ∧
      LocksOrSignals (.caller 1) (c.locals (.caller 1)) ∧ KeepsToSession c := by
  have hfresh : InProgram freshProgram := .start freshProgram_start
  have hinited := hfresh.control (init_run (fun _ _ h => h) rfl rfl rfl)
  have hstarted := hinited.control (start_run (fun _ _ h _ => h) rfl rfl)
  have hcalled := hstarted.caller (i := 0) <|
    .head (.call .scale) trivial <| .head (.running rfl) trivial <|
    .head (.send (.lock rfl)) trivial <|
    .head (.send (.store (Prod.ext ((MsgRing.held_send _ _).1 (by decide)).1 rfl))) trivial <|
    .head (.send (.wakeNone rfl)) trivial <| .head (.send .unlock) trivial <|
    .head .ret trivial <| .refl _ _
  have hjoin := hcalled.control <|
    .head (.end .call) nofun <| .head (.end (.lock rfl)) nofun <|
    .head (.end (.notEnded (by decide))) nofun <| .head (.end (.running rfl)) nofun <|
    .head (.end .store) nofun <| .head (.end (.send (.lock rfl))) nofun <|
    .head (.end (.send (.store (Prod.ext ((MsgRing.held_send _ _).1 (by decide)).1 rfl)))) nofun <|
    .head (.end (.send (.wakeNone rfl))) nofun <| .head (.end (.send .unlock)) nofun <|
    .head (.end .sent) nofun <| .refl _ _
  have hleft := hjoin.task (g := 0) <|
    .head (.lock (by decide) (by decide)) trivial <| .head .setPlayer trivial <|
    .head .createPlayer trivial <| .head (.notRunning (by decide)) trivial <|
    .head .storeEnding trivial <| .head .unlock trivial <| .head .stopPlayer trivial <| .refl _ _
  have hplayer := hleft.player (g := 0) <|
    .head (.notRunning (by decide) (by decide)) trivial <| .head .clear trivial <|
    .head (.lastPitch (by decide)) trivial <| .head .lastPitched trivial <| .refl _ _
  have htask := hplayer.task (g := 0) <|
    .head (.joinPlayer (by decide)) trivial <| .head .playerEnded trivial <| .refl _ _
  have hdestroys := htask.control <|
    .head (.end (.join (by decide))) nofun <| .head (.end (.ending rfl)) nofun <|
    .head (.end (.speakerLock (by decide))) nofun <| .head (.end .speakerDeInit) nofun <|
    .refl _ _
  -- the call of caller 0 has returned, and nobody else has called
  have hdestroyed := hdestroys.step (t := Tid.control) (.end .destroyMutex) fun _ _ i => by
    cases i <;> exact id
  have hended := InProgram.control hdestroyed <|
    .head (.end .destroyCond) nofun <| .head (.end .clear) nofun <|
    .head (.end .storeEnded) nofun <| .head (.end .unlock) nofun <| .refl _ _
  have hinited' := hended.control (init_run (fun _ _ h => h) (by decide) (by decide) rfl)
  have hstarted' := hinited'.control (start_run (fun _ _ h _ => h) (by decide) rfl)
  have hcalled' := hstarted'.caller (i := 1) <|
    .head (.call .scale) trivial <| .head (.running rfl) trivial <| .refl _ _
  exact ⟨_, hcalled', rfl, rfl, rfl, trivial, (requests_stay_in_session hcalled').1⟩

/-- `Audio_PlayTrack` reads `Running`; before it locks `MsgMutex`, `Audio_end` shuts the session
down and destroys the mutex, which the call then locks. -/
theorem play_after_end : ¬ ∀ c, AnyProgram c → KeepsToSession c := by
  intro hclaim
  have hfresh : AnyProgram freshProgram := .start freshProgram_start
  have hinited := hfresh.control (init_run (fun _ _ _ => trivial) rfl rfl rfl)
  have hstarted := hinited.control (start_run (fun _ _ _ _ => trivial) rfl rfl)
  have hcalled := hstarted.caller (i := 0) <|
    .head (.call .scale) trivial <| .head (.running rfl) trivial <| .refl _ _
  have hjoin := hcalled.control <|
    .head (.end .call) trivial <| .head (.end (.lock rfl)) trivial <|
    .head (.end (.notEnded (by decide))) trivial <| .head (.end (.running rfl)) trivial <|
    .head (.end .store) trivial <| .head (.end (.send (.lock rfl))) trivial <|
    .head (.end (.send (.store (Prod.ext ((MsgRing.held_send _ _).1 (by decide)).1 rfl))))
      trivial <|
    .head (.end (.send (.wakeNone rfl))) trivial <| .head (.end (.send .unlock)) trivial <|
    .head (.end .sent) trivial <| .refl _ _
  have hleft := hjoin.task (g := 0) <|
    .head (.lock (by decide) (by decide)) trivial <| .head .setPlayer trivial <|
    .head .createPlayer trivial <| .head (.notRunning (by decide)) trivial <|
    .head .storeEnding trivial <| .head .unlock trivial <| .head .stopPlayer trivial <| .refl _ _
  have hplayer := hleft.player (g := 0) <|
    .head (.notRunning (by decide) (by decide)) trivial <| .head .clear trivial <|
    .head (.lastPitch (by decide)) trivial <| .head .lastPitched trivial <| .refl _ _
  have htask := hplayer.task (g := 0) <|
    .head (.joinPlayer (by decide)) trivial <| .head .playerEnded trivial <| .refl _ _
  have hdestroyed := htask.control <|
    .head (.end (.join (by decide))) trivial <| .head (.end (.ending rfl)) trivial <|
    .head (.end (.speakerLock (by decide))) trivial <| .head (.end .speakerDeInit) trivial <|
    .head (.end .destroyMutex) trivial <| .refl _ _
  have hinit := ((hclaim _ hdestroyed).1 (.caller 0) _ _ trivial (.send (.lock (by decide)))).1
  exact absurd hinit (by decide)

end BatteryInfo.Audio
