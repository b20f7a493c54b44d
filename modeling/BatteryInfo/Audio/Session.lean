import Mathlib.Data.Finset.Insert
import Mathlib.Tactic.Linarith
import BatteryInfo.Audio.Threads

/-!
# One session of the audio service

A session begins where `Audio_init` has returned without error (`SessionStart`) and goes on as
long as `Audio_init` is not called again (`noInit`). This module proves the outline of a
session that the later results share: which threads exist, which of them have left their loops,
and what that says about `MyState` and `PlayerState` (`phase_outline`).

`Phase` is the part of the shared state that the outline is about. Most steps do not change it.
-/

namespace BatteryInfo.Audio

open Concurrent

/-- `Audio_init` has just returned without error, and no other thread has done anything in the
session. The threads of earlier sessions have ended; those of this one are numbered from 0. -/
structure SessionStart (c : Service) : Prop where
  myState : c.shared.myState = .inited
  nextTrackID : c.shared.nextTrackID = .maxTracks
  queue : c.shared.queue.held = []
  owner : ∀ m, c.shared.owner m = none
  mutexInit : c.shared.mutexInit = true
  condInit : c.shared.condInit = true
  sleepers : c.shared.sleepers = ∅
  created : c.shared.created = 0
  spawned : c.shared.spawned = ∅
  exited : c.shared.exited = ∅
  hist : ∃ session, c.shared.hist = .begin session []
  control : c.locals .control = .idle
  caller : ∀ i, c.locals (.caller i) = ⟨.idle, []⟩
  task : ∀ g, c.locals (.task g) = .lock
  player : ∀ g, c.locals (.player g) = ⟨.check, .initial⟩

/-- `Audio_init` is not called. -/
def noInit : StepCondition Shared Local :=
  fun _ t c' => t = .control → c'.locals .control ≠ .initLock

/-- The configurations of a session. -/
abbrev InSession (c : Service) : Prop := service.Reach SessionStart noInit c

/-- A session as it begins. -/
def freshSession : Service where
  shared :=
    { myState := .inited
      playerState := .ended
      nextTrackID := .maxTracks
      audioThread := 0
      queue := .init ⟨.replicate msgQLength .endTask, 0, 0⟩
      owner := fun _ => none
      mutexInit := true
      condInit := true
      sleepers := ∅
      created := 0
      spawned := ∅
      exited := ∅
      hist := .begin 1 [] }
  locals
    | .control => .idle
    | .caller _ => ⟨.idle, []⟩
    | .task _ => .lock
    | .player _ => ⟨.check, .initial⟩

theorem freshSession_start : SessionStart freshSession := by
  constructor
  case hist => exact ⟨1, rfl⟩
  all_goals simp [freshSession]

section Runs

variable {c : Service} {sh : Shared}

/-- Within a session the controlling thread may do anything but call `Audio_init`. -/
theorem InSession.control {pc : ControlPc} (h : InSession c)
    (hrun : ThreadRun ControlStep (fun _ pc => pc ≠ .initLock) c.shared (c.locals .control) sh pc) :
    InSession (c.move .control sh pc) := by
  refine h.thread (t := Tid.control) ?_ hrun
  intro c sh l hl _
  rwa [Config.move_locals_self]

/-- Within a session a caller may do anything. -/
theorem InSession.caller {i : Nat} {l : Caller} (h : InSession c)
    (hrun : ThreadRun (CallerStep i) (fun _ _ => True) c.shared (c.locals (.caller i)) sh l) :
    InSession (c.move (.caller i) sh l) :=
  h.thread (t := Tid.caller i) (fun _ _ _ _ hcontrol => absurd hcontrol (by simp)) hrun

/-- Within a session a `TaskLoop` may do anything. -/
theorem InSession.task {g : Nat} {pc : TaskPc} (h : InSession c)
    (hrun : ThreadRun (TaskStep g) (fun _ _ => True) c.shared (c.locals (.task g)) sh pc) :
    InSession (c.move (.task g) sh pc) :=
  h.thread (t := Tid.task g) (fun _ _ _ _ hcontrol => absurd hcontrol (by simp)) hrun

end Runs

/-- The part of the shared state that tells how far a session has come. -/
structure Phase where
  myState : ComponentState
  playerState : ComponentState
  audioThread : Nat
  mutexInit : Bool
  created : Nat
  spawned : Finset Tid
  exited : Finset Tid
  session : Nat
  endStored : Bool
  joined : Bool
  loopLeft : Bool
  pitches : List UInt16

/-- The phase of a shared state. -/
def Shared.phase (sh : Shared) : Phase where
  myState := sh.myState
  playerState := sh.playerState
  audioThread := sh.audioThread
  mutexInit := sh.mutexInit
  created := sh.created
  spawned := sh.spawned
  exited := sh.exited
  session := sh.hist.session
  endStored := sh.hist.endStored
  joined := sh.hist.joined
  loopLeft := sh.hist.loopLeft
  pitches := sh.hist.pitches

/-- `TaskLoop` has left its message loop. -/
def LeftLoop : TaskPc → Prop
  | .relockKill | .storeEnding | .unlock | .stopPlayer | .joinPlayer | .playerEnded | .done => True
  | _ => False

namespace Phase

/-- What holds of the phase throughout a session: `Audio_start` succeeds at most once, and
`MyState` tells whether `Audio_end` or `TaskLoop` has stored `Ending`. -/
structure Inv (p : Phase) : Prop where
  created_le : p.created ≤ 1
  audioThread : p.created = 1 → p.audioThread = 0
  tasks : ∀ g, .task g ∈ p.spawned ↔ g < p.created
  players : ∀ g, .player g ∈ p.spawned → g < p.created
  endStored_state : p.endStored = true → p.myState = .ending ∨ p.myState = .ended
  endStored_created : p.endStored = true → p.created = 1
  running : p.myState = .running → p.created = 1 ∧ p.endStored = false ∧ p.mutexInit = true
  ending : p.myState = .ending → p.endStored = true ∨ p.loopLeft = true
  ended : p.myState = .ended → p.loopLeft = true ∨ p.created = 0
  loopLeft : p.loopLeft = true → p.created = 1 ∧ p.myState ≠ .inited
  exited : .task 0 ∈ p.exited → p.loopLeft = true
  playing : .player 0 ∈ p.spawned → p.loopLeft = false → p.playerState = .running
  joined : p.joined = true → .task 0 ∈ p.exited

/-- What other threads may do to the phase while thread `t` is at one place. -/
structure Rely (t : Tid) (p p' : Phase) : Prop where
  session : p'.session = p.session
  created : p.created ≤ p'.created
  spawned : p.spawned ⊆ p'.spawned
  exited : p.exited ⊆ p'.exited
  own_exit : t ∈ p'.exited → t ∈ p.exited
  loopLeft : p.loopLeft = true → p'.loopLeft = true
  control : t = .control →
    p'.created = p.created ∧ p'.mutexInit = p.mutexInit ∧ p'.endStored = p.endStored ∧
      (p'.myState = p.myState ∨ p'.myState = .ending ∧ p.created = 1)
  task : ∀ g, t = .task g → t ∈ p'.spawned →
    p'.loopLeft = p.loopLeft ∧ p'.playerState = p.playerState
  player : ∀ g, t = .player g → t ∈ p.spawned → p'.pitches = p.pitches

theorem Rely.refl (t : Tid) (p : Phase) : Rely t p p where
  session := rfl
  created := Nat.le_refl _
  spawned := Finset.Subset.refl _
  exited := Finset.Subset.refl _
  own_exit := id
  loopLeft := id
  control := fun _ => ⟨rfl, rfl, rfl, .inl rfl⟩
  task := fun _ _ _ => ⟨rfl, rfl⟩
  player := fun _ _ _ => rfl

/-- The claim of the controlling thread where no call has yet decided anything. -/
def Outside (p : Phase) : Prop :=
  (p.myState = .inited → p.created = 0 ∧ p.mutexInit = true) ∧
    (p.endStored = true → p.loopLeft = true)

/-- What the controlling thread claims at each place. -/
def ControlAt : ControlPc → Phase → Prop
  | .startCreate, p => p.created = 0 ∧ p.mutexInit = true ∧ p.myState = .inited
  | .startStore, p => p.created = 1 ∧ p.mutexInit = true ∧ p.endStored = false
  | .endStore, p => p.created = 1 ∧ p.mutexInit = true ∧ p.endStored = false ∧
      p.myState ≠ .inited
  | .endSend _, p | .endJoin, p => p.created = 1 ∧ p.mutexInit = true ∧ p.endStored = true
  | .endSpeakerLock, p | .endSpeaker, p | .endDestroyMutex, p =>
      (p.loopLeft = true ∨ p.created = 0) ∧ p.myState ≠ .running ∧
        (p.myState = .inited → p.mutexInit = true)
  | .endDestroyCond e, p | .endClear e, p | .endStoreEnded e, p =>
      (p.loopLeft = true ∨ p.created = 0) ∧ p.myState ≠ .running ∧
        (p.myState = .inited → p.mutexInit = true ∨ e = .errorNone)
  | .initLock, _ | .initCheck, _ | .initMutex, _ | .initCond, _ | .initQueue, _ => False
  | .initSpeakerLock, _ | .initSpeaker, _ | .initStore, _ | .initUnlock _, _ => False
  | _, p => p.Outside

/-- What a caller claims: it is in `SendMessage` only after `Audio_start` created its thread. -/
def CallerAt : CallerPc → Phase → Prop
  | .send _ seen _, p => 1 ≤ p.created ∧ p.session = seen
  | _, _ => True

/-- The task has not left its loop. -/
def TaskLive (g : Nat) (p : Phase) : Prop :=
  .task g ∈ p.spawned ∧ p.loopLeft = false ∧ .task g ∉ p.exited

/-- What `TaskLoop` number `g` claims at each place. -/
def TaskAt (g : Nat) : TaskPc → Phase → Prop
  | .lock, p => (.task g ∈ p.spawned → p.loopLeft = false) ∧ .task g ∉ p.exited
  | .setPlayer, p => p.TaskLive g
  | .createPlayer, p => p.TaskLive g ∧ p.playerState = .running
  | .unlock, p | .stopPlayer, p =>
      .task g ∈ p.spawned ∧ p.loopLeft = true ∧ .task g ∉ p.exited ∧ .player g ∈ p.spawned
  | .joinPlayer, p =>
      .task g ∈ p.spawned ∧ p.loopLeft = true ∧ .task g ∉ p.exited ∧ .player g ∈ p.spawned ∧
        p.playerState = .ending
  | .playerEnded, p =>
      .task g ∈ p.spawned ∧ p.loopLeft = true ∧ .task g ∉ p.exited ∧ .player g ∈ p.exited
  | .done, p =>
      .task g ∈ p.spawned ∧ p.loopLeft = true ∧ .task g ∈ p.exited ∧ .player g ∈ p.exited
  | _, p => p.TaskLive g ∧ .player g ∈ p.spawned

/-- What `PlayerTaskLoop` number `g` claims at each place. -/
def PlayerAt (g : Nat) : PlayerPc → Phase → Prop
  | .check, p => .player g ∉ p.exited
  | .clear, p | .lastPitch, p =>
      .player g ∈ p.spawned ∧ p.loopLeft = true ∧ .player g ∉ p.exited
  | .inLastPitch, p =>
      .player g ∈ p.spawned ∧ p.loopLeft = true ∧ .player g ∉ p.exited ∧
        p.pitches.getLast? = some 0
  | .done, p =>
      .player g ∈ p.spawned ∧ p.loopLeft = true ∧ .player g ∈ p.exited ∧
        p.pitches.getLast? = some 0
  | _, p => .player g ∈ p.spawned ∧ .player g ∉ p.exited

/-! ## What each step does to the phase -/

variable {sh sh' : Shared}

/-- A phase that a step leaves alone is still right, and nobody minds. -/
theorem keep {p : Phase} {t : Tid} {P : Prop} (hinv : p.Inv) (h : P) :
    p.Inv ∧ P ∧ ∀ u, u ≠ t → Rely u p p :=
  ⟨hinv, h, fun u _ => .refl u p⟩

/-- `Audio_start` creates a thread at most once, and stores `Running` after that. -/
theorem start_step {pc pc' : ControlPc} (hinv : sh.phase.Inv) (hat : ControlAt pc sh.phase)
    (hstep : StartStep sh pc sh' pc') :
    sh'.phase.Inv ∧ ControlAt pc' sh'.phase ∧
      ∀ u, u ≠ .control → Rely u sh.phase sh'.phase := by
  cases hstep with
  | call => exact keep hinv hat
  | lock _ => exact keep hinv hat
  | notInited _ => exact keep hinv hat
  | inited hstate => exact keep hinv ⟨(hat.1 hstate).1, (hat.1 hstate).2, hstate⟩
  | createError => exact keep hinv ⟨fun _ => ⟨hat.1, hat.2.1⟩, fun hend => by
      have := hinv.endStored_created hend
      have := hat.1
      omega⟩
  | create =>
      obtain ⟨hcreated, hmutex, hstate⟩ := hat
      have hzero : sh.created = 0 := hcreated
      have hend : sh.hist.endStored = false := by
        cases hend : sh.hist.endStored with
        | false => rfl
        | true => exact absurd (hinv.endStored_created hend) (by omega)
      have hleft : sh.hist.loopLeft = false := by
        cases hleft : sh.hist.loopLeft with
        | false => rfl
        | true => exact absurd (hinv.loopLeft hleft).1 (by omega)
      have hplayers : ∀ g, Tid.player g ∉ sh.spawned := fun g h => by
        have hlt : g < sh.created := hinv.players g h
        omega
      refine ⟨{ hinv with
        created_le := ?_, audioThread := ?_, tasks := ?_, players := ?_,
        endStored_created := ?_, running := ?_, ended := ?_, loopLeft := ?_, playing := ?_ },
        ⟨?_, hmutex, hend⟩, ?_⟩
      · show sh.created + 1 ≤ 1
        omega
      · intro _
        exact hzero
      · intro g
        have htask : Tid.task g ∈ sh.spawned ↔ g < sh.created := hinv.tasks g
        show Tid.task g ∈ insert (Tid.task sh.created) sh.spawned ↔ g < sh.created + 1
        simp only [Finset.mem_insert, Tid.task.injEq, htask]
        omega
      · intro g h
        exact absurd (Finset.mem_of_mem_insert_of_ne h (by simp)) (hplayers g)
      · intro h
        exact absurd h (by simp [Shared.phase, hend])
      · intro h
        exact absurd (hstate.symm.trans h) (by simp)
      · intro h
        exact absurd (hstate.symm.trans h) (by simp)
      · intro h
        exact absurd h (by simp [Shared.phase, hleft])
      · intro h
        exact absurd (Finset.mem_of_mem_insert_of_ne h (by simp)) (hplayers 0)
      · show sh.created + 1 = 1
        omega
      · intro u hu
        exact { Rely.refl u sh.phase with
          created := Nat.le_succ _
          spawned := Finset.subset_insert _ _
          control := fun h => absurd h hu
          task := fun _ _ _ => ⟨rfl, rfl⟩ }
  | store =>
      obtain ⟨hcreated, hmutex, hend⟩ := hat
      refine ⟨{ hinv with
        endStored_state := ?_, running := fun _ => ⟨hcreated, hend, hmutex⟩, ending := ?_,
        ended := ?_, loopLeft := ?_ }, ⟨?_, ?_⟩, ?_⟩
      · intro h
        exact absurd (hend.symm.trans h) (by simp)
      · intro h
        exact absurd h (by simp [Shared.phase])
      · intro h
        exact absurd h (by simp [Shared.phase])
      · intro _
        exact ⟨hcreated, by simp [Shared.phase]⟩
      · intro h
        exact absurd h (by simp [Shared.phase])
      · intro h
        exact absurd (hend.symm.trans h) (by simp)
      · intro u hu
        exact { Rely.refl u sh.phase with control := fun h => absurd h hu }
  | unlock => exact keep hinv hat

/-- `Audio_end` destroys nothing before `TaskLoop` has left its loop. -/
theorem end_step {pc pc' : ControlPc} (hinv : sh.phase.Inv) (hat : ControlAt pc sh.phase)
    (hstep : EndStep sh pc sh' pc') :
    sh'.phase.Inv ∧ ControlAt pc' sh'.phase ∧
      ∀ u, u ≠ .control → Rely u sh.phase sh'.phase := by
  cases hstep with
  | call => exact keep hinv hat
  | lock _ => exact keep hinv hat
  | ended _ => exact keep hinv hat
  | notEnded _ => exact keep hinv hat
  | running hstate =>
      obtain ⟨hcreated, hend, hmutex⟩ := hinv.running hstate
      exact keep hinv ⟨hcreated, hmutex, hend, by simp [Shared.phase, hstate]⟩
  | notRunning _ => exact keep hinv hat
  | store =>
      obtain ⟨hcreated, hmutex, _, _⟩ := hat
      refine ⟨{ hinv with
        endStored_state := fun _ => .inl rfl
        endStored_created := fun _ => hcreated
        running := ?_
        ending := fun _ => .inl rfl
        ended := ?_
        loopLeft := fun _ => ⟨hcreated, by simp [Shared.phase]⟩ }, ⟨hcreated, hmutex, rfl⟩, ?_⟩
      · intro h
        exact absurd h (by simp [Shared.phase])
      · intro h
        exact absurd h (by simp [Shared.phase])
      · intro u hu
        exact { Rely.refl u sh.phase with control := fun h => absurd h hu }
  | send hsend => cases hsend <;> exact keep hinv hat
  | sent => exact keep hinv hat
  | join hexit =>
      obtain ⟨hcreated, _, _⟩ := hat
      have hzero : sh.audioThread = 0 := hinv.audioThread hcreated
      rw [hzero] at hexit
      have hleft := hinv.exited hexit
      refine ⟨{ hinv with joined := fun _ => hexit }, ⟨?_, fun _ => hleft⟩, ?_⟩
      · intro h
        exact absurd h (hinv.loopLeft hleft).2
      · intro u hu
        exact { Rely.refl u sh.phase with control := fun h => absurd h hu }
  | ending hstate =>
      have hleft : sh.phase.loopLeft = true := (hinv.ending hstate).elim hat.2 id
      exact keep hinv ⟨.inl hleft, by simp [Shared.phase, hstate], fun h => (hat.1 h).2⟩
  | notEnding _ => exact keep hinv hat
  | inited hstate =>
      exact keep hinv ⟨.inr (hat.1 hstate).1, by simp [Shared.phase, hstate],
        fun h => (hat.1 h).2⟩
  | notInited _ => exact keep hinv hat
  | speakerLock _ => exact keep hinv hat
  | speakerDeInit => exact keep hinv hat
  | destroyMutex =>
      obtain ⟨hleft, hrunning, _⟩ := hat
      refine ⟨{ hinv with running := fun h => absurd h hrunning },
        ⟨hleft, hrunning, fun _ => .inr rfl⟩, ?_⟩
      intro u hu
      exact { Rely.refl u sh.phase with control := fun h => absurd h hu }
  | destroyMutexBusy _ => exact keep hinv ⟨hat.1, hat.2.1, fun h => .inl (hat.2.2 h)⟩
  | destroyCond => exact keep hinv hat
  | clear => exact keep hinv hat
  | storeEnded =>
      obtain ⟨hleft, _, _⟩ := hat
      refine ⟨{ hinv with
        endStored_state := fun _ => .inr rfl
        running := ?_
        ending := ?_
        ended := fun _ => hleft
        loopLeft := fun h => ⟨(hinv.loopLeft h).1, by simp [Shared.phase]⟩ }, ⟨?_, ?_⟩, ?_⟩
      · intro h
        exact absurd h (by simp [Shared.phase])
      · intro h
        exact absurd h (by simp [Shared.phase])
      · intro h
        exact absurd h (by simp [Shared.phase])
      · intro h
        have hcreated := hinv.endStored_created h
        exact hleft.resolve_right (by omega)
      · intro u hu
        exact { Rely.refl u sh.phase with control := fun h => absurd h hu }
  | keepState hne =>
      obtain ⟨hleft, _, hmutex⟩ := hat
      refine keep hinv ⟨fun h => ?_, fun h => ?_⟩
      · have hcreated := hleft.resolve_left fun h' => (hinv.loopLeft h').2 h
        exact ⟨hcreated, (hmutex h).resolve_right hne⟩
      · have hcreated := hinv.endStored_created h
        exact hleft.resolve_right (by omega)
  | unlock => exact keep hinv hat

/-- Without a call of `Audio_init` none of its steps is taken. -/
theorem no_init {pc pc' : ControlPc} (hat : ControlAt pc sh.phase)
    (hstep : InitStep sh pc sh' pc') (hinit : pc' ≠ .initLock) : False := by
  cases hstep with
  | call => exact hinit rfl
  | _ => exact hat

/-- The controlling thread, as long as it does not call `Audio_init`. -/
theorem control_step {pc pc' : ControlPc} (hinv : sh.phase.Inv) (hat : ControlAt pc sh.phase)
    (hstep : ControlStep sh pc sh' pc') (hinit : pc' ≠ .initLock) :
    sh'.phase.Inv ∧ ControlAt pc' sh'.phase ∧
      ∀ u, u ≠ .control → Rely u sh.phase sh'.phase := by
  cases hstep with
  | init hstep => exact (no_init hat hstep hinit).elim
  | start hstep => exact start_step hinv hat hstep
  | «end» hstep => exact end_step hinv hat hstep

/-- `Audio_PlayTrack` goes on to `SendMessage` only after it has read `Running`. -/
theorem caller_step {i : Nat} {l l' : Caller} (hinv : sh.phase.Inv)
    (hat : CallerAt l.pc sh.phase) (hstep : CallerStep i sh l sh' l') :
    sh'.phase.Inv ∧ CallerAt l'.pc sh'.phase ∧
      ∀ u, u ≠ .caller i → Rely u sh.phase sh'.phase := by
  cases hstep with
  | call _ => exact keep hinv hat
  | running hstate => exact keep hinv ⟨(hinv.running hstate).1.ge, rfl⟩
  | stopped _ => exact keep hinv trivial
  | send hsend => cases hsend <;> exact keep hinv hat
  | ret => exact keep hinv trivial

/-- There is no second thread of the kind. -/
theorem Inv.task_unique {p : Phase} (hinv : p.Inv) {g g' : Nat} (h : .task g ∈ p.spawned)
    (h' : .task g' ∈ p.spawned) : g = g' := by
  have hlt := (hinv.tasks g).1 h
  have hlt' := (hinv.tasks g').1 h'
  have hle := hinv.created_le
  omega

theorem Inv.task_zero {p : Phase} (hinv : p.Inv) {g : Nat} (h : .task g ∈ p.spawned) :
    g = 0 ∧ p.created = 1 := by
  have hlt := (hinv.tasks g).1 h
  have hle := hinv.created_le
  omega

theorem Inv.player_zero {p : Phase} (hinv : p.Inv) {g : Nat} (h : .player g ∈ p.spawned) :
    g = 0 ∧ p.created = 1 := by
  have hlt := hinv.players g h
  have hle := hinv.created_le
  omega

/-- `TaskLoop` starts its player inside the loop and waits for it after the loop. -/
theorem task_step {g : Nat} {pc pc' : TaskPc} (hinv : sh.phase.Inv) (hat : TaskAt g pc sh.phase)
    (hstep : TaskStep g sh pc sh' pc') :
    sh'.phase.Inv ∧ TaskAt g pc' sh'.phase ∧
      ∀ u, u ≠ .task g → Rely u sh.phase sh'.phase := by
  have hother : Tid.task g ∈ sh.phase.spawned →
      ∀ u, u ≠ Tid.task g → ∀ g', u = .task g' → u ∉ sh.phase.spawned := by
    intro hspawned u hu g' hg' hmem
    subst hg'
    rw [hinv.task_unique hmem hspawned] at hu
    exact hu rfl
  cases hstep with
  | lock hspawned _ => exact keep hinv ⟨hspawned, hat.1 hspawned, hat.2⟩
  | setPlayer =>
      refine ⟨{ hinv with playing := fun _ _ => rfl }, ⟨hat, rfl⟩, ?_⟩
      intro u hu
      exact { Rely.refl u sh.phase with
        task := fun g' hg' hmem => absurd hmem (hother hat.1 u hu g' hg') }
  | createPlayer =>
      obtain ⟨⟨hspawned, hleft, hexit⟩, hplayer⟩ := hat
      obtain ⟨rfl, hcreated⟩ := hinv.task_zero hspawned
      have hsub := Finset.subset_insert (Tid.player 0) sh.spawned
      refine ⟨{ hinv with tasks := ?_, players := ?_, playing := fun _ _ => hplayer },
        ⟨⟨hsub hspawned, hleft, hexit⟩, Finset.mem_insert_self _ _⟩, ?_⟩
      · intro g'
        have hmem : Tid.task g' ∈ insert (Tid.player 0) sh.spawned ↔ Tid.task g' ∈ sh.spawned := by
          simp
        exact hmem.trans (hinv.tasks g')
      · intro g' hmem
        rcases Finset.mem_insert.1 hmem with heq | hmem
        · cases heq
          exact hcreated.ge
        · exact hinv.players g' hmem
      · intro u _
        exact { Rely.refl u sh.phase with spawned := hsub, task := fun _ _ _ => ⟨rfl, rfl⟩ }
  | running _ => exact keep hinv hat
  | notRunning _ => exact keep hinv hat
  | got _ => exact keep hinv hat
  | gotNone _ => exact keep hinv hat
  | wait => exact keep hinv hat
  | spurious _ => exact keep hinv hat
  | wake _ _ => exact keep hinv hat
  | release => exact keep hinv hat
  | processOk _ => exact keep hinv hat
  | processKill _ => exact keep hinv hat
  | relock _ => exact keep hinv hat
  | relockKill _ => exact keep hinv hat
  | storeEnding =>
      obtain ⟨⟨hspawned, hleft, hexit⟩, hplayer⟩ := hat
      obtain ⟨rfl, hcreated⟩ := hinv.task_zero hspawned
      refine ⟨{ hinv with
        endStored_state := fun _ => .inl rfl
        running := ?_
        ending := fun _ => .inr rfl
        ended := ?_
        loopLeft := fun _ => ⟨hcreated, by simp [Shared.phase]⟩
        exited := fun h => absurd h hexit
        playing := ?_ }, ⟨hspawned, rfl, hexit, hplayer⟩, ?_⟩
      · intro h
        exact absurd h (by simp [Shared.phase])
      · intro h
        exact absurd h (by simp [Shared.phase])
      · intro _ h
        exact absurd h (by simp [Shared.phase])
      · intro u hu
        exact { Rely.refl u sh.phase with
          loopLeft := fun _ => rfl
          control := fun _ => ⟨rfl, rfl, rfl, .inr ⟨rfl, hcreated⟩⟩
          task := fun g' hg' hmem => absurd hmem (hother hspawned u hu g' hg') }
  | unlock => exact keep hinv hat
  | stopPlayer =>
      obtain ⟨hspawned, hleft, hexit, hplayer⟩ := hat
      refine ⟨{ hinv with playing := fun _ h => absurd (hleft.symm.trans h) (by simp) },
        ⟨hspawned, hleft, hexit, hplayer, rfl⟩, ?_⟩
      intro u hu
      exact { Rely.refl u sh.phase with
        task := fun g' hg' hmem => absurd hmem (hother hspawned u hu g' hg') }
  | joinPlayer hplayer => exact keep hinv ⟨hat.1, hat.2.1, hat.2.2.1, hplayer⟩
  | playerEnded =>
      obtain ⟨hspawned, hleft, hexit, hplayer⟩ := hat
      refine ⟨{ hinv with exited := fun _ => hleft, playing := ?_, joined := ?_ },
        ⟨hspawned, hleft, Finset.mem_insert_self _ _, Finset.mem_insert_of_mem hplayer⟩, ?_⟩
      · intro _ h
        exact absurd (hleft.symm.trans h) (by simp)
      · intro h
        exact Finset.mem_insert_of_mem (hinv.joined h)
      · intro u hu
        exact { Rely.refl u sh.phase with
          exited := Finset.subset_insert _ _
          own_exit := fun h => Finset.mem_of_mem_insert_of_ne h hu
          task := fun g' hg' hmem => absurd hmem (hother hspawned u hu g' hg') }

/-- `PlayerTaskLoop` leaves its loop only after `TaskLoop` has left its own, and then the last
pitch is 0. -/
theorem player_step {g : Nat} {l l' : Player} (hinv : sh.phase.Inv)
    (hat : PlayerAt g l.pc sh.phase) (hstep : PlayerStep g sh l sh' l') :
    sh'.phase.Inv ∧ PlayerAt g l'.pc sh'.phase ∧
      ∀ u, u ≠ .player g → Rely u sh.phase sh'.phase := by
  have hother : Tid.player g ∈ sh.phase.spawned →
      ∀ u, u ≠ Tid.player g → ∀ g', u = .player g' → u ∉ sh.phase.spawned := by
    intro hspawned u hu g' hg' hmem
    subst hg'
    rw [(hinv.player_zero hmem).1, (hinv.player_zero hspawned).1] at hu
    exact hu rfl
  cases hstep with
  | running hspawned _ => exact keep hinv ⟨hspawned, hat⟩
  | notRunning hspawned hstate =>
      refine keep hinv ⟨hspawned, ?_, hat⟩
      obtain ⟨rfl, _⟩ := hinv.player_zero hspawned
      cases hleft : sh.hist.loopLeft with
      | false => exact absurd (hinv.playing hspawned hleft) hstate
      | true => exact hleft
  | exchange _ => exact keep hinv hat
  | pitch _ =>
      refine ⟨{ hinv with }, hat, ?_⟩
      intro u hu
      exact { Rely.refl u sh.phase with
        player := fun g' hg' hmem => absurd hmem (hother hat.1 u hu g' hg') }
  | pitched => exact keep hinv hat
  | loop => exact keep hinv hat.2
  | clear => exact keep hinv hat
  | lastPitch _ =>
      obtain ⟨hspawned, hleft, hexit⟩ := hat
      refine ⟨{ hinv with }, ⟨hspawned, hleft, hexit, List.getLast?_concat⟩, ?_⟩
      intro u hu
      exact { Rely.refl u sh.phase with
        player := fun g' hg' hmem => absurd hmem (hother hspawned u hu g' hg') }
  | lastPitched =>
      obtain ⟨hspawned, hleft, _, hlast⟩ := hat
      refine ⟨{ hinv with exited := ?_, joined := ?_ },
        ⟨hspawned, hleft, Finset.mem_insert_self _ _, hlast⟩, ?_⟩
      · intro h
        exact hinv.exited (Finset.mem_of_mem_insert_of_ne h (by simp))
      · intro h
        exact Finset.mem_insert_of_mem (hinv.joined h)
      · intro u hu
        exact { Rely.refl u sh.phase with
          exited := Finset.subset_insert _ _
          own_exit := fun h => Finset.mem_of_mem_insert_of_ne h hu }

/-! ## The claims are stable -/

variable {p p' : Phase}

theorem outside_stable (h : p.Outside) (hrely : Rely .control p p') : p'.Outside := by
  obtain ⟨hinited, hended⟩ := h
  obtain ⟨hcreated, hmutex, hend, hstate⟩ := hrely.control rfl
  refine ⟨fun h => ?_, fun h => hrely.loopLeft (hended (hend ▸ h))⟩
  rcases hstate with hstate | ⟨hstate, _⟩
  · rw [hcreated, hmutex]
    exact hinited (hstate ▸ h)
  · exact absurd (hstate.symm.trans h) (by simp)

theorem control_stable {pc : ControlPc} (hat : ControlAt pc p) (hrely : Rely .control p p') :
    ControlAt pc p' := by
  obtain ⟨hcreated, hmutex, hend, hstate⟩ := hrely.control rfl
  have hgone : p.loopLeft = true ∨ p.created = 0 → p'.loopLeft = true ∨ p'.created = 0 :=
    Or.imp hrely.loopLeft hcreated.trans
  -- no other thread stores anything but Ending
  have hkept : ∀ s, s ≠ .ending → p'.myState = s → p.myState = s := by
    intro s hs h
    rcases hstate with hsame | ⟨hending, _⟩
    · exact hsame.symm.trans h
    · exact absurd (h.symm.trans hending) hs
  cases pc with
  | startCreate =>
      obtain ⟨hzero, hmutex', hinited⟩ := hat
      refine ⟨hcreated.trans hzero, hmutex.trans hmutex', ?_⟩
      rcases hstate with hsame | ⟨_, hone⟩
      · exact hsame.trans hinited
      · omega
  | startStore =>
      obtain ⟨hone, hmutex', hend'⟩ := hat
      exact ⟨hcreated.trans hone, hmutex.trans hmutex', hend.trans hend'⟩
  | endStore =>
      obtain ⟨hone, hmutex', hend', hinited⟩ := hat
      exact ⟨hcreated.trans hone, hmutex.trans hmutex', hend.trans hend',
        fun h => hinited (hkept _ (by simp) h)⟩
  | endSend _ | endJoin =>
      obtain ⟨hone, hmutex', hend'⟩ := hat
      exact ⟨hcreated.trans hone, hmutex.trans hmutex', hend.trans hend'⟩
  | endSpeakerLock | endSpeaker | endDestroyMutex =>
      obtain ⟨hleft, hrunning, hinited⟩ := hat
      exact ⟨hgone hleft, fun h => hrunning (hkept _ (by simp) h),
        fun h => hmutex.trans (hinited (hkept _ (by simp) h))⟩
  | endDestroyCond _ | endClear _ | endStoreEnded _ =>
      obtain ⟨hleft, hrunning, hinited⟩ := hat
      exact ⟨hgone hleft, fun h => hrunning (hkept _ (by simp) h),
        fun h => (hinited (hkept _ (by simp) h)).imp_left hmutex.trans⟩
  | initLock | initCheck | initMutex | initCond | initQueue | initSpeakerLock | initSpeaker
  | initStore | initUnlock _ => exact hat.elim
  | _ => exact outside_stable hat hrely

theorem caller_stable {i : Nat} {pc : CallerPc} (hat : CallerAt pc p)
    (hrely : Rely (.caller i) p p') : CallerAt pc p' := by
  cases pc with
  | send _ _ _ => exact ⟨Nat.le_trans hat.1 hrely.created, hrely.session.trans hat.2⟩
  | _ => trivial

theorem task_stable {g : Nat} {pc : TaskPc} (hinv : p.Inv) (hinv' : p'.Inv)
    (hat : TaskAt g pc p) (hrely : Rely (.task g) p p') : TaskAt g pc p' := by
  have hspawned := @hrely.spawned (.task g)
  have hplayer := @hrely.spawned (.player g)
  have hended := @hrely.exited (.player g)
  have hexit := mt hrely.own_exit
  have hlive : p.TaskLive g → p'.TaskLive g := by
    rintro ⟨hmem, hleft, hrun⟩
    exact ⟨hspawned hmem, (hrely.task g rfl (hspawned hmem)).1.trans hleft, hexit hrun⟩
  cases pc with
  | lock =>
      obtain ⟨hleft, hrun⟩ := hat
      refine ⟨fun hmem => ?_, hexit hrun⟩
      obtain ⟨rfl, _⟩ := hinv'.task_zero hmem
      rw [(hrely.task 0 rfl hmem).1]
      cases hleft' : p.loopLeft with
      | false => rfl
      | true =>
          have hone := (hinv.loopLeft hleft').1
          rw [hleft ((hinv.tasks 0).2 (by omega))] at hleft'
          exact absurd hleft' (by simp)
  | setPlayer => exact hlive hat
  | createPlayer =>
      obtain ⟨hat, hstate⟩ := hat
      exact ⟨hlive hat, (hrely.task g rfl (hspawned hat.1)).2.trans hstate⟩
  | unlock | stopPlayer =>
      obtain ⟨hmem, hleft, hrun, hmem'⟩ := hat
      exact ⟨hspawned hmem, hrely.loopLeft hleft, hexit hrun, hplayer hmem'⟩
  | joinPlayer =>
      obtain ⟨hmem, hleft, hrun, hmem', hstate⟩ := hat
      exact ⟨hspawned hmem, hrely.loopLeft hleft, hexit hrun, hplayer hmem',
        (hrely.task g rfl (hspawned hmem)).2.trans hstate⟩
  | playerEnded =>
      obtain ⟨hmem, hleft, hrun, hend⟩ := hat
      exact ⟨hspawned hmem, hrely.loopLeft hleft, hexit hrun, hended hend⟩
  | done =>
      obtain ⟨hmem, hleft, hend, hend'⟩ := hat
      exact ⟨hspawned hmem, hrely.loopLeft hleft, hrely.exited hend, hended hend'⟩
  | _ => exact ⟨hlive hat.1, hplayer hat.2⟩

theorem player_stable {g : Nat} {pc : PlayerPc} (hat : PlayerAt g pc p)
    (hrely : Rely (.player g) p p') : PlayerAt g pc p' := by
  have hspawned := @hrely.spawned (.player g)
  have hexit := mt hrely.own_exit
  cases pc with
  | check => exact hexit hat
  | clear | lastPitch =>
      obtain ⟨hmem, hleft, hrun⟩ := hat
      exact ⟨hspawned hmem, hrely.loopLeft hleft, hexit hrun⟩
  | inLastPitch =>
      obtain ⟨hmem, hleft, hrun, hlast⟩ := hat
      exact ⟨hspawned hmem, hrely.loopLeft hleft, hexit hrun, by rwa [hrely.player g rfl hmem]⟩
  | done =>
      obtain ⟨hmem, hleft, hend, hlast⟩ := hat
      exact ⟨hspawned hmem, hrely.loopLeft hleft, hrely.exited hend,
        by rwa [hrely.player g rfl hmem]⟩
  | _ => exact ⟨hspawned hat.1, hexit hat.2⟩

end Phase

/-! ## The outline -/

/-- What each thread claims about the phase. -/
def PhaseAt : (t : Tid) → Local t → Phase → Prop
  | .control, pc => Phase.ControlAt pc
  | .caller _, l => Phase.CallerAt l.pc
  | .task g, pc => Phase.TaskAt g pc
  | .player g, l => Phase.PlayerAt g l.pc

/-- The outline of a session. -/
def phaseOutline : Outline Shared Local where
  Inv sh := sh.phase.Inv
  At t l sh := PhaseAt t l sh.phase

theorem SessionStart.phase {c : Service} (h : SessionStart c) : phaseOutline.Holds c := by
  obtain ⟨session, hhist⟩ := h.hist
  have hcreated : c.shared.phase.created = 0 := h.created
  have hspawned : c.shared.phase.spawned = ∅ := h.spawned
  have hexited : c.shared.phase.exited = ∅ := h.exited
  have hstate : c.shared.phase.myState = .inited := h.myState
  have hend : c.shared.phase.endStored = false := by simp [Shared.phase, hhist, History.begin]
  have hjoin : c.shared.phase.joined = false := by simp [Shared.phase, hhist, History.begin]
  have hleft : c.shared.phase.loopLeft = false := by simp [Shared.phase, hhist, History.begin]
  refine ⟨?_, ?_⟩
  · show c.shared.phase.Inv
    constructor <;> simp [hcreated, hspawned, hexited, hstate, hend, hjoin, hleft]
  · intro t
    cases t with
    | control =>
        show Phase.ControlAt (c.locals .control) _
        rw [h.control]
        exact ⟨fun _ => ⟨hcreated, h.mutexInit⟩, fun h => absurd (hend.symm.trans h) (by simp)⟩
    | caller i =>
        show Phase.CallerAt (c.locals (.caller i)).pc _
        rw [h.caller]
        trivial
    | task g =>
        show Phase.TaskAt g (c.locals (.task g)) _
        rw [h.task]
        exact ⟨fun _ => hleft, by simp [hexited]⟩
    | player g =>
        show Phase.PlayerAt g (c.locals (.player g)).pc _
        rw [h.player]
        show Tid.player g ∉ c.shared.phase.exited
        simp [hexited]

/-- The outline holds in every configuration of a session. -/
theorem phase_outline {c : Service} (h : InSession c) : phaseOutline.Holds c := by
  refine h.outline phaseOutline (fun t _ sh sh' => Phase.Rely t sh.phase sh'.phase)
    (fun _ h => h.phase) ?_ ?_
  · rintro c t sh l - ⟨hinv, hat⟩ hstep hallowed
    cases t with
    | control =>
        refine Phase.control_step hinv (hat .control) hstep ?_
        simpa using hallowed rfl
    | caller i => exact Phase.caller_step hinv (hat (.caller i)) hstep
    | task g => exact Phase.task_step hinv (hat (.task g)) hstep
    | player g => exact Phase.player_step hinv (hat (.player g)) hstep
  · intro t l sh sh' hinv hinv' hat hrely
    cases t with
    | control => exact Phase.control_stable hat hrely
    | caller i => exact Phase.caller_stable hat hrely
    | task g => exact Phase.task_stable hinv hinv' hat hrely
    | player g => exact Phase.player_stable hat hrely

end BatteryInfo.Audio
