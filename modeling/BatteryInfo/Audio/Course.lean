import BatteryInfo.Audio.Session

/-!
# The course of the program

The runs of this module begin with the program (`AnyProgram`) and go through any number of
sessions: `Audio_init`, `Audio_start` and `Audio_end` may be called in any order and fail where
they can. Whatever the callers do, at most one `TaskLoop` is in its loop at a time, it is the one
of `AudioThread`, and a session begins only when the one before is over (`course_outline`).

`Course` is the part of the shared state that the outline is about.
-/

namespace BatteryInfo.Audio

open Concurrent

/-- The program has just been started. -/
structure ProgramStart (c : Service) : Prop where
  myState : c.shared.myState = .ended
  nextTrackID : c.shared.nextTrackID = .maxTracks
  owner : ∀ m, c.shared.owner m = none
  created : c.shared.created = 0
  spawned : c.shared.spawned = ∅
  exited : c.shared.exited = ∅
  hist : c.shared.hist = .begin 0 []
  control : c.locals .control = .idle
  caller : ∀ i, c.locals (.caller i) = ⟨.idle, []⟩
  task : ∀ g, c.locals (.task g) = .lock
  player : ∀ g, c.locals (.player g) = ⟨.check, .initial⟩

/-- The program as it starts. -/
def freshProgram : Service where
  shared :=
    { myState := .ended
      playerState := .ended
      nextTrackID := .maxTracks
      audioThread := 0
      queue := .init ⟨.replicate msgQLength .endTask, 0, 0⟩
      owner := fun _ => none
      mutexInit := false
      condInit := false
      sleepers := ∅
      created := 0
      spawned := ∅
      exited := ∅
      hist := .begin 0 [] }
  locals
    | .control => .idle
    | .caller _ => ⟨.idle, []⟩
    | .task _ => .lock
    | .player _ => ⟨.check, .initial⟩

theorem freshProgram_start : ProgramStart freshProgram := by
  constructor <;> simp [freshProgram]

/-- Any run from the start of the program. -/
abbrev AnyProgram (c : Service) : Prop := service.Reach ProgramStart anyStep c

section Runs

variable {c : Service} {sh : Shared}

theorem AnyProgram.control {pc : ControlPc} (h : AnyProgram c)
    (hrun : ThreadRun ControlStep (fun _ _ => True) c.shared (c.locals .control) sh pc) :
    AnyProgram (c.move .control sh pc) :=
  h.thread (t := Tid.control) (fun _ _ _ _ => trivial) hrun

theorem AnyProgram.caller {i : Nat} {l : Caller} (h : AnyProgram c)
    (hrun : ThreadRun (CallerStep i) (fun _ _ => True) c.shared (c.locals (.caller i)) sh l) :
    AnyProgram (c.move (.caller i) sh l) :=
  h.thread (t := Tid.caller i) (fun _ _ _ _ => trivial) hrun

theorem AnyProgram.task {g : Nat} {pc : TaskPc} (h : AnyProgram c)
    (hrun : ThreadRun (TaskStep g) (fun _ _ => True) c.shared (c.locals (.task g)) sh pc) :
    AnyProgram (c.move (.task g) sh pc) :=
  h.thread (t := Tid.task g) (fun _ _ _ _ => trivial) hrun

theorem AnyProgram.player {g : Nat} {l : Player} (h : AnyProgram c)
    (hrun : ThreadRun (PlayerStep g) (fun _ _ => True) c.shared (c.locals (.player g)) sh l) :
    AnyProgram (c.move (.player g) sh l) :=
  h.thread (t := Tid.player g) (fun _ _ _ _ => trivial) hrun

/-- The first `Audio_init` of the program, when nothing fails, begins a session. -/
theorem AnyProgram.sessionStart (h : ProgramStart c) :
    ∃ c', AnyProgram c' ∧ SessionStart c' := by
  have hrun : ThreadRun ControlStep (fun _ _ => True) c.shared (c.locals .control)
      c.shared.inited .idle := by
    rw [h.control]
    exact init_run (fun _ _ _ => trivial) (h.owner _) (h.owner _) h.myState
  refine ⟨_, AnyProgram.control (.start h) hrun, ?_⟩
  exact
    { myState := rfl
      nextTrackID := h.nextTrackID
      queue := MsgRing.held_init _
      owner := fun m => by cases m <;> simp [Shared.inited, Shared.acquire, Shared.release]
      mutexInit := rfl
      condInit := rfl
      sleepers := rfl
      created := h.created
      spawned := h.spawned
      exited := h.exited
      hist := ⟨1, by simp [Shared.inited, Shared.acquire, Shared.release, h.hist, History.begin]⟩
      control := Config.move_locals_self ..
      caller := h.caller
      task := h.task
      player := h.player }

end Runs

/-- The part of the shared state that tells how far the program has come. -/
structure Course where
  myState : ComponentState
  audioThread : Nat
  created : Nat
  spawned : Finset Tid
  exited : Finset Tid
  threadCreated : Bool
  endStored : Bool
  loopLeft : Bool

/-- The course of a shared state. -/
def Shared.course (sh : Shared) : Course where
  myState := sh.myState
  audioThread := sh.audioThread
  created := sh.created
  spawned := sh.spawned
  exited := sh.exited
  threadCreated := sh.hist.threadCreated
  endStored := sh.hist.endStored
  loopLeft := sh.hist.loopLeft

namespace Course

/-- No `TaskLoop` of this session is in its loop. -/
def Over (p : Course) : Prop :=
  p.threadCreated = false ∨ p.loopLeft = true

/-- What holds throughout. -/
structure Inv (p : Course) : Prop where
  running : p.myState = .running → p.threadCreated = true ∧ p.endStored = false
  ending : p.myState = .ending → p.endStored = true ∨ p.loopLeft = true
  ended : p.myState = .ended → p.Over
  endStored : p.endStored = true → p.threadCreated = true
  audioThread : p.threadCreated = true → p.audioThread + 1 = p.created
  tasks : ∀ g, .task g ∈ p.spawned ↔ g < p.created
  exited : ∀ g, .task g ∈ p.exited → g < p.created
  left : p.loopLeft = true → p.threadCreated = true
  joined : p.threadCreated = true → .task p.audioThread ∈ p.exited → p.loopLeft = true

/-- The claim of the controlling thread where no call has yet decided anything. -/
def Outside (p : Course) : Prop :=
  (p.myState = .inited → p.threadCreated = false) ∧ (p.endStored = true → p.loopLeft = true)

/-- The claim of `Audio_init` once `InitMessaging` has initialised the mutex. -/
def Begun (p : Course) : Prop :=
  p.myState = .ended ∧ p.threadCreated = false ∧ p.endStored = false

/-- What the controlling thread claims at each place. -/
def ControlAt : ControlPc → Course → Prop
  | .initMutex, p => p.myState = .ended ∧ p.Over ∧ p.Outside
  | .initCond, p | .initQueue, p | .initSpeakerLock, p | .initSpeaker, p | .initStore, p =>
      p.Begun
  | .startCreate, p => p.myState = .inited ∧ p.threadCreated = false ∧ p.endStored = false
  | .startStore, p => p.threadCreated = true ∧ p.endStored = false
  | .endStore, p => p.threadCreated = true ∧ p.myState ≠ .inited ∧ p.myState ≠ .ended
  | .endSend _, p | .endJoin, p =>
      p.threadCreated = true ∧ p.endStored = true ∧ p.myState ≠ .inited ∧ p.myState ≠ .ended
  | .endSpeakerLock, p | .endSpeaker, p | .endDestroyMutex, p | .endDestroyCond _, p
  | .endClear _, p | .endStoreEnded _, p =>
      p.Over ∧ p.myState ≠ .running ∧ p.myState ≠ .ended ∧ p.Outside
  | _, p => p.Outside

/-- The `TaskLoop` of the present session, in its loop. -/
def TaskLive (g : Nat) (p : Course) : Prop :=
  p.threadCreated = true ∧ p.audioThread = g ∧ p.loopLeft = false

/-- `TaskLoop` number `g` is of an earlier session or has left its loop. -/
def TaskPast (g : Nat) (p : Course) : Prop :=
  p.threadCreated = true → p.audioThread = g → p.loopLeft = true

/-- What `TaskLoop` number `g` claims at each place. -/
def TaskAt (g : Nat) : TaskPc → Course → Prop
  | .lock, p => .task g ∈ p.spawned → p.TaskLive g
  | .unlock, p | .stopPlayer, p | .joinPlayer, p | .playerEnded, p | .done, p =>
      .task g ∈ p.spawned ∧ p.TaskPast g
  | _, p => .task g ∈ p.spawned ∧ p.TaskLive g

/-- `TaskLoop` is inside its message loop, or has left it and not yet stored `Ending`. -/
def InLoop : TaskPc → Prop
  | .lock | .unlock | .stopPlayer | .joinPlayer | .playerEnded | .done => False
  | _ => True

theorem TaskAt.live {p : Course} {g : Nat} {pc : TaskPc} (h : TaskAt g pc p) (hloop : InLoop pc) :
    p.TaskLive g := by
  cases pc with
  | lock | unlock | stopPlayer | joinPlayer | playerEnded | done => exact hloop.elim
  | _ => exact h.2

theorem TaskLive.not_over {p : Course} {g : Nat} (h : p.TaskLive g) : ¬ p.Over := by
  obtain ⟨hcreated, _, hleft⟩ := h
  rintro (hover | hover)
  · exact absurd (hover.symm.trans hcreated) (by simp)
  · exact absurd (hover.symm.trans hleft) (by simp)

/-- What other threads may do while thread `t` is at one place. -/
def Rely : Tid → Course → Course → Prop
  | .control, p, p' =>
      p'.threadCreated = p.threadCreated ∧ p'.endStored = p.endStored ∧
        (p.loopLeft = true → p'.loopLeft = true) ∧
        (p'.myState = p.myState ∨ p'.myState = .ending ∧ ¬ p.Over)
  | .task g, p, p' =>
      (.task g ∈ p.spawned → .task g ∈ p'.spawned) ∧ (p.TaskLive g → p'.TaskLive g) ∧
        (.task g ∈ p.spawned → p.TaskPast g → p'.TaskPast g) ∧
        (.task g ∈ p'.spawned → .task g ∈ p.spawned ∨ p'.TaskLive g)
  | _, _, _ => True

theorem Rely.refl (t : Tid) (p : Course) : Rely t p p := by
  cases t with
  | control => exact ⟨rfl, rfl, id, .inl rfl⟩
  | task g => exact ⟨id, id, fun _ => id, .inl⟩
  | _ => trivial

/-- What `MyState` is does not concern the `TaskLoop`s, nor whether `Ending` was stored. -/
theorem Rely.of_state {t : Tid} (ht : t ≠ .control) (p : Course) (s : ComponentState) (b : Bool) :
    Rely t p { p with myState := s, endStored := b } := by
  cases t with
  | control => exact absurd rfl ht
  | task g => exact ⟨id, id, fun _ => id, .inl⟩
  | _ => trivial

/-! ## What each step does -/

variable {sh sh' : Shared}

/-- What a step leaves alone is still right, and nobody minds. -/
theorem keep {p : Course} {t : Tid} {P : Prop} (hinv : p.Inv) (h : P) :
    p.Inv ∧ P ∧ ∀ u, u ≠ t → Rely u p p :=
  ⟨hinv, h, fun u _ => .refl u p⟩

theorem send_step {t : Tid} {msg : Message} {request : Option Request} {pc pc' : SendPc}
    (hstep : SendStep t msg request sh pc sh' pc') : sh'.course = sh.course := by
  cases hstep <;> rfl

theorem caller_step {i : Nat} {l l' : Caller} (hstep : CallerStep i sh l sh' l') :
    sh'.course = sh.course := by
  cases hstep with
  | send hsend => exact send_step hsend
  | _ => rfl

/-- `Audio_init`: a session begins where none is open. -/
theorem init_step {pc pc' : ControlPc} (hinv : sh.course.Inv) (hat : ControlAt pc sh.course)
    (hstep : InitStep sh pc sh' pc') :
    sh'.course.Inv ∧ ControlAt pc' sh'.course ∧
      ∀ u, u ≠ .control → Rely u sh.course sh'.course := by
  -- an error leaves the program without a session
  have hfailed : sh.course.Begun → sh.course.Outside := by
    rintro ⟨hended, _, hend⟩
    exact ⟨fun h => absurd (hended.symm.trans h) (by simp),
      fun h => absurd (hend.symm.trans h) (by simp)⟩
  cases hstep with
  | call => exact keep hinv hat
  | lock _ => exact keep hinv hat
  | notEnded _ => exact keep hinv hat
  | ended hstate => exact keep hinv ⟨hstate, hinv.ended hstate, hat⟩
  | mutexError => exact keep hinv hat.2.2
  | mutexInit =>
      obtain ⟨hstate, hover, _⟩ := hat
      have hstate : sh.myState = .ended := hstate
      refine ⟨{ hinv with
          running := fun h => absurd (hstate.symm.trans h) (by simp)
          ending := fun h => absurd (hstate.symm.trans h) (by simp)
          ended := fun _ => .inl rfl
          endStored := fun h => absurd h (by simp [Shared.course, History.begin])
          audioThread := fun h => absurd h (by simp [Shared.course, History.begin])
          left := fun h => absurd h (by simp [Shared.course, History.begin])
          joined := fun h => absurd h (by simp [Shared.course, History.begin]) },
        ⟨hstate, rfl, rfl⟩, fun u hu => ?_⟩
      cases u with
      | control => exact absurd rfl hu
      | task g =>
          exact ⟨id, fun h => absurd hover h.not_over,
            fun _ _ h => absurd h (by simp [Shared.course, History.begin]), .inl⟩
      | _ => trivial
  | condError => exact keep hinv (hfailed hat)
  | condInit => exact keep hinv hat
  | queue => exact keep hinv hat
  | speakerLock _ => exact keep hinv hat
  | speakerError => exact keep hinv (hfailed hat)
  | speakerInit => exact keep hinv hat
  | store =>
      obtain ⟨_, hcreated, hend⟩ := hat
      exact ⟨{ hinv with
          running := fun h => absurd h (by simp [Shared.course])
          ending := fun h => absurd h (by simp [Shared.course])
          ended := fun h => absurd h (by simp [Shared.course]) },
        ⟨fun _ => hcreated, fun h => absurd (hend.symm.trans h) (by simp)⟩,
        fun u hu => .of_state hu sh.course .inited sh.hist.endStored⟩
  | unlock => exact keep hinv hat

/-- `Audio_start`: the thread created is that of the session. -/
theorem start_step {pc pc' : ControlPc} (hinv : sh.course.Inv) (hat : ControlAt pc sh.course)
    (hstep : StartStep sh pc sh' pc') :
    sh'.course.Inv ∧ ControlAt pc' sh'.course ∧
      ∀ u, u ≠ .control → Rely u sh.course sh'.course := by
  cases hstep with
  | call => exact keep hinv hat
  | lock _ => exact keep hinv hat
  | notInited _ => exact keep hinv hat
  | inited hstate =>
      have hcreated := hat.1 hstate
      refine keep hinv ⟨hstate, hcreated, ?_⟩
      cases hend : sh.course.endStored with
      | false => rfl
      | true => exact absurd ((hinv.endStored hend).symm.trans hcreated) (by simp)
  | createError =>
      obtain ⟨_, hcreated, hend⟩ := hat
      exact keep hinv ⟨fun _ => hcreated, fun h => absurd (hend.symm.trans h) (by simp)⟩
  | create =>
      obtain ⟨hstate, hcreated, hend⟩ := hat
      have hstate : sh.myState = .inited := hstate
      have hleft : sh.hist.loopLeft = false := by
        cases hleft : sh.hist.loopLeft with
        | false => rfl
        | true => exact absurd ((hinv.left hleft).symm.trans hcreated) (by simp)
      refine ⟨{ hinv with
          running := fun h => absurd (hstate.symm.trans h) (by simp)
          ended := fun h => absurd (hstate.symm.trans h) (by simp)
          endStored := fun _ => rfl
          audioThread := fun _ => rfl
          tasks := ?_
          exited := ?_
          left := fun _ => rfl
          joined := ?_ }, ⟨rfl, hend⟩, fun u hu => ?_⟩
      · intro g
        have htask : Tid.task g ∈ sh.spawned ↔ g < sh.created := hinv.tasks g
        show Tid.task g ∈ insert (Tid.task sh.created) sh.spawned ↔ g < sh.created + 1
        simp only [Finset.mem_insert, Tid.task.injEq, htask]
        omega
      · intro g h
        exact Nat.lt_succ_of_lt (hinv.exited g h)
      · intro _ h
        exact absurd (hinv.exited sh.created h) (Nat.lt_irrefl _)
      · cases u with
        | control => exact absurd rfl hu
        | task g =>
            refine ⟨Finset.mem_insert_of_mem,
              fun h => absurd (h.1.symm.trans hcreated) (by simp), fun hmem _ _ heq => ?_,
              fun h => ?_⟩
            · have hlt : g < sh.created := (hinv.tasks g).1 hmem
              have heq : sh.created = g := heq
              omega
            · rcases Finset.mem_insert.1 h with heq | hmem
              · exact .inr ⟨rfl, (Tid.task.inj heq).symm, hleft⟩
              · exact .inl hmem
        | _ => trivial
  | store =>
      obtain ⟨hcreated, hend⟩ := hat
      refine ⟨{ hinv with
          running := fun _ => ⟨hcreated, hend⟩
          ending := fun h => absurd h (by simp [Shared.course])
          ended := fun h => absurd h (by simp [Shared.course]) }, ⟨?_, ?_⟩,
        fun u hu => .of_state hu sh.course .running sh.hist.endStored⟩
      · intro h
        exact absurd h (by simp [Shared.course])
      · intro h
        exact absurd (hend.symm.trans h) (by simp)
  | unlock => exact keep hinv hat

/-- `Audio_end`: past its join, or where there was nothing to join, the session is over. -/
theorem end_step {pc pc' : ControlPc} (hinv : sh.course.Inv) (hat : ControlAt pc sh.course)
    (hstep : EndStep sh pc sh' pc') :
    sh'.course.Inv ∧ ControlAt pc' sh'.course ∧
      ∀ u, u ≠ .control → Rely u sh.course sh'.course := by
  cases hstep with
  | running hstate =>
      exact keep hinv ⟨(hinv.running hstate).1, by simp [Shared.course, hstate],
        by simp [Shared.course, hstate]⟩
  | store =>
      obtain ⟨hcreated, _, _⟩ := hat
      exact ⟨{ hinv with
          running := fun h => absurd h (by simp [Shared.course])
          ending := fun _ => .inl rfl
          ended := fun h => absurd h (by simp [Shared.course])
          endStored := fun _ => hcreated },
        ⟨hcreated, rfl, by simp [Shared.course], by simp [Shared.course]⟩,
        fun u hu => .of_state hu sh.course .ending true⟩
  | send hsend =>
      rw [send_step hsend]
      exact keep hinv hat
  | join hexit =>
      obtain ⟨hcreated, _, hinited, _⟩ := hat
      exact keep hinv ⟨fun h => absurd h hinited, fun _ => hinv.joined hcreated hexit⟩
  | ending hstate =>
      have hleft := (hinv.ending hstate).elim hat.2 id
      exact keep hinv
        ⟨.inr hleft, by simp [Shared.course, hstate], by simp [Shared.course, hstate], hat⟩
  | inited hstate =>
      exact keep hinv ⟨.inl (hat.1 hstate), by simp [Shared.course, hstate],
        by simp [Shared.course, hstate], hat⟩
  | storeEnded =>
      obtain ⟨hover, _, _, hout⟩ := hat
      exact ⟨{ hinv with
          running := fun h => absurd h (by simp [Shared.course])
          ending := fun h => absurd h (by simp [Shared.course])
          ended := fun _ => hover },
        ⟨fun h => absurd h (by simp [Shared.course]), hout.2⟩,
        fun u hu => .of_state hu sh.course .ended sh.hist.endStored⟩
  | keepState _ => exact keep hinv hat.2.2.2
  | call => exact keep hinv hat
  | lock _ => exact keep hinv hat
  | ended _ => exact keep hinv hat
  | notEnded _ => exact keep hinv hat
  | notRunning _ => exact keep hinv hat
  | sent => exact keep hinv hat
  | notEnding _ => exact keep hinv hat
  | notInited _ => exact keep hinv hat
  | speakerLock _ => exact keep hinv hat
  | speakerDeInit => exact keep hinv hat
  | destroyMutex => exact keep hinv hat
  | destroyMutexBusy _ => exact keep hinv hat
  | destroyCond => exact keep hinv hat
  | clear => exact keep hinv hat
  | unlock => exact keep hinv hat

/-- A `TaskLoop` in its loop is that of the session; leaving the loop it leaves the session
over. -/
theorem task_step {g : Nat} {pc pc' : TaskPc} (hinv : sh.course.Inv) (hat : TaskAt g pc sh.course)
    (hstep : TaskStep g sh pc sh' pc') :
    sh'.course.Inv ∧ TaskAt g pc' sh'.course ∧
      ∀ u, u ≠ .task g → Rely u sh.course sh'.course := by
  cases hstep with
  | lock hspawned _ => exact keep hinv ⟨hspawned, hat hspawned⟩
  | createPlayer =>
      have hmem : ∀ g', Tid.task g' ∈ insert (Tid.player g) sh.spawned ↔
          Tid.task g' ∈ sh.spawned := by simp
      refine ⟨{ hinv with tasks := fun g' => (hmem g').trans (hinv.tasks g') },
        ⟨(hmem g).2 hat.1, hat.2⟩, fun u _ => ?_⟩
      cases u with
      | control => exact ⟨rfl, rfl, id, .inl rfl⟩
      | task g' => exact ⟨(hmem g').2, id, fun _ => id, fun h => .inl ((hmem g').1 h)⟩
      | _ => trivial
  | storeEnding =>
      obtain ⟨hspawned, hlive⟩ := hat
      refine ⟨{ hinv with
          running := fun h => absurd h (by simp [Shared.course])
          ending := fun _ => .inr rfl
          ended := fun h => absurd h (by simp [Shared.course])
          left := fun _ => hlive.1
          joined := fun _ _ => rfl }, ⟨hspawned, fun _ _ => rfl⟩, fun u hu => ?_⟩
      cases u with
      | control => exact ⟨rfl, rfl, fun _ => rfl, .inr ⟨rfl, hlive.not_over⟩⟩
      | task g' =>
          refine ⟨id, fun h => ?_, fun _ _ _ _ => rfl, .inl⟩
          have heq : g' = g := h.2.1.symm.trans hlive.2.1
          rw [heq] at hu
          exact absurd rfl hu
      | _ => trivial
  | playerEnded =>
      obtain ⟨hspawned, hpast⟩ := hat
      refine ⟨{ hinv with exited := ?_, joined := ?_ }, ⟨hspawned, hpast⟩, fun u _ => ?_⟩
      · intro g' h
        rcases Finset.mem_insert.1 h with heq | h
        · cases heq
          exact (hinv.tasks g).1 hspawned
        · exact hinv.exited g' h
      · intro hcreated h
        rcases Finset.mem_insert.1 h with heq | h
        · exact hpast hcreated (Tid.task.inj heq)
        · exact hinv.joined hcreated h
      · cases u with
        | control => exact ⟨rfl, rfl, id, .inl rfl⟩
        | task g' => exact ⟨id, id, fun _ => id, .inl⟩
        | _ => trivial
  | setPlayer => exact keep hinv hat
  | running _ => exact keep hinv hat
  | notRunning _ => exact keep hinv hat
  | got _ => exact keep hinv hat
  | gotNone _ => exact keep hinv hat
  | wait => exact keep hinv hat
  | spurious _ => exact keep hinv hat
  | wake _ _ => exact keep hinv hat
  | release => exact keep hinv hat
  | processOk _ => exact keep hinv hat
  | processKill _ => exact keep hinv hat
  | relock _ => exact keep hinv hat
  | relockKill _ => exact keep hinv hat
  | unlock => exact keep hinv hat
  | stopPlayer => exact keep hinv hat
  | joinPlayer _ => exact keep hinv hat

/-- The player changes nothing here but that it ends. -/
theorem player_step {g : Nat} {l l' : Player} (hinv : sh.course.Inv)
    (hstep : PlayerStep g sh l sh' l') :
    sh'.course.Inv ∧ ∀ u, u ≠ .player g → Rely u sh.course sh'.course := by
  cases hstep with
  | lastPitched =>
      have hmem : ∀ g', Tid.task g' ∈ insert (Tid.player g) sh.exited →
          Tid.task g' ∈ sh.exited :=
        fun g' h => Finset.mem_of_mem_insert_of_ne h (by simp)
      refine ⟨{ hinv with
          exited := fun g' h => hinv.exited g' (hmem g' h)
          joined := fun hcreated h => hinv.joined hcreated (hmem _ h) }, fun u _ => ?_⟩
      cases u with
      | control => exact ⟨rfl, rfl, id, .inl rfl⟩
      | task g' => exact ⟨id, id, fun _ => id, .inl⟩
      | _ => trivial
  | _ => exact ⟨hinv, fun u _ => .refl u _⟩

/-! ## The claims are stable -/

variable {p p' : Course}

theorem control_stable {pc : ControlPc} (hat : ControlAt pc p) (hrely : Rely .control p p') :
    ControlAt pc p' := by
  obtain ⟨hcreated, hend, hleft, hstate⟩ := hrely
  have hover : p.Over → p'.Over := Or.imp hcreated.trans hleft
  -- no other thread stores anything but Ending, and none does when the session is over
  have hkept : ∀ s, s ≠ .ending → p'.myState = s → p.myState = s := by
    intro s hs h
    rcases hstate with hsame | ⟨hending, _⟩
    · exact hsame.symm.trans h
    · exact absurd (h.symm.trans hending) hs
  have hsame : p.Over → p'.myState = p.myState := fun h => hstate.resolve_right fun h' => h'.2 h
  have hout : p.Outside → p'.Outside := by
    rintro ⟨hinited, hended⟩
    refine ⟨fun h => ?_, fun h => hleft (hended (hend.symm.trans h))⟩
    exact hcreated.trans (hinited (hkept _ (by simp) h))
  cases pc with
  | initMutex =>
      obtain ⟨hended, hover', hout'⟩ := hat
      exact ⟨(hsame hover').trans hended, hover hover', hout hout'⟩
  | initCond | initQueue | initSpeakerLock | initSpeaker | initStore =>
      obtain ⟨hended, hcreated', hend'⟩ := hat
      exact ⟨(hsame (.inl hcreated')).trans hended, hcreated.trans hcreated', hend.trans hend'⟩
  | startCreate =>
      obtain ⟨hinited, hcreated', hend'⟩ := hat
      exact ⟨(hsame (.inl hcreated')).trans hinited, hcreated.trans hcreated', hend.trans hend'⟩
  | startStore =>
      obtain ⟨hcreated', hend'⟩ := hat
      exact ⟨hcreated.trans hcreated', hend.trans hend'⟩
  | endStore =>
      obtain ⟨hcreated', hinited, hended⟩ := hat
      exact ⟨hcreated.trans hcreated', fun h => hinited (hkept _ (by simp) h),
        fun h => hended (hkept _ (by simp) h)⟩
  | endSend _ | endJoin =>
      obtain ⟨hcreated', hend', hinited, hended⟩ := hat
      exact ⟨hcreated.trans hcreated', hend.trans hend', fun h => hinited (hkept _ (by simp) h),
        fun h => hended (hkept _ (by simp) h)⟩
  | endSpeakerLock | endSpeaker | endDestroyMutex | endDestroyCond _ | endClear _
  | endStoreEnded _ =>
      obtain ⟨hover', hrunning, hended, hout'⟩ := hat
      exact ⟨hover hover', fun h => hrunning (hkept _ (by simp) h),
        fun h => hended (hkept _ (by simp) h), hout hout'⟩
  | _ => exact hout hat

theorem task_stable {g : Nat} {pc : TaskPc} (hat : TaskAt g pc p) (hrely : Rely (.task g) p p') :
    TaskAt g pc p' := by
  obtain ⟨hspawned, hlive, hpast, hnew⟩ := hrely
  cases pc with
  | lock => exact fun h => (hnew h).elim (fun h => hlive (hat h)) id
  | unlock | stopPlayer | joinPlayer | playerEnded | done =>
      exact ⟨hspawned hat.1, hpast hat.1 hat.2⟩
  | _ => exact ⟨hspawned hat.1, hlive hat.2⟩

end Course

/-! ## The outline -/

/-- What each thread claims about the course. -/
def CourseAt : (t : Tid) → Local t → Course → Prop
  | .control, pc => Course.ControlAt pc
  | .task g, pc => Course.TaskAt g pc
  | _, _ => fun _ => True

/-- The outline of the program. -/
def courseOutline : Outline Shared Local where
  Inv sh := sh.course.Inv
  At t l sh := CourseAt t l sh.course

theorem ProgramStart.course {c : Service} (h : ProgramStart c) : courseOutline.Holds c := by
  refine ⟨?_, ?_⟩
  · show c.shared.course.Inv
    constructor <;>
      simp [Shared.course, Course.Over, h.myState, h.created, h.spawned, h.exited, h.hist,
        History.begin]
  · intro t
    cases t with
    | control =>
        show Course.ControlAt (c.locals .control) _
        rw [h.control]
        exact ⟨fun hinited => absurd (h.myState.symm.trans hinited) (by simp),
          fun hend => absurd hend (by simp [Shared.course, h.hist, History.begin])⟩
    | task g =>
        show Course.TaskAt g (c.locals (.task g)) _
        rw [h.task]
        intro hspawned
        exact absurd hspawned (by simp [Shared.course, h.spawned])
    | _ => trivial

/-- The outline holds in every configuration of the program. -/
theorem course_outline {c : Service} (h : AnyProgram c) : courseOutline.Holds c := by
  refine h.outline courseOutline (fun t _ sh sh' => Course.Rely t sh.course sh'.course)
    (fun _ h => h.course) ?_ ?_
  · rintro c t sh l - ⟨hinv, hat⟩ hstep -
    cases t with
    | control =>
        cases hstep with
        | init hstep => exact Course.init_step hinv (hat .control) hstep
        | start hstep => exact Course.start_step hinv (hat .control) hstep
        | «end» hstep => exact Course.end_step hinv (hat .control) hstep
    | caller i =>
        have hsame : sh.course = c.shared.course := Course.caller_step hstep
        show sh.course.Inv ∧ True ∧ ∀ u, u ≠ .caller i → Course.Rely u _ sh.course
        rw [hsame]
        exact Course.keep hinv trivial
    | task g => exact Course.task_step hinv (hat (.task g)) hstep
    | player g =>
        obtain ⟨hinv', hrely⟩ := Course.player_step hinv hstep
        exact ⟨hinv', trivial, hrely⟩
  · intro t l sh sh' _ _ hat hrely
    cases t with
    | control => exact Course.control_stable hat hrely
    | task g => exact Course.task_stable hat hrely
    | _ => trivial

/-- What `Audio_init`, `Audio_start` and `Audio_end` claim in any run. -/
theorem AnyProgram.controlAt {c : Service} (h : AnyProgram c) :
    Course.ControlAt (c.locals .control) c.shared.course :=
  (course_outline h).2 .control

/-- What a `TaskLoop` claims in any run. -/
theorem AnyProgram.taskAt {c : Service} (h : AnyProgram c) (g : Nat) :
    Course.TaskAt g (c.locals (.task g)) c.shared.course :=
  (course_outline h).2 (.task g)

end BatteryInfo.Audio
