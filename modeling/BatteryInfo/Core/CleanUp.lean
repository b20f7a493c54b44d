import BatteryInfo.Concurrent.Cancellation
import BatteryInfo.Core.MainMenu
import BatteryInfo.Gui.Threads

/-!
# Cancelling the threads of the screen

`GuiCleanUp` posts its two requests with `lvgl_lock` held, so that neither `RunTaskThread` nor
`RunTickThread` is in its section at that time. But a thread that waits for the lock does not
notice the request, enters, and ends at the next cancellation point, which for `RunTaskThread` may
be inside `lv_task_handler`: the `system` of a brightness button is one. The lock is lost then, and
only then (`lvgl_lock_given_back`).
-/

namespace BatteryInfo.Core

open Gui Decimal Concurrent

/-- The threads: `lvgl_task`, which runs `RunTaskThread`, `lvgl_tick`, which runs `RunTickThread`,
and those that call the functions of `gui.cpp`. -/
abbrev GuiThread := Gui.Tid

/-- What the threads share, with the requests of `pthread_cancel`. -/
structure GuiState where
  lvglLock : Option GuiThread
  cancelled : GuiThread → Bool
  gui : Lvgl Button
  screen : Screen
  /-- The milliseconds that `lv_tick_inc` was told of. -/
  elapsed : Nat

/-- A callback of a brightness button up to its `system`. -/
def Screen.clicked (button : Button) (s : Screen) : Screen :=
  let s := s.count (ButtonEvent.change ⟨button, .clicked⟩)
  { s with brightnessString := ofInt s.brightness }

/-- The `system` of `SetScreenBrightness`. -/
def Screen.echo (text : List Char) (s : Screen) : Screen :=
  { s with backlight := s.backlight.write (text ++ ['\n']) }

theorem echo_clicked (button : Button) (s : Screen) :
    (s.clicked button).echo (s.clicked button).brightnessString =
      buttonCallback s ⟨button, .clicked⟩ := by
  cases button <;> rfl

/-- The places of `RunTaskThread`. In `lv_task_handler` it is at the `system` of a callback, at
another cancellation point, such as the `read` of the touch driver, or at neither. -/
inductive TaskPc where
  | lock
  | handler
  | system (text : List Char)
  | point
  | usleep

/-- A step of `RunTaskThread`. -/
inductive TaskStep : GuiState → TaskPc → GuiState → TaskPc → Prop where
  | lock {s} : s.lvglLock = none →
      TaskStep s .lock { s with lvglLock := some .lvglTask } .handler
  -- LVGL is free to do anything to its objects
  | handle {s} (gui) : TaskStep s .handler { s with gui } .handler
  | clicked {s o b button} : s.gui.widget o = some (.button b) → b.cb = some button →
      TaskStep s .handler { s with screen := s.screen.clicked button }
        (.system (s.screen.clicked button).brightnessString)
  | system {s text} : TaskStep s (.system text) { s with screen := s.screen.echo text } .handler
  | call {s} : TaskStep s .handler s .point
  | «return» {s} : TaskStep s .point s .handler
  | unlock {s} : TaskStep s .handler { s with lvglLock := none } .usleep
  | usleep {s} : TaskStep s .usleep s .lock

/-- A step of `RunTickThread`. -/
inductive TickStep : GuiState → TickPc → GuiState → TickPc → Prop where
  | usleep {s} : TickStep s .usleep s .lock
  | lock {s} : s.lvglLock = none → TickStep s .lock { s with lvglLock := some .lvglTick } .inc
  | inc {s} : TickStep s .inc { s with elapsed := s.elapsed + 5 } .unlock
  | unlock {s} : TickStep s .unlock { s with lvglLock := none } .usleep

/-- The calls of functions that lock `lvgl_lock`. For those other than the first two, `body` is
what the function does to the objects. -/
inductive GuiCall where
  | guiCleanUp
  | changeLabel (label : GuiObj Button) (text : List Char)
  | other (body : Lvgl Button → Option (Lvgl Button))

/-- The places of a thread that makes such calls. -/
inductive CallerPc where
  | outside
  | lock (call : GuiCall)
  | body (call : GuiCall)
  | cancelTick
  | unlock

/-- `pthread_cancel`. -/
def GuiState.cancel (t : GuiThread) (s : GuiState) : GuiState :=
  { s with cancelled := Function.update s.cancelled t true }

/-- A step of a caller. A call that passes `NULL` to LVGL ends the program, and has no step. -/
inductive CallerStep (i : Nat) : GuiState → CallerPc → GuiState → CallerPc → Prop where
  | call {s} (call) : CallerStep i s .outside s (.lock call)
  | lock {s call} : s.lvglLock = none →
      CallerStep i s (.lock call) { s with lvglLock := some (.caller i) } (.body call)
  | cancelTask {s} : CallerStep i s (.body .guiCleanUp) (s.cancel .lvglTask) .cancelTick
  | cancelTick {s} : CallerStep i s .cancelTick (s.cancel .lvglTick) .unlock
  | changeLabel {s label text gui} : changeLabel label text s.gui = some gui →
      CallerStep i s (.body (.changeLabel label text)) { s with gui } .unlock
  | other {s body gui} : body s.gui = some gui →
      CallerStep i s (.body (.other body)) { s with gui } .unlock
  | unlock {s} : CallerStep i s .unlock { s with lvglLock := none } .outside

/-- The private state of each thread. -/
@[reducible] def GuiLocal : GuiThread → Type
  | .lvglTask => TaskPc
  | .lvglTick => TickPc
  | .caller _ => CallerPc

/-- The code of the threads. -/
def guiCode : System GuiState GuiLocal where
  Step
    | .lvglTask => TaskStep
    | .lvglTick => TickStep
    | .caller i => CallerStep i

/-- The cancellation points inside `lv_task_handler`. -/
@[simp] def TaskPc.AtPoint : TaskPc → Prop
  | .system _ | .point => True
  | .lock | .handler | .usleep => False

/-- How the threads end. The two loops do not end by themselves, and nobody cancels the callers. -/
def guiEndings : Endings GuiState GuiLocal where
  pending t s := s.cancelled t = true
  point
    | .lvglTask, pc => pc = .usleep ∨ pc.AtPoint
    | .lvglTick, pc => pc = .usleep
    | .caller _, _ => False
  last
    | .lvglTask, _ | .lvglTick, _ => False
    | .caller _, pc => pc = .outside

/-- The threads, as they can end. -/
def guiThreads : System GuiState fun t => Option (GuiLocal t) :=
  guiCode.ending guiEndings

/-- The screen with its threads. -/
abbrev GuiConfig := Config GuiState fun t => Option (GuiLocal t)

/-- The two threads start, over any objects. -/
structure GuiStarted (c : GuiConfig) : Prop where
  lvglLock : c.shared.lvglLock = none
  cancelled : ∀ t, c.shared.cancelled t = false
  lvglTask : c.locals .lvglTask = some .lock
  lvglTick : c.locals .lvglTick = some .usleep
  caller : ∀ i, c.locals (.caller i) = some .outside

/-- The lock is not held by a thread that has ended. -/
def LockNotLost (c : GuiConfig) : Prop :=
  ∀ t, c.shared.lvglLock = some t → c.locals t ≠ none

/-- `RunTaskThread` comes to a cancellation point inside `lv_task_handler` only while no request to
cancel it is pending. -/
def pointsUncancelled : StepCondition GuiState fun t => Option (GuiLocal t) := fun c t c' =>
  t = .lvglTask → ∀ pc, c'.locals .lvglTask = some pc → pc.AtPoint →
    c.shared.cancelled .lvglTask = false

/-- Whatever `RunTaskThread` does next, the lock is not lost. -/
def TaskSparesLock (c : GuiConfig) : Prop :=
  ∀ s l, guiThreads.Step .lvglTask c.shared (c.locals .lvglTask) s l →
    LockNotLost (c.move .lvglTask s l)

/-! ## Calls that nobody disturbs -/

section Undisturbed

variable {s : GuiState}

/-- `RunTaskThread` takes the lock, whether a request is pending or not. -/
theorem lock_step (hfree : s.lvglLock = none) :
    guiThreads.Step .lvglTask s (some .lock) { s with lvglLock := some .lvglTask }
      (some .handler) :=
  EndingStep.of_not_point (by simp [guiEndings]) (TaskStep.lock hfree)

/-- The callback of a button comes to its `system`, whether a request is pending or not. -/
theorem clicked_step {o : LvObj} {b : LvButton Button} {button : Button}
    (hwidget : s.gui.widget o = some (.button b)) (hcb : b.cb = some button) :
    guiThreads.Step .lvglTask s (some .handler) { s with screen := s.screen.clicked button }
      (some (.system (s.screen.clicked button).brightnessString)) :=
  EndingStep.of_not_point (by simp [guiEndings]) (TaskStep.clicked hwidget hcb)

/-- A click with no request pending does what the callback does. -/
theorem click_run {o : LvObj} {b : LvButton Button} {button : Button}
    (hwidget : s.gui.widget o = some (.button b)) (hcb : b.cb = some button)
    (hpending : s.cancelled .lvglTask = false) :
    ThreadRun (guiThreads.Step .lvglTask) (fun _ _ => True) s (some .handler)
      { s with screen := buttonCallback s.screen ⟨button, .clicked⟩ } (some .handler) := by
  have hsystem : guiThreads.Step .lvglTask { s with screen := s.screen.clicked button }
      (some (.system (s.screen.clicked button).brightnessString))
      { s with screen := buttonCallback s.screen ⟨button, .clicked⟩ } (some .handler) := by
    rw [← echo_clicked]
    exact .run (by simp [guiEndings, hpending]) TaskStep.system
  exact .head (clicked_step hwidget hcb) trivial (.head hsystem trivial (.refl _ _))

/-- The state after a `GuiCleanUp`. -/
def GuiState.cleanedUp (s : GuiState) : GuiState :=
  { (s.cancel .lvglTask).cancel .lvglTick with lvglLock := none }

/-- A whole `GuiCleanUp`. -/
theorem guiCleanUp_run (i : Nat) (hfree : s.lvglLock = none) :
    ThreadRun (guiThreads.Step (.caller i)) (fun _ _ => True) s (some .outside) s.cleanedUp
      (some .outside) := by
  have hstep {s s' : GuiState} {pc pc' : CallerPc} (h : CallerStep i s pc s' pc') :
      guiThreads.Step (.caller i) s (some pc) s' (some pc') :=
    EndingStep.of_not_point id h
  exact .head (hstep (.call .guiCleanUp)) trivial <| .head (hstep (.lock hfree)) trivial <|
    .head (hstep .cancelTask) trivial <| .head (hstep .cancelTick) trivial <|
    .head (hstep .unlock) trivial (.refl _ _)

/-- With a request pending, and without a cancellation point inside `lv_task_handler`,
`RunTaskThread` ends in `usleep`. -/
theorem usleep_run (hfree : s.lvglLock = none) (hpending : s.cancelled .lvglTask = true) :
    ThreadRun (guiThreads.Step .lvglTask) (fun _ l => ∀ pc, l = some pc → ¬ pc.AtPoint) s
      (some .lock) { s with lvglLock := none } none := by
  have hunlock : guiThreads.Step .lvglTask { s with lvglLock := some .lvglTask } (some .handler)
      { s with lvglLock := none } (some .usleep) :=
    EndingStep.of_not_point (by simp [guiEndings]) TaskStep.unlock
  have hends : guiThreads.Step .lvglTask { s with lvglLock := none } (some .usleep)
      { s with lvglLock := none } none :=
    .cancelled (.inl rfl) hpending
  exact .head (lock_step hfree) (by simp) <| .head hunlock (by simp) <|
    .head hends nofun (.refl _ _)

/-- With a request pending, and a click on a brightness button, `RunTaskThread` ends in `system`,
with the lock. -/
theorem system_run {o : LvObj} {b : LvButton Button} {button : Button}
    (hwidget : s.gui.widget o = some (.button b)) (hcb : b.cb = some button)
    (hfree : s.lvglLock = none) (hpending : s.cancelled .lvglTask = true) :
    ThreadRun (guiThreads.Step .lvglTask) (fun _ _ => True) s (some .lock)
      { s with lvglLock := some .lvglTask, screen := s.screen.clicked button } none := by
  have hclick : guiThreads.Step .lvglTask { s with lvglLock := some .lvglTask } (some .handler)
      { s with lvglLock := some .lvglTask, screen := s.screen.clicked button }
      (some (.system (s.screen.clicked button).brightnessString)) :=
    clicked_step hwidget hcb
  have hends : guiThreads.Step .lvglTask
      { s with lvglLock := some .lvglTask, screen := s.screen.clicked button }
      (some (.system (s.screen.clicked button).brightnessString))
      { s with lvglLock := some .lvglTask, screen := s.screen.clicked button } none :=
    .cancelled (.inr trivial) hpending
  exact .head (lock_step hfree) trivial <| .head hclick trivial <|
    .head hends trivial (.refl _ _)

end Undisturbed

/-! ## The sections -/

/-- The places inside the section of `lvgl_lock`. -/
def GuiInside : (t : GuiThread) → GuiLocal t → Prop
  | .lvglTask, pc => pc = .handler ∨ pc.AtPoint
  | .lvglTick, pc => pc = .inc ∨ pc = .unlock
  | .caller _, pc => (∃ call, pc = .body call) ∨ pc = .cancelTick ∨ pc = .unlock

theorem task_lockMove {s s' : GuiState} {pc pc' : TaskPc} (hstep : TaskStep s pc s' pc') :
    LockMove .lvglTask s.lvglLock s'.lvglLock (GuiInside .lvglTask pc)
      (GuiInside .lvglTask pc') := by
  cases hstep with
  | lock hfree => exact .acquire hfree rfl (.inl rfl)
  | handle => exact .keep rfl .rfl
  | clicked => exact .keep rfl (by simp [GuiInside])
  | system => exact .keep rfl (by simp [GuiInside])
  | call => exact .keep rfl (by simp [GuiInside])
  | «return» => exact .keep rfl (by simp [GuiInside])
  | unlock => exact .release (.inl rfl) rfl (by simp [GuiInside])
  | usleep => exact .keep rfl (by simp [GuiInside])

theorem tick_lockMove {s s' : GuiState} {pc pc' : TickPc} (hstep : TickStep s pc s' pc') :
    LockMove .lvglTick s.lvglLock s'.lvglLock (GuiInside .lvglTick pc)
      (GuiInside .lvglTick pc') := by
  cases hstep with
  | usleep => exact .keep rfl (by simp [GuiInside])
  | lock hfree => exact .acquire hfree rfl (.inl rfl)
  | inc => exact .keep rfl (by simp [GuiInside])
  | unlock => exact .release (.inr rfl) rfl (by simp [GuiInside])

theorem caller_lockMove {i : Nat} {s s' : GuiState} {pc pc' : CallerPc}
    (hstep : CallerStep i s pc s' pc') :
    LockMove (.caller i) s.lvglLock s'.lvglLock (GuiInside (.caller i) pc)
      (GuiInside (.caller i) pc') := by
  cases hstep with
  | call => exact .keep rfl (by simp [GuiInside])
  | lock hfree => exact .acquire hfree rfl (.inl ⟨_, rfl⟩)
  | cancelTask => exact .keep rfl (by simp [GuiInside])
  | cancelTick => exact .keep rfl (by simp [GuiInside])
  | changeLabel => exact .keep rfl (by simp [GuiInside])
  | other => exact .keep rfl (by simp [GuiInside])
  | unlock => exact .release (.inr (.inr rfl)) rfl (by simp [GuiInside])

/-- Every thread moves the lock only where its code says so. -/
theorem gui_lockMove {t : GuiThread} {s s' : GuiState} {l l' : GuiLocal t}
    (hstep : guiCode.Step t s l s' l') :
    LockMove t s.lvglLock s'.lvglLock (GuiInside t l) (GuiInside t l') := by
  cases t with
  | lvglTask => exact task_lockMove hstep
  | lvglTick => exact tick_lockMove hstep
  | caller i => exact caller_lockMove hstep

/-- The steps that lose no lock. -/
abbrev sparesLock : StepCondition GuiState fun t => Option (GuiLocal t) :=
  guiEndings.sparing fun t l (_ : Unit) => GuiInside t l

theorem lvglLock_eq_some_iff {c : GuiConfig} (h : guiThreads.Reach GuiStarted sparesLock c)
    (t : GuiThread) :
    c.shared.lvglLock = some t ↔ ∃ l, c.locals t = some l ∧ GuiInside t l := by
  refine h.owner_running (fun s (_ : Unit) => s.lvglLock) (fun t l _ => GuiInside t l) ?_ ?_ ?_ t ()
  · intro c hc t _
    rw [hc.lvglLock]
    refine iff_of_false nofun ?_
    rintro ⟨l, hl, hinside⟩
    cases t with
    | lvglTask =>
        cases hl.symm.trans hc.lvglTask
        simp [GuiInside] at hinside
    | lvglTick =>
        cases hl.symm.trans hc.lvglTick
        simp [GuiInside] at hinside
    | caller i =>
        cases hl.symm.trans (hc.caller i)
        simp [GuiInside] at hinside
  · intro t s l s' l' hstep _
    exact gui_lockMove hstep
  · intro t l _ hlast hinside
    cases t with
    | lvglTask => exact hlast
    | lvglTick => exact hlast
    | caller i =>
        obtain rfl : l = .outside := hlast
        simp [GuiInside] at hinside

/-- A run that loses no lock has not lost it. -/
theorem lockNotLost_of_reach {c : GuiConfig} (h : guiThreads.Reach GuiStarted sparesLock c) :
    LockNotLost c := by
  intro t howner hended
  obtain ⟨l, hl, _⟩ := (lvglLock_eq_some_iff h t).1 howner
  cases hended.symm.trans hl

/-! ## The cancellation points inside `lv_task_handler` -/

/-- `RunTaskThread` is at no cancellation point inside `lv_task_handler` with a request pending. -/
def PointUncancelled (c : GuiConfig) : Prop :=
  ∀ pc, c.locals .lvglTask = some pc → pc.AtPoint → c.shared.cancelled .lvglTask = false

theorem PointUncancelled.sparesLock {c c' : GuiConfig} (h : PointUncancelled c) (t : GuiThread) :
    sparesLock c t c' := by
  intro l hl hpoint hpending _ hinside
  have hpending : c.shared.cancelled t = true := hpending
  cases t with
  | lvglTask =>
      have hl : c.locals .lvglTask = some l := hl
      rcases hpoint with rfl | hpoint
      · simp [GuiInside] at hinside
      · rw [h l hl hpoint] at hpending
        cases hpending
  | lvglTick =>
      obtain rfl : l = .usleep := hpoint
      simp [GuiInside] at hinside
  | caller i => exact hpoint

theorem TaskStep.cancelled_eq {s s' : GuiState} {pc pc' : TaskPc} (h : TaskStep s pc s' pc') :
    s'.cancelled = s.cancelled := by
  cases h <;> rfl

theorem TickStep.cancelled_eq {s s' : GuiState} {pc pc' : TickPc} (h : TickStep s pc s' pc') :
    s'.cancelled = s.cancelled := by
  cases h <;> rfl

/-- A request is posted with the lock held. -/
theorem CallerStep.cancelled_eq {i : Nat} {s s' : GuiState} {pc pc' : CallerPc}
    (h : CallerStep i s pc s' pc') :
    GuiInside (.caller i) pc ∨ s'.cancelled = s.cancelled := by
  cases h with
  | cancelTask => exact .inl (.inl ⟨_, rfl⟩)
  | cancelTick => exact .inl (.inr (.inl rfl))
  | _ => exact .inr rfl

/-- No step of another thread posts a request to `RunTaskThread` while that is inside
`lv_task_handler`. -/
theorem cancelled_of_step {c : GuiConfig} (h : guiThreads.Reach GuiStarted sparesLock c)
    {pc : TaskPc} (hpc : c.locals .lvglTask = some pc) (hinside : GuiInside .lvglTask pc)
    {t : GuiThread} {s : GuiState} {l : Option (GuiLocal t)}
    (hstep : guiThreads.Step t c.shared (c.locals t) s l) :
    s.cancelled = c.shared.cancelled := by
  have howner := (lvglLock_eq_some_iff h .lvglTask).2 ⟨pc, hpc, hinside⟩
  generalize hlocal : c.locals t = l₀ at hstep
  cases hstep with
  | cancelled => rfl
  | returned => rfl
  | @run l _ _ _ hrun =>
      cases t with
      | lvglTask => exact TaskStep.cancelled_eq hrun
      | lvglTick => exact TickStep.cancelled_eq hrun
      | caller i =>
          rcases CallerStep.cancelled_eq hrun with hcaller | hsame
          · -- two threads would have the lock
            have howner' := (lvglLock_eq_some_iff h (.caller i)).2 ⟨l, hlocal, hcaller⟩
            cases howner.symm.trans howner'
          · exact hsame

theorem guiTask_cancelled {s s' : GuiState} {l l' : Option (GuiLocal .lvglTask)}
    (h : guiThreads.Step .lvglTask s l s' l') : s'.cancelled = s.cancelled := by
  cases h with
  | run _ hrun => exact TaskStep.cancelled_eq hrun
  | cancelled => rfl
  | returned => rfl

/-- As long as `RunTaskThread` comes to the points inside `lv_task_handler` only without a request,
it is at them only without one, and no step loses the lock. -/
theorem sparesLock_of_reach {c : GuiConfig} (h : guiThreads.Reach GuiStarted pointsUncancelled c) :
    guiThreads.Reach GuiStarted sparesLock c ∧ PointUncancelled c := by
  refine h.mono_invariant ?_ ?_
  · intro c hc pc hpc hpoint
    cases hpc.symm.trans hc.lvglTask
    exact absurd hpoint id
  · intro c t s l hreach hpoint hstep hallowed
    refine ⟨hpoint.sparesLock t, fun pc hpc hat => ?_⟩
    by_cases ht : t = .lvglTask
    · subst ht
      have hbefore := hallowed rfl pc hpc hat
      show s.cancelled .lvglTask = false
      rw [guiTask_cancelled hstep, hbefore]
    · -- the thread is still where it was
      rw [Config.move_locals_of_ne c s l (Ne.symm ht)] at hpc
      show s.cancelled .lvglTask = false
      rw [cancelled_of_step hreach hpc (.inr hat) hstep, hpoint pc hpc hat]

/-- `lvgl_lock` is not held by a thread that has ended, as long as `RunTaskThread` comes to a
cancellation point inside `lv_task_handler` only while no request to cancel it is pending; and a
further step meets this exactly if the next step of `RunTaskThread` after it cannot lose the
lock. -/
theorem lvgl_lock_given_back {c : GuiConfig}
    (h : guiThreads.Reach GuiStarted pointsUncancelled c) :
    LockNotLost c ∧
    ∀ t s l, guiThreads.Step t c.shared (c.locals t) s l →
      (TaskSparesLock (c.move t s l) ↔ pointsUncancelled c t (c.move t s l)) := by
  obtain ⟨hreach, hpoint⟩ := sparesLock_of_reach h
  refine ⟨lockNotLost_of_reach hreach, fun t s l hstep => ⟨?_, ?_⟩⟩
  · intro hspares ht pc hpc hat
    subst ht
    by_contra hpending
    -- the lock is held there, and the next step is the end of the thread
    have hafter := hreach.step hstep (hpoint.sparesLock .lvglTask)
    have howner := (lvglLock_eq_some_iff hafter .lvglTask).2 ⟨pc, hpc, .inr hat⟩
    have hcancelled : s.cancelled .lvglTask = true := by
      rw [guiTask_cancelled hstep]
      exact Bool.eq_true_of_not_eq_false hpending
    have hends : guiThreads.Step .lvglTask s ((c.move .lvglTask s l).locals .lvglTask) s none := by
      rw [hpc]
      exact .cancelled (.inr hat) hcancelled
    exact hspares s none hends .lvglTask howner (Config.move_locals_self ..)
  · intro hallowed s' l' hnext
    obtain ⟨hafter, hpoint'⟩ := sparesLock_of_reach (h.step hstep hallowed)
    exact lockNotLost_of_reach (hafter.step hnext (hpoint'.sparesLock .lvglTask))

/-- The threads start over the screen that the set-up leaves. -/
def guiStart : GuiConfig where
  shared :=
    { lvglLock := none
      cancelled := fun _ => false
      gui := (App.started 480 800 ⟨100, 0, zero_le_hundred⟩).gui
      screen := (App.started 480 800 ⟨100, 0, zero_le_hundred⟩).screen
      elapsed := 0 }
  locals
    | .lvglTask => some .lock
    | .lvglTick => some .usleep
    | .caller _ => some .outside

theorem guiStarted_guiStart : GuiStarted guiStart :=
  ⟨rfl, fun _ => rfl, rfl, rfl, fun _ => rfl⟩

/-- `GuiCleanUp` while `RunTaskThread` waits for the lock. -/
def guiCleaned : GuiConfig :=
  guiStart.move (.caller 0) guiStart.shared.cleanedUp (some .outside)

/-- `RunTaskThread` comes to no cancellation point inside `lv_task_handler`, and both threads end
in `usleep`. -/
theorem lvgl_lock_given_back_usleep :
    ∃ c, guiThreads.Reach GuiStarted pointsUncancelled c ∧ c.locals .lvglTask = none ∧
      c.locals .lvglTick = none ∧ LockNotLost c := by
  have hcleaned : guiThreads.Reach GuiStarted pointsUncancelled guiCleaned :=
    (System.Reach.start guiStarted_guiStart).thread (fun _ _ _ _ => nofun)
      (guiCleanUp_run 0 rfl)
  let left := guiCleaned.move .lvglTask { guiCleaned.shared with lvglLock := none } none
  have hleft : guiThreads.Reach GuiStarted pointsUncancelled left := by
    refine hcleaned.thread (fun c s l hok _ pc hpc => ?_) (usleep_run rfl rfl)
    rw [Config.move_locals_self] at hpc
    intro hat
    exact absurd hat (hok pc hpc)
  have htick : guiThreads.Step .lvglTick left.shared (left.locals .lvglTick) left.shared none :=
    .cancelled rfl rfl
  have hended := hleft.step htick nofun
  exact ⟨_, hended, rfl, rfl, (lvgl_lock_given_back hended).1⟩

/-- `RunTaskThread` waits for the lock while `GuiCleanUp` posts the requests, and then the user
clicks on a brightness button: the thread ends in the `system` of the callback. -/
theorem lvgl_lock_lost_in_system :
    ¬ ∀ c, guiThreads.Reach GuiStarted anyStep c → LockNotLost c := by
  intro h
  have hcleaned : guiThreads.Reach GuiStarted anyStep guiCleaned :=
    (System.Reach.start guiStarted_guiStart).thread (fun _ _ _ _ => trivial)
      (guiCleanUp_run 0 rfl)
  have hwidget : ∃ b, guiCleaned.shared.gui.widget ⟨2⟩ = some (.button b) ∧
      b.cb = some .increase :=
    ⟨_, rfl, rfl⟩
  obtain ⟨b, hb, hcb⟩ := hwidget
  have hlost := hcleaned.thread (fun _ _ _ _ => trivial) (system_run hb hcb rfl rfl)
  exact h _ hlost .lvglTask rfl rfl

end BatteryInfo.Core
