import BatteryInfo.Core.CleanUp
import BatteryInfo.Gui.Sections

/-!
# How the program uses the screen

Of the functions of `gui.cpp` the program calls only some, from any number of threads: those that
create a screen, a button, the title or a label, and `ChangeLabel`. The callbacks of its buttons
call none. So no object is ever taken away, and as long as `ChangeLabel` is given a label that a
function has returned, every call finds what it must and `lvgl_lock` can always be given back
(`core_calls_safe`). Its runs are runs of the threads of `BatteryInfo.Core.CleanUp` in which nobody
is cancelled (`core_runs_uncancelled`).
-/

namespace BatteryInfo.Core

open Concurrent Gui

/-- The calls of `core.cpp`. A label that is changed is one that a function has returned. -/
def CoreCall (s : Gui.Shared Button) : ScreenCall Button → Prop
  | .createScreen | .addButton _ | .addTitle _ _ | .addLabel _ _ => True
  | .changeLabel label _ => ∃ o ∈ s.given, label.obj = some o ∧ s.display.IsLabel o
  | _ => False

/-- The callbacks of the two buttons call no function of `gui.cpp`. -/
def callbackCalls : Button → LvObj → List (ScreenCall Button) :=
  fun _ _ => []

/-- A thread of `core.cpp` is about to call a function that the program uses. -/
def BeginsCore (s : Gui.Shared Button) : (t : Gui.Tid) → Gui.Local Button t → Prop
  | .caller _, .lock call => CoreCall s call
  | .caller _, .disable _ | .caller _, .drawLock => False
  | _, _ => True

/-- A label is still one. -/
def LabelsKept (s s' : Gui.Shared Button) : Prop :=
  ∀ o, s.display.IsLabel o → s'.display.IsLabel o

/-- Only these calls are made, and LVGL itself makes nothing else of a label. -/
def coreCalls : StepCondition (Gui.Shared Button) (Gui.Local Button) := fun c t c' =>
  BeginsCore c.shared t (c'.locals t) ∧ (t = .lvglTask → LabelsKept c.shared c'.shared)

/-- The configurations that the program can reach. -/
abbrev AnyCore (width : Int) (c : ScreenConfig Button) : Prop :=
  (screenThreads width callbackCalls).Reach ScreenStart coreCalls c

/-- What the threads are in. -/
def InCore (s : Gui.Shared Button) : (t : Gui.Tid) → Gui.Local Button t → Prop
  | .lvglTask, .callback rest => rest = []
  | .caller _, .lock call | .caller _, .body call => CoreCall s call
  | .caller _, .outside | .caller _, .unlock => True
  | .caller _, _ => False
  | _, _ => True

/-- Nothing was deleted and no screen was cleared. -/
def NothingTaken (log : List Objects.Change) : Prop :=
  ∀ x, .deleted x ∉ log ∧ .cleaned x ∉ log

section Calls

variable {width : Int} {s s' : Gui.Shared Button} {call : ScreenCall Button}

theorem CoreCall.mono (hgiven : ∀ o ∈ s.given, o ∈ s'.given) (hlabels : LabelsKept s s')
    (hcall : CoreCall s call) : CoreCall s' call := by
  cases call with
  | changeLabel label text =>
      obtain ⟨o, ho, hobj, hlabel⟩ := hcall
      exact ⟨o, hgiven o ho, hobj, hlabels o hlabel⟩
  | createScreen | addButton _ | addTitle _ _ | addLabel _ _ => trivial
  | _ => exact hcall.elim

theorem InCore.mono (hgiven : ∀ o ∈ s.given, o ∈ s'.given) (hlabels : LabelsKept s s')
    {t : Gui.Tid} {pc : Gui.Local Button t} (hin : InCore s t pc) : InCore s' t pc := by
  cases t with
  | lvglTask => cases pc <;> exact hin
  | lvglTick => trivial
  | caller i =>
      cases pc with
      | lock call => exact CoreCall.mono hgiven hlabels hin
      | body call => exact CoreCall.mono hgiven hlabels hin
      | _ => exact hin

/-- The calls take nothing away. -/
theorem CoreCall.nothingTaken (hcall : CoreCall s call) (d : Gui.Display Button) :
    NothingTaken (call.changes d) := by
  intro x
  cases call with
  | createScreen | addButton _ | addTitle _ _ | addLabel _ _ | changeLabel _ _ =>
      simp [ScreenCall.changes]
  | _ => exact hcall.elim

/-- They leave every label a label. -/
theorem CoreCall.keepsLabels (hcall : CoreCall s call) {d d' : Gui.Display Button}
    {r : Option LvObj} (hrun : call.run width d = some (r, d')) {o : LvObj} (ho : d.IsLabel o) :
    d'.IsLabel o := by
  cases call with
  | createScreen =>
      cases hrun
      exact ho.load
  | addButton btn =>
      obtain ⟨⟨_, d₂⟩, hbutton, heq⟩ := Option.map_eq_some_iff.1 hrun
      cases heq
      obtain ⟨⟨button, d₁⟩, hadd, hon⟩ := Option.bind_eq_some_iff.1 hbutton
      obtain ⟨⟨_, d₂⟩, haddTo, heq⟩ := Option.bind_eq_some_iff.1 hon
      cases heq
      obtain ⟨d₁', hadd', hadds⟩ := Display.add_eq _ d
      cases hadd.symm.trans hadd'
      obtain ⟨d₂', haddTo', hadds'⟩ := Display.addTo_eq hadds.self _
      cases haddTo.symm.trans haddTo'
      exact hadds'.isLabel (hadds.isLabel ho)
  | addTitle title text =>
      obtain ⟨⟨_, d₂⟩, htitle, heq⟩ := Option.map_eq_some_iff.1 hrun
      cases heq
      obtain ⟨⟨label, d₁⟩, hadd, hunder⟩ := Option.bind_eq_some_iff.1 htitle
      obtain ⟨⟨line, d₂⟩, hline, heq⟩ := Option.bind_eq_some_iff.1 hunder
      cases heq
      obtain ⟨d₁', hadd', hadds⟩ := Display.add_eq _ d
      cases hadd.symm.trans hadd'
      obtain ⟨d₂', hline', hadds'⟩ := Display.add_eq .line d₁
      cases hline.symm.trans hline'
      exact hadds'.isLabel (hadds.isLabel ho)
  | addLabel obj text =>
      obtain ⟨⟨_, d₁⟩, hadd, heq⟩ := Option.map_eq_some_iff.1 hrun
      cases heq
      obtain ⟨d₁', hadd', hadds⟩ := Display.add_eq _ d
      cases hadd.symm.trans hadd'
      exact hadds.isLabel ho
  | changeLabel label text =>
      obtain ⟨d₁, hchange, heq⟩ := Option.map_eq_some_iff.1 hrun
      cases heq
      obtain ⟨_, _, _, hmodify⟩ := Display.changeLabel_some hchange
      exact (Display.isLabel_modify_iff (Display.isLabel_relabel label text) hmodify o).2 ho
  | _ => exact hcall.elim

/-- They find what they must. -/
theorem CoreCall.defined (hcall : CoreCall s call) :
    call.Known s.given ∧ call.Defined s.display := by
  cases call with
  | changeLabel label text =>
      obtain ⟨o, ho, hobj, hlabel⟩ := hcall
      refine ⟨fun o' ho' => ?_, o, hobj, hlabel⟩
      obtain rfl := Option.some.inj (hobj.symm.trans ho')
      exact ho
  | createScreen | addButton _ | addTitle _ _ | addLabel _ _ => exact ⟨nofun, trivial⟩
  | _ => exact hcall.elim

theorem NothingTaken.append {log more : List Objects.Change} (h : NothingTaken log)
    (hmore : NothingTaken more) : NothingTaken (log ++ more) := by
  intro x
  constructor
  · intro hin
    rcases List.mem_append.1 hin with hin | hin
    · exact (h x).1 hin
    · exact (hmore x).1 hin
  · intro hin
    rcases List.mem_append.1 hin with hin | hin
    · exact (h x).2 hin
    · exact (hmore x).2 hin

end Calls

section Steps

variable {width : Int} {s s' : Gui.Shared Button}

/-- What a step of the program does: the log, the pointers and the labels grow, and nothing is
taken. -/
structure CoreStep (s s' : Gui.Shared Button) (t : Gui.Tid) (pc' : Gui.Local Button t) : Prop where
  given : ∀ o ∈ s.given, o ∈ s'.given
  labels : LabelsKept s s'
  taken : NothingTaken s.log → NothingTaken s'.log
  inCore : InCore s' t pc'

/-- A step that leaves the log and the pointers. -/
theorem CoreStep.keep {t : Gui.Tid} {pc' : Gui.Local Button t} (hlog : s'.log = s.log)
    (hgiven : s'.given = s.given) (hlabels : LabelsKept s s') (hin : InCore s t pc') :
    CoreStep s s' t pc' := by
  have hgrows : ∀ o ∈ s.given, o ∈ s'.given := fun _ ho => hgiven ▸ ho
  exact ⟨hgrows, hlabels, fun htaken => hlog ▸ htaken, hin.mono hgrows hlabels⟩

theorem coreStep_task {pc pc' : Gui.TaskPc Button}
    (h : Gui.TaskStep width callbackCalls s pc s' pc') (hin : InCore s .lvglTask pc)
    (hnot : NotPast .lvglTask pc) (hlabels : LabelsKept s s') : CoreStep s s' .lvglTask pc' := by
  cases h with
  | event => exact .keep rfl rfl hlabels rfl
  | unlocked => cases hin
  | relock => cases hin
  | body => exact hnot.elim
  | giveBack => exact hnot.elim
  | _ => exact .keep rfl rfl hlabels trivial

theorem coreStep_tick {pc pc' : Gui.TickPc} (h : Gui.TickStep s pc s' pc') :
    CoreStep s s' .lvglTick pc' := by
  cases h <;> exact .keep rfl rfl (fun _ => id) trivial

theorem coreStep_caller {i : Nat} {pc pc' : Gui.CallerPc Button}
    (h : Gui.CallerStep width i s pc s' pc') (hin : InCore s (.caller i) pc)
    (hbegins : BeginsCore s (.caller i) pc') : CoreStep s s' (.caller i) pc' := by
  cases h with
  | call => exact .keep rfl rfl (fun _ => id) hbegins
  | lock => exact .keep rfl rfl (fun _ => id) hin
  | body hdoes =>
      have hcall : CoreCall s _ := hin
      refine ⟨fun o ho => ?_, fun o ho => hcall.keepsLabels hdoes.run ho, fun htaken => ?_, trivial⟩
      · rw [hdoes.given]
        exact List.mem_append_left _ ho
      · rw [hdoes.log]
        exact htaken.append (hcall.nothingTaken _)
  | unlock => exact .keep rfl rfl (fun _ => id) trivial
  | callDisable => exact hbegins.elim
  | callDraw => exact hbegins.elim
  | _ => exact hin.elim

end Steps

section Reached

variable {width : Int} {c : ScreenConfig Button}

theorem anyScreen_of_core (h : AnyCore width c) : AnyScreen width callbackCalls c :=
  h.mono fun _ _ _ _ => trivial

/-- In every configuration that the program reaches nothing was taken, and the threads are in calls
that it uses. -/
theorem core_kept (h : AnyCore width c) :
    NothingTaken c.shared.log ∧ ∀ t, InCore c.shared t (c.locals t) := by
  refine h.invariant (P := fun c =>
    NothingTaken c.shared.log ∧ ∀ t, InCore c.shared t (c.locals t)) ?_ ?_
  · intro c hstart
    refine ⟨?_, fun t => ?_⟩
    · rw [hstart.log]
      exact fun x => ⟨by simp, by simp⟩
    · cases t with
      | lvglTask =>
          rw [hstart.lvglTask]
          trivial
      | lvglTick => trivial
      | caller i =>
          rw [hstart.caller i]
          trivial
  · intro c t sh l hreach ⟨htaken, hin⟩ hs ⟨hbegins, hlabels⟩
    rw [Config.move_locals_self] at hbegins
    have hstep : CoreStep c.shared sh t l := by
      cases t with
      | lvglTask =>
          have howned := lvglLock_owned (anyScreen_of_core hreach) .lvglTask
          exact coreStep_task hs (hin .lvglTask) howned.2 (hlabels rfl)
      | lvglTick => exact coreStep_tick hs
      | caller i => exact coreStep_caller hs (hin (.caller i)) hbegins
    refine ⟨hstep.taken htaken, fun u => ?_⟩
    by_cases hut : u = t
    · subst hut
      rw [Config.move_locals_self]
      exact hstep.inCore
    · rw [Config.move_locals_of_ne c sh l hut]
      exact (hin u).mono hstep.given hstep.labels

/-- Where no call begins the program makes none that it does not use. -/
theorem beginsCore_of_not_begins {s : Gui.Shared Button} {i : Nat} {pc : Gui.CallerPc Button}
    (h : ¬ Begins pc) : BeginsCore s (.caller i) pc := by
  cases pc with
  | lock | disable | drawLock => exact absurd trivial h
  | _ => trivial

/-- The thread that has the lock goes on to the release. -/
theorem core_released (h : AnyCore width c) :
    ∃ c', (screenThreads width callbackCalls).Reach (· = c) coreCalls c' ∧
      c'.shared.lvglLock = none := by
  obtain ⟨_, hin⟩ := core_kept h
  have hany := anyScreen_of_core h
  have hstart : (screenThreads width callbackCalls).Reach (· = c) coreCalls c := .start rfl
  cases hheld : c.shared.lvglLock with
  | none => exact ⟨c, hstart, hheld⟩
  | some t =>
      obtain ⟨hinside, hnot⟩ := (lvglLock_owned hany t).imp (fun howner => howner.1 hheld) id
      have hint := hin t
      cases t with
      | lvglTask =>
          -- neither the end of a callback nor the release changes an object
          have hunlock (c' : ScreenConfig Button) (hpc : c'.locals .lvglTask = .handler) :
              Gui.TaskStep width callbackCalls c'.shared (c'.locals .lvglTask)
                { c'.shared with lvglLock := none } .usleep := hpc ▸ .unlock
          generalize hpc : c.locals .lvglTask = pc at hinside hnot hint
          cases pc with
          | handler =>
              exact ⟨_, hstart.step (t := Gui.Tid.lvglTask) (hunlock c hpc)
                ⟨trivial, fun _ _ => id⟩, rfl⟩
          | callback rest =>
              obtain rfl : rest = [] := hint
              have hreturn : Gui.TaskStep width callbackCalls c.shared (c.locals .lvglTask)
                  c.shared .handler := hpc ▸ .return
              have hreturned := hstart.step (t := Gui.Tid.lvglTask) hreturn
                ⟨trivial, fun _ _ => id⟩
              exact ⟨_, hreturned.step (t := Gui.Tid.lvglTask)
                (hunlock _ (Config.move_locals_self ..)) ⟨trivial, fun _ _ => id⟩, rfl⟩
          | _ => exact hinside.elim
      | lvglTick =>
          obtain ⟨s', hrun, hfree⟩ := tick_run c.shared hinside
          exact ⟨_, hstart.thread (t := Gui.Tid.lvglTick) (fun _ _ _ _ => ⟨trivial, nofun⟩) hrun,
            hfree⟩
      | caller i =>
          have hgoes : Goes c.shared (.caller i) (c.locals (.caller i)) := by
            generalize c.locals (.caller i) = pc at hint
            cases pc with
            | body call => exact CoreCall.defined hint
            | sectionBody => exact hint.elim
            | _ => trivial
          obtain ⟨s', pc', hrun, hfree⟩ := caller_released hany hheld hgoes
          refine ⟨_, hstart.thread (t := Gui.Tid.caller i) ?_ hrun, hfree⟩
          intro c sh l hbegins
          refine ⟨?_, nofun⟩
          rw [Config.move_locals_self]
          exact beginsCore_of_not_begins hbegins

/-! ## The threads that can be cancelled -/

/-- What is left of a new screen among the labels and buttons: its pointer is not given again. -/
def withScreen (g : Lvgl Button) : Lvgl Button where
  widget := g.widget
  next := g.next + 1
  fresh := fun o ho => g.fresh o (Nat.le_of_succ_le ho)

/-- The body of a call over the labels and buttons. -/
def callBody (width : Int) : ScreenCall Button → Lvgl Button → Option (Lvgl Button)
  | .createScreen, g => some (withScreen g)
  | .addButton btn, g => some (Gui.addButton btn g).2
  | .addTitle title text, g => some (Gui.addTitle width title text g).2
  | .addLabel obj text, g => some (Gui.addLabel obj text g).2
  | .changeLabel label text, g => Gui.changeLabel label text g
  | _, _ => none

/-- The call of `BatteryInfo.Core.CleanUp`. -/
def guiCall (width : Int) : ScreenCall Button → GuiCall
  | .changeLabel label text => .changeLabel label text
  | call => .other (callBody width call)

/-- The place there. A callback, of which nothing is left to do here, may be at a cancellation
point. -/
def guiPlace (width : Int) : (t : Gui.Tid) → Gui.Local Button t → GuiLocal t
  | .lvglTask, .lock => TaskPc.lock
  | .lvglTask, .handler => TaskPc.handler
  | .lvglTask, .usleep => TaskPc.usleep
  | .lvglTask, _ => TaskPc.point
  | .lvglTick, pc => pc
  | .caller _, .lock call => CallerPc.lock (guiCall width call)
  | .caller _, .body call => CallerPc.body (guiCall width call)
  | .caller _, .unlock => CallerPc.unlock
  | .caller _, _ => CallerPc.outside

/-- The shared state there, with nobody cancelled. -/
def guiState (screen : Screen) (s : Gui.Shared Button) : GuiState where
  lvglLock := s.lvglLock
  cancelled := fun _ => false
  gui := s.display.lvgl
  screen := screen
  elapsed := s.elapsed

/-- The configuration there. -/
def guiConfig (width : Int) (screen : Screen) (c : ScreenConfig Button) : GuiConfig where
  shared := guiState screen c.shared
  locals := fun t => some (guiPlace width t (c.locals t))

theorem guiConfig_move {screen : Screen} {t : Gui.Tid} (s : Gui.Shared Button)
    (l : Gui.Local Button t) : guiConfig width screen (c.move t s l) =
      (guiConfig width screen c).move t (guiState screen s) (some (guiPlace width t l)) := by
  refine congrArg (Config.mk (guiState screen s)) (funext fun u => ?_)
  show some (guiPlace width u ((c.move t s l).locals u)) = Function.update
    (fun u => some (guiPlace width u (c.locals u))) t (some (guiPlace width t l)) u
  by_cases hut : u = t
  · subst hut
    rw [Config.move_locals_self, Function.update_self]
  · rw [Config.move_locals_of_ne c s l hut, Function.update_of_ne hut]

/-- A call does there what it does here. -/
theorem CoreCall.body_eq {s : Gui.Shared Button} {call : ScreenCall Button}
    (hcall : CoreCall s call) {d : Gui.Display Button} {r : Option LvObj}
    (hrun : call.run width s.display = some (r, d)) :
    callBody width call s.display.lvgl = some d.lvgl := by
  cases call with
  | createScreen =>
      cases hrun
      refine congrArg some (Lvgl.eq_of_widget (fun o => ?_) rfl)
      show (s.display.forest.node o.handle).bind _ = (s.display.load.forest.node o.handle).bind _
      by_cases ho : o.handle = s.display.forest.next
      · rw [ho, s.display.forest.fresh _ (Nat.le_refl _)]
        show _ = ((s.display.forest.addRoot _).node s.display.forest.next).bind _
        rw [Objects.Forest.node_addRoot_self]
        rfl
      · show _ = ((s.display.forest.addRoot _).node o.handle).bind _
        rw [Objects.Forest.node_addRoot_of_ne _ ho]
  | addButton btn =>
      obtain ⟨d', hadd, hlvgl⟩ := Display.lvgl_addButton btn s.display
      obtain ⟨_, hadd', heq⟩ := Option.map_eq_some_iff.1 hrun
      cases hadd.symm.trans hadd'
      cases heq
      exact congrArg some hlvgl.symm
  | addTitle title text =>
      obtain ⟨d', hadd, hlvgl⟩ := Display.lvgl_addTitle width title text s.display
      obtain ⟨_, hadd', heq⟩ := Option.map_eq_some_iff.1 hrun
      cases hadd.symm.trans hadd'
      cases heq
      exact congrArg some hlvgl.symm
  | addLabel obj text =>
      obtain ⟨d', hadd, hlvgl⟩ := Display.lvgl_addLabel obj text s.display
      obtain ⟨_, hadd', heq⟩ := Option.map_eq_some_iff.1 hrun
      cases hadd.symm.trans hadd'
      cases heq
      exact congrArg some hlvgl.symm
  | changeLabel label text =>
      obtain ⟨o, _, hobj, hlabel⟩ := hcall
      obtain ⟨d', hchange, hlvgl⟩ := Display.lvgl_changeLabel hobj hlabel text
      obtain ⟨_, hchange', heq⟩ := Option.map_eq_some_iff.1 hrun
      cases hchange.symm.trans hchange'
      cases heq
      exact hlvgl
  | _ => exact hcall.elim

section Steps

variable {screen : Screen} {s s' : Gui.Shared Button}

theorem guiCode_task {pc pc' : Gui.TaskPc Button}
    (h : Gui.TaskStep width callbackCalls s pc s' pc') (hin : InCore s .lvglTask pc)
    (hnot : NotPast .lvglTask pc) :
    TaskStep (guiState screen s) (guiPlace width .lvglTask pc) (guiState screen s')
      (guiPlace width .lvglTask pc') := by
  cases h with
  | lock hfree => exact .lock hfree
  | handle => exact .handle _
  | event => exact .call
  | unlocked => cases hin
  | relock => cases hin
  | body => exact hnot.elim
  | giveBack => exact hnot.elim
  | «return» => exact .return
  | unlock => exact .unlock
  | usleep => exact .usleep

theorem guiCode_tick {pc pc' : Gui.TickPc} (h : Gui.TickStep s pc s' pc') :
    TickStep (guiState screen s) pc (guiState screen s') pc' := by
  cases h with
  | usleep => exact .usleep
  | lock hfree => exact .lock hfree
  | inc => exact .inc
  | unlock => exact .unlock

theorem guiCode_caller {i : Nat} {pc pc' : Gui.CallerPc Button}
    (h : Gui.CallerStep width i s pc s' pc') (hin : InCore s (.caller i) pc)
    (hbegins : BeginsCore s (.caller i) pc') :
    CallerStep i (guiState screen s) (guiPlace width (.caller i) pc) (guiState screen s')
      (guiPlace width (.caller i) pc') := by
  cases h with
  | call => exact .call _
  | lock hfree => exact .lock hfree
  | @body call r s' hdoes =>
      have hcall : CoreCall s call := hin
      have hbody := hcall.body_eq hdoes.run
      have hstate : guiState screen s' = { guiState screen s with gui := s'.display.lvgl } := by
        unfold guiState
        rw [hdoes.lvglLock, hdoes.elapsed]
      rw [hstate]
      cases call with
      | changeLabel label text => exact .changeLabel hbody
      | createScreen | addButton | addTitle | addLabel => exact .other hbody
      | _ => exact hcall.elim
  | unlock => exact .unlock
  | callDisable => exact hbegins.elim
  | callDraw => exact hbegins.elim
  | _ => exact hin.elim

end Steps

/-- Every run of the program is one of the threads that can be cancelled, in which nobody is. -/
theorem core_runs_uncancelled (h : AnyCore width c) (screen : Screen) :
    guiThreads.Reach GuiStarted pointsUncancelled (guiConfig width screen c) := by
  refine h.invariant (P := fun c =>
    guiThreads.Reach GuiStarted pointsUncancelled (guiConfig width screen c)) ?_ ?_
  · intro c hstart
    refine .start ⟨hstart.lvglLock, fun _ => rfl, ?_, ?_, fun i => ?_⟩
    · show some (guiPlace width .lvglTask (c.locals .lvglTask)) = _
      rw [hstart.lvglTask]
      rfl
    · show some (guiPlace width .lvglTick (c.locals .lvglTick)) = _
      rw [hstart.lvglTick]
      rfl
    · show some (guiPlace width (.caller i) (c.locals (.caller i))) = _
      rw [hstart.caller i]
      rfl
  · intro c t sh l hreach hgui hs ⟨hbegins, _⟩
    rw [Config.move_locals_self] at hbegins
    rw [guiConfig_move]
    have hin := (core_kept hreach).2 t
    have hcode : guiCode.Step t (guiState screen c.shared) (guiPlace width t (c.locals t))
        (guiState screen sh) (guiPlace width t l) := by
      cases t with
      | lvglTask =>
          exact guiCode_task hs hin (lvglLock_owned (anyScreen_of_core hreach) .lvglTask).2
      | lvglTick => exact guiCode_tick hs
      | caller i => exact guiCode_caller hs hin hbegins
    refine hgui.step (.run ?_ hcode) fun _ _ _ _ => rfl
    rintro ⟨_, hpending⟩
    cases hpending

/-! ## What the program does -/

/-- Whatever the threads of the program and of LVGL do: every object that a function has returned is
there, every call that is made finds what it must, and the lock can be given back. -/
theorem core_calls_safe (h : AnyCore width c) :
    (∀ o ∈ c.shared.given, c.shared.display.Alive o) ∧
      (∀ i call, c.locals (.caller i) = .body call →
        call.Known c.shared.given ∧ call.Defined c.shared.display) ∧
      ∃ c', (screenThreads width callbackCalls).Reach (· = c) coreCalls c' ∧
        c'.shared.lvglLock = none := by
  obtain ⟨htaken, hin⟩ := core_kept h
  have hany := anyScreen_of_core h
  refine ⟨fun o ho => ?_, fun i call hpc => ?_, core_released h⟩
  · obtain ⟨scr, after, hcreated⟩ := (traced hany).ofGiven o ho
    rw [alive_iff_of_created hany hcreated]
    obtain ⟨before, hsplit, _⟩ := hcreated
    refine ⟨fun hdeleted => (htaken o.handle).1 ?_, fun hcleaned => (htaken scr).2 ?_⟩
    · simp [hsplit, hdeleted]
    · simp [hsplit, hcleaned]
  · have hcall := hin (.caller i)
    rw [hpc] at hcall
    exact CoreCall.defined hcall

end Reached

/-- A variable with the first object. -/
def firstLabel : GuiObj Button :=
  { (GuiObj.static : GuiObj Button) with obj := some ⟨1⟩ }

/-- A label is added, and `ChangeLabel` is about to change its text. -/
theorem core_calls_safe_added :
    ∃ c : ScreenConfig Button, AnyCore 480 c ∧ ⟨1⟩ ∈ c.shared.given ∧
      c.locals (.caller 0) = .body (.changeLabel firstLabel []) ∧
      (∀ o ∈ c.shared.given, c.shared.display.Alive o) ∧
      (ScreenCall.changeLabel firstLabel []).Defined c.shared.display ∧
      ∃ c', (screenThreads 480 callbackCalls).Reach (· = c) coreCalls c' ∧
        c'.shared.lvglLock = none := by
  obtain ⟨d, hd, n, hn, hlabel⟩ : ∃ d,
      (ScreenCall.addLabel (κ := Button) .static []).run 480 .initial = some (some ⟨1⟩, d) ∧
        ∃ n, d.forest.node 1 = some n ∧ n.data.kind.isLabel = true :=
    ⟨_, rfl, _, rfl, rfl⟩
  have hdoes : (ScreenCall.addLabel GuiObj.static []).Does 480
      { startScreen.shared with lvglLock := some (.caller 0) } (some ⟨1⟩)
      ⟨some (.caller 0), d, [], 0, [.created 0 [], .created 1 [0]], [⟨1⟩]⟩ :=
    ⟨nofun, hd, rfl, rfl, rfl, rfl, rfl⟩
  have hcall : Gui.CallerStep (κ := Button) 480 0 startScreen.shared .outside startScreen.shared
      (.lock (.addLabel .static [])) := .call rfl
  have hrun : ThreadRun (Gui.CallerStep 480 0) (fun _ l => ∀ s, BeginsCore s (.caller 0) l)
      startScreen.shared .outside _ .outside :=
    .head hcall (fun _ => trivial) (.head (.lock rfl) (fun _ => trivial)
      (.head (.body hdoes) (fun _ => trivial) (.head .unlock (fun _ => trivial) (.refl _ _))))
  have hstart : AnyCore 480 startScreen := .start screenStart_startScreen
  have hadded := hstart.thread (t := Gui.Tid.caller 0) (fun c sh l hok => ?_) hrun
  · -- the label that is passed is the one that was returned
    have hchange : Gui.CallerStep 480 0 _ .outside _ (.lock (.changeLabel firstLabel [])) :=
      .call (s := ⟨none, d, [], 0, [.created 0 [], .created 1 [0]], [⟨1⟩]⟩) rfl
    have hbegun := hadded.step (t := Gui.Tid.caller 0) hchange
      ⟨⟨⟨1⟩, List.mem_singleton.2 rfl, rfl, n, hn, hlabel⟩, nofun⟩
    have hlocked := hbegun.step (t := Gui.Tid.caller 0) (.lock rfl) ⟨trivial, nofun⟩
    obtain ⟨halive, hdefined, hreleased⟩ := core_calls_safe hlocked
    exact ⟨_, hlocked, List.mem_singleton.2 rfl, rfl, halive, (hdefined 0 _ rfl).2, hreleased⟩
  · refine ⟨?_, nofun⟩
    rw [Config.move_locals_self]
    exact hok _

end BatteryInfo.Core
