import BatteryInfo.Concurrent.Interleaving
import BatteryInfo.Core.LabelUpdates

/-!
# What is drawn

A label keeps a reference to the text that `ChangeLabel` is given, and `lv_task_handler` reads it
when it draws. The text of a monitor is in a string of one iteration of its loop, and destroyed
at the end of it, while `lvgl_lock` guards the assignment of the reference only. What the handler
draws is the last text of a label only as long as it does not draw between the end of an
iteration and the next `ChangeLabel` (`drawn_as_written`).
-/

namespace BatteryInfo.Core

open Gui Concurrent

/-- The buffers that a label may refer to: that of the variable of the label, and that of the
string of an iteration. -/
inductive Buffer where
  | variable (m : Monitor)
  | iteration (m : Monitor) (n : Nat)
deriving DecidableEq

/-- The threads: `RunTaskThread`, and the monitors. -/
inductive Tid where
  | handler
  | monitor (m : Monitor)
deriving DecidableEq

/-- The handler has drawn a label: the content of the buffer that it refers to, if it exists, and
the text passed to the last `ChangeLabel`. -/
structure Drawn where
  monitor : Monitor
  seen : Option (List Char)
  latest : List Char

/-- What the threads share. `latest` and `drawn` record what happened. -/
structure Display where
  lvglLock : Option Tid
  /-- The content of the buffers that exist. -/
  buffer : Buffer → Option (List Char)
  /-- The buffer that a label refers to. -/
  ref : Monitor → Buffer
  color : Monitor → Color
  /-- The text that was passed to the last `ChangeLabel`, and to `AddLabel` before the first. -/
  latest : Monitor → List Char
  drawn : List Drawn

/-- The places in an iteration of a monitor, with its number. -/
inductive MonitorPc where
  | read (n : Nat)
  | lock (n : Nat) (color : Color)
  | set (n : Nat) (color : Color)
  | unlock (n : Nat)
  | leave (n : Nat)

/-- A step of a monitor. A reading for which the string library throws has no step. -/
inductive MonitorStep (m : Monitor) : Display → MonitorPc → Display → MonitorPc → Prop where
  | read {d n reading shown} : m.shown reading = some shown →
      MonitorStep m d (.read n)
        { d with buffer := Function.update d.buffer (.iteration m n) (some shown.text) }
        (.lock n shown.color)
  | lock {d n color} : d.lvglLock = none →
      MonitorStep m d (.lock n color) { d with lvglLock := some (.monitor m) } (.set n color)
  | set {d n color text} : d.buffer (.iteration m n) = some text →
      MonitorStep m d (.set n color)
        { d with
          ref := Function.update d.ref m (.iteration m n)
          color := Function.update d.color m color
          latest := Function.update d.latest m text }
        (.unlock n)
  | unlock {d n} : MonitorStep m d (.unlock n) { d with lvglLock := none } (.leave n)
  | leave {d n} :
      MonitorStep m d (.leave n)
        { d with buffer := Function.update d.buffer (.iteration m n) none } (.read (n + 1))

/-- The places of the handler: outside, in `lv_task_handler`, and at a label that it draws. -/
inductive HandlerPc where
  | outside
  | inside
  | drawing (m : Monitor)

/-- A step of the handler. -/
inductive HandlerStep : Display → HandlerPc → Display → HandlerPc → Prop where
  | lock {d} : d.lvglLock = none →
      HandlerStep d .outside { d with lvglLock := some .handler } .inside
  | choose {d} (m) : HandlerStep d .inside d (.drawing m)
  | draw {d m} :
      HandlerStep d (.drawing m)
        { d with drawn := d.drawn ++ [⟨m, d.buffer (d.ref m), d.latest m⟩] } .inside
  | unlock {d} : HandlerStep d .inside { d with lvglLock := none } .outside

/-- The private state of each thread. -/
@[reducible] def Local : Tid → Type
  | .handler => HandlerPc
  | .monitor _ => MonitorPc

/-- All threads together. -/
def display : System Display Local where
  Step
    | .handler => HandlerStep
    | .monitor m => MonitorStep m

/-- The display after the set-up, when each label refers to the text of its variable. -/
def displayStarted (a : App) : Config Display Local where
  shared :=
    { lvglLock := none
      buffer := fun
        | .variable m => some (a.objs m.label).text
        | .iteration _ _ => none
      ref := .variable
      color := fun m => (a.objs m.label).color
      latest := fun m => (a.objs m.label).text
      drawn := [] }
  locals
    | .handler => .outside
    | .monitor _ => .read 0

/-- Whatever was drawn was there, and was the last text of its label. -/
def DrawnAsWritten (d : Display) : Prop :=
  ∀ drawn ∈ d.drawn, drawn.seen = some drawn.latest

/-- The monitor has not ended an iteration yet, or has changed its label in this one. -/
def MonitorPc.Fresh : MonitorPc → Prop
  | .read n | .lock n _ | .set n _ => n = 0
  | .unlock _ | .leave _ => True

/-- The handler does not draw a label between the end of an iteration of its monitor and the
next `ChangeLabel`. -/
def drawsFresh : StepCondition Display Local := fun c t _ =>
  t = .handler → ∀ m, c.locals .handler = .drawing m → (c.locals (.monitor m)).Fresh

/-! ## Iterations that nobody disturbs -/

/-- The display after a monitor has changed its label in iteration `n`. -/
def Display.changed (m : Monitor) (n : Nat) (shown : Shown) (d : Display) : Display :=
  { d with
    buffer := Function.update d.buffer (.iteration m n) (some shown.text)
    ref := Function.update d.ref m (.iteration m n)
    color := Function.update d.color m shown.color
    latest := Function.update d.latest m shown.text
    lvglLock := none }

/-- The display after the end of iteration `n`. -/
def Display.ended (m : Monitor) (n : Nat) (d : Display) : Display :=
  { d with buffer := Function.update d.buffer (.iteration m n) none }

/-- The display after the handler has drawn a label. -/
def Display.draws (m : Monitor) (d : Display) : Display :=
  { d with
    drawn := d.drawn ++ [⟨m, d.buffer (d.ref m), d.latest m⟩]
    lvglLock := none }

section Undisturbed

variable {d : Display} {m : Monitor} {n : Nat} {reading : m.Reading} {shown : Shown}

/-- A monitor up to the end of `ChangeLabel`. -/
theorem change_run (hshown : m.shown reading = some shown) (hfree : d.lvglLock = none) :
    ThreadRun (MonitorStep m) (fun _ _ => True) d (.read n) (d.changed m n shown) (.leave n) :=
  .head (.read hshown) trivial <| .head (.lock hfree) trivial <|
    .head (.set (Function.update_self ..)) trivial <| .head .unlock trivial (.refl _ _)

/-- A whole iteration of a monitor. -/
theorem iteration_run (hshown : m.shown reading = some shown) (hfree : d.lvglLock = none) :
    ThreadRun (MonitorStep m) (fun _ _ => True) d (.read n) ((d.changed m n shown).ended m n)
      (.read (n + 1)) :=
  (change_run hshown hfree).trans (.head .leave trivial (.refl _ _))

/-- The handler draws one label. -/
theorem draw_run (hfree : d.lvglLock = none) :
    ThreadRun HandlerStep (fun _ _ => True) d .outside (d.draws m) .outside :=
  .head (.lock hfree) trivial <| .head (.choose m) trivial <| .head .draw trivial <|
    .head .unlock trivial (.refl _ _)

end Undisturbed

/-! ## The outline -/

/-- What iteration `n` of a monitor finds: the text of the variable, or that of the iteration
before, which does not exist any more. -/
def FoundBy (m : Monitor) : Nat → Display → Prop
  | 0, d => d.ref m = .variable m ∧ d.buffer (.variable m) = some (d.latest m)
  | n + 1, d => d.ref m = .iteration m n ∧ d.buffer (.iteration m n) = none

/-- What a monitor claims at its place. -/
def MonitorAt (m : Monitor) : MonitorPc → Display → Prop
  | .read n, d => FoundBy m n d
  | .lock n _, d | .set n _, d => FoundBy m n d
  | .unlock n, d | .leave n, d =>
      d.ref m = .iteration m n ∧ d.buffer (.iteration m n) = some (d.latest m)

/-- The text of a monitor is changed by nobody else. -/
structure Untouched (m : Monitor) (d d' : Display) : Prop where
  ref : d'.ref m = d.ref m
  latest : d'.latest m = d.latest m
  ofVariable : d'.buffer (.variable m) = d.buffer (.variable m)
  iteration : ∀ n, d'.buffer (.iteration m n) = d.buffer (.iteration m n)

/-- The buffers of a monitor are its own. -/
theorem Untouched.update_iteration {m m' : Monitor} (hm : m' ≠ m) (n : Nat)
    (text : Option (List Char)) (d : Display) :
    Untouched m' d { d with buffer := Function.update d.buffer (.iteration m n) text } where
  ref := rfl
  latest := rfl
  ofVariable := by simp
  iteration := fun _ => Function.update_of_ne (fun heq => hm (Buffer.iteration.inj heq).1) _ _

theorem FoundBy.of_untouched {m : Monitor} {n : Nat} {d d' : Display} (h : FoundBy m n d)
    (hsame : Untouched m d d') : FoundBy m n d' := by
  cases n with
  | zero => exact ⟨hsame.ref.trans h.1, by rw [hsame.ofVariable, hsame.latest]; exact h.2⟩
  | succ n => exact ⟨hsame.ref.trans h.1, (hsame.iteration n).trans h.2⟩

theorem MonitorAt.of_untouched {m : Monitor} {pc : MonitorPc} {d d' : Display}
    (h : MonitorAt m pc d) (hsame : Untouched m d d') : MonitorAt m pc d' := by
  cases pc with
  | read n => exact FoundBy.of_untouched h hsame
  | lock n color => exact FoundBy.of_untouched h hsame
  | set n color => exact FoundBy.of_untouched h hsame
  | unlock n | leave n =>
      refine ⟨hsame.ref.trans h.1, ?_⟩
      rw [hsame.iteration, hsame.latest]
      exact h.2

/-- An iteration finds what is in buffers of others. -/
theorem FoundBy.update {m : Monitor} {n : Nat} {d : Display} {text : Option (List Char)}
    (h : FoundBy m n d) :
    FoundBy m n { d with buffer := Function.update d.buffer (.iteration m n) text } := by
  cases n with
  | zero => exact ⟨h.1, by simpa using h.2⟩
  | succ n => exact ⟨h.1, by simpa using h.2⟩

/-- A monitor establishes what it claims next, and touches no other text. -/
theorem monitor_step {m : Monitor} {d d' : Display} {pc pc' : MonitorPc} (hat : MonitorAt m pc d)
    (hstep : MonitorStep m d pc d' pc') :
    d'.drawn = d.drawn ∧ MonitorAt m pc' d' ∧ ∀ m', m' ≠ m → Untouched m' d d' := by
  cases hstep with
  | read hshown =>
      exact ⟨rfl, FoundBy.update hat, fun m' hm => .update_iteration hm _ _ d⟩
  | lock =>
      exact ⟨rfl, FoundBy.of_untouched hat ⟨rfl, rfl, rfl, fun _ => rfl⟩,
        fun _ _ => ⟨rfl, rfl, rfl, fun _ => rfl⟩⟩
  | set htext =>
      refine ⟨rfl, ⟨by simp, by simpa using htext⟩, fun m' hm => ⟨?_, ?_, rfl, fun _ => rfl⟩⟩
      · exact Function.update_of_ne hm _ _
      · exact Function.update_of_ne hm _ _
  | unlock => exact ⟨rfl, hat, fun _ _ => ⟨rfl, rfl, rfl, fun _ => rfl⟩⟩
  | leave =>
      exact ⟨rfl, ⟨hat.1, by simp⟩, fun m' hm => .update_iteration hm _ _ d⟩

/-- The label of a monitor refers to its last text exactly at a fresh place. -/
theorem MonitorAt.fresh_iff {m : Monitor} {pc : MonitorPc} {d : Display} (h : MonitorAt m pc d) :
    d.buffer (d.ref m) = some (d.latest m) ↔ pc.Fresh := by
  have hfound : ∀ n, FoundBy m n d → (d.buffer (d.ref m) = some (d.latest m) ↔ n = 0) := by
    intro n hfound
    cases n with
    | zero =>
        rw [hfound.1]
        exact iff_of_true hfound.2 rfl
    | succ n =>
        rw [hfound.1, hfound.2]
        exact iff_of_false nofun (Nat.succ_ne_zero n)
  cases pc with
  | read n => exact hfound n h
  | lock n color => exact hfound n h
  | set n color => exact hfound n h
  | unlock n | leave n =>
      rw [h.1]
      exact iff_of_true h.2 trivial

/-- The outline of the threads. -/
def drawing : Outline Display Local where
  Inv := DrawnAsWritten
  At
    | .handler, _, _ => True
    | .monitor m, pc, d => MonitorAt m pc d

/-- What the threads rely on. -/
def Rely : (t : Tid) → Local t → Display → Display → Prop
  | .handler, _, _, _ => True
  | .monitor m, _, d, d' => Untouched m d d'

/-- The handler leaves the texts alone, and what it draws is as written exactly if its monitor is
at a fresh place. -/
theorem handler_step {c : Config Display Local} {d : Display} {pc : HandlerPc}
    (hholds : drawing.Holds c) (hstep : HandlerStep c.shared (c.locals .handler) d pc) :
    (∀ m, Untouched m c.shared d) ∧
      (DrawnAsWritten d ↔
        ∀ m, c.locals .handler = .drawing m → (c.locals (.monitor m)).Fresh) := by
  generalize hpc : c.locals .handler = pc₀ at hstep
  have hinv : DrawnAsWritten c.shared := hholds.1
  cases hstep with
  | lock | unlock | choose =>
      exact ⟨fun _ => ⟨rfl, rfl, rfl, fun _ => rfl⟩, iff_of_true hinv nofun⟩
  | @draw m =>
      refine ⟨fun _ => ⟨rfl, rfl, rfl, fun _ => rfl⟩, ?_⟩
      have hfresh := MonitorAt.fresh_iff (hholds.2 (.monitor m))
      constructor
      · rintro hdrawn _ ⟨rfl⟩
        exact hfresh.1 (hdrawn _ (List.mem_append_right _ (List.mem_singleton_self _)))
      · intro hallowed drawn hdrawn
        rcases List.mem_append.1 hdrawn with hbefore | hlast
        · exact hinv drawn hbefore
        · obtain rfl := List.mem_singleton.1 hlast
          exact hfresh.2 (hallowed m rfl)

theorem drawing_holds (a : App) {c : Config Display Local}
    (h : display.Reach (· = displayStarted a) drawsFresh c) : drawing.Holds c := by
  refine h.outline drawing Rely ?_ ?_ ?_
  · rintro c rfl
    refine ⟨nofun, fun t => ?_⟩
    cases t with
    | handler => trivial
    | monitor m => exact ⟨rfl, rfl⟩
  · intro c t d l _ hholds hstep hallowed
    cases t with
    | handler =>
        obtain ⟨huntouched, hdrawn⟩ := handler_step hholds hstep
        refine ⟨hdrawn.2 (hallowed rfl), trivial, fun u hu => ?_⟩
        cases u with
        | handler => exact absurd rfl hu
        | monitor m => exact huntouched m
    | monitor m =>
        obtain ⟨hdrawn, hat, hothers⟩ := monitor_step (hholds.2 (.monitor m)) hstep
        refine ⟨?_, hat, fun u hu => ?_⟩
        · intro drawn hmem
          rw [hdrawn] at hmem
          exact hholds.1 drawn hmem
        · cases u with
          | handler => trivial
          | monitor m' => exact hothers m' fun heq => hu (heq ▸ rfl)
  · intro t l d d' _ _ hat hrely
    cases t with
    | handler => trivial
    | monitor m => exact MonitorAt.of_untouched hat hrely

/-- Whatever the handler draws is there and is the last text of its label, as long as it draws no
label between the end of an iteration and the next `ChangeLabel`; and a further step keeps it so
exactly if it does not. -/
theorem drawn_as_written (a : App) {c : Config Display Local}
    (h : display.Reach (· = displayStarted a) drawsFresh c) :
    DrawnAsWritten c.shared ∧
    ∀ t d l, display.Step t c.shared (c.locals t) d l →
      (DrawnAsWritten d ↔ drawsFresh c t (c.move t d l)) := by
  have hholds := drawing_holds a h
  refine ⟨hholds.1, fun t d l hstep => ?_⟩
  cases t with
  | handler =>
      rw [(handler_step hholds hstep).2]
      exact ⟨fun hfresh _ => hfresh, fun hallowed => hallowed rfl⟩
  | monitor m =>
      obtain ⟨hdrawn, _, _⟩ := monitor_step (hholds.2 (.monitor m)) hstep
      refine iff_of_true (fun drawn hmem => ?_) nofun
      rw [hdrawn] at hmem
      exact hholds.1 drawn hmem

/-- The display after the set-up of a program on a screen of 480 by 800. -/
def drawingStart : Config Display Local :=
  displayStarted (.started 480 800 ⟨100, 0, zero_le_hundred⟩)

/-- What `battery_current_monitor` makes of a reading of 100. -/
def hundredShown : Shown :=
  batteryCurrentMonitor 100

/-- `battery_current_monitor` shows the reading, and the handler draws it. -/
theorem drawn_as_written_current :
    ∃ c, display.Reach (· = drawingStart) drawsFresh c ∧
      c.shared.drawn = [⟨.current, some hundredShown.text, hundredShown.text⟩] ∧
      DrawnAsWritten c.shared := by
  let d := drawingStart.shared.changed .current 0 hundredShown
  let changed := drawingStart.move (.monitor .current) d (.leave 0)
  have hstart : display.Reach (· = drawingStart) drawsFresh drawingStart := .start rfl
  have hrun : ThreadRun (display.Step (.monitor .current)) (fun _ _ => True) drawingStart.shared
      (drawingStart.locals (.monitor .current)) d (.leave 0) :=
    change_run (show Monitor.shown .current (100 : Int) = some hundredShown from rfl) rfl
  have hchanged : display.Reach (· = drawingStart) drawsFresh changed :=
    hstart.thread (fun _ _ _ _ => nofun) hrun
  let locked := changed.move .handler { d with lvglLock := some .handler } HandlerPc.inside
  have hlock : display.Step .handler changed.shared (changed.locals .handler) locked.shared
      HandlerPc.inside := HandlerStep.lock rfl
  have hlocked : display.Reach (· = drawingStart) drawsFresh locked :=
    hchanged.step hlock fun _ _ => nofun
  let chosen := locked.move .handler locked.shared (HandlerPc.drawing .current)
  have hchoose : display.Step .handler locked.shared (locked.locals .handler) locked.shared
      (HandlerPc.drawing .current) := HandlerStep.choose .current
  have hchosen : display.Reach (· = drawingStart) drawsFresh chosen :=
    hlocked.step hchoose fun _ _ => nofun
  have hdraw : display.Step .handler chosen.shared (chosen.locals .handler)
      { locked.shared with
        drawn := [⟨.current, some hundredShown.text, hundredShown.text⟩] } HandlerPc.inside :=
    HandlerStep.draw
  have hdrawn := hchosen.step hdraw fun _ m hm => by
    cases hm
    trivial
  exact ⟨_, hdrawn, rfl, (drawn_as_written _ hdrawn).1⟩

/-- `battery_current_monitor` shows the reading and ends its iteration, and then the handler
draws the label. -/
theorem drawn_after_iteration :
    ¬ ∀ c, display.Reach (· = drawingStart) anyStep c → DrawnAsWritten c.shared := by
  intro h
  let d := (drawingStart.shared.changed .current 0 hundredShown).ended .current 0
  let ended := drawingStart.move (.monitor .current) d (.read 1)
  have hstart : display.Reach (· = drawingStart) anyStep drawingStart := .start rfl
  have hrun : ThreadRun (display.Step (.monitor .current)) (fun _ _ => True) drawingStart.shared
      (drawingStart.locals (.monitor .current)) d (.read 1) :=
    iteration_run (show Monitor.shown .current (100 : Int) = some hundredShown from rfl) rfl
  have hended : display.Reach (· = drawingStart) anyStep ended :=
    hstart.thread (fun _ _ _ _ => trivial) hrun
  have hdraw : ThreadRun (display.Step .handler) (fun _ _ => True) ended.shared
      (ended.locals .handler) (d.draws .current) .outside := draw_run rfl
  have hseen := h _ (hended.thread (fun _ _ _ _ => trivial) hdraw)
    ⟨.current, none, hundredShown.text⟩ (List.mem_singleton_self _)
  cases hseen

end BatteryInfo.Core
