import BatteryInfo.Battery.SamePins
import BatteryInfo.Core.LabelUpdates

/-!
# The labels of the two signals

`in_dock_monitor` and `battery_charging_monitor` show the level of a line. `IsMeterInDock` and
`IsBatteryCharging` compare the level with `NULL` to find a failure, so that the level 0 comes out
as the error value, and a failure as what libgpiod returned for it. The labels follow their lines
as long as no level is 0 (`labels_follow_signals`), and the label of the dock, which is active low,
never shows `TRUE` at all (`inDockMonitor_levelOfValue`).
-/

namespace BatteryInfo.Core

open Battery Gui Sequence

/-- What `gpiod_line_get_value` returns in an iteration of the monitor of a signal: the level, or
a negative value if it fails. -/
structure Sample where
  id : LineId
  value : Int
deriving DecidableEq, Repr

/-- The function that samples the line of a signal. -/
def readSignal (sample : Sample) (s : GpioStatics) : Option (Int × GpioStatics) :=
  match sample.id with
  | .inBase => isMeterInDock sample.value s
  | .charging => isBatteryCharging sample.value s

/-- The label of a signal. -/
def signalLabel : LineId → GuiId
  | .inBase => .inDock
  | .charging => .charging

/-- The level at which a signal is there: the dock is active low. -/
def activeLevel : LineId → Int
  | .inBase => 0
  | .charging => 1

/-- The part of an iteration after the reading. -/
def App.showSignal (id : LineId) (reading : Int) (a : App) : App :=
  match id with
  | .inBase => a.step (.monitor .inDock reading)
  | .charging => a.step (.monitor .charging reading)

/-- The program with the statics of `Battery.cpp`. -/
structure Signals where
  app : App
  gpio : GpioStatics

/-- An iteration of the monitor of a signal. libgpiod does not accept `NULL` for a line, so that
it ends the program. -/
def Signals.step (p : Signals) (sample : Sample) : Signals :=
  if ¬ p.app.running then p
  else
    match readSignal sample p.gpio with
    | none => { p with app := { p.app with running := false } }
    | some (reading, gpio) => ⟨p.app.showSignal sample.id reading, gpio⟩

/-- The label on the screen that was added for a variable. -/
def App.labelOf (id : GuiId) (a : App) : Option Label := do
  let o ← a.added id
  match a.gui.widget o with
  | some (.label l) => some l
  | _ => none

/-- The label shows that the signal is there. -/
def ShowsTrue (l : Label) : Prop :=
  l.text = "TRUE".toList ∧ l.color = some .green

/-- What is read in an iteration is the level, or -1 for a failure. The label of the signal then
shows that it is there exactly at its active level, and the other label is left alone. -/
def FollowsSignal (p : Signals) (sample : Sample) : Prop :=
  p.app.running → ∀ reading gpio, readSignal sample p.gpio = some (reading, gpio) →
    reading = (if sample.value < 0 then -1 else sample.value) ∧
    (∃ l, (p.step sample).app.labelOf (signalLabel sample.id) = some l ∧
      (ShowsTrue l ↔ sample.value = activeLevel sample.id)) ∧
    ∀ id, id ≠ sample.id →
      (p.step sample).app.labelOf (signalLabel id) = p.app.labelOf (signalLabel id)

/-- An iteration that samples its line gets a level other than 0, or -1 for a failure. -/
def SampledAboveZero (p : Signals) (sample : Sample) : Prop :=
  p.app.running → p.gpio.polledLine sample.id ≠ none → sample.value = -1 ∨ 0 < sample.value

/-! ## What is read -/

/-- A line that is there is read. -/
theorem readSignal_eq (sample : Sample) (s : GpioStatics) :
    readSignal sample s =
      (s.polledLine sample.id).map fun l => (levelOfValue sample.value, s.using l) := by
  obtain ⟨id, value⟩ := sample
  cases id with
  | inBase =>
      show isMeterInDock value s = s.inDockLine.map _
      unfold isMeterInDock
      cases s.inDockLine <;> rfl
  | charging =>
      show isBatteryCharging value s = s.chargingLine.map _
      unfold isBatteryCharging
      cases s.chargingLine <;> rfl

/-- The level is taken for what it is exactly if it is not 0, and a failure if it is reported
as -1. -/
theorem levelOfValue_eq_iff (value : Int) :
    levelOfValue value = (if value < 0 then -1 else value) ↔ value = -1 ∨ 0 < value := by
  unfold levelOfValue
  split_ifs <;> omega

/-- Whatever the level of its line is, the dock is shown as absent. -/
theorem inDockMonitor_levelOfValue (value : Int) :
    inDockMonitor (levelOfValue value) = ⟨"FALSE".toList, .red⟩ := by
  have hlevel : levelOfValue value ≠ 0 := by
    unfold levelOfValue
    split
    · decide
    · assumption
  exact if_neg hlevel

/-- The charger is shown exactly at the level 1. -/
theorem batteryChargingMonitor_levelOfValue (value : Int) :
    batteryChargingMonitor (levelOfValue value) =
      if value = 1 then ⟨"TRUE".toList, .green⟩ else ⟨"FALSE".toList, .red⟩ := by
  have hlevel : levelOfValue value = 1 ↔ value = 1 := by
    by_cases hzero : value = 0
    · simp [levelOfValue, hzero]
    · simp [levelOfValue, hzero]
  unfold batteryChargingMonitor
  simp only [hlevel]

/-! ## What is shown -/

/-- What is kept from the set-up on: the labels are objects of their own, that of each signal is
registered, and its colour is set. -/
structure SignalsReady (a : App) : Prop where
  objects : LabelObjects a
  registered : ∀ id, ∃ o, (a.objs (signalLabel id)).obj = some o ∧
    a.added (signalLabel id) = some o
  setColor : ∀ id, (a.objs (signalLabel id)).setColor = true

theorem signalsReady_started (width height : Int) (b : Backlight) :
    SignalsReady (.started width height b) where
  objects := started_labelObjects width height b
  registered := by
    intro id
    have hregistered := (registered_started width height b).monitors
    cases id with
    | inBase => exact hregistered .inDock
    | charging => exact hregistered .charging
  setColor := by
    intro id
    have hsetup : ∃ s ∈ mainMenuLabels width, s.id = signalLabel id ∧ s.color.isSome := by
      cases id <;> simp [mainMenuLabels, signalLabel]
    obtain ⟨s, hs, hid, hcolor⟩ := hsetup
    rw [← hid]
    exact started_setColor width height b hs hcolor

theorem signalLabel_injective : Function.Injective signalLabel := by
  intro id id' heq
  cases id <;> cases id' <;> first | rfl | cases heq

/-- What the monitor of a signal shows for a reading. -/
def signalShown : LineId → Int → Shown
  | .inBase, reading => inDockMonitor reading
  | .charging, reading => batteryChargingMonitor reading

section Shows

variable {a : App}

/-- An iteration of a monitor changes the colour of its variable and the label that is registered
for it. -/
theorem step_monitor_eq (hrunning : a.running) {m : Monitor} {reading : m.Reading} {shown : Shown}
    (hshown : m.shown reading = some shown) {o : LvObj} (ho : (a.objs m.label).obj = some o)
    (hcolor : (a.objs m.label).setColor = true) :
    a.step (.monitor m reading) =
      { a.setObj m.label { a.objs m.label with color := shown.color } with
        gui := a.gui.changeLabel o fun l =>
          { l with text := shown.text, color := some shown.color } } := by
  simp [App.step, App.handle, hrunning, App.monitorIteration, hshown, App.callChangeLabel,
    changeLabel, App.setObj, ho, hcolor]

/-- The part of an iteration after the reading. -/
theorem showSignal_eq (hrunning : a.running) {id : LineId} {o : LvObj}
    (ho : (a.objs (signalLabel id)).obj = some o)
    (hcolor : (a.objs (signalLabel id)).setColor = true) (reading : Int) :
    a.showSignal id reading =
      { a.setObj (signalLabel id)
          { a.objs (signalLabel id) with color := (signalShown id reading).color } with
        gui := a.gui.changeLabel o fun l =>
          { l with
            text := (signalShown id reading).text
            color := some (signalShown id reading).color } } := by
  cases id with
  | inBase => exact step_monitor_eq hrunning (m := .inDock) rfl ho hcolor
  | charging => exact step_monitor_eq hrunning (m := .charging) rfl ho hcolor

/-- A label that was added is on the screen. -/
theorem labelOf_of_widget {id : GuiId} {o : LvObj} {l : Label} (ho : a.added id = some o)
    (hl : a.gui.widget o = some (.label l)) : a.labelOf id = some l := by
  simp [App.labelOf, ho, hl]

/-- The label of the signal shows what its monitor makes of the reading. -/
theorem SignalsReady.labelOf_showSignal (h : SignalsReady a) (hrunning : a.running) (id : LineId)
    (reading : Int) :
    ∃ l, (a.showSignal id reading).labelOf (signalLabel id) = some l ∧
      l.text = (signalShown id reading).text ∧ l.color = some (signalShown id reading).color := by
  obtain ⟨o, hobj, hadded⟩ := h.registered id
  obtain ⟨l, hl⟩ := h.objects.label _ o hadded
  rw [showSignal_eq hrunning hobj (h.setColor id)]
  exact ⟨_, labelOf_of_widget hadded (Lvgl.widget_changeLabel_self hl _), rfl, rfl⟩

/-- The label of the other signal is left alone. -/
theorem SignalsReady.labelOf_showSignal_other (h : SignalsReady a) (hrunning : a.running)
    {id other : LineId} (hother : other ≠ id) (reading : Int) :
    (a.showSignal id reading).labelOf (signalLabel other) = a.labelOf (signalLabel other) := by
  obtain ⟨o, hobj, hadded⟩ := h.registered id
  obtain ⟨o', _, hadded'⟩ := h.registered other
  have hne : o' ≠ o := by
    rintro rfl
    have hlabel := h.objects.own _ _ o' hadded' hadded
    exact hother (signalLabel_injective hlabel)
  rw [showSignal_eq hrunning hobj (h.setColor id)]
  simp only [App.labelOf, App.setObj, Lvgl.widget_changeLabel_of_ne hne, hadded',
    Option.bind_eq_bind, Option.bind_some]

/-- The next iteration finds what this one did. -/
theorem SignalsReady.showSignal (h : SignalsReady a) (hrunning : a.running) (id : LineId)
    (reading : Int) : SignalsReady (a.showSignal id reading) := by
  obtain ⟨o, hobj, hadded⟩ := h.registered id
  obtain ⟨l, hl⟩ := h.objects.label _ o hadded
  rw [showSignal_eq hrunning hobj (h.setColor id)]
  -- only the colour of the variable and the attributes of the label are new
  have hobjs (other : LineId) := objs_setObj_color (signalLabel id) (signalShown id reading).color a
    (signalLabel other)
  refine ⟨⟨fun id' o' ho' => ?_, h.objects.own⟩, fun other => ?_, fun other => ?_⟩
  · by_cases hsame : o' = o
    · subst hsame
      exact ⟨_, Lvgl.widget_changeLabel_self hl _⟩
    · obtain ⟨l', hl'⟩ := h.objects.label id' o' ho'
      exact ⟨l', (Lvgl.widget_changeLabel_of_ne hsame _ _).trans hl'⟩
  · obtain ⟨_, hsame⟩ := hobjs other
    obtain ⟨o', hobj', hadded'⟩ := h.registered other
    refine ⟨o', ?_, hadded'⟩
    show ((a.setObj _ _).objs _).obj = some o'
    rw [hsame, hobj']
  · obtain ⟨_, hsame⟩ := hobjs other
    show ((a.setObj _ _).objs _).setColor = true
    rw [hsame, h.setColor other]

end Shows

/-- A label that shows what is made of a level says that the signal is there exactly at the active
level, unless this is 0. -/
theorem showsTrue_iff {id : LineId} {value : Int} {l : Label} (hvalue : value ≠ 0)
    (htext : l.text = (signalShown id (levelOfValue value)).text)
    (hcolor : l.color = some (signalShown id (levelOfValue value)).color) :
    ShowsTrue l ↔ value = activeLevel id := by
  unfold ShowsTrue
  rw [htext, hcolor]
  cases id with
  | inBase =>
      simp only [signalShown, inDockMonitor_levelOfValue, activeLevel]
      exact iff_of_false (fun htrue => absurd htrue.1 (by decide)) hvalue
  | charging =>
      simp only [signalShown, batteryChargingMonitor_levelOfValue, activeLevel]
      by_cases hactive : value = 1
      · simp [hactive]
      · simp only [if_neg hactive]
        exact iff_of_false (fun htrue => absurd htrue.1 (by decide)) hactive

section Runs

variable {p : Signals}

/-- An iteration that samples its line. -/
theorem step_of_line (hrunning : p.app.running) {sample : Sample} {l : Gpiod.Line}
    (hline : p.gpio.polledLine sample.id = some l) :
    p.step sample =
      ⟨p.app.showSignal sample.id (levelOfValue sample.value), p.gpio.using l⟩ := by
  simp [Signals.step, hrunning, readSignal_eq, hline]

theorem SignalsReady.step (h : SignalsReady p.app) (sample : Sample) :
    SignalsReady (p.step sample).app := by
  by_cases hrunning : p.app.running
  · cases hline : p.gpio.polledLine sample.id with
    | none =>
        have hstep : p.step sample = { p with app := { p.app with running := false } } := by
          simp [Signals.step, hrunning, readSignal_eq, hline]
        rw [hstep]
        exact ⟨⟨h.objects.label, h.objects.own⟩, h.registered, h.setColor⟩
    | some l =>
        rw [step_of_line hrunning hline]
        exact h.showSignal hrunning sample.id _
  · have hstep : p.step sample = p := by simp [Signals.step, hrunning]
    rw [hstep]
    exact h

theorem SignalsReady.followsSignal_iff (h : SignalsReady p.app) (sample : Sample) :
    FollowsSignal p sample ↔ SampledAboveZero p sample := by
  constructor
  · intro hfollows hrunning hline
    obtain ⟨l, hl⟩ := Option.ne_none_iff_exists'.1 hline
    have hread := (hfollows hrunning (levelOfValue sample.value) (p.gpio.using l)
      (by rw [readSignal_eq, hl]; rfl)).1
    exact (levelOfValue_eq_iff _).1 hread
  · intro hsampled hrunning reading gpio hread
    rw [readSignal_eq] at hread
    obtain ⟨l, hl, hread⟩ := Option.map_eq_some_iff.1 hread
    obtain ⟨rfl, rfl⟩ := Prod.mk.inj hread
    have hvalue := hsampled hrunning (by rw [hl]; exact Option.some_ne_none l)
    obtain ⟨label, hlabel, htext, hcolor⟩ :=
      h.labelOf_showSignal hrunning sample.id (levelOfValue sample.value)
    rw [step_of_line hrunning hl]
    refine ⟨(levelOfValue_eq_iff _).2 hvalue, ⟨label, hlabel, ?_⟩, fun other hother => ?_⟩
    · exact showsTrue_iff (by omega) htext hcolor
    · exact h.labelOf_showSignal_other hrunning hother _

end Runs

/-- In any run of the two monitors, every sample is read as what it is and shown by its label,
exactly if no sample is the level 0 and every failure is reported as -1. -/
theorem labels_follow_signals (width height : Int) (b : Backlight) (gpio : GpioStatics)
    (samples : List Sample) :
    EveryCall Signals.step FollowsSignal ⟨.started width height b, gpio⟩ samples ↔
      EveryCall Signals.step SampledAboveZero ⟨.started width height b, gpio⟩ samples :=
  EveryCall.iff_of_invariant (I := fun p => SignalsReady p.app)
    (fun _ sample h => h.followsSignal_iff sample) (fun _ sample h _ => h.step sample)
    (signalsReady_started width height b) samples

/-- The meter is in the dock, whose line is at the level 0: it is read as -1. -/
theorem docked_level_read_as_failure :
    ¬ EveryCall Signals.step FollowsSignal
      ⟨.started 480 800 ⟨100, 0, zero_le_hundred⟩,
        LineCall.step (.initial .empty) (.init gpiosWork)⟩
      [⟨.inBase, 0⟩] := by
  intro h
  have hread := (h.1 rfl (-1) _ rfl).1
  revert hread
  decide

end BatteryInfo.Core
