import BatteryInfo.Core.MainMenu

/-!
# Updates of labels

The program after its set-up: iterations of the monitors and events of the buttons, in any order.
The labels of the seven battery monitors are registered. That of `brightness_monitor` is not, so
that its first change goes to `NULL`, which happens as soon as an iteration finds a brightness
other than the one at the start (`label_updates_registered`).
-/

namespace BatteryInfo.Core

open Gui Decimal Sequence

/-- The label of a monitor. -/
def Monitor.label : Monitor → GuiId
  | .current => .current
  | .voltage => .voltage
  | .health => .batteryHealth
  | .temp => .batteryTemp
  | .level => .batteryLevel
  | .inDock => .inDock
  | .charging => .charging

/-- A call of `ChangeLabel`: the variable that is passed, with its value. -/
structure LabelCall where
  id : GuiId
  label : GuiObj Button
  text : List Char

/-- The variable is passed to `ChangeLabel`. -/
def App.callChangeLabel (id : GuiId) (text : List Char) (a : App) : List LabelCall × App :=
  ([⟨id, a.objs id, text⟩],
    match changeLabel (a.objs id) text a.gui with
    | none => { a with running := false }
    | some gui => { a with gui })

/-- An iteration of a monitor of the battery. -/
def App.monitorIteration (m : Monitor) (reading : m.Reading) (a : App) : List LabelCall × App :=
  match m.shown reading with
  | none => ([], { a with running := false })
  | some shown =>
      (a.setObj m.label { a.objs m.label with color := shown.color }).callChangeLabel m.label
        shown.text

/-- An iteration of `brightness_monitor`. -/
def App.brightnessIteration (a : App) : List LabelCall × App :=
  let b := a.screen.monitorText
  if (a.objs .brightnessValue).text ≠ b then
    (a.setObj .brightnessValue { a.objs .brightnessValue with text := b }).callChangeLabel
      .brightnessValue b
  else ([], a)

/-- LVGL passes an event to the callback of an object. -/
def App.lvEvent (o : LvObj) (event : LvEvent) (a : App) : App :=
  match a.gui.widget o with
  | some (.button ⟨some cb, _, _, _, _, _, _, _⟩) =>
      { a with screen := buttonCallback a.screen ⟨cb, event⟩ }
  | _ => a

/-- What happens after the set-up. -/
inductive AppEvent where
  | monitor (m : Monitor) (reading : m.Reading)
  | brightnessMonitor
  | lvEvent (o : LvObj) (event : LvEvent)

/-- The calls of `ChangeLabel` that an event leads to, and the program after it. Nothing happens
once the program has ended. -/
def App.handle (a : App) (e : AppEvent) : List LabelCall × App :=
  if ¬ a.running then ([], a)
  else
    match e with
    | .monitor m reading => a.monitorIteration m reading
    | .brightnessMonitor => a.brightnessIteration
    | .lvEvent o event => ([], a.lvEvent o event)

/-- The program after an event. -/
def App.step (a : App) (e : AppEvent) : App :=
  (a.handle e).2

/-- Every call of `ChangeLabel` is given the object that `AddLabel` returned for the label. -/
def UpdatesRegistered (a : App) (e : AppEvent) : Prop :=
  ∀ call ∈ (a.handle e).1, ∃ o, call.label.obj = some o ∧ a.added call.id = some o

/-- An iteration of `brightness_monitor` finds the brightness of the start. -/
def BrightnessAsStarted (a : App) (e : AppEvent) : Prop :=
  e = .brightnessMonitor → a.running → a.screen.brightness = 60

/-- The labels of the battery monitors are registered, and that of the brightness shows the
brightness of the start. -/
structure Registered (a : App) : Prop where
  monitors : ∀ m : Monitor, ∃ o, (a.objs m.label).obj = some o ∧ a.added m.label = some o
  brightnessObj : (a.objs .brightnessValue).obj = none
  brightnessText : (a.objs .brightnessValue).text = ofInt 60

theorem registered_started (width height : Int) (b : Backlight) :
    Registered (.started width height b) where
  monitors := by
    intro m
    have hsetup : ∃ s ∈ mainMenuLabels width, s.id = m.label ∧ s.keepsObj = true := by
      cases m <;> simp [mainMenuLabels, Monitor.label]
    obtain ⟨s, hs, hid, hkeeps⟩ := hsetup
    obtain ⟨o, hadded, hobj, _⟩ := started_objs width height b hs
    rw [hid] at hadded hobj
    exact ⟨o, by simpa [hkeeps] using hobj, hadded⟩
  brightnessObj := by
    obtain ⟨_, _, hobj, _⟩ := started_objs width height b (List.mem_of_getElem? (i := 15) rfl)
    exact hobj
  brightnessText := by
    obtain ⟨_, _, _, htext⟩ := started_objs width height b (List.mem_of_getElem? (i := 15) rfl)
    exact htext

section Events

variable {a : App}

theorem callChangeLabel_objs (id : GuiId) (text : List Char) :
    (a.callChangeLabel id text).2.objs = a.objs ∧
      (a.callChangeLabel id text).2.added = a.added := by
  unfold App.callChangeLabel
  dsimp only
  split
  · exact ⟨rfl, rfl⟩
  · exact ⟨rfl, rfl⟩

/-- What is registered depends on the variables alone. -/
theorem Registered.of_objs {a' : App} (h : Registered a) (hobjs : a'.objs = a.objs)
    (hadded : a'.added = a.added) : Registered a' := by
  obtain ⟨hmonitors, hobj, htext⟩ := h
  rw [← hobjs] at hmonitors hobj htext
  rw [← hadded] at hmonitors
  exact ⟨hmonitors, hobj, htext⟩

/-- A monitor changes the colour of its variable. -/
theorem Registered.setColor (h : Registered a) (m : Monitor) (color : Color) :
    Registered (a.setObj m.label { a.objs m.label with color }) := by
  have hobjs := objs_setObj_color m.label color a
  refine ⟨fun m' => ?_, ?_, ?_⟩
  · obtain ⟨o, hobj, hadded⟩ := h.monitors m'
    obtain ⟨_, hsame⟩ := hobjs m'.label
    exact ⟨o, by rw [hsame, hobj], hadded⟩
  · obtain ⟨_, hsame⟩ := hobjs .brightnessValue
    rw [hsame, h.brightnessObj]
  · obtain ⟨_, hsame⟩ := hobjs .brightnessValue
    rw [hsame, h.brightnessText]

theorem Registered.monitorIteration (h : Registered a) (m : Monitor) (reading : m.Reading) :
    (∀ call ∈ (a.monitorIteration m reading).1,
      ∃ o, call.label.obj = some o ∧ a.added call.id = some o) ∧
    Registered (a.monitorIteration m reading).2 := by
  unfold App.monitorIteration
  cases m.shown reading with
  | none => exact ⟨by simp, h.of_objs rfl rfl⟩
  | some shown =>
      have hcolored := h.setColor m shown.color
      obtain ⟨hobjs, hadded⟩ := callChangeLabel_objs
        (a := a.setObj m.label { a.objs m.label with color := shown.color }) m.label shown.text
      refine ⟨fun call hcall => ?_, hcolored.of_objs hobjs hadded⟩
      obtain rfl := List.mem_singleton.1 hcall
      exact hcolored.monitors m

/-- An iteration of `brightness_monitor` does nothing at the brightness of the start, and passes
a variable without an object at any other. -/
theorem Registered.brightnessIteration (h : Registered a) :
    (a.screen.brightness = 60 ∧ a.brightnessIteration = ([], a)) ∨
      (a.screen.brightness ≠ 60 ∧ ∃ call ∈ a.brightnessIteration.1, call.label.obj = none) := by
  by_cases hsixty : a.screen.brightness = 60
  · refine .inl ⟨hsixty, ?_⟩
    simp [App.brightnessIteration, Screen.monitorText, h.brightnessText, hsixty]
  · have hother : (a.objs .brightnessValue).text ≠ a.screen.monitorText := by
      rw [h.brightnessText]
      exact fun heq => hsixty (ofInt_injective heq).symm
    refine .inr ⟨hsixty, ?_⟩
    unfold App.brightnessIteration
    rw [if_pos hother]
    refine ⟨_, List.mem_singleton_self _, ?_⟩
    rw [objs_setObj, Function.update_self]
    exact h.brightnessObj

theorem Registered.lvEvent (h : Registered a) (o : LvObj) (event : LvEvent) :
    Registered (a.lvEvent o event) := by
  unfold App.lvEvent
  split
  · exact h.of_objs rfl rfl
  · exact h

theorem Registered.event (h : Registered a) (e : AppEvent) :
    (BrightnessAsStarted a e ∧ UpdatesRegistered a e ∧ Registered (a.step e)) ∨
      (¬ BrightnessAsStarted a e ∧ ¬ UpdatesRegistered a e) := by
  cases hrunning : a.running with
  | false =>
      have hhandle : a.handle e = ([], a) := by simp [App.handle, hrunning]
      refine .inl ⟨by simp [BrightnessAsStarted, hrunning], ?_, ?_⟩
      · simp [UpdatesRegistered, hhandle]
      · rw [App.step, hhandle]
        exact h
  | true =>
      cases e with
      | monitor m reading =>
          have hhandle : a.handle (.monitor m reading) = a.monitorIteration m reading := by
            simp [App.handle, hrunning]
          obtain ⟨hcalls, hnext⟩ := h.monitorIteration m reading
          refine .inl ⟨nofun, ?_, ?_⟩
          · rw [UpdatesRegistered, hhandle]
            exact hcalls
          · rw [App.step, hhandle]
            exact hnext
      | brightnessMonitor =>
          have hhandle : a.handle .brightnessMonitor = a.brightnessIteration := by
            simp [App.handle, hrunning]
          rcases h.brightnessIteration with ⟨hsixty, hnothing⟩ | ⟨hother, call, hcall, hobj⟩
          · refine .inl ⟨fun _ _ => hsixty, ?_, ?_⟩
            · simp [UpdatesRegistered, hhandle, hnothing]
            · rw [App.step, hhandle, hnothing]
              exact h
          · refine .inr ⟨fun hstarted => hother (hstarted rfl hrunning), fun hregistered => ?_⟩
            rw [UpdatesRegistered, hhandle] at hregistered
            obtain ⟨o, ho, _⟩ := hregistered call hcall
            rw [hobj] at ho
            cases ho
      | lvEvent o event =>
          have hhandle : a.handle (.lvEvent o event) = ([], a.lvEvent o event) := by
            simp [App.handle, hrunning]
          refine .inl ⟨nofun, by simp [UpdatesRegistered, hhandle], ?_⟩
          rw [App.step, hhandle]
          exact h.lvEvent o event

end Events

/-- In any run of the program, every call of `ChangeLabel` is given the object that `AddLabel`
returned for the label, exactly if every iteration of `brightness_monitor` finds the brightness
of the start. -/
theorem label_updates_registered (width height : Int) (b : Backlight) (events : List AppEvent) :
    EveryCall App.step UpdatesRegistered (.started width height b) events ↔
      EveryCall App.step BrightnessAsStarted (.started width height b) events := by
  refine EveryCall.iff_of_invariant (I := Registered) ?_ ?_ (registered_started width height b)
    events
  · intro a e h
    rcases h.event e with ⟨hstarted, hregistered, _⟩ | ⟨hother, hnot⟩
    · exact iff_of_true hregistered hstarted
    · exact iff_of_false hnot hother
  · intro a e h hstarted
    rcases h.event e with ⟨_, _, hnext⟩ | ⟨hother, _⟩
    · exact hnext
    · exact absurd hstarted hother

/-- The user makes the screen brighter once, and `brightness_monitor` goes on to show it. -/
theorem brightness_label_not_registered :
    ¬ EveryCall App.step UpdatesRegistered (.started 480 800 ⟨100, 0, zero_le_hundred⟩)
      [.lvEvent ⟨2⟩ .clicked, .brightnessMonitor] := by
  intro h
  have hstart := registered_started 480 800 ⟨100, 0, zero_le_hundred⟩
  rcases hstart.event (.lvEvent ⟨2⟩ .clicked) with ⟨_, _, hclicked⟩ | ⟨hother, _⟩
  · rcases hclicked.event .brightnessMonitor with ⟨hstarted, _⟩ | ⟨_, hnot⟩
    · have hbrightness := hstarted rfl rfl
      revert hbrightness
      decide
    · exact hnot h.2.1
  · exact hother nofun

end BatteryInfo.Core
