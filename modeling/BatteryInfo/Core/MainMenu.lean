import BatteryInfo.Core.Brightness

/-!
# The set-up of the screen

`main` adds the two buttons and `main_menu` the title and the labels, one after the other. A
label is registered for later changes by storing what `AddLabel` returns in its `obj`, which each
assignment in `main_menu` has to do on its own. The value of the brightness is the only label
with a changing text for which it is left out.
-/

namespace BatteryInfo.Core

open Gui

/-- The `GuiObj` variables of `core.cpp` that are used. -/
inductive GuiId where
  | title
  | batteryTempLabel
  | batteryTemp
  | batteryHealthLabel
  | batteryHealth
  | batteryLevelLabel
  | batteryLevel
  | inDockLabel
  | inDock
  | chargingLabel
  | charging
  | brightnessLabel
  | brightnessValue
  | currentLabel
  | current
  | voltageLabel
  | voltage
  | increaseBtn
  | decreaseBtn
deriving DecidableEq, Repr

/-- The program: its variables, the screen and the backlight. -/
structure App where
  objs : GuiId → GuiObj Button
  gui : Lvgl Button
  screen : Screen
  /-- What `AddLabel` returned for a variable, if it was called for it. -/
  added : GuiId → Option LvObj
  /-- No exception was thrown, and LVGL was not given `NULL`. -/
  running : Bool

/-- A store to a variable. -/
def App.setObj (id : GuiId) (obj : GuiObj Button) (a : App) : App :=
  { a with objs := Function.update a.objs id obj }

@[simp] theorem objs_setObj (id : GuiId) (obj : GuiObj Button) (a : App) :
    (a.setObj id obj).objs = Function.update a.objs id obj := rfl

/-- A store of a colour changes nothing else of any variable. -/
theorem objs_setObj_color (id : GuiId) (color : Color) (a : App) (id' : GuiId) :
    ∃ color', (a.setObj id { a.objs id with color }).objs id' =
      { a.objs id' with color := color' } := by
  by_cases hid : id' = id
  · subst hid
    exact ⟨color, Function.update_self ..⟩
  · exact ⟨(a.objs id').color, Function.update_of_ne hid ..⟩

/-! ## `AddAdjustBrightness` -/

/-- `BTN_WIDTH`. -/
def btnWidth : Int := 220

/-- `BTN_HEIGHT`. -/
def btnHeight : Int := 100

/-- `BRDR_WIDTH`. -/
def brdrWidth : Int := 10

/-- The part of `AddAdjustBrightness` for a button. `height` is that of the canvas. -/
def addAdjustButton (height : Int) (id : GuiId) (text : List Char) (cb : Button) (color : Color)
    (x : Int) (a : App) : App :=
  let btn : GuiObj Button :=
    { a.objs id with
      font := some .statstripBold40
      text
      cb := some cb
      color
      x
      y := height - btnHeight - brdrWidth
      w := btnWidth
      h := btnHeight }
  let (obj, gui) := addButton btn a.gui
  { a.setObj id { btn with obj := some obj } with gui }

/-- `AddAdjustBrightness`. -/
def addAdjustBrightness (height : Int) (a : App) : App :=
  let a := addAdjustButton height .decreaseBtn "-".toList .decrease .red 13 a
  addAdjustButton height .increaseBtn "+".toList .increase .green 246 a

/-! ## `main_menu` -/

/-- What `main_menu` does for a label: the fields that it sets, and whether it stores what
`AddLabel` returns. A label with a colour has `set_color` set. -/
structure LabelSetup where
  id : GuiId
  text : List Char
  textAlign : LabelAlign
  color : Option Color
  x : Int
  y : Int
  w : Int
  h : Int
  keepsObj : Bool

/-- `HALF_SCREEN`. -/
def halfScreen (width : Int) : Int :=
  width.tdiv 2

/-- The labels of `main_menu`, in the order in which it adds them. `width` is that of the
canvas. -/
def mainMenuLabels (width : Int) : List LabelSetup :=
  let rightColumn := halfScreen width - 35
  let caption (id : GuiId) (text : String) (x y : Int) : LabelSetup :=
    ⟨id, text.toList, .right, none, x, y, rightColumn, 50, false⟩
  let value (id : GuiId) (y : Int) : LabelSetup :=
    ⟨id, "Checking...".toList, .center, some .orange, 240, y, halfScreen width, 50, true⟩
  [caption .currentLabel "Current:" 0 175,
    value .current 175,
    caption .voltageLabel "Voltage:" 0 225,
    value .voltage 225,
    caption .batteryHealthLabel "Health:" 0 275,
    value .batteryHealth 275,
    caption .batteryTempLabel "Temp:" 0 325,
    value .batteryTemp 325,
    caption .batteryLevelLabel "Level:" 0 375,
    value .batteryLevel 375,
    caption .inDockLabel "In Dock:" 0 425,
    value .inDock 425,
    caption .chargingLabel "Charging:" 0 475,
    value .charging 475,
    caption .brightnessLabel "Brightness:" 50 625,
    -- what `AddLabel` returns for this one is dropped
    ⟨.brightnessValue, "60".toList, .center, none, 240, 625, rightColumn, 50, false⟩]

/-- The fields of a label are set. -/
def LabelSetup.assign (s : LabelSetup) (obj : GuiObj Button) : GuiObj Button :=
  { obj with
    font := some .statstripReg40
    text := s.text
    textAlign := s.textAlign
    setColor := s.color.isSome || obj.setColor
    color := s.color.getD obj.color
    x := s.x
    y := s.y
    w := s.w
    h := s.h }

/-- The part of `main_menu` for a label. -/
def setUpLabel (a : App) (s : LabelSetup) : App :=
  let obj := s.assign (a.objs s.id)
  let (o, gui) := addLabel obj obj.text a.gui
  { a.setObj s.id (if s.keepsObj then { obj with obj := some o } else obj) with
    gui
    added := Function.update a.added s.id (some o) }

/-- The part of `main_menu` for the title. -/
def setUpTitle (width : Int) (a : App) : App :=
  let title := { a.objs .title with text := "Battery Monitor".toList, y := 35 }
  { a.setObj .title title with gui := (addTitle width title title.text a.gui).2 }

/-- The set-up of `main_menu`. -/
def mainMenu (width : Int) (a : App) : App :=
  (mainMenuLabels width).foldl setUpLabel (setUpTitle width a)

/-- The program when the monitors start. -/
def App.started (width height : Int) (backlight : Backlight) : App :=
  mainMenu width <| addAdjustBrightness height
    { objs := fun _ => .static
      gui := .empty
      screen := .started backlight
      added := fun _ => none
      running := true }

/-! ## What is registered -/

/-- Labels that are set up later leave a label as it is. -/
theorem foldl_setUpLabel_of_not_mem {setups : List LabelSetup} {id : GuiId} {a : App}
    (hid : id ∉ setups.map LabelSetup.id) :
    (setups.foldl setUpLabel a).objs id = a.objs id ∧
      (setups.foldl setUpLabel a).added id = a.added id := by
  induction setups generalizing a with
  | nil => exact ⟨rfl, rfl⟩
  | cons s rest ih =>
      rw [List.map_cons, List.mem_cons] at hid
      obtain ⟨hne, hrest⟩ := not_or.1 hid
      obtain ⟨hobj, hadded⟩ := ih (a := setUpLabel a s) hrest
      rw [List.foldl_cons, hobj, hadded]
      exact ⟨Function.update_of_ne hne _ _, Function.update_of_ne hne _ _⟩

/-- The variable of a label is as its own part of the set-up leaves it. -/
theorem foldl_setUpLabel_own {setups : List LabelSetup}
    (hnodup : (setups.map LabelSetup.id).Nodup) (a : App) {s : LabelSetup} (hs : s ∈ setups) :
    ∃ before : App, before.objs s.id = a.objs s.id ∧
      (setups.foldl setUpLabel a).objs s.id = (setUpLabel before s).objs s.id ∧
      (setups.foldl setUpLabel a).added s.id = (setUpLabel before s).added s.id := by
  induction setups generalizing a with
  | nil => cases hs
  | cons s' rest ih =>
      rw [List.map_cons, List.nodup_cons] at hnodup
      rw [List.foldl_cons]
      rcases List.mem_cons.1 hs with rfl | hrest
      · -- the rest is for other labels
        obtain ⟨hobj, hadded⟩ := foldl_setUpLabel_of_not_mem (a := setUpLabel a s) hnodup.1
        exact ⟨a, rfl, hobj, hadded⟩
      · obtain ⟨before, hbefore, hobj, hadded⟩ := ih hnodup.2 (setUpLabel a s') hrest
        refine ⟨before, hbefore.trans ?_, hobj, hadded⟩
        have hne : s.id ≠ s'.id := by
          intro heq
          exact hnodup.1 (heq ▸ List.mem_map_of_mem hrest)
        exact Function.update_of_ne hne ..

/-- A label has the text of its set-up, and the object of its `AddLabel` exactly if that is
kept. -/
theorem foldl_setUpLabel {setups : List LabelSetup} (hnodup : (setups.map LabelSetup.id).Nodup)
    (a : App) {s : LabelSetup} (hs : s ∈ setups) :
    ∃ o, (setups.foldl setUpLabel a).added s.id = some o ∧
      ((setups.foldl setUpLabel a).objs s.id).obj =
        (if s.keepsObj then some o else (a.objs s.id).obj) ∧
      ((setups.foldl setUpLabel a).objs s.id).text = s.text := by
  obtain ⟨before, hbefore, hobj, hadded⟩ := foldl_setUpLabel_own hnodup a hs
  rw [hobj, hadded, ← hbefore]
  refine ⟨⟨before.gui.next⟩, Function.update_self _ _ _, ?_, ?_⟩
  · cases hkeeps : s.keepsObj <;> simp [setUpLabel, App.setObj, addLabel, Lvgl.create,
      LabelSetup.assign, hkeeps]
  · cases hkeeps : s.keepsObj <;> simp [setUpLabel, App.setObj, LabelSetup.assign, hkeeps]

/-- A label with a colour has `set_color` set. -/
theorem foldl_setUpLabel_setColor {setups : List LabelSetup}
    (hnodup : (setups.map LabelSetup.id).Nodup) (a : App) {s : LabelSetup} (hs : s ∈ setups)
    (hcolor : s.color.isSome) : ((setups.foldl setUpLabel a).objs s.id).setColor = true := by
  obtain ⟨before, _, hobj, _⟩ := foldl_setUpLabel_own hnodup a hs
  rw [hobj]
  cases hkeeps : s.keepsObj <;> simp [setUpLabel, App.setObj, LabelSetup.assign, hkeeps, hcolor]

/-- Labels that are set up later leave the objects that are there. -/
theorem widget_foldl_setUpLabel {a : App} {o : LvObj} {w : Widget Button}
    (ho : a.gui.widget o = some w) (setups : List LabelSetup) :
    (setups.foldl setUpLabel a).gui.widget o = some w := by
  induction setups generalizing a with
  | nil => exact ho
  | cons s rest ih => exact ih (Lvgl.widget_create_of_widget ho _)

/-- The object of a label with a colour shows its text in this colour. -/
theorem foldl_setUpLabel_widget {setups : List LabelSetup}
    (hnodup : (setups.map LabelSetup.id).Nodup) (a : App) {s : LabelSetup} (hs : s ∈ setups)
    {color : Color} (hcolor : s.color = some color) :
    ∃ o l, (setups.foldl setUpLabel a).added s.id = some o ∧
      (setups.foldl setUpLabel a).gui.widget o = some (.label l) ∧
      l.text = s.text ∧ l.color = some color := by
  induction setups generalizing a with
  | nil => cases hs
  | cons s' rest ih =>
      rw [List.map_cons, List.nodup_cons] at hnodup
      rw [List.foldl_cons]
      rcases List.mem_cons.1 hs with rfl | hrest
      · obtain ⟨_, hadded⟩ := foldl_setUpLabel_of_not_mem (a := setUpLabel a s) hnodup.1
        have hnew : ∃ l, (setUpLabel a s).gui.widget ⟨a.gui.next⟩ = some (.label l) ∧
            l.text = s.text ∧ l.color = some color :=
          ⟨_, Lvgl.widget_create_self _ a.gui, rfl, by simp [LabelSetup.assign, hcolor]⟩
        obtain ⟨l, hl, htext, hlcolor⟩ := hnew
        exact ⟨⟨a.gui.next⟩, l, hadded.trans (Function.update_self _ _ _),
          widget_foldl_setUpLabel hl rest, htext, hlcolor⟩
      · exact ih hnodup.2 (setUpLabel a s') hrest

/-- Each label that was added is an object of its own. -/
structure LabelObjects (a : App) : Prop where
  label : ∀ id o, a.added id = some o → ∃ l, a.gui.widget o = some (.label l)
  own : ∀ id id' o, a.added id = some o → a.added id' = some o → id = id'

theorem LabelObjects.setUpLabel {a : App} (h : LabelObjects a) (s : LabelSetup) :
    LabelObjects (setUpLabel a s) := by
  have hadded : ∀ id o, (Core.setUpLabel a s).added id = some o →
      id = s.id ∧ o = ⟨a.gui.next⟩ ∨ id ≠ s.id ∧ a.added id = some o := by
    intro id o ho
    by_cases hid : id = s.id
    · subst hid
      have ho : Function.update a.added s.id (some ⟨a.gui.next⟩) s.id = some o := ho
      rw [Function.update_self] at ho
      exact .inl ⟨rfl, (Option.some.inj ho).symm⟩
    · have ho : Function.update a.added s.id (some ⟨a.gui.next⟩) id = some o := ho
      rw [Function.update_of_ne hid] at ho
      exact .inr ⟨hid, ho⟩
  -- an object that is there already is not the new one
  have hother : ∀ id o, a.added id = some o → o ≠ ⟨a.gui.next⟩ := by
    intro id o ho
    obtain ⟨l, hl⟩ := h.label id o ho
    exact Lvgl.ne_of_widget hl
  refine ⟨fun id o ho => ?_, fun id id' o ho ho' => ?_⟩
  · rcases hadded id o ho with ⟨_, rfl⟩ | ⟨_, ho⟩
    · exact ⟨_, Lvgl.widget_create_self _ a.gui⟩
    · obtain ⟨l, hl⟩ := h.label id o ho
      exact ⟨l, Lvgl.widget_create_of_widget hl _⟩
  · rcases hadded id o ho with ⟨hid, hnew⟩ | ⟨_, hold⟩ <;>
      rcases hadded id' o ho' with ⟨hid', hnew'⟩ | ⟨_, hold'⟩
    · rw [hid, hid']
    · exact absurd hnew (hother id' o hold')
    · exact absurd hnew' (hother id o hold)
    · exact h.own id id' o hold hold'

theorem LabelObjects.foldl_setUpLabel {a : App} (h : LabelObjects a) (setups : List LabelSetup) :
    LabelObjects (setups.foldl Core.setUpLabel a) := by
  induction setups generalizing a with
  | nil => exact h
  | cons s rest ih => exact ih (h.setUpLabel s)

theorem nodup_mainMenuLabels (width : Int) : ((mainMenuLabels width).map LabelSetup.id).Nodup := by
  show ([.currentLabel, .current, .voltageLabel, .voltage, .batteryHealthLabel, .batteryHealth,
    .batteryTempLabel, .batteryTemp, .batteryLevelLabel, .batteryLevel, .inDockLabel, .inDock,
    .chargingLabel, .charging, .brightnessLabel, .brightnessValue] : List GuiId).Nodup
  decide

/-- The variables of the labels are not touched before `main_menu` sets them up. -/
theorem started_objs (width height : Int) (b : Backlight) {s : LabelSetup}
    (hs : s ∈ mainMenuLabels width) :
    ∃ o, (App.started width height b).added s.id = some o ∧
      ((App.started width height b).objs s.id).obj = (if s.keepsObj then some o else none) ∧
      ((App.started width height b).objs s.id).text = s.text := by
  obtain ⟨o, hadded, hobj, htext⟩ := foldl_setUpLabel (nodup_mainMenuLabels width) (setUpTitle width
    (addAdjustBrightness height ⟨fun _ => .static, .empty, .started b, fun _ => none, true⟩)) hs
  refine ⟨o, hadded, hobj.trans ?_, htext⟩
  have hid : s.id ∈ (mainMenuLabels width).map LabelSetup.id := List.mem_map_of_mem hs
  have hne : s.id ≠ .title ∧ s.id ≠ .increaseBtn ∧ s.id ≠ .decreaseBtn := by
    refine ⟨?_, ?_, ?_⟩ <;>
    · intro heq
      rw [heq] at hid
      simp [mainMenuLabels] at hid
  simp [setUpTitle, addAdjustBrightness, addAdjustButton, App.setObj, Function.update_of_ne hne.1,
    Function.update_of_ne hne.2.1, Function.update_of_ne hne.2.2, GuiObj.static]

theorem started_setColor (width height : Int) (b : Backlight) {s : LabelSetup}
    (hs : s ∈ mainMenuLabels width) (hcolor : s.color.isSome) :
    ((App.started width height b).objs s.id).setColor = true := by
  unfold App.started mainMenu
  exact foldl_setUpLabel_setColor (nodup_mainMenuLabels width) _ hs hcolor

theorem started_widget (width height : Int) (b : Backlight) {s : LabelSetup}
    (hs : s ∈ mainMenuLabels width) {color : Color} (hcolor : s.color = some color) :
    ∃ o l, (App.started width height b).added s.id = some o ∧
      (App.started width height b).gui.widget o = some (.label l) ∧
      l.text = s.text ∧ l.color = some color := by
  unfold App.started mainMenu
  exact foldl_setUpLabel_widget (nodup_mainMenuLabels width) _ hs hcolor

theorem started_labelObjects (width height : Int) (b : Backlight) :
    LabelObjects (.started width height b) := by
  unfold App.started mainMenu
  refine LabelObjects.foldl_setUpLabel ⟨fun id o ho => ?_, fun id id' o ho _ => ?_⟩ _
  · have ho : none = some o := ho
    cases ho
  · have ho : none = some o := ho
    cases ho

end BatteryInfo.Core
