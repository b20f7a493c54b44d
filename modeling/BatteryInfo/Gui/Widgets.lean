import Mathlib.Data.List.Infix
import Mathlib.Logic.Function.Basic

/-!
# Labels and buttons

The functions of `gui.cpp` that put labels and buttons on the screen, over the part of LVGL that
they use: objects with their attributes, and the callbacks of the buttons. Creating an object
gives a pointer that is not in use. LVGL does not accept `NULL` for an object, so that a call
with it ends the program and has no result.
-/

namespace BatteryInfo.Gui

/-- A `lv_obj_t *` other than `NULL`. -/
structure LvObj where
  handle : Nat
deriving DecidableEq, Repr

/-- The colours in use. That of a `lv_color_t` that nobody has set is black. -/
inductive Color where
  | black
  | blue
  | green
  | orange
  | red
deriving DecidableEq, Repr

/-- The fonts in use. -/
inductive Font where
  | statstripReg40
  | statstripBold40
  | statstripBold50
deriving DecidableEq, Repr

/-- `lv_label_align_t`. -/
inductive LabelAlign where
  | left
  | center
  | right
deriving DecidableEq, Repr

/-- The styles of a button. -/
inductive ButtonStyle where
  | regular
  | pass
  | fail
  | reset
deriving DecidableEq, Repr

/-- The attributes of a label. The colour is that of its own style, if it is set. -/
structure Label where
  text : List Char
  align : LabelAlign
  recolor : Bool
  font : Option Font
  color : Option Color
  hidden : Bool
  x : Int
  y : Int
  w : Int
deriving DecidableEq, Repr

/-- The attributes of a button with a callback of type `κ`. -/
structure LvButton (κ : Type) where
  cb : Option κ
  style : ButtonStyle
  checked : Bool
  userData : List Char
  x : Int
  y : Int
  w : Int
  h : Int
deriving DecidableEq, Repr

/-- The kinds of objects. -/
inductive Widget (κ : Type) where
  | label (l : Label)
  | button (b : LvButton κ)
  | line

/-- The objects of LVGL. -/
structure Lvgl (κ : Type) where
  widget : LvObj → Option (Widget κ)
  next : Nat
  /-- A pointer to come is not in use. -/
  fresh : ∀ o, next ≤ o.handle → widget o = none

/-- `GuiObj`, with the fields that `AddLabel`, `ChangeLabel`, `AddButton` and `AddTitle` read. -/
structure GuiObj (κ : Type) where
  obj : Option LvObj
  label : Option LvObj
  font : Option Font
  textAlign : LabelAlign
  hidden : Bool
  setColor : Bool
  color : Color
  btnToggle : Bool
  cb : Option κ
  text : List Char
  x : Int
  y : Int
  w : Int
  h : Int

variable {κ : Type}

/-- A `GuiObj` with static storage that nobody has written to. -/
def GuiObj.static : GuiObj κ where
  obj := none
  label := none
  font := none
  textAlign := .left
  hidden := false
  setColor := false
  color := .black
  btnToggle := false
  cb := none
  text := []
  x := 0
  y := 0
  w := 0
  h := 0

namespace Lvgl

/-- No object was created yet. -/
def empty : Lvgl κ where
  widget := fun _ => none
  next := 0
  fresh := fun _ _ => rfl

/-- An object is created. -/
def create (w : Widget κ) (g : Lvgl κ) : LvObj × Lvgl κ :=
  (⟨g.next⟩,
    { widget := Function.update g.widget ⟨g.next⟩ (some w)
      next := g.next + 1
      fresh := by
        intro o ho
        have hne : o ≠ ⟨g.next⟩ := by
          rintro rfl
          exact Nat.not_succ_le_self _ ho
        rw [Function.update_of_ne hne]
        exact g.fresh o (Nat.le_of_succ_le ho) })

@[simp] theorem widget_create_self (w : Widget κ) (g : Lvgl κ) :
    (g.create w).2.widget (g.create w).1 = some w :=
  Function.update_self ..

/-- An object that is there already is another one. -/
theorem ne_of_widget {g : Lvgl κ} {o : LvObj} {w : Widget κ} (ho : g.widget o = some w) :
    o ≠ ⟨g.next⟩ := by
  rintro rfl
  rw [g.fresh _ (Nat.le_refl _)] at ho
  cases ho

theorem widget_create_of_widget {g : Lvgl κ} {o : LvObj} {w : Widget κ} (ho : g.widget o = some w)
    (w' : Widget κ) : (g.create w').2.widget o = some w :=
  (Function.update_of_ne (ne_of_widget ho) ..).trans ho

/-- The attributes of an object are changed, if it is a label. -/
def changeLabel (o : LvObj) (change : Label → Label) (g : Lvgl κ) : Lvgl κ where
  widget := Function.update g.widget o <|
    match g.widget o with
    | some (.label l) => some (.label (change l))
    | w => w
  next := g.next
  fresh := by
    intro p hp
    by_cases hpo : p = o
    · subst hpo
      rw [Function.update_self, g.fresh p hp]
    · rw [Function.update_of_ne hpo]
      exact g.fresh p hp

theorem widget_changeLabel_self {g : Lvgl κ} {o : LvObj} {l : Label}
    (ho : g.widget o = some (.label l)) (change : Label → Label) :
    (g.changeLabel o change).widget o = some (.label (change l)) := by
  simp only [changeLabel, ho]
  exact Function.update_self ..

theorem widget_changeLabel_of_ne {o p : LvObj} (hne : p ≠ o) (change : Label → Label)
    (g : Lvgl κ) : (g.changeLabel o change).widget p = g.widget p :=
  Function.update_of_ne hne ..

end Lvgl

/-- `AddLabel`. It is given a copy of the `GuiObj`, and returns the object that it creates. -/
def addLabel (obj : GuiObj κ) (text : List Char) (g : Lvgl κ) : LvObj × Lvgl κ :=
  g.create (.label
    { text
      align := obj.textAlign
      recolor := true
      font := obj.font
      color := if obj.setColor then some obj.color else none
      hidden := obj.hidden
      x := obj.x
      y := obj.y
      w := obj.w })

/-- `ChangeLabel`. -/
def changeLabel (label : GuiObj κ) (text : List Char) (g : Lvgl κ) : Option (Lvgl κ) := do
  let o ← label.obj
  pure (g.changeLabel o fun l =>
    { l with
      text
      color := if label.setColor then some label.color else l.color })

/-- The style that `AddButton` chooses by the text. -/
def buttonStyle (text : List Char) : ButtonStyle :=
  if "PASS".toList <:+: text then .pass
  else if "FAIL".toList <:+: text then .fail
  else if "RESET".toList <:+: text then .reset
  else .regular

/-- `AddButton`, which puts a label on the button that it creates. -/
def addButton (btn : GuiObj κ) (g : Lvgl κ) : LvObj × Lvgl κ :=
  let (button, g) := g.create (.button
    { cb := btn.cb
      style := buttonStyle btn.text
      checked := btn.btnToggle
      userData := btn.text
      x := btn.x
      y := btn.y
      w := btn.w
      h := btn.h })
  let (_, g) := g.create (.label
    { text := btn.text
      align := .left
      recolor := false
      font := some .statstripBold40
      color := none
      hidden := false
      x := 0
      y := 0
      w := 0 })
  (button, g)

/-- `AddTitle`, which draws a line under the label that it creates. `width` is that of the
canvas. -/
def addTitle (width : Int) (title : GuiObj κ) (text : List Char) (g : Lvgl κ) : LvObj × Lvgl κ :=
  let (label, g) := g.create (.label
    { text
      align := .center
      recolor := false
      font := some .statstripBold50
      color := some .blue
      hidden := false
      x := 0
      y := title.y
      w := width })
  let (_, g) := g.create .line
  (label, g)

end BatteryInfo.Gui
