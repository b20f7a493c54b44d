import BatteryInfo.Gui.Widgets
import BatteryInfo.Objects.Forest

/-!
# What is on the screen

The functions of `gui.cpp` between `lvgl_lock` and its release, over the objects of LVGL with the
screens that they are on. LVGL deletes an object with all that is on it, and takes the pointer to a
deleted object for one that is there, and any object for a label, which C does not define: such a
call has no result. As far as nothing is deleted these are the functions of
`BatteryInfo.Gui.Widgets` (`lvgl_addLabel` and the lemmas after it).
-/

namespace BatteryInfo.Gui

open Objects

/-- `LV_STATE_DEFAULT`, `LV_STATE_CHECKED` and `LV_STATE_DISABLED`. -/
inductive LvState where
  | default
  | checked
  | disabled
deriving DecidableEq, Repr

/-- A button of `AddTouchButton`, with the `obj_id` that its user data point to. -/
structure TouchButton (κ : Type) where
  cb : Option κ
  userData : UInt32
  x : Int
  y : Int
  w : Int
  h : Int

/-- `LV_TABLE_PART_CELL1` and `LV_TABLE_PART_CELL2`. -/
inductive CellType where
  | cell1
  | cell2
deriving DecidableEq, Repr

/-- A cell of a table. -/
structure Cell where
  value : List Char
  align : LabelAlign
  type : CellType
deriving DecidableEq, Repr

/-- A table. `resultColors` says whether its two types of cells are green and red. -/
structure LvTable where
  rows : Nat
  cols : Nat
  cell : Nat → Nat → Cell
  resultColors : Bool

/-- The kinds of objects, screens included. -/
inductive Kind (κ : Type) where
  | screen
  | label (l : Label)
  | button (b : LvButton κ)
  | touchButton (b : TouchButton κ)
  | line
  | canvas
  | table (t : LvTable)

/-- The object is a label. -/
def Kind.isLabel {κ : Type} : Kind κ → Bool
  | .label _ => true
  | _ => false

/-- An object with its state. The label keeps for itself whether it is hidden. -/
structure Item (κ : Type) where
  kind : Kind κ
  state : LvState
  hidden : Bool

variable {κ : Type}

/-- An object as it is created. -/
def Item.new (kind : Kind κ) : Item κ :=
  ⟨kind, .default, false⟩

/-- `lv_obj_set_hidden`. -/
def Item.setHidden (hide : Bool) (i : Item κ) : Item κ :=
  match i.kind with
  | .label l => { i with kind := .label { l with hidden := hide }, hidden := hide }
  | _ => { i with hidden := hide }

/-- The objects of LVGL, with the screen that is shown. -/
structure Display (κ : Type) where
  forest : Forest (Item κ)
  /-- `lv_scr_act()`. -/
  active : Nat
  /-- The screen that is shown is there. -/
  shown : ∃ i, forest.node active = some ⟨[], i⟩

namespace Display

/-- What `lv_init` and the display driver leave: a screen with nothing on it. -/
def initial : Display κ where
  forest := Forest.empty.addRoot (Item.new .screen)
  active := 0
  shown := ⟨_, Forest.node_addRoot_self _⟩

/-- An object is there. -/
def Alive (d : Display κ) (o : LvObj) : Prop :=
  d.forest.node o.handle ≠ none

/-- A label is there. -/
def IsLabel (d : Display κ) (o : LvObj) : Prop :=
  ∃ n, d.forest.node o.handle = some n ∧ n.data.kind.isLabel = true

/-- An object is created on another one. -/
def addTo (p : Nat) (kind : Kind κ) (d : Display κ) : Option (LvObj × Display κ) :=
  match hp : d.forest.node p with
  | none => none
  | some m => some (⟨d.forest.next⟩,
      { forest := d.forest.addOn p m hp (Item.new kind)
        active := d.active
        shown := by
          obtain ⟨i, hi⟩ := d.shown
          exact ⟨i, (Forest.node_addOn_of_ne hp _ (Forest.ne_next hi)).trans hi⟩ })

/-- An object is created on the screen that is shown. -/
def add (kind : Kind κ) (d : Display κ) : Option (LvObj × Display κ) :=
  d.addTo d.active kind

/-- An object is changed. -/
def modify (o : LvObj) (change : Item κ → Item κ) (d : Display κ) : Option (Display κ) :=
  match d.forest.node o.handle with
  | none => none
  | some _ => some
      { forest := d.forest.modify o.handle change
        active := d.active
        shown := by
          obtain ⟨i, hi⟩ := d.shown
          by_cases ho : d.active = o.handle
          · rw [← ho, Forest.node_modify_self, hi]
            exact ⟨_, rfl⟩
          · exact ⟨i, (Forest.node_modify_of_ne change ho).trans hi⟩ }

/-- `lv_obj_del`, for an object that is on another one. No function gives out a pointer to a
screen. -/
def delete (o : LvObj) (d : Display κ) : Option (Display κ) :=
  match ho : d.forest.node o.handle with
  | none => none
  | some ⟨[], _⟩ => none
  | some ⟨p :: above, i⟩ => some
      { forest := d.forest.delete o.handle
        active := d.active
        shown := by
          obtain ⟨j, hj⟩ := d.shown
          refine ⟨j, Forest.node_delete.2 ⟨hj, ?_, List.not_mem_nil⟩⟩
          intro heq
          rw [heq, ho] at hj
          cases hj }

/-- `lv_obj_clean(lv_scr_act())`. -/
def clean (d : Display κ) : Display κ where
  forest := d.forest.clean d.active
  active := d.active
  shown := by
    obtain ⟨i, hi⟩ := d.shown
    exact ⟨i, Forest.node_clean.2 ⟨hi, List.not_mem_nil⟩⟩

/-- A new screen is created and shown. -/
def load (d : Display κ) : Display κ where
  forest := d.forest.addRoot (Item.new .screen)
  active := d.forest.next
  shown := ⟨_, Forest.node_addRoot_self _⟩

end Display

/-! ## The functions of `gui.cpp` -/

/-- `CreateScreen`. The screen before it is not deleted. -/
def createScreen (d : Display κ) : Display κ :=
  d.load

/-- `ClearScreen`. -/
def clearScreen (d : Display κ) : Display κ :=
  d.clean

namespace Display

/-- `AddLabel`. -/
def addLabel (obj : GuiObj κ) (text : List Char) (d : Display κ) : Option (LvObj × Display κ) :=
  d.add (.label
    { text
      align := obj.textAlign
      recolor := true
      font := obj.font
      color := if obj.setColor then some obj.color else none
      hidden := obj.hidden
      x := obj.x
      y := obj.y
      w := obj.w })

/-- `AddButton`. -/
def addButton (btn : GuiObj κ) (d : Display κ) : Option (LvObj × Display κ) := do
  let (button, d) ← d.add (.button
    { cb := btn.cb
      style := buttonStyle btn.text
      checked := btn.btnToggle
      userData := btn.text
      x := btn.x
      y := btn.y
      w := btn.w
      h := btn.h })
  let (_, d) ← d.addTo button.handle (.label
    { text := btn.text
      align := .left
      recolor := false
      font := some .statstripBold40
      color := none
      hidden := false
      x := 0
      y := 0
      w := 0 })
  pure (button, d)

/-- `AddTouchButton`, with the `obj_id` of the `GuiObj`. -/
def addTouchButton (btn : GuiObj κ) (objId : UInt32) (d : Display κ) :
    Option (LvObj × Display κ) := do
  let (button, d) ← d.add (.touchButton
    { cb := btn.cb
      userData := objId
      x := btn.x
      y := btn.y
      w := btn.w
      h := btn.h })
  let d ← d.modify button fun i => { i with state := .checked }
  pure (button, d)

/-- `DisableButton`. It leaves the button checkable, unlike its comment in `Gui.hpp`. -/
def disableButton (obj : LvObj) (d : Display κ) : Option (Display κ) :=
  d.modify obj fun i => { i with state := .disabled }

/-- `AddTitle`. `width` is that of the canvas. -/
def addTitle (width : Int) (title : GuiObj κ) (text : List Char) (d : Display κ) :
    Option (LvObj × Display κ) := do
  let (label, d) ← d.add (.label
    { text
      align := .center
      recolor := false
      font := some .statstripBold50
      color := some .blue
      hidden := false
      x := 0
      y := title.y
      w := width })
  let (_, d) ← d.add .line
  pure (label, d)

/-- `AddDirectionLabel`. -/
def addDirectionLabel (width : Int) (d : Display κ) : Option (LvObj × Display κ) :=
  d.add (.label
    { text := "Directions:".toList
      align := .left
      recolor := false
      font := some .statstripBold40
      color := none
      hidden := false
      x := 35
      y := 250
      w := width })

/-- `AddCountdownLabel`. -/
def addCountdownLabel (ta : GuiObj κ) (text : List Char) (d : Display κ) :
    Option (LvObj × Display κ) :=
  d.add (.label
    { text
      align := ta.textAlign
      recolor := false
      font := ta.font
      color := none
      hidden := false
      x := ta.x
      y := ta.y
      w := ta.w })

/-- What `ChangeLabel` does to a label. -/
def relabel (label : GuiObj κ) (text : List Char) (i : Item κ) : Item κ :=
  match i.kind with
  | .label l =>
      { i with
        kind := .label
          { l with
            text
            color := if label.setColor then some label.color else l.color } }
  | _ => i

/-- `ChangeLabel`. LVGL takes any object for a label, which C does not define for one that is
none. -/
def changeLabel (label : GuiObj κ) (text : List Char) (d : Display κ) : Option (Display κ) := do
  let o ← label.obj
  let n ← d.forest.node o.handle
  if n.data.kind.isLabel then d.modify o (relabel label text) else none

/-- `SetGuiObjVisibility`. -/
def setGuiObjVisibility (guiObj : GuiObj κ) (hide : Bool) (d : Display κ) :
    Option (Display κ) := do
  let o ← guiObj.obj
  d.modify o (Item.setHidden hide)

/-- `RemoveGuiObj`. -/
def removeGuiObj (guiObj : GuiObj κ) (d : Display κ) : Option (Display κ) := do
  let o ← guiObj.obj
  let d ← d.modify o (Item.setHidden true)
  d.delete o

end Display

/-! ## Tables -/

/-- `GuiTable`, with the fields that `AddTable` reads. -/
structure GuiTable where
  r : UInt16
  c : UInt16

namespace LvTable

/-- What `lv_table_create` and the first calls of `AddTable` make. -/
def sized (rows cols : Nat) : LvTable where
  rows := rows
  cols := cols
  cell := fun _ _ => ⟨[], .left, .cell1⟩
  resultColors := false

/-- The functions that set something of a cell. LVGL ignores cells that are not there. -/
def setCell (row col : Nat) (change : Cell → Cell) (t : LvTable) : LvTable :=
  if row < t.rows ∧ col < t.cols then
    { t with cell := fun i j => if i = row ∧ j = col then change (t.cell i j) else t.cell i j }
  else t

/-- The two cells of a row as `AddTable` leaves them. -/
def setRow (row : Nat) (type : CellType) (align : LabelAlign) (value1 value2 : List Char)
    (t : LvTable) : LvTable :=
  let t := t.setCell row 0 fun _ => ⟨value1, align, type⟩
  t.setCell row 1 fun _ => ⟨value2, .center, type⟩

end LvTable

/-- The first two strings of a row of `values`. An access outside a `std::vector` has no result. -/
def rowValues (values : List (List (List Char))) (i : Nat) :
    Option (List Char × List Char) := do
  let row ← values[i]?
  let value1 ← row[0]?
  let value2 ← row[1]?
  pure (value1, value2)

/-- An iteration of the loop of `AddTable`. -/
def addRow (values : List (List (List Char))) (wasTestRun : Bool) (t : LvTable) (i : Nat) :
    Option LvTable := do
  let (value1, value2) ← rowValues values i
  let type := if wasTestRun ∧ value2 = "PASSED".toList then CellType.cell1 else .cell2
  pure (t.setRow i type .left value1 value2)

/-- The table that `AddTable` fills in. -/
def fillTable (guiTable : GuiTable) (values : List (List (List Char)))
    (wasTestRun didTestsPass : Bool) : Option LvTable := do
  let (header1, header2) ← rowValues values 0
  let t := LvTable.sized guiTable.r.toNat guiTable.c.toNat
  let t := t.setRow 0 (if didTestsPass then .cell1 else .cell2) .center header1 header2
  let t ← (List.range' 1 (guiTable.r.toNat - 1)).foldlM (addRow values wasTestRun) t
  pure { t with resultColors := wasTestRun }

namespace Display

/-- `AddTable`. -/
def addTable (guiTable : GuiTable) (values : List (List (List Char)))
    (wasTestRun didTestsPass : Bool) (d : Display κ) : Option (LvObj × Display κ) := do
  let t ← fillTable guiTable values wasTestRun didTestsPass
  let (table, d) ← d.add (.table t)
  let d ← d.modify table fun i => { i with state := .disabled }
  pure (table, d)

end Display

/-! ## Calls -/

/-- A call of a function that enters its section once, or of `DisableButton`. -/
inductive ScreenCall (κ : Type) where
  | createScreen
  | clearScreen
  | addButton (btn : GuiObj κ)
  | addTouchButton (btn : GuiObj κ) (objId : UInt32)
  | disableButton (obj : LvObj)
  | addTitle (title : GuiObj κ) (text : List Char)
  | addLabel (obj : GuiObj κ) (text : List Char)
  | addDirectionLabel
  | addCountdownLabel (ta : GuiObj κ) (text : List Char)
  | changeLabel (label : GuiObj κ) (text : List Char)
  | addTable (guiTable : GuiTable) (values : List (List (List Char)))
      (wasTestRun didTestsPass : Bool)
  | setGuiObjVisibility (guiObj : GuiObj κ) (hide : Bool)
  | removeGuiObj (guiObj : GuiObj κ)

namespace ScreenCall

/-- What a call returns, and the objects that it leaves. -/
def run (width : Int) (d : Display κ) : ScreenCall κ → Option (Option LvObj × Display κ)
  | createScreen => some (none, Gui.createScreen d)
  | clearScreen => some (none, Gui.clearScreen d)
  | addButton btn => (d.addButton btn).map fun (o, d) => (some o, d)
  | addTouchButton btn objId => (d.addTouchButton btn objId).map fun (o, d) => (some o, d)
  | disableButton obj => (d.disableButton obj).map fun d => (none, d)
  | addTitle title text => (d.addTitle width title text).map fun (o, d) => (some o, d)
  | addLabel obj text => (d.addLabel obj text).map fun (o, d) => (some o, d)
  | addDirectionLabel => (d.addDirectionLabel width).map fun (_, d) => (none, d)
  | addCountdownLabel ta text => (d.addCountdownLabel ta text).map fun (o, d) => (some o, d)
  | changeLabel label text => (d.changeLabel label text).map fun d => (none, d)
  | addTable guiTable values wasTestRun didTestsPass =>
      (d.addTable guiTable values wasTestRun didTestsPass).map fun (o, d) => (some o, d)
  | setGuiObjVisibility guiObj hide =>
      (d.setGuiObjVisibility guiObj hide).map fun d => (none, d)
  | removeGuiObj guiObj => (d.removeGuiObj guiObj).map fun d => (none, d)

/-- The call locks `lvgl_lock`. In `DisableButton` the lock is commented out. -/
def locks : ScreenCall κ → Bool
  | disableButton _ => false
  | _ => true

/-- What a call does to the objects. -/
def changes (d : Display κ) : ScreenCall κ → List Change
  | createScreen => [.created d.forest.next []]
  | clearScreen => [.cleaned d.active]
  | addButton _ =>
      [.created d.forest.next [d.active], .created (d.forest.next + 1) [d.forest.next, d.active]]
  | addTitle _ _ => [.created d.forest.next [d.active], .created (d.forest.next + 1) [d.active]]
  | addTouchButton _ _ | addLabel _ _ | addDirectionLabel | addCountdownLabel _ _
  | addTable _ _ _ _ => [.created d.forest.next [d.active]]
  | disableButton _ | changeLabel _ _ | setGuiObjVisibility _ _ => []
  | removeGuiObj guiObj => guiObj.obj.toList.map fun o => .deleted o.handle

end ScreenCall

/-! ## What the functions do -/

namespace Display

variable {d d' : Display κ} {kind : Kind κ} {o : LvObj} {log : List Change}

/-- An object is created on the objects `above`. -/
structure Adds (d : Display κ) (above : List Nat) (kind : Kind κ) (d' : Display κ) : Prop where
  active : d'.active = d.active
  next : d'.forest.next = d.forest.next + 1
  self : d'.forest.node d.forest.next = some ⟨above, Item.new kind⟩
  others : ∀ p, p ≠ d.forest.next → d'.forest.node p = d.forest.node p

/-- On an object that is there another one can be created. -/
theorem addTo_eq {p : Nat} {m : Node (Item κ)} (hp : d.forest.node p = some m) (kind : Kind κ) :
    ∃ d', d.addTo p kind = some (⟨d.forest.next⟩, d') ∧ d.Adds (p :: m.above) kind d' := by
  unfold addTo
  split
  · rename_i hnone
    cases hnone.symm.trans hp
  · rename_i n hn
    cases hn.symm.trans hp
    exact ⟨_, rfl, rfl, rfl, Forest.node_addOn_self hn _, fun q => Forest.node_addOn_of_ne hn _⟩

theorem add_eq (kind : Kind κ) (d : Display κ) :
    ∃ d', d.add kind = some (⟨d.forest.next⟩, d') ∧ d.Adds [d.active] kind d' := by
  obtain ⟨i, hi⟩ := d.shown
  exact addTo_eq hi kind

theorem alive_of_node {n : Node (Item κ)} (ho : d.forest.node o.handle = some n) : d.Alive o := by
  intro hnone
  cases hnone.symm.trans ho

theorem Adds.alive {above : List Nat} (h : d.Adds above kind d') : d'.Alive ⟨d.forest.next⟩ :=
  alive_of_node h.self

theorem Adds.records {above : List Nat} (h : d.Adds above kind d') (hlog : Records log d.forest) :
    Records (log ++ [.created d.forest.next above]) d'.forest :=
  hlog.created h.self h.others h.next

/-- A new object takes no label away. -/
theorem Adds.isLabel {above : List Nat} {p : LvObj} (h : d.Adds above kind d')
    (hp : d.IsLabel p) : d'.IsLabel p := by
  obtain ⟨n, hn, hlabel⟩ := hp
  exact ⟨n, (h.others p.handle (Forest.ne_next hn)).trans hn, hlabel⟩

/-- Nor does a new screen. -/
theorem IsLabel.load {p : LvObj} (hp : d.IsLabel p) : d.load.IsLabel p := by
  obtain ⟨n, hn, hlabel⟩ := hp
  exact ⟨n, (Forest.node_addRoot_of_ne _ (Forest.ne_next hn)).trans hn, hlabel⟩

theorem modify_some {change : Item κ → Item κ} (h : d.modify o change = some d') :
    d'.active = d.active ∧ d'.forest = d.forest.modify o.handle change ∧ d.Alive o := by
  unfold modify at h
  split at h
  · cases h
  · rename_i m hm
    cases h
    exact ⟨rfl, rfl, alive_of_node hm⟩

/-- An object that is there can be changed. -/
theorem modify_eq (h : d.Alive o) (change : Item κ → Item κ) :
    ∃ d', d.modify o change = some d' := by
  obtain ⟨m, hm⟩ := Option.ne_none_iff_exists'.1 h
  unfold modify
  rw [hm]
  exact ⟨_, rfl⟩

/-- A change takes no object away. -/
theorem Alive.modify {p : LvObj} {change : Item κ → Item κ} (h : d.Alive p)
    (hmodify : d.modify o change = some d') : d'.Alive p := by
  unfold Alive
  rw [(modify_some hmodify).2.1]
  by_cases hp : p.handle = o.handle
  · have hnone : d.forest.node p.handle ≠ none := h
    rw [hp, Forest.node_modify_self, ← hp]
    simpa using hnone
  · rw [Forest.node_modify_of_ne change hp]
    exact h

theorem IsLabel.alive (h : d.IsLabel o) : d.Alive o := by
  obtain ⟨n, hn, _⟩ := h
  exact alive_of_node hn

theorem changeLabel_some {label : GuiObj κ} {text : List Char}
    (h : d.changeLabel label text = some d') :
    ∃ o, label.obj = some o ∧ d.IsLabel o ∧ d.modify o (relabel label text) = some d' := by
  obtain ⟨o, hobj, hcall⟩ := Option.bind_eq_some_iff.1 h
  obtain ⟨n, hn, hmodify⟩ := Option.bind_eq_some_iff.1 hcall
  cases hlabel : n.data.kind.isLabel with
  | true =>
      rw [hlabel, if_pos rfl] at hmodify
      exact ⟨o, hobj, ⟨n, hn, hlabel⟩, hmodify⟩
  | false =>
      rw [hlabel] at hmodify
      cases hmodify

/-- The text of a label that is there can be changed. -/
theorem changeLabel_eq {label : GuiObj κ} (hobj : label.obj = some o) (hlabel : d.IsLabel o)
    (text : List Char) :
    d.changeLabel label text = d.modify o (relabel label text) := by
  obtain ⟨n, hn, hlabel⟩ := hlabel
  unfold changeLabel
  rw [hobj]
  show (d.forest.node o.handle).bind _ = _
  rw [hn]
  exact if_pos hlabel

theorem isLabel_relabel (label : GuiObj κ) (text : List Char) (i : Item κ) :
    (relabel label text i).kind.isLabel = i.kind.isLabel := by
  unfold relabel
  cases hkind : i.kind <;> simp [Kind.isLabel, hkind]

/-- A change that makes no label and unmakes none leaves the labels. -/
theorem isLabel_modify_iff {change : Item κ → Item κ}
    (hkind : ∀ i, (change i).kind.isLabel = i.kind.isLabel) (hmodify : d.modify o change = some d')
    (p : LvObj) : d'.IsLabel p ↔ d.IsLabel p := by
  unfold IsLabel
  rw [(modify_some hmodify).2.1]
  by_cases hp : p.handle = o.handle
  · rw [hp, Forest.node_modify_self]
    constructor
    · rintro ⟨n, hn, hlabel⟩
      obtain ⟨m, hm, rfl⟩ := Option.map_eq_some_iff.1 hn
      exact ⟨m, hm, (hkind m.data).symm.trans hlabel⟩
    · rintro ⟨m, hm, hlabel⟩
      exact ⟨_, Option.map_eq_some_iff.2 ⟨m, hm, rfl⟩, (hkind m.data).trans hlabel⟩
  · rw [Forest.node_modify_of_ne change hp]

theorem delete_some (h : d.delete o = some d') :
    d'.active = d.active ∧ d'.forest = d.forest.delete o.handle := by
  unfold delete at h
  split at h
  · cases h
  · cases h
  · cases h
    exact ⟨rfl, rfl⟩

theorem Adds.then_modify {d'' : Display κ} {above : List Nat} {change : Item κ → Item κ}
    (h : d.Adds above kind d') (hmodify : d'.modify o change = some d'')
    (hlog : Records log d.forest) :
    Records (log ++ [.created d.forest.next above]) d''.forest := by
  rw [(modify_some hmodify).2.1]
  exact (h.records hlog).modify o.handle change

end Display

namespace ScreenCall

variable {d d' : Display κ} {log : List Change} {width : Int} {call : ScreenCall κ}
  {r : Option LvObj}

/-- A function that creates one object. -/
theorem add_records {kind : Kind κ} {f : LvObj × Display κ → Option LvObj × Display κ}
    (hf : ∀ o d, (f (o, d)).2 = d) (hlog : Records log d.forest)
    (h : (d.add kind).map f = some (r, d')) :
    Records (log ++ [.created d.forest.next [d.active]]) d'.forest := by
  obtain ⟨d₁, hadd, hadds⟩ := Display.add_eq kind d
  rw [hadd] at h
  obtain rfl : d₁ = d' := (hf _ _).symm.trans (congrArg Prod.snd (Option.some.inj h))
  exact hadds.records hlog

/-- A function that changes one object. -/
theorem modify_records {o : LvObj} {change : Item κ → Item κ} (hlog : Records log d.forest)
    (h : d.modify o change = some d') : Records (log ++ []) d'.forest := by
  rw [List.append_nil, (Display.modify_some h).2.1]
  exact hlog.modify o.handle change

/-- The log goes on to say which objects are there. -/
theorem records_run (hlog : Records log d.forest) (h : call.run width d = some (r, d')) :
    Records (log ++ call.changes d) d'.forest := by
  cases call with
  | createScreen =>
      cases h
      exact hlog.addRoot _
  | clearScreen =>
      cases h
      exact hlog.clean _
  | addButton btn =>
      obtain ⟨⟨o, d₂⟩, hcall, heq⟩ := Option.map_eq_some_iff.1 h
      cases heq
      obtain ⟨⟨button, d₁⟩, hadd, hcall⟩ := Option.bind_eq_some_iff.1 hcall
      obtain ⟨⟨l, d₂⟩, haddTo, heq⟩ := Option.bind_eq_some_iff.1 hcall
      cases heq
      obtain ⟨d₁', hadd', hadds⟩ := Display.add_eq _ d
      cases hadd.symm.trans hadd'
      obtain ⟨d₂', haddTo', hadds'⟩ := Display.addTo_eq hadds.self _
      cases haddTo.symm.trans haddTo'
      have hboth := hadds'.records (hadds.records hlog)
      rw [hadds.next, List.append_assoc] at hboth
      exact hboth
  | addTouchButton btn objId =>
      obtain ⟨⟨o, d₂⟩, hcall, heq⟩ := Option.map_eq_some_iff.1 h
      cases heq
      obtain ⟨⟨button, d₁⟩, hadd, hcall⟩ := Option.bind_eq_some_iff.1 hcall
      obtain ⟨d₂, hmodify, heq⟩ := Option.bind_eq_some_iff.1 hcall
      cases heq
      obtain ⟨d₁', hadd', hadds⟩ := Display.add_eq _ d
      cases hadd.symm.trans hadd'
      exact hadds.then_modify hmodify hlog
  | disableButton obj =>
      obtain ⟨d₁, hcall, heq⟩ := Option.map_eq_some_iff.1 h
      cases heq
      exact modify_records hlog hcall
  | addTitle title text =>
      obtain ⟨⟨o, d₂⟩, hcall, heq⟩ := Option.map_eq_some_iff.1 h
      cases heq
      obtain ⟨⟨label, d₁⟩, hadd, hcall⟩ := Option.bind_eq_some_iff.1 hcall
      obtain ⟨⟨line, d₂⟩, hline, heq⟩ := Option.bind_eq_some_iff.1 hcall
      cases heq
      obtain ⟨d₁', hadd', hadds⟩ := Display.add_eq _ d
      cases hadd.symm.trans hadd'
      obtain ⟨d₂', hline', hadds'⟩ := Display.add_eq .line d₁
      cases hline.symm.trans hline'
      have hboth := hadds'.records (hadds.records hlog)
      rw [hadds.next, hadds.active, List.append_assoc] at hboth
      exact hboth
  | addLabel obj text => exact add_records (fun _ _ => rfl) hlog h
  | addDirectionLabel => exact add_records (fun _ _ => rfl) hlog h
  | addCountdownLabel ta text => exact add_records (fun _ _ => rfl) hlog h
  | changeLabel label text =>
      obtain ⟨d₁, hcall, heq⟩ := Option.map_eq_some_iff.1 h
      cases heq
      obtain ⟨o, _, _, hmodify⟩ := Display.changeLabel_some hcall
      exact modify_records hlog hmodify
  | addTable guiTable values wasTestRun didTestsPass =>
      obtain ⟨⟨o, d₂⟩, hcall, heq⟩ := Option.map_eq_some_iff.1 h
      cases heq
      obtain ⟨t, _, hcall⟩ := Option.bind_eq_some_iff.1 hcall
      obtain ⟨⟨table, d₁⟩, hadd, hcall⟩ := Option.bind_eq_some_iff.1 hcall
      obtain ⟨d₂, hmodify, heq⟩ := Option.bind_eq_some_iff.1 hcall
      cases heq
      obtain ⟨d₁', hadd', hadds⟩ := Display.add_eq _ d
      cases hadd.symm.trans hadd'
      exact hadds.then_modify hmodify hlog
  | setGuiObjVisibility guiObj hide =>
      obtain ⟨d₁, hcall, heq⟩ := Option.map_eq_some_iff.1 h
      cases heq
      obtain ⟨o, _, hcall⟩ := Option.bind_eq_some_iff.1 hcall
      exact modify_records hlog hcall
  | removeGuiObj guiObj =>
      obtain ⟨d₂, hcall, heq⟩ := Option.map_eq_some_iff.1 h
      cases heq
      obtain ⟨o, hobj, hcall⟩ := Option.bind_eq_some_iff.1 hcall
      obtain ⟨d₁, hmodify, hdelete⟩ := Option.bind_eq_some_iff.1 hcall
      rw [show (removeGuiObj guiObj).changes d = [.deleted o.handle] by simp [changes, hobj],
        (Display.delete_some hdelete).2, (Display.modify_some hmodify).2.1]
      exact (hlog.modify o.handle _).delete o.handle

end ScreenCall

/-! ## Without deletions -/

/-- The objects of `BatteryInfo.Gui.Widgets`. -/
def Kind.widget : Kind κ → Option (Widget κ)
  | .label l => some (.label l)
  | .button b => some (.button b)
  | .line => some .line
  | .screen | .touchButton _ | .canvas | .table _ => none

/-- The display without its screens. -/
def Display.lvgl (d : Display κ) : Lvgl κ where
  widget := fun o => (d.forest.node o.handle).bind fun n => n.data.kind.widget
  next := d.forest.next
  fresh := by
    intro o ho
    rw [d.forest.fresh o.handle ho]
    rfl

theorem Lvgl.eq_of_widget {g g' : Lvgl κ} (hwidget : ∀ o, g.widget o = g'.widget o)
    (hnext : g.next = g'.next) : g = g' := by
  cases g
  cases g'
  obtain rfl := funext hwidget
  obtain rfl := hnext
  rfl

namespace Display

variable {d d' : Display κ}

theorem Adds.lvgl {above : List Nat} {kind : Kind κ} {w : Widget κ} (h : d.Adds above kind d')
    (hkind : kind.widget = some w) : d.lvgl.create w = (⟨d.forest.next⟩, d'.lvgl) := by
  refine Prod.ext rfl (Lvgl.eq_of_widget (fun o => ?_) h.next.symm)
  by_cases ho : o = ⟨d.forest.next⟩
  · subst ho
    show (d.lvgl.create w).2.widget (d.lvgl.create w).1 =
      (d'.forest.node d.forest.next).bind fun n => n.data.kind.widget
    rw [Lvgl.widget_create_self, h.self]
    exact hkind.symm
  · have hne : o.handle ≠ d.forest.next := fun heq => ho (by rw [← heq])
    show Function.update d.lvgl.widget ⟨d.forest.next⟩ (some w) o =
      (d'.forest.node o.handle).bind fun n => n.data.kind.widget
    rw [Function.update_of_ne ho, h.others o.handle hne]
    rfl

/-- `AddLabel` on both. -/
theorem lvgl_addLabel (obj : GuiObj κ) (text : List Char) (d : Display κ) :
    ∃ d', d.addLabel obj text = some ((Gui.addLabel obj text d.lvgl).1, d') ∧
      d'.lvgl = (Gui.addLabel obj text d.lvgl).2 := by
  obtain ⟨d', hadd, hadds⟩ := add_eq _ d
  refine ⟨d', hadd, ?_⟩
  unfold Gui.addLabel
  rw [hadds.lvgl rfl]

/-- `AddButton` on both. -/
theorem lvgl_addButton (btn : GuiObj κ) (d : Display κ) :
    ∃ d', d.addButton btn = some ((Gui.addButton btn d.lvgl).1, d') ∧
      d'.lvgl = (Gui.addButton btn d.lvgl).2 := by
  obtain ⟨d₁, hadd, hadds⟩ := add_eq _ d
  obtain ⟨d₂, haddTo, hadds'⟩ := addTo_eq hadds.self _
  refine ⟨d₂, ?_, ?_⟩
  · unfold addButton
    rw [hadd]
    show (d₁.addTo d.forest.next _).bind _ = _
    rw [haddTo]
    rfl
  · unfold Gui.addButton
    simp only [hadds.lvgl rfl, hadds'.lvgl rfl]

/-- `AddTitle` on both. -/
theorem lvgl_addTitle (width : Int) (title : GuiObj κ) (text : List Char) (d : Display κ) :
    ∃ d', d.addTitle width title text = some ((Gui.addTitle width title text d.lvgl).1, d') ∧
      d'.lvgl = (Gui.addTitle width title text d.lvgl).2 := by
  obtain ⟨d₁, hadd, hadds⟩ := add_eq _ d
  obtain ⟨d₂, hline, hadds'⟩ := add_eq .line d₁
  refine ⟨d₂, ?_, ?_⟩
  · unfold addTitle
    rw [hadd]
    show (d₁.add .line).bind _ = _
    rw [hline]
    rfl
  · unfold Gui.addTitle
    simp only [hadds.lvgl rfl, hadds'.lvgl rfl]

/-- `ChangeLabel` on both, as long as the label is there. -/
theorem lvgl_changeLabel {label : GuiObj κ} {o : LvObj} (hobj : label.obj = some o)
    (hlabel : d.IsLabel o) (text : List Char) :
    ∃ d', d.changeLabel label text = some d' ∧
      Gui.changeLabel label text d.lvgl = some d'.lvgl := by
  have halive := hlabel.alive
  obtain ⟨n, hn⟩ := Option.ne_none_iff_exists'.1 halive
  obtain ⟨d', hd'⟩ := modify_eq halive (relabel label text)
  refine ⟨d', (changeLabel_eq hobj hlabel text).trans hd', ?_⟩
  unfold Gui.changeLabel
  rw [hobj]
  refine congrArg some (Lvgl.eq_of_widget (fun p => ?_) ?_)
  · by_cases hp : p = o
    · subst hp
      have hnode : d'.forest.node p.handle =
          some { n with data := relabel label text n.data } := by
        rw [(modify_some hd').2.1, Forest.node_modify_self, hn]
        rfl
      have hbefore : d.lvgl.widget p = n.data.kind.widget := by
        show (d.forest.node p.handle).bind _ = _
        rw [hn]
        rfl
      have hafter : d'.lvgl.widget p = (relabel label text n.data).kind.widget := by
        show (d'.forest.node p.handle).bind _ = _
        rw [hnode]
        rfl
      rw [hafter]
      show Function.update d.lvgl.widget p _ p = _
      rw [Function.update_self, hbefore]
      unfold relabel
      cases hkind : n.data.kind <;> simp [Kind.widget, hkind]
    · have hne : p.handle ≠ o.handle := fun heq => hp (by cases p; cases o; cases heq; rfl)
      rw [Lvgl.widget_changeLabel_of_ne hp]
      show (d.forest.node p.handle).bind _ = (d'.forest.node p.handle).bind _
      rw [(modify_some hd').2.1, Forest.node_modify_of_ne _ hne]
  · show d.forest.next = d'.forest.next
    rw [(modify_some hd').2.1]
    rfl

end Display

end BatteryInfo.Gui
