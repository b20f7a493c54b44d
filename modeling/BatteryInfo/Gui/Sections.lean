import BatteryInfo.Gui.Table
import BatteryInfo.Gui.Threads

/-!
# The sections of `lvgl_lock`

A thread has `lvgl_lock` exactly in its sections. What it does there may not be defined: a call may
be given a deleted object, `ChangeLabel` an object that is no label, `AddTable` rows that are not
there, and a callback of a button may call a function that takes the lock a second time. The lock
can be given back exactly if none of these is ahead of the thread that has it
(`lvglLock_comes_free_iff`). Nobody calls `GuiCleanUp` here: a thread that it has ended inside
`lv_task_handler` keeps the lock whatever is ahead (`BatteryInfo.Core.CleanUp`).
-/

namespace BatteryInfo.Gui

open Objects Concurrent

variable {κ : Type}

/-- The code of the thread is between `pthread_mutex_lock` and the release. `RunTaskThread` does not
get past a lock within a callback. -/
def Inside : (t : Tid) → Local κ t → Prop
  | .lvglTask, .handler | .lvglTask, .callback _ => True
  | .lvglTask, _ => False
  | .lvglTick, .inc | .lvglTick, .unlock => True
  | .lvglTick, _ => False
  | .caller _, .body _ | .caller _, .unlock | .caller _, .drawBody => True
  | .caller _, .drawUnlock _ _ | .caller _, .sectionBody _ _ => True
  | .caller _, _ => False

/-- The thread has not got past a lock within a callback. -/
def NotPast : (t : Tid) → Local κ t → Prop
  | .lvglTask, .callbackBody _ _ | .lvglTask, .callbackUnlock _ => False
  | _, _ => True

section Owner

variable {width : Int} {code : κ → LvObj → List (ScreenCall κ)} {c : ScreenConfig κ}
  {s s' : Shared κ}

theorem TaskStep.lockMove {pc pc' : TaskPc κ} (h : TaskStep width code s pc s' pc')
    (howner : s.lvglLock = some .lvglTask ↔ Inside .lvglTask pc) (hnot : NotPast .lvglTask pc) :
    LockMove .lvglTask s.lvglLock s'.lvglLock (Inside .lvglTask pc) (Inside .lvglTask pc') ∧
      NotPast .lvglTask pc' := by
  cases h with
  | lock hfree => exact ⟨.acquire hfree rfl trivial, trivial⟩
  | handle => exact ⟨.keep rfl .rfl, trivial⟩
  | event => exact ⟨.keep rfl .rfl, trivial⟩
  | unlocked _ hdoes => exact ⟨.keep hdoes.lvglLock .rfl, trivial⟩
  | relock _ hfree => cases hfree.symm.trans (howner.2 trivial)
  | body => exact hnot.elim
  | giveBack => exact hnot.elim
  | «return» => exact ⟨.keep rfl .rfl, trivial⟩
  | unlock => exact ⟨.release trivial rfl id, trivial⟩
  | usleep => exact ⟨.keep rfl .rfl, trivial⟩

theorem TickStep.lockMove {pc pc' : TickPc} (h : TickStep s pc s' pc') :
    LockMove .lvglTick s.lvglLock s'.lvglLock (Inside (κ := κ) .lvglTick pc)
      (Inside (κ := κ) .lvglTick pc') := by
  cases h with
  | usleep => exact .keep rfl .rfl
  | lock hfree => exact .acquire hfree rfl trivial
  | inc => exact .keep rfl .rfl
  | unlock => exact .release trivial rfl id

theorem CallerStep.lockMove {i : Nat} {pc pc' : CallerPc κ}
    (h : CallerStep width i s pc s' pc') :
    LockMove (.caller i) s.lvglLock s'.lvglLock (Inside (.caller i) pc)
      (Inside (.caller i) pc') := by
  cases h with
  | call => exact .keep rfl .rfl
  | lock hfree => exact .acquire hfree rfl trivial
  | body hdoes => exact .keep hdoes.lvglLock .rfl
  | unlock => exact .release trivial rfl id
  | callDisable => exact .keep rfl .rfl
  | disable hdoes => exact .keep hdoes.lvglLock .rfl
  | callDraw => exact .keep rfl .rfl
  | drawLock hfree => exact .acquire hfree rfl trivial
  | drawBody => exact .keep rfl .rfl
  | drawUnlock => exact .release trivial rfl id
  | drawDone => exact .release trivial rfl id
  | sectionLock hfree => exact .acquire hfree rfl trivial
  | draw => exact .keep rfl .rfl
  | delete => exact .keep rfl .rfl

/-- A step of any thread. -/
theorem screenThreads_lockMove {t : Tid} {pc pc' : Local κ t}
    (h : (screenThreads width code).Step t s pc s' pc')
    (howner : s.lvglLock = some t ↔ Inside t pc) (hnot : NotPast t pc) :
    LockMove t s.lvglLock s'.lvglLock (Inside t pc) (Inside t pc') ∧ NotPast t pc' := by
  cases t with
  | lvglTask => exact TaskStep.lockMove h howner hnot
  | lvglTick => exact ⟨TickStep.lockMove h, trivial⟩
  | caller i => exact ⟨CallerStep.lockMove h, trivial⟩

/-- A thread has `lvgl_lock` exactly inside its sections, and none gets past a lock within a
callback. -/
theorem lvglLock_owned (h : AnyScreen width code c) (t : Tid) :
    (c.shared.lvglLock = some t ↔ Inside t (c.locals t)) ∧ NotPast t (c.locals t) := by
  refine (h.outline
    ⟨fun _ => True, fun t l s => (s.lvglLock = some t ↔ Inside t l) ∧ NotPast t l⟩
    (fun t _ s s' => s'.lvglLock = some t ↔ s.lvglLock = some t) ?_ ?_ ?_).2 t
  · intro c hstart
    refine ⟨trivial, fun t => ?_⟩
    show (c.shared.lvglLock = some t ↔ Inside t (c.locals t)) ∧ NotPast t (c.locals t)
    rw [hstart.lvglLock]
    cases t with
    | lvglTask =>
        rw [hstart.lvglTask]
        exact ⟨⟨nofun, nofun⟩, trivial⟩
    | lvglTick =>
        rw [hstart.lvglTick]
        exact ⟨⟨nofun, nofun⟩, trivial⟩
    | caller i =>
        rw [hstart.caller i]
        exact ⟨⟨nofun, nofun⟩, trivial⟩
  · intro c t sh l _ hholds hs _
    obtain ⟨howner, hnot⟩ := hholds.2 t
    obtain ⟨hmove, hnot'⟩ := screenThreads_lockMove hs howner hnot
    exact ⟨trivial, ⟨hmove.own howner, hnot'⟩, fun u hut => hmove.other howner hut⟩
  · intro t l s s' _ _ hat hrely
    exact ⟨hrely.trans hat.1, hat.2⟩

end Owner

/-! ## What is defined -/

/-- What a call must find. -/
def ScreenCall.Defined (d : Display κ) : ScreenCall κ → Prop
  | disableButton obj => d.Alive obj
  | changeLabel label _ => ∃ o, label.obj = some o ∧ d.IsLabel o
  | setGuiObjVisibility guiObj _ => ∃ o, guiObj.obj = some o ∧ d.Alive o
  | removeGuiObj guiObj => ∃ o, guiObj.obj = some o ∧ d.Alive o
  | addTable guiTable values _ _ => RowsFilled guiTable values
  | _ => True

namespace Display

variable {d d' : Display κ} {o : LvObj}

/-- An object on another one can be deleted. -/
theorem delete_eq {n : Node (Item κ)} (ho : d.forest.node o.handle = some n) (hon : n.above ≠ []) :
    ∃ d', d.delete o = some d' := by
  obtain ⟨_ | ⟨p, above⟩, data⟩ := n
  · exact absurd rfl hon
  · unfold delete
    split
    · rename_i hnone
      cases hnone.symm.trans ho
    · rename_i _ hroot
      cases hroot.symm.trans ho
    · exact ⟨_, rfl⟩

/-- A change leaves every object where it is. -/
theorem above_modify {change : Item κ → Item κ} (hmodify : d.modify o change = some d')
    {n : Node (Item κ)} (ho : d.forest.node o.handle = some n) :
    ∃ n', d'.forest.node o.handle = some n' ∧ n'.above = n.above := by
  rw [(modify_some hmodify).2.1, Forest.node_modify_self, ho]
  exact ⟨_, rfl, rfl⟩

/-- An object that is hidden first is deleted. -/
theorem hide_delete_eq {n : Node (Item κ)} (ho : d.forest.node o.handle = some n)
    (hon : n.above ≠ []) :
    ∃ d₁ d₂, d.modify o (Item.setHidden true) = some d₁ ∧ d₁.delete o = some d₂ := by
  obtain ⟨d₁, hmodify⟩ := modify_eq (alive_of_node ho) (Item.setHidden true)
  obtain ⟨n', hn', habove⟩ := above_modify hmodify ho
  obtain ⟨d₂, hdelete⟩ := delete_eq hn' (habove ▸ hon)
  exact ⟨d₁, d₂, hmodify, hdelete⟩

/-- A change neither makes nor takes away an object. -/
theorem alive_modify_iff {change : Item κ → Item κ} (hmodify : d.modify o change = some d')
    (p : LvObj) : d'.Alive p ↔ d.Alive p := by
  refine ⟨fun halive hnone => halive ?_, fun halive => halive.modify hmodify⟩
  rw [(modify_some hmodify).2.1]
  by_cases hp : p.handle = o.handle
  · rw [hp, Forest.node_modify_self, ← hp, hnone]
    rfl
  · rw [Forest.node_modify_of_ne change hp]
    exact hnone

end Display

namespace ScreenCall

variable {width : Int} {d : Display κ} {call : ScreenCall κ}

/-- A call that does what it does has found what it must. -/
theorem defined_of_run {r : Option LvObj × Display κ} (h : call.run width d = some r) :
    call.Defined d := by
  cases call with
  | disableButton obj =>
      obtain ⟨_, hmodify, _⟩ := Option.map_eq_some_iff.1 h
      exact (Display.modify_some hmodify).2.2
  | changeLabel label text =>
      obtain ⟨_, hcall, _⟩ := Option.map_eq_some_iff.1 h
      obtain ⟨o, hobj, hlabel, _⟩ := Display.changeLabel_some hcall
      exact ⟨o, hobj, hlabel⟩
  | setGuiObjVisibility guiObj hide =>
      obtain ⟨_, hcall, _⟩ := Option.map_eq_some_iff.1 h
      obtain ⟨o, hobj, hmodify⟩ := Option.bind_eq_some_iff.1 hcall
      exact ⟨o, hobj, (Display.modify_some hmodify).2.2⟩
  | removeGuiObj guiObj =>
      obtain ⟨_, hcall, _⟩ := Option.map_eq_some_iff.1 h
      obtain ⟨o, hobj, hcall⟩ := Option.bind_eq_some_iff.1 hcall
      obtain ⟨_, hmodify, _⟩ := Option.bind_eq_some_iff.1 hcall
      exact ⟨o, hobj, (Display.modify_some hmodify).2.2⟩
  | addTable guiTable values wasTestRun didTestsPass =>
      obtain ⟨_, hcall, _⟩ := Option.map_eq_some_iff.1 h
      obtain ⟨_, hfill, _⟩ := Option.bind_eq_some_iff.1 hcall
      exact (fillTable_some hfill).1
  | _ => trivial

/-- A call that finds what it must does what it does. No function is given a screen. -/
theorem run_of_defined (h : call.Defined d)
    (hon : ∀ o n, call.pointer = some o → d.forest.node o.handle = some n → n.above ≠ []) :
    ∃ r, call.run width d = some r := by
  have hmap {α β : Type} {x : Option α} (f : α → β) (hx : ∃ a, x = some a) :
      ∃ b, x.map f = some b := by
    obtain ⟨a, rfl⟩ := hx
    exact ⟨f a, rfl⟩
  have hadd (kind : Kind κ) : ∃ a, d.add kind = some a := by
    obtain ⟨d', hadd, _⟩ := Display.add_eq kind d
    exact ⟨_, hadd⟩
  cases call with
  | createScreen => exact ⟨_, rfl⟩
  | clearScreen => exact ⟨_, rfl⟩
  | addButton btn =>
      obtain ⟨d', hcall, _⟩ := Display.lvgl_addButton btn d
      exact hmap _ ⟨_, hcall⟩
  | addTouchButton btn objId =>
      obtain ⟨d₁, hbutton, hadds⟩ :=
        Display.add_eq (.touchButton ⟨btn.cb, objId, btn.x, btn.y, btn.w, btn.h⟩) d
      obtain ⟨d₂, hmodify⟩ := Display.modify_eq hadds.alive
        fun i => { i with state := .checked }
      refine hmap _ ⟨(⟨d.forest.next⟩, d₂), ?_⟩
      unfold Display.addTouchButton
      rw [hbutton]
      show (d₁.modify ⟨d.forest.next⟩ _).bind _ = _
      rw [hmodify]
      rfl
  | disableButton obj => exact hmap _ (Display.modify_eq h _)
  | addTitle title text =>
      obtain ⟨d', hcall, _⟩ := Display.lvgl_addTitle width title text d
      exact hmap _ ⟨_, hcall⟩
  | addLabel obj text => exact hmap _ (hadd _)
  | addDirectionLabel => exact hmap _ (hadd _)
  | addCountdownLabel ta text => exact hmap _ (hadd _)
  | changeLabel label text =>
      obtain ⟨o, hobj, hlabel⟩ := h
      obtain ⟨d', hmodify⟩ := Display.modify_eq hlabel.alive (Display.relabel label text)
      exact hmap _ ⟨d', (Display.changeLabel_eq hobj hlabel text).trans hmodify⟩
  | addTable guiTable values wasTestRun didTestsPass =>
      obtain ⟨t, hfill⟩ := fillTable_isSome h wasTestRun didTestsPass
      obtain ⟨d₁, htable, hadds⟩ := Display.add_eq (.table t) d
      obtain ⟨d₂, hmodify⟩ := Display.modify_eq hadds.alive
        fun i => { i with state := .disabled }
      refine hmap _ ⟨(⟨d.forest.next⟩, d₂), ?_⟩
      unfold Display.addTable
      rw [hfill]
      show (d.add (.table t)).bind _ = _
      rw [htable]
      show (d₁.modify ⟨d.forest.next⟩ _).bind _ = _
      rw [hmodify]
      rfl
  | setGuiObjVisibility guiObj hide =>
      obtain ⟨o, hobj, halive⟩ := h
      obtain ⟨d', hmodify⟩ := Display.modify_eq halive (Item.setHidden hide)
      refine hmap _ ⟨d', ?_⟩
      unfold Display.setGuiObjVisibility
      rw [hobj]
      exact hmodify
  | removeGuiObj guiObj =>
      obtain ⟨o, hobj, halive⟩ := h
      obtain ⟨n, hn⟩ := Option.ne_none_iff_exists'.1 halive
      obtain ⟨d₁, d₂, hmodify, hdelete⟩ := Display.hide_delete_eq hn (hon o n hobj hn)
      refine hmap _ ⟨d₂, ?_⟩
      unfold Display.removeGuiObj
      rw [hobj]
      show (d.modify o _).bind _ = _
      rw [hmodify]
      exact hdelete

end ScreenCall

/-! ## What is ahead -/

/-- The code of a thread with the lock is defined up to the next release. A callback of a button may
only call `DisableButton`, which does not lock. -/
def Goes (s : Shared κ) : (t : Tid) → Local κ t → Prop
  | .lvglTask, .callback rest =>
      ∀ call ∈ rest, call.locks = false ∧ call.Known s.given ∧ call.Defined s.display
  | .caller _, .body call => call.Known s.given ∧ call.Defined s.display
  | .caller _, .sectionBody canvas _ => s.display.Alive canvas
  | _, _ => True

section Ahead

variable {width : Int} {code : κ → LvObj → List (ScreenCall κ)} {c : ScreenConfig κ}
  {s s' : Shared κ}

/-- The same pointers were returned, and the same objects and labels are there. -/
structure SameObjects (s s' : Shared κ) : Prop where
  given : s'.given = s.given
  alive : ∀ o, s'.display.Alive o ↔ s.display.Alive o
  isLabel : ∀ o, s'.display.IsLabel o ↔ s.display.IsLabel o

theorem SameObjects.refl (s : Shared κ) : SameObjects s s :=
  ⟨rfl, fun _ => .rfl, fun _ => .rfl⟩

/-- What is defined depends on the objects and labels that are there. -/
theorem ScreenCall.defined_congr (hsame : SameObjects s s') (call : ScreenCall κ) :
    call.Defined s'.display ↔ call.Defined s.display := by
  cases call with
  | disableButton obj => exact hsame.alive obj
  | changeLabel _ _ | setGuiObjVisibility _ _ | removeGuiObj _ =>
      simp only [ScreenCall.Defined, hsame.alive, hsame.isLabel]
  | _ => exact .rfl

theorem goes_congr (hsame : SameObjects s s') {t : Tid} (pc : Local κ t) :
    Goes s' t pc ↔ Goes s t pc := by
  cases t with
  | lvglTask =>
      cases pc with
      | callback rest => simp only [Goes, hsame.given, ScreenCall.defined_congr hsame]
      | _ => exact .rfl
  | lvglTick => exact .rfl
  | caller i =>
      cases pc with
      | body call => simp only [Goes, hsame.given, ScreenCall.defined_congr hsame]
      | sectionBody canvas sec => exact hsame.alive canvas
      | _ => exact .rfl

/-- Of the functions only `DisableButton` does not lock. -/
theorem disable_of_not_locks {call : ScreenCall κ} (h : call.locks = false) :
    ∃ obj, call = .disableButton obj := by
  cases call with
  | disableButton obj => exact ⟨obj, rfl⟩
  | _ => cases h

/-- `DisableButton` neither makes nor takes away an object, and a label stays a label. -/
theorem ScreenCall.Does.sameObjects {obj : LvObj} {r : Option LvObj}
    (h : (ScreenCall.disableButton obj).Does width s r s') : SameObjects s s' := by
  obtain ⟨d', hcall, heq⟩ := Option.map_eq_some_iff.1 h.run
  obtain ⟨rfl, hd⟩ := Prod.mk.inj heq
  have hmodify : s.display.modify obj (fun i => { i with state := .disabled }) = some d' := hcall
  refine ⟨by simpa using h.given, ?_, ?_⟩
  · rw [← hd]
    exact Display.alive_modify_iff hmodify
  · rw [← hd]
    refine Display.isLabel_modify_iff ?_ hmodify
    exact fun _ => rfl

/-- A thread outside its sections leaves the lock to the thread that has it, and the objects. -/
theorem outside_step {t : Tid} {pc pc' : Local κ t}
    (hstep : (screenThreads width code).Step t s pc s' pc') (hout : ¬ Inside t pc)
    (hnot : NotPast t pc) (hheld : s.lvglLock ≠ none) :
    s'.lvglLock = s.lvglLock ∧ SameObjects s s' := by
  cases t with
  | lvglTask =>
      have hstep : TaskStep width code s pc s' pc' := hstep
      cases hstep with
      | lock hfree => exact absurd hfree hheld
      | usleep => exact ⟨rfl, .refl s⟩
      | body => exact hnot.elim
      | giveBack => exact hnot.elim
      | _ => exact absurd trivial hout
  | lvglTick =>
      have hstep : TickStep s pc s' pc' := hstep
      cases hstep with
      | usleep => exact ⟨rfl, .refl s⟩
      | lock hfree => exact absurd hfree hheld
      | _ => exact absurd trivial hout
  | caller i =>
      have hstep : CallerStep width i s pc s' pc' := hstep
      cases hstep with
      | call | callDisable | callDraw => exact ⟨rfl, .refl s⟩
      | lock hfree | drawLock hfree | sectionLock hfree => exact absurd hfree hheld
      | disable hdoes => exact ⟨hdoes.lvglLock, hdoes.sameObjects⟩
      | _ => exact absurd trivial hout

/-- A thread that comes to something undefined stays with it, and with the lock. -/
theorem inside_step {t : Tid} {pc pc' : Local κ t}
    (hstep : (screenThreads width code).Step t s pc s' pc') (hheld : s.lvglLock = some t)
    (hnot : NotPast t pc) (hstuck : ¬ Goes s t pc) :
    s'.lvglLock = some t ∧ ¬ Goes s' t pc' := by
  cases t with
  | lvglTask =>
      have hstep : TaskStep width code s pc s' pc' := hstep
      cases hstep with
      | @unlocked call rest r _ hlocks hdoes =>
          obtain ⟨obj, rfl⟩ := disable_of_not_locks hlocks
          have hsame := hdoes.sameObjects
          refine ⟨hdoes.lvglLock.trans hheld, fun hgoes => hstuck ?_⟩
          have hrest := (goes_congr hsame (t := .lvglTask) (.callback rest)).1 hgoes
          intro call hcall
          rcases List.mem_cons.1 hcall with rfl | hcall
          · exact ⟨rfl, hdoes.known, ScreenCall.defined_of_run hdoes.run⟩
          · exact hrest call hcall
      | relock _ hfree => cases hfree.symm.trans hheld
      | «return» => exact absurd (fun call hcall => by cases hcall) hstuck
      | body => exact hnot.elim
      | giveBack => exact hnot.elim
      | _ => exact absurd trivial hstuck
  | lvglTick => exact absurd trivial hstuck
  | caller i =>
      have hstep : CallerStep width i s pc s' pc' := hstep
      cases hstep with
      | body hdoes => exact absurd ⟨hdoes.known, ScreenCall.defined_of_run hdoes.run⟩ hstuck
      | draw _ halive => exact absurd halive hstuck
      | delete hmodify _ => exact absurd (Display.modify_some hmodify).2.2 hstuck
      | _ => exact absurd trivial hstuck

/-- A callback that goes comes to its end, and the lock is given back. -/
theorem callback_run {rest : List (ScreenCall κ)} (hgoes : Goes s .lvglTask (.callback rest)) :
    ∃ s', ThreadRun (TaskStep width code) (fun _ _ => True) s (.callback rest) s' .usleep ∧
      s'.lvglLock = none := by
  induction rest generalizing s with
  | nil => exact ⟨_, .head .return trivial (.head .unlock trivial (.refl _ _)), rfl⟩
  | cons call rest ih =>
      obtain ⟨hlocks, hknown, hdefined⟩ := hgoes call List.mem_cons_self
      obtain ⟨obj, rfl⟩ := disable_of_not_locks hlocks
      obtain ⟨d', hmodify⟩ := Display.modify_eq hdefined fun i => { i with state := .disabled }
      have hdoes : (ScreenCall.disableButton obj).Does width s none { s with display := d' } := by
        refine ⟨hknown, Option.map_eq_some_iff.2 ⟨d', hmodify, rfl⟩, rfl, rfl, rfl, ?_, ?_⟩
        · simp [ScreenCall.changes]
        · simp
      have hrest := (goes_congr hdoes.sameObjects (t := .lvglTask) (.callback rest)).2
        fun call hcall => hgoes call (List.mem_cons_of_mem _ hcall)
      obtain ⟨s', hrun, hfree⟩ := ih hrest
      exact ⟨s', .head (.unlocked hlocks hdoes) trivial hrun, hfree⟩

/-- `RunTickThread` comes to the end of its section. -/
theorem tick_run (s : Shared κ) {pc : TickPc} (hinside : Inside (κ := κ) .lvglTick pc) :
    ∃ s', ThreadRun TickStep (fun _ _ => True) s pc s' .usleep ∧ s'.lvglLock = none := by
  cases pc with
  | inc => exact ⟨_, .head .inc trivial (.head .unlock trivial (.refl _ _)), rfl⟩
  | unlock => exact ⟨_, .head .unlock trivial (.refl _ _), rfl⟩
  | _ => exact hinside.elim

/-- A pointer is to an object on another one, if it is there. -/
def OnAnother (s : Shared κ) (o : LvObj) : Prop :=
  ∀ n, s.display.forest.node o.handle = some n → n.above ≠ []

/-- A caller is about to enter a function. -/
def Begins : CallerPc κ → Prop
  | .lock _ | .disable _ | .drawLock => True
  | _ => False

/-- A section that a caller can go on with is left, and no function is entered. -/
theorem caller_run {i : Nat} {pc : CallerPc κ} (hinside : Inside (.caller i) pc)
    (hgoes : Goes s (.caller i) pc) (hgiven : ∀ o ∈ s.given, OnAnother s o)
    (hcanvas : ∀ o, canvasOf (.caller i) pc = some o → OnAnother s o) :
    ∃ s' pc', ThreadRun (CallerStep width i) (fun _ pc => ¬ Begins pc) s pc s' pc' ∧
      s'.lvglLock = none := by
  have hrelease (s : Shared κ) (canvas : LvObj) (next : Option DrawSection) :
      ∃ s' pc', ThreadRun (CallerStep width i) (fun _ pc => ¬ Begins pc) s
        (.drawUnlock canvas next) s' pc' ∧ s'.lvglLock = none := by
    cases next with
    | none => exact ⟨_, _, .head .drawDone id (.refl _ _), rfl⟩
    | some sec => exact ⟨_, _, .head .drawUnlock id (.refl _ _), rfl⟩
  cases pc with
  | body call =>
      obtain ⟨hknown, hdefined⟩ := hgoes
      have hreturns : ∃ r, call.run width s.display = some r :=
        ScreenCall.run_of_defined hdefined fun o n hpointer hn => hgiven o (hknown o hpointer) n hn
      obtain ⟨⟨r, d'⟩, hrun⟩ := hreturns
      have hdoes : call.Does width s r
          { s with
            display := d'
            log := s.log ++ call.changes s.display
            given := s.given ++ r.toList } :=
        ⟨hknown, hrun, rfl, rfl, rfl, rfl, rfl⟩
      exact ⟨_, _, .head (.body hdoes) id (.head .unlock id (.refl _ _)), rfl⟩
  | unlock => exact ⟨_, _, .head .unlock id (.refl _ _), rfl⟩
  | drawBody =>
      obtain ⟨d', hadd, _⟩ := Display.add_eq .canvas s.display
      obtain ⟨s', pc', hrun, hfree⟩ := hrelease _ ⟨s.display.forest.next⟩ (some .topLeft)
      exact ⟨s', pc', .head (.drawBody hadd) id hrun, hfree⟩
  | drawUnlock canvas next => exact hrelease s canvas next
  | sectionBody canvas sec =>
      have halive : s.display.Alive canvas := hgoes
      cases hquadrant : sec.quadrant with
      | some q =>
          obtain ⟨s', pc', hrun, hfree⟩ := hrelease _ canvas sec.next
          exact ⟨s', pc', .head (.draw hquadrant halive) id hrun, hfree⟩
      | none =>
          have hsec : sec = .delete := by
            cases sec with
            | delete => rfl
            | _ => cases hquadrant
          subst hsec
          obtain ⟨n, hn⟩ := Option.ne_none_iff_exists'.1 halive
          obtain ⟨d₁, d₂, hmodify, hdelete⟩ :=
            Display.hide_delete_eq hn (hcanvas canvas rfl n hn)
          obtain ⟨s', pc', hrun, hfree⟩ := hrelease _ canvas none
          exact ⟨s', pc', .head (.delete hmodify hdelete) id hrun, hfree⟩
  | _ => exact hinside.elim

/-- What was created on a screen is there. -/
theorem onAnother_of_created (h : AnyScreen width code c) {o : LvObj}
    (ho : ∃ scr after, CreatedOn c.shared.log o scr after) : OnAnother c.shared o := by
  obtain ⟨scr, after, before, hsplit, _⟩ := ho
  rintro ⟨above, data⟩ hn
  have hlog := objects_recorded h
  have hcreated : Change.created o.handle [scr] ∈ c.shared.log := by simp [hsplit]
  have hleft := (hlog.there o.handle above).1 ⟨data, hn⟩
  rw [← hlog.above_eq hcreated hleft.mem]
  exact List.cons_ne_nil _ _

/-- A thread that has come to something undefined keeps the lock for ever. -/
theorem lock_kept_of_not_goes (h : AnyScreen width code c) {t : Tid}
    (hheld : c.shared.lvglLock = some t) (hstuck : ¬ Goes c.shared t (c.locals t))
    {c' : ScreenConfig κ} (hreach : (screenThreads width code).Reach (· = c) anyStep c') :
    c'.shared.lvglLock = some t ∧ ¬ Goes c'.shared t (c'.locals t) := by
  refine hreach.invariant (P := fun c' =>
    c'.shared.lvglLock = some t ∧ ¬ Goes c'.shared t (c'.locals t)) ?_ ?_
  · rintro c' rfl
    exact ⟨hheld, hstuck⟩
  · intro c' u sh l hreach' ⟨hheld', hstuck'⟩ hs _
    have howned := lvglLock_owned (h.trans hreach')
    by_cases hut : u = t
    · subst hut
      rw [Config.move_locals_self]
      exact inside_step hs hheld' (howned u).2 hstuck'
    · have hout : ¬ Inside u (c'.locals u) := by
        intro hinside
        have hheld'' := (howned u).1.2 hinside
        exact hut (Option.some.inj (hheld''.symm.trans hheld'))
      obtain ⟨hlock, hsame⟩ := outside_step hs hout (howned u).2 (by simp [hheld'])
      rw [Config.move_locals_of_ne c' sh l (Ne.symm hut)]
      exact ⟨hlock.trans hheld', fun hgoes => hstuck' ((goes_congr hsame _).1 hgoes)⟩

/-- A caller with the lock whose code is defined up to its next release can go on to it. -/
theorem caller_released (h : AnyScreen width code c) {i : Nat}
    (hheld : c.shared.lvglLock = some (.caller i))
    (hgoes : Goes c.shared (.caller i) (c.locals (.caller i))) :
    ∃ s' pc', ThreadRun (CallerStep width i) (fun _ pc => ¬ Begins pc) c.shared
      (c.locals (.caller i)) s' pc' ∧ s'.lvglLock = none :=
  caller_run ((lvglLock_owned h (.caller i)).1.1 hheld) hgoes
    (fun o ho => onAnother_of_created h ((traced h).ofGiven o ho))
    (fun o ho => onAnother_of_created h ((traced h).ofCanvas _ o ho).1)

/-- So can any thread. -/
theorem lock_released_of_goes (h : AnyScreen width code c)
    (hgoes : ∀ t, c.shared.lvglLock = some t → Goes c.shared t (c.locals t)) :
    ∃ c', (screenThreads width code).Reach (· = c) anyStep c' ∧ c'.shared.lvglLock = none := by
  have hstart : (screenThreads width code).Reach (· = c) anyStep c := .start rfl
  cases hheld : c.shared.lvglLock with
  | none => exact ⟨c, hstart, hheld⟩
  | some t =>
      have hgoes := hgoes t hheld
      obtain ⟨hinside, hnot⟩ := (lvglLock_owned h t).imp (fun howner => howner.1 hheld) id
      cases t with
      | lvglTask =>
          generalize hpc : c.locals .lvglTask = pc at hgoes hinside hnot
          cases pc with
          | handler =>
              have hstep : TaskStep width code c.shared (c.locals .lvglTask)
                  { c.shared with lvglLock := none } .usleep := hpc ▸ .unlock
              exact ⟨_, hstart.step (t := Tid.lvglTask) hstep trivial, rfl⟩
          | callback rest =>
              obtain ⟨s', hrun, hfree⟩ := callback_run hgoes
              rw [← hpc] at hrun
              exact ⟨_, hstart.thread (t := Tid.lvglTask) (fun _ _ _ _ => trivial) hrun, hfree⟩
          | _ => exact hinside.elim
      | lvglTick =>
          obtain ⟨s', hrun, hfree⟩ := tick_run c.shared hinside
          exact ⟨_, hstart.thread (t := Tid.lvglTick) (fun _ _ _ _ => trivial) hrun, hfree⟩
      | caller i =>
          obtain ⟨s', pc', hrun, hfree⟩ := caller_released h hheld hgoes
          exact ⟨_, hstart.thread (t := Tid.caller i) (fun _ _ _ _ => trivial) hrun, hfree⟩

/-- From any point that the threads can reach, `lvgl_lock` can be given back exactly if nobody has
it, or the code of the thread that has it is defined up to its next release. In particular a
callback of a button that calls a function with a lock keeps it for ever. -/
theorem lvglLock_comes_free_iff (h : AnyScreen width code c) :
    (∃ c', (screenThreads width code).Reach (· = c) anyStep c' ∧ c'.shared.lvglLock = none) ↔
      ∀ t, c.shared.lvglLock = some t → Goes c.shared t (c.locals t) := by
  constructor
  · rintro ⟨c', hreach, hfree⟩ t hheld
    by_contra hstuck
    have hkept := (lock_kept_of_not_goes h hheld hstuck hreach).1
    cases hfree.symm.trans hkept
  · exact lock_released_of_goes h

/-- A callback calls `ClearScreen`. -/
theorem lvglLock_comes_free_iff_clearScreen :
    ∃ c : ScreenConfig Unit, AnyScreen 480 (fun _ _ => [.clearScreen]) c ∧
      ¬ ∃ c', (screenThreads 480 fun _ _ => [.clearScreen]).Reach (· = c) anyStep c' ∧
        c'.shared.lvglLock = none := by
  obtain ⟨c, hreach, _, hfree, hpc, n, hn, hcb⟩ := button_reached fun _ _ => [.clearScreen]
  have hrun : ThreadRun (TaskStep 480 fun _ _ => [.clearScreen]) (fun _ _ => True) c.shared .lock
      { c.shared with lvglLock := some .lvglTask } (.callback [.clearScreen]) :=
    .head (.lock hfree) trivial (.head (.event (o := ⟨1⟩) hn hcb) trivial (.refl _ _))
  rw [← hpc] at hrun
  have hcallback := hreach.thread (t := Tid.lvglTask) (fun _ _ _ _ => trivial) hrun
  refine ⟨_, hcallback, ?_⟩
  rw [lvglLock_comes_free_iff hcallback]
  intro hgoes
  have hgoes := hgoes .lvglTask rfl
  rw [Config.move_locals_self] at hgoes
  cases (hgoes .clearScreen List.mem_cons_self).1

end Ahead

end BatteryInfo.Gui
