import BatteryInfo.Concurrent.Locks
import BatteryInfo.Gui.Screen

/-!
# Threads and objects

`RunTaskThread`, `RunTickThread` and any number of threads that call the functions of `gui.cpp`,
over the objects of LVGL. `GuiInit` and `DeclareStyles`, which take no object away, are not among
the calls, nor is `GuiCleanUp`, with which the two threads end (`BatteryInfo.Core.CleanUp`).
`DrawQuadGridDisplay` keeps its canvas over six sections of `lvgl_lock`, with pauses between them in
which others can enter. A callback of a button runs inside `lv_task_handler`, where `RunTaskThread`
has the lock, which is not recursive.

An object is there as long as the log of all that was done says so (`objects_recorded`). From this
follow the lifetimes of the pointers that the functions return (`given_alive_iff`) and of the
canvases (`canvas_alive_iff`).
-/

namespace BatteryInfo.Gui

open Objects Concurrent

/-- The threads. -/
inductive Tid where
  | lvglTask
  | lvglTick
  | caller (i : Nat)
deriving DecidableEq

/-- The sections of `DrawQuadGridDisplay` after the first. -/
inductive DrawSection where
  | topLeft
  | topRight
  | bottomLeft
  | bottomRight
  | delete
deriving DecidableEq, Repr

/-- The section after this one. -/
def DrawSection.next : DrawSection → Option DrawSection
  | topLeft => some topRight
  | topRight => some bottomLeft
  | bottomLeft => some bottomRight
  | bottomRight => some delete
  | delete => none

/-- The colours of the canvas. -/
inductive CanvasColor where
  | bkgnd
  | red
  | green
  | blue
  | yellow
  | white
  | black
deriving DecidableEq, Repr

/-- A rectangle of the canvas with its text, as the sections draw them. The text is centred in the
width of the rectangle. -/
structure Quadrant where
  x : Int
  y : Int
  w : Int
  h : Int
  bgColor : CanvasColor
  text : List Char
  textY : Int
  textColor : CanvasColor
deriving DecidableEq, Repr

/-- What a section draws. -/
def DrawSection.quadrant : DrawSection → Option Quadrant
  | topLeft => some ⟨0, 0, 240, 400, .red, "RED".toList, 180, .white⟩
  | topRight => some ⟨240, 0, 240, 400, .green, "GREEN".toList, 180, .white⟩
  | bottomLeft => some ⟨0, 400, 240, 400, .blue, "BLUE".toList, 575, .white⟩
  | bottomRight => some ⟨240, 400, 240, 400, .yellow, "YELLOW".toList, 575, .black⟩
  | delete => none

variable {κ : Type}

/-- What the threads share. -/
structure Shared (κ : Type) where
  lvglLock : Option Tid
  display : Display κ
  /-- `cbuf`, which all canvases share: what was drawn since it was filled. -/
  cbuf : List Quadrant
  /-- The milliseconds that `lv_tick_inc` was told of. -/
  elapsed : Nat
  /-- All that was done to the objects. -/
  log : List Change
  /-- The pointers that the functions have returned. -/
  given : List LvObj

namespace ScreenCall

/-- The object that a call is given. -/
def pointer : ScreenCall κ → Option LvObj
  | disableButton obj => some obj
  | changeLabel label _ => label.obj
  | setGuiObjVisibility guiObj _ | removeGuiObj guiObj => guiObj.obj
  | _ => none

/-- The call is given a pointer that a function has returned, or none. -/
def Known (given : List LvObj) (call : ScreenCall κ) : Prop :=
  ∀ o, call.pointer = some o → o ∈ given

/-- The call does what it does, and returns. -/
structure Does (width : Int) (s : Shared κ) (call : ScreenCall κ) (r : Option LvObj)
    (s' : Shared κ) : Prop where
  known : call.Known s.given
  run : call.run width s.display = some (r, s'.display)
  lvglLock : s'.lvglLock = s.lvglLock
  cbuf : s'.cbuf = s.cbuf
  elapsed : s'.elapsed = s.elapsed
  log : s'.log = s.log ++ call.changes s.display
  given : s'.given = s.given ++ r.toList

end ScreenCall

/-- The places of `RunTaskThread`, with the rest of a callback that it runs. -/
inductive TaskPc (κ : Type) where
  | lock
  | handler
  | callback (rest : List (ScreenCall κ))
  | callbackBody (call : ScreenCall κ) (rest : List (ScreenCall κ))
  | callbackUnlock (rest : List (ScreenCall κ))
  | usleep

/-- The callback of a button. -/
def Kind.cb : Kind κ → Option κ
  | .button b => b.cb
  | .touchButton b => b.cb
  | _ => none

/-- A step of `RunTaskThread`. `code` says which functions of `gui.cpp` a callback calls. -/
inductive TaskStep (width : Int) (code : κ → LvObj → List (ScreenCall κ)) :
    Shared κ → TaskPc κ → Shared κ → TaskPc κ → Prop where
  | lock {s} : s.lvglLock = none →
      TaskStep width code s .lock { s with lvglLock := some .lvglTask } .handler
  -- LVGL changes objects, and deletes none by itself
  | handle {s o change display} : s.display.modify o change = some display →
      TaskStep width code s .handler { s with display } .handler
  | event {s o n k} : s.display.forest.node o.handle = some n → n.data.kind.cb = some k →
      TaskStep width code s .handler s (.callback (code k o))
  | unlocked {s call rest r s'} : call.locks = false → call.Does width s r s' →
      TaskStep width code s (.callback (call :: rest)) s' (.callback rest)
  | relock {s call rest} : call.locks = true → s.lvglLock = none →
      TaskStep width code s (.callback (call :: rest)) { s with lvglLock := some .lvglTask }
        (.callbackBody call rest)
  | body {s call rest r s'} : call.Does width s r s' →
      TaskStep width code s (.callbackBody call rest) s' (.callbackUnlock rest)
  | giveBack {s rest} : TaskStep width code s (.callbackUnlock rest)
      { s with lvglLock := none } (.callback rest)
  | «return» {s} : TaskStep width code s (.callback []) s .handler
  | unlock {s} : TaskStep width code s .handler { s with lvglLock := none } .usleep
  | usleep {s} : TaskStep width code s .usleep s .lock

/-- The places of `RunTickThread`. -/
inductive TickPc where
  | usleep
  | lock
  | inc
  | unlock

/-- A step of `RunTickThread`. -/
inductive TickStep : Shared κ → TickPc → Shared κ → TickPc → Prop where
  | usleep {s} : TickStep s .usleep s .lock
  | lock {s} : s.lvglLock = none → TickStep s .lock { s with lvglLock := some .lvglTick } .inc
  | inc {s} : TickStep s .inc { s with elapsed := s.elapsed + 5 } .unlock
  | unlock {s} : TickStep s .unlock { s with lvglLock := none } .usleep

/-- The places of a thread that calls the functions of `gui.cpp`. Within `DrawQuadGridDisplay` it
has its canvas, and the section that comes next. -/
inductive CallerPc (κ : Type) where
  | outside
  | lock (call : ScreenCall κ)
  | body (call : ScreenCall κ)
  | unlock
  | disable (obj : LvObj)
  | drawLock
  | drawBody
  | drawUnlock (canvas : LvObj) (next : Option DrawSection)
  | sectionLock (canvas : LvObj) (sec : DrawSection)
  | sectionBody (canvas : LvObj) (sec : DrawSection)

/-- A step of a caller. A call that is given a deleted object has none. -/
inductive CallerStep (width : Int) (i : Nat) :
    Shared κ → CallerPc κ → Shared κ → CallerPc κ → Prop where
  | call {s call} : call.locks = true → CallerStep width i s .outside s (.lock call)
  | lock {s call} : s.lvglLock = none →
      CallerStep width i s (.lock call) { s with lvglLock := some (.caller i) } (.body call)
  | body {s call r s'} : call.Does width s r s' →
      CallerStep width i s (.body call) s' .unlock
  | unlock {s} : CallerStep width i s .unlock { s with lvglLock := none } .outside
  | callDisable {s obj} : CallerStep width i s .outside s (.disable obj)
  | disable {s obj r s'} : (ScreenCall.disableButton obj).Does width s r s' →
      CallerStep width i s (.disable obj) s' .outside
  | callDraw {s} : CallerStep width i s .outside s .drawLock
  | drawLock {s} : s.lvglLock = none →
      CallerStep width i s .drawLock { s with lvglLock := some (.caller i) } .drawBody
  -- the canvas is created and cbuf filled
  | drawBody {s canvas display} : s.display.add .canvas = some (canvas, display) →
      CallerStep width i s .drawBody
        { s with
          display
          cbuf := []
          log := s.log ++ [.created canvas.handle [s.display.active]] }
        (.drawUnlock canvas (some .topLeft))
  | drawUnlock {s canvas sec} : CallerStep width i s (.drawUnlock canvas (some sec))
      { s with lvglLock := none } (.sectionLock canvas sec)
  | drawDone {s canvas} : CallerStep width i s (.drawUnlock canvas none)
      { s with lvglLock := none } .outside
  | sectionLock {s canvas sec} : s.lvglLock = none →
      CallerStep width i s (.sectionLock canvas sec) { s with lvglLock := some (.caller i) }
        (.sectionBody canvas sec)
  | draw {s canvas sec q} : sec.quadrant = some q → s.display.Alive canvas →
      CallerStep width i s (.sectionBody canvas sec) { s with cbuf := s.cbuf ++ [q] }
        (.drawUnlock canvas sec.next)
  | delete {s canvas display display'} :
      s.display.modify canvas (Item.setHidden true) = some display →
      display.delete canvas = some display' →
      CallerStep width i s (.sectionBody canvas .delete)
        { s with display := display', log := s.log ++ [.deleted canvas.handle] }
        (.drawUnlock canvas none)

/-- The private state of each thread. -/
@[reducible] def Local (κ : Type) : Tid → Type
  | .lvglTask => TaskPc κ
  | .lvglTick => TickPc
  | .caller _ => CallerPc κ

/-- The threads. `width` is that of the canvas. -/
def screenThreads (width : Int) (code : κ → LvObj → List (ScreenCall κ)) :
    System (Shared κ) (Local κ) where
  Step
    | .lvglTask => TaskStep width code
    | .lvglTick => TickStep
    | .caller i => CallerStep width i

/-- A configuration of the threads. -/
abbrev ScreenConfig (κ : Type) := Config (Shared κ) (Local κ)

/-- The threads start, over a screen with nothing on it. -/
structure ScreenStart (c : ScreenConfig κ) : Prop where
  lvglLock : c.shared.lvglLock = none
  display : c.shared.display = .initial
  log : c.shared.log = [.created 0 []]
  given : c.shared.given = []
  lvglTask : c.locals .lvglTask = .lock
  lvglTick : c.locals .lvglTick = .usleep
  caller : ∀ i, c.locals (.caller i) = .outside

/-- The configurations that some schedule reaches. -/
abbrev AnyScreen (width : Int) (code : κ → LvObj → List (ScreenCall κ)) (c : ScreenConfig κ) :
    Prop :=
  (screenThreads width code).Reach ScreenStart anyStep c

/-! ## Runs -/

section Runs

variable {width : Int} {s s' : Shared κ} {r : Option LvObj}

/-- A call from its beginning to its end. -/
theorem call_run (i : Nat) {call : ScreenCall κ} (hlocks : call.locks = true)
    (hfree : s.lvglLock = none)
    (hdoes : call.Does width { s with lvglLock := some (.caller i) } r s') :
    ThreadRun (CallerStep width i) (fun _ _ => True) s .outside
      { s' with lvglLock := none } .outside :=
  .head (.call hlocks) trivial (.head (.lock hfree) trivial (.head (.body hdoes) trivial
    (.head .unlock trivial (.refl _ _))))

/-- `DrawQuadGridDisplay` up to the release before its second section. -/
theorem draw_run (i : Nat) {canvas : LvObj} {display : Display κ} (hfree : s.lvglLock = none)
    (hadd : s.display.add .canvas = some (canvas, display)) :
    ThreadRun (CallerStep width i) (fun _ _ => True) s .outside
      { s with
        lvglLock := none
        display
        cbuf := []
        log := s.log ++ [.created canvas.handle [s.display.active]] }
      (.sectionLock canvas .topLeft) :=
  .head .callDraw trivial (.head (.drawLock hfree) trivial (.head (.drawBody hadd) trivial
    (.head .drawUnlock trivial (.refl _ _))))

end Runs

/-- The threads at their start. -/
def startScreen : ScreenConfig κ where
  shared := ⟨none, .initial, [], 0, [.created 0 []], []⟩
  locals
    | .lvglTask => .lock
    | .lvglTick => .usleep
    | .caller _ => .outside

theorem screenStart_startScreen : ScreenStart (startScreen (κ := κ)) :=
  ⟨rfl, rfl, rfl, rfl, rfl, rfl, fun _ => rfl⟩

/-! ## What a step does to the objects -/

namespace ScreenCall

variable {width : Int} {d d' : Display κ} {call : ScreenCall κ}

/-- A call returns an object that it created on the screen that is shown. -/
theorem run_returns {o : LvObj} (h : call.run width d = some (some o, d')) :
    o.handle = d.forest.next ∧
      ∃ rest, call.changes d = .created o.handle [d.active] :: rest := by
  have hadd {kind : Kind κ} {o' : LvObj} {d₁ : Display κ} (heq : d.add kind = some (o', d₁)) :
      o'.handle = d.forest.next := by
    obtain ⟨d₂, hadd, _⟩ := Display.add_eq kind d
    cases heq.symm.trans hadd
    rfl
  cases call with
  | createScreen => cases h
  | clearScreen => cases h
  | addButton btn =>
      obtain ⟨⟨o', d₁⟩, hcall, heq⟩ := Option.map_eq_some_iff.1 h
      obtain ⟨⟨button, d₂⟩, hbutton, hcall⟩ := Option.bind_eq_some_iff.1 hcall
      obtain ⟨_, _, hpure⟩ := Option.bind_eq_some_iff.1 hcall
      cases hpure
      cases heq
      exact ⟨hadd hbutton, by rw [hadd hbutton]; exact ⟨_, rfl⟩⟩
  | addTouchButton btn objId =>
      obtain ⟨⟨o', d₁⟩, hcall, heq⟩ := Option.map_eq_some_iff.1 h
      obtain ⟨⟨button, d₂⟩, hbutton, hcall⟩ := Option.bind_eq_some_iff.1 hcall
      obtain ⟨_, _, hpure⟩ := Option.bind_eq_some_iff.1 hcall
      cases hpure
      cases heq
      exact ⟨hadd hbutton, by rw [hadd hbutton]; exact ⟨_, rfl⟩⟩
  | disableButton obj =>
      obtain ⟨_, _, heq⟩ := Option.map_eq_some_iff.1 h
      cases heq
  | addTitle title text =>
      obtain ⟨⟨o', d₁⟩, hcall, heq⟩ := Option.map_eq_some_iff.1 h
      obtain ⟨⟨label, d₂⟩, hlabel, hcall⟩ := Option.bind_eq_some_iff.1 hcall
      obtain ⟨_, _, hpure⟩ := Option.bind_eq_some_iff.1 hcall
      cases hpure
      cases heq
      exact ⟨hadd hlabel, by rw [hadd hlabel]; exact ⟨_, rfl⟩⟩
  | addLabel obj text =>
      obtain ⟨⟨o', d₁⟩, hlabel, heq⟩ := Option.map_eq_some_iff.1 h
      cases heq
      exact ⟨hadd hlabel, by rw [hadd hlabel]; exact ⟨_, rfl⟩⟩
  | addDirectionLabel =>
      obtain ⟨_, _, heq⟩ := Option.map_eq_some_iff.1 h
      cases heq
  | addCountdownLabel ta text =>
      obtain ⟨⟨o', d₁⟩, hlabel, heq⟩ := Option.map_eq_some_iff.1 h
      cases heq
      exact ⟨hadd hlabel, by rw [hadd hlabel]; exact ⟨_, rfl⟩⟩
  | changeLabel label text =>
      obtain ⟨_, _, heq⟩ := Option.map_eq_some_iff.1 h
      cases heq
  | addTable guiTable values wasTestRun didTestsPass =>
      obtain ⟨⟨o', d₁⟩, hcall, heq⟩ := Option.map_eq_some_iff.1 h
      obtain ⟨_, _, hcall⟩ := Option.bind_eq_some_iff.1 hcall
      obtain ⟨⟨table, d₂⟩, htable, hcall⟩ := Option.bind_eq_some_iff.1 hcall
      obtain ⟨_, _, hpure⟩ := Option.bind_eq_some_iff.1 hcall
      cases hpure
      cases heq
      exact ⟨hadd htable, by rw [hadd htable]; exact ⟨_, rfl⟩⟩
  | setGuiObjVisibility guiObj hide =>
      obtain ⟨_, _, heq⟩ := Option.map_eq_some_iff.1 h
      cases heq
  | removeGuiObj guiObj =>
      obtain ⟨_, _, heq⟩ := Option.map_eq_some_iff.1 h
      cases heq

/-- A call deletes the object that it is given. -/
theorem pointer_of_deleted {x : Nat} (h : .deleted x ∈ call.changes d) :
    call.pointer = some ⟨x⟩ := by
  cases call with
  | removeGuiObj guiObj =>
      obtain ⟨o, hobj, heq⟩ := List.mem_map.1 h
      cases heq
      exact Option.mem_toList.1 hobj
  | _ => simp [changes] at h

end ScreenCall

/-- The canvas of a thread within `DrawQuadGridDisplay`, until it is deleted. -/
def canvasOf : (t : Tid) → Local κ t → Option LvObj
  | .lvglTask, _ | .lvglTick, _ => none
  | .caller _, .drawUnlock canvas (some _) => some canvas
  | .caller _, .sectionLock canvas _ => some canvas
  | .caller _, .sectionBody canvas _ => some canvas
  | .caller _, _ => none

/-- What a step does to the objects, and to the canvas of the thread. -/
inductive StepDoes (width : Int) (s s' : Shared κ) (canvas canvas' : Option LvObj) : Prop where
  | keeps : s'.log = s.log → s'.given = s.given →
      (Records s.log s.display.forest → Records s.log s'.display.forest) → canvas' = canvas →
      StepDoes width s s' canvas canvas'
  | calls {call r} : ScreenCall.Does width s call r s' → canvas' = canvas →
      StepDoes width s s' canvas canvas'
  | creates {o} : s.display.add .canvas = some (o, s'.display) →
      s'.log = s.log ++ [.created o.handle [s.display.active]] → s'.given = s.given →
      canvas' = some o → StepDoes width s s' canvas canvas'
  | deletes {o} : canvas = some o → s'.log = s.log ++ [.deleted o.handle] →
      s'.given = s.given → (Records s.log s.display.forest → Records s'.log s'.display.forest) →
      canvas' = none → StepDoes width s s' canvas canvas'

section Steps

variable {width : Int} {code : κ → LvObj → List (ScreenCall κ)} {s s' : Shared κ}

theorem TaskStep.does {pc pc' : TaskPc κ} (h : TaskStep width code s pc s' pc') :
    StepDoes width s s' none none := by
  cases h with
  | lock => exact .keeps rfl rfl id rfl
  | @handle o change _ hmodify =>
      refine .keeps rfl rfl (fun hlog => ?_) rfl
      show Records s.log (Display.forest _)
      rw [(Display.modify_some hmodify).2.1]
      exact hlog.modify o.handle change
  | event => exact .keeps rfl rfl id rfl
  | unlocked _ hdoes => exact .calls hdoes rfl
  | relock => exact .keeps rfl rfl id rfl
  | body hdoes => exact .calls hdoes rfl
  | giveBack => exact .keeps rfl rfl id rfl
  | «return» => exact .keeps rfl rfl id rfl
  | unlock => exact .keeps rfl rfl id rfl
  | usleep => exact .keeps rfl rfl id rfl

theorem TickStep.does {pc pc' : TickPc} (h : TickStep s pc s' pc') :
    StepDoes width s s' none none := by
  cases h <;> exact .keeps rfl rfl id rfl

theorem CallerStep.does {i : Nat} {pc pc' : CallerPc κ} (h : CallerStep width i s pc s' pc') :
    StepDoes width s s' (canvasOf (.caller i) pc) (canvasOf (.caller i) pc') := by
  cases h with
  | call => exact .keeps rfl rfl id rfl
  | lock => exact .keeps rfl rfl id rfl
  | body hdoes => exact .calls hdoes rfl
  | unlock => exact .keeps rfl rfl id rfl
  | callDisable => exact .keeps rfl rfl id rfl
  | disable hdoes => exact .calls hdoes rfl
  | callDraw => exact .keeps rfl rfl id rfl
  | drawLock => exact .keeps rfl rfl id rfl
  | drawBody hadd => exact .creates hadd rfl rfl rfl
  | drawUnlock => exact .keeps rfl rfl id rfl
  | drawDone => exact .keeps rfl rfl id rfl
  | sectionLock => exact .keeps rfl rfl id rfl
  | @draw canvas sec q hquadrant _ =>
      have hnext : ∃ next, sec.next = some next := by
        cases sec with
        | delete => cases hquadrant
        | _ => exact ⟨_, rfl⟩
      obtain ⟨next, hnext⟩ := hnext
      exact .keeps rfl rfl id (by rw [hnext]; rfl)
  | @delete canvas _ _ hmodify hdelete =>
      refine .deletes rfl rfl rfl (fun hlog => ?_) rfl
      show Records (s.log ++ [.deleted canvas.handle]) (Display.forest _)
      rw [(Display.delete_some hdelete).2, (Display.modify_some hmodify).2.1]
      exact (hlog.modify canvas.handle _).delete canvas.handle

/-- A step of any thread. -/
theorem screenThreads_does {t : Tid} {pc pc' : Local κ t}
    (h : (screenThreads width code).Step t s pc s' pc') :
    StepDoes width s s' (canvasOf t pc) (canvasOf t pc') := by
  cases t with
  | lvglTask => exact TaskStep.does h
  | lvglTick => exact TickStep.does h
  | caller i => exact CallerStep.does h

/-- The log goes on to say which objects are there. -/
theorem StepDoes.records {canvas canvas' : Option LvObj}
    (h : StepDoes width s s' canvas canvas') (hlog : Records s.log s.display.forest) :
    Records s'.log s'.display.forest := by
  cases h with
  | keeps hsame _ hkept _ =>
      rw [hsame]
      exact hkept hlog
  | calls hdoes _ =>
      rw [hdoes.log]
      exact ScreenCall.records_run hlog hdoes.run
  | creates hadd hsame _ _ =>
      obtain ⟨d', hadd', hadds⟩ := Display.add_eq .canvas s.display
      obtain ⟨rfl, hd⟩ := Prod.mk.inj (Option.some.inj (hadd.symm.trans hadd'))
      rw [hsame, hd]
      exact hadds.records hlog
  | deletes _ _ _ hkept _ => exact hkept hlog

end Steps

section Reached

variable {width : Int} {code : κ → LvObj → List (ScreenCall κ)} {c : ScreenConfig κ}

/-- In every reached configuration the log says which objects are there. -/
theorem objects_recorded (h : AnyScreen width code c) :
    Records c.shared.log c.shared.display.forest := by
  refine h.invariant (P := fun c => Records c.shared.log c.shared.display.forest) ?_ ?_
  · intro c hstart
    rw [hstart.log, hstart.display]
    exact Records.empty.addRoot _
  · intro c t sh l _ hlog hs _
    exact (screenThreads_does hs).records hlog

/-- An object was created on a screen, and these are the changes since then. -/
def CreatedOn (log : List Change) (o : LvObj) (scr : Nat) (after : List Change) : Prop :=
  ∃ before, log = before ++ .created o.handle [scr] :: after ∧ .created scr [] ∈ before

/-- What is so of the pointers that the functions have returned, and of the canvases. -/
structure Traced (log : List Change) (given : List LvObj) (canvas : Tid → Option LvObj) :
    Prop where
  ofGiven : ∀ o ∈ given, ∃ scr after, CreatedOn log o scr after
  ofDeleted : ∀ x, .deleted x ∈ log → ∃ scr after, CreatedOn log ⟨x⟩ scr after
  ofCanvas : ∀ t o, canvas t = some o →
    (∃ scr after, CreatedOn log o scr after) ∧ o ∉ given ∧ .deleted o.handle ∉ log
  /-- No two threads have the same canvas. -/
  apart : ∀ t u o, canvas t = some o → canvas u = some o → t = u

theorem CreatedOn.append {log : List Change} {o : LvObj} (more : List Change)
    (h : ∃ scr after, CreatedOn log o scr after) :
    ∃ scr after, CreatedOn (log ++ more) o scr after := by
  obtain ⟨scr, after, before, rfl, hroot⟩ := h
  exact ⟨scr, after ++ more, before, by simp, hroot⟩

theorem CreatedOn.lt_next {log : List Change} {o : LvObj} {f : Forest (Item κ)}
    (hlog : Records log f) (h : ∃ scr after, CreatedOn log o scr after) : o.handle < f.next := by
  obtain ⟨scr, after, before, rfl, _⟩ := h
  exact hlog.past o.handle [scr] (by simp)

/-- The screen that is shown was created. -/
theorem created_active {log : List Change} {d : Display κ} (hlog : Records log d.forest) :
    .created d.active [] ∈ log := by
  obtain ⟨i, hi⟩ := d.shown
  exact ((hlog.there d.active []).1 ⟨i, hi⟩).mem

section Traced

variable {s s' : Shared κ} {canvas : Tid → Option LvObj} {t : Tid}

/-- An object is created on the screen that is shown. -/
theorem CreatedOn.new {rest : List Change} {o : LvObj} (hlog : Records s.log s.display.forest) :
    ∃ scr after,
      CreatedOn (s.log ++ .created o.handle [s.display.active] :: rest) o scr after :=
  ⟨s.display.active, rest, s.log, rfl, created_active hlog⟩

/-- A call keeps it. -/
theorem Traced.calls {call : ScreenCall κ} {r : Option LvObj}
    (h : Traced s.log s.given canvas) (hlog : Records s.log s.display.forest)
    (hdoes : call.Does width s r s') : Traced s'.log s'.given canvas := by
  rw [hdoes.log, hdoes.given]
  have hreturned : ∀ o, r = some o → o.handle = s.display.forest.next ∧
      ∃ scr after, CreatedOn (s.log ++ call.changes s.display) o scr after := by
    rintro o rfl
    obtain ⟨hnext, rest, hchanges⟩ := ScreenCall.run_returns hdoes.run
    exact ⟨hnext, hchanges ▸ CreatedOn.new hlog⟩
  have hpointer : ∀ x, .deleted x ∈ call.changes s.display → (⟨x⟩ : LvObj) ∈ s.given :=
    fun x hx => hdoes.known _ (ScreenCall.pointer_of_deleted hx)
  constructor
  · intro o ho
    rcases List.mem_append.1 ho with ho | ho
    · exact CreatedOn.append _ (h.ofGiven o ho)
    · exact (hreturned o (Option.mem_toList.1 ho)).2
  · intro x hx
    rcases List.mem_append.1 hx with hx | hx
    · exact CreatedOn.append _ (h.ofDeleted x hx)
    · exact CreatedOn.append _ (h.ofGiven _ (hpointer x hx))
  · intro t o ho
    obtain ⟨hcreated, hgiven, hdeleted⟩ := h.ofCanvas t o ho
    refine ⟨CreatedOn.append _ hcreated, fun hin => ?_, fun hin => ?_⟩
    · rcases List.mem_append.1 hin with hin | hin
      · exact hgiven hin
      · have hnext := (hreturned o (Option.mem_toList.1 hin)).1
        exact Nat.ne_of_lt (CreatedOn.lt_next hlog hcreated) hnext
    · rcases List.mem_append.1 hin with hin | hin
      · exact hdeleted hin
      · exact hgiven (hpointer o.handle hin)
  · exact h.apart

/-- So does the beginning of `DrawQuadGridDisplay`. -/
theorem Traced.creates {o : LvObj} (h : Traced s.log s.given canvas)
    (hlog : Records s.log s.display.forest) (ho : o.handle = s.display.forest.next) :
    Traced (s.log ++ [.created o.handle [s.display.active]]) s.given
      (Function.update canvas t (some o)) := by
  have hnew : ¬ ∃ scr after, CreatedOn s.log o scr after :=
    fun hcreated => Nat.ne_of_lt (CreatedOn.lt_next hlog hcreated) ho
  constructor
  · exact fun p hp => CreatedOn.append _ (h.ofGiven p hp)
  · intro x hx
    rcases List.mem_append.1 hx with hx | hx
    · exact CreatedOn.append _ (h.ofDeleted x hx)
    · cases List.mem_singleton.1 hx
  · intro u p hp
    by_cases hu : u = t
    · subst hu
      rw [Function.update_self] at hp
      cases hp
      refine ⟨CreatedOn.new hlog, fun hin => hnew (h.ofGiven o hin), fun hin => ?_⟩
      rcases List.mem_append.1 hin with hin | hin
      · exact hnew (h.ofDeleted _ hin)
      · cases List.mem_singleton.1 hin
    · rw [Function.update_of_ne hu] at hp
      obtain ⟨hcreated, hgiven, hdeleted⟩ := h.ofCanvas u p hp
      refine ⟨CreatedOn.append _ hcreated, hgiven, fun hin => ?_⟩
      rcases List.mem_append.1 hin with hin | hin
      · exact hdeleted hin
      · cases List.mem_singleton.1 hin
  · intro u v p hp hq
    by_cases hu : u = t <;> by_cases hv : v = t
    · rw [hu, hv]
    · subst hu
      rw [Function.update_self] at hp
      rw [Function.update_of_ne hv] at hq
      cases hp
      exact absurd (h.ofCanvas v o hq).1 hnew
    · subst hv
      rw [Function.update_of_ne hu] at hp
      rw [Function.update_self] at hq
      cases hq
      exact absurd (h.ofCanvas u o hp).1 hnew
    · rw [Function.update_of_ne hu] at hp
      rw [Function.update_of_ne hv] at hq
      exact h.apart u v p hp hq

/-- So does its end. -/
theorem Traced.deletes {o : LvObj} (h : Traced s.log s.given canvas) (ho : canvas t = some o) :
    Traced (s.log ++ [.deleted o.handle]) s.given (Function.update canvas t none) := by
  have hothers : ∀ u p, Function.update canvas t none u = some p → u ≠ t ∧ canvas u = some p := by
    intro u p hp
    by_cases hu : u = t
    · subst hu
      rw [Function.update_self] at hp
      cases hp
    · rw [Function.update_of_ne hu] at hp
      exact ⟨hu, hp⟩
  constructor
  · exact fun p hp => CreatedOn.append _ (h.ofGiven p hp)
  · intro x hx
    rcases List.mem_append.1 hx with hx | hx
    · exact CreatedOn.append _ (h.ofDeleted x hx)
    · cases List.mem_singleton.1 hx
      exact CreatedOn.append _ (h.ofCanvas t o ho).1
  · intro u p hp
    obtain ⟨hu, hp⟩ := hothers u p hp
    obtain ⟨hcreated, hgiven, hdeleted⟩ := h.ofCanvas u p hp
    refine ⟨CreatedOn.append _ hcreated, hgiven, fun hin => ?_⟩
    rcases List.mem_append.1 hin with hin | hin
    · exact hdeleted hin
    · have hsame : p.handle = o.handle := Change.deleted.inj (List.mem_singleton.1 hin)
      obtain rfl : p = o := congrArg LvObj.mk hsame
      exact hu (h.apart u t p hp ho)
  · intro u v p hp hq
    exact h.apart u v p (hothers u p hp).2 (hothers v p hq).2

/-- Every step keeps it. -/
theorem StepDoes.traced {canvas' : Option LvObj} (h : StepDoes width s s' (canvas t) canvas')
    (hlog : Records s.log s.display.forest) (htraced : Traced s.log s.given canvas) :
    Traced s'.log s'.given (Function.update canvas t canvas') := by
  cases h with
  | keeps hsame hgiven _ hcanvas =>
      rw [hsame, hgiven, hcanvas, Function.update_eq_self]
      exact htraced
  | calls hdoes hcanvas =>
      rw [hcanvas, Function.update_eq_self]
      exact htraced.calls hlog hdoes
  | creates hadd hsame hgiven hcanvas =>
      obtain ⟨_, hadd', _⟩ := Display.add_eq .canvas s.display
      obtain ⟨ho, _⟩ := Prod.mk.inj (Option.some.inj (hadd.symm.trans hadd'))
      rw [hsame, hgiven, hcanvas]
      exact htraced.creates hlog (congrArg LvObj.handle ho)
  | deletes ho hsame hgiven _ hcanvas =>
      rw [hsame, hgiven, hcanvas]
      exact htraced.deletes ho

end Traced

/-- The canvases of all threads. -/
def canvases (c : ScreenConfig κ) (t : Tid) : Option LvObj :=
  canvasOf t (c.locals t)

theorem canvases_move {t : Tid} (sh : Shared κ) (l : Local κ t) :
    canvases (c.move t sh l) = Function.update (canvases c) t (canvasOf t l) := by
  funext u
  by_cases hu : u = t
  · subst hu
    simp [canvases]
  · simp only [canvases, Function.update_of_ne hu, Config.move_locals_of_ne c sh l hu]

theorem traced (h : AnyScreen width code c) :
    Traced c.shared.log c.shared.given (canvases c) := by
  refine h.invariant (P := fun c => Traced c.shared.log c.shared.given (canvases c)) ?_ ?_
  · intro c hstart
    have hnone : canvases c = fun _ => none := by
      funext t
      unfold canvases
      cases t with
      | lvglTask => rfl
      | lvglTick => rfl
      | caller i =>
          rw [hstart.caller i]
          rfl
    rw [hstart.log, hstart.given, hnone]
    exact ⟨by simp, by simp, by simp, by simp⟩
  · intro c t sh l hreach htraced hs _
    rw [canvases_move]
    exact (screenThreads_does hs).traced (objects_recorded hreach) htraced

/-- No screen is deleted. -/
theorem screen_kept (h : AnyScreen width code c) {scr : Nat}
    (hroot : .created scr [] ∈ c.shared.log) : .deleted scr ∉ c.shared.log := by
  intro hdeleted
  obtain ⟨p, after, before, hsplit, _⟩ := (traced h).ofDeleted scr hdeleted
  have hcreated : Change.created scr [p] ∈ c.shared.log := by simp [hsplit]
  cases (objects_recorded h).above_eq hroot hcreated

/-- An object that was created on a screen is there until it is deleted or the screen is cleared. -/
theorem alive_iff_of_created (h : AnyScreen width code c) {o : LvObj} {scr : Nat}
    {after : List Change} (ho : CreatedOn c.shared.log o scr after) :
    c.shared.display.Alive o ↔ .deleted o.handle ∉ after ∧ .cleaned scr ∉ after := by
  obtain ⟨before, hsplit, hroot⟩ := ho
  have hkept : Change.deleted scr ∉ c.shared.log := screen_kept h (by simp [hsplit, hroot])
  exact (objects_recorded h).there_on_root hsplit hkept

/-- A pointer that a function of `gui.cpp` has returned is good until `RemoveGuiObj` is called for
it or `ClearScreen` clears the screen that was shown when it was made, whatever the threads do. A
new screen does not end it. -/
theorem given_alive_iff (h : AnyScreen width code c) {o : LvObj} (ho : o ∈ c.shared.given) :
    ∃ scr after, CreatedOn c.shared.log o scr after ∧
      (c.shared.display.Alive o ↔ .deleted o.handle ∉ after ∧ .cleaned scr ∉ after) := by
  obtain ⟨scr, after, hcreated⟩ := (traced h).ofGiven o ho
  exact ⟨scr, after, hcreated, alive_iff_of_created h hcreated⟩

/-- A button with a callback. -/
def buttonObj : GuiObj Unit :=
  { (GuiObj.static : GuiObj Unit) with cb := some () }

/-- A `GuiObj` with the first object. -/
def firstObj : GuiObj Unit :=
  { (GuiObj.static : GuiObj Unit) with obj := some ⟨1⟩ }

/-- `AddTouchButton` is called once. -/
theorem button_reached (code : Unit → LvObj → List (ScreenCall Unit)) :
    ∃ c : ScreenConfig Unit, AnyScreen 480 code c ∧ ⟨1⟩ ∈ c.shared.given ∧
      c.shared.lvglLock = none ∧ c.locals .lvglTask = .lock ∧
      ∃ n, c.shared.display.forest.node 1 = some n ∧ n.data.kind.cb = some () := by
  obtain ⟨d, hd, n, hn, hcb⟩ : ∃ d,
      (ScreenCall.addTouchButton buttonObj 0).run 480 .initial = some (some ⟨1⟩, d) ∧
        ∃ n, d.forest.node 1 = some n ∧ n.data.kind.cb = some () := by
    refine ⟨_, rfl, _, rfl, ?_⟩
    rfl
  have hdoes : (ScreenCall.addTouchButton buttonObj 0).Does 480
      { startScreen.shared with lvglLock := some (.caller 0) } (some ⟨1⟩)
      ⟨some (.caller 0), d, [], 0, [.created 0 [], .created 1 [0]], [⟨1⟩]⟩ :=
    ⟨nofun, hd, rfl, rfl, rfl, rfl, rfl⟩
  have hstart : AnyScreen 480 code startScreen := .start screenStart_startScreen
  have hreach := hstart.thread (t := Tid.caller 0) (fun _ _ _ _ => trivial)
    (call_run 0 rfl rfl hdoes)
  exact ⟨_, hreach, List.mem_singleton.2 rfl, rfl, rfl, n, hn, hcb⟩

/-- A button and a label are added, and the button is removed. -/
theorem given_alive_iff_removed :
    ∃ c : ScreenConfig Unit, AnyScreen 480 (fun _ _ => []) c ∧
      (⟨1⟩ ∈ c.shared.given ∧ ¬ c.shared.display.Alive ⟨1⟩) ∧
      ⟨2⟩ ∈ c.shared.given ∧ c.shared.display.Alive ⟨2⟩ := by
  obtain ⟨d₁, d₂, d₃, hbutton, hlabel, hremove, hactive, hnext⟩ :
      ∃ d₁ d₂ d₃, (ScreenCall.addTouchButton buttonObj 0).run 480 .initial = some (some ⟨1⟩, d₁) ∧
        (ScreenCall.addLabel GuiObj.static []).run 480 d₁ = some (some ⟨2⟩, d₂) ∧
        (ScreenCall.removeGuiObj firstObj).run 480 d₂ = some (none, d₃) ∧
        d₁.active = 0 ∧ d₁.forest.next = 2 :=
    ⟨_, _, _, rfl, rfl, rfl, rfl, rfl⟩
  have hadds : (ScreenCall.addTouchButton buttonObj 0).Does 480
      { startScreen.shared with lvglLock := some (.caller 0) } (some ⟨1⟩)
      ⟨some (.caller 0), d₁, [], 0, [.created 0 [], .created 1 [0]], [⟨1⟩]⟩ :=
    ⟨nofun, hbutton, rfl, rfl, rfl, rfl, rfl⟩
  have hadds' : (ScreenCall.addLabel GuiObj.static []).Does 480
      ⟨some (.caller 0), d₁, [], 0, [.created 0 [], .created 1 [0]], [⟨1⟩]⟩ (some ⟨2⟩)
      ⟨some (.caller 0), d₂, [], 0, [.created 0 [], .created 1 [0], .created 2 [0]],
        [⟨1⟩, ⟨2⟩]⟩ := by
    refine ⟨nofun, hlabel, rfl, rfl, rfl, ?_, rfl⟩
    show _ = [Change.created 0 [], .created 1 [0]] ++ [.created d₁.forest.next [d₁.active]]
    rw [hnext, hactive]
    rfl
  have hremoves : (ScreenCall.removeGuiObj firstObj).Does 480
      ⟨some (.caller 1), d₂, [], 0, [.created 0 [], .created 1 [0], .created 2 [0]],
        [⟨1⟩, ⟨2⟩]⟩ none
      ⟨some (.caller 1), d₃, [], 0,
        [.created 0 [], .created 1 [0], .created 2 [0], .deleted 1], [⟨1⟩, ⟨2⟩]⟩ := by
    refine ⟨fun o ho => ?_, hremove, rfl, rfl, rfl, rfl, rfl⟩
    cases ho
    exact List.mem_cons_self
  have hstart : AnyScreen 480 (fun _ _ => []) (startScreen (κ := Unit)) :=
    .start screenStart_startScreen
  have hadded := hstart.thread (t := Tid.caller 0) (fun _ _ _ _ => trivial)
    (call_run 0 rfl rfl hadds)
  have hboth := hadded.thread (t := Tid.caller 0) (fun _ _ _ _ => trivial)
    (call_run 0 rfl rfl hadds')
  have hremoved := hboth.thread (t := Tid.caller 1) (fun _ _ _ _ => trivial)
    (call_run 1 rfl rfl hremoves)
  -- what the log says after the object was created
  have hlog (x scr : Nat) (after : List Change)
      (h : CreatedOn [.created 0 [], .created 1 [0], .created 2 [0], .deleted 1] ⟨x⟩ scr after) :
      (x = 1 → .deleted x ∈ after) ∧ (x = 2 → after = [.deleted 1]) := by
    obtain ⟨before, hsplit, _⟩ := h
    rcases before with _ | ⟨_, _ | ⟨_, _ | ⟨_, _ | ⟨_, before⟩⟩⟩⟩
    · cases hsplit
    · cases hsplit
      exact ⟨fun _ => by simp, nofun⟩
    · cases hsplit
      exact ⟨nofun, fun _ => rfl⟩
    · cases hsplit
    · simp at hsplit
  have hfirst : (⟨1⟩ : LvObj) ∈ [⟨1⟩, ⟨2⟩] := List.mem_cons_self
  have hsecond : (⟨2⟩ : LvObj) ∈ [⟨1⟩, ⟨2⟩] := List.mem_cons_of_mem _ List.mem_cons_self
  obtain ⟨scr, after, hbefore, halive⟩ := given_alive_iff hremoved hfirst
  obtain ⟨scr', after', hbefore', halive'⟩ := given_alive_iff hremoved hsecond
  refine ⟨_, hremoved, ⟨hfirst, fun hthere => ?_⟩, hsecond, halive'.2 ?_⟩
  · exact (halive.1 hthere).1 ((hlog _ _ _ hbefore).1 rfl)
  · rw [(hlog _ _ _ hbefore').2 rfl]
    simp

/-- The canvas of `DrawQuadGridDisplay` is there in all six sections, unless `ClearScreen` clears
its screen between two of them. No other call reaches it, and no other thread has it for its own. -/
theorem canvas_alive_iff (h : AnyScreen width code c) {t : Tid} {o : LvObj}
    (ho : canvasOf t (c.locals t) = some o) :
    (∃ scr after, CreatedOn c.shared.log o scr after ∧
      (c.shared.display.Alive o ↔ .cleaned scr ∉ after)) ∧
      ∀ u, canvasOf u (c.locals u) = some o → u = t := by
  have htraced := traced h
  obtain ⟨⟨scr, after, hcreated⟩, _, hdeleted⟩ := htraced.ofCanvas t o ho
  refine ⟨⟨scr, after, hcreated, (alive_iff_of_created h hcreated).trans (and_iff_right ?_)⟩, ?_⟩
  · intro hin
    obtain ⟨before, hsplit, _⟩ := hcreated
    exact hdeleted (by simp [hsplit, hin])
  · intro u hu
    exact htraced.apart u t o hu ho

/-- One thread calls `ClearScreen` while another one is in `DrawQuadGridDisplay`, and a third one
begins to draw after that. -/
theorem canvas_alive_iff_cleared :
    ∃ c : ScreenConfig Unit, AnyScreen 480 (fun _ _ => []) c ∧
      (canvasOf (.caller 0) (c.locals (.caller 0)) = some ⟨1⟩ ∧
        ¬ c.shared.display.Alive ⟨1⟩) ∧
      canvasOf (.caller 2) (c.locals (.caller 2)) = some ⟨2⟩ ∧
      c.shared.display.Alive ⟨2⟩ ∧
      ∀ u, canvasOf u (c.locals u) = some ⟨2⟩ → u = .caller 2 := by
  obtain ⟨d, hd, hactive, hnext⟩ : ∃ d,
      (Display.initial (κ := Unit)).add .canvas = some (⟨1⟩, d) ∧
        d.active = 0 ∧ d.forest.next = 2 :=
    ⟨_, rfl, rfl, rfl⟩
  obtain ⟨d', hd'⟩ : ∃ d', (clearScreen d).add .canvas = some (⟨2⟩, d') := by
    obtain ⟨d', hadd, _⟩ := Display.add_eq .canvas (clearScreen d)
    exact ⟨d', hnext ▸ hadd⟩
  have hstart : AnyScreen 480 (fun _ _ => []) (startScreen (κ := Unit)) :=
    .start screenStart_startScreen
  have hdraw := hstart.thread (t := Tid.caller 0) (fun _ _ _ _ => trivial) (draw_run 0 rfl hd)
  have hdoes : ScreenCall.clearScreen.Does 480
      ⟨some (.caller 1), d, [], 0, [.created 0 [], .created 1 [0]], []⟩ none
      ⟨some (.caller 1), clearScreen d, [], 0,
        [.created 0 [], .created 1 [0], .cleaned 0], []⟩ := by
    refine ⟨nofun, rfl, rfl, rfl, rfl, ?_, rfl⟩
    show _ = [Change.created 0 [], .created 1 [0]] ++ [.cleaned d.active]
    rw [hactive]
    rfl
  have hclear := hdraw.thread (t := Tid.caller 1) (fun _ _ _ _ => trivial)
    (call_run 1 rfl rfl hdoes)
  have hboth := hclear.thread (t := Tid.caller 2) (fun _ _ _ _ => trivial) (draw_run 2 rfl hd')
  -- the screen that is shown stays the same throughout
  have hlog (x scr : Nat) (after : List Change)
      (h : CreatedOn [.created 0 [], .created 1 [0], .cleaned 0, .created 2 [d.active]]
        ⟨x⟩ scr after) :
      (x = 1 → .cleaned scr ∈ after) ∧ (x = 2 → .cleaned scr ∉ after) := by
    obtain ⟨before, hsplit, _⟩ := h
    rw [hactive] at hsplit
    rcases before with _ | ⟨_, _ | ⟨_, _ | ⟨_, _ | ⟨_, before⟩⟩⟩⟩
    · cases hsplit
    · cases hsplit
      exact ⟨fun _ => by simp, nofun⟩
    · cases hsplit
    · cases hsplit
      exact ⟨nofun, fun _ => by simp⟩
    · simp at hsplit
  obtain ⟨⟨scr, after, hfirst, halive⟩, _⟩ := canvas_alive_iff hboth (t := Tid.caller 0) rfl
  obtain ⟨⟨scr', after', hsecond, halive'⟩, hown⟩ :=
    canvas_alive_iff hboth (t := Tid.caller 2) rfl
  refine ⟨_, hboth, ⟨rfl, fun hthere => ?_⟩, rfl, halive'.2 ?_, hown⟩
  · exact halive.1 hthere ((hlog _ _ _ hfirst).1 rfl)
  · exact (hlog _ _ _ hsecond).2 rfl

end Reached

end BatteryInfo.Gui
