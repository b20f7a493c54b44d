import BatteryInfo.Gui.Sections
import BatteryInfo.Raster.Painting

/-!
# The picture of `DrawQuadGridDisplay`

All canvases show `cbuf`, and the lock is given back after each quadrant. As long as no other call
fills the buffer in between, a call finds at each section what it has drawn in the ones before,
whatever other calls draw. The quadrants share the canvas out between them, and each text stays in
its own, so that in the end every point is as its own section draws it (`grid_shown`).
-/

namespace BatteryInfo.Gui

open Objects Concurrent

/-! ## Quadrants -/

/-- Which points `lv_canvas_draw_text` colours of a text that is centred in a width, seen from the
place where it begins. -/
abbrev Ink := Int → List Char → Int × Int → Bool

/-- The texts stay in their width, and in the 220 rows that there are below the upper ones. -/
def Ink.Fits (ink : Ink) : Prop :=
  ∀ (sec : DrawSection) q, sec.quadrant = some q → ∀ p, ink q.w q.text p →
    0 ≤ p.1 ∧ p.1 < q.w ∧ 0 ≤ p.2 ∧ p.2 < 220

namespace Quadrant

/-- The point is in the rectangle. -/
def Covers (q : Quadrant) (p : Int × Int) : Prop :=
  q.x ≤ p.1 ∧ p.1 < q.x + q.w ∧ q.y ≤ p.2 ∧ p.2 < q.y + q.h

instance (q : Quadrant) (p : Int × Int) : Decidable (q.Covers p) :=
  inferInstanceAs (Decidable (_ ∧ _ ∧ _ ∧ _))

/-- The text has the point. -/
def inked (ink : Ink) (q : Quadrant) (p : Int × Int) : Bool :=
  ink q.w q.text (p.1 - q.x, p.2 - q.textY)

/-- The rectangle is drawn, and its text over it. -/
def draw (ink : Ink) (q : Quadrant) : Raster.Operation (Int × Int) CanvasColor := fun p =>
  if q.inked ink p then some q.textColor
  else if q.Covers p then some q.bgColor
  else none

/-- The colour of a point of the rectangle. -/
def colorAt (ink : Ink) (q : Quadrant) (p : Int × Int) : CanvasColor :=
  if q.inked ink p then q.textColor else q.bgColor

theorem draw_of_covers (ink : Ink) {q : Quadrant} {p : Int × Int} (h : q.Covers p) :
    q.draw ink p = some (q.colorAt ink p) := by
  unfold draw colorAt
  rw [if_pos h]
  split <;> rfl

end Quadrant

/-- The points of the four rectangles (`onCanvas_iff`). The size of the canvas itself comes from the
configuration of LVGL, and is this one for the screen that they are made for. -/
def OnCanvas (p : Int × Int) : Prop :=
  0 ≤ p.1 ∧ p.1 < 480 ∧ 0 ≤ p.2 ∧ p.2 < 800

section Quadrants

variable {ink : Ink} {sec sec' : DrawSection} {q q' : Quadrant} {p : Int × Int}

/-- A section draws within its own rectangle. -/
theorem covers_of_draw (hfits : ink.Fits) (hsec : sec.quadrant = some q)
    (hdraw : q.draw ink p ≠ none) : q.Covers p := by
  by_cases hink : q.inked ink p = true
  · have hin := hfits sec q hsec (p.1 - q.x, p.2 - q.textY) hink
    cases sec with
    | delete => cases hsec
    | _ =>
        cases hsec
        unfold Quadrant.Covers
        simp only at hin ⊢
        omega
  · by_contra hout
    apply hdraw
    unfold Quadrant.draw
    rw [if_neg hink, if_neg hout]

/-- The rectangles have no point in common. -/
theorem quadrant_unique (hsec : sec.quadrant = some q) (hsec' : sec'.quadrant = some q')
    (h : q.Covers p) (h' : q'.Covers p) : q' = q := by
  unfold Quadrant.Covers at h h'
  cases sec <;> cases hsec <;> cases sec' <;> cases hsec' <;> first
    | rfl
    | (simp only at h h'; omega)

/-- Together they are the area of 480 by 800 points. -/
theorem onCanvas_iff : OnCanvas p ↔
    ∃ (sec : DrawSection) (q : Quadrant), sec.quadrant = some q ∧ q.Covers p := by
  unfold OnCanvas
  constructor
  · intro hp
    by_cases hleft : p.1 < 240 <;> by_cases htop : p.2 < 400
    · exact ⟨.topLeft, _, rfl, by simp only [Quadrant.Covers]; omega⟩
    · exact ⟨.bottomLeft, _, rfl, by simp only [Quadrant.Covers]; omega⟩
    · exact ⟨.topRight, _, rfl, by simp only [Quadrant.Covers]; omega⟩
    · exact ⟨.bottomRight, _, rfl, by simp only [Quadrant.Covers]; omega⟩
  · rintro ⟨sec, q, hsec, hcovers⟩
    unfold Quadrant.Covers at hcovers
    cases sec with
    | delete => cases hsec
    | _ =>
        cases hsec
        simp only at hcovers
        omega

end Quadrants

/-! ## The buffer -/

variable {κ : Type}

/-- What a canvas shows. -/
def Shared.shown (ink : Ink) (s : Shared κ) (p : Int × Int) : CanvasColor :=
  Raster.paint (s.cbuf.map (Quadrant.draw ink)) .bkgnd p

/-- Only the sections have drawn. -/
def Shared.SectionsDrew (s : Shared κ) : Prop :=
  ∀ q ∈ s.cbuf, ∃ sec : DrawSection, sec.quadrant = some q

/-- A point is as its own section draws it, if it has drawn since the buffer was filled. -/
theorem Shared.shown_eq {ink : Ink} (hfits : ink.Fits) {s : Shared κ} (hdrew : s.SectionsDrew)
    {sec : DrawSection} {q : Quadrant} (hsec : sec.quadrant = some q) {p : Int × Int}
    (hp : q.Covers p) : s.shown ink p = if q ∈ s.cbuf then q.colorAt ink p else .bkgnd := by
  -- of all that was drawn, only this quadrant reaches the point
  have hreaches : ∀ op ∈ s.cbuf.map (Quadrant.draw ink), op p ≠ none →
      q ∈ s.cbuf ∧ op = q.draw ink := by
    intro op hop hreached
    obtain ⟨q', hq', rfl⟩ := List.mem_map.1 hop
    obtain ⟨sec', hsec'⟩ := hdrew q' hq'
    obtain rfl := quadrant_unique hsec hsec' hp (covers_of_draw hfits hsec' hreached)
    exact ⟨hq', rfl⟩
  unfold Shared.shown
  split
  · rename_i hin
    refine Raster.paint_eq_of_agree (List.mem_map_of_mem hin) (q.draw_of_covers ink hp) ?_
    intro op hop c hc
    obtain ⟨_, rfl⟩ := hreaches op hop (by simp [hc])
    rw [q.draw_of_covers ink hp] at hc
    exact (Option.some.inj hc).symm
  · rename_i hout
    refine Raster.paint_of_not_reached fun op hop => ?_
    by_contra hreached
    exact hout (hreaches op hop hreached).1

/-- The sections before this one. -/
def DrawSection.before : DrawSection → List DrawSection
  | topLeft => []
  | topRight => [topLeft]
  | bottomLeft => [topLeft, topRight]
  | bottomRight => [topLeft, topRight, bottomLeft]
  | delete => [topLeft, topRight, bottomLeft, bottomRight]

theorem DrawSection.before_next {sec sec' : DrawSection} (h : sec.next = some sec') :
    sec'.before = sec.before ++ [sec] := by
  cases sec <;> cases h <;> rfl

/-- What the sections before this one draw is in the buffer. -/
def DrawnBefore (s : Shared κ) (sec : DrawSection) : Prop :=
  ∀ sec' ∈ sec.before, ∀ q, sec'.quadrant = some q → q ∈ s.cbuf

/-- What a caller within `DrawQuadGridDisplay` has drawn is in the buffer. -/
def KeepsDrawn (s : Shared κ) : CallerPc κ → Prop
  | .drawUnlock _ (some sec) | .sectionLock _ sec | .sectionBody _ sec => DrawnBefore s sec
  | _ => True

theorem KeepsDrawn.mono {s s' : Shared κ} (h : ∀ q ∈ s.cbuf, q ∈ s'.cbuf) {pc : CallerPc κ}
    (hkeeps : KeepsDrawn s pc) : KeepsDrawn s' pc := by
  unfold KeepsDrawn at hkeeps ⊢
  split at hkeeps
  all_goals first
    | exact fun sec' hsec' q hq => h q (hkeeps sec' hsec' q hq)
    | trivial

/-! ## Steps -/

/-- The next step of the thread fills the buffer. -/
def Fills : (t : Tid) → Local κ t → Prop
  | .caller _, .drawBody => True
  | _, _ => False

/-- No step fills the buffer. -/
def noFill : StepCondition (Shared κ) (Local κ) := fun c t _ =>
  ¬ Fills t (c.locals t)

section Steps

variable {width : Int} {code : κ → LvObj → List (ScreenCall κ)} {s s' : Shared κ}

/-- What a step does to the buffer. -/
inductive BufferMove (t : Tid) (pc : Local κ t) (s s' : Shared κ) : Prop where
  | keep : s'.cbuf = s.cbuf → BufferMove t pc s s'
  | fill : Fills t pc → s'.cbuf = [] → BufferMove t pc s s'
  | draw {sec : DrawSection} {q : Quadrant} : Inside t pc → sec.quadrant = some q →
      s'.cbuf = s.cbuf ++ [q] → BufferMove t pc s s'

theorem CallerStep.bufferMove {i : Nat} {pc pc' : CallerPc κ}
    (h : CallerStep width i s pc s' pc') : BufferMove (.caller i) pc s s' := by
  cases h with
  | body hdoes => exact .keep hdoes.cbuf
  | disable hdoes => exact .keep hdoes.cbuf
  | drawBody => exact .fill trivial rfl
  | draw hquadrant => exact .draw trivial hquadrant rfl
  | _ => exact .keep rfl

/-- A step of any thread. -/
theorem screenThreads_bufferMove {t : Tid} {pc pc' : Local κ t}
    (h : (screenThreads width code).Step t s pc s' pc') : BufferMove t pc s s' := by
  cases t with
  | lvglTask =>
      have h : TaskStep width code s pc s' pc' := h
      cases h with
      | unlocked _ hdoes => exact .keep hdoes.cbuf
      | body hdoes => exact .keep hdoes.cbuf
      | _ => exact .keep rfl
  | lvglTick =>
      have h : TickStep s pc s' pc' := h
      cases h <;> exact .keep rfl
  | caller i => exact CallerStep.bufferMove h

/-- Nothing that was drawn is lost as long as the buffer is not filled. -/
theorem BufferMove.grows {t : Tid} {pc : Local κ t} (h : BufferMove t pc s s')
    (hfill : ¬ Fills t pc) : ∀ q ∈ s.cbuf, q ∈ s'.cbuf := by
  intro q hq
  cases h with
  | keep hsame => exact hsame ▸ hq
  | fill hfills _ => exact absurd hfills hfill
  | draw _ _ hdrawn => exact hdrawn ▸ List.mem_append_left _ hq

/-- A section adds what it draws. -/
theorem CallerStep.keepsDrawn {i : Nat} {pc pc' : CallerPc κ}
    (h : CallerStep width i s pc s' pc') (hfill : ¬ Fills (.caller i) pc)
    (hkeeps : KeepsDrawn s pc) : KeepsDrawn s' pc' := by
  cases h with
  | drawBody => exact absurd trivial hfill
  | drawUnlock => exact hkeeps
  | sectionLock => exact hkeeps
  | @draw canvas sec q hquadrant _ =>
      have hbefore : DrawnBefore s sec := hkeeps
      cases hnext : sec.next with
      | none => trivial
      | some sec' =>
          intro sec₀ hsec₀ q₀ hq₀
          rw [DrawSection.before_next hnext] at hsec₀
          rcases List.mem_append.1 hsec₀ with hsec₀ | hsec₀
          · exact List.mem_append_left _ (hbefore sec₀ hsec₀ q₀ hq₀)
          · obtain rfl := List.mem_singleton.1 hsec₀
            obtain rfl := Option.some.inj (hquadrant.symm.trans hq₀)
            exact List.mem_append_right _ (List.mem_singleton_self _)
  | _ => trivial

end Steps

section Reached

variable {width : Int} {code : κ → LvObj → List (ScreenCall κ)} {c c₀ : ScreenConfig κ} {i : Nat}
  {canvas : LvObj}

/-- A call that has just filled the buffer finds nothing drawn: it still has the lock. -/
theorem cbuf_filled (h : AnyScreen width code c) {canvas : LvObj}
    (hat : c.locals (.caller i) = .drawUnlock canvas (some .topLeft)) : c.shared.cbuf = [] := by
  refine h.invariant (P := fun c => ∀ i canvas,
    c.locals (.caller i) = .drawUnlock canvas (some .topLeft) → c.shared.cbuf = [])
    ?_ ?_ i canvas hat
  · intro c hstart i canvas hat
    rw [hstart.caller i] at hat
    cases hat
  · intro c t sh l hreach hfilled hs _ i canvas hat
    by_cases hti : .caller i = t
    · subst hti
      rw [Config.move_locals_self] at hat
      subst hat
      generalize hpc : c.locals (.caller i) = pc at hs
      have hs : CallerStep width i c.shared pc sh (.drawUnlock canvas (some .topLeft)) := hs
      generalize hnext : some DrawSection.topLeft = next at hs
      cases hs with
      | drawBody => rfl
      | @draw _ sec _ _ _ => cases sec <;> cases hnext
      | delete => cases hnext
    · rw [Config.move_locals_of_ne c sh l hti] at hat
      have hbuffer := hfilled i canvas hat
      have hheld := (lvglLock_owned hreach (.caller i)).1.2 (by rw [hat]; trivial)
      cases screenThreads_bufferMove hs with
      | keep hsame => exact hsame.trans hbuffer
      | fill _ hempty => exact hempty
      | draw hinside _ _ =>
          have hheld' := (lvglLock_owned hreach t).1.2 hinside
          exact absurd (Option.some.inj (hheld.symm.trans hheld')) hti

/-- As long as the buffer is not filled again, it has what the call has drawn, and nothing that no
section draws. -/
theorem drawn_kept (h : AnyScreen width code c₀)
    (hfilled : c₀.locals (.caller i) = .drawUnlock canvas (some .topLeft))
    (hreach : (screenThreads width code).Reach (· = c₀) noFill c) :
    KeepsDrawn c.shared (c.locals (.caller i)) ∧ c.shared.SectionsDrew := by
  refine hreach.invariant (P := fun c =>
    KeepsDrawn c.shared (c.locals (.caller i)) ∧ c.shared.SectionsDrew) ?_ ?_
  · rintro c rfl
    refine ⟨?_, fun q hq => ?_⟩
    · rw [hfilled]
      exact fun sec' hsec' => by cases hsec'
    · rw [cbuf_filled h hfilled] at hq
      cases hq
  · intro c t sh l _ ⟨hkeeps, hdrew⟩ hs hfill
    have hmove := screenThreads_bufferMove hs
    refine ⟨?_, ?_⟩
    · by_cases hti : .caller i = t
      · subst hti
        rw [Config.move_locals_self]
        exact CallerStep.keepsDrawn hs hfill hkeeps
      · rw [Config.move_locals_of_ne c sh l hti]
        exact hkeeps.mono (hmove.grows hfill)
    · cases hmove with
      | keep hsame => exact fun q hq => hdrew q (hsame ▸ hq)
      | fill hfills _ => exact absurd hfills hfill
      | draw _ hsec hdrawn =>
          intro q hq
          rcases List.mem_append.1 (hdrawn ▸ hq) with hq | hq
          · exact hdrew q hq
          · obtain rfl := List.mem_singleton.1 hq
            exact ⟨_, hsec⟩

/-- A call of `DrawQuadGridDisplay` that has filled the buffer, and is about to delete its canvas:
if no other call has filled the buffer in between, every point of the canvas is in exactly one
rectangle, and shows what the section draws there, whatever other calls have drawn. -/
theorem grid_shown {ink : Ink} (hfits : ink.Fits) (h : AnyScreen width code c₀)
    (hfilled : c₀.locals (.caller i) = .drawUnlock canvas (some .topLeft))
    (hreach : (screenThreads width code).Reach (· = c₀) noFill c)
    (hat : c.locals (.caller i) = .sectionBody canvas .delete) {p : Int × Int} (hp : OnCanvas p) :
    ∃ (sec : DrawSection) (q : Quadrant), sec.quadrant = some q ∧ q.Covers p ∧
      (∀ (sec' : DrawSection) q', sec'.quadrant = some q' → q'.Covers p → q' = q) ∧
      c.shared.shown ink p = q.colorAt ink p := by
  obtain ⟨hkeeps, hdrew⟩ := drawn_kept h hfilled hreach
  rw [hat] at hkeeps
  obtain ⟨sec, q, hsec, hcovers⟩ := onCanvas_iff.1 hp
  have hbefore : sec ∈ DrawSection.delete.before := by
    cases sec with
    | delete => cases hsec
    | _ => simp [DrawSection.before]
  have hin : q ∈ c.shared.cbuf := hkeeps sec hbefore q hsec
  refine ⟨sec, q, hsec, hcovers, fun sec' q' hsec' hcovers' => ?_, ?_⟩
  · exact quadrant_unique hsec hsec' hcovers hcovers'
  · rw [Shared.shown_eq hfits hdrew hsec hcovers, if_pos hin]

/-- A section is drawn, from the lock to the next one. -/
theorem section_run (width : Int) (i : Nat) (s : Shared κ) (sec : DrawSection)
    {next : DrawSection} {q : Quadrant} (hquadrant : sec.quadrant = some q)
    (hnext : sec.next = some next)
    (hfree : s.lvglLock = none) (halive : s.display.Alive canvas) :
    ∃ s', ThreadRun (CallerStep width i) (fun pc _ => ¬ Fills (.caller i) pc) s
        (.sectionLock canvas sec) s' (.sectionLock canvas next) ∧
      s'.lvglLock = none ∧ s'.display.Alive canvas := by
  refine ⟨{ s with lvglLock := none, cbuf := s.cbuf ++ [q] }, ?_, rfl, halive⟩
  refine .head (.sectionLock hfree) id (.head (.draw hquadrant halive) id ?_)
  rw [hnext]
  exact .head .drawUnlock id (.refl _ _)

/-- One call draws its four sections, and no other one begins. -/
theorem grid_run (width : Int) (i : Nat) (s : Shared κ) (halive : s.display.Alive canvas) :
    ∃ s', ThreadRun (CallerStep width i) (fun pc _ => ¬ Fills (.caller i) pc) s
      (.drawUnlock canvas (some .topLeft)) s' (.sectionBody canvas .delete) := by
  obtain ⟨s₁, hred, hfree, halive⟩ :=
    section_run width i { s with lvglLock := none } .topLeft rfl rfl rfl halive
  obtain ⟨s₂, hgreen, hfree, halive⟩ := section_run width i s₁ .topRight rfl rfl hfree halive
  obtain ⟨s₃, hblue, hfree, halive⟩ := section_run width i s₂ .bottomLeft rfl rfl hfree halive
  obtain ⟨s₄, hyellow, hfree, _⟩ := section_run width i s₃ .bottomRight rfl rfl hfree halive
  exact ⟨_, .head .drawUnlock id (hred.trans (hgreen.trans (hblue.trans (hyellow.trans
    (.head (.sectionLock hfree) id (.refl _ _))))))⟩

end Reached

/-- A text as a block of 80 by 40 points in the middle of its width. -/
def block : Ink := fun w _ p =>
  w / 2 - 40 ≤ p.1 ∧ p.1 < w / 2 + 40 ∧ 0 ≤ p.2 ∧ p.2 < 40

theorem block_fits : block.Fits := by
  intro sec q hsec p hp
  have hin : q.w / 2 - 40 ≤ p.1 ∧ p.1 < q.w / 2 + 40 ∧ 0 ≤ p.2 ∧ p.2 < 40 := of_decide_eq_true hp
  cases sec with
  | delete => cases hsec
  | _ =>
      cases hsec
      simp only at hin ⊢
      omega

/-- A call fills the buffer. -/
theorem filled_reached : ∃ c : ScreenConfig Unit, AnyScreen 480 (fun _ _ => []) c ∧
    c.locals (.caller 0) = .drawUnlock ⟨1⟩ (some .topLeft) ∧ c.shared.display.Alive ⟨1⟩ := by
  obtain ⟨d, hadd, hadds⟩ := Display.add_eq (κ := Unit) .canvas .initial
  have hstart : AnyScreen 480 (fun _ _ => []) (startScreen (κ := Unit)) :=
    .start screenStart_startScreen
  have hrun : ThreadRun (CallerStep 480 0) (fun _ _ => True) (startScreen (κ := Unit)).shared
      .outside _ (.drawUnlock ⟨1⟩ (some .topLeft)) :=
    .head .callDraw trivial (.head (.drawLock rfl) trivial (.head (.drawBody hadd) trivial
      (.refl _ _)))
  have hfill := hstart.thread (t := Tid.caller 0) (fun _ _ _ _ => trivial) hrun
  exact ⟨_, hfill, Config.move_locals_self .., hadds.alive⟩

/-- No other call is made: the last section shows its text on its rectangle. -/
theorem grid_shown_once :
    ∃ c : ScreenConfig Unit, AnyScreen 480 (fun _ _ => []) c ∧
      c.locals (.caller 0) = .sectionBody ⟨1⟩ .delete ∧
      c.shared.shown block (300, 700) = .yellow ∧ c.shared.shown block (360, 590) = .black := by
  obtain ⟨c₀, h, hfilled, halive⟩ := filled_reached
  obtain ⟨s', hrun⟩ := grid_run 480 0 c₀.shared halive
  rw [← hfilled] at hrun
  have hbegin : (screenThreads 480 fun _ _ => []).Reach (· = c₀) noFill c₀ := .start rfl
  have hreach := hbegin.thread (t := Tid.caller 0) (fun _ _ _ hok => hok) hrun
  have hat : (c₀.move (.caller 0) s' (.sectionBody ⟨1⟩ .delete)).locals (.caller 0) =
      .sectionBody ⟨1⟩ .delete := Config.move_locals_self ..
  have hground : OnCanvas (300, 700) := by
    unfold OnCanvas
    omega
  have htext : OnCanvas (360, 590) := by
    unfold OnCanvas
    omega
  obtain ⟨_, q, _, _, hown, hshown⟩ := grid_shown block_fits h hfilled hreach hat hground
  obtain ⟨_, q', _, _, hown', hshown'⟩ := grid_shown block_fits h hfilled hreach hat htext
  refine ⟨_, h.trans (hreach.mono fun _ _ _ _ => trivial), hat, ?_, ?_⟩
  · rw [hshown, ← hown .bottomRight _ rfl (by decide)]
    rfl
  · rw [hshown', ← hown' .bottomRight _ rfl (by decide)]
    rfl

end BatteryInfo.Gui
