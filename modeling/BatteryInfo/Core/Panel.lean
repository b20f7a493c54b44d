import BatteryInfo.Core.Severity
import BatteryInfo.Core.SignalLabels
import BatteryInfo.Core.Temperature
import BatteryInfo.Core.Voltage

/-!
# What the panel shows

The whole program after its set-up: the monitors read what the driver holds at the time, the user
clicks on the buttons, and the results go through the variables, the pointers and LVGL to the
labels. As long as the program runs, the label of each monitor shows what its last iteration made of
its reading, and no other label changes. It runs until a voltage below a tenth of a volt is read, a
signal is read that has no line, or `brightness_monitor` finds another brightness than that of the
start (`panel_shows_last`). A label keeps a text here as it was passed; `BatteryInfo.Core.Drawing`
is about how long the text is there.
-/

namespace BatteryInfo.Core

open Battery Decimal Gui Sequence

/-- What happens after the set-up: an iteration of a monitor, with what it finds, or an event of an
object on the screen. -/
inductive Happening where
  | gauge (g : Gauge) (file : GaugeFile)
  | health (content : Option (List Char))
  | signal (sample : Sample)
  | brightnessMonitor
  | lvEvent (o : LvObj) (event : LvEvent)

/-- The part of an iteration after the reading. -/
def App.showGauge (g : Gauge) (reading : Int) (a : App) : App :=
  match g with
  | .percentage => a.step (.monitor .level reading)
  | .temp => a.step (.monitor .temp reading)
  | .current => a.step (.monitor .current reading)
  | .voltage => a.step (.monitor .voltage reading)

/-- The program after it. -/
def Signals.happens (conv : Conversion) (p : Signals) : Happening → Signals
  | .gauge g file => { p with app := p.app.showGauge g (g.get conv file) }
  | .health content =>
      { p with app := p.app.step (.monitor .health (getBatteryHealth content)) }
  | .signal sample => p.step sample
  | .brightnessMonitor => { p with app := p.app.step .brightnessMonitor }
  | .lvEvent o event => { p with app := p.app.step (.lvEvent o event) }

/-! ## What is to be shown -/

/-- The monitor of a gauge. -/
def gaugeMonitor : Gauge → Monitor
  | .percentage => .level
  | .temp => .temp
  | .current => .current
  | .voltage => .voltage

/-- The monitor of a signal. -/
def signalMonitor : LineId → Monitor
  | .inBase => .inDock
  | .charging => .charging

/-- The monitor that this is an iteration of, with what it makes of its reading. -/
def Happening.shown (conv : Conversion) : Happening → Option (Monitor × Shown)
  | .gauge g file => (gaugeShown g (g.get conv file)).map fun shown => (gaugeMonitor g, shown)
  | .health content => some (.health, batteryHealthMonitor (getBatteryHealth content))
  | .signal sample =>
      some (signalMonitor sample.id, signalShown sample.id (levelOfValue sample.value))
  | .brightnessMonitor | .lvEvent _ _ => none

/-- What a label shows before the first iteration of its monitor. -/
def checking : Shown :=
  ⟨"Checking...".toList, .orange⟩

/-- What an iteration of this monitor makes of its reading. -/
def Happening.shownBy (conv : Conversion) (m : Monitor) (h : Happening) : Option Shown :=
  ((h.shown conv).filter fun shown => shown.1 = m).map Prod.snd

/-- What the last iteration of a monitor made of its reading. -/
def lastShown (conv : Conversion) (past : List Happening) (m : Monitor) : Shown :=
  (past.reverse.findSome? (Happening.shownBy conv m)).getD checking

/-- The call of a callback that an event leads to. -/
def Happening.press (start : App) : Happening → Option ButtonEvent
  | .lvEvent o event =>
      match start.gui.widget o with
      | some (.button b) => b.cb.map fun cb => ⟨cb, event⟩
      | _ => none
  | _ => none

/-- The brightness that the buttons have led to. -/
def brightnessAfter (start : App) (past : List Happening) : Int :=
  wrapInt (60 + balance (past.filterMap (Happening.press start)))

/-- This ends the program: no point can be put into the numeral of a voltage below a tenth of a
volt, which is also what a file without a number reads as, libgpiod does not accept `NULL` for a
line, and LVGL does not for the label of the brightness. -/
def Happening.Ends (conv : Conversion) (start : App) (gpio : GpioStatics)
    (past : List Happening) : Happening → Prop
  | .gauge .voltage file => ∃ content, file.content = some content ∧
      -10000 < scanValue conv content ∧ scanValue conv content < 100000
  | .signal sample => gpio.polledLine sample.id = none
  | .brightnessMonitor => brightnessAfter start past ≠ 60
  | _ => False

/-! ## The past grows -/

section Past

variable {conv : Conversion} {past : List Happening} {h : Happening}

theorem lastShown_concat (m : Monitor) :
    lastShown conv (past ++ [h]) m = (h.shownBy conv m).getD (lastShown conv past m) := by
  unfold lastShown
  rw [List.reverse_concat, List.findSome?_cons]
  cases h.shownBy conv m <;> rfl

theorem shownBy_self {m : Monitor} {shown : Shown} (hshown : h.shown conv = some (m, shown)) :
    h.shownBy conv m = some shown := by
  unfold Happening.shownBy
  rw [hshown]
  simp

theorem shownBy_of_ne {m m' : Monitor} {shown : Shown} (hshown : h.shown conv = some (m, shown))
    (hne : m' ≠ m) : h.shownBy conv m' = none := by
  unfold Happening.shownBy
  rw [hshown]
  simp [Ne.symm hne]

theorem shownBy_of_none (m : Monitor) (hshown : h.shown conv = none) :
    h.shownBy conv m = none := by
  unfold Happening.shownBy
  rw [hshown]
  rfl

theorem balance_concat (events : List ButtonEvent) (e : ButtonEvent) :
    balance (events ++ [e]) = balance events + e.change := by
  have hsum := foldl_change 0 (events ++ [e])
  rw [List.foldl_append, List.foldl_cons, List.foldl_nil, foldl_change] at hsum
  omega

theorem brightnessAfter_nil (start : App) : 60 = brightnessAfter start [] := by
  simp [brightnessAfter, balance, wrapInt]

theorem brightnessAfter_concat (start : App) :
    brightnessAfter start (past ++ [h]) =
      match h.press start with
      | none => brightnessAfter start past
      | some e => wrapInt (60 + balance (past.filterMap (Happening.press start)) + e.change) := by
  unfold brightnessAfter
  rw [List.filterMap_append]
  cases hpress : h.press start with
  | none => simp [hpress]
  | some e =>
      simp only [List.filterMap_cons, hpress, List.filterMap_nil, balance_concat, Int.add_assoc]

end Past

/-- Sums may be wrapped in between. -/
theorem wrapInt_wrapInt_add (n change : Int) :
    wrapInt (wrapInt n + change) = wrapInt (n + change) := by
  unfold wrapInt
  omega

theorem buttonCallback_wrapInt {s : Screen} {n : Int} (hbrightness : s.brightness = wrapInt n)
    (e : ButtonEvent) : (buttonCallback s e).brightness = wrapInt (n + e.change) := by
  rw [buttonCallback_eq]
  split
  · show wrapInt (s.brightness + e.change) = _
    rw [hbrightness, wrapInt_wrapInt_add]
  · rename_i hother
    rw [ButtonEvent.change_other hother, Int.add_zero]
    exact hbrightness

/-- A numeral of one character is too short for the point. -/
theorem batteryVoltageMonitor_eq_none_iff {v : Int} (hv : InInt v) :
    batteryVoltageMonitor v = none ↔ 0 ≤ v ∧ v < 10 := by
  have hlength := length_ofInt v
  have hdigits := length_toDigits_le hv
  have hone : 2 ≤ (Nat.toDigits 10 v.natAbs).length ↔ 10 ≤ v.natAbs := two_le_length_toDigits
  have hnonempty : 0 < (Nat.toDigits 10 v.natAbs).length := Nat.length_toDigits_pos
  have hfits : sizeSub (ofInt v).length 2 ≤ (ofInt v).length ↔ 2 ≤ (ofInt v).length := by
    unfold sizeSub
    split at hlength <;> omega
  have hthrows : insertAt (sizeSub (ofInt v).length 2) ['.'] (ofInt v) = none ↔
      ¬ sizeSub (ofInt v).length 2 ≤ (ofInt v).length := by
    unfold insertAt
    split
    · rename_i hle
      exact iff_of_false nofun (not_not_intro hle)
    · rename_i hle
      exact iff_of_true rfl hle
  have hmonitor : batteryVoltageMonitor v = none ↔
      insertAt (sizeSub (ofInt v).length 2) ['.'] (ofInt v) = none := by
    unfold batteryVoltageMonitor batteryVoltageFormatted
    simp only [Option.bind_eq_bind, Option.pure_def]
    generalize insertAt (sizeSub (ofInt v).length 2) ['.'] (ofInt v) = text
    cases text <;> simp
  rw [hmonitor, hthrows, hfits]
  split at hlength <;> omega

/-- No point can be put into the numeral of a voltage below a tenth of a volt. -/
theorem gaugeShown_voltage_eq_none_iff (conv : Conversion) (file : GaugeFile) :
    gaugeShown .voltage (getBatteryVoltage conv file) = none ↔
      ∃ content, file.content = some content ∧
        -10000 < scanValue conv content ∧ scanValue conv content < 100000 := by
  rw [show gaugeShown .voltage (getBatteryVoltage conv file) =
    batteryVoltageMonitor (getBatteryVoltage conv file) from rfl,
    batteryVoltageMonitor_eq_none_iff (getBatteryVoltage_inInt conv file)]
  obtain ⟨content, closes⟩ := file
  cases content with
  | none =>
      have herror : getBatteryVoltage conv ⟨none, closes⟩ = -1 := rfl
      simp [herror]
  | some content =>
      simp only [getBatteryVoltage_of_content, Option.some.injEq, exists_eq_left']
      rcases Int.le_total 0 (scanValue conv content) with hpos | hneg
      · rw [Int.tdiv_eq_ediv_of_nonneg hpos]
        omega
      · rw [← Int.neg_neg (scanValue conv content), Int.neg_tdiv,
          Int.tdiv_eq_ediv_of_nonneg (Int.neg_nonneg_of_nonpos hneg)]
        omega

/-- A temperature can always be shown. -/
theorem gaugeShown_temp_ne_none (conv : Conversion) (file : GaugeFile) :
    gaugeShown .temp (getBatteryTemp conv file) ≠ none := by
  obtain ⟨text, htext⟩ : ∃ text, batteryTempFormatted (getBatteryTemp conv file) = some text :=
    ⟨_, (batteryTempFormatted_iff (getBatteryTemp_inInt conv file)).2 rfl⟩
  show batteryTempMonitor (getBatteryTemp conv file) ≠ none
  unfold batteryTempMonitor
  rw [htext]
  nofun

/-- An iteration of the monitor of a gauge ends the program exactly if nothing is shown. -/
theorem gaugeShown_eq_none_iff (conv : Conversion) (g : Gauge) (file : GaugeFile) (start : App)
    (gpio : GpioStatics) (past : List Happening) :
    gaugeShown g (g.get conv file) = none ↔
      Happening.Ends conv start gpio past (.gauge g file) := by
  cases g with
  | percentage => exact iff_of_false nofun id
  | temp => exact iff_of_false (gaugeShown_temp_ne_none conv file) id
  | current => exact iff_of_false nofun id
  | voltage => exact gaugeShown_voltage_eq_none_iff conv file

/-- The iteration is one of the monitor of the gauge. -/
theorem showGauge_eq (g : Gauge) (reading : Int) (a : App) :
    ∃ reading' : (gaugeMonitor g).Reading,
      a.showGauge g reading = a.step (.monitor (gaugeMonitor g) reading') ∧
        (gaugeMonitor g).shown reading' = gaugeShown g reading := by
  cases g <;> exact ⟨reading, rfl, rfl⟩

/-! ## What is kept -/

/-- The labels of the monitors show that nothing was read yet. -/
theorem labelOf_started (width height : Int) (b : Backlight) (m : Monitor) :
    ∃ l, (App.started width height b).labelOf m.label = some l ∧ l.text = checking.text ∧
      l.color = some checking.color := by
  have hsetup : ∃ s ∈ mainMenuLabels width, s.id = m.label ∧ s.color = some checking.color ∧
      s.text = checking.text := by
    cases m with
    | current => exact ⟨_, List.mem_of_getElem? (i := 1) rfl, rfl, rfl, rfl⟩
    | voltage => exact ⟨_, List.mem_of_getElem? (i := 3) rfl, rfl, rfl, rfl⟩
    | health => exact ⟨_, List.mem_of_getElem? (i := 5) rfl, rfl, rfl, rfl⟩
    | temp => exact ⟨_, List.mem_of_getElem? (i := 7) rfl, rfl, rfl, rfl⟩
    | level => exact ⟨_, List.mem_of_getElem? (i := 9) rfl, rfl, rfl, rfl⟩
    | inDock => exact ⟨_, List.mem_of_getElem? (i := 11) rfl, rfl, rfl, rfl⟩
    | charging => exact ⟨_, List.mem_of_getElem? (i := 13) rfl, rfl, rfl, rfl⟩
  obtain ⟨s, hs, hid, hcolor, htext⟩ := hsetup
  obtain ⟨o, l, hadded, hl, hltext, hlcolor⟩ := started_widget width height b hs hcolor
  rw [hid] at hadded
  exact ⟨l, labelOf_of_widget hadded hl, hltext.trans htext, hlcolor⟩

theorem Monitor.label_injective : Function.Injective Monitor.label := by
  intro m m' heq
  cases m <;> cases m' <;> first | rfl | cases heq

/-- What each iteration finds: the labels are objects of their own, those of the monitors are
registered with a colour, and the buttons are those of the set-up. -/
structure PanelReady (start a : App) : Prop where
  registered : Registered a
  objects : LabelObjects a
  setColor : ∀ m : Monitor, (a.objs m.label).setColor = true
  added : a.added = start.added
  button : ∀ o b, a.gui.widget o = some (.button b) ↔ start.gui.widget o = some (.button b)

theorem panelReady_started (width height : Int) (b : Backlight) :
    PanelReady (.started width height b) (.started width height b) where
  registered := registered_started width height b
  objects := started_labelObjects width height b
  setColor := by
    intro m
    have hsetup : ∃ s ∈ mainMenuLabels width, s.id = m.label ∧ s.color.isSome := by
      cases m <;> simp [mainMenuLabels, Monitor.label]
    obtain ⟨s, hs, hid, hcolor⟩ := hsetup
    rw [← hid]
    exact started_setColor width height b hs hcolor
  added := rfl
  button _ _ := .rfl

section Iterations

variable {start a : App}

/-- What an iteration of a monitor does to the labels. -/
structure Shows (m : Monitor) (shown : Shown) (a a' : App) : Prop where
  running : a'.running = true
  own : ∃ l, a'.labelOf m.label = some l ∧ l.text = shown.text ∧ l.color = some shown.color
  others : ∀ id, id ≠ m.label → a'.labelOf id = a.labelOf id
  screen : a'.screen = a.screen

/-- What a label shows depends on its own object. -/
theorem labelOf_congr {a a' : App} {id : GuiId} (hadded : a'.added = a.added)
    (hwidget : ∀ o, a.added id = some o → a'.gui.widget o = a.gui.widget o) :
    a'.labelOf id = a.labelOf id := by
  unfold App.labelOf
  rw [hadded]
  cases ho : a.added id with
  | none => rfl
  | some o => simp only [Option.bind_eq_bind, Option.bind_some, hwidget o ho]

/-- An iteration shows what it makes of its reading, on its own label. -/
theorem PanelReady.monitor (h : PanelReady start a) (hrunning : a.running) {m : Monitor}
    {reading : m.Reading} {shown : Shown} (hshown : m.shown reading = some shown) :
    PanelReady start (a.step (.monitor m reading)) ∧
      Shows m shown a (a.step (.monitor m reading)) := by
  obtain ⟨o, hobj, hadded⟩ := h.registered.monitors m
  obtain ⟨l, hl⟩ := h.objects.label _ o hadded
  have hstep := step_monitor_eq hrunning hshown hobj (h.setColor m)
  have hregistered : Registered (a.step (.monitor m reading)) := by
    rcases h.registered.event (.monitor m reading) with ⟨_, _, hnext⟩ | ⟨hother, _⟩
    · exact hnext
    · exact absurd nofun hother
  have hwidget : ∀ o', o' ≠ o →
      (a.step (.monitor m reading)).gui.widget o' = a.gui.widget o' := by
    intro o' hne
    rw [hstep]
    exact Lvgl.widget_changeLabel_of_ne hne _ _
  have hself : (a.step (.monitor m reading)).gui.widget o =
      some (.label { l with text := shown.text, color := some shown.color }) := by
    rw [hstep]
    exact Lvgl.widget_changeLabel_self hl _
  have hsame : (a.step (.monitor m reading)).added = a.added := by
    rw [hstep]
    rfl
  refine ⟨⟨hregistered, ⟨fun id o' ho' => ?_, fun id id' o' ho' ho'' => ?_⟩, fun m' => ?_,
    hsame.trans h.added, fun o' b => ?_⟩, ?_,
    ⟨_, labelOf_of_widget (hsame ▸ hadded) hself, rfl, rfl⟩, fun id hid => ?_, ?_⟩
  · rw [hsame] at ho'
    by_cases ho : o' = o
    · subst ho
      exact ⟨_, hself⟩
    · obtain ⟨l', hl'⟩ := h.objects.label id o' ho'
      exact ⟨l', (hwidget o' ho).trans hl'⟩
  · rw [hsame] at ho' ho''
    exact h.objects.own id id' o' ho' ho''
  · obtain ⟨_, hobjs⟩ := objs_setObj_color m.label shown.color a m'.label
    rw [hstep]
    show ((a.setObj _ _).objs _).setColor = true
    rw [hobjs, h.setColor m']
  · rw [← h.button]
    by_cases ho : o' = o
    · subst ho
      rw [hself, hl]
      exact iff_of_false nofun nofun
    · rw [hwidget o' ho]
  · rw [hstep]
    exact hrunning
  · -- the object of another label is another object
    refine labelOf_congr hsame fun o' ho' => hwidget o' ?_
    rintro rfl
    exact hid (h.objects.own _ _ o' ho' hadded)
  · rw [hstep]
    rfl

/-- An event of an object reaches the brightness, as far as it calls a callback. -/
theorem PanelReady.lvEvent (h : PanelReady start a) (hrunning : a.running) {o : LvObj}
    {e : LvEvent} {past : List Happening}
    (hbrightness : a.screen.brightness = brightnessAfter start past) :
    PanelReady start (a.step (.lvEvent o e)) ∧
      (a.step (.lvEvent o e)).running = true ∧
      (∀ id, (a.step (.lvEvent o e)).labelOf id = a.labelOf id) ∧
      (a.step (.lvEvent o e)).screen.brightness =
        brightnessAfter start (past ++ [.lvEvent o e]) := by
  have hstep : a.step (.lvEvent o e) = a.lvEvent o e := by
    simp [App.step, App.handle, hrunning]
  have hpress : ∀ b cb, a.gui.widget o = some (.button b) → b.cb = some cb →
      Happening.press start (.lvEvent o e) = some ⟨cb, e⟩ := by
    intro b cb hb hcb
    simp [Happening.press, (h.button o b).1 hb, hcb]
  have hnoPress : (∀ b cb, a.gui.widget o = some (.button b) → b.cb ≠ some cb) →
      Happening.press start (.lvEvent o e) = none := by
    intro hnone
    simp only [Happening.press]
    split
    · rename_i b hb
      cases hcb : b.cb with
      | none => rfl
      | some cb => exact absurd hcb (hnone b cb ((h.button o b).2 hb))
    · rfl
  rw [hstep, brightnessAfter_concat]
  unfold App.lvEvent
  split
  · rename_i cb _ _ _ _ _ _ _ hb
    have hafter : ({ a with screen := buttonCallback a.screen ⟨cb, e⟩ } : App).screen.brightness =
        wrapInt (60 + balance (past.filterMap (Happening.press start)) +
          ButtonEvent.change ⟨cb, e⟩) :=
      buttonCallback_wrapInt hbrightness _
    rw [hpress _ cb hb rfl]
    refine ⟨⟨h.registered.of_objs rfl rfl, ⟨h.objects.label, h.objects.own⟩, h.setColor, h.added,
      h.button⟩, hrunning, fun id => rfl, hafter⟩
  · rename_i hother
    rw [hnoPress ?_]
    · exact ⟨h, hrunning, fun id => rfl, hbrightness⟩
    · rintro ⟨cb', _, _, _, _, _, _, _⟩ cb hb hcb
      obtain rfl : cb' = some cb := hcb
      exact hother _ _ _ _ _ _ _ _ hb

/-- `brightness_monitor` does nothing at the brightness of the start, and gives LVGL `NULL` at any
other. -/
theorem PanelReady.brightnessMonitor (h : PanelReady start a) (hrunning : a.running) :
    (a.screen.brightness = 60 → a.step .brightnessMonitor = a) ∧
      (a.screen.brightness ≠ 60 → (a.step .brightnessMonitor).running = false) := by
  have hstep : a.step .brightnessMonitor = a.brightnessIteration.2 := by
    simp [App.step, App.handle, hrunning]
  rw [hstep]
  constructor
  · intro hsixty
    rcases h.registered.brightnessIteration with ⟨_, hsame⟩ | ⟨hother, _⟩
    · rw [hsame]
    · exact absurd hsixty hother
  · intro hother
    have htext : (a.objs .brightnessValue).text ≠ a.screen.monitorText := by
      rw [h.registered.brightnessText]
      exact fun heq => hother (ofInt_injective heq).symm
    unfold App.brightnessIteration
    rw [if_pos htext]
    simp [App.callChangeLabel, changeLabel, h.registered.brightnessObj]

end Iterations

/-! ## The run -/

/-- Nothing that happened has ended the program. -/
def RunsOn (conv : Conversion) (start : App) (gpio : GpioStatics) (past : List Happening) : Prop :=
  ∀ before h, before ++ [h] <+: past → ¬ h.Ends conv start gpio before

/-- The panel of a running program. -/
structure PanelShows (conv : Conversion) (start : App) (past : List Happening) (a : App) :
    Prop where
  label : ∀ m : Monitor, ∃ l, a.labelOf m.label = some l ∧
    l.text = (lastShown conv past m).text ∧ l.color = some (lastShown conv past m).color
  other : ∀ id, (∀ m : Monitor, id ≠ m.label) → a.labelOf id = start.labelOf id
  brightness : a.screen.brightness = brightnessAfter start past

/-- What is so after all that happened. -/
structure PanelAt (conv : Conversion) (start : App) (gpio : GpioStatics) (past : List Happening)
    (p : Signals) : Prop where
  running : p.app.running = true ↔ RunsOn conv start gpio past
  ready : p.app.running = true → PanelReady start p.app
  line : ∀ id, p.gpio.polledLine id = gpio.polledLine id
  shows : p.app.running = true → PanelShows conv start past p.app

section Run

variable {conv : Conversion} {start : App} {gpio : GpioStatics} {past : List Happening}
  {p : Signals} {h : Happening}

theorem runsOn_concat : RunsOn conv start gpio (past ++ [h]) ↔
    RunsOn conv start gpio past ∧ ¬ h.Ends conv start gpio past := by
  constructor
  · intro hruns
    exact ⟨fun before h' hbefore => hruns before h' (hbefore.trans (List.prefix_append past [h])),
      hruns past h List.prefix_rfl⟩
  · rintro ⟨hpast, hlast⟩ before h' hbefore
    rcases List.prefix_concat_iff.1 hbefore with heq | hbefore
    · obtain ⟨rfl, hsame⟩ := List.append_inj' heq rfl
      obtain rfl := List.singleton_inj.1 hsame
      exact hlast
    · exact hpast before h' hbefore

/-- A program that has ended stays as it is. -/
theorem happens_of_not_running (hended : ¬ p.app.running = true) :
    p.happens conv h = p := by
  have hstep : ∀ e, p.app.step e = p.app := by
    intro e
    simp [App.step, App.handle, hended]
  cases h with
  | gauge g file => cases g <;> simp [Signals.happens, App.showGauge, hstep]
  | health content => simp [Signals.happens, hstep]
  | signal sample => simp [Signals.happens, Signals.step, hended]
  | brightnessMonitor => simp [Signals.happens, hstep]
  | lvEvent o event => simp [Signals.happens, hstep]

/-- An iteration that shows something. -/
theorem PanelAt.iteration (hat : PanelAt conv start gpio past p) (hrunning : p.app.running = true)
    {m : Monitor} {reading : m.Reading} {shown : Shown} {a : App} {gpio' : GpioStatics}
    (hstep : p.happens conv h = ⟨a, gpio'⟩) (ha : a = p.app.step (.monitor m reading))
    (hgpio : gpio'.polledLine = p.gpio.polledLine) (hshown : m.shown reading = some shown)
    (hbrought : h.shown conv = some (m, shown)) (hends : ¬ h.Ends conv start gpio past)
    (hpress : h.press start = none) : PanelAt conv start gpio (past ++ [h]) (p.happens conv h) := by
  obtain ⟨hready, hshows⟩ := (hat.ready hrunning).monitor hrunning hshown
  have hpanel := hat.shows hrunning
  rw [← ha] at hready hshows
  rw [hstep]
  refine ⟨?_, fun _ => hready, fun id => ?_, fun _ => ⟨fun m' => ?_, fun id hid => ?_, ?_⟩⟩
  · rw [runsOn_concat]
    exact iff_of_true hshows.running ⟨hat.running.1 hrunning, hends⟩
  · rw [hgpio]
    exact hat.line id
  · rw [lastShown_concat]
    by_cases hm : m' = m
    · subst hm
      rw [shownBy_self hbrought]
      exact hshows.own
    · rw [shownBy_of_ne hbrought hm]
      have hlabel : m'.label ≠ m.label := fun heq => hm (Monitor.label_injective heq)
      show ∃ l, a.labelOf m'.label = some l ∧ _
      rw [hshows.others _ hlabel]
      exact hpanel.label m'
  · exact (hshows.others id (hid m)).trans (hpanel.other id hid)
  · rw [brightnessAfter_concat, hpress]
    show a.screen.brightness = _
    rw [hshows.screen]
    exact hpanel.brightness

/-- What shows nothing. -/
theorem PanelAt.quiet (hat : PanelAt conv start gpio past p) (hrunning : p.app.running = true)
    {a : App} (hstep : p.happens conv h = ⟨a, p.gpio⟩) (hready : PanelReady start a)
    (hruns : a.running = true) (hlabels : ∀ id, a.labelOf id = p.app.labelOf id)
    (hbrightness : a.screen.brightness = brightnessAfter start (past ++ [h]))
    (hnothing : h.shown conv = none) (hends : ¬ h.Ends conv start gpio past) :
    PanelAt conv start gpio (past ++ [h]) (p.happens conv h) := by
  have hpanel := hat.shows hrunning
  rw [hstep]
  refine ⟨?_, fun _ => hready, hat.line, fun _ => ⟨fun m => ?_, fun id hid => ?_, hbrightness⟩⟩
  · rw [runsOn_concat]
    exact iff_of_true hruns ⟨hat.running.1 hrunning, hends⟩
  · rw [lastShown_concat, shownBy_of_none m hnothing]
    show ∃ l, a.labelOf m.label = some l ∧ _
    rw [hlabels]
    exact hpanel.label m
  · exact (hlabels id).trans (hpanel.other id hid)

/-- The end of the program. -/
theorem PanelAt.ends (hat : PanelAt conv start gpio past p)
    (hended : (p.happens conv h).app.running = false)
    (hgpio : (p.happens conv h).gpio = p.gpio) (hends : h.Ends conv start gpio past) :
    PanelAt conv start gpio (past ++ [h]) (p.happens conv h) := by
  have hnot : ¬ (p.happens conv h).app.running = true := by simp [hended]
  refine ⟨?_, fun hrunning => absurd hrunning hnot, fun id => ?_,
    fun hrunning => absurd hrunning hnot⟩
  · rw [runsOn_concat]
    exact iff_of_false hnot fun hruns => hruns.2 hends
  · rw [hgpio]
    exact hat.line id

/-- An iteration of the monitor of a gauge. -/
theorem PanelAt.gauge (hat : PanelAt conv start gpio past p) (hrunning : p.app.running = true)
    (g : Gauge) (file : GaugeFile) :
    PanelAt conv start gpio (past ++ [.gauge g file]) (p.happens conv (.gauge g file)) := by
  obtain ⟨reading, hstep, hmonitor⟩ := showGauge_eq g (g.get conv file) p.app
  have hends := gaugeShown_eq_none_iff conv g file start gpio past
  cases hshown : gaugeShown g (g.get conv file) with
  | none =>
      refine hat.ends ?_ rfl (hends.1 hshown)
      show (p.app.showGauge g (g.get conv file)).running = false
      rw [hstep]
      simp [App.step, App.handle, hrunning, App.monitorIteration, hmonitor, hshown]
  | some shown =>
      refine hat.iteration hrunning rfl hstep rfl (hmonitor.trans hshown) ?_ ?_ rfl
      · simp [Happening.shown, hshown]
      · intro hin
        cases hshown.symm.trans (hends.2 hin)

/-- An iteration of the monitor of a signal. -/
theorem PanelAt.signal (hat : PanelAt conv start gpio past p) (hrunning : p.app.running = true)
    (sample : Sample) :
    PanelAt conv start gpio (past ++ [.signal sample]) (p.happens conv (.signal sample)) := by
  obtain ⟨id, value⟩ := sample
  cases hline : p.gpio.polledLine id with
  | none =>
      have hstep : p.step ⟨id, value⟩ = { p with app := { p.app with running := false } } := by
        simp [Signals.step, hrunning, readSignal_eq, hline]
      refine hat.ends ?_ ?_ ((hat.line id).symm.trans hline)
      · show (p.step ⟨id, value⟩).app.running = false
        rw [hstep]
      · show (p.step ⟨id, value⟩).gpio = p.gpio
        rw [hstep]
  | some l =>
      have hends : ¬ Happening.Ends conv start gpio past (.signal ⟨id, value⟩) := by
        intro hnone
        cases hline.symm.trans ((hat.line id).trans hnone)
      have hstep : p.step ⟨id, value⟩ =
          ⟨p.app.showSignal id (levelOfValue value), p.gpio.using l⟩ :=
        step_of_line hrunning hline
      cases id with
      | inBase => exact hat.iteration hrunning hstep rfl rfl rfl rfl hends rfl
      | charging => exact hat.iteration hrunning hstep rfl rfl rfl rfl hends rfl

theorem PanelAt.happens (hat : PanelAt conv start gpio past p) (h : Happening) :
    PanelAt conv start gpio (past ++ [h]) (p.happens conv h) := by
  by_cases hrunning : p.app.running = true
  · have hready := hat.ready hrunning
    have hpanel := hat.shows hrunning
    cases h with
    | gauge g file => exact hat.gauge hrunning g file
    | health content => exact hat.iteration hrunning (m := .health) rfl rfl rfl rfl rfl id rfl
    | signal sample => exact hat.signal hrunning sample
    | brightnessMonitor =>
        obtain ⟨hquiet, hends⟩ := hready.brightnessMonitor hrunning
        have hnow := hpanel.brightness
        by_cases hsixty : p.app.screen.brightness = 60
        · refine hat.quiet hrunning rfl ?_ ?_ ?_ ?_ rfl (fun hother => hother (hnow ▸ hsixty))
          all_goals rw [hquiet hsixty]
          · exact hready
          · exact hrunning
          · exact fun _ => rfl
          · rw [brightnessAfter_concat]
            exact hnow
        · exact hat.ends (hends hsixty) rfl (fun heq => hsixty (hnow.trans heq))
    | lvEvent o event =>
        obtain ⟨hready', hrunning', hlabels, hbrightness⟩ :=
          hready.lvEvent (o := o) (e := event) hrunning hpanel.brightness
        exact hat.quiet hrunning rfl hready' hrunning' hlabels hbrightness rfl id
  · rw [happens_of_not_running hrunning]
    refine ⟨?_, fun hrunning' => absurd hrunning' hrunning, hat.line,
      fun hrunning' => absurd hrunning' hrunning⟩
    rw [runsOn_concat]
    exact iff_of_false hrunning fun hruns => hrunning (hat.running.2 hruns.1)

end Run

/-- The program after what happened. -/
def panelAfter (conv : Conversion) (width height : Int) (b : Backlight) (gpio : GpioStatics)
    (past : List Happening) : Signals :=
  past.foldl (Signals.happens conv) ⟨.started width height b, gpio⟩

theorem panelAt_panelAfter (conv : Conversion) (width height : Int) (b : Backlight)
    (gpio : GpioStatics) (past : List Happening) :
    PanelAt conv (.started width height b) gpio past
      (panelAfter conv width height b gpio past) := by
  refine foldl_history (I := PanelAt conv (.started width height b) gpio) ?_
    (fun _ _ h hat => hat.happens h) past
  have hrunning : (App.started width height b).running = true := rfl
  refine ⟨iff_of_true hrunning ?_, fun _ => panelReady_started width height b, fun _ => rfl,
    fun _ => ⟨labelOf_started width height b, fun _ _ => rfl, brightnessAfter_nil _⟩⟩
  intro before h hbefore
  simp at hbefore

/-- Whatever happens, in any order: the program runs exactly as long as nothing ends it, and then
the label of each monitor shows what the last iteration of its monitor made of its reading, all
other labels are as the set-up left them, and the brightness is what the buttons have led to. -/
theorem panel_shows_last (conv : Conversion) (width height : Int) (b : Backlight)
    (gpio : GpioStatics) (past : List Happening) :
    ((panelAfter conv width height b gpio past).app.running = true ↔
        RunsOn conv (.started width height b) gpio past) ∧
      (RunsOn conv (.started width height b) gpio past →
        PanelShows conv (.started width height b) past
          (panelAfter conv width height b gpio past).app) := by
  have hat := panelAt_panelAfter conv width height b gpio past
  exact ⟨hat.running, fun hruns => hat.shows (hat.running.2 hruns)⟩

end BatteryInfo.Core
