import BatteryInfo.Gpio.Lines

/-!
# The battery lines

The part of `Battery.cpp` that opens and closes the dock line and the charging line, under
`battery_lock`. A call that would wait for the lock has no result: the lock is not recursive,
and its owner has returned.

`CloseGPIOs` keeps the pointers to the two lines, so that a second call releases lines whose
chip is closed. C does not define that; here it is recorded and changes nothing else.
-/

namespace BatteryInfo.Battery

open Gpiod

/-- The statics of `Battery.cpp` for its two lines, and the bus. -/
structure Statics where
  batteryLock : Bool
  inDockChip : Option Chip
  inDockLine : Option Line
  chargingChip : Option Chip
  chargingLine : Option Line
  bus : Bus
  /-- A line of a closed chip has been released. -/
  misused : Bool

/-- The statics as the program starts with them. -/
def Statics.initial (bus : Bus) : Statics where
  batteryLock := false
  inDockChip := none
  inDockLine := none
  chargingChip := none
  chargingLine := none
  bus := bus
  misused := false

/-- `in_dock_port_name`. -/
def inDockPortName : String := "gpiochip1"

/-- `IN_DOCK_PIN`. -/
def inDockPin : Nat := 5

/-- `charging_port_name`. -/
def chargingPortName : String := "gpiochip5"

/-- `CHARGING_PIN`. -/
def chargingPin : Nat := 15

/-- Whether the three libgpiod calls for one line succeed where nothing else stands against
it. -/
structure PortOutcomes where
  chipOpens : Bool
  lineFound : Bool
  lineRequested : Bool
deriving DecidableEq, Repr

/-- Whether the six libgpiod calls of `InitializeBatteryGPIOs` succeed. -/
structure GpioOutcomes where
  inDock : PortOutcomes
  charging : PortOutcomes
deriving DecidableEq, Repr

/-- A chip is opened and its line requested: whether all succeeds, the two pointers and the bus.
The pointer to the line is written once the chip is open. -/
def openPort (name : String) (pin : Nat) (o : PortOutcomes) (line : Option Line) (b : Bus) :
    Bool × Option Chip × Option Line × Bus :=
  match b.chipOpenByName name o.chipOpens with
  | (none, b) => (false, none, line, b)
  | (some c, b) =>
      let (line, ok, b) := b.takeLine c pin none o.lineFound o.lineRequested
      (ok, some c, line, b)

/-- `InitializeBatteryGPIOs`. -/
def initializeBatteryGPIOs (o : GpioOutcomes) (s : Statics) : Int × Statics :=
  let (ok, inDockChip, inDockLine, bus) :=
    openPort inDockPortName inDockPin o.inDock s.inDockLine s.bus
  let s := { s with inDockChip, inDockLine, bus }
  if ¬ ok then (-1, s)
  else
    let (ok, chargingChip, chargingLine, bus) :=
      openPort chargingPortName chargingPin o.charging s.chargingLine s.bus
    let s := { s with chargingChip, chargingLine, bus }
    if ¬ ok then (-1, s) else (0, s)

/-- `if (line != NULL) gpiod_line_release(line)`, which leaves the pointer. -/
def releaseLine (line : Option Line) (s : Statics) : Statics :=
  match line with
  | none => s
  | some l =>
      { s with
        bus := s.bus.lineRelease l
        misused := s.misused || decide (l.chip ∉ s.bus.opened) }

/-- `CloseGPIOs`. -/
def closeGPIOs (s : Statics) : Statics :=
  let s := releaseLine s.inDockLine s
  let s := match s.inDockChip with
    | none => s
    | some c => { s with inDockChip := none, bus := s.bus.chipClose c }
  let s := releaseLine s.chargingLine s
  match s.chargingChip with
  | none => s
  | some c => { s with chargingChip := none, bus := s.bus.chipClose c }

/-- `Battery_Init`. A failure returns without unlocking. -/
def batteryInit (o : GpioOutcomes) (s : Statics) : Option (Int × Statics) :=
  if s.batteryLock then none
  else
    let (error, s) := initializeBatteryGPIOs o { s with batteryLock := true }
    if error < 0 then some (-1, s) else some (0, { s with batteryLock := false })

/-- `RunBatteryMonitor`, which prints the error of `Battery_Init` and returns `NULL`. -/
def runBatteryMonitor (o : GpioOutcomes) (s : Statics) : Option Statics :=
  (batteryInit o s).map Prod.snd

/-- `RunBatteryMonitorCleanup`. -/
def runBatteryMonitorCleanup (s : Statics) : Option Statics :=
  if s.batteryLock then none
  else some { closeGPIOs { s with batteryLock := true } with batteryLock := false }

/-! ## The chips and the lines -/

/-- The three calls for a line succeed. -/
def PortOutcomes.Work (o : PortOutcomes) : Prop :=
  o.chipOpens ∧ o.lineFound ∧ o.lineRequested

instance (o : PortOutcomes) : Decidable o.Work :=
  inferInstanceAs (Decidable (_ ∧ _))

/-- All six calls succeed. -/
def GpioOutcomes.Work (o : GpioOutcomes) : Prop :=
  o.inDock.Work ∧ o.charging.Work

instance (o : GpioOutcomes) : Decidable o.Work :=
  inferInstanceAs (Decidable (_ ∧ _))

/-- A line is requested exactly if the three calls succeed, which takes a free pin. -/
theorem openPort_cases (name : String) (pin : Nat) (o : PortOutcomes) (line : Option Line)
    (b : Bus) :
    (∃ h : (b.opening name).Grants ⟨⟨b.nextHandle, name⟩, pin⟩, o.Work ∧
      openPort name pin o line b = (true, some ⟨b.nextHandle, name⟩,
        some ⟨⟨b.nextHandle, name⟩, pin⟩, (b.opening name).requesting _ none h)) ∨
    (¬ (o.Work ∧ (name, pin) ∉ b.requested.map Line.pin) ∧
      ∃ left, openPort name pin o line b = (false, left)) := by
  cases hchip : o.chipOpens with
  | false =>
      refine .inr ⟨fun h => by simp [PortOutcomes.Work, hchip] at h, ?_⟩
      simp only [openPort, Bus.chipOpenByName, hchip]
      exact ⟨_, rfl⟩
  | true =>
      let c : Chip := ⟨b.nextHandle, name⟩
      let taken := (b.opening name).takeLine c pin none o.lineFound o.lineRequested
      have hopen : openPort name pin o line b = (taken.2.1, some c, taken.1, taken.2.2) := by
        simp only [openPort, hchip]
        rfl
      rcases Bus.takeLine_cases (b.opening name) c pin none o.lineFound o.lineRequested with
        ⟨hgrants, hfound, hrequested, htake⟩ | ⟨hfails, l, htake⟩
      · rw [hopen, show taken = _ from htake]
        exact .inl ⟨hgrants, ⟨hchip, hfound, hrequested⟩, rfl⟩
      · rw [hopen, show taken = _ from htake]
        exact .inr ⟨fun h => hfails ⟨h.1.2.1, h.1.2.2, Bus.grants_opening h.2⟩, _, rfl⟩

/-- What the three calls do, whichever of them succeed: nothing is closed or released, the chip
is open, and the line is the old one or the one asked for. -/
structure PortEffect (name : String) (pin : Nat) (line : Option Line) (b : Bus)
    (chip' : Option Chip) (line' : Option Line) (b' : Bus) : Prop where
  opened : ∀ c ∈ b.opened, c ∈ b'.opened
  requested : ∀ l ∈ b.requested, l ∈ b'.requested
  chip : ∀ c, chip' = some c → c.name = name ∧ c ∈ b'.opened
  line : ∀ m, line' = some m → line = some m ∨ m.pin = (name, pin)

theorem openPort_effect (name : String) (pin : Nat) (o : PortOutcomes) (line : Option Line)
    (b : Bus) {ok : Bool} {chip' : Option Chip} {line' : Option Line} {b' : Bus}
    (hport : openPort name pin o line b = (ok, chip', line', b')) :
    PortEffect name pin line b chip' line' b' := by
  unfold openPort Bus.chipOpenByName at hport
  cases hchip : o.chipOpens with
  | false =>
      simp only [hchip, Bool.false_eq_true, if_false, Prod.mk.injEq] at hport
      obtain ⟨_, rfl, rfl, rfl⟩ := hport
      exact ⟨fun _ h => h, fun _ h => h, by simp, fun _ h => .inl h⟩
  | true =>
      have hopened : ∀ c ∈ b.opened, c ∈ (b.opening name).opened :=
        fun _ hc => List.mem_cons_of_mem _ hc
      have hnew : (⟨b.nextHandle, name⟩ : Chip) ∈ (b.opening name).opened := List.mem_cons_self
      cases hfound : o.lineFound with
      | false =>
          simp only [hchip, if_true, Bus.takeLine, Bus.chipGetLine, hfound, Bool.false_eq_true,
            if_false, Prod.mk.injEq] at hport
          obtain ⟨_, rfl, rfl, rfl⟩ := hport
          refine ⟨hopened, fun _ h => h, ?_, by simp⟩
          rintro c ⟨rfl⟩
          exact ⟨rfl, hnew⟩
      | true =>
          simp only [hchip, if_true, Bus.takeLine, Bus.chipGetLine, hfound,
            Prod.mk.injEq] at hport
          obtain ⟨_, rfl, rfl, rfl⟩ := hport
          refine ⟨?_, fun l hl => Bus.mem_requested_lineRequest.2 (.inl hl), ?_, ?_⟩
          · simpa using hopened
          · rintro c ⟨rfl⟩
            exact ⟨rfl, by simp⟩
          · rintro m ⟨rfl⟩
            exact .inr rfl

/-- The chip is one of the two that the battery lines are on. -/
def OnPort (c : Chip) : Prop :=
  c.name = inDockPortName ∨ c.name = chargingPortName

/-- Neither of the two pins is requested. -/
def PinsFree (s : Statics) : Prop :=
  (inDockPortName, inDockPin) ∉ s.bus.requested.map Line.pin ∧
    (chargingPortName, chargingPin) ∉ s.bus.requested.map Line.pin

/-- No chip of the battery lines is open and no line of one requested. -/
def NothingOpen (s : Statics) : Prop :=
  (∀ c ∈ s.bus.opened, ¬ OnPort c) ∧ ∀ l ∈ s.bus.requested, ¬ OnPort l.chip

/-- Both chips are open, no other chip of their names is, and both lines are requested. -/
structure LinesOpen (s : Statics) (dock charging : Chip) : Prop where
  inDockChip : s.inDockChip = some dock
  inDockLine : s.inDockLine = some ⟨dock, inDockPin⟩
  inDockName : dock.name = inDockPortName
  inDockRequested : ⟨dock, inDockPin⟩ ∈ s.bus.requested
  chargingChip : s.chargingChip = some charging
  chargingLine : s.chargingLine = some ⟨charging, chargingPin⟩
  chargingRequested : ⟨charging, chargingPin⟩ ∈ s.bus.requested
  only : ∀ c ∈ s.bus.opened, OnPort c → c = dock ∨ c = charging

theorem LinesOpen.not_pinsFree {s : Statics} {dock charging : Chip}
    (h : LinesOpen s dock charging) : ¬ PinsFree s := by
  intro hfree
  refine hfree.1 (List.mem_map.2 ⟨_, h.inDockRequested, ?_⟩)
  rw [Line.pin, h.inDockName]

theorem LinesOpen.of_lock {s : Statics} {dock charging : Chip} (h : LinesOpen s dock charging)
    (locked : Bool) : LinesOpen { s with batteryLock := locked } dock charging :=
  ⟨h.inDockChip, h.inDockLine, h.inDockName, h.inDockRequested, h.chargingChip, h.chargingLine,
    h.chargingRequested, h.only⟩

/-- `InitializeBatteryGPIOs` succeeds exactly if all six calls do, which takes free pins. -/
theorem initializeBatteryGPIOs_cases (o : GpioOutcomes) (s : Statics) :
    (o.Work ∧ PinsFree s ∧ (initializeBatteryGPIOs o s).1 = 0 ∧
      (NothingOpen s → ∃ dock charging,
        LinesOpen (initializeBatteryGPIOs o s).2 dock charging)) ∨
    (¬ (o.Work ∧ PinsFree s) ∧ (initializeBatteryGPIOs o s).1 = -1) := by
  rcases openPort_cases inDockPortName inDockPin o.inDock s.inDockLine s.bus with
    ⟨hgrants, hwork, hport⟩ | ⟨hfails, left, hport⟩
  · let dock : Chip := ⟨s.bus.nextHandle, inDockPortName⟩
    let docked := (s.bus.opening inDockPortName).requesting ⟨dock, inDockPin⟩ none hgrants
    let charging : Chip := ⟨docked.nextHandle, chargingPortName⟩
    rcases openPort_cases chargingPortName chargingPin o.charging s.chargingLine docked with
      ⟨hgrants', hwork', hport'⟩ | ⟨hfails, left, hport'⟩
    · have hinit : initializeBatteryGPIOs o s = (0, { s with
          inDockChip := some dock
          inDockLine := some ⟨dock, inDockPin⟩
          chargingChip := some charging
          chargingLine := some ⟨charging, chargingPin⟩
          bus := (docked.opening chargingPortName).requesting _ none hgrants' }) := by
        simp only [initializeBatteryGPIOs, hport, not_true_eq_false, if_false]
        rw [hport']
        rfl
      rw [hinit]
      refine .inl ⟨⟨hwork, hwork'⟩, ⟨hgrants.2, fun hmem => ?_⟩, rfl,
        fun hnothing => ⟨dock, charging, ?_⟩⟩
      · exact hgrants'.2 (List.mem_cons_of_mem _ hmem)
      · refine ⟨rfl, rfl, rfl, ?_, rfl, rfl, by simp [charging], ?_⟩
        · exact List.mem_cons_of_mem _ List.mem_cons_self
        · intro c hc hport
          simp only [Bus.opened_requesting, Bus.opened_opening, docked, List.mem_cons] at hc
          rcases hc with rfl | rfl | hc
          · exact .inr rfl
          · exact .inl rfl
          · exact absurd hport (hnothing.1 c hc)
    · refine .inr ⟨fun h => hfails ⟨h.1.2, ?_⟩, ?_⟩
      · intro hmem
        rcases List.mem_cons.1 hmem with hpin | hmem
        · have hsame : chargingPin = inDockPin := congrArg Prod.snd hpin
          exact absurd hsame (by decide)
        · exact h.2.2 hmem
      · simp only [initializeBatteryGPIOs, hport, not_true_eq_false, if_false]
        rw [hport']
        rfl
  · refine .inr ⟨fun h => hfails ⟨h.1.1, h.2.1⟩, ?_⟩
    simp [initializeBatteryGPIOs, hport]

/-- What `InitializeBatteryGPIOs` does, whichever of its calls succeed. -/
structure InitEffect (s s' : Statics) : Prop where
  requested : ∀ l ∈ s.bus.requested, l ∈ s'.bus.requested
  inDockChip : ∀ c, s'.inDockChip = some c → c.name = inDockPortName ∧ c ∈ s'.bus.opened
  inDockLine : ∀ m, s'.inDockLine = some m →
    s.inDockLine = some m ∨ m.pin = (inDockPortName, inDockPin)
  chargingLine : ∀ m, s'.chargingLine = some m →
    s.chargingLine = some m ∨ m.pin = (chargingPortName, chargingPin)

theorem initializeBatteryGPIOs_effect (o : GpioOutcomes) (s : Statics) :
    InitEffect s (initializeBatteryGPIOs o s).2 := by
  unfold initializeBatteryGPIOs
  rcases hdock : openPort inDockPortName inDockPin o.inDock s.inDockLine s.bus with
    ⟨ok, dock, dockLine, bus⟩
  have hfirst := openPort_effect _ _ _ _ _ hdock
  cases ok with
  | false => exact ⟨hfirst.requested, hfirst.chip, hfirst.line, fun _ h => .inl h⟩
  | true =>
      rcases hcharging : openPort chargingPortName chargingPin o.charging s.chargingLine bus with
        ⟨ok, charging, chargingLine, bus'⟩
      have hsecond := openPort_effect _ _ _ _ _ hcharging
      have heffect : InitEffect s { s with
          inDockChip := dock
          inDockLine := dockLine
          chargingChip := charging
          chargingLine
          bus := bus' } := by
        refine ⟨fun l hl => hsecond.requested l (hfirst.requested l hl), fun c hc => ?_,
          hfirst.line, hsecond.line⟩
        have hchip := hfirst.chip c hc
        exact ⟨hchip.1, hsecond.opened c hchip.2⟩
      simp only [hcharging, not_true_eq_false, if_false]
      cases ok with
      | false => exact heffect
      | true => exact heffect

/-- Only `Battery_Init` and `RunBatteryMonitorCleanup` themselves use the lock. -/
theorem initializeBatteryGPIOs_batteryLock (o : GpioOutcomes) (s : Statics) :
    (initializeBatteryGPIOs o s).2.batteryLock = s.batteryLock := by
  unfold initializeBatteryGPIOs
  dsimp only
  split
  · rfl
  · split <;> rfl

section ReleaseLine

variable (line : Option Line) (s : Statics)

@[simp] theorem inDockChip_releaseLine : (releaseLine line s).inDockChip = s.inDockChip := by
  cases line <;> rfl

@[simp] theorem chargingChip_releaseLine :
    (releaseLine line s).chargingChip = s.chargingChip := by
  cases line <;> rfl

@[simp] theorem inDockLine_releaseLine : (releaseLine line s).inDockLine = s.inDockLine := by
  cases line <;> rfl

@[simp] theorem chargingLine_releaseLine :
    (releaseLine line s).chargingLine = s.chargingLine := by
  cases line <;> rfl

@[simp] theorem opened_releaseLine : (releaseLine line s).bus.opened = s.bus.opened := by
  cases line <;> rfl

end ReleaseLine

section CloseGPIOs

variable (s : Statics)

@[simp] theorem inDockChip_closeGPIOs : (closeGPIOs s).inDockChip = none := by
  cases hdock : s.inDockChip <;> cases hcharging : s.chargingChip <;>
    simp [closeGPIOs, hdock, hcharging]

@[simp] theorem inDockLine_closeGPIOs : (closeGPIOs s).inDockLine = s.inDockLine := by
  cases hdock : s.inDockChip <;> cases hcharging : s.chargingChip <;>
    simp [closeGPIOs, hdock, hcharging]

@[simp] theorem chargingLine_closeGPIOs : (closeGPIOs s).chargingLine = s.chargingLine := by
  cases hdock : s.inDockChip <;> cases hcharging : s.chargingChip <;>
    simp [closeGPIOs, hdock, hcharging]

/-- The chip of the dock line does not stay open. -/
theorem not_mem_opened_closeGPIOs {c : Chip} (hdock : s.inDockChip = some c) :
    c ∉ (closeGPIOs s).bus.opened := by
  cases hcharging : s.chargingChip <;> simp [closeGPIOs, hdock, hcharging]

end CloseGPIOs

theorem nothingOpen_of_opened {s : Statics} (h : ∀ c ∈ s.bus.opened, ¬ OnPort c) :
    NothingOpen s :=
  ⟨h, fun l hl => h _ (s.bus.live l hl)⟩

/-- `CloseGPIOs` closes whatever is open. -/
theorem LinesOpen.closeGPIOs {s : Statics} {dock charging : Chip} (h : LinesOpen s dock charging) :
    NothingOpen (closeGPIOs s) ∧ (closeGPIOs s).inDockChip = none ∧
      (closeGPIOs s).chargingChip = none := by
  refine ⟨nothingOpen_of_opened fun c hc hport => ?_, ?_, ?_⟩
  · simp only [Battery.closeGPIOs, inDockChip_releaseLine, h.inDockChip, chargingChip_releaseLine,
      h.chargingChip, Bus.mem_opened_chipClose, opened_releaseLine] at hc
    rcases h.only c hc.1.1 hport with rfl | rfl
    · exact hc.1.2 rfl
    · exact hc.2 rfl
  · simp [Battery.closeGPIOs, h.inDockChip, h.chargingChip]
  · simp [Battery.closeGPIOs, h.inDockChip, h.chargingChip]

/-- With nothing open, `CloseGPIOs` leaves nothing open. -/
theorem NothingOpen.closeGPIOs {s : Statics} (h : NothingOpen s) (hdock : s.inDockChip = none)
    (hcharging : s.chargingChip = none) :
    NothingOpen (closeGPIOs s) ∧ (closeGPIOs s).inDockChip = none ∧
      (closeGPIOs s).chargingChip = none := by
  refine ⟨nothingOpen_of_opened fun c hc => h.1 c ?_, ?_, ?_⟩
  · simpa [Battery.closeGPIOs, hdock, hcharging] using hc
  · simp [Battery.closeGPIOs, hdock, hcharging]
  · simp [Battery.closeGPIOs, hdock, hcharging]

end BatteryInfo.Battery
