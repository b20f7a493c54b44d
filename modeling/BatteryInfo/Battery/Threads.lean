import BatteryInfo.Concurrent.Interleaving
import BatteryInfo.Battery.SamePins

/-!
# Threads that use the battery lines

The functions of `Battery.cpp` that touch the lines, called by any number of threads in any
order. One step is one access to a static that other threads may be at, one libgpiod call with
the store of its result, or an operation on `battery_lock`. A libgpiod call with a `NULL`
argument ends the program, and so has no step. Alone, a thread does what the functions of the
modules before do (`init_run` and the lemmas after it).
-/

namespace BatteryInfo.Battery

open Gpiod Concurrent

namespace GpioStatics

/-- `in_dock_chip` and `charging_chip`. -/
def chip (s : GpioStatics) : LineId → Option Chip
  | .inBase => s.inDockChip
  | .charging => s.chargingChip

/-- A store to `in_dock_chip` or `charging_chip`. -/
def setChip (id : LineId) (c : Option Chip) (s : GpioStatics) : GpioStatics :=
  match id with
  | .inBase => { s with inDockChip := c }
  | .charging => { s with chargingChip := c }

/-- A store to `in_dock_line` or `charging_line`. -/
def setPolledLine (id : LineId) (l : Option Line) (s : GpioStatics) : GpioStatics :=
  match id with
  | .inBase => { s with inDockLine := l }
  | .charging => { s with chargingLine := l }

/-- A store to `power_lines[id].line`. -/
def setPowerLine (id : LineId) (l : Option Line) (s : GpioStatics) : GpioStatics :=
  { s with powerLine := Function.update s.powerLine id l }

/-- The chip of a signal is opened. -/
def openChip (id : LineId) (s : GpioStatics) : GpioStatics :=
  setChip id (some ⟨s.bus.nextHandle, id.portName⟩) { s with bus := s.bus.opening id.portName }

/-- `gpiod_line_request_falling_edge_events`, and whether it succeeds. -/
def requestLine (l : Line) (ok : Bool) (s : GpioStatics) : Bool × GpioStatics :=
  let (granted, bus) := s.bus.lineRequest l none ok
  (granted, { s.using l with bus })

/-- `gpiod_line_release`. -/
def release (l : Line) (s : GpioStatics) : GpioStatics :=
  { s.using l with bus := s.bus.lineRelease l }

/-- `if (line != NULL) gpiod_line_release(line)` for `in_dock_line` or `charging_line`. -/
def releasePolled (id : LineId) (s : GpioStatics) : GpioStatics :=
  match s.polledLine id with
  | none => s
  | some l => s.release l

/-- `gpiod_chip_close`. -/
def closeChip (c : Chip) (s : GpioStatics) : GpioStatics :=
  { s with bus := s.bus.chipClose c }

section Stores

variable (s : GpioStatics) (id : LineId)

@[simp] theorem chip_setChip (c : Option Chip) :
    (s.setChip id c).chip = Function.update s.chip id c := by
  funext i
  cases id <;> cases i <;> rfl

@[simp] theorem polledLine_setChip (c : Option Chip) :
    (s.setChip id c).polledLine = s.polledLine := by
  funext i
  cases id <;> cases i <;> rfl

@[simp] theorem bus_setChip (c : Option Chip) : (s.setChip id c).bus = s.bus := by
  cases id <;> rfl

@[simp] theorem powerLine_setChip (c : Option Chip) :
    (s.setChip id c).powerLine = s.powerLine := by
  cases id <;> rfl

@[simp] theorem misused_setChip (c : Option Chip) : (s.setChip id c).misused = s.misused := by
  cases id <;> rfl

@[simp] theorem batteryLock_setChip (c : Option Chip) :
    (s.setChip id c).batteryLock = s.batteryLock := by
  cases id <;> rfl

@[simp] theorem chip_setPolledLine (l : Option Line) :
    (s.setPolledLine id l).chip = s.chip := by
  funext i
  cases id <;> cases i <;> rfl

@[simp] theorem polledLine_setPolledLine (l : Option Line) :
    (s.setPolledLine id l).polledLine = Function.update s.polledLine id l := by
  funext i
  cases id <;> cases i <;> rfl

@[simp] theorem bus_setPolledLine (l : Option Line) : (s.setPolledLine id l).bus = s.bus := by
  cases id <;> rfl

@[simp] theorem powerLine_setPolledLine (l : Option Line) :
    (s.setPolledLine id l).powerLine = s.powerLine := by
  cases id <;> rfl

@[simp] theorem misused_setPolledLine (l : Option Line) :
    (s.setPolledLine id l).misused = s.misused := by
  cases id <;> rfl

@[simp] theorem batteryLock_setPolledLine (l : Option Line) :
    (s.setPolledLine id l).batteryLock = s.batteryLock := by
  cases id <;> rfl

@[simp] theorem chip_openChip : (s.openChip id).chip =
    Function.update s.chip id (some ⟨s.bus.nextHandle, id.portName⟩) := by
  funext i
  cases id <;> cases i <;> rfl

@[simp] theorem polledLine_openChip : (s.openChip id).polledLine = s.polledLine := by
  funext i
  cases id <;> cases i <;> rfl

@[simp] theorem bus_openChip : (s.openChip id).bus = s.bus.opening id.portName := by
  cases id <;> rfl

@[simp] theorem powerLine_openChip : (s.openChip id).powerLine = s.powerLine := by
  cases id <;> rfl

@[simp] theorem misused_openChip : (s.openChip id).misused = s.misused := by
  cases id <;> rfl

@[simp] theorem batteryLock_openChip : (s.openChip id).batteryLock = s.batteryLock := by
  cases id <;> rfl

end Stores

section Calls

variable {s : GpioStatics} {l : Line} {ok : Bool}

/-- Using a line of an open chip changes nothing. -/
theorem using_eq (hopen : l.chip ∈ s.bus.opened) : s.using l = s := by
  unfold GpioStatics.using
  rw [decide_eq_false (not_not_intro hopen), Bool.or_false]

theorem misused_requestLine (hopen : l.chip ∈ s.bus.opened) :
    (s.requestLine l ok).2.misused = s.misused := by
  show (s.using l).misused = s.misused
  rw [using_eq hopen]

theorem misused_release (hopen : l.chip ∈ s.bus.opened) : (s.release l).misused = s.misused := by
  show (s.using l).misused = s.misused
  rw [using_eq hopen]

@[simp] theorem opened_requestLine : (s.requestLine l ok).2.bus.opened = s.bus.opened :=
  Bus.opened_lineRequest

end Calls

end GpioStatics

/-- The statics, and the thread that holds `battery_lock`. -/
structure Shared extends GpioStatics where
  owner : Option Nat

namespace Shared

/-- A step that leaves the lock alone. -/
def update (f : GpioStatics → GpioStatics) (sh : Shared) : Shared :=
  { sh with toGpioStatics := f sh.toGpioStatics }

/-- Thread `t` takes the lock. -/
def acquire (t : Nat) (sh : Shared) : Shared :=
  { sh with batteryLock := true, owner := some t }

/-- The lock is given back. -/
def giveBack (sh : Shared) : Shared :=
  { sh with batteryLock := false, owner := none }

end Shared

/-- The places of a thread: outside, or before a step of a function. -/
inductive Pc where
  | idle
  | initLock
  | initOpen (id : LineId)
  | initGetLine (id : LineId)
  | initRequest (id : LineId)
  | initUnlock
  | cleanupLock
  | cleanupRelease (id : LineId)
  | cleanupClose (id : LineId)
  | cleanupClear (id : LineId)
  | cleanupUnlock
  | openCheck (id : LineId)
  | openLoadChip (id : LineId)
  | openGetLine (id : LineId) (c : Chip)
  | openLoadLine (id : LineId)
  | openRequest (l : Line)
  | closeCheck (id : LineId)
  | closeLoad (id : LineId)
  | closeRelease (id : LineId) (l : Line)
  | closeStore (id : LineId)
  | readCheck (id : LineId)
  | readLoad (id : LineId)
  | readValue (l : Line)
  | pollLoad (id : LineId)
  | pollValue (l : Line)

/-- The place in `Battery_Init` after the part for a signal. -/
def initNext : LineId → Pc
  | .inBase => .initOpen .charging
  | .charging => .initUnlock

/-- The place in `RunBatteryMonitorCleanup` after the part for a signal. -/
def cleanupNext : LineId → Pc
  | .inBase => .cleanupRelease .charging
  | .charging => .cleanupUnlock

/-- The place at which `ReadGPIO` goes on. -/
def readPc (gpio : UInt32) : Pc :=
  if gpio = LineId.inBase.gpio then .readCheck .inBase
  else if gpio = LineId.charging.gpio then .readCheck .charging
  else .idle

/-- A step of thread `t`. -/
inductive Step (t : Nat) : Shared → Pc → Shared → Pc → Prop where
  | callInit {sh} : Step t sh .idle sh .initLock
  | initLock {sh} : sh.batteryLock = false →
      Step t sh .initLock (sh.acquire t) (.initOpen .inBase)
  | initOpened {sh id} : Step t sh (.initOpen id) (sh.update (.openChip id)) (.initGetLine id)
  -- a failure of any of the six calls returns with the lock held
  | initNotOpened {sh id} : Step t sh (.initOpen id) (sh.update (.setChip id none)) .idle
  | initFound {sh id c} : sh.chip id = some c →
      Step t sh (.initGetLine id) (sh.update (.setPolledLine id (some ⟨c, id.pin⟩)))
        (.initRequest id)
  | initNotFound {sh id c} : sh.chip id = some c →
      Step t sh (.initGetLine id) (sh.update (.setPolledLine id none)) .idle
  | initRequested {sh id l ok s} : sh.polledLine id = some l →
      sh.requestLine l ok = (true, s) →
      Step t sh (.initRequest id) (sh.update fun _ => s) (initNext id)
  | initNotRequested {sh id l ok s} : sh.polledLine id = some l →
      sh.requestLine l ok = (false, s) →
      Step t sh (.initRequest id) (sh.update fun _ => s) .idle
  | initUnlock {sh} : Step t sh .initUnlock sh.giveBack .idle
  | callCleanup {sh} : Step t sh .idle sh .cleanupLock
  | cleanupLock {sh} : sh.batteryLock = false →
      Step t sh .cleanupLock (sh.acquire t) (.cleanupRelease .inBase)
  | cleanupRelease {sh id} :
      Step t sh (.cleanupRelease id) (sh.update (.releasePolled id)) (.cleanupClose id)
  | cleanupNoChip {sh id} : sh.chip id = none →
      Step t sh (.cleanupClose id) sh (cleanupNext id)
  | cleanupClose {sh id c} : sh.chip id = some c →
      Step t sh (.cleanupClose id) (sh.update (.closeChip c)) (.cleanupClear id)
  | cleanupClear {sh id} :
      Step t sh (.cleanupClear id) (sh.update (.setChip id none)) (cleanupNext id)
  | cleanupUnlock {sh} : Step t sh .cleanupUnlock sh.giveBack .idle
  | callOpen {sh} (id) : Step t sh .idle sh (.openCheck id)
  | openNull {sh id} : sh.powerLine id = none → Step t sh (.openCheck id) sh (.openLoadChip id)
  | openSet {sh id l} : sh.powerLine id = some l → Step t sh (.openCheck id) sh (.openLoadLine id)
  | openLoadChip {sh id c} : sh.inDockChip = some c →
      Step t sh (.openLoadChip id) sh (.openGetLine id c)
  | openFound {sh id c} :
      Step t sh (.openGetLine id c) (sh.update (.setPowerLine id (some ⟨c, id.pin⟩)))
        (.openLoadLine id)
  | openNotFound {sh id c} :
      Step t sh (.openGetLine id c) (sh.update (.setPowerLine id none)) .idle
  | openLoadLine {sh id l} : sh.powerLine id = some l →
      Step t sh (.openLoadLine id) sh (.openRequest l)
  | openRequest {sh l ok} :
      Step t sh (.openRequest l) (sh.update fun s => (s.requestLine l ok).2) .idle
  | callClose {sh} (id) : Step t sh .idle sh (.closeCheck id)
  | closeNull {sh id} : sh.powerLine id = none → Step t sh (.closeCheck id) sh .idle
  | closeSet {sh id l} : sh.powerLine id = some l → Step t sh (.closeCheck id) sh (.closeLoad id)
  | closeLoad {sh id l} : sh.powerLine id = some l →
      Step t sh (.closeLoad id) sh (.closeRelease id l)
  | closeRelease {sh id l} :
      Step t sh (.closeRelease id l) (sh.update (.release l)) (.closeStore id)
  | closeStore {sh id} : Step t sh (.closeStore id) (sh.update (.setPowerLine id none)) .idle
  | callRead {sh} (gpio) : Step t sh .idle sh (readPc gpio)
  | readNull {sh id} : sh.powerLine id = none → Step t sh (.readCheck id) sh .idle
  | readSet {sh id l} : sh.powerLine id = some l → Step t sh (.readCheck id) sh (.readLoad id)
  | readLoad {sh id l} : sh.powerLine id = some l → Step t sh (.readLoad id) sh (.readValue l)
  | readValue {sh l} : Step t sh (.readValue l) (sh.update (.using · l)) .idle
  -- `IsMeterInDock` and `IsBatteryCharging`
  | callPoll {sh} (id) : Step t sh .idle sh (.pollLoad id)
  | pollLoad {sh id l} : sh.polledLine id = some l → Step t sh (.pollLoad id) sh (.pollValue l)
  | pollValue {sh l} : Step t sh (.pollValue l) (sh.update (.using · l)) .idle

/-- The private state of each thread. -/
@[reducible] def Local (_ : Nat) : Type :=
  Pc

/-- The threads. -/
def threads : System Shared Local where
  Step := Step

/-- The start of the program. -/
def started (bus : Bus) : Config Shared Local where
  shared := ⟨.initial bus, none⟩
  locals := fun _ => .idle

/-! ## Calls that nobody disturbs -/

/-- The chip, the line and the bus as the calls for a signal leave them. -/
def GpioStatics.setPort (id : LineId) (c : Option Chip) (l : Option Line) (bus : Bus)
    (s : GpioStatics) : GpioStatics :=
  { (s.setChip id c).setPolledLine id l with bus }

/-- The part of `CloseGPIOs` for a signal. -/
def GpioStatics.closePort (id : LineId) (s : GpioStatics) : GpioStatics :=
  let s := s.releasePolled id
  match s.chip id with
  | none => s
  | some c => (s.closeChip c).setChip id none

section Undisturbed

variable {t : Nat} {s s' : GpioStatics} {owner : Option Nat} {ok : Pc → Pc → Prop}

/-- The part of `InitializeBatteryGPIOs` for a signal is `openPort`. -/
theorem port_run (hok : ∀ pc pc', (∀ id, pc ≠ .cleanupClose id) → ok pc pc') (id : LineId)
    {o : PortOutcomes} {granted : Bool} {c : Option Chip} {l : Option Line} {bus : Bus}
    (hport : openPort id.portName id.pin o (s.polledLine id) s.bus = (granted, c, l, bus)) :
    ThreadRun (Step t) ok ⟨s, owner⟩ (.initOpen id) ⟨s.setPort id c l bus, owner⟩
      (if granted then initNext id else .idle) := by
  unfold openPort Bus.chipOpenByName at hport
  cases hchip : o.chipOpens with
  | false =>
      simp only [hchip, Bool.false_eq_true, if_false, Prod.mk.injEq] at hport
      obtain ⟨rfl, rfl, rfl, rfl⟩ := hport
      have hleft : s.setPort id none (s.polledLine id) s.bus = s.setChip id none := by
        cases id <;> rfl
      rw [hleft]
      exact .head .initNotOpened (hok _ _ (by simp)) (.refl _ _)
  | true =>
      let chip : Chip := ⟨s.bus.nextHandle, id.portName⟩
      have hopened : (s.openChip id).chip id = some chip := by simp [chip]
      cases hfound : o.lineFound with
      | false =>
          simp only [hchip, if_true, Bus.takeLine, Bus.chipGetLine, hfound, Bool.false_eq_true,
            if_false, Prod.mk.injEq] at hport
          obtain ⟨rfl, rfl, rfl, rfl⟩ := hport
          have hleft : s.setPort id (some chip) none (s.bus.opening id.portName) =
              (s.openChip id).setPolledLine id none := by
            cases id <;> rfl
          rw [hleft]
          exact .head .initOpened (hok _ _ (by simp)) <|
            .head (.initNotFound hopened) (hok _ _ (by simp)) (.refl _ _)
      | true =>
          simp only [hchip, if_true, Bus.takeLine, Bus.chipGetLine, hfound,
            Prod.mk.injEq] at hport
          obtain ⟨hgranted, rfl, rfl, hbus⟩ := hport
          let found := (s.openChip id).setPolledLine id (some ⟨chip, id.pin⟩)
          have hrequest : found.requestLine ⟨chip, id.pin⟩ o.lineRequested =
              (granted, s.setPort id (some chip) (some ⟨chip, id.pin⟩) bus) := by
            have hlive : chip ∈ found.bus.opened := by simp [found, chip]
            unfold GpioStatics.requestLine
            rw [GpioStatics.using_eq hlive]
            rw [← hgranted, ← hbus]
            cases id <;> rfl
          have hline : found.polledLine id = some ⟨chip, id.pin⟩ := by simp [found]
          refine .head .initOpened (hok _ _ (by simp)) <|
            .head (.initFound hopened) (hok _ _ (by simp)) ?_
          cases granted with
          | false => exact .head (.initNotRequested hline hrequest) (hok _ _ (by simp)) (.refl _ _)
          | true => exact .head (.initRequested hline hrequest) (hok _ _ (by simp)) (.refl _ _)

/-- `Battery_Init`. -/
theorem init_run (hok : ∀ pc pc', (∀ id, pc ≠ .cleanupClose id) → ok pc pc') {o : GpioOutcomes}
    {error : Int} (hinit : s.batteryInit o = some (error, s')) :
    ∃ owner', ThreadRun (Step t) ok ⟨s, owner⟩ .idle ⟨s', owner'⟩ .idle := by
  cases hlock : s.batteryLock with
  | true => simp [GpioStatics.batteryInit, batteryInit, hlock] at hinit
  | false =>
      let locked : GpioStatics := { s with batteryLock := true }
      rcases hdock : openPort inDockPortName inDockPin o.inDock s.inDockLine s.bus with
        ⟨granted, c, l, bus⟩
      have hfirst : ThreadRun (Step t) ok ⟨s, owner⟩ .idle
          ⟨locked.setPort .inBase c l bus, some t⟩
          (if granted then .initOpen .charging else .idle) :=
        .head .callInit (hok _ _ (by simp)) <| .head (.initLock hlock) (hok _ _ (by simp)) <|
          port_run (s := locked) hok .inBase hdock
      cases granted with
      | false =>
          refine ⟨some t, ?_⟩
          have hleft : s' = locked.setPort .inBase c l bus := by
            simp [GpioStatics.batteryInit, batteryInit, initializeBatteryGPIOs, hlock,
              hdock] at hinit
            rw [← hinit.2]
            rfl
          rw [hleft]
          exact hfirst
      | true =>
          let docked := locked.setPort .inBase c l bus
          rcases hcharging :
            openPort chargingPortName chargingPin o.charging s.chargingLine bus with
            ⟨granted, c', l', bus'⟩
          have hsecond : ThreadRun (Step t) ok ⟨docked, some t⟩ (.initOpen .charging)
              ⟨docked.setPort .charging c' l' bus', some t⟩
              (if granted then .initUnlock else .idle) :=
            port_run (s := docked) hok .charging hcharging
          cases granted with
          | false =>
              refine ⟨some t, ?_⟩
              have hleft : s' = docked.setPort .charging c' l' bus' := by
                simp [GpioStatics.batteryInit, batteryInit, initializeBatteryGPIOs, hlock, hdock,
                  hcharging] at hinit
                rw [← hinit.2]
                rfl
              rw [hleft]
              exact hfirst.trans hsecond
          | true =>
              refine ⟨none, ?_⟩
              have hleft : s' =
                  { docked.setPort .charging c' l' bus' with batteryLock := false } := by
                simp [GpioStatics.batteryInit, batteryInit, initializeBatteryGPIOs, hlock, hdock,
                  hcharging] at hinit
                rw [← hinit.2]
                rfl
              rw [hleft]
              exact (hfirst.trans hsecond).trans (.head .initUnlock (hok _ _ (by simp)) (.refl _ _))

theorem closePort_run (id : LineId) :
    ThreadRun (Step t) (fun _ _ => True) ⟨s, owner⟩ (.cleanupRelease id) ⟨s.closePort id, owner⟩
      (cleanupNext id) := by
  refine .head .cleanupRelease trivial ?_
  cases hchip : (s.releasePolled id).chip id with
  | none =>
      have hleft : s.closePort id = s.releasePolled id := by
        simp [GpioStatics.closePort, hchip]
      rw [hleft]
      exact .head (.cleanupNoChip hchip) trivial (.refl _ _)
  | some c =>
      have hleft : s.closePort id = ((s.releasePolled id).closeChip c).setChip id none := by
        simp [GpioStatics.closePort, hchip]
      rw [hleft]
      exact .head (.cleanupClose hchip) trivial <| .head .cleanupClear trivial (.refl _ _)

/-- `CloseGPIOs` is its part for the one signal and then that for the other. -/
theorem closePort_closePort (s : GpioStatics) :
    (s.closePort .inBase).closePort .charging = { s with toStatics := closeGPIOs s.toStatics } := by
  obtain ⟨⟨lock, dock, dockLine, charging, chargingLine, bus, misused⟩, powerLine⟩ := s
  cases dock <;> cases dockLine <;> cases charging <;> cases chargingLine <;> rfl

/-- `RunBatteryMonitorCleanup`. -/
theorem cleanup_run (hcleanup : s.cleanup = some s') :
    ∃ owner', ThreadRun (Step t) (fun _ _ => True) ⟨s, owner⟩ .idle ⟨s', owner'⟩ .idle := by
  cases hlock : s.batteryLock with
  | true => simp [GpioStatics.cleanup, runBatteryMonitorCleanup, hlock] at hcleanup
  | false =>
      let locked : GpioStatics := { s with batteryLock := true }
      have hleft : s' = { (locked.closePort .inBase).closePort .charging with
          batteryLock := false } := by
        rw [GpioStatics.cleanup, runBatteryMonitorCleanup, if_neg (by simp [hlock])] at hcleanup
        rw [closePort_closePort]
        exact (Option.some.inj hcleanup).symm
      rw [hleft]
      exact ⟨none, .head .callCleanup trivial <| .head (.cleanupLock hlock) trivial <|
        ((closePort_run .inBase).trans (closePort_run .charging)).trans <|
        .head .cleanupUnlock trivial (.refl _ _)⟩

/-- `OpenGPIO`. -/
theorem openGpio_run {id : LineId} {o : OpenOutcomes} {error : Int}
    (hopen : openGpio id o s = some (error, s')) :
    ThreadRun (Step t) (fun _ _ => True) ⟨s, owner⟩ .idle ⟨s', owner⟩ .idle := by
  have hrequest : ∀ (l : Line) (s : GpioStatics),
      (requestPowerLine l o.lineRequested s).2 = (s.requestLine l o.lineRequested).2 :=
    fun _ _ => rfl
  refine .head (.callOpen id) trivial ?_
  unfold openGpio at hopen
  cases hline : s.powerLine id with
  | some l =>
      have hleft : s' = (s.requestLine l o.lineRequested).2 := by
        simp only [hline, Option.some.injEq] at hopen
        rw [← hrequest, hopen]
      rw [hleft]
      exact .head (.openSet hline) trivial <| .head (.openLoadLine hline) trivial <|
        .head .openRequest trivial (.refl _ _)
  | none =>
      cases hchip : s.inDockChip with
      | none => simp [hline, hchip] at hopen
      | some c =>
          refine .head (.openNull hline) trivial <| .head (.openLoadChip hchip) trivial ?_
          cases hfound : o.lineFound with
          | false =>
              have hleft : s' = s.setPowerLine id none := by
                simp [hline, hchip, Bus.chipGetLine, hfound] at hopen
                exact hopen.2.symm
              rw [hleft]
              exact .head .openNotFound trivial (.refl _ _)
          | true =>
              let found := s.setPowerLine id (some ⟨c, id.pin⟩)
              have hleft : s' = (found.requestLine ⟨c, id.pin⟩ o.lineRequested).2 := by
                simp [hline, hchip, Bus.chipGetLine, hfound] at hopen
                rw [← hrequest]
                exact (congrArg Prod.snd hopen).symm
              have hset : found.powerLine id = some ⟨c, id.pin⟩ := Function.update_self ..
              rw [hleft]
              exact .head .openFound trivial <| .head (.openLoadLine hset) trivial <|
                .head .openRequest trivial (.refl _ _)

/-- `CloseGPIO`. -/
theorem closeGpio_run (id : LineId) :
    ThreadRun (Step t) (fun _ _ => True) ⟨s, owner⟩ .idle ⟨closeGpio id s, owner⟩ .idle := by
  refine .head (.callClose id) trivial ?_
  unfold closeGpio
  cases hline : s.powerLine id with
  | none => exact .head (.closeNull hline) trivial (.refl _ _)
  | some l =>
      exact .head (.closeSet hline) trivial <| .head (.closeLoad hline) trivial <|
        .head .closeRelease trivial <| .head .closeStore trivial (.refl _ _)

/-- `GetGPIOLineValue`. -/
theorem getGPIOLineValue_run (id : LineId) (value : Int) :
    ThreadRun (Step t) (fun _ _ => True) ⟨s, owner⟩ (.readCheck id)
      ⟨(getGPIOLineValue id value s).2, owner⟩ .idle := by
  unfold getGPIOLineValue
  cases hline : s.powerLine id with
  | none => exact .head (.readNull hline) trivial (.refl _ _)
  | some l =>
      exact .head (.readSet hline) trivial <| .head (.readLoad hline) trivial <|
        .head .readValue trivial (.refl _ _)

/-- `ReadGPIO`. -/
theorem readGpio_run (gpio : UInt32) (value : Int) :
    ThreadRun (Step t) (fun _ _ => True) ⟨s, owner⟩ .idle ⟨(readGpio gpio value s).2, owner⟩
      .idle := by
  refine .head (.callRead gpio) trivial ?_
  unfold readPc readGpio
  split
  · exact getGPIOLineValue_run .inBase value
  · split
    · exact getGPIOLineValue_run .charging value
    · exact .refl _ _

theorem poll_run {id : LineId} {l : Line} (hline : s.polledLine id = some l) :
    ThreadRun (Step t) (fun _ _ => True) ⟨s, owner⟩ .idle ⟨s.using l, owner⟩ .idle :=
  .head (.callPoll id) trivial <| .head (.pollLoad hline) trivial <|
    .head .pollValue trivial (.refl _ _)

/-- `IsMeterInDock`. -/
theorem isMeterInDock_run {value level : Int} (hread : isMeterInDock value s = some (level, s')) :
    ThreadRun (Step t) (fun _ _ => True) ⟨s, owner⟩ .idle ⟨s', owner⟩ .idle := by
  unfold isMeterInDock at hread
  obtain ⟨l, hline, hread⟩ := Option.bind_eq_some_iff.1 hread
  obtain ⟨-, rfl⟩ := Prod.mk.inj (Option.some.inj hread)
  exact poll_run (show s.polledLine .inBase = some l from hline)

/-- `IsBatteryCharging`. -/
theorem isBatteryCharging_run {value level : Int}
    (hread : isBatteryCharging value s = some (level, s')) :
    ThreadRun (Step t) (fun _ _ => True) ⟨s, owner⟩ .idle ⟨s', owner⟩ .idle := by
  unfold isBatteryCharging at hread
  obtain ⟨l, hline, hread⟩ := Option.bind_eq_some_iff.1 hread
  obtain ⟨-, rfl⟩ := Prod.mk.inj (Option.some.inj hread)
  exact poll_run (show s.polledLine .charging = some l from hline)

/-- A call that returns can be run by a thread alone. -/
theorem LineCall.thread_run {call : LineCall} (hrun : call.run s = some s') :
    ∃ owner', ThreadRun (Step t) (fun _ _ => True) ⟨s, owner⟩ .idle ⟨s', owner'⟩ .idle := by
  cases call with
  | init o =>
      obtain ⟨⟨error, _⟩, hinit, rfl⟩ := Option.map_eq_some_iff.1 hrun
      exact init_run (fun _ _ _ => trivial) hinit
  | cleanup => exact cleanup_run hrun
  | openGpio id o =>
      obtain ⟨⟨error, _⟩, hopen, rfl⟩ := Option.map_eq_some_iff.1 hrun
      exact ⟨owner, openGpio_run hopen⟩
  | closeGpio id =>
      cases hrun
      exact ⟨owner, closeGpio_run id⟩
  | readGpio gpio value =>
      cases hrun
      exact ⟨owner, readGpio_run gpio value⟩

end Undisturbed

/-- Calls that one thread makes one after the other are a schedule. -/
theorem calls_reached (bus : Bus) (calls : List LineCall) :
    ∃ c, threads.Reach (· = started bus) anyStep c ∧ c.locals 0 = .idle ∧
      c.shared.toGpioStatics = calls.foldl LineCall.step (.initial bus) := by
  induction calls using List.reverseRecOn with
  | nil => exact ⟨started bus, .start rfl, rfl, rfl⟩
  | append_singleton calls call ih =>
      obtain ⟨c, hreach, hidle, hstatics⟩ := ih
      rw [List.foldl_concat, ← hstatics, LineCall.step]
      cases hrun : call.run c.shared.toGpioStatics with
      | none => exact ⟨c, hreach, hidle, rfl⟩
      | some s' =>
          have hthread : ∃ owner, ThreadRun (threads.Step 0) (fun _ _ => True) c.shared
              (c.locals 0) ⟨s', owner⟩ .idle := by
            rw [hidle]
            exact LineCall.thread_run hrun
          obtain ⟨owner, hthread⟩ := hthread
          refine ⟨c.move 0 ⟨s', owner⟩ .idle, ?_, by simp, rfl⟩
          exact hreach.thread (fun _ _ _ _ => trivial) hthread

end BatteryInfo.Battery
