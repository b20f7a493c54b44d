import BatteryInfo.Battery.Gpio

/-!
# The table of power lines

The second way to the battery lines: `power_lines`, whose entries `OpenGPIO` and `CloseGPIO`
fill and clear without the lock, and the functions that read a level. A libgpiod call with a
`NULL` argument ends the program, so that a function that makes it has no result.
-/

namespace BatteryInfo.Battery

open Gpiod

/-- `line_id`, the index of an entry of `power_lines`. The last enumerator, `LINE_MAX`, is the
number of the others. -/
inductive LineId where
  | inBase
  | charging
deriving DecidableEq, Repr

/-- `power_lines[id].pin`. -/
def LineId.pin : LineId → Nat
  | .inBase => inDockPin
  | .charging => chargingPin

/-- The chip on which `InitializeBatteryGPIOs` opens the line of the same signal. -/
def LineId.portName : LineId → String
  | .inBase => inDockPortName
  | .charging => chargingPortName

/-- The flag of the signal in `BatteryGPIO`: `BATTERY_GPIO_IN_BASE` or `BATTERY_GPIO_CHARGING`. -/
def LineId.gpio : LineId → UInt32
  | .inBase => 0x01
  | .charging => 0x02

/-- The statics of `Battery.cpp` with the pointers of `power_lines`. -/
structure GpioStatics extends Statics where
  /-- `power_lines[id].line`. -/
  powerLine : LineId → Option Line

/-- The statics as the program starts with them. -/
def GpioStatics.initial (bus : Bus) : GpioStatics where
  toStatics := .initial bus
  powerLine := fun _ => none

/-- The line of the signal that `InitializeBatteryGPIOs` opens. -/
def GpioStatics.polledLine (s : GpioStatics) : LineId → Option Line
  | .inBase => s.inDockLine
  | .charging => s.chargingLine

/-- A libgpiod call is made with the line `l`. -/
def GpioStatics.using (s : GpioStatics) (l : Line) : GpioStatics :=
  { s with misused := s.misused || decide (l.chip ∉ s.bus.opened) }

/-- Whether the two libgpiod calls of `OpenGPIO` succeed where nothing else stands against
them. -/
structure OpenOutcomes where
  lineFound : Bool
  lineRequested : Bool
deriving DecidableEq, Repr

/-- `gpiod_line_request_falling_edge_events` at the end of `OpenGPIO`. A pointer that was set
stays set when the request fails. -/
def requestPowerLine (l : Line) (ok : Bool) (s : GpioStatics) : Int × GpioStatics :=
  let s := s.using l
  let (ok, bus) := s.bus.lineRequest l none ok
  (if ok then 0 else -1, { s with bus })

/-- `OpenGPIO`. The chip is that of the dock line for both entries. -/
def openGpio (id : LineId) (o : OpenOutcomes) (s : GpioStatics) : Option (Int × GpioStatics) :=
  match s.powerLine id with
  | some l => some (requestPowerLine l o.lineRequested s)
  | none => do
      let c ← s.inDockChip
      match Bus.chipGetLine c id.pin o.lineFound with
      | none => pure (-1, { s with powerLine := Function.update s.powerLine id none })
      | some l =>
          pure (requestPowerLine l o.lineRequested
            { s with powerLine := Function.update s.powerLine id (some l) })

/-- `CloseGPIO`. -/
def closeGpio (id : LineId) (s : GpioStatics) : GpioStatics :=
  match s.powerLine id with
  | none => s
  | some l =>
      let s := s.using l
      { s with
        bus := s.bus.lineRelease l
        powerLine := Function.update s.powerLine id none }

/-- `GetGPIOLineValue`, if `gpiod_line_get_value` returns `value`. -/
def getGPIOLineValue (id : LineId) (value : Int) (s : GpioStatics) : Int × GpioStatics :=
  match s.powerLine id with
  | none => (-1, s)
  | some l => (value, s.using l)

/-- `ReadGPIO`. -/
def readGpio (gpio : UInt32) (value : Int) (s : GpioStatics) : Int × GpioStatics :=
  if gpio = LineId.inBase.gpio then getGPIOLineValue .inBase value s
  else if gpio = LineId.charging.gpio then getGPIOLineValue .charging value s
  else (-1, s)

/-- The level that `IsMeterInDock` and `IsBatteryCharging` make of what `gpiod_line_get_value`
returns. The comparison with `NULL` holds of 0. -/
def levelOfValue (value : Int) : Int :=
  if value = 0 then -1 else value

/-- `IsMeterInDock`, if `gpiod_line_get_value` returns `value`. -/
def isMeterInDock (value : Int) (s : GpioStatics) : Option (Int × GpioStatics) := do
  let l ← s.inDockLine
  pure (levelOfValue value, s.using l)

/-- `IsBatteryCharging`, if `gpiod_line_get_value` returns `value`. -/
def isBatteryCharging (value : Int) (s : GpioStatics) : Option (Int × GpioStatics) := do
  let l ← s.chargingLine
  pure (levelOfValue value, s.using l)

/-- `Battery_Init`, which does not touch the table. -/
def GpioStatics.batteryInit (o : GpioOutcomes) (s : GpioStatics) : Option (Int × GpioStatics) :=
  (Battery.batteryInit o s.toStatics).map fun (error, statics) =>
    (error, { s with toStatics := statics })

/-- `RunBatteryMonitorCleanup`, which does not touch the table. -/
def GpioStatics.cleanup (s : GpioStatics) : Option GpioStatics :=
  (runBatteryMonitorCleanup s.toStatics).map fun statics => { s with toStatics := statics }

end BatteryInfo.Battery
