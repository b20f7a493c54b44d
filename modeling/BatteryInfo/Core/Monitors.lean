import BatteryInfo.Battery.Gauges
import BatteryInfo.Decimal.FixedPoint
import BatteryInfo.Gui.Widgets

/-!
# The monitors

What one iteration of each monitor thread of `core.cpp` makes of a reading: the text and the
colour that it passes to `ChangeLabel`. Positions in a string are a `size_t` of 32 bits, as on
the target. An exception of the string library is not caught and ends the program, so that an
iteration that throws has no result.
-/

namespace BatteryInfo.Core

open Battery Decimal Gui

/-- What is passed to `ChangeLabel`: the text, and the colour of the label. -/
structure Shown where
  text : List Char
  color : Color
deriving DecidableEq, Repr

/-- A difference of two `size_t`. -/
def sizeSub (a b : Nat) : Nat :=
  (a + 2 ^ 32 - b) % 2 ^ 32

/-- The `int` that is kept of a sum. C leaves open what becomes of one that is no `int`; the
target keeps its lower 32 bits. -/
def wrapInt (n : Int) : Int :=
  (n + 2 ^ 31) % 2 ^ 32 - 2 ^ 31

/-- `battery_current_monitor`. -/
def batteryCurrentMonitor (batteryCurrent : Int) : Shown where
  text := ofInt batteryCurrent ++ " mA".toList
  color :=
    if 50 ≤ batteryCurrent ∧ batteryCurrent ≤ 700 then .green
    else if 1 ≤ batteryCurrent ∧ batteryCurrent < 50 then .orange
    else if 700 < batteryCurrent ∧ batteryCurrent < 850 then .orange
    else .red

/-- The text of `battery_voltage_monitor`. -/
def batteryVoltageFormatted (batteryVoltage : Int) : Option (List Char) := do
  let text := ofInt batteryVoltage
  let text ← insertAt (sizeSub text.length 2) ['.'] text
  pure (text ++ " V".toList)

/-- The colour that `battery_voltage_monitor` chooses. -/
def batteryVoltageColor (batteryVoltage : Int) : Color :=
  if 350 ≤ batteryVoltage ∧ batteryVoltage ≤ 550 then .green
  else if 560 < batteryVoltage then .orange
  else .red

/-- `battery_voltage_monitor`. It comes to the colour only if the text can be made. -/
def batteryVoltageMonitor (batteryVoltage : Int) : Option Shown := do
  let text ← batteryVoltageFormatted batteryVoltage
  pure ⟨text, batteryVoltageColor batteryVoltage⟩

/-- `battery_health_monitor`. -/
def batteryHealthMonitor (batteryHealth : List Char) : Shown :=
  let batteryHealth := if batteryHealth.length ≤ 0 then "ERROR".toList else batteryHealth
  ⟨batteryHealth,
    if batteryHealth = "Good".toList then .green
    else if batteryHealth = "Ok".toList then .orange
    else .red⟩

/-- The text of `battery_temp_monitor`. -/
def batteryTempFormatted (batteryTemp : Int) : Option (List Char) := do
  let text := ofInt batteryTemp
  let text ← insertAt (sizeSub text.length 1) ['.'] text
  pure (text ++ " ºC".toList)

/-- The colour that `battery_temp_monitor` chooses. -/
def batteryTempColor (batteryTemp : Int) : Color :=
  if 400 ≤ batteryTemp ∧ batteryTemp ≤ 500 then .green
  else if 480 < batteryTemp then .orange
  else .red

/-- `battery_temp_monitor`. It comes to the colour only if the text can be made. -/
def batteryTempMonitor (batteryTemp : Int) : Option Shown := do
  let text ← batteryTempFormatted batteryTemp
  pure ⟨text, batteryTempColor batteryTemp⟩

/-- `battery_level_monitor`, given what `GetBatteryPercentage` returns. -/
def batteryLevelMonitor (percentage : Int) : Shown :=
  let batteryLevel := wrapInt (percentage + 1)
  ⟨ofInt batteryLevel ++ "%".toList,
    if 75 ≤ batteryLevel then .green
    else if 25 ≤ batteryLevel ∧ batteryLevel < 75 then .orange
    else .red⟩

/-- `in_dock_monitor`. -/
def inDockMonitor (isMeterInDock : Int) : Shown :=
  if isMeterInDock = 0 then ⟨"TRUE".toList, .green⟩ else ⟨"FALSE".toList, .red⟩

/-- `battery_charging_monitor`. -/
def batteryChargingMonitor (isBatteryCharging : Int) : Shown :=
  if isBatteryCharging = 1 then ⟨"TRUE".toList, .green⟩ else ⟨"FALSE".toList, .red⟩

/-- The monitors that show a reading of the battery. -/
inductive Monitor where
  | current
  | voltage
  | health
  | temp
  | level
  | inDock
  | charging
deriving DecidableEq, Repr

/-- A reading: the health is a word, everything else an `int`. -/
def Monitor.Reading : Monitor → Type
  | .health => List Char
  | _ => Int

/-- What an iteration of a monitor makes of a reading. -/
def Monitor.shown : (m : Monitor) → m.Reading → Option Shown
  | .current, reading => some (batteryCurrentMonitor reading)
  | .voltage, reading => batteryVoltageMonitor reading
  | .health, reading => some (batteryHealthMonitor reading)
  | .temp, reading => batteryTempMonitor reading
  | .level, reading => some (batteryLevelMonitor reading)
  | .inDock, reading => some (inDockMonitor reading)
  | .charging, reading => some (batteryChargingMonitor reading)

/-! ## The point -/

/-- The numeral of an `int` is short. -/
theorem length_toDigits_le {v : Int} (hv : InInt v) :
    (Nat.toDigits 10 v.natAbs).length ≤ 10 := by
  unfold InInt at hv
  rw [Nat.length_toDigits_le_iff (by omega) (by omega)]
  omega

theorem length_ofInt (v : Int) :
    (ofInt v).length = (Nat.toDigits 10 v.natAbs).length + if v < 0 then 1 else 0 := by
  unfold ofInt
  split
  · rfl
  · rfl

/-- The position of the point is not negative when there are enough digits. -/
theorem sizeSub_of_le {a b : Nat} (ha : a < 2 ^ 32) (hle : b ≤ a) : sizeSub a b = a - b := by
  unfold sizeSub
  omega

/-- A point that is inserted at a difference of `size_t` makes a decimal exactly if there are
enough digits to put it before. -/
theorem insertAt_sizeSub_iff {v : Int} (hv : InInt v) {places : Nat} (hplaces : places < 2 ^ 31)
    {f : Fixed} :
    insertAt (sizeSub (ofInt v).length places) ['.'] (ofInt v) = some f.text ↔
      places ≤ (Nat.toDigits 10 v.natAbs).length ∧ f = Fixed.ofInt places v := by
  have hlength := length_ofInt v
  have hdigits := length_toDigits_le hv
  have hshort : (ofInt v).length < 2 ^ 32 := by
    split at hlength <;> omega
  constructor
  · intro hinsert
    by_cases henough : places ≤ (Nat.toDigits 10 v.natAbs).length
    · rw [sizeSub_of_le hshort (by omega), insertAt_ofInt henough] at hinsert
      exact ⟨henough, (Fixed.text_injective (Option.some.inj hinsert)).symm⟩
    · exfalso
      by_cases hfits : places ≤ (ofInt v).length
      · -- only the sign makes the text long enough
        have hneg : v < 0 := by
          by_contra hneg
          rw [if_neg hneg] at hlength
          omega
        have hpos : sizeSub (ofInt v).length places = 0 := by
          rw [sizeSub_of_le hshort hfits]
          rw [if_pos hneg] at hlength
          omega
        rw [hpos] at hinsert
        simp only [insertAt, ofInt, if_pos hneg, Nat.zero_le, if_true, List.take_zero,
          List.nil_append, List.drop_zero, Option.some.injEq] at hinsert
        exact f.text_ne_point_minus _ hinsert.symm
      · -- the difference wraps around
        have hbehind : ¬ sizeSub (ofInt v).length places ≤ (ofInt v).length := by
          unfold sizeSub
          split at hlength <;> omega
        simp [insertAt, if_neg hbehind] at hinsert
  · rintro ⟨henough, rfl⟩
    rw [sizeSub_of_le hshort (by omega), insertAt_ofInt henough]

/-- The same with a unit behind the decimal. -/
theorem insertAt_sizeSub_append_iff {v : Int} (hv : InInt v) {places : Nat}
    (hplaces : places < 2 ^ 31) (unit : List Char) {f : Fixed} :
    (do
      let text ← insertAt (sizeSub (ofInt v).length places) ['.'] (ofInt v)
      pure (text ++ unit)) = some (f.text ++ unit) ↔
      places ≤ (Nat.toDigits 10 v.natAbs).length ∧ f = Fixed.ofInt places v := by
  rw [← insertAt_sizeSub_iff hv hplaces]
  cases insertAt (sizeSub (ofInt v).length places) ['.'] (ofInt v) with
  | none => simp
  | some text => simp

end BatteryInfo.Core
