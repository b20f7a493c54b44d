import Mathlib.Tactic.Linarith
import BatteryInfo.Core.Monitors

/-!
# The temperature display

`battery_temp_monitor` inserts the point one character before the end of the numeral. Every
numeral has a digit to put it before, so that the text is the decimal of the temperature whatever
`GetBatteryTemp` returns (`temperature_shown`).
-/

namespace BatteryInfo.Core

open Battery Decimal

/-- The numeral of a temperature has one digit or more. -/
theorem one_le_length_toDigits (n : Nat) : 1 ≤ (Nat.toDigits 10 n).length :=
  List.length_pos_iff.2 Nat.toDigits_ne_nil

/-- The text shown for a temperature is that of one decimal. -/
theorem batteryTempFormatted_iff {t : Int} (ht : InInt t) {f : Fixed} :
    batteryTempFormatted t = some (f.text ++ " ºC".toList) ↔ f = Fixed.ofInt 1 t := by
  rw [← and_iff_right (one_le_length_toDigits t.natAbs) (b := f = Fixed.ofInt 1 t)]
  exact insertAt_sizeSub_append_iff ht (by omega) _

/-- The decimal has one digit after the point, and denotes a temperature that is given in tenths
of a degree. -/
def ShowsDegrees (t : Int) (f : Fixed) : Prop :=
  f.frac.length = 1 ∧ f.value = t / 10

theorem showsDegrees_ofInt (t : Int) : ShowsDegrees t (Fixed.ofInt 1 t) := by
  have hone := one_le_length_toDigits t.natAbs
  refine ⟨Fixed.length_frac_ofInt hone, ?_⟩
  rw [Fixed.value_ofInt hone, pow_one]

theorem getBatteryTemp_inInt (conv : Conversion) (file : GaugeFile) :
    InInt (getBatteryTemp conv file) := by
  unfold getBatteryTemp
  split
  · decide
  · exact scanValue_inInt conv _

/-- Every `int` is read from some file. -/
theorem getBatteryTemp_surjective (conv : Conversion) {t : Int} (ht : InInt t) :
    ∃ file, getBatteryTemp conv file = t := by
  refine ⟨⟨some (ofInt t ++ []), true⟩, ?_⟩
  show scanValue conv (ofInt t ++ []) = t
  rw [scanValue, scanInt_ofInt t (by simp)]
  exact conv.same t ht

/-- Different temperatures have different texts. -/
theorem batteryTempFormatted_inj {t t' : Int} (ht : InInt t) (ht' : InInt t')
    (heq : batteryTempFormatted t' = batteryTempFormatted t) : t' = t := by
  have htext : batteryTempFormatted t = some ((Fixed.ofInt 1 t).text ++ " ºC".toList) :=
    (batteryTempFormatted_iff ht).2 rfl
  have hsame : Fixed.ofInt 1 t = Fixed.ofInt 1 t' :=
    (batteryTempFormatted_iff ht').1 (heq.trans htext)
  have hvalue : (t' / 10 : ℚ) = t / 10 := by
    rw [← (showsDegrees_ofInt t').2, ← hsame]
    exact (showsDegrees_ofInt t).2
  have hcast : (t' : ℚ) = t := by linarith
  exact_mod_cast hcast

/-- Whatever is read from the file, the text of the temperature is that of a decimal of its
value, and is the text of no other temperature. -/
theorem temperature_shown (conv : Conversion) (file : GaugeFile) :
    (∃ f, batteryTempFormatted (getBatteryTemp conv file) = some (f.text ++ " ºC".toList) ∧
      ShowsDegrees (getBatteryTemp conv file) f) ∧
    ∀ file', batteryTempFormatted (getBatteryTemp conv file') =
        batteryTempFormatted (getBatteryTemp conv file) →
      getBatteryTemp conv file' = getBatteryTemp conv file := by
  have ht := getBatteryTemp_inInt conv file
  refine ⟨⟨_, (batteryTempFormatted_iff ht).2 rfl, showsDegrees_ofInt _⟩, fun file' heq => ?_⟩
  exact batteryTempFormatted_inj ht (getBatteryTemp_inInt conv file') heq

end BatteryInfo.Core
