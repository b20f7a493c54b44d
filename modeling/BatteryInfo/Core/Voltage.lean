import BatteryInfo.Core.Monitors

/-!
# The voltage display

`battery_voltage_monitor` inserts the point two characters before the end of the numeral,
whatever the numeral is. With two digits or more the text is the decimal of the voltage. With one
digit the position is in front of the sign, or wraps around and the string library throws
(`voltage_shown`).
-/

namespace BatteryInfo.Core

open Battery Decimal

/-- The numeral of a number from 10 on has two digits or more. -/
theorem two_le_length_toDigits {n : Nat} : 2 ≤ (Nat.toDigits 10 n).length ↔ 10 ≤ n := by
  have hone := Nat.length_toDigits_le_iff (n := n) (b := 10) (k := 1) (by omega) (by omega)
  omega

/-- The text shown for a voltage is that of a decimal exactly if the voltage has two digits. -/
theorem batteryVoltageFormatted_iff {v : Int} (hv : InInt v) {f : Fixed} :
    batteryVoltageFormatted v = some (f.text ++ " V".toList) ↔
      10 ≤ v.natAbs ∧ f = Fixed.ofInt 2 v := by
  rw [← two_le_length_toDigits]
  exact insertAt_sizeSub_append_iff hv (by omega) _

/-- The decimal has two digits after the point, and denotes a voltage that is given in hundredths
of a volt. -/
def ShowsVolts (v : Int) (f : Fixed) : Prop :=
  f.frac.length = 2 ∧ f.value = v / 100

theorem showsVolts_ofInt {v : Int} (hv : 10 ≤ v.natAbs) : ShowsVolts v (Fixed.ofInt 2 v) := by
  have htwo : 2 ≤ (Nat.toDigits 10 v.natAbs).length := two_le_length_toDigits.2 hv
  refine ⟨Fixed.length_frac_ofInt htwo, ?_⟩
  rw [Fixed.value_ofInt htwo]
  norm_num

/-- The file contains a number, and what `fscanf` stores of it is at least `bound` in size. -/
def ReadsAtLeast (conv : Conversion) (file : GaugeFile) (bound : Nat) : Prop :=
  ∃ content ∈ file.content, ∃ n, scanInt content = .number n ∧ bound ≤ (conv.store n).natAbs

theorem natAbs_getBatteryVoltage (conv : Conversion) (content : List Char) (closes : Bool) :
    (getBatteryVoltage conv ⟨some content, closes⟩).natAbs =
      (scanValue conv content).natAbs / 10000 := by
  rw [getBatteryVoltage_of_content]
  exact Int.natAbs_tdiv _ _

theorem getBatteryVoltage_inInt (conv : Conversion) (file : GaugeFile) :
    InInt (getBatteryVoltage conv file) := by
  obtain ⟨content, closes⟩ := file
  cases content with
  | none =>
      show InInt (-1)
      decide
  | some content =>
      have hscan := scanValue_inInt conv content
      have hquot := natAbs_getBatteryVoltage conv content closes
      unfold InInt at hscan ⊢
      omega

/-- The voltage is a ten-thousandth of what is read, and the error value is small. -/
theorem le_getBatteryVoltage_iff (conv : Conversion) (file : GaugeFile) (bound : Nat)
    (hbound : 2 ≤ bound) :
    bound ≤ (getBatteryVoltage conv file).natAbs ↔ ReadsAtLeast conv file (bound * 10000) := by
  obtain ⟨content, closes⟩ := file
  cases content with
  | none =>
      have herror : getBatteryVoltage conv ⟨none, closes⟩ = -1 := rfl
      simp [herror, ReadsAtLeast]
      omega
  | some content =>
      have herror : ¬ bound * 10000 ≤ 1 := by omega
      rw [natAbs_getBatteryVoltage, Nat.le_div_iff_mul_le (by omega)]
      unfold scanValue ReadsAtLeast
      cases hscan : scanInt content with
      | eof => simp [hscan, herror]
      | mismatch => simp [hscan, herror]
      | number n => simp [hscan]

/-- The voltage is shown as a decimal of its value exactly if at least 100000 is read from the
file, and with a digit before the point exactly if it is at least 1000000. -/
theorem voltage_shown (conv : Conversion) (file : GaugeFile) :
    ((∃ f, batteryVoltageFormatted (getBatteryVoltage conv file) = some (f.text ++ " V".toList) ∧
        ShowsVolts (getBatteryVoltage conv file) f) ↔ ReadsAtLeast conv file 100000) ∧
    ((∃ f, batteryVoltageFormatted (getBatteryVoltage conv file) = some (f.text ++ " V".toList) ∧
        ShowsVolts (getBatteryVoltage conv file) f ∧ f.whole ≠ []) ↔
      ReadsAtLeast conv file 1000000) := by
  have hv := getBatteryVoltage_inInt conv file
  have hten := le_getBatteryVoltage_iff conv file 10 (by omega)
  have hhundred := le_getBatteryVoltage_iff conv file 100 (by omega)
  rw [← hten, ← hhundred]
  have hthree := Nat.length_toDigits_le_iff (n := (getBatteryVoltage conv file).natAbs) (b := 10)
    (k := 2) (by omega) (by omega)
  constructor
  · constructor
    · rintro ⟨f, htext, _⟩
      exact ((batteryVoltageFormatted_iff hv).1 htext).1
    · intro hdigits
      exact ⟨_, (batteryVoltageFormatted_iff hv).2 ⟨hdigits, rfl⟩, showsVolts_ofInt hdigits⟩
  · constructor
    · rintro ⟨f, htext, _, hwhole⟩
      obtain ⟨_, rfl⟩ := (batteryVoltageFormatted_iff hv).1 htext
      rw [Ne, Fixed.whole_ofInt_eq_nil, hthree] at hwhole
      omega
    · intro hdigits
      refine ⟨_, (batteryVoltageFormatted_iff hv).2 ⟨by omega, rfl⟩,
        showsVolts_ofInt (by omega), ?_⟩
      rw [Ne, Fixed.whole_ofInt_eq_nil, hthree]
      omega

/-- An empty file reads as 0, for which the string library throws, and a missing one as -1, which
is shown with the point in front of the sign. -/
theorem failed_reading_not_shown :
    batteryVoltageFormatted (getBatteryVoltage .clamp ⟨some [], true⟩) = none ∧
      batteryVoltageFormatted (getBatteryVoltage .clamp ⟨none, true⟩) = some ".-1 V".toList ∧
      ¬ ∃ f : Fixed, batteryVoltageFormatted (getBatteryVoltage .clamp ⟨some [], true⟩) =
        some (f.text ++ " V".toList) := by
  refine ⟨by decide, by decide, ?_⟩
  rintro ⟨f, htext⟩
  have hthrows : batteryVoltageFormatted (getBatteryVoltage .clamp ⟨some [], true⟩) = none := by
    decide
  rw [hthrows] at htext
  cases htext

end BatteryInfo.Core
