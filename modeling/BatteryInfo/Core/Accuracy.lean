import BatteryInfo.Core.Severity
import BatteryInfo.Core.Temperature
import BatteryInfo.Core.Voltage

/-!
# What the labels say of the battery

The driver writes percent, tenths of a degree, microamperes and microvolts. A label says the same in
its own unit with its own number of places, after a product of doubles, a conversion to `int` and an
insertion of a point. The labels of the temperature and the current are always less than one unit of
the last place away from what the driver says, and that of the voltage from a tenth of a volt on.
The label of the level is not, since its monitor adds one (`gauge_labels_close_iff`).
-/

namespace BatteryInfo.Core

open Battery Decimal Gui

/-- The text shows a number with the unit of the gauge. -/
def ShowsNumber : Gauge → List Char → ℚ → Prop
  | .percentage, text, x => ∃ k : Int, text = ofInt k ++ "%".toList ∧ x = k
  | .temp, text, x => ∃ f : Fixed, text = f.text ++ " ºC".toList ∧ x = f.value
  | .current, text, x => ∃ k : Int, text = ofInt k ++ " mA".toList ∧ x = k
  | .voltage, text, x => ∃ f : Fixed, text = f.text ++ " V".toList ∧ x = f.value

/-- What the driver says with a number, in the unit of the label. -/
def driverSays : Gauge → Int → ℚ
  | .percentage, n => n
  | .temp, n => n / 10
  | .current, n => n / 1000
  | .voltage, n => n / 1000000

/-- The last place of the label. -/
def lastPlace : Gauge → ℚ
  | .percentage | .current => 1
  | .temp => 1 / 10
  | .voltage => 1 / 100

/-- What is shown for a reading is less than one unit of the last place away from what the driver
says. -/
def ShownClosely (g : Gauge) (reading n : Int) : Prop :=
  ∃ shown x, gaugeShown g reading = some shown ∧ ShowsNumber g shown.text x ∧
    |x - driverSays g n| < lastPlace g

/-- The text that is made for a voltage is shown, in some colour. -/
theorem gaugeShown_voltage_iff (v : Int) (text : List Char) :
    (∃ shown, gaugeShown .voltage v = some shown ∧ shown.text = text) ↔
      batteryVoltageFormatted v = some text := by
  show (∃ shown, batteryVoltageMonitor v = some shown ∧ shown.text = text) ↔ _
  unfold batteryVoltageMonitor
  cases batteryVoltageFormatted v with
  | none => simp
  | some text' => simp

theorem shownClosely_percentage_iff (reading n : Int) :
    ShownClosely .percentage reading n ↔ wrapInt (reading + 1) = n := by
  constructor
  · rintro ⟨shown, x, hshown, ⟨k, htext, rfl⟩, hclose⟩
    obtain rfl := Option.some.inj hshown
    have hk : wrapInt (reading + 1) = k := ofInt_injective (List.append_cancel_right htext)
    have hclose : |((k : ℚ) - n)| < 1 := hclose
    have hint : |k - n| < 1 := by exact_mod_cast hclose
    rw [Int.abs_lt_one_iff] at hint
    omega
  · intro hlevel
    refine ⟨_, _, rfl, ⟨_, rfl, rfl⟩, ?_⟩
    rw [hlevel]
    simp [driverSays, lastPlace]

theorem shownClosely_temp {n : Int} (hn : InInt n) : ShownClosely .temp n n := by
  have htext : batteryTempFormatted n = some ((Fixed.ofInt 1 n).text ++ " ºC".toList) :=
    (batteryTempFormatted_iff hn).2 rfl
  refine ⟨⟨(Fixed.ofInt 1 n).text ++ " ºC".toList, batteryTempColor n⟩, _, ?_, ⟨_, rfl, rfl⟩, ?_⟩
  · show batteryTempMonitor n = _
    unfold batteryTempMonitor
    rw [htext]
    rfl
  · rw [(showsDegrees_ofInt n).2]
    simp [driverSays, lastPlace]

theorem shownClosely_current (n : Int) : ShownClosely .current (n.tdiv 1000) n :=
  ⟨_, _, rfl, ⟨_, rfl, rfl⟩, abs_tdiv_sub_lt n (by omega)⟩

theorem shownClosely_voltage_iff {n : Int} (hn : InInt n) :
    ShownClosely .voltage (n.tdiv 10000) n ↔ 100000 ≤ n.natAbs := by
  have hquot : (n.tdiv 10000).natAbs = n.natAbs / 10000 := Int.natAbs_tdiv n 10000
  have hv : InInt (n.tdiv 10000) := by
    unfold InInt at hn ⊢
    omega
  have hten : 100000 ≤ n.natAbs ↔ 10 ≤ (n.tdiv 10000).natAbs := by omega
  rw [hten]
  constructor
  · rintro ⟨shown, x, hshown, ⟨f, htext, _⟩, _⟩
    have hformatted := (gaugeShown_voltage_iff _ _).1 ⟨shown, hshown, htext⟩
    exact ((batteryVoltageFormatted_iff hv).1 hformatted).1
  · intro hdigits
    have hformatted := (batteryVoltageFormatted_iff hv).2 ⟨hdigits, rfl⟩
    obtain ⟨shown, hshown, htext⟩ := (gaugeShown_voltage_iff _ _).2 hformatted
    refine ⟨shown, _, hshown, ⟨_, htext, rfl⟩, ?_⟩
    have hcut : |((n.tdiv 10000 : Int) : ℚ) - n / (10000 : Int)| < 1 :=
      abs_tdiv_sub_lt n (by omega)
    have hscale : ((n.tdiv 10000 : Int) / 100 - n / 1000000 : ℚ) =
        ((n.tdiv 10000 : Int) - n / (10000 : Int)) / 100 := by
      push_cast
      ring
    rw [(showsVolts_ofInt hdigits).2]
    show |((n.tdiv 10000 : Int) / 100 - n / 1000000 : ℚ)| < 1 / 100
    rw [hscale, abs_div, abs_of_pos (by norm_num : (0 : ℚ) < 100)]
    exact (div_lt_div_iff_of_pos_right (by norm_num)).2 hcut

/-- A number that the driver has written is shown with an error of less than one unit of the last
place, except that of the level, which is shown as one more (unless the file cannot be closed and
the level is 0), and a voltage below a tenth of a volt. -/
theorem gauge_labels_close_iff (conv : Conversion) (g : Gauge) {n : Int} (hn : InInt n)
    {space rest : List Char} (hspace : ∀ c ∈ space, isSpace c)
    (hrest : ∀ c ∈ rest.head?, ¬ c.isDigit) (closes : Bool) :
    ShownClosely g (g.get conv ⟨some (space ++ (ofInt n ++ rest)), closes⟩) n ↔
      (g = .percentage → closes = false ∧ n = 0) ∧ (g = .voltage → 100000 ≤ n.natAbs) := by
  rw [get_of_content, scanValue_numeral conv hn hspace hrest]
  cases g with
  | percentage =>
      rw [shownClosely_percentage_iff]
      unfold wrapInt Gauge.unit InInt at *
      cases closes with
      | true =>
          simp
          omega
      | false => simp [eq_comm]
  | temp => simpa [Gauge.unit] using shownClosely_temp hn
  | current => simpa [Gauge.unit] using shownClosely_current n
  | voltage => simpa [Gauge.unit] using shownClosely_voltage_iff hn

/-- A voltage of 3999999 microvolts. -/
theorem gauge_labels_close_iff_voltage :
    ShownClosely .voltage
      (Gauge.voltage.get .clamp ⟨some ([] ++ (ofInt 3999999 ++ ['\n'])), true⟩) 3999999 := by
  have hnewline : ∀ c ∈ ['\n'].head?, ¬ c.isDigit := by
    rintro c hc
    cases hc
    decide
  exact (gauge_labels_close_iff .clamp .voltage (by decide) (by simp) hnewline true).2
    ⟨nofun, fun _ => by omega⟩

end BatteryInfo.Core
