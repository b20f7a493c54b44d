import Mathlib.Data.Int.ConditionallyCompleteOrder
import BatteryInfo.Core.Monitors
import BatteryInfo.Bands.Sublevels

/-!
# The warning colours

Each monitor of a gauge chooses the colour of a reading by a chain of comparisons of its own. For
three of them the readings of each severity and below form one interval. The chain of the voltage
has a gap between its first two bands, so that the readings from 551 to 560 are red between green
and orange ones (`colors_banded`).
-/

namespace BatteryInfo.Core

open Bands Battery Gui

/-- The order of the colours: green, orange, red. No monitor chooses another one. -/
def severity : Color → Nat
  | .green => 0
  | .orange => 1
  | .red => 2
  | .black | .blue => 3

/-- The colour that the monitor of a gauge chooses for a reading. -/
def gaugeColor : Gauge → Int → Color
  | .percentage, reading => (batteryLevelMonitor reading).color
  | .temp, reading => batteryTempColor reading
  | .current, reading => (batteryCurrentMonitor reading).color
  | .voltage, reading => batteryVoltageColor reading

/-- What the monitor of a gauge shows for a reading. -/
def gaugeShown : Gauge → Int → Option Shown
  | .percentage, reading => Monitor.shown .level reading
  | .temp, reading => Monitor.shown .temp reading
  | .current, reading => Monitor.shown .current reading
  | .voltage, reading => Monitor.shown .voltage reading

/-- Whatever is shown has the colour that is chosen. -/
theorem color_of_gaugeShown {gauge : Gauge} {reading : Int} {shown : Shown}
    (h : gaugeShown gauge reading = some shown) : shown.color = gaugeColor gauge reading := by
  cases gauge with
  | percentage | current =>
      obtain rfl := Option.some.inj h
      rfl
  | temp =>
      have h : batteryTempMonitor reading = some shown := h
      unfold batteryTempMonitor at h
      obtain ⟨text, _, hshown⟩ := Option.bind_eq_some_iff.1 h
      obtain rfl := Option.some.inj hshown
      rfl
  | voltage =>
      have h : batteryVoltageMonitor reading = some shown := h
      unfold batteryVoltageMonitor at h
      obtain ⟨text, _, hshown⟩ := Option.bind_eq_some_iff.1 h
      obtain rfl := Option.some.inj hshown
      rfl

/-! ## The bands -/

theorem severity_level_le_iff (percentage : Int) (hint : InInt percentage) (r : Nat) :
    severity (gaugeColor .percentage percentage) ≤ r ↔
      2 ≤ r ∨ percentage < 2 ^ 31 - 1 ∧ (74 ≤ percentage ∨ 1 ≤ r ∧ 24 ≤ percentage) := by
  unfold InInt at hint
  have hlevel : wrapInt (percentage + 1) =
      if percentage < 2 ^ 31 - 1 then percentage + 1 else -2 ^ 31 := by
    unfold wrapInt
    split <;> omega
  simp only [gaugeColor, batteryLevelMonitor, hlevel]
  split_ifs <;> simp only [severity] <;> omega

theorem severity_temp_le_iff (temp : Int) (r : Nat) :
    severity (gaugeColor .temp temp) ≤ r ↔
      2 ≤ r ∨ 1 ≤ r ∧ 400 ≤ temp ∨ 400 ≤ temp ∧ temp ≤ 500 := by
  simp only [gaugeColor, batteryTempColor]
  split_ifs <;> simp only [severity] <;> omega

theorem severity_current_le_iff (current : Int) (r : Nat) :
    severity (gaugeColor .current current) ≤ r ↔
      2 ≤ r ∨ 1 ≤ r ∧ 1 ≤ current ∧ current < 850 ∨ 50 ≤ current ∧ current ≤ 700 := by
  simp only [gaugeColor, batteryCurrentMonitor]
  split_ifs <;> simp only [severity] <;> omega

/-- The second band of the voltage does not reach the first. -/
theorem severity_voltage_le_iff (voltage : Int) (r : Nat) :
    severity (gaugeColor .voltage voltage) ≤ r ↔
      2 ≤ r ∨ 350 ≤ voltage ∧ voltage ≤ 550 ∨ 1 ≤ r ∧ 560 < voltage := by
  simp only [gaugeColor, batteryVoltageColor]
  split_ifs <;> simp only [severity] <;> omega

theorem ordConnected_inInt : {reading | InInt reading}.OrdConnected := by
  refine ⟨fun a ⟨hlow, _⟩ c ⟨_, hhigh⟩ b ⟨hab, hbc⟩ => ?_⟩
  exact ⟨hlow.trans hab, hbc.trans_lt hhigh⟩

/-- The chains other than that of the voltage have no gap. -/
theorem banded_of_ne_voltage {gauge : Gauge} (hgauge : gauge ≠ .voltage) :
    Banded {reading | InInt reading} fun reading => severity (gaugeColor gauge reading) := by
  intro r
  refine ⟨fun a ⟨ha, hsa⟩ c ⟨hc, hsc⟩ b hb => ?_⟩
  have hint : InInt b := ordConnected_inInt.out ha hc hb
  refine ⟨hint, ?_⟩
  obtain ⟨hab, hbc⟩ := hb
  cases gauge with
  | percentage =>
      rw [severity_level_le_iff _ ha] at hsa
      rw [severity_level_le_iff _ hc] at hsc
      rw [severity_level_le_iff _ hint]
      omega
  | temp =>
      rw [severity_temp_le_iff] at hsa hsc ⊢
      omega
  | current =>
      rw [severity_current_le_iff] at hsa hsc ⊢
      omega
  | voltage => exact absurd rfl hgauge

/-- A voltage in the gap, between one of the first band and one of the second. -/
def AcrossGap (gauge : Gauge) (a b c : Int) : Prop :=
  gauge = .voltage ∧ (350 ≤ a ∧ a ≤ 550) ∧ (551 ≤ b ∧ b ≤ 560) ∧ 561 ≤ c

/-- No reading is shown as worse than both of two around it, unless it is a voltage in the gap
between its bands; and so the readings of each severity and below form one interval for every
gauge but the voltage. -/
theorem colors_banded (gauge : Gauge) :
    (∀ a b c, InInt a → InInt b → InInt c → a ≤ b → b ≤ c →
      (severity (gaugeColor gauge b) ≤
          max (severity (gaugeColor gauge a)) (severity (gaugeColor gauge c)) ↔
        ¬ AcrossGap gauge a b c)) ∧
    ((Banded {reading | InInt reading} fun reading => severity (gaugeColor gauge reading)) ↔
      gauge ≠ .voltage) := by
  have hvoltage : ∀ a b c, a ≤ b → b ≤ c →
      (severity (gaugeColor .voltage b) ≤
          max (severity (gaugeColor .voltage a)) (severity (gaugeColor .voltage c)) ↔
        ¬ AcrossGap .voltage a b c) := by
    intro a b c hab hbc
    have ha₀ := severity_voltage_le_iff a 0
    have ha₁ := severity_voltage_le_iff a 1
    have hc₀ := severity_voltage_le_iff c 0
    have hc₁ := severity_voltage_le_iff c 1
    rw [severity_voltage_le_iff b, AcrossGap]
    simp only [true_and]
    omega
  have hothers := banded_iff_le_max ordConnected_inInt
    (f := fun reading => severity (gaugeColor gauge reading))
  constructor
  · intro a b c ha hb hc hab hbc
    by_cases hgauge : gauge = .voltage
    · subst hgauge
      exact hvoltage a b c hab hbc
    · refine iff_of_true ?_ fun hgap => hgauge hgap.1
      exact hothers.1 (banded_of_ne_voltage hgauge) a ha b hb c hc hab hbc
  · constructor
    · rintro hbanded rfl
      -- 555 is red, between 550, which is green, and 561, which is orange
      have hworse := hothers.1 hbanded 550 (by decide) 555 (by decide) 561 (by decide)
        (by decide) (by decide)
      revert hworse
      decide
    · exact banded_of_ne_voltage

/-- A voltage of 5.55 V is red, between one of 5.50 V, which is green, and one of 5.61 V, which is
orange. -/
theorem voltage_gap_is_red :
    ¬ ∀ gauge a b c, InInt a → InInt b → InInt c → a ≤ b → b ≤ c →
      severity (gaugeColor gauge b) ≤
        max (severity (gaugeColor gauge a)) (severity (gaugeColor gauge c)) := by
  intro h
  have hworse := h .voltage 550 555 561 (by decide) (by decide) (by decide) (by decide) (by decide)
  revert hworse
  decide

end BatteryInfo.Core
