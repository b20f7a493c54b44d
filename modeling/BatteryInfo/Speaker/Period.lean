import Mathlib.Data.Nat.Prime.Basic
import BatteryInfo.Binary64.Division
import BatteryInfo.Speaker.Device

/-!
# The period of a pitch

`Speaker_PlayPitch` computes the period of a frequency in doubles, `(1.0 / Frequency) / 1E-9`, and
cuts it off. Both quotients and the constant are rounded, but the result is the exact quotient
`10 ^ 9 / Frequency` that `periodns` stands for. Only where the period is a whole number of
nanoseconds can the errors show: of the frequencies that divide `10 ^ 9`, thirteen come out one
nanosecond too short (`periodnsDouble_eq`).
-/

namespace BatteryInfo.Speaker

open Binary64

/-- `((1.0 / (double) Frequency)) / 1E-9`. -/
def periodDouble (frequency : Nat) : Double :=
  ((Double.ofNat 1).div (.ofNat frequency)).div (ofRatio 1 (10 ^ 9))

/-- What `Speaker_PlayPitch` stores in `Periodns`. -/
def periodnsDouble (frequency : UInt16) : Nat :=
  (periodDouble frequency.toNat).trunc

/-- The frequencies with a period that is cut off one nanosecond below a whole number. -/
def shortPeriods : List Nat :=
  [1, 2, 4, 8, 16, 32, 64, 128, 256, 512, 15625, 31250, 62500]

/-- The errors of the two quotients and the constant. -/
theorem abs_period_sub_le {f : Nat} (hf : 0 < f) :
    |(periodDouble f).value - (10 ^ 9 : Nat) / f| ≤ (10 ^ 9 : Nat) / f * (4 * unitRoundoff) := by
  have hf' : (0 : ℚ) < f := by exact_mod_cast hf
  have hfirst := Double.abs_value_div (x := .ofNat 1) (y := .ofNat f) (by simp) (by simpa) (by
    rw [Double.value_ofNat, Double.value_ofNat, div_lt_iff₀ hf']
    have : (1 : ℚ) ≤ f := by exact_mod_cast hf
    push_cast
    linarith)
  have hconstant := abs_value_ofRatio (a := 1) (b := 10 ^ 9) (by decide) (by decide) (by decide)
  rw [Double.value_ofNat, Double.value_ofNat] at hfirst
  have hperiod : (1 : Nat) / (f : ℚ) / ((1 : Nat) / ((10 ^ 9 : Nat) : ℚ)) = (10 ^ 9 : Nat) / f := by
    push_cast
    field_simp
  have hx := value_pos_of_error (by positivity) hfirst
  have hy := value_pos_of_error (by positivity) hconstant
  rw [← hperiod]
  refine abs_div_sub_div_le (by positivity) (by positivity) hfirst hconstant ?_
  refine Double.abs_value_div hx hy ?_
  have hone : (1 : Nat) / (f : ℚ) ≤ 1 := by
    rw [div_le_one hf']
    exact_mod_cast hf
  have hnum : (Double.div (.ofNat 1) (.ofNat f)).value ≤ 2 := by
    have hsmall : (1 : Nat) / (f : ℚ) * unitRoundoff ≤ 1 * 1 :=
      mul_le_mul hone (by norm_num [unitRoundoff]) (by norm_num [unitRoundoff]) (by norm_num)
    have := (abs_le.1 hfirst).2
    linarith
  have hden : (1 : ℚ) / (2 * 10 ^ 9) ≤ (ofRatio 1 (10 ^ 9)).value := by
    have hsmall : (1 : Nat) / ((10 ^ 9 : Nat) : ℚ) * unitRoundoff ≤ 1 / (2 * 10 ^ 9) := by
      norm_num [unitRoundoff]
    have := (abs_le.1 hconstant).1
    push_cast at this hsmall ⊢
    linarith
  rw [div_lt_iff₀ hy]
  calc (Double.div (.ofNat 1) (.ofNat f)).value ≤ 2 := hnum
    _ < 2 ^ 53 * (1 / (2 * 10 ^ 9)) := by norm_num
    _ ≤ 2 ^ 53 * (ofRatio 1 (10 ^ 9)).value := mul_le_mul_of_nonneg_left hden (by positivity)

/-- The frequencies with a period of a whole number of nanoseconds. -/
theorem dvd_ten_pow {f : Nat} (h : f ∣ 10 ^ 9) : ∃ a b, a < 10 ∧ b < 10 ∧ f = 2 ^ a * 5 ^ b := by
  rw [show 10 ^ 9 = 2 ^ 9 * 5 ^ 9 by norm_num] at h
  obtain ⟨x, y, hx, hy, rfl⟩ := Nat.dvd_mul.1 h
  obtain ⟨a, ha, rfl⟩ := (Nat.dvd_prime_pow Nat.prime_two).1 hx
  obtain ⟨b, hb, rfl⟩ := (Nat.dvd_prime_pow Nat.prime_five).1 hy
  exact ⟨a, b, by omega, by omega, rfl⟩

/-- All of them, one by one. -/
theorem whole_periods : ∀ a < 10, ∀ b < 10, 2 ^ a * 5 ^ b < 2 ^ 16 →
    (periodDouble (2 ^ a * 5 ^ b)).trunc =
      if 2 ^ a * 5 ^ b ∈ shortPeriods then 10 ^ 9 / (2 ^ a * 5 ^ b) - 1
      else 10 ^ 9 / (2 ^ a * 5 ^ b) := by
  decide +kernel

theorem dvd_of_mem_shortPeriods : ∀ f ∈ shortPeriods, f ∣ 10 ^ 9 := by
  decide

theorem periodnsDouble_of_dvd (frequency : UInt16) (hdvd : frequency.toNat ∣ 10 ^ 9) :
    periodnsDouble frequency =
      if frequency.toNat ∈ shortPeriods then periodns frequency - 1 else periodns frequency := by
  have hlt : frequency.toNat < 2 ^ 16 := frequency.toNat_lt
  obtain ⟨a, b, ha, hb, hfactors⟩ := dvd_ten_pow hdvd
  rw [hfactors] at hlt
  unfold periodnsDouble periodns
  rw [hfactors]
  exact whole_periods a ha b hb hlt

theorem periodnsDouble_of_not_dvd (frequency : UInt16) (hne : frequency ≠ 0)
    (hdvd : ¬ frequency.toNat ∣ 10 ^ 9) : periodnsDouble frequency = periodns frequency := by
  have hpos : 0 < frequency.toNat := Nat.pos_of_ne_zero fun h => hne (UInt16.toNat_inj.1 h)
  have hpos' : (0 : ℚ) < frequency.toNat := by exact_mod_cast hpos
  -- the errors are too small to reach the next whole number
  refine Double.trunc_eq_div hpos (lt_of_le_of_lt (abs_period_sub_le hpos) ?_) hdvd
  rw [div_mul_eq_mul_div]
  refine div_lt_div_of_pos_right ?_ hpos'
  norm_num [unitRoundoff]

/-- The period that `Speaker_PlayPitch` computes is the exact one, but for the frequencies with a
period of a whole number of nanoseconds that is cut off below it. -/
theorem periodnsDouble_eq (frequency : UInt16) (hne : frequency ≠ 0) :
    periodnsDouble frequency =
      if frequency.toNat ∈ shortPeriods then periodns frequency - 1 else periodns frequency := by
  by_cases hdvd : frequency.toNat ∣ 10 ^ 9
  · exact periodnsDouble_of_dvd frequency hdvd
  · have hnot : frequency.toNat ∉ shortPeriods :=
      fun hmem => hdvd (dvd_of_mem_shortPeriods _ hmem)
    rw [if_neg hnot]
    exact periodnsDouble_of_not_dvd frequency hne hdvd

theorem periodnsDouble_eq_concert :
    (440 : UInt16) ≠ 0 ∧ periodnsDouble 440 =
      if (440 : UInt16).toNat ∈ shortPeriods then periodns 440 - 1 else periodns 440 :=
  ⟨by decide, periodnsDouble_eq 440 (by decide)⟩

end BatteryInfo.Speaker
