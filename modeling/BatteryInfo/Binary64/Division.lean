import Mathlib.Algebra.Order.Field.Rat
import Mathlib.Data.Nat.Cast.Field
import Mathlib.Data.Nat.Log
import Mathlib.Tactic.FieldSimp
import Mathlib.Tactic.Linarith
import Mathlib.Tactic.Positivity
import Mathlib.Tactic.Ring

/-!
# Division of binary64 numbers

Quotients of positive doubles that are neither so small nor so large that the exponent matters.
Each operation rounds to a significand of 53 binary digits, so that the value is off by at most
one part in `2 ^ 53` (`abs_value_ofRatio`). What is left of a fraction `n / d` when it is computed
with such errors and cut off is the quotient `n / d`, unless `d` divides `n`
(`Double.trunc_eq_div`).
-/

namespace Binary64

/-- A positive double `significand / 2 ^ scaling`. -/
structure Double where
  significand : Nat
  scaling : Nat
deriving DecidableEq

/-- The integer nearest to `a / b`, the even one of two. -/
def nearest (a b : Nat) : Nat :=
  if 2 * (a % b) < b ∨ 2 * (a % b) = b ∧ a / b % 2 = 0 then a / b else a / b + 1

/-- The number of binary digits after the point that a significand of 53 leaves for `a / b`. -/
def digits (a b : Nat) : Nat :=
  let s := 53 + b.log2 - a.log2
  if 2 ^ 53 * b ≤ a * 2 ^ s then s - 1 else s

/-- The double nearest to `a / b`. -/
def ofRatio (a b : Nat) : Double :=
  ⟨nearest (a * 2 ^ digits a b) b, digits a b⟩

namespace Double

/-- An integer of at most 53 binary digits. -/
def ofNat (n : Nat) : Double :=
  ⟨n, 0⟩

/-- The quotient. -/
def div (x y : Double) : Double :=
  ofRatio (x.significand * 2 ^ y.scaling) (y.significand * 2 ^ x.scaling)

/-- The conversion to an integer. -/
def trunc (x : Double) : Nat :=
  x.significand / 2 ^ x.scaling

/-- The number that a double stands for. -/
def value (x : Double) : ℚ :=
  x.significand / 2 ^ x.scaling

@[simp] theorem value_ofNat (n : Nat) : (ofNat n).value = n := by
  simp [value, ofNat]

end Double

/-- The rounding error of one operation. -/
def unitRoundoff : ℚ := 1 / 2 ^ 53

theorem nearest_bounds (a : Nat) {b : Nat} (hb : 0 < b) :
    2 * (nearest a b * b) ≤ 2 * a + b ∧ 2 * a ≤ 2 * (nearest a b * b) + b := by
  have hsplit := Nat.div_add_mod a b
  have hmod := Nat.mod_lt a hb
  have hcomm : a / b * b = b * (a / b) := Nat.mul_comm _ _
  unfold nearest
  split
  · omega
  · rw [Nat.add_mul, Nat.one_mul]
    omega

/-- The significand has 53 binary digits. -/
theorem le_digits {a b : Nat} (ha : 0 < a) (hlt : a < 2 ^ 53 * b) :
    2 ^ 52 * b ≤ a * 2 ^ digits a b := by
  have hlow : 2 ^ a.log2 ≤ a := Nat.log2_self_le (by omega)
  have hhigh : b < 2 ^ (b.log2 + 1) := Nat.lt_log2_self
  have hlog : a.log2 ≤ 53 + b.log2 := by
    have hpow : 2 ^ a.log2 < 2 ^ (53 + (b.log2 + 1)) := by
      rw [Nat.pow_add]
      calc 2 ^ a.log2 ≤ a := hlow
        _ < 2 ^ 53 * b := hlt
        _ ≤ 2 ^ 53 * 2 ^ (b.log2 + 1) := Nat.mul_le_mul_left _ hhigh.le
    have := (Nat.pow_lt_pow_iff_right (by decide : 1 < 2)).1 hpow
    omega
  unfold digits
  dsimp only
  split
  · rename_i hmany
    have hpos : 53 + b.log2 - a.log2 ≠ 0 := by
      intro hzero
      rw [hzero, Nat.pow_zero, Nat.mul_one] at hmany
      omega
    obtain ⟨s, hs⟩ := Nat.exists_eq_succ_of_ne_zero hpos
    have hassoc : a * 2 ^ s.succ = 2 * (a * 2 ^ s) := by
      rw [Nat.succ_eq_add_one, Nat.pow_succ]
      ring
    rw [hs, hassoc] at hmany
    rw [hs, Nat.succ_sub_one]
    omega
  · calc 2 ^ 52 * b ≤ 2 ^ 52 * 2 ^ (b.log2 + 1) := Nat.mul_le_mul_left _ hhigh.le
      _ = 2 ^ (a.log2 + (53 + b.log2 - a.log2)) := by
        rw [← Nat.pow_add]
        congr 1
        omega
      _ ≤ a * 2 ^ (53 + b.log2 - a.log2) := by
        rw [Nat.pow_add]
        exact Nat.mul_le_mul_right _ hlow

/-- A rounded fraction is off by at most one part in `2 ^ 53`. -/
theorem abs_value_ofRatio {a b : Nat} (ha : 0 < a) (hb : 0 < b) (hlt : a < 2 ^ 53 * b) :
    |(ofRatio a b).value - a / b| ≤ a / b * unitRoundoff := by
  have hdigits := le_digits ha hlt
  obtain ⟨hle, hge⟩ := nearest_bounds (a * 2 ^ digits a b) hb
  have hvalue : (ofRatio a b).value = nearest (a * 2 ^ digits a b) b / 2 ^ digits a b := rfl
  have hb' : (0 : ℚ) < b := by exact_mod_cast hb
  have hs : (0 : ℚ) < 2 ^ digits a b := by positivity
  have hdigits' : (2 : ℚ) ^ 52 * b ≤ a * 2 ^ digits a b := by exact_mod_cast hdigits
  have hle' : 2 * ((nearest (a * 2 ^ digits a b) b : ℚ) * b) ≤ 2 * (a * 2 ^ digits a b) + b := by
    exact_mod_cast hle
  have hge' : 2 * ((a : ℚ) * 2 ^ digits a b) ≤ 2 * (nearest (a * 2 ^ digits a b) b * b) + b := by
    exact_mod_cast hge
  have hdiff : (ofRatio a b).value - a / b =
      (nearest (a * 2 ^ digits a b) b * b - a * 2 ^ digits a b) / (2 ^ digits a b * b) := by
    rw [hvalue]
    field_simp
  have hbound : (a : ℚ) / b * unitRoundoff =
      (a * 2 ^ digits a b * unitRoundoff) / (2 ^ digits a b * b) := by
    field_simp
  rw [hdiff, hbound, abs_div, abs_of_pos (mul_pos hs hb')]
  refine div_le_div_of_nonneg_right ?_ (mul_pos hs hb').le
  rw [abs_le, unitRoundoff]
  constructor <;> linarith

theorem value_pos_of_error {x v : ℚ} (hv : 0 < v) (h : |x - v| ≤ v * unitRoundoff) : 0 < x := by
  have := (abs_le.1 h).1
  have : v * unitRoundoff < v := by
    rw [unitRoundoff]
    linarith
  linarith

/-- The error of a quotient. -/
theorem Double.abs_value_div {x y : Double} (hx : 0 < x.value) (hy : 0 < y.value)
    (hlt : x.value / y.value < 2 ^ 53) :
    |(x.div y).value - x.value / y.value| ≤ x.value / y.value * unitRoundoff := by
  have hxs : 0 < x.significand := by
    by_contra h
    simp [value, Nat.eq_zero_of_not_pos h] at hx
  have hys : 0 < y.significand := by
    by_contra h
    simp [value, Nat.eq_zero_of_not_pos h] at hy
  have hys' : (0 : ℚ) < y.significand := by exact_mod_cast hys
  have hratio : x.value / y.value =
      ((x.significand * 2 ^ y.scaling : Nat) : ℚ) / (y.significand * 2 ^ x.scaling : Nat) := by
    unfold value
    push_cast
    field_simp
  have hnum : 0 < x.significand * 2 ^ y.scaling := by positivity
  have hden : 0 < y.significand * 2 ^ x.scaling := by positivity
  rw [hratio] at hlt ⊢
  refine abs_value_ofRatio hnum hden ?_
  have hden' : (0 : ℚ) < (y.significand * 2 ^ x.scaling : Nat) := by exact_mod_cast hden
  rw [div_lt_iff₀ hden'] at hlt
  exact_mod_cast hlt

/-- The error of the quotient of two numbers that have an error of their own. -/
theorem abs_div_sub_div_le {x y z v w : ℚ} (hv : 0 < v) (hw : 0 < w)
    (hx : |x - v| ≤ v * unitRoundoff) (hy : |y - w| ≤ w * unitRoundoff)
    (hz : |z - x / y| ≤ x / y * unitRoundoff) : |z - v / w| ≤ v / w * (4 * unitRoundoff) := by
  have hx0 := value_pos_of_error hv hx
  have hy0 := value_pos_of_error hw hy
  obtain ⟨hxlow, hxhigh⟩ := abs_le.1 hx
  obtain ⟨hylow, hyhigh⟩ := abs_le.1 hy
  obtain ⟨hzlow, hzhigh⟩ := abs_le.1 hz
  have hu : 0 < 1 - unitRoundoff := by norm_num [unitRoundoff]
  have hu' : 0 < 1 + unitRoundoff := by norm_num [unitRoundoff]
  have hvw : 0 < v / w := div_pos hv hw
  have hhigh : x / y ≤ v / w * ((1 + unitRoundoff) / (1 - unitRoundoff)) := by
    rw [div_mul_div_comm]
    exact div_le_div₀ (by positivity) (by linarith) (by positivity) (by linarith)
  have hlow : v / w * ((1 - unitRoundoff) / (1 + unitRoundoff)) ≤ x / y := by
    rw [div_mul_div_comm]
    exact div_le_div₀ hx0.le (by linarith) hy0 (by linarith)
  have hfactor : (1 + unitRoundoff) / (1 - unitRoundoff) * (1 + unitRoundoff) ≤
      1 + 4 * unitRoundoff := by norm_num [unitRoundoff]
  have hfactor' : 1 - 4 * unitRoundoff ≤
      (1 - unitRoundoff) / (1 + unitRoundoff) * (1 - unitRoundoff) := by
    norm_num [unitRoundoff]
  rw [abs_le]
  constructor
  · have hbelow : v / w * (1 - 4 * unitRoundoff) ≤ z := by
      calc v / w * (1 - 4 * unitRoundoff)
          ≤ v / w * ((1 - unitRoundoff) / (1 + unitRoundoff) * (1 - unitRoundoff)) :=
            mul_le_mul_of_nonneg_left hfactor' hvw.le
        _ = v / w * ((1 - unitRoundoff) / (1 + unitRoundoff)) * (1 - unitRoundoff) := by ring
        _ ≤ x / y * (1 - unitRoundoff) := mul_le_mul_of_nonneg_right hlow hu.le
        _ ≤ z := by linarith
    linarith
  · have habove : z ≤ v / w * (1 + 4 * unitRoundoff) := by
      calc z ≤ x / y * (1 + unitRoundoff) := by linarith
        _ ≤ v / w * ((1 + unitRoundoff) / (1 - unitRoundoff)) * (1 + unitRoundoff) :=
            mul_le_mul_of_nonneg_right hhigh hu'.le
        _ = v / w * ((1 + unitRoundoff) / (1 - unitRoundoff) * (1 + unitRoundoff)) := by ring
        _ ≤ v / w * (1 + 4 * unitRoundoff) := mul_le_mul_of_nonneg_left hfactor hvw.le
    linarith

/-! ## Cutting off -/

theorem Double.trunc_eq {x : Double} {q : Nat} (hle : (q : ℚ) ≤ x.value)
    (hlt : x.value < q + 1) : x.trunc = q := by
  have hs : (0 : ℚ) < 2 ^ x.scaling := by positivity
  unfold value at hle hlt
  rw [le_div_iff₀ hs] at hle
  rw [div_lt_iff₀ hs] at hlt
  refine Nat.div_eq_of_lt_le ?_ ?_
  · exact_mod_cast hle
  · exact_mod_cast hlt

/-- A fraction that is not an integer is at least `1 / d` away from the next one. -/
theorem Double.trunc_eq_div {x : Double} {n d : Nat} (hd : 0 < d)
    (herror : |x.value - n / d| < 1 / d) (hnot : ¬ d ∣ n) : x.trunc = n / d := by
  have hd' : (0 : ℚ) < d := by exact_mod_cast hd
  have hmod : 1 ≤ n % d := Nat.one_le_iff_ne_zero.2 fun h => hnot (Nat.dvd_of_mod_eq_zero h)
  have hlt := Nat.mod_lt n hd
  have hsplit : ((n : ℚ)) = d * (n / d : Nat) + (n % d : Nat) := by
    exact_mod_cast (Nat.div_add_mod n d).symm
  have hmod' : (1 : ℚ) ≤ (n % d : Nat) := by exact_mod_cast hmod
  have hlt' : ((n % d : Nat) : ℚ) + 1 ≤ d := by exact_mod_cast hlt
  have hfraction : (n : ℚ) / d = (n / d : Nat) + (n % d : Nat) / d := by
    rw [hsplit]
    field_simp
  have hlow : (1 : ℚ) / d ≤ (n % d : Nat) / d := div_le_div_of_nonneg_right hmod' hd'.le
  have hhigh : ((n % d : Nat) : ℚ) / d ≤ 1 - 1 / d := by
    rw [div_le_iff₀ hd', sub_mul, one_div, inv_mul_cancel₀ hd'.ne']
    linarith
  obtain ⟨hleft, hright⟩ := abs_lt.1 herror
  rw [hfraction] at hleft hright
  refine Double.trunc_eq ?_ ?_ <;> linarith

end Binary64
