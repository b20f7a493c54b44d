import Mathlib.Data.Nat.Log
import Mathlib.Tactic.Linarith
import Mathlib.Tactic.Ring

/-!
# Scaling integers by a binary64 constant

What C makes of `n * c` when `n` is an `int`, `c` a double constant such as `0.001` and the
result is stored in an `int` again: the product is rounded to a double and then cut off. The
constant is not the decimal that it is written as, and the product is not exact either;
`scale_eq_tdiv` says when all this comes to a division that cuts off.
-/

namespace Binary64

/-- The number of binary digits of `p` that a significand of 53 has no room for. -/
def excess (p : Nat) : Nat :=
  p.log2 + 1 - 53

/-- The nearest number with a significand of 53 binary digits, the even one of two. -/
def round (p : Nat) : Nat :=
  let ulp := 2 ^ excess p
  if 2 * (p % ulp) < ulp ∨ 2 * (p % ulp) = ulp ∧ p / ulp % 2 = 0 then p / ulp * ulp
  else (p / ulp + 1) * ulp

/-- A positive double below 1: `significand / 2 ^ scaling`. -/
structure Fraction where
  significand : Nat
  scaling : Nat
  normal : 2 ^ 52 ≤ significand ∧ significand < 2 ^ 53

/-- The product of an integer of less than 53 binary digits and a constant, rounded and then cut
off. -/
def scale (n : Int) (c : Fraction) : Int :=
  n.sign * (round (n.natAbs * c.significand) / 2 ^ c.scaling : Nat)

theorem div_mul_le_round (p : Nat) : p / 2 ^ excess p * 2 ^ excess p ≤ round p := by
  unfold round
  dsimp only
  split
  · exact Nat.le_refl _
  · exact Nat.mul_le_mul_right _ (Nat.le_succ _)

theorem round_le_add (p : Nat) : round p ≤ p + 2 ^ excess p := by
  have hfloor : p / 2 ^ excess p * 2 ^ excess p ≤ p := Nat.div_mul_le_self _ _
  unfold round
  dsimp only
  split
  · omega
  · rw [Nat.add_mul, Nat.one_mul]
    omega

/-- Rounding does not go below a number that needs no rounding. -/
theorem le_round {p k e : Nat} (hexcess : excess p ≤ e) (hle : k * 2 ^ e ≤ p) :
    k * 2 ^ e ≤ round p := by
  have hpow : 2 ^ e = 2 ^ (e - excess p) * 2 ^ excess p := by
    rw [← Nat.pow_add, Nat.sub_add_cancel hexcess]
  rw [hpow, ← Nat.mul_assoc] at hle ⊢
  refine le_trans ?_ (div_mul_le_round p)
  exact Nat.mul_le_mul_right _ ((Nat.le_div_iff_mul_le (by positivity)).2 hle)

/-- Rounding adds less than one part in `2 ^ 52`. -/
theorem round_mul_le (p : Nat) : round p * 2 ^ 52 ≤ p * (2 ^ 52 + 1) := by
  by_cases hsmall : excess p = 0
  · have hexact : round p = p := by simp [round, hsmall, Nat.mod_one]
    rw [hexact]
    exact Nat.mul_le_mul_left _ (Nat.le_succ _)
  · have hpos : p ≠ 0 := by
      rintro rfl
      simp [excess] at hsmall
    have hulp : 2 ^ excess p * 2 ^ 52 ≤ p := by
      rw [← Nat.pow_add]
      have hlog : excess p + 52 = p.log2 := by
        unfold excess at hsmall ⊢
        omega
      rw [hlog]
      exact Nat.log2_self_le hpos
    calc round p * 2 ^ 52 ≤ (p + 2 ^ excess p) * 2 ^ 52 := Nat.mul_le_mul_right _ (round_le_add p)
      _ = p * 2 ^ 52 + 2 ^ excess p * 2 ^ 52 := Nat.add_mul _ _ _
      _ ≤ p * (2 ^ 52 + 1) := by rw [Nat.mul_add, Nat.mul_one]; exact Nat.add_le_add_left hulp _

theorem excess_le {p e : Nat} (h : p < 2 ^ (e + 53)) : excess p ≤ e := by
  unfold excess
  by_cases hzero : p = 0
  · simp [hzero]
  · have := (Nat.log2_lt hzero).2 h
    omega

/-- The sign is put back on the quotient of the absolute value. -/
theorem sign_mul_div (n : Int) (d : Nat) : n.sign * (n.natAbs / d : Nat) = n.tdiv d := by
  have hpos (a : Nat) : (a : Int).sign * (a / d : Nat) = (a : Int).tdiv d := by
    rw [← Int.ofNat_tdiv]
    by_cases hzero : a = 0
    · simp [hzero]
    · rw [Int.sign_eq_one_of_pos (by omega), Int.one_mul]
  rcases Int.natAbs_eq n with hn | hn
  · rw [hn, Int.natAbs_natCast]
    exact hpos n.natAbs
  · rw [hn, Int.natAbs_neg, Int.natAbs_natCast, Int.sign_neg, Int.neg_mul, Int.neg_tdiv,
      hpos n.natAbs]

/-- A constant that is at least `1 / d`, and so little above it that the error does not reach a
multiple of it, scales an `int` as a division by `d` does. -/
theorem scale_eq_tdiv {c : Fraction} {d : Nat} {n : Int} (hn : n.natAbs ≤ 2 ^ 31) (hd : 0 < d)
    (hlow : 2 ^ c.scaling ≤ c.significand * d)
    (hhigh : (2 ^ 31 + 1) * (c.significand * d * (2 ^ 52 + 1)) <
      (2 ^ 31 + 1) * (2 ^ c.scaling * 2 ^ 52) + c.significand * (2 ^ 52 + 1))
    (hscaling : 31 ≤ c.scaling) : scale n c = n.tdiv d := by
  have hquot : round (n.natAbs * c.significand) / 2 ^ c.scaling = n.natAbs / d := by
    refine Nat.div_eq_of_lt_le ?_ ?_
    · -- the multiple of `1 / d` below the product has few enough digits
      refine le_round (excess_le ?_) ?_
      · calc n.natAbs * c.significand < 2 ^ 31 * 2 ^ 53 := by
              exact Nat.mul_lt_mul_of_le_of_lt hn c.normal.2 (by decide)
          _ ≤ 2 ^ (c.scaling + 53) := by
              rw [Nat.pow_add]
              exact Nat.mul_le_mul_right _ (Nat.pow_le_pow_right (by decide) hscaling)
      · calc n.natAbs / d * 2 ^ c.scaling ≤ n.natAbs / d * (c.significand * d) :=
              Nat.mul_le_mul_left _ hlow
          _ = n.natAbs / d * d * c.significand := by ring
          _ ≤ n.natAbs * c.significand := Nat.mul_le_mul_right _ (Nat.div_mul_le_self _ _)
    · have hnext : n.natAbs * c.significand + c.significand ≤
          (n.natAbs / d + 1) * (c.significand * d) := by
        calc n.natAbs * c.significand + c.significand = (n.natAbs + 1) * c.significand := by ring
          _ ≤ ((n.natAbs / d + 1) * d) * c.significand :=
              Nat.mul_le_mul_right _ (by
                rw [Nat.add_mul, Nat.one_mul]
                exact Nat.lt_div_mul_add hd)
          _ = (n.natAbs / d + 1) * (c.significand * d) := by ring
      have hround := round_mul_le (n.natAbs * c.significand)
      have hsteps : n.natAbs / d + 1 ≤ 2 ^ 31 + 1 :=
        Nat.succ_le_succ ((Nat.div_le_self _ _).trans hn)
      obtain ⟨δ, hδ⟩ : ∃ δ, c.significand * d * (2 ^ 52 + 1) = 2 ^ c.scaling * 2 ^ 52 + δ :=
        Nat.exists_eq_add_of_le (Nat.mul_le_mul hlow (Nat.le_succ _))
      -- the errors of all the multiples below the product are less than the significand
      have herror : (n.natAbs / d + 1) * δ < c.significand * (2 ^ 52 + 1) := by
        rw [hδ, Nat.mul_add] at hhigh
        exact lt_of_le_of_lt (Nat.mul_le_mul_right δ hsteps) (Nat.lt_of_add_lt_add_left hhigh)
      have hscaled : round (n.natAbs * c.significand) * 2 ^ 52 +
          c.significand * (2 ^ 52 + 1) ≤
            (n.natAbs / d + 1) * (2 ^ c.scaling * 2 ^ 52) + (n.natAbs / d + 1) * δ := by
        calc _ ≤ n.natAbs * c.significand * (2 ^ 52 + 1) + c.significand * (2 ^ 52 + 1) :=
              Nat.add_le_add_right hround _
          _ = (n.natAbs * c.significand + c.significand) * (2 ^ 52 + 1) := by ring
          _ ≤ (n.natAbs / d + 1) * (c.significand * d) * (2 ^ 52 + 1) :=
              Nat.mul_le_mul_right _ hnext
          _ = _ := by rw [Nat.mul_assoc, hδ, Nat.mul_add]
      refine Nat.lt_of_mul_lt_mul_right (a := 2 ^ 52) ?_
      rw [Nat.mul_assoc]
      omega
  rw [scale, hquot, sign_mul_div]

end Binary64
