import Mathlib.Algebra.Field.Rat
import Mathlib.Algebra.Order.Field.Basic
import Mathlib.Algebra.Order.Ring.Rat
import Mathlib.Tactic.FieldSimp
import Mathlib.Tactic.Ring
import BatteryInfo.Decimal.Numerals

/-!
# Decimals with a point

A `Fixed` is a decimal with a point: an optional minus sign, digits, a point and more digits. A
text is that of one such decimal at most (`Fixed.text_injective`). Inserting a point into the
numeral of an integer gives a decimal when there are enough digits to put it before
(`insertAt_ofInt`); otherwise it lands in front of the sign or outside of the text.
-/

namespace Decimal

/-- `std::string::insert`, which throws if the position is behind the end. -/
def insertAt (pos : Nat) (inserted text : List Char) : Option (List Char) :=
  if pos ≤ text.length then some (text.take pos ++ inserted ++ text.drop pos) else none

/-- A decimal with a point. -/
structure Fixed where
  negative : Bool
  whole : List Char
  frac : List Char
  whole_digits : ∀ c ∈ whole, c.isDigit
  frac_digits : ∀ c ∈ frac, c.isDigit

namespace Fixed

/-- How it is written. -/
def text (f : Fixed) : List Char :=
  (if f.negative then ['-'] else []) ++ (f.whole ++ '.' :: f.frac)

/-- What it denotes. -/
def value (f : Fixed) : ℚ :=
  (if f.negative then -1 else 1) * (ofDigits f.whole + ofDigits f.frac / 10 ^ f.frac.length)

/-- The sign comes before any digit. -/
theorem head_text (f : Fixed) :
    f.text.head? = some '-' ∧ f.negative = true ∨
      f.text.head? ≠ some '-' ∧ f.negative = false := by
  cases hsign : f.negative with
  | true => exact .inl ⟨by simp [text, hsign], rfl⟩
  | false =>
      refine .inr ⟨fun hhead => ?_, rfl⟩
      cases hwhole : f.whole with
      | nil => simp [text, hsign, hwhole] at hhead
      | cons c rest =>
          have hdigit := f.whole_digits c (by simp [hwhole])
          simp only [text, hsign, hwhole, Bool.false_eq_true, if_false, List.nil_append,
            List.cons_append, List.head?_cons, Option.some.injEq] at hhead
          rw [hhead] at hdigit
          simp at hdigit

/-- The digits before the point are read up to it. -/
theorem takeWhile_isDigit (f : Fixed) :
    (f.whole ++ '.' :: f.frac).takeWhile Char.isDigit = f.whole :=
  Decimal.takeWhile_isDigit f.whole_digits (by simp)

/-- A text is that of one decimal at most. -/
theorem text_injective : Function.Injective text := by
  intro f g heq
  have hsign : f.negative = g.negative := by
    rcases f.head_text with ⟨hf, hfsign⟩ | ⟨hf, hfsign⟩ <;>
      rcases g.head_text with ⟨hg, hgsign⟩ | ⟨hg, hgsign⟩
    · rw [hfsign, hgsign]
    · exact absurd (heq ▸ hf) hg
    · exact absurd (heq ▸ hg) hf
    · rw [hfsign, hgsign]
  have hrest : f.whole ++ '.' :: f.frac = g.whole ++ '.' :: g.frac := by
    unfold text at heq
    rw [hsign] at heq
    exact List.append_cancel_left heq
  have hwhole : f.whole = g.whole := by
    rw [← f.takeWhile_isDigit, hrest, g.takeWhile_isDigit]
  have hfrac : f.frac = g.frac := by
    rw [hwhole] at hrest
    exact (List.cons.inj (List.append_cancel_left hrest)).2
  cases f
  cases g
  cases hsign
  cases hwhole
  cases hfrac
  rfl

/-- After a point comes no sign. -/
theorem text_ne_point_minus (f : Fixed) (rest : List Char) : f.text ≠ '.' :: '-' :: rest := by
  intro heq
  rcases f.head_text with ⟨hhead, _⟩ | ⟨_, hsign⟩
  · simp [heq] at hhead
  · cases hwhole : f.whole with
    | nil =>
        have hfrac : f.frac = '-' :: rest := by simpa [text, hsign, hwhole] using heq
        have hdigit := f.frac_digits '-' (by simp [hfrac])
        simp at hdigit
    | cons c digits =>
        have hc : c = '.' := by
          simp only [text, hsign, hwhole, Bool.false_eq_true, if_false, List.nil_append,
            List.cons_append, List.cons.injEq] at heq
          exact heq.1
        have hdigit := f.whole_digits c (by simp [hwhole])
        rw [hc] at hdigit
        simp at hdigit

/-- The numeral of an integer with a point before its last `places` digits. -/
def ofInt (places : Nat) (n : Int) : Fixed where
  negative := n < 0
  whole := (Nat.toDigits 10 n.natAbs).take ((Nat.toDigits 10 n.natAbs).length - places)
  frac := (Nat.toDigits 10 n.natAbs).drop ((Nat.toDigits 10 n.natAbs).length - places)
  whole_digits := fun _ hc => isDigit_of_mem_toDigits (List.mem_of_mem_take hc)
  frac_digits := fun _ hc => isDigit_of_mem_toDigits (List.mem_of_mem_drop hc)

section OfInt

variable {places : Nat} {n : Int}

theorem length_frac_ofInt (hplaces : places ≤ (Nat.toDigits 10 n.natAbs).length) :
    (ofInt places n).frac.length = places := by
  simp only [ofInt, List.length_drop]
  omega

/-- There are digits before the point if there are more of them than come after it. -/
theorem whole_ofInt_eq_nil :
    (ofInt places n).whole = [] ↔ (Nat.toDigits 10 n.natAbs).length ≤ places := by
  simp [ofInt, Nat.sub_eq_zero_iff_le]

/-- The point divides by a power of ten. -/
theorem value_ofInt (hplaces : places ≤ (Nat.toDigits 10 n.natAbs).length) :
    (ofInt places n).value = n / 10 ^ places := by
  have hdigits : 10 ^ places * ofDigits (ofInt places n).whole + ofDigits (ofInt places n).frac =
      n.natAbs := by
    have happend : (ofInt places n).whole ++ (ofInt places n).frac = Nat.toDigits 10 n.natAbs :=
      List.take_append_drop _ _
    have hread := Nat.ofDigitChars_ten_toDigits (n := n.natAbs)
    rw [← happend, Nat.ofDigitChars_append, Nat.ofDigitChars_eq_ofDigitChars_zero,
      length_frac_ofInt hplaces] at hread
    exact hread
  have hcast : (10 : ℚ) ^ places * ofDigits (ofInt places n).whole +
      ofDigits (ofInt places n).frac = n.natAbs := by
    exact_mod_cast hdigits
  have hpow : (10 : ℚ) ^ places ≠ 0 := pow_ne_zero _ (by norm_num)
  have hvalue : (ofDigits (ofInt places n).whole : ℚ) +
      ofDigits (ofInt places n).frac / 10 ^ places = n.natAbs / 10 ^ places := by
    rw [← hcast]
    field_simp
  unfold value
  rw [length_frac_ofInt hplaces, hvalue]
  by_cases hneg : n < 0
  · have habs : (n.natAbs : ℚ) = -n := by
      rw [Nat.cast_natAbs, abs_of_neg hneg, Int.cast_neg]
    simp [ofInt, hneg, habs, neg_div]
  · have habs : (n.natAbs : ℚ) = n := by
      rw [Nat.cast_natAbs, abs_of_nonneg (not_lt.1 hneg)]
    simp [ofInt, hneg, habs]

end OfInt

end Fixed

/-- A point that is inserted far enough from the end, but behind the sign, makes a decimal. -/
theorem insertAt_ofInt {places : Nat} {n : Int}
    (hplaces : places ≤ (Nat.toDigits 10 n.natAbs).length) :
    insertAt ((ofInt n).length - places) ['.'] (ofInt n) = some (Fixed.ofInt places n).text := by
  unfold insertAt
  rw [if_pos (Nat.sub_le _ _)]
  by_cases hneg : n < 0
  · have hpos : ('-' :: Nat.toDigits 10 n.natAbs).length - places =
        (Nat.toDigits 10 n.natAbs).length - places + 1 := by
      rw [List.length_cons]
      omega
    simp only [ofInt, if_pos hneg, hpos, List.take_succ_cons, List.drop_succ_cons]
    simp [Fixed.text, Fixed.ofInt, hneg]
  · simp [ofInt, Fixed.text, Fixed.ofInt, hneg]

/-- Cutting off moves a quotient by less than one. -/
theorem abs_tdiv_sub_lt (n : Int) {unit : Int} (hunit : 0 < unit) :
    |((n.tdiv unit : Int) : ℚ) - n / unit| < 1 := by
  have hpos : (0 : ℚ) < unit := by exact_mod_cast hunit
  have hsplit : (n : ℚ) = unit * (n.tdiv unit : Int) + (n.tmod unit : Int) := by
    exact_mod_cast (Int.mul_tdiv_add_tmod n unit).symm
  have hrest : |((n.tmod unit : Int) : ℚ)| < unit := by
    have hlt : |n.tmod unit| < unit := by
      have hmod := Nat.mod_lt n.natAbs (Int.natAbs_pos.2 hunit.ne')
      rw [Int.abs_eq_natAbs, Int.natAbs_tmod]
      omega
    exact_mod_cast hlt
  have hdiff : ((n.tdiv unit : Int) : ℚ) - n / unit = -((n.tmod unit : Int) : ℚ) / unit := by
    rw [hsplit]
    field_simp
    ring
  rw [hdiff, abs_div, abs_neg, abs_of_pos hpos, div_lt_one hpos]
  exact hrest

end Decimal
