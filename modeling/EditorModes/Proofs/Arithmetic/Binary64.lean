import EditorModes.Proofs.Arithmetic.Rounding
import Mathlib.Data.Nat.Cast.Order.Field
import Mathlib.Tactic.NormNum
import Mathlib.Tactic.Positivity

/-!
# How exact binary numbers are

A number that rounds to one of 53 significant bits is away from it by no more than a part in
`2 ^ 53` of itself, numbers next to zero apart (`Binary64.IsNear`).  Reading a decimal and adding
round once each (`Binary64.ofDecimal_approximates`, `Binary64.addInt_approximates`), but whole
numbers up to `2 ^ 53` stay as they are.  What is written is the nearest decimal
(`Binary64.roundQuotient_units_isNearest`).
-/

namespace EditorModes.Binary64

/-- The number that is counted in units; none when it is out of range. -/
def value? : Binary64 → Option ℚ
  | finite units => some (units / one)
  | infinite _ => none

/-- A number is as close to another one as 53 significant bits can be. -/
def IsNear (y v : ℚ) : Prop :=
  |y - v| ≤ (|v| + 1 / 2 ^ 100) / 2 ^ 53

/-- A number in range that is as close to another one as 53 significant bits can be. -/
def Approximates (x : Binary64) (v : ℚ) : Prop :=
  ∃ y, x.value? = some y ∧ IsNear y v

/-- A whole number with a sign. -/
def signed (negative : Bool) (n : ℕ) : ℤ :=
  if negative then -n else n

variable {n d m : ℕ} {x : Binary64} {v : ℚ}

/-! ### Units -/

theorem exists_one_eq_two_pow :
  ∃ e, one = 2 ^ e ∧ bound = 2 ^ (e + 1024) ∧ 152 ≤ e
  := ⟨1074, by decide +kernel⟩

theorem one_pos :
  0 < one
  := by
  obtain ⟨e, units, -⟩ := exists_one_eq_two_pow
  rw [units]
  exact Nat.two_pow_pos e

theorem cast_one_pos :
  (0 : ℚ) < one
  := Nat.cast_pos.mpr one_pos

theorem lt_bound :
  2 ^ 102 * one < bound
  := by
  obtain ⟨e, units, range, -⟩ := exists_one_eq_two_pow
  rw [units, range, ← pow_add]
  exact Nat.pow_lt_pow_right (by decide) (by omega)

theorem unit_le :
  (2 : ℚ) ^ 52 / one ≤ 1 / 2 ^ 100
  := by
  obtain ⟨e, units, -, many⟩ := exists_one_eq_two_pow
  rw [units, Nat.cast_pow, Nat.cast_ofNat, div_le_div_iff₀ (by positivity) (by positivity), one_mul,
    ← pow_add]
  exact pow_le_pow_right₀ (by norm_num) many

/-! ### Rounding to significant bits -/

/-- The distance between numbers of 53 significant bits next to a whole number of units. -/
def spacing (q : ℕ) : ℕ :=
  2 ^ (q.log2 + 1 - 53)

theorem roundUnits_eq (n d : ℕ) :
  roundUnits n d = roundQuotient n (d * spacing (n / d)) * spacing (n / d)
  := rfl

theorem spacing_pos (q : ℕ) :
  0 < spacing q
  := Nat.two_pow_pos _

/-- Numbers of 53 significant bits are close to each other, or one unit apart. -/
theorem spacing_mul_le (q : ℕ) :
  spacing q * 2 ^ 52 ≤ q + 2 ^ 52
  := by
  by_cases small : q.log2 ≤ 52
  · rw [spacing, Nat.sub_eq_zero_of_le (by omega)]
    omega
  · have not_zero : q ≠ 0 := by
      rintro rfl
      simp at small
    have exponent : q.log2 + 1 - 53 + 52 = q.log2 := by omega
    rw [spacing, ← pow_add, exponent]
    exact (Nat.log2_self_le not_zero).trans (Nat.le_add_right _ _)

/-- Whole numbers of 53 significant bits are multiples of the distances between such numbers. -/
theorem spacing_dvd (small : m ≤ 2 ^ 53) (e : ℕ) :
  spacing (m * 2 ^ e) ∣ m * 2 ^ e
  := by
  rcases small.lt_or_eq with less | rfl
  · by_cases zero : m = 0
    · simp [zero]
    · have size : (m * 2 ^ e).log2 < 53 + e := by
        rw [Nat.log2_lt (by positivity), pow_add]
        exact Nat.mul_lt_mul_of_pos_right less (by positivity)
      exact (pow_dvd_pow 2 (by omega)).mul_left m
  · rw [spacing, ← pow_add, Nat.log2_two_pow]
    exact pow_dvd_pow 2 (by omega)

/-- A quotient of units is rounded by no more than a part in `2 ^ 53` of it, or half a unit. -/
theorem roundUnits_error (n : ℕ) (positive : 0 < d) :
  |(roundUnits n d : ℚ) - n / d| ≤ ((n : ℚ) / d + 2 ^ 52) / 2 ^ 53
  := by
  have divisor : (0 : ℚ) < d := by exact_mod_cast positive
  have step : (0 : ℚ) < spacing (n / d) := by exact_mod_cast spacing_pos (n / d)
  have step_le : (spacing (n / d) : ℚ) * 2 ^ 52 ≤ n / d + 2 ^ 52 := by
    have quotient_le : ((n / d : ℕ) : ℚ) ≤ n / d := Nat.cast_div_le
    have : (spacing (n / d) : ℚ) * 2 ^ 52 ≤ (n / d : ℕ) + 2 ^ 52 := by
      exact_mod_cast spacing_mul_le (n / d)
    linarith
  have near := (roundQuotient_isNearest n (Nat.mul_pos positive (spacing_pos (n / d)))).abs_le
  rw [roundUnits_eq]
  generalize roundQuotient n (d * spacing (n / d)) = k at near
  generalize spacing (n / d) = s at step step_le near
  have apart : |(n : ℚ) / d - k * s| = |(n : ℚ) / (d * s) - k| * s := by
    have scaled : (n : ℚ) / d - k * s = (n / (d * s) - k) * s := by field_simp
    rw [scaled, abs_mul, abs_of_pos step]
  push_cast at near ⊢
  rw [abs_sub_comm, apart]
  calc |(n : ℚ) / (d * s) - k| * s ≤ 1 / 2 * s := mul_le_mul_of_nonneg_right near step.le
    _ ≤ (n / d + 2 ^ 52) / 2 ^ 53 := by
      rw [le_div_iff₀ (by positivity)]
      linarith

/-- Numbers of 53 significant bits are not rounded. -/
theorem roundUnits_exact (small : m ≤ 2 ^ 53) (e : ℕ) (positive : 0 < d) :
  roundUnits (m * 2 ^ e * d) d = m * 2 ^ e
  := by
  have divides := spacing_dvd small e
  have step := spacing_pos (m * 2 ^ e)
  rw [roundUnits_eq, Nat.mul_div_cancel _ positive]
  generalize spacing (m * 2 ^ e) = s at divides step
  obtain ⟨c, parts⟩ := divides
  have divisor : (0 : ℚ) < d := by exact_mod_cast positive
  have quotient : ((m * 2 ^ e * d : ℕ) : ℚ) / (d * s : ℕ) = (c : ℤ) := by
    have : (0 : ℚ) < s := by exact_mod_cast step
    rw [parts]
    push_cast
    field_simp
  have nearest : IsNearest c ((m * 2 ^ e * d : ℕ) / (d * s : ℕ)) := by
    rw [quotient]
    exact isNearest_self c
  have rounded := roundQuotient_eq_of_isNearest (Nat.mul_pos positive step) nearest
  rw [Int.natCast_inj.mp rounded, parts, mul_comm]

/-! ### Signs -/

@[simp]
theorem abs_signed (negative : Bool) (n : ℕ) :
  |((signed negative n : ℤ) : ℚ)| = n
  := by cases negative <;> simp [signed]

/-- A whole number is signed as it is below zero or not. -/
theorem signed_natAbs (k : ℤ) :
  signed (decide (k < 0)) k.natAbs = k
  := by
  unfold signed
  by_cases below : k < 0
  · rw [if_pos (by simpa), Int.ofNat_natAbs_of_nonpos below.le, neg_neg]
  · rw [if_neg (by simpa using below), Int.natAbs_of_nonneg (by omega)]

theorem signed_mul (negative : Bool) (m n : ℕ) :
  signed negative (m * n) = signed negative m * n
  := by cases negative <;> simp [signed]

theorem abs_signed_sub (negative : Bool) (m n : ℕ) (a b : ℚ) :
  |(signed negative m : ℚ) / a - signed negative n / b| = |(m : ℚ) / a - n / b|
  := by
  cases negative with
  | false => simp [signed]
  | true =>
    rw [abs_sub_comm]
    simp only [signed, if_true, Int.cast_neg, Int.cast_natCast]
    congr 1
    ring

theorem ofUnits_eq (negative : Bool) (n d : ℕ) :
  ofUnits negative n d =
    if bound ≤ roundUnits n d then infinite negative
    else finite (signed negative (roundUnits n d))
  := rfl

theorem addInt_finite (units k : ℤ) :
  (finite units).addInt k
    = ofUnits (decide (units + k * one < 0)) (units + k * one).natAbs 1
  := rfl

/-! ### Rounding numbers -/

/-- Numbers in range are rounded by as much as 53 significant bits demand. -/
theorem ofUnits_approximates
  (negative : Bool) (n : ℕ) (positive : 0 < d) (in_range : n ≤ 2 ^ 101 * (d * one)) :
  (ofUnits negative n d).Approximates (signed negative n / (d * one))
  := by
  have divisor : (0 : ℚ) < d := by exact_mod_cast positive
  have unit := cast_one_pos
  have error := roundUnits_error n positive
  have small : (n : ℚ) / d ≤ 2 ^ 101 * one := by
    rw [div_le_iff₀ divisor]
    have : (n : ℚ) ≤ 2 ^ 101 * (d * one) := by exact_mod_cast in_range
    linarith
  have finite_units : roundUnits n d < bound := by
    refine lt_of_lt_of_le ?_ lt_bound.le
    have : (1 : ℚ) ≤ one := by exact_mod_cast one_pos
    have : (roundUnits n d : ℚ) < 2 ^ 102 * one := by
      have := (abs_le.mp error).2
      linarith
    exact_mod_cast this
  refine ⟨(signed negative (roundUnits n d) : ℤ) / one, ?_, ?_⟩
  · rw [ofUnits_eq, if_neg (by omega), value?]
  · rw [IsNear]
    calc |((signed negative (roundUnits n d) : ℤ) : ℚ) / one - signed negative n / (d * one)|
      _ = |(roundUnits n d : ℚ) / one - n / (d * one)| := abs_signed_sub ..
      _ = |(roundUnits n d : ℚ) - n / d| / one := by
        rw [← div_div, ← sub_div, abs_div, abs_of_pos unit]
      _ ≤ ((n : ℚ) / d + 2 ^ 52) / 2 ^ 53 / one := div_le_div_of_nonneg_right error unit.le
      _ = (n / (d * one) + 2 ^ 52 / one) / 2 ^ 53 := by field_simp
      _ ≤ (n / (d * one) + 1 / 2 ^ 100) / 2 ^ 53 := by
        have := unit_le
        gcongr
      _ = (|(signed negative n : ℚ) / (d * one)| + 1 / 2 ^ 100) / 2 ^ 53 := by
        rw [abs_div, abs_signed, abs_of_pos (mul_pos divisor unit)]

/-- A decimal in range is rounded by as much as 53 significant bits demand. -/
theorem ofDecimal_approximates
  (negative : Bool) {digits places : ℕ} (in_range : digits ≤ 2 ^ 101 * 10 ^ places) :
  (ofDecimal negative digits places).Approximates (signed negative digits / 10 ^ places)
  := by
  have positive : 0 < Nat.pow 10 places := Nat.pow_pos (by decide)
  have range : digits * one ≤ 2 ^ 101 * (Nat.pow 10 places * one) := by
    rw [← mul_assoc]
    exact Nat.mul_le_mul_right one in_range
  have rounded := ofUnits_approximates negative (digits * one) positive range
  rw [signed_mul] at rounded
  push_cast [Nat.pow_eq] at rounded
  rwa [mul_div_mul_right _ _ cast_one_pos.ne'] at rounded

/-- A sum in range is rounded by as much as 53 significant bits demand. -/
theorem addInt_approximates (value : x.value? = some v) (k : ℤ) (in_range : |v + k| ≤ 2 ^ 101) :
  (x.addInt k).Approximates (v + k)
  := by
  cases x with
  | infinite => simp [value?] at value
  | finite units =>
    have unit := cast_one_pos
    obtain rfl := Option.some.inj value
    have sum_eq : (units : ℚ) / one + k = ((units + k * one : ℤ) : ℚ) / one := by
      push_cast
      rw [add_div, mul_div_cancel_right₀ _ unit.ne']
    rw [sum_eq, abs_div, abs_of_pos unit, div_le_iff₀ unit] at in_range
    have range : (units + k * one).natAbs ≤ 2 ^ 101 * (1 * one) := by
      have : (((units + k * one).natAbs : ℕ) : ℚ) ≤ 2 ^ 101 * (1 * one) := by
        rw [Nat.cast_natAbs, one_mul]
        exact_mod_cast in_range
      exact_mod_cast this
    have rounded := ofUnits_approximates (decide (units + k * one < 0)) _ Nat.one_pos range
    rw [signed_natAbs, Nat.cast_one, one_mul] at rounded
    rwa [sum_eq]

/-! ### Whole numbers -/

/-- Whole numbers of 53 bits are not rounded. -/
theorem ofUnits_exact (negative : Bool) (small : m ≤ 2 ^ 53) (positive : 0 < d) :
  (ofUnits negative (m * one * d) d).value? = some ((signed negative m : ℤ) : ℚ)
  := by
  obtain ⟨e, power, -⟩ := exists_one_eq_two_pow
  have exact_units : roundUnits (m * one * d) d = m * one := by
    rw [power]
    exact roundUnits_exact small e positive
  have finite_units : m * one < bound :=
    (Nat.mul_le_mul_right one (small.trans (by decide))).trans_lt lt_bound
  rw [ofUnits_eq, exact_units, if_neg (by omega), value?, signed_mul]
  push_cast
  rw [mul_div_cancel_right₀ _ cast_one_pos.ne']

theorem ofDecimal_exact (negative : Bool) (small : m ≤ 2 ^ 53) :
  (ofDecimal negative m 0).value? = some ((signed negative m : ℤ) : ℚ)
  := by
  have := ofUnits_exact negative small Nat.one_pos
  rwa [mul_one] at this

/-- Whole numbers of 53 bits are added as they are. -/
theorem addInt_exact {k l : ℤ} (value : x.value? = some (k : ℚ)) (small : |k + l| ≤ 2 ^ 53) :
  (x.addInt l).value? = some ((k + l : ℤ) : ℚ)
  := by
  cases x with
  | infinite => simp [value?] at value
  | finite units =>
    have units_eq : units = k * one := by
      have := (div_eq_iff cast_one_pos.ne').mp (Option.some.inj value)
      exact_mod_cast this
    have sum_eq : units + l * one = (k + l) * one := by
      rw [units_eq]
      ring
    have size : (units + l * one).natAbs = (k + l).natAbs * one * 1 := by
      rw [sum_eq, Int.natAbs_mul, Int.natAbs_natCast, mul_one]
    have sign : units + l * one < 0 ↔ k + l < 0 := by
      have : (0 : ℤ) < one := by exact_mod_cast one_pos
      rw [sum_eq, mul_neg_iff]
      omega
    have natAbs_le : (k + l).natAbs ≤ 2 ^ 53 := by
      rw [Int.abs_eq_natAbs] at small
      exact_mod_cast small
    rw [addInt_finite, size, decide_eq_decide.mpr sign, ofUnits_exact _ natAbs_le Nat.one_pos,
      signed_natAbs]

/-! ### Writing decimals -/

theorem le_length_paddedDigits (length n : ℕ) :
  length ≤ (paddedDigits length n).length
  := by
  simp only [paddedDigits, List.length_append, List.length_replicate]
  omega

theorem isDigit_of_mem_paddedDigits {c : Char} {length : ℕ} (written : c ∈ paddedDigits length n) :
  c.isDigit = true
  := by
  rcases List.mem_append.mp written with zeros | digits
  · rw [List.eq_of_mem_replicate zeros]
    rfl
  · exact Nat.isDigit_of_mem_toDigits (by decide) (by decide) digits

theorem ofDigitChars_paddedDigits (length n : ℕ) :
  Nat.ofDigitChars 10 (paddedDigits length n) 0 = n
  := by
  rw [paddedDigits, Nat.ofDigitChars_append, Nat.ofDigitChars_replicate_zero, Nat.mul_zero,
    Nat.ofDigitChars_ten_toDigits]

/-- A number in range is written with digits before and behind the point. -/
theorem exists_toFixed (units : ℤ) (places : ℕ) :
  ∃ whole fraction,
    (finite units).toFixed places = (if units < 0 then ['-'] else []) ++ whole
      ++ (if fraction = [] then [] else '.' :: fraction) ∧
    whole ++ fraction
      = paddedDigits (places + 1) (roundQuotient (units.natAbs * 10 ^ places) one) ∧
    whole ≠ [] ∧ fraction.length = places
  := by
  rw [toFixed, Nat.pow_eq]
  generalize written : paddedDigits (places + 1) _ = digits
  have length : places + 1 ≤ digits.length := by
    rw [← written]
    exact le_length_paddedDigits ..
  have fraction_length : (digits.drop (digits.length - places)).length = places := by
    rw [List.length_drop]
    omega
  refine ⟨digits.take (digits.length - places), digits.drop (digits.length - places), ?_,
    List.take_append_drop .., ?_, fraction_length⟩
  · have : digits.drop (digits.length - places) = [] ↔ places = 0 := by
      rw [← List.length_eq_zero_iff, fraction_length]
    simp only [this]
  · rw [← List.length_pos_iff, List.length_take]
    omega

/-- The decimal of a number in range is the nearest with its number of places. -/
theorem roundQuotient_units_isNearest (units : ℤ) (places : ℕ) :
  IsNearest (signed (decide (units < 0)) (roundQuotient (units.natAbs * 10 ^ places) one))
    (units / one * 10 ^ places)
  := by
  have nearest := roundQuotient_isNearest (units.natAbs * 10 ^ places) one_pos
  have scaled : (units : ℚ) / one * 10 ^ places
    = signed (decide (units < 0)) (units.natAbs * 10 ^ places) / one := by
    rw [signed_mul, signed_natAbs]
    push_cast
    ring
  rw [scaled]
  cases decide (units < 0) with
  | false => exact nearest
  | true =>
    rw [← isNearest_neg_iff, ← neg_div] at nearest
    simpa only [signed, if_true, Int.cast_neg, Int.cast_natCast] using nearest

end EditorModes.Binary64
