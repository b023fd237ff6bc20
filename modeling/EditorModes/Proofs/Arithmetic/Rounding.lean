import EditorModes.Arithmetic.Binary64
import Mathlib.Algebra.Order.Field.Basic
import Mathlib.Algebra.Ring.Parity
import Mathlib.Data.Rat.Cast.Order
import Mathlib.Tactic.FieldSimp
import Mathlib.Tactic.Linarith
import Mathlib.Tactic.Ring

/-!
# Rounding to the nearest

The whole number nearest to a quotient is known by how far the quotient is away from it: less than
a half, or a half when it is even (`roundQuotient_isNearest`).
-/

namespace EditorModes

/-- A whole number is nearest to another number, or the even one of the two that are. -/
def IsNearest (k : ℤ) (x : ℚ) : Prop :=
  |x - k| < 1 / 2 ∨ |x - k| = 1 / 2 ∧ Even k

variable {k l : ℤ} {x : ℚ} {n d : ℕ}

theorem IsNearest.abs_le (nearest : IsNearest k x) :
  |x - k| ≤ 1 / 2
  := by
  rcases nearest with near | ⟨half, -⟩
  · exact le_of_lt near
  · exact le_of_eq half

theorem isNearest_self (k : ℤ) :
  IsNearest k k
  := by
  left
  simp

/-- There is one nearest whole number. -/
theorem IsNearest.unique (first : IsNearest k x) (second : IsNearest l x) :
  k = l
  := by
  by_contra other
  have apart : (1 : ℚ) ≤ |(k : ℚ) - l| := by
    have := Int.one_le_abs (sub_ne_zero.mpr other)
    exact_mod_cast this
  have within : |(k : ℚ) - l| ≤ |x - k| + |x - l| := by
    have := abs_sub_le (k : ℚ) x l
    rwa [abs_sub_comm (k : ℚ) x] at this
  have near := first.abs_le
  have near' := second.abs_le
  have even : Even k := first.elim (fun _ => by linarith) And.right
  have even' : Even l := second.elim (fun _ => by linarith) And.right
  obtain ⟨m, twice⟩ := even.sub even'
  have : (2 : ℤ) ≤ |k - l| := by
    rw [le_abs]
    omega
  have : (2 : ℚ) ≤ |(k : ℚ) - l| := by exact_mod_cast this
  linarith

/-- On the other side of zero, the nearest whole number is the other one too. -/
theorem isNearest_neg_iff :
  IsNearest (-k) (-x) ↔ IsNearest k x
  := by
  have same : |-x - ((-k : ℤ) : ℚ)| = |x - k| := by
    rw [← abs_neg]
    congr 1
    push_cast
    ring
  rw [IsNearest, IsNearest, same, even_neg]

theorem div_eq_add_mod (positive : 0 < d) :
  (n : ℚ) / d = (n / d : ℕ) + ((n % d : ℕ) : ℚ) / d
  := by
  have not_zero : (d : ℚ) ≠ 0 := by exact_mod_cast positive.ne'
  have parts : (d : ℚ) * (n / d : ℕ) + (n % d : ℕ) = n := by exact_mod_cast Nat.div_add_mod n d
  rw [← parts]
  field_simp

/-- A quotient rounds to the nearest whole number. -/
theorem roundQuotient_isNearest (n : ℕ) (positive : 0 < d) :
  IsNearest (roundQuotient n d) ((n : ℚ) / d)
  := by
  have divisor : (0 : ℚ) < d := by exact_mod_cast positive
  have below := Nat.mod_lt n positive
  rw [div_eq_add_mod positive, roundQuotient]
  simp only [Bool.or_eq_true, Bool.and_eq_true, decide_eq_true_eq]
  generalize n / d = q, n % d = r at *
  have fraction_le : (r : ℚ) / d ≤ 1 := by
    rw [div_le_one divisor]
    exact_mod_cast below.le
  split
  · next down =>
    have away : |(q : ℚ) + r / d - (q : ℤ)| = r / d := by
      rw [Int.cast_natCast, add_sub_cancel_left, abs_of_nonneg (by positivity)]
    rw [IsNearest, away]
    rcases down with less | ⟨half, even⟩
    · left
      have : (2 : ℚ) * r < d := by exact_mod_cast less
      rw [div_lt_iff₀ divisor]
      linarith
    · right
      have : (2 : ℚ) * r = d := by exact_mod_cast half
      refine ⟨?_, (Int.even_coe_nat q).mpr (Nat.even_iff.mpr even)⟩
      rw [div_eq_iff divisor.ne']
      linarith
  · next up =>
    have away : |(q : ℚ) + r / d - ((q + 1 : ℕ) : ℤ)| = 1 - r / d := by
      have : (q : ℚ) + r / d - ((q + 1 : ℕ) : ℤ) = -(1 - r / d) := by
        push_cast
        ring
      rw [this, abs_neg, abs_of_nonneg (by linarith)]
    rw [IsNearest, away]
    by_cases half : 2 * r = d
    · right
      have : (2 : ℚ) * r = d := by exact_mod_cast half
      constructor
      · rw [sub_eq_iff_eq_add, ← sub_eq_iff_eq_add', eq_div_iff divisor.ne']
        linarith
      · rw [Int.even_coe_nat, Nat.even_iff]
        omega
    · left
      have : (d : ℚ) < 2 * r := by exact_mod_cast (by omega : d < 2 * r)
      rw [sub_lt_comm, lt_div_iff₀ divisor]
      linarith

theorem roundQuotient_eq_of_isNearest (positive : 0 < d) (nearest : IsNearest k ((n : ℚ) / d)) :
  (roundQuotient n d : ℤ) = k
  := (roundQuotient_isNearest n positive).unique nearest

end EditorModes
