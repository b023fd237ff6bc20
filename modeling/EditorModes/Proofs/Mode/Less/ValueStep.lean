import EditorModes.Proofs.Mode.Less.Numeral

/-!
# Stepping numbers

A number that steps is read as a binary floating-point number, one is added or taken away, and the
sum is written with as many decimal places as before.  The result is the decimal that follows or
goes before exactly when this is the nearest to the sum as it is (`Less.Quantity.Reaches`), which
is so for all numbers of few digits (`Less.Quantity.IsShort`) and not for all others
(`Less.numerals_step`, `Less.numeral_stays`).
-/

namespace EditorModes.Less

/-- The whole number that is added. -/
def direction (up : Bool) : ℤ :=
  if up then 1 else -1

namespace Quantity

/-- A quantity in units of its last decimal place. -/
def scaled (q : Quantity) : ℤ :=
  Binary64.signed q.negative q.digits

/-- The exact value of a quantity. -/
def value (q : Quantity) : ℚ :=
  q.scaled / 10 ^ q.places

/-- The quantity one above or one below, to as many decimal places. -/
structure IsStep (up : Bool) (q r : Quantity) : Prop where
  value_eq : r.value = q.value + direction up
  places_eq : r.places = q.places
  unit_eq : r.unit = q.unit

/-- The sum that is written for a quantity one above or one below. -/
def sum (q : Quantity) (up : Bool) : Binary64 :=
  (Binary64.ofDecimal q.negative q.digits q.places).addInt (direction up)

/-- The sum is in range, and so close to the exact one that no other decimal is nearer to it. -/
def Reaches (q : Quantity) (up : Bool) : Prop :=
  ∃ y, (q.sum up).value? = some y
    ∧ IsNearest (q.scaled + direction up * 10 ^ q.places) (y * 10 ^ q.places)

/-- Digits that 52 significant bits can hold, or 53 when there are no decimal places. -/
def IsShort (q : Quantity) : Prop :=
  2 * q.digits + 10 ^ q.places < 2 ^ 52 ∨ q.places = 0 ∧ q.digits < 2 ^ 53

end Quantity

/-- A numeral steps to one whose value is by one above or below it, in the same form. -/
def Numeral.Steps (n : Numeral) (up : Bool) : Prop :=
  ∃ m : Numeral, stepValue? n.text up = some (some m.text) ∧ n.quantity.IsStep up m.quantity

variable {n m : Numeral} {q r : Quantity} {up : Bool} {s t v y k : ℚ}

theorem abs_direction (up : Bool) :
  |(direction up : ℚ)| = 1
  := by cases up <;> simp [direction]

/-! ### Errors -/

theorem abs_mul_sub_le (near : Binary64.IsNear y v) (positive : 0 < t) :
  |y * t - v * t| ≤ (|v * t| + t / 2 ^ 100) / 2 ^ 53
  := by
  rw [← sub_mul, abs_mul, abs_mul, abs_of_pos positive]
  calc |y - v| * t ≤ (|v| + 1 / 2 ^ 100) / 2 ^ 53 * t := mul_le_mul_of_nonneg_right near positive.le
    _ = (|v| * t + t / 2 ^ 100) / 2 ^ 53 := by ring

/-- The sum with a number of few digits is in range. -/
theorem abs_add_le_of_few (few : 2 * |s| + t + 1 ≤ 2 ^ 52) (one_le : 1 ≤ t) (one : |k| = 1)
    (read : Binary64.IsNear v (s / t)) :
  |v + k| ≤ 2 ^ 101
  := by
  have positive : 0 < t := by linarith
  have value_le : |s / t| ≤ |s| := by
    rw [abs_div, abs_of_pos positive]
    exact div_le_self (abs_nonneg s) one_le
  have parts : v + k = (v - s / t) + s / t + k := by ring
  have := abs_add_three (v - s / t) (s / t) k
  rw [Binary64.IsNear] at read
  rw [parts]
  linarith

/-- A number of few digits is read and added to with less than half of its last place lost. -/
theorem abs_sub_lt_half (few : 2 * |s| + t + 1 ≤ 2 ^ 52) (one_le : 1 ≤ t) (one : |k| = 1)
    (read : Binary64.IsNear v (s / t)) (added : Binary64.IsNear y (v + k)) :
  |y * t - (s + k * t)| < 1 / 2
  := by
  have positive : 0 < t := by linarith
  have read := abs_mul_sub_le read positive
  have added := abs_mul_sub_le added positive
  rw [div_mul_cancel₀ _ positive.ne'] at read
  have size : |(v + k) * t| ≤ |s| + t + |v * t - s| := by
    have parts : (v + k) * t = s + k * t + (v * t - s) := by ring
    have step : |k * t| = t := by rw [abs_mul, one, one_mul, abs_of_pos positive]
    have := abs_add_three s (k * t) (v * t - s)
    rw [step] at this
    rwa [parts]
  have apart : |y * t - (s + k * t)| ≤ |y * t - (v + k) * t| + |v * t - s| := by
    have parts : y * t - (s + k * t) = y * t - (v + k) * t + (v * t - s) := by ring
    rw [parts]
    exact abs_add_le ..
  have := abs_nonneg s
  linarith

/-! ### Sums -/

namespace Quantity

theorem value_eq_iff (same : r.places = q.places) (k : ℤ) :
  r.value = q.value + k ↔ r.scaled = q.scaled + k * 10 ^ q.places
  := by
  have positive : (0 : ℚ) < 10 ^ q.places := by positivity
  rw [value, value, same, div_eq_iff positive.ne', add_mul, div_mul_cancel₀ _ positive.ne']
  exact_mod_cast Iff.rfl

/-- What is lost of a number of few digits is less than half of its last place. -/
theorem reaches_of_few (few : 2 * q.digits + 10 ^ q.places < 2 ^ 52) (up : Bool) :
  q.Reaches up
  := by
  have in_range : q.digits ≤ 2 ^ 101 * 10 ^ q.places := by
    have : 1 ≤ 10 ^ q.places := Nat.one_le_pow _ _ (by decide)
    omega
  have few : 2 * |(q.scaled : ℚ)| + 10 ^ q.places + 1 ≤ 2 ^ 52 := by
    rw [scaled, Binary64.abs_signed]
    exact_mod_cast Nat.succ_le_of_lt few
  have one_le : (1 : ℚ) ≤ 10 ^ q.places := one_le_pow₀ (by norm_num)
  obtain ⟨v, value, read⟩ := Binary64.ofDecimal_approximates q.negative in_range
  obtain ⟨y, sum, added⟩ := Binary64.addInt_approximates value (direction up)
    (abs_add_le_of_few few one_le (abs_direction up) read)
  refine ⟨y, sum, .inl ?_⟩
  push_cast
  exact abs_sub_lt_half few one_le (abs_direction up) read added

/-- Nothing is lost of a whole number of 53 significant bits. -/
theorem reaches_of_whole (whole : q.places = 0) (small : q.digits < 2 ^ 53) (up : Bool) :
  q.Reaches up
  := by
  have read := Binary64.ofDecimal_exact q.negative small.le
  have size : |q.scaled + direction up| ≤ 2 ^ 53 := by
    rw [abs_le, scaled, Binary64.signed, direction]
    constructor <;> split <;> split <;> omega
  refine ⟨(q.scaled + direction up : ℤ), ?_, ?_⟩
  · rw [sum, whole]
    exact Binary64.addInt_exact read size
  · rw [whole, pow_zero, pow_zero, mul_one, mul_one]
    exact isNearest_self _

theorem IsShort.reaches (short : q.IsShort) (up : Bool) :
  q.Reaches up
  := by
  rcases short with few | ⟨whole, small⟩
  · exact reaches_of_few few up
  · exact reaches_of_whole whole small up

theorem IsShort.places_le (short : q.IsShort) :
  q.places ≤ maxPlaces
  := by
  rcases short with few | ⟨whole, -⟩
  · have : 10 ^ q.places < 10 ^ 16 := by omega
    have : q.places < 16 := (Nat.pow_lt_pow_iff_right (by decide)).mp this
    rw [maxPlaces]
    omega
  · simp [whole]

end Quantity

/-! ### Texts -/

namespace Numeral

/-- No numeral is one of the words that step. -/
theorem find?_wordCircles (n : Numeral) :
  wordCircles.find? (·.contains (String.ofList n.text)) = none
  := by
  have letters : ∀ circle ∈ wordCircles, ∀ word ∈ circle,
      word.toList.head?.any Property.isAsciiLetter = true := by decide
  rw [List.find?_eq_none]
  intro circle listed among
  have letter := letters circle listed _ (List.contains_iff_mem.mp among)
  rw [String.toList_ofList, n.head?_text] at letter
  contradiction

theorem stepValue?_text (ascii : n.IsAscii) (few : n.quantity.places ≤ maxPlaces) (up : Bool) :
  stepValue? n.text up
    = some (some ((n.quantity.sum up).toFixed n.quantity.places ++ n.quantity.unit))
  := by
  rw [stepValue?, find?_wordCircles, ofText?_text ascii]
  simp only [Quantity.step?, if_pos few]
  rfl

theorem stepValue?_of_many (ascii : n.IsAscii) (many : ¬ n.quantity.places ≤ maxPlaces)
    (up : Bool) :
  stepValue? n.text up = none
  := by
  rw [stepValue?, find?_wordCircles, ofText?_text ascii]
  simp only [Quantity.step?, if_neg many]
  rfl

theorem stepValue?_of_not_isAscii (other : ¬ n.IsAscii) (up : Bool) :
  stepValue? n.text up = some none
  := by
  have unread : Quantity.ofText? n.text = none := by
    rw [Option.eq_none_iff_forall_ne_some]
    exact fun q read => other (isAscii_of_ofText?_text read)
  rw [stepValue?, find?_wordCircles, unread]

theorem decimalValue_eq (digits : Text) :
  decimalValue digits = Nat.ofDigitChars 10 digits 0
  := by
  simp only [decimalValue, Nat.ofDigitChars_eq_foldl, Nat.mul_comm 10]

/-- What is written for a number in range is the nearest numeral. -/
theorem exists_text_eq_toFixed (units : ℤ) (places : ℕ) {unit : Text}
    (unit_chars : ∀ c ∈ unit, isUnitChar c = true) :
  ∃ m : Numeral, m.text = (Binary64.finite units).toFixed places ++ unit
    ∧ m.IsAscii ∧ m.quantity.places = places ∧ m.quantity.unit = unit
    ∧ IsNearest m.quantity.scaled (units / Binary64.one * 10 ^ places)
  := by
  obtain ⟨whole, fraction, written, parts, some_digits, length⟩ :=
    Binary64.exists_toFixed units places
  have ascii : ∀ c ∈ whole ++ fraction, Property.isAsciiDigit c = true := by
    intro c among
    rw [parts] at among
    exact Binary64.isDigit_of_mem_paddedDigits among
  have decimal : ∀ c ∈ whole ++ fraction, isDecimalDigit c = true := by
    intro c among
    rw [isDecimalDigit, if_pos (isAscii_of_isAsciiDigit (ascii c among))]
    exact ascii c among
  let m : Numeral := ⟨decide (units < 0), whole, fraction, unit,
    fun c among => decimal c (List.mem_append_left _ among),
    fun c among => decimal c (List.mem_append_right _ among), unit_chars,
    List.append_ne_nil_of_left_ne_nil some_digits _⟩
  refine ⟨m, ?_, ascii, length, rfl, ?_⟩
  · rw [written, text, unsigned, point]
    simp [m]
  · have digits : decimalValue (whole ++ fraction)
        = roundQuotient (units.natAbs * 10 ^ places) Binary64.one := by
      rw [decimalValue_eq, parts, Binary64.ofDigitChars_paddedDigits]
    have nearest := Binary64.roundQuotient_units_isNearest units places
    rwa [← digits] at nearest

/-- What is written for a number out of range is no numeral. -/
theorem text_ne_toFixed_infinite (m : Numeral) (negative : Bool) (places : ℕ) (unit : Text) :
  m.text ≠ (Binary64.infinite negative).toFixed places ++ unit
  := by
  intro same
  obtain ⟨c, first, no_minus, no_unit⟩ := m.exists_head?_unsigned
  have letter : isUnitChar 'i' = true := by decide
  rw [text, Binary64.toFixed] at same
  cases sign : m.negative <;> cases negative <;> simp [sign] at same
  · obtain rfl : 'i' = c := by simpa [same] using first
    simp [letter] at no_unit
  · exact no_minus (by simpa [same] using first.symm)
  · obtain rfl : 'i' = c := by simpa [same] using first
    simp [letter] at no_unit

/-- A numeral steps when the sum is close enough. -/
theorem steps_iff_reaches (ascii : n.IsAscii) (few : n.quantity.places ≤ maxPlaces) (up : Bool) :
  n.Steps up ↔ n.quantity.Reaches up
  := by
  rw [Steps, Quantity.Reaches, stepValue?_text ascii few]
  simp only [Option.some_inj]
  cases n.quantity.sum up with
  | infinite negative =>
    refine iff_of_false ?_ (by simp [Binary64.value?])
    rintro ⟨m, same, -⟩
    exact text_ne_toFixed_infinite m negative _ _ same.symm
  | finite units =>
    obtain ⟨written, text_eq, written_ascii, places_eq, unit_eq, nearest⟩ :=
      exists_text_eq_toFixed units n.quantity.places n.unit_chars
    constructor
    · rintro ⟨m, same, step⟩
      have same_quantity : m.quantity = written.quantity :=
        quantity_eq_of_text_eq written_ascii (same.symm.trans text_eq.symm)
      refine ⟨_, rfl, ?_⟩
      rwa [← (Quantity.value_eq_iff step.places_eq _).mp step.value_eq, same_quantity]
    · rintro ⟨y, value, nearest'⟩
      obtain rfl := Option.some.inj value
      have scaled_eq := nearest.unique nearest'
      exact ⟨written, text_eq.symm, (Quantity.value_eq_iff places_eq _).mpr scaled_eq,
        places_eq, unit_eq⟩

end Numeral

/--
A numeral steps by exactly one, with its unit and its number of decimal places kept, if and only if
its digits are the digits of ASCII, it has not too many places, and the sum of binary
floating-point numbers is in range and nearer to the exact sum than to all other decimals.  This is
so for all numerals of few digits.  Whenever the sum is in range, what is written is a numeral of
the same form, the nearest to the sum.
-/
theorem numerals_step (n : Numeral) (up : Bool) :
  (n.Steps up ↔ n.IsAscii ∧ n.quantity.places ≤ maxPlaces ∧ n.quantity.Reaches up)
    ∧ (n.IsAscii → n.quantity.IsShort → n.Steps up)
    ∧ (n.IsAscii → n.quantity.places ≤ maxPlaces → ∀ y, (n.quantity.sum up).value? = some y →
      ∃ m : Numeral, stepValue? n.text up = some (some m.text)
        ∧ m.quantity.places = n.quantity.places ∧ m.quantity.unit = n.quantity.unit
        ∧ IsNearest m.quantity.scaled (y * 10 ^ n.quantity.places))
  := by
  refine ⟨?_, fun ascii short => ?_, fun ascii few y value => ?_⟩
  · by_cases ascii : n.IsAscii
    · by_cases few : n.quantity.places ≤ maxPlaces
      · simp [Numeral.steps_iff_reaches ascii few, ascii, few]
      · simp [Numeral.Steps, Numeral.stepValue?_of_many ascii few, few]
    · simp [Numeral.Steps, Numeral.stepValue?_of_not_isAscii ascii, ascii]
  · exact (Numeral.steps_iff_reaches ascii short.places_le up).mpr (short.reaches up)
  · rw [Numeral.stepValue?_text ascii few]
    cases sum : n.quantity.sum up with
    | infinite negative =>
      rw [sum] at value
      cases value
    | finite units =>
      rw [sum] at value
      obtain rfl := Option.some.inj value
      obtain ⟨m, written, -, places_eq, unit_eq, nearest⟩ :=
        Numeral.exists_text_eq_toFixed units n.quantity.places n.unit_chars
      exact ⟨m, by rw [written]; rfl, places_eq, unit_eq, nearest⟩

/-- A numeral of fifteen digits. -/
def fifteenDigits : Numeral where
  negative := true
  whole := ['3']
  fraction := ['1', '4', '1', '5', '9', '2', '6', '5', '3', '5', '8', '9', '7', '9']
  unit := ['r', 'a', 'd']
  whole_digits := List.all_eq_true.mp rfl
  fraction_digits := List.all_eq_true.mp rfl
  unit_chars := List.all_eq_true.mp rfl
  has_digits := by decide

/-- A numeral of fifteen digits steps by exactly one. -/
theorem numerals_step_fifteenDigits :
  fifteenDigits.text = "-3.14159265358979rad".toList ∧ fifteenDigits.Steps true
  := ⟨rfl, (numerals_step fifteenDigits true).2.1 (by decide) (.inl (by decide))⟩

/-- The first whole number that is followed by one of more than 53 significant bits. -/
def twoPow53 : Numeral where
  negative := false
  whole := "9007199254740992".toList
  fraction := []
  unit := []
  whole_digits := List.all_eq_true.mp rfl
  fraction_digits := List.all_eq_true.mp rfl
  unit_chars := List.all_eq_true.mp rfl
  has_digits := by decide

/-- A number of more than 53 significant bits is not reached. -/
theorem numeral_stays :
  stepValue? twoPow53.text true = some (some twoPow53.text) ∧ ¬ twoPow53.Steps true
  := by
  have sum : twoPow53.quantity.sum true = .finite (2 ^ 53 * Binary64.one) := by decide +kernel
  have digits : roundQuotient ((2 ^ 53 * Binary64.one : ℤ).natAbs * Nat.pow 10 0) Binary64.one
      = 9007199254740992 := by decide +kernel
  have stays : stepValue? twoPow53.text true = some (some twoPow53.text) := by
    have places : twoPow53.quantity.places = 0 := rfl
    rw [Numeral.stepValue?_text (by decide) (by decide), sum, places]
    simp only [Binary64.toFixed, digits]
    decide +kernel
  refine ⟨stays, ?_⟩
  rintro ⟨m, stepped, step⟩
  have same : m.text = twoPow53.text := by simpa [stays] using stepped.symm
  have := step.value_eq
  rw [Numeral.quantity_eq_of_text_eq (by decide) same] at this
  simp [direction] at this

end EditorModes.Less
