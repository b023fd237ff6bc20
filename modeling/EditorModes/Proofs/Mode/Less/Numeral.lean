import EditorModes.Mode.Less.ValueStep
import EditorModes.Proofs.Arithmetic.Binary64
import Mathlib.Data.List.TakeWhile

/-!
# Numerals

The numbers that step are written as numerals: digits with a sign, a point and a unit
(`Less.Numeral`).  The digits are those of any script, but a numeral is read as the quantity that it
stands for exactly when all of them are the digits of ASCII (`Less.Numeral.ofText?_text`).
-/

namespace EditorModes.Less

/-- The decimal digits of any script. -/
def isDecimalDigit (c : Char) : Bool :=
  if Property.isAscii c then Property.isAsciiDigit c else Property.digitSet.contains c

/-- The letters and percent signs that units are made of. -/
def isUnitChar (c : Char) : Bool :=
  Property.isAsciiLetter c || c = '%'

/--
Digits with a point behind, among or before them, a minus perhaps, and a unit of letters and
percent signs.
-/
structure Numeral where
  negative : Bool
  whole : Text
  fraction : Text
  unit : Text
  whole_digits : ∀ c ∈ whole, isDecimalDigit c = true
  fraction_digits : ∀ c ∈ fraction, isDecimalDigit c = true
  unit_chars : ∀ c ∈ unit, isUnitChar c = true
  has_digits : whole ++ fraction ≠ []

namespace Numeral

variable (n : Numeral)

/-- The digits behind the point, with the point when there are any. -/
def point : Text :=
  if n.fraction = [] then [] else '.' :: n.fraction

/-- The numeral without its sign. -/
def unsigned : Text :=
  n.whole ++ n.point ++ n.unit

/-- A numeral as it is written. -/
def text : Text :=
  (if n.negative then ['-'] else []) ++ n.unsigned

/-- The digits before and behind the point are the digits of ASCII. -/
def IsAscii : Prop :=
  ∀ c ∈ n.whole ++ n.fraction, Property.isAsciiDigit c = true

instance : Decidable n.IsAscii :=
  decidable_of_iff ((n.whole ++ n.fraction).all Property.isAsciiDigit = true) List.all_eq_true

/-- The quantity that a numeral of ASCII digits stands for. -/
def quantity : Quantity :=
  ⟨n.negative, decimalValue (n.whole ++ n.fraction), n.fraction.length, n.unit⟩

end Numeral

variable {t rest : Text} {q : Quantity} {negative : Bool} {c : Char}

/-! ### Characters of numbers -/

theorem isAscii_of_isAsciiDigit (digit : Property.isAsciiDigit c = true) :
  Property.isAscii c = true
  := by
  simp only [Property.isAsciiDigit, Property.isAscii, Bool.and_eq_true, decide_eq_true_eq] at *
  have : c.toNat ≤ '9'.toNat := digit.2
  exact this.trans_lt (by decide)

theorem isAscii_of_isUnitChar (unit : isUnitChar c = true) :
  Property.isAscii c = true
  := by
  simp only [isUnitChar, Property.isAsciiLetter, Property.isAscii, Bool.or_eq_true,
    Bool.and_eq_true, decide_eq_true_eq] at *
  rcases unit with (⟨-, le⟩ | ⟨-, le⟩) | rfl
  · have : c.toNat ≤ 'z'.toNat := le
    exact this.trans_lt (by decide)
  · have : c.toNat ≤ 'Z'.toNat := le
    exact this.trans_lt (by decide)
  · decide

theorem isAsciiDigit_of_isDecimalDigit
  (digit : isDecimalDigit c = true) (ascii : Property.isAscii c = true) :
  Property.isAsciiDigit c = true
  := by rwa [isDecimalDigit, if_pos ascii] at digit

/-- No character of units is a digit. -/
theorem isAsciiDigit_of_isUnitChar (unit : isUnitChar c = true) :
  Property.isAsciiDigit c = false
  := by
  by_contra digit
  simp only [isUnitChar, Property.isAsciiLetter, Property.isAsciiDigit, Bool.not_eq_false,
    Bool.or_eq_true, Bool.and_eq_true, decide_eq_true_eq, Char.le_def, UInt32.le_iff_toNat_le]
    at unit digit
  rcases unit with (⟨le, -⟩ | ⟨le, -⟩) | rfl
  · exact absurd (le.trans digit.2) (by decide)
  · exact absurd (le.trans digit.2) (by decide)
  · exact absurd digit.1 (by decide)

/-! ### Reading numbers -/

theorem spanFraction_of_head? (no_point : t.head? ≠ some '.') :
  spanFraction t = ([], t)
  := by
  rw [spanFraction]
  rintro s rfl
  exact no_point rfl

theorem spanFraction_point (t : Text) :
  spanFraction ('.' :: t) = (t.takeWhile Property.isAsciiDigit, t.dropWhile Property.isAsciiDigit)
  := rfl

/-- What is read of a text is a point perhaps, digits and the rest. -/
theorem spanFraction_parts (t : Text) :
  ∃ point : Text, t = point ++ (spanFraction t).1 ++ (spanFraction t).2
    ∧ (∀ c ∈ point ++ (spanFraction t).1, Property.isAscii c = true)
  := by
  by_cases point : t.head? = some '.'
  · obtain ⟨s, rfl⟩ := List.head?_eq_some_iff.mp point
    refine ⟨['.'], by simp [spanFraction_point], ?_⟩
    rw [spanFraction_point, List.forall_mem_append, List.forall_mem_singleton]
    exact ⟨by decide, fun c among => isAscii_of_isAsciiDigit (List.mem_takeWhile_imp among)⟩
  · exact ⟨[], by simp [spanFraction_of_head? point], by simp [spanFraction_of_head? point]⟩

/-- The characters of what is read as a number are ASCII characters. -/
theorem isAscii_of_ofUnsigned? (read : Quantity.ofUnsigned? negative t = some q) :
  ∀ c ∈ t, Property.isAscii c = true
  := by
  simp only [Quantity.ofUnsigned?, Text.spanWhile] at read
  obtain ⟨accepted, -⟩ := Option.ite_none_left_eq_some.mp read
  rw [← List.takeWhile_append_dropWhile (p := Property.isAsciiDigit) (l := t)]
  obtain ⟨point, parts, ascii⟩ := spanFraction_parts (t.dropWhile Property.isAsciiDigit)
  have units : (spanFraction (t.dropWhile Property.isAsciiDigit)).2.all isUnitChar = true := by
    simp only [Bool.or_eq_true, not_or, Bool.not_eq_true, Bool.not_eq_false'] at accepted
    exact accepted.2
  rw [parts, List.forall_mem_append, List.forall_mem_append]
  exact ⟨fun c among => isAscii_of_isAsciiDigit (List.mem_takeWhile_imp among), ascii,
    fun c among => isAscii_of_isUnitChar (List.all_eq_true.mp units c among)⟩

theorem ofText?_of_head? (no_minus : t.head? ≠ some '-') :
  Quantity.ofText? t = Quantity.ofUnsigned? false t
  := by
  rw [Quantity.ofText?]
  rintro s rfl
  exact no_minus rfl

/-! ### Reading numerals -/

theorem spanWhile_append_of_head? {p : Char → Bool} (all : ∀ c ∈ t, p c = true)
    (stop : ∀ c ∈ rest.head?, p c = false) :
  Text.spanWhile p (t ++ rest) = (t, rest)
  := by
  rw [Text.spanWhile, List.takeWhile_append_of_pos all, List.dropWhile_append_of_pos all]
  cases rest with
  | nil => simp
  | cons c rest => simp [stop c rfl]

namespace Numeral

variable {n : Numeral}

theorem isAsciiDigit_head?_unit (n : Numeral) :
  ∀ c ∈ n.unit.head?, Property.isAsciiDigit c = false
  := fun c first => isAsciiDigit_of_isUnitChar (n.unit_chars c (List.mem_of_mem_head? first))

theorem head?_point_iff (n : Numeral) :
  (n.point ++ n.unit).head? = some '.' ↔ n.fraction ≠ []
  := by
  by_cases empty : n.fraction = []
  · rw [point, if_pos empty, List.nil_append]
    refine iff_of_false (fun first => ?_) (by simpa)
    have := n.unit_chars _ (List.mem_of_mem_head? first)
    exact absurd this (by decide)
  · simp [point, empty]

theorem spanFraction_behind (ascii : n.IsAscii) :
  spanFraction (n.point ++ n.unit) = (n.fraction, n.unit)
  := by
  by_cases empty : n.fraction = []
  · have no_point : (n.point ++ n.unit).head? ≠ some '.' :=
      fun first => n.head?_point_iff.mp first empty
    rw [spanFraction_of_head? no_point, point, if_pos empty, empty, List.nil_append]
  · rw [point, if_neg empty]
    exact spanWhile_append_of_head? (fun c among => ascii c (List.mem_append_right _ among))
      n.isAsciiDigit_head?_unit

theorem spanWhile_unsigned (ascii : n.IsAscii) :
  Text.spanWhile Property.isAsciiDigit n.unsigned = (n.whole, n.point ++ n.unit)
  := by
  rw [unsigned, List.append_assoc]
  refine spanWhile_append_of_head? (fun c among => ascii c (List.mem_append_left _ among)) ?_
  by_cases empty : n.fraction = []
  · rw [point, if_pos empty]
    exact n.isAsciiDigit_head?_unit
  · rw [point, if_neg empty]
    rintro c ⟨⟩
    decide

/-- The digits and the unit of a numeral of ASCII digits are read as such. -/
theorem ofUnsigned?_unsigned (ascii : n.IsAscii) (negative : Bool) :
  Quantity.ofUnsigned? negative n.unsigned = some { n.quantity with negative }
  := by
  have digits : (if (n.point ++ n.unit).head? = some '.' then n.fraction else n.whole) ≠ [] := by
    have := n.has_digits
    simp only [head?_point_iff]
    split <;> simp_all
  have units : n.unit.all isUnitChar = true := List.all_eq_true.mpr n.unit_chars
  simp only [Quantity.ofUnsigned?, spanWhile_unsigned ascii, spanFraction_behind ascii]
  rw [if_neg]
  · rfl
  · rw [Bool.or_eq_true, decide_eq_true_eq, not_or]
    refine ⟨digits, ?_⟩
    rw [Bool.not_eq_true', Bool.not_eq_false]
    exact units

/-- What starts a numeral behind its sign is no further minus and no letter. -/
theorem exists_head?_unsigned (n : Numeral) :
  ∃ c, n.unsigned.head? = some c ∧ c ≠ '-' ∧ isUnitChar c = false
  := by
  cases whole : n.whole with
  | cons c digits =>
    have digit : isDecimalDigit c = true := n.whole_digits c (by simp [whole])
    refine ⟨c, by simp [unsigned, whole], ?_, ?_⟩
    · rintro rfl
      exact absurd digit (by decide)
    · by_contra unit
      rw [Bool.not_eq_false] at unit
      have := isAsciiDigit_of_isDecimalDigit digit (isAscii_of_isUnitChar unit)
      simp [isAsciiDigit_of_isUnitChar unit] at this
  | nil =>
    have : n.fraction ≠ [] := by simpa [whole] using n.has_digits
    exact ⟨'.', by simp [unsigned, whole, point, this], by decide, by decide⟩

theorem head?_unsigned_ne (n : Numeral) :
  n.unsigned.head? ≠ some '-'
  := by
  obtain ⟨c, first, no_minus, -⟩ := n.exists_head?_unsigned
  rwa [first, Ne, Option.some_inj]

theorem ofText?_text_eq (n : Numeral) :
  Quantity.ofText? n.text = Quantity.ofUnsigned? n.negative n.unsigned
  := by
  rw [text]
  cases n.negative with
  | true => rfl
  | false => exact ofText?_of_head? n.head?_unsigned_ne

theorem ofText?_text (ascii : n.IsAscii) :
  Quantity.ofText? n.text = some n.quantity
  := by rw [ofText?_text_eq, ofUnsigned?_unsigned ascii]; rfl

theorem isAscii_of_ofText?_text (read : Quantity.ofText? n.text = some q) :
  n.IsAscii
  := by
  have ascii : ∀ c ∈ n.unsigned, Property.isAscii c = true := by
    rw [ofText?_text_eq] at read
    exact isAscii_of_ofUnsigned? read
  have point_chars : ∀ c ∈ n.fraction, c ∈ n.point := by
    intro c among
    rw [point, if_neg (List.ne_nil_of_mem among)]
    exact List.mem_cons_of_mem _ among
  intro c among
  rcases List.mem_append.mp among with before | behind
  · exact isAsciiDigit_of_isDecimalDigit (n.whole_digits c before)
      (ascii c (by simp [unsigned, before]))
  · exact isAsciiDigit_of_isDecimalDigit (n.fraction_digits c behind)
      (ascii c (by simp [unsigned, point_chars c behind]))

theorem quantity_eq_of_text_eq {m : Numeral} (ascii : n.IsAscii) (same : m.text = n.text) :
  m.quantity = n.quantity
  := by
  have read := ofText?_text ascii
  rw [← same] at read
  rw [ofText?_text (isAscii_of_ofText?_text read)] at read
  exact Option.some.inj read

/-- A numeral does not start with a letter. -/
theorem head?_text (n : Numeral) :
  n.text.head?.any Property.isAsciiLetter = false
  := by
  obtain ⟨c, first, -, no_unit⟩ := n.exists_head?_unsigned
  rw [text]
  cases n.negative with
  | true => rfl
  | false =>
    simp only [isUnitChar, Bool.or_eq_false_iff] at no_unit
    simpa [first] using no_unit.1

end Numeral

end EditorModes.Less
