import EditorModes.Arithmetic.Binary64
import EditorModes.Text.Basic

/-!
# Stepping values

A value steps to its neighbor: the words of some sets step around in a circle, and a number steps
by one, with its unit and its number of decimal places kept.  Numbers are binary floating-point
numbers.
-/

namespace EditorModes.Less

/-- The sets of words that step through each other. -/
def wordCircles : List (List String) :=
  [["true", "false"],
    ["left", "center", "right"],
    ["block", "inline", "inline-block", "flex", "grid", "none"],
    ["normal", "bold", "bolder", "lighter"]]

/-- The word behind or before another in its circle. -/
def stepWord? (circle : List String) (word : String) (up : Bool) : Option String := do
  let i ← circle.idxOf? word
  circle[(if up then i + 1 else i + circle.length - 1) % circle.length]?

/-- A number with a unit: digits divided by a power of ten. -/
structure Quantity where
  negative : Bool
  digits : Nat
  places : Nat
  unit : Text
  deriving DecidableEq, Repr

/-- The number that decimal digits stand for. -/
def decimalValue (digits : List Char) : Nat :=
  digits.foldl (fun n c => n * 10 + (c.toNat - '0'.toNat)) 0

/-- The digits behind the point that a text starts with, if it does, and the rest. -/
def spanFraction (t : Text) : Text × Text :=
  match t with
  | '.' :: t => Text.spanWhile Property.isAsciiDigit t
  | t => ([], t)

/-- Digits, perhaps with a point among or before them, and a unit of letters and percent signs. -/
def Quantity.ofUnsigned? (negative : Bool) (t : Text) : Option Quantity :=
  let (whole, rest) := Text.spanWhile Property.isAsciiDigit t
  let (fraction, unit) := spanFraction rest
  let digits := if rest.head? = some '.' then fraction else whole
  if digits = [] || !unit.all fun c => Property.isAsciiLetter c || c = '%' then none
  else some ⟨negative, decimalValue (whole ++ fraction), fraction.length, unit⟩

/-- Digits with a unit, perhaps behind a minus. -/
def Quantity.ofText? (t : Text) : Option Quantity :=
  match t with
  | '-' :: t => ofUnsigned? true t
  | t => ofUnsigned? false t

/-- The greatest number of decimal places that numbers are written with. -/
def maxPlaces : Nat := 65535

/-- The quantity one above or one below, as it is written; `none` when it has too many places. -/
def Quantity.step? (q : Quantity) (up : Bool) : Option Text :=
  let number := Binary64.ofDecimal q.negative q.digits q.places
  if q.places ≤ maxPlaces then
    some ((number.addInt (if up then 1 else -1)).toFixed q.places ++ q.unit)
  else none

/--
The value that follows, or goes before, another, if there is one; `none` when it would be a number
of too many decimal places.
-/
def stepValue? (value : Text) (up : Bool) : Option (Option Text) :=
  let word := String.ofList value
  match wordCircles.find? (·.contains word) with
  | some circle => some ((stepWord? circle word up).map String.toList)
  | none =>
    match Quantity.ofText? value with
    | some q => (q.step? up).map some
    | none => some none

end EditorModes.Less
