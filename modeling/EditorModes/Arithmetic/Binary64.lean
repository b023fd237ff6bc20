/-!
# Binary floating-point numbers

The numbers of 53 significant bits.  A finite one is counted in units of the smallest positive
one, `2 ^ -1074`; a number that is no such count is rounded to the nearest, and of two that are
equally near to the one whose last bit is zero.
-/

namespace EditorModes

/-- The whole number nearest to a quotient, the even one of two. -/
def roundQuotient (n d : Nat) : Nat :=
  let q := n / d
  let twice := 2 * (n % d)
  if twice < d || (twice = d && q % 2 = 0) then q else q + 1

/-- A number of 53 significant bits. -/
inductive Binary64 where
  | finite (units : Int)
  | infinite (negative : Bool)
  deriving DecidableEq, Repr

namespace Binary64

/-- The number of units in one. -/
def one : Nat := Nat.pow 2 1074

/-- The first number of units that is out of range. -/
def bound : Nat := Nat.pow 2 2098

/-- The nearest number of units to a quotient that 53 significant bits can hold. -/
def roundUnits (n d : Nat) : Nat :=
  let step := Nat.pow 2 ((n / d).log2 + 1 - 53)
  roundQuotient n (d * step) * step

/-- The number nearest to a quotient of units with a sign. -/
def ofUnits (negative : Bool) (n d : Nat) : Binary64 :=
  let units := roundUnits n d
  if bound ≤ units then infinite negative
  else finite (if negative then -(units : Int) else units)

/-- The number nearest to a decimal: digits divided by a power of ten. -/
def ofDecimal (negative : Bool) (digits places : Nat) : Binary64 :=
  ofUnits negative (digits * one) (Nat.pow 10 places)

/-- The number nearest to the sum with a whole number. -/
def addInt (x : Binary64) (n : Int) : Binary64 :=
  match x with
  | infinite negative => infinite negative
  | finite units =>
    let sum := units + n * one
    ofUnits (sum < 0) sum.natAbs 1

/-- The digits of a number, with zeros before them up to a length. -/
def paddedDigits (length n : Nat) : List Char :=
  let digits := Nat.toDigits 10 n
  List.replicate (length - digits.length) '0' ++ digits

/-- The nearest decimal with a number of places, the even one of two. -/
def toFixed (x : Binary64) (places : Nat) : List Char :=
  match x with
  | infinite negative => (if negative then ['-'] else []) ++ ['i', 'n', 'f']
  | finite units =>
    let digits := paddedDigits (places + 1) (roundQuotient (units.natAbs * Nat.pow 10 places) one)
    let whole := digits.take (digits.length - places)
    (if units < 0 then ['-'] else []) ++ whole
      ++ (if places = 0 then [] else '.' :: digits.drop (digits.length - places))

end Binary64

end EditorModes
