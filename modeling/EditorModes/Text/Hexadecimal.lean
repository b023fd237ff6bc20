/-!
# Hexadecimal numbers
-/

namespace EditorModes.Hexadecimal

/-- The value of a hexadecimal digit. -/
def digit? (c : Char) : Option Nat :=
  if '0' ≤ c && c ≤ '9' then some (c.toNat - 48)
  else if 'a' ≤ c && c ≤ 'f' then some (c.toNat - 87)
  else if 'A' ≤ c && c ≤ 'F' then some (c.toNat - 55)
  else none

/-- The number that a row of digits stands for; any other character counts as a zero. -/
def value (digits : List Char) : Nat :=
  digits.foldl (fun n c => n * 16 + (digit? c).getD 0) 0

/-- The digit of a value below 16, a capital letter from ten on. -/
def capital (n : Nat) : Char :=
  Char.ofNat (if n < 10 then 48 + n else 55 + n)

end EditorModes.Hexadecimal
