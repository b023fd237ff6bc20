import EditorModes.Text.Property.Binary

/-!
# Classes of characters

The character classes that tokenizers, patterns and word searches ask for.  Each is decided
directly on ASCII and by the tables of the character database beyond it.
-/

namespace EditorModes.Property

/-- The ASCII letters. -/
def isAsciiLetter (c : Char) : Bool :=
  ('a' ≤ c && c ≤ 'z') || ('A' ≤ c && c ≤ 'Z')

/-- The ASCII digits. -/
def isAsciiDigit (c : Char) : Bool :=
  '0' ≤ c && c ≤ '9'

/-- The ASCII letters and digits. -/
def isAsciiAlphanumeric (c : Char) : Bool :=
  isAsciiLetter c || isAsciiDigit c

/-- The ASCII characters. -/
def isAscii (c : Char) : Bool :=
  c.toNat < 128

/-- The characters with the property White_Space. -/
def isSpace (c : Char) : Bool :=
  let n := c.toNat
  (9 ≤ n && n ≤ 13) || n == 0x20 || n == 0x85 || n == 0xa0 || n == 0x1680
    || (0x2000 ≤ n && n ≤ 0x200a) || n == 0x2028 || n == 0x2029 || n == 0x202f || n == 0x205f
    || n == 0x3000

/-- The letters and everything that counts as one, as a set. -/
def letterSet : CharSet := alphabetic .v17

/-- The letters and the numbers, as a set. -/
def alphanumericSet : CharSet :=
  letterSet.union (Category.sets .v17 Category.numbers)

/-- The decimal digits of any script, as a set. -/
def digitSet : CharSet := Category.decimalNumber.set .v16

/-- The characters that words are made of: letters, marks, decimal digits and connectors. -/
def wordSet : CharSet :=
  .unions [alphabetic .v16, Category.sets .v16 Category.marks, digitSet,
    Category.connectorPunctuation.set .v16, joinControl]

/--
The characters that attach to the one before them, as a set; the half-width sound marks, which
extend it as well, stand by themselves.
-/
def attachedSet : CharSet :=
  (graphemeExtend .v17).difference (.ofText "FF9E-FF9F")

/-- The characters without a form of their own, white space and fillers included, as a set. -/
def invisibleSet : CharSet :=
  (Category.sets .v17 (Category.others ++ Category.separators)).union defaultIgnorable

/-- The letters and everything that counts as one. -/
def isAlphabetic (c : Char) : Bool :=
  if isAscii c then isAsciiLetter c else letterSet.contains c

/-- The letters and the numbers. -/
def isAlphanumeric (c : Char) : Bool :=
  if isAscii c then isAsciiAlphanumeric c else alphanumericSet.contains c

/-- The characters that words are made of: letters, marks, decimal digits and connectors. -/
def isWord (c : Char) : Bool :=
  if isAscii c then isAsciiAlphanumeric c || c == '_' else wordSet.contains c

/-- The characters that show by themselves: visible ones that attach to no other, and the space. -/
def isShown (c : Char) : Bool :=
  c == ' ' || !(invisibleSet.contains c || attachedSet.contains c)

/-- The ASCII letter in lower case; any other character unchanged. -/
def asciiLower (c : Char) : Char :=
  if 'A' ≤ c && c ≤ 'Z' then Char.ofNat (c.toNat + 32) else c

end EditorModes.Property
