import EditorModes.Text.CharSet
import Std.Data.HashSet

/-!
# Sets of characters as byte sequences

The UTF-8 forms of the characters in a set are listed as sequences of byte ranges: a character is
in the set when the bytes of its form lie, one after the other, in the ranges of a sequence.
These sequences tell how large an automaton is that reads the set byte by byte.
-/

namespace EditorModes.Regex

/-- The bytes from one to another. -/
abbrev ByteRange := Nat × Nat

/--
The sequences for the numbers from `first` to `last`, written with one leading digit and `count`
further digits to the base 64.  The numbers that share their leading digit with a bound are
listed apart, unless they run through all further digits.
-/
def digitRanges : (count : Nat) → (first last : Nat) → List (List ByteRange)
  | 0, first, last => [[(first, last)]]
  | count + 1, first, last =>
    let block := 64 ^ (count + 1)
    let low := first / block
    let high := last / block
    let within (digit first last : Nat) : List (List ByteRange) :=
      (digitRanges count first last).map ((digit, digit) :: ·)
    if low = high then
      within low (first % block) (last % block)
    else
      let startsBlock := first % block = 0
      let endsBlock := last % block = block - 1
      let next := if startsBlock then low else low + 1
      let stop := if endsBlock then high + 1 else high
      (if startsBlock then [] else within low (first % block) (block - 1))
        ++ (if next < stop then [(next, stop - 1) :: List.replicate (count + 1) (0, 63)] else [])
        ++ (if endsBlock then [] else within high 0 (last % block))

/-- A stretch of code points whose UTF-8 forms have as many bytes after the first. -/
structure Zone where
  first : Nat
  last : Nat
  further : Nat
  marker : Nat

/-- The stretches of code points; the gap before the fourth holds no characters. -/
def zones : List Zone :=
  [⟨0, 0x7f, 0, 0⟩, ⟨0x80, 0x7ff, 1, 0xc0⟩, ⟨0x800, 0xd7ff, 2, 0xe0⟩, ⟨0xe000, 0xffff, 2, 0xe0⟩,
    ⟨0x10000, 0x10ffff, 3, 0xf0⟩]

/-- The byte ranges of a sequence of digits, each of them marked by its place. -/
def markDigits (marker : Nat) : List ByteRange → List ByteRange
  | [] => []
  | (first, last) :: digits =>
    (marker + first, marker + last) :: digits.map fun (a, b) => (0x80 + a, 0x80 + b)

/-- The byte sequences of the code points in a span. -/
def spanSequences (span : Nat × Nat) : List (List ByteRange) :=
  zones.flatMap fun zone =>
    let first := max span.1 zone.first
    let last := min span.2 zone.last
    if first ≤ last then (digitRanges zone.further first last).map (markDigits zone.marker) else []

/-- The byte sequences of the characters in a set, in increasing order. -/
def byteSequences (s : CharSet) : List (List ByteRange) :=
  s.spans.flatMap spanSequences

/-- The sequences grouped by their first range; those that have ended are left out. -/
def groupByFirst : List (List ByteRange) → List (ByteRange × List (List ByteRange))
  | [] => []
  | [] :: sequences => groupByFirst sequences
  | (range :: rest) :: sequences =>
    match groupByFirst sequences with
    | [] => [(range, [rest])]
    | (other, rests) :: groups =>
      if range = other then (range, rest :: rests) :: groups
      else (range, [rest]) :: (other, rests) :: groups

/--
What can remain to be read after up to `depth` bytes of a sequence, told apart by the sequences
that remain; `found` holds what was found before.
-/
def remainders : (depth : Nat) → List (List ByteRange) → Std.HashSet (List (List ByteRange)) →
    Std.HashSet (List (List ByteRange))
  | 0, _, found => found
  | depth + 1, sequences, found =>
    (groupByFirst sequences).foldl
      (fun found (_, rests) => remainders depth rests found) (found.insert sequences)

/-- The number of bytes that an instruction of an automaton takes up. -/
def instructionSize : Nat := 32

/-- The number of bytes of a jump that depends on the byte read. -/
def jumpSize : Nat := 8

/-- The number of bytes of a jump that does not depend on what is read. -/
def linkSize : Nat := 4

/-- The size of the automaton for a set whose members are ASCII characters. -/
def asciiSetSize (s : CharSet) : Nat :=
  2 * instructionSize + jumpSize * s.spans.length

/--
The size of the smallest automaton that reads the members of a set from their first byte: states
from which the same sequences remain are one state.
-/
def setSize (s : CharSet) : Nat :=
  if s.isAscii then asciiSetSize s
  else
    let states := (remainders 4 (byteSequences s) ∅).toList.filter (· ≠ [[]])
    states.foldl
      (fun size state => size + instructionSize + jumpSize * (groupByFirst state).length)
      instructionSize

/-- The number of places from which on a sequence differs from the one before it. -/
def newPlaces : List ByteRange → List ByteRange → Nat
  | a :: previous, b :: sequence =>
    if a = b then newPlaces previous sequence else sequence.length + 1
  | _, sequence => sequence.length

/--
The size of the automaton that reads the members of a set from their last byte: sequences share
the states of the bytes that they start with.
-/
def reverseSetSize (s : CharSet) : Nat :=
  if s.isAscii then asciiSetSize s
  else
    let sequences := byteSequences s
    2 * instructionSize + linkSize * sequences.length
      + instructionSize
        * ((([] :: sequences).zip sequences).map fun (a, b) => newPlaces a b).foldl (· + ·) 0

end EditorModes.Regex
