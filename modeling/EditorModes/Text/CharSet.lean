import EditorModes.Text.Hexadecimal

/-!
# Sets of characters

A set of characters is given by the increasing code points at which membership flips: a character
belongs to the set when an odd number of them is at or below it.  Set operations follow both
lists of flips at once, and a table of characters is written as a text of hexadecimal spans.
-/

namespace EditorModes

/-- A set of characters, as the increasing code points where membership flips. -/
structure CharSet where
  flips : Array Nat
  deriving DecidableEq, Repr

namespace CharSet

/-- The code point after the last one. -/
def codeLimit : Nat := 0x110000

/-! ### Membership -/

/--
The number of flips at or below `c`, among those from `low` on and before `high`, plus `low`;
`steps` bounds the number of halvings.
-/
def countLE (flips : Array Nat) (c : Nat) : Nat → Nat → Nat → Nat
  | 0, low, _ => low
  | steps + 1, low, high =>
    if low < high then
      let middle := (low + high) / 2
      if flips.getD middle 0 ≤ c then
        countLE flips c steps (middle + 1) high
      else
        countLE flips c steps low middle
    else
      low

/-- Whether a code point belongs to the set. -/
def containsCode (s : CharSet) (c : Nat) : Bool :=
  countLE s.flips c 32 0 s.flips.size % 2 = 1

/-- Whether a character belongs to the set. -/
def contains (s : CharSet) (c : Char) : Bool :=
  s.containsCode c.toNat

/-! ### Sets given by their members -/

/-- The set without members. -/
def empty : CharSet := ⟨#[]⟩

/-- The set of all characters. -/
def all : CharSet := ⟨#[0, codeLimit]⟩

/-- The characters from one to another. -/
def range (first last : Char) : CharSet :=
  if first ≤ last then ⟨#[first.toNat, last.toNat + 1]⟩ else empty

/-- The set of one character. -/
def single (c : Char) : CharSet :=
  ⟨#[c.toNat, c.toNat + 1]⟩

/--
The flips of spans of code points in increasing order, ends included, where the code points from
`first` and before `stop` are members found so far.
-/
def flipsFrom (first stop : Nat) : List (Nat × Nat) → List Nat
  | [] => [first, stop]
  | (a, b) :: spans =>
    if a ≤ stop then flipsFrom first (max stop (b + 1)) spans
    else first :: stop :: flipsFrom a (b + 1) spans

/-- The set of the code points in a list of spans, ends included. -/
def ofSpans (spans : List (Nat × Nat)) : CharSet :=
  match spans.mergeSort (fun s t => s.1 ≤ t.1) with
  | [] => empty
  | (a, b) :: spans => ⟨(flipsFrom a (b + 1) spans).toArray⟩

/-- The spans that a list of flips bounds. -/
def spansOf : List Nat → List (Nat × Nat)
  | first :: stop :: flips => (first, stop - 1) :: spansOf flips
  | _ => []

/-- The spans of the set in increasing order, ends included. -/
def spans (s : CharSet) : List (Nat × Nat) :=
  spansOf s.flips.toList

/-- Whether no character belongs to the set. -/
def isEmpty (s : CharSet) : Bool :=
  s.flips.isEmpty

/-- The member of a set that has one only. -/
def onlyMember? (s : CharSet) : Option Char :=
  match s.flips.toList with
  | [first, stop] => if stop = first + 1 then some (Char.ofNat first) else none
  | _ => none

/-- Whether all members are ASCII characters. -/
def isAscii (s : CharSet) : Bool :=
  s.flips.all (· ≤ 0x80)

/-! ### Set operations -/

/-- A flip is kept where membership changes. -/
def keepFlip (before after : Bool) (c : Nat) (flips : List Nat) : List Nat :=
  if before = after then flips else c :: flips

/--
The flips of a combination of two sets, from a place on where `a` and `b` tell membership in
either set.
-/
def combineFlips (op : Bool → Bool → Bool) (a b : Bool) (left right : List Nat) : List Nat :=
  match left, right with
  | [], [] => []
  | x :: xs, [] => keepFlip (op a b) (op (!a) b) x (combineFlips op (!a) b xs [])
  | [], y :: ys => keepFlip (op a b) (op a (!b)) y (combineFlips op a (!b) [] ys)
  | x :: xs, y :: ys =>
    if x < y then
      keepFlip (op a b) (op (!a) b) x (combineFlips op (!a) b xs (y :: ys))
    else if y < x then
      keepFlip (op a b) (op a (!b)) y (combineFlips op a (!b) (x :: xs) ys)
    else
      keepFlip (op a b) (op (!a) (!b)) x (combineFlips op (!a) (!b) xs ys)
  termination_by left.length + right.length

/-- The characters for which `op` holds of membership in the two sets. -/
def combine (op : Bool → Bool → Bool) (s t : CharSet) : CharSet :=
  ⟨(combineFlips op false false s.flips.toList t.flips.toList).toArray⟩

/-- The characters in one of two sets. -/
def union (s t : CharSet) : CharSet :=
  s.combine (· || ·) t

/-- The characters in both sets. -/
def intersection (s t : CharSet) : CharSet :=
  s.combine (· && ·) t

/-- The characters in the first set and not in the second. -/
def difference (s t : CharSet) : CharSet :=
  s.combine (fun a b => a && !b) t

/-- The characters in exactly one of two sets. -/
def symmetricDifference (s t : CharSet) : CharSet :=
  s.combine (· != ·) t

/-- The characters outside a set. -/
def complement (s : CharSet) : CharSet :=
  all.difference s

/-- The characters in one of the sets of a list. -/
def unions (sets : List CharSet) : CharSet :=
  ofSpans (sets.flatMap (·.spans))

/-! ### Tables -/

/-- The words of a table, which blanks and line ends separate. -/
def words : List Char → List (List Char)
  | [] => [[]]
  | c :: table =>
    if c = ' ' ∨ c = '\n' then [] :: words table
    else
      match words table with
      | [] => [[c]]
      | word :: rest => (c :: word) :: rest

/--
The spans that a word of a table stands for: `41` is one code point, `41-5A` the code points from
one to another, and `100-12E/2` every second one of them.
-/
def spansOfWord (word : List Char) : List (Nat × Nat) :=
  let bounds := word.takeWhile (· ≠ '/')
  let stride := Hexadecimal.value ((word.dropWhile (· ≠ '/')).drop 1)
  let first := Hexadecimal.value (bounds.takeWhile (· ≠ '-'))
  let last := match bounds.dropWhile (· ≠ '-') with
    | [] => first
    | _ :: digits => Hexadecimal.value digits
  if stride = 0 then [(first, last)]
  else
    (List.range ((last - first) / stride + 1)).map fun i =>
      (first + i * stride, first + i * stride)

/-- The set that the words of a table list. -/
def ofText (table : String) : CharSet :=
  ofSpans (((words table.toList).filter (· ≠ [])).flatMap spansOfWord)

end CharSet

end EditorModes
