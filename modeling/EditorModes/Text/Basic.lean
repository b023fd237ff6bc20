import EditorModes.Text.Property

/-!
# Text and its measures

A text is a list of characters.  It is measured in bytes of its UTF-8 form, which is how lines
are indexed, and in UTF-16 units, which is how editors count columns.  A byte offset into a text
names a cut of it into a part before and a part after; offsets inside a character name no cut.
-/

namespace EditorModes

/-- A sequence of characters. -/
abbrev Text := List Char

/-- The number of UTF-16 units of a character. -/
def utf16Width (c : Char) : Nat :=
  if c.toNat < 0x10000 then 1 else 2

namespace Text

/-- The number of bytes of the UTF-8 form. -/
def byteSize : Text → Nat
  | [] => 0
  | c :: rest => c.utf8Size + byteSize rest

/-- The number of UTF-16 units. -/
def utf16Size : Text → Nat
  | [] => 0
  | c :: rest => utf16Width c + utf16Size rest

@[simp]
theorem byteSize_nil :
  byteSize [] = 0
  := rfl

@[simp]
theorem byteSize_cons (c : Char) (t : Text) :
  byteSize (c :: t) = c.utf8Size + byteSize t
  := rfl

@[simp]
theorem byteSize_append (s t : Text) :
  byteSize (s ++ t) = byteSize s + byteSize t
  := by
  induction s with
  | nil => simp
  | cons c s ih => simp [ih, Nat.add_assoc]

/-- A text is no longer than the bytes that hold it. -/
theorem length_le_byteSize (t : Text) :
  t.length ≤ byteSize t
  := by
  induction t with
  | nil => simp
  | cons c t ih =>
    have := c.utf8Size_pos
    simp only [List.length_cons, byteSize_cons]
    omega

/-- The characters of a text that starts at a byte offset, each with its own offset. -/
def indices (offset : Nat) : Text → List (Nat × Char)
  | [] => []
  | c :: t => (offset, c) :: indices (offset + c.utf8Size) t

/-- The parts before and after the byte offset `n`, when `n` falls between two characters. -/
def splitAt? : Text → Nat → Option (Text × Text)
  | t, 0 => some ([], t)
  | [], _ + 1 => none
  | c :: t, n + 1 =>
    if c.utf8Size ≤ n + 1 then
      (splitAt? t (n + 1 - c.utf8Size)).map fun (before, after) => (c :: before, after)
    else
      none

/-- The parts before and after the last cut at or before the byte offset `n`. -/
def splitFloor : Text → Nat → Text × Text
  | [], _ => ([], [])
  | c :: t, n =>
    if c.utf8Size ≤ n then
      let (before, after) := splitFloor t (n - c.utf8Size)
      (c :: before, after)
    else
      ([], c :: t)

/-- The longest prefix of at most `n` bytes. -/
def takeBytes (t : Text) (n : Nat) : Text :=
  (t.splitFloor n).1

/-- The text between two byte offsets, when both fall between characters and are in order. -/
def slice? (t : Text) (first last : Nat) : Option Text := do
  if last < first then none
  let (before, _) ← t.splitAt? last
  let (_, between) ← before.splitAt? first
  return between

/-- The longest prefix of characters in a class, and the rest. -/
def spanWhile (p : Char → Bool) (t : Text) : Text × Text :=
  (t.takeWhile p, t.dropWhile p)

/-- The longest suffix of characters in a class. -/
def suffixWhile (p : Char → Bool) (t : Text) : Text :=
  (t.reverse.takeWhile p).reverse

/-- The text without the characters of a class at its start. -/
def trimStartBy (p : Char → Bool) (t : Text) : Text :=
  t.dropWhile p

/-- The text without the characters of a class at its end. -/
def trimEndBy (p : Char → Bool) (t : Text) : Text :=
  (t.reverse.dropWhile p).reverse

/-- The text without white space at its start. -/
def trimStart (t : Text) : Text :=
  t.trimStartBy Property.isSpace

/-- The text without white space at its end. -/
def trimEnd (t : Text) : Text :=
  t.trimEndBy Property.isSpace

/-- The text without white space at its two ends. -/
def trim (t : Text) : Text :=
  t.trimStart.trimEnd

/-- What follows `needle`, when the text starts with it. -/
def dropPrefix? : (needle t : Text) → Option Text
  | [], t => some t
  | _ :: _, [] => none
  | a :: needle, b :: t => if a = b then dropPrefix? needle t else none

/-- Whether the text starts with `needle`. -/
def startsWith (t needle : Text) : Bool :=
  (dropPrefix? needle t).isSome

/-- The parts before and after the first occurrence of `needle`. -/
def splitFirst? (needle : Text) : Text → Option (Text × Text)
  | [] => (dropPrefix? needle []).map fun after => ([], after)
  | c :: t =>
    match dropPrefix? needle (c :: t) with
    | some after => some ([], after)
    | none => (splitFirst? needle t).map fun (before, after) => (c :: before, after)

/-- The pieces between the characters equal to `separator`. -/
def splitOnChar (separator : Char) : Text → List Text
  | [] => [[]]
  | c :: t =>
    if c = separator then
      [] :: splitOnChar separator t
    else
      match splitOnChar separator t with
      | [] => [[c]]
      | piece :: pieces => (c :: piece) :: pieces

/-- The maximal runs of characters outside a class. -/
def fields (isGap : Char → Bool) (t : Text) : List Text :=
  (go [] t).filter (· ≠ [])
where
  go (run : Text) : Text → List Text
    | [] => [run.reverse]
    | c :: t => if isGap c then run.reverse :: go [] t else go (c :: run) t

/-- The pieces, with `separator` between them. -/
def join (separator : Text) : List Text → Text
  | [] => []
  | [piece] => piece
  | piece :: pieces => piece ++ separator ++ join separator pieces

end Text

end EditorModes
