import EditorModes.Text.Basic

/-!
# Offsets and positions

A place in a text is given by its byte offset or by its position: the number of its line and its
column in UTF-16 units.  Lines end at line feeds; a carriage return before the line feed, or at
the end of the text, belongs to the terminator and not to the content of the line.
-/

namespace EditorModes

/-- A line and a column in UTF-16 units, both counted from zero. -/
structure Position where
  line : Nat
  column : Nat
  deriving DecidableEq, Repr, Inhabited

/-- A stretch between two positions. -/
structure Range where
  start : Position
  stop : Position
  deriving DecidableEq, Repr, Inhabited

/-- A stretch between two byte offsets. -/
structure Span where
  start : Nat
  stop : Nat
  deriving DecidableEq, Repr, Inhabited

/-- The position reached from `p` by reading a text. -/
def Position.after (p : Position) : Text → Position
  | [] => p
  | c :: t =>
    if c = '\n' then Position.after ⟨p.line + 1, 0⟩ t
    else Position.after ⟨p.line, p.column + utf16Width c⟩ t

/-- A line of a text: where it starts, in bytes, and what it holds without its terminator. -/
structure Line where
  start : Nat
  content : Text
  deriving DecidableEq, Repr

/-- The number of bytes before the terminator. -/
def Line.stop (l : Line) : Nat :=
  l.start + l.content.byteSize

namespace Text

/-- The text without one carriage return at its end. -/
def dropCarriageReturn (t : Text) : Text :=
  if t.getLast? = some '\r' then t.dropLast else t

/-- The contents of the lines; a line feed at the end starts an empty last line. -/
def lineContents (t : Text) : List Text :=
  (t.splitOnChar '\n').map dropCarriageReturn

/-- The lines made of `pieces`, which stand one after another with a line feed between them. -/
def linesFrom (start : Nat) : List Text → List Line
  | [] => []
  | piece :: pieces =>
    ⟨start, piece.dropCarriageReturn⟩ :: linesFrom (start + piece.byteSize + 1) pieces

/-- The lines of the text. -/
def lines (t : Text) : List Line :=
  linesFrom 0 (t.splitOnChar '\n')

/-- The number of lines. -/
def lineCount (t : Text) : Nat :=
  t.lines.length

/-- The line of a number. -/
def line? (t : Text) (n : Nat) : Option Line :=
  t.lines[n]?

/--
The position of a byte offset, offsets beyond the end standing for the end; `none` inside a
character.
-/
def positionAt? (t : Text) (offset : Nat) : Option Position :=
  (t.splitAt? (min offset t.byteSize)).map fun (before, _) => Position.after ⟨0, 0⟩ before

/-- The number of bytes before the first cut `column` UTF-16 units in, or before the end. -/
def columnBytes : Text → Nat → Nat
  | _, 0 => 0
  | [], _ + 1 => 0
  | c :: t, column + 1 => c.utf8Size + columnBytes t (column + 1 - utf16Width c)

/-- The byte offset of a position whose line exists; columns past the end stand for the end. -/
def offsetAt? (t : Text) (p : Position) : Option Nat :=
  (t.line? p.line).map fun line => line.start + line.content.columnBytes p.column

/-- The range of a span whose ends fall between characters. -/
def rangeOf? (t : Text) (s : Span) : Option Range := do
  return ⟨← t.positionAt? s.start, ← t.positionAt? s.stop⟩

/-- The span of a range whose lines exist; it is empty when the range ends before it starts. -/
def spanOf? (t : Text) (r : Range) : Option Span := do
  let start ← t.offsetAt? r.start
  let stop ← t.offsetAt? r.stop
  return ⟨start, max stop start⟩

end Text

end EditorModes
