import EditorModes.Mode.Less.Completion

/-!
# Indentation

A line is indented by the number of blocks open where it starts, one less if it starts with a
closing brace.  Blank lines get no indentation, and lines that hold nothing but comments or the
inside of a string or script stay as they are.
-/

namespace EditorModes.Less

/-- New indentation for a line that starts with some bytes of white space now. -/
structure IndentEdit where
  line : Nat
  current : Nat
  indent : Text
  deriving DecidableEq, Repr

/-- A number of copies of the unit of indentation. -/
def indentation (unit : Text) (level : Nat) : Text :=
  (List.replicate level unit).flatten

/-- The edit that gives a line its indentation, when it has another one. -/
def editIndent? (number : Nat) (line indent : Text) : Option IndentEdit :=
  let current : Text := line.takeWhile Property.isSpace
  if current = indent then none else some ⟨number, current.byteSize, indent⟩

/--
The edits for lines and their masked forms, the first of which has the given number, where
`depth` is the number of blocks open before it.
-/
def indentFrom (unit : Text) (number : Nat) (depth : Int) : List (Text × Text) → List IndentEdit
  | [] => []
  | (line, masked) :: rest =>
    let line := line.dropCarriageReturn
    let content := masked.trim
    if content = [] then
      let edit := if line.trim = [] then editIndent? number line [] else none
      edit.toList ++ indentFrom unit (number + 1) depth rest
    else
      let level := if content.head? = some '\x7d' then depth - 1 else depth
      (editIndent? number line (indentation unit level.toNat)).toList
        ++ indentFrom unit (number + 1) (depth + braceBalance content) rest

/-- The edits that indent a stylesheet, with a unit of indentation for each block. -/
def indentEdits (text unit : Text) : List IndentEdit :=
  indentFrom unit 0 0 ((text.splitOnChar '\n').zip ((mask text).splitOnChar '\n'))

end EditorModes.Less
