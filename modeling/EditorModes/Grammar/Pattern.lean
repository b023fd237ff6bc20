import EditorModes.Grammar.Basic
import EditorModes.Text.Basic

/-!
# Attributes in patterns

A pattern may refer to an attribute of its grammar as `@name`; the reference stands for the
attribute's value in a group of its own, and the value may refer to further attributes.
`expand` puts the values in place.  A backslash keeps the character after it from being read,
and `\@` stands for a plain `@`.
-/

namespace EditorModes.Grammar

/-- A piece of a pattern. -/
inductive Piece where
  | char (c : Char)
  | escape (c : Char)
  | reference (name : Text)
  deriving DecidableEq, Repr

/-- Whether a character may stand in the name of an attribute. -/
def isAttributeChar (c : Char) : Bool :=
  Property.isAsciiAlphanumeric c || c = '_'

/-- The piece that an `@` and the characters of a name after it make; a lone `@` is itself. -/
def Piece.ofName (name : Text) : Piece :=
  if name = [] then .char '@' else .reference name

/--
The pieces of a pattern.  `name` holds the characters, last first, of the name being read since
the last `@`, if there is one.
-/
def piecesFrom : Option Text → Text → List Piece
  | name, [] => (name.map fun run => Piece.ofName run.reverse).toList
  | name, c :: t =>
    match name with
    | some run =>
      if isAttributeChar c then piecesFrom (some (c :: run)) t
      else
        Piece.ofName run.reverse ::
          (if c = '@' then piecesFrom (some []) t
          else if c = '\\' then
            match t with
            | [] => [.char c]
            | d :: t => .escape d :: piecesFrom none t
          else .char c :: piecesFrom none t)
    | none =>
      if c = '@' then piecesFrom (some []) t
      else if c = '\\' then
        match t with
        | [] => [.char c]
        | d :: t => .escape d :: piecesFrom none t
      else .char c :: piecesFrom none t

/-- The pieces of a pattern. -/
def pieces (pattern : Text) : List Piece :=
  piecesFrom none pattern

/-- Why the attributes of a pattern cannot be put in place. -/
inductive ExpansionError where
  | unknownAttribute (pattern name : Text)
  | tooDeep (pattern : Text)
  deriving DecidableEq, Repr

/-- How deep the values of attributes may refer to further attributes. -/
def attributeDepth : Nat := 5

/-- The pattern with its attributes in place, which may refer to others `levels - 1` deep. -/
def expandWithin (attributes : List (String × String)) :
    (levels : Nat) → Text → Except ExpansionError Text
  | 0, pattern => .error (.tooDeep pattern)
  | levels + 1, pattern => do
    let expanded ← (pieces pattern).mapM fun
      | .char c => pure [c]
      | .escape '@' => pure ['@']
      | .escape c => pure ['\\', c]
      | .reference name =>
        match attributes.lookup (String.ofList name) with
        | none => throw (.unknownAttribute pattern name)
        | some value => do
          let value ← expandWithin attributes levels value.toList
          pure ("(?:".toList ++ value ++ [')'])
    return expanded.flatten

/-- The pattern with its attributes in place. -/
def expand (attributes : List (String × String)) (pattern : Text) : Except ExpansionError Text :=
  expandWithin attributes (attributeDepth + 1) pattern

end EditorModes.Grammar
