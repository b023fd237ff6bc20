import EditorModes.Text.Position

/-!
# Variables

A variable is an `@` and a name that is not the name of an at-rule.  It is declared where it
starts a statement and a colon follows; its value goes up to the end of the statement.
Variables are looked for in the masked stylesheet.
-/

namespace EditorModes.Less

/-- The at-rules, whose names no variable has. -/
def atRules : List String :=
  ["import", "media", "charset", "font-face", "keyframes", "supports", "page", "namespace",
    "plugin", "document"]

/-- Whether a character ends a statement. -/
def isStatementEnd (c : Char) : Bool :=
  c = '\x7b' || c = '\x7d' || c = ';'

/-- The part of a text behind the last end of a statement. -/
def openStatement (t : Text) : Text :=
  t.suffixWhile fun c => !isStatementEnd c

/-- A place where a variable stands, and where the value is if it declares the variable. -/
structure VariableUse where
  /-- The name with the `@` before it. -/
  name : Text
  span : Span
  value : Option Span
  deriving DecidableEq, Repr

/-- The longest name at the start of a text; the empty text when there is none. -/
def nameAt (t : Text) : Text :=
  match t with
  | [] => []
  | c :: rest =>
    if Property.isAsciiLetter c || c = '_' then
      c :: rest.takeWhile fun c => Property.isWord c || c = '-'
    else
      []

/-- The span of the value that is declared by what follows a variable at a byte offset. -/
def declaredValue? (offset : Nat) (t : Text) : Option Span :=
  match Text.trimStart t with
  | ':' :: rest =>
    let start := offset + (t.byteSize - Text.byteSize rest)
    some ⟨start, start + Text.byteSize (rest.takeWhile fun c => !isStatementEnd c)⟩
  | _ => none

/-- The variable that the text behind an `@` makes; `before` is the last mark before the `@`. -/
def variableAt? (offset : Nat) (before : Option Char) (t : Text) : Option VariableUse :=
  let name := nameAt t
  if name = [] || atRules.contains (String.ofList name) then none
  else
    let stop := offset + 1 + name.byteSize
    some {
      name := '@' :: name
      span := ⟨offset, stop⟩
      value :=
        if before.all isStatementEnd then declaredValue? stop (t.drop name.length) else none }

/--
The variables of a text that starts at a byte offset, where `before` is the last character before
it that is not white space.
-/
def variablesFrom (offset : Nat) (before : Option Char) : Text → List VariableUse
  | [] => []
  | c :: t =>
    let rest :=
      variablesFrom (offset + c.utf8Size) (if Property.isSpace c then before else some c) t
    match if c = '@' then variableAt? offset before t else none with
    | some use => use :: rest
    | none => rest

/-- The variables of a masked stylesheet. -/
def variableUses (masked : Text) : List VariableUse :=
  variablesFrom 0 none masked

end EditorModes.Less
