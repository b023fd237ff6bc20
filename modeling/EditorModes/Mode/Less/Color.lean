import EditorModes.Mode.Less.Stylesheet

/-!
# Colors

Colors are written with a hash and three, four, six or eight hexadecimal digits, or as a call of
a color function.  Those in the values of a stylesheet are found, and besides them the variables
that stand for a color.
-/

namespace EditorModes.Less

/-- Whether a character is a hexadecimal digit. -/
def isHexDigit (c : Char) : Bool :=
  Property.isAsciiDigit c || ('a' ≤ c && c ≤ 'f') || ('A' ≤ c && c ≤ 'F')

/-- The functions that make a color. -/
def colorFunctions : List String :=
  ["rgb", "rgba", "hsl", "hsla"]

/-- Whether no word goes on at the start of a text. -/
def endsWord (t : Text) : Bool :=
  t.head?.all fun c => !Property.isWord c

/-- The length in characters of the call of a color function at the start of a text. -/
def callLength? (t : Text) : Option Nat := do
  let name := (t.take 5).takeWhile (· ≠ '(')
  if !colorFunctions.contains (String.ofList name) then none
  let arguments := (t.drop (name.length + 1)).takeWhile fun c => c ≠ '(' && c ≠ ')'
  if (t.drop (name.length + 1 + arguments.length)).head? = some ')' then
    some (name.length + arguments.length + 2)
  else
    none

/-- The length in characters of the color at the start of a text that stands after `before`. -/
def colorLength? (before : Option Char) : Text → Option Nat
  | [] => none
  | '#' :: t =>
    let digits := t.takeWhile isHexDigit
    if [3, 4, 6, 8].contains digits.length && endsWord (t.drop digits.length) then
      some (digits.length + 1)
    else
      none
  | c :: t => if before.any Property.isWord then none else callLength? (c :: t)

/--
The spans of the colors in the values of a masked text that starts at a byte offset.  `before` is
the character before it, `skip` how many of its characters belong to a color found already, and
`inValue` tells whether its statement has a colon already.
-/
def valueColorsFrom (offset : Nat) (before : Option Char) (inValue : Bool) :
    (skip : Nat) → Text → List Span
  | _, [] => []
  | skip, c :: t =>
    let rest (skip : Nat) :=
      valueColorsFrom (offset + c.utf8Size) (some c)
        (!isStatementEnd c && (inValue || c = ':')) skip t
    match skip with
    | skip + 1 => rest skip
    | 0 =>
      match colorLength? before (c :: t) with
      | none => rest 0
      | some length =>
        let after := (c :: t).drop length
        let size := Text.byteSize ((c :: t).take length)
        if inValue && (Text.trimStart after).head? ≠ some '\x7b' then
          ⟨offset, offset + size⟩ :: rest (length - 1)
        else
          rest (length - 1)

/-- A color, or a variable that stands for one, and the color as it is written. -/
structure ColorUse where
  span : Span
  value : Text
  deriving DecidableEq, Repr

/-- Whether a text is a color and nothing else. -/
def isColor (t : Text) : Bool :=
  colorLength? none t = some t.length

/-- The uses of variables that stand for a color. -/
def Stylesheet.colorVariables (s : Stylesheet) : List ColorUse :=
  s.occurrences.filterMap fun o =>
    if o.isDeclaration then none
    else ((s.valueOf? o.name).filter isColor).map (⟨o.span, ·⟩)

/-- The colors of a stylesheet in their order; `none` stands for a cut inside a character. -/
def colors? (text : Text) : Option (List ColorUse) := do
  let literals ← (valueColorsFrom 0 none false 0 (mask text)).mapM fun span => do
    return (⟨span, ← text.slice? span.start span.stop⟩ : ColorUse)
  let sheet ← Stylesheet.ofText? text
  return (literals ++ sheet.colorVariables).mergeSort fun a b => a.span.start ≤ b.span.start

end EditorModes.Less
