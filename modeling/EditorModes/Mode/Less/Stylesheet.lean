import EditorModes.Mode.Less.Block
import EditorModes.Mode.Less.Mask

/-!
# Stylesheets

What is known of a stylesheet: its variables with the values declared for them, its rules and
the braces without partners.  A variable has the value of its last declaration.
-/

namespace EditorModes.Less

/-- A place where a variable stands, with its value if it is declared there. -/
structure Occurrence where
  name : Text
  span : Span
  value : Option Text
  deriving DecidableEq, Repr

/-- Whether the variable is declared there. -/
def Occurrence.isDeclaration (o : Occurrence) : Bool :=
  o.value.isSome

/-- What is known of a stylesheet. -/
structure Stylesheet where
  occurrences : List Occurrence
  rules : List OutlineNode
  loneBraces : List LoneBrace
  deriving Repr

namespace Stylesheet

/--
What is known of a stylesheet; values are cut out of the stylesheet itself, and `none` stands for
a cut inside a character.
-/
def ofText? (text : Text) : Option Stylesheet := do
  let masked := mask text
  let occurrences ← (variableUses masked).mapM fun use => do
    let value ← match use.value with
      | none => pure none
      | some span => (text.slice? span.start span.stop).map fun value => some value.trim
    return { name := use.name, span := use.span, value := value }
  return ⟨occurrences, ruleTree masked, unmatchedBraces masked⟩

/-- The first variable whose span, both ends included, contains a byte offset. -/
def occurrenceAt? (s : Stylesheet) (offset : Nat) : Option Occurrence :=
  s.occurrences.find? fun o => o.span.start ≤ offset && offset ≤ o.span.stop

/-- All places where the variable at a byte offset stands. -/
def occurrencesAt (s : Stylesheet) (offset : Nat) : List Occurrence :=
  match s.occurrenceAt? offset with
  | none => []
  | some here => s.occurrences.filter (·.name = here.name)

/-- The value of the last declaration of a variable. -/
def valueOf? (s : Stylesheet) (name : Text) : Option Text := do
  let last ← (s.occurrences.filter fun o => o.name = name && o.isDeclaration).getLast?
  last.value

/-- The places where the variable at a byte offset is declared. -/
def declarationsAt (s : Stylesheet) (offset : Nat) : List Span :=
  ((s.occurrencesAt offset).filter (·.isDeclaration)).map (·.span)

/-- The places where the variable at a byte offset stands, its declarations included or not. -/
def referencesAt (s : Stylesheet) (offset : Nat) (declarations : Bool) : List Span :=
  ((s.occurrencesAt offset).filter fun o => declarations || !o.isDeclaration).map (·.span)

/-- The variable at a byte offset and its value, as it would be declared. -/
def hoverAt? (s : Stylesheet) (offset : Nat) : Option (Span × Text) := do
  let here ← s.occurrenceAt? offset
  let value ← s.valueOf? here.name
  return (here.span, here.name ++ ": ".toList ++ value)

end Stylesheet

namespace OutlineNode

/-- The nodes with one more, before the first that starts behind it. -/
def insertByStart (added : OutlineNode) : List OutlineNode → List OutlineNode
  | [] => [added]
  | node :: nodes =>
    if added.span.start < node.span.start then added :: node :: nodes
    else node :: insertByStart added nodes

/-- The nodes with one more inside the innermost rule that holds it, if any does. -/
def placeInside? (added : OutlineNode) : List OutlineNode → Option (List OutlineNode)
  | [] => none
  | .mk name kind span selection children :: nodes =>
    if kind = .rule && span.start ≤ added.span.start && added.span.stop ≤ span.stop then
      let children := (placeInside? added children).getD (insertByStart added children)
      some (.mk name kind span selection children :: nodes)
    else
      (placeInside? added nodes).map (.mk name kind span selection children :: ·)

/-- The nodes with one more, which goes into the innermost rule that holds it. -/
def place (added : OutlineNode) (nodes : List OutlineNode) : List OutlineNode :=
  (placeInside? added nodes).getD (insertByStart added nodes)

end OutlineNode

/-- The rules with the declared variables, each in the innermost rule that holds it. -/
def Stylesheet.outline (s : Stylesheet) : List OutlineNode :=
  (s.occurrences.filter (·.isDeclaration)).foldl
    (fun nodes o => OutlineNode.place (.mk o.name .variable o.span o.span []) nodes) s.rules

end EditorModes.Less
