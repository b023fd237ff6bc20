import EditorModes.Mode.Less.Color
import EditorModes.Mode.Less.Completion
import EditorModes.Mode.Less.Indentation
import EditorModes.Mode.Less.Options
import EditorModes.Mode.Less.ValueStep

/-!
# Workers

A worker analyzes stylesheets under its options, and counts how many of them it has validated.
-/

namespace EditorModes.Less

/-- A brace without a partner, and how severe that is. -/
structure Problem where
  span : Span
  message : String
  severity : Severity
  deriving DecidableEq, Repr

/-- The state of a worker. -/
structure Worker where
  options : Options := {}
  isValidator : Bool := false
  validations : Nat := 0
  deriving DecidableEq, Repr

namespace Worker

/-- The worker under other options. -/
def configure (w : Worker) (options : Options) : Worker :=
  { w with options := options }

/-- The worker, chosen to validate. -/
def markValidator (w : Worker) : Worker :=
  { w with isValidator := true }

/-- The worker after one more validation. -/
def countValidation (w : Worker) : Worker :=
  { w with validations := w.validations + 1 }

/-- The problems of a stylesheet; nothing is analyzed when they are to be ignored. -/
def problems? (w : Worker) (text : Text) : Option (List Problem) :=
  let severity := w.options.unbalancedBraces
  if severity = .ignore then some []
  else (Stylesheet.ofText? text).map fun sheet =>
    sheet.loneBraces.map fun b => ⟨b.span, b.imbalance.message, severity⟩

end Worker

end EditorModes.Less
