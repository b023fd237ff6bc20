import EditorModes.Json.Decode

/-!
# Options

How severe a brace without a partner is.  Settings and clients say so in a record, in which
everything may be left out.
-/

namespace EditorModes.Less

open Json (Format recordOf? defaulting? nameOf?)

/-- How severe a problem is; ignored problems are not reported. -/
inductive Severity where
  | error
  | warning
  | ignore
  deriving DecidableEq, Repr

/-- The name of a severity. -/
def Severity.name : Severity → String
  | error => "error"
  | warning => "warning"
  | ignore => "ignore"

/-- The severity that a value names. -/
def Severity.ofJson? (format : Format) (j : Json) : Option Severity := do
  let name ← nameOf? format j
  [error, warning, ignore].find? (·.name = name)

/-- What can be set for stylesheets. -/
structure Options where
  unbalancedBraces : Severity := .error
  deriving DecidableEq, Repr

/-- The options that a record sets. -/
def Options.ofJson? (format : Format) (j : Json) : Option Options := do
  let field ← recordOf? format ["lint"] j
  let lint (j : Json) : Option Severity := do
    let field ← recordOf? format ["unbalanced_braces"] j
    defaulting? (Severity.ofJson? format) .error (field "unbalanced_braces")
  return { unbalancedBraces := ← defaulting? lint .error (field "lint") }

end EditorModes.Less
