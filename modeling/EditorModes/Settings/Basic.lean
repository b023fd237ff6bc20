import EditorModes.Mode.Less.Options
import EditorModes.Toml.Parser

/-!
# Settings

What can be set for a workspace.  Everything has a default.
-/

namespace EditorModes

open Json (Format recordOf? listOf? required? defaulting? optional?)

/-- The settings of a workspace. -/
structure Settings where
  /-- The number of workers for each language. -/
  workerCount : Nat := 1
  /-- The number of bytes after which lines are not tokenized. -/
  maxLineLength : Option Nat := none
  /-- The files of further grammars, relative to the directory of the settings. -/
  grammars : List String := []
  less : Less.Options := {}
  deriving DecidableEq, Repr

/-- The settings that a record makes. -/
def Settings.ofJson? (format : Format) (j : Json) : Option Settings := do
  let field ← recordOf? format ["workers", "tokenizer", "grammars", "modes"] j
  let count (j : Json) : Option Nat := do
    let field ← recordOf? format ["count"] j
    defaulting? Json.nat? 1 (field "count")
  let maxLineLength (j : Json) : Option (Option Nat) := do
    let field ← recordOf? format ["max_line_length"] j
    optional? Json.nat? (field "max_line_length")
  let path (j : Json) : Option String := do
    let field ← recordOf? format ["path"] j
    required? Json.text? (field "path")
  let less (j : Json) : Option Less.Options := do
    let field ← recordOf? format ["less"] j
    defaulting? (Less.Options.ofJson? format) {} (field "less")
  return {
    workerCount := ← defaulting? count 1 (field "workers")
    maxLineLength := ← defaulting? maxLineLength none (field "tokenizer")
    grammars := ← defaulting? (listOf? path) [] (field "grammars")
    less := ← defaulting? less {} (field "modes") }

/-- The JSON form. -/
def Settings.toJson (s : Settings) : Json :=
  .object
    [("workers", .ofNat s.workerCount),
      ("max_line_length", .ofOption .ofNat s.maxLineLength),
      ("grammars", .ofList .text s.grammars),
      ("unbalanced_braces", .text s.less.unbalancedBraces.name)]

/-- The settings that a text makes. -/
def Settings.ofText? (t : Text) : Option Settings :=
  (Toml.parse? t).bind (Settings.ofJson? .toml)

end EditorModes
