import EditorModes.Json.Basic
import EditorModes.Text.Position

/-!
# Values of the language server protocol

The values that requests are answered with.  Kinds and severities are the numbers of the protocol
and pass through unchanged.
-/

namespace EditorModes

/-- A piece of hover text, as it is or as code in a language. -/
inductive MarkedString where
  | plain (text : String)
  | code (language value : String)
  deriving DecidableEq, Repr

/-- What a hover shows. -/
inductive HoverContents where
  | scalar (text : MarkedString)
  | array (texts : List MarkedString)
  | markup (kind value : String)
  deriving DecidableEq, Repr

/-- What is shown for a place in a document, and the range it is about. -/
structure Hover where
  contents : HoverContents
  range : Option Range
  deriving DecidableEq, Repr

/-- A range in a document. -/
structure Location where
  uri : String
  range : Range
  deriving DecidableEq, Repr

/-- A range that is highlighted. -/
structure Highlight where
  range : Range
  kind : Option Nat
  deriving DecidableEq, Repr

/-- A replacement of a range of the document. -/
structure TextEdit where
  range : Range
  newText : String
  deriving DecidableEq, Repr

/-- Something to complete what is being typed with. -/
structure CompletionItem where
  label : String
  kind : Option Nat
  detail : Option String
  deriving DecidableEq, Repr

/-- A problem in a range. -/
structure Diagnostic where
  range : Range
  message : String
  severity : Option Nat
  source : Option String
  deriving DecidableEq, Repr

/-- A command that the client may run. -/
structure Command where
  title : String
  command : String
  arguments : Option (List Json)
  deriving Repr

/-- A command shown above a range. -/
structure CodeLens where
  range : Range
  command : Option Command
  data : Option Json
  deriving Repr

/-- A link in a range. -/
structure DocumentLink where
  range : Range
  target : Option String
  tooltip : Option String
  deriving DecidableEq, Repr

/-- The signatures that a call may have, by their labels. -/
structure SignatureHelp where
  signatures : List String
  activeSignature : Option Nat
  deriving DecidableEq, Repr

/-- A node of the outline of a document. -/
inductive OutlineEntry where
  | mk (name : String) (kind : Nat) (range selection : Range) (children : List OutlineEntry)
  deriving Repr

/-- A class in an outline. -/
def SymbolKind.className : Nat := 5

/-- A variable in an outline. -/
def SymbolKind.variableName : Nat := 13

/-- A plain word among completions. -/
def CompletionKind.text : Nat := 1

/-- A variable among completions. -/
def CompletionKind.variable : Nat := 6

/-- A property among completions. -/
def CompletionKind.property : Nat := 10

/-- A value among completions. -/
def CompletionKind.value : Nat := 12

/-- A keyword among completions. -/
def CompletionKind.keyword : Nat := 14

/-- A place that reads what is highlighted. -/
def HighlightKind.read : Nat := 2

/-- A place that defines what is highlighted. -/
def HighlightKind.write : Nat := 3

end EditorModes
