import EditorModes.Protocol.Value
import EditorModes.Text.Basic

/-!
# Answers of providers

What providers answer, beyond the values of the protocol, and which answers carry enough to be
shown.
-/

namespace EditorModes

/-- Suggestions; more of them may come as typing goes on when they are incomplete. -/
structure Suggestions where
  items : List CompletionItem
  incomplete : Bool
  deriving DecidableEq, Repr

/-- A replacement in some document. -/
structure ResourceEdit where
  uri : String
  range : Range
  newText : String
  deriving DecidableEq, Repr

/-- The edits of a renaming, or why it is not possible. -/
structure Rename where
  edits : List ResourceEdit
  rejected : Option String
  deriving DecidableEq, Repr

/-- A change that mends a problem. -/
structure QuickFix where
  title : String
  edits : List ResourceEdit
  command : Option Command
  deriving Repr

/-- A color, or a declaration of one, as it is written. -/
structure ColorDeclaration where
  range : Range
  value : String
  deriving DecidableEq, Repr

/-- A value to put in the place of a range. -/
structure Replacement where
  range : Range
  value : String
  deriving DecidableEq, Repr

/-- A file made from a document. -/
structure OutputFile where
  name : String
  mimeType : String
  content : String
  deriving DecidableEq, Repr

/-- The files made from a document. -/
structure Output where
  files : List OutputFile
  deriving DecidableEq, Repr

/-- What a task is to do. -/
inductive TaskKind where
  | build
  | rebuild
  | clean
  deriving DecidableEq, Repr

/-- The name of a kind of task. -/
def TaskKind.name : TaskKind → String
  | build => "build"
  | rebuild => "rebuild"
  | clean => "clean"

/-- The outcome of a task. -/
structure TaskSummary where
  task : TaskKind
  errors : Nat
  warnings : Nat
  messages : List String
  deriving DecidableEq, Repr

/-- Answers of which some carry too little to be shown. -/
class Usable (α : Type u) where
  usable : α → Bool

/-- Whether a string holds nothing but white space. -/
def isBlankString (s : String) : Bool :=
  s.toList.all Property.isSpace

/-- Whether a piece of hover text holds nothing but white space. -/
def MarkedString.isBlank : MarkedString → Bool
  | plain text => isBlankString text
  | code _ value => isBlankString value

/-- Whether a hover shows nothing but white space. -/
def HoverContents.isBlank : HoverContents → Bool
  | scalar text => text.isBlank
  | array texts => texts.all (·.isBlank)
  | markup _ value => isBlankString value

/-- A hover needs both content and a range. -/
instance : Usable Hover where
  usable h := !h.contents.isBlank && h.range.isSome

/-- A list needs members. -/
instance : Usable (List α) where
  usable l := !l.isEmpty

/-- Help on signatures needs signatures. -/
instance : Usable SignatureHelp where
  usable h := !h.signatures.isEmpty

/-- Suggestions need items unless there are more to come. -/
instance : Usable Suggestions where
  usable s := !s.items.isEmpty || s.incomplete

/-- A renaming needs edits unless it is rejected. -/
instance : Usable Rename where
  usable r := !r.edits.isEmpty || r.rejected.isSome

/-- A replacement needs a value. -/
instance : Usable Replacement where
  usable r := r.value ≠ ""

/-- Output needs files. -/
instance : Usable Output where
  usable o := !o.files.isEmpty

/-- Every lens can be shown. -/
instance : Usable CodeLens where
  usable _ := true

/-- Every summary can be shown. -/
instance : Usable TaskSummary where
  usable _ := true

end EditorModes
