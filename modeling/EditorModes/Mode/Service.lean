import EditorModes.Mode.Less.Provider
import EditorModes.Mode.PlainText

/-!
# Services

What answers the requests about documents of a language: the analysis of stylesheets, which
answers all kinds of requests, or the words of a plain text, which are only suggested.
-/

namespace EditorModes

/-- What answers requests. -/
inductive Service where
  | stylesheets
  | words
  deriving DecidableEq, Repr

/-- The kinds of requests, for each of which there is a registry of services. -/
inductive ServiceKind where
  | hover
  | references
  | declaration
  | occurrences
  | outline
  | rename
  | codeLens
  | quickFix
  | signatureHelp
  | suggest
  | formatting
  | onTypeFormatting
  | valueSet
  | links
  | colorDeclarations
  | emitOutput
  | validation
  | tasks
  | configuration
  deriving DecidableEq, Repr

/-- All kinds of requests. -/
def ServiceKind.all : List ServiceKind :=
  [hover, references, declaration, occurrences, outline, rename, codeLens, quickFix,
    signatureHelp, suggest, formatting, onTypeFormatting, valueSet, links, colorDeclarations,
    emitOutput, validation, tasks, configuration]

/-- The name of a kind of requests. -/
def ServiceKind.name : ServiceKind → String
  | hover => "hover"
  | references => "references"
  | declaration => "declaration"
  | occurrences => "occurrences"
  | outline => "outline"
  | rename => "rename"
  | codeLens => "code_lens"
  | quickFix => "quick_fix"
  | signatureHelp => "signature_help"
  | suggest => "suggest"
  | formatting => "formatting"
  | onTypeFormatting => "on_type_formatting"
  | valueSet => "value_set"
  | links => "links"
  | colorDeclarations => "color_declarations"
  | emitOutput => "emit_output"
  | validation => "validation"
  | tasks => "tasks"
  | configuration => "configuration"

namespace Service

/-- What is shown for a position. -/
def hover (s : Service) (d : Document) (p : Position) : Asking Less.Workers (Option Hover) :=
  match s with
  | stylesheets => Less.hover d p
  | words => return none

/-- The places of what stands at a position. -/
def references (s : Service) (d : Document) (p : Position) (declarations : Bool) :
    Asking Less.Workers (Option (List Location)) :=
  match s with
  | stylesheets => Less.references d p declarations
  | words => return none

/-- The declarations of what stands at a position. -/
def declarations (s : Service) (d : Document) (p : Position) :
    Asking Less.Workers (Option (List Location)) :=
  match s with
  | stylesheets => Less.declarations d p
  | words => return none

/-- The places to highlight for what stands at a position. -/
def highlights (s : Service) (d : Document) (p : Position) :
    Asking Less.Workers (Option (List Highlight)) :=
  match s with
  | stylesheets => Less.highlights d p
  | words => return none

/-- The outline of a document. -/
def outline (s : Service) (d : Document) : Asking Less.Workers (Option (List OutlineEntry)) :=
  match s with
  | stylesheets => Less.outline d
  | words => return none

/-- The characters that ask for suggestions when they are typed. -/
def triggers : Service → List String
  | stylesheets => Less.triggers
  | words => []

/-- What may be typed at a position. -/
def suggestions (s : Service) (d : Document) (p : Position) (cancelled : Bool) :
    Asking Less.Workers (Option Suggestions) :=
  match s with
  | stylesheets => Less.suggestions d p cancelled
  | words =>
    match d.text.offsetAt? p with
    | none => return none
    | some offset => do
      let labels ← .ofCut? (PlainText.suggestionsAt? d.text offset)
      if cancelled then return none
      return some ⟨labels.map (⟨·, some CompletionKind.text, none⟩), false⟩

/-- The neighbor of the value in a range. -/
def stepValue (s : Service) (d : Document) (r : Range) (up : Bool) :
    Asking Less.Workers (Option Replacement) :=
  match s with
  | stylesheets => Less.stepValue d r up
  | words => return none

/-- The edits that format a document. -/
def format (s : Service) (d : Document) (tabSize : Nat) (insertSpaces : Bool) :
    Asking Less.Workers (Option (List TextEdit)) :=
  match s with
  | stylesheets => Less.format d tabSize insertSpaces
  | words => return none

/-- The edits that format a range of a document; nothing formats ranges. -/
def formatRange (_ : Service) (_ : Document) (_ : Range) :
    Asking Less.Workers (Option (List TextEdit)) :=
  return none

/-- The colors in a document. -/
def colors (s : Service) (d : Document) : Asking Less.Workers (Option (List ColorDeclaration)) :=
  match s with
  | stylesheets => Less.colors d
  | words => return none

/-- The problems of a document. -/
def validate (s : Service) (d : Document) : Asking Less.Workers (Option (List Diagnostic)) :=
  match s with
  | stylesheets => Less.validate d
  | words => return none

/-- Other options are to hold. -/
def configure (s : Service) (options : Json) : Asking Less.Workers Unit :=
  match s with
  | stylesheets => Less.configure options
  | words => return ()

end Service

end EditorModes
