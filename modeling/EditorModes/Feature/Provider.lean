/-!
# Providers

A provider answers requests of one capability.  It may have no answer, and it may fail; the
failures of providers and of the workers behind them are causes with a text each.
-/

namespace EditorModes

/-- Why a pool of workers could not do what it was asked for. -/
inductive WorkerError where
  | create (language : String) (slot : Nat) (message : String)
  | crashed (language : String)
  | noValidator (language : String)
  deriving DecidableEq, Repr

/-- What an error says. -/
def WorkerError.message : WorkerError → String
  | create language slot message =>
    s!"failed to create worker {slot} for `{language}`: {message}"
  | crashed language => s!"worker for `{language}` crashed"
  | noValidator language => s!"no validator elected for `{language}`"

/-- Why a provider could not answer. -/
inductive ProviderError where
  | failed (message : String)
  | worker (error : WorkerError)
  | panicked (message : String)
  | invalidOptions (message : String)
  deriving DecidableEq, Repr

/-- What an error says. -/
def ProviderError.message : ProviderError → String
  | failed message => message
  | worker error => error.message
  | panicked message => s!"provider panicked: {message}"
  | invalidOptions message => s!"invalid options: {message}"

/-- How a request to one provider ended: with an answer, perhaps an empty one, or a failure. -/
inductive Outcome (α : Type u) where
  | answered (answer : Option α)
  | failed (error : ProviderError)
  deriving Repr

/-- What a mode can provide. -/
inductive Capability where
  | hover
  | references
  | declaration
  | occurrences
  | outline
  | suggest
  | codeLens
  | codeLensResolve
  | quickFix
  | links
  | colorDeclarations
  | validation
  | task
  | signatureHelp
  | rename
  | formatting
  | rangeFormatting
  | onTypeFormatting
  | navigateValueSet
  | emitOutput
  deriving DecidableEq, Repr

/-- The name of a capability. -/
def Capability.name : Capability → String
  | hover => "hover"
  | references => "references"
  | declaration => "declaration"
  | occurrences => "occurrences"
  | outline => "outline"
  | suggest => "suggest"
  | codeLens => "code_lens"
  | codeLensResolve => "code_lens_resolve"
  | quickFix => "quick_fix"
  | links => "links"
  | colorDeclarations => "color_declarations"
  | validation => "validation"
  | task => "task"
  | signatureHelp => "signature_help"
  | rename => "rename"
  | formatting => "formatting"
  | rangeFormatting => "range_formatting"
  | onTypeFormatting => "on_type_formatting"
  | navigateValueSet => "navigate_value_set"
  | emitOutput => "emit_output"

end EditorModes
