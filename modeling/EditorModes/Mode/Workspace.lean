import EditorModes.Mode.Set

/-!
# Workspaces

A workspace has modes and the workers behind their services.  A request about a document goes to
all services that apply to it, and their answers make one; a request that was cancelled before
goes to none.
-/

namespace EditorModes

/-- Modes and the workers behind their services. -/
structure Workspace where
  modes : ModeSet
  workers : Less.Workers

namespace Workspace

/--
Whether the mode of a language becomes active, and the workspace afterwards; `none` when this never
ends.  With `elect`, the validator of each mode that became active is elected.
-/
def activate? (w : Workspace) (id : String) (elect : Bool) : Option (Bool × Workspace) := do
  let (activated, modes) ← w.modes.activate? id
  let started := modes.active.drop w.modes.active.length
  let workers :=
    if elect && started.any (·.mode.electsValidator) then (Less.electValidator w.workers).2
    else w.workers
  return (activated, ⟨modes, workers⟩)

/-- Whether the mode of a language was active, and the workspace without it. -/
def deactivate (w : Workspace) (id : String) : Bool × Workspace :=
  let (deactivated, modes) := w.modes.deactivate id
  (deactivated, { w with modes := modes })

/-- The tokenizer of a language. -/
def tokenizer? (w : Workspace) (language : String) : Option LineTokenizer :=
  let registry := w.modes.features.tokenizers
  (registry.best? language).map (·.onLines registry)

/-- The services of one kind that apply to a document, best first. -/
def services (w : Workspace) (kind : ServiceKind) (d : Document) : List Service :=
  (w.modes.features.services kind).ordered d.language (some d.scheme)

/-- A computation on the workers. -/
def onWorkers (run : StateM Less.Workers α) : StateM Workspace α := fun w =>
  let (result, workers) := run w.workers
  (result, { w with workers := workers })

/-- The answers that all services of one kind give about a document, made into one. -/
def request [Usable α] (kind : ServiceKind) (capability : Capability) (combine : List α → β)
    (d : Document) (cancelled : Bool) (ask : Service → Asking Less.Workers (Option α)) :
    StateM Workspace (Aggregated β) := do
  let w ← get
  let asked := if cancelled then [] else w.services kind d
  let outcomes ← asked.mapM fun service => onWorkers (Asking.outcome (ask service))
  return aggregate capability combine (outcomes.map some)

/-- What is shown for a position. -/
def hovers (d : Document) (p : Position) (cancelled : Bool) :
    StateM Workspace (Aggregated (List Hover)) :=
  request .hover .hover id d cancelled (·.hover d p)

/-- The places of what stands at a position. -/
def references (d : Document) (p : Position) (declarations cancelled : Bool) :
    StateM Workspace (Aggregated (List Location)) :=
  request .references .references List.flatten d cancelled (·.references d p declarations)

/-- The declarations of what stands at a position. -/
def declarations (d : Document) (p : Position) (cancelled : Bool) :
    StateM Workspace (Aggregated (List Location)) :=
  request .declaration .declaration List.flatten d cancelled (·.declarations d p)

/-- The places to highlight for what stands at a position. -/
def highlights (d : Document) (p : Position) (cancelled : Bool) :
    StateM Workspace (Aggregated (List Highlight)) :=
  request .occurrences .occurrences List.flatten d cancelled (·.highlights d p)

/-- The outline of a document. -/
def outline (d : Document) (cancelled : Bool) :
    StateM Workspace (Aggregated (List OutlineEntry)) :=
  request .outline .outline List.flatten d cancelled (·.outline d)

/-- What may be typed at a position. -/
def suggestions (d : Document) (p : Position) (cancelled : Bool) :
    StateM Workspace (Aggregated Suggestions) :=
  request .suggest .suggest Suggestions.merge d cancelled (·.suggestions d p cancelled)

/-- The neighbor of the value in a range. -/
def stepValue (d : Document) (r : Range) (up cancelled : Bool) :
    StateM Workspace (Aggregated (Option Replacement)) :=
  request .valueSet .navigateValueSet List.head? d cancelled (·.stepValue d r up)

/-- The edits that format a document. -/
def format (d : Document) (tabSize : Nat) (insertSpaces cancelled : Bool) :
    StateM Workspace (Aggregated (Option (List TextEdit))) :=
  request .formatting .formatting List.head? d cancelled (·.format d tabSize insertSpaces)

/-- The edits that format a range of a document. -/
def formatRange (d : Document) (r : Range) (cancelled : Bool) :
    StateM Workspace (Aggregated (Option (List TextEdit))) :=
  request .formatting .rangeFormatting List.head? d cancelled (·.formatRange d r)

/-- The colors in a document. -/
def colors (d : Document) (cancelled : Bool) :
    StateM Workspace (Aggregated (List ColorDeclaration)) :=
  request .colorDeclarations .colorDeclarations List.flatten d cancelled (·.colors d)

/-- The problems of a document. -/
def diagnostics (d : Document) (cancelled : Bool) :
    StateM Workspace (Aggregated (List Diagnostic)) :=
  request .validation .validation List.flatten d cancelled (·.validate d)

/-- The services that take options for a language. -/
def configurable (w : Workspace) (language : String) : List Service :=
  (w.modes.features.services .configuration).ordered language none

/-- A service gets other options. -/
def configure (service : Service) (options : Json) :
    StateM Workspace (Except ProviderError Unit) :=
  onWorkers (service.configure options).run

end Workspace

end EditorModes
