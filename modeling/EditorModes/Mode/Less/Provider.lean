import EditorModes.Document.Basic
import EditorModes.Feature.Asking
import EditorModes.Mode.Less.Grammar
import EditorModes.Mode.Less.Worker
import EditorModes.Worker.Pool

/-!
# Answers for stylesheets

The requests about a stylesheet are answered by the workers of the language: each is turned into
an analysis on a worker, and what comes back into values of the protocol.
-/

namespace EditorModes.Less

/-- The workers of the language. -/
abbrev Workers := WorkerPool Worker

/-- Workers that start with the given options. -/
def workers (count : Nat) (options : Options) : Workers :=
  .ofSize language count fun _ _ => .ok { options := options }

/-- The result of a pool of workers, whose failure is one of the request. -/
def onWorkers (run : Workers → Except WorkerError T × Workers) : Asking Workers T := do
  let (result, pool) := run (← get)
  set pool
  match result with
  | .ok result => return result
  | .error error => throw (.worker error)

/-- The result of an analysis on the worker that answers requests. -/
def analyze (analysis : Option T) : Asking Workers T :=
  onWorkers fun pool => pool.runOnElected fun worker => (worker, analysis)

/-- The byte offset of a position in a document. -/
def offsetOf (d : Document) (p : Position) : Asking Workers Nat :=
  match d.text.offsetAt? p with
  | some offset => return offset
  | none =>
    let line := p.line
    let column := p.column
    throw (.failed s!"position {line}:{column} is outside the document")

/-- The range of a span in a document. -/
def rangeOf (d : Document) (s : Span) : Asking Workers Range :=
  .ofCut? (d.text.rangeOf? s)

/-- What is known of the stylesheet in a document. -/
def analyzeSheet (d : Document) (query : Stylesheet → T) : Asking Workers T :=
  analyze ((Stylesheet.ofText? d.text).map query)

/-- The locations of spans in a document. -/
def locations (d : Document) (spans : List Span) : Asking Workers (Option (List Location)) := do
  return answerOfList (← spans.mapM fun span => do return ⟨d.uri, ← rangeOf d span⟩)

/-- The variable at a position, as it would be declared. -/
def hover (d : Document) (p : Position) : Asking Workers (Option Hover) := do
  let offset ← offsetOf d p
  match ← analyzeSheet d (·.hoverAt? offset) with
  | none => return none
  | some (span, declaration) =>
    let value := "```less\n" ++ String.ofList declaration ++ "\n```"
    return some { contents := .markup "markdown" value, range := some (← rangeOf d span) }

/-- The places of the variable at a position. -/
def references (d : Document) (p : Position) (declarations : Bool) :
    Asking Workers (Option (List Location)) := do
  let offset ← offsetOf d p
  locations d (← analyzeSheet d (·.referencesAt offset declarations))

/-- The declarations of the variable at a position. -/
def declarations (d : Document) (p : Position) : Asking Workers (Option (List Location)) := do
  let offset ← offsetOf d p
  locations d (← analyzeSheet d (·.declarationsAt offset))

/-- The places of the variable at a position, where declarations write it. -/
def highlights (d : Document) (p : Position) : Asking Workers (Option (List Highlight)) := do
  let offset ← offsetOf d p
  let occurrences ← analyzeSheet d (·.occurrencesAt offset)
  return answerOfList (← occurrences.mapM fun o => do
    return ⟨← rangeOf d o.span,
      some (if o.isDeclaration then HighlightKind.write else HighlightKind.read)⟩)

/-- The kind of a node of the outline. -/
def OutlineKind.symbol : OutlineKind → Nat
  | .rule => SymbolKind.className
  | .variable => SymbolKind.variableName

/-- The outlines of nodes with ranges for spans. -/
def outlineEntries (d : Document) : List OutlineNode → Asking Workers (List OutlineEntry)
  | [] => return []
  | .mk name kind span selection children :: nodes => do
    let entry := OutlineEntry.mk (String.ofList name) kind.symbol (← rangeOf d span)
      (← rangeOf d selection) (← outlineEntries d children)
    return entry :: (← outlineEntries d nodes)

/-- The outline of a stylesheet. -/
def outline (d : Document) : Asking Workers (Option (List OutlineEntry)) := do
  return answerOfList (← outlineEntries d (← analyzeSheet d (·.outline)))

/-- The characters that ask for suggestions when they are typed. -/
def triggers : List String :=
  ["@", ":"]

/-- The kind of a suggestion. -/
def SuggestionKind.completion : SuggestionKind → Nat
  | .variable => CompletionKind.variable
  | .keyword => CompletionKind.keyword
  | .property => CompletionKind.property
  | .value => CompletionKind.value

/-- What may be typed at a position; a request cancelled in the meantime has no answer. -/
def suggestions (d : Document) (p : Position) (cancelled : Bool) :
    Asking Workers (Option Suggestions) := do
  let offset ← offsetOf d p
  let suggested ← analyze (suggestionsAt? d.text offset)
  if cancelled then return none
  return some {
    items := suggested.map fun s =>
      { label := String.ofList s.label
        kind := some s.kind.completion
        detail := s.detail.map String.ofList }
    incomplete := false }

/-- The neighbor of the value in a range, or of the word at its start when it is empty. -/
def stepValue (d : Document) (r : Range) (up : Bool) : Asking Workers (Option Replacement) := do
  let selected := (d.text.spanOf? r).filter fun span => span.start < span.stop
  match selected <|> (d.wordAt? r.start).map fun word => word.span with
  | none => return none
  | some span =>
    let value ← .ofCut? (d.text.slice? span.start span.stop)
    match ← analyze (stepValue? value up) with
    | none => return none
    | some value => return some ⟨← rangeOf d span, String.ofList value⟩

/-- The edits that indent a stylesheet by a number of spaces or by tabs. -/
def format (d : Document) (tabSize : Nat) (insertSpaces : Bool) :
    Asking Workers (Option (List TextEdit)) := do
  let unit := if insertSpaces then List.replicate tabSize ' ' else ['\t']
  let edits ← analyze (some (indentEdits d.text unit))
  return answerOfList (edits.map fun e =>
    ⟨⟨⟨e.line, 0⟩, ⟨e.line, e.current⟩⟩, String.ofList e.indent⟩)

/-- The colors of a stylesheet. -/
def colors (d : Document) : Asking Workers (Option (List ColorDeclaration)) := do
  let uses ← analyze (colors? d.text)
  return answerOfList (← uses.mapM fun c => do
    return ⟨← rangeOf d c.span, String.ofList c.value⟩)

/-- The election of the worker that validates. -/
def electValidator (pool : Workers) : Option (Except WorkerError Unit) × Workers :=
  pool.elect fun worker => (worker.markValidator, some ())

/-- The number of a severity in the protocol. -/
def Severity.number : Severity → Nat
  | warning => 2
  | _ => 1

/-- The problems of a stylesheet; the worker that finds them is elected if there is none yet. -/
def validate (d : Document) : Asking Workers (Option (List Diagnostic)) := do
  onWorkers fun pool =>
    let (result, pool) := electValidator pool
    (result.getD (.ok ()), pool)
  let problems ← onWorkers fun pool =>
    pool.runOnValidator fun worker => (worker.countValidation, worker.problems? d.text)
  return answerOfList (← problems.mapM fun p => do
    return {
      range := ← rangeOf d p.span
      message := p.message
      severity := some p.severity.number
      source := some language })

/-- All workers get other options, unless these are none. -/
def configure (options : Json) : Asking Workers Unit := do
  match Options.ofJson? .json options with
  | none => throw (.invalidOptions "no record of options")
  | some options =>
    let _ ← onWorkers fun pool =>
      pool.runOnAll fun worker => (worker.configure options, some ())

end EditorModes.Less
