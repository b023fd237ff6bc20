import EditorModes.Feature.FanOut

/-!
# Aggregated answers

How the answers of all providers of a capability make one: lists are joined, of single answers
the first one is taken, suggestions are merged.  Failures are reported with the capability and
the place of the provider.
-/

namespace EditorModes

/-- A failure of a provider. -/
structure Failure where
  capability : Capability
  index : Nat
  error : ProviderError
  deriving DecidableEq, Repr

/-- The answer to a request and the failures on the way to it. -/
structure Aggregated (β : Type u) where
  answer : β
  failures : List Failure

/-- The request of a capability, where `combine` makes one answer of the usable ones. -/
def aggregate [Usable α] (capability : Capability) (combine : List α → β)
    (outcomes : List (Option (Outcome α))) : Aggregated β :=
  let gathered := gather outcomes
  { answer := combine gathered.results
    failures := gathered.failures.map fun (index, error) => ⟨capability, index, error⟩ }

/-- The suggestions of all parts; they are incomplete if those of any part are. -/
def Suggestions.merge (parts : List Suggestions) : Suggestions where
  items := parts.flatMap (·.items)
  incomplete := parts.any (·.incomplete)

/-- The first resolution of a lens that has a command, or the lens itself. -/
def CodeLens.resolution (lens : CodeLens) (resolved : List CodeLens) : CodeLens :=
  (resolved.find? (·.command.isSome)).getD lens

/-- The providers of on-type formatting that a typed string triggers. -/
def triggeredBy (triggers : P → List String) (typed : String) (providers : List P) : List P :=
  providers.filter fun provider => (triggers provider).contains typed

/--
The providers that a request of a capability asks, of those that apply to its document: all of them,
and for on-type formatting those that the typed string triggers.
-/
def Capability.asked (capability : Capability) (triggers : P → List String) (typed : String)
    (providers : List P) : List P :=
  if capability = .onTypeFormatting then triggeredBy triggers typed providers else providers

/-- A piece of hover text as markdown. -/
def MarkedString.markdown : MarkedString → String
  | plain text => text
  | code language value => "```" ++ language ++ "\n" ++ value ++ "\n```"

/-- The contents of a hover as markdown. -/
def HoverContents.markdown : HoverContents → String
  | scalar text => text.markdown
  | array texts => "\n\n".intercalate (texts.map (·.markdown))
  | markup _ value => value

/-- One hover with the contents of all, rules between them, and the range of the first. -/
def Hover.merge? (hovers : List Hover) : Option Hover :=
  hovers.head?.map fun first =>
    { contents := .markup "markdown" ("\n\n---\n\n".intercalate (hovers.map (·.contents.markdown)))
      range := first.range }

/-- The response to a request for completions; none when there is nothing and never will be. -/
inductive CompletionResponse where
  | items (items : List CompletionItem)
  | incomplete (items : List CompletionItem)
  deriving DecidableEq, Repr

/-- The response that suggestions make. -/
def Suggestions.response? (s : Suggestions) : Option CompletionResponse :=
  if s.incomplete then some (.incomplete s.items)
  else if s.items.isEmpty then none
  else some (.items s.items)

end EditorModes
