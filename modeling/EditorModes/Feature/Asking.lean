import EditorModes.Feature.Aggregate

/-!
# Asking a provider

A provider is asked in a state that it may change, such as that of the workers behind it.  It
answers, has no answer or fails.
-/

namespace EditorModes

/-- A request to a provider, which may fail. -/
abbrev Asking (S : Type) (α : Type) := ExceptT ProviderError (StateM S) α

/-- How a request ended. -/
def Outcome.ofExcept : Except ProviderError (Option α) → Outcome α
  | .ok answer => .answered answer
  | .error error => .failed error

/-- The outcome of a request. -/
def Asking.outcome (request : Asking S (Option α)) : StateM S (Outcome α) := do
  return .ofExcept (← request.run)

/-- A value that is there unless an offset is inside a character. -/
def Asking.ofCut? (value : Option α) : Asking S α :=
  match value with
  | some value => pure value
  | none => throw (.panicked "offset inside a character")

/-- The list as an answer, the empty list being none. -/
def answerOfList (items : List α) : Option (List α) :=
  if items.isEmpty then none else some items

end EditorModes
