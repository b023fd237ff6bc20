import EditorModes.Feature.Answer
import EditorModes.Feature.Provider

/-!
# Asking all providers

A request goes to every provider that applies, and all of them work at the same time.  It is over
when all have settled, or soon after it is cancelled; what has settled by then counts.  The usable
answers are collected in the order of the providers, whatever the order in which they settled, and
so are the failures.
-/

namespace EditorModes

/-- The usable answers and the failures, each failure with the place of its provider. -/
structure Gathered (α : Type u) where
  results : List α
  failures : List (Nat × ProviderError)

/--
The usable answers and the failures among the outcomes of providers, the first of which has the
place `index`; a provider that has not settled contributes nothing.
-/
def gatherFrom [Usable α] (index : Nat) : List (Option (Outcome α)) → Gathered α
  | [] => ⟨[], []⟩
  | outcome :: rest =>
    let gathered := gatherFrom (index + 1) rest
    match outcome with
    | some (.answered (some answer)) =>
      if Usable.usable answer then { gathered with results := answer :: gathered.results }
      else gathered
    | some (.failed error) =>
      { gathered with failures := (index, error) :: gathered.failures }
    | _ => gathered

/-- The usable answers and the failures among the outcomes of all providers. -/
def gather [Usable α] (outcomes : List (Option (Outcome α))) : Gathered α :=
  gatherFrom 0 outcomes

/-- A request on its way, and what was collected so far. -/
structure FanOut (α : Type u) where
  /-- The providers that were asked: how each ends, unless it never does. -/
  asked : List (Option (Outcome α))
  /-- The places of the providers that have settled. -/
  settled : List Nat := []
  /-- Whether the request was cancelled. -/
  cancelled : Bool := false
  /-- Whether the request was not cancelled when this was last looked at, just before. -/
  checked : Bool := false
  /-- Whether it was noticed that the request was cancelled. -/
  noticed : Bool := false
  /-- What came from the first providers; nothing from one that was passed before it settled. -/
  taken : List (Option (Outcome α)) := []

/-- What happens to a request. -/
inductive FanOutEvent where
  | settled (provider : Nat)
  | cancelled
  /-- The collection goes on by a step. -/
  | advance
  deriving DecidableEq

namespace FanOut

/-- A request to providers that end in some way; one that was cancelled before asks none of them. -/
def start (ends : List (Option (Outcome α))) (cancelled : Bool) : FanOut α where
  asked := if cancelled then [] else ends
  cancelled := cancelled

/-- How a provider ended, if it has settled. -/
def outcome? (f : FanOut α) (provider : Nat) : Option (Outcome α) :=
  if provider ∈ f.settled then f.asked[provider]?.join else none

/-- Whether the request is over: all providers were waited for, or passed. -/
def isOver (f : FanOut α) : Bool :=
  f.asked.length ≤ f.taken.length

/--
A step of the collection.  One provider after another is waited for, and each time it is looked at
first whether the request was cancelled.  Once it was, the remaining providers are passed without
waiting, and what has settled of them still counts.
-/
def advance (f : FanOut α) : FanOut α :=
  if f.isOver then f
  else if f.noticed then { f with taken := f.taken ++ [f.outcome? f.taken.length] }
  else if f.checked then
    match f.outcome? f.taken.length with
    | none => { f with checked := false }
    | some outcome => { f with checked := false, taken := f.taken ++ [some outcome] }
  else if f.cancelled then { f with noticed := true }
  else { f with checked := true }

/-- The request after an event. -/
def step (f : FanOut α) : FanOutEvent → FanOut α
  | .settled provider => { f with settled := provider :: f.settled }
  | .cancelled => { f with cancelled := true }
  | .advance => f.advance

/-- The request after a sequence of events. -/
def run (f : FanOut α) (events : List FanOutEvent) : FanOut α :=
  events.foldl step f

/-- What the request comes back with. -/
def result [Usable α] (f : FanOut α) : Gathered α :=
  gather f.taken

end FanOut

end EditorModes
