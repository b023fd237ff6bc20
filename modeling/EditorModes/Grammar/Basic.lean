/-!
# Grammars

A grammar describes the tokens of a language by named states, each an ordered list of rules.  A
rule gives a pattern and what to do where it matches.  A grammar is data: it says nothing about
whether its patterns are well formed or its states exist.
-/

namespace EditorModes

/-- A pair of brackets and the type their tokens have. -/
structure Bracket where
  opening : String
  closing : String
  token : String
  deriving DecidableEq, Repr

/-- A pattern with what to do where it matches, as written. -/
structure MatchRule where
  pattern : String
  token : Option String := none
  next : Option String := none
  switchTo : Option String := none
  bracket : Option String := none
  nextEmbedded : Option String := none
  deriving DecidableEq, Repr

/-- An entry of a state: the rules of another state in its place, or a rule of its own. -/
inductive Rule where
  | include (state : String)
  | own (rule : MatchRule)
  deriving DecidableEq, Repr

/-- The rule that makes tokens of a type and leaves the state as it is. -/
def Rule.ofToken (pattern type : String) : Rule :=
  .own { pattern := pattern, token := some type }

/-- The description of a language; attributes and states are listed by increasing name. -/
structure Grammar where
  name : String
  defaultToken : String := ""
  tokenPostfix : Option String := none
  ignoreCase : Bool := false
  start : Option String := none
  attributes : List (String × String) := []
  brackets : List Bracket := []
  lineComment : Option String := none
  blockComment : Option (String × String) := none
  autoClosingPairs : List (String × String) := []
  states : List (String × List Rule) := []
  deriving DecidableEq, Repr

/-- The name of a state, which may be written with one leading `@`. -/
def stateName (reference : String) : String :=
  match reference.toList with
  | '@' :: name => String.ofList name
  | _ => reference

/-- The rules of a state. -/
def Grammar.rules? (g : Grammar) (state : String) : Option (List Rule) :=
  g.states.lookup state

/-- Whether a state is declared. -/
def Grammar.declares (g : Grammar) (state : String) : Bool :=
  (g.rules? state).isSome

end EditorModes
