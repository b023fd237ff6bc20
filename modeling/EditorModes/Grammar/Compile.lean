import EditorModes.Grammar.Pattern
import EditorModes.Grammar.RichEdit
import EditorModes.Regex.Match

/-!
# Compiled grammars

Compiling a grammar puts the attributes of its patterns in place, checks that every state it
moves to exists, and replaces each `include` by the rules of the state it names.  The result, a
`Lexer`, needs no further checks.  What can be wrong with a grammar is a `CompileError`; of
several errors the one met first is reported, states being compiled by increasing name and
includes resolved afterwards.
-/

namespace EditorModes

/-- What is wrong with a grammar. -/
inductive CompileCause where
  | emptyTokenizer
  | unknownStartState (state : String)
  | unknownInclude (state target : String)
  | includeCycle (chain : List String)
  | unknownState (state target : String)
  | unknownAttribute (pattern name : String)
  | attributeRecursion (pattern : String)
  | invalidPattern (pattern : String)
  | invalidBracket (kind : String)
  | noBrackets (state : String)
  deriving DecidableEq, Repr

/-- The name of what is wrong. -/
def CompileCause.name : CompileCause → String
  | emptyTokenizer => "EmptyTokenizer"
  | unknownStartState _ => "UnknownStartState"
  | unknownInclude _ _ => "UnknownInclude"
  | includeCycle _ => "IncludeCycle"
  | unknownState _ _ => "UnknownState"
  | unknownAttribute _ _ => "UnknownAttribute"
  | attributeRecursion _ => "AttributeRecursion"
  | invalidPattern _ => "InvalidPattern"
  | invalidBracket _ => "InvalidBracket"
  | noBrackets _ => "NoBrackets"

/-- An error in the grammar of a name. -/
structure CompileError where
  grammar : String
  cause : CompileCause
  deriving DecidableEq, Repr

namespace CompileError

/-- What an error says. -/
def message (e : CompileError) : String :=
  let grammar := s!"grammar `{e.grammar}`"
  match e.cause with
  | .emptyTokenizer => s!"{grammar} declares no rule-states"
  | .unknownStartState state => s!"{grammar}: start state `{state}` is not defined"
  | .unknownInclude state target =>
    s!"{grammar}: state `{state}` includes undefined state `{target}`"
  | .includeCycle chain =>
    let path := " -> ".intercalate chain
    s!"{grammar}: include cycle {path}"
  | .unknownState state target =>
    s!"{grammar}: state `{state}` moves to undefined state `{target}`"
  | .unknownAttribute pattern name =>
    s!"{grammar}: pattern `{pattern}` references undefined attribute `@{name}`"
  | .attributeRecursion pattern =>
    s!"{grammar}: attribute references nest too deeply in `{pattern}`"
  | .invalidPattern pattern => s!"{grammar}: invalid pattern `{pattern}`"
  | .invalidBracket kind =>
    s!"{grammar}: invalid bracket kind `{kind}`, expected `@open` or `@close`"
  | .noBrackets state =>
    s!"{grammar}: state `{state}` uses `@brackets` but no brackets are declared"

end CompileError

/-- Whether a token opens or closes a bracket. -/
inductive BracketKind where
  | opening
  | closing
  deriving DecidableEq, Repr

/-- What token the matched text becomes. -/
inductive TokenAction where
  | emit (type : String)
  | rematch
  | brackets
  deriving DecidableEq, Repr

/-- What becomes of the stack of states. -/
inductive Transition where
  | push (state : String)
  | pushCurrent
  | pop
  | popAll
  deriving DecidableEq, Repr

/-- What becomes of the embedded language. -/
inductive Embedding where
  | enter (language : String)
  | leave
  deriving DecidableEq, Repr

/-- A rule ready to be applied; one that ends an embedded region can also be searched for. -/
structure CompiledRule where
  regex : Regex
  leave : Option Regex
  action : TokenAction
  next : Option Transition
  switchTo : Option String
  bracket : Option BracketKind
  embedding : Option Embedding

/-- A grammar ready to run. -/
structure Lexer where
  language : String
  defaultToken : String
  start : String
  states : List (String × List CompiledRule)
  brackets : List Bracket
  richEdit : RichEdit

namespace Lexer

/-- The rules of a state; a state that does not exist has none. -/
def rules (l : Lexer) (state : String) : List CompiledRule :=
  (l.states.lookup state).getD []

/-- The names of the states, in increasing order. -/
def stateNames (l : Lexer) : List String :=
  l.states.map (·.1)

/-- The token type and kind of a bracket. -/
def bracketFor? (l : Lexer) (text : String) : Option (String × BracketKind) :=
  l.brackets.findSome? fun b =>
    if b.opening = text then some (b.token, .opening)
    else if b.closing = text then some (b.token, .closing)
    else none

end Lexer

namespace Grammar

/-- The token type with the postfix of the grammar; the empty type stays empty. -/
def decorate (g : Grammar) (type : String) : String :=
  if type = "" then type else type ++ g.tokenPostfix.getD ""

/-- The name of the state that tokenizing starts in. -/
def startState (g : Grammar) : String :=
  stateName (g.start.getD "root")

/-- A computation that may find something wrong with a grammar. -/
abbrev Checked (α : Type) := Except CompileCause α

/-- The expanded form of a pattern. -/
def expandPattern (g : Grammar) (pattern : String) : Checked Text :=
  match expand g.attributes pattern.toList with
  | .ok expanded => .ok expanded
  | .error (.unknownAttribute pattern name) =>
    .error (.unknownAttribute (String.ofList pattern) (String.ofList name))
  | .error (.tooDeep pattern) => .error (.attributeRecursion (String.ofList pattern))

/-- The regular expression of an expanded pattern after `lead`, in a group of its own. -/
def compilePattern (g : Grammar) (written : String) (lead : String) (expanded : Text) :
    Checked Regex :=
  let case := if g.ignoreCase then "(?i)" else ""
  match Regex.ofPattern? (case.toList ++ lead.toList ++ "(?:".toList ++ expanded ++ [')']) with
  | some regex => .ok regex
  | none => .error (.invalidPattern written)

/-- The state that a rule of `state` moves to. -/
def target (g : Grammar) (state written : String) : Checked String :=
  if g.declares (stateName written) then .ok (stateName written)
  else .error (.unknownState state written)

/-- What token a rule of `state` makes of the text it matches. -/
def compileToken (g : Grammar) (state : String) : Option String → Checked TokenAction
  | none => .ok (.emit "")
  | some "@rematch" => .ok .rematch
  | some "@brackets" => if g.brackets.isEmpty then .error (.noBrackets state) else .ok .brackets
  | some type => .ok (.emit (g.decorate type))

/-- What a rule of `state` does to the stack of states. -/
def compileNext (g : Grammar) (state : String) : Option String → Checked (Option Transition)
  | none => .ok none
  | some "@pop" => .ok (some .pop)
  | some "@popall" => .ok (some .popAll)
  | some "@push" => .ok (some .pushCurrent)
  | some written => return some (.push (← g.target state written))

/-- The kind of bracket a rule declares. -/
def compileBracket : Option String → Checked (Option BracketKind)
  | none => .ok none
  | some "@open" => .ok (some .opening)
  | some "@close" => .ok (some .closing)
  | some kind => .error (.invalidBracket kind)

/-- What a rule does to the embedded language. -/
def compileEmbedding : Option String → Option Embedding
  | none => none
  | some "@pop" => some .leave
  | some language => some (.enter language)

/-- A rule of `state`, compiled. -/
def compileRule (g : Grammar) (state : String) (r : MatchRule) : Checked CompiledRule := do
  let expanded ← g.expandPattern r.pattern
  let regex ← g.compilePattern r.pattern "^" expanded
  let action ← g.compileToken state r.token
  let next ← g.compileNext state r.next
  let switchTo ← r.switchTo.mapM (g.target state)
  let bracket ← compileBracket r.bracket
  let embedding := compileEmbedding r.nextEmbedded
  let leave ← match embedding with
    | some .leave => do pure (some (← g.compilePattern r.pattern "" expanded))
    | _ => pure none
  return { regex, leave, action, next, switchTo, bracket, embedding }

/-- An entry of a state whose own rules are compiled. -/
inductive Entry where
  | include (state : String)
  | own (rule : CompiledRule)

/-- The entries of a state, compiled. -/
def compileEntries (g : Grammar) (state : String) (rules : List Rule) : Checked (List Entry) :=
  rules.mapM fun
    | .include target => pure (.include (stateName target))
    | .own rule => return .own (← g.compileRule state rule)

/-! ### Includes -/

/-- The rules of the states that are resolved so far. -/
abbrev Resolved := List (String × List CompiledRule)

/-- The number of states outside a chain. -/
def unchained (entries : List (String × List Entry)) (chain : List String) : Nat :=
  entries.countP fun e => e.1 ∉ chain

/-- A declared state leaves fewer states outside the chain when it is put on it. -/
theorem unchained_lt {entries : List (String × List Entry)} {chain : List String} {state : String}
    {own : List Entry} (fresh : state ∉ chain) (declared : entries.lookup state = some own) :
  unchained entries (chain ++ [state]) < unchained entries chain
  := by
  obtain ⟨before, after, rfl, -⟩ := List.lookup_eq_some_iff.mp declared
  have fewer (part : List (String × List Entry)) :
      unchained part (chain ++ [state]) ≤ unchained part chain := by
    apply List.countP_mono_left
    intro e _ outside
    simp only [List.mem_append, not_or, Bool.decide_and, Bool.and_eq_true] at outside
    exact outside.1
  have here (chain : List String) :
      unchained (before ++ (state, own) :: after) chain
        = unchained before chain + unchained after chain + if state ∈ chain then 0 else 1 := by
    rw [unchained, List.countP_append, List.countP_cons]
    by_cases visited : state ∈ chain <;> simp [unchained, visited, Nat.add_assoc]
  have before_le := fewer before
  have after_le := fewer after
  rw [here, here, if_neg fresh, if_pos (by simp)]
  omega

/--
The rules of a state with those of its includes in their places.  A state that is resolved already
is not resolved again.  `chain` holds the states whose includes led here, the first of them first;
a state among them closes a cycle.
-/
def resolve (entries : List (String × List Entry)) (chain : List String) (state : String) :
    StateT Resolved Checked (List CompiledRule) := do
  match (← get).lookup state with
  | some rules => return rules
  | none =>
    if _ : state ∈ chain then throw (.includeCycle (chain ++ [state]))
    else
      match _ : entries.lookup state with
      | none => return []
      | some own =>
        let parts ← own.mapM fun
          | .own rule => pure [rule]
          | .include target =>
            if (entries.lookup target).isNone then throw (.unknownInclude state target)
            else resolve entries (chain ++ [state]) target
        modify ((state, parts.flatten) :: ·)
        return parts.flatten
termination_by unchained entries chain
decreasing_by exact unchained_lt (by assumption) (by assumption)

/-- Some states, resolved one after another. -/
def resolveAll (entries : List (String × List Entry)) (states : List String) :
    Checked Resolved := do
  let (_, resolved) ← (states.mapM (resolve entries [])).run []
  return resolved

/-- The states of the grammar with their own rules compiled. -/
def compiledEntries (g : Grammar) : Checked (List (String × List Entry)) :=
  g.states.mapM fun (state, rules) => return (state, ← g.compileEntries state rules)

/-- The states of the grammar, compiled. -/
def compileStates (g : Grammar) : Checked (List (String × List CompiledRule)) := do
  if g.states.isEmpty then throw .emptyTokenizer
  if !g.declares g.startState then throw (.unknownStartState g.startState)
  let entries ← g.compiledEntries
  let resolved ← resolveAll entries (entries.map (·.1))
  return entries.map fun (state, _) => (state, (resolved.lookup state).getD [])

/-- The grammar compiled, or what is wrong with it. -/
def compile (g : Grammar) : Except CompileError Lexer :=
  match g.compileStates with
  | .error cause => .error ⟨g.name, cause⟩
  | .ok states => .ok {
      language := g.name
      defaultToken := g.decorate g.defaultToken
      start := g.startState
      states
      brackets := g.brackets.map fun b => { b with token := g.decorate b.token }
      richEdit := .ofGrammar g }

end Grammar

end EditorModes
