import EditorModes.Grammar.Compile
import EditorModes.Lexer.Tokens

/-!
# Running a lexer

A lexer reads a line from left to right.  In each step the first rule of the current state that
matches is applied; where none does, one character becomes a token of the default type.  Rules
may match without consuming anything, so after too many such steps at one place a character is
consumed by force.

While another language is embedded, its tokenizer is first run on the text up to where a rule of
the current state would end the region; the lexer's own rules go on from there.  Whether the
tokenizers of embedded languages answer is up to them: `tokenize` gives `none` when one does not.
-/

namespace EditorModes

/-- The tokenizer of an embedded language: its first state and how it tokenizes a text. -/
structure Guest where
  initial : LexerState
  /-- The tokens of a text in a state, where the text starts at an offset. -/
  run : Text → LexerState → Nat → Option LineTokens

namespace Lexer

/-- How many steps in a row may consume nothing. -/
def stallLimit : Nat := 16

/-- Where a run of the lexer has got to. -/
structure Progress where
  /-- The number of bytes consumed. -/
  position : Nat
  /-- The text ahead. -/
  rest : Text
  state : LexerState
  line : LineBuilder
  /-- Whether the embedded tokenizer has been run up to this very place. -/
  guestRan : Bool
  /-- The number of steps in a row that consumed nothing. -/
  stalled : Nat

/-- The first rule of a state that matches, and how many characters lie up to its end. -/
def findRule? (l : Lexer) (state : LexerState) (rest : Text) : Option (CompiledRule × Nat) :=
  (l.rules state.current).findSome? fun rule =>
    (rule.regex.find? rest).map fun found => (rule, found.stop)

/-- The number of characters before the first place where a rule would end the region. -/
def regionLength (l : Lexer) (state : LexerState) (rest : Text) : Nat :=
  let ends := (l.rules state.current).filterMap fun rule =>
    (rule.leave.bind (·.find? rest)).map (·.skipped)
  ends.min?.getD rest.length

/-- The token type of the text a rule matched, if it has one, and the kind of bracket it is. -/
def classify (l : Lexer) (rule : CompiledRule) (text : Text) :
    Option String × Option BracketKind :=
  let (type, bracket) :=
    match rule.action with
    | .emit type => (some type, none)
    | .rematch => (none, none)
    | .brackets =>
      match l.bracketFor? (String.ofList text) with
      | some (type, kind) => (some type, some kind)
      | none => (some l.defaultToken, none)
  (type, rule.bracket <|> bracket)

/-- What a kind of bracket does to the count of open brackets. -/
def countBracket (bracket : Option BracketKind) (f : Frame) : Frame :=
  match bracket with
  | none => f
  | some .opening => f.openBracket
  | some .closing => f.closeBracket

/-- What a transition does to the stack. -/
def Transition.apply (t : Transition) (f : Frame) : Frame :=
  match t with
  | .push state => f.push state
  | .pushCurrent => f.push f.current
  | .pop => f.pop
  | .popAll => f.popAll

/-- What a rule does to the frame of the lexer. -/
def moveFrame (rule : CompiledRule) (bracket : Option BracketKind) (f : Frame) : Frame :=
  let f := countBracket bracket f
  let f := match rule.switchTo with
    | some state => f.switchTo state
    | none => f
  match rule.next with
  | some transition => Transition.apply transition f
  | none => f

/-- What a rule does to the embedded language; one without a tokenizer is not entered. -/
def moveEmbedding (resolve : String → Option Guest) (rule : CompiledRule) (s : LexerState) :
    LexerState :=
  match rule.embedding with
  | some (.enter language) =>
    match resolve language with
    | some guest => s.enter language guest.initial
    | none => s
  | some .leave => s.leave
  | none => s

/-- The step that applies a rule to the next `count` characters. -/
def applyRule (l : Lexer) (resolve : String → Option Guest) (delta : Nat) (p : Progress)
    (rule : CompiledRule) (count : Nat) : Progress :=
  let text : Text := p.rest.take count
  let (type, bracket) := l.classify rule text
  let line :=
    match type with
    | some type =>
      if text = [] then p.line
      else
        (p.line.switch (delta + p.position) l.language).token (delta + p.position) type
          bracket.isSome
    | none => p.line
  { position := p.position + text.byteSize
    rest := p.rest.drop count
    state := moveEmbedding resolve rule (p.state.modify (moveFrame rule bracket))
    line := line
    guestRan := p.guestRan && text = []
    stalled := if text = [] then p.stalled + 1 else 0 }

/-- The step that makes the next character a token of the default type. -/
def skipChar (l : Lexer) (delta : Nat) (p : Progress) : Progress :=
  let text : Text := p.rest.take 1
  { p with
    position := p.position + text.byteSize
    rest := p.rest.drop 1
    line := (p.line.switch (delta + p.position) l.language).token (delta + p.position)
      l.defaultToken false
    guestRan := false
    stalled := 0 }

/--
The step that runs the embedded tokenizer up to the end of its region.  When the region is empty
nothing is run, and when the language no longer has a tokenizer it is left.
-/
def runGuest? (l : Lexer) (resolve : String → Option Guest) (delta : Nat) (p : Progress)
    (language : String) (inner : LexerState) : Option Progress :=
  match resolve language with
  | none => some { p with state := p.state.leave, guestRan := true }
  | some guest =>
    let count := l.regionLength p.state p.rest
    let text : Text := p.rest.take count
    if text = [] then some { p with guestRan := true }
    else
      (guest.run text inner (delta + p.position)).map fun result =>
        { p with
          position := p.position + text.byteSize
          rest := p.rest.drop count
          state := p.state.enter language result.endState
          line := p.line.splice result.tokens result.modes
          guestRan := true }

/-- One step: the embedded tokenizer where it has not been run, else a rule, else a character. -/
def step? (l : Lexer) (resolve : String → Option Guest) (delta : Nat) (p : Progress) :
    Option Progress :=
  match p.state.guest?, p.guestRan with
  | some (language, inner), false => l.runGuest? resolve delta p language inner
  | _, _ =>
    if p.stalled < stallLimit then
      match l.findRule? p.state p.rest with
      | some (rule, count) => some (l.applyRule resolve delta p rule count)
      | none => some (l.skipChar delta p)
    else
      some (l.skipChar delta p)

/-- A bound on the number of steps left; a step lowers it as long as text is ahead. -/
def Progress.stepsLeft (p : Progress) : Nat :=
  p.rest.length * (stallLimit + 2) + (if p.guestRan then 0 else 1) + (stallLimit - p.stalled)

/-- Applying a rule lowers the bound, also when the rule takes no text. -/
theorem stepsLeft_applyRule_lt {l : Lexer} {resolve : String → Option Guest} {delta : Nat}
    {p : Progress} {rule : CompiledRule} {count : Nat} (ahead : p.rest ≠ [])
    (fresh : p.stalled < stallLimit) :
  (l.applyRule resolve delta p rule count).stepsLeft < p.stepsLeft
  := by
  have some_ahead := List.length_pos_iff.2 ahead
  cases count with
  | zero =>
    simp only [Progress.stepsLeft, applyRule, List.take_zero, List.drop_zero]
    cases p.guestRan <;> simp <;> omega
  | succ count =>
    have taken : p.rest.take (count + 1) ≠ [] := by simp [ahead]
    simp only [Progress.stepsLeft, applyRule, taken, List.length_drop, stallLimit]
    cases p.guestRan <;> simp <;> omega

theorem stepsLeft_skipChar_lt {l : Lexer} {delta : Nat} {p : Progress} (ahead : p.rest ≠ []) :
  (l.skipChar delta p).stepsLeft < p.stepsLeft
  := by
  have some_ahead := List.length_pos_iff.2 ahead
  simp only [Progress.stepsLeft, skipChar, List.length_drop, stallLimit]
  cases p.guestRan <;> simp <;> omega

/-- Running the embedded tokenizer lowers the bound, for it is run only once. -/
theorem stepsLeft_runGuest?_lt {l : Lexer} {resolve : String → Option Guest} {delta : Nat}
    {p q : Progress} {language : String} {inner : LexerState} (unvisited : p.guestRan = false)
    (stepped : l.runGuest? resolve delta p language inner = some q) :
  q.stepsLeft < p.stepsLeft
  := by
  unfold runGuest? at stepped
  split at stepped
  · obtain rfl := Option.some.inj stepped
    simp [Progress.stepsLeft, unvisited]
  · dsimp only at stepped
    split at stepped
    · obtain rfl := Option.some.inj stepped
      simp [Progress.stepsLeft, unvisited]
    · obtain ⟨result, _, rfl⟩ := Option.map_eq_some_iff.1 stepped
      simp only [Progress.stepsLeft, unvisited, List.length_drop]
      have shrinks := Nat.mul_le_mul_right (stallLimit + 2) (Nat.sub_le p.rest.length
        (l.regionLength p.state p.rest))
      simp only [↓reduceIte, Bool.false_eq_true]
      omega

/-- As long as text is ahead, a step lowers the bound on the steps left. -/
theorem stepsLeft_step?_lt {l : Lexer} {resolve : String → Option Guest} {delta : Nat}
    {p q : Progress} (ahead : p.rest ≠ []) (stepped : l.step? resolve delta p = some q) :
  q.stepsLeft < p.stepsLeft
  := by
  unfold step? at stepped
  split at stepped
  · next unvisited => exact stepsLeft_runGuest?_lt unvisited stepped
  · split at stepped
    · next fresh =>
      split at stepped
      · obtain rfl := Option.some.inj stepped
        exact stepsLeft_applyRule_lt ahead fresh
      · obtain rfl := Option.some.inj stepped
        exact stepsLeft_skipChar_lt ahead
    · obtain rfl := Option.some.inj stepped
      exact stepsLeft_skipChar_lt ahead

/-- The steps up to the end of the line. -/
def run? (l : Lexer) (resolve : String → Option Guest) (delta : Nat) (p : Progress) :
    Option Progress :=
  if _ : p.rest = [] then some p
  else
    match _ : l.step? resolve delta p with
    | none => none
    | some q => run? l resolve delta q
termination_by p.stepsLeft
decreasing_by exact stepsLeft_step?_lt (by assumption) (by assumption)

/--
The tokens of a line that starts at the offset `delta` and is read up to the offset `stop`;
`none` when the tokenizer of an embedded language does not answer.
-/
def tokenize? (l : Lexer) (resolve : String → Option Guest) (line : Text) (state : LexerState)
    (delta : Nat) (stop : Option Nat) : Option LineTokens := do
  let p ← l.run? resolve delta
    { position := 0
      rest := visiblePart line delta stop
      state := state
      line := {}
      guestRan := false
      stalled := 0 }
  return p.line.finish delta (p.state.activeLanguage l.language) (delta + p.position) p.state

end Lexer

end EditorModes
