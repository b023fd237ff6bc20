import EditorModes.Lexer.State
import EditorModes.Text.Basic

/-!
# Line tokens

What a tokenizer finds in a line: where the tokens start and of which type they are, where the
language changes, and the state the line ends in.  `LineBuilder` collects the tokens and language
changes of a line from left to right; neighbouring tokens of one type are merged unless a bracket
or a change of language stands between them.
-/

namespace EditorModes

/-- A token: where it starts and its type. -/
structure Token where
  start : Nat
  type : String
  deriving DecidableEq, Repr

/-- A place where the active language changes. -/
structure ModeTransition where
  start : Nat
  language : String
  deriving DecidableEq, Repr

/-- The tokens of a line; `stop` is the offset at which tokenizing stopped. -/
structure LineTokens where
  tokens : List Token
  modes : List ModeTransition
  stop : Nat
  endState : LexerState
  deriving DecidableEq, Repr

/-- The part of a line before an absolute offset, where the line starts at the offset `delta`. -/
def visiblePart (line : Text) (delta : Nat) : Option Nat → Text
  | none => line
  | some stop => line.takeBytes (stop - delta)

/-- The tokens and language changes collected so far, latest first. -/
structure LineBuilder where
  tokens : List Token := []
  modes : List ModeTransition := []
  /-- Whether the latest token is a bracket. -/
  lastBracket : Bool := false
  /-- Whether the language changed since the latest token. -/
  barrier : Bool := false

namespace LineBuilder

/-- A token is added, or merged with the latest one. -/
def token (b : LineBuilder) (start : Nat) (type : String) (bracket : Bool) : LineBuilder :=
  let merges := !b.barrier && !bracket && !b.lastBracket
    && b.tokens.head?.any fun last => last.type = type
  if merges then b
  else { b with tokens := ⟨start, type⟩ :: b.tokens, lastBracket := bracket, barrier := false }

/--
From `start` on, `language` is active.  A change at the place of the latest one replaces it, and
is dropped when the language before is the same.
-/
def switch (b : LineBuilder) (start : Nat) (language : String) : LineBuilder :=
  match b.modes with
  | [] => { b with modes := [⟨start, language⟩], barrier := true }
  | last :: earlier =>
    if last.language = language then b
    else if last.start = start then
      if earlier.head?.any fun before => before.language = language then
        { b with modes := earlier, barrier := true }
      else
        { b with modes := ⟨start, language⟩ :: earlier, barrier := true }
    else
      { b with modes := ⟨start, language⟩ :: b.modes, barrier := true }

/-- All language changes of a list are made. -/
def switchAll (b : LineBuilder) (modes : List ModeTransition) : LineBuilder :=
  modes.foldl (fun b m => b.switch m.start m.language) b

/-- The tokens and language changes of an embedded region are added in order. -/
def splice (b : LineBuilder) (tokens : List Token) (modes : List ModeTransition) : LineBuilder :=
  match tokens with
  | [] => { b.switchAll modes with lastBracket := false, barrier := true }
  | t :: tokens =>
    let (due, later) := modes.span fun m => m.start ≤ t.start
    let b := b.switchAll due
    splice { b with tokens := t :: b.tokens } tokens later

/-- The collected line; without any language change, `language` is active from `delta` on. -/
def finish (b : LineBuilder) (delta : Nat) (language : String) (stop : Nat)
    (endState : LexerState) : LineTokens where
  tokens := b.tokens.reverse
  modes := if b.modes.isEmpty then [⟨delta, language⟩] else b.modes.reverse
  stop := stop
  endState := endState

end LineBuilder

end EditorModes
