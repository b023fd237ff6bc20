import EditorModes.Lexer.Tokens
import EditorModes.Text.Position

/-!
# Cached line tokens

A line cache holds the tokens of every line of a text.  The first line is tokenized from the
initial state and each further line from the state the line before it ended in.  After a change,
lines are tokenized again from the first changed line on, until a line's new start state is the
one it was tokenized from before; all later lines are as they were.

Tokenizing may fail to answer; the cache then has no successor.
-/

namespace EditorModes

/-- A way to tokenize the lines of a document, one after another. -/
structure LineTokenizer where
  language : String
  initial : LexerState
  /-- The tokens of a line in a state, read up to an offset. -/
  run : Text → LexerState → Option Nat → Option LineTokens

/-- A line with the state it was tokenized from and its tokens. -/
structure CachedLine where
  text : Text
  startState : LexerState
  tokens : LineTokens
  deriving DecidableEq, Repr

/-- The lines of a document; lines of more bytes than `maxLength` are tokenized in part. -/
structure LineCache where
  language : String
  maxLength : Option Nat
  lines : List CachedLine
  deriving DecidableEq, Repr

/-- Line numbers from `first` on and before `stop`. -/
structure LineRange where
  first : Nat
  stop : Nat
  deriving DecidableEq, Repr

namespace LineTokenizer

/-- Where to stop in a line: at the greatest length, when the line has more bytes. -/
def stopFor (maxLength : Option Nat) (line : Text) : Option Nat :=
  maxLength.filter fun limit => limit < line.byteSize

/-- A line tokenized from a state. -/
def cacheLine? (t : LineTokenizer) (maxLength : Option Nat) (state : LexerState) (line : Text) :
    Option CachedLine :=
  (t.run line state (stopFor maxLength line)).map fun tokens => ⟨line, state, tokens⟩

/-- Lines tokenized one after another, and the state after the last. -/
def cacheLines? (t : LineTokenizer) (maxLength : Option Nat) :
    LexerState → List Text → Option (List CachedLine × LexerState)
  | state, [] => some ([], state)
  | state, line :: lines => do
    let cached ← t.cacheLine? maxLength state line
    let (rest, last) ← t.cacheLines? maxLength cached.tokens.endState lines
    return (cached :: rest, last)

/--
Cached lines that now follow a line ending in `state`: those up to the first whose start state
still holds are tokenized again.  The second component counts them.
-/
def refresh? (t : LineTokenizer) (maxLength : Option Nat) :
    LexerState → List CachedLine → Option (List CachedLine × Nat)
  | _, [] => some ([], 0)
  | state, line :: lines =>
    if line.startState = state then some (line :: lines, 0)
    else do
      let cached ← t.cacheLine? maxLength state line.text
      let (rest, count) ← t.refresh? maxLength cached.tokens.endState lines
      return (cached :: rest, count + 1)

end LineTokenizer

/-- The number of leading members that two lists share, as far as `same` tells. -/
def commonPrefixLength (same : α → β → Bool) : List α → List β → Nat
  | a :: as, b :: bs => if same a b then commonPrefixLength same as bs + 1 else 0
  | _, _ => 0

namespace LineCache

/-- The number of lines. -/
def size (c : LineCache) : Nat :=
  c.lines.length

/-- The tokens of a line. -/
def tokens? (c : LineCache) (line : Nat) : Option LineTokens :=
  c.lines[line]?.map (·.tokens)

/--
The cache after `removed` lines from `first` on are replaced by the lines `inserted`, as far as
there are such lines, and the range of lines that were tokenized.
-/
def applyChange? (c : LineCache) (t : LineTokenizer) (first removed : Nat)
    (inserted : List Text) : Option (LineCache × LineRange) := do
  let before := c.lines.take first
  let after := (c.lines.drop first).drop removed
  let state := (before.getLast?.map (·.tokens.endState)).getD t.initial
  let (fresh, state) ← t.cacheLines? c.maxLength state inserted
  let (settled, count) ← t.refresh? c.maxLength state after
  return ({ c with lines := before ++ fresh ++ settled },
    ⟨before.length, before.length + fresh.length + count⟩)

/-- The cache of a text. -/
def ofText? (t : LineTokenizer) (maxLength : Option Nat) (text : Text) : Option LineCache := do
  let (cache, _) ← applyChange? ⟨t.language, maxLength, []⟩ t 0 0 text.lineContents
  return cache

/--
The cache of another text, where the lines the two texts share at their start and then at their
end are kept, and the range of lines that were tokenized.
-/
def update? (c : LineCache) (t : LineTokenizer) (text : Text) :
    Option (LineCache × LineRange) :=
  let same (line : CachedLine) (text : Text) : Bool := line.text = text
  let lines := text.lineContents
  let first := commonPrefixLength same c.lines lines
  let shared :=
    commonPrefixLength same (c.lines.drop first).reverse (lines.drop first).reverse
  c.applyChange? t first (c.lines.length - first - shared)
    ((lines.drop first).take (lines.length - first - shared))

end LineCache

end EditorModes
