import EditorModes.Lexer.Tokens
import EditorModes.Text.Cursor

/-!
# Plain tokenizers

A plain tokenizer needs no grammar: it cuts each line into separators, runs of white space and
runs of other characters.  Its state never changes.
-/

namespace EditorModes

/-- A tokenizer that knows only separators and white space. -/
structure PlainLexer where
  language : String
  rules : TokenRules
  deriving DecidableEq, Repr

namespace PlainLexer

/-- The usual separators. -/
def usualSeparators : List Char :=
  "()[]\x7b\x7d<>,;:.=+-*/\\\"'`!?&|^%#@~".toList

/-- The plain tokenizer of a language with the usual separators. -/
def ofLanguage (language : String) : PlainLexer where
  language := language
  rules := ⟨usualSeparators, [' ', '\t']⟩

/-- The state it starts in. -/
def initial : LexerState :=
  .initial "root"

/-- The first piece of a text that starts with the character `c`, and the type of its token. -/
def piece (p : PlainLexer) (c : Char) (t : Text) : Text × String :=
  if p.rules.whitespace.contains c then
    ((p.rules.splitWhitespace (c :: t)).1, "white")
  else
    let token := (p.rules.splitToken (c :: t)).1
    (token, if token = [c] ∧ p.rules.separators.contains c then "delimiter" else "text")

/-- The tokens of a text that starts at an offset, at most `count` of them. -/
def tokensFrom (p : PlainLexer) : (count : Nat) → (offset : Nat) → Text → List Token
  | 0, _, _ => []
  | _ + 1, _, [] => []
  | count + 1, offset, c :: t =>
    let (piece, type) := p.piece c t
    ⟨offset, type⟩ ::
      p.tokensFrom count (offset + piece.byteSize) ((c :: t).drop piece.length)

/-- The tokens of a line. -/
def tokenize (p : PlainLexer) (line : Text) (state : LexerState) (delta : Nat)
    (stop : Option Nat) : LineTokens :=
  let line := visiblePart line delta stop
  { tokens := p.tokensFrom line.length delta line
    modes := [⟨delta, p.language⟩]
    stop := delta + line.byteSize
    endState := state }

end PlainLexer

end EditorModes
