import EditorModes.Document.LineCache
import EditorModes.Lexer.Plain
import EditorModes.Lexer.Run
import EditorModes.Registry.Basic

/-!
# Tokenizers

A tokenizer is a lexer, a plain tokenizer, or any function from lines and states to tokens.  A
lexer hands embedded regions to the tokenizers of a registry, and those may hand on parts of
them in turn.  The chain of calls nested in this way may go on forever, for example when a
language embeds itself without consuming anything; `tokenizeWithin` follows it to a given depth,
and `tokenize?` to a depth that no chain reaches without repeating itself.
-/

namespace EditorModes

/-- A tokenizer of one language. -/
inductive Tokenizer where
  /-- A lexer; when it is not connected, no embedded language has a tokenizer. -/
  | lexer (lexer : Lexer) (connected : Bool)
  | plain (lexer : PlainLexer)
  /-- A function from a line, its state, its offset and where to stop. -/
  | function (language : String) (initial : LexerState)
      (run : Text → LexerState → Nat → Option Nat → LineTokens)

/-- The tokenizers by language. -/
abbrev TokenizerRegistry := Registry Tokenizer

namespace Tokenizer

/-- The language of the tokenizer. -/
def language : Tokenizer → String
  | lexer l _ => l.language
  | plain p => p.language
  | function language _ _ => language

/-- The state that the first line of a document starts in. -/
def initial : Tokenizer → LexerState
  | lexer l _ => .initial l.start
  | plain _ => PlainLexer.initial
  | function _ initial _ => initial

/--
The tokens of a line that starts at the offset `delta` and is read up to the offset `stop`, with
calls for embedded languages nested at most `depth` deep.
-/
def tokenizeWithin (registry : TokenizerRegistry) (depth : Nat) (t : Tokenizer) (line : Text)
    (state : LexerState) (delta : Nat) (stop : Option Nat) : Option LineTokens :=
  match t with
  | plain p => some (p.tokenize line state delta stop)
  | function _ _ run => some (run line state delta stop)
  | lexer l connected =>
    match depth with
    | 0 => none
    | depth + 1 =>
      let resolve (language : String) : Option Guest :=
        if connected then
          (registry.best? language).map fun guest =>
            { initial := guest.initial
              run := fun text state delta =>
                tokenizeWithin registry depth guest text state delta none }
        else
          none
      l.tokenize? resolve line state delta stop

/-- A depth that only calls that repeat forever exceed. -/
def depthBound (registry : TokenizerRegistry) (line : Text) (state : LexerState) : Nat :=
  state.embedded.length + (registry.size + 1) * ((line.length + 1) * (line.length + 1)) + 1

/-- The tokens of a line; `none` when the calls for embedded languages never end. -/
def tokenize? (registry : TokenizerRegistry) (t : Tokenizer) (line : Text) (state : LexerState)
    (delta : Nat) (stop : Option Nat) : Option LineTokens :=
  t.tokenizeWithin registry (depthBound registry line state) line state delta stop

/-- The tokenizer as it tokenizes the lines of a document, each from its own start. -/
def onLines (registry : TokenizerRegistry) (t : Tokenizer) : LineTokenizer where
  language := t.language
  initial := t.initial
  run line state stop := t.tokenize? registry line state 0 stop

end Tokenizer

/-- One more tokenizer, for the language it reports. -/
def TokenizerRegistry.add (registry : TokenizerRegistry) (t : Tokenizer) :
    Handle × TokenizerRegistry :=
  registry.register (.ofLanguage t.language) 0 t

end EditorModes
