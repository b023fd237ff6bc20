import EditorModes.Text.Property

/-!
# Lexer states

The state in which a line ends is where the next line starts from.  It consists of the tokenizer's
own frame, a stack of named states with a count of open brackets, and, while other languages are
embedded, of the frames of their tokenizers, outermost first.
-/

namespace EditorModes

/-- A stack of named states, the current one apart from those below it, and the open brackets. -/
structure Frame where
  current : String
  below : List String := []
  brackets : Nat := 0
  deriving DecidableEq, Repr

/-- The greatest number of open brackets that is counted. -/
def Frame.bracketLimit : Nat := 0xffffffff

/-- The frame of a tokenizer with those of the languages embedded in it, outermost first. -/
structure LexerState where
  frame : Frame
  embedded : List (String × Frame) := []
  deriving DecidableEq, Repr

namespace Frame

/-- The names on the stack, from the bottom to the top. -/
def stack (f : Frame) : List String :=
  (f.current :: f.below).reverse

/-- The number of names on the stack. -/
def depth (f : Frame) : Nat :=
  f.below.length + 1

/-- A name is put on top. -/
def push (f : Frame) (name : String) : Frame :=
  { f with current := name, below := f.current :: f.below }

/-- The top name is taken away unless it is the only one. -/
def pop (f : Frame) : Frame :=
  match f.below with
  | [] => f
  | parent :: below => { f with current := parent, below := below }

/-- All names but the bottom one are taken away. -/
def popAll (f : Frame) : Frame :=
  { f with current := f.below.getLast?.getD f.current, below := [] }

/-- The top name is replaced. -/
def switchTo (f : Frame) (name : String) : Frame :=
  { f with current := name }

/-- One more bracket is open. -/
def openBracket (f : Frame) : Frame :=
  { f with brackets := min (f.brackets + 1) bracketLimit }

/-- One bracket fewer is open; with none open, none is closed. -/
def closeBracket (f : Frame) : Frame :=
  { f with brackets := f.brackets - 1 }

end Frame

namespace LexerState

/-- The state with a single name on the stack. -/
def initial (name : String) : LexerState where
  frame := ⟨name, [], 0⟩

/-- The name on top of the stack. -/
def current (s : LexerState) : String :=
  s.frame.current

/-- The state with its own frame changed. -/
def modify (s : LexerState) (f : Frame → Frame) : LexerState :=
  { s with frame := f s.frame }

/-- The embedded language and the state of its tokenizer. -/
def guest? (s : LexerState) : Option (String × LexerState) :=
  match s.embedded with
  | [] => none
  | (language, frame) :: embedded => some (language, ⟨frame, embedded⟩)

/-- The state with a language embedded, whose tokenizer is in the state `guest`. -/
def enter (s : LexerState) (language : String) (guest : LexerState) : LexerState :=
  { s with embedded := (language, guest.frame) :: guest.embedded }

/-- The state with no language embedded. -/
def leave (s : LexerState) : LexerState :=
  { s with embedded := [] }

/-- The innermost language, for a tokenizer of the language `host`. -/
def activeLanguage (s : LexerState) (host : String) : String :=
  (s.embedded.getLast?.map (·.1)).getD host

@[simp]
theorem guest?_enter (s : LexerState) (language : String) (guest : LexerState) :
  (s.enter language guest).guest? = some (language, guest)
  := rfl

@[simp]
theorem guest?_leave (s : LexerState) :
  s.leave.guest? = none
  := rfl

end LexerState

/-! ### Text form -/

/-- The lower-case hexadecimal digits of a number. -/
def hexDigits (n : Nat) : String :=
  String.ofList (Nat.toDigits 16 n)

/-- A character as it stands between double quotes. -/
def quoteChar (c : Char) : String :=
  match c with
  | '"' => "\\\""
  | '\\' => "\\\\"
  | '\t' => "\\t"
  | '\n' => "\\n"
  | '\r' => "\\r"
  | '\x00' => "\\0"
  | c =>
    if Property.isShown c then String.singleton c
    else "\\u\x7b" ++ hexDigits c.toNat ++ "\x7d"

/-- A string between double quotes. -/
def quote (s : String) : String :=
  "\"" ++ String.join (s.toList.map quoteChar) ++ "\""

/-- A frame as text, with `inner` as the text of what is embedded. -/
def Frame.describe (f : Frame) (inner : String) : String :=
  let stack := ", ".intercalate (f.stack.map quote)
  "LexerState \x7b stack: [" ++ stack ++ "], brackets: " ++ toString f.brackets ++ inner ++ " \x7d"

/-- The embedded frames as text, to follow the count of brackets. -/
def describeEmbedded : List (String × Frame) → String
  | [] => ""
  | (language, frame) :: rest =>
    ", embedded: (" ++ quote language ++ ", " ++ frame.describe (describeEmbedded rest) ++ ")"

/-- A state as text. -/
def LexerState.describe (s : LexerState) : String :=
  s.frame.describe (describeEmbedded s.embedded)

end EditorModes
