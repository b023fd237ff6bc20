import EditorModes.Text.Basic

/-!
# The lexical level of TOML

White space, comments, line ends, strings and keys.  Each reader takes the text ahead and gives
what it read together with the text after it, or `none` when the text does not have the form it
asks for.
-/

namespace EditorModes.Toml

/-- White space within a line. -/
def isBlank (c : Char) : Bool :=
  c = ' ' || c = '\t'

/-- The text without white space at its start. -/
def skipBlanks (t : Text) : Text :=
  t.dropWhile isBlank

/-- Whether a character may stand in a comment or between single quotes. -/
def isPlain (c : Char) : Bool :=
  c = '\t' || (' ' ≤ c && c ≠ '\x7f')

/-- What follows a line feed, with or without a carriage return before it. -/
def newline? : Text → Option Text
  | '\n' :: t => some t
  | '\r' :: '\n' :: t => some t
  | _ => none

/-- What follows the rest of a line that holds at most a comment. -/
def lineEnd? (t : Text) : Option Text :=
  let t := skipBlanks t
  let t : Text := match t with
    | '#' :: t => t.dropWhile isPlain
    | t => t
  if t = [] then some [] else newline? t

/-- What follows white space, line ends and comments; `inComment` tells whether one is open. -/
def skipLines (inComment : Bool) : Text → Option Text
  | [] => if inComment then none else some []
  | '\n' :: t => skipLines false t
  | '\r' :: '\n' :: t => skipLines false t
  | c :: t =>
    if inComment then
      if isPlain c then skipLines true t else none
    else if isBlank c then skipLines false t
    else if c = '#' then skipLines true t
    else some (c :: t)

/-- What follows the white space and line ends after an escaping backslash. -/
def skipEscapedLines : Text → Text
  | [] => []
  | '\n' :: t => skipEscapedLines t
  | '\r' :: '\n' :: t => skipEscapedLines t
  | c :: t => if isBlank c then skipEscapedLines t else c :: t

/-! ### Strings -/

/-- The character of exactly `count` hexadecimal digits. -/
def codePoint? : (count value : Nat) → Text → Option (Char × Text)
  | 0, value, t =>
    if value < 0xd800 ∨ (0xdfff < value ∧ value < 0x110000) then some (Char.ofNat value, t)
    else none
  | count + 1, value, c :: t => do codePoint? count (value * 16 + (← Hexadecimal.digit? c)) t
  | _ + 1, _, [] => none

/-- The character that follows a backslash. -/
def escape? : Text → Option (Char × Text)
  | 'b' :: t => some ('\x08', t)
  | 't' :: t => some ('\t', t)
  | 'n' :: t => some ('\n', t)
  | 'f' :: t => some ('\x0c', t)
  | 'r' :: t => some ('\r', t)
  | '"' :: t => some ('"', t)
  | '\\' :: t => some ('\\', t)
  | 'u' :: t => codePoint? 4 0 t
  | 'U' :: t => codePoint? 8 0 t
  | _ => none

/-- The rest of a string in double quotes; `steps` bounds its length. -/
def basicBody? : (steps : Nat) → Text → Option (Text × Text)
  | 0, _ => none
  | _ + 1, [] => none
  | _ + 1, '"' :: t => some ([], t)
  | steps + 1, '\\' :: t => do
    let (c, t) ← escape? t
    let (body, t) ← basicBody? steps t
    return (c :: body, t)
  | steps + 1, c :: t =>
    if isPlain c then (basicBody? steps t).map fun (body, t) => (c :: body, t) else none

/-- The rest of a string in single quotes. -/
def literalBody? (t : Text) : Option (Text × Text) :=
  match Text.spanWhile (fun c => isPlain c && c ≠ '\x27') t with
  | (body, '\x27' :: t) => some (body, t)
  | _ => none

/-- The text without a line end at its start. -/
def dropNewline (t : Text) : Text :=
  (newline? t).getD t

/--
What a run of quotes in a string of several lines means: up to two are part of the string, three
to five end it, all but the last three being part of it.  Gives the part and whether it ends.
-/
def quoteRun? (quote : Char) (count : Nat) : Option (Text × Bool) :=
  if count < 3 then some (List.replicate count quote, false)
  else if count < 6 then some (List.replicate (count - 3) quote, true)
  else none

/--
The rest of a string of several lines between three quotes; only between double quotes do
backslashes escape.
-/
def multilineBody? (quote : Char) : (steps : Nat) → Text → Option (Text × Text)
  | 0, _ => none
  | _ + 1, [] => none
  | steps + 1, c :: t =>
    if c = quote then do
      let (quotes, rest) := Text.spanWhile (· = quote) (c :: t)
      let (content, ended) ← quoteRun? quote quotes.length
      if ended then some (content, rest)
      else
        (multilineBody? quote steps rest).map fun (body, t) => (content ++ body, t)
    else
      match newline? (c :: t) with
      | some t => (multilineBody? quote steps t).map fun (body, t) => ('\n' :: body, t)
      | none =>
        if c = '\\' ∧ quote = '"' then
          match newline? (skipBlanks t) with
          | some t => multilineBody? quote steps (skipEscapedLines t)
          | none => do
            let (c, t) ← escape? t
            let (body, t) ← multilineBody? quote steps t
            return (c :: body, t)
        else if isPlain c then
          (multilineBody? quote steps t).map fun (body, t) => (c :: body, t)
        else none

/-- A string on one line, as keys may be. -/
def shortString? : Text → Option (Text × Text)
  | '"' :: t => basicBody? (t.length + 1) t
  | '\x27' :: t => literalBody? t
  | _ => none

/-- A string of any form. -/
def string? : Text → Option (Text × Text)
  | '"' :: '"' :: '"' :: t => multilineBody? '"' (t.length + 1) (dropNewline t)
  | '\x27' :: '\x27' :: '\x27' :: t => multilineBody? '\x27' (t.length + 1) (dropNewline t)
  | t => shortString? t

/-! ### Keys -/

/-- Whether a character may stand in a key without quotes. -/
def isKeyChar (c : Char) : Bool :=
  Property.isAsciiAlphanumeric c || c = '-' || c = '_'

/-- One part of a key. -/
def keyPart? (t : Text) : Option (String × Text) :=
  match shortString? t with
  | some (part, t) => some (String.ofList part, t)
  | none =>
    match Text.spanWhile isKeyChar t with
    | ([], _) => none
    | (part, t) => some (String.ofList part, t)

/-- How many parts a key may have, and how deep arrays and tables may nest. -/
def nestLimit : Nat := 79

/-- A key of parts with points between them, at most `steps` of them. -/
def key? : (steps : Nat) → Text → Option (List String × Text)
  | 0, _ => none
  | steps + 1, t => do
    let (part, t) ← keyPart? (skipBlanks t)
    match skipBlanks t with
    | '.' :: t => (key? steps t).map fun (parts, t) => (part :: parts, t)
    | t => return ([part], t)

end EditorModes.Toml
