import EditorModes.Regex.Match
import EditorModes.Text.Position

/-!
# A cursor over a line

A cursor stands between two characters of a line, which it knows by the number of bytes before it.
It moves by characters, by literal strings, by patterns, and by the coarse tokens that a choice of
separators and white space cuts the line into.  A motion measures the text ahead, in bytes, and adds
the measure to the number of bytes before it; the text it passed over is cut out of the line.  A cut
inside a character fails, which is what `none` stands for throughout.  Some motions come in two
forms, of which one returns the text that was passed over and the other its number of bytes.
-/

namespace EditorModes

/-- The separators, which are tokens by themselves, and the white space between coarse tokens. -/
structure TokenRules where
  separators : List Char := []
  whitespace : List Char := [' ', '\t']
  deriving DecidableEq, Repr

namespace TokenRules

/-- The first coarse token of a text, and the rest. -/
def splitToken (r : TokenRules) : Text → Text × Text
  | [] => ([], [])
  | c :: t =>
    if r.separators.contains c then
      ([c], t)
    else if r.whitespace.contains c then
      let (run, rest) := Text.spanWhile r.whitespace.contains t
      (c :: run, rest)
    else
      let (run, rest) :=
        Text.spanWhile (fun d => !(r.separators.contains d || r.whitespace.contains d)) t
      (c :: run, rest)

/-- The white space at the start of a text, and the rest. -/
def splitWhitespace (r : TokenRules) (t : Text) : Text × Text :=
  Text.spanWhile r.whitespace.contains t

end TokenRules

/-- A motion that leaves the line. -/
inductive CursorError where
  | goBackPastStart (requested position : Nat)
  deriving DecidableEq, Repr

/-- What an error says. -/
def CursorError.message : CursorError → String
  | goBackPastStart requested position =>
    s!"cannot go back {requested} characters from position {position}"

/-- What a conditional motion looks for. -/
inductive Condition where
  | literal (needle : Text)
  | pattern (regex : Regex)

namespace Text

/-- The byte offset of the first occurrence of `needle`. -/
def findBytes? (t needle : Text) : Option Nat :=
  (splitFirst? needle t).map fun (before, _) => before.byteSize

/-- Whether two texts differ at most in the case of ASCII letters. -/
def eqIgnoringAsciiCase (s t : Text) : Bool :=
  s.map Property.asciiLower == t.map Property.asciiLower

end Text

/-- The span, in bytes, of the preferred match at the earliest place of a text that has one. -/
def Regex.findSpan? (r : Regex) (t : Text) : Option Span :=
  (r.find? t).map fun m => ⟨Text.byteSize (t.take m.skipped), Text.byteSize (t.take m.stop)⟩

/-! ### Measures of the text ahead -/

namespace Ahead

/-- The number of bytes before a character ahead, or of all that is ahead. -/
def before (rest : Text) (found : Option (Nat × Char)) : Nat :=
  (found.map (·.1)).getD rest.byteSize

/-- The number of bytes of the first `n` characters. -/
def characters (n : Nat) (rest : Text) : Nat :=
  before rest (rest.indices 0)[n]?

/-- The number of bytes of a character, when it comes next. -/
def character (wanted : Char) (rest : Text) : Nat :=
  if rest.head? = some wanted then wanted.utf8Size else 0

/-- The number of bytes of a string that has characters, when it comes next. -/
def string (needle rest : Text) : Nat :=
  if needle ≠ [] ∧ rest.startsWith needle then needle.byteSize else 0

/-- The number of bytes of a string, when as many come next that differ in ASCII case at most. -/
def stringIgnoringCase (needle rest : Text) : Nat :=
  match rest.splitAt? needle.byteSize with
  | some (candidate, _) =>
    if needle ≠ [] ∧ candidate.eqIgnoringAsciiCase needle then needle.byteSize else 0
  | none => 0

/-- The number of bytes of a match of a pattern that comes next. -/
def pattern (regex : Regex) (rest : Text) : Nat :=
  match regex.findSpan? rest with
  | some ⟨0, stop⟩ => stop
  | _ => 0

/-- The number of bytes of what a condition asks for, when it comes next. -/
def condition : Condition → Text → Nat
  | .literal needle => string needle
  | .pattern regex => pattern regex

/-- Where a condition is met first, in bytes, and how many bytes it takes up there. -/
def locate? (rest : Text) : Condition → Option (Nat × Nat)
  | .literal [] => none
  | .literal needle => (rest.findBytes? needle).map (·, needle.byteSize)
  | .pattern regex =>
    (regex.findSpan? rest).map fun found => (found.start, found.stop - found.start)

/--
The number of bytes before the first place that meets a condition, and with `including` of what
meets it; without such a place, of all that is ahead.
-/
def upTo (condition : Condition) (including : Bool) (rest : Text) : Nat :=
  match locate? rest condition with
  | some (start, length) => if including then start + length else start
  | none => rest.byteSize

/-- The number of bytes before the first occurrence of a string, and with `including` of both. -/
def upToString (needle : Text) (including : Bool) (rest : Text) : Nat :=
  match rest.findBytes? needle with
  | some start =>
    if needle = [] then rest.byteSize
    else if including then start + needle.byteSize
    else start
  | none => rest.byteSize

/-- The number of bytes of the next coarse token. -/
def token (rules : TokenRules) (rest : Text) : Nat :=
  match rest.indices 0 with
  | [] => 0
  | (_, first) :: others =>
    if rules.separators.contains first then first.utf8Size
    else if rules.whitespace.contains first then
      before rest (others.find? fun (_, c) => !rules.whitespace.contains c)
    else
      before rest
        (others.find? fun (_, c) => rules.separators.contains c || rules.whitespace.contains c)

/-- The number of bytes of white space. -/
def whitespace (rules : TokenRules) (rest : Text) : Nat :=
  before rest ((rest.indices 0).find? fun (_, c) => !rules.whitespace.contains c)

end Ahead

/-! ### Motions -/

/-- A place in a line, by the number of bytes before it. -/
structure Cursor where
  line : Text
  position : Nat := 0
  rules : TokenRules := {}

namespace Cursor

/-- Whether nothing is ahead. -/
def atEnd (b : Cursor) : Bool :=
  b.line.byteSize ≤ b.position

/-- The text ahead. -/
def rest? (b : Cursor) : Option Text :=
  (b.line.splitAt? b.position).map (·.2)

/-- The cursor so many bytes further. -/
def forward (b : Cursor) (length : Nat) : Cursor :=
  { b with position := b.position + length }

/-- Passes over as many bytes as the text ahead measures, and tells their number. -/
def pass? (b : Cursor) (measure : Text → Nat) : Option (Nat × Cursor) :=
  b.rest?.map fun rest => (measure rest, b.forward (measure rest))

/-- The text that a motion passed over which tells its number of bytes. -/
def passed? (motion : Option (Nat × Cursor)) : Option (Text × Cursor) := do
  let (length, b) ← motion
  return (← b.line.slice? (b.position - length) b.position, b)

/-- Passes over as many bytes as the text ahead measures. -/
def take? (b : Cursor) (measure : Text → Nat) : Option (Text × Cursor) := do
  let next := b.forward (measure (← b.rest?))
  return (← b.line.slice? b.position next.position, next)

/-- The next bytes, as many as the text ahead measures. -/
def look? (b : Cursor) (measure : Text → Nat) : Option Text := do
  let rest ← b.rest?
  rest.slice? 0 (measure rest)

/-- The next character. -/
def peek? (b : Cursor) : Option (Option Char) :=
  b.rest?.map List.head?

/-- The next character and the cursor after it. -/
def next? (b : Cursor) : Option (Option Char × Cursor) :=
  b.peek?.map fun
    | none => (none, b)
    | some c => (some c, b.forward c.utf8Size)

/-- Passes over `n` characters, or over all that are left. -/
def advance? (b : Cursor) (n : Nat) : Option (Text × Cursor) :=
  b.take? (Ahead.characters n)

/-- Passes over the rest of the line. -/
def advanceToEnd? (b : Cursor) : Option (Text × Cursor) :=
  b.rest?.map fun rest => (rest, { b with position := b.line.byteSize })

/-- The offset after `n` steps back from `offset`, given the characters before, last first. -/
def backFrom? (offset : Nat) : (before : List (Nat × Char)) → (n : Nat) → Option Nat
  | _, 0 => some offset
  | [], _ + 1 => none
  | (earlier, _) :: before, n + 1 => backFrom? earlier before n

/-- The cursor `n` characters before. -/
def goBack? (b : Cursor) (n : Nat) : Option (Except CursorError Cursor) :=
  (b.line.splitAt? b.position).map fun (before, _) =>
    match backFrom? b.position (before.indices 0).reverse n with
    | some target => .ok { b with position := target }
    | none => .error (.goBackPastStart n b.position)

/-- Passes over the next character when it is the given one, and tells its number of bytes. -/
def advanceIfCharLength? (b : Cursor) (wanted : Char) : Option (Nat × Cursor) :=
  b.pass? (Ahead.character wanted)

/-- Passes over the next character when it is the given one. -/
def advanceIfChar? (b : Cursor) (wanted : Char) : Option (Text × Cursor) :=
  passed? (b.advanceIfCharLength? wanted)

/-- Passes over a string when the line goes on with it, and tells its number of bytes. -/
def advanceIfStringLength? (b : Cursor) (needle : Text) : Option (Nat × Cursor) :=
  b.pass? (Ahead.string needle)

/-- Passes over a string when the line goes on with it. -/
def advanceIfString? (b : Cursor) (needle : Text) : Option (Text × Cursor) :=
  passed? (b.advanceIfStringLength? needle)

/-- Passes over a string in any ASCII case, and tells its number of bytes. -/
def advanceIfStringIgnoringCaseLength? (b : Cursor) (needle : Text) :
    Option (Nat × Cursor) :=
  b.pass? (Ahead.stringIgnoringCase needle)

/-- Passes over a string in any ASCII case. -/
def advanceIfStringIgnoringCase? (b : Cursor) (needle : Text) : Option (Text × Cursor) :=
  passed? (b.advanceIfStringIgnoringCaseLength? needle)

/-- Passes over a match of a pattern that starts at the cursor, and tells its number of bytes. -/
def advanceIfMatchLength? (b : Cursor) (regex : Regex) : Option (Nat × Cursor) :=
  b.pass? (Ahead.pattern regex)

/-- Passes over a match of a pattern that starts at the cursor. -/
def advanceIfMatch? (b : Cursor) (regex : Regex) : Option (Text × Cursor) :=
  passed? (b.advanceIfMatchLength? regex)

/-- The cursor behind what a condition asks for, again and again. -/
def behindAll? (b : Cursor) (condition : Condition) : Option Cursor :=
  if b.atEnd then some b
  else
    match b.rest? with
    | none => none
    | some rest =>
      if 0 < Ahead.condition condition rest then
        behindAll? (b.forward (Ahead.condition condition rest)) condition
      else
        some b
termination_by b.line.byteSize - b.position
decreasing_by
  next inside positive =>
  simp only [atEnd, decide_eq_true_eq, Nat.not_le] at inside
  simp only [forward]
  omega

/-- Passes over what a condition asks for, again and again. -/
def advanceWhile? (b : Cursor) (condition : Condition) : Option (Text × Cursor) := do
  let next ← b.behindAll? condition
  return (← b.line.slice? b.position next.position, next)

/-- Passes over what comes before the first place that meets a condition, and perhaps over that. -/
def advanceUntil? (b : Cursor) (condition : Condition) (including : Bool) :
    Option (Text × Cursor) :=
  b.take? (Ahead.upTo condition including)

/--
Passes over what comes before the first occurrence of a string, and perhaps over that, and tells the
number of bytes.
-/
def advanceUntilStringLength? (b : Cursor) (needle : Text) (including : Bool) :
    Option (Nat × Cursor) :=
  b.pass? (Ahead.upToString needle including)

/-- Passes over what comes before the first occurrence of a string, and perhaps over that. -/
def advanceUntilString? (b : Cursor) (needle : Text) (including : Bool) :
    Option (Text × Cursor) :=
  passed? (b.advanceUntilStringLength? needle including)

/-- The cursor with other separators and white space. -/
def withRules (b : Cursor) (separators whitespace : List Char) : Cursor :=
  { b with rules := ⟨separators, whitespace⟩ }

/-- The next coarse token. -/
def peekToken? (b : Cursor) : Option Text :=
  b.look? (Ahead.token b.rules)

/-- The next coarse token and the cursor after it. -/
def nextToken? (b : Cursor) : Option (Text × Cursor) :=
  b.take? (Ahead.token b.rules)

/-- The white space at the cursor. -/
def peekWhitespace? (b : Cursor) : Option Text :=
  b.look? (Ahead.whitespace b.rules)

/-- The white space at the cursor and the cursor after it. -/
def skipWhitespace? (b : Cursor) : Option (Text × Cursor) :=
  b.take? (Ahead.whitespace b.rules)

/-- The number of bytes of the white space at the cursor, and the cursor after it. -/
def skipWhitespaceLength? (b : Cursor) : Option (Nat × Cursor) :=
  b.pass? (Ahead.whitespace b.rules)

/-! ### Operations -/

/-- What may be asked of a cursor. -/
inductive Operation where
  | line
  | position
  | atEnd
  | rest
  | peek
  | next
  | advance (n : Nat)
  | advanceToEnd
  | goBack (n : Nat)
  | ifChar (wanted : Char)
  | ifCharLength (wanted : Char)
  | ifString (needle : Text)
  | ifStringLength (needle : Text)
  | ifStringIgnoringCase (needle : Text)
  | ifStringIgnoringCaseLength (needle : Text)
  | ifMatch (regex : Regex)
  | ifMatchLength (regex : Regex)
  | whileMet (condition : Condition)
  | untilMet (condition : Condition) (including : Bool)
  | untilString (needle : Text) (including : Bool)
  | untilStringLength (needle : Text) (including : Bool)
  | setRules (separators whitespace : List Char)
  | peekToken
  | nextToken
  | peekWhitespace
  | skipWhitespace
  | skipWhitespaceLength

/-- What an operation comes back with. -/
inductive Reply where
  | text (text : Text)
  | length (length : Nat)
  | answer (yes : Bool)
  | char (next : Option Char)
  | done
  | failed (error : CursorError)
  deriving DecidableEq

/-- The reply to an operation, and the cursor after it. -/
def perform? (b : Cursor) : Operation → Option (Reply × Cursor)
  | .line => some (.text b.line, b)
  | .position => some (.length b.position, b)
  | .atEnd => some (.answer b.atEnd, b)
  | .rest => b.rest?.map fun rest => (.text rest, b)
  | .peek => b.peek?.map fun next => (.char next, b)
  | .next => b.next?.map (Prod.map .char id)
  | .advance n => (b.advance? n).map (Prod.map .text id)
  | .advanceToEnd => b.advanceToEnd?.map (Prod.map .text id)
  | .goBack n => (b.goBack? n).map fun
    | .ok back => (.done, back)
    | .error error => (.failed error, b)
  | .ifChar wanted => (b.advanceIfChar? wanted).map (Prod.map .text id)
  | .ifCharLength wanted => (b.advanceIfCharLength? wanted).map (Prod.map .length id)
  | .ifString needle => (b.advanceIfString? needle).map (Prod.map .text id)
  | .ifStringLength needle => (b.advanceIfStringLength? needle).map (Prod.map .length id)
  | .ifStringIgnoringCase needle =>
    (b.advanceIfStringIgnoringCase? needle).map (Prod.map .text id)
  | .ifStringIgnoringCaseLength needle =>
    (b.advanceIfStringIgnoringCaseLength? needle).map (Prod.map .length id)
  | .ifMatch regex => (b.advanceIfMatch? regex).map (Prod.map .text id)
  | .ifMatchLength regex => (b.advanceIfMatchLength? regex).map (Prod.map .length id)
  | .whileMet condition => (b.advanceWhile? condition).map (Prod.map .text id)
  | .untilMet condition including =>
    (b.advanceUntil? condition including).map (Prod.map .text id)
  | .untilString needle including =>
    (b.advanceUntilString? needle including).map (Prod.map .text id)
  | .untilStringLength needle including =>
    (b.advanceUntilStringLength? needle including).map (Prod.map .length id)
  | .setRules separators whitespace => some (.done, b.withRules separators whitespace)
  | .peekToken => b.peekToken?.map fun token => (.text token, b)
  | .nextToken => b.nextToken?.map (Prod.map .text id)
  | .peekWhitespace => b.peekWhitespace?.map fun blanks => (.text blanks, b)
  | .skipWhitespace => b.skipWhitespace?.map (Prod.map .text id)
  | .skipWhitespaceLength => b.skipWhitespaceLength?.map (Prod.map .length id)

/-- The replies to operations one after another, and the cursor after them. -/
def run? (b : Cursor) : List Operation → Option (List Reply × Cursor)
  | [] => some ([], b)
  | operation :: operations => do
    let (reply, next) ← b.perform? operation
    let (replies, last) ← run? next operations
    return (reply :: replies, last)

end Cursor

end EditorModes
