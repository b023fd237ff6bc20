import EditorModes.Grammar.Basic
import EditorModes.Text.Basic

/-!
# Editing support

What an editor needs to know to help with typing: which brackets a language has, how its comments
are marked, which pairs are closed as soon as they are opened, and which characters re-indent
their line.
-/

namespace EditorModes

/-- Static data about the brackets, pairs and comments of a language. -/
structure RichEdit where
  brackets : List (String × String)
  lineComment : Option String
  blockComment : Option (String × String)
  autoClosingPairs : List (String × String)
  surroundingPairs : List (String × String)
  electricCharacters : List Char
  deriving DecidableEq, Repr

/-- The list without members that equal the one before them. -/
def dropRepeats [DecidableEq α] : List α → List α
  | [] => []
  | [a] => [a]
  | a :: b :: rest => if a = b then dropRepeats (b :: rest) else a :: dropRepeats (b :: rest)

/-- The only character of a string. -/
def singleChar? (s : String) : Option Char :=
  match s.toList with
  | [c] => some c
  | _ => none

/-- The number of occurrences of `needle` that do not overlap, counted from the left. -/
def Text.countMatches (needle : Text) (t : Text) : Nat :=
  if needle = [] then t.length + 1 else go 0 t
where
  /-- Counts the occurrences after the next `skip` characters. -/
  go : Nat → Text → Nat
    | _, [] => 0
    | skip + 1, _ :: t => go skip t
    | 0, c :: t =>
      if Text.startsWith (c :: t) needle then 1 + go (needle.length - 1) t else go 0 t

/--
The editing support that a grammar declares.  Pairs are closed automatically as declared, or else
as the brackets are, and selections are surrounded by the same pairs.
-/
def RichEdit.ofGrammar (g : Grammar) : RichEdit :=
  let brackets := g.brackets.map fun b => (b.opening, b.closing)
  let pairs := if g.autoClosingPairs.isEmpty then brackets else g.autoClosingPairs
  { brackets
    lineComment := g.lineComment
    blockComment := g.blockComment
    autoClosingPairs := pairs
    surroundingPairs := pairs
    electricCharacters := dropRepeats (brackets.filterMap fun (_, closing) => singleChar? closing) }

namespace RichEdit

/-- What to insert after the cursor when `typed` was typed. -/
def autoClose? (e : RichEdit) (typed : String) : Option String :=
  e.autoClosingPairs.lookup typed

/-- Whether typing a character re-indents its line. -/
def isElectric (e : RichEdit) (c : Char) : Bool :=
  e.electricCharacters.contains c

/--
How many more opening than closing brackets a text has; brackets that open and close alike do not
count.
-/
def bracketBalance (e : RichEdit) (t : Text) : Int :=
  ((e.brackets.filter fun (opening, closing) => opening ≠ closing).map
    fun (opening, closing) =>
      (Text.countMatches opening.toList t : Int)
        - Text.countMatches closing.toList t).foldl (· + ·) 0

end RichEdit

end EditorModes
