import EditorModes.Text.Position

/-!
# Plain text

The words of a plain text, which are suggested for words that start like them.
-/

namespace EditorModes.PlainText

/-- The name of the language. -/
def language : String := "plaintext"

/-- The number of characters from which on words are suggested. -/
def shortestWord : Nat := 3

/-- Whether a character belongs to a word: letters, numbers and `_` do. -/
def isWordChar (c : Char) : Bool :=
  Property.isAlphanumeric c || c = '_'

/-- A word and the byte offset at which it starts. -/
structure Word where
  start : Nat
  text : Text
  deriving DecidableEq, Repr

/-- The word that ends at a byte offset, given its characters from the last to the first. -/
def endingWord (offset : Nat) (reversed : Text) : List Word :=
  if reversed = [] then [] else [⟨offset - reversed.byteSize, reversed.reverse⟩]

/--
The words of a text that starts at a byte offset, after the characters of a word that may go on in
it, from the last to the first.
-/
def wordsFrom (offset : Nat) (reversed : Text) : Text → List Word
  | [] => endingWord offset reversed
  | c :: t =>
    if isWordChar c then wordsFrom (offset + c.utf8Size) (c :: reversed) t
    else endingWord offset reversed ++ wordsFrom (offset + c.utf8Size) [] t

/-- The words of a text. -/
def words (t : Text) : List Word :=
  wordsFrom 0 [] t

/--
The words that start with what is typed before a byte offset and go on, in their order and without
the word typed there itself; `none` when the offset is inside a character.
-/
def suggestionsAt? (t : Text) (offset : Nat) : Option (List String) := do
  let (before, _) ← t.splitAt? offset
  let typed := Text.suffixWhile isWordChar before
  let start := offset - typed.byteSize
  let suggested := (words t).filter fun word =>
    word.start ≠ start && shortestWord ≤ word.text.length && word.text.startsWith typed
      && word.text ≠ typed
  return (suggested.map fun word => String.ofList word.text).eraseDups.mergeSort
    fun a b => !(b < a)

end EditorModes.PlainText
