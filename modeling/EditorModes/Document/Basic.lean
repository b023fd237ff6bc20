import EditorModes.Text.Position

/-!
# Documents

A document is a text with a name, a language and a version.  Providers look at the word under
the cursor: the run of word characters around it.
-/

namespace EditorModes

/-- An open document. -/
structure Document where
  uri : String
  language : String
  version : Int
  text : Text
  deriving DecidableEq, Repr

/-- A word and where it stands. -/
structure WordAt where
  span : Span
  word : Text
  deriving DecidableEq, Repr

namespace Document

/-- The scheme of the document's name: what stands before its first colon. -/
def scheme (d : Document) : String :=
  String.ofList (d.uri.toList.takeWhile (· ≠ ':'))

/-- The same document with another text. -/
def withText (d : Document) (version : Int) (text : Text) : Document :=
  { d with version := version, text := text }

/-- Whether a character belongs to a word: letters, numbers, `_`, `-` and `@` do. -/
def isWordChar (c : Char) : Bool :=
  Property.isAlphanumeric c || c = '_' || c = '-' || c = '@'

/-- The run of word characters around a byte offset; `none` when no word touches it. -/
def wordAtOffset? (d : Document) (offset : Nat) : Option WordAt := do
  let (before, after) ← d.text.splitAt? offset
  let left := Text.suffixWhile isWordChar before
  let right : Text := after.takeWhile isWordChar
  if left = [] ∧ right = [] then none
  else some ⟨⟨offset - left.byteSize, offset + right.byteSize⟩, left ++ right⟩

/-- The word that touches a position. -/
def wordAt? (d : Document) (p : Position) : Option WordAt := do
  d.wordAtOffset? (← d.text.offsetAt? p)

end Document

end EditorModes
