import EditorModes.Text.Property
import EditorModes.Text.Property.CaseFold

/-!
# Alphabets

The classes of characters that patterns name are meant over all scripts or within ASCII, and so
is the case that a pattern may ignore.
-/

namespace EditorModes.Regex

/-- A class of characters is meant over all scripts or within ASCII. -/
inductive Alphabet where
  | unicode
  | ascii
  deriving DecidableEq, Repr

namespace Alphabet

/-- The decimal digits. -/
def digits : Alphabet → CharSet
  | unicode => Property.digitSet
  | ascii => .range '0' '9'

/-- White space. -/
def spaces : Alphabet → CharSet
  | unicode => Property.whiteSpace
  | ascii => .unions [.range '\t' '\r', .single ' ']

/-- The characters that words are made of. -/
def words : Alphabet → CharSet
  | unicode => Property.wordSet
  | ascii => .unions [.range '0' '9', .range 'A' 'Z', .single '_', .range 'a' 'z']

/-- Whether a character is part of a word. -/
def isWord : Alphabet → Char → Bool
  | unicode, c => Property.isWord c
  | ascii, c => Property.isAsciiAlphanumeric c || c == '_'

/-- The characters of a set and those that differ from one of them only in case. -/
def ignoringCase : Alphabet → CharSet → CharSet
  | unicode, s => Property.withVariants Property.foldPairs s
  | ascii, s => Property.withVariants Property.asciiFoldPairs s

end Alphabet

/-- The named classes of ASCII characters, as written between `[:` and `:]`. -/
def asciiClass? (name : String) : Option CharSet :=
  match name with
  | "alnum" => some (.unions [.range '0' '9', .range 'A' 'Z', .range 'a' 'z'])
  | "alpha" => some (.unions [.range 'A' 'Z', .range 'a' 'z'])
  | "ascii" => some (.range '\x00' '\x7f')
  | "blank" => some (.unions [.single '\t', .single ' '])
  | "cntrl" => some (.unions [.range '\x00' '\x1f', .single '\x7f'])
  | "digit" => some (Alphabet.digits .ascii)
  | "graph" => some (.range '!' '~')
  | "lower" => some (.range 'a' 'z')
  | "print" => some (.range ' ' '~')
  | "punct" =>
    some (.unions [.range '!' '/', .range ':' '@', .range '[' '\x60', .range '\x7b' '~'])
  | "space" => some (Alphabet.spaces .ascii)
  | "upper" => some (.range 'A' 'Z')
  | "word" => some (Alphabet.words .ascii)
  | "xdigit" => some (.unions [.range '0' '9', .range 'A' 'F', .range 'a' 'f'])
  | _ => none

end EditorModes.Regex
