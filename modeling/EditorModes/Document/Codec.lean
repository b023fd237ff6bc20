import EditorModes.Document.Basic
import EditorModes.Document.LineCache
import EditorModes.Lexer.Codec

/-!
# Documents as JSON

The JSON form of documents and of the cached tokens of their lines.
-/

namespace EditorModes

/-- The JSON form. -/
def Document.toJson (d : Document) : Json :=
  .object
    [("uri", .text d.uri), ("language", .text d.language), ("version", .ofInt d.version),
      ("text", .text (String.ofList d.text))]

/-- The fields of the JSON form. -/
def LineCache.fields (c : LineCache) : List (String × Json) :=
  [("len", .ofNat c.size), ("empty", .bool (c.size = 0)), ("language", .text c.language),
    ("lines", .ofList (·.tokens.toJson) c.lines)]

/-- The JSON form. -/
def LineCache.toJson (c : LineCache) : Json :=
  .object c.fields

/-- The JSON form. -/
def LineRange.toJson (r : LineRange) : Json :=
  .list [.ofNat r.first, .ofNat r.stop]

end EditorModes
