import EditorModes.Document.LineCache

/-!
# Semantic tokens

Line tokens are sent to the client as semantic tokens.  The dotted type of a line token decides
the kind of its semantic token; types without a kind are not sent.  Each semantic token is placed
relative to the one before it.
-/

namespace EditorModes

/-- The kinds of semantic tokens, in the order of the legend. -/
inductive SemanticKind where
  | keyword
  | number
  | string
  | operator
  | variableName
  | comment
  | property
  | className
  | enumMember
  | punctuation
  deriving DecidableEq, Repr

namespace SemanticKind

/-- The kinds in the order of the legend. -/
def legend : List SemanticKind :=
  [keyword, number, string, operator, variableName, comment, property, className, enumMember,
    punctuation]

/-- The name of a kind in the legend. -/
def name : SemanticKind → String
  | keyword => "keyword"
  | number => "number"
  | string => "string"
  | operator => "operator"
  | variableName => "variable"
  | comment => "comment"
  | property => "property"
  | className => "class"
  | enumMember => "enumMember"
  | punctuation => "punctuation"

/-- The place of a kind in the legend. -/
def index (k : SemanticKind) : Nat :=
  legend.idxOf k

/-- The kind of a dotted token type such as `attribute.name.less`. -/
def ofTokenType? (type : String) : Option SemanticKind :=
  match (Text.splitOnChar '.' type.toList).map String.ofList with
  | [] => none
  | first :: rest =>
    match first with
    | "keyword" => some keyword
    | "number" => some number
    | "string" => some string
    | "operator" => some operator
    | "variable" | "identifier" => some variableName
    | "comment" => some comment
    | "attribute" => if rest.head? = some "value" then some enumMember else some property
    | "tag" | "type" => some className
    | "delimiter" => some punctuation
    | _ => none

end SemanticKind

/-- A token of a kind between two byte offsets of a document. -/
structure KindSpan where
  kind : SemanticKind
  span : Span
  deriving DecidableEq, Repr

/-- A semantic token, placed relative to the one before it. -/
structure SemanticToken where
  deltaLine : Nat
  deltaStart : Nat
  length : Nat
  kind : SemanticKind
  deriving DecidableEq, Repr

namespace SemanticToken

/-- The tokens of a line that have a kind and are not empty, up to the offset `lineEnd` in it. -/
def spansOfTokens (lineStart lineEnd : Nat) : List Token → List KindSpan
  | [] => []
  | token :: rest =>
    let stop := min ((rest.head?.map (·.start)).getD lineEnd) lineEnd
    let spans := spansOfTokens lineStart lineEnd rest
    match SemanticKind.ofTokenType? token.type with
    | some kind =>
      if token.start < stop then
        ⟨kind, ⟨lineStart + token.start, lineStart + stop⟩⟩ :: spans
      else
        spans
    | none => spans

/-- The tokens of all cached lines that have a kind, as long as the text has such lines. -/
def spansOfLines (lines : List Line) (cache : LineCache) : List KindSpan :=
  (lines.zip cache.lines).flatMap fun (line, cached) =>
    spansOfTokens line.start (min cached.tokens.stop line.content.byteSize) cached.tokens.tokens

/-- The distance from `before` to `after`, when `after` does not come first. -/
def difference? (before after : Nat) : Option Nat :=
  if before ≤ after then some (after - before) else none

/--
The spans of a text, each placed relative to the one before it, where the first follows
`previous`; `none` when a span does not start and end between characters or stands before its
predecessor.
-/
def encode? (text : Text) (previous : Position) : List KindSpan → Option (List SemanticToken)
  | [] => some []
  | ⟨kind, span⟩ :: spans => do
    let start ← text.positionAt? span.start
    let stop ← text.positionAt? span.stop
    let deltaLine ← difference? previous.line start.line
    let deltaStart ←
      if deltaLine = 0 then difference? previous.column start.column else some start.column
    let rest ← encode? text start spans
    return ⟨deltaLine, deltaStart, stop.column - start.column, kind⟩ :: rest

/-- The semantic tokens of a text whose lines have been tokenized. -/
def ofLines? (text : Text) (cache : LineCache) : Option (List SemanticToken) :=
  encode? text ⟨0, 0⟩ (spansOfLines text.lines cache)

/-- The five numbers that stand for a token. -/
def numbers (t : SemanticToken) : List Nat :=
  [t.deltaLine, t.deltaStart, t.length, t.kind.index, 0]

end SemanticToken

end EditorModes
