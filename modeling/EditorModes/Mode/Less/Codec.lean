import EditorModes.Mode.Less.Worker

/-!
# Analyses as JSON

The JSON form of what is found in a stylesheet, where spans are pairs of byte offsets.
-/

namespace EditorModes

/-- The JSON form of a text. -/
def Json.ofText (t : Text) : Json :=
  .text (String.ofList t)

/-- The JSON form. -/
def Span.toJson (s : Span) : Json :=
  .list [.ofNat s.start, .ofNat s.stop]

/-- The JSON form of a span with further values behind it. -/
def Span.listJson (s : Span) (more : List Json) : Json :=
  .list (.ofNat s.start :: .ofNat s.stop :: more)

namespace Less

/-- The name of what a node of the outline stands for. -/
def OutlineKind.name : OutlineKind → String
  | rule => "rule"
  | «variable» => "variable"

mutual

/-- The JSON form. -/
def OutlineNode.toJson : OutlineNode → Json
  | .mk name kind span selection children =>
    .object
      [("name", .ofText name), ("kind", .text kind.name), ("span", span.toJson),
        ("selection", selection.toJson), ("children", .list (toJsons children))]

/-- The JSON forms of a list of nodes. -/
def OutlineNode.toJsons : List OutlineNode → List Json
  | [] => []
  | node :: rest => node.toJson :: toJsons rest

end

/-- The JSON form. -/
def Occurrence.toJson (o : Occurrence) : Json :=
  .list [.ofText o.name, .ofNat o.span.start, .ofNat o.span.stop, .bool o.isDeclaration]

/-- The name of a kind of suggestions. -/
def SuggestionKind.name : SuggestionKind → String
  | «variable» => "variable"
  | keyword => "keyword"
  | property => "property"
  | value => "value"

/-- The JSON form. -/
def Suggestion.toJson (s : Suggestion) : Json :=
  .list [.ofText s.label, .text s.kind.name, .ofOption .ofText s.detail]

/-- The JSON form. -/
def Problem.toJson (p : Problem) : Json :=
  p.span.listJson [.text p.message, .text p.severity.name]

/-- The JSON form. -/
def ColorUse.toJson (c : ColorUse) : Json :=
  c.span.listJson [.ofText c.value]

/-- The JSON form. -/
def IndentEdit.toJson (e : IndentEdit) : Json :=
  .list [.ofNat e.line, .ofNat e.current, .ofText e.indent]

end Less

end EditorModes
