import EditorModes.Feature.Aggregate
import EditorModes.Json.Decode
import EditorModes.Protocol.SemanticTokens
import EditorModes.Protocol.Value

/-!
# Protocol values as JSON

The JSON form of the values of the protocol, in both directions.  Fields that are absent are left
out.
-/

namespace EditorModes

open Json (listOf? optional? recordOf? required?)

/-- The value of a field of an object that must be there. -/
def Json.fieldOf? (read : Json → Option α) (j : Json) (key : String) : Option α :=
  required? read (j.field? key)

/-- The value of a field of an object that may be missing or `null`. -/
def Json.optionalField? (read : Json → Option α) (j : Json) (key : String) : Option (Option α) :=
  optional? read (j.field? key)

namespace Position

/-- The JSON form. -/
def toJson (p : Position) : Json :=
  .object [("line", .ofNat p.line), ("character", .ofNat p.column)]

/-- The value of a JSON form. -/
def ofJson? (j : Json) : Option Position := do
  let field ← recordOf? .json ["line", "character"] j
  return ⟨← required? Json.nat32? (field "line"), ← required? Json.nat32? (field "character")⟩

end Position

namespace Range

/-- The JSON form. -/
def toJson (r : Range) : Json :=
  .object [("start", r.start.toJson), ("end", r.stop.toJson)]

/-- The value of a JSON form. -/
def ofJson? (j : Json) : Option Range := do
  let field ← recordOf? .json ["start", "end"] j
  return ⟨← required? Position.ofJson? (field "start"), ← required? Position.ofJson? (field "end")⟩

end Range

namespace MarkedString

/-- The JSON form. -/
def toJson : MarkedString → Json
  | plain text => .text text
  | code language value => .object [("language", .text language), ("value", .text value)]

/-- The value of a JSON form. -/
def ofJson? : Json → Option MarkedString
  | .text text => some (.plain text)
  | j => do
    let field ← recordOf? .json ["language", "value"] j
    let language ← required? Json.text? (field "language")
    return .code language (← required? Json.text? (field "value"))

end MarkedString

namespace HoverContents

/-- The JSON form. -/
def toJson : HoverContents → Json
  | scalar text => text.toJson
  | array texts => .ofList MarkedString.toJson texts
  | markup kind value => .object [("kind", .text kind), ("value", .text value)]

/-- The value of a JSON form; a list of two strings is a text with its language. -/
def ofJson? (j : Json) : Option HoverContents :=
  match MarkedString.ofJson? j, j with
  | some text, _ => some (.scalar text)
  | none, .list items => (items.mapM MarkedString.ofJson?).map .array
  | none, j => do
    return .markup (← j.fieldOf? Json.text? "kind") (← j.fieldOf? Json.text? "value")

end HoverContents

namespace Hover

/-- The JSON form. -/
def toJson (h : Hover) : Json :=
  .record [("contents", h.contents.toJson)] [("range", h.range.map Range.toJson)]

/-- The value of a JSON form. -/
def ofJson? (j : Json) : Option Hover := do
  return ⟨← j.fieldOf? HoverContents.ofJson? "contents", ← j.optionalField? Range.ofJson? "range"⟩

end Hover

namespace Location

/-- The JSON form. -/
def toJson (l : Location) : Json :=
  .object [("uri", .text l.uri), ("range", l.range.toJson)]

/-- The value of a JSON form. -/
def ofJson? (j : Json) : Option Location := do
  return ⟨← j.fieldOf? Json.text? "uri", ← j.fieldOf? Range.ofJson? "range"⟩

end Location

namespace Highlight

/-- The JSON form. -/
def toJson (h : Highlight) : Json :=
  .record [("range", h.range.toJson)] [("kind", h.kind.map .ofNat)]

/-- The value of a JSON form. -/
def ofJson? (j : Json) : Option Highlight := do
  return ⟨← j.fieldOf? Range.ofJson? "range", ← j.optionalField? Json.nat? "kind"⟩

end Highlight

namespace TextEdit

/-- The JSON form. -/
def toJson (e : TextEdit) : Json :=
  .object [("range", e.range.toJson), ("newText", .text e.newText)]

/-- The value of a JSON form. -/
def ofJson? (j : Json) : Option TextEdit := do
  return ⟨← j.fieldOf? Range.ofJson? "range", ← j.fieldOf? Json.text? "newText"⟩

end TextEdit

namespace CompletionItem

/-- The JSON form. -/
def toJson (i : CompletionItem) : Json :=
  .record [("label", .text i.label)]
    [("kind", i.kind.map .ofNat), ("detail", i.detail.map .text)]

/-- The value of a JSON form. -/
def ofJson? (j : Json) : Option CompletionItem := do
  return ⟨← j.fieldOf? Json.text? "label", ← j.optionalField? Json.nat? "kind",
    ← j.optionalField? Json.text? "detail"⟩

end CompletionItem

/-- The JSON form. -/
def CompletionResponse.toJson : CompletionResponse → Json
  | .items list => .ofList CompletionItem.toJson list
  | .incomplete list =>
    .object [("isIncomplete", .bool true), ("items", .ofList CompletionItem.toJson list)]

namespace Diagnostic

/-- The JSON form. -/
def toJson (d : Diagnostic) : Json :=
  .record [("range", d.range.toJson), ("message", .text d.message)]
    [("severity", d.severity.map .ofNat), ("source", d.source.map .text)]

/-- The value of a JSON form. -/
def ofJson? (j : Json) : Option Diagnostic := do
  return ⟨← j.fieldOf? Range.ofJson? "range", ← j.fieldOf? Json.text? "message",
    ← j.optionalField? Json.nat? "severity", ← j.optionalField? Json.text? "source"⟩

end Diagnostic

namespace Command

/-- The JSON form. -/
def toJson (c : Command) : Json :=
  .record [("title", .text c.title), ("command", .text c.command)]
    [("arguments", c.arguments.map .list)]

/-- The value of a JSON form. -/
def ofJson? (j : Json) : Option Command := do
  return ⟨← j.fieldOf? Json.text? "title", ← j.fieldOf? Json.text? "command",
    ← j.optionalField? Json.list? "arguments"⟩

end Command

namespace CodeLens

/-- The JSON form. -/
def toJson (l : CodeLens) : Json :=
  .record [("range", l.range.toJson)]
    [("command", l.command.map Command.toJson), ("data", l.data)]

/-- The value of a JSON form. -/
def ofJson? (j : Json) : Option CodeLens := do
  return ⟨← j.fieldOf? Range.ofJson? "range", ← j.optionalField? Command.ofJson? "command",
    ← j.optionalField? some "data"⟩

end CodeLens

namespace DocumentLink

/-- The JSON form. -/
def toJson (l : DocumentLink) : Json :=
  .record [("range", l.range.toJson)]
    [("target", l.target.map .text), ("tooltip", l.tooltip.map .text)]

/-- The value of a JSON form. -/
def ofJson? (j : Json) : Option DocumentLink := do
  return ⟨← j.fieldOf? Range.ofJson? "range", ← j.optionalField? Json.text? "target",
    ← j.optionalField? Json.text? "tooltip"⟩

end DocumentLink

namespace SignatureHelp

/-- The JSON form. -/
def toJson (h : SignatureHelp) : Json :=
  .record [("signatures", Json.ofList (fun label => .object [("label", .text label)]) h.signatures)]
    [("activeSignature", h.activeSignature.map .ofNat)]

/-- The value of a JSON form. -/
def ofJson? (j : Json) : Option SignatureHelp := do
  let label (j : Json) : Option String := j.fieldOf? Json.text? "label"
  return ⟨← j.fieldOf? (listOf? label) "signatures", ← j.optionalField? Json.nat? "activeSignature"⟩

end SignatureHelp

/-- The JSON form of the legend, which names no modifiers. -/
def SemanticKind.legendJson : Json :=
  .object [("tokenTypes", .ofList (fun k => .text (name k)) legend), ("tokenModifiers", .list [])]

mutual

/-- The JSON form as a document symbol, where no children are left out. -/
def OutlineEntry.toSymbol : OutlineEntry → Json
  | .mk name kind range selection children =>
    .record
      [("name", .text name), ("kind", .ofNat kind), ("range", range.toJson),
        ("selectionRange", selection.toJson)]
      [("children", if children.isEmpty then none else some (.list (toSymbols children)))]

/-- The JSON forms of a list of entries. -/
def OutlineEntry.toSymbols : List OutlineEntry → List Json
  | [] => []
  | entry :: rest => entry.toSymbol :: toSymbols rest

end

end EditorModes
