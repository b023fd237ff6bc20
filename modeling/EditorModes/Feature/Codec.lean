import EditorModes.Protocol.Codec

/-!
# Answers as JSON

The JSON form of the answers that are no values of the protocol, in both directions.
-/

namespace EditorModes

open Json (listOf?)

mutual

/-- The JSON form. -/
def OutlineEntry.toJson : OutlineEntry → Json
  | .mk name kind range selection children =>
    .object
      [("name", .text name), ("kind", .ofNat kind), ("range", range.toJson),
        ("selectionRange", selection.toJson), ("children", .list (toJsons children))]

/-- The JSON forms of a list of entries. -/
def OutlineEntry.toJsons : List OutlineEntry → List Json
  | [] => []
  | entry :: rest => entry.toJson :: toJsons rest

end

/-- The value of a JSON form whose entries are nested at most `depth` deep. -/
def OutlineEntry.ofJsonWithin? : (depth : Nat) → Json → Option OutlineEntry
  | 0, _ => none
  | depth + 1, j => do
    return .mk (← j.fieldOf? Json.text? "name") (← j.fieldOf? Json.nat? "kind")
      (← j.fieldOf? Range.ofJson? "range") (← j.fieldOf? Range.ofJson? "selectionRange")
      (← j.fieldOf? (listOf? (ofJsonWithin? depth)) "children")

/-- The value of a JSON form. -/
def OutlineEntry.ofJson? (j : Json) : Option OutlineEntry :=
  ofJsonWithin? j.depth j

namespace Suggestions

/-- The JSON form. -/
def toJson (s : Suggestions) : Json :=
  .object [("items", .ofList CompletionItem.toJson s.items), ("incomplete", .bool s.incomplete)]

/-- The value of a JSON form. -/
def ofJson? (j : Json) : Option Suggestions := do
  return ⟨← j.fieldOf? (listOf? CompletionItem.ofJson?) "items",
    ← j.fieldOf? Json.bool? "incomplete"⟩

end Suggestions

namespace ResourceEdit

/-- The JSON form. -/
def toJson (e : ResourceEdit) : Json :=
  .object [("uri", .text e.uri), ("range", e.range.toJson), ("newText", .text e.newText)]

/-- The value of a JSON form. -/
def ofJson? (j : Json) : Option ResourceEdit := do
  return ⟨← j.fieldOf? Json.text? "uri", ← j.fieldOf? Range.ofJson? "range",
    ← j.fieldOf? Json.text? "newText"⟩

end ResourceEdit

namespace QuickFix

/-- The JSON form. -/
def toJson (f : QuickFix) : Json :=
  .object
    [("title", .text f.title), ("edits", .ofList ResourceEdit.toJson f.edits),
      ("command", .ofOption Command.toJson f.command)]

/-- The value of a JSON form. -/
def ofJson? (j : Json) : Option QuickFix := do
  return ⟨← j.fieldOf? Json.text? "title", ← j.fieldOf? (listOf? ResourceEdit.ofJson?) "edits",
    ← j.optionalField? Command.ofJson? "command"⟩

end QuickFix

namespace Rename

/-- The JSON form. -/
def toJson (r : Rename) : Json :=
  .object
    [("edits", .ofList ResourceEdit.toJson r.edits), ("rejected", .ofOption .text r.rejected)]

/-- The value of a JSON form. -/
def ofJson? (j : Json) : Option Rename := do
  return ⟨← j.fieldOf? (listOf? ResourceEdit.ofJson?) "edits",
    ← j.optionalField? Json.text? "rejected"⟩

end Rename

namespace ColorDeclaration

/-- The JSON form. -/
def toJson (c : ColorDeclaration) : Json :=
  .object [("range", c.range.toJson), ("value", .text c.value)]

/-- The value of a JSON form. -/
def ofJson? (j : Json) : Option ColorDeclaration := do
  return ⟨← j.fieldOf? Range.ofJson? "range", ← j.fieldOf? Json.text? "value"⟩

end ColorDeclaration

namespace Replacement

/-- The JSON form. -/
def toJson (r : Replacement) : Json :=
  .object [("range", r.range.toJson), ("value", .text r.value)]

/-- The value of a JSON form. -/
def ofJson? (j : Json) : Option Replacement := do
  return ⟨← j.fieldOf? Range.ofJson? "range", ← j.fieldOf? Json.text? "value"⟩

end Replacement

namespace Output

/-- The JSON form: the list of the files. -/
def toJson (o : Output) : Json :=
  .ofList (fun f => .object
    [("name", .text f.name), ("mimeType", .text f.mimeType), ("content", .text f.content)]) o.files

/-- The output that lists its files in a field. -/
def ofJson? (j : Json) : Option Output := do
  let file (j : Json) : Option OutputFile := do
    return ⟨← j.fieldOf? Json.text? "name", ← j.fieldOf? Json.text? "mimeType",
      ← j.fieldOf? Json.text? "content"⟩
  return ⟨← j.fieldOf? (listOf? file) "files"⟩

end Output

/-- The kind of task of a name. -/
def TaskKind.ofName? (name : String) : Option TaskKind :=
  [build, rebuild, clean].find? (·.name = name)

namespace TaskSummary

/-- The JSON form. -/
def toJson (s : TaskSummary) : Json :=
  .object
    [("task", .text s.task.name), ("errors", .ofNat s.errors), ("warnings", .ofNat s.warnings),
      ("messages", .ofList .text s.messages)]

/-- The value of a JSON form; a summary that names no task is one of the task asked for. -/
def ofJson? (asked : TaskKind) (j : Json) : Option TaskSummary := do
  let task ← match j.present? "task" with
    | none => some asked
    | some name => TaskKind.ofName? (← name.text?)
  return ⟨task, ← j.fieldOf? Json.nat? "errors", ← j.fieldOf? Json.nat? "warnings",
    ← j.fieldOf? (listOf? Json.text?) "messages"⟩

end TaskSummary

/-- The error of a JSON form, which gives its kind and its parts. -/
def ProviderError.ofJson? (j : Json) : Option ProviderError := do
  let message := ((j.field? "message").bind Json.text?).getD ""
  let language := ((j.field? "language").bind Json.text?).getD ""
  match ← j.fieldOf? Json.text? "kind" with
  | "failed" => return .failed message
  | "create" => return .worker (.create language (← j.fieldOf? Json.nat? "slot") message)
  | "no_validator" => return .worker (.noValidator language)
  | "invalid_options" => return .invalidOptions message
  | "panicked" => return .panicked message
  | _ => none

/-- The JSON form of a failure: its capability, the place of its provider and its text. -/
def Failure.toJson (f : Failure) : Json :=
  .list [.text f.capability.name, .ofNat f.index, .text f.error.message]

end EditorModes
