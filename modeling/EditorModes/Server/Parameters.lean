import EditorModes.Document.Basic
import EditorModes.Protocol.Capability
import EditorModes.Protocol.Codec
import EditorModes.Server.Message
import EditorModes.Settings.FileUri

/-!
# Parameters

Readers of what is used of the parameters that messages come with.
-/

namespace EditorModes.Parameters

open Json (listOf? optional? recordOf? required?)

/-- A URI, however it is spelled. -/
def anyUri? (j : Json) : Option Uri :=
  j.text?.bind Uri.ofString?

/-- The normal form of a URI, which is what documents go by. -/
def uri? (j : Json) : Option String :=
  (anyUri? j).map (·.normal)

/-- The URI of a record that names a document. -/
def documentUri? (j : Json) : Option String := do
  let field ← recordOf? .json ["uri"] j
  required? uri? (field "uri")

/-- The document that some parameters are about. -/
def document? (j : Json) : Option String :=
  j.fieldOf? documentUri? "textDocument"

/-- The document and the position that some parameters are about. -/
def place? (j : Json) : Option (String × Position) := do
  return (← document? j, ← j.fieldOf? Position.ofJson? "position")

/-- A document that is opened. -/
def openedDocument? (j : Json) : Option Document := do
  let parameters ← recordOf? .json ["textDocument"] j
  let field ← recordOf? .json ["uri", "languageId", "version", "text"]
    (← parameters "textDocument")
  return {
    uri := ← required? uri? (field "uri")
    language := ← required? Json.text? (field "languageId")
    version := ← required? Json.int32? (field "version")
    text := (← required? Json.text? (field "text")).toList }

/-- The text of a change. -/
def changedText? (j : Json) : Option Text := do
  let field ← recordOf? .json ["range", "rangeLength", "text"] j
  let _ ← optional? Range.ofJson? (field "range")
  let _ ← optional? Json.nat32? (field "rangeLength")
  return (← required? Json.text? (field "text")).toList

/-- A document, its new version and the texts of its changes. -/
def changes? (j : Json) : Option (String × Int × List Text) := do
  let parameters ← recordOf? .json ["textDocument", "contentChanges"] j
  let field ← recordOf? .json ["uri", "version"] (← parameters "textDocument")
  return (← required? uri? (field "uri"), ← required? Json.int32? (field "version"),
    ← required? (listOf? changedText?) (parameters "contentChanges"))

/-- The width of a tab, and whether spaces stand for tabs. -/
def formatting? (j : Json) : Option (Nat × Bool) := do
  let fields ← j.object?
  let named := ["trimTrailingWhitespace", "insertFinalNewline", "trimFinalNewlines"]
  let _ ← named.mapM fun name => optional? Json.bool? (fields.lookup name)
  let further := fields.filter fun (name, _) =>
    !(["tabSize", "insertSpaces"] ++ named).contains name
  let isOption : Json → Bool
    | .bool _ => true
    | .text _ => true
    | value => value.int32?.isSome
  if !further.all fun (_, value) => isOption value then none
  return (← required? Json.nat32? (fields.lookup "tabSize"),
    ← required? Json.bool? (fields.lookup "insertSpaces"))

/-- Whether a reference to a declaration counts. -/
def referenceContext? (j : Json) : Option Bool := do
  let field ← recordOf? .json ["includeDeclaration"] j
  required? Json.bool? (field "includeDeclaration")

/-- The request that a notification cancels. -/
def cancelledRequest? (j : Json) : Option RequestId := do
  let field ← recordOf? .json ["id"] j
  let id ← field "id"
  if Json.Shape.key id then RequestId.ofJson? id else none

/-- The fields of what a client says when it initializes the server. -/
def initialization : List Json.Field := [
  .optional "processId" .nat32,
  .optional "rootPath" .text,
  .defaulted "rootUri" (.orNull .uri),
  .optional "initializationOptions" .any,
  .required "capabilities" .capabilities,
  .defaulted "trace" (.orNull (.name ["off", "messages", "verbose"])),
  .optional "workspaceFolders"
    (.list (.record [.required "uri" .uri, .required "name" .text])),
  .optional "clientInfo" (.record [.required "name" .text, .optional "version" .text]),
  .optional "locale" .text]

/-- The directory of the workspace that a client opens, if there is any. -/
def root? (j : Json) : Option (Option Path) := do
  let field ← recordOf? .json (initialization.map (·.name)) j
  if !Json.Shape.record initialization j then none
  let folders ← optional? (listOf? fun folder => do
    required? anyUri? ((← recordOf? .json ["uri", "name"] folder) "uri"))
    (field "workspaceFolders")
  let rootUri ← optional? anyUri? (field "rootUri")
  return ((folders.getD []).head?.bind Path.ofUri?).or (rootUri.bind Path.ofUri?)

end EditorModes.Parameters
