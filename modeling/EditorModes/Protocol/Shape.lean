import EditorModes.Json.Shape
import EditorModes.Protocol.Uri

/-!
# Shapes of protocol values

The shapes of the values that clients hand back to the server or describe to it.  Where a value has
one of several forms, a form whose fields no list may stand for is an object.
-/

namespace EditorModes.Json.Shape

/-! ### Places and texts -/

/-- The strings that are URIs. -/
def uri : Shape := fun j => j.text?.any Uri.isUri

/-- A number or a string that tells something from others. -/
def key : Shape := int32.or text

/-- A position in a document. -/
def position : Shape :=
  record [.required "line" .nat32, .required "character" .nat32]

/-- A range of a document. -/
def range : Shape :=
  record [.required "start" .position, .required "end" .position]

/-- A range of some document. -/
def location : Shape :=
  record [.required "uri" .uri, .required "range" .range]

/-- The name of a document. -/
def document : Shape :=
  record [.required "uri" .uri]

/-- A text with the kind of its marks. -/
def markup : Shape :=
  record [.required "kind" (.name ["plaintext", "markdown"]), .required "value" .text]

/-- A text that documents something. -/
def documentation : Shape := text.or markup

/-- A command for the client. -/
def command : Shape :=
  record [.required "title" .text, .required "command" .text,
    .optional "arguments" (.list .any)]

/-- A problem in a document. -/
def diagnostic : Shape :=
  record [.required "range" .range, .optional "severity" .int32, .optional "code" .key,
    .optional "codeDescription" (.record [.required "href" .uri]), .optional "source" .text,
    .required "message" .text,
    .optional "relatedInformation"
      (.list (.record [.required "location" .location, .required "message" .text])),
    .optional "tags" (.list .int32), .optional "data" .any]

/-! ### Edits -/

/-- A text in the place of a range. -/
def textEdit : Shape :=
  record [.required "range" .range, .required "newText" .text]

/-- A text in the place of one range or another, whichever the user chooses. -/
def choiceEdit : Shape :=
  record [.required "newText" .text, .required "insert" .range, .required "replace" .range]

/-- The edits of a document. -/
def documentEdit : Shape :=
  record [
    .required "textDocument" (.record [.required "uri" .uri, .optional "version" .int32]),
    .required "edits" (.list .textEdit)]

/-- The fields of a change of files of some kind. -/
def fileChangeFields? (kind : String) : Option (List Field) :=
  let options (flags : List Field) : Field := .optional "options" (.record flags)
  let existing := options (Field.optionals ["overwrite", "ignoreIfExists"] .bool)
  let noted : Field := .optional "annotationId" .text
  match kind with
  | "create" => some [.required "uri" .uri, existing, noted]
  | "rename" =>
    some [.required "oldUri" .uri, .required "newUri" .uri, existing, noted]
  | "delete" =>
    some [.required "uri" .uri,
      options (Field.optionals ["recursive", "ignoreIfNotExists"] .bool ++ [noted])]
  | _ => none

/-- A change of files, whose kind is a field, or the first item. -/
def fileChange : Shape
  | .list (.text kind :: items) => (fileChangeFields? kind).any (record · (.list items))
  | j => ((j.field? "kind").bind Json.text?).any fun kind =>
    (fileChangeFields? kind).any (object · j)

/-- The edits of several documents. -/
def workspaceEdit : Shape :=
  record [
    .defaulted "changes" (.orNull (.map .uri (.list .textEdit))),
    .optional "documentChanges" ((list documentEdit).or (.list (fileChange.or documentEdit))),
    .optional "changeAnnotations"
      (.map .text (.record [.required "label" .text, .optional "needsConfirmation" .bool,
        .optional "description" .text]))]

/-! ### Symbols and signatures -/

/-- An item of a hierarchy whose tags have some shape. -/
def hierarchyItem (tags : Shape) : Shape :=
  record [.required "name" .text, .required "kind" .int32, .optional "tags" tags,
    .optional "detail" .text, .required "uri" .uri, .required "range" .range,
    .required "selectionRange" .range, .optional "data" .any]

/-- A parameter of a signature. -/
def parameter : Shape :=
  record [
    .required "label" (text.or fun
      | .list [first, last] => first.nat32?.isSome && last.nat32?.isSome
      | _ => false),
    .optional "documentation" .documentation]

/-- The signatures that are shown. -/
def signatureHelp : Shape :=
  record [
    .required "signatures" (.list (.record [
      .required "label" .text, .optional "documentation" .documentation,
      .optional "parameters" (.list .parameter), .optional "activeParameter" .nat32])),
    .optional "activeSignature" .nat32, .optional "activeParameter" .nat32]

end EditorModes.Json.Shape
