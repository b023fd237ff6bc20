import EditorModes.Server.Parameters

/-!
# Signatures of requests

The requests of the protocol and the shapes of their parameters.  The parameters of most requests
are an object, which may name the tokens under which the client wants to hear of progress.
-/

namespace EditorModes.Signature

open Json (Field Shape)

/-- The token for the progress of the work on a request. -/
def progress : List Field :=
  [.optional "workDoneToken" .key]

/-- The tokens for the progress of the work on a request and for parts of its result. -/
def partialProgress : List Field :=
  progress ++ [.optional "partialResultToken" .key]

/-- The document that a request is about. -/
def documentField : Field := .required "textDocument" .document

/-- The position that a request is about. -/
def positionField : Field := .required "position" .position

/-- The range that a request is about. -/
def rangeField : Field := .required "range" .range

/-- The options that are asked to be followed when a text is formatted. -/
def optionsField : Field :=
  .required "options" fun j => (Parameters.formatting? j).isSome

/-- What has been stored with a value for later. -/
def dataField : Field := .optional "data" .any

/-- A request about a document. -/
def aboutDocument (fields : List Field) : Shape :=
  .object (documentField :: fields)

/-- A request about a place in a document. -/
def aboutPlace (fields : List Field) : Shape :=
  .object (documentField :: positionField :: fields)

/-- A request about a range of a document. -/
def aboutRange (fields : List Field) : Shape :=
  .object (documentField :: rangeField :: fields)

/-- A request about an item of a hierarchy whose tags have some shape. -/
def aboutItem (tags : Shape) : Shape :=
  .object (.required "item" (.hierarchyItem tags) :: partialProgress)

/-- A request about files that have some names. -/
def aboutFiles (names : List String) : Shape :=
  .record [.required "files" (.list (.record (names.map (.required · .text))))]

/-- How completion was asked for. -/
def completionContext : Shape :=
  .record [.required "triggerKind" .int32, .optional "triggerCharacter" .text]

/-- How the signatures were asked for. -/
def signatureContext : Shape :=
  .record [.required "triggerKind" .int32, .optional "triggerCharacter" .text,
    .required "isRetrigger" .bool, .optional "activeSignatureHelp" .signatureHelp]

/-- A color. -/
def color : Shape :=
  .record (["red", "green", "blue", "alpha"].map (.required · .number))

/-- An item that completes a text. -/
def completionItem : Shape :=
  .record [
    .required "label" .text,
    .optional "labelDetails" (.record (Field.optionals ["detail", "description"] .text)),
    .optional "kind" .int32,
    .optional "detail" .text,
    .optional "documentation" .documentation,
    .optional "deprecated" .bool,
    .optional "preselect" .bool,
    .optional "sortText" .text,
    .optional "filterText" .text,
    .optional "insertText" .text,
    .optional "insertTextFormat" .int32,
    .optional "insertTextMode" .int32,
    .optional "textEdit" (Shape.textEdit.or .choiceEdit),
    .optional "additionalTextEdits" (.list .textEdit),
    .optional "command" .command,
    .optional "commitCharacters" (.list .text),
    dataField,
    .optional "tags" (.list .int32)]

/-- An action on a text. -/
def codeAction : Shape :=
  .record [
    .required "title" .text,
    .optional "kind" .text,
    .optional "diagnostics" (.list .diagnostic),
    .optional "edit" .workspaceEdit,
    .optional "command" .command,
    .optional "isPreferred" .bool,
    .optional "disabled" (.record [.required "reason" .text]),
    dataField]

/-- A hint within a line. -/
def inlayHint : Shape :=
  let part : Shape := .record [
    .required "value" .text,
    .optional "tooltip" .documentation,
    .optional "location" .location,
    .optional "command" .command]
  .record [
    positionField,
    .required "label" (Shape.text.or (.list part)),
    .optional "kind" .int32,
    .optional "textEdits" (.list .textEdit),
    .optional "tooltip" .documentation,
    .optional "paddingLeft" .bool,
    .optional "paddingRight" .bool,
    dataField]

/-- A symbol of a workspace. -/
def workspaceSymbol : Shape :=
  .record [
    .required "name" .text,
    .required "kind" .int32,
    .optional "tags" (.list .int32),
    .optional "containerName" .text,
    .required "location" (Shape.location.or .document),
    dataField]

/-- The requests at a place in a document. -/
def placeRequests : List (String × Shape) := [
  ("textDocument/hover", aboutPlace progress),
  ("textDocument/linkedEditingRange", aboutPlace progress),
  ("textDocument/prepareCallHierarchy", aboutPlace progress),
  ("textDocument/prepareTypeHierarchy", aboutPlace progress),
  ("textDocument/declaration", aboutPlace partialProgress),
  ("textDocument/definition", aboutPlace partialProgress),
  ("textDocument/typeDefinition", aboutPlace partialProgress),
  ("textDocument/implementation", aboutPlace partialProgress),
  ("textDocument/documentHighlight", aboutPlace partialProgress),
  ("textDocument/moniker", aboutPlace partialProgress),
  ("textDocument/references",
    aboutPlace
      (.required "context" (.record [.required "includeDeclaration" .bool]) :: partialProgress)),
  ("textDocument/completion",
    aboutPlace (.optional "context" completionContext :: partialProgress)),
  ("textDocument/signatureHelp",
    aboutPlace (.optional "context" signatureContext :: progress)),
  ("textDocument/prepareRename", .record [documentField, positionField]),
  ("textDocument/rename", aboutPlace (.required "newName" .text :: progress)),
  ("textDocument/onTypeFormatting", aboutPlace [.required "ch" .text, optionsField])]

/-- The requests about a document or a range of it. -/
def documentRequests : List (String × Shape) := [
  ("textDocument/documentSymbol", aboutDocument partialProgress),
  ("textDocument/documentLink", aboutDocument partialProgress),
  ("textDocument/codeLens", aboutDocument partialProgress),
  ("textDocument/foldingRange", aboutDocument partialProgress),
  ("textDocument/documentColor", aboutDocument partialProgress),
  ("textDocument/diagnostic",
    aboutDocument (Field.optionals ["identifier", "previousResultId"] .text ++ partialProgress)),
  ("textDocument/formatting", aboutDocument (optionsField :: progress)),
  ("textDocument/rangeFormatting", aboutRange (optionsField :: progress)),
  ("textDocument/semanticTokens/full", aboutDocument partialProgress),
  ("textDocument/semanticTokens/full/delta",
    aboutDocument (.required "previousResultId" .text :: partialProgress)),
  ("textDocument/semanticTokens/range", aboutRange partialProgress),
  ("textDocument/inlayHint", aboutRange progress),
  ("textDocument/colorPresentation",
    aboutRange (.required "color" color :: partialProgress)),
  ("textDocument/selectionRange",
    aboutDocument (.required "positions" (.list .position) :: partialProgress)),
  ("textDocument/willSaveWaitUntil",
    .record [documentField, .required "reason" .int32]),
  ("textDocument/codeAction",
    aboutRange
      (.required "context" (.record [
        .required "diagnostics" (.list .diagnostic),
        .optional "only" (.list .text),
        .optional "triggerKind" .int32]) :: partialProgress)),
  ("textDocument/inlineValue",
    aboutRange
      (.required "context" (.record [
        .required "frameId" .int32,
        .required "stoppedLocation" .range]) :: progress))]

/-- The requests about what the client got before, and about the workspace. -/
def furtherRequests : List (String × Shape) := [
  ("callHierarchy/incomingCalls", aboutItem (.list .int32)),
  ("callHierarchy/outgoingCalls", aboutItem (.list .int32)),
  ("typeHierarchy/supertypes", aboutItem .int32),
  ("typeHierarchy/subtypes", aboutItem .int32),
  ("codeLens/resolve", .record [rangeField, .optional "command" .command, dataField]),
  ("documentLink/resolve",
    .record [rangeField, .optional "target" .uri, .optional "tooltip" .text, dataField]),
  ("completionItem/resolve", completionItem),
  ("codeAction/resolve", codeAction),
  ("inlayHint/resolve", inlayHint),
  ("workspaceSymbol/resolve", workspaceSymbol),
  ("workspace/symbol", .object (.required "query" .text :: partialProgress)),
  ("workspace/executeCommand",
    .object (.required "command" .text :: .defaulted "arguments" (.list .any) :: progress)),
  ("workspace/diagnostic",
    .object (.optional "identifier" .text
      :: .required "previousResultIds"
        (.list (.record [.required "uri" .uri, .required "value" .text]))
      :: partialProgress)),
  ("workspace/willCreateFiles", aboutFiles ["uri"]),
  ("workspace/willRenameFiles", aboutFiles ["oldUri", "newUri"]),
  ("workspace/willDeleteFiles", aboutFiles ["uri"])]

/-- The shape of the parameters of a request. -/
def find? (request : String) : Option Shape :=
  (placeRequests ++ documentRequests ++ furtherRequests).lookup request

end EditorModes.Signature
