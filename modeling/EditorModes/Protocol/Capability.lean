import EditorModes.Protocol.Shape

/-!
# Capabilities of clients

The shape of what a client says that it can do when it initializes the server.
-/

namespace EditorModes.Json.Shape

/-- A record of truth values. -/
def flags (names : List String) : Shape :=
  record (Field.optionals names .bool)

/-- A request that may be registered while the server works, and further fields. -/
def dynamic (fields : List Field) : Shape :=
  record (.optional "dynamicRegistration" .bool :: fields)

/-- The values of an enumeration that the client knows. -/
def valueSet (presence : String → Shape → Field) (value : Shape) : Shape :=
  record [presence "valueSet" (.list value)]

/-- The tags that the client knows, or whether it knows any. -/
def tagSupport : Field :=
  .defaulted "tagSupport" (.orNull (bool.or (valueSet .required .int32)))

/-- What the client may ask for later. -/
def resolveSupport : Field :=
  .optional "resolveSupport" (.record [.required "properties" (.list .text)])

/-- The kinds of symbols that the client knows. -/
def symbolKinds : Field :=
  .optional "symbolKind" (valueSet .optional .int32)

/-- The forms of text in the order in which the client likes them. -/
def markupKinds (name : String) : Field :=
  .optional name (.list (.name ["plaintext", "markdown"]))

/-- What a client can do with a workspace. -/
def workspaceCapabilities : Shape :=
  let refreshed := flags ["refreshSupport"]
  record [
    .optional "applyEdit" .bool,
    .optional "workspaceEdit" (.record [
      .optional "documentChanges" .bool,
      .optional "resourceOperations" (.list (.name ["create", "rename", "delete"])),
      .optional "failureHandling"
        (.name ["abort", "transactional", "textOnlyTransactional", "undo"]),
      .optional "normalizesLineEndings" .bool,
      .optional "changeAnnotationSupport" (flags ["groupsOnLabel"])]),
    .optional "didChangeConfiguration" (dynamic []),
    .optional "didChangeWatchedFiles" (dynamic [.optional "relativePatternSupport" .bool]),
    .optional "symbol" (dynamic [symbolKinds, tagSupport, resolveSupport]),
    .optional "executeCommand" (dynamic []),
    .optional "workspaceFolders" .bool,
    .optional "configuration" .bool,
    .optional "semanticTokens" refreshed,
    .optional "codeLens" refreshed,
    .optional "fileOperations" (dynamic (Field.optionals
      ["didCreate", "willCreate", "didRename", "willRename", "didDelete", "willDelete"] .bool)),
    .optional "inlineValue" refreshed,
    .optional "inlayHint" refreshed,
    .optional "diagnostic" refreshed]

/-- What a client can do with the items that complete a text. -/
def completionItemCapabilities : Shape :=
  record [
    .optional "snippetSupport" .bool,
    .optional "commitCharactersSupport" .bool,
    markupKinds "documentationFormat",
    .optional "deprecatedSupport" .bool,
    .optional "preselectSupport" .bool,
    tagSupport,
    .optional "insertReplaceSupport" .bool,
    resolveSupport,
    .optional "insertTextModeSupport" (valueSet .required .int32),
    .optional "labelDetailsSupport" .bool]

/-- What a client can do with the meanings of the tokens of a document. -/
def semanticTokensCapabilities : Shape :=
  let delta := object [.optional "delta" .bool]
  dynamic ([
    .required "requests" (.record [.optional "range" .bool, .optional "full" (bool.or delta)]),
    .required "tokenTypes" (.list .text),
    .required "tokenModifiers" (.list .text),
    .required "formats" (.list .text)]
    ++ Field.optionals ["overlappingTokenSupport", "multilineTokenSupport", "serverCancelSupport",
      "augmentsSyntaxTokens"] .bool)

/-- What a client can do with documents. -/
def documentCapabilities : Shape :=
  let plain := dynamic []
  let linked := dynamic [.optional "linkSupport" .bool]
  record [
    .optional "synchronization"
      (dynamic (Field.optionals ["willSave", "willSaveWaitUntil", "didSave"] .bool)),
    .optional "completion" (dynamic [
      .optional "completionItem" completionItemCapabilities,
      .optional "completionItemKind" (valueSet .optional .int32),
      .optional "contextSupport" .bool,
      .optional "insertTextMode" .int32,
      .optional "completionList" (.record [.optional "itemDefaults" (.list .text)])]),
    .optional "hover" (dynamic [markupKinds "contentFormat"]),
    .optional "signatureHelp" (dynamic [
      .optional "signatureInformation" (.record [
        markupKinds "documentationFormat",
        .optional "parameterInformation" (flags ["labelOffsetSupport"]),
        .optional "activeParameterSupport" .bool]),
      .optional "contextSupport" .bool]),
    .optional "references" plain,
    .optional "documentHighlight" plain,
    .optional "documentSymbol"
      (dynamic [symbolKinds, .optional "hierarchicalDocumentSymbolSupport" .bool, tagSupport]),
    .optional "formatting" plain,
    .optional "rangeFormatting" plain,
    .optional "onTypeFormatting" plain,
    .optional "declaration" linked,
    .optional "definition" linked,
    .optional "typeDefinition" linked,
    .optional "implementation" linked,
    .optional "codeAction" (dynamic [
      .optional "codeActionLiteralSupport"
        (.record [.required "codeActionKind" (valueSet .required .text)]),
      .optional "isPreferredSupport" .bool,
      .optional "disabledSupport" .bool,
      .optional "dataSupport" .bool,
      resolveSupport,
      .optional "honorsChangeAnnotations" .bool]),
    .optional "codeLens" plain,
    .optional "documentLink" (dynamic [.optional "tooltipSupport" .bool]),
    .optional "colorProvider" plain,
    .optional "rename" (dynamic [
      .optional "prepareSupport" .bool,
      .optional "prepareSupportDefaultBehavior" .int32,
      .optional "honorsChangeAnnotations" .bool]),
    .optional "publishDiagnostics" (.record [
      .optional "relatedInformation" .bool,
      tagSupport,
      .optional "versionSupport" .bool,
      .optional "codeDescriptionSupport" .bool,
      .optional "dataSupport" .bool]),
    .optional "foldingRange" (dynamic [
      .optional "rangeLimit" .nat32,
      .optional "lineFoldingOnly" .bool,
      .optional "foldingRangeKind" (valueSet .optional (.name ["comment", "imports", "region"])),
      .optional "foldingRange" (flags ["collapsedText"])]),
    .optional "selectionRange" plain,
    .optional "linkedEditingRange" plain,
    .optional "callHierarchy" plain,
    .optional "semanticTokens" semanticTokensCapabilities,
    .optional "moniker" plain,
    .optional "typeHierarchy" plain,
    .optional "inlineValue" plain,
    .optional "inlayHint" (dynamic [resolveSupport]),
    .optional "diagnostic" (dynamic [.optional "relatedDocumentSupport" .bool])]

/-- What a client can do with notebooks. -/
def notebookCapabilities : Shape :=
  record [.required "synchronization" (dynamic [.optional "executionSummaryReport" .bool])]

/-- What a client can do with its window. -/
def windowCapabilities : Shape :=
  record [
    .optional "workDoneProgress" .bool,
    .optional "showMessage" (.record [
      .optional "messageActionItem" (flags ["additionalPropertiesSupport"])]),
    .optional "showDocument" (.record [.required "support" .bool])]

/-- What a client can do otherwise. -/
def generalCapabilities : Shape :=
  record [
    .optional "regularExpressions"
      (.record [.required "engine" .text, .optional "version" .text]),
    .optional "markdown" (.record [
      .required "parser" .text,
      .optional "version" .text,
      .optional "allowedTags" (.list .text)]),
    .optional "staleRequestSupport" (.record [
      .required "cancel" .bool,
      .required "retryOnContentModified" (.list .text)]),
    .optional "positionEncodings" (.list .text)]

/-- What a client can do. -/
def capabilities : Shape :=
  record [
    .optional "workspace" workspaceCapabilities,
    .optional "textDocument" documentCapabilities,
    .optional "notebookDocument" notebookCapabilities,
    .optional "window" windowCapabilities,
    .optional "general" generalCapabilities,
    .optional "experimental" .any]

end EditorModes.Json.Shape
