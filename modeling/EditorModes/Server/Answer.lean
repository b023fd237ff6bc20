import EditorModes.Server.State

/-!
# Answers to requests

What the server answers to requests about open documents, and what it says of itself when it is
initialized.  The services that apply to the document are asked, and the request waits when there
are any.  A request about a document that is not open has the answer `null`.
-/

namespace EditorModes

/-- What the server can do. -/
def Server.capabilities : Json :=
  .object [("capabilities", .object [
    ("textDocumentSync", .ofNat 1),
    ("hoverProvider", .bool true),
    ("completionProvider", .object [
      ("resolveProvider", .bool false),
      ("triggerCharacters", .ofList .text ["@", ":"])]),
    ("definitionProvider", .bool true),
    ("referencesProvider", .bool true),
    ("documentSymbolProvider", .bool true),
    ("documentFormattingProvider", .bool true),
    ("semanticTokensProvider", .object [
      ("legend", SemanticKind.legendJson),
      ("full", .bool true)])])]

/-- The list of the values of some items, or `null` when there are none. -/
def Json.ofItems (f : α → Json) (items : List α) : Json :=
  .ofOption (.ofList f) (answerOfList items)

namespace Query

/-- The kind of services that are asked, unless cached tokens answer the request. -/
def kind? : Query → Option ServiceKind
  | hover .. => some .hover
  | references .. => some .references
  | definition .. => some .declaration
  | completion .. => some .suggest
  | outline .. => some .outline
  | formatting .. => some .formatting
  | semanticTokens _ => none

/-- The document that a request is about. -/
def uri : Query → String
  | hover uri _ | references uri _ _ | definition uri _ | completion uri _ | outline uri
  | formatting uri _ _ | semanticTokens uri => uri

/-- The answer of the services for a document. -/
def answer (q : Query) (opened : OpenDocument) : StateM Workspace Json := do
  let d := opened.document
  match q with
  | hover _ p =>
    let hovers ← Workspace.hovers d p false
    return .ofOption Hover.toJson (Hover.merge? hovers.answer)
  | references _ p declarations =>
    let locations ← Workspace.references d p declarations false
    return .ofItems Location.toJson locations.answer
  | definition _ p =>
    let locations ← Workspace.declarations d p false
    return .ofItems Location.toJson locations.answer
  | completion _ p =>
    let suggestions ← Workspace.suggestions d p false
    return .ofOption CompletionResponse.toJson suggestions.answer.response?
  | outline _ =>
    let entries ← Workspace.outline d false
    return .ofItems OutlineEntry.toSymbol entries.answer
  | formatting _ tabSize insertSpaces =>
    let edits ← Workspace.format d tabSize insertSpaces false
    return .ofOption (.ofList TextEdit.toJson) edits.answer
  | semanticTokens _ =>
    let tokens := opened.lines.bind (SemanticToken.ofLines? d.text)
    let numbers (tokens : List SemanticToken) : Json :=
      .object [("data", .ofList .ofNat (tokens.flatMap (·.numbers)))]
    return .ofOption numbers tokens

end Query

namespace Server

/-- Whether a request about a document has services to wait for. -/
def waitsFor (s : Server) (q : Query) (d : Document) : Bool :=
  q.kind?.any fun kind => !(s.workspace.services kind d).isEmpty

/-- The answer to a request, whether it has to be waited for, and the server afterwards. -/
def answer (s : Server) (q : Query) : Json × Bool × Server :=
  match s.documents.read? q.uri with
  | none => (.null, false, s)
  | some opened =>
    let (json, workspace) := (q.answer opened).run s.workspace
    (json, s.waitsFor q opened.document, { s with workspace := workspace })

end Server

end EditorModes
