import EditorModes.Server.Signature

/-!
# Methods

What the methods of the protocol stand for, and how their parameters are read.  The parameters of a
request of the protocol have their shape also when this server does not answer the request.
-/

namespace EditorModes

/-- A request about an open document. -/
inductive Query where
  | hover (uri : String) (position : Position)
  | references (uri : String) (position : Position) (declarations : Bool)
  | definition (uri : String) (position : Position)
  | completion (uri : String) (position : Position)
  | outline (uri : String)
  | formatting (uri : String) (tabSize : Nat) (insertSpaces : Bool)
  | semanticTokens (uri : String)
  deriving DecidableEq, Repr

/-- What a client notifies of. -/
inductive Event where
  | initialized
  | opened (document : Document)
  /-- A document has another version, whose text is that of its first change. -/
  | changed (uri : String) (version : Int) (texts : List Text)
  | closed (uri : String)
  | configured (settings : Json)
  | cancelled (request : RequestId)

/-- What a method stands for. -/
inductive Method where
  | initialization
  | shutdown
  | exit
  | cancel
  /-- A request with parameters of a shape, and what it asks for if it is answered. -/
  | request (shape : Json.Shape) (read? : Option (Json → Option Query))
  /-- A notification. -/
  | event (read : Json → Option Event)
  /-- A notification that is not heeded. -/
  | unheeded

namespace Method

open Json (recordOf? required?)
open Parameters

/-- The requests that are answered, and what they ask for. -/
def queries : List (String × (Json → Option Query)) := [
  ("textDocument/hover", fun j => do
    let (uri, position) ← place? j
    return .hover uri position),
  ("textDocument/references", fun j => do
    let (uri, position) ← place? j
    return .references uri position (← j.fieldOf? referenceContext? "context")),
  ("textDocument/definition", fun j => do
    let (uri, position) ← place? j
    return .definition uri position),
  ("textDocument/completion", fun j => do
    let (uri, position) ← place? j
    return .completion uri position),
  ("textDocument/documentSymbol", fun j => do
    return .outline (← document? j)),
  ("textDocument/formatting", fun j => do
    let (tabSize, insertSpaces) ← j.fieldOf? formatting? "options"
    return .formatting (← document? j) tabSize insertSpaces),
  ("textDocument/semanticTokens/full", fun j => do
    return .semanticTokens (← document? j))]

/-- The notifications that are heeded. -/
def events : List (String × (Json → Option Event)) := [
  ("initialized", fun j => do
    let _ ← recordOf? .json [] j
    return .initialized),
  ("textDocument/didOpen", fun j => do
    return .opened (← openedDocument? j)),
  ("textDocument/didChange", fun j => do
    let (uri, version, texts) ← changes? j
    return .changed uri version texts),
  ("textDocument/didClose", fun j => do
    let field ← recordOf? .json ["textDocument"] j
    return .closed (← required? documentUri? (field "textDocument"))),
  ("workspace/didChangeConfiguration", fun j => do
    let field ← recordOf? .json ["settings"] j
    return .configured (← field "settings"))]

/-- The notifications that are not heeded. -/
def unheededNames : List String := [
  "textDocument/willSave", "textDocument/didSave", "workspace/didChangeWorkspaceFolders",
  "workspace/didCreateFiles", "workspace/didRenameFiles", "workspace/didDeleteFiles",
  "workspace/didChangeWatchedFiles"]

/-- The method of a name. -/
def ofName? (name : String) : Option Method :=
  match name with
  | "initialize" => some .initialization
  | "shutdown" => some .shutdown
  | "exit" => some .exit
  | "$/cancelRequest" => some .cancel
  | name =>
    ((Signature.find? name).map (.request · (queries.lookup name)))
      |>.or ((events.lookup name).map .event)
      |>.or (if unheededNames.contains name then some .unheeded else none)

end Method

end EditorModes
