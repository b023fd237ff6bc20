import EditorModes.Document.Store
import EditorModes.Mode.Builtin
import EditorModes.Mode.Workspace
import EditorModes.Server.Method
import EditorModes.Server.Validation
import EditorModes.Settings.Discovery

/-!
# The state of the server

The server holds the open documents and the workspace that answers requests about them.  A client
initializes the server before anything else and shuts it down in the end.
-/

namespace EditorModes

/-- How far the life of a server has got. -/
inductive Phase where
  | uninitialized
  | initialized
  | shutDown
  | exited
  deriving DecidableEq, Repr

/-- A language server. -/
structure Server where
  /-- The files in which settings are looked up. -/
  files : FileTree := {}
  bundle : Bundle := {}
  phase : Phase := .uninitialized
  /-- Whether the client still hears of what the server sends, which ends when it exits. -/
  connected : Bool := true
  /-- The settings of the first workspace, once there is one. -/
  settings : Option Settings := none
  workspace : Workspace := ⟨{}, Less.workers 1 {}⟩
  documents : DocumentStore := {}
  /-- How the open documents are listed when some number of validations were started. -/
  listings : Nat → Listing := fun _ => .byName
  validations : Validations := {}
  /-- The requests that have come and are not answered yet. -/
  running : List RequestId := []
  /-- Those of the requests that were cancelled. -/
  cancelled : List RequestId := []

namespace Server

/--
The server with settings, and with the modes that are always there and those of grammars.  The
settings and the workers of the first workspace stay.
-/
def withSettings (s : Server) (settings : Settings) (grammars : List Grammar) : Server :=
  let modes := (Mode.builtin s.bundle grammars).foldl ModeSet.add s.workspace.modes
  match s.settings with
  | some _ => { s with workspace := { s.workspace with modes := modes } }
  | none =>
    { s with
      settings := some settings
      workspace := ⟨modes, Less.workers settings.workerCount settings.less⟩ }

/-- The server for the workspace in a directory, or for no directory. -/
def inDirectory (s : Server) : Option Path → Server
  | none => s.withSettings {} []
  | some root =>
    let (settings, directory) := s.files.discoverSettings root
    s.withSettings settings (s.files.loadGrammars directory settings)

/-- The server with no active modes. -/
def shutDown (s : Server) : Server :=
  { s with
    workspace := s.workspace.modes.activeIds.foldl (fun w id => (w.deactivate id).2) s.workspace }

/-- The open documents as they are listed now. -/
def openDocuments (s : Server) : List Document :=
  s.documents.all (s.listings s.validations.issued)

/--
The server after a document is opened: its mode becomes active and its lines are tokenized.  There
is none when activating or tokenizing never ends.
-/
def open? (s : Server) (d : Document) : Option Server := do
  let (_, workspace) ← s.workspace.activate? d.language true
  let lines ← (workspace.tokenizer? d.language).mapM fun t =>
    LineCache.ofText? t (s.settings.getD {}).maxLineLength d.text
  return { s with workspace := workspace, documents := s.documents.insert d lines }

/--
The document of a name with another text, if it is open, and the server after the change.  There is
nothing when tokenizing never ends.
-/
def change? (s : Server) (uri : String) (version : Int) (text : Text) :
    Option (Option Document × Server) := do
  let tokenizer := (s.documents.get? uri).bind fun d => s.workspace.tokenizer? d.language
  match ← s.documents.update? tokenizer uri version text with
  | none => return (none, s)
  | some (document, _, documents) => return (some document, { s with documents := documents })

/-- The server without the document of a name. -/
def close (s : Server) (uri : String) : Server :=
  { s with documents := s.documents.close uri, validations := s.validations.stop uri }

end Server

end EditorModes
