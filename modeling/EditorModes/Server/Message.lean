import EditorModes.Protocol.Codec

/-!
# Messages

What client and server send each other.  A request carries a number or a name that the response to
it carries too; a notification has no response.
-/

namespace EditorModes

/-- What tells a request from the others that are not answered yet. -/
inductive RequestId where
  | number (n : Int)
  | text (s : String)
  deriving DecidableEq, Repr

/-- The identifier that a value is. -/
def RequestId.ofJson? : Json → Option RequestId
  | .number n 0 => some (.number n)
  | .text s => some (.text s)
  | _ => none

/-- A message to the server: a request, or a notification when it has no identifier. -/
structure Message where
  method : String
  parameters : Option Json
  id : Option RequestId

/-- Why a request is not answered. -/
inductive Fault where
  | notInitialized
  | invalidRequest
  | unknownMethod
  | invalidParameters
  | cancelled
  deriving DecidableEq, Repr

/-- The number that stands for a fault. -/
def Fault.code : Fault → Int
  | notInitialized => -32002
  | invalidRequest => -32600
  | unknownMethod => -32601
  | invalidParameters => -32602
  | cancelled => -32800

/-- The response to a message; none to a notification. -/
abbrev Response := Option (Except Fault Json)

/-- The JSON form: the result or the number of the fault. -/
def Response.toJson : Response → Json
  | none => .null
  | some (.ok result) => .object [("result", result)]
  | some (.error fault) => .object [("error", .ofInt fault.code)]

/-- A notification to the client. -/
inductive Outgoing where
  /-- The problems of a document, which replace those sent before. -/
  | diagnostics (uri : String) (version : Option Int) (problems : List Diagnostic)
  /-- A message for the log. -/
  | log (message : String)
  /-- A warning to be shown. -/
  | warning (message : String)
  deriving DecidableEq, Repr

namespace Outgoing

/-- The method of a notification. -/
def method : Outgoing → String
  | diagnostics .. => "textDocument/publishDiagnostics"
  | log _ => "window/logMessage"
  | warning _ => "window/showMessage"

/-- The parameters of a notification. -/
def parameters : Outgoing → Json
  | diagnostics uri version problems =>
    .record [("uri", .text uri), ("diagnostics", .ofList Diagnostic.toJson problems)]
      [("version", version.map .ofInt)]
  | log message => .object [("type", .ofNat 3), ("message", .text message)]
  | warning message => .object [("type", .ofNat 2), ("message", .text message)]

/-- The JSON form: the method and the parameters. -/
def toJson (o : Outgoing) : Json :=
  .list [.text o.method, o.parameters]

end Outgoing

end EditorModes
