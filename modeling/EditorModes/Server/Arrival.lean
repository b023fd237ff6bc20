import EditorModes.Server.Handler

/-!
# Arrival of messages

What is to be done about a message is decided when it comes.  Before the server is initialized and
after it is shut down, requests are refused and notifications are ignored.  So are messages of
unknown methods, except that requests of those whose name starts with `$/` are ignored too.  A
client may initialize the server more than once at the same time; whether the last one to be
handled succeeds decides whether the server is initialized.
-/

namespace EditorModes

/-- What is to be done about a message. -/
inductive Task where
  | ignore
  | refuse (fault : Fault)
  | notice (event : Event)
  | request (id : RequestId) (request : Except Fault Request)
  /-- A task after which the server is initialized if it has a result, and is not otherwise. -/
  | initialization (task : Task)

/-- The parameters of a message as they are read, or the fault that they are. -/
def Message.read (m : Message) (read : Json → Option α) : Except Fault α :=
  match m.parameters.bind read with
  | some a => .ok a
  | none => .error .invalidParameters

/-- What a request asks for, if its parameters have their shape and it is answered. -/
def Message.asked (m : Message) (shape : Json.Shape) (read? : Option (Json → Option Query)) :
    Except Fault Request := do
  let parameters ← m.read fun j => if shape j then some j else none
  match read? with
  | none => throw .unknownMethod
  | some read =>
    match read parameters with
    | some query => return .query query
    | none => throw .invalidParameters

/-- A request is refused, a notification ignored. -/
def Message.refused (m : Message) (fault : Fault) : Task :=
  if m.id.isSome then .refuse fault else .ignore

namespace Server

/-- A request is to be handled, unless another one of its identifier is. -/
def expect (s : Server) (id : RequestId) (request : Except Fault Request) : Server × Task :=
  if s.running.contains id then (s, .refuse .invalidRequest)
  else ({ s with running := id :: s.running }, .request id request)

/--
A message of a method that needs an initialized server comes.  A notification with an identifier
is an invalid request, and a request without one is ignored.
-/
def arriveInitialized (s : Server) (m : Message) (method : Method) : Server × Task :=
  match method, m.id with
  | .request shape read?, some id => s.expect id (m.asked shape read?)
  | .event read, none =>
    match m.read read with
    | .ok event => (s, .notice event)
    | .error _ => (s, .ignore)
  | .event _, some id | .unheeded, some id => s.expect id (throw .invalidRequest)
  | _, _ => (s, .ignore)

/-- A message of a method comes. -/
def arriveMethod (s : Server) (m : Message) (method : Method) : Server × Task :=
  match method, s.phase, m.id with
  | .exit, _, _ =>
    ({ s with phase := .exited, connected := false, cancelled := s.running }, .ignore)
  | .cancel, _, none =>
    match m.read Parameters.cancelledRequest? with
    | .ok request => (s, .notice (.cancelled request))
    | .error _ => (s, .ignore)
  | .cancel, _, some _ => (s, .refuse .invalidRequest)
  | .initialization, .uninitialized, none => (s, .initialization .ignore)
  | .initialization, .uninitialized, some id =>
    let (s, task) := s.expect id (do return .initialization (← m.read Parameters.root?))
    (s, .initialization task)
  | .initialization, _, _ => (s, m.refused .invalidRequest)
  | .shutdown, .initialized, none => ({ s with phase := .shutDown }, .ignore)
  | .shutdown, .initialized, some id =>
    { s with phase := .shutDown }.expect id
      (if m.parameters.isNone then .ok .shutdown else .error .invalidParameters)
  | method, .initialized, _ => s.arriveInitialized m method
  | _, .uninitialized, _ => (s, m.refused .notInitialized)
  | _, _, _ => (s, m.refused .invalidRequest)

/-- A message comes. -/
def arrive (s : Server) (m : Message) : Server × Task :=
  if s.phase = .exited then (s, .ignore)
  else
    match Method.ofName? m.method with
    | some method => s.arriveMethod m method
    | none => (s, if m.method.startsWith "$/" then .ignore else m.refused .unknownMethod)

end Server

end EditorModes
