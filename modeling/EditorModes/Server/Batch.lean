import EditorModes.Server.Arrival

/-!
# Batches of messages

Messages that come at the same time are handled in turns.  First what is to be done about each is
decided, in their order; then each handler runs up to its first wait, in their order; then those
that wait go on in rounds, in each of which every one of them runs up to its next wait.  A cancelled
request that is not answered yet is not answered any more.
-/

namespace EditorModes

/-- The handling of a message, which may be a request. -/
structure Handler where
  id : Option RequestId
  progress : Progress

/-- An upper bound for the number of steps that are left when some documents are open. -/
def Handler.size (opened : Nat) (h : Handler) : Nat :=
  match h.progress with
  | .done _ => 0
  | .ready job | .waiting job => job.size opened

/-- The response, when the message has been handled. -/
def Handler.response (h : Handler) : Response :=
  match h.progress with
  | .done response => response
  | _ => none

namespace Server

/-- The messages come one after the other. -/
def arriveAll (s : Server) : List Message → Server × List Task
  | [] => (s, [])
  | m :: messages =>
    let (s, task) := s.arrive m
    let (s, tasks) := s.arriveAll messages
    (s, task :: tasks)

/-- A request is not running any more once it has a response. -/
def settle (s : Server) (h : Handler) : Server :=
  match h.id, h.progress with
  | some id, .done _ => { s with running := s.running.erase id, cancelled := s.cancelled.erase id }
  | _, _ => s

/-- A request fails. -/
def fail (s : Server) (id : RequestId) (fault : Fault) : Server × List Outgoing × Handler :=
  let h : Handler := ⟨some id, .done (some (.error fault))⟩
  (s.settle h, [], h)

/-- A handler has had a step, and runs up to its next wait. -/
def runTurn (id : Option RequestId) (turn : Turn) : Server × List Outgoing × Handler :=
  let last :=
    match turn.progress with
    | .ready job => turn.server.steps job
    | _ => { turn with sent := [] }
  let h : Handler := ⟨id, last.progress⟩
  (last.server.settle h, turn.sent ++ last.sent, h)

/-- A handler starts, and runs up to its first wait. -/
def begin? (s : Server) : Task → Option (Server × List Outgoing × Handler)
  | .ignore => some (s, [], ⟨none, .done none⟩)
  | .refuse fault => some (s, [], ⟨none, .done (some (.error fault))⟩)
  | .notice event => do return runTurn none (← s.notice? event)
  | .request id request =>
    if s.cancelled.contains id then some (s.fail id .cancelled)
    else
      match request with
      | .error fault => some (s.fail id fault)
      | .ok request => some (runTurn (some id) (s.perform request))
  | .initialization task => do
    let (s, sent, handler) ← s.begin? task
    let phase := match handler.response with
      | some (.ok _) => .initialized
      | _ => .uninitialized
    return ({ s with phase := phase }, sent, handler)

/-- The handlers start one after the other. -/
def beginAll? (s : Server) : List Task → Option (Server × List Outgoing × List Handler)
  | [] => some (s, [], [])
  | task :: tasks => do
    let (s, sent, handler) ← s.begin? task
    let (s, later, handlers) ← s.beginAll? tasks
    return (s, sent ++ later, handler :: handlers)

/-- A handler that waits runs up to its next wait. -/
def proceed (s : Server) (h : Handler) : Server × List Outgoing × Handler :=
  match h.id, h.progress with
  | _, .done _ => (s, [], h)
  | id, .ready job | id, .waiting job =>
    match id with
    | some id =>
      if s.cancelled.contains id then s.fail id .cancelled else runTurn (some id) (s.step job)
    | none => runTurn none (s.step job)

/-- The handlers that wait run up to their next waits, one after the other. -/
def round (s : Server) : List Handler → Server × List Outgoing × List Handler
  | [] => (s, [], [])
  | h :: handlers =>
    let (s, sent, h) := s.proceed h
    let (s, later, handlers) := s.round handlers
    (s, sent ++ later, h :: handlers)

/-- As many rounds as are asked for. -/
def rounds (s : Server) : Nat → List Handler → Server × List Outgoing × List Handler
  | 0, handlers => (s, [], handlers)
  | n + 1, handlers =>
    let (s, sent, handlers) := s.round handlers
    let (s, later, handlers) := s.rounds n handlers
    (s, sent ++ later, handlers)

/--
The responses to messages that come at the same time, and what is sent meanwhile, which is nothing
once the client does not hear of it.  There is nothing when handling one of the messages never ends.
-/
def handle? (s : Server) (messages : List Message) :
    Option (List Response × List Outgoing × Server) := do
  let (s, tasks) := s.arriveAll messages
  let (s, first, handlers) ← s.beginAll? tasks
  let sizes := handlers.map (·.size s.documents.documents.length)
  let (s, later, handlers) := s.rounds (sizes.max?.getD 0) handlers
  let sent := if s.connected then first ++ later else []
  return (handlers.map (·.response), sent, s)

end Server

end EditorModes
