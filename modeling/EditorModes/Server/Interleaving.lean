import EditorModes.Server.Handler

/-!
# Handlers that run concurrently

The handler of a notification runs on until it is suspended: before it hears from workers or from
services, and behind what it sends.  While it is suspended, other handlers start or go on, in
whatever order.  A choice says what happens next, and a run of choices is what the server goes
through, moment by moment.
-/

namespace EditorModes

namespace Server

/--
A suspended handler goes on until it is suspended again.  Once the options of all languages are
passed on, the first of the documents that are open then is validated at once.
-/
def goOn (s : Server) : Job → Turn
  | .configure [] => s.step (.validate s.openDocuments)
  | job => s.step job

/--
The handler of a notification starts and runs on until it is suspended; none when it never is and
never ends.
-/
def start? (s : Server) (e : Event) : Option Turn := do
  let turn ← s.notice? e
  match turn.progress.job? with
  | none => return turn
  | some job =>
    let next := turn.server.goOn job
    return { next with sent := turn.sent ++ next.sent }

end Server

/-- A server with the handlers that are suspended. -/
structure Interleaving where
  server : Server
  suspended : List Job := []

/-- What is to happen next. -/
inductive Choice where
  | start (e : Event)
  /-- A suspended handler goes on. -/
  | resume (index : Nat)

/-- What a handler does from where it starts, or goes on with a job, to where it is suspended. -/
inductive Act where
  | starts (e : Event)
  | resumes (job : Job)

/-- What the server goes through while one handler runs. -/
structure Moment where
  before : Server
  act : Act
  turn : Turn

namespace Interleaving

/-- What happens by a choice, unless there is nothing to choose or it never ends. -/
def moment? (c : Interleaving) : Choice → Option (Moment × Interleaving)
  | .start e => do
    let turn ← c.server.start? e
    return (⟨c.server, .starts e, turn⟩,
      ⟨turn.server, c.suspended ++ turn.progress.job?.toList⟩)
  | .resume index => do
    let job ← c.suspended[index]?
    let turn := c.server.goOn job
    return (⟨c.server, .resumes job, turn⟩,
      ⟨turn.server, c.suspended.take index ++ turn.progress.job?.toList
        ++ c.suspended.drop (index + 1)⟩)

/-- What happens by choices, one after the other, and what there is in the end. -/
def run? (c : Interleaving) : List Choice → Option (List Moment × Interleaving)
  | [] => some ([], c)
  | choice :: choices => do
    let (moment, c) ← c.moment? choice
    let (moments, c) ← c.run? choices
    return (moment :: moments, c)

end Interleaving

end EditorModes
