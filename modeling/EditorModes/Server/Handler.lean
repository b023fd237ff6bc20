import EditorModes.Server.Job

/-!
# Handlers

What the server does when it handles a notification or a request.
-/

namespace EditorModes

/-- A request. -/
inductive Request where
  /-- The server starts to work for the workspace in a directory, or for none. -/
  | initialization (root : Option Path)
  | shutdown
  | query (query : Query)

namespace Server

/-- The first step of handling a notification; none when it never ends. -/
def notice? (s : Server) : Event → Option Turn
  | .initialized =>
    some
      { server := s
        sent := [.log "langmode language server initialized"]
        progress := .done none }
  | .opened d => do
    return { server := ← s.open? d, progress := .ready (.validate [d]) }
  | .changed _ _ [] => some { server := s, progress := .done none }
  | .changed uri version (text :: _) => do
    let (document, s) ← s.change? uri version text
    return { server := s, progress := .ready (.validate document.toList) }
  | .closed uri =>
    some
      { server := s.close uri
        sent := [.diagnostics uri none []]
        progress := .done none }
  | .configured settings =>
    match settings.object? with
    | none => some { server := s, progress := .done none }
    | some options =>
      some
        { server := s
          progress := .ready (.configure (options.mergeSort fun a b => !(b.1 < a.1))) }
  | .cancelled request =>
    let cancelled := if s.running.contains request then [request] else []
    some
      { server := { s with cancelled := cancelled ++ s.cancelled }
        progress := .done none }

/-- The first step of handling a request. -/
def perform (s : Server) : Request → Turn
  | .initialization root =>
    { server := s.inDirectory root, progress := .done (some (.ok capabilities)) }
  | .shutdown => { server := s.shutDown, progress := .done (some (.ok .null)) }
  | .query q =>
    let (answer, waits, s) := s.answer q
    { server := s, progress := .afterWait waits (.reply answer) }

end Server

end EditorModes
