import EditorModes.Server.Answer

/-!
# Jobs

Handling a message may take several steps, between which the server handles other messages.  A job
is what is left to do after a step.  After some steps the handler has to wait for workers or for
services; after the others it may go on at once.
-/

namespace EditorModes

/-- What is left to do about a message. -/
inductive Job where
  /-- Options of languages are passed on to services; then all open documents are validated. -/
  | configure (options : List (String × Json))
  /-- Documents are validated one after the other. -/
  | validate (documents : List Document)
  /-- What the validation with a ticket found is published; then further documents are validated. -/
  | publish (document : Document) (problems : List Diagnostic) (ticket : Nat)
      (further : List Document)
  /-- A request is answered. -/
  | reply (answer : Json)

/-- How far the handling of a message has got. -/
inductive Progress where
  | done (response : Response)
  /-- There is a job to do, and nothing to wait for. -/
  | ready (job : Job)
  /-- There is a job to do after a wait. -/
  | waiting (job : Job)

namespace Progress

/-- A job that is left, with or without a wait before it. -/
def afterWait (waits : Bool) (job : Job) : Progress :=
  if waits then .waiting job else .ready job

/-- The job that is left. -/
def job? : Progress → Option Job
  | done _ => none
  | ready job | waiting job => some job

@[simp]
theorem job?_afterWait (waits : Bool) (job : Job) :
  (afterWait waits job).job? = some job
  := by
  cases waits <;> rfl

end Progress

/-- The server after a step, what the step sent, and what is left to do. -/
structure Turn where
  server : Server
  sent : List Outgoing := []
  progress : Progress

/-- An upper bound for the number of steps that a job takes when some documents are open. -/
def Job.size (opened : Nat) : Job → Nat
  | configure options => options.length + 2 * opened + 3
  | validate documents => 2 * documents.length + 1
  | publish _ _ _ further => 2 * further.length + 2
  | reply _ => 1

namespace Server

/-- Options of a language are passed on to the services that take them. -/
def configureLanguage (s : Server) (language : String) (options : Json)
    (further : List (String × Json)) : Turn :=
  let services := s.workspace.configurable language
  let (results, workspace) :=
    (services.mapM fun service => Workspace.configure service options).run s.workspace
  let refusal? : Except ProviderError Unit → Option Outgoing
    | .ok () => none
    | .error e => some (.warning (language ++ ": " ++ e.message))
  let taken := results.any fun result => (refusal? result).isNone
  { server := { s with workspace := workspace }
    sent := results.filterMap refusal?
    progress := .afterWait taken (.configure further) }

/-- The validation of a document starts. -/
def validateDocument (s : Server) (d : Document) (further : List Document) : Turn :=
  let (ticket, validations) := s.validations.start d.uri
  let (problems, workspace) := (Workspace.diagnostics d false).run s.workspace
  { server := { s with validations := validations, workspace := workspace }
    progress :=
      .afterWait (!(s.workspace.services .validation d).isEmpty)
        (.publish d problems.answer ticket further) }

theorem job?_configureLanguage (s : Server) (language : String) (options : Json)
    (further : List (String × Json)) :
  (s.configureLanguage language options further).progress.job? = some (.configure further)
  := Progress.job?_afterWait _ _

theorem job?_validateDocument (s : Server) (d : Document) (further : List Document) :
  ∃ problems ticket,
    (s.validateDocument d further).progress.job? = some (.publish d problems ticket further)
  := ⟨_, _, Progress.job?_afterWait _ _⟩

/-- The next step of a job. -/
def step (s : Server) : Job → Turn
  | .configure [] => { server := s, progress := .ready (.validate s.openDocuments) }
  | .configure ((language, options) :: further) => s.configureLanguage language options further
  | .validate [] => { server := s, progress := .done none }
  | .validate (d :: further) => s.validateDocument d further
  | .publish d problems ticket further =>
    { server := s
      sent :=
        if s.validations.isCurrent d.uri ticket then
          [.diagnostics d.uri (some d.version) problems]
        else
          []
      progress := .ready (.validate further) }
  | .reply answer => { server := s, progress := .done (some (.ok answer)) }

/-- A step of a job opens and closes no documents. -/
theorem documents_step (s : Server) (job : Job) :
  (s.step job).server.documents = s.documents
  := by
  cases job with
  | configure options =>
    cases options with
    | nil => rfl
    | cons option further => rfl
  | validate documents =>
    cases documents with
    | nil => rfl
    | cons d further => rfl
  | publish d problems ticket further => rfl
  | reply answer => rfl

/-- What is left of a job after a step takes fewer steps than the job. -/
theorem size_lt_of_step {s : Server} {job next : Job}
    (left : (s.step job).progress.job? = some next) :
  next.size s.documents.documents.length < job.size s.documents.documents.length
  := by
  cases job with
  | configure options =>
    cases options with
    | nil =>
      obtain rfl := Option.some.inj left
      have length_eq : s.openDocuments.length = s.documents.documents.length := by
        rw [openDocuments, DocumentStore.all, (Listing.perm _ _).length_eq, List.length_map]
      simp [Job.size, length_eq]
    | cons option further =>
      obtain rfl := Option.some.inj ((job?_configureLanguage ..).symm.trans left)
      simp [Job.size]
  | validate documents =>
    cases documents with
    | nil => simp [step, Progress.job?] at left
    | cons d further =>
      obtain ⟨_, _, published⟩ := job?_validateDocument s d further
      obtain rfl := Option.some.inj (published.symm.trans left)
      simp only [Job.size, List.length_cons]
      omega
  | publish d problems ticket further =>
    obtain rfl := Option.some.inj left
    simp [Job.size]
  | reply answer => simp [step, Progress.job?] at left

/-- The steps of a job up to the next wait, but no more than some number. -/
def stepsWithin (s : Server) : (steps : Nat) → Job → Turn
  | 0, job => { server := s, progress := .ready job }
  | steps + 1, job =>
    let turn := s.step job
    match turn.progress with
    | .ready job =>
      let later := turn.server.stepsWithin steps job
      { later with sent := turn.sent ++ later.sent }
    | _ => turn

/-- The steps of a job up to the next wait. -/
def steps (s : Server) (job : Job) : Turn :=
  s.stepsWithin (job.size s.documents.documents.length) job

/-- With enough steps, a job runs up to a wait or to its end. -/
theorem stepsWithin_not_ready {s : Server} {steps : Nat} {job : Job}
    (enough : job.size s.documents.documents.length ≤ steps) (next : Job) :
  (s.stepsWithin steps job).progress ≠ .ready next
  := by
  induction steps generalizing s job with
  | zero => cases job <;> simp [Job.size] at enough
  | succ steps ih =>
    simp only [stepsWithin]
    split
    · next following left =>
      apply ih
      have shorter : following.size _ < _ := size_lt_of_step (by rw [left]; rfl)
      rw [documents_step]
      omega
    · next left => exact left next

end Server

end EditorModes
