import EditorModes.Worker.Pool

/-!
# Elections on their way

An election is a task of its own, which goes on while other calls are made.  First the worker that
is to validate has to be there, then the work of the election runs on it, and at last the pool is
told when the election has failed.  Validation goes on in the same way; whether there was an
election is looked at only when it is called.  A step of a task is what happens without another task
in between.
-/

namespace EditorModes

/-- How far a task has come. -/
inductive Stage (T : Type v) where
  /-- Its worker has to be there first. -/
  | waiting
  /-- Its worker is there. -/
  | ready
  /-- The work has run, or there is no worker for it. -/
  | ended (result : Except WorkerError T)
  | finished (result : Except WorkerError T)

/-- Work on the worker that validates, on its way. -/
structure PoolTask (W : Type u) (T : Type v) where
  work : Work W T
  stage : Stage T := .waiting

namespace PoolTask

/-- The task when it has come to another stage. -/
def withStage (t : PoolTask W T) (stage : Stage T) : PoolTask W T :=
  { t with stage := stage }

/-- The task after a step, and the pool. -/
def step (t : PoolTask W T) (p : WorkerPool W) : PoolTask W T × WorkerPool W :=
  match t.stage with
  | .waiting =>
    match p.worker p.validatorSlot with
    | (.error error, p) => (t.withStage (.ended (.error error)), p)
    | (.ok _, p) => (t.withStage .ready, p)
  | .ready =>
    let (result, p) := p.run p.validatorSlot t.work
    (t.withStage (.ended result), p)
  | .ended result => (t.withStage (.finished result), p)
  | .finished _ => (t, p)

/-- The election after a step, and the pool, which learns of a failure at the end. -/
def electionStep (t : PoolTask W Unit) (p : WorkerPool W) : PoolTask W Unit × WorkerPool W :=
  let (next, p) := t.step p
  match t.stage with
  | .ended (.error _) => (next, { p with hasValidator := false })
  | _ => (next, p)

end PoolTask

/-- A pool with the elections and the validations that were ever started on it. -/
structure Elections (W : Type u) (T : Type v) where
  pool : WorkerPool W
  elections : List (PoolTask W Unit) := []
  validations : List (PoolTask W T) := []

/-- What happens to a pool with elections. -/
inductive ElectionEvent (W : Type u) (T : Type v) where
  | elect (work : Work W Unit)
  | validate (work : Work W T)
  /-- An election goes on by a step. -/
  | electionStep (election : Nat)
  /-- A validation goes on by a step. -/
  | validationStep (validation : Nat)
  /-- Another call works on a slot. -/
  | work (slot : Nat) (work : Work W T)

namespace Elections

/-- The call of an election; none when one is on its way already or has succeeded. -/
def elect? (s : Elections W T) (work : Work W Unit) : Option (Elections W T) :=
  s.pool.startElection?.map fun pool =>
    { s with pool := pool, elections := s.elections ++ [{ work := work }] }

/-- The call of a validation, which is refused when there is no worker to validate. -/
def validate? (s : Elections W T) (work : Work W T) : Except WorkerError (Elections W T) :=
  if s.pool.hasValidator then .ok { s with validations := s.validations ++ [{ work := work }] }
  else .error (.noValidator s.pool.language)

/-- What there is after an event; calls that are refused and steps of no task do nothing. -/
def step (s : Elections W T) : ElectionEvent W T → Elections W T
  | .elect work => (s.elect? work).getD s
  | .validate work => (s.validate? work).toOption.getD s
  | .electionStep i =>
    match s.elections[i]? with
    | none => s
    | some task =>
      let (task, pool) := task.electionStep s.pool
      { s with pool := pool, elections := s.elections.set i task }
  | .validationStep i =>
    match s.validations[i]? with
    | none => s
    | some task =>
      let (task, pool) := task.step s.pool
      { s with pool := pool, validations := s.validations.set i task }
  | .work slot work => { s with pool := (s.pool.run slot work).2 }

/-- What there is after a sequence of events. -/
def run (s : Elections W T) (events : List (ElectionEvent W T)) : Elections W T :=
  events.foldl step s

end Elections

end EditorModes
