import EditorModes.Proofs.Worker.Pool
import EditorModes.Worker.Election
import Mathlib.Logic.Function.Iterate

/-!
# At most one election

The flag of a pool is set before the task of an election starts, and cleared by a task that has
failed.  Whatever the order in which calls are made and tasks go on, the flag is set as long as
there is an election that has not failed, and there is never more than one
(`Elections.run_excludes`).
-/

namespace EditorModes

namespace WorkerPool

variable {p : WorkerPool W} {slot : Nat}

@[simp]
theorem hasValidator_worker (p : WorkerPool W) (slot : Nat) :
  (p.worker slot).2.hasValidator = p.hasValidator
  := by
  rw [worker]
  split
  · rfl
  · split <;> rfl
  · rfl

@[simp]
theorem hasValidator_run (p : WorkerPool W) (slot : Nat) (work : Work W T) :
  (p.run slot work).2.hasValidator = p.hasValidator
  := by
  rw [← hasValidator_worker p slot, run]
  rcases p.worker slot with ⟨_ | _, _⟩ <;> rfl

/-- The worker of a slot may be asked for, whatever the slot. -/
theorem sameFrame_worker (p : WorkerPool W) (slot : Nat) :
  p.SameFrame (p.worker slot).2
  := by
  cases found : p.slots[slot]? with
  | none =>
    rw [worker, found]
    exact ⟨rfl, rfl, rfl, id⟩
  | some content => exact (worker_spec found).2.toSameFrame

/-- Work may be brought to a slot, whatever the slot. -/
theorem sameFrame_run (p : WorkerPool W) (slot : Nat) (work : Work W T) :
  p.SameFrame (p.run slot work).2
  := by
  cases found : p.slots[slot]? with
  | none =>
    rw [run, worker, found]
    exact ⟨rfl, rfl, rfl, id⟩
  | some content => exact (run_spec found work).2.toSameFrame

/-- A failure to get a worker is that of an attempt to create it, or that there is no such slot. -/
theorem error_of_worker {error : WorkerError} {next : WorkerPool W}
    (failed : p.worker slot = (.error error, next)) :
  error = .crashed p.language ∨ ∃ attempts, p.create slot attempts = .error error
  := by
  cases found : p.slots[slot]? with
  | none =>
    rw [worker, found] at failed
    exact .inl (Except.error.inj (congrArg Prod.fst failed)).symm
  | some content =>
    have offer_eq := (worker_spec found).1
    rw [failed] at offer_eq
    obtain ⟨attempts, -, created, -⟩ := Slot.exists_of_offer_error offer_eq.symm
    exact .inr ⟨attempts, created⟩

/-- A failure of work is one to get a worker, or a crash. -/
theorem error_of_run {error : WorkerError} {work : Work W T}
    (failed : (p.run slot work).1 = .error error) :
  error = .crashed p.language ∨ ∃ attempts, p.create slot attempts = .error error
  := by
  rw [run] at failed
  rcases got : p.worker slot with ⟨cause | worker, next⟩
  · rw [got] at failed
    obtain rfl := Except.error.inj failed
    exact error_of_worker got
  · rw [got] at failed
    have frame := sameFrame_worker p slot
    rw [got] at frame
    cases result : (work worker).2 with
    | some => simp [result, outcome] at failed
    | none =>
      simp only [result, outcome] at failed
      rw [← Except.error.inj failed, frame.language_eq]
      exact .inl rfl

/-- A worker that was asked for is there when it is asked for again. -/
theorem worker_again {worker : W} {next : WorkerPool W}
    (got : p.worker slot = (.ok worker, next)) :
  next.worker slot = (.ok worker, next)
  := by
  cases found : p.slots[slot]? with
  | none =>
    rw [WorkerPool.worker, found] at got
    simp at got
  | some content =>
    obtain ⟨offer_eq, brings⟩ := worker_spec found
    rw [got] at offer_eq brings
    have there := brings.served found
    rw [Slot.serve_of_offer offer_eq.symm] at there
    rw [WorkerPool.worker, there]
    rfl

theorem run_worker {worker : W} {next : WorkerPool W} (got : p.worker slot = (.ok worker, next))
    (work : Work W T) :
  next.run slot work = p.run slot work
  := by
  rw [run, run, got, worker_again got]

end WorkerPool

namespace PoolTask

variable {t : PoolTask W Unit} {p : WorkerPool W}

/-- Whether a task is on its way or has succeeded. -/
def holds (t : PoolTask W T) : Bool :=
  match t.stage with
  | .finished (.error _) => false
  | _ => true

/-- Whether the work of a task was done. -/
def succeeded (t : PoolTask W T) : Bool :=
  match t.stage with
  | .ended (.ok _) | .finished (.ok _) => true
  | _ => false

@[simp]
theorem work_step (t : PoolTask W T) (p : WorkerPool W) :
  (t.step p).1.work = t.work
  := by
  rw [step]
  split
  · split <;> rfl
  · rfl
  · rfl
  · rfl

/-- The pool is of the same kind after a step of a task, and no election starts or fails. -/
theorem pool_step (t : PoolTask W T) (p : WorkerPool W) :
  p.SameFrame (t.step p).2 ∧ (t.step p).2.hasValidator = p.hasValidator
  := by
  rw [step]
  split
  · have frame := p.sameFrame_worker p.validatorSlot
    have flag := p.hasValidator_worker p.validatorSlot
    split <;> next got =>
      rw [got] at frame flag
      exact ⟨frame, flag⟩
  · exact ⟨p.sameFrame_run _ _, p.hasValidator_run _ _⟩
  · exact ⟨⟨rfl, rfl, rfl, id⟩, rfl⟩
  · exact ⟨⟨rfl, rfl, rfl, id⟩, rfl⟩

/-- Whether a task has come to a failure. -/
def Failed (t : PoolTask W T) (error : WorkerError) : Prop :=
  t.stage = .ended (.error error) ∨ t.stage = .finished (.error error)

/-- The failure of a task is a crash, or one to create its worker. -/
theorem failed_of_step {t : PoolTask W T} {p : WorkerPool W} {error : WorkerError}
    (failed : (t.step p).1.Failed error) :
  t.Failed error ∨ error = .crashed p.language
    ∨ ∃ attempts, p.create p.validatorSlot attempts = .error error
  := by
  rw [step] at failed
  cases stage_eq : t.stage with
  | waiting =>
    rw [stage_eq] at failed
    rcases got : p.worker p.validatorSlot with ⟨cause | worker, next⟩
    · simp only [got, Failed, withStage, Stage.ended.injEq, Except.error.injEq, reduceCtorEq,
        or_false] at failed
      subst failed
      exact .inr (WorkerPool.error_of_worker got)
    · simp [got, Failed, withStage] at failed
  | ready =>
    rw [stage_eq] at failed
    simp only [Failed, withStage, Stage.ended.injEq, reduceCtorEq, or_false] at failed
    exact .inr (WorkerPool.error_of_run failed)
  | ended result =>
    simp only [stage_eq, Failed, withStage, Stage.finished.injEq, reduceCtorEq, false_or] at failed
    exact .inl (.inl (by rw [stage_eq, failed]))
  | finished result =>
    rw [stage_eq] at failed
    exact .inl failed

/-- Work that was done is done for good. -/
theorem succeeded_step {t : PoolTask W T} (p : WorkerPool W) (done : t.succeeded = true) :
  (t.step p).1.succeeded = true
  := by
  rw [succeeded] at done
  split at done
  · next stage_eq => simp [step, stage_eq, succeeded, withStage]
  · next stage_eq => simp [step, stage_eq, succeeded]
  · nomatch done

theorem holds_of_succeeded {t : PoolTask W T} (done : t.succeeded = true) :
  t.holds = true
  := by
  rw [succeeded] at done
  rw [holds]
  split
  · next stage_eq => simp [stage_eq] at done
  · rfl

/--
An election that has failed clears the flag with the step after which it is over.  No other step of
an election changes the flag, or whether the election holds.
-/
theorem electionStep_cases (t : PoolTask W Unit) (p : WorkerPool W) :
  (∃ error, t.stage = .ended (.error error)
      ∧ t.electionStep p
        = (t.withStage (.finished (.error error)), { p with hasValidator := false }))
    ∨ (t.electionStep p).1.holds = t.holds
      ∧ (t.electionStep p).2.hasValidator = p.hasValidator
  := by
  obtain ⟨-, flag⟩ := t.pool_step p
  rw [electionStep]
  cases stage_eq : t.stage with
  | waiting =>
    refine .inr ⟨?_, flag⟩
    simp only [step, stage_eq]
    split <;> simp [holds, withStage, stage_eq]
  | ready => exact .inr ⟨by simp [step, stage_eq, holds, withStage], flag⟩
  | ended result =>
    cases result with
    | error error => exact .inl ⟨error, rfl, by simp [step, stage_eq]⟩
    | ok => exact .inr ⟨by simp [step, stage_eq, holds, withStage], flag⟩
  | finished result => exact .inr ⟨by simp [step, stage_eq, holds], flag⟩

/-- A step of an election is that of a task, but for the flag. -/
theorem electionStep_fst (t : PoolTask W Unit) (p : WorkerPool W) :
  (t.electionStep p).1 = (t.step p).1 ∧ p.SameFrame (t.electionStep p).2
  := by
  have frame := (t.pool_step p).1
  rw [electionStep]
  generalize t.step p = after at frame ⊢
  obtain ⟨next, q⟩ := after
  dsimp only at frame ⊢
  split
  · exact ⟨rfl, frame.language_eq, frame.create_eq, frame.length_eq, frame.counted⟩
  · exact ⟨rfl, frame⟩

/-- A task that goes on without anything else in between has done its work after three steps. -/
theorem step_alone (work : Work W T) (p : WorkerPool W) :
  (fun s : PoolTask W T × WorkerPool W => s.1.step s.2)^[3] ({ work := work }, p)
    = ({ work := work, stage := .finished (p.run p.validatorSlot work).1 },
      (p.run p.validatorSlot work).2)
  := by
  have frame := p.sameFrame_worker p.validatorSlot
  simp only [Function.iterate_succ, Function.iterate_zero, Function.comp_apply, id]
  rcases got : p.worker p.validatorSlot with ⟨error | worker, next⟩
  · simp [step, withStage, got, WorkerPool.run]
  · rw [got] at frame
    have ready : ({ work := work } : PoolTask W T).step p
        = ({ work := work, stage := .ready }, next) := by
      simp [step, withStage, got]
    rw [ready]
    simp [step, withStage, frame.validatorSlot_eq, WorkerPool.run_worker got]

/-- An election that goes on without anything else in between is over after three steps. -/
theorem electionStep_alone (work : Work W Unit) (p : WorkerPool W) :
  (fun s : PoolTask W Unit × WorkerPool W => s.1.electionStep s.2)^[3] ({ work := work }, p)
    = ({ work := work, stage := .finished (p.finishElection work).1 }, (p.finishElection work).2)
  := by
  have frame := p.sameFrame_worker p.validatorSlot
  simp only [Function.iterate_succ, Function.iterate_zero, Function.comp_apply, id]
  rcases got : p.worker p.validatorSlot with ⟨error | worker, next⟩
  · simp [electionStep, step, withStage, got, WorkerPool.finishElection, WorkerPool.run]
  · rw [got] at frame
    have same_slot := frame.validatorSlot_eq
    have ready : ({ work := work } : PoolTask W Unit).electionStep p
        = ({ work := work, stage := .ready }, next) := by
      simp [electionStep, step, withStage, got]
    rw [ready]
    rcases ran : p.run p.validatorSlot work with ⟨error | ⟨⟩, q⟩
    · simp [electionStep, step, withStage, same_slot, WorkerPool.run_worker got, ran,
        WorkerPool.finishElection]
    · simp [electionStep, step, withStage, same_slot, WorkerPool.run_worker got, ran,
        WorkerPool.finishElection]

end PoolTask

namespace Elections

variable {s : Elections W T} {events more : List (ElectionEvent W T)}

/-- Whether there is an election that has not failed. -/
def HasElection (s : Elections W T) : Prop :=
  ∃ t ∈ s.elections, t.holds = true

/-- Elections on a pool of a kind, whose flag tells whether there is one that has not failed. -/
structure Flagged (p : WorkerPool W) (s : Elections W T) : Prop where
  frame : p.SameFrame s.pool
  count_eq : s.elections.countP (·.holds) = s.pool.hasValidator.toNat
  failures : ∀ t ∈ s.validations, ∀ error, t.Failed error →
    error = .crashed p.language ∨ ∃ attempts, p.create p.validatorSlot attempts = .error error

theorem Flagged.hasElection_iff {p : WorkerPool W} (flagged : s.Flagged p) :
  s.HasElection ↔ s.pool.hasValidator = true
  := by
  rw [HasElection, ← List.countP_pos_iff, flagged.count_eq]
  cases s.pool.hasValidator <;> simp

theorem flagged_start (language : String) (count : Nat)
    (create : Nat → Nat → Except WorkerError W) :
  ({ pool := .ofSize language count create } : Elections W T).Flagged
    (.ofSize language count create)
  := ⟨⟨rfl, rfl, rfl, id⟩, rfl, by simp⟩

/-- The call of an election is refused exactly when there is one that has not failed. -/
theorem Flagged.elect?_eq_none_iff {p : WorkerPool W} (flagged : s.Flagged p)
    (work : Work W Unit) :
  s.elect? work = none ↔ s.HasElection
  := by
  rw [flagged.hasElection_iff, elect?, Option.map_eq_none_iff, WorkerPool.startElection?]
  split
  · next elected => simp [elected]
  · next free => simp [free]

/-- The call of a validation is refused exactly when there is no election that has not failed. -/
theorem Flagged.validate?_eq_error_iff {p : WorkerPool W} (flagged : s.Flagged p)
    (work : Work W T) {error : WorkerError} :
  s.validate? work = .error error ↔ ¬ s.HasElection ∧ error = .noValidator p.language
  := by
  rw [flagged.hasElection_iff, validate?, ← flagged.frame.language_eq]
  split
  · next elected => simp [elected]
  · next free => simp [free, eq_comm]

/-- The step of an election keeps the agreement of the flag and the elections. -/
theorem count_electionStep {i : Nat} {t : PoolTask W Unit}
    (count_eq : s.elections.countP (·.holds) = s.pool.hasValidator.toNat)
    (found : s.elections[i]? = some t) :
  (s.elections.set i (t.electionStep s.pool).1).countP (·.holds)
    = (t.electionStep s.pool).2.hasValidator.toNat
  := by
  obtain ⟨inside, here⟩ := List.getElem?_eq_some_iff.mp found
  have among : t ∈ s.elections := here ▸ List.getElem_mem inside
  rw [List.countP_set inside, here, count_eq]
  rcases t.electionStep_cases s.pool with ⟨error, stage_eq, step_eq⟩ | ⟨holds_eq, flag_eq⟩
  · have held : t.holds = true := by simp [PoolTask.holds, stage_eq]
    rw [step_eq, if_pos held]
    cases s.pool.hasValidator <;> simp [PoolTask.holds, PoolTask.withStage]
  · rw [holds_eq, flag_eq]
    have positive : t.holds = true → 0 < s.pool.hasValidator.toNat := by
      intro held
      rw [← count_eq]
      exact List.countP_pos_iff.mpr ⟨t, among, held⟩
    cases held : t.holds with
    | true =>
      have := positive held
      simp only [if_true]
      omega
    | false => simp

/-- The call of an election is one more that has not failed, or is refused. -/
theorem Flagged.elect {p : WorkerPool W} (flagged : s.Flagged p) (work : Work W Unit) :
  (s.step (.elect work)).Flagged p
  := by
  rw [step, elect?, WorkerPool.startElection?]
  split
  · exact flagged
  · next free =>
    refine ⟨flagged.frame.trans ⟨rfl, rfl, rfl, id⟩, ?_, flagged.failures⟩
    have none : s.elections.countP (·.holds) = 0 := by
      rw [flagged.count_eq]
      simp [free]
    have one : ([{ work := work }] : List (PoolTask W Unit)).countP (·.holds) = 1 := rfl
    rw [Option.map_some, Option.getD_some, List.countP_append, none, one]
    rfl

/-- The call of a validation has not failed yet, or is refused. -/
theorem Flagged.validate {p : WorkerPool W} (flagged : s.Flagged p) (work : Work W T) :
  (s.step (.validate work)).Flagged p
  := by
  rw [step, validate?]
  split
  · refine ⟨flagged.frame, flagged.count_eq, fun t among error failed => ?_⟩
    rcases List.mem_append.mp among with before | new
    · exact flagged.failures t before error failed
    · obtain rfl := List.mem_singleton.mp new
      simp [PoolTask.Failed] at failed
  · exact flagged

/-- The step of a validation does not change the flag. -/
theorem Flagged.validationStep {p : WorkerPool W} (flagged : s.Flagged p) (i : Nat) :
  (s.step (.validationStep i)).Flagged p
  := by
  rw [step]
  cases found : s.validations[i]? with
  | none => exact flagged
  | some t =>
    obtain ⟨frame, flag⟩ := t.pool_step s.pool
    refine ⟨flagged.frame.trans frame, flagged.count_eq.trans (congrArg Bool.toNat flag.symm), ?_⟩
    intro other among error failed
    rcases List.mem_or_eq_of_mem_set among with before | rfl
    · exact flagged.failures other before error failed
    · rcases PoolTask.failed_of_step failed with failed | cause
      · exact flagged.failures t (List.mem_of_getElem? found) error failed
      · rwa [flagged.frame.language_eq, flagged.frame.create_eq, flagged.frame.validatorSlot_eq]
          at cause

/-- The flag and the elections agree after each event. -/
theorem Flagged.step {p : WorkerPool W} (flagged : s.Flagged p) (event : ElectionEvent W T) :
  (s.step event).Flagged p
  := by
  cases event with
  | elect work => exact flagged.elect work
  | validate work => exact flagged.validate work
  | electionStep i =>
    rw [Elections.step]
    cases found : s.elections[i]? with
    | none => exact flagged
    | some t => exact ⟨flagged.frame.trans (t.electionStep_fst s.pool).2,
        count_electionStep flagged.count_eq found, flagged.failures⟩
  | validationStep i => exact flagged.validationStep i
  | work slot work =>
    refine ⟨flagged.frame.trans (s.pool.sameFrame_run slot work), ?_, flagged.failures⟩
    rw [Elections.step, WorkerPool.hasValidator_run]
    exact flagged.count_eq

theorem Flagged.run {p : WorkerPool W} (flagged : s.Flagged p)
    (events : List (ElectionEvent W T)) :
  (s.run events).Flagged p
  := by
  induction events generalizing s with
  | nil => exact flagged
  | cons event events ih => apply ih (flagged.step event)

/-- An election is never forgotten, and one whose work was done stays so. -/
theorem exists_succeeded_step {i : Nat} {t : PoolTask W Unit} (found : s.elections[i]? = some t)
    (done : t.succeeded = true) (event : ElectionEvent W T) :
  ∃ later, (s.step event).elections[i]? = some later ∧ later.work = t.work
    ∧ later.succeeded = true
  := by
  obtain ⟨inside, -⟩ := List.getElem?_eq_some_iff.mp found
  cases event with
  | elect work =>
    rw [step, elect?, WorkerPool.startElection?]
    split
    · exact ⟨t, found, rfl, done⟩
    · exact ⟨t, (List.getElem?_append_left inside).trans found, rfl, done⟩
  | validate work =>
    rw [step, validate?]
    split <;> exact ⟨t, found, rfl, done⟩
  | electionStep j =>
    rw [step]
    cases there : s.elections[j]? with
    | none => exact ⟨t, found, rfl, done⟩
    | some other =>
      by_cases same : j = i
      · subst same
        obtain rfl := Option.some.inj (found.symm.trans there)
        refine ⟨(t.electionStep s.pool).1, List.getElem?_set_self inside, ?_⟩
        rw [(t.electionStep_fst s.pool).1]
        exact ⟨t.work_step s.pool, PoolTask.succeeded_step s.pool done⟩
      · exact ⟨t, (List.getElem?_set_ne same).trans found, rfl, done⟩
  | validationStep j =>
    rw [step]
    split <;> exact ⟨t, found, rfl, done⟩
  | work slot work => exact ⟨t, found, rfl, done⟩

/-- An election whose work was done stays so, whatever happens. -/
theorem exists_succeeded_run {i : Nat} {t : PoolTask W Unit} (found : s.elections[i]? = some t)
    (done : t.succeeded = true) (more : List (ElectionEvent W T)) :
  ∃ later, (s.run more).elections[i]? = some later ∧ later.work = t.work
    ∧ later.succeeded = true
  := by
  induction more generalizing s t with
  | nil => exact ⟨t, found, rfl, done⟩
  | cons event more ih =>
    obtain ⟨next, there, work_eq, still⟩ := exists_succeeded_step found done event
    obtain ⟨later, at_end, same_work, done_later⟩ := ih there still
    exact ⟨later, at_end, same_work.trans work_eq, done_later⟩

theorem Flagged.not_hasElection_of_failed {p : WorkerPool W} (flagged : s.Flagged p) {i : Nat}
    {t : PoolTask W Unit} {error : WorkerError} (found : s.elections[i]? = some t)
    (failed : t.stage = .ended (.error error)) :
  ¬ (s.step (.electionStep i)).HasElection
  := by
  rw [(flagged.step (.electionStep i)).hasElection_iff, Elections.step, found]
  rcases t.electionStep_cases s.pool with ⟨_, -, step_eq⟩ | ⟨holds_eq, flag_eq⟩
  · simp [step_eq]
  · simp [PoolTask.electionStep, failed]

theorem run_of_elect?_eq_none {work : Work W Unit} (refused : s.elect? work = none)
    (more : List (ElectionEvent W T)) :
  s.run (.elect work :: more) = s.run more
  := by
  rw [run, List.foldl_cons, step, refused]
  rfl

theorem run_of_validate?_eq_error {work : Work W T} {error : WorkerError}
    (refused : s.validate? work = .error error) (more : List (ElectionEvent W T)) :
  s.run (.validate work :: more) = s.run more
  := by
  rw [run, List.foldl_cons, step, refused]
  rfl

/--
Elections and validations on a pool of any size, whose calls and steps come in any order.  At no
time is there more than one election that is on its way or has succeeded, and one that has succeeded
stays the only one forever.  As long as there is one, the call of an election is refused and is as
if it was never made, and calls of validations are taken; else the call of an election starts it,
and the call of a validation is refused for want of a worker and is as if it was never made.  When
the pool learns that an election has failed, there is none any more.  A validation that was taken
fails only when its work crashes or its worker cannot be created.
-/
theorem run_excludes (language : String) (count : Nat) (create : Nat → Nat → Except WorkerError W)
    (events : List (ElectionEvent W T)) :
  let s := ({ pool := .ofSize language count create } : Elections W T).run events
  s.elections.countP (·.holds) ≤ 1 ∧ s.elections.countP (·.succeeded) ≤ 1
    ∧ (∀ (i : Nat) t, s.elections[i]? = some t → t.succeeded = true → ∀ more,
      (∃ later, (s.run more).elections[i]? = some later ∧ later.work = t.work
        ∧ later.succeeded = true)
      ∧ ∀ work, (s.run more).elect? work = none)
    ∧ (s.HasElection → ∀ work, s.elect? work = none
      ∧ ∀ more, s.run (.elect work :: more) = s.run more)
    ∧ (¬ s.HasElection → ∀ work, ∃ next, s.elect? work = some next
      ∧ next.elections = s.elections ++ [{ work := work }] ∧ s.step (.elect work) = next)
    ∧ (∀ (i : Nat) t error, s.elections[i]? = some t → t.stage = .ended (.error error) →
      ¬ (s.step (.electionStep i)).HasElection)
    ∧ (¬ s.HasElection → ∀ work, s.validate? work = .error (.noValidator language)
      ∧ ∀ more, s.run (.validate work :: more) = s.run more)
    ∧ (s.HasElection → ∀ work,
      s.validate? work = .ok { s with validations := s.validations ++ [{ work := work }] })
    ∧ ∀ t ∈ s.validations, ∀ error, t.Failed error →
      error = .crashed language ∨ ∃ attempts, create (max count 1 - 1) attempts = .error error
  := by
  intro s
  have flagged : s.Flagged (.ofSize language count create) :=
    (flagged_start language count create).run events
  have holds_le : s.elections.countP (·.holds) ≤ 1 := by
    rw [flagged.count_eq]
    exact Bool.toNat_le _
  have succeeded_le : s.elections.countP (·.succeeded) ≤ s.elections.countP (·.holds) :=
    List.countP_mono_left fun _ _ => PoolTask.holds_of_succeeded
  refine ⟨holds_le, Nat.le_trans succeeded_le holds_le, fun i t found done more => ?_,
    fun elected work => ?_, fun free work => ?_, fun i t error => flagged.not_hasElection_of_failed,
    fun free work => ?_, fun elected work => ?_, ?_⟩
  · obtain ⟨later, there, work_eq, still⟩ := exists_succeeded_run found done more
    refine ⟨⟨later, there, work_eq, still⟩, fun work => ?_⟩
    rw [(flagged.run more).elect?_eq_none_iff]
    exact ⟨later, List.mem_of_getElem? there, PoolTask.holds_of_succeeded still⟩
  · have refused := (flagged.elect?_eq_none_iff work).mpr elected
    exact ⟨refused, run_of_elect?_eq_none refused⟩
  · have taken := mt (flagged.elect?_eq_none_iff work).mp free
    obtain ⟨next, started⟩ := Option.ne_none_iff_exists'.mp taken
    refine ⟨next, started, ?_, by rw [step, started]; rfl⟩
    obtain ⟨pool, -, rfl⟩ := Option.map_eq_some_iff.mp started
    rfl
  · have refused := (flagged.validate?_eq_error_iff work).mpr ⟨free, rfl⟩
    exact ⟨refused, run_of_validate?_eq_error refused⟩
  · rw [validate?, if_pos (flagged.hasElection_iff.mp elected)]
  · have last_eq : (WorkerPool.ofSize language count create).validatorSlot = max count 1 - 1 := by
      rw [WorkerPool.validatorSlot, WorkerPool.size_ofSize]
    rw [← last_eq]
    exact flagged.failures

/-- An election whose work crashes, and another that is called before and after it has failed. -/
def rerun : List (ElectionEvent Nat Nat) :=
  [.elect fun n => (n, none), .electionStep 0, .electionStep 0, .elect fun n => (n + 2, some ()),
    .electionStep 0, .elect fun n => (n + 1, some ()), .electionStep 1, .electionStep 1]

/--
Only the call after the failure starts an election, and it succeeds: from then on each further call
is refused.
-/
theorem run_excludes_rerun :
  let s := ({ pool := .ofSize "less" 2 fun _ _ => .ok 0 } : Elections Nat Nat).run rerun
  s.elections.length = 2 ∧ s.pool.workers = [1] ∧ s.elections.countP (·.holds) = 1
    ∧ ∀ more work, (s.run more).elect? work = none
  := by
  obtain ⟨at_most, -, succeeded, -⟩ := run_excludes "less" 2 (fun _ _ => .ok 0) rerun
  refine ⟨rfl, rfl, ?_, fun more => (succeeded 1 _ rfl rfl more).2⟩
  apply Nat.le_antisymm at_most
  decide

end Elections

end EditorModes
