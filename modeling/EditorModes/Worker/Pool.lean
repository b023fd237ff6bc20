import EditorModes.Feature.Provider

/-!
# Pools of workers

A pool has a fixed number of slots, at least one.  The worker of a slot is created when the slot
is first needed, and stays; when its creation fails the slot stays empty, and the next need tries
again.  Work on a worker may change it and may crash, which leaves the worker in its slot.

Requests run on the worker of the first slot.  The worker of the last slot validates, once it was
elected to; an election is over when its work has run on that worker, and a failed one may be
tried again.
-/

namespace EditorModes

/-- A place for a worker. -/
inductive Slot (W : Type u) where
  /-- No worker yet, after some failed attempts to create one. -/
  | vacant (attempts : Nat)
  | filled (worker : W)
  deriving Repr

/-- The worker in a slot. -/
def Slot.worker? : Slot W → Option W
  | vacant _ => none
  | filled worker => some worker

/-- Work on a worker: the worker afterwards, and the result unless the work crashes. -/
abbrev Work (W : Type u) (T : Type v) := W → W × Option T

/-- Slots for workers of a language. -/
structure WorkerPool (W : Type u) where
  language : String
  /-- Creates the worker of a slot, given the number of failed attempts before. -/
  create : (slot attempts : Nat) → Except WorkerError W
  slots : List (Slot W)
  /-- Whether an election was started and has not failed. -/
  hasValidator : Bool := false
  /-- The number of workers created so far. -/
  created : Nat := 0

namespace WorkerPool

/-- A pool without workers, with the given number of slots and at least one. -/
def ofSize (language : String) (count : Nat) (create : Nat → Nat → Except WorkerError W) :
    WorkerPool W where
  language := language
  create := create
  slots := List.replicate (max count 1) (.vacant 0)

/-- The number of slots. -/
def size (p : WorkerPool W) : Nat :=
  p.slots.length

/-- The workers that are there. -/
def workers (p : WorkerPool W) : List W :=
  p.slots.filterMap Slot.worker?

/-- The slot whose worker answers requests. -/
def electedSlot : Nat := 0

/-- The slot whose worker validates. -/
def validatorSlot (p : WorkerPool W) : Nat :=
  p.size - 1

/-- The pool with another content of a slot. -/
def setSlot (p : WorkerPool W) (slot : Nat) (content : Slot W) : WorkerPool W :=
  { p with slots := p.slots.set slot content }

/-- The pool with a worker that was just created for a slot. -/
def addWorker (p : WorkerPool W) (slot : Nat) (worker : W) : WorkerPool W :=
  { p.setSlot slot (.filled worker) with created := p.created + 1 }

/-- The worker of a slot, created if need be. -/
def worker (p : WorkerPool W) (slot : Nat) : Except WorkerError W × WorkerPool W :=
  match p.slots[slot]? with
  | some (.filled worker) => (.ok worker, p)
  | some (.vacant attempts) =>
    match p.create slot attempts with
    | .ok worker => (.ok worker, p.addWorker slot worker)
    | .error error => (.error error, p.setSlot slot (.vacant (attempts + 1)))
  | none => (.error (.crashed p.language), p)

/-- The result of work, or that it crashed. -/
def outcome (p : WorkerPool W) : Option T → Except WorkerError T
  | some result => .ok result
  | none => .error (.crashed p.language)

/-- Work on the worker of a slot. -/
def run (p : WorkerPool W) (slot : Nat) (work : Work W T) : Except WorkerError T × WorkerPool W :=
  match p.worker slot with
  | (.error error, p) => (.error error, p)
  | (.ok worker, p) =>
    let (worker, result) := work worker
    (p.outcome result, p.setSlot slot (.filled worker))

/-- Work on the worker that answers requests. -/
def runOnElected (p : WorkerPool W) (work : Work W T) : Except WorkerError T × WorkerPool W :=
  p.run electedSlot work

/-- Work on the worker that validates, if one was elected. -/
def runOnValidator (p : WorkerPool W) (work : Work W T) : Except WorkerError T × WorkerPool W :=
  if p.hasValidator then p.run p.validatorSlot work
  else (.error (.noValidator p.language), p)

/--
Work on the workers of some slots.  Work that crashes has no result; a failed creation ends it all,
but what has run by then has run.
-/
def runOnSlots (p : WorkerPool W) (work : Work W T) :
    List Nat → Except WorkerError (List (Option T)) × WorkerPool W
  | [] => (.ok [], p)
  | slot :: slots =>
    match p.worker slot with
    | (.error error, p) => (.error error, p)
    | (.ok worker, p) =>
      let (worker, result) := work worker
      let (results, p) := runOnSlots (p.setSlot slot (.filled worker)) work slots
      (results.map (result :: ·), p)

/-- Work on all workers, with the results in the order of the slots. -/
def runOnAll (p : WorkerPool W) (work : Work W T) :
    Except WorkerError (List T) × WorkerPool W :=
  let (results, p) := p.runOnSlots work (List.range p.size)
  (results.bind fun results => results.mapM p.outcome, p)

/-- The pool with an election on its way; none when one is on its way already or has succeeded. -/
def startElection? (p : WorkerPool W) : Option (WorkerPool W) :=
  if p.hasValidator then none else some { p with hasValidator := true }

/-- The end of an election: the work runs on the worker that is to validate. -/
def finishElection (p : WorkerPool W) (work : Work W Unit) :
    Except WorkerError Unit × WorkerPool W :=
  match p.run p.validatorSlot work with
  | (.ok (), p) => (.ok (), p)
  | (.error error, p) => (.error error, { p with hasValidator := false })

/-- A whole election; no result when none is needed. -/
def elect (p : WorkerPool W) (work : Work W Unit) :
    Option (Except WorkerError Unit) × WorkerPool W :=
  match p.startElection? with
  | none => (none, p)
  | some p =>
    let (result, p) := p.finishElection work
    (some result, p)

end WorkerPool

end EditorModes
