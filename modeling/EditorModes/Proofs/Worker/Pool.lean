import EditorModes.Worker.Pool
import Mathlib.Data.List.Basic
import Mathlib.Data.List.Induction
import Mathlib.Logic.Relation

/-!
# Calls on a pool

Whatever calls are made on a pool, one after another, a worker that was created stays in its slot,
and only the work of calls changes it (`WorkerPool.run_keeps_workers`).  What becomes of a slot that
work is brought to is said once (`Slot.serve`), and so is which slots a call reaches
(`WorkerPool.Call.Reaches`).

An attempt to create a worker is told by its slot and the number of attempts that failed there
before.  No attempt is made twice, so that what a pool is given to create its workers stands for any
sequence of successes and failures.
-/

namespace EditorModes

namespace Slot

variable {create : Nat → Except WorkerError W} {change : W → W} {content : Slot W}

/-- The worker that a slot has for work, if one is there or the next attempt creates one. -/
def offer (create : Nat → Except WorkerError W) : Slot W → Except WorkerError W
  | vacant attempts => create attempts
  | filled worker => .ok worker

/--
A slot after work was brought to it: the worker that is there, or that could be created, is changed
by the work; else one more attempt has failed.
-/
def serve (create : Nat → Except WorkerError W) (change : W → W) : Slot W → Slot W
  | filled worker => filled (change worker)
  | vacant attempts =>
    match create attempts with
    | .ok worker => filled (change worker)
    | .error _ => vacant (attempts + 1)

/-- The worker that a slot has for work is in it afterwards, changed by the work. -/
theorem serve_of_offer {worker : W} (offered : content.offer create = .ok worker) :
  content.serve create change = filled (change worker)
  := by
  cases content with
  | filled => rw [serve, Except.ok.inj offered]
  | vacant attempts =>
    rw [offer] at offered
    rw [serve, offered]

/-- A slot that has no worker for work counts one more failed attempt. -/
theorem exists_of_offer_error {error : WorkerError} (failed : content.offer create = .error error) :
  ∃ attempts, content = vacant attempts ∧ create attempts = .error error
    ∧ ∀ change, content.serve create change = vacant (attempts + 1)
  := by
  cases content with
  | filled => nomatch failed
  | vacant attempts =>
    rw [offer] at failed
    refine ⟨attempts, rfl, failed, fun change => ?_⟩
    rw [serve, failed]

end Slot

namespace WorkerPool

variable {p q : WorkerPool W} {slot : Nat} {content : Slot W}

/-! ### Work on one slot -/

/-- The worker that a slot of the pool has for work. -/
def offer (p : WorkerPool W) (slot : Nat) : Except WorkerError W :=
  match p.slots[slot]? with
  | some content => content.offer (p.create slot)
  | none => .error (.crashed p.language)

/-- The number of workers created is the number of those that are there. -/
def Counted (p : WorkerPool W) : Prop :=
  p.created = p.workers.length

/-- A pool of the same kind with as many slots, that counts its workers as well. -/
structure SameFrame (p q : WorkerPool W) : Prop where
  language_eq : q.language = p.language
  create_eq : q.create = p.create
  length_eq : q.slots.length = p.slots.length
  counted : p.Counted → q.Counted

theorem offer_eq (found : p.slots[slot]? = some content) :
  p.offer slot = content.offer (p.create slot)
  := by
  rw [offer, found]

theorem SameFrame.offer_eq (frame : p.SameFrame q) (same : q.slots[slot]? = p.slots[slot]?) :
  q.offer slot = p.offer slot
  := by
  rw [offer, offer, same, frame.create_eq, frame.language_eq]

theorem SameFrame.trans {r : WorkerPool W} (first : p.SameFrame q) (second : q.SameFrame r) :
  p.SameFrame r
  := ⟨second.language_eq.trans first.language_eq, second.create_eq.trans first.create_eq,
    second.length_eq.trans first.length_eq, second.counted ∘ first.counted⟩

theorem SameFrame.outcome_eq (frame : p.SameFrame q) (result : Option T) :
  q.outcome result = p.outcome result
  := by
  cases result with
  | some => rfl
  | none => rw [outcome, outcome, frame.language_eq]

theorem SameFrame.validatorSlot_eq (frame : p.SameFrame q) :
  q.validatorSlot = p.validatorSlot
  := by
  rw [validatorSlot, validatorSlot, size, size, frame.length_eq]

/-- Another content of a slot changes the number of workers by the one slot. -/
theorem length_workers_setSlot (found : p.slots[slot]? = some content) (other : Slot W) :
  (p.setSlot slot other).workers.length + content.worker?.toList.length
    = p.workers.length + other.worker?.toList.length
  := by
  obtain ⟨inside, rfl⟩ := List.getElem?_eq_some_iff.mp found
  have split := List.take_append_drop slot p.slots
  rw [List.drop_eq_getElem_cons inside] at split
  have before : p.workers = (p.slots.take slot).filterMap Slot.worker?
      ++ p.slots[slot].worker?.toList ++ (p.slots.drop (slot + 1)).filterMap Slot.worker? := by
    rw [workers, ← congrArg (List.filterMap Slot.worker?) split]
    cases p.slots[slot] <;> simp [List.filterMap_cons, Slot.worker?]
  have after : (p.setSlot slot other).workers = (p.slots.take slot).filterMap Slot.worker?
      ++ other.worker?.toList ++ (p.slots.drop (slot + 1)).filterMap Slot.worker? := by
    rw [workers, setSlot, List.set_eq_take_append_cons_drop, if_pos inside]
    cases other <;> simp [List.filterMap_cons, Slot.worker?]
  simp only [before, after, List.length_append]
  omega

/-- Work was brought to a slot, whose content it changed. -/
structure Brings (p : WorkerPool W) (slot : Nat) (content : Slot W) (change : W → W)
    (q : WorkerPool W) : Prop extends p.SameFrame q where
  slots_eq : q.slots = p.slots.set slot (content.serve (p.create slot) change)

/-- The worker of a slot is the one that the slot has, and it is in the slot from then on. -/
theorem worker_spec (found : p.slots[slot]? = some content) :
  (p.worker slot).1 = content.offer (p.create slot)
    ∧ p.Brings slot content id (p.worker slot).2
  := by
  obtain ⟨inside, here⟩ := List.getElem?_eq_some_iff.mp found
  rw [worker, found]
  cases content with
  | filled worker =>
    have same : p.slots.set slot (.filled worker) = p.slots := by rw [← here, List.set_getElem_self]
    exact ⟨rfl, ⟨rfl, rfl, rfl, id⟩, same.symm⟩
  | vacant attempts =>
    dsimp only [Slot.offer]
    cases created : p.create slot attempts with
    | ok worker =>
      refine ⟨rfl, ⟨rfl, rfl, List.length_set, fun counted => ?_⟩, ?_⟩
      · have more : (p.setSlot slot (.filled worker)).workers.length = p.workers.length + 1 :=
          length_workers_setSlot found (.filled worker)
        rw [Counted] at counted
        exact (congrArg (· + 1) counted).trans more.symm
      · rw [Slot.serve, created]
        rfl
    | error error =>
      refine ⟨rfl, ⟨rfl, rfl, List.length_set, fun counted => ?_⟩, ?_⟩
      · have same : (p.setSlot slot (.vacant (attempts + 1))).workers.length = p.workers.length :=
          length_workers_setSlot found (.vacant (attempts + 1))
        exact counted.trans same.symm
      · rw [Slot.serve, created]
        rfl

/-- Work changes the worker that a slot has, once it is there. -/
theorem Brings.work {change : W → W} {worker : W} (brings : p.Brings slot content id q)
    (inside : slot < p.slots.length) (offered : content.offer (p.create slot) = .ok worker) :
  p.Brings slot content change (q.setSlot slot (.filled (change worker)))
  := by
  have slots_eq := brings.slots_eq
  rw [Slot.serve_of_offer offered] at slots_eq
  have there : q.slots[slot]? = some (.filled worker) := by
    rw [slots_eq, List.getElem?_set_self inside]
    rfl
  refine ⟨brings.toSameFrame.trans ⟨rfl, rfl, List.length_set, fun counted => ?_⟩, ?_⟩
  · have same := length_workers_setSlot there (.filled (change worker))
    exact counted.trans (Nat.add_right_cancel same).symm
  · rw [setSlot, slots_eq, List.set_set, Slot.serve_of_offer offered]

theorem Brings.failed {change : W → W} {error : WorkerError}
    (brings : p.Brings slot content change q)
    (failed : content.offer (p.create slot) = .error error) (other : W → W) :
  p.Brings slot content other q
  := by
  obtain ⟨attempts, -, -, serve_eq⟩ := Slot.exists_of_offer_error failed
  refine ⟨brings.toSameFrame, ?_⟩
  rw [brings.slots_eq, serve_eq, serve_eq]

/-- Work runs on the worker that the slot has, or comes to the failure to create one. -/
theorem run_spec (found : p.slots[slot]? = some content) (work : Work W T) :
  (p.run slot work).1 = ((p.offer slot).bind fun worker => p.outcome (work worker).2)
    ∧ p.Brings slot content (fun worker => (work worker).1) (p.run slot work).2
  := by
  obtain ⟨inside, -⟩ := List.getElem?_eq_some_iff.mp found
  obtain ⟨offer_eq, brings⟩ := worker_spec found
  rw [WorkerPool.offer_eq found, run]
  rcases got : p.worker slot with ⟨error | worker, next⟩
  · rw [got] at offer_eq brings
    refine ⟨?_, brings.failed offer_eq.symm _⟩
    rw [← offer_eq]
    rfl
  · rw [got] at offer_eq brings
    refine ⟨?_, brings.work inside offer_eq.symm⟩
    rw [← offer_eq]
    exact brings.outcome_eq (work worker).2

/-! ### Work on several slots -/

/-- A needed slot is reached when all that are needed before it have a worker for work. -/
def Reaches (p : WorkerPool W) (needs : Nat → Prop) (slot : Nat) : Prop :=
  needs slot ∧ ∀ earlier < slot, needs earlier → ∃ worker, p.offer earlier = .ok worker

/-- Work was brought to the slots that are reached of those that are needed. -/
structure Serves (p : WorkerPool W) (needs : Nat → Prop) (change : W → W) (q : WorkerPool W) : Prop
    extends p.SameFrame q where
  served : ∀ {slot content}, p.slots[slot]? = some content → p.Reaches needs slot →
    q.slots[slot]? = some (content.serve (p.create slot) change)
  untouched : ∀ {slot}, ¬ p.Reaches needs slot → q.slots[slot]? = p.slots[slot]?

theorem reaches_first {needs : Nat → Prop} (needed : needs slot)
    (first : ∀ other, needs other → slot ≤ other) :
  p.Reaches needs slot
  := ⟨needed, fun earlier before among => absurd (first earlier among) (Nat.not_le.mpr before)⟩

theorem Reaches.eq_of_failed {needs : Nat → Prop} {other : Nat} {error : WorkerError}
    (reached : p.Reaches needs other) (needed : needs slot)
    (first : ∀ other, needs other → slot ≤ other) (failed : p.offer slot = .error error) :
  other = slot
  := by
  apply Nat.le_antisymm _ (first other reached.1)
  by_contra before
  obtain ⟨worker, offered⟩ := reached.2 slot (Nat.not_le.mp before) needed
  nomatch failed.symm.trans offered

theorem serves_nothing {needs : Nat → Prop} (none : ∀ slot, ¬ needs slot) (change : W → W) :
  p.Serves needs change p
  := ⟨⟨rfl, rfl, rfl, id⟩, fun _ reached => absurd reached.1 (none _), fun _ => rfl⟩

theorem Brings.untouched {change : W → W} {other : Nat} (brings : p.Brings slot content change q)
    (different : other ≠ slot) :
  q.slots[other]? = p.slots[other]?
  := by
  rw [brings.slots_eq, List.getElem?_set_ne different.symm]

theorem Brings.served {change : W → W} (brings : p.Brings slot content change q)
    (found : p.slots[slot]? = some content) :
  q.slots[slot]? = some (content.serve (p.create slot) change)
  := by
  obtain ⟨inside, -⟩ := List.getElem?_eq_some_iff.mp found
  rw [brings.slots_eq, List.getElem?_set_self inside]

/-- Work on the first of some slots, when it is the only one or has no worker. -/
theorem Brings.serves {needs : Nat → Prop} {change : W → W}
    (brings : p.Brings slot content change q)
    (found : p.slots[slot]? = some content) (needed : needs slot)
    (first : ∀ other, needs other → slot ≤ other)
    (last : (∀ other, needs other → other = slot) ∨ ∃ error, p.offer slot = .error error) :
  p.Serves needs change q
  := by
  have only {other : Nat} (reached : p.Reaches needs other) : other = slot := by
    rcases last with alone | ⟨error, failed⟩
    · exact alone other reached.1
    · apply reached.eq_of_failed needed first failed
  refine ⟨brings.toSameFrame, ?_, ?_⟩
  · intro other content' found' reached
    obtain rfl := only reached
    obtain rfl := Option.some.inj (found.symm.trans found')
    apply brings.served found
  · intro other unreached
    apply brings.untouched
    rintro rfl
    apply unreached (reaches_first needed first)

theorem Brings.offer_eq {change : W → W} {other : Nat} (brings : p.Brings slot content change q)
    (different : other ≠ slot) :
  q.offer other = p.offer other
  := brings.toSameFrame.offer_eq (brings.untouched different)

omit p q content in
theorem le_of_mem_cons {slots : List Nat} {other : Nat} (behind : ∀ other ∈ slots, slot < other)
    (among : other ∈ slot :: slots) :
  slot ≤ other
  := by
  rcases List.mem_cons.mp among with rfl | among
  · exact Nat.le_refl _
  · exact Nat.le_of_lt (behind other among)

/-- Behind a slot that has a worker for work, the slots are reached as if they were the first. -/
theorem Brings.reaches_iff {change : W → W} {worker : W} {slots : List Nat} {other : Nat}
    (brings : p.Brings slot content change q) (offered : p.offer slot = .ok worker)
    (behind : ∀ other ∈ slots, slot < other) (different : other ≠ slot) :
  q.Reaches (· ∈ slots) other ↔ p.Reaches (· ∈ slot :: slots) other
  := by
  have same {earlier : Nat} (among : earlier ∈ slots) : q.offer earlier = p.offer earlier :=
    brings.offer_eq (Nat.ne_of_gt (behind earlier among))
  simp only [Reaches, List.mem_cons, different, false_or]
  refine and_congr_right fun _ => forall₂_congr fun earlier _ => ⟨fun ready => ?_, fun ready => ?_⟩
  · rintro (rfl | among)
    · exact ⟨worker, offered⟩
    · rw [← same among]
      exact ready among
  · intro among
    rw [same among]
    exact ready (.inr among)

/-- Work on a slot that has a worker, and then on some that come behind it. -/
theorem Brings.serves_more {r : WorkerPool W} {change : W → W} {worker : W} {slots : List Nat}
    (brings : p.Brings slot content change q) (found : p.slots[slot]? = some content)
    (offered : p.offer slot = .ok worker) (behind : ∀ other ∈ slots, slot < other)
    (more : q.Serves (· ∈ slots) change r) :
  p.Serves (· ∈ slot :: slots) change r
  := by
  refine ⟨brings.toSameFrame.trans more.toSameFrame, ?_, ?_⟩
  · intro other content' found' reached
    by_cases different : other = slot
    · subst different
      obtain rfl := Option.some.inj (found.symm.trans found')
      rw [more.untouched fun reached => Nat.lt_irrefl _ (behind other reached.1)]
      apply brings.served found
    · rw [← brings.untouched different] at found'
      rw [more.served found' ((brings.reaches_iff offered behind different).mpr reached),
        brings.create_eq]
  · intro other unreached
    have different : other ≠ slot := by
      rintro rfl
      apply unreached (reaches_first List.mem_cons_self fun _ => le_of_mem_cons behind)
    rw [more.untouched (mt (brings.reaches_iff offered behind different).mp unreached),
        brings.untouched different]

omit p q slot content in
theorem exists_of_map_eq_ok {ε : Type*} {α : Type*} {β : Type*} {f : α → β} {x : Except ε α} {b : β}
    (mapped : x.map f = .ok b) :
  ∃ a, x = .ok a ∧ f a = b
  := by
  cases x with
  | error => nomatch mapped
  | ok a => exact ⟨a, rfl, Except.ok.inj mapped⟩

/--
Work on several slots in their order is brought to those that are reached.  It comes to the outcome
on each of them when all have a worker, and else to the failure of the last that is reached.
-/
structure RunsOn (p : WorkerPool W) (slots : List Nat) (work : Work W T)
    (results : Except WorkerError (List (Option T))) (q : WorkerPool W) : Prop
    extends p.Serves (· ∈ slots) (fun worker => (work worker).1) q where
  outcomes_iff : ∀ outcomes, results = .ok outcomes
    ↔ slots.map (fun slot => (p.offer slot).map fun worker => (work worker).2) = outcomes.map .ok
  failure : ∀ slot error, p.Reaches (· ∈ slots) slot → p.offer slot = .error error →
    results = .error error

theorem runsOn_nil (p : WorkerPool W) (work : Work W T) :
  p.RunsOn [] work (.ok []) p
  where
  toServes := serves_nothing (by simp) _
  outcomes_iff outcomes := by
    rw [List.map_nil, eq_comm (a := []), List.map_eq_nil_iff, Except.ok.injEq, eq_comm]
  failure _ _ reached := nomatch reached.1

/-- Work on some slots, of which the first has no worker. -/
theorem Brings.runsOn_failed {work : Work W T} {slots : List Nat} {error : WorkerError}
    (brings : p.Brings slot content (fun worker => (work worker).1) q)
    (found : p.slots[slot]? = some content) (failed : p.offer slot = .error error)
    (behind : ∀ other ∈ slots, slot < other) :
  p.RunsOn (slot :: slots) work (.error error) q
  where
  toServes := brings.serves found List.mem_cons_self (fun _ => le_of_mem_cons behind)
    (.inr ⟨error, failed⟩)
  outcomes_iff outcomes := by
    refine ⟨nofun, fun all => ?_⟩
    obtain ⟨outcome, _, -, first, -⟩ := List.map_eq_cons_iff.mp all.symm
    simp [failed, Except.map] at first
  failure other _ reached failed' := by
    obtain rfl := reached.eq_of_failed List.mem_cons_self (fun _ => le_of_mem_cons behind) failed
    obtain rfl := Except.error.inj (failed.symm.trans failed')
    rfl

/-- Work on a slot that has a worker, and then on some that come behind it. -/
theorem Brings.runsOn_more {r : WorkerPool W} {work : Work W T} {slots : List Nat} {worker : W}
    {results : Except WorkerError (List (Option T))}
    (brings : p.Brings slot content (fun worker => (work worker).1) q)
    (found : p.slots[slot]? = some content) (offered : p.offer slot = .ok worker)
    (behind : ∀ other ∈ slots, slot < other) (more : q.RunsOn slots work results r) :
  p.RunsOn (slot :: slots) work (results.map ((work worker).2 :: ·)) r
  where
  toServes := brings.serves_more found offered behind more.toServes
  outcomes_iff outcomes := by
    have same : slots.map (fun slot => (p.offer slot).map fun worker => (work worker).2)
        = slots.map fun slot => (q.offer slot).map fun worker => (work worker).2 := by
      apply List.map_congr_left
      intro other among
      rw [brings.offer_eq (Nat.ne_of_gt (behind other among))]
    rw [List.map_cons, offered, same]
    constructor
    · intro done
      obtain ⟨rest, ran, rfl⟩ := exists_of_map_eq_ok done
      rw [(more.outcomes_iff rest).mp ran]
      rfl
    · intro all
      obtain ⟨outcome, rest, rfl, first, others⟩ := List.map_eq_cons_iff.mp all.symm
      obtain rfl := Except.ok.inj first
      exact congrArg (Except.map _) ((more.outcomes_iff rest).mpr others.symm)
  failure other error reached failed := by
    have different : other ≠ slot := by
      rintro rfl
      nomatch offered.symm.trans failed
    have reached_there := (brings.reaches_iff offered behind different).mpr reached
    have failed_there := (brings.offer_eq different).trans failed
    exact congrArg (Except.map _) (more.failure other error reached_there failed_there)

/-- Work on several slots in their order. -/
theorem runOnSlots_spec (work : Work W T) {slots : List Nat} (in_order : slots.Pairwise (· < ·))
    (inside : ∀ slot ∈ slots, slot < p.slots.length) :
  p.RunsOn slots work (p.runOnSlots work slots).1 (p.runOnSlots work slots).2
  := by
  induction slots generalizing p with
  | nil => exact runsOn_nil p work
  | cons slot slots ih =>
    obtain ⟨behind, in_order⟩ := List.pairwise_cons.mp in_order
    have here := inside slot List.mem_cons_self
    have found := List.getElem?_eq_getElem here
    obtain ⟨got_eq, brings⟩ := worker_spec found
    rw [runOnSlots]
    rcases got : p.worker slot with ⟨error | worker, next⟩
    · rw [got] at got_eq brings
      have failed : p.offer slot = .error error := (offer_eq found).trans got_eq.symm
      exact (brings.failed got_eq.symm _).runsOn_failed found failed behind
    · rw [got] at got_eq brings
      have offered : p.offer slot = .ok worker := (offer_eq found).trans got_eq.symm
      have brings : p.Brings slot _ (fun worker => (work worker).1)
          (next.setSlot slot (.filled (work worker).1)) :=
        brings.work here got_eq.symm
      refine brings.runsOn_more found offered behind (ih in_order fun other among => ?_)
      rw [brings.length_eq]
      exact inside other (List.mem_cons_of_mem _ among)

/-- Outcomes without a crash are results. -/
theorem mapM_outcome_eq_ok_iff {outcomes : List (Option T)} {results : List T} :
  outcomes.mapM p.outcome = .ok results ↔ outcomes = results.map some
  := by
  induction outcomes generalizing results with
  | nil => cases results <;> simp [pure, Except.pure]
  | cons outcome outcomes ih =>
    rw [List.mapM_cons]
    cases outcome with
    | none => cases results <;> simp [outcome, bind, Except.bind]
    | some result =>
      cases ran : outcomes.mapM p.outcome with
      | error => cases results <;> simp [outcome, bind, Except.bind, ← ih, ran]
      | ok rest => cases results <;> simp [outcome, bind, Except.bind, pure, Except.pure, ← ih, ran]

/-- There are results when there are outcomes and none of them is a crash. -/
theorem bind_outcome_eq_ok_iff {outcomes : Except WorkerError (List (Option T))}
    {results : List T} :
  (outcomes.bind fun outcomes => outcomes.mapM p.outcome) = .ok results
    ↔ outcomes = .ok (results.map some)
  := by
  cases outcomes with
  | error => exact ⟨nofun, nofun⟩
  | ok outcomes =>
    rw [Except.ok.injEq, ← mapM_outcome_eq_ok_iff (p := p)]
    rfl

/-! ### Calls -/

/-- A call on a pool, with the work that it brings. -/
inductive Call (W : Type u) (T : Type v) where
  | elected (work : Work W T)
  | all (work : Work W T)
  | elect (work : Work W Unit)
  | validator (work : Work W T)

/-- What a call is answered; an election has no answer when none is needed. -/
inductive Reply (T : Type v) where
  | single (result : Except WorkerError T)
  | all (results : Except WorkerError (List T))
  | election (result : Option (Except WorkerError Unit))

/-- The failure that a call is answered with. -/
def Reply.error? : Reply T → Option WorkerError
  | single (.error error) | all (.error error) | election (some (.error error)) => some error
  | _ => none

namespace Call

/-- How the work of a call changes a worker. -/
def change : Call W T → W → W
  | elected work | all work | validator work => fun worker => (work worker).1
  | elect work => fun worker => (work worker).1

/-- The slots that a call brings its work to, one after another. -/
def Needs (p : WorkerPool W) : Call W T → Nat → Prop
  | elected _, slot => slot = 0
  | all _, slot => slot < p.size
  | elect _, slot => p.hasValidator = false ∧ slot = p.size - 1
  | validator _, slot => p.hasValidator = true ∧ slot = p.size - 1

end Call

/-- A call on a pool: the answer, and the pool afterwards. -/
def perform (p : WorkerPool W) : Call W T → Reply T × WorkerPool W
  | .elected work => Prod.map .single id (p.runOnElected work)
  | .all work => Prod.map .all id (p.runOnAll work)
  | .elect work => Prod.map .election id (p.elect work)
  | .validator work => Prod.map .single id (p.runOnValidator work)

theorem Serves.congr {needs others : Nat → Prop} {change : W → W} (serves : p.Serves needs change q)
    (same : ∀ slot, needs slot ↔ others slot) :
  p.Serves others change q
  := by
  have needs_eq : needs = others := funext fun slot => propext (same slot)
  rwa [← needs_eq]

/-- Work on one slot is brought to it, and its result is that on the worker of the slot. -/
theorem run_serves (inside : slot < p.size) (work : Work W T) :
  (p.run slot work).1 = ((p.offer slot).bind fun worker => p.outcome (work worker).2)
    ∧ p.Serves (· = slot) (fun worker => (work worker).1) (p.run slot work).2
  := by
  have found := List.getElem?_eq_getElem (show slot < p.slots.length from inside)
  obtain ⟨result_eq, brings⟩ := run_spec found work
  exact ⟨result_eq, brings.serves found rfl (fun _ needed => Nat.le_of_eq needed.symm)
    (.inl fun _ needed => needed)⟩

theorem runOnElected_spec (nonempty : 0 < p.size) (work : Work W T) :
  (p.runOnElected work).1 = ((p.offer 0).bind fun worker => p.outcome (work worker).2)
    ∧ p.Serves (· = 0) (fun worker => (work worker).1) (p.runOnElected work).2
  := run_serves nonempty work

/-- Validation runs on the last slot, when there was an election. -/
theorem runOnValidator_spec (nonempty : 0 < p.size) (work : Work W T) :
  (p.runOnValidator work).1 = (if p.hasValidator then
      (p.offer (p.size - 1)).bind fun worker => p.outcome (work worker).2
    else .error (.noValidator p.language))
    ∧ p.Serves (fun slot => p.hasValidator = true ∧ slot = p.size - 1)
      (fun worker => (work worker).1) (p.runOnValidator work).2
  := by
  rw [runOnValidator]
  split
  · next elected =>
    obtain ⟨result_eq, serves⟩ := run_serves (Nat.sub_lt nonempty Nat.one_pos) work
    exact ⟨result_eq, serves.congr fun slot => by simp [elected]⟩
  · next missing => exact ⟨rfl, serves_nothing (by simp [missing]) _⟩

theorem Serves.of_flags {flag other : Bool} {needs : Nat → Prop} {change : W → W}
    (serves : ({ p with hasValidator := flag } : WorkerPool W).Serves needs change q) :
  p.Serves needs change { q with hasValidator := other }
  := ⟨⟨serves.language_eq, serves.create_eq, serves.length_eq, serves.counted⟩, serves.served,
    serves.untouched⟩

/-- The work of an election is brought to the last slot. -/
theorem finishElection_spec (nonempty : 0 < p.size) (work : Work W Unit) :
  (p.finishElection work).1
      = ((p.offer (p.size - 1)).bind fun worker => p.outcome (work worker).2)
    ∧ p.Serves (· = p.size - 1) (fun worker => (work worker).1) (p.finishElection work).2
  := by
  obtain ⟨result_eq, serves⟩ := run_serves (Nat.sub_lt nonempty Nat.one_pos) work
  rw [finishElection, validatorSlot]
  rcases ran : p.run (p.size - 1) work with ⟨error | ⟨⟩, next⟩
  · rw [ran] at result_eq serves
    exact ⟨result_eq, Serves.of_flags (p := p) serves⟩
  · rw [ran] at result_eq serves
    exact ⟨result_eq, serves⟩

/-- An election that is needed brings its work to the last slot. -/
theorem elect_spec (nonempty : 0 < p.size) (work : Work W Unit) :
  (p.elect work).1 = (if p.hasValidator then none
    else some ((p.offer (p.size - 1)).bind fun worker => p.outcome (work worker).2))
    ∧ p.Serves (fun slot => p.hasValidator = false ∧ slot = p.size - 1)
      (fun worker => (work worker).1) (p.elect work).2
  := by
  rw [elect, startElection?]
  cases elected : p.hasValidator with
  | true => exact ⟨rfl, serves_nothing (by simp) _⟩
  | false =>
    obtain ⟨result_eq, serves⟩ :=
      finishElection_spec (p := { p with hasValidator := true }) nonempty work
    refine ⟨congrArg some result_eq, serves.of_flags.congr fun slot => ?_⟩
    exact ⟨fun same => ⟨rfl, same⟩, And.right⟩

/-- Work on all slots is brought to them in their order; there is one result for each of them. -/
theorem runOnAll_spec (work : Work W T) :
  (∀ results, (p.runOnAll work).1 = .ok results
    ↔ (List.range p.size).map (fun slot => (p.offer slot).map fun worker => (work worker).2)
      = results.map fun result => .ok (some result))
    ∧ (∀ slot error, p.Reaches (· < p.size) slot → p.offer slot = .error error →
      (p.runOnAll work).1 = .error error)
    ∧ p.Serves (· < p.size) (fun worker => (work worker).1) (p.runOnAll work).2
  := by
  have ran := runOnSlots_spec work (List.pairwise_lt_range (n := p.size)) fun _ => List.mem_range.mp
  have among (slot : Nat) : slot ∈ List.range p.size ↔ slot < p.size := List.mem_range
  have needs_eq : (· ∈ List.range p.size) = (· < p.size) := funext fun slot => propext (among slot)
  refine ⟨fun results => ?_, fun slot error reached failed => ?_, ran.toServes.congr among⟩
  · rw [runOnAll, bind_outcome_eq_ok_iff, ran.outcomes_iff, List.map_map]
    rfl
  · rw [← needs_eq] at reached
    have failed_there := ran.failure slot error reached failed
    rcases all_eq : p.runOnSlots work (List.range p.size) with ⟨outcomes, next⟩
    obtain rfl : outcomes = .error error := (congrArg Prod.fst all_eq).symm.trans failed_there
    rw [runOnAll, all_eq]
    rfl

/-- A call brings its work to the slots it needs, and its answer tells if one has no worker. -/
theorem serves_perform (nonempty : 0 < p.size) (call : Call W T) :
  p.Serves (call.Needs p) call.change (p.perform call).2
    ∧ ∀ slot error, p.Reaches (call.Needs p) slot → p.offer slot = .error error →
      (p.perform call).1.error? = some error
  := by
  cases call with
  | elected work =>
    obtain ⟨result_eq, serves⟩ := runOnElected_spec nonempty work
    refine ⟨serves, ?_⟩
    rintro _ error ⟨rfl, -⟩ failed
    rw [perform, Prod.map_fst, result_eq, failed]
    rfl
  | all work =>
    obtain ⟨-, failure, serves⟩ := runOnAll_spec (p := p) work
    refine ⟨serves, fun slot error reached failed => ?_⟩
    rw [perform, Prod.map_fst, failure slot error reached failed]
    rfl
  | elect work =>
    obtain ⟨result_eq, serves⟩ := elect_spec nonempty work
    refine ⟨serves, ?_⟩
    rintro _ error ⟨⟨free, rfl⟩, -⟩ failed
    rw [perform, Prod.map_fst, result_eq, failed]
    simp [free, Except.bind, Reply.error?]
  | validator work =>
    obtain ⟨result_eq, serves⟩ := runOnValidator_spec nonempty work
    refine ⟨serves, ?_⟩
    rintro _ error ⟨⟨elected, rfl⟩, -⟩ failed
    rw [perform, Prod.map_fst, result_eq, failed]
    simp [elected, Except.bind, Reply.error?]

/-- A call leaves a slot as it is, or brings its work to it. -/
theorem slot_perform (nonempty : 0 < p.size) (found : p.slots[slot]? = some content)
    (call : Call W T) :
  (p.perform call).2.slots[slot]? = some content
    ∨ (p.perform call).2.slots[slot]? = some (content.serve (p.create slot) call.change)
  := by
  obtain ⟨serves, -⟩ := serves_perform nonempty call
  by_cases reached : p.Reaches (call.Needs p) slot
  · exact .inr (serves.served found reached)
  · exact .inl ((serves.untouched reached).trans found)

/-! ### Calls one after another -/

/-- The pool after calls, one after another. -/
def after (p : WorkerPool W) (calls : List (Call W T)) : WorkerPool W :=
  calls.foldl (fun p call => (p.perform call).2) p

/-- The works of some calls, any number of times and in any order, change a worker into another. -/
def Changes (calls : List (Call W T)) : W → W → Prop :=
  Relation.ReflTransGen fun before after => ∃ call ∈ calls, after = call.change before

/--
Where the content of a slot comes from: all attempts to create a worker have failed so far, or the
worker is the one that the first successful attempt created, changed by the works of calls.
-/
def Stems (create : Nat → Except WorkerError W) (calls : List (Call W T)) : Slot W → Prop
  | .vacant attempts => ∀ earlier < attempts, ∃ error, create earlier = .error error
  | .filled worker => ∃ attempts first, create attempts = .ok first
      ∧ (∀ earlier < attempts, ∃ error, create earlier = .error error)
      ∧ Changes calls first worker

variable {calls more : List (Call W T)}

theorem Changes.mono {before after : W} (changes : Changes calls before after)
    (among : ∀ call ∈ calls, call ∈ more) :
  Changes more before after
  := by
  refine Relation.ReflTransGen.mono (fun _ _ => ?_) _ _ changes
  rintro ⟨call, made, rfl⟩
  exact ⟨call, among call made, rfl⟩

/-- The content of a slot still comes from more calls. -/
theorem Stems.mono {create : Nat → Except WorkerError W} (stems : Stems create calls content)
    (among : ∀ call ∈ calls, call ∈ more) :
  Stems create more content
  := by
  cases content with
  | vacant => exact stems
  | filled worker =>
    obtain ⟨attempts, first, created, failed, changes⟩ := stems
    exact ⟨attempts, first, created, failed, changes.mono among⟩

/-- The content of a slot that a call brings its work to comes from the calls up to this one. -/
theorem Stems.serve {create : Nat → Except WorkerError W} {call : Call W T}
    (stems : Stems create calls content) (made : call ∈ calls) :
  Stems create calls (content.serve create call.change)
  := by
  cases content with
  | filled worker =>
    obtain ⟨attempts, first, created, failed, changes⟩ := stems
    exact ⟨attempts, first, created, failed, changes.tail ⟨call, made, rfl⟩⟩
  | vacant attempts =>
    rw [Slot.serve]
    cases created : create attempts with
    | ok worker => exact ⟨attempts, worker, created, stems, .single ⟨call, made, rfl⟩⟩
    | error error =>
      intro earlier before
      rcases Nat.lt_succ_iff_lt_or_eq.mp before with before | rfl
      · exact stems earlier before
      · exact ⟨error, created⟩

/-- Calls keep the kind of a pool and the number of its slots, and count its workers. -/
theorem sameFrame_after (nonempty : 0 < p.size) (calls : List (Call W T)) :
  p.SameFrame (p.after calls)
  := by
  induction calls generalizing p with
  | nil => exact ⟨rfl, rfl, rfl, id⟩
  | cons call calls ih =>
    have frame := (serves_perform nonempty call).1.toSameFrame
    apply frame.trans (ih _)
    rw [size, frame.length_eq]
    exact nonempty

/-- A worker stays in its slot, and only the works of calls change it. -/
theorem filled_after (nonempty : 0 < p.size) {worker : W}
    (found : p.slots[slot]? = some (.filled worker)) (calls : List (Call W T)) :
  ∃ later, (p.after calls).slots[slot]? = some (.filled later) ∧ Changes calls worker later
  := by
  induction calls using List.reverseRecOn with
  | nil => exact ⟨worker, found, .refl⟩
  | append_singleton calls call ih =>
    obtain ⟨later, there, changes⟩ := ih
    have changes : Changes (calls ++ [call]) worker later :=
      changes.mono fun _ => List.mem_append_left _
    have still : 0 < (p.after calls).size := by
      rw [size, (sameFrame_after nonempty calls).length_eq]
      exact nonempty
    rw [after, List.foldl_concat]
    rcases slot_perform still there call with same | served
    · exact ⟨later, same, changes⟩
    · exact ⟨call.change later, served, changes.tail ⟨call, by simp, rfl⟩⟩

theorem size_ofSize (language : String) (count : Nat)
    (create : Nat → Nat → Except WorkerError W) :
  (ofSize language count create).size = max count 1
  := List.length_replicate

/-- What is in the slots of a pool stems from the calls that were made on it. -/
theorem stems_after (language : String) (count : Nat) (create : Nat → Nat → Except WorkerError W)
    (calls : List (Call W T))
    (found : ((ofSize language count create).after calls).slots[slot]? = some content) :
  Stems (create slot) calls content
  := by
  have nonempty : 0 < (ofSize language count create).size := by
    rw [size_ofSize]
    omega
  induction calls using List.reverseRecOn generalizing content with
  | nil =>
    obtain ⟨-, rfl⟩ := List.mem_replicate.mp (List.mem_of_getElem? found)
    exact fun earlier before => absurd before (Nat.not_lt_zero _)
  | append_singleton calls call ih =>
    have frame := sameFrame_after nonempty calls
    obtain ⟨before, there⟩ : ∃ before,
        ((ofSize language count create).after calls).slots[slot]? = some before := by
      obtain ⟨inside, -⟩ := List.getElem?_eq_some_iff.mp found
      rw [(sameFrame_after nonempty _).length_eq, ← frame.length_eq] at inside
      exact ⟨_, List.getElem?_eq_getElem inside⟩
    have stems : Stems (create slot) (calls ++ [call]) before :=
      (ih there).mono fun _ => List.mem_append_left _
    have still : 0 < ((ofSize language count create).after calls).size := by
      rw [size, frame.length_eq]
      exact nonempty
    rw [after, List.foldl_concat] at found
    rcases slot_perform still there call with same | served
    · obtain rfl := Option.some.inj (same.symm.trans found)
      exact stems
    · obtain rfl := Option.some.inj (served.symm.trans found)
      rw [frame.create_eq]
      apply stems.serve (by simp)

/--
A pool with any number of slots and any outcomes of the attempts to create workers, after any
calls: there is at least one slot, and as many workers are counted as there are, no more than slots.
A slot without a worker is one where all attempts failed, and a slot with a worker has the one that
its first successful attempt created, which stays there whatever calls come then, and which only
their works change.  A call changes no slots but those that it reaches: requests the first one,
elections and validation the last one, and calls on all workers each slot behind those that have a
worker.  A slot that is reached has its worker changed by the work of the call, or is tried once
more; the call comes back with the failure of that attempt.  The results of a call on all workers
are those of its work on the worker of each slot, in the order of the slots.
-/
theorem run_keeps_workers (language : String) (count : Nat)
    (create : Nat → Nat → Except WorkerError W) (calls : List (Call W T)) :
  let p := (ofSize language count create).after calls
  p.size = max count 1 ∧ p.created = p.workers.length ∧ p.created ≤ p.size
    ∧ (∀ slot content, p.slots[slot]? = some content → Stems (create slot) calls content)
    ∧ (∀ (slot : Nat) worker (more : List (Call W T)), p.slots[slot]? = some (.filled worker) →
      ∃ later, (p.after more).slots[slot]? = some (.filled later) ∧ Changes more worker later)
    ∧ (∀ call : Call W T,
      (∀ slot, ¬ p.Reaches (call.Needs p) slot →
        (p.perform call).2.slots[slot]? = p.slots[slot]?)
      ∧ ∀ slot content, p.slots[slot]? = some content → p.Reaches (call.Needs p) slot →
        (p.perform call).2.slots[slot]? = some (content.serve (create slot) call.change)
        ∧ ∀ error, content.offer (create slot) = .error error →
          (p.perform call).1.error? = some error)
    ∧ (∀ work : Work W T,
      (p.runOnElected work).1 = ((p.offer 0).bind fun worker => p.outcome (work worker).2)
      ∧ (p.runOnValidator work).1 = (if p.hasValidator then
          (p.offer (p.size - 1)).bind fun worker => p.outcome (work worker).2
        else .error (.noValidator p.language))
      ∧ ∀ results, (p.runOnAll work).1 = .ok results
        ↔ (List.range p.size).map (fun slot => (p.offer slot).map fun worker => (work worker).2)
          = results.map fun result => .ok (some result))
    ∧ ∀ work : Work W Unit, (p.elect work).1 = if p.hasValidator then none
      else some ((p.offer (p.size - 1)).bind fun worker => p.outcome (work worker).2)
  := by
  intro p
  have some_slot : 0 < (ofSize language count create).size := by
    rw [size_ofSize]
    omega
  have frame : (ofSize language count create).SameFrame p := sameFrame_after some_slot calls
  have size_eq : p.size = max count 1 := frame.length_eq.trans (size_ofSize language count create)
  have nonempty : 0 < p.size := by omega
  have counted : p.created = p.workers.length := by
    apply frame.counted
    simp [Counted, ofSize, workers, List.length_filterMap_eq_countP, List.countP_replicate,
      Slot.worker?]
  refine ⟨size_eq, counted, counted ▸ List.length_filterMap_le _ _, fun slot content =>
    stems_after language count create calls, fun slot worker more found =>
    filled_after nonempty found more, fun call => ?_, fun work =>
    ⟨(runOnElected_spec nonempty work).1, (runOnValidator_spec nonempty work).1,
      (runOnAll_spec work).1⟩,
    fun work => (elect_spec nonempty work).1⟩
  obtain ⟨serves, failure⟩ := serves_perform nonempty call
  refine ⟨fun slot => serves.untouched, fun slot content found reached => ?_⟩
  rw [show create slot = p.create slot by rw [frame.create_eq]; rfl]
  refine ⟨serves.served found reached, fun error failed => failure slot error reached ?_⟩
  rw [offer_eq found, failed]

/-- Counters with the number of their slot, of which the second is created at the second attempt. -/
def createCounter (slot attempts : Nat) : Except WorkerError (Nat × Nat) :=
  if slot = 1 ∧ attempts = 0 then .error (.create "less" 1 "missing grammar") else .ok (slot, 0)

/-- A counter goes on, and the work crashes on the first one when `crashes` says so. -/
def goOn (crashes : Bool) : Work (Nat × Nat) Nat :=
  fun (slot, n) => ((slot, n + 1), if crashes && slot == 0 then none else some (n + 1))

/-- All counters go on but the first comes alone, because the second is missing. -/
def countings : List (Call (Nat × Nat) Nat) :=
  [.all (goOn false), .elected (goOn true)]

/--
The first counter outlives the crash.  It is changed by whatever work comes then, and stays the one
of the first slot; the second slot has failed once, and the next call on all workers fills it.
-/
theorem run_keeps_workers_counters :
  let p := (ofSize "less" 3 createCounter).after countings
  p.created = 1 ∧ p.workers = [(0, 2)]
    ∧ (∀ more : List (Call (Nat × Nat) Nat), ∃ later,
      (p.after more).slots[0]? = some (.filled later) ∧ Changes more (0, 2) later)
    ∧ (p.perform (.all (goOn false))).2.slots[1]? = some (.filled (1, 1))
    ∧ (p.runOnAll (goOn false)).1 = .ok [3, 1, 1]
  := by
  obtain ⟨-, counted, -, -, kept, reached, results, -⟩ :=
    run_keeps_workers "less" 3 createCounter countings
  refine ⟨counted, rfl, fun more => kept 0 (0, 2) more rfl, ?_, ((results _).2.2 _).mpr rfl⟩
  apply ((reached (.all (goOn false))).2 1 (.vacant 1) rfl _).1
  refine ⟨show 1 < 3 by decide, fun earlier before _ => ?_⟩
  obtain rfl : earlier = 0 := by omega
  exact ⟨_, rfl⟩

end WorkerPool

end EditorModes
