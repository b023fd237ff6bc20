import EditorModes.Proofs.Mode.Less.Looking
import EditorModes.Proofs.Worker.Election

/-!
# Sessions

Requests come one after another, among them new options and validations.  The workers of the pool
are created at different times, and those that come late start with the options of the settings; but
options that were accepted reach all slots, so that none is left for a late worker
(`Less.Serving`).  Each request is therefore answered as by a worker of its own under the latest
options, however many workers there are (`Less.session_keeps_options`).
-/

namespace EditorModes

/-! ### Pools that can create their workers -/

namespace WorkerPool

variable {p q : WorkerPool W} {needs : Nat → Prop} {change : W → W} {worker : Nat → W} {slot : Nat}

/-- When all slots have workers for work, those that are needed are filled afterwards. -/
theorem Serves.filled (serves : p.Serves needs change q)
    (offers : ∀ slot < p.size, p.offer slot = .ok (worker slot)) (inside : slot < p.size)
    (needed : needs slot) :
  q.slots[slot]? = some (.filled (change (worker slot)))
  := by
  have found := List.getElem?_eq_getElem (show slot < p.slots.length from inside)
  have reached : p.Reaches needs slot := by
    refine ⟨needed, fun earlier before _ => ?_⟩
    use worker earlier
    exact offers earlier (Nat.lt_trans before inside)
  rw [serves.served found reached, Slot.serve_of_offer]
  rw [← WorkerPool.offer_eq found]
  apply offers slot inside

theorem Serves.offer_eq (serves : p.Serves needs change q)
    (offers : ∀ slot < p.size, p.offer slot = .ok (worker slot)) (inside : slot < p.size)
    (needed : needs slot) :
  q.offer slot = .ok (change (worker slot))
  := by
  rw [WorkerPool.offer_eq (serves.filled offers inside needed)]
  rfl

theorem Serves.slot_eq (serves : p.Serves needs change q) (unneeded : ¬ needs slot) :
  q.slots[slot]? = p.slots[slot]?
  := serves.untouched fun reached => unneeded reached.1

/-- The end of an election that does not fail leaves the pool with a worker that validates. -/
theorem hasValidator_finishElection {work : Work W Unit} (elected : p.hasValidator = true)
    (done : ∀ error, (p.finishElection work).1 ≠ .error error) :
  (p.finishElection work).2.hasValidator = true
  := by
  have flag := hasValidator_run p p.validatorSlot work
  rw [finishElection] at done ⊢
  rcases ran : p.run p.validatorSlot work with ⟨error | ⟨⟩, next⟩
  · rw [ran] at done
    exact absurd rfl (done error)
  · rw [ran] at flag
    exact flag.trans elected

/-- An election that does not fail leaves the pool with a worker that validates. -/
theorem hasValidator_elect {work : Work W Unit}
    (done : ∀ error, (p.elect work).1 ≠ some (.error error)) :
  (p.elect work).2.hasValidator = true
  := by
  rw [elect, startElection?] at done ⊢
  cases elected : p.hasValidator with
  | true => exact elected
  | false =>
    rw [elected] at done
    apply hasValidator_finishElection rfl
    intro error failed
    exact done error (congrArg some failed)

/-- No election starts or fails when work runs on slots. -/
theorem hasValidator_runOnSlots (p : WorkerPool W) (work : Work W T) (slots : List Nat) :
  (p.runOnSlots work slots).2.hasValidator = p.hasValidator
  := by
  induction slots generalizing p with
  | nil => rfl
  | cons slot slots ih =>
    have flag := hasValidator_worker p slot
    rw [runOnSlots]
    rcases got : p.worker slot with ⟨error | worker, next⟩
    · rw [got] at flag
      exact flag
    · rw [got] at flag
      exact (ih _).trans flag

theorem hasValidator_runOnAll (p : WorkerPool W) (work : Work W T) :
  (p.runOnAll work).2.hasValidator = p.hasValidator
  := hasValidator_runOnSlots p work _

end WorkerPool

namespace Less

/-! ### Workers that serve a session -/

/-- The worker of a slot, which validates if it is the last one and was elected. -/
def workerOf (size : Nat) (elected : Bool) (o : Options) (validated slot : Nat) : Worker where
  options := o
  isValidator := elected && slot == size - 1
  validations := if slot = size - 1 then validated else 0

/--
The pool of a session under settings: its workers have the options that were told at last, and all
of them are there once options were told.
-/
structure Serving (size : Nat) (settings : Options) (told : Option Options) (validated : Nat)
    (pool : Workers) : Prop where
  language_eq : pool.language = language
  create_eq : pool.create = fun _ _ => .ok { options := settings }
  nonempty : 0 < size
  size_eq : pool.size = size
  offers : ∀ slot < pool.size,
    pool.offer slot = .ok (workerOf size pool.hasValidator (told.getD settings) validated slot)
  filled : told.isSome → ∀ slot < size, ∃ worker, pool.slots[slot]? = some (.filled worker)

/-- A session starts without workers. -/
theorem serving_workers (count : Nat) (settings : Options) :
  Serving (max count 1) settings none 0 (workers count settings)
  := by
  constructor
  · rfl
  · rfl
  · omega
  · apply WorkerPool.size_ofSize
  · intro slot inside
    have found : (workers count settings).slots[slot]? = some (.vacant 0) := by
      rw [WorkerPool.size] at inside
      simp only [workers, WorkerPool.ofSize, List.length_replicate] at inside ⊢
      rw [List.getElem?_replicate, if_pos inside]
    rw [WorkerPool.offer_eq found]
    simp [workers, WorkerPool.ofSize, Slot.offer, workerOf]
  · intro told
    contradiction

namespace Serving

variable {size : Nat} {settings : Options} {told : Option Options} {validated : Nat}
  {pool next : Workers}

theorem pool_nonempty (serving : Serving size settings told validated pool) :
  0 < pool.size
  := by
  rw [serving.size_eq]
  exact serving.nonempty

theorem eq_of_filled (serving : Serving size settings told validated pool) {slot : Nat}
    {worker : Worker} (found : pool.slots[slot]? = some (.filled worker)) :
  worker = workerOf size pool.hasValidator (told.getD settings) validated slot
  := by
  obtain ⟨inside, -⟩ := List.getElem?_eq_some_iff.mp found
  have offered := serving.offers slot inside
  rw [WorkerPool.offer_eq found] at offered
  exact Except.ok.inj offered

/-- The workers have the options that were told at last. -/
theorem holds (serving : Serving size settings told validated pool) :
  Holds pool (told.getD settings)
  := by
  constructor
  · exact serving.language_eq
  · exact List.length_pos_iff.mp serving.pool_nonempty
  · intro worker among
    obtain ⟨slot, found⟩ := List.getElem?_of_mem among
    rw [serving.eq_of_filled found]
    rfl
  · intro attempts among
    obtain ⟨slot, found⟩ := List.getElem?_of_mem among
    obtain ⟨inside, -⟩ := List.getElem?_eq_some_iff.mp found
    have offered := serving.offers slot inside
    rw [WorkerPool.offer_eq found, Slot.offer, serving.create_eq] at offered
    have same : settings = told.getD settings := congrArg Worker.options (Except.ok.inj offered)
    rw [← same]
    exact serving.create_eq

/--
Work on some slots, after which options were told and validations counted: it must make of each
worker that it reaches the one that is expected then, and tell options to all workers if to any.
-/
theorem serves {needs : Nat → Prop} {change : Worker → Worker} {later : Option Options}
    {counted : Nat} (serving : Serving size settings told validated pool)
    (serves : pool.Serves needs change next)
    (needed : ∀ slot < size, needs slot →
      change (workerOf size pool.hasValidator (told.getD settings) validated slot)
        = workerOf size next.hasValidator (later.getD settings) counted slot)
    (unneeded : ∀ slot < size, ¬ needs slot →
      workerOf size pool.hasValidator (told.getD settings) validated slot
        = workerOf size next.hasValidator (later.getD settings) counted slot)
    (all : later.isSome → told.isSome ∨ ∀ slot < size, needs slot) :
  Serving size settings later counted next
  := by
  have size_eq : next.size = size := serves.length_eq.trans serving.size_eq
  constructor
  · rw [serves.language_eq, serving.language_eq]
  · rw [serves.create_eq, serving.create_eq]
  · exact serving.nonempty
  · exact size_eq
  · intro slot inside
    rw [size_eq] at inside
    have before : slot < pool.size := by rwa [serving.size_eq]
    by_cases need : needs slot
    · rw [serves.offer_eq serving.offers before need, needed slot inside need]
    · rw [serves.toSameFrame.offer_eq (serves.slot_eq need), serving.offers slot before,
        unneeded slot inside need]
  · intro some_told slot inside
    by_cases need : needs slot
    · exact ⟨_, serves.filled serving.offers (by rwa [serving.size_eq]) need⟩
    · rcases all some_told with before | everywhere
      · rw [serves.slot_eq need]
        exact serving.filled before slot inside
      · exact absurd (everywhere slot inside) need

/-- Requests that only look leave the workers as they are. -/
theorem looking :
  Looking (Serving size settings told validated)
  := by
  intro T analysis pool serving
  obtain ⟨result_eq, serves⟩ := WorkerPool.runOnElected_spec serving.pool_nonempty
    fun worker : Worker => (worker, analysis)
  refine ⟨_, ?_, serving.serves serves ?_ ?_ .inl⟩
  · rw [analyze, run_onWorkers, result_eq, serving.offers 0 serving.pool_nonempty]
    cases analysis with
    | some => rfl
    | none =>
      dsimp only [Except.bind]
      rw [WorkerPool.outcome, serving.language_eq]
      rfl
  · intro slot _ _
    rw [WorkerPool.runOnElected, WorkerPool.hasValidator_run]
  · intro slot _ _
    rw [WorkerPool.runOnElected, WorkerPool.hasValidator_run]

theorem last_lt (serving : Serving size settings told validated pool) :
  size - 1 < size
  := Nat.sub_lt serving.nonempty Nat.one_pos

/-- After an election, if one is needed, the worker of the last slot validates. -/
theorem elect (serving : Serving size settings told validated pool) :
  (electValidator pool).1.getD (.ok ()) = .ok ()
    ∧ (electValidator pool).2.hasValidator = true
    ∧ (∀ slot ≠ size - 1, (electValidator pool).2.slots[slot]? = pool.slots[slot]?)
    ∧ Serving size settings told validated (electValidator pool).2
  := by
  obtain ⟨result_eq, serves⟩ := WorkerPool.elect_spec serving.pool_nonempty
    fun worker : Worker => (worker.markValidator, some ())
  rw [← electValidator] at result_eq serves
  have last := serving.last_lt
  rw [serving.offers _ (by rwa [serving.size_eq])] at result_eq
  rw [serving.size_eq] at serves
  have has : (electValidator pool).2.hasValidator = true := by
    apply WorkerPool.hasValidator_elect
    intro error
    rw [← electValidator, result_eq]
    split
    · simp
    · intro failed
      cases failed
  refine ⟨?_, has, fun slot other => serves.slot_eq fun need => other need.2,
    serving.serves serves ?_ ?_ .inl⟩
  · rw [result_eq]
    cases pool.hasValidator <;> rfl
  · rintro slot - ⟨-, rfl⟩
    rw [has]
    simp [Worker.markValidator, workerOf]
  · intro slot _ unneeded
    rw [has]
    cases elected : pool.hasValidator with
    | true => rfl
    | false =>
      have other : slot ≠ size - 1 := fun same => unneeded ⟨elected, same⟩
      simp [workerOf, other]

/-- Validation runs on the worker of the last slot, and is counted there. -/
theorem validate (serving : Serving size settings told validated pool) (d : Document) :
  ∃ next, (Less.validate d).run.run pool = (findings? (told.getD settings) d, next)
    ∧ next.hasValidator = true
    ∧ (∀ slot ≠ size - 1, next.slots[slot]? = pool.slots[slot]?)
    ∧ next.slots[size - 1]?
      = some (.filled (workerOf size true (told.getD settings) (validated + 1) (size - 1)))
    ∧ Serving size settings told (validated + 1) next
  := by
  obtain ⟨elected, has, same, serving⟩ := serving.elect
  obtain ⟨result_eq, serves⟩ := WorkerPool.runOnValidator_spec serving.pool_nonempty
    fun worker : Worker => (worker.countValidation, worker.problems? d.text)
  have last : size - 1 < (electValidator pool).2.size := by
    rw [serving.size_eq]
    exact serving.last_lt
  rw [has, if_pos rfl, serving.size_eq, serving.offers _ last, has] at result_eq
  rw [has, serving.size_eq] at serves
  have flag := WorkerPool.hasValidator_run (electValidator pool).2
    (electValidator pool).2.validatorSlot
    fun worker : Worker => (worker.countValidation, worker.problems? d.text)
  generalize ran_eq : (electValidator pool).2.runOnValidator
    (fun worker : Worker => (worker.countValidation, worker.problems? d.text)) = ran
    at result_eq serves
  rw [WorkerPool.runOnValidator, if_pos has] at ran_eq
  rw [ran_eq, has] at flag
  have outcome_eq := result_eq.trans (serves.outcome_eq _).symm
  have validation : (electValidator pool).2.runOnValidator
        (fun worker => (worker.countValidation, worker.problems? d.text))
      = (ran.2.outcome ((workerOf size true (told.getD settings) validated (size - 1)).problems?
          d.text), ran.2) := by
    rw [WorkerPool.runOnValidator, if_pos has, ran_eq]
    exact Prod.ext outcome_eq rfl
  refine ⟨ran.2, ?_, flag, fun slot other => ?_, ?_, serving.serves serves ?_ ?_ .inl⟩
  · exact run_validate d elected validation (serves.language_eq.trans serving.language_eq)
  · rw [serves.slot_eq fun need => other need.2, same slot other]
  · rw [serves.filled serving.offers last ⟨rfl, rfl⟩, has]
    simp [Worker.countValidation, workerOf]
  · rintro slot - ⟨-, rfl⟩
    rw [flag, has]
    simp [Worker.countValidation, workerOf]
  · intro slot _ unneeded
    have other : slot ≠ size - 1 := fun same => unneeded ⟨rfl, same⟩
    rw [flag, has]
    simp [workerOf, other]

/-- Options that can be read are those of the worker in each slot from then on. -/
theorem configure (serving : Serving size settings told validated pool) {options : Json}
    {new : Options} (accepted : Options.ofJson? .json options = some new) :
  ∃ next, (Less.configure options).run.run pool = (.ok (), next)
    ∧ (∀ slot < size, ∃ worker, next.slots[slot]? = some (.filled worker) ∧ worker.options = new)
    ∧ Serving size settings (some new) validated next
  := by
  obtain ⟨results_iff, -, serves⟩ := WorkerPool.runOnAll_spec (p := pool)
    fun worker : Worker => (worker.configure new, some ())
  have done_everywhere : (List.range pool.size).map (fun slot =>
        (pool.offer slot).map fun worker => (worker.configure new, some ()).2)
      = (List.replicate pool.size ()).map fun result => .ok (some result) := by
    rw [List.map_replicate, ← List.length_range (n := pool.size), ← List.map_const',
      List.length_range]
    apply List.map_congr_left
    intro slot among
    rw [serving.offers slot (List.mem_range.mp among)]
    rfl
  have done := (results_iff _).mpr done_everywhere
  have flag := WorkerPool.hasValidator_runOnAll pool
    fun worker : Worker => (worker.configure new, some ())
  generalize ran_eq : pool.runOnAll (fun worker : Worker => (worker.configure new, some ())) = ran
    at done serves flag
  rw [serving.size_eq] at serves
  have inside : ∀ slot < size, slot < pool.size := by
    rw [serving.size_eq]
    exact fun _ => id
  refine ⟨ran.2, ?_, fun slot before => ?_, serving.serves serves ?_ ?_ ?_⟩
  · rw [Less.configure, accepted, Asking.run_bind, run_onWorkers, ran_eq, done]
    rfl
  · exact ⟨_, serves.filled serving.offers (inside slot before) before, rfl⟩
  · intro slot _ _
    rw [flag]
    rfl
  · intro slot before unneeded
    exact absurd before unneeded
  · exact fun _ => .inr fun slot before => before

end Serving

/-! ### Requests one after another -/

/-- A request about a stylesheet or to the workers as such. -/
inductive Request where
  | hover (d : Document) (p : Position)
  | references (d : Document) (p : Position) (declarations : Bool)
  | declarations (d : Document) (p : Position)
  | highlights (d : Document) (p : Position)
  | outline (d : Document)
  | suggestions (d : Document) (p : Position) (cancelled : Bool)
  | stepValue (d : Document) (r : Range) (up : Bool)
  | format (d : Document) (tabSize : Nat) (insertSpaces : Bool)
  | colors (d : Document)
  | validate (d : Document)
  | configure (options : Json)
  /-- The election of the worker that validates, ahead of any validation. -/
  | elect

namespace Request

/-- What the answer to a request is. -/
abbrev Answer : Request → Type
  | hover _ _ => Option Hover
  | references _ _ _ | declarations _ _ => Option (List Location)
  | highlights _ _ => Option (List Highlight)
  | outline _ => Option (List OutlineEntry)
  | suggestions _ _ _ => Option Suggestions
  | stepValue _ _ _ => Option Replacement
  | format _ _ _ => Option (List TextEdit)
  | colors _ => Option (List ColorDeclaration)
  | validate _ => Option (List Diagnostic)
  | configure _ | elect => Unit

/-- How a request is answered. -/
def ask : (r : Request) → Asking Workers r.Answer
  | hover d p => Less.hover d p
  | references d p all => Less.references d p all
  | declarations d p => Less.declarations d p
  | highlights d p => Less.highlights d p
  | outline d => Less.outline d
  | suggestions d p cancelled => Less.suggestions d p cancelled
  | stepValue d r up => Less.stepValue d r up
  | format d tabSize insertSpaces => Less.format d tabSize insertSpaces
  | colors d => Less.colors d
  | validate d => Less.validate d
  | configure options => Less.configure options
  | elect => onWorkers fun pool => Prod.map (·.getD (.ok ())) id (electValidator pool)

/-- The result of a request, and the workers afterwards. -/
def serve (r : Request) (pool : Workers) : Except ProviderError r.Answer × Workers :=
  r.ask.run.run pool

/-- The options that a request brings, if they can be read. -/
def accepted? : Request → Option Options
  | configure options => Options.ofJson? .json options
  | _ => none

/-- Whether a request asks for the problems of a stylesheet. -/
def isValidation : Request → Bool
  | validate _ => true
  | _ => false

/-- The result of a request to a worker that is there for it alone. -/
def resultUnder (o : Options) (r : Request) : Except ProviderError r.Answer :=
  (r.serve (workers 1 o)).1

end Request

/-- A request with its result. -/
abbrev Reply := (r : Request) × Except ProviderError r.Answer

/-- The replies to requests, each made when the one before was answered, and the workers then. -/
def session : List Request → Workers → List Reply × Workers
  | [], pool => ([], pool)
  | r :: requests, pool =>
    let (result, pool) := r.serve pool
    let (replies, pool) := session requests pool
    (⟨r, result⟩ :: replies, pool)

/-- The replies to requests under options, where only the options are remembered. -/
def repliesUnder (o : Options) : List Request → List Reply
  | [] => []
  | r :: requests => ⟨r, r.resultUnder o⟩ :: repliesUnder (r.accepted?.getD o) requests

/-- A request only looks at a stylesheet, or it is one of those that change workers. -/
theorem Request.looks_or (r : Request) :
  (Looks r.ask ∧ r.accepted? = none ∧ r.isValidation = false)
    ∨ (∃ d, r = validate d) ∨ (∃ options, r = configure options) ∨ r = elect
  := by
  cases r with
  | hover d p => exact .inl ⟨looks_hover d p, rfl, rfl⟩
  | references d p all => exact .inl ⟨looks_references d p all, rfl, rfl⟩
  | declarations d p => exact .inl ⟨looks_declarations d p, rfl, rfl⟩
  | highlights d p => exact .inl ⟨looks_highlights d p, rfl, rfl⟩
  | outline d => exact .inl ⟨looks_outline d, rfl, rfl⟩
  | suggestions d p cancelled => exact .inl ⟨looks_suggestions d p cancelled, rfl, rfl⟩
  | stepValue d r up => exact .inl ⟨looks_stepValue d r up, rfl, rfl⟩
  | format d tabSize insertSpaces => exact .inl ⟨looks_format d tabSize insertSpaces, rfl, rfl⟩
  | colors d => exact .inl ⟨looks_colors d, rfl, rfl⟩
  | validate d => exact .inr (.inl ⟨d, rfl⟩)
  | configure options => exact .inr (.inr (.inl ⟨options, rfl⟩))
  | elect => exact .inr (.inr (.inr rfl))

/--
A request has the same result on all pools whose workers have the same options.  It only changes
options when it brings some, and it is only counted when it validates.
-/
theorem Request.exists_result (r : Request) (o : Options) :
  ∃ result, ∀ {size settings told validated pool}, told.getD settings = o →
    Serving size settings told validated pool →
    ∃ next, r.serve pool = (result, next)
      ∧ Serving size settings (r.accepted?.or told) (validated + r.isValidation.toNat) next
  := by
  rcases r.looks_or with ⟨⟨result, found⟩, none_accepted, no_validation⟩ | ⟨d, rfl⟩
    | ⟨options, rfl⟩ | rfl
  · use result
    intro size settings told validated pool _ serving
    rw [none_accepted, no_validation]
    apply found _ Serving.looking _ serving
  · use findings? o d
    rintro size settings told validated pool rfl serving
    obtain ⟨next, ran, -, -, -, serving⟩ := serving.validate d
    exact ⟨next, ran, serving⟩
  · cases accepted : Options.ofJson? .json options with
    | none =>
      use .error (.invalidOptions "no record of options")
      intro size settings told validated pool _ serving
      refine ⟨pool, ?_, ?_⟩
      · rw [serve, ask, Less.configure, accepted]
        rfl
      · rw [accepted?, accepted]
        exact serving
    | some new =>
      use .ok ()
      intro size settings told validated pool _ serving
      obtain ⟨next, ran, -, serving⟩ := serving.configure accepted
      refine ⟨next, ran, ?_⟩
      rw [accepted?, accepted]
      exact serving
  · use .ok ()
    intro size settings told validated pool _ serving
    obtain ⟨elected, -, -, serving⟩ := serving.elect
    refine ⟨(electValidator pool).2, ?_, serving⟩
    rw [serve, ask, run_onWorkers, Prod.map_fst, elected]
    rfl

/-- A request is answered as by a worker of its own that has the options of the workers. -/
theorem Serving.serve {size : Nat} {settings : Options} {told : Option Options} {validated : Nat}
    {pool : Workers} (serving : Serving size settings told validated pool) (r : Request) :
  ∃ next, r.serve pool = (r.resultUnder (told.getD settings), next)
    ∧ Serving size settings (r.accepted?.or told) (validated + r.isValidation.toNat) next
  := by
  obtain ⟨result, served⟩ := r.exists_result (told.getD settings)
  have fresh : (none : Option Options).getD (told.getD settings) = told.getD settings := rfl
  obtain ⟨_, alone, -⟩ := served fresh (serving_workers 1 (told.getD settings))
  obtain ⟨next, ran, serving⟩ := served rfl serving
  refine ⟨next, ?_, serving⟩
  rw [Request.resultUnder, alone, ran]

/-- The options of the last request that brings some. -/
def lastAccepted? (requests : List Request) : Option Options :=
  (requests.filterMap Request.accepted?).getLast?

/-- Later options take the place of those that were told before. -/
theorem lastAccepted?_cons (r : Request) (requests : List Request) (told : Option Options) :
  (lastAccepted? (r :: requests)).or told
    = (lastAccepted? requests).or (r.accepted?.or told)
  := by
  rw [lastAccepted?, lastAccepted?, List.filterMap_cons]
  cases r.accepted? with
  | none => rfl
  | some new =>
    rw [List.getLast?_cons]
    cases (requests.filterMap Request.accepted?).getLast? <;> rfl

/-- Requests are answered one after another as by workers that remember only the options. -/
theorem Serving.session {size : Nat} {settings : Options} {told : Option Options} {validated : Nat}
    {pool : Workers} (serving : Serving size settings told validated pool)
    (requests : List Request) :
  (Less.session requests pool).1 = repliesUnder (told.getD settings) requests
    ∧ Serving size settings ((lastAccepted? requests).or told)
      (validated + requests.countP Request.isValidation) (Less.session requests pool).2
  := by
  induction requests generalizing told validated pool with
  | nil => exact ⟨rfl, serving⟩
  | cons r requests ih =>
    obtain ⟨next, ran, serving⟩ := serving.serve r
    obtain ⟨replies_eq, serving⟩ := ih serving
    have options_eq : (r.accepted?.or told).getD settings
        = r.accepted?.getD (told.getD settings) := by
      cases r.accepted? <;> rfl
    have count_eq : validated + r.isValidation.toNat + requests.countP Request.isValidation
        = validated + (r :: requests).countP Request.isValidation := by
      rw [List.countP_cons]
      cases r.isValidation <;> simp [Nat.add_comm, Nat.add_left_comm]
    rw [← lastAccepted?_cons, count_eq] at serving
    rw [options_eq] at replies_eq
    rw [Less.session, ran, repliesUnder]
    exact ⟨congrArg _ replies_eq, serving⟩

/--
Whatever requests were made on a pool, with any number of workers and any settings, each request was
answered as by a worker of its own under the options that were accepted last, or those of the
settings; in particular with any other number of workers the replies are the same.  All workers have
these options, and no slot is left without a worker once options were accepted.  Options that can be
read reach the worker of each slot, and others change nothing at all.  Validation finds what these
options do, on the worker of the last slot, which alone was elected and counts all validations; the
other slots stay as they are.  So the worker that answers requests never validates when there are
more.
-/
theorem session_keeps_options (count : Nat) (settings : Options) (requests : List Request) :
  let pool := (session requests (workers count settings)).2
  let o := (lastAccepted? requests).getD settings
  let last := max count 1 - 1
  (session requests (workers count settings)).1 = repliesUnder settings requests
    ∧ (∀ other, (session requests (workers other settings)).1
      = (session requests (workers count settings)).1)
    ∧ pool.size = max count 1
    ∧ (∀ slot worker, pool.slots[slot]? = some (.filled worker) →
      worker.options = o
      ∧ worker.isValidator = (pool.hasValidator && slot == last)
      ∧ worker.validations = if slot = last then requests.countP Request.isValidation else 0)
    ∧ ((lastAccepted? requests).isSome →
      ∀ slot < pool.size, ∃ worker, pool.slots[slot]? = some (.filled worker))
    ∧ (∀ options new, Options.ofJson? .json options = some new →
      ∃ next, (configure options).run.run pool = (.ok (), next)
        ∧ next.size = pool.size
        ∧ ∀ slot < pool.size, ∃ worker,
          next.slots[slot]? = some (.filled worker) ∧ worker.options = new)
    ∧ (∀ options, Options.ofJson? .json options = none →
      (configure options).run.run pool
        = (.error (.invalidOptions "no record of options"), pool))
    ∧ (∀ d, ∃ next worker, (validate d).run.run pool = (findings? o d, next)
      ∧ (∀ slot ≠ last, next.slots[slot]? = pool.slots[slot]?)
      ∧ next.slots[last]? = some (.filled worker)
      ∧ worker.options = o
      ∧ worker.isValidator = true
      ∧ worker.validations = requests.countP Request.isValidation + 1)
    ∧ (1 < count → ∀ worker, pool.slots[WorkerPool.electedSlot]? = some (.filled worker) →
      worker.isValidator = false ∧ worker.validations = 0)
  := by
  intro pool o last
  obtain ⟨replies_eq, serving⟩ := (serving_workers count settings).session requests
  rw [Option.or_none, Nat.zero_add] at serving
  refine ⟨replies_eq, fun other => ?_, serving.size_eq, fun slot worker found => ?_,
    fun told slot inside => serving.filled told slot (serving.size_eq ▸ inside),
    fun options new accepted => ?_, fun options refused => ?_, fun d => ?_,
    fun several worker found => ?_⟩
  · rw [replies_eq]
    exact ((serving_workers other settings).session requests).1
  · rw [serving.eq_of_filled found]
    exact ⟨rfl, rfl, rfl⟩
  · obtain ⟨next, ran, everywhere, after⟩ := serving.configure accepted
    refine ⟨next, ran, after.size_eq.trans serving.size_eq.symm, fun slot inside => ?_⟩
    exact everywhere slot (serving.size_eq ▸ inside)
  · rw [configure, refused]
    rfl
  · obtain ⟨next, ran, -, same, here, -⟩ := serving.validate d
    refine ⟨next, _, ran, same, here, rfl, ?_, ?_⟩
    · simp [workerOf]
    · simp [workerOf]
  · have first : WorkerPool.electedSlot ≠ last := by
      simp only [WorkerPool.electedSlot, last]
      omega
    rw [serving.eq_of_filled found]
    simp [workerOf, last, first]

/-- Options under which braces without a partner are this severe. -/
def lintOptions (severity : String) : Json :=
  .object [("lint", .object [("unbalanced_braces", .text severity)])]

/-- Options that can be read and others that cannot, between two validations. -/
def relintings (d : Document) : List Request :=
  [.validate d, .configure (lintOptions "warning"), .configure (lintOptions "loud"), .validate d]

/--
Of three workers the last one counts both validations, under the options that could be read.  The
first one was there for these options only, and will get the next ones as well.
-/
theorem session_keeps_options_relintings :
  let d : Document := ⟨"a.less", "less", 1, ['{']⟩
  let pool := (session (relintings d) (workers 3 {})).2
  (∃ worker, pool.slots[2]? = some (.filled worker)
      ∧ worker.options = { unbalancedBraces := .warning } ∧ worker.validations = 2)
    ∧ (∃ worker, pool.slots[0]? = some (.filled worker) ∧ worker.validations = 0)
    ∧ (configure (lintOptions "loud")).run.run pool
      = (.error (.invalidOptions "no record of options"), pool)
    ∧ ∃ next worker, (configure (lintOptions "ignore")).run.run pool = (.ok (), next)
      ∧ next.slots[0]? = some (.filled worker) ∧ worker.options = { unbalancedBraces := .ignore }
  := by
  intro d pool
  obtain ⟨-, -, size_eq, workers_eq, filled, accepted, refused, -, first⟩ :=
    session_keeps_options 3 {} (relintings d)
  have inside {slot : Nat} (before : slot < 3) : slot < pool.size := by
    rw [size_eq]
    exact before
  obtain ⟨third, there⟩ := filled rfl 2 (inside (by decide))
  obtain ⟨options_eq, -, count_eq⟩ := workers_eq 2 third there
  obtain ⟨elected, here⟩ := filled rfl 0 (inside (by decide))
  obtain ⟨next, ran, -, everywhere⟩ := accepted (lintOptions "ignore") _ rfl
  obtain ⟨later, still, new_options⟩ := everywhere 0 (inside (by decide))
  exact ⟨⟨third, there, options_eq, count_eq⟩, ⟨elected, here, (first (by decide) elected here).2⟩,
    refused _ rfl, next, later, ran, still, new_options⟩

end Less

end EditorModes
