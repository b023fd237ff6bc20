import EditorModes.Mode.Workspace
import EditorModes.Proofs.Grammar.Compile
import Mathlib.Data.List.Basic

/-!
# What validation finds

The workers of a pool are created one by one and have a history, but as long as all of them have
the same options (`Less.Holds`) the problems of a stylesheet only depend on these options.
Validating keeps the options, and new options reach all workers at once.
-/

namespace EditorModes

theorem Asking.run_bind (x : Asking S α) (f : α → Asking S β) (s : S) :
  (x >>= f).run.run s
    = match x.run.run s with
      | (.ok a, next) => (f a).run.run next
      | (.error e, next) => (.error e, next)
  := by
  rw [ExceptT.run_bind, StateT.run_bind]
  rcases x.run.run s with ⟨_ | _, next⟩ <;> rfl

/-! ### Pools whose workers can be created -/

namespace WorkerPool

/-- Every worker that is still missing can be created. -/
def Creates (p : WorkerPool W) : Prop :=
  ∀ slot attempts, .vacant attempts ∈ p.slots → ∃ worker, p.create slot attempts = .ok worker

variable {p : WorkerPool W} {slot : Nat}

theorem setSlot_setSlot (p : WorkerPool W) (slot count : Nat) (content last : Slot W) :
  ({ p.setSlot slot content with created := count } : WorkerPool W).setSlot slot last
    = { p.setSlot slot last with created := count }
  := by
  simp [setSlot, List.set_set]

/-- A worker in a slot leaves no more workers to be created. -/
theorem Creates.setSlot (creates : p.Creates) (worker : W) :
  (p.setSlot slot (.filled worker)).Creates
  := by
  intro other attempts among
  rcases List.mem_or_eq_of_mem_set among with before | ⟨⟨⟩⟩
  exact creates other attempts before

/-- The worker of a slot is in it, or is created and then in it. -/
theorem Creates.exists_worker (creates : p.Creates) (inside : slot < p.slots.length) :
  ∃ worker count,
    p.worker slot = (.ok worker, { p.setSlot slot (.filled worker) with created := count })
    ∧ (p.slots[slot] = .filled worker
      ∨ ∃ attempts, p.slots[slot] = .vacant attempts ∧ p.create slot attempts = .ok worker)
  := by
  have found := List.getElem?_eq_getElem inside
  cases content : p.slots[slot] with
  | filled worker =>
    rw [content] at found
    have same : p.setSlot slot (.filled worker) = p := by
      rw [WorkerPool.setSlot, ← content, List.set_getElem_self]
    refine ⟨worker, p.created, ?_, .inl rfl⟩
    rw [WorkerPool.worker, found, same]
  | vacant attempts =>
    rw [content] at found
    obtain ⟨worker, created⟩ := creates slot attempts (content ▸ List.getElem_mem inside)
    refine ⟨worker, p.created + 1, ?_, .inr ⟨attempts, rfl, created⟩⟩
    simp only [WorkerPool.worker, found, created, addWorker]

/-- Work on the workers of some slots leaves each of these slots with a worker it was done on. -/
theorem Creates.exists_runOnSlots (creates : p.Creates) (work : Work W T) (slots : List Nat)
    (inside : ∀ slot ∈ slots, slot < p.slots.length) :
  ∃ results next, p.runOnSlots work slots = (.ok results, next) ∧ next.language = p.language
    ∧ next.slots.length = p.slots.length
    ∧ ∀ slot content, next.slots[slot]? = some content →
        (slot ∈ slots ∧ ∃ worker, content = .filled (work worker).1)
          ∨ slot ∉ slots ∧ p.slots[slot]? = some content
  := by
  induction slots generalizing p with
  | nil => exact ⟨[], p, rfl, rfl, rfl, by simp⟩
  | cons slot slots ih =>
    obtain ⟨worker, count, found, -⟩ := creates.exists_worker (inside slot (by simp))
    have length_eq : (p.setSlot slot (.filled (work worker).1)).slots.length = p.slots.length := by
      rw [WorkerPool.setSlot, List.length_set]
    have still : ∀ other ∈ slots,
        other < (p.setSlot slot (.filled (work worker).1)).slots.length := by
      intro other among
      rw [length_eq]
      exact inside other (List.mem_cons_of_mem _ among)
    obtain ⟨results, next, ran, language_eq, next_length, contents⟩ :=
      ih (p := { p.setSlot slot (.filled (work worker).1) with created := count })
        (creates.setSlot _) still
    refine ⟨(work worker).2 :: results, next, ?_, language_eq, next_length.trans length_eq, ?_⟩
    · simp only [runOnSlots, found, setSlot_setSlot]
      rw [ran]
      rfl
    · intro other content at_other
      rcases contents other content at_other with ⟨among, done⟩ | ⟨absent, before⟩
      · exact .inl ⟨List.mem_cons_of_mem _ among, done⟩
      · simp only [WorkerPool.setSlot] at before
        by_cases same : slot = other
        · subst same
          rw [List.getElem?_set_self (inside slot (by simp))] at before
          exact .inl ⟨by simp, worker, (Option.some.inj before).symm⟩
        · rw [List.getElem?_set_ne same] at before
          exact .inr ⟨by simp [absent, Ne.symm same], before⟩

end WorkerPool

namespace Less

/-! ### Workers with the same options -/

/-- The workers of a pool have the same options, and so will those that are created later. -/
structure Holds (pool : Workers) (o : Options) : Prop where
  language_eq : pool.language = language
  nonempty : pool.slots ≠ []
  created : ∀ worker, .filled worker ∈ pool.slots → worker.options = o
  vacant : ∀ attempts, .vacant attempts ∈ pool.slots →
    pool.create = fun _ _ => .ok { options := o }

/-- Workers that start with given options have them. -/
theorem holds_workers (count : Nat) (o : Options) :
  Holds (workers count o) o
  := by
  constructor
  · rfl
  · simp [workers, WorkerPool.ofSize]
  · simp [workers, WorkerPool.ofSize]
  · intro _ _
    rfl

namespace Holds

variable {pool : Workers} {o new : Options} {slot : Nat}

/-- A worker with the options of the others may be in any slot. -/
theorem setSlot (holds : Holds pool o) {worker : Worker} (same : worker.options = o) :
  Holds (pool.setSlot slot (.filled worker)) o
  := by
  constructor
  · exact holds.language_eq
  · simpa [WorkerPool.setSlot] using holds.nonempty
  · intro other among
    rcases List.mem_or_eq_of_mem_set among with before | ⟨⟨⟩⟩
    · exact holds.created other before
    · exact same
  · intro attempts among
    rcases List.mem_or_eq_of_mem_set among with before | ⟨⟨⟩⟩
    exact holds.vacant attempts before

theorem creates (holds : Holds pool o) :
  pool.Creates
  := by
  intro slot attempts among
  rw [holds.vacant attempts among]
  exact ⟨_, rfl⟩

/-- Work that keeps options leaves all workers with theirs. -/
theorem exists_run (holds : Holds pool o) (inside : slot < pool.slots.length)
    {work : Work Worker T} (keeps : ∀ worker, (work worker).1.options = worker.options) :
  ∃ worker next, worker.options = o ∧ Holds next o ∧ next.hasValidator = pool.hasValidator
    ∧ pool.run slot work = (next.outcome (work worker).2, next)
  := by
  obtain ⟨worker, count, found, content⟩ := holds.creates.exists_worker inside
  have same : worker.options = o := by
    rcases content with filled | ⟨attempts, vacant, created⟩
    · exact holds.created worker (filled ▸ List.getElem_mem inside)
    · rw [holds.vacant attempts (vacant ▸ List.getElem_mem inside)] at created
      obtain rfl := Except.ok.inj created
      rfl
  have still : Holds (pool.setSlot slot (.filled (work worker).1)) o :=
    holds.setSlot ((keeps worker).trans same)
  refine ⟨worker, { pool.setSlot slot (.filled (work worker).1) with created := count }, same,
    ⟨still.language_eq, still.nonempty, still.created, still.vacant⟩, rfl, ?_⟩
  simp only [WorkerPool.run, found, WorkerPool.setSlot_setSlot]
  rfl

theorem validatorSlot_lt (holds : Holds pool o) :
  pool.validatorSlot < pool.slots.length
  := by
  have := List.length_pos_iff.mpr holds.nonempty
  rw [WorkerPool.validatorSlot, WorkerPool.size]
  omega

/-- After an election there is a worker that validates. -/
theorem exists_electValidator (holds : Holds pool o) :
  ∃ result next, electValidator pool = (result, next) ∧ result.getD (.ok ()) = .ok ()
    ∧ Holds next o ∧ next.hasValidator
  := by
  cases elected : pool.hasValidator with
  | true =>
    refine ⟨none, pool, ?_, rfl, holds, elected⟩
    rw [electValidator, WorkerPool.elect, WorkerPool.startElection?, if_pos elected]
  | false =>
    have started : Holds { pool with hasValidator := true } o :=
      ⟨holds.language_eq, holds.nonempty, holds.created, holds.vacant⟩
    have keeps (w : Worker) : (w.markValidator, some ()).1.options = w.options := rfl
    obtain ⟨worker, next, -, holds, has, ran⟩ :=
      started.exists_run started.validatorSlot_lt keeps
    refine ⟨some (.ok ()), next, ?_, rfl, holds, has⟩
    simp [electValidator, WorkerPool.elect, WorkerPool.startElection?, elected,
      WorkerPool.finishElection, ran, WorkerPool.outcome]

/-- The worker that validates has the options of the others. -/
theorem exists_runOnValidator (holds : Holds pool o) (has : pool.hasValidator)
    {work : Work Worker T} (keeps : ∀ worker, (work worker).1.options = worker.options) :
  ∃ worker next, worker.options = o ∧ Holds next o
    ∧ pool.runOnValidator work = (next.outcome (work worker).2, next)
  := by
  obtain ⟨worker, next, same, holds, -, ran⟩ := holds.exists_run holds.validatorSlot_lt keeps
  use worker, next, same, holds
  rw [WorkerPool.runOnValidator, if_pos has, ran]

end Holds

/-! ### Findings -/

/-- A problem of a document as it is published. -/
def Problem.diagnostic? (d : Document) (p : Problem) : Except ProviderError Diagnostic :=
  match d.text.rangeOf? p.span with
  | some range =>
    .ok {
      range := range
      message := p.message
      severity := some p.severity.number
      source := some language }
  | none => .error (.panicked "offset inside a character")

/-- What validating a stylesheet gives under options. -/
def findings? (o : Options) (d : Document) : Except ProviderError (Option (List Diagnostic)) :=
  match ({ options := o } : Worker).problems? d.text with
  | none => .error (.worker (.crashed language))
  | some problems => (problems.mapM (Problem.diagnostic? d)).map answerOfList

/-- A published problem is as severe as the problem. -/
theorem severity_of_diagnostic? {d : Document} {p : Problem} {published : Diagnostic}
    (found : p.diagnostic? d = .ok published) :
  published.severity = some p.severity.number
  := by
  rw [Problem.diagnostic?] at found
  cases range_eq : d.text.rangeOf? p.span with
  | none => simp [range_eq] at found
  | some range =>
    rw [range_eq] at found
    obtain rfl := Except.ok.inj found
    rfl

/-- Problems are as severe as the options say, and there are none when they are to be ignored. -/
theorem severity_of_problems? {worker : Worker} {text : Text} {problems : List Problem}
    (found : worker.problems? text = some problems) {p : Problem} (among : p ∈ problems) :
  worker.options.unbalancedBraces ≠ .ignore ∧ p.severity = worker.options.unbalancedBraces
  := by
  rw [Worker.problems?] at found
  split at found
  · obtain rfl := Option.some.inj found
    simp at among
  · next reported =>
    obtain ⟨sheet, -, rfl⟩ := Option.map_eq_some_iff.mp found
    obtain ⟨brace, -, rfl⟩ := List.mem_map.mp among
    exact ⟨reported, rfl⟩

/-- A request that has the same result on all pools with a property, and leaves them with it. -/
def Meets (property : Workers → Prop) (x : Asking Workers α) (result : Except ProviderError α) :
    Prop :=
  ∀ pool, property pool → ∃ next, x.run.run pool = (result, next) ∧ property next

namespace Meets

variable {property : Workers → Prop}

theorem pure (a : α) :
  Meets property (Pure.pure a) (.ok a)
  := fun pool holds => ⟨pool, rfl, holds⟩

theorem throw (e : ProviderError) :
  Meets property (MonadExcept.throw e : Asking Workers α) (.error e)
  := fun pool holds => ⟨pool, rfl, holds⟩

theorem bind {x : Asking Workers α} {f : α → Asking Workers β} {result : Except ProviderError α}
    {g : α → Except ProviderError β} (first : Meets property x result)
    (more : ∀ a, result = .ok a → Meets property (f a) (g a)) :
  Meets property (x >>= f) (result.bind g)
  := by
  intro pool holds
  obtain ⟨next, ran, holds⟩ := first pool holds
  cases result with
  | error e =>
    refine ⟨next, ?_, holds⟩
    rw [Asking.run_bind, ran]
    rfl
  | ok a =>
    obtain ⟨last, after, holds⟩ := more a rfl next holds
    refine ⟨last, ?_, holds⟩
    rw [Asking.run_bind, ran]
    exact after

theorem mapM {f : α → Asking Workers β} {g : α → Except ProviderError β}
    (each : ∀ a, Meets property (f a) (g a)) (l : List α) :
  Meets property (l.mapM f) (l.mapM g)
  := by
  induction l with
  | nil => exact pure []
  | cons a l ih =>
    rw [List.mapM_cons, List.mapM_cons]
    exact (each a).bind fun b _ => ih.bind fun bs _ => pure (b :: bs)

end Meets

/-- A request that gives the same on all workers with the same options, and leaves them theirs. -/
def Gives (o : Options) (x : Asking Workers α) (result : Except ProviderError α) : Prop :=
  ∀ pool, Holds pool o → ∃ next, x.run.run pool = (result, next) ∧ Holds next o

/-- The result of a pool of workers and the pool afterwards. -/
theorem run_onWorkers (run : Workers → Except WorkerError T × Workers) (pool : Workers) :
  (onWorkers run).run.run pool = ((run pool).1.mapError .worker, (run pool).2)
  := by
  have first : (get : Asking Workers Workers).run.run pool = (.ok pool, pool) := rfl
  rw [onWorkers, Asking.run_bind, first]
  rcases ran : run pool with ⟨result | error, next⟩
  · simp only [ran]
    rfl
  · simp only [ran]
    rfl

/-- Publishing a problem leaves the workers alone. -/
theorem meets_diagnostic? (property : Workers → Prop) (d : Document) (p : Problem) :
  Meets property
    (do return {
      range := ← rangeOf d p.span
      message := p.message
      severity := some p.severity.number
      source := some language })
    (p.diagnostic? d)
  := by
  rw [rangeOf, Problem.diagnostic?]
  cases d.text.rangeOf? p.span with
  | some range => exact .pure _
  | none => exact .throw _

/-- Validating runs on the worker that validates, once there is one, and publishes its problems. -/
theorem run_validate {pool next : Workers} {worker : Worker} (d : Document)
    (elected : (electValidator pool).1.getD (.ok ()) = .ok ())
    (ran : (electValidator pool).2.runOnValidator
        (fun worker => (worker.countValidation, worker.problems? d.text))
      = (next.outcome (worker.problems? d.text), next))
    (language_eq : next.language = language) :
  (validate d).run.run pool = (findings? worker.options d, next)
  := by
  have problems_eq : ({ options := worker.options } : Worker).problems? d.text
      = worker.problems? d.text := rfl
  rw [validate, Asking.run_bind, run_onWorkers]
  simp only [elected, Except.mapError, Asking.run_bind, run_onWorkers, ran, findings?, problems_eq]
  cases worker.problems? d.text with
  | none => rw [WorkerPool.outcome, language_eq]
  | some problems =>
    obtain ⟨last, published, rfl⟩ :=
      Meets.mapM (meets_diagnostic? (· = next) d) problems next rfl
    dsimp only [WorkerPool.outcome]
    rw [published]
    cases problems.mapM (Problem.diagnostic? d) <;> rfl

/-- Validating gives what the options of the workers find. -/
theorem gives_validate (o : Options) (d : Document) :
  Gives o (validate d) (findings? o d)
  := by
  intro pool holds
  obtain ⟨result, next, election, elected, holds, has⟩ := holds.exists_electValidator
  have keeps (w : Worker) : (w.countValidation, w.problems? d.text).1.options = w.options := rfl
  obtain ⟨worker, next, rfl, holds, validation⟩ := holds.exists_runOnValidator has keeps
  refine ⟨next, ?_, holds⟩
  apply run_validate d _ _ holds.language_eq
  · rw [election]
    exact elected
  · rw [election]
    exact validation

/-- Options that can be read are those of all workers from then on; others change nothing. -/
theorem Holds.configure {pool : Workers} {o : Options} (holds : Holds pool o) (options : Json) :
  Holds ((configure options).run.run pool).2 ((Options.ofJson? .json options).getD o)
  := by
  rw [Less.configure]
  cases Options.ofJson? .json options with
  | none => exact holds
  | some new =>
    obtain ⟨results, next, ran, language_eq, length_eq, contents⟩ :=
      holds.creates.exists_runOnSlots (fun worker => (worker.configure new, some ()))
        (List.range pool.size) fun slot among => List.mem_range.mp among
    have new_everywhere : ∀ content ∈ next.slots, ∃ worker : Worker,
        content = .filled (worker.configure new) := by
      intro content among
      obtain ⟨slot, at_slot⟩ := List.getElem?_of_mem among
      rcases contents slot content at_slot with ⟨-, done⟩ | ⟨absent, -⟩
      · exact done
      · obtain ⟨inside, -⟩ := List.getElem?_eq_some_iff.mp at_slot
        rw [length_eq] at inside
        exact absurd (List.mem_range.mpr inside) absent
    have afterwards : Holds next new := by
      constructor
      · exact language_eq.trans holds.language_eq
      · rw [← List.length_pos_iff, length_eq, List.length_pos_iff]
        exact holds.nonempty
      · intro worker among
        obtain ⟨before, filled⟩ := new_everywhere _ among
        obtain rfl := Slot.filled.inj filled
        rfl
      · intro attempts among
        obtain ⟨before, vacant⟩ := new_everywhere _ among
        cases vacant
    rw [Asking.run_bind, run_onWorkers, WorkerPool.runOnAll, ran]
    dsimp only
    cases (Except.ok results).bind fun results => results.mapM next.outcome with
    | ok _ => exact afterwards
    | error _ => exact afterwards

end Less

/-! ### The problems of a document -/

namespace Service

/-- What validating a document with a service gives under options. -/
def findings? (s : Service) (o : Less.Options) (d : Document) :
    Except ProviderError (Option (List Diagnostic)) :=
  match s with
  | stylesheets => Less.findings? o d
  | words => .ok none

/-- The options after some are passed on to a service. -/
def optionsAfter (options : Json) (o : Less.Options) : Service → Less.Options
  | stylesheets => (Less.Options.ofJson? .json options).getD o
  | words => o

/-- Validating with a service gives what the options of the workers find. -/
theorem gives_validate (s : Service) (o : Less.Options) (d : Document) :
  Less.Gives o (s.validate d) (s.findings? o d)
  := by
  cases s with
  | stylesheets => apply Less.gives_validate
  | words => exact Less.Meets.pure none

/-- A service passes on options that can be read to its workers. -/
theorem holds_configure (s : Service) {pool : Less.Workers} {o : Less.Options}
    (holds : Less.Holds pool o) (options : Json) :
  Less.Holds ((s.configure options).run.run pool).2 (s.optionsAfter options o)
  := by
  cases s with
  | stylesheets => exact holds.configure options
  | words => exact holds

end Service

/-- The problems that the services of modes find in a document under options. -/
def ModeSet.diagnosis (modes : ModeSet) (o : Less.Options) (d : Document) : List Diagnostic :=
  let services := (modes.features.services .validation).ordered d.language (some d.scheme)
  let outcomes := services.map fun service => Outcome.ofExcept (service.findings? o d)
  (aggregate .validation List.flatten (outcomes.map some)).answer

/-- What is gathered was answered. -/
theorem exists_answered [Usable α] {index : Nat} {outcomes : List (Option (Outcome α))}
    {answer : α} (gathered : answer ∈ (gatherFrom index outcomes).results) :
  some (.answered (some answer)) ∈ outcomes
  := by
  fun_induction gatherFrom index outcomes with
  | case1 index => simp at gathered
  | case2 index rest _ found usable ih =>
    rcases List.mem_cons.mp gathered with rfl | later
    · apply List.mem_cons_self
    · exact List.mem_cons_of_mem _ (ih later)
  | case3 index rest _ found unusable ih => exact List.mem_cons_of_mem _ (ih gathered)
  | case4 index rest _ error ih => exact List.mem_cons_of_mem _ (ih gathered)
  | case5 index outcome rest _ _ _ ih => exact List.mem_cons_of_mem _ (ih gathered)

theorem eq_of_answerOfList {items answer : List α} (answered : answerOfList items = some answer) :
  items = answer ∧ answer ≠ []
  := by
  rw [answerOfList] at answered
  split at answered
  · cases answered
  · next nonempty =>
    obtain rfl := Option.some.inj answered
    exact ⟨rfl, by simpa using nonempty⟩

/-- A service only finds problems as severe as the options say, and none to be ignored. -/
theorem Service.severity_of_findings? {s : Service} {o : Less.Options} {d : Document}
    {answer : List Diagnostic} {found : Diagnostic}
    (reported : s.findings? o d = .ok (some answer)) (among : found ∈ answer) :
  o.unbalancedBraces ≠ .ignore ∧ found.severity = some o.unbalancedBraces.number
  := by
  cases s with
  | words => simp [Service.findings?] at reported
  | stylesheets =>
    rw [Service.findings?, Less.findings?] at reported
    cases problems_eq : ({ options := o } : Less.Worker).problems? d.text with
    | none => simp [problems_eq] at reported
    | some problems =>
      rw [problems_eq] at reported
      dsimp only at reported
      cases mapped : problems.mapM (Less.Problem.diagnostic? d) with
      | error e => simp [mapped, Except.map] at reported
      | ok results =>
        have answered : answerOfList results = some answer := by
          simpa [mapped, Except.map] using reported
        obtain ⟨rfl, -⟩ := eq_of_answerOfList answered
        obtain ⟨problem, problem_among, published⟩ := exists_of_mem_mapM mapped among
        obtain ⟨reported, severity_eq⟩ := Less.severity_of_problems? problems_eq problem_among
        exact ⟨reported, (Less.severity_of_diagnostic? published).trans (by rw [severity_eq])⟩

/-- Problems are as severe as the options say, and there are none when they are to be ignored. -/
theorem ModeSet.severity_of_mem_diagnosis {modes : ModeSet} {o : Less.Options} {d : Document}
    {found : Diagnostic} (among : found ∈ modes.diagnosis o d) :
  o.unbalancedBraces ≠ .ignore ∧ found.severity = some o.unbalancedBraces.number
  := by
  obtain ⟨answer, gathered, among⟩ := List.mem_flatten.mp among
  obtain ⟨outcome, answered, outcome_eq⟩ := List.mem_map.mp (exists_answered gathered)
  obtain rfl := Option.some.inj outcome_eq
  obtain ⟨service, -, outcome_eq⟩ := List.mem_map.mp answered
  cases found_eq : service.findings? o d with
  | error e => simp [found_eq, Outcome.ofExcept] at outcome_eq
  | ok reported =>
    obtain rfl : reported = some answer := by
      simpa [found_eq, Outcome.ofExcept] using outcome_eq
    exact Service.severity_of_findings? found_eq among

namespace Workspace

variable {w : Workspace} {o : Less.Options}

theorem run_onWorkers (run : StateM Less.Workers α) (w : Workspace) :
  (onWorkers run).run w = ((run.run w.workers).1, { w with workers := (run.run w.workers).2 })
  := rfl

/-- Asked one after another, services find what the options of the workers do. -/
theorem exists_outcomes (holds : Less.Holds w.workers o) (d : Document) (services : List Service) :
  ∃ workers, Less.Holds workers o
    ∧ (services.mapM fun service => onWorkers (Asking.outcome (service.validate d))).run w
      = (services.map fun service => Outcome.ofExcept (service.findings? o d),
          { w with workers := workers })
  := by
  induction services generalizing w with
  | nil => exact ⟨w.workers, holds, rfl⟩
  | cons service services ih =>
    obtain ⟨next, ran, holds⟩ := service.gives_validate o d w.workers holds
    obtain ⟨workers, holds, rest⟩ := ih (w := { w with workers := next }) holds
    refine ⟨workers, holds, ?_⟩
    have first : (onWorkers (Asking.outcome (service.validate d))).run w
        = (Outcome.ofExcept (service.findings? o d), { w with workers := next }) := by
      rw [run_onWorkers, Asking.outcome, StateT.run_bind, ran]
      rfl
    rw [List.mapM_cons, StateT.run_bind, first]
    change StateT.run (_ >>= _) ({ w with workers := next } : Workspace) = _
    rw [StateT.run_bind, rest]
    rfl

/-- Validating a document gives its problems under the options of the workers, which stay. -/
theorem exists_diagnostics (holds : Less.Holds w.workers o) (d : Document) :
  ∃ found workers, Less.Holds workers o ∧ found.answer = w.modes.diagnosis o d
    ∧ (diagnostics d false).run w = (found, { w with workers := workers })
  := by
  obtain ⟨workers, holds, ran⟩ := exists_outcomes holds d (w.services .validation d)
  let outcomes := (w.services .validation d).map fun service =>
    Outcome.ofExcept (service.findings? o d)
  use aggregate .validation List.flatten (outcomes.map some), workers, holds, rfl
  let asked := ((w.services .validation d).mapM fun service =>
    onWorkers (Asking.outcome (service.validate d))).run w
  change (aggregate .validation List.flatten (asked.1.map some), asked.2) = _
  simp only [asked, ran, outcomes]

/-- Options passed on to services one after another reach the workers. -/
theorem exists_configure (holds : Less.Holds w.workers o) (options : Json)
    (services : List Service) :
  ∃ results workers, Less.Holds workers (services.foldl (Service.optionsAfter options) o)
    ∧ (services.mapM fun service => configure service options).run w
      = (results, { w with workers := workers })
  := by
  induction services generalizing w o with
  | nil => exact ⟨[], w.workers, holds, rfl⟩
  | cons service services ih =>
    have next := service.holds_configure holds options
    obtain ⟨results, workers, holds, rest⟩ :=
      ih (w := { w with workers := ((service.configure options).run.run w.workers).2 }) next
    refine ⟨((service.configure options).run.run w.workers).1 :: results, workers, holds, ?_⟩
    rw [List.mapM_cons, StateT.run_bind, configure, run_onWorkers]
    change StateT.run (_ >>= _) ({ w with workers := _ } : Workspace) = _
    rw [StateT.run_bind, rest]
    rfl

end Workspace

end EditorModes
