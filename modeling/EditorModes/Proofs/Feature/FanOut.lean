import EditorModes.Feature.FanOut
import Mathlib.Data.List.Basic
import Mathlib.Data.List.Induction

/-!
# Collecting from all providers

The collection takes what comes from the providers in their order and once each, whatever the order
in which they settle, and misses nothing that settled before a cancellation was noticed
(`FanOut.collects_in_order`).  What a step does is said once (`FanOut.Advances`).
-/

namespace EditorModes

/-! ### Gathering -/

/-- The usable answer that a provider ended with. -/
def Outcome.usable? [Usable α] : Outcome α → Option α
  | .answered (some answer) => if Usable.usable answer then some answer else none
  | _ => none

/-- The failure that a provider ended with. -/
def Outcome.error? : Outcome α → Option ProviderError
  | .answered _ => none
  | .failed error => some error

/-- All usable answers are gathered, in their order. -/
theorem results_gatherFrom [Usable α] (index : Nat) (outcomes : List (Option (Outcome α))) :
  (gatherFrom index outcomes).results = outcomes.filterMap (·.bind Outcome.usable?)
  := by
  induction outcomes generalizing index with
  | nil => rfl
  | cons outcome outcomes ih =>
    rw [List.filterMap_cons, ← ih (index + 1)]
    rcases outcome with _ | (_ | answer) | error
    · rfl
    · rfl
    · by_cases usable : Usable.usable answer = true <;>
        simp [gatherFrom, Outcome.usable?, usable]
    · rfl

/-- All failures are gathered with the places of their providers, in their order. -/
theorem failures_gatherFrom [Usable α] (index : Nat) (outcomes : List (Option (Outcome α))) :
  (gatherFrom index outcomes).failures
    = (outcomes.zipIdx index).filterMap fun x => (x.1.bind Outcome.error?).map (x.2, ·)
  := by
  induction outcomes generalizing index with
  | nil => rfl
  | cons outcome outcomes ih =>
    rw [List.zipIdx_cons, List.filterMap_cons, ← ih (index + 1)]
    rcases outcome with _ | (_ | answer) | error
    · rfl
    · rfl
    · by_cases usable : Usable.usable answer = true <;>
        simp [gatherFrom, Outcome.error?, usable]
    · rfl

namespace FanOut

variable {f g : FanOut α} {ends : List (Option (Outcome α))} {events : List FanOutEvent}

/-! ### Steps of the collection -/

/-- What a step of the collection does. -/
inductive Advances (f : FanOut α) : FanOut α → Prop
  | finished (finished : f.isOver = true) : Advances f f
  | pass (going : f.isOver = false) (noticed : f.noticed = true) :
      Advances f { f with taken := f.taken ++ [f.outcome? f.taken.length] }
  | take (going : f.isOver = false) (unnoticed : f.noticed = false) (checked : f.checked = true)
      {outcome : Outcome α} (settled : f.outcome? f.taken.length = some outcome) :
      Advances f { f with checked := false, taken := f.taken ++ [some outcome] }
  | wait (going : f.isOver = false) (unnoticed : f.noticed = false) (checked : f.checked = true)
      (unsettled : f.outcome? f.taken.length = none) :
      Advances f { f with checked := false }
  | notice (going : f.isOver = false) (unnoticed : f.noticed = false)
      (unchecked : f.checked = false) (cancelled : f.cancelled = true) :
      Advances f { f with noticed := true }
  | check (going : f.isOver = false) (unnoticed : f.noticed = false)
      (unchecked : f.checked = false) (uncancelled : f.cancelled = false) :
      Advances f { f with checked := true }

/-- The collection does one of these steps. -/
theorem advances_advance (f : FanOut α) :
  f.Advances f.advance
  := by
  unfold advance
  split
  · next finished => exact .finished finished
  · next going =>
    rw [Bool.not_eq_true] at going
    split
    · next noticed => exact .pass going noticed
    · next unnoticed =>
      rw [Bool.not_eq_true] at unnoticed
      split
      · next checked =>
        split
        · next unsettled => exact .wait going unnoticed checked unsettled
        · next settled => exact .take going unnoticed checked settled
      · next unchecked =>
        rw [Bool.not_eq_true] at unchecked
        split
        · next cancelled => exact .notice going unnoticed unchecked cancelled
        · next uncancelled =>
          rw [Bool.not_eq_true] at uncancelled
          exact .check going unnoticed unchecked uncancelled

theorem outcome?_eq_some_iff {i : Nat} {outcome : Outcome α} :
  f.outcome? i = some outcome ↔ i ∈ f.settled ∧ f.asked[i]? = some (some outcome)
  := by
  rw [outcome?, Option.ite_none_right_eq_some, Option.join_eq_some_iff]

theorem isOver_eq_false_iff :
  f.isOver = false ↔ f.taken.length < f.asked.length
  := by
  simp [isOver]

/-- The collection asks no more providers, settles none and cancels nothing. -/
theorem advance_frame (f : FanOut α) :
  f.advance.asked = f.asked ∧ f.advance.settled = f.settled ∧ f.advance.cancelled = f.cancelled
  := by
  have advances := f.advances_advance
  generalize f.advance = g at advances
  cases advances <;> exact ⟨rfl, rfl, rfl⟩

@[simp]
theorem asked_step (f : FanOut α) (event : FanOutEvent) :
  (f.step event).asked = f.asked
  := by
  cases event with
  | settled | cancelled => rfl
  | advance => apply f.advance_frame.1

@[simp]
theorem settled_advance (f : FanOut α) :
  f.advance.settled = f.settled
  := f.advance_frame.2.1

@[simp]
theorem cancelled_advance (f : FanOut α) :
  f.advance.cancelled = f.cancelled
  := f.advance_frame.2.2

@[simp]
theorem asked_run (f : FanOut α) (events : List FanOutEvent) :
  (f.run events).asked = f.asked
  := by
  induction events generalizing f with
  | nil => rfl
  | cons event events ih => apply (ih (f.step event)).trans (asked_step f event)

/-- A cancellation that was noticed stays so. -/
theorem noticed_step (noticed : f.noticed = true) (event : FanOutEvent) :
  (f.step event).noticed = true
  := by
  cases event with
  | settled | cancelled => exact noticed
  | advance =>
    have advances := f.advances_advance
    rw [step]
    generalize f.advance = g at advances
    cases advances <;> first | exact noticed | rfl

/-- A cancellation is noticed only when there is one. -/
theorem cancelled_of_noticed_step (noticed : f.noticed = true → f.cancelled = true)
    (event : FanOutEvent) (after : (f.step event).noticed = true) :
  (f.step event).cancelled = true
  := by
  cases event with
  | settled => apply noticed after
  | cancelled => rfl
  | advance =>
    have advances := f.advances_advance
    rw [step] at after ⊢
    generalize f.advance = g at advances after ⊢
    cases advances with
    | notice _ _ _ cancelled => exact cancelled
    | _ => apply noticed after

/--
When something happens, nothing is taken, or what has come from the next provider, which has settled
unless a cancellation was noticed.
-/
theorem taken_step (f : FanOut α) (event : FanOutEvent) :
  (f.step event).taken = f.taken
    ∨ f.isOver = false ∧ (f.step event).taken = f.taken ++ [f.outcome? f.taken.length]
      ∧ (f.noticed = false → (f.outcome? f.taken.length).isSome)
  := by
  cases event with
  | settled | cancelled => exact .inl rfl
  | advance =>
    have advances := f.advances_advance
    rw [step]
    generalize f.advance = g at advances
    cases advances with
    | pass going noticed => exact .inr ⟨going, rfl, by simp [noticed]⟩
    | take going _ _ settled => exact .inr ⟨going, by rw [settled], fun _ => by simp [settled]⟩
    | finished | wait | notice | check => exact .inl rfl

theorem taken_step_of_isOver (finished : f.isOver = true) (event : FanOutEvent) :
  (f.step event).isOver = true ∧ (f.step event).taken = f.taken
  := by
  have taken_eq := (f.taken_step event).resolve_right fun more => by simp [finished] at more
  refine ⟨?_, taken_eq⟩
  rw [isOver, taken_eq, asked_step]
  exact finished

/-- What was collected stays once the request is over. -/
theorem taken_run_of_isOver (finished : f.isOver = true) (events : List FanOutEvent) :
  (f.run events).isOver = true ∧ (f.run events).taken = f.taken
  := by
  induction events generalizing f with
  | nil => exact ⟨finished, rfl⟩
  | cons event events ih =>
    obtain ⟨still, taken_eq⟩ := taken_step_of_isOver finished event
    have later := ih still
    exact ⟨later.1, later.2.trans taken_eq⟩

theorem run_append (f : FanOut α) (before after : List FanOutEvent) :
  f.run (before ++ after) = (f.run before).run after
  := List.foldl_append

/-! ### What was collected -/

/-- The places of the providers that something came from. -/
def counted (f : FanOut α) : List Nat :=
  (f.taken.zipIdx.filter (·.1.isSome)).map (·.2)

/-- Something came from the providers that are counted. -/
theorem mem_counted_iff {i : Nat} :
  i ∈ f.counted ↔ ∃ outcome, f.taken[i]? = some (some outcome)
  := by
  simp only [counted, List.mem_map, List.mem_filter, Prod.exists, exists_eq_right,
    List.mem_zipIdx_iff_getElem?]
  constructor
  · rintro ⟨_ | outcome, here, some⟩
    · simp at some
    · exact ⟨outcome, here⟩
  · rintro ⟨outcome, here⟩
    exact ⟨some outcome, here, rfl⟩

/-- Providers are counted in their order, and once each. -/
theorem counted_in_order (f : FanOut α) :
  f.counted.Pairwise (· < ·)
  := by
  have places_eq : f.taken.zipIdx.map (·.2) = List.range' 0 f.taken.length := by simp
  have in_order : (f.taken.zipIdx.map (·.2)).Pairwise (· < ·) := by
    rw [places_eq]
    exact List.pairwise_lt_range'
  exact in_order.sublist (List.filter_sublist.map _)

/--
A request to providers that end in some way has taken nothing else from them, and has passed none
before it settled unless it noticed a cancellation.
-/
structure Collects (f : FanOut α) (ends : List (Option (Outcome α))) : Prop where
  asked_eq : f.asked = ends
  length_le : f.taken.length ≤ ends.length
  settled : ∀ i outcome, f.taken[i]? = some (some outcome) →
    i ∈ f.settled ∧ ends[i]? = some (some outcome)
  waited : f.noticed = false → none ∉ f.taken
  noticed : f.noticed = true → f.cancelled = true

theorem collects_start (ends : List (Option (Outcome α))) :
  (start ends false).Collects ends
  := by
  constructor <;> simp [start]

/-- What happens to a request keeps what was collected. -/
theorem Collects.step (collects : f.Collects ends) (event : FanOutEvent) :
  (f.step event).Collects ends
  := by
  have settles {i : Nat} (before : i ∈ f.settled) : i ∈ (f.step event).settled := by
    cases event with
    | settled => apply List.mem_cons_of_mem _ before
    | cancelled => exact before
    | advance => rwa [FanOut.step, settled_advance]
  have unnoticed (later : (f.step event).noticed = false) : f.noticed = false := by
    rw [← Bool.not_eq_true] at later ⊢
    exact fun noticed => later (noticed_step noticed event)
  have asked_eq : (f.step event).asked = ends := (asked_step f event).trans collects.asked_eq
  have noticed := cancelled_of_noticed_step collects.noticed event
  rcases f.taken_step event with taken_eq | ⟨going, taken_eq, waits⟩
  · refine ⟨asked_eq, by rw [taken_eq]; exact collects.length_le, ?_, ?_, noticed⟩
    · rw [taken_eq]
      exact fun i outcome here => (collects.settled i outcome here).imp_left settles
    · rw [taken_eq]
      exact fun later => collects.waited (unnoticed later)
  · refine ⟨asked_eq, ?_, ?_, ?_, noticed⟩
    · rw [isOver_eq_false_iff, collects.asked_eq] at going
      rw [taken_eq]
      simpa using Nat.succ_le_of_lt going
    · intro i outcome here
      rw [taken_eq, List.getElem?_append] at here
      split at here
      · apply (collects.settled i outcome here).imp_left settles
      · obtain ⟨last, now⟩ := Option.ite_none_right_eq_some.mp (List.getElem?_singleton ▸ here)
        obtain rfl : i = f.taken.length := by omega
        rw [← collects.asked_eq]
        apply (outcome?_eq_some_iff.mp (Option.some.inj now)).imp_left settles
    · intro later among
      rw [taken_eq] at among
      rcases List.mem_append.mp among with before | now
      · apply collects.waited (unnoticed later) before
      · have some := waits (unnoticed later)
        rw [← List.mem_singleton.mp now] at some
        simp at some

/-- Whatever happens, nothing else is collected. -/
theorem collects_run (ends : List (Option (Outcome α))) (events : List FanOutEvent) :
  ((start ends false).run events).Collects ends
  := by
  induction events using List.reverseRecOn with
  | nil => apply collects_start ends
  | append_singleton events event ih =>
    rw [run_append]
    apply ih.step event

/-- What is made of the outcomes taken is made of the ways in which the counted providers end. -/
theorem Collects.filterMap_taken (collects : f.Collects ends) (make : Nat → Outcome α → Option β) :
  (f.taken.zipIdx.filterMap fun x => x.1.bind (make x.2))
    = f.counted.filterMap fun i => ends[i]?.join.bind (make i)
  := by
  rw [counted, List.filterMap_map, List.filterMap_filter]
  apply List.filterMap_congr
  rintro ⟨_ | outcome, i⟩ among
  · rfl
  · have here := List.mem_zipIdx_iff_getElem?.mp among
    simp [(collects.settled i outcome here).2]

theorem Collects.results_eq [Usable α] (collects : f.Collects ends) :
  f.result.results = f.counted.filterMap fun i => ends[i]?.join.bind Outcome.usable?
  := by
  rw [← collects.filterMap_taken, result, gather, results_gatherFrom]
  conv_lhs => rw [← List.zipIdx_map_fst 0 f.taken, List.filterMap_map]
  rfl

theorem Collects.failures_eq [Usable α] (collects : f.Collects ends) :
  f.result.failures
    = f.counted.filterMap fun i => (ends[i]?.join.bind Outcome.error?).map (i, ·)
  := by
  simp only [Option.map_bind]
  rw [← collects.filterMap_taken, result, gather, failures_gatherFrom]
  simp only [Option.map_bind]

/-! ### What is counted -/

/-- The providers that have settled are those that did before and those that did meanwhile. -/
theorem mem_settled_run_iff {i : Nat} :
  i ∈ (f.run events).settled ↔ i ∈ f.settled ∨ .settled i ∈ events
  := by
  induction events generalizing f with
  | nil => simp [run]
  | cons event events ih =>
    refine (ih (f := f.step event)).trans ?_
    cases event <;> simp [step, or_assoc, or_left_comm]

theorem cancelled_run_iff :
  (f.run events).cancelled = true ↔ f.cancelled = true ∨ .cancelled ∈ events
  := by
  induction events generalizing f with
  | nil => simp [run]
  | cons event events ih =>
    refine (ih (f := f.step event)).trans ?_
    cases event <;> simp [step]

/-- A provider that is counted settled before the request was over. -/
theorem exists_settled_of_mem_counted {i : Nat}
    (among : i ∈ ((start ends false).run events).counted) :
  ∃ before after, events = before ++ .settled i :: after
    ∧ ((start ends false).run before).isOver = false
  := by
  induction events using List.reverseRecOn with
  | nil => simp [start, run, counted] at among
  | append_singleton events event ih =>
    by_cases finished : ((start ends false).run events).isOver = true
    · have taken_eq := (taken_run_of_isOver finished [event]).2
      rw [run_append, counted, taken_eq] at among
      obtain ⟨before, after, events_eq, going⟩ := ih among
      exact ⟨before, after ++ [event], by simp [events_eq], going⟩
    · obtain ⟨outcome, here⟩ := mem_counted_iff.mp among
      have settled := ((collects_run ends _).settled i outcome here).1
      rw [mem_settled_run_iff] at settled
      rcases List.mem_append.mp (settled.resolve_left (by simp [start])) with earlier | now
      · obtain ⟨before, after, rfl⟩ := List.append_of_mem earlier
        refine ⟨before, after ++ [event], by simp, Bool.eq_false_iff.mpr fun ended => finished ?_⟩
        rw [run_append]
        apply (taken_run_of_isOver ended _).1
      · refine ⟨events, [], ?_, Bool.eq_false_iff.mpr finished⟩
        rw [List.mem_singleton.mp now]

/-- A provider that has settled is counted when the collection gets to it. -/
theorem mem_counted_step {i : Nat} {outcome : Outcome α} (settled : f.outcome? i = some outcome)
    (counts : i < f.taken.length → i ∈ f.counted) (event : FanOutEvent)
    (passed : i < (f.step event).taken.length) :
  i ∈ (f.step event).counted
  := by
  rw [mem_counted_iff]
  rcases f.taken_step event with taken_eq | ⟨-, taken_eq, -⟩
  · rw [taken_eq] at passed ⊢
    apply mem_counted_iff.mp (counts passed)
  · have passed : i < f.taken.length + 1 := by simpa [taken_eq] using passed
    rw [taken_eq]
    rcases Nat.lt_succ_iff_lt_or_eq.mp passed with before | rfl
    · rw [List.getElem?_append_left before]
      apply mem_counted_iff.mp (counts before)
    · exact ⟨outcome, by simp [settled]⟩

/-- A provider that settled before a cancellation was noticed is counted once it is passed. -/
theorem Collects.mem_counted_run (collects : f.Collects ends) (unnoticed : f.noticed = false)
    {i : Nat} {outcome : Outcome α} (settled : i ∈ f.settled)
    (ended : ends[i]? = some (some outcome)) (events : List FanOutEvent)
    (passed : i < (f.run events).taken.length) :
  i ∈ (f.run events).counted
  := by
  induction events using List.reverseRecOn with
  | nil =>
    have here : f.taken[i]? = some f.taken[i] := List.getElem?_eq_getElem passed
    cases last : f.taken[i] with
    | none => exact absurd (List.mem_of_getElem? (last ▸ here)) (collects.waited unnoticed)
    | some outcome => apply mem_counted_iff.mpr ⟨outcome, last ▸ here⟩
  | append_singleton events event ih =>
    rw [run_append] at passed ⊢
    have known : (f.run events).outcome? i = some outcome := by
      rw [outcome?_eq_some_iff, mem_settled_run_iff, asked_run, collects.asked_eq]
      exact ⟨.inl settled, ended⟩
    apply mem_counted_step known ih event passed

theorem Collects.length_eq (collects : f.Collects ends) (finished : f.isOver = true) :
  f.taken.length = ends.length
  := by
  apply Nat.le_antisymm collects.length_le
  rw [← collects.asked_eq]
  simpa [isOver] using finished

/-- When no cancellation was noticed, all that the providers ended with is taken in the end. -/
theorem Collects.taken_eq (collects : f.Collects ends) (finished : f.isOver = true)
    (unnoticed : f.noticed = false) :
  f.taken = ends
  := by
  apply List.ext_getElem (collects.length_eq finished)
  intro i here there
  cases took : f.taken[i] with
  | none =>
    have among : none ∈ f.taken := took ▸ List.getElem_mem here
    exact absurd among (collects.waited unnoticed)
  | some outcome =>
    have taken : f.taken[i]? = some (some outcome) := by
      rw [List.getElem?_eq_getElem here, took]
    have ended := (collects.settled i outcome taken).2
    rw [List.getElem?_eq_getElem there] at ended
    apply (Option.some.inj ended).symm

/-! ### The end of a request -/

/-- How many steps of the collection are enough for a request that is not held up. -/
def stepsLeft (f : FanOut α) : Nat :=
  if f.noticed then f.asked.length - f.taken.length
  else 3 * (f.asked.length - f.taken.length)
    + if f.checked then (if f.cancelled then 2 else 0) else 1

/-- A request is not held up when it is cancelled or all of its providers have settled. -/
def Released (f : FanOut α) : Prop :=
  f.cancelled = true ∨ ∀ i < f.asked.length, (f.outcome? i).isSome

/-- A step of the collection brings the end nearer, and holds nothing up. -/
theorem Released.advance (released : f.Released) (going : f.isOver = false) :
  f.advance.Released ∧ f.advance.stepsLeft < f.stepsLeft
  := by
  have more := isOver_eq_false_iff.mp going
  have advances := f.advances_advance
  generalize f.advance = g at advances
  cases advances with
  | finished finished => simp [going] at finished
  | pass _ noticed =>
    refine ⟨released, ?_⟩
    simp only [stepsLeft, noticed, if_true, List.length_append, List.length_singleton]
    omega
  | take _ unnoticed checked =>
    refine ⟨released, ?_⟩
    simp only [stepsLeft, unnoticed, List.length_append, List.length_singleton,
      Bool.false_eq_true, if_false]
    omega
  | wait _ unnoticed checked unsettled =>
    have cancelled : f.cancelled = true := by
      refine released.resolve_right fun settled => ?_
      simpa [unsettled] using settled _ more
    refine ⟨released, ?_⟩
    simp [stepsLeft, unnoticed, checked, cancelled]
  | notice _ unnoticed unchecked cancelled =>
    refine ⟨released, ?_⟩
    simp only [stepsLeft, unnoticed, unchecked, if_true, Bool.false_eq_true, if_false]
    omega
  | check _ unnoticed unchecked uncancelled =>
    refine ⟨released, ?_⟩
    simp [stepsLeft, unnoticed, unchecked, uncancelled]

/-- With enough steps of the collection a request that is not held up comes to its end. -/
theorem Released.isOver_run (released : f.Released) {steps : Nat} (enough : f.stepsLeft ≤ steps) :
  (f.run (List.replicate steps .advance)).isOver = true
  := by
  induction steps generalizing f with
  | zero =>
    by_contra going
    rw [Bool.not_eq_true] at going
    have := (released.advance going).2
    omega
  | succ steps ih =>
    cases finished : f.isOver with
    | true => apply (taken_run_of_isOver finished _).1
    | false =>
      obtain ⟨still, nearer⟩ := released.advance finished
      apply ih (f := f.advance) still (by omega)

theorem stepsLeft_le (f : FanOut α) :
  f.stepsLeft ≤ 3 * f.asked.length + 2
  := by
  unfold stepsLeft
  split <;> (repeat' split) <;> omega

end FanOut

/-! ### Requests without failures -/

/-- The outcome with no answer in the place of a failure or an answer that cannot be used. -/
def Outcome.quiet [Usable α] (outcome : Outcome α) : Outcome α :=
  .answered outcome.usable?

/-- Usable answers stay where failures are left out. -/
theorem Outcome.usable?_quiet [Usable α] (outcome : Outcome α) :
  outcome.quiet.usable? = outcome.usable?
  := by
  rcases outcome with (_ | answer) | error
  · rfl
  · by_cases usable : Usable.usable answer = true <;> simp [quiet, usable?, usable]
  · rfl

namespace FanOut

variable [Usable α] {f : FanOut α} {ends : List (Option (Outcome α))}

/-- The request to providers that do not fail and have no answers that cannot be used. -/
def quiet (f : FanOut α) : FanOut α :=
  { f with
    asked := f.asked.map (·.map Outcome.quiet)
    taken := f.taken.map (·.map Outcome.quiet) }

/-- A provider ended without failure where it ended. -/
theorem outcome?_quiet (f : FanOut α) (i : Nat) :
  f.quiet.outcome? i = (f.outcome? i).map Outcome.quiet
  := by
  unfold outcome?
  by_cases settled : i ∈ f.settled
  · cases asked : f.asked[i]? <;> simp [quiet, settled, asked]
  · simp [quiet, settled]

/-- The collection does not look at how a provider ended. -/
theorem advance_quiet (f : FanOut α) :
  f.quiet.advance = f.advance.quiet
  := by
  have over_eq : f.quiet.isOver = f.isOver := by simp [isOver, quiet]
  have next_eq : f.quiet.outcome? f.quiet.taken.length
      = (f.outcome? f.taken.length).map Outcome.quiet := by
    rw [outcome?_quiet]
    simp [quiet]
  unfold advance
  rw [over_eq, next_eq]
  cases f.isOver <;> cases noticed : f.noticed <;> cases checked : f.checked <;>
    cases cancelled : f.cancelled <;> cases f.outcome? f.taken.length <;>
    simp [quiet, noticed, checked, cancelled]

/-- What happens to a request does not depend on how providers fail. -/
theorem run_quiet (f : FanOut α) (events : List FanOutEvent) :
  f.quiet.run events = (f.run events).quiet
  := by
  induction events generalizing f with
  | nil => rfl
  | cons event events ih =>
    have step_quiet : f.quiet.step event = (f.step event).quiet := by
      cases event with
      | settled | cancelled => rfl
      | advance => apply advance_quiet f
    apply (congrArg (run · events) step_quiet).trans (ih (f.step event))

/-- The results are those of a request without failures. -/
theorem results_quiet (f : FanOut α) :
  f.quiet.result.results = f.result.results
  := by
  simp only [result, gather, results_gatherFrom, quiet, List.filterMap_map]
  congr 1
  funext outcome
  cases outcome <;> simp [Outcome.usable?_quiet]

/-- When another failure, or no answer, takes the place of a failure, the results are the same. -/
theorem results_set {i : Nat} {error : ProviderError} {other : Outcome α}
    (failed : ends[i]? = some (some (.failed error))) (useless : other.usable? = none)
    (events : List FanOutEvent) :
  ((start (ends.set i (some other)) false).run events).result.results
    = ((start ends false).run events).result.results
  := by
  have same : (start (ends.set i (some other)) false).quiet = (start ends false).quiet := by
    have other_eq : other.quiet = (Outcome.failed error : Outcome α).quiet := by
      rw [Outcome.quiet, Outcome.quiet, useless]
      rfl
    have asked_eq : (ends.set i (some other)).map (·.map Outcome.quiet)
        = ends.map (·.map Outcome.quiet) := by
      have there : (ends.map (·.map Outcome.quiet))[i]? = some (some other.quiet) := by
        simp [failed, other_eq]
      obtain ⟨bound, here⟩ := List.getElem?_eq_some_iff.mp there
      rw [List.map_set, Option.map_some, ← here, List.set_getElem_self]
    simp [quiet, start, asked_eq]
  rw [← results_quiet, ← run_quiet, same, run_quiet, results_quiet]

/-! ### All of a request -/

/-- A provider that ends in some way settles during events. -/
def Settles (ends : List (Option (Outcome α))) (events : List FanOutEvent) (i : Nat) : Prop :=
  .settled i ∈ events ∧ ∃ outcome, ends[i]? = some (some outcome)

omit [Usable α] in
theorem Collects.settles {events : List FanOutEvent}
    (collects : ((start ends false).run events).Collects ends) {i : Nat} {outcome : Outcome α}
    (here : ((start ends false).run events).taken[i]? = some (some outcome)) :
  Settles ends events i
  := by
  obtain ⟨settled, ended⟩ := collects.settled i outcome here
  exact ⟨(mem_settled_run_iff.mp settled).resolve_left (by simp [start]), outcome, ended⟩

omit [Usable α] in
/-- What settled before a cancellation was noticed is counted when the request is over. -/
theorem mem_counted_of_settles {before after : List FanOutEvent}
    (finished : ((start ends false).run (before ++ after)).isOver = true)
    (unnoticed : ((start ends false).run before).noticed = false) {i : Nat}
    (settles : Settles ends before i) :
  i ∈ ((start ends false).run (before ++ after)).counted
  := by
  obtain ⟨settled, outcome, ended⟩ := settles
  have known : i ∈ ((start ends false).run before).settled :=
    mem_settled_run_iff.mpr (.inr settled)
  have within := (List.getElem?_eq_some_iff.mp ended).1
  have passed := (collects_run ends (before ++ after)).length_eq finished
  rw [run_append] at passed ⊢
  apply (collects_run ends before).mem_counted_run unnoticed known ended after
  omega

omit [Usable α] in
/-- When no cancellation was noticed, a request is over when all providers have settled. -/
theorem settles_of_unnoticed {events : List FanOutEvent}
    (finished : ((start ends false).run events).isOver = true)
    (unnoticed : ((start ends false).run events).noticed = false) {i : Nat}
    (within : i < ends.length) :
  Settles ends events i
  := by
  have collects := collects_run ends events
  have taken_eq := collects.taken_eq finished unnoticed
  have waited := collects.waited unnoticed
  rw [taken_eq] at waited
  cases ended : ends[i] with
  | none => exact absurd (ended ▸ List.getElem_mem within) waited
  | some outcome =>
    apply collects.settles
    rw [taken_eq, List.getElem?_eq_getElem within, ended]

omit [Usable α] in
/-- A request is not held up when it was cancelled, or when all providers have settled. -/
theorem released_run {events : List FanOutEvent}
    (free : .cancelled ∈ events ∨ ∀ i < ends.length, Settles ends events i) :
  ((start ends false).run events).Released
  := by
  have asked_eq := (collects_run ends events).asked_eq
  apply free.imp
  · intro among
    apply cancelled_run_iff.mpr (.inr among)
  · intro settle i within
    rw [asked_eq] at within
    obtain ⟨settled, outcome, ended⟩ := settle i within
    apply Option.isSome_iff_exists.mpr
    use outcome
    rw [outcome?_eq_some_iff, asked_eq]
    exact ⟨mem_settled_run_iff.mpr (.inr settled), ended⟩

theorem result_run_of_isOver (finished : f.isOver = true) (events : List FanOutEvent) :
  (f.run events).isOver = true ∧ (f.run events).result = f.result
  := by
  obtain ⟨still, taken_eq⟩ := taken_run_of_isOver finished events
  exact ⟨still, by rw [result, taken_eq, result]⟩

/--
Providers settle, a request to them is cancelled and the collection goes on, in any order.  What was
collected comes from different providers, in their order, which settled before the request was over:
the results are their usable answers, and the failures are theirs.  Nothing is added later.  Once
the request is over, the providers that settled before a cancellation was noticed are among them,
and when none was noticed, these are all providers.  The request comes to an end when it is
cancelled or all providers have settled.  The results do not depend on how a provider fails.  A
request that was cancelled before asks no provider.
-/
theorem collects_in_order (ends : List (Option (Outcome α))) (events : List FanOutEvent) :
  let f := (start ends false).run events
  (∃ counted : List Nat, counted.Pairwise (· < ·)
      ∧ (∀ i ∈ counted, Settles ends events i ∧ ∃ before after,
        events = before ++ .settled i :: after ∧ ((start ends false).run before).isOver = false)
      ∧ f.result.results = counted.filterMap (fun i => ends[i]?.join.bind Outcome.usable?)
      ∧ f.result.failures
        = counted.filterMap (fun i => (ends[i]?.join.bind Outcome.error?).map (i, ·))
      ∧ (f.isOver = true → ∀ before after, events = before ++ after →
        ((start ends false).run before).noticed = false →
        ∀ i, Settles ends before i → i ∈ counted))
    ∧ (f.isOver = true → ∀ more, (f.run more).isOver = true ∧ (f.run more).result = f.result)
    ∧ (f.isOver = true → f.noticed = false →
      f.result = gather ends ∧ ∀ i < ends.length, Settles ends events i)
    ∧ (f.noticed = true → .cancelled ∈ events)
    ∧ (.cancelled ∈ events ∨ (∀ i < ends.length, Settles ends events i) →
      ∀ steps ≥ 3 * ends.length + 2, (f.run (List.replicate steps .advance)).isOver = true)
    ∧ (∀ i error other, ends[i]? = some (some (.failed error)) → other.usable? = none →
      ((start (ends.set i (some other)) false).run events).result.results = f.result.results)
    ∧ (start ends true).asked = []
    ∧ ((start ends true).run events).isOver = true
    ∧ ((start ends true).run events).result = ⟨[], []⟩
  := by
  intro f
  have collects : f.Collects ends := collects_run ends events
  refine ⟨⟨f.counted, f.counted_in_order, fun i among => ⟨?_, exists_settled_of_mem_counted among⟩,
    collects.results_eq, collects.failures_eq, ?_⟩, result_run_of_isOver, ?_, ?_, ?_, ?_, rfl,
    result_run_of_isOver rfl events⟩
  · obtain ⟨outcome, here⟩ := mem_counted_iff.mp among
    apply collects.settles here
  · rintro finished before after rfl unnoticed i settles
    apply mem_counted_of_settles finished unnoticed settles
  · intro finished unnoticed
    have taken_eq := collects.taken_eq finished unnoticed
    exact ⟨by rw [result, taken_eq], fun i => settles_of_unnoticed finished unnoticed⟩
  · intro noticed
    apply (cancelled_run_iff.mp (collects.noticed noticed)).resolve_left
    simp [start]
  · intro free steps enough
    have bound := f.stepsLeft_le
    rw [collects.asked_eq] at bound
    apply (released_run free).isOver_run (Nat.le_trans bound enough)
  · intro i error other failed useless
    apply results_set failed useless

/-- A provider that never ends, one that fails, and two with answers of which one is empty. -/
def mixed : List (Option (Outcome (List Nat))) :=
  [none, some (.failed (.failed "no")), some (.answered (some [7])), some (.answered (some []))]

/-- The request is cancelled while the collection waits for the first provider. -/
def cutOff : List FanOutEvent :=
  [.settled 2, .advance, .settled 1, .advance, .cancelled, .advance, .advance, .advance, .advance,
    .advance]

/-- The answer that was there comes back, and the failure. -/
theorem collects_in_order_mixed :
  ((start mixed false).run cutOff).isOver = true
    ∧ [7] ∈ ((start mixed false).run cutOff).result.results
    ∧ (1, .failed "no") ∈ ((start mixed false).run cutOff).result.failures
  := by
  obtain ⟨⟨counted, -, -, results_eq, failures_eq, counts⟩, -⟩ := collects_in_order mixed cutOff
  have finished : ((start mixed false).run cutOff).isOver = true := by decide
  have early := counts finished (cutOff.take 5) (cutOff.drop 5) rfl (by decide)
  rw [results_eq, failures_eq]
  refine ⟨finished, List.mem_filterMap.mpr ⟨2, early 2 ?_, rfl⟩,
    List.mem_filterMap.mpr ⟨1, early 1 ?_, rfl⟩⟩
  · exact ⟨by decide, _, rfl⟩
  · exact ⟨by decide, _, rfl⟩

end FanOut

end EditorModes
