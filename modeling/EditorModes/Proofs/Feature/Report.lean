import EditorModes.Feature.Aggregate
import EditorModes.Proofs.Feature.FanOut
import EditorModes.Registry.Basic

/-!
# Reports of failures

A request that is not cancelled reports every provider that it asked and that failed, once and in
the order of the registry.  A report counts the providers that were asked before, so it names the
place of the provider in the registry unless on-type formatting passed over one before it
(`Capability.reports_in_order`).
-/

namespace EditorModes

/-! ### Places of providers -/

/--
Members that are chosen are counted by how many are chosen before them, while they keep their places
in the list.
-/
theorem zipIdx_filter_zipIdx (chosen : P → Bool) (l : List P) (first count : Nat) :
  ((l.zipIdx first).filter (chosen ·.1)).zipIdx count
    = ((l.zipIdx first).filter (chosen ·.1)).map fun x =>
      (x, count + (l.take (x.2 - first)).countP chosen)
  := by
  induction l generalizing first count with
  | nil => rfl
  | cons p l ih =>
    have behind (count : Nat) :
        ((l.zipIdx (first + 1)).filter (chosen ·.1)).map (fun x =>
            (x, count + (if chosen p then 1 else 0) + (l.take (x.2 - (first + 1))).countP chosen))
          = ((l.zipIdx (first + 1)).filter (chosen ·.1)).map fun x =>
            (x, count + ((p :: l).take (x.2 - first)).countP chosen) := by
      apply List.map_congr_left
      intro x among
      have le := List.le_snd_of_mem_zipIdx (List.mem_filter.mp among).1
      obtain ⟨i, place_eq⟩ := Nat.exists_eq_add_of_le le
      have outer : x.2 - first = i + 1 := by omega
      have inner : x.2 - (first + 1) = i := by omega
      rw [outer, inner, List.take_succ_cons, List.countP_cons]
      congr 1
      omega
    rw [List.zipIdx_cons, List.filter_cons]
    cases asked : chosen p with
    | true =>
      have rest := behind count
      simp only [asked, if_true] at rest
      rw [if_pos rfl, List.zipIdx_cons, ih, List.map_cons, rest]
      simp
    | false =>
      have rest := behind count
      simp only [asked, Bool.false_eq_true, if_false, Nat.add_zero] at rest
      rw [if_neg Bool.false_ne_true, ih, rest]

/-- Two readings of a list that skip the same members are equal when they agree on the others. -/
theorem filterMap_eq_iff {f g : α → Option β} {l : List α}
    (skips : ∀ a ∈ l, f a = none ↔ g a = none) :
  l.filterMap f = l.filterMap g ↔ ∀ a ∈ l, f a = g a
  := by
  constructor
  · intro same
    induction l with
    | nil => simp
    | cons a l ih =>
      obtain ⟨here, later⟩ := List.forall_mem_cons.mp skips
      rw [List.filterMap_cons, List.filterMap_cons] at same
      cases first : f a with
      | none =>
        have second := here.mp first
        simp only [first, second] at same
        exact List.forall_mem_cons.mpr ⟨first.trans second.symm, ih later same⟩
      | some b =>
        obtain ⟨b', second⟩ := Option.ne_none_iff_exists'.mp (mt here.mpr (by simp [first]))
        simp only [first, second, List.cons.injEq] at same
        obtain ⟨rfl, same⟩ := same
        exact List.forall_mem_cons.mpr ⟨first.trans second.symm, ih later same⟩
  · apply List.filterMap_congr

namespace Capability

variable {P : Type u} {c : Capability} {triggers : P → List String} {typed : String}

/-- Whether a request of a capability asks a provider that applies. -/
def asks (c : Capability) (triggers : P → List String) (typed : String) (provider : P) : Bool :=
  c ≠ .onTypeFormatting || (triggers provider).contains typed

/-- The providers that a request asks are those among all that apply. -/
theorem asked_eq_filter (c : Capability) (triggers : P → List String) (typed : String)
    (providers : List P) :
  c.asked triggers typed providers = providers.filter (c.asks triggers typed)
  := by
  by_cases onType : c = .onTypeFormatting
  · rw [asked, if_pos onType, triggeredBy]
    apply List.filter_congr
    simp [asks, onType]
  · rw [asked, if_neg onType, List.filter_eq_self.mpr]
    simp [asks, onType]

/-- The providers of a registry that a request about a document asks, with their places there. -/
def askedAt (c : Capability) (triggers : P → List String) (typed : String) (r : Registry P)
    (language : String) (scheme : Option String) : List (P × Nat) :=
  c.asked (fun x => triggers x.1) typed (r.ordered language scheme).zipIdx

variable {r : Registry P} {language : String} {scheme : Option String}

theorem mem_askedAt_iff {x : P × Nat} :
  x ∈ c.askedAt triggers typed r language scheme
    ↔ (r.ordered language scheme)[x.2]? = some x.1 ∧ c.asks triggers typed x.1 = true
  := by
  rw [askedAt, asked_eq_filter, List.mem_filter, List.mem_zipIdx_iff_getElem?]
  rfl

theorem map_fst_askedAt :
  (c.askedAt triggers typed r language scheme).map (·.1)
    = c.asked triggers typed (r.ordered language scheme)
  := by
  have fst_eq := List.zipIdx_map_fst 0 (r.ordered language scheme)
  rw [askedAt, asked_eq_filter, asked_eq_filter]
  conv_rhs => rw [← fst_eq, List.filter_map]
  rfl

/-- The failures of providers with places, each reported with its place. -/
def failuresAt (c : Capability) (ends : Nat → Outcome α) (asked : List (P × Nat)) : List Failure :=
  asked.filterMap fun x => (ends x.2).error?.map (⟨c, x.2, ·⟩)

variable [Usable α] {ends : Nat → Outcome α} {asked : List (P × Nat)}

/-- The request to providers with places, which end in some way. -/
def requestTo (asked : List (P × Nat)) (ends : Nat → Outcome α) : FanOut α :=
  .start (asked.map fun x => some (ends x.2)) false

/-- The failures that a request reports count the providers that were asked. -/
theorem failures_aggregate (combine : List α → β) (asked : List (P × Nat)) :
  (aggregate c combine (asked.map fun x => some (ends x.2))).failures
    = asked.zipIdx.filterMap fun x => (ends x.1.2).error?.map (⟨c, x.2, ·⟩)
  := by
  rw [aggregate, gather, failures_gatherFrom, List.zipIdx_map, List.filterMap_map,
    List.map_filterMap]
  apply List.filterMap_congr
  intro x _
  simp [Function.comp_def]

/-- Providers that were asked are counted by those that were asked before them. -/
theorem zipIdx_askedAt :
  (c.askedAt triggers typed r language scheme).zipIdx
    = (c.askedAt triggers typed r language scheme).map fun x =>
      (x, ((r.ordered language scheme).take x.2).countP (c.asks triggers typed))
  := by
  have counted := zipIdx_filter_zipIdx (c.asks triggers typed) (r.ordered language scheme) 0 0
  simp only [Nat.zero_add, Nat.sub_zero] at counted
  rw [askedAt, asked_eq_filter]
  exact counted

/-- As many providers were asked before a place as there are when all of these were asked. -/
theorem countP_take_eq_iff {x : P × Nat} (among : x ∈ c.askedAt triggers typed r language scheme) :
  ((r.ordered language scheme).take x.2).countP (c.asks triggers typed) = x.2
    ↔ ∀ p ∈ (r.ordered language scheme).take x.2, c.asks triggers typed p = true
  := by
  obtain ⟨within, -⟩ := List.getElem?_eq_some_iff.mp (mem_askedAt_iff.mp among).1
  have length_eq : ((r.ordered language scheme).take x.2).length = x.2 :=
    List.length_take_of_le (Nat.le_of_lt within)
  conv_lhs => rw [← length_eq, length_eq]
  rw [← List.countP_eq_length, length_eq]

/--
The reports name the places of the providers in the registry when none was passed over before one
that failed.
-/
theorem failures_aggregate_eq_iff (combine : List α → β) :
  (aggregate c combine ((c.askedAt triggers typed r language scheme).map
      fun x => some (ends x.2))).failures
      = c.failuresAt ends (c.askedAt triggers typed r language scheme)
    ↔ ∀ x ∈ c.askedAt triggers typed r language scheme, (ends x.2).error?.isSome →
      ∀ p ∈ (r.ordered language scheme).take x.2, c.asks triggers typed p = true
  := by
  rw [failures_aggregate, zipIdx_askedAt, List.filterMap_map, failuresAt, filterMap_eq_iff]
  · apply forall₂_congr
    intro x among
    rw [← countP_take_eq_iff among]
    cases failed : (ends x.2).error? <;> simp [failed]
  · intro x _
    cases failed : (ends x.2).error? <;> simp [failed]

theorem asks_of_ne (other : c ≠ .onTypeFormatting) (p : P) :
  c.asks triggers typed p = true
  := by
  simp [asks, other]

/-- Failures are reported in the order of the registry. -/
theorem failures_aggregate_in_order (combine : List α → β) (asked : List (P × Nat)) :
  ((aggregate c combine (asked.map fun x => some (ends x.2))).failures.map (·.index)).Pairwise
    (· < ·)
  := by
  have places : (asked.zipIdx.map (·.2)).Pairwise (· < ·) := by
    rw [List.zipIdx_map_snd]
    exact List.pairwise_lt_range'
  have index_eq : (aggregate c combine (asked.map fun x => some (ends x.2))).failures.map (·.index)
      = (asked.zipIdx.filter fun x => (ends x.1.2).error?.isSome).map (·.2) := by
    rw [failures_aggregate, List.map_filterMap, ← List.filterMap_eq_map, ← List.filterMap_eq_filter,
      List.filterMap_filterMap]
    apply List.filterMap_congr
    intro x _
    cases failed : (ends x.1.2).error? <;> simp [failed, Option.guard]
  rw [index_eq]
  exact places.sublist (List.filter_sublist.map _)

/--
A request of any capability to the providers of a registry, each of which ends in some way, is not
cancelled.  It asks the providers that apply to its document, for on-type formatting those that the
typed string triggers, and is over when all of them have settled and the collection has gone on.  It
has reported then each provider that failed once, in the order of the registry, and named it by the
number of providers that were asked before it.  These are their places in the registry exactly when
no provider was passed over before one that failed; so it is for every capability but on-type
formatting.
-/
theorem reports_in_order (c : Capability) (combine : List α → β) (triggers : P → List String)
    (typed : String) (r : Registry P) (language : String) (scheme : Option String)
    (ends : Nat → Outcome α) (events : List FanOutEvent) (uncancelled : .cancelled ∉ events) :
  let ordered := r.ordered language scheme
  let asked := c.askedAt triggers typed r language scheme
  let f := (requestTo asked ends).run events
  let reports := (aggregate c combine f.taken).failures
  asked.map (·.1) = c.asked triggers typed ordered
    ∧ (∀ x, x ∈ asked ↔ ordered[x.2]? = some x.1 ∧ c.asks triggers typed x.1)
    ∧ ((∀ i < asked.length, .settled i ∈ events) →
      ∀ steps ≥ 3 * asked.length + 2, (f.run (List.replicate steps .advance)).isOver = true)
    ∧ (f.isOver = true →
      reports = asked.filterMap (fun x => (ends x.2).error?.map
          (⟨c, (ordered.take x.2).countP (c.asks triggers typed), ·⟩))
        ∧ (reports.map (·.index)).Pairwise (· < ·)
        ∧ (reports = c.failuresAt ends asked ↔ ∀ x ∈ asked, (ends x.2).error?.isSome →
          ∀ p ∈ ordered.take x.2, c.asks triggers typed p)
        ∧ (c ≠ .onTypeFormatting → reports = c.failuresAt ends asked))
  := by
  intro ordered asked f reports
  refine ⟨map_fst_askedAt, fun x => mem_askedAt_iff, ?_, ?_⟩
  · intro settled steps enough
    have collects : f.Collects (asked.map fun x => some (ends x.2)) := FanOut.collects_run _ events
    have released : f.Released := by
      apply FanOut.released_run (.inr ?_)
      intro i within
      rw [List.length_map] at within
      exact ⟨settled i within, ends asked[i].2, by simp [within]⟩
    have bound := f.stepsLeft_le
    rw [collects.asked_eq, List.length_map] at bound
    exact released.isOver_run (Nat.le_trans bound enough)
  · intro finished
    have collects : f.Collects (asked.map fun x => some (ends x.2)) := FanOut.collects_run _ events
    have unnoticed : f.noticed = false := by
      rw [← Bool.not_eq_true]
      intro noticed
      apply uncancelled
      apply (FanOut.cancelled_run_iff.mp (collects.noticed noticed)).resolve_left
      simp [requestTo, FanOut.start]
    have reports_eq : reports
        = (aggregate c combine (asked.map fun x => some (ends x.2))).failures := by
      rw [← collects.taken_eq finished unnoticed]
    refine ⟨?_, ?_, ?_, ?_⟩
    · rw [reports_eq, failures_aggregate, zipIdx_askedAt, List.filterMap_map]
      rfl
    · rw [reports_eq]
      exact failures_aggregate_in_order combine asked
    · rw [reports_eq]
      exact failures_aggregate_eq_iff combine
    · intro other
      rw [reports_eq]
      exact (failures_aggregate_eq_iff combine).mpr fun _ _ _ p _ => asks_of_ne other p

/-- Two formatters of which the first is not triggered by a brace and the second is. -/
def closers : Registry (List String) :=
  ((({} : Registry (List String)).register (.ofLanguage "less") 0 [";"]).2.register
    (.ofLanguage "less") 0 ["\x7d"]).2

/-- The second one fails. -/
def secondFails : Nat → Outcome (List Nat)
  | 1 => .failed (.failed "no")
  | _ => .answered none

/-- Both apply, in the order of their registration. -/
theorem ordered_closers :
  closers.ordered "less" none = [[";"], ["\x7d"]]
  := by
  have in_order : (closers.entries.filter (·.selector.selects "less" none)).Pairwise
      fun a b => a.isNoLater b = true := by
    decide
  rw [Registry.ordered, Registry.matchingEntries, List.mergeSort_of_pairwise in_order]
  rfl

theorem askedAt_closers (c : Capability) (typed : String) :
  c.askedAt id typed closers "less" none
    = c.asked (·.1) typed [([";"], 0), (["\x7d"], 1)]
  := by
  rw [askedAt, ordered_closers]
  rfl

/-- The second provider settles before the first, which is waited for. -/
def crossing : List FanOutEvent :=
  [.settled 1, .advance, .settled 0, .advance, .advance, .advance]

/-- A request for links asks both; the failure of the second is reported at its place. -/
theorem reports_in_order_links :
  let f := (requestTo (links.askedAt id "" closers "less" none) secondFails).run crossing
  f.isOver = true ∧ (aggregate links id f.taken).failures = [⟨links, 1, .failed "no"⟩]
  := by
  intro f
  obtain ⟨-, -, -, reported⟩ := reports_in_order links id id "" closers "less" none secondFails
    crossing (by decide)
  have finished : f.isOver = true := by
    change ((requestTo (links.askedAt id "" closers "less" none) secondFails).run crossing).isOver
      = true
    rw [askedAt_closers]
    decide
  obtain ⟨-, -, -, placed⟩ := reported finished
  refine ⟨finished, (placed (by decide)).trans ?_⟩
  rw [askedAt_closers]
  rfl

/--
A brace triggers the second formatter only.  Its failure is reported at the first place, although it
has the second place in the registry.
-/
theorem misplaced_report :
  let asked := onTypeFormatting.askedAt id "\x7d" closers "less" none
  let f := (requestTo asked secondFails).run [.settled 0, .advance, .advance]
  f.isOver = true
    ∧ (aggregate onTypeFormatting List.head? f.taken).failures
      = [⟨onTypeFormatting, 0, .failed "no"⟩]
    ∧ onTypeFormatting.failuresAt secondFails asked = [⟨onTypeFormatting, 1, .failed "no"⟩]
  := by
  rw [askedAt_closers]
  decide

end Capability

end EditorModes
