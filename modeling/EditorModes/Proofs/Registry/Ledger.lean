import EditorModes.Proofs.Registry.Order
import Mathlib.Data.List.Induction

/-!
# Ledgers of registries

A ledger lists the registrations that were ever made in a registry, and which of them came to an
end because their handle was disposed or dropped.  Whatever is done to a registry and the handles
it gave out, and in whatever order it lists its entries meanwhile, these are the registrations of
the ledger that have not ended (`Registry.Session.After.matches_ledger`).
-/

namespace EditorModes

namespace Registry

/-! ### Operations on a registry and its handles -/

/-- What is done to a registry and its handles, which are counted as they are given out. -/
inductive Operation (P : Type u) where
  | register (selector : Selector) (provider : P)
  | registerWithScore (selector : Selector) (score : Int) (provider : P)
  | dispose (handle : Nat)
  | drop (handle : Nat)
  /-- The registry is let go, while handles to its entries may stay. -/
  | release

theorem disposeIn_eq (registry : Option (Registry P)) (h : Handle) :
  disposeIn registry h
    = ({ h with disposed := true },
        if h.disposed then registry else registry.map (·.remove h.number))
  := by
  obtain ⟨number, disposed⟩ := h
  cases registry <;> cases disposed <;> rfl

/-- A registry, which may be gone, and the handles it gave out, of which some may be dropped. -/
structure Session (P : Type u) where
  registry : Option (Registry P) := some {}
  handles : List (Option Handle) := []

namespace Session

/-- One more provider, while the registry is there. -/
def add (s : Session P) (selector : Selector) (score : Int) (provider : P) : Session P :=
  match s.registry with
  | none => s
  | some r =>
    let (handle, r) := r.register selector score provider
    ⟨some r, s.handles ++ [some handle]⟩

/-- A handle that was not dropped is disposed, and becomes what `keep` says. -/
def dispose (s : Session P) (handle : Nat) (keep : Handle → Option Handle) : Session P :=
  match s.handles[handle]? with
  | some (some h) =>
    let (h, registry) := Registry.disposeIn s.registry h
    ⟨registry, s.handles.set handle (keep h)⟩
  | _ => s

/-- An operation on the registry or on a handle; one on a handle that is not there does nothing. -/
def perform (s : Session P) : Operation P → Session P
  | .register selector provider => s.add selector 0 provider
  | .registerWithScore selector score provider => s.add selector score provider
  | .dispose handle => s.dispose handle some
  | .drop handle => s.dispose handle fun _ => none
  | .release => { s with registry := none }

/--
What operations one after another may make of the empty registry, which may list its entries in
another order at any time.
-/
inductive After : Session P → List (Operation P) → Prop
  | start : After {} []
  | perform {s : Session P} {ops : List (Operation P)} (after : s.After ops) (op : Operation P) :
      After (s.perform op) (ops ++ [op])
  | relist {s : Session P} {ops : List (Operation P)} {r : Registry P}
      {listed : List (Registered P)} (after : s.After ops) (there : s.registry = some r)
      (perm : listed.Perm r.entries) :
      After { s with registry := some { r with entries := listed } } ops

end Session

/-! ### Ledgers -/

/-- The registrations that were made, numbered in their order, and those that came to an end. -/
structure Ledger (P : Type u) where
  made : List (Registered P) := []
  /-- The numbers of the registrations that ended, each once, in the order in which they did. -/
  ended : List Nat := []
  /-- Whether the registry is gone, and no more registrations are made. -/
  closed : Bool := false

namespace Ledger

/-- One more registration. -/
def add (l : Ledger P) (selector : Selector) (score : Int) (provider : P) : Ledger P :=
  if l.closed then l
  else { l with made := l.made ++ [⟨l.made.length, selector, score, provider⟩] }

/-- A registration comes to an end, unless it did before or was never made. -/
def finish (l : Ledger P) (number : Nat) : Ledger P :=
  if number < l.made.length ∧ number ∉ l.ended then { l with ended := l.ended ++ [number] } else l

/-- What an operation adds to the ledger. -/
def record (l : Ledger P) : Operation P → Ledger P
  | .register selector provider => l.add selector 0 provider
  | .registerWithScore selector score provider => l.add selector score provider
  | .dispose handle | .drop handle => l.finish handle
  | .release => { l with closed := true }

/-- The ledger of operations one after another. -/
def ofOperations (ops : List (Operation P)) : Ledger P :=
  ops.foldl record {}

/-- The registrations that have not come to an end. -/
def live (l : Ledger P) : List (Registered P) :=
  l.made.filter (·.number ∉ l.ended)

/-- Registrations are numbered in their order, and each ends at most once. -/
structure Numbered (l : Ledger P) : Prop where
  numbers_eq : l.made.map (·.number) = List.range l.made.length
  ended_lt : ∀ number ∈ l.ended, number < l.made.length

variable {l : Ledger P}

/-- No two live registrations have the same number. -/
theorem Numbered.live_distinct (numbered : l.Numbered) :
  (l.live.map (·.number)).Nodup
  := by
  have distinct : (l.made.map (·.number)).Nodup := by
    rw [numbered.numbers_eq]
    exact List.nodup_range
  exact distinct.sublist (List.filter_sublist.map _)

/-- A registration that was made and has not ended is live. -/
theorem Numbered.exists_live (numbered : l.Numbered) {number : Nat}
    (made : number < l.made.length) (going : number ∉ l.ended) :
  ∃ e ∈ l.live, e.number = number
  := by
  have among : number ∈ l.made.map (·.number) := by simp [numbered.numbers_eq, made]
  obtain ⟨e, listed, rfl⟩ := List.mem_map.mp among
  exact ⟨e, List.mem_filter.mpr ⟨listed, by simpa using going⟩, rfl⟩

/-- One more registration gets the next number. -/
theorem Numbered.add (numbered : l.Numbered) (selector : Selector) (score : Int) (provider : P) :
  (l.add selector score provider).Numbered
  := by
  unfold Ledger.add
  split
  · exact numbered
  · constructor
    · simp [numbered.numbers_eq, List.range_succ]
    · intro number among
      have := numbered.ended_lt number among
      simp
      omega

/-- Only registrations that were made come to an end. -/
theorem Numbered.finish (numbered : l.Numbered) (number : Nat) :
  (l.finish number).Numbered
  := by
  unfold Ledger.finish
  split
  · next due =>
    refine ⟨numbered.numbers_eq, fun other among => ?_⟩
    rcases List.mem_append.mp among with before | now
    · apply numbered.ended_lt other before
    · rw [List.mem_singleton.mp now]
      apply due.1
  · exact numbered

theorem Numbered.live_add (numbered : l.Numbered) (there : l.closed = false) (selector : Selector)
    (score : Int) (provider : P) :
  (l.add selector score provider).live
    = l.live ++ [⟨l.made.length, selector, score, provider⟩]
  := by
  have fresh : l.made.length ∉ l.ended := fun among =>
    Nat.lt_irrefl _ (numbered.ended_lt _ among)
  simp [Ledger.add, live, there, List.filter_append, fresh]

@[simp]
theorem made_finish (l : Ledger P) (number : Nat) :
  (l.finish number).made = l.made
  := by
  unfold finish
  split <;> rfl

@[simp]
theorem closed_finish (l : Ledger P) (number : Nat) :
  (l.finish number).closed = l.closed
  := by
  unfold finish
  split <;> rfl

theorem finish_of_mem {number : Nat} (ended : number ∈ l.ended) :
  l.finish number = l
  := if_neg fun due => due.2 ended

theorem finish_of_notMem {number : Nat} (made : number < l.made.length)
    (going : number ∉ l.ended) :
  l.finish number = { l with ended := l.ended ++ [number] }
  := if_pos ⟨made, going⟩

/-- A registration that ends is no longer live; the others stay as they are. -/
theorem live_finish {number : Nat} (made : number < l.made.length) (going : number ∉ l.ended) :
  (l.finish number).live = l.live.filter (·.number ≠ number)
  := by
  rw [finish_of_notMem made going, live, live, List.filter_filter]
  apply List.filter_congr
  intro e _
  simp [and_comm]

/-- Of the registrations that were made, those have ended that did before, and the one that does. -/
theorem mem_ended_finish {number other : Nat} (made : number < l.made.length) :
  other ∈ (l.finish number).ended ↔ other ∈ l.ended ∨ other = number
  := by
  by_cases ended : number ∈ l.ended
  · rw [finish_of_mem ended]
    constructor
    · exact .inl
    · rintro (before | rfl)
      · exact before
      · exact ended
  · simp [finish_of_notMem made ended]

end Ledger

/-! ### Registries and their ledgers -/

/-- What a handle given out for a registration is, where a dropped one is none. -/
def Ledger.Describes (l : Ledger P) (number : Nat) : Option Handle → Prop
  | none => number ∈ l.ended
  | some h => h.number = number ∧ (h.disposed = true ↔ number ∈ l.ended)

/-- A handle to another registration stays what it is when one ends. -/
theorem Ledger.Describes.finish {l : Ledger P} {n number : Nat} {h : Option Handle}
    (described : l.Describes n h) (made : number < l.made.length) (ne : n ≠ number) :
  (l.finish number).Describes n h
  := by
  have ended_iff : n ∈ (l.finish number).ended ↔ n ∈ l.ended := by
    simp [Ledger.mem_ended_finish made, ne]
  cases h with
  | none => apply ended_iff.mpr described
  | some h => exact ⟨described.1, described.2.trans ended_iff.symm⟩

namespace Session

/-- The registry and its handles are what the ledger says. -/
structure Follows (s : Session P) (l : Ledger P) : Prop where
  numbered : l.Numbered
  length_eq : s.handles.length = l.made.length
  handles : ∀ n h, s.handles[n]? = some h → l.Describes n h
  closed_iff : l.closed = true ↔ s.registry = none
  registry : ∀ r, s.registry = some r → r.entries.Perm l.live ∧ r.registrations = l.made.length
    ∧ r.changes = l.made.length + l.ended.length

variable {s : Session P} {l : Ledger P}

/-- The empty registry has nothing in its ledger. -/
theorem follows_empty :
  Follows ({} : Session P) {}
  := by
  constructor
  · constructor <;> simp
  · rfl
  · simp
  · simp
  · rintro r ⟨⟩
    exact ⟨.refl _, rfl, rfl⟩

/-- One more provider is one more live registration. -/
theorem Follows.add (follows : s.Follows l) (selector : Selector) (score : Int) (provider : P) :
  (s.add selector score provider).Follows (l.add selector score provider)
  := by
  cases there : s.registry with
  | none =>
    rw [Session.add, there, Ledger.add, if_pos (follows.closed_iff.mpr there)]
    exact follows
  | some r =>
    have is_open : l.closed = false := by
      simpa [there] using follows.closed_iff
    obtain ⟨perm, registrations_eq, changes_eq⟩ := follows.registry r there
    have numbered := follows.numbered.add selector score provider
    have live_eq := follows.numbered.live_add is_open selector score provider
    have added : l.add selector score provider
        = { l with made := l.made ++ [⟨l.made.length, selector, score, provider⟩] } := by
      simp [Ledger.add, is_open]
    rw [added] at numbered live_eq ⊢
    simp only [Session.add, there, Registry.register]
    constructor
    · exact numbered
    · simp [follows.length_eq]
    · intro n h found
      rw [List.getElem?_append] at found
      split at found
      · apply follows.handles n h found
      · rw [List.getElem?_singleton] at found
        obtain ⟨last, here⟩ := Option.ite_none_right_eq_some.mp found
        obtain rfl := Option.some.inj here
        have fresh : l.made.length ∉ l.ended := fun among =>
          Nat.lt_irrefl _ (follows.numbered.ended_lt _ among)
        have n_eq : n = l.made.length := by
          have := follows.length_eq
          omega
        simp [Ledger.Describes, registrations_eq, n_eq, fresh]
    · simp [is_open]
    · rintro _ ⟨⟩
      simp only [live_eq, registrations_eq, changes_eq, List.length_append,
        List.length_singleton, true_and]
      exact ⟨perm.append_right _, by omega⟩

/-- The registry without the entry of a registration that ends. -/
theorem Follows.registry_finish (follows : s.Follows l) {h : Handle} {r : Registry P}
    (described : l.Describes h.number (some h)) (made : h.number < l.made.length)
    (there : (if h.disposed then s.registry else s.registry.map (·.remove h.number)) = some r) :
  r.entries.Perm (l.finish h.number).live ∧ r.registrations = l.made.length
    ∧ r.changes = l.made.length + (l.finish h.number).ended.length
  := by
  by_cases ended : h.number ∈ l.ended
  · rw [if_pos (described.2.mpr ended)] at there
    rw [Ledger.finish_of_mem ended]
    apply follows.registry r there
  · rw [if_neg (mt described.2.mp ended)] at there
    obtain ⟨before, was_there, rfl⟩ := Option.map_eq_some_iff.mp there
    obtain ⟨perm, registrations_eq, changes_eq⟩ := follows.registry before was_there
    obtain ⟨e, live, number_eq⟩ := follows.numbered.exists_live made ended
    have present : before.entries.any (·.number = h.number) = true := by
      rw [List.any_eq_true]
      exact ⟨e, perm.mem_iff.mpr live, by simpa using number_eq⟩
    rw [Registry.remove, if_pos present, Ledger.live_finish made ended,
      Ledger.finish_of_notMem made ended]
    refine ⟨perm.filter _, registrations_eq, ?_⟩
    rw [changes_eq, List.length_append]
    rfl

/-- Disposing a handle ends its registration, unless it has ended before. -/
theorem Follows.dispose (follows : s.Follows l) (handle : Nat) {keep : Handle → Option Handle}
    (keeps : ∀ h h', keep h = some h' → h' = h) :
  (s.dispose handle keep).Follows (l.finish handle)
  := by
  have numbered := follows.numbered.finish handle
  cases found : s.handles[handle]? with
  | none =>
    have beyond := List.getElem?_eq_none_iff.mp found
    rw [follows.length_eq] at beyond
    rw [Session.dispose, found, Ledger.finish, if_neg fun due => by omega]
    exact follows
  | some given =>
    have described := follows.handles handle given found
    have made : handle < l.made.length := by
      rw [← follows.length_eq]
      apply (List.getElem?_eq_some_iff.mp found).1
    cases given with
    | none =>
      rw [Session.dispose, found, Ledger.finish_of_mem described]
      exact follows
    | some h =>
      obtain rfl := described.1
      simp only [Session.dispose, found, disposeIn_eq]
      constructor
      · exact numbered
      · simp [follows.length_eq]
      · intro n other here
        rw [List.getElem?_set] at here
        split at here
        · next same =>
          subst same
          obtain ⟨-, here⟩ := Option.ite_none_right_eq_some.mp here
          obtain rfl := Option.some.inj here
          have ended := (Ledger.mem_ended_finish made).mpr (.inr rfl)
          cases kept : keep { h with disposed := true } with
          | none => exact ended
          | some h' =>
            obtain rfl := keeps _ _ kept
            exact ⟨rfl, iff_of_true rfl ended⟩
        · next ne => apply Ledger.Describes.finish (follows.handles n other here) made (Ne.symm ne)
      · rw [Ledger.closed_finish, follows.closed_iff]
        split <;> simp
      · intro r there
        rw [Ledger.made_finish]
        apply follows.registry_finish described made there

/-- What is done to the registry is recorded in the ledger. -/
theorem Follows.perform (follows : s.Follows l) (op : Operation P) :
  (s.perform op).Follows (l.record op)
  := by
  cases op with
  | register selector provider => apply follows.add selector 0 provider
  | registerWithScore selector score provider => apply follows.add selector score provider
  | dispose handle => apply follows.dispose handle fun h h' kept => (Option.some.inj kept).symm
  | drop handle =>
    show (s.dispose handle fun _ => none).Follows (l.finish handle)
    exact follows.dispose handle fun h h' kept => nomatch kept
  | release =>
    exact ⟨⟨follows.numbered.numbers_eq, follows.numbered.ended_lt⟩, follows.length_eq,
      follows.handles, by simp [Session.perform, Ledger.record], by simp [Session.perform]⟩

/-- Another order of the entries is the same to the ledger. -/
theorem Follows.relist (follows : s.Follows l) {r : Registry P} (there : s.registry = some r)
    {listed : List (Registered P)} (perm : listed.Perm r.entries) :
  Follows { s with registry := some { r with entries := listed } } l
  := by
  obtain ⟨was_perm, registrations_eq, changes_eq⟩ := follows.registry r there
  have closed_iff := follows.closed_iff
  rw [there] at closed_iff
  refine ⟨follows.numbered, follows.length_eq, follows.handles, by simpa using closed_iff, ?_⟩
  rintro _ ⟨⟩
  exact ⟨perm.trans was_perm, registrations_eq, changes_eq⟩

/-- After any operations the registry is what its ledger says. -/
theorem After.follows {ops : List (Operation P)} (after : s.After ops) :
  s.Follows (.ofOperations ops)
  := by
  induction after with
  | start => exact follows_empty
  | perform _ op ih =>
    rw [Ledger.ofOperations, List.foldl_concat]
    apply ih.perform op
  | relist _ there perm ih => exact ih.relist there perm

/--
Whatever is done to a registry and the handles it gave out, and in whatever order it lists its
entries, a handle is disposed when its registration has ended, and the registry is there until it
is let go.  As long as it is, the providers asked for a language and a scheme are those of the live
registrations that apply, each once, by descending score and in the order of their registration;
there is one to ask exactly when some registration applies; the size is the number of live
registrations; and the changes are the registrations that were made and those that have ended.
-/
theorem After.matches_ledger {ops : List (Operation P)} (after : s.After ops) :
  let l : Ledger P := .ofOperations ops
  (∀ n h, s.handles[n]? = some (some h) → (h.disposed = true ↔ n ∈ l.ended))
    ∧ (s.registry = none ↔ l.closed = true)
    ∧ ∀ r, s.registry = some r →
      (∀ language scheme,
        (∃ best : List (Registered P), r.ordered language scheme = best.map (·.provider)
          ∧ best.Perm (l.live.filter (·.selector.selects language scheme))
          ∧ best.Pairwise Registered.Precedes)
        ∧ (r.has language scheme = true ↔ r.ordered language scheme ≠ []))
      ∧ r.size = l.live.length
      ∧ r.changes = l.made.length + l.ended.length
  := by
  intro l
  have follows : s.Follows l := after.follows
  refine ⟨fun n h found => (follows.handles n _ found).2, follows.closed_iff.symm, ?_⟩
  intro r there
  obtain ⟨perm, -, changes_eq⟩ := follows.registry r there
  have distinct : (r.entries.map (·.number)).Nodup :=
    (perm.map _).nodup_iff.mpr follows.numbered.live_distinct
  refine ⟨fun language scheme => ⟨?_, has_iff⟩, perm.length_eq, changes_eq⟩
  refine ⟨r.matchingEntries language scheme, rfl, ?_, matchingEntries_in_order distinct⟩
  exact matchingEntries_perm.trans (perm.filter _)

/-- Providers with equal scores, for any language or for one scheme, of which two are removed. -/
def reviewers : List (Operation Nat) :=
  [.register (.ofLanguage "less") 1, .registerWithScore (.ofLanguage "*") 5 2,
    .registerWithScore { scheme := some "file" } 5 3, .register (.ofLanguage "less") 4,
    .dispose 1, .dispose 1, .register (.ofLanguage "less") 5, .drop 3, .dispose 3]

/-- The registry of the reviewers that are left, listed from the last registration on. -/
def reviewersReversed : Registry Nat where
  entries := [⟨4, .ofLanguage "less", 0, 5⟩, ⟨2, { scheme := some "file" }, 5, 3⟩,
    ⟨0, .ofLanguage "less", 0, 1⟩]
  registrations := 5
  changes := 7

/-- The third provider comes before the first and the last; three of five registrations are live. -/
theorem matches_ledger_reviewers :
  ∃ s : Session Nat, s.After reviewers ∧ s.registry = some reviewersReversed
    ∧ reviewersReversed.ordered "less" (some "file") = [3, 1, 5]
    ∧ reviewersReversed.has "css" none = false
    ∧ reviewersReversed.size = 3 ∧ reviewersReversed.changes = 7
  := by
  have made : ∀ ops : List (Operation Nat), (ops.foldl Session.perform {}).After ops := by
    intro ops
    induction ops using List.reverseRecOn with
    | nil => exact .start
    | append_singleton ops op ih =>
      rw [List.foldl_concat]
      exact ih.perform op
  have there : (reviewers.foldl Session.perform {}).registry = some
      { reviewersReversed with entries := reviewersReversed.entries.reverse } := rfl
  have after := (made reviewers).relist there (List.reverse_perm _).symm
  obtain ⟨-, -, live⟩ := after.matches_ledger
  obtain ⟨asked, size_eq, changes_eq⟩ := live reviewersReversed rfl
  refine ⟨_, after, rfl, ?_, ?_, size_eq, changes_eq⟩
  · obtain ⟨⟨best, ordered_eq, perm, in_order⟩, -⟩ := asked "less" (some "file")
    have sorted : [⟨2, { scheme := some "file" }, 5, 3⟩, ⟨0, .ofLanguage "less", 0, 1⟩,
        ⟨4, .ofLanguage "less", 0, 5⟩].Pairwise (Registered.Precedes (P := Nat)) := by
      simp [Registered.Precedes]
    have swapped := perm.trans (List.Perm.swap _ _ _)
    rw [ordered_eq, swapped.eq_of_pairwise (fun a b _ _ before after =>
      absurd after before.asymm) in_order sorted]
    rfl
  · obtain ⟨⟨best, ordered_eq, perm, -⟩, has_iff⟩ := asked "css" none
    rw [← Bool.not_eq_true, has_iff, not_not, ordered_eq, perm.eq_nil]
    rfl

end Session

end Registry

end EditorModes
