import EditorModes.Registry.Basic
import Mathlib.Data.List.Basic
import Mathlib.Data.List.Nodup

/-!
# The order of providers

A registration gets a number that no other one gets.  So the providers that apply have one order
only, by descending score and then by number (`Registry.matchingEntries_in_order`), in whatever
order the entries of the registry are listed.
-/

namespace EditorModes

/-- An entry is asked before another when its score is higher, or the same and it came earlier. -/
def Registered.Precedes (a b : Registered P) : Prop :=
  b.score < a.score ∨ a.score = b.score ∧ a.number < b.number

theorem Registered.Precedes.asymm {a b : Registered P} (before : a.Precedes b) :
  ¬ b.Precedes a
  := by
  unfold Precedes at *
  omega

theorem Registered.isNoLater_iff {a b : Registered P} :
  a.isNoLater b = true ↔ b.score < a.score ∨ a.score = b.score ∧ a.number ≤ b.number
  := by
  simp [isNoLater]

namespace Registry

variable {r : Registry P} {language : String} {scheme : Option String}

theorem matchingEntries_perm :
  (r.matchingEntries language scheme).Perm
    (r.entries.filter (·.selector.selects language scheme))
  := List.mergeSort_perm _ _

/-- The best entries stand by descending score, and those of one score by their numbers. -/
theorem matchingEntries_in_order (distinct : (r.entries.map (·.number)).Nodup) :
  (r.matchingEntries language scheme).Pairwise Registered.Precedes
  := by
  have sorted : (r.matchingEntries language scheme).Pairwise fun a b => a.isNoLater b = true := by
    apply List.pairwise_mergeSort
    · intro a b c
      simp only [Registered.isNoLater_iff]
      omega
    · intro a b
      simp only [Bool.or_eq_true, Registered.isNoLater_iff]
      omega
  have differ : (r.matchingEntries language scheme).Pairwise fun a b => a.number ≠ b.number := by
    rw [← List.pairwise_map]
    apply (matchingEntries_perm.map _).nodup_iff.mpr
    exact distinct.sublist (List.filter_sublist.map _)
  apply (sorted.and differ).imp
  rintro a b ⟨no_later, ne⟩
  rw [Registered.isNoLater_iff] at no_later
  unfold Registered.Precedes
  omega

theorem has_iff :
  r.has language scheme = true ↔ r.ordered language scheme ≠ []
  := by
  rw [has, List.any_eq_true, ordered, ne_eq, List.map_eq_nil_iff, List.eq_nil_iff_forall_not_mem]
  simp [matchingEntries_perm.mem_iff]

/-! ### Numbers -/

/-- An entry is removed wherever it stands. -/
theorem entries_remove (r : Registry P) (number : Nat) :
  (r.remove number).entries = r.entries.filter (·.number ≠ number)
  := by
  unfold remove
  split
  · rfl
  · next absent =>
    apply Eq.symm
    apply List.filter_eq_self.mpr
    intro e among
    simp only [List.any_eq_true, decide_eq_true_eq, not_exists, not_and] at absent
    simpa using absent e among

/-- Entries stand in the order of their numbers, which are not given again. -/
structure Numbered (r : Registry P) : Prop where
  in_order : r.entries.Pairwise (·.number < ·.number)
  lt : ∀ e ∈ r.entries, e.number < r.registrations

/-- One more provider gets a number that was not given before. -/
theorem Numbered.register (numbered : r.Numbered) (selector : Selector) (score : Int)
    (provider : P) :
  (r.register selector score provider).2.Numbered
  := by
  constructor
  · apply List.pairwise_append.mpr
    refine ⟨numbered.in_order, List.pairwise_singleton _ _, ?_⟩
    intro e among new last
    rw [List.mem_singleton.mp last]
    apply numbered.lt e among
  · intro e among
    rcases List.mem_append.mp among with before | new
    · apply Nat.lt_succ_of_lt (numbered.lt e before)
    · rw [List.mem_singleton.mp new]
      apply Nat.lt_succ_self

/-- The numbers of the other entries stay what they are when a handle is disposed. -/
theorem Numbered.dispose (numbered : r.Numbered) (h : Handle) :
  (r.dispose h).2.Numbered
  := by
  unfold Registry.dispose
  split
  · exact numbered
  · constructor
    · rw [entries_remove]
      apply numbered.in_order.filter
    · intro e among
      rw [entries_remove] at among
      have lt := numbered.lt e (List.mem_filter.mp among).1
      unfold remove
      split <;> exact lt

end Registry

end EditorModes
