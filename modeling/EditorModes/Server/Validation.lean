/-!
# Validations

A validation of a document takes time, and another one may start meanwhile.  Each validation gets
a ticket; it supersedes the validation that was started for the same document before, and what a
superseded validation finds is not published.
-/

namespace EditorModes

/-- The tickets of the latest validations of documents. -/
structure Validations where
  latest : List (String × Nat) := []
  /-- The number of tickets that were given out. -/
  issued : Nat := 0
  deriving DecidableEq, Repr

namespace Validations

/-- Whether a ticket is the latest one for a document. -/
def isCurrent (v : Validations) (uri : String) (ticket : Nat) : Bool :=
  v.latest.lookup uri = some ticket

/-- No validation of a document is the latest one. -/
def stop (v : Validations) (uri : String) : Validations :=
  { v with latest := v.latest.filter (·.1 ≠ uri) }

/-- A validation of a document starts, and gets a ticket. -/
def start (v : Validations) (uri : String) : Nat × Validations :=
  (v.issued, ⟨(uri, v.issued) :: (v.stop uri).latest, v.issued + 1⟩)

/-- After a stop no ticket is the latest one of the document. -/
theorem isCurrent_stop (v : Validations) (uri : String) (ticket : Nat) :
  (v.stop uri).isCurrent uri ticket = false
  := by
  have absent : (v.stop uri).latest.lookup uri = none := by
    rw [List.lookup_eq_none_iff]
    intro entry found
    have other : entry.1 ≠ uri := by simpa using (List.mem_filter.1 found).2
    simpa using other.symm
  simp [isCurrent, absent]

/-- A stop leaves the tickets of other documents alone. -/
theorem isCurrent_stop_of_ne (v : Validations) {uri other : String} (ne : other ≠ uri)
    (ticket : Nat) :
  (v.stop uri).isCurrent other ticket = v.isCurrent other ticket
  := by
  have same : (v.stop uri).latest.lookup other = v.latest.lookup other := by
    simp only [stop]
    induction v.latest with
    | nil => rfl
    | cons entry latest ih =>
      obtain ⟨key, ticket⟩ := entry
      by_cases stopped : key = uri
      · have unequal : (other == uri) = false := by simpa using ne
        simpa [stopped, List.lookup_cons, unequal] using ih
      · simp only [List.lookup_cons, ne_eq, stopped, not_false_eq_true, decide_true,
          List.filter_cons_of_pos, ← ih]
  simp [isCurrent, same]

theorem isCurrent_start (v : Validations) (uri : String) (ticket : Nat) :
  (v.start uri).2.isCurrent uri ticket ↔ ticket = (v.start uri).1
  := by
  simp [isCurrent, start, eq_comm]

theorem isCurrent_start_of_ne (v : Validations) {uri other : String} (ne : other ≠ uri)
    (ticket : Nat) :
  (v.start uri).2.isCurrent other ticket = v.isCurrent other ticket
  := by
  rw [← isCurrent_stop_of_ne v ne]
  have unequal : (other == uri) = false := by simpa using ne
  simp [isCurrent, start, List.lookup_cons, unequal]

end Validations

end EditorModes
