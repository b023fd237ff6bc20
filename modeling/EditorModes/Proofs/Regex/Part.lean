import EditorModes.Regex.Parser
import Mathlib.Data.List.Basic

/-!
# Parts of a pattern

The readers of escapes, classes and groups go through the text from its start.  Such a reader is a
part (`IsPart`) when it leaves an end of the text and, if a closing parenthesis follows the text,
reads what it reads without it.  Readers put together from parts are parts, so a lemma for each
way to put them together shows it of the readers of patterns.
-/

namespace EditorModes.Regex

variable {α β : Type} {f : Flags} {t r r' : Text}

/-! ### Parts of a pattern -/

/--
What is read of a text is read of it before a closing parenthesis too, unless the text is
read to its end and the parenthesis with it.
-/
def InParens (read wrapped : Option (α × Text)) : Prop :=
  ∀ a r', wrapped = some (a, r') → r' = [] ∨ ∃ r, read = some (a, r) ∧ r' = r ++ [')']

/--
A part of a pattern is read off the start of a text, and in parentheses as it is by itself.
-/
structure IsPart (read : Text → Option (α × Text)) : Prop where
  isSuffix : ∀ t a r, read t = some (a, r) → r <:+ t
  inParens : ∀ t, InParens (read t) (read (t ++ [')']))

namespace InParens

variable {read wrapped : Option (α × Text)}

theorem nothing :
  InParens read none
  := by
  intro _ _ none_eq
  cases none_eq

theorem same {a : α} :
  InParens (some (a, r)) (some (a, r ++ [')']))
  := by
  rintro _ _ ⟨⟩
  exact .inr ⟨r, rfl, rfl⟩

/-- One part is read behind another. -/
theorem bind (within : InParens read wrapped) {next next' : α × Text → Option (β × Text)}
    (later : ∀ a r, InParens (next (a, r)) (next' (a, r ++ [')'])))
    (at_end : ∀ a b r, next' (a, []) = some (b, r) → r = []) :
  InParens (read.bind next) (wrapped.bind next')
  := by
  intro b r' made
  obtain ⟨⟨a, rest⟩, found, made'⟩ := Option.bind_eq_some_iff.mp made
  rcases within a rest found with rfl | ⟨r, found', rfl⟩
  · exact .inl (at_end a b r' made')
  · obtain rfl := found'
    exact later a r b r' made'

/-- What is made of a part does not depend on what follows it. -/
theorem map (within : InParens read wrapped) (make : α → β) :
  InParens (read.map fun (a, r) => (make a, r)) (wrapped.map fun (a, r) => (make a, r))
  := by
  intro b r' made
  obtain ⟨⟨a, rest⟩, found, ⟨⟩⟩ := Option.map_eq_some_iff.mp made
  rcases within a _ found with ended | ⟨r, found', eq⟩
  · exact .inl ended
  · obtain rfl := found'
    exact .inr ⟨r, rfl, eq⟩

end InParens

namespace IsPart

variable {read : Text → Option (α × Text)}

theorem eq_nil (part : IsPart read) {a : α} (found : read [] = some (a, r)) :
  r = []
  := List.suffix_nil.mp (part.isSuffix [] a r found)

theorem of_eq {other : Text → Option (α × Text)} (part : IsPart other)
    (eq : ∀ t, read t = other t) :
  IsPart read
  := by
  obtain rfl : read = other := funext eq
  exact part

theorem nothing :
  IsPart fun _ => (none : Option (α × Text))
  := by
  refine ⟨?_, fun _ => .nothing⟩
  rintro _ _ _ ⟨⟩

theorem value (a : α) :
  IsPart fun t => some (a, t)
  := by
  refine ⟨?_, fun _ => .same⟩
  rintro t _ _ ⟨⟩
  exact List.suffix_rfl

theorem given (a : Option α) {next : α → Text → Option (β × Text)} (part : ∀ a, IsPart (next a)) :
  IsPart fun t => a.bind fun a => next a t
  := by
  cases a with
  | none => exact .nothing
  | some a => exact part a

theorem value? (a : Option α) :
  IsPart fun t => a.map (·, t)
  := by
  cases a with
  | none => exact .nothing
  | some a => exact .value a

theorem bind (part : IsPart read) {next : α → Text → Option (β × Text)}
    (later : ∀ a, IsPart (next a)) :
  IsPart fun t => (read t).bind fun (a, r) => next a r
  := by
  refine ⟨fun t b r made => ?_, fun t => ?_⟩
  · obtain ⟨⟨a, rest⟩, found, made⟩ := Option.bind_eq_some_iff.mp made
    exact ((later a).isSuffix rest b r made).trans (part.isSuffix t a rest found)
  · exact (part.inParens t).bind (fun a r => (later a).inParens r) fun a b r => (later a).eq_nil

theorem mapOption (part : IsPart read) (make : α → Option β) :
  IsPart fun t => (read t).bind fun (a, r) => (make a).map (·, r)
  := part.bind fun a => .value? (make a)

theorem map (part : IsPart read) (make : α → β) :
  IsPart fun t => (read t).map fun (a, r) => (make a, r)
  := by
  refine (part.bind fun a => .value (make a)).of_eq fun t => ?_
  cases read t <;> rfl

/-- A character, and what it introduces. -/
theorem char {step : Char → Text → Option (α × Text)} (part : ∀ c, IsPart (step c)) :
  IsPart fun t => t.head?.bind fun c => step c t.tail
  := by
  constructor
  · rintro (_ | ⟨c, t⟩) a r found
    · cases found
    · exact ((part c).isSuffix t a r found).trans (List.suffix_cons c t)
  · rintro (_ | ⟨c, t⟩) a r' found
    · exact .inl ((part ')').eq_nil found)
    · exact (part c).inParens t a r' found

/-- What a character introduces, or else another part. -/
theorem orElse (head : Char) (apart : head ≠ ')') {other : Text → Option (α × Text)}
    (part : IsPart read) (other_part : IsPart other) :
  IsPart fun t => if t.head? = some head then read t.tail else other t
  := by
  constructor
  · intro t a r found
    split at found
    · exact (part.isSuffix _ a r found).trans (List.tail_suffix t)
    · exact other_part.isSuffix t a r found
  · rintro (_ | ⟨c, t⟩)
    · have elsewhere : ¬ ([] ++ [')']).head? = some head := by simpa using apart.symm
      simp only [List.head?_nil, reduceCtorEq, ↓reduceIte, if_neg elsewhere]
      exact other_part.inParens []
    · rw [List.cons_append, List.head?_cons, List.head?_cons, List.tail_cons, List.tail_cons]
      by_cases here : some c = some head
      · rw [if_pos here, if_pos here]
        exact part.inParens t
      · rw [if_neg here, if_neg here]
        exact other_part.inParens (c :: t)

end IsPart

/-! ### Texts before a parenthesis -/

theorem head?_ne {c : Char} (other : ∀ u, t = c :: u → False) :
  ¬ t.head? = some c
  := fun head => other _ (List.eq_cons_of_mem_head? head)

theorem cons_of_append {c : Char} {u : Text} (apart : c ≠ ')') (split : t ++ [')'] = c :: u) :
  ∃ v, t = c :: v ∧ u = v ++ [')']
  := by
  rcases t with _ | ⟨d, v⟩
  · obtain ⟨rfl, -⟩ := List.cons_eq_cons.mp split
    exact absurd rfl apart
  · obtain ⟨rfl, rfl⟩ := List.cons_eq_cons.mp split
    exact ⟨v, rfl, rfl⟩

/-! ### What is ignored -/

/-- The text behind white space and comments is its end. -/
theorem skipSpace_isSuffix (inComment : Bool) (t : Text) :
  skipSpace inComment t <:+ t
  := by
  induction t generalizing inComment with
  | nil => exact List.suffix_rfl
  | cons c t ih =>
    have later (inComment : Bool) : skipSpace inComment t <:+ c :: t :=
      (ih inComment).trans (List.suffix_cons c t)
    rw [skipSpace]
    split
    · exact later _
    split
    · exact later _
    split
    · exact later _
    · exact List.suffix_rfl

/-- The text behind what is ignored is its end. -/
theorem skip_isSuffix (f : Flags) (t : Text) :
  f.skip t <:+ t
  := by
  rw [Flags.skip]
  split
  · apply skipSpace_isSuffix
  · exact List.suffix_rfl

@[simp]
theorem skip_nil (f : Flags) :
  f.skip [] = []
  := List.suffix_nil.mp (skip_isSuffix f [])

/-- Before a parenthesis the same is skipped, unless the parenthesis is in a comment. -/
theorem skipSpace_append (inComment : Bool) (t : Text) :
  skipSpace inComment (t ++ [')']) = skipSpace inComment t ++ [')']
    ∨ skipSpace inComment (t ++ [')']) = []
  := by
  induction t generalizing inComment with
  | nil => cases inComment <;> decide
  | cons c t ih =>
    rw [List.cons_append, skipSpace, skipSpace]
    split
    · exact ih _
    split
    · exact ih _
    split
    · exact ih _
    · exact .inl rfl

/-- Before a parenthesis the same is ignored, unless the parenthesis is in a comment. -/
theorem skip_append (f : Flags) (t : Text) :
  f.skip (t ++ [')']) = f.skip t ++ [')'] ∨ f.skip (t ++ [')']) = []
  := by
  rw [Flags.skip, Flags.skip]
  split
  · apply skipSpace_append
  · exact .inl rfl

/-- What follows the text that is ignored is a part. -/
theorem IsPart.skip {read : Text → Option (α × Text)} (part : IsPart read) (f : Flags) :
  IsPart fun t => read (f.skip t)
  := by
  constructor
  · intro t a r found
    exact (part.isSuffix _ a r found).trans (skip_isSuffix f t)
  · intro t
    rcases skip_append f t with eq | eq
    · rw [eq]
      exact part.inParens _
    · rw [eq]
      intro a r' found
      exact .inl (part.eq_nil found)

theorem length_of_skip {c : Char} (ahead : f.skip t = c :: r) :
  r.length < t.length
  := by
  have shorter := (skip_isSuffix f t).length_le
  rw [ahead, List.length_cons] at shorter
  omega

theorem skip_paren (f : Flags) :
  f.skip [')'] = [')']
  := by
  rw [Flags.skip]
  split
  · decide
  · rfl

end EditorModes.Regex
