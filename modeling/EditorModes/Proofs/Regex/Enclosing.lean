import EditorModes.Proofs.Regex.Parentheses

/-!
# Patterns in a group

A text between the parentheses of a group is read there as it is by itself, until a closing
parenthesis strays: one that closes no group of the text and so closes the group around it.  As long
as none strays, what is read of the whole is a group with what is read of the text by itself
(`Reading.Reads.of_within`), so behind a `^` the text is a pattern and matches at the start only
(`isPattern_of_parse?`).
-/

namespace EditorModes.Regex

variable {f : Flags} {t r : Text}

/-! ### A pattern in a group -/

theorem skip_brace (f : Flags) (t : Text) :
  f.skip ('\x7b' :: t) = '\x7b' :: t
  := by
  have plain : Property.isSpace '\x7b' = false := by decide
  rw [Flags.skip, skipSpace]
  simp [plain]

theorem parseCount_paren (f : Flags) :
  parseCount f [')'] = (none, [')'])
  := by
  have plain : Property.isSpace ')' = false := by decide
  have digit : Property.isAsciiDigit ')' = false := by decide
  simp [parseCount, parseCount.spanDigits, plain, digit, skip_paren]

/-- A brace before a parenthesis begins no counted repetition. -/
theorem parseBounds_paren {u : Text} (ignored : f.skip u = []) :
  parseBounds f (u ++ [')']) = none
  := by
  rw [parseBounds]
  rcases skip_append f u with eq | eq
  · rw [eq, ignored, List.nil_append, parseCount_paren]
    rfl
  · rw [eq]
    simp [parseCount, parseCount.spanDigits]

namespace Reading

variable {s s' : Reading} {sign : Sign} {e : Nested Expr} {around : OpenGroup}

/-- At the end of a text all groups are closed. -/
theorem Reads.at_end (reads : s.Reads [] e) :
  s.outer = [] ∧ e = s.group.close
  := by
  cases reads with
  | done _ closed => exact ⟨closed, rfl⟩
  | sign read =>
    rw [skip_nil] at read
    cases read

/-- A text cannot end with a brace and a parenthesis, whatever is ignored between the two. -/
theorem not_reads_brace {u : Text} (ignored : s.flags.skip u = []) :
  ¬ s.Reads ('\x7b' :: u ++ [')']) e
  := by
  intro reads
  rw [List.cons_append] at reads
  cases reads with
  | done at_end =>
    rw [skip_brace] at at_end
    cases at_end
  | sign read =>
    rw [skip_brace, readSign?] at read
    obtain ⟨_, bounds, -⟩ := Option.map_eq_some_iff.mp read
    rw [parseBounds_paren ignored] at bounds
    cases bounds

/-- The reader in a further group around all others. -/
def within (s : Reading) (around : OpenGroup) : Reading :=
  { s with outer := s.outer ++ [around] }

/--
A sign that does not close the outermost group does in a further group what it does by itself.
-/
theorem after?_within (inside : sign ≠ .closing ∨ s.outer ≠ []) :
  (s.within around).after? sign = (s.after? sign).map (·.within around)
  := by
  obtain ⟨f, names, outer, group⟩ := s
  cases sign with
  | flags | bar | item => rfl
  | opening f' capturing name =>
    rw [after?, after?, within]
    split <;> rfl
  | closing =>
    obtain ⟨enclosing, outer, rfl⟩ := List.exists_cons_of_ne_nil (inside.resolve_left (absurd rfl))
    rfl
  | repetition least most greedy =>
    rw [after?, after?, within, Option.map_map]
    rfl

/-- Reading the text ahead comes to a closing parenthesis where no group is open. -/
inductive Strays : Reading → Text → Prop where
  | here {s : Reading} {t r : Text} (closed : s.outer = []) (paren : s.flags.skip t = ')' :: r) :
    Strays s t
  | later {s s' : Reading} {t r : Text} {sign : Sign}
    (read : readSign? s.flags (s.flags.skip t) = some (sign, r)) (after : s.after? sign = some s')
    (strays : Strays s' r) : Strays s t

/--
A text that is read to the parenthesis behind it in a further group is read by itself, as long as
it does not close the further group before.
-/
theorem Reads.of_within (reads : (s.within around).Reads (t ++ [')']) e) (kept : ¬ s.Strays t) :
  ∃ capturing inner, s.Reads t inner
    ∧ e = (around.add ⟨.group capturing inner.value, inner.depth + 1⟩).close
  := by
  generalize within_eq : s.within around = w at reads
  generalize text_eq : t ++ [')'] = wrapped at reads
  induction reads generalizing s t with
  | done _ closed =>
    rw [← within_eq, within] at closed
    simp at closed
  | @sign w w' wrapped r' sign e read after later ih =>
    subst within_eq text_eq
    have open_end (next : Reading) (within_eq : next.within around = w') : r' ≠ [] := by
      rintro rfl
      have closed := later.at_end.1
      rw [← within_eq, within] at closed
      simp at closed
    rcases skip_append s.flags t with eq | eq
    case inr =>
      rw [within, eq] at read
      cases read
    rw [within, eq] at read
    dsimp only at read
    cases skipped : s.flags.skip t with
    | nil =>
      rw [skipped] at read
      cases read
      rcases outer_eq : s.outer with _ | ⟨enclosing, outer⟩
      · rw [within, after?, outer_eq] at after
        cases after
        exact ⟨_, _, .done skipped outer_eq, later.at_end.2⟩
      · have inside : s.outer ≠ [] := by simp [outer_eq]
        rw [after?_within (.inr inside)] at after
        obtain ⟨next, -, within_eq⟩ := Option.map_eq_some_iff.mp after
        exact absurd rfl (open_end next within_eq)
    | cons c u =>
      rw [skipped] at read
      have inside : sign ≠ .closing ∨ s.outer ≠ [] := by
        by_contra both
        obtain ⟨closing, closed⟩ := not_or.mp both
        obtain rfl := not_not.mp closing
        rw [(readSign?_closing read).1] at skipped
        exact kept (.here (not_not.mp closed) skipped)
      rw [after?_within inside] at after
      obtain ⟨next, goes_on, rfl⟩ := Option.map_eq_some_iff.mp after
      rcases readSign?_inParens read with ended | ⟨r, same, rfl⟩ | ⟨look, v, rfl, rfl, ignored⟩
      · exact absurd ended (open_end next rfl)
      · rw [← skipped] at same
        obtain ⟨capturing, inner, reads, value⟩ :=
          ih (fun strays => kept (.later same goes_on strays)) rfl rfl
        exact ⟨capturing, inner, .sign same goes_on reads, value⟩
      · obtain rfl := Option.some.inj goes_on
        exact absurd later (not_reads_brace ignored)

/-- A sign leaves less text to be read. -/
theorem length_of_readSign? (read : readSign? f (f.skip t) = some (sign, r)) :
  r.length < t.length
  := by
  cases ahead : f.skip t with
  | nil =>
    rw [ahead] at read
    cases read
  | cons c u =>
    rw [ahead] at read
    have part := (readSign?_isSuffix read).length_le
    have shorter := length_of_skip ahead
    omega

/-- The reader makes what reading the text gives, if it may take a step for each character. -/
theorem parseItems_of_reads {steps : Nat} (reads : s.Reads t e) (enough : t.length < steps) :
  parseItems steps s.flags s.names s.outer s.group t = some e
  := by
  induction reads generalizing steps with
  | done at_end closed =>
    rcases steps with _ | steps
    · exact absurd enough (Nat.not_lt_zero _)
    rw [parseItems_succ, if_pos at_end, closed]
    rfl
  | @sign s _ t _ _ _ read after _ ih =>
    rcases steps with _ | steps
    · exact absurd enough (Nat.not_lt_zero _)
    have shorter := length_of_readSign? read
    have some_ahead : s.flags.skip t ≠ [] := by
      intro at_end
      rw [at_end] at read
      cases read
    rw [parseItems_succ, if_neg some_ahead, read, Option.bind_some]
    dsimp only
    rw [after, Option.bind_some]
    exact ih (by omega)

/-- Whether a closing parenthesis strays within a number of signs. -/
def straysWithin : (steps : Nat) → Reading → Text → Bool
  | 0, _, _ => false
  | steps + 1, s, t =>
    match readSign? s.flags (s.flags.skip t) with
    | none => false
    | some (sign, r) =>
      match s.after? sign with
      | none => (s.flags.skip t).head? = some ')'
      | some next => straysWithin steps next r

theorem after?_closing_eq_none_iff :
  s.after? .closing = none ↔ s.outer = []
  := by
  rw [after?]
  cases s.outer <;> simp

/-- A closing parenthesis strays within as many signs as the text has characters. -/
theorem straysWithin_iff {steps : Nat} (enough : t.length < steps) :
  s.straysWithin steps t = true ↔ s.Strays t
  := by
  induction steps generalizing s t with
  | zero => exact absurd enough (Nat.not_lt_zero _)
  | succ steps ih =>
    rw [straysWithin]
    cases read : readSign? s.flags (s.flags.skip t) with
    | none =>
      refine ⟨fun never => (nomatch never), fun strays => ?_⟩
      cases strays with
      | here closed paren =>
        rw [paren] at read
        cases read
      | later read' =>
        rw [read] at read'
        cases read'
    | some found =>
      obtain ⟨sign, r⟩ := found
      dsimp only
      cases after : s.after? sign with
      | none =>
        dsimp only
        rw [decide_eq_true_iff]
        constructor
        · intro head
          obtain ⟨u, paren⟩ := List.head?_eq_some_iff.mp head
          rw [paren] at read
          cases read
          exact .here (after?_closing_eq_none_iff.mp after) paren
        · intro strays
          cases strays with
          | here closed paren => rw [paren, List.head?_cons]
          | later read' after' =>
            obtain ⟨rfl, -⟩ := Prod.mk.inj (Option.some.inj (read.symm.trans read'))
            rw [after] at after'
            cases after'
      | some next =>
        dsimp only
        rw [ih (by have := length_of_readSign? read; omega)]
        constructor
        · exact .later read after
        · intro strays
          cases strays with
          | here closed paren =>
            rw [paren] at read
            cases read
            rw [after?_closing_eq_none_iff.mpr closed] at after
            cases after
          | later read' after' strays =>
            obtain ⟨rfl, rfl⟩ := Prod.mk.inj (Option.some.inj (read.symm.trans read'))
            obtain rfl := Option.some.inj (after.symm.trans after')
            exact strays

instance (s : Reading) (t : Text) : Decidable (s.Strays t) :=
  decidable_of_iff (s.straysWithin (t.length + 1) t = true)
    (straysWithin_iff (Nat.lt_succ_self _))

end Reading

/-! ### Patterns -/

/--
Whether a text is a pattern when it is read with some flags in force, apart from the size of the
automata for it.
-/
def isPattern (f : Flags) (t : Text) : Bool :=
  (parseItems (t.length + 1) f [] [] ⟨false, f, [], []⟩ t).any fun e => e.depth ≤ nestLimit

/-- A text is a pattern when reading it gives an expression that does not nest too deep. -/
theorem isPattern_iff :
  isPattern f t = true ↔ ∃ e, (Reading.start f).Reads t e ∧ e.depth ≤ nestLimit
  := by
  rw [isPattern, Option.any_eq_true]
  constructor
  · rintro ⟨e, parsed, fits⟩
    exact ⟨e, Reading.reads_of_parseItems parsed, of_decide_eq_true fits⟩
  · rintro ⟨e, reads, fits⟩
    exact ⟨e, Reading.parseItems_of_reads reads (Nat.lt_succ_self _), decide_eq_true fits⟩

/--
A text that denotes an expression behind a `^` and in a group is a pattern by itself, and the
expression matches at the start only, unless a closing parenthesis of the text strays.
-/
theorem isPattern_of_parse? {ignoreCase : Bool} {e : Expr}
    (parsed : Expr.parse? (Reading.caseMark ignoreCase ++ '^' :: '(' :: '?' :: ':' :: (t ++ [')']))
      = some e)
    (kept : ¬ (Reading.start { ignoreCase }).Strays t) :
  isPattern { ignoreCase } t = true ∧ e.isAnchored = true
  := by
  obtain ⟨depth, reads, fits⟩ := Reading.reads_of_parse? parsed
  have inside := (reads.behind_caseMark.behind rfl rfl).behind rfl rfl
  obtain ⟨capturing, inner, reads_inner, eq⟩ :=
    Reading.Reads.of_within (s := Reading.start { ignoreCase }) inside kept
  have value : e = .cat (.look .textStart) (.group capturing inner.value)
      ∧ depth = max 0 (inner.depth + 1) + 1 := by
    cases ignoreCase <;> cases eq <;> exact ⟨rfl, rfl⟩
  obtain ⟨rfl, rfl⟩ := value
  exact ⟨isPattern_iff.mpr ⟨inner, reads_inner, by omega⟩, rfl⟩

end EditorModes.Regex
