import EditorModes.Proofs.Regex.Layout
import EditorModes.Proofs.Regex.Signs

/-!
# Patterns tied to the start of the text

A `^` in front of a pattern in parentheses ties the first branch of the whole to the start of the
text, and only that one: the parentheses may close before the pattern ends
(`Expr.asksFirst_of_parse?`).  So where the pattern accepts without it, it accepts with it at the
start of a text.
-/

namespace EditorModes.Regex

/-! ### Groups -/

namespace OpenGroup

/--
A group and the same with a condition for the start of the text in front of the first expression of
its first branch.
-/
inductive AsksFirst : OpenGroup → OpenGroup → Prop where
  | current {capturing : Bool} {f : Flags} (later : List Item) {earlier : List Item}
    (flags : ∀ item ∈ earlier, item = .flags) :
    AsksFirst ⟨capturing, f, [], later ++ earlier⟩
      ⟨capturing, f, [], later ++ .expr ⟨.look .textStart, 0⟩ :: earlier⟩
  | completed {capturing : Bool} {f : Flags} (later : List (Nested Expr)) {items : List Item}
    {exprs : List Expr} {first tied : Nested Expr} (first_value : first.value = .cats exprs)
    (tied_value : tied.value = .cats (.look .textStart :: exprs)) :
    AsksFirst ⟨capturing, f, later ++ [first], items⟩ ⟨capturing, f, later ++ [tied], items⟩

variable {g g' : OpenGroup}

theorem AsksFirst.push (asks : AsksFirst g g') (item : Item) :
  AsksFirst { g with items := item :: g.items } { g' with items := item :: g'.items }
  := by
  cases asks with
  | current later flags => exact .current (item :: later) flags
  | completed later value tied_value => exact .completed later value tied_value

/-- The current branch has the condition in front of what it has without. -/
theorem exists_branch_values (capturing : Bool) (f : Flags) (later : List Item)
    {earlier : List Item} (flags : ∀ item ∈ earlier, item = .flags) :
  ∃ exprs, (branch ⟨capturing, f, [], later ++ earlier⟩).value = .cats exprs
    ∧ (branch ⟨capturing, f, [], later ++ .expr ⟨.look .textStart, 0⟩ :: earlier⟩).value
      = .cats (.look .textStart :: exprs)
  := by
  have no_exprs : exprs ⟨capturing, f, [], earlier⟩ = [] := by
    rw [exprs, List.filterMap_eq_nil_iff]
    intro item among
    rw [flags item among]
  unfold exprs at no_exprs
  dsimp only at no_exprs
  refine ⟨(exprs ⟨capturing, f, [], later⟩).reverse.map (·.value), ?_, ?_⟩
  · simp only [branch, exprs, List.filterMap_append, no_exprs, List.append_nil]
  · simp only [branch, exprs, List.filterMap_append, List.filterMap_cons, no_exprs,
      List.reverse_append, List.reverse_cons, List.reverse_nil, List.nil_append,
      List.singleton_append, List.map_cons]

/-- The next branch leaves the condition in front of the first one. -/
theorem AsksFirst.nextBranch (asks : AsksFirst g g') :
  AsksFirst g.nextBranch g'.nextBranch
  := by
  cases asks with
  | @current capturing f later earlier flags =>
    obtain ⟨exprs, value, tied_value⟩ := exists_branch_values capturing f later flags
    exact .completed [] value tied_value
  | completed later value tied_value => exact .completed (_ :: later) value tied_value

/-- What is repeated is behind the condition, since without it something is repeated too. -/
theorem AsksFirst.repeatLast? (asks : AsksFirst g g') {least : Nat} {most : Option Nat}
    {greedy : Bool} {repeated repeated' : OpenGroup}
    (repeats : g.repeatLast? least most greedy = some repeated)
    (repeats' : g'.repeatLast? least most greedy = some repeated') :
  AsksFirst repeated repeated'
  := by
  cases asks with
  | @current _ _ later earlier flags =>
    rcases later with _ | ⟨e | _, later⟩
    · rcases earlier with _ | ⟨item, earlier⟩
      · cases repeats
      · obtain rfl := flags item List.mem_cons_self
        cases repeats
    · obtain rfl := Option.some.inj repeats
      obtain rfl := Option.some.inj repeats'
      exact .current (_ :: later) flags
    · cases repeats
  | @completed _ _ later items _ _ _ value tied_value =>
    rcases items with _ | ⟨e | _, items⟩
    · cases repeats
    · obtain rfl := Option.some.inj repeats
      obtain rfl := Option.some.inj repeats'
      exact .completed later value tied_value
    · cases repeats

/-- A group that is closed has the condition in front of its first branch. -/
theorem AsksFirst.close (asks : AsksFirst g g') :
  Expr.AsksFirst g.close.value g'.close.value
  := by
  cases asks with
  | @current capturing f later earlier flags =>
    obtain ⟨exprs, value, tied_value⟩ := exists_branch_values capturing f later flags
    have asks := Expr.AsksFirst.intro exprs []
    rw [Expr.alts, Expr.alts, ← value, ← tied_value] at asks
    exact asks
  | @completed capturing f later items exprs first tied value tied_value =>
    have close_value (last : Nested Expr) :
        (close ⟨capturing, f, later ++ [last], items⟩).value
          = .alts (last.value
            :: ((branch ⟨capturing, f, [], items⟩ :: later).reverse.map (·.value))) := by
      rcases later with _ | ⟨_, later⟩ <;> simp [close, branch, OpenGroup.exprs]
    rw [close_value, close_value, value, tied_value]
    exact .intro exprs _

end OpenGroup

/-! ### Readers -/

namespace Reading

/--
Two readers at one place that differ in the outermost group only, where the second has a condition
for the start of the text in front.
-/
inductive AsksFirst : Reading → Reading → Prop where
  | inside {f : Flags} {names : List Text} (around : List OpenGroup) {top bottom tied : OpenGroup}
    (asks : bottom.AsksFirst tied) :
    AsksFirst ⟨f, names, around ++ [bottom], top⟩ ⟨f, names, around ++ [tied], top⟩
  | outside {f : Flags} {names : List Text} {bottom tied : OpenGroup}
    (asks : bottom.AsksFirst tied) :
    AsksFirst ⟨f, names, [], bottom⟩ ⟨f, names, [], tied⟩

variable {s s' next next' : Reading} {t : Text} {sign : Sign} {e e' : Nested Expr}

/-- A sign leaves the condition in front. -/
theorem AsksFirst.after? (asks : s.AsksFirst s') (after : s.after? sign = some next)
    (after' : s'.after? sign = some next') :
  next.AsksFirst next'
  := by
  cases asks with
  | @inside f names around top bottom tied asks =>
    cases sign with
    | flags f' =>
      obtain rfl := Option.some.inj after
      obtain rfl := Option.some.inj after'
      exact .inside around asks
    | opening f' capturing name =>
      rw [Reading.after?] at after after'
      split at after
      · cases after
      · next fresh =>
        rw [if_neg fresh] at after'
        obtain rfl := Option.some.inj after
        obtain rfl := Option.some.inj after'
        exact .inside (top :: around) asks
    | closing =>
      rcases around with _ | ⟨enclosing, around⟩ <;>
        obtain rfl := Option.some.inj after <;>
        obtain rfl := Option.some.inj after'
      · exact .outside (asks.push _)
      · exact .inside around asks
    | bar | item e =>
      obtain rfl := Option.some.inj after
      obtain rfl := Option.some.inj after'
      exact .inside around asks
    | repetition least most greedy =>
      obtain ⟨group, repeats, rfl⟩ := Option.map_eq_some_iff.mp after
      obtain ⟨group', repeats', rfl⟩ := Option.map_eq_some_iff.mp after'
      obtain rfl := Option.some.inj (repeats.symm.trans repeats')
      exact .inside around asks
  | outside asks =>
    cases sign with
    | flags f' =>
      obtain rfl := Option.some.inj after
      obtain rfl := Option.some.inj after'
      exact .outside (asks.push .flags)
    | opening f' capturing name =>
      rw [Reading.after?] at after after'
      split at after
      · cases after
      · next fresh =>
        rw [if_neg fresh] at after'
        obtain rfl := Option.some.inj after
        obtain rfl := Option.some.inj after'
        exact .inside [] asks
    | closing => cases after
    | bar =>
      obtain rfl := Option.some.inj after
      obtain rfl := Option.some.inj after'
      exact .outside asks.nextBranch
    | item e =>
      obtain rfl := Option.some.inj after
      obtain rfl := Option.some.inj after'
      exact .outside (asks.push (.expr e))
    | repetition least most greedy =>
      obtain ⟨group, repeats, rfl⟩ := Option.map_eq_some_iff.mp after
      obtain ⟨group', repeats', rfl⟩ := Option.map_eq_some_iff.mp after'
      exact .outside (asks.repeatLast? repeats repeats')

theorem AsksFirst.flags_eq (asks : s.AsksFirst s') :
  s.flags = s'.flags
  := by
  cases asks <;> rfl

/-- What comes out at the end has the condition in front. -/
theorem AsksFirst.value (asks : s.AsksFirst s') (reads : s.Reads t e) (reads' : s'.Reads t e') :
  Expr.AsksFirst e.value e'.value
  := by
  induction reads generalizing s' with
  | @done s t at_end closed =>
    cases asks with
    | inside around asks => simp at closed
    | outside asks =>
      cases reads' with
      | done => exact asks.close
      | sign read =>
        rw [at_end] at read
        cases read
  | @sign s next t r sign e read after later ih =>
    cases reads' with
    | done at_end =>
      rw [asks.flags_eq, at_end] at read
      cases read
    | sign read' after' later' =>
      rw [asks.flags_eq, read'] at read
      obtain ⟨rfl, rfl⟩ := Prod.mk.inj (Option.some.inj read)
      exact ih (asks.after? after after') later'

/-- A reader behind a `^` has its condition in front of all that a reader without it has. -/
theorem AsksFirst.caret (ignoreCase : Bool) :
  ∃ s, (behindCaseMark ignoreCase).after? (.item ⟨.look .textStart, 0⟩) = some s
    ∧ (behindCaseMark ignoreCase).AsksFirst s
  := by
  refine ⟨_, rfl, .outside (.current [] ?_)⟩
  intro item among
  cases ignoreCase with
  | false => cases among
  | true => exact List.mem_singleton.mp among

end Reading

/-! ### Patterns -/

theorem Expr.asksFirst_of_parse? {ignoreCase : Bool} {t : Text} {e tied : Expr}
    (parsed : parse? (Reading.caseMark ignoreCase ++ t) = some e)
    (parsed_tied : parse? (Reading.caseMark ignoreCase ++ '^' :: t) = some tied) :
  AsksFirst e tied
  := by
  obtain ⟨_, reads, -⟩ := Reading.reads_of_parse? parsed
  obtain ⟨_, reads_tied, -⟩ := Reading.reads_of_parse? parsed_tied
  obtain ⟨s, after, asks⟩ := Reading.AsksFirst.caret ignoreCase
  exact asks.value reads.behind_caseMark (reads_tied.behind_caseMark.behind rfl after)

/--
Where a pattern that does not ask for the character before has a match, it has one at the start of
the text from there with a `^` in front.
-/
theorem isSome_find?_caret {ignoreCase : Bool} {pattern t : Text} {r tied : Regex}
    (compiled : ofPattern? (Reading.caseMark ignoreCase ++ pattern) = some r)
    (compiled_tied : ofPattern? (Reading.caseMark ignoreCase ++ '^' :: pattern) = some tied)
    (asks : r.program.asksBefore = false) {m : Match} (found : r.find? t = some m) :
  (tied.find? (t.drop m.skipped)).isSome
  := by
  obtain ⟨e, parsed, rfl⟩ := Option.map_eq_some_iff.mp compiled
  obtain ⟨e', parsed_tied, rfl⟩ := Option.map_eq_some_iff.mp compiled_tied
  obtain ⟨before, accepts⟩ := Program.accepts_of_find? found
  apply Program.isSome_find?_of_accepts
  exact Program.accepts_ofExpr (Expr.asksFirst_of_parse? parsed parsed_tied) (accepts.of_none asks)

end EditorModes.Regex
