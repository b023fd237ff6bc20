import EditorModes.Proofs.Grammar.Includes
import EditorModes.Proofs.Grammar.Anchoring
import EditorModes.Proofs.Regex.Untying

/-!
# Grammars without embedded languages

Taking all embedded languages out of a grammar leaves its states, its includes and what its rules
match as they are (`Grammar.compile_withoutEmbedding`).  The other way round, a rule that leaves an
embedded language also has its pattern compiled without the `^` in front, and putting the languages
back fails for nothing but the size of that (`Grammar.exists_compile_iff_withoutEmbedding`).
-/

namespace EditorModes

/-! ### Taking embedded languages out -/

/-- The rule that does nothing to the embedded language. -/
def MatchRule.withoutEmbedding (r : MatchRule) : MatchRule :=
  { r with nextEmbedded := none }

/-- The entry of a state, which does nothing to the embedded language. -/
def Rule.withoutEmbedding : Rule → Rule
  | .include state => .include state
  | .own rule => .own rule.withoutEmbedding

/-- The compiled rule that does nothing to the embedded language. -/
def CompiledRule.withoutEmbedding (r : CompiledRule) : CompiledRule :=
  { r with leave := none, embedding := none }

/-- The lexer whose rules do nothing to the embedded language. -/
def Lexer.withoutEmbedding (l : Lexer) : Lexer :=
  { l with states := l.states.map fun s => (s.1, s.2.map (·.withoutEmbedding)) }

namespace Grammar

/-- The grammar whose rules do nothing to the embedded language. -/
def withoutEmbedding (g : Grammar) : Grammar :=
  { g with states := g.states.map fun s => (s.1, s.2.map (·.withoutEmbedding)) }

/-- The compiled entry, which does nothing to the embedded language. -/
def Entry.withoutEmbedding : Entry → Entry
  | .include state => .include state
  | .own rule => .own rule.withoutEmbedding

variable {g : Grammar} {l : Lexer} {entries : List (String × List Entry)} {own : List Entry}
  {state target : String} {written : MatchRule} {rule base : CompiledRule}

theorem rules?_withoutEmbedding (g : Grammar) (state : String) :
  g.withoutEmbedding.rules? state
    = (g.rules? state).map fun rules => rules.map (·.withoutEmbedding)
  := lookup_map _ g.states state

@[simp]
theorem declares_withoutEmbedding (g : Grammar) :
  g.withoutEmbedding.declares = g.declares
  := by
  funext state
  rw [declares, declares, rules?_withoutEmbedding, Option.isSome_map]

/-- States include the same states. -/
theorem includes_withoutEmbedding (g : Grammar) :
  g.withoutEmbedding.Includes = g.Includes
  := by
  funext state target
  apply propext
  unfold Includes
  rw [rules?_withoutEmbedding]
  constructor
  · rintro ⟨_, found, written, among, named⟩
    obtain ⟨rules, declared, rfl⟩ := Option.map_eq_some_iff.mp found
    obtain ⟨rule, listed, same⟩ := List.mem_map.mp among
    cases rule with
    | «include» other =>
      obtain rfl := Rule.include.inj same
      exact ⟨rules, declared, other, listed, named⟩
    | own rule => cases same
  · rintro ⟨rules, declared, written, among, named⟩
    exact ⟨_, Option.map_eq_some_iff.mpr ⟨rules, declared, rfl⟩, written,
      List.mem_map.mpr ⟨_, among, rfl⟩, named⟩

/-! ### Rules -/

/-- Where a rule leaves the embedded language, its pattern to search for. -/
def compileLeave (g : Grammar) (written : MatchRule) : Checked (Option Regex) :=
  match compileEmbedding written.nextEmbedded with
  | some .leave => do
    let expanded ← g.expandPattern written.pattern
    return some (← g.compilePattern written.pattern "" expanded)
  | _ => return none

theorem target_withoutEmbedding (g : Grammar) :
  g.withoutEmbedding.target = g.target
  := by
  funext state written
  rw [target, target, declares_withoutEmbedding]

theorem compileNext_withoutEmbedding (g : Grammar) :
  g.withoutEmbedding.compileNext = g.compileNext
  := by
  funext state written
  unfold compileNext
  rw [target_withoutEmbedding]

/-- A rule is compiled as without an embedded language, and what leaves it is compiled last. -/
theorem compileRule_eq (g : Grammar) (state : String) (written : MatchRule) :
  g.compileRule state written = (do
    let base ← g.withoutEmbedding.compileRule state written.withoutEmbedding
    let leave ← g.compileLeave written
    return { base with leave, embedding := compileEmbedding written.nextEmbedded })
  := by
  have expand_eq : g.withoutEmbedding.expandPattern = g.expandPattern := rfl
  have pattern_eq : g.withoutEmbedding.compilePattern = g.compilePattern := rfl
  have token_eq : g.withoutEmbedding.compileToken = g.compileToken := rfl
  unfold compileRule compileLeave
  rw [expand_eq, pattern_eq, token_eq, target_withoutEmbedding, compileNext_withoutEmbedding]
  dsimp only [MatchRule.withoutEmbedding]
  cases expands : g.expandPattern written.pattern with
  | error cause => rfl
  | ok expanded =>
    have ok_bind {α β : Type} (a : α) (f : α → Checked β) : Except.ok a >>= f = f a := rfl
    have no_embedding : compileEmbedding none = none := rfl
    simp only [ok_bind, bind_assoc, no_embedding]
    refine bind_congr fun regex => bind_congr fun action => bind_congr fun next =>
      bind_congr fun switchTo => bind_congr fun bracket => ?_
    cases compileEmbedding written.nextEmbedded with
    | none => rfl
    | some embedding =>
      cases embedding with
      | enter language => rfl
      | leave => cases g.compilePattern written.pattern "" expanded <;> rfl

/-- Without embedded languages a rule is compiled to one that does nothing to them. -/
theorem compileRule_withoutEmbedding (compiled : g.compileRule state written = .ok rule) :
  g.withoutEmbedding.compileRule state written.withoutEmbedding = .ok rule.withoutEmbedding
  := by
  rw [compileRule_eq] at compiled
  obtain ⟨base, base_made, compiled⟩ := bind_eq_ok_iff.mp compiled
  obtain ⟨leave, -, made⟩ := bind_eq_ok_iff.mp compiled
  obtain rfl := Except.ok.inj made
  have plain := base_made
  rw [compileRule_eq] at plain
  obtain ⟨_, -, plain⟩ := bind_eq_ok_iff.mp plain
  obtain ⟨_, none_eq, plain⟩ := bind_eq_ok_iff.mp plain
  obtain rfl := Except.ok.inj plain
  obtain rfl := Except.ok.inj none_eq
  exact base_made

theorem compileEmbedding_eq_leave_iff {reference : Option String} :
  compileEmbedding reference = some .leave ↔ reference = some "@pop"
  := by
  unfold compileEmbedding
  split
  · simp
  · simp
  · next other => simpa using other

/-- A rule enters a language where another name is written. -/
theorem compileEmbedding_eq_enter_iff {reference : Option String} {language : String} :
  compileEmbedding reference = some (.enter language)
    ↔ reference = some language ∧ language ≠ "@pop"
  := by
  unfold compileEmbedding
  split
  · simp
  · refine ⟨fun same => by simp at same, ?_⟩
    rintro ⟨same, other⟩
    exact absurd (Option.some.inj same).symm other
  · next other =>
    simp only [Option.some.injEq, Embedding.enter.injEq]
    constructor
    · rintro rfl
      exact ⟨rfl, other⟩
    · exact And.left

/-- The text in its group, behind the mark for case, reads as an expression that is too large. -/
def IsTooLarge (g : Grammar) (expanded : Text) : Prop :=
  Regex.IsTooLarge (Regex.Reading.caseMark g.ignoreCase ++ ("(?:".toList ++ expanded ++ [')']))

/-- A pattern that is too large is refused. -/
theorem IsTooLarge.compilePattern_eq {expanded : Text} (large : g.IsTooLarge expanded)
    (pattern : String) :
  g.compilePattern pattern "" expanded = .error (.invalidPattern pattern)
  := by
  have refused : Regex.ofPattern? (Regex.Reading.caseMark g.ignoreCase
      ++ ("".toList ++ ("(?:".toList ++ expanded ++ [')']))) = none := by
    change Option.map _ (Regex.Expr.parse? (Regex.Reading.caseMark g.ignoreCase
      ++ ("(?:".toList ++ expanded ++ [')']))) = none
    rw [large.parse?_eq_none]
    rfl
  rw [Grammar.compilePattern_eq, refused, Option.elim_none]

/-- A pattern that compiles behind a `^` does so without it, unless it is too large. -/
theorem compilePattern_cases {pattern : String} {expanded : Text} {regex : Regex}
    (compiled : g.compilePattern pattern "^" expanded = .ok regex) :
  (∃ leave, g.compilePattern pattern "" expanded = .ok leave) ∨ g.IsTooLarge expanded
  := by
  obtain ⟨tied, parsed, -⟩ := Option.map_eq_some_iff.mp (ofPattern?_of_compilePattern compiled)
  rcases Regex.parse?_of_tied parsed with ⟨e, parsed⟩ | large
  · left
    refine ⟨⟨.ofExpr e⟩, ?_⟩
    have accepted : Regex.ofPattern? (Regex.Reading.caseMark g.ignoreCase
        ++ ("".toList ++ ("(?:".toList ++ expanded ++ [')']))) = some ⟨.ofExpr e⟩ :=
      Option.map_eq_some_iff.mpr ⟨e, parsed, rfl⟩
    rw [compilePattern_eq, accepted, Option.elim_some]
  · exact .inr large

/-- A rule leaves the embedded language, and the pattern to search for is too large. -/
def LeavesTooLarge (g : Grammar) (written : MatchRule) : Prop :=
  written.nextEmbedded = some "@pop"
    ∧ ∃ expanded, g.expandPattern written.pattern = .ok expanded ∧ g.IsTooLarge expanded

/--
A rule that compiles without embedded languages does so with them, unless the pattern by which it
leaves one is too large.
-/
theorem compileRule_cases
    (compiled : g.withoutEmbedding.compileRule state written.withoutEmbedding = .ok base) :
  (∃ rule, g.compileRule state written = .ok rule) ∨ g.LeavesTooLarge written
  := by
  obtain ⟨expanded, expands, tied, -⟩ := compileRule_patterns compiled
  have made (leave : Option Regex) (leave_made : g.compileLeave written = .ok leave) :
      ∃ rule, g.compileRule state written = .ok rule := by
    rw [compileRule_eq]
    exact ⟨_, bind_eq_ok_iff.mpr ⟨base, compiled, bind_eq_ok_iff.mpr ⟨leave, leave_made, rfl⟩⟩⟩
  by_cases leaves : compileEmbedding written.nextEmbedded = some .leave
  · rcases g.compilePattern_cases tied with ⟨leave, leave_made⟩ | large
    · left
      apply made (some leave)
      rw [compileLeave, leaves]
      exact bind_eq_ok_iff.mpr ⟨expanded, expands, bind_eq_ok_iff.mpr ⟨leave, leave_made, rfl⟩⟩
    · exact .inr ⟨compileEmbedding_eq_leave_iff.mp leaves, expanded, expands, large⟩
  · left
    apply made none
    unfold compileLeave
    split
    · next taken => exact absurd taken leaves
    · rfl

/-- What leaves an embedded language by a pattern that is too large is refused for it. -/
theorem LeavesTooLarge.compileLeave_eq (large : g.LeavesTooLarge written) :
  g.compileLeave written = .error (.invalidPattern written.pattern)
  := by
  obtain ⟨leaves, expanded, expands, large⟩ := large
  rw [compileLeave, compileEmbedding_eq_leave_iff.mpr leaves, expands]
  change g.compilePattern written.pattern "" expanded >>= _ = _
  rw [large.compilePattern_eq]
  rfl

/-- A rule that leaves an embedded language by a pattern that is too large does not compile. -/
theorem LeavesTooLarge.compileRule_ne_ok (large : g.LeavesTooLarge written) :
  g.compileRule state written ≠ .ok rule
  := by
  intro compiled
  rw [compileRule_eq] at compiled
  obtain ⟨_, -, compiled⟩ := bind_eq_ok_iff.mp compiled
  obtain ⟨_, leave_made, -⟩ := bind_eq_ok_iff.mp compiled
  rw [large.compileLeave_eq] at leave_made
  cases leave_made

/-! ### Grammars -/

/-- The rules of a state are compiled to entries that do nothing to the embedded language. -/
theorem compileEntries_withoutEmbedding {rules : List Rule}
    (compiled : g.compileEntries state rules = .ok own) :
  g.withoutEmbedding.compileEntries state (rules.map (·.withoutEmbedding))
    = .ok (own.map (·.withoutEmbedding))
  := by
  apply mapM_eq_ok_of_forall₂
  rw [List.forall₂_map_left_iff, List.forall₂_map_right_iff]
  refine (forall₂_of_mapM compiled).imp fun written entry made => ?_
  cases written with
  | «include» target =>
    obtain rfl := Except.ok.inj made
    rfl
  | own written =>
    obtain ⟨rule, rule_made, same⟩ := bind_eq_ok_iff.mp made
    obtain rfl := Except.ok.inj same
    exact bind_eq_ok_iff.mpr ⟨_, compileRule_withoutEmbedding rule_made, rfl⟩

/-- States are compiled to entries that do nothing to the embedded language. -/
theorem compiledEntries_withoutEmbedding (listed : g.compiledEntries = .ok entries) :
  g.withoutEmbedding.compiledEntries
    = .ok (entries.map fun e => (e.1, e.2.map (·.withoutEmbedding)))
  := by
  apply mapM_eq_ok_of_forall₂
  rw [withoutEmbedding, List.forall₂_map_left_iff, List.forall₂_map_right_iff]
  refine (forall₂_of_compiledEntries listed).imp fun s e made => ?_
  obtain ⟨same, own_made⟩ := made
  rw [same]
  exact bind_eq_ok_iff.mpr ⟨_, compileEntries_withoutEmbedding own_made, rfl⟩

/-- Entries come to rules that do nothing to the embedded language. -/
theorem Spliced.withoutEmbedding {rules : List CompiledRule} (spliced : Spliced entries own rules) :
  Spliced (entries.map fun e => (e.1, e.2.map (·.withoutEmbedding))) (own.map (·.withoutEmbedding))
    (rules.map (·.withoutEmbedding))
  := by
  induction spliced with
  | nil => exact .nil
  | own _ ih => exact .own ih
  | @«include» target inner _ _ _ declared _ _ ih_inside ih_later =>
    rw [List.map_append]
    refine .include ?_ ih_inside ih_later
    rw [lookup_map (fun own : List Entry => own.map (·.withoutEmbedding)), declared]
    rfl

/-- The own rules compile without embedded languages when they do so with them. -/
theorem OwnRulesCompile.withoutEmbedding (own : g.OwnRulesCompile) :
  g.withoutEmbedding.OwnRulesCompile
  := by
  rw [← exists_compiledEntries_iff] at own ⊢
  obtain ⟨entries, listed⟩ := own
  exact ⟨_, compiledEntries_withoutEmbedding listed⟩

/-- The states without embedded languages have the same rules without them. -/
theorem compileStates_withoutEmbedding (compiled : g.compile = .ok l) :
  g.withoutEmbedding.compileStates
    = .ok (l.states.map fun s => (s.1, s.2.map (·.withoutEmbedding)))
  := by
  obtain ⟨made, -⟩ := compileStates_of_compile compiled
  obtain ⟨start, entries, listed, all⟩ := exists_entries_of_compileStates made
  obtain ⟨includes_declared, acyclic⟩ := includes_of_compile compiled
  have own := (exists_compiledEntries_iff.mp ⟨entries, listed⟩).withoutEmbedding
  rw [← declares_withoutEmbedding] at start includes_declared
  rw [← includes_withoutEmbedding] at includes_declared acyclic
  rcases compileStates_cases start own with ⟨states, made'⟩ | ⟨cause, -, defect⟩
  · obtain ⟨-, _, listed', all'⟩ := exists_entries_of_compileStates made'
    obtain rfl := Except.ok.inj ((compiledEntries_withoutEmbedding listed).symm.trans listed')
    rw [List.forall₂_map_left_iff] at all'
    rw [made', eq_map_of_forall₂ ?_ all all']
    rintro e ⟨_, rules⟩ ⟨_, rules'⟩ ⟨rfl, own, found, spliced⟩ ⟨rfl, own', found', spliced'⟩
    rw [lookup_map (fun own : List Entry => own.map (·.withoutEmbedding)), found] at found'
    obtain rfl := Option.some.inj found'
    have rules_eq : rules' = rules.map (·.withoutEmbedding) :=
      spliced'.unique spliced.withoutEmbedding
    rw [rules_eq]
  · cases not_includeDefect includes_declared acyclic defect

/-- Without embedded languages a grammar compiles to the lexer without them. -/
theorem compile_withoutEmbedding (compiled : g.compile = .ok l) :
  g.withoutEmbedding.compile = .ok l.withoutEmbedding
  := by
  have states_made := compileStates_withoutEmbedding compiled
  unfold compile at compiled ⊢
  split at compiled
  · cases compiled
  · obtain rfl := Except.ok.inj compiled
    rw [states_made]
    rfl

/-- The own rules compile with embedded languages too, unless one leaves by a large pattern. -/
theorem ownRulesCompile_of_withoutEmbedding (own : g.withoutEmbedding.OwnRulesCompile)
    (fits : ∀ written ∈ g.ownRules, ¬ g.LeavesTooLarge written) :
  g.OwnRulesCompile
  := by
  intro s declared written among
  have declared' : (s.1, s.2.map (·.withoutEmbedding)) ∈ g.withoutEmbedding.states :=
    List.mem_map.mpr ⟨s, declared, rfl⟩
  have among' : Rule.own written.withoutEmbedding ∈ s.2.map (·.withoutEmbedding) :=
    List.mem_map.mpr ⟨_, among, rfl⟩
  obtain ⟨base, base_made⟩ := own _ declared' _ among'
  rcases compileRule_cases base_made with made | large
  · exact made
  · exact absurd large (fits written (mem_ownRules_iff.mpr ⟨s, declared, among⟩))

/--
A grammar compiles when it does so without embedded languages and no rule leaves one by a pattern
that is too large without the `^` in front.
-/
theorem exists_compile_iff_withoutEmbedding :
  (∃ l, g.compile = .ok l) ↔ (∃ l, g.withoutEmbedding.compile = .ok l)
    ∧ ∀ written ∈ g.ownRules, ¬ g.LeavesTooLarge written
  := by
  constructor
  · rintro ⟨l, compiled⟩
    refine ⟨⟨_, compile_withoutEmbedding compiled⟩, fun written among large => ?_⟩
    obtain ⟨state, rule, made⟩ := compileRule_of_compile compiled among
    exact large.compileRule_ne_ok made
  · rintro ⟨⟨l, compiled⟩, fits⟩
    obtain ⟨made, -⟩ := compileStates_of_compile compiled
    have start := declares_startState made
    have own := ownRulesCompile_of_withoutEmbedding (ownRulesCompile_of_compile compiled) fits
    obtain ⟨includes_declared, acyclic⟩ := includes_of_compile compiled
    rw [declares_withoutEmbedding] at start includes_declared
    rw [includes_withoutEmbedding] at includes_declared acyclic
    rcases compile_cases start own with compiled | ⟨_, -, defect⟩
    · exact compiled
    · cases not_includeDefect includes_declared acyclic defect

/-- A rule of a lexer enters only languages that a rule of the grammar is written to enter. -/
theorem exists_enters (compiled : g.compile = .ok l) {language : String}
    (among : rule ∈ l.rules state) (enters : rule.embedding = some (.enter language)) :
  ∃ written ∈ g.ownRules, written.nextEmbedded = some language ∧ language ≠ "@pop"
  := by
  obtain ⟨s, written, listed, made⟩ := exists_ownRule compiled among
  rw [compileRule_eq] at made
  obtain ⟨_, -, made⟩ := bind_eq_ok_iff.mp made
  obtain ⟨_, -, made⟩ := bind_eq_ok_iff.mp made
  obtain rfl := Except.ok.inj made
  exact ⟨written, listed, compileEmbedding_eq_enter_iff.mp enters⟩

end Grammar

end EditorModes
