import EditorModes.Proofs.Grammar.Splicing

/-!
# What compiling a grammar gives

A rule of a lexer is the compiled form of a rule of the grammar, also where an include brought it
into another state (`Grammar.exists_compileRule`).  So a lexer moves to states of its own only
(`Lexer.Closed`), and the types of its tokens are empty or carry the postfix of the grammar
(`Grammar.Decorates`).
-/

namespace EditorModes

namespace Grammar

variable {g : Grammar} {l : Lexer}

/-! ### Rules and states -/

theorem declares_iff {state : String} :
  g.declares state = true ↔ state ∈ g.states.map (·.1)
  := lookup_isSome_iff_mem

/-- A grammar whose start state is declared is compiled entry by entry, then include by include. -/
theorem compileStates_eq (declared : g.declares g.startState = true) :
  g.compileStates = (do
    let entries ← g.compiledEntries
    let table ← resolveAll entries (entries.map (·.1))
    return entries.map fun e => (e.1, (table.lookup e.1).getD []))
  := by
  have listed : g.states ≠ [] := by
    intro none_eq
    simp [declares, rules?, none_eq] at declared
  simp only [compileStates, List.isEmpty_iff, listed, declared, Bool.not_true, Bool.false_eq_true,
    if_false]

/-- The start state of a grammar that compiles is declared. -/
theorem declares_startState {states : List (String × List CompiledRule)}
    (compiled : g.compileStates = .ok states) :
  g.declares g.startState = true
  := by
  by_contra undeclared
  unfold compileStates at compiled
  dsimp only at compiled
  split at compiled
  · cases compiled
  · rw [if_pos (by simpa using undeclared)] at compiled
    cases compiled

theorem forall₂_of_compiledEntries {entries : List (String × List Entry)}
    (compiled : g.compiledEntries = .ok entries) :
  List.Forall₂ (fun s e => e.1 = s.1 ∧ g.compileEntries s.1 s.2 = .ok e.2) g.states entries
  := by
  refine (forall₂_of_mapM compiled).imp fun s e made => ?_
  obtain ⟨own, own_made, same⟩ := bind_eq_ok_iff.mp made
  obtain rfl := Except.ok.inj same
  exact ⟨rfl, own_made⟩

/-- The states of a grammar that compiles, their entries, and the rules that these come to. -/
theorem exists_entries_of_compileStates {states : List (String × List CompiledRule)}
    (compiled : g.compileStates = .ok states) :
  g.declares g.startState = true
    ∧ ∃ entries, g.compiledEntries = .ok entries
      ∧ List.Forall₂ (fun e s => s.1 = e.1
        ∧ ∃ own, entries.lookup e.1 = some own ∧ Spliced entries own s.2) entries states
  := by
  have declared := declares_startState compiled
  rw [compileStates_eq declared] at compiled
  obtain ⟨entries, listed, compiled⟩ := bind_eq_ok_iff.mp compiled
  obtain ⟨table, resolved, made⟩ := bind_eq_ok_iff.mp compiled
  obtain rfl := Except.ok.inj made
  refine ⟨declared, entries, listed, ?_⟩
  rw [List.forall₂_map_right_iff, List.forall₂_same]
  intro e among
  rcases resolveAll_cases fun _ => declaredIn_iff.mpr with
    ⟨_, resolved', sound, all⟩ | ⟨_, failed, -⟩
  · obtain rfl := Except.ok.inj (resolved.symm.trans resolved')
    obtain ⟨rules, found⟩ := Option.isSome_iff_exists.mp
      (all e.1 (List.mem_map_of_mem among))
    rw [found]
    exact ⟨rfl, sound e.1 rules found⟩
  · rw [resolved] at failed
    cases failed

/-- What the states of a lexer are, when the grammar compiles. -/
theorem compileStates_of_compile (compiled : g.compile = .ok l) :
  g.compileStates = .ok l.states ∧ l.start = g.startState
    ∧ l.defaultToken = g.decorate g.defaultToken
    ∧ l.brackets = g.brackets.map fun b => { b with token := g.decorate b.token }
  := by
  unfold compile at compiled
  split at compiled
  · cases compiled
  · next states made =>
    obtain rfl := Except.ok.inj compiled
    exact ⟨made, rfl, rfl, rfl⟩

/-- The states of the lexer are those of the grammar. -/
theorem mem_stateNames_iff (compiled : g.compile = .ok l) {state : String} :
  state ∈ l.stateNames ↔ g.declares state = true
  := by
  obtain ⟨made, -⟩ := compileStates_of_compile compiled
  obtain ⟨-, entries, listed, resolved⟩ := exists_entries_of_compileStates made
  have names_eq : l.states.map (·.1) = g.states.map (·.1) := by
    have entries_eq : entries.map (·.1) = g.states.map (·.1) := by
      rw [← List.forall₂_eq_eq_eq, List.forall₂_map_left_iff, List.forall₂_map_right_iff]
      apply ((forall₂_of_compiledEntries listed).imp fun _ _ made => made.1).flip
    rw [← entries_eq, ← List.forall₂_eq_eq_eq, List.forall₂_map_left_iff,
      List.forall₂_map_right_iff]
    apply (resolved.imp fun _ _ made => made.1).flip
  rw [Lexer.stateNames, names_eq, declares_iff]

/-- The rules of its own that a grammar writes, state by state. -/
def ownRules (g : Grammar) : List MatchRule :=
  g.states.flatMap fun s => s.2.filterMap fun
    | .own written => some written
    | .include _ => none

/-- An own rule is written in a state. -/
theorem mem_ownRules_iff {written : MatchRule} :
  written ∈ g.ownRules ↔ ∃ s ∈ g.states, .own written ∈ s.2
  := by
  rw [ownRules, List.mem_flatMap]
  refine exists_congr fun s => and_congr_right fun _ => ?_
  rw [List.mem_filterMap]
  constructor
  · rintro ⟨_ | own, among, same⟩
    · cases same
    · obtain rfl := Option.some.inj same
      exact among
  · intro among
    exact ⟨_, among, rfl⟩

/-- A rule of the lexer is the compiled form of an own rule of the grammar. -/
theorem exists_ownRule (compiled : g.compile = .ok l) {state : String} {rule : CompiledRule}
    (among : rule ∈ l.rules state) :
  ∃ s, ∃ written ∈ g.ownRules, g.compileRule s written = .ok rule
  := by
  obtain ⟨made, -⟩ := compileStates_of_compile compiled
  obtain ⟨-, entries, listed, resolved⟩ := exists_entries_of_compileStates made
  cases found : l.states.lookup state with
  | none => simp [Lexer.rules, found] at among
  | some rules =>
    rw [Lexer.rules, found, Option.getD_some] at among
    obtain ⟨before, after, states_eq, -⟩ := List.lookup_eq_some_iff.mp found
    have here : (state, rules) ∈ l.states := by simp [states_eq]
    obtain ⟨_, -, -, own, own_found, spliced⟩ := exists_of_mem_forall₂ resolved here
    obtain ⟨entry, entry_among, own_among⟩ :=
      spliced.exists_own (fun _ => exists_of_lookup own_found) among
    obtain ⟨declared, declared_among, -, own_made⟩ :=
      exists_of_mem_forall₂ (forall₂_of_compiledEntries listed) entry_among
    obtain ⟨written, written_among, compiled⟩ := exists_of_mem_mapM own_made own_among
    rcases written with target | written
    · cases compiled
    · obtain ⟨_, rule_made, same⟩ := bind_eq_ok_iff.mp compiled
      obtain rfl := Entry.own.inj (Except.ok.inj same)
      have own := mem_ownRules_iff.mpr ⟨_, declared_among, written_among⟩
      exact ⟨declared.1, written, own, rule_made⟩

theorem exists_compileRule (compiled : g.compile = .ok l) {state : String} {rule : CompiledRule}
    (among : rule ∈ l.rules state) :
  ∃ s written, g.compileRule s written = .ok rule
  := by
  obtain ⟨s, written, -, rule_made⟩ := exists_ownRule compiled among
  exact ⟨s, written, rule_made⟩

/-- In a grammar that compiles all own rules do. -/
theorem compileRule_of_compile (compiled : g.compile = .ok l) {written : MatchRule}
    (among : written ∈ g.ownRules) :
  ∃ s rule, g.compileRule s written = .ok rule
  := by
  obtain ⟨made, -⟩ := compileStates_of_compile compiled
  obtain ⟨-, entries, listed, -⟩ := exists_entries_of_compileStates made
  obtain ⟨declared, here, own_among⟩ := mem_ownRules_iff.mp among
  obtain ⟨_, -, -, own_made⟩ :=
    exists_of_mem_forall₂ (forall₂_of_compiledEntries listed).flip here
  obtain ⟨_, -, entry_made⟩ := exists_of_mem_forall₂ (forall₂_of_mapM own_made).flip own_among
  obtain ⟨rule, rule_made, -⟩ := bind_eq_ok_iff.mp entry_made
  exact ⟨declared.1, rule, rule_made⟩

/-! ### Where rules move to -/

theorem declares_of_target {state written target : String}
    (found : g.target state written = .ok target) :
  g.declares target = true
  := by
  unfold Grammar.target at found
  split at found
  · next declared =>
    obtain rfl := Except.ok.inj found
    exact declared
  · cases found

/-- What a compiled rule is made of. -/
theorem compileRule_parts {state : String} {written : MatchRule} {rule : CompiledRule}
    (compiled : g.compileRule state written = .ok rule) :
  g.compileToken state written.token = .ok rule.action
    ∧ g.compileNext state written.next = .ok rule.next
    ∧ written.switchTo.mapM (g.target state) = .ok rule.switchTo
  := by
  unfold compileRule at compiled
  obtain ⟨_, -, compiled⟩ := bind_eq_ok_iff.mp compiled
  obtain ⟨_, -, compiled⟩ := bind_eq_ok_iff.mp compiled
  obtain ⟨action, action_eq, compiled⟩ := bind_eq_ok_iff.mp compiled
  obtain ⟨next, next_eq, compiled⟩ := bind_eq_ok_iff.mp compiled
  obtain ⟨switchTo, switchTo_eq, compiled⟩ := bind_eq_ok_iff.mp compiled
  obtain ⟨_, -, compiled⟩ := bind_eq_ok_iff.mp compiled
  dsimp only at compiled
  split at compiled <;>
    obtain ⟨_, -, compiled⟩ := bind_eq_ok_iff.mp compiled
  · obtain ⟨_, -, compiled⟩ := bind_eq_ok_iff.mp compiled
    obtain rfl := Except.ok.inj compiled
    exact ⟨action_eq, next_eq, switchTo_eq⟩
  · obtain rfl := Except.ok.inj compiled
    exact ⟨action_eq, next_eq, switchTo_eq⟩

/-- The patterns of a compiled rule are made from the expanded form of the written one. -/
theorem compileRule_patterns {state : String} {written : MatchRule} {rule : CompiledRule}
    (compiled : g.compileRule state written = .ok rule) :
  ∃ expanded, g.expandPattern written.pattern = .ok expanded
    ∧ g.compilePattern written.pattern "^" expanded = .ok rule.regex
    ∧ ∀ leave, rule.leave = some leave → g.compilePattern written.pattern "" expanded = .ok leave
  := by
  unfold compileRule at compiled
  obtain ⟨expanded, expands, compiled⟩ := bind_eq_ok_iff.mp compiled
  obtain ⟨regex, regex_eq, compiled⟩ := bind_eq_ok_iff.mp compiled
  obtain ⟨_, -, compiled⟩ := bind_eq_ok_iff.mp compiled
  obtain ⟨_, -, compiled⟩ := bind_eq_ok_iff.mp compiled
  obtain ⟨_, -, compiled⟩ := bind_eq_ok_iff.mp compiled
  obtain ⟨_, -, compiled⟩ := bind_eq_ok_iff.mp compiled
  dsimp only at compiled
  split at compiled <;>
    obtain ⟨leave, leave_eq, compiled⟩ := bind_eq_ok_iff.mp compiled
  · obtain ⟨_, same, compiled⟩ := bind_eq_ok_iff.mp compiled
    obtain rfl := Except.ok.inj same
    obtain rfl := Except.ok.inj compiled
    refine ⟨expanded, expands, regex_eq, ?_⟩
    rintro _ ⟨⟩
    exact leave_eq
  · obtain rfl := Except.ok.inj leave_eq
    obtain rfl := Except.ok.inj compiled
    exact ⟨expanded, expands, regex_eq, fun _ none_eq => nomatch none_eq⟩

/-- A state that a rule puts on the stack is declared. -/
theorem declares_of_compileNext {state : String} {written : Option String} {target : String}
    (compiled : g.compileNext state written = .ok (some (.push target))) :
  g.declares target = true
  := by
  unfold compileNext at compiled
  split at compiled
  · cases compiled
  · cases compiled
  · cases compiled
  · cases compiled
  · obtain ⟨_, found, same⟩ := bind_eq_ok_iff.mp compiled
    obtain rfl := Transition.push.inj (Option.some.inj (Except.ok.inj same))
    apply declares_of_target found

end Grammar

/-- The lexer starts in one of its states, and its rules move to its states only. -/
structure Lexer.Closed (l : Lexer) : Prop where
  start : l.start ∈ l.stateNames
  next : ∀ state, ∀ rule ∈ l.rules state, ∀ target,
    rule.next = some (.push target) → target ∈ l.stateNames
  switchTo : ∀ state, ∀ rule ∈ l.rules state, ∀ target,
    rule.switchTo = some target → target ∈ l.stateNames

namespace Grammar

variable {g : Grammar} {l : Lexer}

/-- A grammar compiles to a lexer with all the states that it moves to. -/
theorem closed_of_compile (compiled : g.compile = .ok l) :
  l.Closed
  := by
  obtain ⟨made, start_eq, -⟩ := compileStates_of_compile compiled
  constructor
  · rw [mem_stateNames_iff compiled, start_eq]
    apply (exists_entries_of_compileStates made).1
  · intro state rule among target moves
    obtain ⟨_, written, rule_made⟩ := exists_compileRule compiled among
    have next_eq := (compileRule_parts rule_made).2.1
    rw [moves] at next_eq
    apply (mem_stateNames_iff compiled).mpr (declares_of_compileNext next_eq)
  · intro state rule among target switches
    obtain ⟨s, written, rule_made⟩ := exists_compileRule compiled among
    have switchTo_eq := (compileRule_parts rule_made).2.2
    rw [switches] at switchTo_eq
    cases reference : written.switchTo with
    | none => simp [reference, pure, Except.pure] at switchTo_eq
    | some named =>
      rw [reference, Option.mapM_some] at switchTo_eq
      cases found : g.target s named with
      | error cause =>
        rw [found] at switchTo_eq
        cases switchTo_eq
      | ok other =>
        rw [found] at switchTo_eq
        obtain rfl := Option.some.inj (Except.ok.inj switchTo_eq)
        apply (mem_stateNames_iff compiled).mpr (declares_of_target found)

/-! ### Types of tokens -/

/-- A type is empty or carries the postfix of the grammar. -/
def Decorates (g : Grammar) (type : String) : Prop :=
  type = "" ∨ ∃ lead, type = lead ++ g.tokenPostfix.getD ""

/-- A decorated type is empty or carries the postfix. -/
theorem decorates_decorate (g : Grammar) (type : String) :
  g.Decorates (g.decorate type)
  := by
  unfold decorate
  split
  · next empty => exact .inl empty
  · exact .inr ⟨type, rfl⟩

/-- The token that a rule makes of its text is of a type that is empty or carries the postfix. -/
theorem decorates_of_compileToken {state : String} {written : Option String} {type : String}
    (compiled : g.compileToken state written = .ok (.emit type)) :
  g.Decorates type
  := by
  unfold compileToken at compiled
  split at compiled
  · obtain rfl := TokenAction.emit.inj (Except.ok.inj compiled)
    exact .inl rfl
  · cases compiled
  · split at compiled <;> cases compiled
  · obtain rfl := TokenAction.emit.inj (Except.ok.inj compiled)
    apply g.decorates_decorate

end Grammar

end EditorModes
