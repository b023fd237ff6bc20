import EditorModes.Proofs.Grammar.Compile

/-!
# Includes of a grammar

A grammar whose own rules all compile fails to compile only for what is wrong with its includes: a
state that is not declared, or includes that lead back to a state they led to.  Where nothing is
wrong each state has its own rules in their places, and in the place of an include the rules of the
state that is included, whatever is resolved first.
-/

namespace EditorModes

namespace Grammar

variable {g : Grammar} {l : Lexer} {entries : List (String × List Entry)} {own : List Entry}
  {state target : String} {rules : List Rule}

/-! ### States and their entries -/

/-- Each own rule of a state compiles there. -/
def OwnRulesCompile (g : Grammar) : Prop :=
  ∀ s ∈ g.states, ∀ written, .own written ∈ s.2 → ∃ rule, g.compileRule s.1 written = .ok rule

/-- A state takes in another one. -/
def Includes (g : Grammar) (state target : String) : Prop :=
  ∃ rules, g.rules? state = some rules
    ∧ ∃ written, .include written ∈ rules ∧ stateName written = target

/-- The rules of a state compile to entries when its own rules do. -/
theorem exists_compileEntries_iff :
  (∃ own, g.compileEntries state rules = .ok own) ↔
    ∀ written, .own written ∈ rules → ∃ rule, g.compileRule state written = .ok rule
  := by
  unfold compileEntries
  rw [exists_mapM_eq_ok_iff]
  constructor
  · intro each written among
    obtain ⟨_, made⟩ := each (.own written) among
    obtain ⟨rule, rule_made, -⟩ := bind_eq_ok_iff.mp made
    exact ⟨rule, rule_made⟩
  · intro each written among
    cases written with
    | «include» target => exact ⟨_, rfl⟩
    | own written =>
      obtain ⟨rule, rule_made⟩ := each written among
      exact ⟨.own rule, bind_eq_ok_iff.mpr ⟨rule, rule_made, rfl⟩⟩

/-- The states compile to entries when all own rules do. -/
theorem exists_compiledEntries_iff :
  (∃ entries, g.compiledEntries = .ok entries) ↔ g.OwnRulesCompile
  := by
  unfold compiledEntries
  rw [exists_mapM_eq_ok_iff]
  refine forall_congr' fun s => forall_congr' fun _ => ?_
  rw [← exists_compileEntries_iff]
  constructor
  · rintro ⟨_, made⟩
    obtain ⟨own, own_made, -⟩ := bind_eq_ok_iff.mp made
    exact ⟨own, own_made⟩
  · rintro ⟨own, own_made⟩
    exact ⟨(s.1, own), bind_eq_ok_iff.mpr ⟨own, own_made, rfl⟩⟩

theorem lookup_of_compiledEntries (listed : g.compiledEntries = .ok entries) (state : String) :
  (g.rules? state = none ∧ entries.lookup state = none)
    ∨ ∃ rules own, g.rules? state = some rules ∧ entries.lookup state = some own
      ∧ g.compileEntries state rules = .ok own
  := lookup_of_forall₂ (R := fun state rules own => g.compileEntries state rules = .ok own)
    (forall₂_of_compiledEntries listed) state

/-- The entries include what the rules do. -/
theorem include_mem_iff (compiled : g.compileEntries state rules = .ok own) :
  .include target ∈ own ↔ ∃ written, .include written ∈ rules ∧ stateName written = target
  := by
  have all := forall₂_of_mapM compiled
  constructor
  · intro among
    obtain ⟨written, listed, made⟩ := exists_of_mem_forall₂ all among
    cases written with
    | «include» written => exact ⟨written, listed, Entry.include.inj (Except.ok.inj made)⟩
    | own written =>
      obtain ⟨_, -, same⟩ := bind_eq_ok_iff.mp made
      cases same
  · rintro ⟨written, listed, rfl⟩
    obtain ⟨entry, among, made⟩ := exists_of_mem_forall₂ all.flip listed
    obtain rfl := Except.ok.inj made
    exact among

/-- Among the entries states include each other as in the grammar. -/
theorem includesIn_eq (listed : g.compiledEntries = .ok entries) :
  IncludesIn entries = g.Includes
  := by
  funext state target
  apply propext
  unfold IncludesIn Includes
  rcases lookup_of_compiledEntries listed state with
    ⟨undeclared, absent⟩ | ⟨rules, own, declared, found, compiled⟩
  · simp [undeclared, absent]
  · simp [declared, found, include_mem_iff compiled]

/-- The states with entries are those of the grammar. -/
theorem declaredIn_eq (listed : g.compiledEntries = .ok entries) :
  DeclaredIn entries = (g.declares · = true)
  := by
  funext state
  unfold DeclaredIn declares
  rcases lookup_of_compiledEntries listed state with
    ⟨undeclared, absent⟩ | ⟨rules, own, declared, found, -⟩
  · rw [undeclared, absent]
    rfl
  · rw [declared, found]
    rfl

/-! ### What compiles -/

/-- What is wrong with the includes of a grammar. -/
abbrev Defect (g : Grammar) : CompileCause → Prop :=
  IncludeDefect g.Includes (g.declares · = true)

theorem defectIn_eq (listed : g.compiledEntries = .ok entries) :
  DefectIn entries = g.Defect
  := by
  unfold DefectIn
  rw [includesIn_eq listed, declaredIn_eq listed]

theorem exists_compiledEntries (compiled : g.compile = .ok l) :
  ∃ entries, g.compiledEntries = .ok entries
  := by
  obtain ⟨made, -⟩ := compileStates_of_compile compiled
  obtain ⟨-, entries, listed, -⟩ := exists_entries_of_compileStates made
  exact ⟨entries, listed⟩

theorem ownRulesCompile_of_compile (compiled : g.compile = .ok l) :
  g.OwnRulesCompile
  := exists_compiledEntries_iff.mp (exists_compiledEntries compiled)

/-- Each state of a lexer has the rules that its entries come to. -/
theorem spliced_of_compile (compiled : g.compile = .ok l) (listed : g.compiledEntries = .ok entries)
    (found : entries.lookup state = some own) :
  Spliced entries own (l.rules state)
  := by
  obtain ⟨made, -⟩ := compileStates_of_compile compiled
  obtain ⟨-, _, listed', all⟩ := exists_entries_of_compileStates made
  obtain rfl := Except.ok.inj (listed.symm.trans listed')
  rcases lookup_of_forall₂ (R := fun state _ rules =>
      ∃ own, entries.lookup state = some own ∧ Spliced entries own rules) all state with
    ⟨absent, -⟩ | ⟨_, rules, -, states_found, own', found', spliced⟩
  · cases found.symm.trans absent
  · obtain rfl := Option.some.inj (found.symm.trans found')
    rw [Lexer.rules, states_found]
    exact spliced

/-- The states of a grammar whose own rules compile do so, or its includes are defective. -/
theorem compileStates_cases (start : g.declares g.startState = true) (own : g.OwnRulesCompile) :
  (∃ states, g.compileStates = .ok states)
    ∨ ∃ cause, g.compileStates = .error cause ∧ g.Defect cause
  := by
  obtain ⟨entries, listed⟩ := exists_compiledEntries_iff.mpr own
  have order_declared : ∀ state ∈ entries.map (·.1), DeclaredIn entries state :=
    fun _ => declaredIn_iff.mpr
  rw [compileStates_eq start, listed]
  change (∃ states, resolveAll entries (entries.map (·.1)) >>= _ = .ok states)
    ∨ ∃ cause, resolveAll entries (entries.map (·.1)) >>= _ = .error cause ∧ _
  rcases resolveAll_cases order_declared with ⟨table, resolved, -⟩ | ⟨cause, failed, defect⟩
  · rw [resolved]
    exact .inl ⟨_, rfl⟩
  · rw [failed]
    exact .inr ⟨cause, rfl, defectIn_eq listed ▸ defect⟩

/-- A grammar whose own rules compile does so itself, or its includes are defective. -/
theorem compile_cases (start : g.declares g.startState = true) (own : g.OwnRulesCompile) :
  (∃ l, g.compile = .ok l) ∨ ∃ cause, g.compile = .error ⟨g.name, cause⟩ ∧ g.Defect cause
  := by
  unfold compile
  rcases compileStates_cases start own with ⟨states, made⟩ | ⟨cause, failed, defect⟩
  · rw [made]
    exact .inl ⟨_, rfl⟩
  · rw [failed]
    exact .inr ⟨cause, rfl, defect⟩

/-- The includes of a grammar that compiles name states of it and do not lead back. -/
theorem includes_of_compile (compiled : g.compile = .ok l) :
  (∀ state target, g.Includes state target → g.declares target = true)
    ∧ ∀ state, ¬ Relation.TransGen g.Includes state state
  := by
  obtain ⟨entries, listed⟩ := exists_compiledEntries compiled
  have ends {state target : String} (includes : IncludesIn entries state target) :
      DeclaredIn entries target ∧ Acc (flip (IncludesIn entries)) target := by
    obtain ⟨own, found, among⟩ := includes
    exact (spliced_of_compile compiled listed found).acc among
  rw [← includesIn_eq listed]
  constructor
  · intro state target includes
    have declared := (ends includes).1
    rw [declaredIn_eq listed] at declared
    exact declared
  · intro state cycle
    obtain ⟨target, first, back⟩ := Relation.TransGen.head'_iff.mp cycle
    exact not_transGen_of_acc (ends first).2 (Relation.TransGen.tail' back first)

/-! ### The rules of a state -/

/-- What stands in the place of a rule: the rule itself, compiled, or the rules of another state. -/
def inPlace (g : Grammar) (l : Lexer) (state : String) : Rule → List CompiledRule
  | .include written => l.rules (stateName written)
  | .own written => (g.compileRule state written).toOption.toList

/-- What stands in the place of an entry. -/
def Entry.inPlace (l : Lexer) : Entry → List CompiledRule
  | .include target => l.rules target
  | .own rule => [rule]

/-- Entries come to what stands in their places. -/
theorem eq_flatMap_of_spliced {parts : List CompiledRule} (compiled : g.compile = .ok l)
    (listed : g.compiledEntries = .ok entries) (spliced : Spliced entries own parts) :
  parts = own.flatMap (Entry.inPlace l)
  := by
  induction spliced with
  | nil => rfl
  | own later ih =>
    rw [List.flatMap_cons, ← ih]
    rfl
  | «include» declared inside later _ ih =>
    rw [List.flatMap_cons, ← ih, inside.unique (spliced_of_compile compiled listed declared)]
    rfl

/-- In the places of the entries stands what stands in those of the rules. -/
theorem flatMap_inPlace (compiled : g.compileEntries state rules = .ok own) :
  own.flatMap (Entry.inPlace l) = rules.flatMap (g.inPlace l state)
  := by
  have all := forall₂_of_mapM compiled
  clear compiled
  induction all with
  | nil => rfl
  | @cons written entry rules own made _ ih =>
    have here : entry.inPlace l = g.inPlace l state written := by
      cases written with
      | «include» target =>
        obtain rfl := Except.ok.inj made
        rfl
      | own written =>
        obtain ⟨rule, rule_made, same⟩ := bind_eq_ok_iff.mp made
        obtain rfl := Except.ok.inj same
        rw [inPlace, rule_made]
        rfl
    rw [List.flatMap_cons, List.flatMap_cons, here, ih]

/-- The rules of a state are, in their order, what stands in the places of those written. -/
theorem rules_eq_flatMap (compiled : g.compile = .ok l) (declared : g.rules? state = some rules) :
  l.rules state = rules.flatMap (g.inPlace l state)
  := by
  obtain ⟨entries, listed⟩ := exists_compiledEntries compiled
  rcases lookup_of_compiledEntries listed state with
    ⟨undeclared, -⟩ | ⟨rules', own, declared', found, own_made⟩
  · cases declared.symm.trans undeclared
  · obtain rfl := Option.some.inj (declared.symm.trans declared')
    rw [eq_flatMap_of_spliced compiled listed (spliced_of_compile compiled listed found),
      flatMap_inPlace own_made]

/-- States of a grammar that compiles come to the same rules in whatever order they are resolved. -/
theorem exists_resolveAll (compiled : g.compile = .ok l) (order : List String)
    (declared : ∀ state ∈ order, g.declares state = true) :
  ∃ entries table, g.compiledEntries = .ok entries ∧ resolveAll entries order = .ok table
    ∧ ∀ state ∈ order, table.lookup state = some (l.rules state)
  := by
  obtain ⟨entries, listed⟩ := exists_compiledEntries compiled
  obtain ⟨includes_declared, acyclic⟩ := includes_of_compile compiled
  have named : ∀ state ∈ order, DeclaredIn entries state := by
    rw [declaredIn_eq listed]
    exact declared
  rcases resolveAll_cases named with ⟨table, resolved, sound, all⟩ | ⟨cause, -, defect⟩
  · refine ⟨entries, table, listed, resolved, fun state among => ?_⟩
    obtain ⟨rules, found⟩ := Option.isSome_iff_exists.mp (all state among)
    obtain ⟨own, own_found, spliced⟩ := sound state rules found
    rw [found, spliced.unique (spliced_of_compile compiled listed own_found)]
  · rw [defectIn_eq listed] at defect
    cases not_includeDefect includes_declared acyclic defect

/--
A grammar with a declared start state whose own rules compile does so itself exactly when every
include names one of its states and no includes lead from a state back to it.  The rules of a
state are then its own rules and, in the places of its includes, the rules of what is included, in
the order they are written; resolving the states in another order, or only some of them, gives them
the same rules.  A grammar that does not compile has the defect that is reported.
-/
theorem compile_splices_includes (g : Grammar) (start : g.declares g.startState = true)
    (own : g.OwnRulesCompile) :
  ((∃ l, g.compile = .ok l) ↔
      (∀ state target, g.Includes state target → g.declares target = true)
        ∧ ∀ state, ¬ Relation.TransGen g.Includes state state)
    ∧ (∀ l, g.compile = .ok l →
      (∀ state rules, g.rules? state = some rules →
        l.rules state = rules.flatMap (g.inPlace l state))
      ∧ ∀ order : List String, (∀ state ∈ order, g.declares state = true) →
        ∃ entries table, g.compiledEntries = .ok entries ∧ resolveAll entries order = .ok table
          ∧ ∀ state ∈ order, table.lookup state = some (l.rules state))
    ∧ ∀ e, g.compile = .error e → e.grammar = g.name ∧ g.Defect e.cause
  := by
  refine ⟨⟨fun ⟨l, compiled⟩ => includes_of_compile compiled, fun ⟨declared, acyclic⟩ => ?_⟩,
    fun l compiled => ⟨fun _ _ => rules_eq_flatMap compiled, exists_resolveAll compiled⟩,
    fun e failed => ?_⟩
  · rcases compile_cases start own with compiled | ⟨_, -, defect⟩
    · exact compiled
    · cases not_includeDefect declared acyclic defect
  · rcases compile_cases start own with ⟨l, compiled⟩ | ⟨cause, failed', defect⟩
    · cases failed.symm.trans compiled
    · obtain rfl := Except.error.inj (failed.symm.trans failed')
      exact ⟨rfl, defect⟩

/-- Two sides of the start state that both include one state. -/
def diamond (last : String) : Grammar where
  name := "diamond"
  states := [
    ("left", [.ofToken "l" "l", .include last]),
    ("right", [.include last, .ofToken "r" "r"]),
    ("root", [.include "@left", .include "right"]),
    ("tip", [.ofToken "t" "t"])]

/--
Both sides include the tip, which is no cycle; a side that includes the start state is in one.
-/
theorem compile_splices_includes_diamond :
  (diamond "tip").declares "root" = true ∧ (diamond "tip").OwnRulesCompile
    ∧ (∃ l, (diamond "tip").compile = .ok l ∧ l.rules "root" = l.rules "left" ++ l.rules "right"
      ∧ (l.rules "root").map (·.action) = [.emit "l", .emit "t", .emit "t", .emit "r"])
    ∧ (diamond "root").compile = .error ⟨"diamond", .includeCycle ["left", "root", "left"]⟩
    ∧ (diamond "root").Defect (.includeCycle ["left", "root", "left"])
  := by
  have own (last : String) (compiles : (diamond last).compiledEntries.toOption.isSome = true) :
      (diamond last).OwnRulesCompile :=
    exists_compiledEntries_iff.mp
      ((Option.isSome_iff_exists.mp compiles).imp fun _ => toOption_eq_some_iff.mp)
  have own_tip := own "tip" (by decide +kernel)
  have own_root := own "root" (by decide +kernel)
  obtain ⟨-, spliced, -⟩ := compile_splices_includes (diamond "tip") (by decide +kernel) own_tip
  obtain ⟨-, -, defects⟩ := compile_splices_includes (diamond "root") (by decide +kernel) own_root
  let l := (diamond "tip").compile.toOption.get (by decide +kernel)
  have compiled : (diamond "tip").compile = .ok l :=
    toOption_eq_some_iff.mp (Option.some_get _).symm
  have failed : (diamond "root").compile
      = .error ⟨"diamond", .includeCycle ["left", "root", "left"]⟩ :=
    map_eq_error_iff.mp (by decide +kernel : (diamond "root").compile.map (·.start) = _)
  refine ⟨by decide +kernel, own_tip, ⟨l, compiled, ?_, by decide +kernel⟩, failed,
    (defects _ failed).2⟩
  rw [(spliced l compiled).1 "root" _ rfl]
  simp [inPlace, stateName]

end Grammar

end EditorModes
