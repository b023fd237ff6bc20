import EditorModes.Proofs.Grammar.Embedding
import EditorModes.Proofs.Lexer.Closure

/-!
# Embedded languages without a tokenizer

A rule that enters a language without a tokenizer enters nothing, and a rule that leaves the
embedded language where there is none leaves nothing.  So as long as no language that the rules
enter has a tokenizer, each step of a lexer is that of the lexer without embedded languages
(`Lexer.step?_withoutEmbedding`), and whole documents are read alike.
-/

namespace EditorModes

namespace Lexer

variable {l : Lexer} {resolve other : String → Option Guest} {delta : Nat} {p : Progress}
  {state : LexerState} {rest : Text} {rule : CompiledRule} {count : Nat}

/-- No language that a rule enters has a tokenizer. -/
def EntersNothing (l : Lexer) (resolve : String → Option Guest) : Prop :=
  ∀ state, ∀ rule ∈ l.rules state, ∀ language, rule.embedding = some (.enter language) →
    resolve language = none

/-! ### A single step -/

theorem rules_withoutEmbedding (l : Lexer) (state : String) :
  l.withoutEmbedding.rules state = (l.rules state).map (·.withoutEmbedding)
  := by
  unfold rules withoutEmbedding
  rw [lookup_map (fun rules : List CompiledRule => rules.map (·.withoutEmbedding))]
  cases l.states.lookup state <;> rfl

/-- The same rule matches the same text. -/
theorem findRule?_withoutEmbedding (l : Lexer) (state : LexerState) (rest : Text) :
  l.withoutEmbedding.findRule? state rest
    = (l.findRule? state rest).map fun found => (found.1.withoutEmbedding, found.2)
  := by
  unfold findRule?
  rw [rules_withoutEmbedding, List.findSome?_map, List.map_findSome?]
  congr 1
  funext rule
  rw [Function.comp_apply, Function.comp_apply, Option.map_map]
  rfl

/-- Where there is no embedded language and none that is entered, none comes to be embedded. -/
theorem moveEmbedding_eq (alone : state.embedded = [])
    (gone : ∀ language, rule.embedding = some (.enter language) → resolve language = none) :
  moveEmbedding resolve rule state = state
  := by
  unfold moveEmbedding
  split
  · next language enters => rw [gone language enters]
  · rw [LexerState.leave, ← alone]
  · rfl

/-- Applying a rule makes the same of the place, and no language comes to be embedded. -/
theorem applyRule_withoutEmbedding (alone : p.state.embedded = [])
    (gone : ∀ language, rule.embedding = some (.enter language) → resolve language = none) :
  l.withoutEmbedding.applyRule other delta p rule.withoutEmbedding count
      = l.applyRule resolve delta p rule count
    ∧ (l.applyRule resolve delta p rule count).state.embedded = []
  := by
  let moved : LexerState :=
    p.state.modify (moveFrame rule (l.classify rule (p.rest.take count)).2)
  have moved_alone : moved.embedded = [] := alone
  have state_eq : (l.applyRule resolve delta p rule count).state = moved :=
    moveEmbedding_eq moved_alone gone
  have same : l.withoutEmbedding.applyRule other delta p rule.withoutEmbedding count
      = { l.applyRule resolve delta p rule count with state := moved } := rfl
  refine ⟨?_, state_eq ▸ moved_alone⟩
  rw [same, ← state_eq]

/-- A step is that of the lexer without embedded languages, and none comes to be embedded. -/
theorem step?_withoutEmbedding (inert : l.EntersNothing resolve) (alone : p.state.embedded = []) :
  ∃ q, l.step? resolve delta p = some q ∧ l.withoutEmbedding.step? other delta p = some q
    ∧ q.state.embedded = []
  := by
  have turn : ∀ language inner, ¬ GuestTurn p language inner := by
    rintro language inner ⟨embedded, -⟩
    rw [LexerState.guest?_eq_none_iff.mpr alone] at embedded
    cases embedded
  simp only [step?_eq_some_iff]
  have found' := l.findRule?_withoutEmbedding p.state p.rest
  by_cases fresh : p.stalled < stallLimit
  · cases found : l.findRule? p.state p.rest with
    | none =>
      rw [found] at found'
      exact ⟨_, .skip turn fun _ => found, .skip turn fun _ => found', alone⟩
    | some first =>
      obtain ⟨rule, count⟩ := first
      rw [found] at found'
      have gone := inert _ rule (mem_rules_of_findRule? found)
      obtain ⟨same, alone⟩ := applyRule_withoutEmbedding alone gone
      refine ⟨_, .apply turn fresh found, ?_, alone⟩
      rw [← same]
      exact .apply turn fresh found'
  · exact ⟨_, .skip turn fun soon => absurd soon fresh, .skip turn fun soon => absurd soon fresh,
      alone⟩

/-! ### Runs and lines -/

/-- A run comes to its end where that of the lexer without embedded languages does. -/
theorem run?_withoutEmbedding (inert : l.EntersNothing resolve) (alone : p.state.embedded = []) :
  ∃ q, l.run? resolve delta p = some q ∧ l.withoutEmbedding.run? other delta p = some q
    ∧ q.state.embedded = []
  := by
  induction bound : p.stepsLeft using Nat.strongRecOn generalizing p with
  | _ n ih =>
  by_cases done : p.rest = []
  · exact ⟨p, run?_of_rest_eq_nil done, run?_of_rest_eq_nil done, alone⟩
  · obtain ⟨next, stepped, stepped', alone⟩ := step?_withoutEmbedding inert alone
    have shorter := stepsLeft_step?_lt done stepped
    rw [run?_of_moves done (step?_eq_some_iff.mp stepped),
      run?_of_moves done (step?_eq_some_iff.mp stepped')]
    exact ih _ (bound ▸ shorter) alone rfl

theorem tokenize?_withoutEmbedding (inert : l.EntersNothing resolve)
    (alone : state.embedded = []) (line : Text) (delta : Nat) (stop : Option Nat) :
  ∃ result, l.tokenize? resolve line state delta stop = some result
    ∧ l.withoutEmbedding.tokenize? other line state delta stop = some result
    ∧ result.endState.embedded = []
  := by
  obtain ⟨q, ran, ran', alone⟩ := run?_withoutEmbedding inert
    (p := .ofText (visiblePart line delta stop) state) alone
  exact ⟨_, tokenize?_eq_some_iff.mpr ⟨q, ran, rfl⟩, tokenize?_eq_some_iff.mpr ⟨q, ran', rfl⟩,
    alone⟩

end Lexer

/-! ### Documents -/

/-- What a tokenizer makes of some lines, each from the state that the one before it ended in. -/
def Tokenizer.tokenizeLines? (registry : TokenizerRegistry) (t : Tokenizer) :
    LexerState → List LineInput → Option (List LineTokens)
  | _, [] => some []
  | state, line :: lines => do
    let result ← t.read? registry line state
    return result :: (← t.tokenizeLines? registry result.endState lines)

/-- No language that a rule is written to enter has a tokenizer, or none is asked for. -/
def Grammar.Unresolved (g : Grammar) (registry : TokenizerRegistry) (connected : Bool) : Prop :=
  connected = true → ∀ written ∈ g.ownRules, ∀ language, written.nextEmbedded = some language →
    language ≠ "@pop" → registry.best? language = none

variable {g : Grammar} {l : Lexer} {registry : TokenizerRegistry} {connected : Bool}

/-- The rules of a lexer enter no language when those of its grammar do not. -/
theorem Grammar.Unresolved.entersNothing (unresolved : g.Unresolved registry connected)
    (compiled : g.compile = .ok l)
    (answer : Tokenizer → Text → LexerState → Nat → Option LineTokens) :
  l.EntersNothing (registry.guestsBy answer connected)
  := by
  intro state rule among language enters
  obtain ⟨written, listed, reference, other⟩ := exists_enters compiled among enters
  unfold TokenizerRegistry.guestsBy
  split
  · next joined => rw [unresolved joined written listed language reference other, Option.map_none]
  · rfl

/-- Some lines are tokenized alike. -/
theorem Lexer.tokenizeLines?_withoutEmbedding
    (inert : ∀ depth, l.EntersNothing (registry.guestsWithin depth connected)) (joined : Bool)
    {state : LexerState} (alone : state.embedded = []) (lines : List LineInput) :
  ∃ results, (Tokenizer.lexer l connected).tokenizeLines? registry state lines = some results
    ∧ (Tokenizer.lexer l.withoutEmbedding joined).tokenizeLines? registry state lines
      = some results
  := by
  induction lines generalizing state with
  | nil => exact ⟨[], rfl, rfl⟩
  | cons line lines ih =>
    obtain ⟨result, read, read', alone⟩ := tokenize?_withoutEmbedding (inert _) alone line.text
      line.delta line.stop
    obtain ⟨results, later, later'⟩ := ih alone
    refine ⟨result :: results, ?_, ?_⟩
    · exact Option.bind_eq_some_iff.mpr
        ⟨result, read, Option.bind_eq_some_iff.mpr ⟨results, later, rfl⟩⟩
    · exact Option.bind_eq_some_iff.mpr
        ⟨result, read', Option.bind_eq_some_iff.mpr ⟨results, later', rfl⟩⟩

/--
A grammar compiles when it does so without embedded languages, unless a rule leaves one by a
pattern that is too large without the `^` in front.  Where no language that its rules enter has a
tokenizer, its lexer makes of any lines, read one after another from the first state on, what the
lexer without embedded languages makes of them.
-/
theorem Grammar.unresolved_withoutEmbedding (g : Grammar) :
  ((∃ l, g.compile = .ok l) ↔ (∃ l, g.withoutEmbedding.compile = .ok l)
      ∧ ∀ written ∈ g.ownRules, ¬ g.LeavesTooLarge written)
    ∧ ∀ l l', g.compile = .ok l → g.withoutEmbedding.compile = .ok l' →
      ∀ registry connected joined, g.Unresolved registry connected → ∀ lines,
        ∃ results,
          (Tokenizer.lexer l connected).tokenizeLines? registry (.initial l.start) lines
              = some results
            ∧ (Tokenizer.lexer l' joined).tokenizeLines? registry (.initial l'.start) lines
              = some results
  := by
  refine ⟨exists_compile_iff_withoutEmbedding, ?_⟩
  intro l l' compiled compiled' registry connected joined unresolved lines
  obtain rfl := Except.ok.inj ((compile_withoutEmbedding compiled).symm.trans compiled')
  exact Lexer.tokenizeLines?_withoutEmbedding (fun depth => unresolved.entersNothing compiled _)
    joined rfl lines

/-- A grammar of letters and digits, where digits are to be read by a tokenizer of their own. -/
def digits : Grammar where
  name := "letters"
  states := [
    ("inside", [.own {
      pattern := ">", token := "close", next := "@pop", nextEmbedded := "@pop" },
      .ofToken "[0-9]+" "digits"]),
    ("root", [.own {
      pattern := "<", token := "open", next := "@inside", nextEmbedded := "digits" }])]

/-- The lexer of letters and digits. -/
def digitsLexer : Lexer :=
  digits.compile.toOption.get (by decide +kernel)

/-- A registry with a tokenizer of words, and none of digits. -/
def wordReaders : TokenizerRegistry :=
  (TokenizerRegistry.add {} (.plain (.ofLanguage "words"))).2

/-- Two lines with digits between brackets, the second of which is cut. -/
def digitLines : List LineInput :=
  [⟨"a<12".toList, 0, none⟩, ⟨"3>4<".toList, 7, some 10⟩]

/-- Without a tokenizer of their own the digits between brackets are read by the rules there. -/
theorem Grammar.unresolved_withoutEmbedding_digits :
  digits.compile = .ok digitsLexer
    ∧ digits.withoutEmbedding.compile = .ok digitsLexer.withoutEmbedding
    ∧ digits.Unresolved wordReaders true
    ∧ ∃ results,
      (Tokenizer.lexer digitsLexer true).tokenizeLines? wordReaders (.initial "root") digitLines
          = some results
        ∧ (Tokenizer.lexer digitsLexer.withoutEmbedding false).tokenizeLines? wordReaders
          (.initial "root") digitLines = some results
        ∧ results.map (·.tokens) = [[⟨0, ""⟩, ⟨1, "open"⟩, ⟨2, "digits"⟩],
          [⟨7, "digits"⟩, ⟨8, "close"⟩, ⟨9, ""⟩]]
  := by
  have compiled : digits.compile = .ok digitsLexer :=
    toOption_eq_some_iff.mp (Option.some_get _).symm
  have compiled' := compile_withoutEmbedding compiled
  have unresolved : digits.Unresolved wordReaders true := by
    intro _ written among language reference other
    have only : ∀ written ∈ digits.ownRules,
        written.nextEmbedded ∈ [none, some "@pop", some "digits"] := by
      decide +kernel
    have named := only written among
    rw [reference] at named
    simp only [List.mem_cons, List.not_mem_nil, reduceCtorEq, Option.some.injEq, or_false,
      false_or, other] at named
    subst named
    have absent : (wordReaders.best? "digits").isNone = true := by decide +kernel
    exact Option.isNone_iff_eq_none.mp absent
  have start : digitsLexer.start = "root" := by decide +kernel
  have start' : digitsLexer.withoutEmbedding.start = "root" := start
  obtain ⟨results, read, read'⟩ := (unresolved_withoutEmbedding digits).2 digitsLexer _ compiled
    compiled' wordReaders true false unresolved digitLines
  rw [start] at read
  rw [start'] at read'
  refine ⟨compiled, compiled', unresolved, results, read, read', ?_⟩
  have tokens_eq : ((Tokenizer.lexer digitsLexer true).tokenizeLines? wordReaders
      (.initial "root") digitLines).map (·.map (·.tokens))
        = some [[⟨0, ""⟩, ⟨1, "open"⟩, ⟨2, "digits"⟩], [⟨7, "digits"⟩, ⟨8, "close"⟩, ⟨9, ""⟩]] := by
    decide +kernel
  rw [read] at tokens_eq
  exact Option.some.inj tokens_eq

/-- A long run of letters that ends an embedded region at the end of a line. -/
def longRun : Grammar where
  name := "long"
  states := [("root", [.own {
    pattern := "a\x7b327671\x7d[b-d]$", token := "letter", nextEmbedded := "@pop" }])]

/--
A pattern may be small enough behind a `^` and too large without it: the grammar does not compile,
though it does without embedded languages.
-/
theorem Grammar.not_compile_longRun :
  ¬ ((∃ l, longRun.compile = .ok l) ↔ ∃ l, longRun.withoutEmbedding.compile = .ok l)
  := by
  have refused : longRun.compile.toOption = none := by decide +kernel
  have accepted : longRun.withoutEmbedding.compile.toOption.isSome = true := by decide +kernel
  obtain ⟨l, made⟩ := Option.isSome_iff_exists.mp accepted
  intro same
  obtain ⟨l', compiled⟩ := same.mpr ⟨l, toOption_eq_some_iff.mp made⟩
  rw [compiled] at refused
  cases refused

end EditorModes
