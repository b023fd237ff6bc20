import EditorModes.Proofs.Grammar.Compile
import EditorModes.Proofs.Lexer.Agreement
import EditorModes.Proofs.Lexer.Nesting

/-!
# States that lines end in

Where all lexers are compiled grammars, a line that starts in a state of the lexers ends in one:
all names on the stacks are states of the lexer they belong to, and each embedded language has a
tokenizer (`TokenizerRegistry.Admits`).  What the lexers of the grammars emit themselves is of types
that are empty or carry the postfix of the grammar (`Call.Emits`).
-/

namespace EditorModes

open Relation

variable {registry : TokenizerRegistry}

/-! ### Induction over calls -/

/-- What the moves from places that are reached keep holds at the end of a run. -/
theorem Lexer.holds_of_run? {l : Lexer} {resolve : String → Option Guest} {delta : Nat}
    {start q : Progress} {Holds : Progress → Prop} (first : Holds start)
    (step : ∀ p q, l.Reaches resolve delta start p → p.rest ≠ [] → l.Moves resolve delta p q →
      Holds p → Holds q)
    (ran : l.run? resolve delta start = some q) :
  Holds q
  := by
  have keeps : ∀ p q, p.rest ≠ [] → l.Reaches resolve delta start p ∧ Holds p →
      l.Moves resolve delta p q → l.Reaches resolve delta start q ∧ Holds q := by
    rintro p q ahead ⟨reached, holds⟩ moved
    exact ⟨reached.tail ⟨ahead, moved⟩, step p q reached ahead moved holds⟩
  apply (run?_keeps keeps ⟨.refl, first⟩ ran).1.2

/--
What holds of the answers of plain tokenizers, and of that of a lexer when it holds of the calls
nested in it, holds of all answers.
-/
theorem Call.answer_induction (rules : registry.followsRules)
    (Holds : Call → LineTokens → Prop)
    (plain : ∀ p text state delta,
      Holds ⟨.plain p, text, state, delta⟩ (p.tokenize text state delta none))
    (lexer : ∀ l connected text state delta q,
      l.run? (registry.guests connected) delta (.ofText text state) = some q →
      (∀ inner result, Nests registry ⟨.lexer l connected, text, state, delta⟩ inner →
        inner.answer? registry = some result → Holds inner result) →
      Holds ⟨.lexer l connected, text, state, delta⟩
        (q.line.finish delta (q.state.activeLanguage l.language) (delta + q.position) q.state))
    {c : Call} (rule : c.tokenizer.followsRules) {result : LineTokens}
    (answer : c.answer? registry = some result) :
  Holds c result
  := by
  rw [answer?, Tokenizer.tokenize?] at answer
  generalize Tokenizer.depthBound registry c.text c.state = depth at answer
  induction depth generalizing c result with
  | zero =>
    obtain ⟨t, text, state, delta⟩ := c
    cases t with
    | lexer l connected => simp [Tokenizer.tokenizeWithin] at answer
    | plain p =>
      obtain rfl := Option.some.inj answer
      apply plain p text state delta
    | function => simp [Tokenizer.followsRules] at rule
  | succ depth ih =>
    obtain ⟨t, text, state, delta⟩ := c
    cases t with
    | lexer l connected =>
      rw [Tokenizer.tokenizeWithin_lexer] at answer
      have agree := Tokenizer.answersAs_tokenize? rules depth
      obtain ⟨q, ran, rfl⟩ :=
        Lexer.tokenize?_eq_some_iff.mp (Lexer.tokenize?_guestsBy agree answer)
      apply lexer l connected text state delta q ran
      intro inner result nests answered
      obtain ⟨language, best⟩ := nests.exists_best?
      have rule := registry.followsRules_of_best? rules best
      obtain ⟨found, within⟩ := nests.exists_answer agree answer
      have same := Tokenizer.tokenize?_of_tokenizeWithin rules rule within
      obtain rfl := Option.some.inj (same.symm.trans answered)
      apply ih rule within
    | plain p =>
      obtain rfl := Option.some.inj answer
      apply plain p text state delta
    | function => simp [Tokenizer.followsRules] at rule

/-! ### Tokenizers of grammars -/

/-- A tokenizer is the lexer of a grammar, or a plain one. -/
def Tokenizer.IsCompiled : Tokenizer → Prop
  | .lexer l _ => ∃ g : Grammar, g.compile = .ok l
  | .plain _ => True
  | .function .. => False

/-- All tokenizers are lexers of grammars, or plain ones. -/
def TokenizerRegistry.IsCompiled (registry : TokenizerRegistry) : Prop :=
  ∀ e ∈ registry.entries, e.provider.IsCompiled

theorem Tokenizer.IsCompiled.followsRules {t : Tokenizer} (compiled : t.IsCompiled) :
  t.followsRules
  := by
  cases t with
  | lexer | plain => rfl
  | function => apply compiled.elim

namespace TokenizerRegistry

theorem IsCompiled.of_best? (compiled : registry.IsCompiled) {language : String} {t : Tokenizer}
    (best : registry.best? language = some t) :
  t.IsCompiled
  := by
  obtain ⟨e, registered, rfl⟩ := List.mem_map.mp (Registry.mem_of_best?_eq_some best)
  apply compiled e registered

theorem IsCompiled.followsRules (compiled : registry.IsCompiled) :
  registry.followsRules
  := List.all_eq_true.mpr fun e registered => (compiled e registered).followsRules

/-- The lexers of grammars that compile are such. -/
theorem isCompiled_of_ofGrammars? {grammars : List Grammar}
    (made : ofGrammars? grammars = some registry) :
  registry.IsCompiled
  := by
  have compiled : IsCompiled ({} : TokenizerRegistry) := nofun
  unfold ofGrammars? at made
  generalize ({} : TokenizerRegistry) = start at made compiled
  induction grammars generalizing start with
  | nil =>
    obtain rfl := Option.some.inj made
    exact compiled
  | cons g grammars ih =>
    rw [List.foldlM_cons] at made
    obtain ⟨next, added, made⟩ := Option.bind_eq_some_iff.mp made
    obtain ⟨l, found, rfl⟩ := Option.map_eq_some_iff.mp added
    apply ih _ made
    intro e among
    rcases List.mem_append.mp among with before | new
    · apply compiled e before
    · rw [List.mem_singleton.mp new]
      exact ⟨g, toOption_eq_some_iff.mp found⟩

end TokenizerRegistry

/-! ### States of lexers -/

/-- The stack is not empty, and all names on it are states of the lexer. -/
def Frame.IsOf (f : Frame) (l : Lexer) : Prop :=
  f.stack ≠ [] ∧ ∀ name ∈ f.stack, name ∈ l.stateNames

theorem Frame.isOf_iff {f : Frame} {l : Lexer} :
  f.IsOf l ↔ f.current ∈ l.stateNames ∧ ∀ name ∈ f.below, name ∈ l.stateNames
  := by
  simp [IsOf, Frame.stack, or_imp, forall_and, and_comm]

namespace Frame.IsOf

variable {f : Frame} {l : Lexer}

theorem countBracket (own : f.IsOf l) (bracket : Option BracketKind) :
  (Lexer.countBracket bracket f).IsOf l
  := by
  rcases bracket with _ | _ | _ <;> exact own

theorem switchTo (own : f.IsOf l) {name : String} (among : name ∈ l.stateNames) :
  (f.switchTo name).IsOf l
  := isOf_iff.mpr ⟨among, (isOf_iff.mp own).2⟩

/-- A transition to a state of the lexer, or back to one on the stack, leaves states of it. -/
theorem apply (own : f.IsOf l) {t : Transition}
    (among : ∀ target, t = .push target → target ∈ l.stateNames) :
  (Lexer.Transition.apply t f).IsOf l
  := by
  obtain ⟨current, below⟩ := isOf_iff.mp own
  rw [isOf_iff]
  cases t with
  | push target => exact ⟨among target rfl, List.forall_mem_cons.mpr ⟨current, below⟩⟩
  | pushCurrent => exact ⟨current, List.forall_mem_cons.mpr ⟨current, below⟩⟩
  | pop =>
    rw [Lexer.Transition.apply, Frame.pop]
    split
    · exact ⟨current, below⟩
    · next parent others listed =>
      rw [listed] at below
      apply List.forall_mem_cons.mp below
  | popAll =>
    refine ⟨?_, nofun⟩
    rw [Lexer.Transition.apply, Frame.popAll]
    cases bottom : f.below.getLast? with
    | none => exact current
    | some name => apply below name (List.mem_of_getLast? bottom)

end Frame.IsOf

namespace Lexer

/-- A rule of a lexer leaves states of it on the stack. -/
theorem Closed.moveFrame {l : Lexer} (closed : l.Closed) {state : String} {rule : CompiledRule}
    (among : rule ∈ l.rules state) (bracket : Option BracketKind) {f : Frame} (own : f.IsOf l) :
  (moveFrame rule bracket f).IsOf l
  := by
  have counted := own.countBracket bracket
  unfold Lexer.moveFrame
  cases switches : rule.switchTo with
  | none =>
    cases moves : rule.next with
    | none => exact counted
    | some t =>
      apply counted.apply fun target same => closed.next state rule among target (same ▸ moves)
  | some name =>
    have switched := counted.switchTo (closed.switchTo state rule among name switches)
    cases moves : rule.next with
    | none => exact switched
    | some t =>
      apply switched.apply fun target same => closed.next state rule among target (same ▸ moves)

/-- What a rule does to the embedded language leaves the frame of the lexer alone. -/
theorem frame_moveEmbedding (resolve : String → Option Guest) (rule : CompiledRule)
    (s : LexerState) :
  (moveEmbedding resolve rule s).frame = s.frame
  := by
  unfold moveEmbedding
  split
  · split <;> rfl
  · rfl
  · rfl

end Lexer

namespace TokenizerRegistry

/--
A tokenizer may be in a state with some frames: a plain one only in its first state, a lexer with
states of its own on the stack, and with an embedded language that has a tokenizer, which may be
in a state with the frames that are left.
-/
def AdmitsFrames (registry : TokenizerRegistry) :
    Tokenizer → Frame → List (String × Frame) → Prop
  | .plain _, frame, embedded => (⟨frame, embedded⟩ : LexerState) = PlainLexer.initial
  | .lexer l _, frame, [] => frame.IsOf l
  | .lexer l connected, frame, (language, inner) :: embedded =>
    frame.IsOf l ∧ connected = true ∧ ∃ guest, registry.best? language = some guest
      ∧ registry.AdmitsFrames guest inner embedded
  | .function .., _, _ => False

/-- A tokenizer may be in a state. -/
def Admits (registry : TokenizerRegistry) (t : Tokenizer) (s : LexerState) : Prop :=
  registry.AdmitsFrames t s.frame s.embedded

variable {l : Lexer} {connected : Bool} {s : LexerState}

theorem admits_plain_iff {p : PlainLexer} :
  registry.Admits (.plain p) s ↔ s = PlainLexer.initial
  := by
  rw [Admits, AdmitsFrames]

/-- A lexer may be in a state of its own, with an embedded language whose tokenizer may be so. -/
theorem admits_lexer_iff :
  registry.Admits (.lexer l connected) s
    ↔ s.frame.IsOf l ∧ ∀ language inner, s.guest? = some (language, inner) →
      connected = true ∧ ∃ guest, registry.best? language = some guest
        ∧ registry.Admits guest inner
  := by
  obtain ⟨frame, embedded⟩ := s
  cases embedded with
  | nil => simp [Admits, AdmitsFrames, LexerState.guest?]
  | cons first embedded =>
    obtain ⟨language, inner⟩ := first
    simp only [Admits, AdmitsFrames, LexerState.guest?, Option.some.injEq, Prod.mk.injEq]
    constructor
    · rintro ⟨own, joined, guest, best, inside⟩
      refine ⟨own, ?_⟩
      rintro _ _ ⟨rfl, rfl⟩
      exact ⟨joined, guest, best, inside⟩
    · rintro ⟨own, inside⟩
      exact ⟨own, inside language ⟨inner, embedded⟩ ⟨rfl, rfl⟩⟩

/-- Lexers of grammars and plain tokenizers may be in their first states. -/
theorem admits_initial {t : Tokenizer} (compiled : t.IsCompiled) :
  registry.Admits t t.initial
  := by
  cases t with
  | lexer l connected =>
    obtain ⟨g, made⟩ := compiled
    rw [admits_lexer_iff, Frame.isOf_iff]
    refine ⟨⟨(Grammar.closed_of_compile made).start, ?_⟩, ?_⟩ <;>
      simp [Tokenizer.initial, LexerState.initial, LexerState.guest?]
  | plain p => apply admits_plain_iff.mpr rfl
  | function => apply compiled.elim

/-- A state that the lexer may be in stays so when another language is embedded in it. -/
theorem admits_enter (own : s.frame.IsOf l) (joined : connected = true) {language : String}
    {guest : Tokenizer} (best : registry.best? language = some guest) {inner : LexerState}
    (inside : registry.Admits guest inner) :
  registry.Admits (.lexer l connected) (s.enter language inner)
  := by
  refine admits_lexer_iff.mpr ⟨own, ?_⟩
  rintro _ _ ⟨⟩
  exact ⟨joined, guest, best, inside⟩

end TokenizerRegistry

open TokenizerRegistry

/-- Each move leads to a state that the lexer may be in, when embedded tokenizers keep to theirs. -/
theorem Lexer.Moves.admits {l : Lexer} {connected : Bool} {delta : Nat} {p q : Progress}
    (compiled : registry.IsCompiled) (closed : l.Closed)
    (answers : ∀ language inner guest result, GuestTurn p language inner →
      registry.best? language = some guest → connected = true → l.region p ≠ [] →
      guest.tokenize? registry (l.region p) inner (delta + p.position) none = some result →
      registry.Admits guest inner → registry.Admits guest result.endState)
    (admits : registry.Admits (.lexer l connected) p.state)
    (moved : l.Moves (registry.guests connected) delta p q) :
  registry.Admits (.lexer l connected) q.state
  := by
  obtain ⟨own, inside⟩ := admits_lexer_iff.mp admits
  cases moved with
  | leave turn gone => exact admits_lexer_iff.mpr ⟨own, nofun⟩
  | pass turn found empty => exact admits
  | handOn turn found nonempty answer =>
    obtain ⟨joined, guest, best, rfl⟩ := guestsBy_eq_some_iff.mp found
    obtain ⟨-, other, same, within⟩ := inside _ _ turn.1
    obtain rfl := Option.some.inj (best.symm.trans same)
    apply admits_enter own joined best
      (answers _ _ guest _ turn best joined nonempty answer within)
  | @apply rule count turn fresh found =>
    have moves := closed.moveFrame (Lexer.mem_rules_of_findRule? found)
      (l.classify rule (p.rest.take count)).2 own
    refine admits_lexer_iff.mpr ⟨?_, ?_⟩
    · rw [Lexer.applyRule, Lexer.frame_moveEmbedding]
      exact moves
    · intro language inner embedded
      rcases Lexer.guest?_moveEmbedding embedded with before | ⟨-, guest, resolved, rfl⟩
      · apply inside language inner before
      · obtain ⟨joined, t, best, rfl⟩ := guestsBy_eq_some_iff.mp resolved
        exact ⟨joined, t, best, admits_initial (compiled.of_best? best)⟩
  | skip turn reason => exact admits

/-- An answer to a call in a state that the tokenizer may be in ends in such a state. -/
theorem Call.admits_endState (compiled : registry.IsCompiled) {c : Call}
    (own : c.tokenizer.IsCompiled) (admits : registry.Admits c.tokenizer c.state)
    {result : LineTokens} (answer : c.answer? registry = some result) :
  registry.Admits c.tokenizer result.endState
  := by
  have rule := own.followsRules
  revert own admits
  refine Call.answer_induction compiled.followsRules
    (fun c result => c.tokenizer.IsCompiled → registry.Admits c.tokenizer c.state →
      registry.Admits c.tokenizer result.endState) ?_ ?_ rule answer
  · intro p text state delta _ admits
    exact admits
  · rintro l connected text state delta q ran inner ⟨g, made⟩ admits
    have closed := Grammar.closed_of_compile made
    apply Lexer.holds_of_run? admits _ ran
    intro p q reached ahead moved here
    apply moved.admits compiled closed _ here
    rintro language state guest result turn best rfl nonempty answered within
    apply inner ⟨guest, _, state, _⟩ result (.handOn reached turn best nonempty) answered
      (compiled.of_best? best) within

/-! ### Types of tokens -/

/-- The token that a step of the lexer itself emits. -/
def Lexer.emitted? (l : Lexer) (delta : Nat) (p : Lexer.Progress) : Option Token :=
  match if p.stalled < stallLimit then l.findRule? p.state p.rest else none with
  | some (rule, count) =>
    if p.rest.take count = [] then none
    else (l.classify rule (p.rest.take count)).1.map fun type => ⟨delta + p.position, type⟩
  | none => some ⟨delta + p.position, l.defaultToken⟩

/-- The tokens that the tokenizer of a call emits itself. -/
inductive Call.Emits (registry : TokenizerRegistry) : Call → Token → Prop where
  | lexer {l : Lexer} {connected : Bool} {text : Text} {state : LexerState} {delta : Nat}
      {p : Lexer.Progress} {token : Token}
      (reached : l.Reaches (registry.guests connected) delta (.ofText text state) p)
      (ahead : p.rest ≠ []) (own : ∀ language inner, ¬ Lexer.GuestTurn p language inner)
      (emitted : l.emitted? delta p = some token) :
      Emits registry ⟨.lexer l connected, text, state, delta⟩ token
  | plain {p : PlainLexer} {text : Text} {state : LexerState} {delta : Nat} {token : Token}
      (among : token ∈ p.tokensFrom text.length delta text) :
      Emits registry ⟨.plain p, text, state, delta⟩ token

/-- The type of a bracket is one of the brackets of the lexer. -/
theorem Lexer.exists_of_bracketFor? {l : Lexer} {text type : String} {kind : BracketKind}
    (found : l.bracketFor? text = some (type, kind)) :
  ∃ b ∈ l.brackets, b.token = type
  := by
  obtain ⟨b, among, matched⟩ := List.exists_of_findSome?_eq_some found
  refine ⟨b, among, ?_⟩
  split at matched
  · apply (Prod.mk.inj (Option.some.inj matched)).1
  · split at matched
    · apply (Prod.mk.inj (Option.some.inj matched)).1
    · cases matched

/-- What a rule of the lexer of a grammar makes of a text is empty or carries the postfix. -/
theorem Grammar.decorates_of_classify {g : Grammar} {l : Lexer} (compiled : g.compile = .ok l)
    {state : String} {rule : CompiledRule} (among : rule ∈ l.rules state) {text : Text}
    {type : String} (typed : (l.classify rule text).1 = some type) :
  g.Decorates type
  := by
  obtain ⟨-, -, default_eq, brackets_eq⟩ := compileStates_of_compile compiled
  cases action : rule.action with
  | emit other =>
    obtain rfl : other = type := by simpa [Lexer.classify, action] using typed
    obtain ⟨_, written, rule_made⟩ := exists_compileRule compiled among
    have token_eq := (compileRule_parts rule_made).1
    rw [action] at token_eq
    apply decorates_of_compileToken token_eq
  | rematch => simp [Lexer.classify, action] at typed
  | brackets =>
    cases found : l.bracketFor? (String.ofList text) with
    | none =>
      obtain rfl : l.defaultToken = type := by simpa [Lexer.classify, action, found] using typed
      rw [default_eq]
      apply g.decorates_decorate
    | some bracket =>
      obtain rfl : bracket.1 = type := by simpa [Lexer.classify, action, found] using typed
      obtain ⟨b, listed, token_eq⟩ := Lexer.exists_of_bracketFor? found
      rw [brackets_eq] at listed
      obtain ⟨written, -, rfl⟩ := List.mem_map.mp listed
      rw [← token_eq]
      apply g.decorates_decorate

/-- A lexer of a grammar emits tokens of types that are empty or carry the postfix. -/
theorem Grammar.decorates_of_emitted? {g : Grammar} {l : Lexer} (compiled : g.compile = .ok l)
    {delta : Nat} {p : Lexer.Progress} {token : Token} (emitted : l.emitted? delta p = some token) :
  g.Decorates token.type
  := by
  obtain ⟨-, -, default_eq, -⟩ := compileStates_of_compile compiled
  unfold Lexer.emitted? at emitted
  split at emitted
  · next rule count found =>
    obtain ⟨-, emitted⟩ := Option.ite_none_left_eq_some.mp emitted
    obtain ⟨type, typed, rfl⟩ := Option.map_eq_some_iff.mp emitted
    have found := (Option.ite_none_right_eq_some.mp found).2
    apply decorates_of_classify compiled (Lexer.mem_rules_of_findRule? found) typed
  · obtain rfl := Option.some.inj emitted
    rw [default_eq]
    apply g.decorates_decorate

namespace Lexer

variable {l : Lexer} {resolve : String → Option Guest} {delta : Nat} {p q : Progress}

/-- A token that is added is emitted by the step, or was collected before. -/
theorem Moves.tokens_of_not_guestTurn (own : ∀ language inner, ¬ GuestTurn p language inner)
    (moved : l.Moves resolve delta p q) {token : Token} (among : token ∈ q.line.tokens) :
  token ∈ p.line.tokens ∨ l.emitted? delta p = some token
  := by
  have added {type : String} {bracket : Bool}
      (among : token ∈ ((p.line.switch (delta + p.position) l.language).token
        (delta + p.position) type bracket).tokens) :
      token ∈ p.line.tokens ∨ token = ⟨delta + p.position, type⟩ := by
    have cases := (p.line.switch (delta + p.position) l.language).tokens_token
      (delta + p.position) type bracket
    rw [LineBuilder.tokens_switch] at cases
    rcases cases with ⟨_, _, -, -, merged⟩ | added
    · exact .inl (merged ▸ among)
    · rw [added] at among
      apply (List.mem_cons.mp among).symm
  cases moved with
  | leave turn | pass turn | handOn turn => exact absurd turn (own _ _)
  | @apply rule count _ fresh found =>
    unfold emitted?
    rw [if_pos fresh, found]
    dsimp only
    rw [applyRule] at among
    dsimp only at among
    split at among
    · next type typed =>
      split at among
      · exact .inl among
      · next nonempty =>
        rw [if_neg nonempty, typed]
        apply (added among).imp_right fun same => congrArg some same.symm
    · exact .inl among
  | skip _ reason =>
    have unmatched : (if p.stalled < stallLimit then l.findRule? p.state p.rest else none)
        = none := by
      split_ifs with fresh
      · apply reason fresh
      · rfl
    unfold emitted?
    rw [unmatched]
    apply (added among).imp_right fun same => congrArg some same.symm

end Lexer

/-- Each token of an answer is emitted in the call or in one nested in it, to some depth. -/
theorem Call.exists_emits (rules : registry.followsRules) {c : Call}
    (rule : c.tokenizer.followsRules) {result : LineTokens}
    (answer : c.answer? registry = some result) {token : Token} (among : token ∈ result.tokens) :
  ∃ d, ReflTransGen (Nests registry) c d ∧ d.Emits registry token
  := by
  revert token
  refine Call.answer_induction rules (fun c result => ∀ {token}, token ∈ result.tokens →
    ∃ d, ReflTransGen (Nests registry) c d ∧ d.Emits registry token) ?_ ?_ rule answer
  · intro p text state delta token among
    exact ⟨_, .refl, .plain among⟩
  · intro l connected text state delta q ran inner token among
    let call : Call := ⟨.lexer l connected, text, state, delta⟩
    have kept : ∀ token ∈ q.line.tokens, ∃ d, ReflTransGen (Nests registry) call d
        ∧ d.Emits registry token := by
      apply Lexer.holds_of_run? _ _ ran
      · simp [Lexer.Progress.ofText]
      · intro p q reached ahead moved collected token among
        by_cases own : ∀ language inner, ¬ Lexer.GuestTurn p language inner
        · rcases moved.tokens_of_not_guestTurn own among with before | now
          · apply collected token before
          · exact ⟨call, .refl, .lexer reached ahead own now⟩
        · cases moved with
          | leave | pass => apply collected token among
          | handOn turn found nonempty answered =>
            rw [Lexer.afterGuest, LineBuilder.tokens_splice] at among
            rcases List.mem_append.mp among with inside | before
            · obtain ⟨rfl, guest, best, rfl⟩ := guestsBy_eq_some_iff.mp found
              have nests := Nests.handOn reached turn best nonempty
              obtain ⟨d, nested, emits⟩ :=
                inner _ _ nests answered (List.mem_reverse.mp inside)
              exact ⟨d, .head nests nested, emits⟩
            · apply collected token before
          | apply turn | skip turn => exact absurd turn own
    apply kept token (List.mem_reverse.mp among)

/-- What the lexer of a grammar emits is of a type that is empty or carries the postfix. -/
theorem Call.Emits.decorates {c : Call} {token : Token} (emits : c.Emits registry token)
    {l : Lexer} {connected : Bool} (same : c.tokenizer = .lexer l connected) {g : Grammar}
    (compiled : g.compile = .ok l) :
  g.Decorates token.type
  := by
  cases emits with
  | lexer _ _ _ emitted =>
    obtain ⟨rfl, -⟩ := Tokenizer.lexer.inj same
    apply Grammar.decorates_of_emitted? compiled emitted
  | plain => cases same

/-- The calls nested in one are calls of lexers of grammars or of plain tokenizers. -/
theorem TokenizerRegistry.IsCompiled.of_nested (compiled : registry.IsCompiled) {c d : Call}
    (own : c.tokenizer.IsCompiled) (nested : ReflTransGen (Nests registry) c d) :
  d.tokenizer.IsCompiled
  := by
  induction nested with
  | refl => exact own
  | tail _ nests _ =>
    obtain ⟨_, best⟩ := nests.exists_best?
    apply compiled.of_best? best

/-! ### Lines one after another -/

/-- A line to be read: where it starts, and where reading stops. -/
structure LineInput where
  text : Text
  delta : Nat := 0
  stop : Option Nat := none

/-- The call that reads a line from a state on. -/
def LineInput.call (line : LineInput) (t : Tokenizer) (state : LexerState) : Call :=
  ⟨t, visiblePart line.text line.delta line.stop, state, line.delta⟩

namespace Tokenizer

/-- What a tokenizer makes of a line from a state on. -/
def read? (registry : TokenizerRegistry) (t : Tokenizer) (line : LineInput) (state : LexerState) :
    Option LineTokens :=
  t.tokenize? registry line.text state line.delta line.stop

/-- The state that the last of some lines ends in, when the first starts in the first state. -/
def readLines? (registry : TokenizerRegistry) (t : Tokenizer) (lines : List LineInput) :
    Option LexerState :=
  lines.foldlM (fun state line => (t.read? registry line state).map (·.endState)) t.initial

theorem read?_lexer (rules : registry.followsRules) (l : Lexer) (connected : Bool)
    (line : LineInput) (state : LexerState) :
  (lexer l connected).read? registry line state
    = (line.call (lexer l connected) state).answer? registry
  := by
  rw [read?, LineInput.call, Call.answer?, tokenize?_lexer rules, tokenize?_lexer rules]
  rfl

/-- After some lines a tokenizer is in a state that it may be in. -/
theorem admits_of_readLines? (own : registry.IsCompiled) {g : Grammar} {l : Lexer}
    (compiled : g.compile = .ok l) (connected : Bool) {lines : List LineInput} {state : LexerState}
    (read : (lexer l connected).readLines? registry lines = some state) :
  registry.Admits (lexer l connected) state
  := by
  have made : (lexer l connected).IsCompiled := ⟨g, compiled⟩
  induction lines using List.reverseRecOn generalizing state with
  | nil =>
    obtain rfl := Option.some.inj read
    apply admits_initial made
  | append_singleton lines line ih =>
    rw [readLines?, List.foldlM_append] at read
    obtain ⟨before, readBefore, last⟩ := Option.bind_eq_some_iff.mp read
    rw [List.foldlM_cons] at last
    obtain ⟨_, last, same⟩ := Option.bind_eq_some_iff.mp last
    obtain ⟨result, answer, rfl⟩ := Option.map_eq_some_iff.mp last
    obtain rfl := Option.some.inj same
    rw [read?_lexer own.followsRules] at answer
    apply Call.admits_endState own made (ih readBefore) answer

/--
After some lines a lexer of a grammar is in a state that it may be in.  The tokens of a next line
are those that the calls nested in it emit, and the types of what lexers of grammars emit are empty
or carry the postfixes of these grammars.
-/
theorem readLines?_closed {g : Grammar} {l : Lexer} (compiled : g.compile = .ok l)
    (own : registry.IsCompiled) (connected : Bool) {lines : List LineInput} {state : LexerState}
    (read : (lexer l connected).readLines? registry lines = some state) :
  registry.Admits (lexer l connected) state
    ∧ ∀ line result, (lexer l connected).read? registry line state = some result →
      (∀ token ∈ result.tokens,
        ∃ c, ReflTransGen (Nests registry) (line.call (lexer l connected) state) c
          ∧ c.Emits registry token)
      ∧ ∀ c token, ReflTransGen (Nests registry) (line.call (lexer l connected) state) c →
        c.Emits registry token → c.tokenizer.IsCompiled
          ∧ ∀ inner joined, c.tokenizer = lexer inner joined →
            ∀ g' : Grammar, g'.compile = .ok inner → g'.Decorates token.type
  := by
  have made : (lexer l connected).IsCompiled := ⟨g, compiled⟩
  refine ⟨admits_of_readLines? own compiled connected read,
    fun line result answer => ⟨fun token among => ?_, fun c token nested emits => ⟨?_, ?_⟩⟩⟩
  · rw [read?_lexer own.followsRules] at answer
    apply Call.exists_emits own.followsRules rfl answer among
  · apply own.of_nested made nested
  · rintro inner joined same g' compiled'
    apply emits.decorates same compiled'

end Tokenizer

/-- Styles whose tokens carry a postfix. -/
def panels : Grammar :=
  { styles with name := "panel", tokenPostfix := some ".panel" }

/-- The lexer of panels. -/
def panelLexer : Lexer :=
  panels.compile.toOption.get (by decide +kernel)

/-- The lexers of panels and of the scripts in them. -/
def panelRegistry : TokenizerRegistry :=
  (TokenizerRegistry.ofGrammars? [scripts, panels]).get (by decide +kernel)

/-- The state within a script in a panel. -/
def panelScript : LexerState :=
  ⟨⟨"script", ["root"], 0⟩, [("script", ⟨"root", [], 0⟩)]⟩

/-- A line of a panel on which a script ends, of which the last two bytes are not read. -/
def panelLine : LineInput :=
  ⟨"é`b: c".toList, 4, some 9⟩

/-- A script that begins on one line of a panel ends on the next, whose tokens carry the postfix. -/
theorem Tokenizer.readLines?_closed_panels :
  panels.compile = .ok panelLexer
    ∧ panelRegistry.IsCompiled
    ∧ (lexer panelLexer true).readLines? panelRegistry [⟨"a`1".toList, 0, none⟩]
      = some panelScript
    ∧ panelRegistry.Admits (lexer panelLexer true) panelScript
    ∧ ((lexer panelLexer true).read? panelRegistry panelLine panelScript).map (·.tokens)
      = some [⟨4, "source"⟩, ⟨6, "delimiter.panel"⟩, ⟨7, "property.panel"⟩,
          ⟨8, "delimiter.panel"⟩]
    ∧ ∀ token, (panelLine.call (lexer panelLexer true) panelScript).Emits panelRegistry token →
      panels.Decorates token.type
  := by
  have compiled : panels.compile = .ok panelLexer :=
    toOption_eq_some_iff.mp (Option.some_get _).symm
  have own : panelRegistry.IsCompiled :=
    TokenizerRegistry.isCompiled_of_ofGrammars? (Option.some_get _).symm
  have read : (lexer panelLexer true).readLines? panelRegistry [⟨"a`1".toList, 0, none⟩]
      = some panelScript := by
    decide +kernel
  have answered : ((lexer panelLexer true).read? panelRegistry panelLine panelScript).map (·.tokens)
      = some [⟨4, "source"⟩, ⟨6, "delimiter.panel"⟩, ⟨7, "property.panel"⟩,
          ⟨8, "delimiter.panel"⟩] := by
    decide +kernel
  obtain ⟨admits, next⟩ := Tokenizer.readLines?_closed compiled own true read
  obtain ⟨result, answer, -⟩ := Option.map_eq_some_iff.mp answered
  obtain ⟨-, types⟩ := next panelLine result answer
  refine ⟨compiled, own, read, admits, answered, fun token emits => ?_⟩
  apply (types _ token .refl emits).2 panelLexer true rfl panels compiled

end EditorModes
