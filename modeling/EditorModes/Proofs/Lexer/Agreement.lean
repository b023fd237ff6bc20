import EditorModes.Proofs.Document.Incremental
import EditorModes.Proofs.Lexer.Depth
import Mathlib.Logic.Relation

/-!
# Registries that agree

How a text is tokenized depends on the tokenizers of the languages that can come to be embedded in
it, and on no others.  A registry may embed one language in another (`TokenizerRegistry.Embeds`);
two registries that have the same tokenizers for all languages that are reached in this way from
the language of a document give the same lines for it (`AgreesFrom.ofText?_eq`).
-/

namespace EditorModes

/-! ### States with some languages embedded -/

/-- All embedded languages are allowed. -/
def LexerState.EmbedsWithin (s : LexerState) (allowed : String → Prop) : Prop :=
  ∀ frame ∈ s.embedded, allowed frame.1

namespace LexerState

variable {s inner : LexerState} {allowed : String → Prop} {language : String}

/-- The embedded language is allowed, and so are those embedded in it. -/
theorem embedsWithin_iff :
  s.EmbedsWithin allowed
    ↔ ∀ language inner, s.guest? = some (language, inner) →
      allowed language ∧ inner.EmbedsWithin allowed
  := by
  obtain ⟨frame, embedded⟩ := s
  cases embedded with
  | nil => simp [EmbedsWithin, guest?]
  | cons first others =>
    constructor
    · rintro within language inner ⟨⟩
      exact List.forall_mem_cons.mp within
    · intro within
      exact List.forall_mem_cons.mpr (within first.1 ⟨first.2, others⟩ rfl)

theorem EmbedsWithin.enter (s : LexerState) (among : allowed language)
    (within : inner.EmbedsWithin allowed) :
  (s.enter language inner).EmbedsWithin allowed
  := List.forall_mem_cons.mpr ⟨among, within⟩

theorem embedsWithin_of_nil (none : s.embedded = []) :
  s.EmbedsWithin allowed
  := by
  simp [EmbedsWithin, none]

end LexerState

/-! ### Languages that are embedded -/

/-- A rule of some state enters a language. -/
def Lexer.Enters (l : Lexer) (language : String) : Prop :=
  ∃ state, ∃ rule ∈ l.rules state, rule.embedding = some (.enter language)

/-- A tokenizer hands regions to that of a language. -/
def Tokenizer.Embeds : Tokenizer → String → Prop
  | .lexer l connected, language => connected ∧ l.Enters language
  | _, _ => False

namespace TokenizerRegistry

/-- The tokenizer of one language hands regions to that of another one. -/
def Embeds (registry : TokenizerRegistry) (host guest : String) : Prop :=
  ∃ t, registry.best? host = some t ∧ t.Embeds guest

/-- The languages that a document in a language may come to embed, and this language. -/
def Reaches (registry : TokenizerRegistry) : String → String → Prop :=
  Relation.ReflTransGen registry.Embeds

/-- Two registries have the same tokenizers for the languages reached from one. -/
def AgreesFrom (registry other : TokenizerRegistry) (root : String) : Prop :=
  ∀ language, registry.Reaches root language → registry.best? language = other.best? language

variable {registry other : TokenizerRegistry} {root language : String}

/-- In registries that agree the same languages are reached. -/
theorem AgreesFrom.reaches (agree : registry.AgreesFrom other root)
    (reached : other.Reaches root language) :
  registry.Reaches root language
  := by
  induction reached with
  | refl => exact .refl
  | tail _ embeds ih =>
    obtain ⟨t, best, embeds⟩ := embeds
    exact ih.tail ⟨t, (agree _ ih).trans best, embeds⟩

theorem AgreesFrom.symm (agree : registry.AgreesFrom other root) :
  other.AgreesFrom registry root
  := fun language reached => (agree language (agree.reaches reached)).symm

end TokenizerRegistry

/-! ### Tokenizing alike -/

section

variable {registry other : TokenizerRegistry} {root : String} {connected : Bool}
  {answer answer' : Tokenizer → Text → LexerState → Nat → Option LineTokens}

/-- Where registries have the same tokenizers, they have the same guests, but for the answers. -/
theorem TokenizerRegistry.map_initial_guestsBy {language : String}
    (answer answer' : Tokenizer → Text → LexerState → Nat → Option LineTokens)
    (same : connected → registry.best? language = other.best? language) :
  (registry.guestsBy answer connected language).map (·.initial)
    = (other.guestsBy answer' connected language).map (·.initial)
  := by
  cases connected with
  | false => rfl
  | true =>
    rw [guestsBy, guestsBy, same rfl]
    cases other.best? language <;> rfl

/-- A guest of a registry that is reached is one of a registry that agrees, but for the answers. -/
theorem TokenizerRegistry.AgreesFrom.exists_guest (agree : registry.AgreesFrom other root)
    {language : String} (reached : registry.Reaches root language) {guest : Guest}
    (found : registry.guestsBy answer connected language = some guest) :
  ∃ t, registry.best? language = some t ∧ guest = ⟨t.initial, answer t⟩
    ∧ other.guestsBy answer' connected language = some ⟨t.initial, answer' t⟩
  := by
  obtain ⟨joined, t, best, rfl⟩ := guestsBy_eq_some_iff.mp found
  refine ⟨t, best, rfl, guestsBy_eq_some_iff.mpr ⟨joined, t, ?_, rfl⟩⟩
  rw [← agree _ reached]
  exact best

/-- A rule moves the embedding the same way where the languages it enters have the same guests. -/
theorem Lexer.moveEmbedding_congr {resolve resolve' : String → Option Guest} {rule : CompiledRule}
    (same : ∀ language, rule.embedding = some (.enter language) →
      (resolve language).map (·.initial) = (resolve' language).map (·.initial))
    (s : LexerState) :
  moveEmbedding resolve rule s = moveEmbedding resolve' rule s
  := by
  unfold moveEmbedding
  cases entered : rule.embedding with
  | none => rfl
  | some embedding =>
    cases embedding with
    | leave => rfl
    | enter language =>
      have same := same language entered
      dsimp only
      cases found : resolve language with
      | none =>
        rw [found, Option.map_none, eq_comm, Option.map_eq_none_iff] at same
        rw [same]
      | some guest =>
        rw [found, Option.map_some, eq_comm, Option.map_eq_some_iff] at same
        obtain ⟨guest', found', initial_eq⟩ := same
        rw [found']
        dsimp only
        rw [initial_eq]

/--
What the guests of one registry answer, those of the other one do, and the embedded languages stay
among those that are reached.
-/
def AnswersAlong (registry : TokenizerRegistry) (root : String)
    (answer answer' : Tokenizer → Text → LexerState → Nat → Option LineTokens) : Prop :=
  ∀ language t text state delta result, registry.Reaches root language →
    registry.best? language = some t → state.EmbedsWithin (registry.Reaches root) →
    answer t text state delta = some result →
    answer' t text state delta = some result
      ∧ result.endState.EmbedsWithin (registry.Reaches root)

namespace Lexer

variable {l : Lexer} {delta : Nat} {p q : Progress}

theorem mem_rules_of_findRule? {state : LexerState} {rest : Text} {rule : CompiledRule}
    {count : Nat} (found : l.findRule? state rest = some (rule, count)) :
  rule ∈ l.rules state.current
  := by
  obtain ⟨other, among, matched⟩ := List.exists_of_findSome?_eq_some found
  obtain ⟨_, -, same⟩ := Option.map_eq_some_iff.mp matched
  obtain ⟨rfl, -⟩ := Prod.mk.inj same
  exact among

/-- A move with the guests of one registry is one with those of the other. -/
theorem Moves.along (agree : registry.AgreesFrom other root) (rules : registry.followsRules)
    (closed : connected → ∀ language, l.Enters language → registry.Reaches root language)
    (answers : AnswersAlong registry root answer answer')
    (within : p.state.EmbedsWithin (registry.Reaches root))
    (moved : l.Moves (registry.guestsBy answer connected) delta p q) :
  q.state.EmbedsWithin (registry.Reaches root)
    ∧ l.Moves (other.guestsBy answer' connected) delta p q
  := by
  cases moved with
  | leave turn gone =>
    refine ⟨LexerState.embedsWithin_of_nil rfl, .leave turn ?_⟩
    have reached := (LexerState.embedsWithin_iff.mp within _ _ turn.1).1
    have same := TokenizerRegistry.map_initial_guestsBy answer answer'
      fun _ : connected => agree _ reached
    rw [gone, Option.map_none, eq_comm, Option.map_eq_none_iff] at same
    exact same
  | pass turn found empty =>
    refine ⟨within, ?_⟩
    have reached := (LexerState.embedsWithin_iff.mp within _ _ turn.1).1
    obtain ⟨_, -, -, found⟩ := agree.exists_guest reached found
    exact .pass turn found empty
  | handOn turn found nonempty answered =>
    obtain ⟨reached, inner_within⟩ := LexerState.embedsWithin_iff.mp within _ _ turn.1
    obtain ⟨t, best, rfl, found⟩ := agree.exists_guest reached found
    obtain ⟨answered, end_within⟩ := answers _ t _ _ _ _ reached best inner_within answered
    exact ⟨.enter _ reached end_within, .handOn turn found nonempty answered⟩
  | @apply rule count turn fresh found =>
    have enters {language : String} (entered : rule.embedding = some (.enter language)) :
        l.Enters language := ⟨_, rule, mem_rules_of_findRule? found, entered⟩
    constructor
    · rw [LexerState.embedsWithin_iff]
      intro language inner embedded
      rcases guest?_moveEmbedding embedded with before | ⟨entered, guest, resolved, rfl⟩
      · exact LexerState.embedsWithin_iff.mp within _ _ before
      · obtain ⟨joined, t, best, rfl⟩ := TokenizerRegistry.guestsBy_eq_some_iff.mp resolved
        refine ⟨closed joined language (enters entered), LexerState.embedsWithin_of_nil ?_⟩
        exact Tokenizer.embedded_initial (registry.followsRules_of_best? rules best)
    · have same : l.applyRule (registry.guestsBy answer connected) delta p rule count
          = l.applyRule (other.guestsBy answer' connected) delta p rule count := by
        simp only [applyRule]
        rw [moveEmbedding_congr]
        intro language entered
        apply TokenizerRegistry.map_initial_guestsBy
        intro joined
        exact agree language (closed joined language (enters entered))
      rw [same]
      exact .apply turn fresh found
  | skip turn reason => exact ⟨within, .skip turn reason⟩

end Lexer

namespace Tokenizer

/-- With nested calls to some depth, the tokenizers of registries that agree answer alike. -/
theorem answersAlong_within (agree : registry.AgreesFrom other root)
    (rules : registry.followsRules) (depth : Nat) :
  AnswersAlong registry root (·.tokenizeWithin registry depth · · · none)
    (·.tokenizeWithin other depth · · · none)
  := by
  induction depth with
  | zero =>
    intro language t text state delta result _ best within answered
    cases t with
    | lexer l connected => simp [tokenizeWithin] at answered
    | plain p =>
      obtain rfl := Option.some.inj answered
      exact ⟨rfl, within⟩
    | function =>
      have rule := registry.followsRules_of_best? rules best
      cases rule
  | succ depth ih =>
    intro language t text state delta result reached best within answered
    cases t with
    | lexer l connected =>
      dsimp only at answered ⊢
      rw [tokenizeWithin_lexer] at answered ⊢
      obtain ⟨p, ran, rfl⟩ := Lexer.tokenize?_eq_some_iff.mp answered
      have closed : connected → ∀ guest, l.Enters guest → registry.Reaches root guest :=
        fun joined guest enters => reached.tail ⟨_, best, joined, enters⟩
      obtain ⟨kept, -, ran⟩ := Lexer.run?_transfer (other.guestsWithin depth connected)
        (fun p q _ within moved => Lexer.Moves.along agree rules closed ih within moved) within ran
      exact ⟨Lexer.tokenize?_eq_some_iff.mpr ⟨p, ran, rfl⟩, kept⟩
    | plain p =>
      obtain rfl := Option.some.inj answered
      exact ⟨rfl, within⟩
    | function =>
      have rule := registry.followsRules_of_best? rules best
      cases rule

/-- The tokenizers of registries that agree answer alike. -/
theorem tokenize?_along (agree : registry.AgreesFrom other root) (rules : registry.followsRules)
    (others_rules : other.followsRules) {t : Tokenizer} (best : registry.best? root = some t)
    {line : Text} {state : LexerState} (within : state.EmbedsWithin (registry.Reaches root))
    {delta : Nat} {stop : Option Nat} {result : LineTokens}
    (answered : t.tokenize? registry line state delta stop = some result) :
  t.tokenize? other line state delta stop = some result
    ∧ result.endState.EmbedsWithin (registry.Reaches root)
  := by
  have rule := registry.followsRules_of_best? rules best
  rw [tokenize?, tokenizeWithin_visiblePart rule] at answered
  obtain ⟨answered, kept⟩ :=
    answersAlong_within agree rules _ root t _ _ _ _ .refl best within answered
  dsimp only at answered
  rw [← tokenizeWithin_visiblePart rule] at answered
  exact ⟨tokenize?_of_tokenizeWithin others_rules rule answered, kept⟩

end Tokenizer

end

/-! ### Lines -/

/-- Chained lines are chained for a tokenizer that answers alike from their states on. -/
theorem LineTokenizer.Chained.along {t other : LineTokenizer} {maxLength : Option Nat}
    {Keeps : LexerState → Prop}
    (along : ∀ line state stop tokens, Keeps state → t.run line state stop = some tokens →
      other.run line state stop = some tokens ∧ Keeps tokens.endState)
    {state : LexerState} {lines : List CachedLine} (start : Keeps state)
    (chained : t.Chained maxLength state lines) :
  other.Chained maxLength state lines
  := by
  induction lines generalizing state with
  | nil => trivial
  | cons line lines ih =>
    obtain ⟨first, others⟩ := chained
    obtain ⟨text_eq, start_eq, ran⟩ := cacheLine?_eq_some_iff.mp first
    obtain ⟨ran, kept⟩ := along _ _ _ _ start ran
    exact ⟨cacheLine?_eq_some_iff.mpr ⟨text_eq, start_eq, ran⟩, ih kept others⟩

namespace TokenizerRegistry

variable {registry other : TokenizerRegistry} {root : String} {t : Tokenizer}
  {maxLength : Option Nat} {text : Text} {c : LineCache}

/-- The lines of a text for one registry are those for one that agrees with it. -/
theorem AgreesFrom.ofText?_along (agree : registry.AgreesFrom other root)
    (rules : registry.followsRules) (others_rules : other.followsRules)
    (best : registry.best? root = some t)
    (made : LineCache.ofText? (t.onLines registry) maxLength text = some c) :
  LineCache.ofText? (t.onLines other) maxLength text = some c
  := by
  rw [LineCache.ofText?_eq_fullPass?, LineCache.fullPass?_eq_some_iff] at made ⊢
  obtain ⟨pass, texts_eq⟩ := made
  refine ⟨?_, texts_eq⟩
  have nothing := Tokenizer.embedded_initial (registry.followsRules_of_best? rules best)
  have along : ∀ line state stop tokens, state.EmbedsWithin (registry.Reaches root) →
      (t.onLines registry).run line state stop = some tokens →
      (t.onLines other).run line state stop = some tokens
        ∧ tokens.endState.EmbedsWithin (registry.Reaches root) := by
    intro line state stop tokens within ran
    exact Tokenizer.tokenize?_along agree rules others_rules best within ran
  have chained := pass.chained.along along (LexerState.embedsWithin_of_nil nothing)
  obtain ⟨first, next, run⟩ := LineCache.chained_iff.mp chained
  exact ⟨pass.language_eq, pass.maxLength_eq, first, next, run⟩

/-- The lines of a text are the same for registries that agree. -/
theorem AgreesFrom.ofText?_eq (agree : registry.AgreesFrom other root)
    (rules : registry.followsRules) (others_rules : other.followsRules)
    (best : registry.best? root = some t) (maxLength : Option Nat) (text : Text) :
  LineCache.ofText? (t.onLines registry) maxLength text
    = LineCache.ofText? (t.onLines other) maxLength text
  := by
  ext c
  constructor
  · intro made
    exact agree.ofText?_along rules others_rules best made
  · intro made
    exact agree.symm.ofText?_along others_rules rules ((agree root .refl).symm.trans best) made

end TokenizerRegistry

end EditorModes
