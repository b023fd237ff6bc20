import EditorModes.Proofs.Lexer.Order
import Mathlib.Data.List.Basic

/-!
# Guests

The tokenizers that a lexer hands embedded regions to are found by language in a registry, and
how they answer is left open here.  Guests that give the same answers make no difference to a
line.  A language is embedded at the start of a line because an earlier line left it so, and later
because a rule entered it; as long as nothing of the line is consumed, the rule matched no text.
-/

namespace EditorModes

/-! ### Guests that answer alike -/

/-- What the tokenizers of a registry answer by `answer`, they also answer by `other`. -/
def TokenizerRegistry.AnswersAs (registry : TokenizerRegistry)
    (answer other : Tokenizer → Text → LexerState → Nat → Option LineTokens) : Prop :=
  ∀ language t text state delta result, registry.best? language = some t →
    answer t text state delta = some result → other t text state delta = some result

namespace Lexer

variable {l : Lexer} {registry : TokenizerRegistry} {connected : Bool} {delta : Nat}
  {p q : Progress} {answer other : Tokenizer → Text → LexerState → Nat → Option LineTokens}

/-- A rule does not depend on how guests answer. -/
theorem applyRule_guestsBy (l : Lexer) (delta : Nat) (p : Progress) (rule : CompiledRule)
    (count : Nat) :
  l.applyRule (registry.guestsBy answer connected) delta p rule count
    = l.applyRule (registry.guestsBy other connected) delta p rule count
  := by
  have same (s : LexerState) : moveEmbedding (registry.guestsBy answer connected) rule s
      = moveEmbedding (registry.guestsBy other connected) rule s := by
    unfold moveEmbedding TokenizerRegistry.guestsBy
    cases rule.embedding with
    | none => rfl
    | some embedding =>
      cases embedding with
      | leave => rfl
      | enter language =>
        dsimp only
        cases connected with
        | false => rfl
        | true => cases registry.best? language <;> rfl
  simp only [applyRule, same]

/-- A move is one with other guests that give the same answer to what is handed on. -/
theorem Moves.guestsBy (moved : l.Moves (registry.guestsBy answer connected) delta p q)
    (agree : ∀ language inner t result, GuestTurn p language inner →
      registry.best? language = some t → l.region p ≠ [] →
      answer t (l.region p) inner (delta + p.position) = some result →
      other t (l.region p) inner (delta + p.position) = some result) :
  l.Moves (registry.guestsBy other connected) delta p q
  := by
  cases moved with
  | leave turn gone =>
    apply Moves.leave turn
    rw [TokenizerRegistry.guestsBy] at gone ⊢
    split_ifs at gone ⊢ with joined
    · rw [Option.map_eq_none_iff] at gone ⊢
      apply gone
    · rfl
  | pass turn found empty =>
    obtain ⟨joined, t, best, -⟩ := TokenizerRegistry.guestsBy_eq_some_iff.mp found
    have found : registry.guestsBy other connected _ = some ⟨t.initial, other t⟩ :=
      TokenizerRegistry.guestsBy_eq_some_iff.mpr ⟨joined, t, best, rfl⟩
    apply Moves.pass turn found empty
  | handOn turn found nonempty answered =>
    obtain ⟨joined, t, best, rfl⟩ := TokenizerRegistry.guestsBy_eq_some_iff.mp found
    have found : registry.guestsBy other connected _ = some ⟨t.initial, other t⟩ :=
      TokenizerRegistry.guestsBy_eq_some_iff.mpr ⟨joined, t, best, rfl⟩
    apply Moves.handOn turn found nonempty
    apply agree _ _ t _ turn best nonempty answered
  | apply turn fresh found =>
    rw [applyRule_guestsBy]
    apply Moves.apply turn fresh found
  | skip turn reason => apply Moves.skip turn reason

/-- A run is the same with other guests that give all the same answers. -/
theorem run?_guestsBy (agree : registry.AnswersAs answer other)
    (ran : l.run? (registry.guestsBy answer connected) delta p = some q) :
  l.run? (registry.guestsBy other connected) delta p = some q
  := by
  have step : ∀ p q, p.rest ≠ [] → True →
      l.Moves (registry.guestsBy answer connected) delta p q →
      True ∧ l.Moves (registry.guestsBy other connected) delta p q := by
    intro p q _ _ moved
    use trivial
    apply moved.guestsBy
    intro language inner t result _ best _ found
    apply agree language t _ _ _ _ best found
  have transferred := run?_transfer _ step trivial ran
  apply transferred.2.2

/-- A line has the same tokens with other guests that give all the same answers. -/
theorem tokenize?_guestsBy (agree : registry.AnswersAs answer other) {line : Text}
    {state : LexerState} {stop : Option Nat} {result : LineTokens}
    (answered : l.tokenize? (registry.guestsBy answer connected) line state delta stop
      = some result) :
  l.tokenize? (registry.guestsBy other connected) line state delta stop = some result
  := by
  obtain ⟨p, ran, rfl⟩ := tokenize?_eq_some_iff.mp answered
  apply tokenize?_eq_some_iff.mpr
  use p, run?_guestsBy agree ran

end Lexer

namespace Tokenizer

variable {registry : TokenizerRegistry}

/-- An answer stays the same when calls may be nested deeper. -/
theorem tokenizeWithin_mono {depth more : Nat} (le : depth ≤ more) {t : Tokenizer} {line : Text}
    {state : LexerState} {delta : Nat} {stop : Option Nat} {result : LineTokens}
    (answer : t.tokenizeWithin registry depth line state delta stop = some result) :
  t.tokenizeWithin registry more line state delta stop = some result
  := by
  induction depth generalizing more t line state delta stop result with
  | zero =>
    cases t with
    | lexer l connected => simp [tokenizeWithin] at answer
    | plain p => simpa [tokenizeWithin] using answer
    | function language initial run => simpa [tokenizeWithin] using answer
  | succ depth ih =>
    cases t with
    | lexer l connected =>
      obtain ⟨more, rfl⟩ : ∃ n, more = n + 1 := ⟨more - 1, by omega⟩
      rw [tokenizeWithin_lexer] at answer ⊢
      apply Lexer.tokenize?_guestsBy _ answer
      intro language t text inner delta result best answered
      apply ih (by omega) answered
    | plain p => simpa [tokenizeWithin] using answer
    | function language initial run => simpa [tokenizeWithin] using answer

/-- Tokenizers that follow rules start with no language embedded. -/
theorem embedded_initial {t : Tokenizer} (rule : t.followsRules) :
  t.initial.embedded = []
  := by
  cases t with
  | lexer l connected => rfl
  | plain p => rfl
  | function language initial run => simp [followsRules] at rule

/-- Tokenizers that follow rules see no more of a line than its visible part. -/
theorem tokenizeWithin_visiblePart {t : Tokenizer} (rule : t.followsRules) (depth : Nat)
    (line : Text) (state : LexerState) (delta : Nat) (stop : Option Nat) :
  t.tokenizeWithin registry depth line state delta stop
    = t.tokenizeWithin registry depth (visiblePart line delta stop) state delta none
  := by
  cases t with
  | lexer l connected => cases depth <;> rfl
  | plain p => cases depth <;> rfl
  | function language initial run => simp [followsRules] at rule

end Tokenizer

/-! ### Which languages are embedded -/

namespace LexerState

theorem length_embedded_of_guest? {s : LexerState} {language : String} {inner : LexerState}
    (embedded : s.guest? = some (language, inner)) :
  s.embedded.length = inner.embedded.length + 1
  := by
  unfold guest? at embedded
  split at embedded
  · simp at embedded
  · next listed =>
    obtain ⟨rfl, rfl⟩ := Prod.mk.inj (Option.some.inj embedded)
    simp [listed]

theorem length_embedded_enter (s : LexerState) (language : String) (guest : LexerState) :
  (s.enter language guest).embedded.length = guest.embedded.length + 1
  := rfl

theorem guest?_eq_none_iff {s : LexerState} :
  s.guest? = none ↔ s.embedded = []
  := by
  unfold guest?
  split
  · next listed => simp [listed]
  · next listed => simp [listed]

end LexerState

namespace Lexer

variable {l : Lexer} {registry : TokenizerRegistry} {connected : Bool} {delta : Nat}
  {p q : Progress} {answer : Tokenizer → Text → LexerState → Nat → Option LineTokens}

/-- After a rule, the embedded language is the one before, or the one the rule enters. -/
theorem guest?_moveEmbedding {resolve : String → Option Guest} {rule : CompiledRule}
    {s : LexerState} {language : String} {inner : LexerState}
    (embedded : (moveEmbedding resolve rule s).guest? = some (language, inner)) :
  s.guest? = some (language, inner)
    ∨ rule.embedding = some (.enter language)
      ∧ ∃ guest, resolve language = some guest ∧ inner = guest.initial
  := by
  unfold moveEmbedding at embedded
  split at embedded
  · next entered enters =>
    split at embedded
    · next guest found =>
      rw [LexerState.guest?_enter] at embedded
      obtain ⟨rfl, rfl⟩ := Prod.mk.inj (Option.some.inj embedded)
      right
      exact ⟨enters, guest, found, rfl⟩
    · left
      apply embedded
  · simp at embedded
  · left
    apply embedded

/-- In some state, a rule that enters a language matches the empty text before a text. -/
def EntersBefore (l : Lexer) (text : Text) (language : String) : Prop :=
  ∃ state rule count, l.findRule? state text = some (rule, count) ∧ text.take count = []
    ∧ rule.embedding = some (.enter language)

/--
A place in the text of a call that started in the state `start`.  As long as nothing of the text
is consumed, the embedded language is the one at the start or was entered since then.
-/
structure Follows (l : Lexer) (registry : TokenizerRegistry) (text : Text) (start : LexerState)
    (p : Progress) : Prop where
  passed : ∃ before, text = before ++ p.rest ∧ p.position = before.byteSize
  guest : p.rest = text → ∀ language inner, p.state.guest? = some (language, inner) →
    start.guest? = some (language, inner)
      ∨ l.EntersBefore text language ∧ ∃ t, registry.best? language = some t ∧ inner = t.initial

variable {text : Text} {start : LexerState}

/-- The start of the text is such a place. -/
theorem Follows.ofText (l : Lexer) (registry : TokenizerRegistry) (text : Text)
    (start : LexerState) :
  l.Follows registry text start (.ofText text start)
  := by
  constructor
  · exact ⟨[], rfl, rfl⟩
  · intro _ language inner embedded
    left
    apply embedded

/-- The region handed on is the whole text only at its start. -/
theorem Follows.whole (follows : l.Follows registry text start p)
    (long : text.length ≤ (l.region p).length) :
  l.region p = text ∧ p.rest = text ∧ p.position = 0
  := by
  obtain ⟨before, text_eq, position_eq⟩ := follows.passed
  have prefix_rest : l.region p <+: p.rest := List.take_prefix _ _
  have short := prefix_rest.length_le
  have sizes := congrArg List.length text_eq
  rw [List.length_append] at sizes
  obtain rfl : before = [] := List.length_eq_zero_iff.mp (by omega)
  have rest_eq : p.rest = text := text_eq.symm
  refine ⟨?_, rest_eq, position_eq⟩
  rw [prefix_rest.eq_of_length (by omega), rest_eq]

/-- Where a move ends with the whole text ahead, it began so. -/
theorem Follows.rest_eq (follows : l.Follows registry text start p) {passed : Text}
    (consumes : p.rest = passed ++ q.rest) (untouched : q.rest = text) :
  passed = [] ∧ p.rest = text
  := by
  obtain ⟨before, text_eq, -⟩ := follows.passed
  have sizes := congrArg List.length text_eq
  rw [consumes, untouched, List.length_append, List.length_append] at sizes
  obtain rfl : passed = [] := List.length_eq_zero_iff.mp (by omega)
  use rfl
  rw [consumes, untouched, List.nil_append]

/-- Each move leads to such a place again. -/
theorem Moves.follows (ahead : p.rest ≠ [])
    (moved : l.Moves (registry.guestsBy answer connected) delta p q)
    (follows : l.Follows registry text start p) :
  l.Follows registry text start q
  := by
  obtain ⟨passed, consumes, position_eq⟩ := moved.consumes
  constructor
  · obtain ⟨before, text_eq, before_eq⟩ := follows.passed
    use before ++ passed
    rw [text_eq, consumes, List.append_assoc, position_eq, before_eq, Text.byteSize_append]
    exact ⟨rfl, rfl⟩
  · intro untouched language inner embedded
    obtain ⟨rfl, rest_eq⟩ := follows.rest_eq consumes untouched
    cases moved with
    | leave turn gone => simp at embedded
    | pass turn found empty => apply follows.guest rest_eq _ _ embedded
    | handOn turn found nonempty answered =>
      have shorter : (l.region p).length = 0 := by
        have sizes := congrArg List.length consumes
        simp only [afterGuest, List.nil_append, List.length_drop] at sizes
        simp only [region, List.length_take]
        have := List.length_pos_iff.mpr ahead
        omega
      exact absurd (List.length_eq_zero_iff.mp shorter) nonempty
    | @apply rule count turn fresh found =>
      rcases guest?_moveEmbedding embedded with before | ⟨enters, guest, resolved, rfl⟩
      · apply follows.guest rest_eq _ _ before
      · obtain ⟨-, t, best, rfl⟩ := TokenizerRegistry.guestsBy_eq_some_iff.mp resolved
        have parts := List.take_append_drop count p.rest
        change p.rest = p.rest.drop count at consumes
        rw [← consumes, List.append_left_eq_self] at parts
        rw [rest_eq] at found parts
        right
        exact ⟨⟨p.state, rule, count, found, parts, enters⟩, t, best, rfl⟩
    | skip turn reason =>
      have sizes := congrArg List.length consumes
      have := List.length_pos_iff.mpr ahead
      simp only [skipChar, List.nil_append, List.length_drop] at sizes
      omega

end Lexer

end EditorModes
