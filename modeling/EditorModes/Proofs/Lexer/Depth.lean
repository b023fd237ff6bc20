import EditorModes.Proofs.Lexer.Guest
import Mathlib.Data.List.Perm.Subperm

/-!
# How deep calls nest

A tokenizer that answers with calls nested to some depth gives the same answer with any greater
depth, and also with the depth that `tokenize?` allows: a call for an embedded region either has
less text than the call it is nested in, or goes on where an earlier line left an embedded
language, or starts one of the tokenizers of the registry on the same text, which none of them
does twice.
-/

namespace EditorModes

/-! ### How much may be nested -/

namespace TokenizerRegistry

/-- How many calls a text may nest beyond the languages that were embedded before. -/
def nestingLimit (registry : TokenizerRegistry) (length : Nat) : Nat :=
  (registry.size + 1) * (length * length)

/-- How many calls the proper parts of a text may nest, up to where so much is consumed. -/
def partLimit (registry : TokenizerRegistry) (length consumed : Nat) : Nat :=
  (registry.size + 1) * (length - 1) * consumed

variable {registry : TokenizerRegistry} {length : Nat}

theorem partLimit_mono (length : Nat) {consumed more : Nat} (le : consumed ≤ more) :
  registry.partLimit length consumed ≤ registry.partLimit length more
  := Nat.mul_le_mul_left _ le

/-- After a proper part, what it may nest is still within the limit for the parts. -/
theorem partLimit_add_nestingLimit_le {part : Nat} (proper : part < length) (consumed : Nat) :
  registry.partLimit length consumed + registry.nestingLimit part
    ≤ registry.partLimit length (consumed + part)
  := by
  have below : part ≤ length - 1 := by omega
  rw [partLimit, partLimit, nestingLimit, Nat.mul_add, ← Nat.mul_assoc]
  apply Nat.add_le_add_left
  apply Nat.mul_le_mul_right
  apply Nat.mul_le_mul_left _ below

/-- The limit for a text leaves room for its parts and for each tokenizer on the whole of it. -/
theorem partLimit_add_size_lt (nonempty : 0 < length) :
  registry.partLimit length length + registry.size < registry.nestingLimit length
  := by
  obtain ⟨n, rfl⟩ : ∃ n, length = n + 1 := ⟨length - 1, by omega⟩
  have split : (registry.size + 1) * ((n + 1) * (n + 1))
      = (registry.size + 1) * n * (n + 1) + (registry.size + 1) * (n + 1) := by
    rw [← Nat.mul_assoc, ← Nat.add_mul, ← Nat.mul_succ]
  have := Nat.le_mul_of_pos_right (registry.size + 1) (show 0 < n + 1 by omega)
  rw [partLimit, nestingLimit, split, Nat.add_sub_cancel]
  omega

end TokenizerRegistry

/-- An answer that nests at most so many calls and leaves at most so many languages embedded. -/
structure Tokenizer.AnswersWithin (registry : TokenizerRegistry) (limit : Nat) (t : Tokenizer)
    (text : Text) (state : LexerState) (delta : Nat) (result : LineTokens) : Prop where
  answer : t.tokenizeWithin registry (limit + 1) text state delta none = some result
  embedded_le : result.endState.embedded.length ≤ limit

/-- An answer within a limit is one within any greater limit. -/
theorem Tokenizer.AnswersWithin.mono {registry : TokenizerRegistry} {limit more : Nat}
    {t : Tokenizer} {text : Text} {state : LexerState} {delta : Nat} {result : LineTokens}
    (within : t.AnswersWithin registry limit text state delta result) (le : limit ≤ more) :
  t.AnswersWithin registry more text state delta result
  := by
  constructor
  · apply tokenizeWithin_mono _ within.answer
    omega
  · have := within.embedded_le
    omega

/-- Calls on texts that are shorter than `length` are answered within the limits of their texts. -/
def ShorterWithin (registry : TokenizerRegistry) (length : Nat) : Prop :=
  ∀ (t : Tokenizer) (part : Text) depth state delta result, t.followsRules →
    part.length < length →
    t.tokenizeWithin registry depth part state delta none = some result →
    t.AnswersWithin registry (state.embedded.length + registry.nestingLimit part.length) part
      state delta result

/--
The calls nested in one on a text have their limits: those on a proper part, and those on the
whole text, in the state of the language that was embedded or in the first state of a tokenizer.
-/
structure NestedLimits (registry : TokenizerRegistry) (depth : Nat) (text : Text)
    (state : LexerState) (delta limit : Nat) : Prop where
  shorter : ShorterWithin registry text.length
  whole : ∀ language t inner result, registry.best? language = some t →
    (state.guest? = some (language, inner) ∨ inner = t.initial) →
    t.tokenizeWithin registry depth text inner delta none = some result →
    ∃ lower < limit, t.AnswersWithin registry lower text inner delta result
  room : max state.embedded.length 1 + registry.partLimit text.length text.length ≤ limit

namespace Lexer

variable {l : Lexer} {registry : TokenizerRegistry} {connected : Bool} {delta depth limit : Nat}
  {p q : Progress} {text : Text} {start : LexerState}

/-- The number of embedded languages is within the limit for what is consumed of the text. -/
def Progress.InLimits (registry : TokenizerRegistry) (text : Text) (start : LexerState)
    (limit : Nat) (p : Progress) : Prop :=
  p.state.embedded.length
      ≤ max start.embedded.length 1
        + registry.partLimit text.length (text.length - p.rest.length)
    ∨ p.rest = [] ∧ p.state.embedded.length ≤ limit

theorem length_rest_afterGuest (l : Lexer) (p : Progress) (language : String)
    (result : LineTokens) :
  (l.afterGuest p language result).rest.length = p.rest.length - (l.region p).length
  := by
  simp only [afterGuest, region, List.length_drop, List.length_take]
  omega

/-- What is handed on is answered below the limit, and the place after it is in limits. -/
theorem Progress.InLimits.handOn (rules : registry.followsRules)
    (limits : NestedLimits registry depth text start delta limit)
    (follows : l.Follows registry text start p) (ahead : p.rest ≠ [])
    (inLimits : p.InLimits registry text start limit) {language : String} {inner : LexerState}
    {t : Tokenizer} {result : LineTokens} (turn : GuestTurn p language inner)
    (best : registry.best? language = some t)
    (answer : t.tokenizeWithin registry depth (l.region p) inner (delta + p.position) none
      = some result) :
  t.tokenizeWithin registry limit (l.region p) inner (delta + p.position) none = some result
    ∧ (l.afterGuest p language result).InLimits registry text start limit
  := by
  have bounded : p.state.embedded.length
      ≤ max start.embedded.length 1
        + registry.partLimit text.length (text.length - p.rest.length) := by
    rcases inLimits with bounded | ⟨done, -⟩
    · apply bounded
    · exact absurd done ahead
  have frames := LexerState.length_embedded_of_guest? turn.1
  obtain ⟨before, text_eq, -⟩ := follows.passed
  have sizes : text.length = before.length + p.rest.length := by
    rw [text_eq, List.length_append]
  have region_le : (l.region p).length ≤ p.rest.length := (List.take_prefix _ _).length_le
  by_cases proper : (l.region p).length < text.length
  · have rule := registry.followsRules_of_best? rules best
    have within := limits.shorter t _ _ inner _ result rule proper answer
    have grown := registry.partLimit_add_nestingLimit_le proper (text.length - p.rest.length)
    have consumed : text.length - (l.afterGuest p language result).rest.length
        = text.length - p.rest.length + (l.region p).length := by
      rw [length_rest_afterGuest]
      omega
    constructor
    · have total := registry.partLimit_mono text.length
        (show text.length - p.rest.length + (l.region p).length ≤ text.length by omega)
      have room := limits.room
      apply Tokenizer.tokenizeWithin_mono _ within.answer
      omega
    · left
      have left_over := within.embedded_le
      rw [consumed, afterGuest, LexerState.length_embedded_enter]
      omega
  · obtain ⟨region_eq, rest_eq, position_eq⟩ := follows.whole (Nat.not_lt.mp proper)
    rw [region_eq, position_eq, Nat.add_zero] at answer ⊢
    have origin : start.guest? = some (language, inner) ∨ inner = t.initial := by
      rcases follows.guest rest_eq _ _ turn.1 with carried | ⟨-, other, found, rfl⟩
      · left
        apply carried
      · right
        obtain rfl := Option.some.inj (best.symm.trans found)
        rfl
    obtain ⟨lower, below, within⟩ := limits.whole language t inner result best origin answer
    constructor
    · apply Tokenizer.tokenizeWithin_mono below within.answer
    · right
      constructor
      · apply List.length_eq_zero_iff.mp
        rw [length_rest_afterGuest, region_eq, rest_eq, Nat.sub_self]
      · have left_over := within.embedded_le
        rw [afterGuest, LexerState.length_embedded_enter]
        omega

/-- Each move leads to a place in limits again. -/
theorem Moves.inLimits (rules : registry.followsRules)
    (limits : NestedLimits registry depth text start delta limit)
    (follows : l.Follows registry text start p) (ahead : p.rest ≠ [])
    (inLimits : p.InLimits registry text start limit)
    (moved : l.Moves (registry.guestsWithin depth connected) delta p q) :
  q.InLimits registry text start limit
  := by
  obtain ⟨passed, consumes, -⟩ := moved.consumes
  have further : text.length - p.rest.length ≤ text.length - q.rest.length := by
    rw [consumes, List.length_append]
    omega
  have total := registry.partLimit_mono text.length further
  have bounded : p.state.embedded.length
      ≤ max start.embedded.length 1
        + registry.partLimit text.length (text.length - p.rest.length) := by
    rcases inLimits with bounded | ⟨done, -⟩
    · apply bounded
    · exact absurd done ahead
  cases moved with
  | leave turn gone =>
    left
    apply Nat.zero_le
  | pass turn found empty => apply inLimits
  | handOn turn found nonempty answered =>
    obtain ⟨-, t, best, rfl⟩ := TokenizerRegistry.guestsBy_eq_some_iff.mp found
    have after := inLimits.handOn rules limits follows ahead turn best answered
    apply after.2
  | @apply rule count turn fresh found =>
    left
    cases embedded : (l.applyRule (registry.guestsWithin depth connected) delta p rule
        count).state.guest? with
    | none =>
      rw [LexerState.guest?_eq_none_iff.mp embedded]
      apply Nat.zero_le
    | some guest =>
      obtain ⟨language, inner⟩ := guest
      have frames := LexerState.length_embedded_of_guest? embedded
      rcases guest?_moveEmbedding embedded with before | ⟨-, guest, resolved, rfl⟩
      · have same := LexerState.length_embedded_of_guest? before
        change p.state.embedded.length = _ at same
        omega
      · obtain ⟨-, t, best, rfl⟩ := TokenizerRegistry.guestsBy_eq_some_iff.mp resolved
        have fresh := Tokenizer.embedded_initial (registry.followsRules_of_best? rules best)
        rw [fresh, List.length_nil] at frames
        omega
  | skip turn reason =>
    left
    change p.state.embedded.length ≤ _
    omega

/-- A line is answered within a limit that those of the nested calls leave room for. -/
theorem answersWithin (rules : registry.followsRules)
    (limits : NestedLimits registry depth text start delta limit) {result : LineTokens}
    (answer : l.tokenize? (registry.guestsWithin depth connected) text start delta none
      = some result) :
  (Tokenizer.lexer l connected).AnswersWithin registry limit text start delta result
  := by
  obtain ⟨p, ran, rfl⟩ := tokenize?_eq_some_iff.mp answer
  have step : ∀ p q, p.rest ≠ [] →
      l.Follows registry text start p ∧ p.InLimits registry text start limit →
      l.Moves (registry.guestsWithin depth connected) delta p q →
      (l.Follows registry text start q ∧ q.InLimits registry text start limit)
        ∧ l.Moves (registry.guestsWithin limit connected) delta p q := by
    rintro p q ahead ⟨follows, inLimits⟩ moved
    refine ⟨⟨moved.follows ahead follows, moved.inLimits rules limits follows ahead inLimits⟩, ?_⟩
    apply moved.guestsBy
    intro language inner t result turn best _ answered
    have after := inLimits.handOn rules limits follows ahead turn best answered
    apply after.1
  have room := limits.room
  have begin_inLimits : (Progress.ofText text start).InLimits registry text start limit := by
    left
    apply Nat.le_add_right_of_le
    apply Nat.le_max_left
  obtain ⟨⟨follows, inLimits⟩, done, ran⟩ :=
    run?_transfer _ step ⟨Follows.ofText l registry text start, begin_inLimits⟩ ran
  constructor
  · rw [Tokenizer.tokenizeWithin_lexer]
    apply tokenize?_eq_some_iff.mpr
    use p, ran
  · rcases inLimits with bounded | ⟨-, bounded⟩
    · rw [done, List.length_nil, Nat.sub_zero] at bounded
      apply Nat.le_trans bounded room
    · apply bounded

end Lexer

namespace Tokenizer

variable {registry : TokenizerRegistry} {text : Text} {delta : Nat}

/-- The tokens of a plain tokenizer do not depend on the depth, and it embeds nothing. -/
theorem answersWithin_plain {p : PlainLexer} {depth : Nat} {state : LexerState}
    {result : LineTokens}
    (answer : (plain p).tokenizeWithin registry depth text state delta none = some result)
    {limit : Nat} (room : state.embedded.length ≤ limit) :
  (plain p).AnswersWithin registry limit text state delta result
  := by
  rw [tokenizeWithin] at answer
  obtain rfl := Option.some.inj answer
  constructor
  · rw [tokenizeWithin]
  · apply room

/--
Tokenizers of the registry, all different, that give no answer on a text from their first states
with calls nested to some depth.
-/
structure Pending (registry : TokenizerRegistry) (depth : Nat) (text : Text) (delta : Nat)
    (seen : List Tokenizer) : Prop where
  different : seen.Nodup
  registered : ∀ t ∈ seen, t ∈ registry.entries.map (·.provider)
  unanswered : ∀ t ∈ seen, t.tokenizeWithin registry depth text t.initial delta none = none

namespace Pending

variable {depth : Nat} {seen : List Tokenizer}

theorem length_le_size (pending : Pending registry depth text delta seen) :
  seen.length ≤ registry.size
  := by
  have := (pending.different.subperm pending.registered).length_le
  rwa [List.length_map] at this

/-- Without an answer at some depth there was none at a lesser one. -/
theorem of_succ (pending : Pending registry (depth + 1) text delta seen) :
  Pending registry depth text delta seen
  := by
  refine ⟨pending.different, pending.registered, ?_⟩
  intro t met
  cases sooner : t.tokenizeWithin registry depth text t.initial delta none with
  | none => rfl
  | some result =>
    have later := tokenizeWithin_mono (Nat.le_succ depth) sooner
    rw [pending.unanswered t met] at later
    simp at later

/-- One that is answered at the next depth but not at this one joins them. -/
theorem cons (pending : Pending registry (depth + 1) text delta seen) {t : Tokenizer}
    (among : t ∈ registry.entries.map (·.provider)) {result : LineTokens}
    (answer : t.tokenizeWithin registry (depth + 1) text t.initial delta none = some result)
    (sooner : t.tokenizeWithin registry depth text t.initial delta none = none) :
  Pending registry depth text delta (t :: seen)
  := by
  have unseen : t ∉ seen := by
    intro met
    rw [pending.unanswered t met] at answer
    simp at answer
  constructor
  · apply List.nodup_cons.mpr ⟨unseen, pending.different⟩
  · intro s met
    rcases List.mem_cons.mp met with rfl | met
    · apply among
    · apply pending.registered s met
  · intro s met
    rcases List.mem_cons.mp met with rfl | met
    · apply sooner
    · apply pending.of_succ.unanswered s met

end Pending

/--
A tokenizer on the whole text, from its first state.  Those that it nests on the whole text are
answered at a lesser depth, so that none of them comes twice.
-/
theorem answersWithin_initial (rules : registry.followsRules) {depth : Nat}
    (shorter : ShorterWithin registry text.length) {seen : List Tokenizer}
    (pending : Pending registry depth text delta seen) {t : Tokenizer}
    (among : t ∈ registry.entries.map (·.provider)) (rule : t.followsRules) {result : LineTokens}
    (answer : t.tokenizeWithin registry depth text t.initial delta none = some result) :
  t.AnswersWithin registry
    (registry.partLimit text.length text.length + (registry.size - seen.length)) text t.initial
    delta result
  := by
  have fresh := embedded_initial rule
  induction depth generalizing seen t result with
  | zero =>
    cases t with
    | lexer l connected => simp [tokenizeWithin] at answer
    | plain p => apply answersWithin_plain answer (by simp [fresh])
    | function language initial run => simp [followsRules] at rule
  | succ depth ih =>
    cases sooner : t.tokenizeWithin registry depth text t.initial delta none with
    | some other =>
      have later := tokenizeWithin_mono (Nat.le_succ depth) sooner
      obtain rfl := Option.some.inj (answer.symm.trans later)
      apply ih pending.of_succ among rule sooner fresh
    | none =>
      have pendingNow := pending.cons among answer sooner
      have count := pendingNow.length_le_size
      rw [List.length_cons] at count
      cases t with
      | plain p => simp [tokenizeWithin] at sooner
      | function language initial run => simp [followsRules] at rule
      | lexer l connected =>
        rw [tokenizeWithin_lexer] at answer
        apply Lexer.answersWithin rules _ answer
        constructor
        · apply shorter
        · intro language s inner result best origin answered
          rcases origin with carried | rfl
          · simp [LexerState.guest?_eq_none_iff.mpr fresh] at carried
          · have ruleToo := registry.followsRules_of_best? rules best
            have within := ih pendingNow (Registry.mem_of_best?_eq_some best) ruleToo answered
              (embedded_initial ruleToo)
            rw [List.length_cons] at within
            use registry.partLimit text.length text.length + (registry.size - (seen.length + 1))
            refine ⟨?_, within⟩
            omega
        · rw [fresh, List.length_nil]
          omega

/-- A line without text nests no calls. -/
theorem answersWithin_nil {l : Lexer} {connected : Bool} {depth : Nat} {state : LexerState}
    {result : LineTokens}
    (answer : (lexer l connected).tokenizeWithin registry depth [] state delta none
      = some result) :
  (lexer l connected).AnswersWithin registry state.embedded.length [] state delta result
  := by
  cases depth with
  | zero => simp [tokenizeWithin] at answer
  | succ depth =>
    rw [tokenizeWithin_lexer] at answer
    obtain ⟨p, ran, rfl⟩ := Lexer.tokenize?_eq_some_iff.mp answer
    rw [Lexer.run?_of_rest_eq_nil rfl] at ran
    obtain rfl := Option.some.inj ran
    constructor
    · rw [tokenizeWithin_lexer]
      apply Lexer.tokenize?_eq_some_iff.mpr
      exact ⟨_, Lexer.run?_of_rest_eq_nil rfl, rfl⟩
    · apply Nat.le_refl

/--
Where calls nested to some depth give an answer, it is within the limit for the text: nested calls
have less text, or as much of it and fewer frames, or are first calls.
-/
theorem answersWithin_of_eq_some (rules : registry.followsRules) {t : Tokenizer}
    (rule : t.followsRules) {depth : Nat} {state : LexerState} {result : LineTokens}
    (answer : t.tokenizeWithin registry depth text state delta none = some result) :
  t.AnswersWithin registry (state.embedded.length + registry.nestingLimit text.length) text state
    delta result
  := by
  induction size : text.length using Nat.strongRecOn
    generalizing t text state delta depth result with
  | _ n shorter =>
  induction frames : state.embedded.length using Nat.strongRecOn
    generalizing t state depth result with
  | _ m fewer =>
  cases t with
  | plain p => apply answersWithin_plain answer (by omega)
  | function language initial run => simp [followsRules] at rule
  | lexer l connected =>
    by_cases empty : text = []
    · subst empty
      apply (answersWithin_nil answer).mono (by omega)
    have nonempty : 0 < n := by
      rw [← size]
      apply List.length_pos_iff.mpr empty
    have room := registry.partLimit_add_size_lt nonempty
    have parts : ShorterWithin registry text.length := by
      intro t part depth inner delta result rule proper answered
      apply shorter part.length (by omega) rule answered rfl
    cases depth with
    | zero => simp [tokenizeWithin] at answer
    | succ depth =>
      rw [tokenizeWithin_lexer] at answer
      apply Lexer.answersWithin rules _ answer
      constructor
      · apply parts
      · intro language t inner result best origin answered
        have ruleToo := registry.followsRules_of_best? rules best
        rcases origin with carried | rfl
        · have below := LexerState.length_embedded_of_guest? carried
          use inner.embedded.length + registry.nestingLimit n
          constructor
          · omega
          · apply fewer inner.embedded.length (by omega) ruleToo answered rfl
        · have pending : Pending registry depth text delta [] := by
            constructor <;> simp
          have within := answersWithin_initial rules parts pending
            (Registry.mem_of_best?_eq_some best) ruleToo answered
          rw [List.length_nil, Nat.sub_zero, size] at within
          use registry.partLimit n n + registry.size
          refine ⟨?_, within⟩
          omega
      · rw [size, frames]
        omega

/-- What calls nested to some depth answer is the answer. -/
theorem tokenize?_of_tokenizeWithin (rules : registry.followsRules) {t : Tokenizer}
    (rule : t.followsRules) {depth : Nat} {line : Text} {state : LexerState} {stop : Option Nat}
    {result : LineTokens}
    (answer : t.tokenizeWithin registry depth line state delta stop = some result) :
  t.tokenize? registry line state delta stop = some result
  := by
  rw [tokenizeWithin_visiblePart rule] at answer
  have within := answersWithin_of_eq_some rules rule answer
  have shown := (visiblePart_isPrefix line delta stop).length_le
  have room : registry.nestingLimit (visiblePart line delta stop).length
      ≤ (registry.size + 1) * ((line.length + 1) * (line.length + 1)) := by
    apply Nat.mul_le_mul_left
    apply Nat.mul_le_mul <;> omega
  rw [tokenize?, tokenizeWithin_visiblePart rule]
  apply tokenizeWithin_mono _ within.answer
  rw [depthBound]
  omega

theorem answersAs_tokenize? (rules : registry.followsRules) (depth : Nat) :
  registry.AnswersAs (·.tokenizeWithin registry depth · · · none)
    (·.tokenize? registry · · · none)
  := by
  intro language t text state delta result best answer
  apply tokenize?_of_tokenizeWithin rules (registry.followsRules_of_best? rules best) answer

end Tokenizer

end EditorModes
