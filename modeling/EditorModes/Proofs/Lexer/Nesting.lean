import EditorModes.Proofs.Lexer.Depth
import Mathlib.Data.Fintype.Card
import Mathlib.Data.Set.Finite.Basic
import Mathlib.Logic.Relation

/-!
# Nested calls

The calls of tokenizers for embedded regions nest.  A line is answered exactly when no call that
is nested in it, to any depth, is nested in itself again: the same tokenizer in its first state
on the same text.  A rule that enters a language without consuming anything can bring this about,
and no other rule can.
-/

namespace EditorModes

open Relation

/-- A call of a tokenizer: a text at an offset that is read from a state on. -/
structure Call where
  tokenizer : Tokenizer
  text : Text
  state : LexerState
  delta : Nat

/-- A call in the first state of a tokenizer. -/
def Call.first (t : Tokenizer) (text : Text) (delta : Nat) : Call :=
  ⟨t, text, t.initial, delta⟩

/-- The answer to a call. -/
def Call.answer? (registry : TokenizerRegistry) (c : Call) : Option LineTokens :=
  c.tokenizer.tokenize? registry c.text c.state c.delta none

/-- The tokenizers of a registry as guests. -/
def TokenizerRegistry.guests (registry : TokenizerRegistry) : Bool → String → Option Guest :=
  registry.guestsBy fun t text state delta => t.tokenize? registry text state delta none

/-- The places that a run gets to. -/
def Lexer.Reaches (l : Lexer) (resolve : String → Option Guest) (delta : Nat) :
    Lexer.Progress → Lexer.Progress → Prop :=
  ReflTransGen fun p q => p.rest ≠ [] ∧ l.Moves resolve delta p q

/-- The second call is for a region that the first one hands on. -/
inductive Nests (registry : TokenizerRegistry) : Call → Call → Prop where
  | handOn {l : Lexer} {text : Text} {state : LexerState} {delta : Nat} {p : Lexer.Progress}
      {language : String} {inner : LexerState} {t : Tokenizer}
      (reached : l.Reaches (registry.guests true) delta (.ofText text state) p)
      (turn : Lexer.GuestTurn p language inner) (best : registry.best? language = some t)
      (nonempty : l.region p ≠ []) :
      Nests registry ⟨.lexer l true, text, state, delta⟩
        ⟨t, l.region p, inner, delta + p.position⟩

/-! ### Answers with calls nested to any depth -/

namespace Lexer

variable {l : Lexer} {registry : TokenizerRegistry} {connected : Bool} {delta : Nat}
  {p q : Progress} {resolve : String → Option Guest}

/-- Some depth is enough for a move. -/
theorem Moves.exists_depth (moved : l.Moves (registry.guests connected) delta p q) :
  ∃ depth, l.Moves (registry.guestsWithin depth connected) delta p q
  := by
  cases embedded : p.state.guest? with
  | none =>
    use 0
    apply moved.guestsBy
    rintro language inner t result ⟨taken, -⟩
    simp [embedded] at taken
  | some guest =>
    obtain ⟨language, inner⟩ := guest
    use Tokenizer.depthBound registry (l.region p) inner
    apply moved.guestsBy
    rintro other state t result ⟨taken, -⟩ _ _ answer
    obtain ⟨rfl, rfl⟩ := Prod.mk.inj (Option.some.inj (embedded.symm.trans taken))
    apply answer

/-- Some depth is enough for a run. -/
theorem exists_depth_run? (ran : l.run? (registry.guests connected) delta p = some q) :
  ∃ depth, l.run? (registry.guestsWithin depth connected) delta p = some q
  := by
  apply run?_induction _ _ ran
  · intro done
    use 0
    apply run?_of_rest_eq_nil done
  · rintro p next ahead moved - ⟨depth, ran⟩
    obtain ⟨other, moved⟩ := moved.exists_depth
    use max depth other
    have moved : l.Moves (registry.guestsWithin (max depth other) connected) delta p next := by
      apply moved.guestsBy
      intro language inner t result _ _ _ answer
      apply Tokenizer.tokenizeWithin_mono (Nat.le_max_right _ _) answer
    rw [run?_of_moves ahead moved]
    apply run?_guestsBy _ ran
    intro language t text inner delta result _ answer
    apply Tokenizer.tokenizeWithin_mono (Nat.le_max_left _ _) answer

end Lexer

/-- A lexer answers by its guests, which answer in the same way. -/
theorem Tokenizer.tokenize?_lexer {registry : TokenizerRegistry} (rules : registry.followsRules)
    (l : Lexer) (connected : Bool) (line : Text) (state : LexerState) (delta : Nat)
    (stop : Option Nat) :
  (lexer l connected).tokenize? registry line state delta stop
    = l.tokenize? (registry.guests connected) line state delta stop
  := by
  apply Option.ext
  intro result
  constructor
  · intro answer
    rw [tokenize?, depthBound, tokenizeWithin_lexer] at answer
    apply Lexer.tokenize?_guestsBy (answersAs_tokenize? rules _) answer
  · intro answer
    obtain ⟨p, ran, rfl⟩ := Lexer.tokenize?_eq_some_iff.mp answer
    obtain ⟨depth, ran⟩ := Lexer.exists_depth_run? ran
    have answer := Lexer.tokenize?_eq_some_iff.mpr ⟨p, ran, rfl⟩
    rw [← tokenizeWithin_lexer] at answer
    apply tokenize?_of_tokenizeWithin rules rfl answer

/-! ### Calls that are answered -/

variable {registry : TokenizerRegistry} {c inner outer : Call}

/-- A run goes on to its end from each place that it gets to. -/
theorem Lexer.Reaches.run?_eq {l : Lexer} {connected : Bool} {delta : Nat}
    {p q o : Lexer.Progress} {answer : Tokenizer → Text → LexerState → Nat → Option LineTokens}
    (agree : registry.AnswersAs answer (·.tokenize? registry · · · none))
    (reached : l.Reaches (registry.guests connected) delta p q)
    (ran : l.run? (registry.guestsBy answer connected) delta p = some o) :
  l.run? (registry.guestsBy answer connected) delta q = some o
  := by
  induction reached with
  | refl => apply ran
  | @tail q next _ advance ih =>
    obtain ⟨ahead, moved⟩ := advance
    obtain ⟨following, follows⟩ := Lexer.exists_moves_of_run? ahead ih
    have same : l.Moves (registry.guests connected) delta q following := by
      apply follows.guestsBy
      intro language inner t result _ best _ found
      apply agree language t _ _ _ _ best found
    obtain rfl := moved.unique same
    rwa [Lexer.run?_of_moves ahead follows] at ih

/-- Where a line is answered, so are the calls nested in it, by guests that agree. -/
theorem Nests.exists_answer {l : Lexer} {connected : Bool} {text : Text} {state : LexerState}
    {delta : Nat} {result : LineTokens}
    {answer : Tokenizer → Text → LexerState → Nat → Option LineTokens}
    (agree : registry.AnswersAs answer (·.tokenize? registry · · · none))
    (nests : Nests registry ⟨.lexer l connected, text, state, delta⟩ inner)
    (answered : l.tokenize? (registry.guestsBy answer connected) text state delta none
      = some result) :
  ∃ found, answer inner.tokenizer inner.text inner.state inner.delta = some found
  := by
  obtain ⟨o, ran, -⟩ := Lexer.tokenize?_eq_some_iff.mp answered
  cases nests with
  | @handOn l text state delta p language inner t reached turn best nonempty =>
    have ahead : p.rest ≠ [] := by
      intro done
      simp [Lexer.region, done] at nonempty
    have ran := reached.run?_eq agree ran
    obtain ⟨next, moved⟩ := Lexer.exists_moves_of_run? ahead ran
    have guest : registry.guestsBy answer true language = some ⟨t.initial, answer t⟩ :=
      TokenizerRegistry.guestsBy_eq_some_iff.mpr ⟨rfl, t, best, rfl⟩
    cases moved with
    | leave taken gone =>
      obtain ⟨rfl, rfl⟩ := Prod.mk.inj (Option.some.inj (turn.1.symm.trans taken.1))
      simp [guest] at gone
    | pass taken found empty => exact absurd empty nonempty
    | @handOn other state t' result taken found _ answer =>
      obtain ⟨rfl, rfl⟩ := Prod.mk.inj (Option.some.inj (turn.1.symm.trans taken.1))
      obtain rfl := Option.some.inj (guest.symm.trans found)
      exact ⟨result, answer⟩
    | apply none_taken => exact absurd turn (none_taken _ _)
    | skip none_taken => exact absurd turn (none_taken _ _)

theorem Nests.exists_lexer (nests : Nests registry outer inner) :
  ∃ l text state delta, outer = ⟨.lexer l true, text, state, delta⟩
  := by
  cases nests with
  | handOn => exact ⟨_, _, _, _, rfl⟩

theorem Nests.exists_best? (nests : Nests registry outer inner) :
  ∃ language, registry.best? language = some inner.tokenizer
  := by
  cases nests with
  | handOn reached turn best nonempty => exact ⟨_, best⟩

/-- A call that is nested in itself is answered at no depth. -/
theorem Call.not_transGen_self (rules : registry.followsRules) {depth : Nat} {result : LineTokens}
    (answer : c.tokenizer.tokenizeWithin registry depth c.text c.state c.delta none
      = some result) :
  ¬ TransGen (Nests registry) c c
  := by
  intro cycle
  induction depth generalizing c result with
  | zero =>
    obtain ⟨d, nests, -⟩ := TransGen.head'_iff.mp cycle
    obtain ⟨l, text, state, delta, rfl⟩ := nests.exists_lexer
    simp [Tokenizer.tokenizeWithin] at answer
  | succ depth ih =>
    obtain ⟨d, nests, back⟩ := TransGen.head'_iff.mp cycle
    obtain ⟨l, text, state, delta, rfl⟩ := nests.exists_lexer
    rw [Tokenizer.tokenizeWithin_lexer] at answer
    obtain ⟨found, answer⟩ := nests.exists_answer (Tokenizer.answersAs_tokenize? rules _) answer
    apply ih answer (TransGen.tail' back nests)

/-- The calls nested in one that is answered, to any depth, are answered. -/
theorem Call.exists_answer_of_reflTransGen (rules : registry.followsRules) {result : LineTokens}
    (answer : outer.answer? registry = some result)
    (nested : ReflTransGen (Nests registry) outer inner) :
  ∃ found, inner.answer? registry = some found
  := by
  induction nested with
  | refl => exact ⟨result, answer⟩
  | tail _ nests ih =>
    obtain ⟨found, answer⟩ := ih
    obtain ⟨l, text, state, delta, rfl⟩ := nests.exists_lexer
    rw [answer?, Tokenizer.tokenize?_lexer rules] at answer
    apply nests.exists_answer _ answer
    intro language t text inner delta result _ answered
    apply answered

/-! ### Calls that come to no end -/

/-- A run comes to its end when it can move on from each place that it gets to. -/
theorem Lexer.exists_run? {l : Lexer} {resolve : String → Option Guest} {delta : Nat}
    {p : Lexer.Progress}
    (advances : ∀ q, l.Reaches resolve delta p q → q.rest ≠ [] →
      ∃ next, l.Moves resolve delta q next) :
  ∃ q, l.run? resolve delta p = some q
  := by
  induction bound : p.stepsLeft using Nat.strongRecOn generalizing p with
  | _ n ih =>
  by_cases done : p.rest = []
  · use p
    apply Lexer.run?_of_rest_eq_nil done
  · obtain ⟨next, moved⟩ := advances p .refl done
    have shorter := Lexer.stepsLeft_step?_lt done (Lexer.step?_eq_some_iff.mpr moved)
    rw [Lexer.run?_of_moves done moved]
    apply ih next.stepsLeft (bound ▸ shorter) _ rfl
    intro q reached
    apply advances q (.head ⟨done, moved⟩ reached)

/-- A call is answered when the calls nested in it are. -/
theorem Call.exists_answer (rules : registry.followsRules) (rule : c.tokenizer.followsRules)
    (nested : ∀ d, Nests registry c d → ∃ result, d.answer? registry = some result) :
  ∃ result, c.answer? registry = some result
  := by
  obtain ⟨t, text, state, delta⟩ := c
  cases t with
  | plain p =>
    use p.tokenize text state delta none
    rw [answer?, Tokenizer.tokenize?, Tokenizer.tokenizeWithin]
  | function language initial run => simp [Tokenizer.followsRules] at rule
  | lexer l connected =>
    rw [answer?, Tokenizer.tokenize?_lexer rules]
    have runs : ∃ q, l.run? (registry.guests connected) delta (.ofText text state) = some q := by
      apply Lexer.exists_run?
      intro p reached ahead
      apply Lexer.exists_moves
      intro language inner guest turn found nonempty
      obtain ⟨rfl, t, best, rfl⟩ := TokenizerRegistry.guestsBy_eq_some_iff.mp found
      apply nested _ (.handOn reached turn best nonempty)
    obtain ⟨q, ran⟩ := runs
    exact ⟨_, Lexer.tokenize?_eq_some_iff.mpr ⟨q, ran, rfl⟩⟩

theorem Lexer.Reaches.follows {l : Lexer} {connected : Bool} {text : Text} {state : LexerState}
    {delta : Nat} {p : Lexer.Progress}
    (reached : l.Reaches (registry.guests connected) delta (.ofText text state) p) :
  l.Follows registry text state p
  := by
  induction reached with
  | refl => apply Lexer.Follows.ofText
  | tail _ advance ih => apply advance.2.follows advance.1 ih

/--
A nested call has less text, or goes on with the language that was embedded before the call it is
nested in, or is the first call of a language that a rule entered without consuming anything.
-/
theorem Nests.text_cases (nests : Nests registry outer inner) :
  inner.text.length < outer.text.length
    ∨ inner.text = outer.text ∧ inner.state.embedded.length < outer.state.embedded.length
    ∨ inner = .first inner.tokenizer outer.text outer.delta
      ∧ ∃ l language, outer.tokenizer = .lexer l true ∧ l.EntersBefore outer.text language
  := by
  cases nests with
  | @handOn l text state delta p language inner t reached turn best nonempty =>
    have follows := reached.follows
    by_cases shorter : (l.region p).length < text.length
    · left
      apply shorter
    · right
      obtain ⟨region_eq, rest_eq, position_eq⟩ := follows.whole (Nat.not_lt.mp shorter)
      rcases follows.guest rest_eq _ _ turn.1 with carried | ⟨enters, other, found, rfl⟩
      · left
        use region_eq
        have frames := LexerState.length_embedded_of_guest? carried
        dsimp only
        omega
      · right
        obtain rfl := Option.some.inj (best.symm.trans found)
        rw [region_eq, position_eq]
        exact ⟨rfl, l, language, rfl, enters⟩

/-- Some first call that is nested in a call, to any depth, is nested in itself. -/
def Call.Loops (registry : TokenizerRegistry) (c : Call) : Prop :=
  ∃ t text delta, ReflTransGen (Nests registry) c (.first t text delta)
    ∧ TransGen (Nests registry) (.first t text delta) (.first t text delta)

theorem Call.Loops.of_reflTransGen (nested : ReflTransGen (Nests registry) outer inner)
    (loops : inner.Loops registry) :
  outer.Loops registry
  := by
  obtain ⟨t, text, delta, reached, cycle⟩ := loops
  exact ⟨t, text, delta, nested.trans reached, cycle⟩

/-- The tokenizers of a registry. -/
abbrev TokenizerRegistry.Member (registry : TokenizerRegistry) : Type :=
  { t // t ∈ registry.entries.map (·.provider) }

/--
The first call of `s` on a text is nested in that of `t`, to some depth, which itself is nested in
the call `c`.
-/
def NestedBelow (registry : TokenizerRegistry) (c : Call) (text : Text) (delta : Nat)
    (s t : registry.Member) : Prop :=
  ReflTransGen (Nests registry) c (.first t text delta)
    ∧ TransGen (Nests registry) (.first t text delta) (.first s text delta)

/-- Where nothing loops, first calls on a text nest only finitely often. -/
theorem wellFounded_nestedBelow (straight : ¬ c.Loops registry) (text : Text) (delta : Nat) :
  WellFounded (NestedBelow registry c text delta)
  := by
  have finite : Finite registry.Member := (List.finite_toSet _).to_subtype
  have transitive : IsTrans registry.Member (NestedBelow registry c text delta) := by
    constructor
    rintro r s t ⟨-, further⟩ ⟨reached, nested⟩
    exact ⟨reached, nested.trans further⟩
  have irreflexive : Std.Irrefl (NestedBelow registry c text delta) := by
    constructor
    rintro t ⟨reached, cycle⟩
    apply straight ⟨t, text, delta, reached, cycle⟩
  apply Finite.wellFounded_of_trans_of_irrefl

/-- Where nothing loops, the first calls nested in a call are answered, if shorter texts are. -/
theorem Call.exists_answer_first (rules : registry.followsRules)
    (straight : ¬ c.Loops registry) {text : Text} {delta : Nat}
    (shorter : ∀ d : Call, d.tokenizer.followsRules → d.text.length < text.length →
      ¬ d.Loops registry → ∃ result, d.answer? registry = some result)
    (t : registry.Member) (reached : ReflTransGen (Nests registry) c (.first t text delta)) :
  ∃ result, (Call.first t text delta).answer? registry = some result
  := by
  induction t using (wellFounded_nestedBelow straight text delta).induction with
  | _ t ih =>
  have rule := registry.followsRules_of_mem rules t.2
  apply Call.exists_answer rules rule
  intro d nests
  obtain ⟨language, best⟩ := nests.exists_best?
  have reachedNow := reached.tail nests
  rcases nests.text_cases with less | ⟨-, fewer⟩ | ⟨first, -⟩
  · apply shorter d (registry.followsRules_of_best? rules best) less
    intro loops
    apply straight (loops.of_reflTransGen reachedNow)
  · have fresh := Tokenizer.embedded_initial rule
    simp [Call.first, fresh] at fewer
  · rw [first] at nests reachedNow ⊢
    have among := Registry.mem_of_best?_eq_some best
    apply ih ⟨d.tokenizer, among⟩ ⟨reached, .single nests⟩ reachedNow

/--
A call is answered where nothing loops, by induction on the text and then on the frames; first
calls on the same text are left.
-/
theorem Call.exists_answer_of_not_loops (rules : registry.followsRules)
    (rule : c.tokenizer.followsRules) (straight : ¬ c.Loops registry) :
  ∃ result, c.answer? registry = some result
  := by
  induction size : c.text.length using Nat.strongRecOn generalizing c with
  | _ n shorter =>
  induction frames : c.state.embedded.length using Nat.strongRecOn generalizing c with
  | _ m fewer =>
  apply Call.exists_answer rules rule
  intro d nests
  obtain ⟨language, best⟩ := nests.exists_best?
  have ruleToo := registry.followsRules_of_best? rules best
  have straightToo : ¬ d.Loops registry := fun loops =>
    straight (loops.of_reflTransGen (.single nests))
  rcases nests.text_cases with less | ⟨same, less⟩ | ⟨first, -⟩
  · apply shorter d.text.length (by omega) ruleToo straightToo rfl
  · apply fewer d.state.embedded.length (by omega) ruleToo straightToo (by rw [same, size]) rfl
  · rw [first] at nests ⊢
    apply Call.exists_answer_first rules straight _
      ⟨d.tokenizer, Registry.mem_of_best?_eq_some best⟩ (.single nests)
    intro e ruled less straight
    apply shorter e.text.length (by omega) ruled straight rfl

/-! ### Languages entered on no text -/

/-- No rule enters a language without consuming anything. -/
def Lexer.EntersOnText (l : Lexer) : Prop :=
  ∀ text language, text ≠ [] → ¬ l.EntersBefore text language

/-- Nested calls are on texts with characters, none longer than that of the call around them. -/
theorem Nests.text_ne_nil (nests : Nests registry outer inner) :
  inner.text ≠ [] ∧ inner.text.length ≤ outer.text.length
  := by
  constructor
  · cases nests with
    | handOn reached turn best nonempty => apply nonempty
  · rcases nests.text_cases with less | ⟨same, -⟩ | ⟨first, -⟩
    · apply Nat.le_of_lt less
    · rw [same]
    · rw [first, Call.first]

theorem Call.length_le_of_reflTransGen (nested : ReflTransGen (Nests registry) outer inner) :
  inner.text.length ≤ outer.text.length
  := by
  induction nested with
  | refl => apply Nat.le_refl
  | tail _ nests ih => apply Nat.le_trans nests.text_ne_nil.2 ih

/-- Where languages are entered on text only, nothing loops. -/
theorem Call.not_loops (rules : registry.followsRules)
    (consuming : ∀ l, Tokenizer.lexer l true ∈ registry.entries.map (·.provider) →
      l.EntersOnText) :
  ¬ c.Loops registry
  := by
  rintro ⟨t, text, delta, -, cycle⟩
  obtain ⟨d, nests, back⟩ := TransGen.head'_iff.mp cycle
  obtain ⟨e, -, closing⟩ := TransGen.tail'_iff.mp cycle
  obtain ⟨language, best⟩ := closing.exists_best?
  have among := Registry.mem_of_best?_eq_some best
  have fresh := Tokenizer.embedded_initial (registry.followsRules_of_mem rules among)
  have returned := Call.length_le_of_reflTransGen back
  rcases nests.text_cases with less | ⟨-, fewer⟩ | ⟨-, l, other, same, enters⟩
  · omega
  · simp only [Call.first] at fresh fewer
    simp [fresh] at fewer
  · rw [same] at among
    apply consuming l among text other closing.text_ne_nil.1 enters

/--
A line is answered exactly when no call nested in it, to any depth, is nested in itself, and
exactly when calls nested to some depth are enough.  This is so for every line when no lexer of
the registry enters a language without consuming anything.
-/
theorem Tokenizer.isSome_tokenize?_iff (rules : registry.followsRules) (l : Lexer)
    (connected : Bool) (line : Text) (state : LexerState) (delta : Nat) (stop : Option Nat) :
  (((lexer l connected).tokenize? registry line state delta stop).isSome
      ↔ ¬ Call.Loops registry ⟨lexer l connected, visiblePart line delta stop, state, delta⟩)
    ∧ (((lexer l connected).tokenize? registry line state delta stop).isSome
        ↔ ∃ depth, ((lexer l connected).tokenizeWithin registry depth line state delta stop).isSome)
    ∧ ((∀ other, Tokenizer.lexer other true ∈ registry.entries.map (·.provider) →
          other.EntersOnText) →
        ((lexer l connected).tokenize? registry line state delta stop).isSome)
  := by
  have shown : (lexer l connected).tokenize? registry line state delta stop
      = Call.answer? registry ⟨lexer l connected, visiblePart line delta stop, state, delta⟩ := by
    rw [Call.answer?, tokenize?_lexer rules, tokenize?_lexer rules]
    rfl
  have answered_iff : ((lexer l connected).tokenize? registry line state delta stop).isSome
      ↔ ¬ Call.Loops registry
          ⟨lexer l connected, visiblePart line delta stop, state, delta⟩ := by
    rw [shown, Option.isSome_iff_exists]
    constructor
    · rintro ⟨result, answer⟩ ⟨t, text, offset, reached, cycle⟩
      obtain ⟨found, answer⟩ := Call.exists_answer_of_reflTransGen rules answer reached
      apply Call.not_transGen_self rules answer cycle
    · apply Call.exists_answer_of_not_loops rules rfl
  refine ⟨answered_iff, ?_, ?_⟩
  · constructor
    · intro answered
      use depthBound registry line state
      apply answered
    · rintro ⟨depth, answered⟩
      obtain ⟨result, answer⟩ := Option.isSome_iff_exists.mp answered
      rw [tokenize?_of_tokenizeWithin rules rfl answer]
      rfl
  · intro consuming
    apply answered_iff.mpr
    apply Call.not_loops rules consuming

/-- A language that embeds itself without consuming anything. -/
def mirrors : Grammar where
  name := "mirror"
  states := [("root", [.own { pattern := "", token := "@rematch", nextEmbedded := "mirror" }])]

/-- The lexer of mirrors. -/
def mirrorLexer : Lexer :=
  mirrors.compile.toOption.get (by decide +kernel)

/-- The registry with mirrors only. -/
def mirrorRegistry : TokenizerRegistry :=
  (TokenizerRegistry.ofGrammars? [mirrors]).get (by decide +kernel)

theorem mirrorRegistry_followsRules :
  mirrorRegistry.followsRules
  := by
  decide +kernel

/-- A mirror nests itself forever, and a style with a script in it does not. -/
theorem Tokenizer.isSome_tokenize?_mirrors :
  mirrorRegistry.followsRules
    ∧ Call.Loops mirrorRegistry ⟨lexer mirrorLexer true, "a".toList, .initial "root", 0⟩
    ∧ styleRegistry.followsRules
    ∧ ¬ Call.Loops styleRegistry ⟨lexer styleLexer true, "a`b".toList, .initial "root", 0⟩
  := by
  have mirrorRules := mirrorRegistry_followsRules
  have styleRules := styleRegistry_followsRules
  have endless := Tokenizer.isSome_tokenize?_iff mirrorRules mirrorLexer true "a".toList
    (.initial "root") 0 none
  have finite := Tokenizer.isSome_tokenize?_iff styleRules styleLexer true "a`b".toList
    (.initial "root") 0 none
  refine ⟨mirrorRules, ?_, styleRules, ?_⟩
  · apply Classical.not_not.mp
    rw [visiblePart] at endless
    rw [← endless.1]
    decide +kernel
  · apply finite.1.mp
    decide +kernel

/-- Calls nested to whatever depth are not enough for a mirror. -/
theorem Tokenizer.mirror_endless :
  (lexer mirrorLexer true).tokenize? mirrorRegistry "a".toList (.initial "root") 0 none = none
    ∧ ∀ depth, (lexer mirrorLexer true).tokenizeWithin mirrorRegistry depth "a".toList
        (.initial "root") 0 none = none
  := by
  have rules := mirrorRegistry_followsRules
  have endless : (lexer mirrorLexer true).tokenize? mirrorRegistry "a".toList (.initial "root") 0
      none = none := by
    decide +kernel
  use endless
  intro depth
  cases answer : (lexer mirrorLexer true).tokenizeWithin mirrorRegistry depth "a".toList
    (.initial "root") 0 none with
  | none => rfl
  | some result =>
    rw [tokenize?_of_tokenizeWithin rules rfl answer] at endless
    simp at endless

end EditorModes
