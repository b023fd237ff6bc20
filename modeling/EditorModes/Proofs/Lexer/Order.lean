import EditorModes.Proofs.Lexer.Step
import Mathlib.Data.List.Basic

/-!
# Tokens in order

The tokens of a line start one after another, each at a character of the part of the line that is
visible, and this part is read to its end.  Tokens come from the lexer's own rules, from skipped
characters and from tokenizers of embedded languages, whose tokens are spliced in; the order is
kept because each step adds only tokens that start in the text it consumes.
-/

namespace EditorModes

/-! ### Collecting tokens -/

namespace LineBuilder

@[simp]
theorem tokens_switch (b : LineBuilder) (start : Nat) (language : String) :
  (b.switch start language).tokens = b.tokens
  := by
  unfold switch
  split
  · rfl
  · split_ifs <;> rfl

@[simp]
theorem tokens_switchAll (b : LineBuilder) (modes : List ModeTransition) :
  (b.switchAll modes).tokens = b.tokens
  := by
  induction modes generalizing b with
  | nil => rfl
  | cons m modes ih =>
    rw [switchAll, List.foldl_cons]
    apply (ih _).trans
    apply tokens_switch

@[simp]
theorem tokens_splice (b : LineBuilder) (tokens : List Token) (modes : List ModeTransition) :
  (b.splice tokens modes).tokens = tokens.reverse ++ b.tokens
  := by
  induction tokens generalizing b modes with
  | nil => simp [splice]
  | cons t tokens ih => simp [splice, ih]

/-- A token is added, or merged with the latest one, which is of the same type. -/
theorem tokens_token (b : LineBuilder) (start : Nat) (type : String) (bracket : Bool) :
  (∃ last earlier, b.tokens = last :: earlier ∧ last.type = type
      ∧ (b.token start type bracket).tokens = b.tokens)
    ∨ (b.token start type bracket).tokens = ⟨start, type⟩ :: b.tokens
  := by
  unfold token
  dsimp only
  split_ifs with merges
  · left
    simp only [Bool.and_eq_true, Option.any_eq_true, decide_eq_true_eq] at merges
    obtain ⟨-, last, latest, same⟩ := merges
    obtain ⟨earlier, tokens_eq⟩ := List.head?_eq_some_iff.mp latest
    use last, earlier
  · right
    rfl

end LineBuilder

/-! ### Tokens over a text -/

/-- Tokens that start one after another, each at a character of a text that stands at `delta`. -/
structure TokensOver (delta : Nat) (text : Text) (tokens : List Token) : Prop where
  in_order : tokens.Pairwise (·.start < ·.start)
  at_character : ∀ t ∈ tokens, ∃ before after,
    text = before ++ after ∧ after ≠ [] ∧ t.start = delta + before.byteSize

namespace TokensOver

variable {delta : Nat} {text : Text} {tokens : List Token}

theorem nil (delta : Nat) (text : Text) :
  TokensOver delta text []
  := by
  constructor <;> simp

/-- A token at the start of a text is over it. -/
theorem single (delta : Nat) (type : String) (nonempty : text ≠ []) :
  TokensOver delta text [⟨delta, type⟩]
  := by
  constructor
  · simp
  · intro t among
    obtain rfl := List.mem_singleton.mp among
    use [], text
    simp [nonempty]

theorem start_lt (placed : TokensOver delta text tokens) {t : Token} (among : t ∈ tokens) :
  t.start < delta + text.byteSize
  := by
  obtain ⟨before, after, rfl, nonempty, start_eq⟩ := placed.at_character t among
  have := Text.byteSize_pos nonempty
  rw [Text.byteSize_append]
  omega

/-- Tokens over two texts in a row make up tokens over the two. -/
theorem append {others : List Token} {more : Text} (placed : TokensOver delta text tokens)
    (next : TokensOver (delta + text.byteSize) more others) :
  TokensOver delta (text ++ more) (tokens ++ others)
  := by
  constructor
  · apply List.pairwise_append.mpr
    refine ⟨placed.in_order, next.in_order, ?_⟩
    intro t among u amongOthers
    have := placed.start_lt among
    obtain ⟨before, after, -, -, start_eq⟩ := next.at_character u amongOthers
    omega
  · intro t among
    rcases List.mem_append.mp among with among | among
    · obtain ⟨before, after, rfl, nonempty, start_eq⟩ := placed.at_character t among
      use before, after ++ more
      simp [nonempty, start_eq]
    · obtain ⟨before, after, rfl, nonempty, start_eq⟩ := next.at_character t among
      use text ++ before, after
      simp [nonempty, start_eq]
      omega

theorem extend (placed : TokensOver delta text tokens) (more : Text) :
  TokensOver delta (text ++ more) tokens
  := by
  have := placed.append (nil (delta + text.byteSize) more)
  rwa [List.append_nil] at this

end TokensOver

/-! ### Plain tokenizers -/

namespace PlainLexer

/-- The first piece of a text is a prefix of it with at least one character. -/
theorem piece_prefix (p : PlainLexer) (c : Char) (t : Text) :
  (p.piece c t).1 <+: c :: t ∧ (p.piece c t).1 ≠ []
  := by
  by_cases white : c ∈ p.rules.whitespace
  · simp [piece, white, TokenRules.splitWhitespace, Text.spanWhile, List.takeWhile_prefix]
  · by_cases separates : c ∈ p.rules.separators
    · simp [piece, white, TokenRules.splitToken, separates]
    · simp [piece, white, TokenRules.splitToken, separates, Text.spanWhile,
        List.takeWhile_prefix]

/-- The tokens of a text are over it. -/
theorem tokensOver_tokensFrom (p : PlainLexer) (count offset : Nat) (text : Text) :
  TokensOver offset text (p.tokensFrom count offset text)
  := by
  induction count generalizing offset text with
  | zero => apply TokensOver.nil
  | succ count ih =>
    cases text with
    | nil => apply TokensOver.nil
    | cons c text =>
      obtain ⟨first, nonempty⟩ := p.piece_prefix c text
      rw [tokensFrom, ← List.prefix_iff_eq_append.mp first]
      apply (TokensOver.single offset _ nonempty).append
      rw [List.prefix_iff_eq_append.mp first]
      apply ih

end PlainLexer

/-! ### Lexers -/

/-- A tokenizer of the visible part of a line reads it to the end and gives tokens over it. -/
structure LineTokens.Covers (result : LineTokens) (delta : Nat) (text : Text) : Prop where
  tokens_over : TokensOver delta text result.tokens
  stop_eq : result.stop = delta + text.byteSize

/-- The answers of guests cover the texts that are handed to them. -/
def GuestsCover (resolve : String → Option Guest) : Prop :=
  ∀ language guest text state delta result, resolve language = some guest →
    guest.run text state delta = some result → result.Covers delta text

namespace Lexer

/-- The text consumed on the way to a place is what is not ahead, and the tokens are over it. -/
structure Progress.Covers (p : Progress) (delta : Nat) (text passed : Text) : Prop where
  text_eq : text = passed ++ p.rest
  position_eq : p.position = passed.byteSize
  tokens_over : TokensOver delta passed p.line.tokens.reverse

variable {l : Lexer} {resolve : String → Option Guest} {delta : Nat} {p q : Progress}
  {text passed : Text}

/-- Tokens over the consumed text stay so when a token is added for the text consumed next. -/
theorem Progress.Covers.token (covers : p.Covers delta text passed) (line : LineBuilder)
    (same : line.tokens = p.line.tokens) (type : String) (bracket : Bool) {more : Text}
    (nonempty : more ≠ []) :
  TokensOver delta (passed ++ more)
    (line.token (delta + p.position) type bracket).tokens.reverse
  := by
  rcases line.tokens_token (delta + p.position) type bracket with ⟨_, _, -, -, merged⟩ | added
  · rw [merged, same]
    apply covers.tokens_over.extend
  · rw [added, same, List.reverse_cons]
    apply covers.tokens_over.append
    rw [covers.position_eq]
    apply TokensOver.single _ _ nonempty

/-- Each move consumes a part of the text ahead and adds tokens over it. -/
theorem Moves.covers (guests : GuestsCover resolve) (ahead : p.rest ≠ [])
    (moved : l.Moves resolve delta p q) (covers : p.Covers delta text passed) :
  ∃ more, q.Covers delta text (passed ++ more)
  := by
  cases moved with
  | leave turn gone =>
    use []
    rw [List.append_nil]
    exact ⟨covers.text_eq, covers.position_eq, covers.tokens_over⟩
  | pass turn found empty =>
    use []
    rw [List.append_nil]
    exact ⟨covers.text_eq, covers.position_eq, covers.tokens_over⟩
  | handOn turn found nonempty answer =>
    have inner := guests _ _ _ _ _ _ found answer
    use l.region p
    constructor
    · simp [afterGuest, region, covers.text_eq]
    · simp [afterGuest, covers.position_eq]
    · rw [afterGuest, LineBuilder.tokens_splice, List.reverse_append, List.reverse_reverse]
      apply covers.tokens_over.append
      rw [← covers.position_eq]
      apply inner.tokens_over
  | @apply rule count turn fresh found =>
    use p.rest.take count
    constructor
    · simp [applyRule, covers.text_eq]
    · simp [applyRule, covers.position_eq]
    · simp only [applyRule]
      split
      · split_ifs with empty
        · rw [empty, List.append_nil]
          apply covers.tokens_over
        · apply covers.token _ (by simp) _ _ empty
      · apply covers.tokens_over.extend
  | skip turn reason =>
    use p.rest.take 1
    constructor
    · simp only [skipChar]
      rw [List.append_assoc, List.take_append_drop, covers.text_eq]
    · simp [skipChar, covers.position_eq]
    · apply covers.token _ (by simp)
      simpa using ahead

/-- The tokens of a line are over its visible part, when those of embedded regions are. -/
theorem covers_tokenize? (guests : GuestsCover resolve) {line : Text} {state : LexerState}
    {stop : Option Nat} {result : LineTokens}
    (answer : l.tokenize? resolve line state delta stop = some result) :
  result.Covers delta (visiblePart line delta stop)
  := by
  obtain ⟨p, ran, rfl⟩ := tokenize?_eq_some_iff.mp answer
  have start : (Progress.ofText (visiblePart line delta stop) state).Covers delta
      (visiblePart line delta stop) [] := by
    constructor
    · rfl
    · rfl
    · apply TokensOver.nil
  have step : ∀ p q, p.rest ≠ [] →
      (∃ passed, p.Covers delta (visiblePart line delta stop) passed) →
      l.Moves resolve delta p q →
      ∃ passed, q.Covers delta (visiblePart line delta stop) passed := by
    rintro p q ahead ⟨passed, covers⟩ moved
    obtain ⟨more, covers⟩ := moved.covers guests ahead covers
    use passed ++ more
  obtain ⟨⟨passed, covers⟩, done⟩ := run?_keeps step ⟨[], start⟩ ran
  have whole := covers.text_eq
  rw [done, List.append_nil] at whole
  rw [whole]
  constructor
  · apply covers.tokens_over
  · rw [LineBuilder.finish, covers.position_eq]

end Lexer

/-! ### Tokenizers of a registry -/

/-- Whether a tokenizer follows rules, those of a grammar or of plain text. -/
def Tokenizer.followsRules : Tokenizer → Bool
  | lexer _ _ => true
  | plain _ => true
  | function _ _ _ => false

/-- Whether all tokenizers of the registry follow rules. -/
def TokenizerRegistry.followsRules (registry : TokenizerRegistry) : Bool :=
  registry.entries.all (·.provider.followsRules)

theorem TokenizerRegistry.followsRules_of_mem {registry : TokenizerRegistry}
    (rules : registry.followsRules) {t : Tokenizer}
    (among : t ∈ registry.entries.map (·.provider)) :
  t.followsRules
  := by
  obtain ⟨entry, registered, rfl⟩ := List.mem_map.mp among
  apply List.all_eq_true.mp rules entry registered

theorem TokenizerRegistry.followsRules_of_best? {registry : TokenizerRegistry}
    (rules : registry.followsRules) {language : String} {t : Tokenizer}
    (best : registry.best? language = some t) :
  t.followsRules
  := registry.followsRules_of_mem rules (Registry.mem_of_best?_eq_some best)

namespace Tokenizer

/-- Tokenizers that follow rules, nested to any depth, give tokens over the visible part. -/
theorem covers_tokenizeWithin {registry : TokenizerRegistry} (rules : registry.followsRules)
    (depth : Nat) {t : Tokenizer} (rule : t.followsRules) {line : Text} {state : LexerState}
    {delta : Nat} {stop : Option Nat} {result : LineTokens}
    (answer : t.tokenizeWithin registry depth line state delta stop = some result) :
  result.Covers delta (visiblePart line delta stop)
  := by
  induction depth generalizing t line state delta stop result with
  | zero =>
    cases t with
    | lexer l connected => simp [tokenizeWithin] at answer
    | plain p =>
      obtain rfl := Option.some.inj answer
      exact ⟨p.tokensOver_tokensFrom _ _ _, rfl⟩
    | function language initial run => simp [followsRules] at rule
  | succ depth ih =>
    cases t with
    | lexer l connected =>
      rw [tokenizeWithin_lexer] at answer
      apply Lexer.covers_tokenize? _ answer
      intro language guest text state delta result found answered
      obtain ⟨-, provider, best, rfl⟩ := TokenizerRegistry.guestsBy_eq_some_iff.mp found
      exact ih (registry.followsRules_of_best? rules best) answered
    | plain p =>
      obtain rfl := Option.some.inj answer
      exact ⟨p.tokensOver_tokensFrom _ _ _, rfl⟩
    | function language initial run => simp [followsRules] at rule

/-- The guests of a lexer cover the texts that are handed to them, at each depth. -/
theorem guestsCover_within {registry : TokenizerRegistry} (rules : registry.followsRules)
    (depth : Nat) (connected : Bool) :
  GuestsCover (registry.guestsWithin depth connected)
  := by
  intro language guest text state delta result found answered
  obtain ⟨-, t, best, rfl⟩ := TokenizerRegistry.guestsBy_eq_some_iff.mp found
  apply covers_tokenizeWithin rules depth (registry.followsRules_of_best? rules best) answered

/--
Where the tokenizers of the registry follow rules, the tokens that a lexer gives for a line start
one after another, none of them before the line does or where tokenizing stopped or later, each at
a character of the line; and tokenizing stops at the end of the visible part.
-/
theorem tokens_ordered {registry : TokenizerRegistry} (rules : registry.followsRules)
    (l : Lexer) (connected : Bool) {line : Text} {state : LexerState} {delta : Nat}
    {stop : Option Nat} {result : LineTokens}
    (answer : (lexer l connected).tokenize? registry line state delta stop = some result) :
  result.tokens.Pairwise (·.start < ·.start)
    ∧ (∀ t ∈ result.tokens, delta ≤ t.start ∧ t.start < result.stop
        ∧ (line.splitAt? (t.start - delta)).isSome)
    ∧ result.stop = delta + (visiblePart line delta stop).byteSize
  := by
  have covers := covers_tokenizeWithin rules _ (t := .lexer l connected) rfl answer
  refine ⟨covers.tokens_over.in_order, ?_, covers.stop_eq⟩
  intro t among
  obtain ⟨before, after, text_eq, nonempty, start_eq⟩ := covers.tokens_over.at_character t among
  refine ⟨by omega, ?_, ?_⟩
  · rw [covers.stop_eq]
    apply covers.tokens_over.start_lt among
  · obtain ⟨hidden, line_eq⟩ := visiblePart_isPrefix line delta stop
    rw [start_eq, Nat.add_sub_cancel_left, ← line_eq, text_eq, List.append_assoc,
      Text.splitAt?_append]
    rfl

end Tokenizer

/-- The lexers of grammars, each of which may embed the others, when all of them compile. -/
def TokenizerRegistry.ofGrammars? (grammars : List Grammar) : Option TokenizerRegistry :=
  grammars.foldlM (fun registry g =>
    g.compile.toOption.map fun l => (registry.add (.lexer l true)).2) {}

/-- Scripts of words and numbers. -/
def scripts : Grammar where
  name := "script"
  defaultToken := "source"
  states := [("root", [.own { pattern := "[a-z]+", token := "identifier" },
    .own { pattern := "[0-9]+", token := "number" }])]

/-- Styles with scripts between backticks. -/
def styles : Grammar where
  name := "style"
  defaultToken := "text"
  states := [
    ("root", [
      .own { pattern := "`", token := "delimiter", next := "@script", nextEmbedded := "script" },
      .own { pattern := "[a-z]+", token := "property" },
      .own { pattern := ":", token := "delimiter" }]),
    ("script", [
      .own { pattern := "`", token := "delimiter", next := "@pop", nextEmbedded := "@pop" }])]

/-- The lexer of styles. -/
def styleLexer : Lexer :=
  styles.compile.toOption.get (by decide +kernel)

/-- The lexers of styles and of the scripts in them. -/
def styleRegistry : TokenizerRegistry :=
  (TokenizerRegistry.ofGrammars? [scripts, styles]).get (by decide +kernel)

theorem styleRegistry_followsRules :
  styleRegistry.followsRules
  := by
  decide +kernel

/-- The tokens of a style with a script in it are in order, from within another style on. -/
theorem Tokenizer.tokens_ordered_styles :
  styleRegistry.followsRules
    ∧ (Tokenizer.lexer styleLexer true).tokenize? styleRegistry "é 1`b:`x".toList
        ⟨⟨"script", ["root"], 0⟩, [("script", ⟨"gone", [], 2⟩)]⟩ 7 none
      = some ⟨[⟨7, "source"⟩, ⟨11, "delimiter"⟩, ⟨12, "property"⟩, ⟨13, "delimiter"⟩,
            ⟨15, "identifier"⟩],
          [⟨7, "script"⟩, ⟨11, "style"⟩, ⟨15, "script"⟩], 16,
          ⟨⟨"script", ["root"], 0⟩, [("script", ⟨"root", [], 0⟩)]⟩⟩
    ∧ [7, 11, 12, 13, 15].Pairwise (· < ·)
  := by
  have rules := styleRegistry_followsRules
  have answer :
      (Tokenizer.lexer styleLexer true).tokenize? styleRegistry "é 1`b:`x".toList
          ⟨⟨"script", ["root"], 0⟩, [("script", ⟨"gone", [], 2⟩)]⟩ 7 none
        = some ⟨[⟨7, "source"⟩, ⟨11, "delimiter"⟩, ⟨12, "property"⟩, ⟨13, "delimiter"⟩,
              ⟨15, "identifier"⟩],
            [⟨7, "script"⟩, ⟨11, "style"⟩, ⟨15, "script"⟩], 16,
            ⟨⟨"script", ["root"], 0⟩, [("script", ⟨"root", [], 0⟩)]⟩⟩ := by
    decide +kernel
  obtain ⟨ordered, -, -⟩ := Tokenizer.tokens_ordered rules styleLexer true answer
  refine ⟨rules, answer, ?_⟩
  apply List.pairwise_map.mpr ordered

end EditorModes
