import EditorModes.Proofs.Lexer.Reading

/-!
# Pieces

A piece is a reading together with what is known of the step that consumed it: the language of the
tokenizer that took the step, whether it made the text a bracket, and how deep in embedded regions
the text stands.  Each step of a lexer adds its pieces to the line in one of the ways that
`LineBuilder.Adds` lists; what all of these keep holds of the lines of all tokenizers, nested to
any depth (`Tokenizer.holds_tokenizeWithin`).
-/

namespace EditorModes

/-- A reading with what is known of the step that consumed it. -/
structure Piece extends Reading where
  /-- The language of the tokenizer that took the step. -/
  language : String
  /-- Whether the step made the text a bracket. -/
  bracket : Bool
  /-- The number of embedded regions around the text. -/
  depth : Nat
  deriving DecidableEq, Repr

namespace Piece

/-- The piece as one of an embedded region. -/
def embed (r : Piece) : Piece :=
  { r with depth := r.depth + 1 }

@[simp]
theorem toReading_embed (r : Piece) :
  r.embed.toReading = r.toReading
  := rfl

@[simp]
theorem language_embed (r : Piece) :
  r.embed.language = r.language
  := rfl

@[simp]
theorem bracket_embed (r : Piece) :
  r.embed.bracket = r.bracket
  := rfl

@[simp]
theorem depth_embed (r : Piece) :
  r.embed.depth = r.depth + 1
  := rfl

end Piece

/-- The readings of pieces. -/
def readingsOf (pieces : List Piece) : List Reading :=
  pieces.map (·.toReading)

@[simp]
theorem readingsOf_nil :
  readingsOf [] = []
  := rfl

@[simp]
theorem readingsOf_append (pieces others : List Piece) :
  readingsOf (pieces ++ others) = readingsOf pieces ++ readingsOf others
  := List.map_append

@[simp]
theorem readingsOf_map_embed (pieces : List Piece) :
  readingsOf (pieces.map (·.embed)) = readingsOf pieces
  := by
  simp [readingsOf]

theorem toReading_mem {pieces : List Piece} {r : Piece} (among : r ∈ pieces) :
  r.toReading ∈ readingsOf pieces
  := List.mem_map_of_mem among

/-! ### The pieces of a line -/

/-- The pieces that a plain tokenizer cuts a text into. -/
def PlainLexer.pieces (p : PlainLexer) (offset : Nat) (text : Text) : List Piece :=
  (p.readingsFrom text.length offset text).map fun r => ⟨r, p.language, false, 0⟩

@[simp]
theorem PlainLexer.readingsOf_pieces (p : PlainLexer) (offset : Nat) (text : Text) :
  readingsOf (p.pieces offset text) = p.readingsFrom text.length offset text
  := by
  simp [readingsOf, pieces, Function.comp_def]

namespace Lexer

/-- The pieces consumed in the next step, where `cut` gives those of embedded regions. -/
def piecesAt (l : Lexer) (resolve : String → Option Guest)
    (cut : String → Text → LexerState → Nat → List Piece) (delta : Nat) (p : Progress) :
    List Piece :=
  match p.state.guest?, p.guestRan with
  | some (language, inner), false =>
    if (resolve language).isSome ∧ l.region p ≠ [] then
      (cut language (l.region p) inner (delta + p.position)).map (·.embed)
    else
      []
  | _, _ =>
    match if p.stalled < stallLimit then l.findRule? p.state p.rest else none with
    | some (rule, count) =>
      let text : Text := p.rest.take count
      let (type, bracket) := l.classify rule text
      if text = [] then []
      else [⟨⟨delta + p.position, text, some rule.action, type⟩, l.language, bracket.isSome, 0⟩]
    | none =>
      [⟨⟨delta + p.position, p.rest.take 1, none, some l.defaultToken⟩, l.language, false, 0⟩]

/-- The pieces consumed up to the end of the line. -/
def pieces (l : Lexer) (resolve : String → Option Guest)
    (cut : String → Text → LexerState → Nat → List Piece) (delta : Nat) (p : Progress) :
    List Piece :=
  if _ : p.rest = [] then []
  else
    match _ : l.step? resolve delta p with
    | none => []
    | some q => l.piecesAt resolve cut delta p ++ pieces l resolve cut delta q
termination_by p.stepsLeft
decreasing_by exact stepsLeft_step?_lt (by assumption) (by assumption)

end Lexer

namespace Tokenizer

/-- The pieces consumed by a tokenizer, with calls nested at most `depth` deep. -/
def piecesWithin (registry : TokenizerRegistry) (depth : Nat) (t : Tokenizer) (line : Text)
    (state : LexerState) (delta : Nat) (stop : Option Nat) : List Piece :=
  match t with
  | plain p => p.pieces delta (visiblePart line delta stop)
  | function _ _ _ => []
  | lexer l connected =>
    match depth with
    | 0 => []
    | depth + 1 =>
      let cut (language : String) (text : Text) (inner : LexerState) (delta : Nat) :
          List Piece :=
        match registry.best? language with
        | some guest => piecesWithin registry depth guest text inner delta none
        | none => []
      l.pieces (registry.guestsWithin depth connected) cut delta
        (.ofText (visiblePart line delta stop) state)

/-- The pieces of a line, those of embedded regions being the pieces of their tokenizers. -/
def pieces (registry : TokenizerRegistry) (t : Tokenizer) (line : Text) (state : LexerState)
    (delta : Nat) (stop : Option Nat) : List Piece :=
  t.piecesWithin registry (depthBound registry line state) line state delta stop

end Tokenizer

/-! ### Pieces and readings -/

namespace Lexer

variable {l : Lexer} {resolve : String → Option Guest}
  {cut : String → Text → LexerState → Nat → List Piece} {delta : Nat} {p q : Progress}

/-- Where no embedded tokenizer has its turn, the piece is that of a rule or a character. -/
theorem piecesAt_of_not_guestTurn (turn : ∀ language inner, ¬ GuestTurn p language inner) :
  l.piecesAt resolve cut delta p
    = match if p.stalled < stallLimit then l.findRule? p.state p.rest else none with
      | some (rule, count) =>
        if p.rest.take count = [] then []
        else [⟨⟨delta + p.position, p.rest.take count, some rule.action,
          (l.classify rule (p.rest.take count)).1⟩, l.language,
          (l.classify rule (p.rest.take count)).2.isSome, 0⟩]
      | none =>
        [⟨⟨delta + p.position, p.rest.take 1, none, some l.defaultToken⟩, l.language, false, 0⟩]
  := by
  unfold piecesAt
  split
  · next language inner embedded unvisited =>
    exact absurd ⟨embedded, unvisited⟩ (turn language inner)
  · rfl

/-- The readings of the next step are those of its pieces. -/
theorem readingsOf_piecesAt (l : Lexer) (resolve : String → Option Guest)
    (cut : String → Text → LexerState → Nat → List Piece) (delta : Nat) (p : Progress) :
  readingsOf (l.piecesAt resolve cut delta p)
    = l.readingsAt resolve (fun language text inner delta =>
        readingsOf (cut language text inner delta)) delta p
  := by
  by_cases turn : ∃ language inner, GuestTurn p language inner
  · obtain ⟨language, inner, embedded, unvisited⟩ := turn
    simp only [piecesAt, readingsAt, embedded, unvisited]
    split_ifs <;> simp
  · have turn : ∀ language inner, ¬ GuestTurn p language inner := fun language inner taken =>
      turn ⟨language, inner, taken⟩
    rw [piecesAt_of_not_guestTurn turn, readingsAt_of_not_guestTurn turn]
    cases if p.stalled < stallLimit then l.findRule? p.state p.rest else none with
    | none => rfl
    | some chosen =>
      dsimp only
      split_ifs <;> rfl

/-- The pieces up to the end of the line are those of the next step and the later ones. -/
theorem pieces_of_moves (ahead : p.rest ≠ []) (moved : l.Moves resolve delta p q) :
  l.pieces resolve cut delta p
    = l.piecesAt resolve cut delta p ++ l.pieces resolve cut delta q
  := by
  have stepped := step?_eq_some_iff.mpr moved
  rw [pieces, dif_neg ahead]
  split
  · next stuck => simp [stepped] at stuck
  · next following follows =>
    obtain rfl := Option.some.inj (stepped.symm.trans follows)
    rfl

theorem pieces_of_rest_eq_nil (done : p.rest = []) :
  l.pieces resolve cut delta p = []
  := by
  rw [pieces, dif_pos done]

/-- The readings up to the end of the line are those of its pieces. -/
theorem readingsOf_pieces (l : Lexer) (resolve : String → Option Guest)
    (cut : String → Text → LexerState → Nat → List Piece) (delta : Nat) (p : Progress) :
  readingsOf (l.pieces resolve cut delta p)
    = l.readings resolve (fun language text inner delta =>
        readingsOf (cut language text inner delta)) delta p
  := by
  fun_induction pieces l resolve cut delta p with
  | case1 p done => rw [readings, dif_pos done, readingsOf_nil]
  | case2 p ahead stuck =>
    rw [readings, dif_neg ahead]
    split
    · rfl
    · next q stepped => simp [stuck] at stepped
  | case3 p ahead q stepped ih =>
    rw [readings_of_moves ahead (step?_eq_some_iff.mp stepped), readingsOf_append,
      readingsOf_piecesAt, ih]

end Lexer

namespace Tokenizer

/-- The readings of a line are those of its pieces. -/
theorem readingsOf_piecesWithin (registry : TokenizerRegistry) (depth : Nat) (t : Tokenizer)
    (line : Text) (state : LexerState) (delta : Nat) (stop : Option Nat) :
  readingsOf (t.piecesWithin registry depth line state delta stop)
    = t.readingsWithin registry depth line state delta stop
  := by
  induction depth generalizing t line state delta stop with
  | zero =>
    cases t with
    | lexer l connected => rfl
    | plain p => simp [piecesWithin, readingsWithin]
    | function language initial run => rfl
  | succ depth ih =>
    cases t with
    | lexer l connected =>
      rw [piecesWithin, readingsWithin, Lexer.readingsOf_pieces]
      congr 1
      funext language text inner delta
      cases registry.best? language with
      | none => rfl
      | some guest => apply ih
    | plain p => simp [piecesWithin, readingsWithin]
    | function language initial run => rfl

end Tokenizer

/-! ### How a line grows by pieces -/

/-- The tokens of a text that stands at an offset are those of its pieces. -/
structure LineTokens.CutInto (result : LineTokens) (delta : Nat) (text : Text)
    (pieces : List Piece) : Prop where
  covers : result.Covers delta text
  reads : result.Reads delta text (readingsOf pieces)

/-- The tokens collected so far are those of the pieces of a text. -/
structure LineBuilder.CutInto (b : LineBuilder) (delta : Nat) (text : Text)
    (pieces : List Piece) : Prop where
  tiles : Tiles delta text (readingsOf pieces)
  tokens_over : TokensOver delta text b.tokens.reverse
  collects : Collects delta (readingsOf pieces) [] b.tokens

theorem LineBuilder.CutInto.start_lt {b : LineBuilder} {delta : Nat} {text : Text}
    {pieces : List Piece} (cut : b.CutInto delta text pieces) {r : Piece} (among : r ∈ pieces) :
  r.start < delta + text.byteSize
  := (cut.tiles.start_mem (toReading_mem among)).2

/--
How the lexer of a language goes on with a line at an offset: the text that it passes over, the
pieces of this text, and the line with them.  `Holds` is what is known of embedded regions.
-/
inductive LineBuilder.Adds (Holds : Nat → Text → List Piece → LineTokens → Prop)
    (language : String) (start : Nat) (b : LineBuilder) :
    Text → List Piece → LineBuilder → Prop where
  /-- A step that consumes nothing. -/
  | nothing : Adds Holds language start b [] [] b
  /-- A piece that gets a token or becomes part of one. -/
  | token {r : Piece} {type : String} (start_eq : r.start = start) (nonempty : r.text ≠ [])
      (typed : r.type = some type) (language_eq : r.language = language) (own : r.depth = 0) :
      Adds Holds language start b r.text [r]
        ((b.switch start language).token start type r.bracket)
  /-- A piece that gets no token. -/
  | drop {r : Piece} (start_eq : r.start = start) (nonempty : r.text ≠ [])
      (untyped : r.type = none) (own : r.depth = 0) :
      Adds Holds language start b r.text [r] b
  /-- The pieces of an embedded region. -/
  | splice {text : Text} {pieces : List Piece} {result : LineTokens} (nonempty : text ≠ [])
      (cut : result.CutInto start text pieces) (holds : Holds start text pieces result) :
      Adds Holds language start b text (pieces.map (·.embed))
        (b.splice result.tokens result.modes)

/-- The answers of guests are those of the pieces that `cut` gives, and `Holds` is so of them. -/
def GuestsHold (Holds : Nat → Text → List Piece → LineTokens → Prop)
    (resolve : String → Option Guest) (cut : String → Text → LexerState → Nat → List Piece) :
    Prop :=
  ∀ language guest text state delta result, resolve language = some guest →
    guest.run text state delta = some result →
      result.CutInto delta text (cut language text state delta)
        ∧ Holds delta text (cut language text state delta) result

theorem GuestsHold.covers {Holds : Nat → Text → List Piece → LineTokens → Prop}
    {resolve : String → Option Guest} {cut : String → Text → LexerState → Nat → List Piece}
    (guests : GuestsHold Holds resolve cut) :
  GuestsCover resolve
  := fun language guest text state delta result found answer =>
    (guests language guest text state delta result found answer).1.covers

theorem GuestsHold.reads {Holds : Nat → Text → List Piece → LineTokens → Prop}
    {resolve : String → Option Guest} {cut : String → Text → LexerState → Nat → List Piece}
    (guests : GuestsHold Holds resolve cut) :
  GuestsRead resolve fun language text inner delta => readingsOf (cut language text inner delta)
  := fun language guest text state delta result found answer =>
    (guests language guest text state delta result found answer).1.reads

/--
What `Shows` says of the tokens collected so far stays so whatever is added, and at the end of a
text it gives what `Holds` says of the whole.
-/
structure Carries (Shows : String → Nat → Text → List Piece → LineBuilder → Prop)
    (Holds : Nat → Text → List Piece → LineTokens → Prop) : Prop where
  start : ∀ language delta, Shows language delta [] [] {}
  adds : ∀ {language delta text pieces b more others c}, b.CutInto delta text pieces →
    Shows language delta text pieces b →
    b.Adds Holds language (delta + text.byteSize) more others c →
      Shows language delta (text ++ more) (pieces ++ others) c
  finish : ∀ {language delta text pieces b} active endState, b.CutInto delta text pieces →
    Shows language delta text pieces b →
      Holds delta text pieces (b.finish delta active (delta + text.byteSize) endState)
  plain : ∀ (p : PlainLexer) delta text state,
    Holds delta text (p.pieces delta text) (p.tokenize text state delta none)

namespace Lexer

variable {l : Lexer} {resolve : String → Option Guest}
  {cut : String → Text → LexerState → Nat → List Piece} {delta : Nat} {p q : Progress}
  {Shows : String → Nat → Text → List Piece → LineBuilder → Prop}
  {Holds : Nat → Text → List Piece → LineTokens → Prop}

/-- Each move adds its pieces to the line. -/
theorem Moves.adds (guests : GuestsHold Holds resolve cut) (ahead : p.rest ≠ [])
    (moved : l.Moves resolve delta p q) :
  ∃ more, p.rest = more ++ q.rest
    ∧ p.line.Adds Holds l.language (delta + p.position) more (l.piecesAt resolve cut delta p)
        q.line
  := by
  cases moved with
  | leave turn gone =>
    have pieces : l.piecesAt resolve cut delta p = [] := by
      simp [piecesAt, turn.1, turn.2, gone]
    rw [pieces]
    exact ⟨[], rfl, .nothing⟩
  | pass turn found empty =>
    have pieces : l.piecesAt resolve cut delta p = [] := by
      simp [piecesAt, turn.1, turn.2, empty]
    rw [pieces]
    exact ⟨[], rfl, .nothing⟩
  | @handOn language inner guest result turn found nonempty answer =>
    have pieces : l.piecesAt resolve cut delta p
        = (cut language (l.region p) inner (delta + p.position)).map (·.embed) := by
      simp [piecesAt, turn.1, turn.2, found, nonempty]
    obtain ⟨known, holds⟩ := guests _ _ _ _ _ _ found answer
    rw [pieces]
    use l.region p
    constructor
    · rw [afterGuest, region, List.take_append_drop]
    · apply LineBuilder.Adds.splice nonempty known holds
  | @apply rule count turn fresh found =>
    rw [piecesAt_of_not_guestTurn turn, if_pos fresh, found]
    dsimp only
    have parts : p.rest = p.rest.take count ++ p.rest.drop count :=
      (List.take_append_drop count p.rest).symm
    use p.rest.take count, parts
    split_ifs with empty
    · have same : (l.applyRule resolve delta p rule count).line = p.line := by
        simp only [applyRule, empty, if_true]
        split <;> rfl
      rw [empty, same]
      apply LineBuilder.Adds.nothing
    · cases typed : (l.classify rule (p.rest.take count)).1 with
      | none =>
        have same : (l.applyRule resolve delta p rule count).line = p.line := by
          simp [applyRule, typed]
        rw [same]
        apply LineBuilder.Adds.drop (r := ⟨⟨_, _, _, _⟩, _, _, _⟩) rfl empty rfl rfl
      | some type =>
        have added : (l.applyRule resolve delta p rule count).line
            = (p.line.switch (delta + p.position) l.language).token (delta + p.position) type
                (l.classify rule (p.rest.take count)).2.isSome := by
          simp [applyRule, typed, empty]
        rw [added]
        apply LineBuilder.Adds.token (r := ⟨⟨_, _, _, _⟩, _, _, _⟩) rfl empty rfl rfl rfl
  | skip turn reason =>
    have unmatched : (if p.stalled < stallLimit then l.findRule? p.state p.rest else none)
        = none := by
      split_ifs with fresh
      · apply reason fresh
      · rfl
    rw [piecesAt_of_not_guestTurn turn, unmatched]
    have parts : p.rest = p.rest.take 1 ++ p.rest.drop 1 := (List.take_append_drop 1 p.rest).symm
    use p.rest.take 1, parts
    have some_text : p.rest.take 1 ≠ [] := by simpa using ahead
    apply LineBuilder.Adds.token (r := ⟨⟨_, _, _, _⟩, _, _, _⟩) rfl some_text rfl rfl rfl

/--
A place that a lexer reaches from the start of a text, with the text and the pieces it has passed
over.
-/
structure Progress.Passed (p : Progress) (l : Lexer) (resolve : String → Option Guest)
    (cut : String → Text → LexerState → Nat → List Piece) (delta : Nat) (start : Progress)
    (text : Text) (pieces : List Piece) : Prop where
  covers : p.Covers delta start.rest text
  reads : Progress.Reads delta (readingsOf pieces) text start p
  pieces_eq : l.pieces resolve cut delta start = pieces ++ l.pieces resolve cut delta p

theorem Progress.Passed.cutInto {line passed : Text} {state : LexerState} {pieces : List Piece}
    (here : p.Passed l resolve cut delta (.ofText line state) passed pieces) :
  p.line.CutInto delta passed pieces
  := ⟨here.reads.tiles, here.covers.tokens_over, here.reads.collects⟩

/-- Each move passes over its pieces. -/
theorem Moves.passed (guests : GuestsHold Holds resolve cut) (ahead : p.rest ≠ [])
    (moved : l.Moves resolve delta p q) {start : Progress} {text more : Text}
    {pieces : List Piece} (here : p.Passed l resolve cut delta start text pieces)
    (rest_eq : p.rest = more ++ q.rest) :
  q.Passed l resolve cut delta start (text ++ more) (pieces ++ l.piecesAt resolve cut delta p)
  := by
  have behind : ∀ t ∈ p.line.tokens, t.start ≤ delta + p.position := by
    intro t among
    have := here.covers.tokens_over.start_lt (List.mem_reverse.mpr among)
    rw [here.covers.position_eq]
    omega
  constructor
  · obtain ⟨other, covers⟩ := moved.covers guests.covers ahead here.covers
    have same := here.covers.text_eq.symm.trans covers.text_eq
    rw [rest_eq, ← List.append_assoc] at same
    rwa [List.append_cancel_right same]
  · obtain ⟨other, reads⟩ := moved.reads guests.reads ahead behind
    rw [← readingsOf_piecesAt] at reads
    have same := rest_eq.symm.trans reads.rest_eq
    rw [List.append_cancel_right same, readingsOf_append]
    apply here.reads.trans reads
  · rw [here.pieces_eq, pieces_of_moves ahead moved, List.append_assoc]

/--
At the end of a line, what is carried from piece to piece is so of the tokens collected, when it
holds of embedded regions.
-/
theorem shows_tokenize? (carries : Carries Shows Holds) (guests : GuestsHold Holds resolve cut)
    {line : Text} {state : LexerState} {stop : Option Nat} {result : LineTokens}
    (answer : l.tokenize? resolve line state delta stop = some result) :
  let text := visiblePart line delta stop
  let pieces := l.pieces resolve cut delta (.ofText text state)
  ∃ b active endState, b.CutInto delta text pieces ∧ Shows l.language delta text pieces b
    ∧ result = b.finish delta active (delta + text.byteSize) endState
  := by
  intro text pieces
  obtain ⟨q, ran, rfl⟩ := tokenize?_eq_some_iff.mp answer
  have start : (Progress.ofText text state).Passed l resolve cut delta (.ofText text state) [] [] :=
    ⟨⟨rfl, rfl, .nil _ _⟩, .nothing rfl rfl rfl, rfl⟩
  have step : ∀ p q, p.rest ≠ [] →
      (∃ passed sofar, p.Passed l resolve cut delta (.ofText text state) passed sofar
        ∧ Shows l.language delta passed sofar p.line) →
      l.Moves resolve delta p q →
      ∃ passed sofar, q.Passed l resolve cut delta (.ofText text state) passed sofar
        ∧ Shows l.language delta passed sofar q.line := by
    rintro p q ahead ⟨passed, sofar, here, shown⟩ moved
    obtain ⟨more, rest_eq, adds⟩ := moved.adds guests ahead
    rw [here.covers.position_eq] at adds
    exact ⟨_, _, moved.passed guests ahead here rest_eq, carries.adds here.cutInto shown adds⟩
  obtain ⟨⟨passed, sofar, here, shown⟩, done⟩ :=
    run?_keeps step ⟨[], [], start, carries.start l.language delta⟩ ran
  have text_eq : text = passed := by
    have text_eq := here.covers.text_eq
    rwa [done, List.append_nil] at text_eq
  have pieces_eq : pieces = sofar := by
    have pieces_eq := here.pieces_eq
    rwa [pieces_of_rest_eq_nil done, List.append_nil] at pieces_eq
  rw [text_eq, pieces_eq, here.covers.position_eq]
  exact ⟨q.line, _, _, here.cutInto, shown, rfl⟩

end Lexer

namespace Tokenizer

/-- The tokens of tokenizers that follow rules are those of their pieces. -/
theorem cutInto_tokenizeWithin {registry : TokenizerRegistry} (rules : registry.followsRules)
    (depth : Nat) {t : Tokenizer} (rule : t.followsRules) {line : Text} {state : LexerState}
    {delta : Nat} {stop : Option Nat} {result : LineTokens}
    (answer : t.tokenizeWithin registry depth line state delta stop = some result) :
  result.CutInto delta (visiblePart line delta stop)
    (t.piecesWithin registry depth line state delta stop)
  := by
  constructor
  · apply covers_tokenizeWithin rules depth rule answer
  · rw [readingsOf_piecesWithin]
    apply reads_tokenizeWithin rules depth rule answer

/-- What holds of the tokenizers of a registry holds of them as guests of a lexer. -/
theorem guestsHold_within {Holds : Nat → Text → List Piece → LineTokens → Prop}
    {registry : TokenizerRegistry} (rules : registry.followsRules) (depth : Nat)
    (connected : Bool)
    (holds : ∀ {t : Tokenizer} {line state delta stop result}, t.followsRules →
      t.tokenizeWithin registry depth line state delta stop = some result →
        Holds delta (visiblePart line delta stop)
          (t.piecesWithin registry depth line state delta stop) result) :
  GuestsHold Holds (registry.guestsWithin depth connected) fun language text inner delta =>
    match registry.best? language with
    | some guest => piecesWithin registry depth guest text inner delta none
    | none => []
  := by
  intro language guest text state delta result found answered
  obtain ⟨-, provider, best, rfl⟩ := TokenizerRegistry.guestsBy_eq_some_iff.mp found
  dsimp only
  rw [best]
  have follows := registry.followsRules_of_best? rules best
  exact ⟨cutInto_tokenizeWithin rules depth follows answered, holds follows answered⟩

/-- What is carried from piece to piece holds of lines with calls nested to any depth. -/
theorem holds_tokenizeWithin {Shows : String → Nat → Text → List Piece → LineBuilder → Prop}
    {Holds : Nat → Text → List Piece → LineTokens → Prop} (carries : Carries Shows Holds)
    {registry : TokenizerRegistry} (rules : registry.followsRules) (depth : Nat) {t : Tokenizer}
    (rule : t.followsRules) {line : Text} {state : LexerState} {delta : Nat} {stop : Option Nat}
    {result : LineTokens}
    (answer : t.tokenizeWithin registry depth line state delta stop = some result) :
  Holds delta (visiblePart line delta stop)
    (t.piecesWithin registry depth line state delta stop) result
  := by
  induction depth generalizing t line state delta stop result with
  | zero =>
    cases t with
    | lexer l connected => simp [tokenizeWithin] at answer
    | plain p =>
      obtain rfl := Option.some.inj answer
      apply carries.plain
    | function language initial run => simp [followsRules] at rule
  | succ depth ih =>
    cases t with
    | lexer l connected =>
      rw [tokenizeWithin_lexer] at answer
      rw [piecesWithin]
      have guests := guestsHold_within rules depth connected fun follows answer =>
        ih follows answer
      obtain ⟨b, active, endState, cut, shown, rfl⟩ := Lexer.shows_tokenize? carries guests answer
      apply carries.finish _ _ cut shown
    | plain p =>
      obtain rfl := Option.some.inj answer
      apply carries.plain
    | function language initial run => simp [followsRules] at rule

/-- What is carried from piece to piece is so of the tokens that a lexer collects in a line. -/
theorem shows_tokenize? {Shows : String → Nat → Text → List Piece → LineBuilder → Prop}
    {Holds : Nat → Text → List Piece → LineTokens → Prop} (carries : Carries Shows Holds)
    {registry : TokenizerRegistry} (rules : registry.followsRules) {l : Lexer} {connected : Bool}
    {line : Text} {state : LexerState} {delta : Nat} {stop : Option Nat} {result : LineTokens}
    (answer : (lexer l connected).tokenize? registry line state delta stop = some result) :
  let text := visiblePart line delta stop
  let pieces := (lexer l connected).pieces registry line state delta stop
  ∃ b active endState, b.CutInto delta text pieces ∧ Shows l.language delta text pieces b
    ∧ result = b.finish delta active (delta + text.byteSize) endState
  := by
  obtain ⟨depth, bound⟩ : ∃ depth, depthBound registry line state = depth + 1 := ⟨_, rfl⟩
  rw [tokenize?, bound, tokenizeWithin_lexer] at answer
  rw [pieces, bound, piecesWithin]
  apply Lexer.shows_tokenize? carries _ answer
  apply guestsHold_within rules depth connected
  intro t line state delta stop result follows answered
  apply holds_tokenizeWithin carries rules depth follows answered

end Tokenizer

end EditorModes
