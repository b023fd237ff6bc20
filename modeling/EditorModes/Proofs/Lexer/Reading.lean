import EditorModes.Proofs.Lexer.Order
import Mathlib.Data.List.TakeDrop

/-!
# Readings

A reading is a piece of text that is consumed in one step, with the rule that was applied to it
and the type of token that it gets.  The readings of a line, those of embedded regions included,
make up its visible part, and they say of which type the token at each place is.  A piece is left
without a token exactly when a rule with the action `rematch` consumes it, so that the tokens
leave nothing out as long as such rules match nothing but the empty text.
-/

namespace EditorModes

/-- A piece of text consumed in one step, at an offset. -/
structure Reading where
  start : Nat
  text : Text
  /-- The action of the rule that was applied, where one was. -/
  action : Option TokenAction
  /-- The type of the token that the text becomes or is part of, where it gets one. -/
  type : Option String
  deriving DecidableEq, Repr

/-! ### Reading a text piece by piece -/

/-- Pieces with text that stand one behind the other and make up a text at an offset. -/
inductive Tiles : Nat → Text → List Reading → Prop where
  | nil (start : Nat) : Tiles start [] []
  | cons {r : Reading} {more : Text} {readings : List Reading} (nonempty : r.text ≠ [])
      (tiles : Tiles (r.start + r.text.byteSize) more readings) :
      Tiles r.start (r.text ++ more) (r :: readings)

namespace Tiles

variable {start : Nat} {text : Text} {readings : List Reading}

theorem single (r : Reading) (nonempty : r.text ≠ []) :
  Tiles r.start r.text [r]
  := by
  have tiles := Tiles.cons nonempty (.nil _)
  rwa [List.append_nil] at tiles

/-- The pieces of two texts in a row. -/
theorem append {more : Text} {others : List Reading} (tiles : Tiles start text readings)
    (next : Tiles (start + text.byteSize) more others) :
  Tiles start (text ++ more) (readings ++ others)
  := by
  induction tiles with
  | nil => simpa using next
  | cons nonempty tiles ih =>
    rw [List.append_assoc, List.cons_append]
    apply Tiles.cons nonempty
    apply ih
    rwa [Text.byteSize_append, ← Nat.add_assoc] at next

/-- Each piece starts within the text. -/
theorem start_mem (tiles : Tiles start text readings) {r : Reading} (among : r ∈ readings) :
  start ≤ r.start ∧ r.start < start + text.byteSize
  := by
  induction tiles with
  | nil => simp at among
  | @cons first more readings nonempty tiles ih =>
    have positive := Text.byteSize_pos nonempty
    rw [Text.byteSize_append]
    rcases List.mem_cons.mp among with rfl | among
    · omega
    · have := ih among
      omega

/-- Pieces start one after another. -/
theorem in_order (tiles : Tiles start text readings) :
  readings.Pairwise (·.start < ·.start)
  := by
  induction tiles with
  | nil => simp
  | cons nonempty tiles ih =>
    apply List.Pairwise.cons _ ih
    intro s among
    have := (tiles.start_mem among).1
    have := Text.byteSize_pos nonempty
    omega

/-- A piece ends before a later one starts. -/
theorem stop_le_start (tiles : Tiles start text readings) {r s : Reading} (among : r ∈ readings)
    (other : s ∈ readings) (later : r.start < s.start) :
  r.start + r.text.byteSize ≤ s.start
  := by
  induction tiles with
  | nil => simp at among
  | cons nonempty tiles ih =>
    rcases List.mem_cons.mp among with rfl | amongRest
    · rcases List.mem_cons.mp other with rfl | otherRest
      · omega
      · apply (tiles.start_mem otherRest).1
    · rcases List.mem_cons.mp other with rfl | otherRest
      · have := (tiles.start_mem amongRest).1
        omega
      · apply ih amongRest otherRest

theorem first_start {r : Reading} (tiles : Tiles start text (r :: readings)) :
  r.start = start
  := by
  cases tiles
  rfl

/-- A text with characters has a first piece. -/
theorem exists_first (tiles : Tiles start text readings) (nonempty : text ≠ []) :
  ∃ r others, readings = r :: others ∧ r.start = start
  := by
  cases readings with
  | nil =>
    cases tiles
    simp at nonempty
  | cons r others => exact ⟨r, others, rfl, tiles.first_start⟩

end Tiles

/-! ### The tokens of readings -/

/-- The type of the token at an offset, of tokens listed latest first. -/
def typeAt? (tokens : List Token) (offset : Nat) : Option String :=
  (tokens.find? (·.start ≤ offset)).map (·.type)

/-- The type of the token at an offset: that of the last one that does not start after it. -/
def LineTokens.typeAt? (result : LineTokens) (offset : Nat) : Option String :=
  EditorModes.typeAt? result.tokens.reverse offset

theorem typeAt?_append (later earlier : List Token) (offset : Nat) :
  typeAt? (later ++ earlier) offset = (typeAt? later offset).or (typeAt? earlier offset)
  := by
  rw [typeAt?, List.find?_append, Option.map_or]
  rfl

/--
The tokens `after` come from the tokens `before` by reading pieces of text from `start` on, both
listed latest first: each piece with a type has a token of this type, and there are no others.
-/
structure Collects (start : Nat) (readings : List Reading) (before after : List Token) :
    Prop where
  earlier : ∀ offset < start, typeAt? after offset = typeAt? before offset
  typed : ∀ r ∈ readings, ∀ type, r.type = some type → typeAt? after r.start = some type
  source : ∀ t ∈ after, t ∈ before ∨ ∃ r ∈ readings, r.start = t.start ∧ r.type = some t.type

namespace Collects

variable {start : Nat} {text : Text} {readings : List Reading} {before after : List Token}

/-- Pieces without a type leave the tokens as they are. -/
theorem untyped (start : Nat) (tokens : List Token) (types : ∀ r ∈ readings, r.type = none) :
  Collects start readings tokens tokens
  := by
  constructor
  · intros
    rfl
  · intro r among type typed
    rw [types r among] at typed
    simp at typed
  · intro t among
    left
    apply among

/-- A token of its own for a piece with a type. -/
theorem add (r : Reading) {type : String} (typed : r.type = some type) (before : List Token) :
  Collects r.start [r] before (⟨r.start, type⟩ :: before)
  := by
  constructor
  · intro offset sooner
    simp [typeAt?, Nat.not_le.mpr sooner]
  · intro s among other otherTyped
    obtain rfl := List.mem_singleton.mp among
    obtain rfl := Option.some.inj (typed.symm.trans otherTyped)
    simp [typeAt?]
  · intro t among
    rcases List.mem_cons.mp among with rfl | among
    · right
      use r
      simp [typed]
    · left
      apply among

/-- A piece with a type adds a token, or merges with the latest one. -/
theorem token (line : LineBuilder) (r : Reading) {type : String} (typed : r.type = some type)
    (bracket : Bool) (behind : ∀ t ∈ line.tokens, t.start ≤ r.start) :
  Collects r.start [r] line.tokens (line.token r.start type bracket).tokens
  := by
  rcases line.tokens_token r.start type bracket with ⟨last, older, latest, same, merged⟩ | added
  · have started := behind last (by simp [latest])
    rw [merged]
    constructor
    · intros
      rfl
    · intro s among other otherTyped
      obtain rfl := List.mem_singleton.mp among
      obtain rfl := Option.some.inj (typed.symm.trans otherTyped)
      simp [typeAt?, latest, started, same]
    · intro t among
      left
      apply among
  · rw [added]
    apply add r typed

/-- The tokens of an embedded region go on top of those before it. -/
theorem splice {inner : List Token} (collects : Collects start readings [] inner)
    (before : List Token) :
  Collects start readings before (inner ++ before)
  := by
  constructor
  · intro offset sooner
    rw [typeAt?_append, collects.earlier offset sooner]
    rfl
  · intro r among type typed
    rw [typeAt?_append, collects.typed r among type typed]
    rfl
  · intro t among
    rcases List.mem_append.mp among with among | among
    · right
      rcases collects.source t among with none_before | source
      · simp at none_before
      · apply source
    · left
      apply among

/-- Pieces read in a row. -/
theorem append {later : List Token} {others : List Reading} {next : Nat}
    (collects : Collects start readings before after)
    (more : Collects next others after later) (order : start ≤ next)
    (sooner : ∀ r ∈ readings, r.start < next) :
  Collects start (readings ++ others) before later
  := by
  constructor
  · intro offset early
    rw [more.earlier offset (by omega), collects.earlier offset early]
  · intro r among type typed
    rcases List.mem_append.mp among with among | among
    · rw [more.earlier r.start (sooner r among)]
      apply collects.typed r among type typed
    · apply more.typed r among type typed
  · intro t among
    rcases more.source t among with among | ⟨r, amongOthers, same, typed⟩
    · rcases collects.source t among with among | ⟨r, amongReadings, same, typed⟩
      · left
        apply among
      · right
        use r
        simp [amongReadings, same, typed]
    · right
      use r
      simp [amongOthers, same, typed]

end Collects

/-! ### The first language -/

namespace LineBuilder

/-- Where the first language starts to be active. -/
def firstMode? (b : LineBuilder) : Option Nat :=
  b.modes.getLast?.map (·.start)

/-- A change of language is the first one where none came before. -/
@[simp]
theorem firstMode?_switch (b : LineBuilder) (start : Nat) (language : String) :
  (b.switch start language).firstMode? = b.firstMode?.or (some start)
  := by
  unfold switch
  split
  · next unset => simp [firstMode?, unset]
  · next last older listed =>
    cases older with
    | nil => split_ifs <;> simp_all [firstMode?]
    | cons other older =>
      have first : firstMode? b = some (((other :: older).getLast (by simp)).start) := by
        simp [firstMode?, listed, List.getLast?_cons, List.getLast_eq_getLastD]
      rw [first, Option.some_or]
      split_ifs <;>
        simp [firstMode?, listed, List.getLast?_cons, List.getLast_eq_getLastD]

/-- The first of many changes of language is the first one where none came before. -/
@[simp]
theorem firstMode?_switchAll (b : LineBuilder) (modes : List ModeTransition) :
  (b.switchAll modes).firstMode? = b.firstMode?.or (modes.head?.map (·.start))
  := by
  induction modes generalizing b with
  | nil => simp [switchAll]
  | cons m modes ih =>
    rw [switchAll, List.foldl_cons]
    apply (ih _).trans
    rw [firstMode?_switch, Option.or_assoc]
    rfl

/-- Likewise for the changes of language in an embedded region. -/
@[simp]
theorem firstMode?_splice (b : LineBuilder) (tokens : List Token) (modes : List ModeTransition) :
  (b.splice tokens modes).firstMode? = b.firstMode?.or (modes.head?.map (·.start))
  := by
  induction tokens generalizing b modes with
  | nil => apply firstMode?_switchAll
  | cons t tokens ih =>
    rw [splice, List.span_eq_takeWhile_dropWhile]
    apply (ih _ _).trans
    change (b.switchAll (modes.takeWhile _)).firstMode?.or _ = _
    rw [firstMode?_switchAll, Option.or_assoc, ← Option.map_or, ← List.head?_append,
      List.takeWhile_append_dropWhile]

@[simp]
theorem firstMode?_token (b : LineBuilder) (start : Nat) (type : String) (bracket : Bool) :
  (b.token start type bracket).firstMode? = b.firstMode?
  := by
  unfold token
  dsimp only
  split_ifs <;> rfl

/-- A line without any change of language has one at its start. -/
theorem head?_modes_finish (b : LineBuilder) (delta : Nat) (language : String) (stop : Nat)
    (endState : LexerState) :
  (b.finish delta language stop endState).modes.head?.map (·.start)
    = b.firstMode?.or (some delta)
  := by
  unfold finish
  cases listed : b.modes with
  | nil => simp [firstMode?, listed]
  | cons m modes =>
    simp [firstMode?, listed, List.getLast?_cons]

end LineBuilder

/-! ### The readings of a line -/

/-- The pieces that a plain tokenizer cuts a text into, at most `count` of them. -/
def PlainLexer.readingsFrom (p : PlainLexer) : (count : Nat) → (offset : Nat) → Text → List Reading
  | 0, _, _ => []
  | _ + 1, _, [] => []
  | count + 1, offset, c :: t =>
    let (piece, type) := p.piece c t
    ⟨offset, piece, none, some type⟩ ::
      p.readingsFrom count (offset + piece.byteSize) ((c :: t).drop piece.length)

namespace Lexer

/-- The pieces consumed in the next step, where `read` gives those of embedded regions. -/
def readingsAt (l : Lexer) (resolve : String → Option Guest)
    (read : String → Text → LexerState → Nat → List Reading) (delta : Nat) (p : Progress) :
    List Reading :=
  match p.state.guest?, p.guestRan with
  | some (language, inner), false =>
    if (resolve language).isSome ∧ l.region p ≠ [] then
      read language (l.region p) inner (delta + p.position)
    else
      []
  | _, _ =>
    match if p.stalled < stallLimit then l.findRule? p.state p.rest else none with
    | some (rule, count) =>
      let text : Text := p.rest.take count
      if text = [] then []
      else [⟨delta + p.position, text, some rule.action, (l.classify rule text).1⟩]
    | none => [⟨delta + p.position, p.rest.take 1, none, some l.defaultToken⟩]

/-- The pieces consumed up to the end of the line. -/
def readings (l : Lexer) (resolve : String → Option Guest)
    (read : String → Text → LexerState → Nat → List Reading) (delta : Nat) (p : Progress) :
    List Reading :=
  if _ : p.rest = [] then []
  else
    match _ : l.step? resolve delta p with
    | none => []
    | some q => l.readingsAt resolve read delta p ++ readings l resolve read delta q
termination_by p.stepsLeft
decreasing_by exact stepsLeft_step?_lt (by assumption) (by assumption)

end Lexer

namespace Tokenizer

/-- The pieces consumed by a tokenizer, with calls nested at most `depth` deep. -/
def readingsWithin (registry : TokenizerRegistry) (depth : Nat) (t : Tokenizer) (line : Text)
    (state : LexerState) (delta : Nat) (stop : Option Nat) : List Reading :=
  match t with
  | plain p =>
    let line := visiblePart line delta stop
    p.readingsFrom line.length delta line
  | function _ _ _ => []
  | lexer l connected =>
    match depth with
    | 0 => []
    | depth + 1 =>
      let read (language : String) (text : Text) (inner : LexerState) (delta : Nat) :
          List Reading :=
        match registry.best? language with
        | some guest => readingsWithin registry depth guest text inner delta none
        | none => []
      l.readings (registry.guestsWithin depth connected) read delta
        (.ofText (visiblePart line delta stop) state)

/-- The pieces of a line, those of embedded regions being the pieces of their tokenizers. -/
def readings (registry : TokenizerRegistry) (t : Tokenizer) (line : Text) (state : LexerState)
    (delta : Nat) (stop : Option Nat) : List Reading :=
  t.readingsWithin registry (depthBound registry line state) line state delta stop

end Tokenizer

/-! ### What readings say about tokens -/

/-- The tokens and languages of a text at an offset are those of its readings. -/
structure LineTokens.Reads (result : LineTokens) (delta : Nat) (text : Text)
    (readings : List Reading) : Prop where
  tiles : Tiles delta text readings
  types : ∀ r ∈ readings, r.type = none ↔ r.action = some .rematch
  collects : Collects delta readings [] result.tokens.reverse
  first_mode : (∀ r ∈ readings, r.type ≠ none) → result.modes.head?.map (·.start) = some delta

/-- The answers of guests are those of the pieces that `read` gives. -/
def GuestsRead (resolve : String → Option Guest)
    (read : String → Text → LexerState → Nat → List Reading) : Prop :=
  ∀ language guest text state delta result, resolve language = some guest →
    guest.run text state delta = some result →
      result.Reads delta text (read language text state delta)

/-- The pieces of a plain text make up all of it, and each has its token. -/
theorem PlainLexer.reads_readingsFrom (p : PlainLexer) (count offset : Nat) (text : Text)
    (enough : text.length ≤ count) :
  Tiles offset text (p.readingsFrom count offset text)
    ∧ (∀ r ∈ p.readingsFrom count offset text, r.action = none ∧ r.type ≠ none)
    ∧ Collects offset (p.readingsFrom count offset text) []
        (p.tokensFrom count offset text).reverse
  := by
  induction count generalizing offset text with
  | zero =>
    obtain rfl := List.length_eq_zero_iff.mp (Nat.le_zero.mp enough)
    refine ⟨.nil _, by simp [readingsFrom], ?_⟩
    apply Collects.untyped
    simp [readingsFrom]
  | succ count ih =>
    cases text with
    | nil =>
      refine ⟨.nil _, by simp [readingsFrom], ?_⟩
      apply Collects.untyped
      simp [readingsFrom]
    | cons c text =>
      obtain ⟨first, nonempty⟩ := p.piece_prefix c text
      have positive := List.length_pos_iff.mpr nonempty
      have shorter : ((c :: text).drop (p.piece c text).1.length).length ≤ count := by
        rw [List.length_drop]
        omega
      obtain ⟨tiles, types, collects⟩ := ih (offset + (p.piece c text).1.byteSize) _ shorter
      have added := Collects.add ⟨offset, (p.piece c text).1, none, some (p.piece c text).2⟩ rfl []
      rw [readingsFrom, tokensFrom]
      refine ⟨?_, ?_, ?_⟩
      · have whole := Tiles.cons (r := ⟨offset, (p.piece c text).1, none, some (p.piece c text).2⟩)
          nonempty tiles
        rwa [List.prefix_iff_eq_append.mp first] at whole
      · intro r among
        rcases List.mem_cons.mp among with rfl | among
        · simp
        · apply types r among
      · rw [List.reverse_cons]
        have size := Text.byteSize_pos nonempty
        apply Collects.append added (collects.splice _) (Nat.le_add_right _ _)
        intro r among
        obtain rfl := List.mem_singleton.mp among
        dsimp only
        omega

namespace Lexer

/-- On the way from a place to another one, the text `passed` is read in pieces. -/
structure Progress.Reads (delta : Nat) (readings : List Reading) (passed : Text)
    (p q : Progress) : Prop where
  rest_eq : p.rest = passed ++ q.rest
  position_eq : q.position = p.position + passed.byteSize
  tiles : Tiles (delta + p.position) passed readings
  types : ∀ r ∈ readings, r.type = none ↔ r.action = some .rematch
  collects : Collects (delta + p.position) readings p.line.tokens q.line.tokens
  first_mode : (∀ r ∈ readings, r.type ≠ none) →
    q.line.firstMode? = p.line.firstMode?.or (readings.head?.map (·.start))

namespace Progress.Reads

variable {delta : Nat} {p q o : Progress}

/-- Nothing is read. -/
theorem nothing (rest_eq : q.rest = p.rest) (position_eq : q.position = p.position)
    (line_eq : q.line = p.line) :
  Progress.Reads delta [] [] p q
  := by
  constructor
  · simp [rest_eq]
  · simp [position_eq]
  · apply Tiles.nil
  · simp
  · rw [line_eq]
    apply Collects.untyped
    simp
  · simp [line_eq]

/-- A reading of a text in two parts. -/
theorem trans {readings others : List Reading} {passed more : Text}
    (reads : Progress.Reads delta readings passed p q)
    (next : Progress.Reads delta others more q o) :
  Progress.Reads delta (readings ++ others) (passed ++ more) p o
  := by
  have place : delta + q.position = delta + p.position + passed.byteSize := by
    rw [reads.position_eq, Nat.add_assoc]
  constructor
  · rw [reads.rest_eq, next.rest_eq, List.append_assoc]
  · rw [next.position_eq, reads.position_eq, Text.byteSize_append, Nat.add_assoc]
  · apply reads.tiles.append
    rw [← place]
    apply next.tiles
  · intro r among
    rcases List.mem_append.mp among with among | among
    · apply reads.types r among
    · apply next.types r among
  · apply reads.collects.append next.collects
    · omega
    · intro r among
      have := (reads.tiles.start_mem among).2
      omega
  · intro typed
    rw [next.first_mode fun r among => typed r (List.mem_append_right _ among),
      reads.first_mode fun r among => typed r (List.mem_append_left _ among),
      Option.or_assoc, List.head?_append, Option.map_or]

/-- A single piece with a type gets its token. -/
theorem single {r : Reading} (rest_eq : p.rest = r.text ++ q.rest)
    (position_eq : q.position = p.position + r.text.byteSize)
    (start_eq : r.start = delta + p.position) (nonempty : r.text ≠ []) {type : String}
    (typed : r.type = some type) (ruled : r.action ≠ some .rematch) {language : String}
    {bracket : Bool}
    (line_eq : q.line
      = (p.line.switch (delta + p.position) language).token (delta + p.position) type bracket)
    (behind : ∀ t ∈ p.line.tokens, t.start ≤ delta + p.position) :
  Progress.Reads delta [r] r.text p q
  := by
  rw [← start_eq] at line_eq behind
  constructor
  · apply rest_eq
  · apply position_eq
  · rw [← start_eq]
    apply Tiles.single r nonempty
  · simp [typed, ruled]
  · have collects := Collects.token (p.line.switch r.start language) r typed bracket (by simpa)
    rwa [← line_eq, LineBuilder.tokens_switch, start_eq] at collects
  · intro _
    simp [line_eq]

/-- A single piece without a type gets no token. -/
theorem drop {r : Reading} (rest_eq : p.rest = r.text ++ q.rest)
    (position_eq : q.position = p.position + r.text.byteSize)
    (start_eq : r.start = delta + p.position) (nonempty : r.text ≠ []) (untyped : r.type = none)
    (ruled : r.action = some .rematch) (line_eq : q.line = p.line) :
  Progress.Reads delta [r] r.text p q
  := by
  constructor
  · apply rest_eq
  · apply position_eq
  · rw [← start_eq]
    apply Tiles.single r nonempty
  · simp [untyped, ruled]
  · rw [line_eq]
    apply Collects.untyped
    simp [untyped]
  · simp [untyped]

end Progress.Reads

variable {l : Lexer} {resolve : String → Option Guest}
  {read : String → Text → LexerState → Nat → List Reading} {delta : Nat} {p q : Progress}

/-- A rule gives text no type exactly when its action is `rematch`. -/
theorem classify_eq_none_iff (l : Lexer) (rule : CompiledRule) (text : Text) :
  (l.classify rule text).1 = none ↔ rule.action = .rematch
  := by
  unfold classify
  cases rule.action with
  | emit type => simp
  | rematch => simp
  | brackets =>
    dsimp only
    split <;> simp

/-- Where no embedded tokenizer has its turn, the piece is that of a rule or a character. -/
theorem readingsAt_of_not_guestTurn (turn : ∀ language inner, ¬ GuestTurn p language inner) :
  l.readingsAt resolve read delta p
    = match if p.stalled < stallLimit then l.findRule? p.state p.rest else none with
      | some (rule, count) =>
        if p.rest.take count = [] then []
        else [⟨delta + p.position, p.rest.take count, some rule.action,
          (l.classify rule (p.rest.take count)).1⟩]
      | none => [⟨delta + p.position, p.rest.take 1, none, some l.defaultToken⟩]
  := by
  unfold readingsAt
  split
  · next language inner embedded unvisited =>
    exact absurd ⟨embedded, unvisited⟩ (turn language inner)
  · rfl

/-- Each move reads its pieces. -/
theorem Moves.reads (guests : GuestsRead resolve read) (ahead : p.rest ≠ [])
    (moved : l.Moves resolve delta p q)
    (behind : ∀ t ∈ p.line.tokens, t.start ≤ delta + p.position) :
  ∃ passed, Progress.Reads delta (l.readingsAt resolve read delta p) passed p q
  := by
  cases moved with
  | leave turn gone =>
    have pieces : l.readingsAt resolve read delta p = [] := by
      simp [readingsAt, turn.1, turn.2, gone]
    rw [pieces]
    use []
    apply Progress.Reads.nothing <;> rfl
  | pass turn found empty =>
    have pieces : l.readingsAt resolve read delta p = [] := by
      simp [readingsAt, turn.1, turn.2, empty]
    rw [pieces]
    use []
    apply Progress.Reads.nothing <;> rfl
  | @handOn language inner guest result turn found nonempty answer =>
    have pieces : l.readingsAt resolve read delta p
        = read language (l.region p) inner (delta + p.position) := by
      simp [readingsAt, turn.1, turn.2, found, nonempty]
    have reads := guests _ _ _ _ _ _ found answer
    obtain ⟨r, others, split, start_eq⟩ := reads.tiles.exists_first nonempty
    rw [pieces]
    use l.region p
    constructor
    · rw [afterGuest, region, List.take_append_drop]
    · rfl
    · apply reads.tiles
    · apply reads.types
    · rw [afterGuest, LineBuilder.tokens_splice]
      apply reads.collects.splice
    · intro typed
      rw [afterGuest, LineBuilder.firstMode?_splice, reads.first_mode typed, split]
      simp [start_eq]
  | @apply rule count turn fresh found =>
    rw [readingsAt_of_not_guestTurn turn, if_pos fresh, found]
    dsimp only
    split_ifs with empty
    · use []
      apply Progress.Reads.nothing
      · have whole := List.take_append_drop count p.rest
        rwa [empty, List.nil_append] at whole
      · simp [applyRule, empty]
      · simp only [applyRule, empty, if_true]
        split <;> rfl
    · use p.rest.take count
      cases typed : (l.classify rule (p.rest.take count)).1 with
      | none =>
        have ruled := (l.classify_eq_none_iff rule _).mp typed
        apply Progress.Reads.drop (r := ⟨_, _, _, _⟩) _ rfl rfl empty rfl (by rw [ruled])
        · simp [applyRule, typed]
        · simp [applyRule]
      | some type =>
        have ruled : rule.action ≠ .rematch := by
          intro same
          rw [(l.classify_eq_none_iff rule _).mpr same] at typed
          simp at typed
        have line_eq : (l.applyRule resolve delta p rule count).line
            = (p.line.switch (delta + p.position) l.language).token (delta + p.position) type
                (l.classify rule (p.rest.take count)).2.isSome := by
          simp [applyRule, typed, empty]
        apply Progress.Reads.single (r := ⟨_, _, _, _⟩) _ rfl rfl empty rfl (by simpa using ruled)
          line_eq behind
        simp [applyRule]
  | skip turn reason =>
    have unmatched : (if p.stalled < stallLimit then l.findRule? p.state p.rest else none)
        = none := by
      split_ifs with fresh
      · apply reason fresh
      · rfl
    rw [readingsAt_of_not_guestTurn turn, unmatched]
    use p.rest.take 1
    have line_eq : (l.skipChar delta p).line
        = (p.line.switch (delta + p.position) l.language).token (delta + p.position)
            l.defaultToken false := rfl
    apply Progress.Reads.single (r := ⟨_, _, _, _⟩) _ rfl rfl (by simpa using ahead) rfl (by simp)
      line_eq behind
    exact (List.take_append_drop 1 p.rest).symm

/-- The pieces up to the end of the line are those of the next step and the later ones. -/
theorem readings_of_moves (ahead : p.rest ≠ []) (moved : l.Moves resolve delta p q) :
  l.readings resolve read delta p
    = l.readingsAt resolve read delta p ++ l.readings resolve read delta q
  := by
  have stepped := step?_eq_some_iff.mpr moved
  rw [readings, dif_neg ahead]
  split
  · next stuck => simp [stepped] at stuck
  · next following follows =>
    obtain rfl := Option.some.inj (stepped.symm.trans follows)
    rfl

/-- A whole run reads all text ahead. -/
theorem run?_reads (covers : GuestsCover resolve) (guests : GuestsRead resolve read)
    {text passed : Text} (covered : p.Covers delta text passed)
    (ran : l.run? resolve delta p = some q) :
  Progress.Reads delta (l.readings resolve read delta p) p.rest p q
  := by
  revert passed
  apply run?_induction _ _ ran
  · intro done passed covered
    rw [readings, dif_pos done, done]
    apply Progress.Reads.nothing <;> rfl
  · intro p next ahead moved _ ih passed covered
    have behind : ∀ t ∈ p.line.tokens, t.start ≤ delta + p.position := by
      intro t among
      have := covered.tokens_over.start_lt (List.mem_reverse.mpr among)
      rw [covered.position_eq]
      omega
    obtain ⟨more, reads⟩ := moved.reads guests ahead behind
    obtain ⟨further, covered⟩ := moved.covers covers ahead covered
    rw [readings_of_moves ahead moved, reads.rest_eq]
    apply reads.trans (ih covered)

/-- The tokens of a line are those of its readings, when this is so for embedded regions. -/
theorem reads_tokenize? (covers : GuestsCover resolve) (guests : GuestsRead resolve read)
    {line : Text} {state : LexerState} {stop : Option Nat} {result : LineTokens}
    (answer : l.tokenize? resolve line state delta stop = some result) :
  result.Reads delta (visiblePart line delta stop)
    (l.readings resolve read delta (.ofText (visiblePart line delta stop) state))
  := by
  obtain ⟨p, ran, rfl⟩ := tokenize?_eq_some_iff.mp answer
  have covered : (Progress.ofText (visiblePart line delta stop) state).Covers delta
      (visiblePart line delta stop) [] := ⟨rfl, rfl, .nil _ _⟩
  have reads := run?_reads covers guests covered ran
  constructor
  · apply reads.tiles
  · apply reads.types
  · rw [LineBuilder.finish, List.reverse_reverse]
    apply reads.collects
  · intro typed
    rw [LineBuilder.head?_modes_finish, reads.first_mode typed]
    have tiles := reads.tiles
    cases pieces : l.readings resolve read delta (.ofText (visiblePart line delta stop) state) with
    | nil => rfl
    | cons r others =>
      rw [pieces] at tiles
      have first := tiles.first_start
      simp [Progress.ofText, LineBuilder.firstMode?] at first ⊢
      apply first

end Lexer

namespace Tokenizer

/-- Tokenizers that follow rules, nested to any depth, give the tokens of their readings. -/
theorem reads_tokenizeWithin {registry : TokenizerRegistry} (rules : registry.followsRules)
    (depth : Nat) {t : Tokenizer} (rule : t.followsRules) {line : Text} {state : LexerState}
    {delta : Nat} {stop : Option Nat} {result : LineTokens}
    (answer : t.tokenizeWithin registry depth line state delta stop = some result) :
  result.Reads delta (visiblePart line delta stop)
    (t.readingsWithin registry depth line state delta stop)
  := by
  have plainReads (p : PlainLexer) (line : Text) (state : LexerState) (delta : Nat)
      (stop : Option Nat) :
      (p.tokenize line state delta stop).Reads delta (visiblePart line delta stop)
        (p.readingsFrom (visiblePart line delta stop).length delta
          (visiblePart line delta stop)) := by
    obtain ⟨tiles, types, collects⟩ := p.reads_readingsFrom _ delta _ (Nat.le_refl _)
    refine ⟨tiles, ?_, collects, fun _ => rfl⟩
    intro r among
    simp [types r among]
  induction depth generalizing t line state delta stop result with
  | zero =>
    cases t with
    | lexer l connected => simp [tokenizeWithin] at answer
    | plain p =>
      obtain rfl := Option.some.inj answer
      apply plainReads
    | function language initial run => simp [followsRules] at rule
  | succ depth ih =>
    cases t with
    | lexer l connected =>
      rw [tokenizeWithin_lexer] at answer
      rw [readingsWithin]
      apply Lexer.reads_tokenize? (guestsCover_within rules depth connected) _ answer
      intro language guest text state delta result found answered
      obtain ⟨-, provider, best, rfl⟩ := TokenizerRegistry.guestsBy_eq_some_iff.mp found
      dsimp only
      rw [best]
      exact ih (registry.followsRules_of_best? rules best) answered
    | plain p =>
      obtain rfl := Option.some.inj answer
      apply plainReads
    | function language initial run => simp [followsRules] at rule

end Tokenizer

/-- Tokens that are all at or after an offset start with one there, if one is needed there. -/
theorem LineTokens.exists_first_token {result : LineTokens} {delta : Nat} {text : Text}
    (placed : TokensOver delta text result.tokens) {type : String}
    (typed : result.typeAt? delta = some type) :
  ∃ t, result.tokens.head? = some t ∧ t.start = delta
  := by
  obtain ⟨t, found, -⟩ := Option.map_eq_some_iff.mp typed
  have among := List.mem_reverse.mp (List.mem_of_find?_eq_some found)
  have started := List.find?_some found
  have order := placed.in_order
  cases listed : result.tokens with
  | nil => simp [listed] at among
  | cons first others =>
    obtain ⟨before, after, -, -, start_eq⟩ := placed.at_character first (by simp [listed])
    rw [listed] at among order
    use first, rfl
    simp only [decide_eq_true_eq] at started
    rcases List.mem_cons.mp among with rfl | among
    · omega
    · have := List.rel_of_pairwise_cons order among
      omega

/--
A rule with the action `rematch` adds no token, and it leaves the text ahead as it was only when
its match is empty.
-/
theorem Lexer.applyRule_rematch (l : Lexer) (resolve : String → Option Guest) (delta : Nat)
    (p : Lexer.Progress) {rule : CompiledRule} (count : Nat) (ruled : rule.action = .rematch) :
  (l.applyRule resolve delta p rule count).line = p.line
    ∧ ((l.applyRule resolve delta p rule count).position = p.position ↔ p.rest.take count = [])
    ∧ ((l.applyRule resolve delta p rule count).rest = p.rest ↔ p.rest.take count = [])
  := by
  have untyped := (l.classify_eq_none_iff rule (p.rest.take count)).mpr ruled
  have parts := List.take_append_drop count p.rest
  refine ⟨?_, ?_, ?_⟩
  · simp [applyRule, untyped]
  · constructor
    · intro stays
      by_contra taken
      have := Text.byteSize_pos taken
      simp only [applyRule] at stays
      omega
    · intro empty
      simp [applyRule, empty]
  · constructor
    · intro stays
      simp only [applyRule] at stays
      rw [stays] at parts
      simpa using parts
    · intro empty
      rw [empty, List.nil_append] at parts
      apply parts

/--
The readings of a line make up its visible part; those with a type have a token of this type, and
there are no other tokens.  A rule with the action `rematch` leaves the text ahead as it was only
when its match is empty, and its readings are what is left without a token: where there are none,
all of the line has tokens, and the first token and the first language start where the line does.
-/
theorem Tokenizer.typed_iff_no_rematch {registry : TokenizerRegistry}
    (rules : registry.followsRules) (l : Lexer) (connected : Bool) {line : Text}
    {state : LexerState} {delta : Nat} {stop : Option Nat} {result : LineTokens}
    (answer : (lexer l connected).tokenize? registry line state delta stop = some result) :
  let readings := (lexer l connected).readings registry line state delta stop
  Tiles delta (visiblePart line delta stop) readings
    ∧ (∀ r ∈ readings, ∀ type, r.type = some type → result.typeAt? r.start = some type)
    ∧ (∀ t ∈ result.tokens, ∃ r ∈ readings, r.start = t.start ∧ r.type = some t.type)
    ∧ (∀ resolve p rule count, rule.action = .rematch →
        (l.applyRule resolve delta p rule count).line = p.line
        ∧ ((l.applyRule resolve delta p rule count).position = p.position
            ↔ p.rest.take count = [])
        ∧ ((l.applyRule resolve delta p rule count).rest = p.rest ↔ p.rest.take count = []))
    ∧ ((∀ r ∈ readings, r.action ≠ some .rematch)
        ↔ (∀ r ∈ readings, r.type ≠ none)
          ∧ (visiblePart line delta stop ≠ [] →
              (∃ t, result.tokens.head? = some t ∧ t.start = delta)
              ∧ ∃ m, result.modes.head? = some m ∧ m.start = delta))
  := by
  intro readings
  have reads : result.Reads delta (visiblePart line delta stop) readings :=
    reads_tokenizeWithin rules _ (t := .lexer l connected) rfl answer
  have covers := covers_tokenizeWithin rules _ (t := .lexer l connected) rfl answer
  refine ⟨reads.tiles, reads.collects.typed, ?_, ?_, ?_⟩
  · intro t among
    rcases reads.collects.source t (List.mem_reverse.mpr among) with none_before | source
    · simp at none_before
    · apply source
  · intro resolve p rule count ruled
    apply l.applyRule_rematch resolve delta p count ruled
  · constructor
    · intro none_rematch
      have typed : ∀ r ∈ readings, r.type ≠ none := fun r among untyped =>
        none_rematch r among ((reads.types r among).mp untyped)
      refine ⟨typed, ?_⟩
      intro nonempty
      obtain ⟨r, others, split, start_eq⟩ := reads.tiles.exists_first nonempty
      have among : r ∈ readings := by simp [split]
      obtain ⟨type, type_eq⟩ := Option.ne_none_iff_exists'.mp (typed r among)
      have first := reads.collects.typed r among type type_eq
      rw [start_eq] at first
      exact ⟨LineTokens.exists_first_token covers.tokens_over first,
        Option.map_eq_some_iff.mp (reads.first_mode typed)⟩
    · rintro ⟨typed, -⟩ r among ruled
      apply typed r among ((reads.types r among).mpr ruled)

/-- Groups of properties with numbers; a parenthesis ends the number before it ends the group. -/
def groups : Grammar where
  name := "group"
  defaultToken := "text"
  states := [
    ("root", [
      .own { pattern := "[a-z]+:", token := "property", next := "@value" },
      .own { pattern := "[)]", token := "parenthesis" }]),
    ("value", [
      .own { pattern := "[0-9]+", token := "number" },
      .own { pattern := "[)]", token := "@rematch", next := "@pop" }])]

/-- The lexer of groups. -/
def groupLexer : Lexer :=
  groups.compile.toOption.get (by decide +kernel)

/-- Of two parentheses after a number, the first has no token. -/
theorem Tokenizer.typed_iff_no_rematch_groups :
  TokenizerRegistry.followsRules {}
    ∧ (Tokenizer.lexer groupLexer true).tokenize? {} "a:1))".toList (.initial "root") 5 none
      = some ⟨[⟨5, "property"⟩, ⟨7, "number"⟩, ⟨9, "parenthesis"⟩], [⟨5, "group"⟩], 10,
          .initial "root"⟩
    ∧ (Tokenizer.lexer groupLexer true).readings {} "a:1))".toList (.initial "root") 5 none
      = [⟨5, "a:".toList, some (.emit "property"), some "property"⟩,
          ⟨7, "1".toList, some (.emit "number"), some "number"⟩,
          ⟨8, ")".toList, some .rematch, none⟩,
          ⟨9, ")".toList, some (.emit "parenthesis"), some "parenthesis"⟩]
    ∧ Tiles 5 "a:1))".toList
        ((Tokenizer.lexer groupLexer true).readings {} "a:1))".toList (.initial "root") 5 none)
  := by
  have rules : TokenizerRegistry.followsRules {} := rfl
  have answer :
      (Tokenizer.lexer groupLexer true).tokenize? {} "a:1))".toList (.initial "root") 5 none
        = some ⟨[⟨5, "property"⟩, ⟨7, "number"⟩, ⟨9, "parenthesis"⟩], [⟨5, "group"⟩], 10,
            .initial "root"⟩ := by
    decide +kernel
  have pieces :
      (Tokenizer.lexer groupLexer true).readings {} "a:1))".toList (.initial "root") 5 none
        = [⟨5, "a:".toList, some (.emit "property"), some "property"⟩,
            ⟨7, "1".toList, some (.emit "number"), some "number"⟩,
            ⟨8, ")".toList, some .rematch, none⟩,
            ⟨9, ")".toList, some (.emit "parenthesis"), some "parenthesis"⟩] := by
    decide +kernel
  obtain ⟨tiles, -⟩ := Tokenizer.typed_iff_no_rematch rules groupLexer true answer
  exact ⟨rules, answer, pieces, tiles⟩

/--
At the end of a group with a number before it, a rule with the action `rematch` takes the
parenthesis: the line has text before its first token and its first language.
-/
theorem Tokenizer.group_end_untyped :
  TokenizerRegistry.followsRules {}
    ∧ (Tokenizer.lexer groupLexer true).tokenize? {} "))".toList ⟨⟨"value", ["root"], 0⟩, []⟩ 0 none
      = some ⟨[⟨1, "parenthesis"⟩], [⟨1, "group"⟩], 2, .initial "root"⟩
    ∧ ∃ rule, groupLexer.findRule? ⟨⟨"value", ["root"], 0⟩, []⟩ "))".toList = some (rule, 1)
      ∧ rule.action = .rematch
  := by
  refine ⟨rfl, by decide +kernel, ?_⟩
  have found : (groupLexer.findRule? ⟨⟨"value", ["root"], 0⟩, []⟩ "))".toList).map
      (fun (rule, count) => (rule.action, count)) = some (.rematch, 1) := by
    decide +kernel
  obtain ⟨⟨rule, count⟩, found, same⟩ := Option.map_eq_some_iff.mp found
  obtain ⟨action_eq, rfl⟩ := Prod.mk.inj same
  use rule

end EditorModes
