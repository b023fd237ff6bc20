import EditorModes.Proofs.Lexer.Depth
import Mathlib.Data.List.TakeDrop

/-!
# Lines at other offsets

Where a line starts makes no difference to how it is tokenized: with a greater offset all that is
found in it is shifted.  Where tokenizing is to stop makes none either, but for the text that is
seen: the line is cut at the last character boundary before, and its visible part is read like a
line of its own (`Tokenizer.tokenize?_shift_cut`).
-/

namespace EditorModes

/-! ### Shifting what is found in a line -/

/-- A token so many bytes further on. -/
def Token.shift (d : Nat) (t : Token) : Token where
  start := t.start + d
  type := t.type

/-- A change of language so many bytes further on. -/
def ModeTransition.shift (d : Nat) (m : ModeTransition) : ModeTransition where
  start := m.start + d
  language := m.language

/-- What is found in a line, so many bytes further on. -/
def LineTokens.shift (d : Nat) (r : LineTokens) : LineTokens where
  tokens := r.tokens.map (·.shift d)
  modes := r.modes.map (·.shift d)
  stop := r.stop + d
  endState := r.endState

namespace LineBuilder

/-- The tokens and language changes collected so far, so many bytes further on. -/
def shift (d : Nat) (b : LineBuilder) : LineBuilder where
  tokens := b.tokens.map (·.shift d)
  modes := b.modes.map (·.shift d)
  lastBracket := b.lastBracket
  barrier := b.barrier

/-- Tokens are merged by their types alone. -/
theorem shift_token (d : Nat) (b : LineBuilder) (start : Nat) (type : String) (bracket : Bool) :
  (b.token start type bracket).shift d = (b.shift d).token (start + d) type bracket
  := by
  have same : ((b.shift d).tokens.head?.any fun last => last.type = type)
      = b.tokens.head?.any fun last => last.type = type := by
    cases listed : b.tokens <;> simp [shift, listed, Token.shift]
  unfold token
  dsimp only
  rw [same]
  change _ = if (!b.barrier && !bracket && !b.lastBracket && _) = true then _ else _
  split_ifs <;> rfl

/-- Two changes at one place are at one place further on too. -/
theorem shift_switch (d : Nat) (b : LineBuilder) (start : Nat) (language : String) :
  (b.switch start language).shift d = (b.shift d).switch (start + d) language
  := by
  obtain ⟨tokens, modes, lastBracket, barrier⟩ := b
  cases modes with
  | nil => rfl
  | cons last earlier =>
    have same : ((earlier.map (·.shift d)).head?.any fun before => before.language = language)
        = earlier.head?.any fun before => before.language = language := by
      cases earlier <;> simp [ModeTransition.shift]
    simp only [switch, shift, List.map_cons, same]
    simp only [ModeTransition.shift, Nat.add_right_cancel_iff]
    split_ifs <;> rfl

/-- Changes made one after another are shifted one after another. -/
theorem shift_switchAll (d : Nat) (b : LineBuilder) (modes : List ModeTransition) :
  (b.switchAll modes).shift d = (b.shift d).switchAll (modes.map (·.shift d))
  := by
  induction modes generalizing b with
  | nil => rfl
  | cons m modes ih =>
    rw [switchAll, List.foldl_cons, List.map_cons, switchAll, List.foldl_cons]
    apply (ih _).trans
    rw [shift_switch]
    rfl

/-- Changes are due before a token further on when they were before. -/
theorem span_shift (d start : Nat) (modes : List ModeTransition) :
  (modes.map (·.shift d)).span (fun m => m.start ≤ start + d)
    = ((modes.span fun m => m.start ≤ start).1.map (·.shift d),
      (modes.span fun m => m.start ≤ start).2.map (·.shift d))
  := by
  have same : (fun m : ModeTransition => decide (m.start ≤ start + d))
      ∘ (fun m : ModeTransition => m.shift d) = fun m => decide (m.start ≤ start) := by
    funext m
    simp [ModeTransition.shift]
  simp only [List.span_eq_takeWhile_dropWhile, List.takeWhile_map, List.dropWhile_map, same]

/-- What is found in an embedded region is shifted with the line. -/
theorem shift_splice (d : Nat) (b : LineBuilder) (tokens : List Token)
    (modes : List ModeTransition) :
  (b.splice tokens modes).shift d
    = (b.shift d).splice (tokens.map (·.shift d)) (modes.map (·.shift d))
  := by
  induction tokens generalizing b modes with
  | nil =>
    have switched := b.shift_switchAll d modes
    simp only [splice, List.map_nil, ← switched]
    rfl
  | cons t tokens ih =>
    simp only [List.map_cons, splice]
    rw [show (t.shift d).start = t.start + d from rfl, span_shift, ih]
    dsimp only
    rw [← shift_switchAll]
    rfl

theorem shift_finish (d : Nat) (b : LineBuilder) (delta : Nat) (language : String) (stop : Nat)
    (endState : LexerState) :
  (b.finish delta language stop endState).shift d
    = (b.shift d).finish (delta + d) language (stop + d) endState
  := by
  cases listed : b.modes <;>
    simp [finish, shift, LineTokens.shift, ModeTransition.shift, listed, List.map_reverse]

end LineBuilder

/-! ### Tokenizing further on -/

/-- The part of a line before an offset does not change when both are further on. -/
theorem visiblePart_shift (line : Text) (delta d : Nat) (stop : Option Nat) :
  visiblePart line (delta + d) (stop.map (· + d)) = visiblePart line delta stop
  := by
  cases stop with
  | none => rfl
  | some stop => rw [Option.map_some, visiblePart, visiblePart, Nat.add_sub_add_right]

/-- Further on in a line, guests answer the same, shifted. -/
def GuestsShift (resolve : String → Option Guest) (d : Nat) : Prop :=
  ∀ language guest text state delta, resolve language = some guest →
    guest.run text state (delta + d) = (guest.run text state delta).map (·.shift d)

namespace Lexer

/-- A place in a line that starts so many bytes further on. -/
def Progress.shift (d : Nat) (p : Progress) : Progress :=
  { p with line := p.line.shift d }

variable {l : Lexer} {resolve : String → Option Guest} {delta d : Nat} {p : Progress}

/-- A rule is applied alike further on. -/
theorem applyRule_shift (rule : CompiledRule) (count : Nat) :
  l.applyRule resolve (delta + d) (p.shift d) rule count
    = (l.applyRule resolve delta p rule count).shift d
  := by
  have place : delta + d + p.position = delta + p.position + d := Nat.add_right_comm ..
  simp only [applyRule, Progress.shift, place]
  cases (l.classify rule (p.rest.take count)).1 with
  | none => rfl
  | some type =>
    by_cases empty : p.rest.take count = []
    · simp only [empty, if_true]
    · simp only [empty, if_false, LineBuilder.shift_token, LineBuilder.shift_switch]

theorem skipChar_shift :
  l.skipChar (delta + d) (p.shift d) = (l.skipChar delta p).shift d
  := by
  have place : delta + d + p.position = delta + p.position + d := Nat.add_right_comm ..
  simp only [skipChar, Progress.shift, place, LineBuilder.shift_token, LineBuilder.shift_switch]

/-- An embedded tokenizer is run alike further on. -/
theorem runGuest?_shift (guests : GuestsShift resolve d) (language : String) (inner : LexerState) :
  l.runGuest? resolve (delta + d) (p.shift d) language inner
    = (l.runGuest? resolve delta p language inner).map (·.shift d)
  := by
  have place : delta + d + p.position = delta + p.position + d := Nat.add_right_comm ..
  unfold runGuest?
  cases found : resolve language with
  | none => rfl
  | some guest =>
    simp only [Progress.shift, place, guests language guest _ _ _ found]
    split_ifs
    · rfl
    · rw [Option.map_map, Option.map_map]
      congr 1
      funext result
      simp only [Function.comp_apply, LineBuilder.shift_splice]
      rfl

/-- Each step is made alike further on. -/
theorem step?_shift (guests : GuestsShift resolve d) :
  l.step? resolve (delta + d) (p.shift d) = (l.step? resolve delta p).map (·.shift d)
  := by
  have state_eq : (p.shift d).state = p.state := rfl
  have rest_eq : (p.shift d).rest = p.rest := rfl
  have stalled_eq : (p.shift d).stalled = p.stalled := rfl
  have ran_eq : (p.shift d).guestRan = p.guestRan := rfl
  unfold step?
  rw [state_eq, rest_eq, stalled_eq, ran_eq]
  split
  · apply runGuest?_shift guests
  · split_ifs
    · cases l.findRule? p.state p.rest with
      | none => exact congrArg some skipChar_shift
      | some found => exact congrArg some (applyRule_shift found.1 found.2)
    · exact congrArg some skipChar_shift

/-- A run takes the same steps further on. -/
theorem run?_shift (guests : GuestsShift resolve d) :
  l.run? resolve (delta + d) (p.shift d) = (l.run? resolve delta p).map (·.shift d)
  := by
  induction bound : p.stepsLeft using Nat.strongRecOn generalizing p with
  | _ n ih =>
  by_cases done : p.rest = []
  · rw [run?_of_rest_eq_nil done, run?_of_rest_eq_nil (p := p.shift d) done]
    rfl
  · have shifted : l.step? resolve (delta + d) (p.shift d)
        = (l.step? resolve delta p).map (·.shift d) := step?_shift guests
    cases stepped : l.step? resolve delta p with
    | none =>
      rw [stepped, Option.map_none] at shifted
      rw [run?_of_step?_eq_none done stepped, run?_of_step?_eq_none (p := p.shift d) done shifted]
      rfl
    | some q =>
      rw [stepped, Option.map_some] at shifted
      rw [run?_of_moves done (step?_eq_some_iff.mp stepped),
        run?_of_moves (p := p.shift d) done (step?_eq_some_iff.mp shifted)]
      exact ih _ (bound ▸ stepsLeft_step?_lt done stepped) rfl

theorem tokenize?_eq_map (line : Text) (state : LexerState) (stop : Option Nat) :
  l.tokenize? resolve line state delta stop
    = (l.run? resolve delta (.ofText (visiblePart line delta stop) state)).map fun p =>
        p.line.finish delta (p.state.activeLanguage l.language) (delta + p.position) p.state
  := by
  rw [Option.map_eq_bind]
  rfl

/-- A lexer finds the same in a line further on, shifted. -/
theorem tokenize?_shift (guests : GuestsShift resolve d) (line : Text) (state : LexerState)
    (stop : Option Nat) :
  l.tokenize? resolve line state (delta + d) (stop.map (· + d))
    = (l.tokenize? resolve line state delta stop).map (·.shift d)
  := by
  have ran : l.run? resolve (delta + d) (.ofText (visiblePart line delta stop) state)
      = (l.run? resolve delta (.ofText (visiblePart line delta stop) state)).map (·.shift d) :=
    run?_shift (p := .ofText (visiblePart line delta stop) state) guests
  rw [tokenize?_eq_map, tokenize?_eq_map, visiblePart_shift, ran, Option.map_map, Option.map_map]
  congr 1
  funext p
  rw [Function.comp_apply, Function.comp_apply, LineBuilder.shift_finish, Nat.add_right_comm]
  rfl

end Lexer

namespace PlainLexer

/-- The tokens of a plain text are shifted with it. -/
theorem tokensFrom_shift (p : PlainLexer) (count offset d : Nat) (text : Text) :
  p.tokensFrom count (offset + d) text = (p.tokensFrom count offset text).map (·.shift d)
  := by
  induction count generalizing offset text with
  | zero => rfl
  | succ count ih =>
    cases text with
    | nil => rfl
    | cons c text =>
      simp only [tokensFrom, List.map_cons]
      rw [Nat.add_right_comm, ih]
      rfl

/-- A plain tokenizer finds the same in a line further on, shifted. -/
theorem tokenize_shift (p : PlainLexer) (line : Text) (state : LexerState) (delta d : Nat)
    (stop : Option Nat) :
  p.tokenize line state (delta + d) (stop.map (· + d))
    = (p.tokenize line state delta stop).shift d
  := by
  simp only [tokenize, visiblePart_shift, tokensFrom_shift]
  rw [Nat.add_right_comm]
  rfl

end PlainLexer

namespace Tokenizer

variable {registry : TokenizerRegistry}

/-- Tokenizers that follow rules find the same in a line further on, at each depth of calls. -/
theorem tokenizeWithin_shift (rules : registry.followsRules) (depth : Nat) {t : Tokenizer}
    (rule : t.followsRules) (line : Text) (state : LexerState) (delta d : Nat)
    (stop : Option Nat) :
  t.tokenizeWithin registry depth line state (delta + d) (stop.map (· + d))
    = (t.tokenizeWithin registry depth line state delta stop).map (·.shift d)
  := by
  induction depth generalizing t line state delta stop with
  | zero =>
    cases t with
    | lexer l connected => rfl
    | plain p => exact congrArg some (p.tokenize_shift line state delta d stop)
    | function language initial run => cases rule
  | succ depth ih =>
    cases t with
    | lexer l connected =>
      rw [tokenizeWithin_lexer, tokenizeWithin_lexer]
      apply Lexer.tokenize?_shift
      intro language guest text inner offset found
      obtain ⟨-, t, best, rfl⟩ := TokenizerRegistry.guestsBy_eq_some_iff.mp found
      exact ih (registry.followsRules_of_best? rules best) text inner offset none
    | plain p => exact congrArg some (p.tokenize_shift line state delta d stop)
    | function language initial run => cases rule

/-- Tokenizers that follow rules read the visible part of a line like a line of its own. -/
theorem tokenize?_visiblePart (rules : registry.followsRules) {t : Tokenizer}
    (rule : t.followsRules) (line : Text) (state : LexerState) (delta : Nat)
    (stop : Option Nat) :
  t.tokenize? registry line state delta stop
    = t.tokenize? registry (visiblePart line delta stop) state delta none
  := by
  ext result
  constructor
  · intro answer
    rw [tokenize?, tokenizeWithin_visiblePart rule] at answer
    apply tokenize?_of_tokenizeWithin rules rule answer
  · intro answer
    rw [tokenize?, ← tokenizeWithin_visiblePart rule] at answer
    apply tokenize?_of_tokenizeWithin rules rule answer

end Tokenizer

/-- The longest prefix of at most so many bytes has all others as its prefixes. -/
theorem Text.takeBytes_longest (t : Text) (n : Nat) :
  (t.takeBytes n).byteSize ≤ n
    ∧ ∀ s : Text, s <+: t → s.byteSize ≤ n → s <+: t.takeBytes n
  := by
  obtain ⟨-, size_le, greatest⟩ := t.splitFloor_spec n
  refine ⟨size_le, fun s part fits => ?_⟩
  apply prefix_of_byteSize_le part (t.takeBytes_prefix n)
  apply greatest _ (.of_isPrefix part) fits

/--
Where the tokenizers of the registry follow rules, one that does so finds the same in a line
wherever the line starts: with the offset, all tokens, all changes of language and the place where
it stops are shifted, and the line ends in the same state.  And a line that is read up to an offset
is read like its longest prefix that has no more bytes before the offset.
-/
theorem Tokenizer.tokenize?_shift_cut {registry : TokenizerRegistry}
    (rules : registry.followsRules) {t : Tokenizer} (rule : t.followsRules) (line : Text)
    (state : LexerState) :
  (∀ d stop, t.tokenize? registry line state d (stop.map (· + d))
      = (t.tokenize? registry line state 0 stop).map (·.shift d))
    ∧ ∀ delta stop, ∃ shown : Text, shown <+: line ∧ shown.byteSize ≤ stop - delta
      ∧ (∀ other : Text, other <+: line → other.byteSize ≤ stop - delta → other <+: shown)
      ∧ t.tokenize? registry line state delta (some stop)
        = t.tokenize? registry shown state delta none
  := by
  constructor
  · intro d stop
    have shifted := tokenizeWithin_shift rules (depthBound registry line state) rule line state 0 d
      stop
    rwa [Nat.zero_add] at shifted
  · intro delta stop
    obtain ⟨fits, longest⟩ := line.takeBytes_longest (stop - delta)
    refine ⟨line.takeBytes (stop - delta), line.takeBytes_prefix _, fits, longest, ?_⟩
    apply tokenize?_visiblePart rules rule

/-- A style with a script in it that is to stop within a character, at the offset of 7 bytes. -/
theorem Tokenizer.tokenize?_shift_cut_styles :
  styleRegistry.followsRules ∧ (lexer styleLexer true).followsRules
    ∧ (lexer styleLexer true).tokenize? styleRegistry "x`aé".toList (.initial "root") 7 (some 11)
      = some ⟨[⟨7, "property"⟩, ⟨8, "delimiter"⟩, ⟨9, "identifier"⟩],
          [⟨7, "style"⟩, ⟨9, "script"⟩], 10,
          ⟨⟨"script", ["root"], 0⟩, [("script", ⟨"root", [], 0⟩)]⟩⟩
    ∧ ∃ shown : Text, shown <+: "x`aé".toList ∧ shown.byteSize ≤ 4
      ∧ (lexer styleLexer true).tokenize? styleRegistry "x`aé".toList (.initial "root") 7 (some 11)
        = (lexer styleLexer true).tokenize? styleRegistry shown (.initial "root") 7 none
  := by
  have rules := styleRegistry_followsRules
  have unshifted :
      (lexer styleLexer true).tokenize? styleRegistry "x`aé".toList (.initial "root") 0 (some 4)
        = some ⟨[⟨0, "property"⟩, ⟨1, "delimiter"⟩, ⟨2, "identifier"⟩],
            [⟨0, "style"⟩, ⟨2, "script"⟩], 3,
            ⟨⟨"script", ["root"], 0⟩, [("script", ⟨"root", [], 0⟩)]⟩⟩ := by
    decide +kernel
  obtain ⟨shifted, cut⟩ := Tokenizer.tokenize?_shift_cut rules (t := .lexer styleLexer true) rfl
    "x`aé".toList (.initial "root")
  obtain ⟨shown, part, fits, -, same⟩ := cut 7 11
  refine ⟨rules, rfl, ?_, shown, part, fits, same⟩
  apply (shifted 7 (some 4)).trans
  rw [unshifted]
  rfl

end EditorModes
