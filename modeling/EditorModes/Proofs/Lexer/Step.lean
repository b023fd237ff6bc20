import EditorModes.Lexer.Tokenizer
import EditorModes.Proofs.Text.Cut

/-!
# Steps of a lexer

What a single step of a lexer can do is said once, by `Lexer.Moves`: an embedded language is left
or run, a rule is applied, or a character is skipped.  What each move keeps, the whole run keeps;
`run?_transfer` also carries the run over to other tokenizers of the embedded languages, as long
as they answer the same in each step.
-/

namespace EditorModes

theorem visiblePart_isPrefix (line : Text) (delta : Nat) (stop : Option Nat) :
  visiblePart line delta stop <+: line
  := by
  cases stop with
  | none => apply List.prefix_rfl
  | some stop => apply Text.takeBytes_prefix

namespace Lexer

/-! ### What a step does -/

/-- The text up to where a rule of the current state would end the embedded region. -/
def region (l : Lexer) (p : Progress) : Text :=
  p.rest.take (l.regionLength p.state p.rest)

/-- The place after an embedded tokenizer has read its region. -/
def afterGuest (l : Lexer) (p : Progress) (language : String) (result : LineTokens) : Progress :=
  { p with
    position := p.position + (l.region p).byteSize
    rest := p.rest.drop (l.regionLength p.state p.rest)
    state := p.state.enter language result.endState
    line := p.line.splice result.tokens result.modes
    guestRan := true }

/-- The embedded tokenizer has its turn when it has not been run up to this very place. -/
def GuestTurn (p : Progress) (language : String) (inner : LexerState) : Prop :=
  p.state.guest? = some (language, inner) ∧ p.guestRan = false

/-- How a lexer moves on from a place. -/
inductive Moves (l : Lexer) (resolve : String → Option Guest) (delta : Nat) (p : Progress) :
    Progress → Prop where
  /-- The embedded language has no tokenizer any more and is left. -/
  | leave {language inner} (turn : GuestTurn p language inner)
      (gone : resolve language = none) :
      Moves l resolve delta p { p with state := p.state.leave, guestRan := true }
  /-- The embedded region is empty. -/
  | pass {language inner guest} (turn : GuestTurn p language inner)
      (found : resolve language = some guest) (empty : l.region p = []) :
      Moves l resolve delta p { p with guestRan := true }
  /-- The embedded tokenizer reads its region. -/
  | handOn {language inner guest result} (turn : GuestTurn p language inner)
      (found : resolve language = some guest) (nonempty : l.region p ≠ [])
      (answer : guest.run (l.region p) inner (delta + p.position) = some result) :
      Moves l resolve delta p (l.afterGuest p language result)
  /-- The first rule that matches is applied. -/
  | apply {rule count} (turn : ∀ language inner, ¬ GuestTurn p language inner)
      (fresh : p.stalled < stallLimit) (found : l.findRule? p.state p.rest = some (rule, count)) :
      Moves l resolve delta p (l.applyRule resolve delta p rule count)
  /-- A character is skipped, where no rule matches or too many steps consumed nothing. -/
  | skip (turn : ∀ language inner, ¬ GuestTurn p language inner)
      (reason : p.stalled < stallLimit → l.findRule? p.state p.rest = none) :
      Moves l resolve delta p (l.skipChar delta p)

variable {l : Lexer} {resolve : String → Option Guest} {delta : Nat} {p q : Progress}

/-- A step is one of the moves, and each move is a step. -/
theorem step?_eq_some_iff :
  l.step? resolve delta p = some q ↔ l.Moves resolve delta p q
  := by
  constructor
  · intro stepped
    unfold step? at stepped
    split at stepped
    · next language inner embedded unvisited =>
      unfold runGuest? at stepped
      split at stepped
      · next gone =>
        obtain rfl := Option.some.inj stepped
        apply Moves.leave ⟨embedded, unvisited⟩ gone
      · next guest found =>
        dsimp only at stepped
        split at stepped
        · next empty =>
          obtain rfl := Option.some.inj stepped
          apply Moves.pass ⟨embedded, unvisited⟩ found empty
        · next nonempty =>
          obtain ⟨result, answer, rfl⟩ := Option.map_eq_some_iff.mp stepped
          apply Moves.handOn ⟨embedded, unvisited⟩ found nonempty answer
    · next other =>
      have turn : ∀ language inner, ¬ GuestTurn p language inner := by
        rintro language inner ⟨embedded, unvisited⟩
        apply other language inner embedded unvisited
      split at stepped
      · next fresh =>
        split at stepped
        · next rule count found =>
          obtain rfl := Option.some.inj stepped
          apply Moves.apply turn fresh found
        · next unmatched =>
          obtain rfl := Option.some.inj stepped
          apply Moves.skip turn fun _ => unmatched
      · next stale =>
        obtain rfl := Option.some.inj stepped
        apply Moves.skip turn fun fresh => absurd fresh stale
  · intro moved
    cases moved with
    | leave turn gone => simp [step?, runGuest?, turn.1, turn.2, gone]
    | pass turn found empty =>
      rw [region] at empty
      simp [step?, runGuest?, turn.1, turn.2, found, empty]
    | handOn turn found nonempty answer =>
      rw [region] at nonempty answer
      simp [step?, runGuest?, turn.1, turn.2, found, nonempty, answer, afterGuest, region]
    | apply turn fresh found =>
      unfold step?
      split
      · next language inner embedded unvisited =>
        exact absurd ⟨embedded, unvisited⟩ (turn language inner)
      · simp [fresh, found]
    | skip turn reason =>
      unfold step?
      split
      · next language inner embedded unvisited =>
        exact absurd ⟨embedded, unvisited⟩ (turn language inner)
      · split
        · next fresh => simp [reason fresh]
        · rfl

/-- A move consumes a part of the text ahead, maybe none. -/
theorem Moves.consumes (moved : l.Moves resolve delta p q) :
  ∃ passed, p.rest = passed ++ q.rest ∧ q.position = p.position + passed.byteSize
  := by
  cases moved with
  | leave turn gone => exact ⟨[], rfl, rfl⟩
  | pass turn found empty => exact ⟨[], rfl, rfl⟩
  | handOn turn found nonempty answer =>
    use l.region p
    simp [afterGuest, region]
  | @apply rule count turn fresh found =>
    use p.rest.take count
    simp [applyRule]
  | skip turn reason =>
    use p.rest.take 1
    refine ⟨?_, rfl⟩
    rw [skipChar, List.take_append_drop]

theorem Moves.unique {o : Progress} (moved : l.Moves resolve delta p q)
    (other : l.Moves resolve delta p o) :
  q = o
  := by
  have stepped := step?_eq_some_iff.mpr moved
  rw [step?_eq_some_iff.mpr other] at stepped
  apply (Option.some.inj stepped).symm

/-- There is a move from a place, unless a region is handed on that the guest does not answer. -/
theorem exists_moves
    (answers : ∀ language inner guest, GuestTurn p language inner →
      resolve language = some guest → l.region p ≠ [] →
      ∃ result, guest.run (l.region p) inner (delta + p.position) = some result) :
  ∃ q, l.Moves resolve delta p q
  := by
  by_cases turn : ∃ language inner, GuestTurn p language inner
  · obtain ⟨language, inner, turn⟩ := turn
    cases found : resolve language with
    | none => exact ⟨_, .leave turn found⟩
    | some guest =>
      by_cases empty : l.region p = []
      · exact ⟨_, .pass turn found empty⟩
      · obtain ⟨result, answer⟩ := answers language inner guest turn found empty
        exact ⟨_, .handOn turn found empty answer⟩
  · have turn : ∀ language inner, ¬ GuestTurn p language inner := fun language inner taken =>
      turn ⟨language, inner, taken⟩
    by_cases fresh : p.stalled < stallLimit
    · cases found : l.findRule? p.state p.rest with
      | none => exact ⟨_, .skip turn fun _ => found⟩
      | some first => exact ⟨_, .apply turn fresh found⟩
    · exact ⟨_, .skip turn fun soon => absurd soon fresh⟩

/-! ### Whole runs -/

theorem run?_of_rest_eq_nil (done : p.rest = []) :
  l.run? resolve delta p = some p
  := by
  unfold run?
  rw [dif_pos done]

/-- A run goes on from the next place. -/
theorem run?_of_moves (ahead : p.rest ≠ []) (moved : l.Moves resolve delta p q) :
  l.run? resolve delta p = l.run? resolve delta q
  := by
  have stepped := step?_eq_some_iff.mpr moved
  rw [run?, dif_neg ahead]
  split
  · next stuck => simp [stepped] at stuck
  · next following follows =>
    obtain rfl := Option.some.inj (stepped.symm.trans follows)
    rfl

/-- A run that cannot go on while text is ahead has no end. -/
theorem run?_of_step?_eq_none (ahead : p.rest ≠ []) (stuck : l.step? resolve delta p = none) :
  l.run? resolve delta p = none
  := by
  rw [run?, dif_neg ahead]
  split
  · rfl
  · next following follows =>
    rw [stuck] at follows
    cases follows

/-- What holds at the end of a run, and before each move when it holds after it, holds of a run. -/
theorem run?_induction {Holds : Progress → Prop} (finish : q.rest = [] → Holds q)
    (step : ∀ p next, p.rest ≠ [] → l.Moves resolve delta p next →
      l.run? resolve delta next = some q → Holds next → Holds p)
    (ran : l.run? resolve delta p = some q) :
  Holds p
  := by
  induction bound : p.stepsLeft using Nat.strongRecOn generalizing p with
  | _ n ih =>
  by_cases done : p.rest = []
  · rw [run?_of_rest_eq_nil done] at ran
    obtain rfl := Option.some.inj ran
    apply finish done
  · unfold run? at ran
    rw [dif_neg done] at ran
    split at ran
    · simp at ran
    · next next stepped =>
      have shorter := stepsLeft_step?_lt done stepped
      apply step p next done (step?_eq_some_iff.mp stepped) ran
      apply ih _ (bound ▸ shorter) ran rfl

/-- A run that comes to its end has consumed the text that was ahead. -/
theorem position_of_run? (ran : l.run? resolve delta p = some q) :
  q.position = p.position + p.rest.byteSize
  := by
  apply run?_induction _ _ ran
  · intro done
    rw [done, Text.byteSize_nil, Nat.add_zero]
  · intro p next _ moved _ end_eq
    obtain ⟨passed, rest_eq, next_eq⟩ := moved.consumes
    rw [end_eq, rest_eq, next_eq, Text.byteSize_append, Nat.add_assoc]

/-- A run that comes to its end moves on while text is ahead. -/
theorem exists_moves_of_run? (ahead : p.rest ≠ []) (ran : l.run? resolve delta p = some q) :
  ∃ next, l.Moves resolve delta p next
  := by
  revert ahead
  apply run?_induction _ _ ran
  · intro done ahead
    exact absurd done ahead
  · intro p next _ moved _ _ _
    use next

/--
What each move keeps holds at the end of a run.  Where each move is also one with the guests
`other`, so is the run.
-/
theorem run?_transfer {Keeps : Progress → Prop} (other : String → Option Guest)
    (step : ∀ p q, p.rest ≠ [] → Keeps p → l.Moves resolve delta p q →
      Keeps q ∧ l.Moves other delta p q)
    (start : Keeps p) (ran : l.run? resolve delta p = some q) :
  Keeps q ∧ q.rest = [] ∧ l.run? other delta p = some q
  := by
  revert start
  apply run?_induction _ _ ran
  · intro done start
    exact ⟨start, done, run?_of_rest_eq_nil done⟩
  · intro p next ahead moved _ ih start
    obtain ⟨keeps, moved⟩ := step p next ahead start moved
    rw [run?_of_moves ahead moved]
    apply ih keeps

/-- What each move keeps holds at the end of a run, and no text is ahead there. -/
theorem run?_keeps {Keeps : Progress → Prop}
    (step : ∀ p q, p.rest ≠ [] → Keeps p → l.Moves resolve delta p q → Keeps q)
    (start : Keeps p) (ran : l.run? resolve delta p = some q) :
  Keeps q ∧ q.rest = []
  := by
  obtain ⟨kept, done, -⟩ := run?_transfer resolve
    (fun p q ahead keeps moved => ⟨step p q ahead keeps moved, moved⟩) start ran
  exact ⟨kept, done⟩

/-- The place at the start of a text. -/
def Progress.ofText (text : Text) (state : LexerState) : Progress where
  position := 0
  rest := text
  state := state
  line := {}
  guestRan := false
  stalled := 0

/-- The tokens of a line are those collected up to the end of its visible part. -/
theorem tokenize?_eq_some_iff {line : Text} {state : LexerState} {stop : Option Nat}
    {result : LineTokens} :
  l.tokenize? resolve line state delta stop = some result
    ↔ ∃ p, l.run? resolve delta (.ofText (visiblePart line delta stop) state) = some p
      ∧ result = p.line.finish delta (p.state.activeLanguage l.language) (delta + p.position)
          p.state
  := by
  simp only [tokenize?, Option.bind_eq_bind, Option.bind_eq_some_iff, Option.pure_def,
    Option.some.injEq]
  constructor
  · rintro ⟨p, ran, rfl⟩
    use p, ran
  · rintro ⟨p, ran, rfl⟩
    use p, ran

end Lexer

/-! ### Tokenizers for embedded languages -/

/-- The tokenizers of a registry as guests, which answer by `answer`. -/
def TokenizerRegistry.guestsBy (registry : TokenizerRegistry)
    (answer : Tokenizer → Text → LexerState → Nat → Option LineTokens) (connected : Bool)
    (language : String) : Option Guest :=
  if connected then
    (registry.best? language).map fun t => { initial := t.initial, run := answer t }
  else
    none

theorem TokenizerRegistry.guestsBy_eq_some_iff {registry : TokenizerRegistry}
    {answer : Tokenizer → Text → LexerState → Nat → Option LineTokens} {connected : Bool}
    {language : String} {guest : Guest} :
  registry.guestsBy answer connected language = some guest
    ↔ connected ∧ ∃ t, registry.best? language = some t ∧ ⟨t.initial, answer t⟩ = guest
  := by
  rw [guestsBy, Option.ite_none_right_eq_some, Option.map_eq_some_iff]

/-- The tokenizers of a registry, with calls nested at most `depth` deep. -/
def TokenizerRegistry.guestsWithin (registry : TokenizerRegistry) (depth : Nat) :
    Bool → String → Option Guest :=
  registry.guestsBy fun t text state delta => t.tokenizeWithin registry depth text state delta none

theorem Tokenizer.tokenizeWithin_lexer (registry : TokenizerRegistry) (depth : Nat) (l : Lexer)
    (connected : Bool) (line : Text) (state : LexerState) (delta : Nat) (stop : Option Nat) :
  tokenizeWithin registry (depth + 1) (.lexer l connected) line state delta stop
    = l.tokenize? (registry.guestsWithin depth connected) line state delta stop
  := rfl

theorem Registry.mem_of_best?_eq_some {r : Registry P} {language : String} {provider : P}
    (best : r.best? language = some provider) :
  provider ∈ r.entries.map (·.provider)
  := by
  have among := List.mem_of_mem_head? (Option.mem_def.mpr best)
  simp only [ordered, matchingEntries, List.mem_map, List.mem_mergeSort, List.mem_filter] at among
  obtain ⟨entry, ⟨registered, -⟩, rfl⟩ := among
  apply List.mem_map_of_mem registered

end EditorModes
