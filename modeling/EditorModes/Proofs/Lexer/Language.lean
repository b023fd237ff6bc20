import EditorModes.Proofs.Lexer.Piece
import Mathlib.Data.List.Chain

/-!
# The languages of a line

The changes of language in a line stand one after another, each to another language than the one
before, and the last change before a token names the language of the tokenizer that the token is
from.  Changes are made by the lexer itself and by the tokenizers of embedded languages, whose
changes are made again where their tokens are spliced in; none of them is made at or before the
place of an earlier one, so that the languages of the text passed over stay as they are.
-/

namespace EditorModes

/-- The language at an offset, of changes listed latest first. -/
def languageAt? (modes : List ModeTransition) (offset : Nat) : Option String :=
  (modes.find? (·.start ≤ offset)).map (·.language)

/-- The language at an offset: that of the last change that is not made after it. -/
def LineTokens.languageAt? (result : LineTokens) (offset : Nat) : Option String :=
  EditorModes.languageAt? result.modes.reverse offset

theorem languageAt?_cons (m : ModeTransition) (modes : List ModeTransition) (offset : Nat) :
  languageAt? (m :: modes) offset
    = if m.start ≤ offset then some m.language else languageAt? modes offset
  := by
  unfold languageAt?
  split_ifs with started <;> simp [started]

theorem languageAt?_append (later earlier : List ModeTransition) (offset : Nat) :
  languageAt? (later ++ earlier) offset
    = (languageAt? later offset).or (languageAt? earlier offset)
  := by
  rw [languageAt?, List.find?_append, Option.map_or]
  rfl

theorem languageAt?_eq_none {modes : List ModeTransition} {offset : Nat}
    (later : ∀ m ∈ modes, offset < m.start) :
  languageAt? modes offset = none
  := by
  rw [languageAt?, Option.map_eq_none_iff, List.find?_eq_none]
  intro m among
  have := later m among
  simp
  omega

/-! ### Changes in order -/

/--
Changes of language, listed latest first, that are made one after another from `delta` on and
before `stop`, each to another language.
-/
structure ModesOver (delta stop : Nat) (modes : List ModeTransition) : Prop where
  in_order : modes.Pairwise (·.start > ·.start)
  differ : modes.IsChain (·.language ≠ ·.language)
  inside : ∀ m ∈ modes, delta ≤ m.start ∧ m.start < stop

namespace ModesOver

variable {delta stop later : Nat} {modes : List ModeTransition}

theorem nil (delta stop : Nat) :
  ModesOver delta stop []
  := by
  constructor <;> simp

theorem single (m : ModeTransition) (first : delta ≤ m.start) (last : m.start < stop) :
  ModesOver delta stop [m]
  := by
  constructor
  · simp
  · simp
  · simp [first, last]

/-- The stretch may go on after the changes. -/
theorem mono (placed : ModesOver delta stop modes) (le : stop ≤ later) :
  ModesOver delta later modes
  := by
  constructor
  · apply placed.in_order
  · apply placed.differ
  · intro m among
    have := placed.inside m among
    omega

/-- One more change, to another language than the last. -/
theorem cons (placed : ModesOver delta stop modes) (m : ModeTransition) (first : delta ≤ m.start)
    (next : stop ≤ m.start) (last : m.start < later)
    (other : ∀ before ∈ modes.head?, m.language ≠ before.language) :
  ModesOver delta later (m :: modes)
  := by
  constructor
  · apply List.Pairwise.cons _ placed.in_order
    intro before among
    have := placed.inside before among
    omega
  · apply List.isChain_cons.mpr ⟨other, placed.differ⟩
  · intro before among
    rcases List.mem_cons.mp among with rfl | among
    · omega
    · have := placed.inside before among
      omega

end ModesOver

/-! ### Collecting changes -/

namespace LineBuilder

/-- A change of language after the others is left out when it is to the same language. -/
theorem modes_switch {b : LineBuilder} {start : Nat} (language : String)
    (before : ∀ m ∈ b.modes, m.start < start) :
  (b.switch start language).modes
    = if b.modes.head?.any (·.language = language) then b.modes
      else ⟨start, language⟩ :: b.modes
  := by
  unfold switch
  split
  · next unset => simp [unset]
  · next last earlier listed =>
    have sooner := before last (by simp [listed])
    have elsewhere : last.start ≠ start := by omega
    rw [listed]
    simp only [List.head?_cons, Option.any_some, decide_eq_true_eq, elsewhere, if_false]
    split_ifs
    · apply listed
    · rfl

theorem switchAll_append (b : LineBuilder) (modes others : List ModeTransition) :
  b.switchAll (modes ++ others) = (b.switchAll modes).switchAll others
  := List.foldl_append

/-- The changes of language do not depend on the tokens. -/
theorem modes_switchAll_congr {b c : LineBuilder} (same : b.modes = c.modes)
    (modes : List ModeTransition) :
  (b.switchAll modes).modes = (c.switchAll modes).modes
  := by
  induction modes generalizing b c with
  | nil => apply same
  | cons m modes ih =>
    rw [switchAll, switchAll, List.foldl_cons, List.foldl_cons]
    apply ih
    unfold switch
    rw [same]
    split
    · rfl
    · split_ifs <;> simp [same]

/-- The changes of language in an embedded region are all made. -/
theorem modes_splice (b : LineBuilder) (tokens : List Token) (modes : List ModeTransition) :
  (b.splice tokens modes).modes = (b.switchAll modes).modes
  := by
  induction tokens generalizing b modes with
  | nil => rfl
  | cons t tokens ih =>
    rw [splice, List.span_eq_takeWhile_dropWhile]
    apply (ih _ _).trans
    conv => rhs; rw [← List.takeWhile_append_dropWhile (p := (·.start ≤ t.start)) (l := modes)]
    rw [switchAll_append]
    apply modes_switchAll_congr
    rfl

@[simp]
theorem modes_token (b : LineBuilder) (start : Nat) (type : String) (bracket : Bool) :
  (b.token start type bracket).modes = b.modes
  := by
  unfold token
  dsimp only
  split_ifs <;> rfl

variable {b : LineBuilder} {delta stop later : Nat}

/-- Changes stay in order with one more after them. -/
theorem modesOver_switch (placed : ModesOver delta stop b.modes) {start : Nat} (language : String)
    (first : delta ≤ start) (next : stop ≤ start) (last : start < later) :
  ModesOver delta later (b.switch start language).modes
  := by
  rw [modes_switch language fun m among => Nat.lt_of_lt_of_le (placed.inside m among).2 next]
  split_ifs with same
  · apply placed.mono
    omega
  · apply placed.cons _ first next last
    intro before listed
    rw [Option.mem_def.mp listed] at same
    simp only [Option.any_some, decide_eq_true_eq] at same
    exact fun equal => same equal.symm

/-- From a change on, its language is the one there; before it, the languages stay the same. -/
theorem languageAt?_switch (placed : ModesOver delta stop b.modes) {start : Nat}
    (language : String) (next : stop ≤ start) (offset : Nat) :
  languageAt? (b.switch start language).modes offset
    = if start ≤ offset then some language else languageAt? b.modes offset
  := by
  rw [modes_switch language fun m among => Nat.lt_of_lt_of_le (placed.inside m among).2 next]
  split_ifs with same started started
  · obtain ⟨last, listed, same⟩ := Option.any_eq_true _ _ |>.mp same
    obtain ⟨earlier, modes_eq⟩ := List.head?_eq_some_iff.mp listed
    have := (placed.inside last (by simp [modes_eq])).2
    rw [modes_eq, languageAt?_cons, if_pos (by omega)]
    simpa using same
  · rfl
  · rw [languageAt?_cons, if_pos started]
  · rw [languageAt?_cons, if_neg started]

/-- Changes stay in order with others after them. -/
theorem modesOver_switchAll (placed : ModesOver delta stop b.modes) {modes : List ModeTransition}
    (in_order : modes.Pairwise (·.start < ·.start))
    (next : ∀ m ∈ modes, delta ≤ m.start ∧ stop ≤ m.start ∧ m.start < later)
    (le : stop ≤ later) :
  ModesOver delta later (b.switchAll modes).modes
  := by
  induction modes generalizing b stop with
  | nil => apply placed.mono le
  | cons m modes ih =>
    obtain ⟨first, behind, last⟩ := next m (by simp)
    obtain ⟨sooner, in_order⟩ := List.pairwise_cons.mp in_order
    rw [switchAll, List.foldl_cons]
    apply ih (modesOver_switch placed m.language first behind (Nat.lt_succ_self _)) in_order
    · intro other among
      have := next other (by simp [among])
      have := sooner other among
      omega
    · omega

/-- After changes have been made, they are the last ones from where they are made. -/
theorem languageAt?_switchAll (placed : ModesOver delta stop b.modes)
    {modes : List ModeTransition} (in_order : modes.Pairwise (·.start < ·.start))
    (next : ∀ m ∈ modes, delta ≤ m.start ∧ stop ≤ m.start) (offset : Nat) :
  languageAt? (b.switchAll modes).modes offset
    = (languageAt? modes.reverse offset).or (languageAt? b.modes offset)
  := by
  induction modes generalizing b stop with
  | nil => rfl
  | cons m modes ih =>
    obtain ⟨first, behind⟩ := next m (by simp)
    obtain ⟨sooner, in_order⟩ := List.pairwise_cons.mp in_order
    have placed' := modesOver_switch placed m.language first behind (Nat.lt_succ_self _)
    have next' : ∀ other ∈ modes, delta ≤ other.start ∧ m.start + 1 ≤ other.start := by
      intro other among
      have := next other (by simp [among])
      have := sooner other among
      omega
    rw [switchAll, List.foldl_cons]
    apply (ih placed' in_order next').trans
    rw [languageAt?_switch placed m.language behind, List.reverse_cons, languageAt?_append,
      Option.or_assoc]
    congr 1
    rw [languageAt?_cons]
    split_ifs <;> rfl

end LineBuilder

/-! ### The language of each token -/

/-- The changes collected so far are in order and name the languages of the pieces. -/
structure LineBuilder.Names (b : LineBuilder) (delta : Nat) (text : Text) (pieces : List Piece) :
    Prop where
  modes_over : ModesOver delta (delta + text.byteSize) b.modes
  named : ∀ r ∈ pieces, r.type ≠ none → languageAt? b.modes r.start = some r.language

/--
The changes of language in a text, which are at least one, are in order and name the languages of
its pieces.
-/
structure LineTokens.Names (result : LineTokens) (delta : Nat) (text : Text)
    (pieces : List Piece) : Prop where
  nonempty : result.modes ≠ []
  modes_over : ModesOver delta (delta + max 1 text.byteSize) result.modes.reverse
  named : ∀ r ∈ pieces, r.type ≠ none → result.languageAt? r.start = some r.language

namespace LineBuilder.Names

variable {b c : LineBuilder} {delta : Nat} {language : String} {text more : Text}
  {pieces others : List Piece}

/-- A piece of the lexer gets its language, and those before it keep theirs. -/
theorem token (cut : b.CutInto delta text pieces) (names : b.Names delta text pieces) {r : Piece}
    (start_eq : r.start = delta + text.byteSize) (nonempty : r.text ≠ []) (type : String)
    (bracket : Bool) :
  ((b.switch (delta + text.byteSize) r.language).token (delta + text.byteSize) type
      bracket).Names delta (text ++ r.text) (pieces ++ [r])
  := by
  have positive := Text.byteSize_pos nonempty
  constructor
  · rw [modes_token, Text.byteSize_append]
    apply modesOver_switch names.modes_over <;> omega
  · intro s among emits
    rw [modes_token, languageAt?_switch names.modes_over r.language (Nat.le_refl _)]
    rcases List.mem_append.mp among with among | among
    · have := cut.start_lt among
      rw [if_neg (by omega)]
      apply names.named s among emits
    · obtain rfl := List.mem_singleton.mp among
      rw [if_pos (by omega)]

/-- A piece without a type needs no language. -/
theorem drop (names : b.Names delta text pieces) {r : Piece} (untyped : r.type = none) :
  b.Names delta (text ++ r.text) (pieces ++ [r])
  := by
  constructor
  · apply names.modes_over.mono
    rw [Text.byteSize_append]
    omega
  · intro s among emits
    rcases List.mem_append.mp among with among | among
    · apply names.named s among emits
    · obtain rfl := List.mem_singleton.mp among
      exact absurd untyped emits

/-- The pieces of an embedded region keep their languages, and those before it as well. -/
theorem splice (cut : b.CutInto delta text pieces) (names : b.Names delta text pieces)
    {result : LineTokens} {inner : List Piece} (nonempty : more ≠ [])
    (innerNames : result.Names (delta + text.byteSize) more inner) :
  (b.splice result.tokens result.modes).Names delta (text ++ more)
    (pieces ++ inner.map (·.embed))
  := by
  have positive := Text.byteSize_pos nonempty
  have in_order := List.pairwise_reverse.mp innerNames.modes_over.in_order
  have inside : ∀ m ∈ result.modes, delta + text.byteSize ≤ m.start
      ∧ m.start < delta + text.byteSize + more.byteSize := by
    intro m among
    have := innerNames.modes_over.inside m (List.mem_reverse.mpr among)
    omega
  constructor
  · rw [modes_splice, Text.byteSize_append]
    apply modesOver_switchAll names.modes_over in_order
    · intro m among
      have := inside m among
      omega
    · omega
  · have language_eq (offset : Nat) := languageAt?_switchAll names.modes_over in_order
      (fun m among => ⟨by have := inside m among; omega, (inside m among).1⟩) offset
    intro s among emits
    rw [modes_splice, language_eq]
    rcases List.mem_append.mp among with among | among
    · rw [languageAt?_eq_none, Option.none_or]
      · apply names.named s among emits
      · intro m amongModes
        have := inside m (List.mem_reverse.mp amongModes)
        have := cut.start_lt among
        omega
    · obtain ⟨r, amongInner, rfl⟩ := List.mem_map.mp among
      have named := innerNames.named r amongInner emits
      rw [LineTokens.languageAt?] at named
      rw [Piece.toReading_embed, named, Option.some_or]
      rfl

/-- Whatever is added, the changes name the languages of the pieces. -/
theorem adds (cut : b.CutInto delta text pieces) (names : b.Names delta text pieces)
    (adds : b.Adds (fun delta text pieces result => result.Names delta text pieces) language
      (delta + text.byteSize) more others c) :
  c.Names delta (text ++ more) (pieces ++ others)
  := by
  cases adds with
  | nothing => simpa using names
  | @token r type start_eq nonempty typed language_eq own =>
    rw [← language_eq]
    apply names.token cut start_eq nonempty
  | @drop r start_eq nonempty untyped own => apply names.drop untyped
  | @splice _ inner result nonempty innerCut innerNames =>
    apply names.splice cut nonempty innerNames

/-- At the end of a text, its changes name the languages of its pieces. -/
theorem finish (names : b.Names delta text pieces) (active : String) (stop : Nat)
    (endState : LexerState) :
  (b.finish delta active stop endState).Names delta text pieces
  := by
  cases listed : b.modes with
  | nil =>
    constructor
    · simp [LineBuilder.finish, listed]
    · simp only [LineBuilder.finish, listed, List.isEmpty_nil, if_true, List.reverse_singleton]
      apply ModesOver.single <;> dsimp only <;> omega
    · intro r among emits
      have named := names.named r among emits
      simp [listed, languageAt?] at named
  | cons last earlier =>
    have modes_eq : (b.finish delta active stop endState).modes = b.modes.reverse := by
      simp [LineBuilder.finish, listed]
    constructor
    · simp [modes_eq, listed]
    · rw [modes_eq, List.reverse_reverse]
      apply names.modes_over.mono
      omega
    · intro r among emits
      rw [LineTokens.languageAt?, modes_eq, List.reverse_reverse]
      apply names.named r among emits

end LineBuilder.Names

/-- A plain text is all in the language of its tokenizer. -/
theorem PlainLexer.names_tokenize (p : PlainLexer) (delta : Nat) (text : Text)
    (state : LexerState) :
  (p.tokenize text state delta none).Names delta text (p.pieces delta text)
  := by
  have modes_eq : (p.tokenize text state delta none).modes = [⟨delta, p.language⟩] := rfl
  constructor
  · simp [modes_eq]
  · rw [modes_eq]
    apply ModesOver.single <;> dsimp only <;> omega
  · intro r among _
    have tiles := (p.reads_readingsFrom text.length delta text (Nat.le_refl _)).1
    rw [← readingsOf_pieces] at tiles
    have started := (tiles.start_mem (toReading_mem among)).1
    obtain ⟨reading, -, rfl⟩ := List.mem_map.mp among
    rw [LineTokens.languageAt?, modes_eq, List.reverse_singleton, languageAt?_cons,
      if_pos started]

/-- The languages are carried from piece to piece. -/
theorem carries_names :
  Carries (fun _ delta text pieces b => b.Names delta text pieces)
    (fun delta text pieces result => result.Names delta text pieces)
  where
  start _ delta := ⟨.nil _ _, by simp⟩
  adds cut names adds := names.adds cut adds
  finish active endState _ names := names.finish active _ endState
  plain p delta text state := p.names_tokenize delta text state

/--
Where the tokenizers of the registry follow rules, a line that a lexer reads has changes of
language, one after another and none before the line starts, each to another language; and the
last change that is not made after a token names the language of the tokenizer that consumed the
piece of text at whose start the token stands.
-/
theorem Tokenizer.modes_name_languages {registry : TokenizerRegistry}
    (rules : registry.followsRules) (l : Lexer) (connected : Bool) {line : Text}
    {state : LexerState} {delta : Nat} {stop : Option Nat} {result : LineTokens}
    (answer : (lexer l connected).tokenize? registry line state delta stop = some result) :
  let pieces := (lexer l connected).pieces registry line state delta stop
  result.modes ≠ []
    ∧ result.modes.Pairwise (·.start < ·.start)
    ∧ (∀ m ∈ result.modes, delta ≤ m.start)
    ∧ result.modes.IsChain (·.language ≠ ·.language)
    ∧ Tiles delta (visiblePart line delta stop) (readingsOf pieces)
    ∧ ∀ t ∈ result.tokens, ∃ r ∈ pieces, r.start = t.start ∧ r.type = some t.type
        ∧ result.languageAt? t.start = some r.language
  := by
  intro pieces
  have cut : result.CutInto delta (visiblePart line delta stop) pieces :=
    cutInto_tokenizeWithin rules _ (t := .lexer l connected) rfl answer
  have names : result.Names delta (visiblePart line delta stop) pieces :=
    holds_tokenizeWithin carries_names rules _ (t := .lexer l connected) rfl answer
  refine ⟨names.nonempty, List.pairwise_reverse.mp names.modes_over.in_order, ?_, ?_,
    cut.reads.tiles, ?_⟩
  · intro m among
    apply (names.modes_over.inside m (List.mem_reverse.mpr among)).1
  · have differ := List.isChain_reverse.mp names.modes_over.differ
    exact differ.imp fun _ _ other => other.symm
  · intro t among
    rcases cut.reads.collects.source t (List.mem_reverse.mpr among) with none_before | source
    · simp at none_before
    · obtain ⟨reading, amongReadings, start_eq, typed⟩ := source
      obtain ⟨r, amongPieces, rfl⟩ := List.mem_map.mp amongReadings
      have named := names.named r amongPieces (by simp [typed])
      rw [start_eq] at named
      exact ⟨r, amongPieces, start_eq, typed, named⟩

/-- The state of styles within the script of a style that is itself embedded in one. -/
def nestedStyle : LexerState where
  frame := ⟨"script", ["root"], 0⟩
  embedded := [("style", ⟨"script", ["root"], 0⟩), ("script", ⟨"root", [], 0⟩)]

/-- In a style within a style, the text two regions deep is in the language of scripts. -/
theorem Tokenizer.modes_name_languages_nested :
  styleRegistry.followsRules
    ∧ (Tokenizer.lexer styleLexer true).tokenize? styleRegistry "é`a`b".toList nestedStyle 7 none
      = some ⟨[⟨7, "source"⟩, ⟨9, "delimiter"⟩, ⟨10, "property"⟩, ⟨11, "delimiter"⟩,
            ⟨12, "identifier"⟩],
          [⟨7, "script"⟩, ⟨9, "style"⟩, ⟨12, "script"⟩], 13,
          ⟨⟨"script", ["root"], 0⟩, [("script", ⟨"root", [], 0⟩)]⟩⟩
    ∧ ((Tokenizer.lexer styleLexer true).pieces styleRegistry "é`a`b".toList nestedStyle 7 none).map
        (fun r => (r.start, r.language, r.depth))
      = [(7, "script", 2), (9, "style", 0), (10, "style", 0), (11, "style", 0), (12, "script", 1)]
    ∧ ["script", "style", "script"].IsChain (· ≠ ·)
  := by
  have rules := styleRegistry_followsRules
  have answer :
      (Tokenizer.lexer styleLexer true).tokenize? styleRegistry "é`a`b".toList nestedStyle 7 none
        = some ⟨[⟨7, "source"⟩, ⟨9, "delimiter"⟩, ⟨10, "property"⟩, ⟨11, "delimiter"⟩,
              ⟨12, "identifier"⟩],
            [⟨7, "script"⟩, ⟨9, "style"⟩, ⟨12, "script"⟩], 13,
            ⟨⟨"script", ["root"], 0⟩, [("script", ⟨"root", [], 0⟩)]⟩⟩ := by
    decide +kernel
  obtain ⟨-, -, -, differ, -⟩ := Tokenizer.modes_name_languages rules styleLexer true answer
  refine ⟨rules, answer, by decide +kernel, ?_⟩
  exact (List.isChain_map ModeTransition.language).mpr differ

end EditorModes
