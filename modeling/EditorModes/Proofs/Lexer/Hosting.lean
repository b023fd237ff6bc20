import EditorModes.Proofs.Lexer.Depth
import EditorModes.Proofs.Lexer.Language

/-!
# Lines within an embedded region

Where no rule ends an embedded region in a line, the line is read by the tokenizer of the embedded
language alone.  The host gathers its tokens and changes of language again, and keeps nothing of
its own but the frame of its state (`Tokenizer.tokenize?_hosts`).  The changes come out as they
went in because of how they were gathered before: neighbouring changes are made at different places
and to different languages, and such changes are neither dropped nor replaced.
-/

namespace EditorModes

/-! ### Changes of language made again -/

/-- Changes of language, neighbouring ones at different places and to different languages. -/
def Varied (modes : List ModeTransition) : Prop :=
  modes.IsChain fun m n => m.start ≠ n.start ∧ m.language ≠ n.language

/-- Changes that are varied are so in the opposite order too. -/
theorem Varied.reverse {modes : List ModeTransition} (varied : Varied modes) :
  Varied modes.reverse
  := by
  apply List.isChain_reverse.mpr
  apply varied.imp
  intro m n other
  exact ⟨other.1.symm, other.2.symm⟩

namespace LineBuilder

variable {b : LineBuilder}

/-- One more change leaves varied ones varied, wherever it is made. -/
theorem varied_switch (varied : Varied b.modes) (start : Nat) (language : String) :
  Varied (b.switch start language).modes
  := by
  unfold switch
  split
  · apply List.isChain_singleton
  · next last earlier listed =>
    rw [listed] at varied
    obtain ⟨other, rest⟩ := List.isChain_cons.mp varied
    split_ifs with same here back
    · rwa [listed]
    · apply rest
    · apply List.isChain_cons.mpr ⟨_, rest⟩
      intro before listed
      rw [Option.mem_def.mp listed] at back
      simp only [Option.any_some, decide_eq_true_eq] at back
      constructor
      · rw [← here]
        apply (other before listed).1
      · apply Ne.symm back
    · rw [listed]
      apply List.isChain_cons_cons.mpr
      exact ⟨⟨Ne.symm here, Ne.symm same⟩, varied⟩

theorem varied_switchAll (varied : Varied b.modes) (modes : List ModeTransition) :
  Varied (b.switchAll modes).modes
  := by
  induction modes generalizing b with
  | nil => apply varied
  | cons m modes ih => apply ih (varied_switch varied m.start m.language)

/-- A change at another place and to another language than the latest one is made. -/
theorem modes_switch_of_varied {m : ModeTransition} (varied : Varied (m :: b.modes)) :
  (b.switch m.start m.language).modes = m :: b.modes
  := by
  unfold switch
  split
  · next unset => rw [unset]
  · next last earlier listed =>
    rw [listed] at varied
    obtain ⟨elsewhere, other⟩ := (List.isChain_cons_cons.mp varied).1
    rw [if_neg (Ne.symm other), if_neg (Ne.symm elsewhere)]

/-- Changes that are varied, also against the latest one, are all made. -/
theorem modes_switchAll_of_varied {modes : List ModeTransition}
    (varied : Varied (modes.reverse ++ b.modes)) :
  (b.switchAll modes).modes = modes.reverse ++ b.modes
  := by
  induction modes generalizing b with
  | nil => rfl
  | cons m modes ih =>
    rw [List.reverse_cons, List.append_assoc, List.singleton_append] at varied ⊢
    have made := modes_switch_of_varied (List.IsChain.right_of_append varied)
    rw [← made] at varied ⊢
    apply ih varied

end LineBuilder

/-! ### What a lexer gathers -/

/--
A line that is read to the end of a text, with changes of language that are varied, at least one.
-/
structure LineTokens.Gathered (r : LineTokens) (delta : Nat) (text : Text) : Prop where
  nonempty : r.modes ≠ []
  varied : Varied r.modes
  stop_eq : r.stop = delta + text.byteSize

/-- A line is gathered again as it is. -/
theorem LineTokens.Gathered.finish_splice {r : LineTokens} {delta : Nat} {text : Text}
    (gathered : r.Gathered delta text) (language : String) (endState : LexerState) :
  (LineBuilder.splice {} r.tokens r.modes).finish delta language (delta + text.byteSize) endState
    = ⟨r.tokens, r.modes, r.stop, endState⟩
  := by
  have made : (LineBuilder.splice {} r.tokens r.modes).modes = r.modes.reverse := by
    rw [LineBuilder.modes_splice, LineBuilder.modes_switchAll_of_varied]
    · apply List.append_nil
    · rw [List.append_nil]
      apply gathered.varied.reverse
  simp [LineBuilder.finish, made, gathered.nonempty, gathered.stop_eq]

namespace Lexer

variable {l : Lexer} {resolve : String → Option Guest} {delta : Nat} {p q : Progress}
  {text : Text} {s : LexerState}

/-- Each move leaves varied changes of language varied, whatever the guests answer. -/
theorem Moves.varied (moved : l.Moves resolve delta p q) (varied : Varied p.line.modes) :
  Varied q.line.modes
  := by
  cases moved with
  | leave turn gone => apply varied
  | pass turn found empty => apply varied
  | handOn turn found nonempty answer =>
    rw [afterGuest, LineBuilder.modes_splice]
    apply LineBuilder.varied_switchAll varied
  | apply turn fresh found =>
    simp only [applyRule]
    split
    · split_ifs
      · apply varied
      · rw [LineBuilder.modes_token]
        apply LineBuilder.varied_switch varied
    · apply varied
  | skip turn reason =>
    rw [skipChar, LineBuilder.modes_token]
    apply LineBuilder.varied_switch varied

/-- A lexer reads a line to the end and makes changes of language that are varied. -/
theorem gathered_tokenize? {line : Text} {stop : Option Nat} {r : LineTokens}
    (answer : l.tokenize? resolve line s delta stop = some r) :
  r.Gathered delta (visiblePart line delta stop)
  := by
  obtain ⟨p, ran, rfl⟩ := tokenize?_eq_some_iff.mp answer
  have step : ∀ p q : Progress, p.rest ≠ [] → Varied p.line.modes → l.Moves resolve delta p q →
      Varied q.line.modes := by
    intro p q _ varied moved
    apply moved.varied varied
  have start : Varied (Progress.ofText (visiblePart line delta stop) s).line.modes :=
    List.isChain_nil
  have varied := (run?_keeps step start ran).1
  have stop_eq : delta + p.position = delta + (visiblePart line delta stop).byteSize := by
    rw [position_of_run? ran]
    apply congrArg (delta + ·) (Nat.zero_add _)
  cases listed : p.line.modes with
  | nil =>
    constructor
    · simp [LineBuilder.finish, listed]
    · simp [LineBuilder.finish, listed, Varied]
    · apply stop_eq
  | cons last earlier =>
    have modes_eq : (p.line.finish delta (p.state.activeLanguage l.language)
        (delta + p.position) p.state).modes = p.line.modes.reverse := by
      simp [LineBuilder.finish, listed]
    constructor
    · simp [modes_eq, listed]
    · rw [modes_eq]
      apply varied.reverse
    · apply stop_eq

/-! ### Handing on a whole line -/

/-- Nowhere in a text, if it is not empty, is a pattern found that leaves the embedded language. -/
def Stays (l : Lexer) (s : LexerState) (text : Text) : Prop :=
  text ≠ [] → ∀ rule ∈ l.rules s.current, ∀ leave, rule.leave = some leave →
    leave.find? text = none

instance (l : Lexer) (s : LexerState) (text : Text) : Decidable (l.Stays s text) :=
  inferInstanceAs (Decidable (text ≠ [] → ∀ rule ∈ l.rules s.current, ∀ leave,
    rule.leave = some leave → leave.find? text = none))

/-- Where no rule ends it, the region is all the text. -/
theorem Stays.region_eq (stays : l.Stays p.state p.rest) :
  l.region p = p.rest
  := by
  by_cases ahead : p.rest = []
  · rw [region, ahead, List.take_nil]
  · have endless : (l.rules p.state.current).filterMap (fun rule =>
        (rule.leave.bind (·.find? p.rest)).map (·.skipped)) = [] := by
      rw [List.filterMap_eq_nil_iff]
      intro rule among
      cases leaves : rule.leave with
      | none => rfl
      | some leave => rw [Option.bind_some, stays ahead rule among leave leaves, Option.map_none]
    rw [region, regionLength, endless]
    apply List.take_length

theorem tokenize?_nil (l : Lexer) (resolve : String → Option Guest) (s : LexerState)
    (delta : Nat) :
  l.tokenize? resolve [] s delta none
    = some ⟨[], [⟨delta, s.activeLanguage l.language⟩], delta, s⟩
  := by
  apply tokenize?_eq_some_iff.mpr
  use .ofText [] s, run?_of_rest_eq_nil rfl
  rfl

/-- A line that is handed on whole has the tokens and the changes of language of the guest. -/
theorem tokenize?_of_stays (stays : l.Stays s text) (ahead : text ≠ []) {language : String}
    {inner : LexerState} (embedded : s.guest? = some (language, inner)) {guest : Guest}
    (found : resolve language = some guest) {r : LineTokens}
    (answer : guest.run text inner delta = some r) (gathered : r.Gathered delta text) :
  l.tokenize? resolve text s delta none
    = some ⟨r.tokens, r.modes, r.stop, s.enter language r.endState⟩
  := by
  have region_eq : l.region (.ofText text s) = text := Stays.region_eq (p := .ofText text s) stays
  have moved : l.Moves resolve delta (.ofText text s)
      (l.afterGuest (.ofText text s) language r) := by
    apply Moves.handOn ⟨embedded, rfl⟩ found
    · rw [region_eq]
      apply ahead
    · rw [region_eq]
      apply answer
  have position_eq : (l.afterGuest (.ofText text s) language r).position = text.byteSize := by
    rw [afterGuest, region_eq]
    apply Nat.zero_add
  have done : (l.afterGuest (.ofText text s) language r).rest = [] := by
    apply List.length_eq_zero_iff.mp
    rw [length_rest_afterGuest, region_eq]
    apply Nat.sub_self
  apply tokenize?_eq_some_iff.mpr
  use l.afterGuest (.ofText text s) language r
  use (run?_of_moves ahead moved).trans (run?_of_rest_eq_nil done)
  rw [position_eq]
  apply (gathered.finish_splice _ _).symm

end Lexer

/-! ### Hosts of hosts -/

namespace LexerState

/-- The state with the one that is so many embedded languages deep replaced. -/
def replaceGuest (s : LexerState) (depth : Nat) (new : LexerState) : LexerState :=
  match depth with
  | 0 => new
  | depth + 1 =>
    match s.guest? with
    | some (language, inner) => s.enter language (inner.replaceGuest depth new)
    | none => s

variable {s inner : LexerState} {language : String}

/-- Entering an embedded language in the state it is in changes nothing. -/
theorem enter_of_guest? (embedded : s.guest? = some (language, inner)) :
  s.enter language inner = s
  := by
  unfold guest? at embedded
  split at embedded
  · cases embedded
  · next listed =>
    obtain ⟨rfl, rfl⟩ := Prod.mk.inj (Option.some.inj embedded)
    rw [enter, ← listed]

theorem activeLanguage_of_guest? (embedded : s.guest? = some (language, inner)) (host : String) :
  s.activeLanguage host = inner.activeLanguage language
  := by
  rw [← enter_of_guest? embedded, activeLanguage, activeLanguage, enter, List.getLast?_cons]
  cases inner.embedded.getLast? <;> rfl

end LexerState

namespace Tokenizer

variable {registry : TokenizerRegistry} {text : Text} {n : Nat} {host guest : Tokenizer}
  {state inner : LexerState}

/--
Hosts of a text, so many of them: each is a lexer in a state that stays in its embedded language
all over the text, and finds for it a lexer of that language, which is the next host or, after the
last one, the guest, in the state that is embedded.
-/
inductive Hosts (registry : TokenizerRegistry) (text : Text) :
    Nat → Tokenizer → LexerState → Tokenizer → LexerState → Prop where
  /-- Without hosts, the guest is the lexer itself. -/
  | guest (m : Lexer) (connected : Bool) (inner : LexerState) :
      Hosts registry text 0 (.lexer m connected) inner (.lexer m connected) inner
  /-- A host of further hosts. -/
  | host {l m : Lexer} {connected : Bool} {state next inner : LexerState} {n : Nat}
      {guest : Tokenizer} (embedded : state.guest? = some (m.language, next))
      (best : registry.best? m.language = some (.lexer m connected))
      (stays : l.Stays state text)
      (others : Hosts registry text n (.lexer m connected) next guest inner) :
      Hosts registry text (n + 1) (.lexer l true) state guest inner

theorem Hosts.followsRules (hosts : Hosts registry text n host state guest inner) :
  host.followsRules
  := by
  cases hosts <;> rfl

theorem Hosts.length_embedded (hosts : Hosts registry text n host state guest inner) :
  state.embedded.length = inner.embedded.length + n
  := by
  induction hosts with
  | guest => rfl
  | host embedded best stays others ih =>
    rw [LexerState.length_embedded_of_guest? embedded, ih, Nat.add_assoc]

/-- A single host answers as the lexer that it hands the text on to. -/
theorem tokenizeWithin_host {l m : Lexer} {connected : Bool} {depth delta : Nat} {r : LineTokens}
    (embedded : state.guest? = some (m.language, inner))
    (best : registry.best? m.language = some (.lexer m connected)) (stays : l.Stays state text)
    (answer : (lexer m connected).tokenizeWithin registry depth text inner delta none = some r) :
  (lexer l true).tokenizeWithin registry (depth + 1) text state delta none
    = some ⟨r.tokens, r.modes, r.stop, state.enter m.language r.endState⟩
  := by
  cases depth with
  | zero => simp [tokenizeWithin] at answer
  | succ depth =>
    have found : registry.guestsWithin (depth + 1) true m.language
        = some ⟨(lexer m connected).initial, fun text state delta =>
          (lexer m connected).tokenizeWithin registry (depth + 1) text state delta none⟩ :=
      TokenizerRegistry.guestsBy_eq_some_iff.mpr ⟨rfl, _, best, rfl⟩
    by_cases empty : text = []
    · obtain rfl := empty
      rw [tokenizeWithin_lexer, Lexer.tokenize?_nil] at answer ⊢
      obtain rfl := Option.some.inj answer
      rw [LexerState.activeLanguage_of_guest? embedded, LexerState.enter_of_guest? embedded]
    · apply Lexer.tokenize?_of_stays stays empty embedded found answer
      apply Lexer.gathered_tokenize? answer

/-- Hosts answer as the guest, each call nested in the one of its host. -/
theorem Hosts.tokenizeWithin (hosts : Hosts registry text n host state guest inner)
    {depth delta : Nat} {r : LineTokens}
    (answer : guest.tokenizeWithin registry depth text inner delta none = some r) :
  host.tokenizeWithin registry (depth + n) text state delta none
    = some ⟨r.tokens, r.modes, r.stop, state.replaceGuest n r.endState⟩
  := by
  induction hosts with
  | guest => apply answer
  | host embedded best stays others ih =>
    rw [LexerState.replaceGuest, embedded]
    apply tokenizeWithin_host embedded best stays (ih answer)

/--
Where no rule of any of its hosts ends an embedded region in the visible part of a line, or this
part is empty, the line has exactly the tokens, the changes of language and the place of stopping
that the guest, the innermost lexer, finds in the visible part from its own state; and it ends in
the state of the outermost host, in which only the state of the guest is replaced by the one that
the guest ends in.  This is so for any number of hosts, and for any depth of calls with which the
guest answers.
-/
theorem tokenize?_hosts {line : Text} {delta : Nat} {stop : Option Nat}
    (hosts : Hosts registry (visiblePart line delta stop) n host state guest inner) :
  (∀ depth r, guest.tokenizeWithin registry depth (visiblePart line delta stop) inner delta none
      = some r →
    host.tokenizeWithin registry (depth + n) line state delta stop
      = some ⟨r.tokens, r.modes, r.stop, state.replaceGuest n r.endState⟩)
    ∧ ∀ r, guest.tokenize? registry (visiblePart line delta stop) inner delta none = some r →
      host.tokenize? registry line state delta stop
        = some ⟨r.tokens, r.modes, r.stop, state.replaceGuest n r.endState⟩
  := by
  have within : ∀ depth r,
      guest.tokenizeWithin registry depth (visiblePart line delta stop) inner delta none = some r →
      host.tokenizeWithin registry (depth + n) line state delta stop
        = some ⟨r.tokens, r.modes, r.stop, state.replaceGuest n r.endState⟩ := by
    intro depth r answer
    rw [tokenizeWithin_visiblePart hosts.followsRules]
    apply hosts.tokenizeWithin answer
  use within
  intro r answer
  apply tokenizeWithin_mono _ (within _ r answer)
  have frames := hosts.length_embedded
  have shorter := (visiblePart_isPrefix line delta stop).length_le
  have square := Nat.mul_self_le_mul_self (Nat.add_le_add_right shorter 1)
  have bound := Nat.mul_le_mul_left (registry.size + 1) square
  rw [depthBound, depthBound, frames]
  omega

/-- The lexer of scripts. -/
def scriptLexer : Lexer :=
  scripts.compile.toOption.get (by decide +kernel)

/-- The lexers of scripts and of styles are found by their languages. -/
theorem styleRegistry_best? :
  styleRegistry.best? scriptLexer.language = some (lexer scriptLexer true)
    ∧ styleRegistry.best? styleLexer.language = some (lexer styleLexer true)
  := by
  have scripts_compiled : scripts.compile.toOption = some scriptLexer := (Option.some_get _).symm
  have styles_compiled : styles.compile.toOption = some styleLexer := (Option.some_get _).symm
  have registered : TokenizerRegistry.ofGrammars? [scripts, styles]
      = some ((TokenizerRegistry.add {} (lexer scriptLexer true)).2.add
        (lexer styleLexer true)).2 := by
    simp [TokenizerRegistry.ofGrammars?, scripts_compiled, styles_compiled]
  have script : scriptLexer.language = "script" := by decide +kernel
  have style : styleLexer.language = "style" := by decide +kernel
  simp [styleRegistry, registered, TokenizerRegistry.add, Registry.register, Registry.best?,
    Registry.ordered, Registry.matchingEntries, Selector.selects, Selector.ofLanguage,
    Tokenizer.language, script, style]

/-- Two styles around a script, on a line without a backtick that is to stop early. -/
theorem tokenize?_hosts_nested :
  Hosts styleRegistry (visiblePart "é a1".toList 7 (some 11)) 2 (lexer styleLexer true)
      nestedStyle (lexer scriptLexer true) (.initial "root")
    ∧ (lexer scriptLexer true).tokenize? styleRegistry "é a".toList (.initial "root") 7 none
      = some ⟨[⟨7, "source"⟩, ⟨10, "identifier"⟩], [⟨7, "script"⟩], 11, .initial "root"⟩
    ∧ (lexer styleLexer true).tokenize? styleRegistry "é a1".toList nestedStyle 7 (some 11)
      = some ⟨[⟨7, "source"⟩, ⟨10, "identifier"⟩], [⟨7, "script"⟩], 11, nestedStyle⟩
  := by
  obtain ⟨script, style⟩ := styleRegistry_best?
  have outer : nestedStyle.guest? = some (styleLexer.language,
      ⟨⟨"script", ["root"], 0⟩, [("script", ⟨"root", [], 0⟩)]⟩) := by
    decide +kernel
  have inner : LexerState.guest? ⟨⟨"script", ["root"], 0⟩, [("script", ⟨"root", [], 0⟩)]⟩
      = some (scriptLexer.language, .initial "root") := by
    decide +kernel
  have hosts : Hosts styleRegistry (visiblePart "é a1".toList 7 (some 11)) 2
      (lexer styleLexer true) nestedStyle (lexer scriptLexer true) (.initial "root") := by
    apply Hosts.host outer style (by decide +kernel)
    apply Hosts.host inner script (by decide +kernel)
    apply Hosts.guest
  have answer : (lexer scriptLexer true).tokenize? styleRegistry "é a".toList (.initial "root") 7
      none
        = some ⟨[⟨7, "source"⟩, ⟨10, "identifier"⟩], [⟨7, "script"⟩], 11, .initial "root"⟩ := by
    decide +kernel
  exact ⟨hosts, answer, (Tokenizer.tokenize?_hosts hosts).2 _ answer⟩

end Tokenizer

end EditorModes
