import EditorModes.Proofs.Grammar.Anchoring
import EditorModes.Proofs.Lexer.Fallback
import EditorModes.Proofs.Regex.Anchoring

/-!
# The end of an embedded region

An embedded region ends where a pattern that leaves it is found.  The same pattern, tied to the
start of the text, is then the rule to be applied there, but it sees only the text from there on.
As long as the pattern does not ask for the character before, the two agree and a rule matches at
the end of the region (`Grammar.exists_rule_at_region_end`).
-/

namespace EditorModes

namespace Grammar

variable {g : Grammar} {l : Lexer}

/-- Where a rule would leave the embedded language, it matches, if it need not look back. -/
theorem isSome_find?_of_leave (compiled : g.compile = .ok l) {state : String} {rule : CompiledRule}
    (among : rule ∈ l.rules state) {leave : Regex} (leaves : rule.leave = some leave)
    (asks : leave.program.asksBefore = false) {t : Text} {m : Regex.Match}
    (found : leave.find? t = some m) :
  (rule.regex.find? (t.drop m.skipped)).isSome
  := by
  obtain ⟨_, written, rule_made⟩ := exists_compileRule compiled among
  obtain ⟨expanded, -, regex_made, leave_made⟩ := compileRule_patterns rule_made
  exact Regex.isSome_find?_caret (ofPattern?_of_compilePattern (leave_made leave leaves))
    (ofPattern?_of_compilePattern regex_made) asks found

end Grammar

namespace Lexer

variable {l : Lexer} {s : LexerState} {rest : Text}

/-- Where a region ends before the text does, a rule of the current state leaves it. -/
theorem exists_leave_of_regionLength_lt (ends : l.regionLength s rest < rest.length) :
  ∃ rule ∈ l.rules s.current, ∃ leave m, rule.leave = some leave ∧ leave.find? rest = some m
    ∧ m.skipped = l.regionLength s rest
  := by
  unfold regionLength at ends ⊢
  dsimp only at ends ⊢
  cases first : ((l.rules s.current).filterMap fun rule =>
      (rule.leave.bind (·.find? rest)).map (·.skipped)).min? with
  | none =>
    rw [first] at ends
    exact absurd ends (Nat.lt_irrefl _)
  | some skipped =>
    obtain ⟨rule, among, ends_here⟩ := List.mem_filterMap.mp (List.min?_mem first)
    obtain ⟨m, leave_found, rfl⟩ := Option.map_eq_some_iff.mp ends_here
    obtain ⟨leave, leaves, found⟩ := Option.bind_eq_some_iff.mp leave_found
    exact ⟨rule, among, leave, m, leaves, found, rfl⟩

theorem isSome_findRule? {rule : CompiledRule} (among : rule ∈ l.rules s.current)
    (matched : (rule.regex.find? rest).isSome) :
  (l.findRule? s rest).isSome
  := by
  rw [findRule?, List.findSome?_isSome_iff]
  exact ⟨rule, among, by simpa using matched⟩

/-- Behind the region of an embedded tokenizer the lexer itself goes on in the same state. -/
theorem Moves.behind_region {resolve : String → Option Guest} {delta : Nat} {p q : Progress}
    (moved : l.Moves resolve delta p q) (guests : p.isOwn = false)
    (answers : ∀ language inner, p.state.guest? = some (language, inner) →
      (resolve language).isSome) :
  q.rest = p.rest.drop (l.regionLength p.state p.rest) ∧ q.isOwn ∧ q.stalled = p.stalled
    ∧ l.findRule? q.state = l.findRule? p.state
  := by
  cases moved with
  | leave turn gone =>
    have answered := answers _ _ turn.1
    simp [gone] at answered
  | pass turn found empty =>
    refine ⟨?_, by simp [Progress.isOwn], rfl, rfl⟩
    rcases List.take_eq_nil_iff.mp empty with none_long | no_rest
    · rw [none_long, List.drop_zero]
    · rw [no_rest, List.drop_nil]
  | handOn turn found nonempty answer => exact ⟨rfl, by simp [Progress.isOwn, afterGuest], rfl, rfl⟩
  | apply turn | skip turn =>
    rw [Progress.isOwn_iff.mpr turn] at guests
    cases guests

end Lexer

namespace Grammar

variable {g : Grammar} {l : Lexer}

/--
Where a rule ends an embedded region before the text ends, a rule of the current state matches, as
long as none of the patterns that leave the region asks for the character before.  So behind the
region, however its tokenizer has read it, the lexer applies a rule, unless too many steps
consumed nothing.
-/
theorem exists_rule_at_region_end (compiled : g.compile = .ok l) {s : LexerState} {rest : Text}
    (asks : ∀ rule ∈ l.rules s.current, ∀ leave, rule.leave = some leave →
      leave.program.asksBefore = false)
    (ends : l.regionLength s rest < rest.length) :
  (l.findRule? s (rest.drop (l.regionLength s rest))).isSome
    ∧ ∀ resolve delta (p q r : Lexer.Progress), p.state = s → p.rest = rest →
      p.isOwn = false →
      (∀ language inner, s.guest? = some (language, inner) → (resolve language).isSome) →
      l.Moves resolve delta p q → p.stalled < Lexer.stallLimit → l.Moves resolve delta q r →
      q.rest = rest.drop (l.regionLength s rest)
        ∧ ∃ rule count, l.findRule? q.state q.rest = some (rule, count)
          ∧ r = l.applyRule resolve delta q rule count
  := by
  obtain ⟨rule, among, leave, m, leaves, found, here⟩ := Lexer.exists_leave_of_regionLength_lt ends
  have matched : (l.findRule? s (rest.drop (l.regionLength s rest))).isSome := by
    rw [← here]
    apply Lexer.isSome_findRule? among
    exact isSome_find?_of_leave compiled among leaves (asks rule among leave leaves) found
  refine ⟨matched, ?_⟩
  rintro resolve delta p q r rfl rfl guests answers moved fresh moved_on
  obtain ⟨rest_eq, own, stalled_eq, rules_eq⟩ := moved.behind_region guests answers
  refine ⟨rest_eq, moved_on.exists_rule own fun falls => ?_⟩
  have unmatched := falls.2 (stalled_eq ▸ fresh)
  rw [rules_eq, rest_eq] at unmatched
  rw [unmatched] at matched
  cases matched

end Grammar

/-- A host whose embedded language stands between `<` and what a pattern matches. -/
def fenced (fence : String) : Grammar where
  name := "host"
  defaultToken := "text"
  states :=
    [("inside", [.own {
        pattern := fence, token := "close", next := "@pop", nextEmbedded := "@pop" }]),
      ("root", [.own {
        pattern := "<", token := "open", next := "@inside", nextEmbedded := "guest" }])]

/-- The lexer of a host whose region ends at any `>`. -/
def fencedLexer : Lexer :=
  (fenced ">").compile.toOption.get (by decide +kernel)

/-- The lexer of a host whose region ends at a `>` that stands at a word boundary. -/
def wordFencedLexer : Lexer :=
  (fenced "\\b>").compile.toOption.get (by decide +kernel)

/-- The state of a host whose embedded language is read by a plain tokenizer. -/
def fencedState : LexerState :=
  ⟨⟨"inside", ["root"], 0⟩, [("guest", ⟨"root", [], 0⟩)]⟩

/-- A region that ends at any `>` ends before the one behind a word, where the rule matches. -/
theorem Grammar.exists_rule_at_region_end_fenced :
  (fenced ">").compile = .ok fencedLexer
    ∧ (∀ rule ∈ fencedLexer.rules fencedState.current, ∀ leave, rule.leave = some leave →
      leave.program.asksBefore = false)
    ∧ fencedLexer.regionLength fencedState "a>".toList = 1
    ∧ (fencedLexer.findRule? fencedState ("a>".toList.drop 1)).isSome
  := by
  have compiled : (fenced ">").compile = .ok fencedLexer :=
    toOption_eq_some_iff.mp (Option.some_get _).symm
  have asks : ∀ rule ∈ fencedLexer.rules fencedState.current, ∀ leave, rule.leave = some leave →
      leave.program.asksBefore = false := by
    decide +kernel
  have ends : fencedLexer.regionLength fencedState "a>".toList = 1 := by decide +kernel
  have matched := (exists_rule_at_region_end compiled asks (by rw [ends]; decide)).1
  rw [ends] at matched
  exact ⟨compiled, asks, ends, matched⟩

/--
A region that ends at a `>` behind a word ends where no rule matches: the rule sees the `>` at the
start of its text, so the character is taken by no rule and the guest stays embedded.
-/
theorem Grammar.no_rule_at_region_end :
  (fenced "\\b>").compile = .ok wordFencedLexer
    ∧ wordFencedLexer.regionLength fencedState "a>".toList = 1
    ∧ wordFencedLexer.findRule? fencedState ("a>".toList.drop 1) = none
    ∧ (Tokenizer.lexer wordFencedLexer true).tokenize? plainGuests "<a>".toList
        (.initial "root") 0 none
      = some ⟨[⟨0, "open"⟩, ⟨1, "text"⟩, ⟨2, "text"⟩],
          [⟨0, "host"⟩, ⟨1, "guest"⟩, ⟨2, "host"⟩], 3, fencedState⟩
  := by
  refine ⟨toOption_eq_some_iff.mp (Option.some_get _).symm, ?_, ?_, ?_⟩
  · decide +kernel
  · rw [← Option.isNone_iff_eq_none]
    decide +kernel
  · decide +kernel

end EditorModes
