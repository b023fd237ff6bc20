import EditorModes.Lexer.Tokenizer
import EditorModes.Proofs.Grammar.Compile
import EditorModes.Proofs.Regex.Enclosing
import EditorModes.Proofs.Regex.Threads

/-!
# Rules that match at the start only

The pattern of a rule is compiled as the inside of a group behind a `^`.  The group is one of text,
not of the expression that the pattern denotes, so a closing parenthesis that strays in the pattern
ends the group and with it what the `^` ties to the start.  As long as none strays, a rule compiles
for a pattern only, and matches at the start of the text only
(`Grammar.skipped_eq_zero_of_encloses`).
-/

namespace EditorModes

namespace Grammar

variable {g : Grammar} {l : Lexer}

/-! ### Patterns in their groups -/

/-- A pattern compiles when its text in a group, behind the mark for case, is a pattern. -/
theorem compilePattern_eq {written lead : String} {expanded : Text} :
  g.compilePattern written lead expanded
    = (Regex.ofPattern? (Regex.Reading.caseMark g.ignoreCase
        ++ (lead.toList ++ ("(?:".toList ++ expanded ++ [')'])))).elim
      (.error (.invalidPattern written)) .ok
  := by
  have text_eq : (if g.ignoreCase then "(?i)" else "").toList
      = Regex.Reading.caseMark g.ignoreCase := by
    cases g.ignoreCase <;> rfl
  simp only [compilePattern, text_eq, List.append_assoc]
  split
  · next made => rw [made, Option.elim_some]
  · next made => rw [made, Option.elim_none]

/-- The regular expression of a pattern is that of its text in a group, behind the mark for case. -/
theorem ofPattern?_of_compilePattern {written lead : String} {expanded : Text} {regex : Regex}
    (compiled : g.compilePattern written lead expanded = .ok regex) :
  Regex.ofPattern? (Regex.Reading.caseMark g.ignoreCase
      ++ (lead.toList ++ ("(?:".toList ++ expanded ++ [')'])))
    = some regex
  := by
  rw [compilePattern_eq] at compiled
  generalize Regex.ofPattern? _ = made at compiled ⊢
  cases made with
  | none => cases compiled
  | some _ => exact congrArg some (Except.ok.inj compiled)

/-- No closing parenthesis of the expanded pattern strays, so none ends the group around it. -/
def Encloses (g : Grammar) (pattern : String) : Prop :=
  ∀ expanded, g.expandPattern pattern = .ok expanded →
    ¬ (Regex.Reading.start { ignoreCase := g.ignoreCase }).Strays expanded

instance (g : Grammar) (pattern : String) : Decidable (g.Encloses pattern) :=
  match expands : g.expandPattern pattern with
  | .ok expanded =>
    decidable_of_iff (¬ (Regex.Reading.start { ignoreCase := g.ignoreCase }).Strays expanded)
      ⟨fun kept _ expands' => Except.ok.inj (expands.symm.trans expands') ▸ kept,
        fun kept => kept expanded expands⟩
  | .error _ => isTrue fun _ expands' => nomatch expands.symm.trans expands'

theorem isPattern_of_compilePattern {written : String} {expanded : Text} {regex : Regex}
    (enclosed : g.Encloses written) (expands : g.expandPattern written = .ok expanded)
    (compiled : g.compilePattern written "^" expanded = .ok regex) :
  Regex.isPattern { ignoreCase := g.ignoreCase } expanded = true ∧ regex.program.anchored = true
  := by
  obtain ⟨e, parsed, rfl⟩ := Option.map_eq_some_iff.mp (ofPattern?_of_compilePattern compiled)
  exact Regex.isPattern_of_parse? parsed (enclosed expanded expands)

/-- What is no pattern by itself does not compile in a group that encloses it. -/
theorem compilePattern_eq_error {written : String} {expanded : Text}
    (enclosed : g.Encloses written) (expands : g.expandPattern written = .ok expanded)
    (malformed : Regex.isPattern { ignoreCase := g.ignoreCase } expanded = false) :
  g.compilePattern written "^" expanded = .error (.invalidPattern written)
  := by
  cases compiled : g.compilePattern written "^" expanded with
  | ok regex =>
    have wellFormed := (isPattern_of_compilePattern enclosed expands compiled).1
    rw [malformed] at wellFormed
    cases wellFormed
  | error cause =>
    rw [compilePattern_eq] at compiled
    generalize Regex.ofPattern? _ = made at compiled
    cases made with
    | none => exact congrArg Except.error (Except.error.inj compiled).symm
    | some _ => cases compiled

/-! ### Grammars -/

/--
As long as no closing parenthesis strays in a pattern of a grammar, a rule is refused for a pattern
that is none by itself, so that a grammar that compiles has patterns only, and its rules
match at the start of the text only.
-/
theorem skipped_eq_zero_of_encloses
    (enclosed : ∀ written ∈ g.ownRules, g.Encloses written.pattern) :
  (∀ written ∈ g.ownRules, ∀ expanded, g.expandPattern written.pattern = .ok expanded →
      Regex.isPattern { ignoreCase := g.ignoreCase } expanded = false →
      ∀ state, g.compileRule state written = .error (.invalidPattern written.pattern))
    ∧ ∀ l, g.compile = .ok l →
      (∀ written ∈ g.ownRules, ∃ expanded, g.expandPattern written.pattern = .ok expanded
        ∧ Regex.isPattern { ignoreCase := g.ignoreCase } expanded = true)
      ∧ ∀ state, ∀ rule ∈ l.rules state, ∀ t m, rule.regex.find? t = some m → m.skipped = 0
  := by
  refine ⟨fun written among expanded expands malformed state => ?_, fun l compiled => ⟨?_, ?_⟩⟩
  · have refused := compilePattern_eq_error (enclosed written among) expands malformed
    rw [compileRule, expands]
    change (g.compilePattern written.pattern "^" expanded).bind _ = _
    rw [refused]
    rfl
  · intro written among
    obtain ⟨state, rule, made⟩ := compileRule_of_compile compiled among
    obtain ⟨expanded, expands, regex_made, -⟩ := compileRule_patterns made
    exact ⟨expanded, expands,
      (isPattern_of_compilePattern (enclosed written among) expands regex_made).1⟩
  · intro state rule among t m found
    obtain ⟨_, written, listed, made⟩ := exists_ownRule compiled among
    obtain ⟨expanded, expands, regex_made, -⟩ := compileRule_patterns made
    have tied := (isPattern_of_compilePattern (enclosed written listed) expands regex_made).2
    exact Regex.Program.skipped_eq_zero_of_anchored tied found

end Grammar

/-- A grammar with one rule, whose pattern may refer to a letter. -/
def lettered (pattern : String) : Grammar where
  name := "letters"
  defaultToken := "text"
  attributes := [("letter", "ab?")]
  states := [("root", [.own { pattern, token := "letter" }])]

/-- The lexer of letters in a row. -/
def letteredLexer : Lexer :=
  (lettered "@letter+").compile.toOption.get (by decide +kernel)

/-- The lexer of a letter whose pattern ends the group around it. -/
def strayLexer : Lexer :=
  (lettered "a)|(?:b").compile.toOption.get (by decide +kernel)

/--
Letters in a row match at the start of a text only, and a group that is not closed is refused.
-/
theorem Grammar.skipped_eq_zero_of_encloses_lettered :
  (lettered "@letter+").compile = .ok letteredLexer
    ∧ (lettered "@letter+").Encloses "@letter+" ∧ (lettered "(@letter").Encloses "(@letter"
    ∧ (∀ rule ∈ letteredLexer.rules "root", ∀ t m, rule.regex.find? t = some m → m.skipped = 0)
    ∧ (letteredLexer.rules "root").map (·.regex.find? "abax".toList) = [some ⟨0, 3⟩]
    ∧ (lettered "(@letter").compileRule "root" { pattern := "(@letter", token := "letter" }
      = .error (.invalidPattern "(@letter")
  := by
  have compiled : (lettered "@letter+").compile = .ok letteredLexer :=
    toOption_eq_some_iff.mp (Option.some_get _).symm
  have enclosed : ∀ written ∈ (lettered "@letter+").ownRules,
      (lettered "@letter+").Encloses written.pattern := by
    decide +kernel
  have enclosed_open : ∀ written ∈ (lettered "(@letter").ownRules,
      (lettered "(@letter").Encloses written.pattern := by
    decide +kernel
  have expands : (lettered "(@letter").expandPattern "(@letter" = .ok "((?:ab?)".toList :=
    toOption_eq_some_iff.mp (by decide +kernel)
  let closed : MatchRule := { pattern := "@letter+", token := "letter" }
  let unclosed : MatchRule := { pattern := "(@letter", token := "letter" }
  have written : unclosed ∈ (lettered "(@letter").ownRules := List.mem_singleton.mpr rfl
  refine ⟨compiled, enclosed closed (List.mem_singleton.mpr rfl), enclosed_open unclosed written,
    ?_, by decide +kernel, ?_⟩
  · exact ((skipped_eq_zero_of_encloses enclosed).2 letteredLexer compiled).2 "root"
  · exact (skipped_eq_zero_of_encloses enclosed_open).1 unclosed written _ expands
      (by decide +kernel) "root"

/--
A pattern that ends the group around it and opens another is accepted, though it is no pattern, and
its second branch matches behind the start: the token takes up what is before the match as well.
-/
theorem Grammar.skips_behind_stray_parenthesis :
  (lettered "a)|(?:b").compile = .ok strayLexer
    ∧ Regex.isPattern {} "a)|(?:b".toList = false
    ∧ (strayLexer.rules "root").map (·.regex.find? "xb".toList) = [some ⟨1, 1⟩]
    ∧ (Tokenizer.lexer strayLexer true).tokenize? {} "xb".toList
        (.initial "root") 0 none
      = some ⟨[⟨0, "letter"⟩], [⟨0, "letters"⟩], 2, .initial "root"⟩
  := by
  refine ⟨toOption_eq_some_iff.mp (Option.some_get _).symm, ?_, ?_, ?_⟩
  · decide +kernel
  · decide +kernel
  · decide +kernel

end EditorModes
