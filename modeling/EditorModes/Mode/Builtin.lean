import EditorModes.Mode.JavaScript
import EditorModes.Mode.Set

/-!
# The modes

The modes that are always there, and the modes that further grammars make.  A grammar that does
not compile makes no mode.
-/

namespace EditorModes

/-- The grammars that come with the server. -/
structure Bundle where
  javaScript : Grammar := JavaScript.grammar
  less : Grammar := Less.grammar

/-- A lexer as a tokenizer that embeds the languages of the other modes. -/
def Provision.ofLexer (l : Lexer) : Provision :=
  .tokenizer (.lexer l true)

namespace Mode

/-- The mode of plain text. -/
def plainText : Mode where
  id := PlainText.language
  provisions := [
    .tokenizer (.plain (.ofLanguage PlainText.language)),
    .service .suggest .words]

/-- The mode of JavaScript, unless its grammar does not compile. -/
def javaScript? (g : Grammar) : Option Mode :=
  g.compile.toOption.map fun l =>
    { id := JavaScript.language
      provisions := [.ofLexer l, .richEdit l.richEdit] }

/-- The kinds of requests about stylesheets, in the order in which they are registered. -/
def stylesheetServices : List ServiceKind :=
  [.hover, .references, .declaration, .occurrences, .outline, .suggest, .valueSet, .formatting,
    .colorDeclarations, .validation, .configuration]

/-- The mode of LESS, unless its grammar does not compile. -/
def less? (g : Grammar) : Option Mode :=
  g.compile.toOption.map fun l =>
    { id := Less.language
      dependencies := [JavaScript.language]
      provisions :=
        [.ofLexer l, .richEdit l.richEdit] ++ stylesheetServices.map (.service · .stylesheets)
      electsValidator := true }

/-- The mode that a grammar makes. -/
def ofGrammar? (g : Grammar) : Option Mode :=
  g.compile.toOption.map fun l =>
    { id := l.language
      provisions := [.richEdit l.richEdit, .ofLexer l] }

/-- The modes that are always there, followed by those of some grammars. -/
def builtin (bundle : Bundle) (grammars : List Grammar) : List Mode :=
  [plainText] ++ (javaScript? bundle.javaScript).toList ++ (less? bundle.less).toList
    ++ grammars.filterMap ofGrammar?

end Mode

end EditorModes
