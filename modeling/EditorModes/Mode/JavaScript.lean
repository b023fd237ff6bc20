import EditorModes.Grammar.Compile

/-!
# JavaScript

The grammar of JavaScript, tokenized well enough to color embedded snippets.
-/

namespace EditorModes.JavaScript

/-- The name of the language. -/
def language : String := "javascript"

/-- The grammar of JavaScript. -/
def grammar : Grammar where
  name := "javascript"
  defaultToken := "source"
  tokenPostfix := some ".js"
  lineComment := some "//"
  blockComment := some ("/*", "*/")
  brackets := [
    ⟨"\x7b", "\x7d", "delimiter.bracket"⟩,
    ⟨"[", "]", "delimiter.array"⟩,
    ⟨"(", ")", "delimiter.parenthesis"⟩]
  attributes := [
    ("identifier", "[a-zA-Z_$][\\w$]*"),
    ("keywords",
      "break|case|catch|class|const|continue|debugger|default|delete|do|else|export|"
        ++ "extends|false|finally|for|function|if|import|in|instanceof|let|new|null|return|"
        ++ "super|switch|this|throw|true|try|typeof|undefined|var|void|while|with|yield|"
        ++ "async|await|of")]
  states := [
    ("comment", [
      .own { pattern := "\\*/", token := some "comment", next := some "@pop" },
      .ofToken "[^*]+" "comment",
      .ofToken "\\*" "comment"]),
    ("root", [
      .ofToken "(?:@keywords)\\b" "keyword",
      .ofToken "@identifier" "identifier",
      .ofToken "0[xX][0-9a-fA-F]+" "number.hex",
      .ofToken "\\d+(?:\\.\\d+)?(?:[eE][\\-+]?\\d+)?" "number",
      .ofToken "\"(?:[^\"\\\\]|\\\\.)*\"" "string",
      .ofToken "'(?:[^'\\\\]|\\\\.)*'" "string",
      .own { pattern := "/\\*", token := some "comment", next := some "@comment" },
      .ofToken "//.*$" "comment",
      .ofToken "[\x7b\x7d()\\[\\]]" "@brackets",
      .ofToken "[=><!~?:&|+\\-*/^%.,;]+" "delimiter",
      .ofToken "\\s+" ""])]

end EditorModes.JavaScript
