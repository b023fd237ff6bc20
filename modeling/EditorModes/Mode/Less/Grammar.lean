import EditorModes.Grammar.Compile

/-!
# The grammar of LESS

LESS stylesheets; text between backticks is JavaScript.
-/

namespace EditorModes.Less

/-- The name of the language. -/
def language : String := "less"

/-- The grammar of LESS. -/
def grammar : Grammar where
  name := "less"
  defaultToken := "source"
  tokenPostfix := some ".less"
  lineComment := some "//"
  blockComment := some ("/*", "*/")
  autoClosingPairs := [("\x7b", "\x7d"), ("[", "]"), ("(", ")"), ("\"", "\""), ("'", "'")]
  brackets := [
    ⟨"\x7b", "\x7d", "delimiter.curly"⟩,
    ⟨"[", "]", "delimiter.bracket"⟩,
    ⟨"(", ")", "delimiter.parenthesis"⟩]
  attributes := [
    ("atrules",
      "import|media|charset|font-face|keyframes|supports|page|namespace|plugin|document"),
    ("identifier", "-?-?(?:[a-zA-Z_]|[^\\x00-\\x7F])(?:[\\w-]|[^\\x00-\\x7F])*"),
    ("numbers", "-?(?:\\d+(?:\\.\\d*)?|\\.\\d+)(?:[eE][\\-+]?\\d+)?")]
  states := [
    ("body", [
      .include "@comments",
      .own
        { pattern := "\\\x7d", token := some "delimiter.curly", bracket := some "@close",
          next := some "@pop" },
      .own
        { pattern := "@identifier\\s*:(?:\\s|$)", token := some "attribute.name",
          next := some "@value" },
      .include "@statements"]),
    ("comment", [
      .own { pattern := "\\*/", token := some "comment", next := some "@pop" },
      .ofToken "[^*]+" "comment",
      .ofToken "\\*" "comment"]),
    ("comments", [
      .own { pattern := "/\\*", token := some "comment", next := some "@comment" },
      .ofToken "//.*$" "comment"]),
    ("root", [
      .include "@comments",
      .include "@statements"]),
    ("script", [
      .own
        { pattern := "`", token := some "delimiter.backtick", next := some "@pop",
          nextEmbedded := some "@pop" }]),
    ("statements", [
      .ofToken "\\@(?:@atrules)\\b" "keyword",
      .own { pattern := "\\@@identifier\\s*:", token := some "variable", next := some "@value" },
      .ofToken "\\@@identifier" "variable",
      .include "@strings",
      .own
        { pattern := "`", token := some "delimiter.backtick", next := some "@script",
          nextEmbedded := some "javascript" },
      .own
        { pattern := "\\\x7b", token := some "delimiter.curly", bracket := some "@open",
          next := some "@body" },
      .ofToken "[.#]?@identifier" "tag",
      .ofToken "::?@identifier" "tag",
      .ofToken "@numbers(?:%|[a-zA-Z]+)?" "number",
      .ofToken "[()\\[\\]]" "@brackets",
      .ofToken "[;,>+~*&=]" "delimiter",
      .ofToken "\\s+" ""]),
    ("strings", [
      .ofToken "\"(?:[^\"\\\\]|\\\\.)*\"" "string",
      .ofToken "'(?:[^'\\\\]|\\\\.)*'" "string"]),
    ("value", [
      .include "@comments",
      .include "@strings",
      .own { pattern := ";", token := some "delimiter", next := some "@pop" },
      .own { pattern := "\\\x7d", token := some "@rematch", next := some "@pop" },
      .own
        { pattern := "`", token := some "delimiter.backtick", next := some "@script",
          nextEmbedded := some "javascript" },
      .ofToken "\\@@identifier" "variable",
      .ofToken "!\\s*important" "keyword",
      .ofToken "#[0-9a-fA-F]+" "number.hex",
      .ofToken "@numbers(?:%|[a-zA-Z]+)?" "number",
      .ofToken "@identifier" "attribute.value",
      .ofToken "[()\\[\\]]" "@brackets",
      .ofToken "[,+*/-]" "operator",
      .ofToken "\\s+" ""])]

end EditorModes.Less
