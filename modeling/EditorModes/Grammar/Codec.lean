import EditorModes.Grammar.RichEdit
import EditorModes.Json.Basic

/-!
# Grammars as JSON

The JSON form of grammars and of what they say about editing, with `null` for what is absent.
-/

namespace EditorModes

/-- The JSON form of a string that may be absent. -/
def Json.ofText? : Option String → Json :=
  .ofOption .text

/-- The JSON form of a pair of strings. -/
def Json.ofPair (p : String × String) : Json :=
  .list [.text p.1, .text p.2]

/-- The JSON form. -/
def RichEdit.toJson (e : RichEdit) : Json :=
  .object
    [("brackets", .ofList .ofPair e.brackets),
      ("line_comment", .ofText? e.lineComment),
      ("block_comment", .ofOption .ofPair e.blockComment),
      ("auto_closing_pairs", .ofList .ofPair e.autoClosingPairs),
      ("surrounding_pairs", .ofList .ofPair e.surroundingPairs),
      ("electric", .ofList (fun c => .text (String.ofList [c])) e.electricCharacters)]

/-- The JSON form. -/
def Rule.toJson : Rule → Json
  | .include state => .object [("include", .text state)]
  | .own r =>
    .object
      [("regex", .text r.pattern), ("token", .ofText? r.token), ("next", .ofText? r.next),
        ("switch_to", .ofText? r.switchTo), ("bracket", .ofText? r.bracket),
        ("next_embedded", .ofText? r.nextEmbedded)]

/-- The JSON form. -/
def Grammar.toJson (g : Grammar) : Json :=
  .object
    [("name", .text g.name),
      ("default_token", .text g.defaultToken),
      ("token_postfix", .ofText? g.tokenPostfix),
      ("ignore_case", .bool g.ignoreCase),
      ("start", .ofText? g.start),
      ("attributes", .object (g.attributes.map fun (name, pattern) => (name, .text pattern))),
      ("brackets",
        .ofList (fun b => .list [.text b.opening, .text b.closing, .text b.token]) g.brackets),
      ("line_comment", .ofText? g.lineComment),
      ("block_comment", .ofOption .ofPair g.blockComment),
      ("auto_closing_pairs", .ofList .ofPair g.autoClosingPairs),
      ("tokenizer", .object (g.states.map fun (name, rules) => (name, .ofList Rule.toJson rules)))]

end EditorModes
