import EditorModes.Grammar.Basic
import EditorModes.Json.Decode

/-!
# Reading grammars

A grammar is a record.  An entry of a state that has a string `include` takes in another state;
any other entry is a rule and needs a string `regex`, which comes first where the rule is written
as the list of its fields.
-/

namespace EditorModes

open Json (Format listOf? pairOf? mapOf? recordOf? required? defaulting? optional?)

/-- The pair of brackets that a record describes. -/
def Bracket.ofJson? (format : Format) (j : Json) : Option Bracket := do
  let field ← recordOf? format ["open", "close", "token"] j
  return {
    opening := ← required? Json.text? (field "open")
    closing := ← required? Json.text? (field "close")
    token := ← required? Json.text? (field "token") }

/-- The rule that a record describes. -/
def MatchRule.ofJson? (j : Json) : Option MatchRule := do
  let names := ["regex", "token", "next", "switch_to", "bracket", "next_embedded"]
  let field ← recordOf? .json names j
  return {
    pattern := ← required? Json.text? (field "regex")
    token := ← optional? Json.text? (field "token")
    next := ← optional? Json.text? (field "next")
    switchTo := ← optional? Json.text? (field "switch_to")
    bracket := ← optional? Json.text? (field "bracket")
    nextEmbedded := ← optional? Json.text? (field "next_embedded") }

/-- The entry of a state that a record describes; only an object takes in another state. -/
def Rule.ofJson? (j : Json) : Option Rule :=
  match (j.field? "include").bind Json.text? with
  | some state => some (.include state)
  | none => (MatchRule.ofJson? j).map .own

/-- The grammar that a record describes. -/
def Grammar.ofJson? (format : Format) (j : Json) : Option Grammar := do
  let names := ["name", "default_token", "token_postfix", "ignore_case", "start", "attributes",
    "brackets", "line_comment", "block_comment", "auto_closing_pairs", "tokenizer"]
  let field ← recordOf? format names j
  return {
    name := ← required? Json.text? (field "name")
    defaultToken := ← defaulting? Json.text? "" (field "default_token")
    tokenPostfix := ← optional? Json.text? (field "token_postfix")
    ignoreCase := ← defaulting? Json.bool? false (field "ignore_case")
    start := ← optional? Json.text? (field "start")
    attributes := ← defaulting? (mapOf? Json.text?) [] (field "attributes")
    brackets := ← defaulting? (listOf? (Bracket.ofJson? format)) [] (field "brackets")
    lineComment := ← optional? Json.text? (field "line_comment")
    blockComment := ← optional? (pairOf? format Json.text?) (field "block_comment")
    autoClosingPairs :=
      ← defaulting? (listOf? (pairOf? format Json.text?)) [] (field "auto_closing_pairs")
    states := ← defaulting? (mapOf? (listOf? Rule.ofJson?)) [] (field "tokenizer") }

end EditorModes
