import EditorModes.Mode.Less.Stylesheet

/-!
# Completions

What may stand at a place of a stylesheet: behind an `@` the declared variables and the at-rules,
and inside a block a property, or a value once the statement has a colon.  Only what starts with
what was typed so far is suggested.
-/

namespace EditorModes.Less

/-- The properties that are suggested. -/
def properties : List String :=
  ["background", "background-color", "border", "border-radius", "bottom", "color", "cursor",
    "display", "flex", "float", "font", "font-family", "font-size", "font-weight", "height",
    "left", "line-height", "margin", "opacity", "overflow", "padding", "position", "right",
    "text-align", "top", "transition", "width", "z-index"]

/-- The values that are suggested. -/
def values : List String :=
  ["absolute", "auto", "block", "bold", "center", "fixed", "flex", "grid", "hidden", "inherit",
    "initial", "inline", "inline-block", "left", "none", "normal", "relative", "right", "solid",
    "static", "transparent"]

/-- What a suggestion is. -/
inductive SuggestionKind where
  | variable
  | keyword
  | property
  | value
  deriving DecidableEq, Repr

/-- Something that may be typed, and for a variable its value. -/
structure Suggestion where
  label : Text
  kind : SuggestionKind
  detail : Option Text
  deriving DecidableEq, Repr

/-- Whether a character belongs to what is being typed. -/
def isTyped (c : Char) : Bool :=
  Property.isAlphanumeric c || c = '-' || c = '_' || c = '@'

/-- The suggestions of one kind for words that start with a prefix. -/
def suggestWords (typed : Text) (kind : SuggestionKind) (words : List String) : List Suggestion :=
  (words.filter fun word => Text.startsWith word.toList typed).map (⟨·.toList, kind, none⟩)

/--
The variables among some occurrences that are declared elsewhere than at a byte offset, each at
its first such declaration; `seen` holds those listed before.
-/
def Stylesheet.suggestVariables (s : Stylesheet) (start : Nat) (seen : List Text) :
    List Occurrence → List Suggestion
  | [] => []
  | o :: rest =>
    if !o.isDeclaration || seen.contains o.name || o.span.start = start then
      s.suggestVariables start seen rest
    else
      ⟨o.name, .variable, s.valueOf? o.name⟩ :: s.suggestVariables start (o.name :: seen) rest

/-- The number of blocks that a masked text opens less the number of those that it closes. -/
def braceBalance (masked : Text) : Int :=
  masked.count '\x7b' - masked.count '\x7d'

/--
What may be typed at a byte offset, an offset inside a character standing for its start; `none`
when the masked stylesheet has no cut where the typed word starts.
-/
def suggestionsAt? (text : Text) (offset : Nat) : Option (List Suggestion) := do
  let (before, _) := text.splitFloor offset
  let typed := Text.suffixWhile isTyped before
  let start := before.byteSize - typed.byteSize
  match typed with
  | '@' :: name =>
    let sheet ← Stylesheet.ofText? text
    let declared := sheet.suggestVariables start [] sheet.occurrences
    let rules := atRules.map fun rule => (⟨'@' :: rule.toList, .keyword, none⟩ : Suggestion)
    return (declared ++ rules).filter fun s => Text.startsWith (s.label.drop 1) name
  | typed =>
    let (masked, _) ← (mask text).splitAt? start
    if braceBalance masked ≤ 0 then return []
    if (openStatement masked).contains ':' then return suggestWords typed .value values
    return suggestWords typed .property properties

end EditorModes.Less
