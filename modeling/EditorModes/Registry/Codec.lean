import EditorModes.Json.Basic
import EditorModes.Registry.Basic

/-!
# Selectors as JSON

A selector is written as the name of a language, or as an object with a language and a scheme,
either of which may be missing.
-/

namespace EditorModes

/-- The selector of a JSON form. -/
def Selector.ofJson : Json → Selector
  | .text language => .ofLanguage language
  | j =>
    let ofLanguage := (j.field? "language").bind Json.text? |>.map Selector.ofLanguage
    { ofLanguage.getD {} with scheme := (j.field? "scheme").bind Json.text? }

end EditorModes
