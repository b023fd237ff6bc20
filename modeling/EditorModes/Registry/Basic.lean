/-!
# Registries

A registry holds the providers of one capability, each with a selector that says to which
documents it applies and a score.  The providers that apply are asked by descending score, and
among equal scores in the order of their registration.  Registering gives a handle, which removes
exactly its own entry, once.
-/

namespace EditorModes

/-- Which documents a provider applies to; a missing language or scheme admits any. -/
structure Selector where
  language : Option String := none
  scheme : Option String := none
  deriving DecidableEq, Repr

namespace Selector

/-- The selector of the documents in a language, where `*` stands for any language. -/
def ofLanguage (language : String) : Selector where
  language := if language = "*" then none else some language

/-- Whether a document with a language and a scheme is selected; an unknown scheme is no scheme. -/
def selects (s : Selector) (language : String) (scheme : Option String) : Bool :=
  s.language.all (· = language) && s.scheme.all fun wanted => scheme = some wanted

end Selector

/-- A provider that was registered, with the number of its registration. -/
structure Registered (P : Type u) where
  number : Nat
  selector : Selector
  score : Int
  provider : P

/-- Whether an entry does not come after another, by descending score and then by number. -/
def Registered.isNoLater (a b : Registered P) : Bool :=
  b.score < a.score || a.score = b.score && a.number ≤ b.number

/-- The registered providers. -/
structure Registry (P : Type u) where
  /-- The entries as they are listed; their order does not matter. -/
  entries : List (Registered P) := []
  /-- The number of registrations so far. -/
  registrations : Nat := 0
  /-- The number of registrations and removals so far. -/
  changes : Nat := 0

/-- What removes an entry; once disposed, a handle does nothing. -/
structure Handle where
  number : Nat
  disposed : Bool := false
  deriving DecidableEq, Repr

namespace Registry

/-- One more provider. -/
def register (r : Registry P) (selector : Selector) (score : Int) (provider : P) :
    Handle × Registry P :=
  (⟨r.registrations, false⟩,
    { entries := r.entries ++ [⟨r.registrations, selector, score, provider⟩]
      registrations := r.registrations + 1
      changes := r.changes + 1 })

/-- The registry without the entry of a number; nothing changes when there is none. -/
def remove (r : Registry P) (number : Nat) : Registry P :=
  if r.entries.any (·.number = number) then
    { r with entries := r.entries.filter (·.number ≠ number), changes := r.changes + 1 }
  else
    r

/-- The registry after a handle is disposed, and the handle. -/
def dispose (r : Registry P) (h : Handle) : Handle × Registry P :=
  if h.disposed then (h, r) else ({ h with disposed := true }, r.remove h.number)

/-- The registry, if it is still there, after a handle is disposed, and the handle. -/
def disposeIn : Option (Registry P) → Handle → Handle × Option (Registry P)
  | some r, h =>
    let (h, r) := r.dispose h
    (h, some r)
  | none, h => ({ h with disposed := true }, none)

/-- The entries that apply to a language and a scheme, best first. -/
def matchingEntries (r : Registry P) (language : String) (scheme : Option String) :
    List (Registered P) :=
  (r.entries.filter (·.selector.selects language scheme)).mergeSort Registered.isNoLater

/-- The providers that apply to a language and a scheme, best first. -/
def ordered (r : Registry P) (language : String) (scheme : Option String) : List P :=
  (r.matchingEntries language scheme).map (·.provider)

/-- Whether any provider applies to a language and a scheme. -/
def has (r : Registry P) (language : String) (scheme : Option String) : Bool :=
  r.entries.any (·.selector.selects language scheme)

/-- The best provider for a language, whatever the scheme. -/
def best? (r : Registry P) (language : String) : Option P :=
  (r.ordered language none).head?

/-- The number of entries. -/
def size (r : Registry P) : Nat :=
  r.entries.length

/-- The registry as text. -/
def describe (r : Registry P) : String :=
  "LanguageFeatureRegistry \x7b len: " ++ toString r.size ++ " \x7d"

end Registry

end EditorModes
