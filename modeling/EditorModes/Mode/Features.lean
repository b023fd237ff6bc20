import EditorModes.Grammar.RichEdit
import EditorModes.Lexer.Tokenizer
import EditorModes.Mode.Service

/-!
# Features

The registries of all that modes provide: tokenizers, support for editing, and services by the
kind of request.  What a mode registers in them is taken back through the registration it got.
-/

namespace EditorModes

/-- Something that a mode provides. -/
inductive Provision where
  | tokenizer (tokenizer : Tokenizer)
  | richEdit (support : RichEdit)
  | service (kind : ServiceKind) (service : Service)

/-- The registries of what modes provide. -/
structure Features where
  tokenizers : TokenizerRegistry := {}
  richEdit : Registry RichEdit := {}
  services : ServiceKind → Registry Service := fun _ => {}

/-- One of the registries. -/
inductive Shelf where
  | tokenizers
  | richEdit
  | services (kind : ServiceKind)
  deriving DecidableEq, Repr

/-- What takes a provision back: the registry it is in and the handle in that registry. -/
structure Registration where
  shelf : Shelf
  handle : Handle
  deriving DecidableEq, Repr

namespace Features

/-- The features with another registry of one kind of services. -/
def setServices (f : Features) (kind : ServiceKind) (r : Registry Service) : Features :=
  { f with services := fun k => if k = kind then r else f.services k }

/-- One more provision for a language. -/
def register (f : Features) (language : String) (p : Provision) : Registration × Features :=
  match p with
  | .tokenizer tokenizer =>
    let (handle, r) := f.tokenizers.add tokenizer
    (⟨.tokenizers, handle⟩, { f with tokenizers := r })
  | .richEdit support =>
    let (handle, r) := f.richEdit.register (.ofLanguage language) 0 support
    (⟨.richEdit, handle⟩, { f with richEdit := r })
  | .service kind service =>
    let (handle, r) := (f.services kind).register (.ofLanguage language) 0 service
    (⟨.services kind, handle⟩, f.setServices kind r)

/-- More provisions for a language, one after another. -/
def registerAll (f : Features) (language : String) :
    List Provision → List Registration × Features
  | [] => ([], f)
  | p :: provisions =>
    let (registration, f) := f.register language p
    let (registrations, f) := f.registerAll language provisions
    (registration :: registrations, f)

/-- The features without what a registration stands for. -/
def dispose (f : Features) (r : Registration) : Features :=
  match r.shelf with
  | .tokenizers => { f with tokenizers := (f.tokenizers.dispose r.handle).2 }
  | .richEdit => { f with richEdit := (f.richEdit.dispose r.handle).2 }
  | .services kind => f.setServices kind ((f.services kind).dispose r.handle).2

/-- The number of provisions in all registries. -/
def size (f : Features) : Nat :=
  f.tokenizers.size + f.richEdit.size
    + (ServiceKind.all.map fun k => (f.services k).size).foldl (· + ·) 0

end Features

end EditorModes
