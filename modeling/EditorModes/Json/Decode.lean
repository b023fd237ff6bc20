import EditorModes.Json.Basic

/-!
# Reading records

Settings, grammars and options are records with fixed fields.  A record is written as an object,
whose other fields are ignored, or as the list of its fields in order.  One of several names is
written as a string, or as an object whose only field has the name and no content.  Whether a list
may go on after the last field, and what counts as no content, depends on the format.
-/

namespace EditorModes.Json

/-- What a format lets pass. -/
structure Format where
  /-- Whether a list may hold more items than the record or pair it stands for has fields. -/
  surplusItems : Bool
  /-- Whether a value stands for no content. -/
  isContentless : Json → Bool

/-- The format of messages. -/
def Format.json : Format where
  surplusItems := false
  isContentless
    | null => true
    | _ => false

/-- The format of settings files. -/
def Format.toml : Format where
  surplusItems := true
  isContentless
    | list [] => true
    | object [] => true
    | _ => false

/-- The list read item by item. -/
def listOf? (read : Json → Option α) (j : Json) : Option (List α) := do
  (← j.list?).mapM read

/-- A pair, written as a list. -/
def pairOf? (format : Format) (read : Json → Option α) : Json → Option (α × α)
  | list (a :: b :: rest) => do
    let a ← read a
    let b ← read b
    if rest.isEmpty || format.surplusItems then some (a, b) else none
  | _ => none

/-- The fields of the object read one by one, by increasing name. -/
def mapOf? (read : Json → Option α) (j : Json) : Option (List (String × α)) := do
  let fields ← (← j.object?).mapM fun (key, value) => do return (key, ← read value)
  return fields.mergeSort fun a b => !(b.1 < a.1)

/-- The name that a value gives. -/
def nameOf? (format : Format) : Json → Option String
  | text name => some name
  | object [(name, content)] => if format.isContentless content then some name else none
  | _ => none

/-- The values that a record gives to the named fields. -/
def recordOf? (format : Format) (names : List String) : Json → Option (String → Option Json)
  | object fields => some fun name => fields.lookup name
  | list items =>
    if items.length ≤ names.length || format.surplusItems then
      some fun name => (names.zip items).lookup name
    else
      none
  | _ => none

/-- The value of a field that must be there. -/
def required? (read : Json → Option α) (value : Option Json) : Option α := do
  read (← value)

/-- The value of a field that has a default. -/
def defaulting? (read : Json → Option α) (default : α) : Option Json → Option α
  | none => some default
  | some j => read j

/-- The value of a field that may be missing or `null`. -/
def optional? (read : Json → Option α) : Option Json → Option (Option α)
  | none => some none
  | some null => some none
  | some j => (read j).map some

end EditorModes.Json
