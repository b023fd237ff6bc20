import EditorModes.Json.Decode

/-!
# Shapes of values

What the values of a message have to look like, whether or not anything is read from them.  A shape
is a condition on values; a record is written as an object, whose other fields are ignored, or as
the list of its fields in order.
-/

namespace EditorModes.Json

/-- A condition on values. -/
abbrev Shape := Json → Bool

/-- Whether the value of a field may be left out. -/
inductive Presence where
  | required
  /-- An object may leave out the field; a list has to hold `null` for it. -/
  | optional
  /-- An object may leave out the field, and so may a list that ends before it. -/
  | defaulted
  deriving DecidableEq, Repr

/-- A field of a record. -/
structure Field where
  name : String
  presence : Presence
  shape : Shape

namespace Field

/-- Whether an object with some fields has a value for the field. -/
def isIn (f : Field) (values : List (String × Json)) : Bool :=
  match values.lookup f.name with
  | some value => f.shape value
  | none => f.presence ≠ .required

/-- Whether the items of a list are values for fields in their order. -/
def areItems : List Field → List Json → Bool
  | fields, [] => fields.all (·.presence = .defaulted)
  | [], _ :: _ => false
  | f :: fields, item :: items => f.shape item && areItems fields items

end Field

namespace Shape

/-- All values. -/
def any : Shape := fun _ => true

/-- The strings. -/
def text : Shape := fun j => j.text?.isSome

/-- The truth values. -/
def bool : Shape := fun j => j.bool?.isSome

/-- The integers of 32 bits. -/
def int32 : Shape := fun j => j.int32?.isSome

/-- The whole numbers of 32 bits. -/
def nat32 : Shape := fun j => j.nat32?.isSome

/-- The numbers. -/
def number : Shape
  | .number .. => true
  | _ => false

/-- One of some names. -/
def name (names : List String) : Shape := fun j =>
  (nameOf? .json j).any names.contains

/-- The value `null`, and the values of a shape. -/
def orNull (shape : Shape) : Shape
  | .null => true
  | j => shape j

/-- The values of one of two shapes. -/
def or (first second : Shape) : Shape := fun j =>
  first j || second j

/-- The lists of values of a shape. -/
def list (item : Shape) : Shape
  | .list items => items.all item
  | _ => false

/-- The objects whose fields have keys of one shape and values of another. -/
def map (key value : Shape) : Shape
  | .object fields => fields.all fun (k, v) => key (.text k) && value v
  | _ => false

/-- The objects with some fields. -/
def object (fields : List Field) : Shape
  | .object values => fields.all (·.isIn values)
  | _ => false

/-- The records with some fields. -/
def record (fields : List Field) : Shape
  | .list items => Field.areItems fields items
  | j => object fields j

end Shape

namespace Field

/-- A field that has to be there. -/
def required (name : String) (shape : Shape) : Field :=
  ⟨name, .required, shape⟩

/-- A field that may be left out or `null`. -/
def optional (name : String) (shape : Shape) : Field :=
  ⟨name, .optional, shape.orNull⟩

/-- A field that has a default. -/
def defaulted (name : String) (shape : Shape) : Field :=
  ⟨name, .defaulted, shape⟩

/-- Fields with values of one shape that may be left out or `null`. -/
def optionals (names : List String) (shape : Shape) : List Field :=
  names.map (optional · shape)

end Field

end EditorModes.Json
