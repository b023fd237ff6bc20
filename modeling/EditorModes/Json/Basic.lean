/-!
# JSON values

The values that settings, options and messages are made of.  A number is an integer divided by a
power of ten; an object lists its fields in order.
-/

namespace EditorModes

/-- A JSON value. -/
inductive Json where
  | null
  | bool (b : Bool)
  | number (mantissa : Int) (exponent : Nat)
  | text (s : String)
  | list (items : List Json)
  | object (fields : List (String × Json))
  deriving Repr, Inhabited, BEq

namespace Json

/-- The value of a whole number. -/
def ofNat (n : Nat) : Json :=
  .number n 0

/-- The value of an integer. -/
def ofInt (n : Int) : Json :=
  .number n 0

/-- A value, or `null` for none. -/
def ofOption (f : α → Json) : Option α → Json
  | none => .null
  | some a => f a

/-- The list of the values of the members. -/
def ofList (f : α → Json) (members : List α) : Json :=
  .list (members.map f)

/-- The object of some fields and of those further fields that are present. -/
def record (fields : List (String × Json)) (further : List (String × Option Json)) : Json :=
  .object (fields ++ further.filterMap fun (key, value) => value.map fun v => (key, v))

/-- The field of an object. -/
def field? (j : Json) (key : String) : Option Json :=
  match j with
  | object fields => fields.lookup key
  | _ => none

/-- The field of an object, `null` counting as missing. -/
def present? (j : Json) (key : String) : Option Json :=
  match j.field? key with
  | some null => none
  | value => value

/-- The string that a value is. -/
def text? : Json → Option String
  | text s => some s
  | _ => none

/-- The truth value that a value is. -/
def bool? : Json → Option Bool
  | bool b => some b
  | _ => none

/-- The integer that a value is. -/
def int? : Json → Option Int
  | number n 0 => some n
  | _ => none

/-- The whole number that a value is. -/
def nat? : Json → Option Nat
  | number (.ofNat n) 0 => some n
  | _ => none

/-- The whole number of 32 bits that a value is. -/
def nat32? (j : Json) : Option Nat := do
  let n ← j.nat?
  if n < 0x100000000 then some n else none

/-- The integer of 32 bits that a value is. -/
def int32? (j : Json) : Option Int := do
  let n ← j.int?
  if -0x80000000 ≤ n ∧ n < 0x80000000 then some n else none

/-- The list that a value is. -/
def list? : Json → Option (List Json)
  | list items => some items
  | _ => none

/-- The fields of the object that a value is. -/
def object? : Json → Option (List (String × Json))
  | object fields => some fields
  | _ => none

mutual

/-- How deep lists and objects are nested in a value. -/
def depth : Json → Nat
  | list items => depths items + 1
  | object fields => fieldDepths fields + 1
  | _ => 1

/-- The greatest depth of the members of a list. -/
def depths : List Json → Nat
  | [] => 0
  | item :: rest => max item.depth (depths rest)

/-- The greatest depth of the values of fields. -/
def fieldDepths : List (String × Json) → Nat
  | [] => 0
  | (_, value) :: rest => max value.depth (fieldDepths rest)

end

end Json

end EditorModes
