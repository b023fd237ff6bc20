import EditorModes.Toml.Lexical
import EditorModes.Toml.Table

/-!
# Reading TOML

`Toml.parse?` reads a document as the object of its top-level keys.  Whole numbers must fit into
64 bits.  A number with a fraction or an exponent is read as a number that is not whole, and a
date or a time as an object with one field of its own.
-/

namespace EditorModes.Toml

/-- The only field of the object that stands for a date or a time. -/
def dateField : String := "$__toml_private_datetime"

/-! ### Numbers -/

/-- Digits with single underscores between them. -/
def digits? (isDigit : Char → Bool) : Text → Option (List Char × Text)
  | [] => none
  | c :: t => if isDigit c then some (let (more, t) := go t; (c :: more, t)) else none
where
  go : Text → List Char × Text
    | '_' :: c :: t =>
      if isDigit c then let (more, t) := go t; (c :: more, t) else ([], '_' :: c :: t)
    | c :: t => if isDigit c then let (more, t) := go t; (c :: more, t) else ([], c :: t)
    | [] => ([], [])

/-- The number that digits to a base stand for. -/
def numberOf (base : Nat) (digits : List Char) : Nat :=
  digits.foldl (fun n c => n * base + (Hexadecimal.digit? c).getD 0) 0

/-- The sign at the start of a text: whether it is a minus, and what follows. -/
def sign : Text → Bool × Text
  | '-' :: t => (true, t)
  | '+' :: t => (false, t)
  | t => (false, t)

/-- The whole number, when it fits into 64 bits. -/
def integer64? (n : Int) : Option Json :=
  if -0x8000000000000000 ≤ n ∧ n < 0x8000000000000000 then some (.number n 0) else none

/-- Whether no digit or underscore follows. -/
def endsNumber (t : Text) : Bool :=
  t.head?.all fun c => !(Property.isAsciiDigit c || c = '_')

/-- A whole number. -/
def integer? (t : Text) : Option (Json × Text) :=
  let based (base : Nat) (isDigit : Char → Bool) (t : Text) : Option (Json × Text) := do
    let (ds, t) ← digits? isDigit t
    if t.head? = some '_' then none
    return (← integer64? (numberOf base ds), t)
  match t with
  | '0' :: 'x' :: t => based 16 (fun c => (Hexadecimal.digit? c).isSome) t
  | '0' :: 'o' :: t => based 8 (fun c => '0' ≤ c && c ≤ '7') t
  | '0' :: 'b' :: t => based 2 (fun c => c = '0' || c = '1') t
  | t => do
    let (negative, t) := sign t
    let (ds, rest) ← digits? Property.isAsciiDigit t
    if ds.head? = some '0' ∧ 1 < ds.length ∨ !endsNumber rest then none
    let n : Int := numberOf 10 ds
    return (← integer64? (if negative then -n else n), rest)

/-- The fraction after a point, or the empty list when there is no point. -/
def fraction? : Text → Option (List Char × Text)
  | '.' :: t => digits? Property.isAsciiDigit t
  | t => some ([], t)

/-- The exponent after an `e`, or `none` when there is no `e`. -/
def exponent? (t : Text) : Option (Option Int × Text) :=
  let read (t : Text) : Option (Option Int × Text) := do
    let (negative, t) := sign t
    let (ds, t) ← digits? Property.isAsciiDigit t
    let n : Int := numberOf 10 ds
    return (some (if negative then -n else n), t)
  match t with
  | 'e' :: t => read t
  | 'E' :: t => read t
  | t => some (none, t)

/-- Whether a whole number, divided by ten `places` times, is too large for binary64. -/
def exceedsBinary64 (m : Nat) (places : Int) : Bool :=
  let digitsBeforePoint := (toString m).length - places
  if digitsBeforePoint ≤ 308 then false
  else if 310 < digitsBeforePoint then true
  else (Nat.pow 2 1024 - Nat.pow 2 970) * Nat.pow 10 places.toNat
    ≤ m * Nat.pow 10 (-places).toNat

/--
The number that is digits times a power of ten, never a whole one.  A positive number too large for
binary64 is refused; a negative one counts as infinite.
-/
def decimal? (digits : List Char) (places : Int) (negative : Bool) : Option Json :=
  let m : Nat := numberOf 10 digits
  let signed (n : Nat) : Int := if negative then -n else n
  if m = 0 then some (.number 0 1)
  else if exceedsBinary64 m places then
    if negative then some (.number 0 1) else none
  else if 0 < places then some (.number (signed m) places.toNat)
  else some (.number (signed (m * Nat.pow 10 (-places).toNat * 10)) 1)

/-- A number with a fraction, an exponent or both, or one that is infinite or none. -/
def float? (t : Text) : Option (Json × Text) := do
  let (negative, t) := sign t
  match t with
  | 'i' :: 'n' :: 'f' :: t => return (.number 0 1, t)
  | 'n' :: 'a' :: 'n' :: t => return (.number 0 1, t)
  | t =>
    let (whole, t) ← digits? Property.isAsciiDigit t
    if whole.head? = some '0' ∧ 1 < whole.length then none
    let (fraction, t) ← fraction? t
    let (exponent, t) ← exponent? t
    if fraction = [] ∧ exponent.isNone ∨ !endsNumber t then none
    let places : Int := fraction.length - exponent.getD 0
    return (← decimal? (whole ++ fraction) places negative, t)

/-! ### Dates and times -/

/-- Exactly `count` digits. -/
def fixedDigits? (count : Nat) (t : Text) : Option (Nat × Text) :=
  let ds := t.take count
  if ds.length = count ∧ ds.all Property.isAsciiDigit then some (numberOf 10 ds, t.drop count)
  else none

/-- What follows a given character. -/
def expect? (c : Char) : Text → Option Text
  | d :: t => if c = d then some t else none
  | [] => none

/-- The number of days of a month. -/
def daysOfMonth (year month : Nat) : Nat :=
  if month = 2 then
    if year % 4 = 0 ∧ (year % 100 ≠ 0 ∨ year % 400 = 0) then 29 else 28
  else if month = 4 ∨ month = 6 ∨ month = 9 ∨ month = 11 then 30
  else 31

/-- A date, as written. -/
def date? (t : Text) : Option (Text × Text) := do
  let (year, rest) ← fixedDigits? 4 t
  let (month, rest) ← fixedDigits? 2 (← expect? '-' rest)
  let (day, rest) ← fixedDigits? 2 (← expect? '-' rest)
  if 1 ≤ month ∧ month ≤ 12 ∧ 1 ≤ day ∧ day ≤ daysOfMonth year month then some (t.take 10, rest)
  else none

/-- A fraction of a second in its shortest form; digits after the ninth do not count. -/
def shortFraction (digits : Text) : Text :=
  match Text.trimEndBy (· = '0') (digits.take 9) with
  | [] => []
  | digits => '.' :: digits

/-- A time of day, its fraction in the shortest form. -/
def time? (t : Text) : Option (Text × Text) := do
  let (hour, rest) ← fixedDigits? 2 t
  let (minute, rest) ← fixedDigits? 2 (← expect? ':' rest)
  let (second, rest) ← fixedDigits? 2 (← expect? ':' rest)
  if 23 < hour ∨ 59 < minute ∨ 60 < second then none
  match rest with
  | '.' :: rest =>
    let (fraction, rest) := Text.spanWhile Property.isAsciiDigit rest
    if fraction = [] then none else some (t.take 8 ++ shortFraction fraction, rest)
  | rest => some (t.take 8, rest)

/-- The distance to universal time, if one is given; no distance has a plus in front. -/
def zone? (t : Text) : Option (Text × Text) :=
  let distance (sign : Char) (t : Text) : Option (Text × Text) := do
    let (hour, rest) ← fixedDigits? 2 t
    let (minute, rest) ← fixedDigits? 2 (← expect? ':' rest)
    if 23 < hour ∨ 59 < minute then none
    return ((if hour = 0 ∧ minute = 0 then '+' else sign) :: t.take 5, rest)
  match t with
  | 'Z' :: t => some (['Z'], t)
  | 'z' :: t => some (['Z'], t)
  | '+' :: t => distance '+' t
  | '-' :: t => distance '-' t
  | t => some ([], t)

/-- Whether a text starts with two digits and a colon, as a time does. -/
def looksLikeTime (t : Text) : Bool :=
  match t with
  | a :: b :: ':' :: _ => Property.isAsciiDigit a && Property.isAsciiDigit b
  | _ => false

/-- A date, a time, or both with a `T` between them. -/
def moment? (t : Text) : Option (Text × Text) :=
  if looksLikeTime t then time? t
  else do
    let (date, t) ← date? t
    let withTime (t : Text) : Option (Text × Text) := do
      let (time, t) ← time? t
      let (zone, t) ← zone? t
      return (date ++ 'T' :: time ++ zone, t)
    match t with
    | 'T' :: t => withTime t
    | 't' :: t => withTime t
    | ' ' :: rest => if looksLikeTime rest then withTime rest else some (date, t)
    | t => some (date, t)

/-- A date, a time, or both, as a table of its own kind. -/
def moment (t : Text) : Option (Json × Text) := do
  let (written, rest) ← moment? t
  return (.object [(dateField, .text (String.ofList written))], rest)

/-! ### Values -/

/-- Values with commas between them and perhaps after them, up to a closing bracket. -/
def arrayItems? (item : Text → Option (Json × Text)) :
    (steps : Nat) → Text → Option (List Json × Text)
  | 0, _ => none
  | steps + 1, t => do
    match ← skipLines false t with
    | ']' :: t => return ([], t)
    | t =>
      let (first, t) ← item t
      match ← skipLines false t with
      | ']' :: t => return ([first], t)
      | ',' :: t => (arrayItems? item steps t).map fun (rest, t) => (first :: rest, t)
      | _ => none

/-- A key and its value. -/
def pair? (item : Text → Option (Json × Text)) (t : Text) :
    Option (List String × Json × Text) := do
  let (key, t) ← key? nestLimit t
  match t with
  | '=' :: t =>
    let (value, t) ← item (skipBlanks t)
    return (key, value, t)
  | _ => none

/-- Keys and values with commas between them, up to a closing brace, added to a table. -/
def inlinePairs? (item : Text → Option (Json × Text)) :
    (steps : Nat) → Node → Text → Option (Node × Text)
  | 0, _, _ => none
  | steps + 1, table, t => do
    let (key, value, t) ← pair? item t
    let table ← table.addPair? key value
    match skipBlanks t with
    | '\x7d' :: t => return (table, t)
    | ',' :: t => inlinePairs? item steps table t
    | _ => none

/-- A value, in which arrays and tables nest at most `levels` deep. -/
def value? : (levels : Nat) → Text → Option (Json × Text)
  | levels, '[' :: t =>
    match levels with
    | 0 => none
    | levels + 1 =>
      (arrayItems? (value? levels) (t.length + 1) t).map fun (items, t) => (.list items, t)
  | levels, '\x7b' :: t =>
    match levels with
    | 0 => none
    | levels + 1 =>
      match skipBlanks t with
      | '\x7d' :: t => some (.object [], t)
      | _ =>
        (inlinePairs? (value? levels) (t.length + 1) .emptyTable t).map fun (table, t) =>
          (table.toJson, t)
  | _, 't' :: 'r' :: 'u' :: 'e' :: t => some (.bool true, t)
  | _, 'f' :: 'a' :: 'l' :: 's' :: 'e' :: t => some (.bool false, t)
  | _, t =>
    match string? t with
    | some (s, t) => some (.text (String.ofList s), t)
    | none => moment t <|> float? t <|> integer? t

/-! ### Documents -/

/-- The table being written, the path of its header, and whether it is one of an array. -/
structure Section where
  path : List String
  inArray : Bool
  table : Node

/-- The document so far, without the section being written. -/
structure Document where
  root : Node
  current : Section

namespace Document

/-- The document before its first line. -/
def empty : Document where
  root := .emptyTable
  current := ⟨[], false, .emptyTable⟩

/-- The root with the current section put in its place. -/
def finish? (d : Document) : Option Node :=
  let ⟨path, inArray, table⟩ := d.current
  match path.getLast? with
  | none => some table
  | some key =>
    let place := if inArray then Node.extendTables? key [table] else Node.putTable? key table
    d.root.changeAt? place false path.dropLast

/-- The document with a section opened by a header. -/
def openTable? (d : Document) (path : List String) : Option Document := do
  let key ← path.getLast?
  let root ← d.finish?
  let opened := ((root.at? path.dropLast).map (Node.openedTable key)).getD .emptyTable
  let root ← root.changeAt? (Node.takeTable? key) false path.dropLast
  return ⟨root, path, false, opened⟩

/-- The document with a further table of an array opened by a header. -/
def openArray? (d : Document) (path : List String) : Option Document := do
  let key ← path.getLast?
  let root ← d.finish?
  let root ← root.changeAt? (Node.extendTables? key []) false path.dropLast
  return ⟨root, path, true, .emptyTable⟩

/-- The document with a key added to its current section. -/
def add? (d : Document) (key : List String) (value : Json) : Option Document := do
  let table ← d.current.table.addPair? key value
  return { d with current := { d.current with table := table } }

end Document

/-- The expressions of a document, at most `steps` of them. -/
def expressions? : (steps : Nat) → Document → Text → Option Document
  | 0, _, _ => none
  | steps + 1, d, t =>
    match skipBlanks t with
    | [] => some d
    | '[' :: '[' :: t => do
      let (path, t) ← key? nestLimit t
      match t with
      | ']' :: ']' :: t => expressions? steps (← d.openArray? path) (← lineEnd? t)
      | _ => none
    | '[' :: t => do
      let (path, t) ← key? nestLimit t
      match t with
      | ']' :: t => expressions? steps (← d.openTable? path) (← lineEnd? t)
      | _ => none
    | t =>
      match lineEnd? t with
      | some t => expressions? steps d t
      | none => do
        let (key, value, t) ← pair? (value? nestLimit) t
        expressions? steps (← d.add? key value) (← lineEnd? t)

/-- The object that a document denotes; `none` for a text that is no TOML document. -/
def parse? (t : Text) : Option Json := do
  let t : Text := match t with
    | '\ufeff' :: t => t
    | t => t
  let d ← expressions? (t.length + 1) .empty t
  return (← d.finish?).toJson

end EditorModes.Toml
