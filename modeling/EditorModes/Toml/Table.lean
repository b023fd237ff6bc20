import EditorModes.Json.Basic

/-!
# Tables of a TOML document

While a document is read, its tables are kept together with how they came about, which decides
what may be added to them later.  A table that only stands on the way to another is implicit; one
that is written with dotted keys is also dotted.  Values are closed: nothing is added to them.
-/

namespace EditorModes.Toml

/-- What a key of a table stands for. -/
inductive Node where
  | value (j : Json)
  | table (implicit dotted : Bool) (entries : List (String × Node))
  | tables (items : List Node)

/-- A table with no entries that is written out in full. -/
def Node.emptyTable : Node :=
  .table false false []

/-- The entries with the one of a key set. -/
def setEntry (key : String) (node : Node) : List (String × Node) → List (String × Node)
  | [] => [(key, node)]
  | (k, n) :: rest => if k = key then (k, node) :: rest else (k, n) :: setEntry key node rest

/-- The entries without the one of a key. -/
def removeEntry (key : String) (entries : List (String × Node)) : List (String × Node) :=
  entries.filter fun (k, _) => k ≠ key

/--
The table with the one at the end of a path changed.  Tables missing on the way are added; an
array of tables stands for its last table; with `dotted`, a table on the way must not have been
written out.
-/
def Node.changeAt? (change : Node → Option Node) (dotted : Bool) :
    List String → Node → Option Node
  | [], node => change node
  | key :: path, .table implicit isDotted entries =>
    match entries.lookup key with
    | none => do
      let node ← changeAt? change dotted path (.table true dotted [])
      return .table implicit isDotted (setEntry key node entries)
    | some (.value _) => none
    | some (.tables items) =>
      match items.getLast? with
      | none => none
      | some last => do
        let node ← changeAt? change dotted path last
        return .table implicit isDotted (setEntry key (.tables (items.dropLast ++ [node])) entries)
    | some (.table childImplicit childDotted childEntries) => do
      if dotted && !childImplicit then none
      let node ← changeAt? change dotted path (.table childImplicit childDotted childEntries)
      return .table implicit isDotted (setEntry key node entries)
  | _ :: _, _ => none

/-- The node at the end of a path, an array of tables standing for its last table. -/
def Node.at? : List String → Node → Option Node
  | [], .tables items => items.getLast?
  | [], node => some node
  | key :: path, .table _ _ entries => do (← entries.lookup key).at? path
  | key :: path, .tables items =>
    match items.getLast? with
    | some (.table _ _ entries) => do (← entries.lookup key).at? path
    | _ => none
  | _ :: _, .value _ => none

/-- A new key set to a value in a table that is dotted or not as `dotted` says. -/
def Node.addValue? (dotted : Bool) (key : String) (value : Json) : Node → Option Node
  | .table implicit isDotted entries =>
    if isDotted = dotted ∧ (entries.lookup key).isNone then
      some (.table implicit isDotted (entries ++ [(key, .value value)]))
    else
      none
  | _ => none

/-- The table with the value of a dotted key added. -/
def Node.addPair? (key : List String) (value : Json) (table : Node) : Option Node := do
  let name ← key.getLast?
  let path := key.dropLast
  table.changeAt? (Node.addValue? (!path.isEmpty) name value) true path

/-- The table that a header with the last part `key` goes on with, in its parent. -/
def Node.openedTable (key : String) : Node → Node
  | .table _ _ entries =>
    match entries.lookup key with
    | some (.table _ _ children) => .table false false children
    | _ => .emptyTable
  | _ => .emptyTable

/-- The parent without the table that a header opens; only an implicit table may be there. -/
def Node.takeTable? (key : String) : Node → Option Node
  | .table implicit isDotted entries =>
    match entries.lookup key with
    | none => some (.table implicit isDotted entries)
    | some (.table true false _) => some (.table implicit isDotted (removeEntry key entries))
    | some _ => none
  | _ => none

/-- The parent with a finished table in it. -/
def Node.putTable? (key : String) (table : Node) : Node → Option Node
  | .table implicit isDotted entries =>
    match entries.lookup key with
    | none => some (.table implicit isDotted (setEntry key table entries))
    | some (.table true _ _) => some (.table implicit isDotted (setEntry key table entries))
    | some _ => none
  | _ => none

/-- The parent with an array of tables under a key, to which the given tables are added. -/
def Node.extendTables? (key : String) (added : List Node) : Node → Option Node
  | .table implicit isDotted entries =>
    match entries.lookup key with
    | none => some (.table implicit isDotted (setEntry key (.tables added) entries))
    | some (.tables items) =>
      some (.table implicit isDotted (setEntry key (.tables (items ++ added)) entries))
    | some _ => none
  | _ => none

mutual

/-- The value that a node stands for. -/
def Node.toJson : Node → Json
  | .value j => j
  | .table _ _ entries => .object (fieldsToJson entries)
  | .tables items => .list (itemsToJson items)

/-- The fields that entries stand for. -/
def fieldsToJson : List (String × Node) → List (String × Json)
  | [] => []
  | (key, node) :: rest => (key, node.toJson) :: fieldsToJson rest

/-- The values that nodes stand for. -/
def itemsToJson : List Node → List Json
  | [] => []
  | node :: rest => node.toJson :: itemsToJson rest

end

end EditorModes.Toml
