/-
Tables of a TOML document while they are being defined.

A table is opened by a header, or it comes into being as a parent of a header or of a dotted key.
What may be added to it later depends on which of these it was.

* `Node.insert?`: a key with its value, the tables of a dotted key opened on the way;
* `Node.openTable?`, `Node.openItem?`: a section under a `[header]` or a `[[header]]`;
* `Node.toDatum`: the finished table as data, fields in the order in which they were defined.
-/
import DaemonConsole.Config.Datum

namespace DaemonConsole.Toml

/-- Something that a key names. -/
inductive Node where
  | value (datum : Datum)
  /-- A table: `implicit` when only something inside it was named so far, `dotted` when a dotted key
  opened it. -/
  | table (implicit dotted : Bool) (fields : List (String × Node))
  /-- The tables of one `[[header]]`. -/
  | tables (items : List Node)
  deriving Inhabited

/-- A key with its parents and its value. -/
structure Entry where
  parents : List String
  key : String
  value : Datum

namespace Node

/-- The table that a header opens, without entries. -/
def empty : Node := table false false []

/-- What a key names among fields. -/
def field? (key : String) (fields : List (String × Node)) : Option Node :=
  (fields.find? (·.1 = key)).map (·.2)

/-- Fields with another node under a key. -/
def setField (key : String) (node : Node) (fields : List (String × Node)) : List (String × Node) :=
  fields.map fun (k, n) => if k = key then (k, node) else (k, n)

/-- Fields without a key. -/
def dropField (key : String) (fields : List (String × Node)) : List (String × Node) :=
  fields.filter (·.1 ≠ key)

/-- Changes the table at the end of a path. Missing tables are opened; the path goes on inside the
last table of a `[[header]]`. A dotted key does not go through a table that a header opened, and
nothing goes through a value. -/
def descend? (dotted : Bool) (change : Node → Option Node) : List String → Node → Option Node
  | [], node => change node
  | key :: path, table implicit wasDotted fields =>
    match field? key fields with
    | none => do
      let child ← descend? dotted change path (table true dotted [])
      return table implicit wasDotted (fields ++ [(key, child)])
    | some (table childImplicit childDotted childFields) =>
      if dotted && !childImplicit then none
      else do
        let child ← descend? dotted change path (table childImplicit childDotted childFields)
        return table implicit wasDotted (setField key child fields)
    | some (tables items) =>
      match items.reverse with
      | [] => none
      | last :: before => do
        let last ← descend? dotted change path last
        return table implicit wasDotted (setField key (tables (before.reverse ++ [last])) fields)
    | some (value _) => none
  | _ :: _, _ => none

/-- Adds a value under a key that is new in a table. A dotted key adds only to tables that dotted
keys opened, a plain key only to others. -/
def add? (plain : Bool) (key : String) (datum : Datum) : Node → Option Node
  | table implicit dotted fields =>
    if dotted == plain || (field? key fields).isSome then none
    else some (table implicit dotted (fields ++ [(key, value datum)]))
  | _ => none

/-- Adds an entry. -/
def insert? (node : Node) (e : Entry) : Option Node :=
  descend? true (add? e.parents.isEmpty e.key e.value) e.parents node

/-- Adds entries in order. -/
def insertAll? (node : Node) (entries : List Entry) : Option Node :=
  entries.foldlM insert? node

/-- Opens the table under a key with entries. A table that is already there may be opened if only
headers inside it were seen so far; it moves to the end. -/
def openHere? (key : String) (entries : List Entry) : Node → Option Node
  | table implicit dotted fields => do
    let start ← match field? key fields with
      | none => some empty
      | some (table true false inner) => some (table false false inner)
      | some _ => none
    let opened ← start.insertAll? entries
    return table implicit dotted (dropField key fields ++ [(key, opened)])
  | _ => none

/-- A section under a `[header]`. -/
def openTable? (node : Node) (parents : List String) (key : String) (entries : List Entry) :
    Option Node :=
  descend? false (openHere? key entries) parents node

/-- Adds a table with entries to those of a `[[header]]`. -/
def openItemHere? (key : String) (entries : List Entry) : Node → Option Node
  | table implicit dotted fields => do
    let opened ← empty.insertAll? entries
    match field? key fields with
    | none => return table implicit dotted (fields ++ [(key, tables [opened])])
    | some (tables items) =>
      return table implicit dotted (setField key (tables (items ++ [opened])) fields)
    | some _ => none
  | _ => none

/-- A section under a `[[header]]`. -/
def openItem? (node : Node) (parents : List String) (key : String) (entries : List Entry) :
    Option Node :=
  descend? false (openItemHere? key entries) parents node

mutual

/-- A node as data. -/
def toDatum : Node → Datum
  | value datum => datum
  | table _ _ fields => .table (toFields fields)
  | tables items => .list (toItems items)

/-- The fields of a table as data. -/
def toFields : List (String × Node) → List (String × Datum)
  | [] => []
  | (key, node) :: rest => (key, toDatum node) :: toFields rest

/-- The tables of a list as data. -/
def toItems : List Node → List Datum
  | [] => []
  | node :: rest => toDatum node :: toItems rest

end

end Node

end DaemonConsole.Toml
