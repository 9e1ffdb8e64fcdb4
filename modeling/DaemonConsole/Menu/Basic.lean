/-
Menus: ordered lists of commands.

A menu serves the root, where a command names a layer, and each layer, where it names an action of
the layer. The order of a menu is the order in which it is shown and completed. Names and
identifiers may repeat; a look-up finds the first.
-/
import DaemonConsole.Json.Value
import DaemonConsole.Menu.Command

namespace DaemonConsole

/-- An ordered list of commands. -/
structure Menu where
  commands : List Command
  deriving DecidableEq, Repr

namespace Menu

/-- The menu without commands. -/
def empty : Menu := ⟨[]⟩

instance : Inhabited Menu := ⟨empty⟩

/-- The first command with a name. -/
def find? (m : Menu) (name : String) : Option Command :=
  m.commands.find? (·.name == name)

/-- The first command with an identifier. -/
def findById? (m : Menu) (id : CommandId) : Option Command :=
  m.commands.find? (·.id == id)

/-- The names in order. -/
def names (m : Menu) : List String :=
  m.commands.map (·.name)

/-- The number of commands. -/
def size (m : Menu) : Nat :=
  m.commands.length

/-- The menu with one more command at its end. -/
def push (m : Menu) (c : Command) : Menu :=
  ⟨m.commands ++ [c]⟩

/-- A menu from the fields of its commands, each of them checked in turn. -/
def ofFields (fields : List (CommandId × String × String)) : Except CommandError Menu := do
  let commands ← fields.mapM fun (id, name, description) => Command.make id name description
  return ⟨commands⟩

/-- A menu as a JSON object. -/
def toJson (m : Menu) : Json :=
  .object [("commands", .array (m.commands.map fun c =>
    .object [("id", .integer c.id.toNat), ("name", .text c.name), ("doc", .text c.description)]))]

end Menu

end DaemonConsole
