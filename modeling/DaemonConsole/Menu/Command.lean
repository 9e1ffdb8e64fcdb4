/-
Commands: what an operator can name in a menu.

A command is checked when a menu is assembled: its name is a single word of at most
`Command.maxNameLength` characters and its description has at most `Command.maxDescriptionLength`.

* `Command.make`: a command from its fields, or the first fault;
* `Command.Valid`: the conditions that `make` checks.
-/
import DaemonConsole.Text.Blank

namespace DaemonConsole

/-- What identifies a command to the daemon. -/
abbrev CommandId := UInt32

/-- What identifies a layer. -/
abbrev LayerId := UInt32

/-- The word that leaves a layer, or the console when no layer is entered. -/
def exitWord : String := "exit"

/-- Why a command cannot be offered. -/
inductive CommandError where
  | emptyName
  | nameTooLong (name : String)
  | nameHasBlank (name : String)
  | descriptionTooLong (name : String)
  deriving DecidableEq, Repr

/-- A named action with its one-line description. -/
structure Command where
  id : CommandId
  name : String
  description : String
  deriving DecidableEq, Repr

namespace Command

/-- The largest number of characters in a name. -/
def maxNameLength : Nat := 32

/-- The largest number of characters in a description. -/
def maxDescriptionLength : Nat := 64

/-- A name that can be typed as one word, and texts within their bounds. -/
def Valid (c : Command) : Prop :=
  c.name ≠ "" ∧ c.name.length ≤ maxNameLength ∧ Text.hasBlank c.name = false ∧
    c.description.length ≤ maxDescriptionLength

instance (c : Command) : Decidable c.Valid := by
  unfold Valid
  infer_instance

/-- A command from its fields; the first fault in the order of the name and then the description. -/
def make (id : CommandId) (name description : String) : Except CommandError Command :=
  if name = "" then .error .emptyName
  else if maxNameLength < name.length then .error (.nameTooLong name)
  else if Text.hasBlank name then .error (.nameHasBlank name)
  else if maxDescriptionLength < description.length then .error (.descriptionTooLong name)
  else .ok ⟨id, name, description⟩

end Command

/-- The wording of a fault. -/
def CommandError.message : CommandError → String
  | emptyName => "command name is empty"
  | nameTooLong name =>
    s!"command name '{name}' is longer than {Command.maxNameLength} characters"
  | nameHasBlank name => s!"command name '{name}' contains whitespace"
  | descriptionTooLong name =>
    s!"description of '{name}' is longer than {Command.maxDescriptionLength} characters"

end DaemonConsole
