/-
What a configuration has to satisfy.

The product name is not blank. Each layer, against itself and the layers before it, has an
identifier and a name of its own, the name is not the exit word and is well formed, and its
description is not too long.

* `Config.validate`: the first fault, if any, in the order of the layers and for each layer in the
  order above.
-/
import DaemonConsole.Config.Basic
import DaemonConsole.Error

namespace DaemonConsole

/-- What is wrong with a configuration. -/
inductive ConfigFault where
  | blankProduct
  | duplicateId (id : LayerId)
  | duplicateName (name : String)
  | reservedName
  | malformedName (name : String)
  | descriptionTooLong (name : String)
  deriving DecidableEq, Repr

/-- The wording of a fault. -/
def ConfigFault.message : ConfigFault → String
  | blankProduct => "console.product must not be empty"
  | duplicateId id => "duplicate layer id " ++ toString id.toNat
  | duplicateName name => s!"duplicate layer name '{name}'"
  | reservedName => s!"'{exitWord}' is reserved and cannot name a layer"
  | malformedName name =>
    s!"invalid layer name '{name}': use up to {Command.maxNameLength} letters, "
      ++ "digits, '_', '.' or '-'"
  | descriptionTooLong name =>
    s!"description of layer '{name}' is longer than {Command.maxDescriptionLength} characters"

/-- The error that a fault raises. -/
def ConfigFault.toError (f : ConfigFault) : ConsoleError :=
  .config f.message

/-- Whether a character may stand in a layer name after its first letter. -/
def isNameChar (c : Char) : Bool :=
  c.isAlphanum || c = '_' || c = '.' || c = '-'

/-- The language of the pattern `^[A-Za-z][A-Za-z0-9_.-]*$`, among texts of at most 32 characters: an
ASCII letter, then ASCII letters, digits, `_`, `.` and `-`. The end anchor stands for the end of the
text alone, so no line feed may follow. -/
def isLayerName (name : String) : Bool :=
  match name.toList with
  | [] => false
  | c :: cs => c.isAlpha && cs.all isNameChar && name.length ≤ Command.maxNameLength

/-- The first fault of a layer against itself and the layers before it. -/
def LayerSettings.fault? (before : List LayerSettings) (l : LayerSettings) : Option ConfigFault :=
  if before.any (·.id == l.id) then some (.duplicateId l.id)
  else if before.any (·.name == l.name) then some (.duplicateName l.name)
  else if l.name = exitWord then some .reservedName
  else if !isLayerName l.name then some (.malformedName l.name)
  else if Command.maxDescriptionLength < l.effectiveDescription.length then
    some (.descriptionTooLong l.name)
  else none

/-- The first fault among layers that come after others. -/
def firstFault? (before : List LayerSettings) : List LayerSettings → Option ConfigFault
  | [] => none
  | l :: rest =>
    match l.fault? before with
    | some f => some f
    | none => firstFault? (before ++ [l]) rest

/-- Checks a configuration and gives its first fault. -/
def Config.validate (c : Config) : Except ConfigFault Unit :=
  if Text.isAllBlank c.console.product then .error .blankProduct
  else
    match firstFault? [] c.layers with
    | some f => .error f
    | none => .ok ()

end DaemonConsole
