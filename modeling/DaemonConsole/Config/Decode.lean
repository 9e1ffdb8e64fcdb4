/-
Decoding configurations.

Data are visited in their order and the first bad value decides; a field that is missing and has no
default is reported after every present value was read. Unknown fields are ignored. A record may
also be given as a list of its fields in order.

* `Config.decode`: a configuration from data, or the first fault;
* `Config.ofJson`, `Config.toJson`: a configuration from a JSON value, and back.
-/
import DaemonConsole.Config.Basic
import DaemonConsole.Config.Datum

namespace DaemonConsole

/-- What a value should have been. -/
inductive Expected where
  | layerId
  | size
  | truth
  | text
  | path
  | list
  | console
  | layer
  | config
  deriving DecidableEq, Repr

/-- How an expectation is named in a message. -/
def Expected.message : Expected → String
  | layerId => "u32"
  | size => "usize"
  | truth => "a boolean"
  | text => "a string"
  | path => "path string"
  | list => "a sequence"
  | console => "struct ConsoleConfig"
  | layer => "struct LayerConfig"
  | config => "struct Config"

/-- Why data are no configuration. -/
inductive DecodeError where
  | missingField (name : String)
  | unknownKind (name : String)
  | wrongType (found : String) (expected : Expected)
  | outOfRange (value : Int) (expected : Expected)
  /-- A list gives a record too few fields; `fields` is their full number. -/
  | tooShort (length : Nat) (expected : Expected) (fields : Nat)
  | tooLong (length : Nat)
  deriving DecidableEq, Repr

/-- The wording of a fault. -/
def DecodeError.message : DecodeError → String
  | missingField name => s!"missing field `{name}`"
  | unknownKind name => s!"unknown layer kind '{name}', expected link, net, udp or tcp"
  | wrongType found expected => s!"invalid type: {found}, expected {expected.message}"
  | outOfRange value expected => s!"invalid value: integer `{value}`, expected {expected.message}"
  | tooShort length expected fields =>
    s!"invalid length {length}, expected {expected.message} with {fields} elements"
  | tooLong length => s!"invalid length {length}, expected fewer elements in array"

/-- The fault of a value of another type. -/
def Datum.mismatch {α : Type} (d : Datum) (expected : Expected) : Except DecodeError α :=
  .error (.wrongType d.describe expected)

/-! ### Single values -/

/-- A natural number below a bound. -/
def decodeNat (bound : Nat) (expected : Expected) : Datum → Except DecodeError Nat
  | .integer n =>
    if 0 ≤ n ∧ n < bound then .ok n.toNat else .error (.outOfRange n expected)
  | d => d.mismatch expected

/-- A layer identifier. -/
def decodeLayerId (d : Datum) : Except DecodeError LayerId :=
  (decodeNat UInt32.size .layerId d).map UInt32.ofNat

/-- A size. -/
def decodeSize (d : Datum) : Except DecodeError UInt64 :=
  (decodeNat UInt64.size .size d).map UInt64.ofNat

/-- A truth value. -/
def decodeBool : Datum → Except DecodeError Bool
  | .bool b => .ok b
  | d => d.mismatch .truth

/-- A text; `expected` says what it is used for. -/
def decodeText (expected : Expected) : Datum → Except DecodeError String
  | .text s => .ok s
  | d => d.mismatch expected

/-- A text that may be absent. -/
def decodeOptionalText (expected : Expected) : Datum → Except DecodeError (Option String)
  | .null => .ok none
  | d => (decodeText expected d).map some

/-- A kind of layer by its name. -/
def decodeKind (d : Datum) : Except DecodeError LayerKind := do
  let name ← decodeText .text d
  match LayerKind.parse? name with
  | some kind => .ok kind
  | none => .error (.unknownKind name)

/-- A field that has to be there. -/
def required {α : Type} (name : String) : Option α → Except DecodeError α
  | some value => .ok value
  | none => .error (.missingField name)

/-- Refuses items beyond the last field of a record, unless they are to be ignored. -/
def checkSurplus (ignoreSurplus : Bool) (fields : Nat) (items : List Datum) :
    Except DecodeError Unit :=
  if items.length ≤ fields ∨ ignoreSurplus then .ok () else .error (.tooLong items.length)

/-! ### Console settings -/

/-- The console settings read so far. -/
structure ConsoleFields where
  product : Option String := none
  historyFile : Option (Option String) := none
  historySize : Option UInt64 := none

/-- Reads one field of the console settings. -/
def ConsoleFields.visit (f : ConsoleFields) (field : String × Datum) :
    Except DecodeError ConsoleFields :=
  match field.1 with
  | "product" => return { f with product := some (← decodeText .text field.2) }
  | "history_file" => return { f with historyFile := some (← decodeOptionalText .path field.2) }
  | "history_size" => return { f with historySize := some (← decodeSize field.2) }
  | _ => return f

/-- The console settings, absent ones by their defaults. -/
def ConsoleFields.finish (f : ConsoleFields) : ConsoleSettings :=
  let defaults : ConsoleSettings := {}
  { product := f.product.getD defaults.product
    historyFile := f.historyFile.getD defaults.historyFile
    historySize := f.historySize.getD defaults.historySize }

/-- Console settings from the items of a list. -/
def ConsoleSettings.decodeItems (ignoreSurplus : Bool) (items : List Datum) :
    Except DecodeError ConsoleSettings := do
  let defaults : ConsoleSettings := {}
  let product ← (items[0]?.map (decodeText .text)).getD (.ok defaults.product)
  let historyFile ←
    (items[1]?.map (decodeOptionalText .path)).getD (.error (.tooShort 1 .console 3))
  let historySize ← (items[2]?.map decodeSize).getD (.ok defaults.historySize)
  checkSurplus ignoreSurplus 3 items
  return { product, historyFile, historySize }

/-- Console settings from a table or a list. -/
def ConsoleSettings.decode (ignoreSurplus : Bool) : Datum → Except DecodeError ConsoleSettings
  | .table fields => return (← fields.foldlM ConsoleFields.visit {}).finish
  | .list items => decodeItems ignoreSurplus items
  | d => d.mismatch .console

/-! ### Layers -/

/-- The settings of a layer read so far. -/
structure LayerFields where
  id : Option LayerId := none
  name : Option String := none
  kind : Option LayerKind := none
  description : Option (Option String) := none
  enabled : Option Bool := none

/-- Reads one field of a layer. -/
def LayerFields.visit (f : LayerFields) (field : String × Datum) :
    Except DecodeError LayerFields :=
  match field.1 with
  | "id" => return { f with id := some (← decodeLayerId field.2) }
  | "name" => return { f with name := some (← decodeText .text field.2) }
  | "kind" => return { f with kind := some (← decodeKind field.2) }
  | "description" => return { f with description := some (← decodeOptionalText .text field.2) }
  | "enabled" => return { f with enabled := some (← decodeBool field.2) }
  | _ => return f

/-- The settings of a layer; the identifier, the name and the kind have to be there. -/
def LayerFields.finish (f : LayerFields) : Except DecodeError LayerSettings := do
  let id ← required "id" f.id
  let name ← required "name" f.name
  let kind ← required "kind" f.kind
  return { id, name, kind, description := f.description.getD none, enabled := f.enabled.getD true }

/-- An item that a layer has to have. -/
def layerItem {α : Type} (items : List Datum) (index : Nat)
    (decode : Datum → Except DecodeError α) : Except DecodeError α :=
  (items[index]?.map decode).getD (.error (.tooShort index .layer 5))

/-- The settings of a layer from the items of a list. -/
def LayerSettings.decodeItems (ignoreSurplus : Bool) (items : List Datum) :
    Except DecodeError LayerSettings := do
  let id ← layerItem items 0 decodeLayerId
  let name ← layerItem items 1 (decodeText .text)
  let kind ← layerItem items 2 decodeKind
  let description ← layerItem items 3 (decodeOptionalText .text)
  let enabled ← (items[4]?.map decodeBool).getD (.ok true)
  checkSurplus ignoreSurplus 5 items
  return { id, name, kind, description, enabled }

/-- The settings of a layer from a table or a list. -/
def LayerSettings.decode (ignoreSurplus : Bool) : Datum → Except DecodeError LayerSettings
  | .table fields => do (← fields.foldlM LayerFields.visit {}).finish
  | .list items => decodeItems ignoreSurplus items
  | d => d.mismatch .layer

/-- The layers of a list. -/
def decodeLayers (ignoreSurplus : Bool) : Datum → Except DecodeError (List LayerSettings)
  | .list items => items.mapM (LayerSettings.decode ignoreSurplus)
  | d => d.mismatch .list

/-! ### Configurations -/

namespace Config

/-- Reads one field of a configuration over what was read so far. -/
def visit (ignoreSurplus : Bool) (c : Config) (field : String × Datum) :
    Except DecodeError Config :=
  match field.1 with
  | "console" => return { c with console := ← ConsoleSettings.decode ignoreSurplus field.2 }
  | "layers" => return { c with layers := ← decodeLayers ignoreSurplus field.2 }
  | _ => return c

/-- A configuration from data, absent parts by their defaults. `ignoreSurplus` tells whether a list
that stands for a record may have more items than the record has fields. -/
def decode (ignoreSurplus : Bool) : Datum → Except DecodeError Config
  | .table fields => fields.foldlM (visit ignoreSurplus) {}
  | .list items => do
    let defaults : Config := {}
    let console ←
      (items[0]?.map (ConsoleSettings.decode ignoreSurplus)).getD (.ok defaults.console)
    let layers ← (items[1]?.map (decodeLayers ignoreSurplus)).getD (.ok defaults.layers)
    checkSurplus ignoreSurplus 2 items
    return { console, layers }
  | d => d.mismatch .config

/-- A configuration from a JSON value. -/
def ofJson (j : Json) : Except DecodeError Config :=
  decode false (.ofJson j)

end Config

/-! ### Encoding -/

/-- A text or null. -/
def Json.ofOptionalText : Option String → Json
  | some s => .text s
  | none => .null

/-- Console settings as a JSON object. -/
def ConsoleSettings.toJson (c : ConsoleSettings) : Json :=
  .object [("product", .text c.product), ("history_file", .ofOptionalText c.historyFile),
    ("history_size", .integer c.historySize.toNat)]

/-- The settings of a layer as a JSON object. -/
def LayerSettings.toJson (l : LayerSettings) : Json :=
  .object [("id", .integer l.id.toNat), ("name", .text l.name), ("kind", .text l.kind.name),
    ("description", .ofOptionalText l.description), ("enabled", .bool l.enabled)]

/-- A configuration as a JSON object with every field spelt out. -/
def Config.toJson (c : Config) : Json :=
  .object [("console", c.console.toJson), ("layers", .array (c.layers.map LayerSettings.toJson))]

end DaemonConsole
