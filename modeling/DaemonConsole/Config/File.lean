/-
Configuration files.

A file that is not there stands for the defaults. A file that is there has to be readable text,
decode and be valid on its own.

* `Config.load`: a configuration from what lies under a path, or why it cannot be used.
-/
import DaemonConsole.Config.Decode
import DaemonConsole.Config.Validation
import DaemonConsole.Files
import DaemonConsole.Text.Utf8
import DaemonConsole.Toml.Reader

namespace DaemonConsole

/-- Why a configuration file cannot be used. -/
inductive ConfigFileError where
  | unreadable (reason : String)
  /-- The text is no TOML document. -/
  | malformed (path : String)
  /-- The document is no configuration. -/
  | undecodable (path : String) (cause : DecodeError)
  | invalid (cause : ConfigFault)
  deriving DecidableEq, Repr

namespace ConfigFileError

/-- The first line for a text that cannot be decoded. -/
def headline (path : String) : String :=
  s!"Configuration error in {path}:"

/-- What a decoding fault says by itself: a missing field and an unknown kind of layer name their
cause, the others belong to the text around them. -/
def detail? : ConfigFileError → Option String
  | undecodable _ (.missingField name) => some (DecodeError.missingField name).message
  | undecodable _ (.unknownKind name) => some (DecodeError.unknownKind name).message
  | _ => none

/-- The error that is raised. -/
def toError : ConfigFileError → ConsoleError
  | unreadable reason => .config ("Failed to read config file: " ++ reason)
  | malformed path => .config (headline path ++ "\n  malformed document")
  | undecodable path cause => .config (headline path ++ "\n  " ++ cause.message)
  | invalid cause => cause.toError

/-- The first line of the error. -/
def firstLine : ConfigFileError → ConsoleError
  | malformed path => .config (headline path)
  | undecodable path _ => .config (headline path)
  | e => e.toError

end ConfigFileError

/-- A configuration from the bytes of a file. -/
def Config.ofFile (path : String) (bytes : List UInt8) : Except ConfigFileError Config :=
  if Utf8.isWellFormed bytes then
    match Toml.parse? (String.ofList (Utf8.decode bytes)) with
    | none => .error (.malformed path)
    | some datum =>
      match Config.decode true datum with
      | .error cause => .error (.undecodable path cause)
      | .ok config =>
        match config.validate with
        | .error cause => .error (.invalid cause)
        | .ok () => .ok config
  else .error (.unreadable "stream did not contain valid UTF-8")

/-- A configuration from what lies under a path. What is there but cannot be read is an error. -/
def Config.load (path : String) (found : Lookup) : Except ConfigFileError Config :=
  match found with
  | .file bytes => Config.ofFile path bytes
  | .directory => .error (.unreadable Lookup.directory.reason)
  | .noDevice => .error (.unreadable Lookup.noDevice.reason)
  | _ => .ok {}

/-- A configuration with the product name of the command line, if it gives one. -/
def Config.withProduct (c : Config) (product : Option String) : Config :=
  { c with console := { c.console with product := product.getD c.console.product } }

end DaemonConsole
