/-
A run of the program over a script.

The program reads its arguments, loads the configuration, starts the daemon and runs the console
over the script that is named, or over the standard input.

* `Program.run`: what a run writes and its exit status, from everything that it is given.
-/
import DaemonConsole.CommandLine
import DaemonConsole.Config.File
import DaemonConsole.Console.Script
import DaemonConsole.Paths
import DaemonConsole.Program.Activity

namespace DaemonConsole.Program

/-- Everything that a run is given. -/
structure Invocation where
  /-- The arguments after the program name. -/
  arguments : List String
  /-- The environment variable that names the configuration file. -/
  configVariable : Option String := none
  /-- The environment variable that chooses what is logged. -/
  logVariable : Option String := none
  environment : Environment
  input : List UInt8
  /-- What lies under a path. -/
  look : String → Lookup

/-- What a run leaves behind. -/
structure Result where
  status : Nat
  output : String
  errors : String
  deriving DecidableEq, Repr

/-- What ends a run before or after the console. -/
inductive Failure where
  | console (cause : ConsoleError)
  | unopenedScript (path reason : String)
  deriving DecidableEq, Repr

/-- The entry that a failure is logged with. -/
def Failure.entry : Failure → Log.Entry
  | console cause => Activity.failed cause.category cause.messageWithCause
  | unopenedScript path reason =>
    Activity.failed "Error" (s!"cannot open script {path}: {reason}")

/-- The filter of a run: warnings and errors unless the variable holds another filter. -/
def Invocation.filter (i : Invocation) : Log.Filter :=
  (i.logVariable.bind Log.Filter.parse?).getD (.upTo .warn)

/-- The path of the configuration. -/
def Invocation.configPath (i : Invocation) (line : CommandLine) : String :=
  line.config.getD i.environment.configPath

/-- What a configuration leaves of the standard input, which it may be read from. -/
def Invocation.inputLeft (i : Invocation) (line : CommandLine) : List UInt8 :=
  if i.look (i.configPath line) = .input then [] else i.input

/-- The configuration of a run: that of the file with the options over it, valid again. -/
def configure (i : Invocation) (line : CommandLine) : Except Failure Config :=
  let path := i.configPath line
  match Config.load path ((i.look path).withInput i.input) with
  | .error cause => .error (.console cause.toError)
  | .ok config =>
    let config := config.withProduct line.product
    match config.validate with
    | .error cause => .error (.console cause.toError)
    | .ok () => .ok config

/-- The items of the script that is named, or of the standard input. Opening a directory succeeds
and reading it fails. -/
def script (i : Invocation) (line : CommandLine) : Except Failure (List Console.Item) :=
  let path := line.script.getD "-"
  let left := i.inputLeft line
  if path = "-" then .ok (Console.itemsOfScript left)
  else
    match (i.look path).withInput left with
    | .file bytes => .ok (Console.itemsOfScript bytes)
    | .directory => .ok [.failure (.io Lookup.directory.reason)]
    | other => .error (.unopenedScript path other.reason)

/-- What the events of a run write to the error stream: the entries that pass the filter, and the
reports that belong there. `number` counts the lines read so far. -/
def errorText (filter : Log.Filter) (nameOf : LayerId → String) (format : OutputFormat) :
    (number : Nat) → List Console.Event → String
  | _, [] => ""
  | number, e :: rest =>
    let number := match e with
      | .read .. => number + 1
      | _ => number
    filter.print (Activity.ofEvent nameOf number e) ++ e.errorText format
      ++ errorText filter nameOf format number rest

/-- A run that a failure ends. -/
def fail (filter : Log.Filter) (output errors : String) (f : Failure) : Result :=
  ⟨1, output, errors ++ filter.print [f.entry]⟩

/-- The console over a script. -/
def runConsole (filter : Log.Filter) (line : CommandLine) (session : Session Daemon)
    (items : List Console.Item) (before : String) : Result :=
  let r := Console.run session items [] (.ok ())
  let output := r.outputText line.format (line.format == .text)
  let errors := before ++ errorText filter session.layerName line.format 0 r.events
  match r.result with
  | .ok () => ⟨0, output, errors⟩
  | .error cause => fail filter output errors (.console cause)

/-- A run with its options. -/
def runWith (i : Invocation) (line : CommandLine) : Result :=
  let filter := i.filter
  let loading := filter.print [Activity.loading (i.configPath line)]
  match configure i line with
  | .error f => fail filter "" loading f
  | .ok config =>
    match config.startDaemon with
    | .error cause => fail filter "" loading (.console cause)
    | .ok daemon =>
      let before := loading ++ filter.print (Activity.started config daemon)
      match config.rootMenu with
      | .error cause => fail filter "" before (.console (.config cause.message))
      | .ok root =>
        match script i line with
        | .error f => fail filter "" before f
        | .ok items =>
          runConsole filter line (.start root daemon config.console.product) items before

/-- A run from its arguments on. -/
def run (i : Invocation) : Result :=
  match CommandLine.parse i.arguments i.configVariable with
  | .ok line => runWith i line
  | .error stop =>
    let message := stop.message .stream i.configVariable
    if stop.isRequest then ⟨0, message, ""⟩ else ⟨2, "", message⟩

/-- The paths that a run may look at. -/
def paths (i : Invocation) : List String :=
  match CommandLine.parse i.arguments i.configVariable with
  | .ok line => i.configPath line :: line.script.toList
  | .error _ => []

end DaemonConsole.Program
