/-
The command line.

Arguments are taken from left to right. An option takes its value from behind an equals sign or from
the next argument, which must not look like an option itself; a value is examined when the next
option or the end is reached. After `--` nothing may follow.

* `CommandLine.parse`: the options, or what stops the program;
* `Stop.message`: what is shown then, where arguments appear without the control sequences that they
  hold.
-/
import DaemonConsole.Console.Rendering
import DaemonConsole.Text.Terminal

namespace DaemonConsole

/-- An option that takes a value. -/
inductive ValueOption where
  | config
  | product
  | script
  | output
  deriving DecidableEq, Repr

/-- How an option and its value are shown. -/
def ValueOption.display : ValueOption → String
  | config => "--config <PATH>"
  | product => "--product <NAME>"
  | script => "--script <PATH>"
  | output => "--output <FORMAT>"

/-- The option with a name. -/
def ValueOption.ofName? : String → Option ValueOption
  | "config" => some config
  | "product" => some product
  | "script" => some script
  | "output" => some output
  | _ => none

/-- What stops the program before it starts. -/
inductive Stop where
  | help
  | version
  | unknownArgument (argument : String)
  | missingValue (option : ValueOption)
  | badValue (option : ValueOption) (value reason : String)
  | repeated (option : String)
  | surplusValue (option value : String)
  deriving DecidableEq, Repr

/-- The options of a run. -/
structure CommandLine where
  config : Option String := none
  product : Option String := none
  script : Option String := none
  output : Option OutputFormat := none
  noHistory : Bool := false
  deriving DecidableEq, Repr

namespace CommandLine

/-- The format of reports, plain text unless another one is asked for. -/
def format (c : CommandLine) : OutputFormat :=
  c.output.getD .text

/-- Sets an option that takes a path; a path is not empty. -/
def path (option : ValueOption) (value : String) : Except Stop String :=
  if value = "" then .error (.missingValue option) else .ok value

/-- Sets an option, which must not be set yet. -/
def assign (c : CommandLine) (option : ValueOption) (value : String) : Except Stop CommandLine :=
  let again : Except Stop CommandLine := .error (.repeated option.display)
  match option with
  | .config =>
    if c.config.isSome then again
    else (path option value).map fun value => { c with config := some value }
  | .product => if c.product.isSome then again else .ok { c with product := some value }
  | .script => if c.script.isSome then again else .ok { c with script := some value }
  | .output =>
    if c.output.isSome then again
    else
      match OutputFormat.parse? value with
      | some format => .ok { c with output := some format }
      | none => .error (.badValue option value (OutputFormat.refusal value))

/-- The options read so far; `pending` is the last option, whose value may still be missing, and
`closed` tells that `--` was read. -/
structure Reader where
  line : CommandLine := {}
  pending : Option (ValueOption × Option String) := none
  closed : Bool := false

namespace Reader

/-- Examines the pending option. -/
def settle (r : Reader) : Except Stop Reader :=
  match r.pending with
  | none => .ok r
  | some (option, none) => .error (.missingValue option)
  | some (option, some value) => do
    return { r with line := ← r.line.assign option value, pending := none }

/-- An option with the value behind its equals sign, or without one. -/
def takeOption (r : Reader) (option : ValueOption) : Option String → Except Stop Reader
  | none => do return { ← r.settle with pending := some (option, none) }
  | some value => do
    let r ← r.settle
    return { r with line := ← r.line.assign option value }

/-- An argument that starts with two hyphens, by its name and the value behind its equals sign. -/
def takeLong (r : Reader) (name : String) (attached : Option String) : Except Stop Reader :=
  match ValueOption.ofName? name, name, attached with
  | some option, _, attached => r.takeOption option attached
  | none, "no-history", none => do
    let r ← r.settle
    if r.line.noHistory then .error (.repeated "--no-history")
    else return { r with line := { r.line with noHistory := true } }
  | none, "help", none => do let _ ← r.settle; .error .help
  | none, "version", none => do let _ ← r.settle; .error .version
  | none, name, attached =>
    if name = "no-history" ∨ name = "help" ∨ name = "version" then
      .error (.surplusValue ("--" ++ name) (attached.getD ""))
    else .error (.unknownArgument ("--" ++ name))

/-- An argument that starts with one hyphen, by its first letter. -/
def takeShort (r : Reader) (letter : Char) : Except Stop Reader :=
  if letter = 'h' then do let _ ← r.settle; .error .help
  else if letter = 'V' then do let _ ← r.settle; .error .version
  else .error (.unknownArgument ("-" ++ String.singleton letter))

/-- An argument that looks like no option: the value of the option before it, if that lacks one. -/
def takeValue (r : Reader) (argument : String) : Except Stop Reader :=
  match r.pending with
  | some (option, none) => .ok { r with pending := some (option, some argument) }
  | _ => .error (.unknownArgument argument)

/-- Takes one argument. -/
def take (r : Reader) (argument : String) : Except Stop Reader :=
  if r.closed then .error (.unknownArgument argument)
  else
    match argument.toList with
    | ['-', '-'] => .ok { r with closed := true }
    | '-' :: '-' :: rest =>
      let name := String.ofList (rest.takeWhile (· ≠ '='))
      match rest.dropWhile (· ≠ '=') with
      | _ :: value => r.takeLong name (some (String.ofList value))
      | [] => r.takeLong name none
    | '-' :: letter :: _ => r.takeShort letter
    | _ => r.takeValue argument

end Reader

/-- Reads the arguments after the program name. `configVariable` is the environment variable that
stands in for the configuration path. -/
def parse (arguments : List String) (configVariable : Option String) :
    Except Stop CommandLine := do
  let r ← arguments.foldlM Reader.take {}
  let line := (← r.settle).line
  match line.config, configVariable with
  | none, some value => return { line with config := some (← path .config value) }
  | _, _ => return line

end CommandLine

/-- The name and version of the program. -/
def versionText : String := "stackctl 0.1.0"

/-- What the program is for. -/
def aboutText : String :=
  "Interactive management console for the stackd layered network daemon"

/-- What stands before an option without a letter. -/
def optionMargin : String := "      "

/-- What stands before a line of an explanation that is not its first. -/
def explanationMargin : String := String.ofList (List.replicate 25 ' ')

/-- The value of the environment variable for the configuration as the options explain it, up to the
name of the option behind it. Each of its lines stands below the first one. -/
def variableText (medium : Terminal.Medium) (configVariable : Option String) : String :=
  let value := (configVariable.getD "").replace "\n" ("\n" ++ explanationMargin)
  Terminal.visible medium (value ++ "]\n" ++ optionMargin)

/-- The options, one on a line. A control sequence that the value of the environment variable leaves
open ends at the name of the next option. -/
def helpText (medium : Terminal.Medium) (configVariable : Option String) : String :=
  Text.joinLines
    [aboutText, "", "Usage: stackctl [OPTIONS]", "", "Options:",
      optionMargin ++ "--config <PATH>    Config file path [env: STACKCTL_CONFIG="
        ++ variableText medium configVariable
        ++ "--product <NAME>   Product name shown in the prompt (overrides config)",
      "      --script <PATH>    Read console input from a file instead of the terminal "
        ++ "(use \"-\" for stdin)",
      "      --output <FORMAT>  Report format: text or json [default: text]",
      "      --no-history       Do not load or save command history",
      "  -h, --help             Print help",
      "  -V, --version          Print version"]

namespace Stop

/-- Whether the program was only asked about itself. -/
def isRequest : Stop → Bool
  | help => true
  | version => true
  | _ => false

/-- What leads over to the option that explains the others. -/
def hint : String := "\n\nFor more information, try '"

/-- The hint's end. -/
def hintEnd : String := "--help'.\n"

/-- What is shown in a medium. A piece of text that is not the program's own is shown without its
control sequences; one that it leaves open ends with the piece, and the reason goes on up to the
option in the hint. The help shows the environment variable for the configuration. -/
def message (medium : Terminal.Medium) (configVariable : Option String) : Stop → String
  | help => helpText medium configVariable ++ "\n"
  | version => versionText ++ "\n"
  | unknownArgument argument =>
    "error: unexpected argument '" ++ Terminal.visible medium argument ++ "' found" ++ hint
      ++ hintEnd
  | missingValue option =>
    "error: a value is required for '" ++ option.display ++ "' but none was supplied" ++ hint
      ++ hintEnd
  | badValue option value reason =>
    "error: invalid value '" ++ Terminal.visible medium value ++ "' for '" ++ option.display
      ++ "': " ++ Terminal.visible medium (reason ++ hint) ++ hintEnd
  | repeated option =>
    "error: the argument '" ++ option ++ "' cannot be used multiple times" ++ hint ++ hintEnd
  | surplusValue option value =>
    "error: unexpected value '" ++ Terminal.visible medium value ++ "' for '" ++ option
      ++ "' found; no more were expected" ++ hint ++ hintEnd

/-- The first line of what is shown as a text, where no variable appears; a carriage return before the
line feed belongs to its end. -/
def headline (s : Stop) : String :=
  let line := (s.message .text none).toList.takeWhile (· ≠ '\n')
  String.ofList (if line.getLast? = some '\r' then line.dropLast else line)

end Stop

end DaemonConsole
