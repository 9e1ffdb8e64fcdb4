/-
Where the console keeps its files.

The configuration lies under the user's configuration directory, the history and the log under the
state directory. Both directories are named by environment variables, which count only when they
hold an absolute path, and are otherwise fixed places under the home directory.
-/
namespace DaemonConsole

/-- The environment variables that name directories. -/
structure Environment where
  home : String
  stateHome : Option String := none
  configHome : Option String := none
  deriving DecidableEq, Repr

namespace Path

/-- Whether a path starts at the root. -/
def isAbsolute (path : String) : Bool :=
  path.toList.head? == some '/'

/-- A relative path under another one, with one slash between them. -/
def join (path name : String) : String :=
  if path = "" then name
  else if path.toList.getLast? = some '/' then path ++ name
  else path ++ "/" ++ name

end Path

namespace Environment

/-- A directory named by a variable, or a fixed one under the home directory. -/
def directory (e : Environment) (setting : Option String) (underHome : String) : String :=
  match setting with
  | some path => if Path.isAbsolute path then path else Path.join e.home underHome
  | none => Path.join e.home underHome

/-- The directory of state files. -/
def stateDirectory (e : Environment) : String :=
  e.directory e.stateHome ".local/state"

/-- The directory of configuration files. -/
def configDirectory (e : Environment) : String :=
  e.directory e.configHome ".config"

/-- The file that the interactive console logs to. -/
def logPath (e : Environment) : String :=
  Path.join (Path.join e.stateDirectory "stackctl") "stackctl.log"

/-- The configuration file, when none is named. -/
def configPath (e : Environment) : String :=
  Path.join (Path.join e.configDirectory "stackctl") "config.toml"

/-- The history file, when the configuration names none. -/
def historyPath (e : Environment) : String :=
  Path.join (Path.join e.stateDirectory "stackctl") "history"

end Environment

end DaemonConsole
