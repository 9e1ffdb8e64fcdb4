/-
The program: it gathers what a run is given, runs, and writes what the run leaves behind.
-/
import DaemonConsole.Program.Run

namespace DaemonConsole

/-- The paths by which a system names the standard input. -/
def inputPaths : List String :=
  ["/dev/stdin", "/dev/fd/0", "/proc/self/fd/0", "/proc/thread-self/fd/0"]

/-- The number of an error of the system, which may be given with the opposite sign. -/
def errorNumber (code : UInt32) : UInt32 :=
  if code < 0x80000000 then code else 0 - code

/-- What the system's error about a path tells. A directory can be opened but not read, while a path
that goes on behind a file, is too long or leads over too many links cannot be opened. -/
def lookupOfError (code : UInt32) : Lookup :=
  match errorNumber code with
  | 6 => .noDevice
  | 20 => .notDirectory
  | 21 => .directory
  | 36 => .nameTooLong
  | 40 => .tooManyLinks
  | _ => .missing

/-- What lies under a path of the file system. -/
def lookUp (path : String) : IO Lookup := do
  if inputPaths.contains path then return .input
  else if path.contains '\x00' then return .holdsNul
  else
    try
      let bytes ← IO.FS.readBinFile path
      return .file bytes.toList
    catch
      | .inappropriateType _ code _ => return lookupOfError code
      | .invalidArgument _ code _ => return lookupOfError code
      | .noSuchThing _ code _ => return lookupOfError code
      | _ => return .missing

/-- Everything that is left in a stream. -/
partial def readAll (stream : IO.FS.Stream) (before : ByteArray) : IO ByteArray := do
  let bytes ← stream.read 65536
  if bytes.isEmpty then return before else readAll stream (before ++ bytes)

end DaemonConsole

open DaemonConsole in
/-- Runs the console over a script or the standard input. -/
def main (arguments : List String) : IO UInt32 := do
  let input ← readAll (← IO.getStdin) .empty
  let environment : Environment :=
    { home := (← IO.getEnv "HOME").getD ""
      stateHome := ← IO.getEnv "XDG_STATE_HOME"
      configHome := ← IO.getEnv "XDG_CONFIG_HOME" }
  let given : Program.Invocation :=
    { arguments
      configVariable := ← IO.getEnv "STACKCTL_CONFIG"
      logVariable := ← IO.getEnv "RUST_LOG"
      environment
      input := input.toList
      look := fun _ => .missing }
  let found ← (Program.paths given).mapM fun path => return (path, ← lookUp path)
  let result := Program.run { given with look := fun path => (found.lookup path).getD .missing }
  IO.print result.output
  IO.eprint result.errors
  return UInt32.ofNat result.status
