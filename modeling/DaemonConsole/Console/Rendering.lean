/-
What a run writes, and what its source is told.

* `OutputFormat`: plain text or one JSON object for each report;
* `Event.outputText`, `Event.errorText`: what an event writes to the two streams;
* `Event.sourceCall?`: what an event tells the source.
-/
import DaemonConsole.Console.Loop
import DaemonConsole.Text.Lowercase

namespace DaemonConsole

/-- How reports are written. -/
inductive OutputFormat where
  | text
  | json
  deriving DecidableEq, Repr

/-- The format of a word, in any letter case. -/
def OutputFormat.parse? (s : String) : Option OutputFormat :=
  match Text.lowercase s with
  | "text" => some .text
  | "json" => some .json
  | _ => none

/-- How a word that names no format is refused. -/
def OutputFormat.refusal (s : String) : String :=
  s!"Invalid output format: {s}. Expected: text or json"

namespace Report

/-- What a report writes to the standard output. -/
def outputText (format : OutputFormat) (r : Report) : String :=
  match format with
  | .text => if r.isError then "" else r.message ++ "\n"
  | .json => r.toJson.write ++ "\n"

/-- What a report writes to the error stream. -/
def errorText (format : OutputFormat) (r : Report) : String :=
  match format with
  | .text => if r.isError then r.message ++ "\n" else ""
  | .json => ""

end Report

namespace Console

/-- The reports that an event tells. -/
def Event.reports : Event → List Report
  | interrupted _ => [.interrupted]
  | dispatched _ outcome => outcome.reports
  | _ => []

/-- What an event writes to the standard output; a source that echoes repeats every line behind its
prompt. -/
def Event.outputText (format : OutputFormat) (echo : Bool) (e : Event) : String :=
  match e with
  | read prompt line _ => if echo then prompt ++ line ++ "\n" else ""
  | e => String.join (e.reports.map (Report.outputText format))

/-- What an event writes to the error stream. -/
def Event.errorText (format : OutputFormat) (e : Event) : String :=
  String.join (e.reports.map (Report.errorText format))

/-- What a source can be told. -/
inductive SourceCall where
  | readLine (prompt : String)
  | addHistory (line : String)
  | setCompletions (names : List String)
  | finish
  deriving DecidableEq, Repr

/-- What an event tells the source. -/
def Event.sourceCall? : Event → Option SourceCall
  | completions names => some (.setCompletions names)
  | asked prompt => some (.readLine prompt)
  | history line => some (.addHistory line)
  | finished => some .finish
  | _ => none

namespace Run

variable {σ : Type}

/-- The standard output of a run. -/
def outputText (r : Run σ) (format : OutputFormat) (echo : Bool) : String :=
  String.join (r.events.map (Event.outputText format echo))

/-- The error stream of a run. -/
def errorText (r : Run σ) (format : OutputFormat) : String :=
  String.join (r.events.map (Event.errorText format))

/-- What the source was told, in order. -/
def sourceCalls (r : Run σ) : List SourceCall :=
  r.events.filterMap Event.sourceCall?

end Run

end Console

end DaemonConsole
