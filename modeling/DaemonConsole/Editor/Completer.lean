/-
Completion inside an edited line.

Only the first word of a line is a command name, so the editor completes the word that the cursor
stands in as long as no blank separates it from the start of the line; blanks before it are kept.
-/
import DaemonConsole.Menu.Completion
import DaemonConsole.Text.Bytes

namespace DaemonConsole.Editor

/-- Where the replacement starts, in bytes, and the candidates for the text from there to
`position`. Behind a complete first word nothing is offered. -/
def complete (m : Menu) (line : String) (position : Nat) : Nat × List String :=
  let typed := Text.takeBytes position line.toList
  let word := Text.trimStartChars typed
  if word.any Text.isBlank then (position, [])
  else
    (Text.byteLength typed - Text.byteLength word,
      Completion.Rounds.drain m (String.ofList word) (m.size + 2) {} 0)

end DaemonConsole.Editor
