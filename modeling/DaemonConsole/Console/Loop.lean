/-
The console loop.

The loop asks its source for a line, hands the line to the session and tells the reports, until the
session says to leave, the source runs dry or reading fails. Everything that happens is kept in
order as a list of events; what the operator sees and what the source was told are read off this
list.

* `Console.run`: the events of a whole run, its result, and what is left of the session, the lines
  and the interrupts;
* `Console.awaitCommand`: the interrupts that arrive while a command is in flight.
-/
import DaemonConsole.Error
import DaemonConsole.Session

namespace DaemonConsole.Console

/-- What a source holds: lines, and points where reading fails. -/
inductive Item where
  /-- A line, and whether its bytes were well-formed text. -/
  | line (text : String) (wellFormed : Bool)
  | failure (cause : ConsoleError)
  deriving DecidableEq, Repr

/-- What the operator does while a command is in flight. -/
inductive Interrupt where
  /-- An interrupt, which is acknowledged while the command goes on. -/
  | fire
  /-- Interrupts cannot be listened for; the command is awaited without them. -/
  | unavailable (reason : String)
  deriving DecidableEq, Repr

/-- One thing that happens in a run. -/
inductive Event where
  /-- The console starts with a prompt. -/
  | started (prompt : String)
  /-- The source is told the names that can be completed. -/
  | completions (names : List String)
  /-- The source is asked for a line. -/
  | asked (prompt : String)
  /-- The source gave a line. -/
  | read (prompt line : String) (wellFormed : Bool)
  /-- The source is told to remember a line. -/
  | history (line : String)
  /-- The operator interrupted the command of a line. -/
  | interrupted (line : String)
  /-- Interrupts could not be listened for. -/
  | interruptsUnavailable (reason : String)
  /-- A line was carried out. -/
  | dispatched (action : Action) (outcome : Outcome)
  /-- The source has no more lines. -/
  | ended
  /-- The operator left the console. -/
  | left
  /-- The source is told to finish. -/
  | finished
  deriving DecidableEq, Repr

/-- What happens when an item is read behind a prompt: the source is asked, and gives the line if
there is one. -/
def Item.reading (prompt : String) : Item → List Event
  | line text wellFormed => [.asked prompt, .read prompt text wellFormed]
  | failure _ => [.asked prompt]

/-- A run from its start to its end. -/
structure Run (σ : Type) where
  events : List Event
  result : Except ConsoleError Unit
  session : Session σ
  unread : List Item
  interrupts : List Interrupt

/-- The same run with events before it. -/
def Run.after {σ : Type} (events : List Event) (r : Run σ) : Run σ :=
  { r with events := events ++ r.events }

/-- The interrupts that are taken while the command of a line is in flight: all of them up to the
first failure to listen, which is taken too. -/
def awaitCommand (line : String) : List Interrupt → List Event × List Interrupt
  | [] => ([], [])
  | .fire :: rest =>
    let (events, rest) := awaitCommand line rest
    (.interrupted line :: events, rest)
  | .unavailable reason :: rest => ([.interruptsUnavailable reason], rest)

/-- The interrupts that are taken while a line is carried out: only a command over a channel that
takes time leaves room for them. -/
def interruptsDuring {σ : Type} [ControlChannel σ] (s : Session σ) (line : String)
    (queue : List Interrupt) : List Event × List Interrupt :=
  match s.interpret line with
  | .run .. => if ControlChannel.takesTime s.channel then awaitCommand line queue else ([], queue)
  | _ => ([], queue)

/-- The loop from a session on. `finish` is what the source answers when it is told to finish. -/
def loop {σ : Type} [ControlChannel σ] (finish : Except ConsoleError Unit) (s : Session σ)
    (queue : List Interrupt) : List Item → Run σ
  | [] => ⟨[.asked s.prompt, .ended, .finished], finish, s, [], queue⟩
  | .failure cause :: rest =>
    ⟨(Item.failure cause).reading s.prompt, .error cause, s, rest, queue⟩
  | .line text wellFormed :: rest =>
    let reading := (Item.line text wellFormed).reading s.prompt
    let line := Text.trim text
    if line = "" then (loop finish s queue rest).after reading
    else
      let (interrupts, queue) := interruptsDuring s line queue
      let (outcome, next) := s.submit line
      let handling :=
        reading ++ .history line :: interrupts ++ [.dispatched (s.interpret line) outcome]
      match outcome.flow with
      | .leave => ⟨handling ++ [.left, .finished], finish, next, rest, queue⟩
      | .proceed =>
        (loop finish next queue rest).after (handling ++ [.completions next.activeMenu.names])

/-- A run of the console over the items of a source. -/
def run {σ : Type} [ControlChannel σ] (s : Session σ) (items : List Item)
    (queue : List Interrupt) (finish : Except ConsoleError Unit) : Run σ :=
  (loop finish s queue items).after [.started s.prompt, .completions s.activeMenu.names]

end DaemonConsole.Console
