/-
Sessions: where the operator is and what a typed line does.

A session is at the root or inside one layer, like a directory tree of depth one. Its active menu
is part of its place. Its prompt is kept beside the place and written where the place is.

* `Session.enterRoot`, `Session.load`: going to the root, and from there into a layer;
* `Session.interpret`: what a line means in the present place;
* `Session.perform`: carrying the meaning out over the control channel;
* `Session.submit`: both for one line, giving the reports and whether the console goes on.

A session changes place only by entering a layer whose menu was fetched and by leaving one.
-/
import DaemonConsole.Channel.Basic
import DaemonConsole.Menu.Completion
import DaemonConsole.Report

namespace DaemonConsole

/-- Whether the console reads another line. -/
inductive Flow where
  | proceed
  | leave
  deriving DecidableEq, Repr

/-- What a line led to. -/
structure Outcome where
  reports : List Report
  flow : Flow
  deriving DecidableEq, Repr

namespace Outcome

/-- Nothing to tell. -/
def quiet : Outcome := ⟨[], .proceed⟩

/-- One report. -/
def ofReport (r : Report) : Outcome := ⟨[r], .proceed⟩

/-- The end of the console. -/
def exit : Outcome := ⟨[], .leave⟩

end Outcome

/-- Where a session is. The menu of a layer is kept only while the session is inside it. -/
inductive Place where
  | root
  | inside (layer : LayerId) (menu : Menu)
  deriving DecidableEq, Repr

/-- A place without its menu. -/
inductive Location where
  | root
  | layer (id : LayerId)
  deriving DecidableEq, Repr

/-- What a line means. -/
inductive Action where
  /-- A blank line. -/
  | none
  /-- The exit word at the root. -/
  | exit
  /-- The exit word inside a layer. -/
  | ascend
  /-- A word that names nothing in the active menu. -/
  | unresolved (name : String)
  /-- The name of a layer, typed at the root; what follows it is ignored. -/
  | enter (layer : LayerId)
  /-- The name of a command inside a layer with its arguments. -/
  | run (layer : LayerId) (command : Command) (args : String)
  deriving DecidableEq, Repr

/-- The state of the console over a channel with state `σ`. -/
structure Session (σ : Type) where
  rootMenu : Menu
  product : String
  place : Place
  /-- What the operator sees before typing. -/
  prompt : String
  channel : σ

namespace Session

variable {σ : Type}

/-- A session at the root. -/
def start (rootMenu : Menu) (channel : σ) (product : String) : Session σ :=
  ⟨rootMenu, product, .root, product ++ "# ", channel⟩

/-- Where the session is. -/
def location (s : Session σ) : Location :=
  match s.place with
  | .root => .root
  | .inside layer _ => .layer layer

/-- The menu that typed words are looked up in. -/
def activeMenu (s : Session σ) : Menu :=
  match s.place with
  | .root => s.rootMenu
  | .inside _ menu => menu

/-- The name of a layer in the root menu; a layer that is not listed shows as a question mark. -/
def layerName (s : Session σ) (layer : LayerId) : String :=
  match s.rootMenu.findById? layer with
  | some c => c.name
  | none => "?"

/-- The prompt inside a layer: the product, and the name of the layer in brackets. -/
def layerPrompt (s : Session σ) (layer : LayerId) : String :=
  s.product ++ "[" ++ s.layerName layer ++ "]# "

/-- Goes to the root. -/
def enterRoot (s : Session σ) : Session σ :=
  { s with place := .root, prompt := s.product ++ "# " }

/-- The completions of a stem in the active menu. -/
def complete (s : Session σ) (stem : String) : List String :=
  Completion.candidates s.activeMenu stem

/-- What a line means in the present place. The exit word goes before every name of a menu. -/
def interpret (s : Session σ) (line : String) : Action :=
  match Text.splitFirst line with
  | none => .none
  | some (word, rest) =>
    if word = exitWord then
      match s.place with
      | .root => .exit
      | .inside .. => .ascend
    else
      match s.activeMenu.find? word with
      | none => .unresolved word
      | some command =>
        match s.place with
        | .root => .enter command.id
        | .inside layer _ => .run layer command rest

/-- What a finished command leads to. -/
def outcomeOf (command : Command) : Except ExecError String → Outcome
  | .ok text => if text = "" then .quiet else .ofReport (.output text)
  | .error (.command reason) =>
    .ofReport (.commandFailed command.name reason command.description)
  | .error (.transport reason) => .ofReport (.sendFailed reason)

/-- Goes into a layer. The session is at the root until the menu arrives, and stays there if it does
not. -/
def load [ControlChannel σ] (s : Session σ) (layer : LayerId) : Outcome × Session σ :=
  let s := s.enterRoot
  match ControlChannel.getMenu s.channel layer with
  | (.ok menu, channel) =>
    (.quiet, { s with place := .inside layer menu, prompt := s.layerPrompt layer, channel })
  | (.error fault, channel) =>
    (.ofReport (.loadFailed (s.layerName layer) fault.message), { s with channel })

/-- Carries out what a line means. -/
def perform [ControlChannel σ] (s : Session σ) : Action → Outcome × Session σ
  | .none => (.quiet, s)
  | .exit => (.exit, s)
  | .ascend => (.quiet, s.enterRoot)
  | .unresolved name => (.ofReport (.unknownCommand name), s)
  | .enter layer => s.load layer
  | .run layer command args =>
    let (answer, channel) := ControlChannel.execute s.channel layer command.id args
    (outcomeOf command answer, { s with channel })

/-- Handles one line. -/
def submit [ControlChannel σ] (s : Session σ) (line : String) : Outcome × Session σ :=
  s.perform (s.interpret line)

/-- Handles lines one after another and gives what each led to. -/
def submitAll [ControlChannel σ] (s : Session σ) : List String → List Outcome × Session σ
  | [] => ([], s)
  | line :: rest =>
    let (outcome, next) := s.submit line
    let (outcomes, last) := next.submitAll rest
    (outcome :: outcomes, last)

end Session

end DaemonConsole
