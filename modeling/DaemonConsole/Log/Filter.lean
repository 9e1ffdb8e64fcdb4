/-
Filters: which log entries are written.

A filter is a list of directives. Of those that are about an entry the most specific one decides,
and an entry that none is about does not pass.

* `Log.Filter.parse?`: a filter from its text;
* `Log.Filter.lets`: whether an entry passes.
-/
import DaemonConsole.Log.Directive

namespace DaemonConsole.Log

/-- A filter. -/
structure Filter where
  directives : List Directive
  deriving DecidableEq, Repr

namespace Filter

/-- A filter with one level for every target. -/
def upTo (l : Level) : Filter := ⟨[⟨{}, l.rank⟩]⟩

/-- Cuts a text at commas. -/
def cutCommas : List Char → List (List Char)
  | [] => [[]]
  | c :: cs =>
    if c = ',' then [] :: cutCommas cs
    else
      match cutCommas cs with
      | [] => [[c]]
      | piece :: rest => (c :: piece) :: rest

/-- A filter from directives with commas between them; nothing passes one without directives. -/
def parse? (s : String) : Option Filter := do
  let pieces := (cutCommas s.toList).filter (· ≠ [])
  return ⟨← pieces.mapM Directive.parse?⟩

/-- The more specific one of two directives, the later one of two alike. -/
def decisive (best : Option Directive) (d : Directive) : Option Directive :=
  match best with
  | none => some d
  | some kept => if kept.yieldsTo d then some d else some kept

/-- Whether an entry passes. -/
def lets (f : Filter) (e : Entry) : Bool :=
  match (f.directives.filter (·.applies e)).foldl decisive none with
  | some d => e.level.rank ≤ d.greatest
  | none => false

/-- The lines of the entries that pass. -/
def print (f : Filter) (entries : List Entry) : String :=
  String.join ((entries.filter f.lets).map Entry.print)

end Filter

end DaemonConsole.Log
