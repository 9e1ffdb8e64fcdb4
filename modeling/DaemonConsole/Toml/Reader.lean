/-
TOML documents.

* `Toml.parse?`: the data of a document, or nothing when its text is malformed or defines something
  twice.
-/
import DaemonConsole.Toml.Scalar
import DaemonConsole.Toml.Tree

namespace DaemonConsole.Toml

/-! ### Values -/

mutual

/-- Takes a value at a nesting depth; `fuel` bounds the number of steps. -/
def value? : (fuel depth : Nat) → List Char → Option (Datum × List Char)
  | 0, _, _ => none
  | fuel + 1, depth, cs =>
    match cs with
    | '[' :: rest =>
      if maxDepth ≤ depth + 1 then none
      else (items? fuel (depth + 1) rest).map fun (items, rest) => (.list items, rest)
    | '{' :: rest =>
      if maxDepth ≤ depth + 1 then none
      else
        match skipBlanks rest with
        | '}' :: rest => some (.table [], rest)
        | rest => do
          let (entries, rest) ← entries? fuel (depth + 1) rest
          let node ← Node.empty.insertAll? entries
          return (node.toDatum, rest)
    | cs =>
      match string? cs with
      | some (s, rest) => some (.text s, rest)
      | none => plain? cs

/-- Takes the items of a list up to its closing bracket; a comma may follow the last one. -/
def items? : (fuel depth : Nat) → List Char → Option (List Datum × List Char)
  | 0, _, _ => none
  | fuel + 1, depth, cs =>
    match skipLines cs.length cs with
    | ']' :: rest => some ([], rest)
    | cs =>
      match value? fuel depth cs with
      | none => none
      | some (item, rest) =>
        match skipLines rest.length rest with
        | ']' :: rest => some ([item], rest)
        | ',' :: rest => (items? fuel depth rest).map fun (items, rest) => (item :: items, rest)
        | _ => none

/-- Takes the entries of an inline table up to its closing brace. -/
def entries? : (fuel depth : Nat) → List Char → Option (List Entry × List Char)
  | 0, _, _ => none
  | fuel + 1, depth, cs =>
    match key? cs with
    | some ((parents, key), '=' :: rest) =>
      match value? fuel depth (skipBlanks rest) with
      | none => none
      | some (value, rest) =>
        let entry : Entry := ⟨parents, key, value⟩
        match skipBlanks rest with
        | '}' :: rest => some ([entry], rest)
        | ',' :: rest => (entries? fuel depth rest).map fun (es, rest) => (entry :: es, rest)
        | _ => none
    | _ => none

end

/-! ### Documents -/

/-- The header of a section. -/
inductive Header where
  | root
  | table (parents : List String) (key : String)
  | item (parents : List String) (key : String)

/-- Adds a finished section to the document. -/
def Header.close? (h : Header) (document : Node) (entries : List Entry) : Option Node :=
  match h with
  | root => document.insertAll? entries
  | table parents key => document.openTable? parents key entries
  | item parents key => document.openItem? parents key entries

/-- Takes a header and the end of its line. -/
def header? : List Char → Option (Header × List Char)
  | '[' :: '[' :: rest => do
    let ((parents, key), rest) ← key? rest
    let rest ← char? ']' (← char? ']' rest)
    return (.item parents key, ← lineEnd? rest)
  | '[' :: rest => do
    let ((parents, key), rest) ← key? rest
    return (.table parents key, ← lineEnd? (← char? ']' rest))
  | _ => none

/-- Takes a key, its value and the end of the line. -/
def entry? (cs : List Char) : Option (Entry × List Char) := do
  let ((parents, key), rest) ← key? cs
  let rest := skipBlanks (← char? '=' rest)
  let (value, rest) ← value? (2 * rest.length + 2) 0 rest
  return (⟨parents, key, value⟩, ← lineEnd? rest)

/-- Reads the lines of a document. `entries` are those of the section in progress, the last one
first; `fuel` bounds the number of lines. -/
def lines? : (fuel : Nat) → (document : Node) → Header → (entries : List Entry) → List Char →
    Option Node
  | 0, _, _, _, _ => none
  | fuel + 1, document, header, entries, cs =>
    match skipBlanks cs with
    | [] => header.close? document entries.reverse
    | '[' :: rest =>
      match header? ('[' :: rest), header.close? document entries.reverse with
      | some (next, rest), some document => lines? fuel document next [] rest
      | _, _ => none
    | '#' :: rest => (lineEnd? ('#' :: rest)).bind (lines? fuel document header entries)
    | '\n' :: rest => lines? fuel document header entries rest
    | '\r' :: rest => (newline? ('\r' :: rest)).bind (lines? fuel document header entries)
    | cs =>
      match entry? cs with
      | some (entry, rest) => lines? fuel document header (entry :: entries) rest
      | none => none

/-- The text after a byte order mark. -/
def skipMark : List Char → List Char
  | '\uFEFF' :: rest => rest
  | rest => rest

/-- The data of a document. -/
def parse? (s : String) : Option Datum :=
  let cs := skipMark s.toList
  (lines? (cs.length + 1) .empty .root [] cs).map Node.toDatum

end DaemonConsole.Toml
