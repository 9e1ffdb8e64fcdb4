/-
Files by their paths.

* `Lookup`: what is found under a path;
* `FileTree.find`: a look-up in a tree of files, directories and links, where `.`, `..`, repeated
  slashes and links are resolved on the way;
* `Path.directoryObstacle?`, `Path.fileObstacle?`: what stands in the way of a new file and of the
  directories above it.
-/
namespace DaemonConsole

/-- What is found under a path. -/
inductive Lookup where
  | file (bytes : List UInt8)
  | directory
  /-- The standard input, of which only what is left can be read. -/
  | input
  /-- A device that cannot be opened. -/
  | noDevice
  | missing
  /-- The path goes on behind a file. -/
  | notDirectory
  /-- The path leads over more links than the system allows. -/
  | tooManyLinks
  /-- The path or one of its names is longer than the system allows. -/
  | nameTooLong
  /-- The path holds a NUL, with which the system takes a path to end. -/
  | holdsNul
  deriving DecidableEq, Repr

namespace Lookup

/-- The wording of the errors that the system gives. -/
def reason : Lookup → String
  | file _ => ""
  | input => ""
  | directory => "Is a directory (os error 21)"
  | noDevice => "No such device or address (os error 6)"
  | missing => "No such file or directory (os error 2)"
  | notDirectory => "Not a directory (os error 20)"
  | tooManyLinks => "Too many levels of symbolic links (os error 40)"
  | nameTooLong => "File name too long (os error 36)"
  | holdsNul => "file name contained an unexpected NUL byte"

/-- What can be read when only a part of the standard input is left. -/
def withInput (left : List UInt8) : Lookup → Lookup
  | input => file left
  | other => other

end Lookup

namespace Path

/-- The names in a path, cut at its slashes. -/
def cutSlashes : List Char → List (List Char)
  | [] => [[]]
  | c :: cs =>
    if c = '/' then [] :: cutSlashes cs
    else
      match cutSlashes cs with
      | [] => [[c]]
      | piece :: rest => (c :: piece) :: rest

/-- The names in a path, in their order; an absolute path starts with an empty one. -/
def pieces (path : String) : List String :=
  (cutSlashes path.toList).map String.ofList

/-- Whether a name is longer than the 255 bytes that a directory holds. -/
def isLongName (name : String) : Bool :=
  255 < name.utf8ByteSize

/-- Whether a path is longer than the 4095 bytes that the system takes. -/
def isLong (path : String) : Bool :=
  4095 < path.utf8ByteSize

end Path

/-- What stands at a place in a tree. -/
inductive Entry where
  | found (what : Lookup)
  /-- Another place, by the names on the way to it from the root. -/
  | link (target : List String)
  deriving DecidableEq, Repr

/-- What is there, by the names on the way to it from the root. -/
structure FileTree where
  entries : List (List String × Entry)
  /-- The directory where paths start that are not absolute. -/
  current : List String

namespace FileTree

/-- What stands at a place. A directory is there too when it is the root, or when something lies
below it. -/
def entry (t : FileTree) (place : List String) : Entry :=
  match t.entries.find? (·.1 = place) with
  | some (_, e) => e
  | none =>
    if place = [] ∨ t.entries.any (place.isPrefixOf ·.1) then .found .directory
    else .found .missing

/-- How many links a path may lead over. -/
def maxLinks : Nat := 40

/-- Follows names from a place on, over at most `links` links. -/
def follow (t : FileTree) (links : Nat) (place names : List String) : Lookup :=
  match t.entry place with
  | .link target =>
    match links with
    | 0 => .tooManyLinks
    | links + 1 => t.follow links [] (target ++ names)
  | .found what =>
    match names with
    | [] => what
    | name :: rest =>
      match what with
      | .directory =>
        if name = "" ∨ name = "." then t.follow links place rest
        else if name = ".." then t.follow links place.dropLast rest
        else if Path.isLongName name then .nameTooLong
        else t.follow links (place ++ [name]) rest
      | .missing => .missing
      | _ => .notDirectory
termination_by (links, names.length)

/-- What is found under a path. -/
def find (t : FileTree) (path : String) : Lookup :=
  if Path.isLong path then .nameTooLong
  else
    match Path.pieces path with
    | [""] => .missing
    | "" :: rest => t.follow maxLinks [] rest
    | rest => t.follow maxLinks t.current rest

end FileTree

/-! ### New files -/

namespace Path

/-- Whether a name stays in the directory where it stands. -/
def isIdle (name : String) : Bool :=
  name = "" || name = "."

/-- A path as the directories above a file, the file's name, and the empty names and single dots
that stand behind it. No name is left of a path that stays in the directory where it starts. -/
def splitFile (path : String) : List String × Option String × List String :=
  let names := (pieces path).reverse
  match names.dropWhile isIdle with
  | [] => ([], none, names.takeWhile isIdle)
  | name :: above => ((above.dropWhile isIdle).reverse, some name, names.takeWhile isIdle)

/-- What stands in the way of making directories one below the other under a directory. -/
def directoryObstacle? (directory : String) (names : List String) : Option Lookup :=
  if names.any (·.contains '\x00') then some .holdsNul
  else if names.any isLongName ∨ isLong (String.intercalate "/" (directory :: names)) then
    some .nameTooLong
  else none

/-- What stands in the way of a new file under a directory when all directories above it are there.
Slashes behind its name ask for a directory whatever the name is, and a dot behind it asks for one
that is there already. -/
def fileObstacle? (directory path : String) : Option Lookup :=
  let (_, name, behind) := splitFile path
  if path.contains '\x00' then some .holdsNul
  else if isLong (directory ++ "/" ++ path) then some .nameTooLong
  else
    match name with
    | none => some .directory
    | some name =>
      if name = ".." ∨ (behind ≠ [] ∧ behind.all (· = "")) then some .directory
      else if isLongName name then some .nameTooLong
      else if behind = [] then none
      else some .missing

end Path

end DaemonConsole
