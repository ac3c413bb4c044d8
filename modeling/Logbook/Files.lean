/-
# Files

Settings and themes may lie in files.  All that this library needs of a file system is a
function that reads the text of a path, or says why it cannot.
-/
import Logbook.Text.Cut

namespace Logbook

/-- Why a file cannot be read. -/
inductive FileError where
  | notFound
  | isDirectory
  deriving DecidableEq, Repr

/-- The text of an error. -/
def FileError.message : FileError → String
  | .notFound => "No such file or directory (os error 2)"
  | .isDirectory => "Is a directory (os error 21)"

/-- The texts of files by their paths. -/
abbrev Files := String → Except FileError String

namespace Files

/-- The parts of a path between slashes. -/
def components : List Char → List (List Char)
  | [] => [[]]
  | c :: rest =>
    if c = '/' then [] :: components rest
    else match components rest with
      | [] => [[c]]
      | first :: more => (c :: first) :: more

/-- The last part of a path that says anything. -/
def fileName? (path : String) : Option (List Char) :=
  let named := (components path.toList).filter fun part => part ≠ [] ∧ part ≠ ['.']
  named.getLast?.filter (· ≠ ['.', '.'])

/-- The name of a file without its extension.  A point at the front begins no extension. -/
def stem? (path : String) : Option String :=
  (fileName? path).map fun name =>
    match Text.cutLast '.' name with
    | some (c :: before, _) => String.ofList (c :: before)
    | _ => String.ofList name

end Files

end Logbook
