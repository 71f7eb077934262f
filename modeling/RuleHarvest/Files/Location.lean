/-
# Paths

A path is a text; slashes part its names. Empty names do not count, so `a//b`
is `a/b`. The name `.` stands for the directory it is in and `..` for the one
outside it; neither is resolved before the file tree is asked.

Key definitions: `Location`, `Location.ofString`, `ancestors`, `joinPath`.
-/
import RuleHarvest.Text.Blank

namespace RuleHarvest
namespace Files

/-- A path taken apart. -/
structure Location where
  /-- The path starts at the root, not at the working directory. -/
  absolute : Bool
  names : List String
  /-- A slash at the end: what is named must be a directory. -/
  trailing : Bool := false
deriving Repr, DecidableEq

namespace Location

/-- Reads a path. -/
def ofString (path : String) : Location where
  absolute := path.toList.head? = some '/'
  names := ((Text.runs (· ≠ '/') path.toList).map String.ofList)
  trailing := path.toList.getLast? = some '/'

/-- The empty path. -/
def isEmpty (l : Location) : Bool := !l.absolute && l.names.isEmpty

/-- The names that count when a path is made shorter: `.` counts only as the
first name of a relative path. -/
def significant (l : Location) : List String :=
  match l.absolute, l.names with
  | false, "." :: rest => "." :: rest.filter (· ≠ ".")
  | _, names => names.filter (· ≠ ".")

/-- A list without its last items, one fewer each time, down to nothing. -/
def shorter : List String → List (List String)
  | [] => [[]]
  | n :: ns => (shorter ns).map (n :: ·) ++ [[]]

/-- The path itself and the directories it stands in, inside out. The empty path
is left out. -/
def ancestors (l : Location) : List Location :=
  if l.isEmpty then []
  else l :: ((shorter l.significant.dropLast).map fun names => { l with names, trailing := false }).filter
    (!·.isEmpty)

end Location

/-- The path of a name in a directory. -/
def joinPath (directory name : String) : String :=
  match directory.toList.getLast? with
  | none => name
  | some '/' => directory ++ name
  | some _ => directory ++ "/" ++ name

end Files
end RuleHarvest
