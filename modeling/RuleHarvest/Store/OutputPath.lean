/-
# Names of output files

An output file stands directly in its directory. Its name is the given one
without white space around it, and ends in `.json`: the extension is added
unless the name has it already, in whatever case. A name that starts with its
only dot has no extension.

Key definitions: `StoreError`, `hasExtension`, `outputName?`, `outputPath`.
-/
import RuleHarvest.Files.FileTree
import RuleHarvest.Json.Value
import RuleHarvest.Text.Quoted

namespace RuleHarvest

open Files

/-- Why records are not stored. -/
inductive StoreError where
  | invalidFilename (name : String)
  | createDirectory (path : String) (fault : FileFault)
  | io (path : String) (fault : FileFault)
  | encode (fault : Json.WriteFault)
  | persist (fault : FileFault)
deriving Repr, DecidableEq

def StoreError.message : StoreError → String
  | .invalidFilename name => "invalid output filename: " ++ Text.quoted name
  | .createDirectory path fault =>
    "cannot create output directory " ++ path ++ ": " ++ fault.message
  | .io path fault => "I/O error: " ++ fault.message ++ " at path " ++ Text.quoted path
  | .encode fault => "JSON encode error: " ++ fault.message
  | .persist fault =>
    "cannot move output into place: failed to persist temporary file: " ++ fault.message

/-- What stands before and after the last dot of a name. -/
def splitAtLastDot (name : List Char) : Option (List Char × List Char) :=
  let after := (name.reverse.takeWhile (· ≠ '.')).reverse
  if after.length = name.length then none
  else some (name.take (name.length - after.length - 1), after)

/-- The name has the extension `json`, in whatever case, and something before
it. -/
def hasExtension (name : List Char) : Bool :=
  match splitAtLastDot name with
  | some (stem, extension) => !stem.isEmpty && extension.map Char.toLower = "json".toList
  | none => false

/-- A name that can stand in a directory on its own. -/
def isPlainName (name : List Char) : Bool :=
  !name.isEmpty && !name.contains '/' && !name.contains '\\' && name ≠ ['.'] && name ≠ ['.', '.']

/-- The name of the output file. -/
def outputName? (filename : String) : Option String :=
  let name := Text.trim filename.toList
  if isPlainName name then
    some (String.ofList (if hasExtension name then name else name ++ ".json".toList))
  else none

/-- The path of the output file in a directory. -/
def outputPath (directory filename : String) : Except StoreError String :=
  match outputName? filename with
  | some name => .ok (joinPath directory name)
  | none => .error (.invalidFilename filename)

end RuleHarvest
