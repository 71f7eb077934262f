/-
# Storing records

Records are written to a temporary file in the output directory, which is then
moved over the output file in one step. So a reader of the output file finds
what was there before or all of the new content, and when a save fails nothing
is left behind but directories.

A save is a sequence of steps on the file tree, each of which may be the last
one before the program stops or another save goes on: name the output file,
make its directory, create the temporary file, write to it piece by piece,
move it. `save` takes all steps in a row.

A temporary file goes when what holds it is dropped. That is the writer while
the file is written, and the error itself when the file cannot be moved. So a
save ends when its result is dropped, and not before.

Key definitions: `Save`, `SaveState`, `Save.step`, `save`, `ensureDirectory`,
`saveValues`, `saveRecords`.
-/
import RuleHarvest.Rule.Encoding
import RuleHarvest.Store.OutputPath

namespace RuleHarvest

open Files

/-- Makes a directory and all that it stands in. -/
def ensureDirectory (t : FileTree) (directory : String) : FileTree × Except StoreError Unit :=
  match t.makeAll (.ofString directory) with
  | (t, none) => (t, .ok ())
  | (t, some fault) => (t, .error (.createDirectory directory fault))

/-! ### Temporary files -/

/-- How messages show the name of a temporary file: its last six characters are
random. -/
def shownTempName : String := ".tmpXXXXXX"

/-- Names for temporary files. -/
def tempName (n : Nat) : String := ".tmp" ++ String.ofList (List.replicate (6 - (toString n).length) '0') ++ toString n

/-- A name for a temporary file that no file of the directory has. -/
def freshTempName (t : FileTree) (directory : String) : String :=
  let taken (n : Nat) : Bool := (t.locate (.ofString (joinPath directory (tempName n)))).isOk
  tempName (((List.range (t.entries.length + 1)).find? fun n => !taken n).getD 0)

/-! ### Saves -/

/-- What is to be written: the directory and the name of the file, and its
content in the pieces in which it will be written. With a fault the content
ends before it is complete. -/
structure Save where
  directory : String
  filename : String
  pieces : List (List UInt8)
  fault : Option Json.WriteFault := none

/-- How far a save has come. It is `finished` when its result has been dropped;
until then an error about a file that could not be moved keeps this file. -/
inductive SaveState where
  | naming
  | preparing (path : String)
  | opening (path : String)
  | writing (path : String) (temp : Place) (pieces : List (List UInt8))
  | moving (path : String) (temp : Place)
  | finished (result : Except StoreError String)

/-- Gives up: the temporary file is taken away, with the writer, or with the error
when this is dropped in the end. -/
def Save.abandon (t : FileTree) (temp : Place) (e : StoreError) : FileTree × SaveState :=
  (t.remove temp, .finished (.error e))

/-- One step of a save. `name` is the name for a temporary file. -/
def Save.step (s : Save) (name : String) (t : FileTree) : SaveState → FileTree × SaveState
  | .naming =>
    match outputPath s.directory s.filename with
    | .ok path => (t, .preparing path)
    | .error e => (t, .finished (.error e))
  | .preparing path =>
    match ensureDirectory t s.directory with
    | (t, .ok ()) => (t, .opening path)
    | (t, .error e) => (t, .finished (.error e))
  | .opening path =>
    match t.createFile (.ofString (joinPath s.directory name)) with
    | .error fault => (t, .finished (.error (.io (joinPath s.directory shownTempName) fault)))
    | .ok (t, temp) => (t, .writing path temp s.pieces)
  | .writing path temp [] =>
    match s.fault with
    | none => (t, .moving path temp)
    | some fault => Save.abandon t temp (.encode fault)
  | .writing path temp (piece :: pieces) => (t.append temp piece, .writing path temp pieces)
  | .moving path temp =>
    match t.rename temp (.ofString path) with
    | .ok t => (t, .finished (.ok path))
    | .error fault => Save.abandon t temp (.persist fault)
  | .finished result => (t, .finished result)

/-- At most `n` steps in a row. -/
def Save.steps (s : Save) : Nat → FileTree × SaveState → FileTree × SaveState
  | 0, r => r
  | n + 1, (t, state) => Save.steps s n (s.step (freshTempName t s.directory) t state)

/-- The number of steps of a save that does not fail. -/
def Save.length (s : Save) : Nat := s.pieces.length + 5

/-- All steps of a save in a row, and the path that was written. -/
def save (t : FileTree) (s : Save) : FileTree × Except StoreError String :=
  match s.steps s.length (t, .naming) with
  | (t, .finished result) => (t, result)
  | (t, _) => (t, .error (.invalidFilename s.filename))

/-! ### What is saved -/

/-- The bytes in pieces of at most `n + 1`. -/
def piecesOf (n : Nat) (bytes : List UInt8) : List (List UInt8) :=
  match bytes with
  | [] => []
  | b :: bs => (b :: bs.take n) :: piecesOf n (bs.drop n)
termination_by bytes.length
decreasing_by simp only [List.length_drop, List.length_cons]; omega

/-- The content of an output file: the pretty text of a list and a line end. -/
def contentOf (values : List Json.Value) : Except Json.WriteFault (List UInt8) :=
  (Json.Value.list values).pretty.map fun text => Text.Utf8.encode (text.toList ++ ['\n'])

/-- The save of a content. -/
def Save.ofContent (directory filename : String) : Except Json.WriteFault (List UInt8) → Save
  | .ok bytes => { directory, filename, pieces := piecesOf 8191 bytes }
  | .error fault => { directory, filename, pieces := [], fault := some fault }

/-- Saves a list of values. -/
def saveValues (t : FileTree) (directory filename : String) (values : List Json.Value) :
    FileTree × Except StoreError String :=
  save t (.ofContent directory filename (contentOf values))

/-- Saves records. -/
def saveRecords (t : FileTree) (directory filename : String) (records : List Record) :
    FileTree × Except StoreError String :=
  saveValues t directory filename (records.map (·.toJson))

end RuleHarvest
