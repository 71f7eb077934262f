/-
# The command

The program on the disk of the machine. It reads its arguments and the
variables of the environment, goes through the stages, prints how the run
ended and gives back the exit code.

The command opens no connections: to it every page is unreachable, and only a
run without pages gets as far as an output file. Where a network is at hand,
`World` is what takes it in.
-/
import RuleHarvest.Run.Program

namespace RuleHarvest

open Files CommandLine

namespace Disk

/-- The fault that an error of the operating system stands for, if it is one of
those that a run reports. -/
def fault? : IO.Error → Option FileFault
  | .noFileOrDirectory .. => some .notFound
  | .alreadyExists .. => some .exists
  | .inappropriateType _ code _ => some (if code = 21 then .isDirectory else .notDirectory)
  | .invalidArgument _ code _ => some (if code = 36 then .nameTooLong else .invalidArgument)
  | _ => none

/-- Tries an action. An error that a run does not report goes on upwards. -/
def attempt {α : Type} (action : IO α) : IO (Except FileFault α) := do
  match ← action.toBaseIO with
  | .ok a => pure (.ok a)
  | .error e =>
    match fault? e with
    | some fault => pure (.error fault)
    | none => throw e

def readText (path : String) : IO (Except FileFault String) := do
  match ← attempt (IO.FS.readBinFile path) with
  | .error fault => pure (.error fault)
  | .ok bytes =>
    match Text.Utf8.decode? bytes.toList with
    | some s => pure (.ok (String.ofList s))
    | none => pure (.error .notText)

def prepare (directory : String) : IO (Except StoreError Unit) := do
  return (← attempt (IO.FS.createDirAll directory)).mapError (.createDirectory directory)

/-- Writes a file anew. -/
def create (path : String) (bytes : List UInt8) : IO Unit := do
  let file ← IO.FS.Handle.mk path .writeNew
  file.write ⟨bytes.toArray⟩
  file.flush

/-- Writes records to a temporary file, which is then moved into place. -/
def persist (records : List Record) (directory filename : String) :
    IO (Except StoreError String) := do
  match outputPath directory filename, contentOf (records.map (·.toJson)) with
  | .error e, _ => pure (.error e)
  | _, .error fault => pure (.error (.encode fault))
  | .ok path, .ok bytes =>
    let temp := joinPath directory (tempName (← IO.rand 0 999999))
    match ← attempt (create temp bytes) with
    | .error fault => pure (.error (.io temp fault))
    | .ok () =>
      match ← attempt (IO.FS.rename temp path) with
      | .ok () => pure (.ok path)
      | .error fault =>
        IO.FS.removeFile temp
        pure (.error (.persist fault))

def world : World IO where
  readText := readText
  stages config := {
    prepare := prepare
    fetch := fun requests => pure (harvest .offline config "" requests).1
    persist := persist }

end Disk

/-- A number of milliseconds in seconds. -/
def secondsText (millis : Nat) : String :=
  let digits := toString (millis % 1000)
  toString (millis / 1000) ++ "." ++ String.ofList (List.replicate (3 - digits.length) '0') ++ digits

/-- The variables of the settings. -/
def readEnvironment : IO Environment := do
  let found ← Setting.all.filterMapM fun s => do
    return (← IO.getEnv s.variableName).map (s.variableName, ·)
  return fun name => found.lookup name

/-- Runs the program and gives back its exit code. -/
def runCommand (arguments : List String) : IO UInt32 := do
  let start ← IO.monoMsNow
  let ending ← runProgram Disk.world (← readEnvironment) arguments
  IO.print (ending.output (secondsText ((← IO.monoMsNow) - start)))
  for line in ending.complaint do
    IO.eprintln line
  return UInt32.ofNat ending.exitCode

end RuleHarvest

def main (arguments : List String) : IO UInt32 := RuleHarvest.runCommand arguments
