/-
# A run of the program

A run reads the command line and the environment, finds out which pages to
fetch, checks the settings and goes through the stages. It ends with a text
that was asked for, a refusal of the command line, an error or a file of
records.

What a run does to the world outside is given as actions of any kind. One such
world is a file tree with a way to fetch pages, on which a run is a function.

Key definitions: `World`, `RunError`, `Ending`, `runProgram`, `Session`,
`Session.world`, `runWith`, `runSession`.
-/
import RuleHarvest.CommandLine.Help
import RuleHarvest.CommandLine.Targets
import RuleHarvest.Fetch.Harvest
import RuleHarvest.Run.Pipeline

namespace RuleHarvest

open Files CommandLine

/-- What a run acts on. -/
structure World (m : Type → Type) where
  readText : String → m (Except FileFault String)
  stages : Config → Stages m FetchError

/-- Why a run fails. -/
inductive RunError where
  | unreadable (e : ListError)
  | unusable (e : FetchError)
  | stage (e : PipelineError FetchError)
deriving Repr, DecidableEq

/-- The error and its cause. -/
def RunError.chain : RunError → List String
  | .unreadable e => e.chain
  | .unusable e => ["building HTTP client", e.message]
  | .stage e => e.chain FetchError.message

/-! ### How a run ends -/

inductive Ending where
  /-- A text that was asked for. -/
  | told (text : String)
  | refused (e : UsageError)
  | failed (e : RunError)
  | done (stats : RunStats)
deriving Repr, DecidableEq

namespace Ending

def exitCode : Ending → Nat
  | .told _ | .done _ => 0
  | .failed _ => 1
  | .refused _ => 2

/-- What is printed. `seconds` is the time that the run took. -/
def output (seconds : String) : Ending → String
  | .told text => text
  | .done _ => "Elapsed CPU time: " ++ seconds ++ "s\n"
  | .refused _ | .failed _ => ""

/-- The lines that tell what went wrong. The second one is the cause. -/
def complaint : Ending → List String
  | .told _ | .done _ => []
  | .refused e => [e.firstLine]
  | .failed e =>
    match e.chain with
    | [] => []
    | outer :: causes => ("Error: " ++ outer) :: causes

end Ending

/-! ### A run -/

/-- A run with its options read. -/
def runOptions {m : Type → Type} [Monad m] (world : World m) (o : Options) :
    m (Except RunError RunStats) := do
  match ← o.readTargets world.readText with
  | .error e => pure (.error (.unreadable e))
  | .ok urls =>
    match checkConfig o.config with
    | .error e => pure (.error (.unusable e))
    | .ok () =>
      let result ← runStages (world.stages o.config) urls (o.value .dataPath) (o.value .filename)
      pure (result.mapError .stage)

/-- A whole run. -/
def runProgram {m : Type → Type} [Monad m] (world : World m) (environment : Environment)
    (arguments : List String) : m Ending := do
  match Options.ofArguments environment arguments with
  | .error .help => pure (.told (helpText environment))
  | .error .version => pure (.told versionText)
  | .error (.refused e) => pure (.refused e)
  | .ok o =>
    match ← runOptions world o with
    | .ok stats => pure (.done stats)
    | .error e => pure (.failed e)

/-! ### A run on a file tree -/

/-- A file tree and what the network has seen. -/
structure Session where
  tree : FileTree
  trail : Trail := {}

namespace Session

/-- An action on the tree alone. -/
def onTree {α : Type} (action : FileTree → FileTree × α) : StateM Session α := fun s =>
  let (tree, a) := action s.tree
  (a, { s with tree })

/-- The world of a file tree. `fetch` makes the records of requests. -/
def world (fetch : Config → List Request → Except FetchError (List Record) × Trail) :
    World (StateM Session) where
  readText path := onTree fun t => (t, t.readText path)
  stages config := {
    prepare := fun directory => onTree fun t => ensureDirectory t directory
    fetch := fun requests s =>
      let (result, trail) := fetch config requests
      (result, { s with trail })
    persist := fun records directory filename =>
      onTree fun t => saveRecords t directory filename records }

end Session

/-- A whole run on a file tree. -/
def runWith (fetch : Config → List Request → Except FetchError (List Record) × Trail)
    (environment : Environment) (arguments : List String) (tree : FileTree) : Ending × Session :=
  (runProgram (Session.world fetch) environment arguments).run { tree }

/-- A whole run on a file tree with a network, whose pages are fetched one after
the other. `now` is the time. -/
def runSession (network : Network) (now : String) (environment : Environment)
    (arguments : List String) (tree : FileTree) : Ending × Session :=
  runWith (fun config => harvest network config now) environment arguments tree

end RuleHarvest
