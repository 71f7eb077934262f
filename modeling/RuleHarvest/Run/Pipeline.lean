/-
# The stages of a run

A run makes the output directory, fetches the pages and stores the records,
in this order. The first stage that fails ends the run, and the error tells
which it was. The directory is made first, so it is there even when nothing
can be fetched.

The stages are given as actions of any kind; the pipeline only puts them in a
row.

Key definitions: `Stages`, `PipelineError`, `RunStats`, `runStages`.
-/
import RuleHarvest.Store.Save

namespace RuleHarvest

open Files

/-- The three stages. `ε` says why pages are not fetched. -/
structure Stages (m : Type → Type) (ε : Type) where
  prepare : (directory : String) → m (Except StoreError Unit)
  fetch : List Request → m (Except ε (List Record))
  persist : List Record → (directory filename : String) → m (Except StoreError String)

/-- Why a run fails. -/
inductive PipelineError (ε : Type) where
  | preparing (directory : String) (e : StoreError)
  | scraping (e : ε)
  | writing (e : StoreError)
deriving Repr, DecidableEq

/-- The error and its cause. -/
def PipelineError.chain {ε : Type} (message : ε → String) : PipelineError ε → List String
  | .preparing directory e => ["preparing data directory " ++ directory, e.message]
  | .scraping e => ["scraping rule pages", message e]
  | .writing e => ["writing rule detail records", e.message]

/-- What a run did. -/
structure RunStats where
  requests : Nat
  records : Nat
  output : String
deriving Repr, DecidableEq

/-- The stages in a row. -/
def runStages {m : Type → Type} [Monad m] {ε : Type} (stages : Stages m ε) (urls : List String)
    (directory filename : String) : m (Except (PipelineError ε) RunStats) := do
  match ← stages.prepare directory with
  | .error e => pure (.error (.preparing directory e))
  | .ok () =>
    let requests := buildRequests urls
    match ← stages.fetch requests with
    | .error e => pure (.error (.scraping e))
    | .ok records =>
      match ← stages.persist records directory filename with
      | .error e => pure (.error (.writing e))
      | .ok output => pure (.ok ⟨requests.length, records.length, output⟩)

/-- The stages on a file tree, with a source of records that does not touch
it. -/
def treeStages {ε : Type} (source : List Request → Except ε (List Record)) :
    Stages (StateM FileTree) ε where
  prepare directory := fun t => Prod.swap (ensureDirectory t directory)
  fetch requests := pure (source requests)
  persist records directory filename := fun t => Prod.swap (saveRecords t directory filename records)

/-- A run on a file tree. -/
def runPipeline {ε : Type} (source : List Request → Except ε (List Record)) (urls : List String)
    (directory filename : String) (t : FileTree) : Except (PipelineError ε) RunStats × FileTree :=
  (runStages (treeStages source) urls directory filename).run t

end RuleHarvest
