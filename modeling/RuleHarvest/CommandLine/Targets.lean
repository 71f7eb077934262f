/-
# The pages of a run

The pages are the addresses on the command line, then the pages of the rule
numbers, then the addresses in the input file. When none of the three is given
there are pages to fall back on; an input file without addresses is still
given.

Key definitions: `Options.targets`, `ListError`, `Options.readTargets`.
-/
import RuleHarvest.CommandLine.Options
import RuleHarvest.Files.FileTree
import RuleHarvest.Rule.PageUrl

namespace RuleHarvest
namespace CommandLine

open Files

/-- The addresses to fetch. `list` is the text of the input file, if one is
given. -/
def Options.targets (o : Options) (list : Option String) : List String :=
  let asked := o.urls ++ o.ruleIds.map ruleUrl
  match list with
  | some text => asked ++ urlList text
  | none => if asked.isEmpty then defaultUrls else asked

/-- Why the input file is not read. -/
structure ListError where
  path : String
  fault : FileFault
deriving Repr, DecidableEq

/-- The error and its cause. -/
def ListError.chain (e : ListError) : List String := ["reading URL list " ++ e.path, e.fault.message]

/-- The addresses to fetch. `readText` gives the text of a file. -/
def Options.readTargets {m : Type → Type} [Monad m] (o : Options)
    (readText : String → m (Except FileFault String)) : m (Except ListError (List String)) := do
  match o.value .input with
  | none => pure (.ok (o.targets none))
  | some path =>
    match ← readText path with
    | .ok text => pure (.ok (o.targets (some text)))
    | .error fault => pure (.error ⟨path, fault⟩)

end CommandLine
end RuleHarvest
