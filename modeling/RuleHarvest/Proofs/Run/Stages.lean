/-
# The stages in order

Stages can be made to note each of their calls (`Stages.recorded`), which
changes nothing else about a run. `StagesGo` is what a run may then look like:
the directory is prepared; if that succeeds the source is asked, once, with a
request for each address; if it answers, its records go to the file. The run
ends with the first stage that fails, whatever the later ones would have done.

The stages may be any actions on any state. Where they act on a file tree, the
data directory is there after every run in which the source was asked
(`StagesGo.hasDirectory`). A whole run that cannot read its list of addresses,
or has settings under which no request can be made, calls no stage.

Key definitions: `StageCall`, `Stages.recorded`, `StagesGo`, `Stages.OnTree`,
`World.recorded`.
Key theorems: `runStages_go`, `StagesGo.failures`, `StagesGo.hasDirectory`,
`runProgram_go`, `stages_stop_at_first_failure`.
-/
import RuleHarvest.Proofs.Run.Outcome

namespace RuleHarvest

open Files CommandLine

/-! ### Notes of calls -/

/-- A stage that was called: what it was given and what came of it. -/
inductive StageCall (ε : Type) where
  | prepared (directory : String) (result : Except StoreError Unit)
  | asked (requests : List Request) (result : Except ε (List Record))
  | stored (records : List Record) (directory filename : String)
      (result : Except StoreError String)
deriving DecidableEq

/-- What a call adds to the error of a run: what was being done, and the error
of the stage. -/
def StageCall.failure? {ε : Type} (message : ε → String) : StageCall ε → Option (List String)
  | .prepared directory (.error e) => some ["preparing data directory " ++ directory, e.message]
  | .asked _ (.error e) => some ["scraping rule pages", message e]
  | .stored _ _ _ (.error e) => some ["writing rule detail records", e.message]
  | _ => none

/-- The error that a run gives back, with its cause, if there is one. -/
def PipelineError.reported {ε : Type} (message : ε → String) :
    Except (PipelineError ε) RunStats → List (List String)
  | .error e => [e.chain message]
  | .ok _ => []

section Recorded

variable {m : Type → Type} [Monad m] {ε : Type}

/-- An action with a note of what came of it. -/
def noting {α : Type} (note : α → StageCall ε) (action : m α) : StateT (List (StageCall ε)) m α := do
  let a ← action
  modify (· ++ [note a])
  pure a

/-- The stages, with a note of each call. -/
def Stages.recorded (stages : Stages m ε) : Stages (StateT (List (StageCall ε)) m) ε where
  prepare directory := noting (.prepared directory) (stages.prepare directory)
  fetch requests := noting (.asked requests) (stages.fetch requests)
  persist records directory filename :=
    noting (.stored records directory filename) (stages.persist records directory filename)

/-- The world, with a note of each call of a stage. -/
def World.recorded (world : World m) : World (StateT (List (StageCall FetchError)) m) where
  readText path := world.readText path
  stages config := (world.stages config).recorded

end Recorded

/-! ### How stages go -/

section Go

variable {σ ε : Type}

/-- The calls of a run of the stages from a state on, its result and the state
that it leaves. -/
inductive StagesGo (stages : Stages (StateM σ) ε) (urls : List String)
    (directory filename : String) (s : σ) :
    List (StageCall ε) → Except (PipelineError ε) RunStats → σ → Prop where
  | noDirectory {e s₁} (hprepare : (stages.prepare directory).run s = (.error e, s₁)) :
    StagesGo stages urls directory filename s [.prepared directory (.error e)]
      (.error (.preparing directory e)) s₁
  | noRecords {s₁ e s₂} (hprepare : (stages.prepare directory).run s = (.ok (), s₁))
      (hfetch : (stages.fetch (buildRequests urls)).run s₁ = (.error e, s₂)) :
    StagesGo stages urls directory filename s
      [.prepared directory (.ok ()), .asked (buildRequests urls) (.error e)]
      (.error (.scraping e)) s₂
  | noFile {s₁ records s₂ e s₃} (hprepare : (stages.prepare directory).run s = (.ok (), s₁))
      (hfetch : (stages.fetch (buildRequests urls)).run s₁ = (.ok records, s₂))
      (hpersist : (stages.persist records directory filename).run s₂ = (.error e, s₃)) :
    StagesGo stages urls directory filename s
      [.prepared directory (.ok ()), .asked (buildRequests urls) (.ok records),
        .stored records directory filename (.error e)]
      (.error (.writing e)) s₃
  | done {s₁ records s₂ path s₃} (hprepare : (stages.prepare directory).run s = (.ok (), s₁))
      (hfetch : (stages.fetch (buildRequests urls)).run s₁ = (.ok records, s₂))
      (hpersist : (stages.persist records directory filename).run s₂ = (.ok path, s₃)) :
    StagesGo stages urls directory filename s
      [.prepared directory (.ok ()), .asked (buildRequests urls) (.ok records),
        .stored records directory filename (.ok path)]
      (.ok ⟨urls.length, records.length, path⟩) s₃

/-- What follows an action that takes notes goes on from where the action got
to. -/
theorem run_run_bind_of {α β ν : Type} {x : StateT ν (StateM σ) α} {log log' : ν} {s s' : σ} {a : α}
    (h : (x.run log).run s = ((a, log'), s')) (f : α → StateT ν (StateM σ) β) :
    ((x >>= f).run log).run s = ((f a).run log').run s' := by
  rw [StateT.run_bind]
  exact run_bind_of h fun r => (f r.1).run r.2

/-- A note does not change what an action does. -/
theorem run_noting {α : Type} {action : StateM σ α} {s s' : σ} {a : α}
    (h : action.run s = (a, s')) (note : α → StageCall ε) (log : List (StageCall ε)) :
    ((noting note action).run log).run s = ((a, log ++ [note a]), s') := by
  have hnoting : ((noting note action).run log).run s =
      (((action.run s).1, log ++ [note (action.run s).1]), (action.run s).2) := rfl
  rw [hnoting, h]

section Stages

variable (stages : Stages (StateM σ) ε) {s s' : σ} (log : List (StageCall ε))

theorem run_recorded_prepare {directory : String} {result : Except StoreError Unit}
    (h : (stages.prepare directory).run s = (result, s')) :
    ((stages.recorded.prepare directory).run log).run s =
      ((result, log ++ [.prepared directory result]), s') := run_noting h _ log

theorem run_recorded_fetch {requests : List Request} {result : Except ε (List Record)}
    (h : (stages.fetch requests).run s = (result, s')) :
    ((stages.recorded.fetch requests).run log).run s =
      ((result, log ++ [.asked requests result]), s') := run_noting h _ log

theorem run_recorded_persist {records : List Record} {directory filename : String}
    {result : Except StoreError String}
    (h : (stages.persist records directory filename).run s = (result, s')) :
    ((stages.recorded.persist records directory filename).run log).run s =
      ((result, log ++ [.stored records directory filename result]), s') := run_noting h _ log

/-- **The stages go in order and stop at the first that fails.** -/
theorem runStages_go (urls : List String) (directory filename : String) (s : σ) :
    ∃ result log s',
      ((runStages stages.recorded urls directory filename).run []).run s = ((result, log), s') ∧
      (runStages stages urls directory filename).run s = (result, s') ∧
      StagesGo stages urls directory filename s log result s' := by
  rcases hprepare : (stages.prepare directory).run s with ⟨e | ⟨⟩, s₁⟩
  · refine ⟨_, _, _, ?_, ?_, .noDirectory hprepare⟩
    · rw [runStages, run_run_bind_of (run_recorded_prepare stages [] hprepare)]
      rfl
    · rw [runStages, run_bind_of hprepare]
      rfl
  rcases hfetch : (stages.fetch (buildRequests urls)).run s₁ with ⟨e | records, s₂⟩
  · refine ⟨_, _, _, ?_, ?_, .noRecords hprepare hfetch⟩
    · rw [runStages, run_run_bind_of (run_recorded_prepare stages [] hprepare)]
      dsimp only
      rw [run_run_bind_of (run_recorded_fetch stages _ hfetch)]
      rfl
    · rw [runStages, run_bind_of hprepare]
      dsimp only
      rw [run_bind_of hfetch]
      rfl
  have hlength : (buildRequests urls).length = urls.length := List.length_map _
  rcases hpersist : (stages.persist records directory filename).run s₂ with ⟨e | path, s₃⟩
  · refine ⟨_, _, _, ?_, ?_, .noFile hprepare hfetch hpersist⟩
    · rw [runStages, run_run_bind_of (run_recorded_prepare stages [] hprepare)]
      dsimp only
      rw [run_run_bind_of (run_recorded_fetch stages _ hfetch)]
      dsimp only
      rw [run_run_bind_of (run_recorded_persist stages _ hpersist)]
      rfl
    · rw [runStages, run_bind_of hprepare]
      dsimp only
      rw [run_bind_of hfetch]
      dsimp only
      rw [run_bind_of hpersist]
      rfl
  · refine ⟨_, _, _, ?_, ?_, .done hprepare hfetch hpersist⟩
    · rw [runStages, run_run_bind_of (run_recorded_prepare stages [] hprepare)]
      dsimp only
      rw [run_run_bind_of (run_recorded_fetch stages _ hfetch)]
      dsimp only
      rw [run_run_bind_of (run_recorded_persist stages _ hpersist), hlength]
      rfl
    · rw [runStages, run_bind_of hprepare]
      dsimp only
      rw [run_bind_of hfetch]
      dsimp only
      rw [run_bind_of hpersist, hlength]
      rfl

end Stages

namespace StagesGo

variable {stages : Stages (StateM σ) ε} {urls : List String} {directory filename : String}
  {s s' : σ} {log : List (StageCall ε)} {result : Except (PipelineError ε) RunStats}

/-- **The error of a run is that of the one stage that failed.** -/
theorem failures (h : StagesGo stages urls directory filename s log result s')
    (message : ε → String) :
    log.filterMap (StageCall.failure? message) = PipelineError.reported message result := by
  cases h <;> rfl

end StagesGo

/-! ### Stages on a file tree -/

/-- Preparing and storing act on a file tree and on nothing else, and the source
leaves the directories where they are. -/
structure Stages.OnTree (stages : Stages (StateM σ) ε) (tree : σ → FileTree) : Prop where
  prepare : ∀ directory s,
    ((stages.prepare directory).run s).1 = (ensureDirectory (tree s) directory).2 ∧
      tree ((stages.prepare directory).run s).2 = (ensureDirectory (tree s) directory).1
  fetch : ∀ requests s, (tree s).Grows (tree ((stages.fetch requests).run s).2)
  persist : ∀ records directory filename s,
    ((stages.persist records directory filename).run s).1 =
        (saveRecords (tree s) directory filename records).2 ∧
      tree ((stages.persist records directory filename).run s).2 =
        (saveRecords (tree s) directory filename records).1

theorem treeStages_onTree (source : List Request → Except ε (List Record)) :
    (treeStages source).OnTree id where
  prepare _ _ := ⟨rfl, rfl⟩
  fetch _ s := (FileTree.AddsDirectories.refl s fun _ => False).grows
  persist _ _ _ _ := ⟨rfl, rfl⟩

theorem run_onTree {α : Type} (action : FileTree → FileTree × α) (s : Session) :
    (Session.onTree action).run s =
      ((action s.tree).2, { s with tree := (action s.tree).1 }) := rfl

theorem world_onTree (fetch : Config → List Request → Except FetchError (List Record) × Trail)
    (config : Config) : ((Session.world fetch).stages config).OnTree Session.tree where
  prepare directory s := by
    have hrun : (((Session.world fetch).stages config).prepare directory).run s = _ :=
      run_onTree (fun t => ensureDirectory t directory) s
    rw [hrun]
    exact ⟨rfl, rfl⟩
  fetch _ s := (FileTree.AddsDirectories.refl s.tree fun _ => False).grows
  persist records directory filename s := by
    have hrun : (((Session.world fetch).stages config).persist records directory filename).run s =
        _ := run_onTree (fun t => saveRecords t directory filename records) s
    rw [hrun]
    exact ⟨rfl, rfl⟩

namespace Stages.OnTree

variable {stages : Stages (StateM σ) ε} {tree : σ → FileTree} {directory filename : String}
  {s s' : σ}

/-- A directory that was prepared is there. -/
theorem prepare_ok (h : stages.OnTree tree)
    (hprepare : (stages.prepare directory).run s = (.ok (), s')) :
    (tree s').HasDirectory directory := by
  obtain ⟨hresult, htree⟩ := h.prepare directory s
  rw [hprepare] at hresult htree
  have hdir := ensureDirectory_ok hresult.symm
  rwa [← htree] at hdir

theorem fetch_keeps (h : stages.OnTree tree) {requests : List Request}
    {answer : Except ε (List Record)} (hfetch : (stages.fetch requests).run s = (answer, s'))
    (hdir : (tree s).HasDirectory directory) : (tree s').HasDirectory directory := by
  have hgrows := h.fetch requests s
  rw [hfetch] at hgrows
  exact hgrows.hasDirectory hdir

theorem persist_keeps (h : stages.OnTree tree) {records : List Record}
    {answer : Except StoreError String}
    (hpersist : (stages.persist records directory filename).run s = (answer, s'))
    (hdir : (tree s).HasDirectory directory) : (tree s').HasDirectory directory := by
  obtain ⟨-, htree⟩ := h.persist records directory filename s
  rw [hpersist] at htree
  have hgrows : (tree s).Grows (tree s') := by
    rw [htree]
    exact saveValues_grows (tree s) directory filename _
  exact hgrows.hasDirectory hdir

end Stages.OnTree

/-- **The data directory is there after every run in which the source was
asked.** -/
theorem StagesGo.hasDirectory {stages : Stages (StateM σ) ε} {urls : List String}
    {directory filename : String} {s s' : σ} {log : List (StageCall ε)}
    {result : Except (PipelineError ε) RunStats}
    (h : StagesGo stages urls directory filename s log result s') {tree : σ → FileTree}
    (htree : stages.OnTree tree) {requests : List Request} {answer : Except ε (List Record)}
    (hasked : .asked requests answer ∈ log) : (tree s').HasDirectory directory := by
  cases h with
  | noDirectory hprepare =>
    rw [List.mem_singleton] at hasked
    cases hasked
  | noRecords hprepare hfetch =>
    exact htree.fetch_keeps hfetch (htree.prepare_ok hprepare)
  | noFile hprepare hfetch hpersist =>
    exact htree.persist_keeps hpersist (htree.fetch_keeps hfetch (htree.prepare_ok hprepare))
  | done hprepare hfetch hpersist =>
    exact htree.persist_keeps hpersist (htree.fetch_keeps hfetch (htree.prepare_ok hprepare))

end Go

/-! ### Whole runs -/

section Program

variable {σ : Type}

/-- How a run ends that has its options read. -/
def Ending.ofResult : Except RunError RunStats → Ending
  | .ok stats => .done stats
  | .error e => .failed e

/-- The stages that a run with its options read calls from a state on, its end
and the state that it leaves. -/
inductive RunGoes (world : World (StateM σ)) (o : Options) (s : σ) :
    List (StageCall FetchError) → Ending → σ → Prop where
  | unreadable {e s₁} (hread : (o.readTargets world.readText).run s = (.error e, s₁)) :
    RunGoes world o s [] (.failed (.unreadable e)) s₁
  | unusable {urls s₁ e} (hread : (o.readTargets world.readText).run s = (.ok urls, s₁))
      (hconfig : checkConfig o.config = .error e) :
    RunGoes world o s [] (.failed (.unusable e)) s₁
  | staged {urls s₁ log result s'} (hread : (o.readTargets world.readText).run s = (.ok urls, s₁))
      (hconfig : checkConfig o.config = .ok ())
      (hgo : StagesGo (world.stages o.config) urls (o.value .dataPath) (o.value .filename) s₁
        log result s') :
    RunGoes world o s log (.ofResult (result.mapError .stage)) s'

/-- A list of addresses is read alike with and without notes. -/
theorem readTargets_recorded {world : World (StateM σ)} {o : Options} {s s' : σ}
    {targets : Except ListError (List String)}
    (h : (o.readTargets world.readText).run s = (targets, s'))
    (log : List (StageCall FetchError)) :
    ((o.readTargets world.recorded.readText).run log).run s = ((targets, log), s') := by
  unfold Options.readTargets at h ⊢
  rcases hinput : o.value .input with _ | path
  · rw [hinput] at h
    cases h
    rfl
  · rw [hinput] at h
    rcases hread : (world.readText path).run s with ⟨text, s₁⟩
    have hlift : ((world.recorded.readText path).run log).run s = ((text, log), s₁) := by
      have hrun : ((world.recorded.readText path).run log).run s =
          ((((world.readText path).run s).1, log), ((world.readText path).run s).2) := rfl
      rw [hrun, hread]
    dsimp only at h ⊢
    rw [run_bind_of hread] at h
    rw [run_run_bind_of hlift]
    rcases text with fault | text
    · cases h
      rfl
    · cases h
      rfl

/-- A run with its options read. -/
theorem runOptions_go (world : World (StateM σ)) (o : Options) (s : σ) : ∃ result log s',
    ((runOptions world.recorded o).run []).run s = ((result, log), s') ∧
      (runOptions world o).run s = (result, s') ∧
      RunGoes world o s log (.ofResult result) s' := by
  rcases hread : (o.readTargets world.readText).run s with ⟨e | urls, s₁⟩
  · refine ⟨.error (.unreadable e), [], s₁, ?_, ?_, .unreadable hread⟩
    · exact run_run_bind_of (readTargets_recorded hread []) _
    · exact run_bind_of hread _
  · rcases hconfig : checkConfig o.config with e | ⟨⟩
    · refine ⟨.error (.unusable e), [], s₁, ?_, ?_, .unusable hread hconfig⟩
      · unfold runOptions
        rw [run_run_bind_of (readTargets_recorded hread []), hconfig]
        rfl
      · unfold runOptions
        rw [run_bind_of hread, hconfig]
        rfl
    · obtain ⟨result, log, s', hrecorded, hplain, hgo⟩ := runStages_go (world.stages o.config) urls
        (o.value .dataPath) (o.value .filename) s₁
      refine ⟨result.mapError .stage, log, s', ?_, ?_, .staged hread hconfig hgo⟩
      · unfold runOptions
        rw [run_run_bind_of (readTargets_recorded hread []), hconfig]
        exact run_run_bind_of hrecorded _
      · unfold runOptions
        rw [run_bind_of hread, hconfig]
        exact run_bind_of hplain _

/-- **How a whole run goes** once its options are read. -/
theorem runProgram_go (world : World (StateM σ)) {environment : Environment}
    {arguments : List String} {o : Options}
    (h : Options.ofArguments environment arguments = .ok o) (s : σ) : ∃ ending log s',
      ((runProgram world.recorded environment arguments).run []).run s = ((ending, log), s') ∧
      (runProgram world environment arguments).run s = (ending, s') ∧
      RunGoes world o s log ending s' := by
  obtain ⟨result, log, s', hrecorded, hplain, hgo⟩ := runOptions_go world o s
  refine ⟨_, log, s', ?_, ?_, hgo⟩
  · unfold runProgram
    rw [h]
    dsimp only
    rw [run_run_bind_of hrecorded]
    rcases result with e | stats <;> rfl
  · unfold runProgram
    rw [h]
    dsimp only
    rw [run_bind_of hplain]
    rcases result with e | stats <;> rfl

end Program

/-- A run on a file tree that does not get as far as its stages leaves the tree
as it was and sends nothing. -/
theorem runWith_of_no_stages
    (fetch : Config → List Request → Except FetchError (List Record) × Trail)
    {environment : Environment} {arguments : List String} {o : Options}
    (h : Options.ofArguments environment arguments = .ok o) (t : FileTree) :
    (∀ e, o.readTargets (m := Id) t.readText = .error e →
      runWith fetch environment arguments t = (.failed (.unreadable e), { tree := t })) ∧
    ∀ urls e, o.readTargets (m := Id) t.readText = .ok urls → checkConfig o.config = .error e →
      runWith fetch environment arguments t = (.failed (.unusable e), { tree := t }) := by
  refine ⟨fun e hread => ?_, fun urls e hread hconfig => ?_⟩
  · rw [runWith_of_options h, runOptions_run]
    dsimp only
    rw [hread]
  · rw [runWith_of_options h, runOptions_run]
    dsimp only
    rw [hread]
    dsimp only
    rw [hconfig]

/-- **The stages go in order and stop at the first that fails.** Whatever the
stages do, and whatever state they act on, `StagesGo` tells which of them are
called, with what and how often, and what the run gives back; of the calls only
the last one may have failed, and then the error of the run tells what it was
doing and why it failed. The requests are the addresses, in order. On a file tree the
data directory is there after every run in which the source was asked. A whole
run whose list of addresses cannot be read, or whose settings allow no request,
calls no stage (`RunGoes`): on a file tree it sends nothing and changes
nothing. -/
theorem stages_stop_at_first_failure :
    (∀ {σ ε : Type} (stages : Stages (StateM σ) ε) (urls : List String)
      (directory filename : String) (s : σ), ∃ result log s',
      ((runStages stages.recorded urls directory filename).run []).run s = ((result, log), s') ∧
      (runStages stages urls directory filename).run s = (result, s') ∧
      StagesGo stages urls directory filename s log result s' ∧
      (∀ message, log.filterMap (StageCall.failure? message) =
        PipelineError.reported message result) ∧
      ∀ tree, stages.OnTree tree → ∀ requests answer, .asked requests answer ∈ log →
        (tree s').HasDirectory directory) ∧
    (∀ urls, (buildRequests urls).map (·.url) = urls) ∧
    (∀ {ε : Type} (source : List Request → Except ε (List Record)),
      (treeStages source).OnTree id) ∧
    (∀ fetch config, ((Session.world fetch).stages config).OnTree Session.tree) ∧
    ∀ (environment : Environment) (arguments : List String) (o : Options),
      Options.ofArguments environment arguments = .ok o →
      (∀ {σ : Type} (world : World (StateM σ)) (s : σ), ∃ ending log s',
        ((runProgram world.recorded environment arguments).run []).run s = ((ending, log), s') ∧
        (runProgram world environment arguments).run s = (ending, s') ∧
        RunGoes world o s log ending s') ∧
      ∀ (fetch : Config → List Request → Except FetchError (List Record) × Trail) (t : FileTree),
        (∀ e, o.readTargets (m := Id) t.readText = .error e →
          runWith fetch environment arguments t = (.failed (.unreadable e), { tree := t })) ∧
        ∀ urls e, o.readTargets (m := Id) t.readText = .ok urls → checkConfig o.config = .error e →
          runWith fetch environment arguments t = (.failed (.unusable e), { tree := t }) := by
  refine ⟨fun stages urls directory filename s => ?_, fun urls => ?_, treeStages_onTree,
    world_onTree, fun environment arguments o h => ⟨fun world s => ?_, fun fetch t => ?_⟩⟩
  · obtain ⟨result, log, s', hrecorded, hplain, hgo⟩ :=
      runStages_go stages urls directory filename s
    exact ⟨result, log, s', hrecorded, hplain, hgo, hgo.failures,
      fun tree htree requests answer hasked => hgo.hasDirectory htree hasked⟩
  · simp [buildRequests, Function.comp_def]
  · exact runProgram_go world h s
  · exact runWith_of_no_stages fetch h t

theorem stages_stop_at_first_failure_scraping :
    let source : List Request → Except String (List Record) := fun _ => .error "no network"
    let r := ((runStages (treeStages source).recorded ["b", "a", "b"] "data" "rules").run []).run
      { entries := [] }
    r.1.1 = .error (.scraping "no network") ∧
      r.1.2 = [.prepared "data" (.ok ()), .asked [⟨"b"⟩, ⟨"a"⟩, ⟨"b"⟩] (.error "no network")] ∧
      r.2.HasDirectory "data" := by
  intro source r
  obtain ⟨result, log, t', hrecorded, -, -, -, htree⟩ := stages_stop_at_first_failure.1
    (treeStages source) ["b", "a", "b"] "data" "rules" { entries := [] }
  have hr : r = ((result, log), t') := hrecorded
  have hlog : r.1.2 = [.prepared "data" (.ok ()),
      .asked [⟨"b"⟩, ⟨"a"⟩, ⟨"b"⟩] (.error "no network")] := by decide +kernel
  refine ⟨by decide +kernel, hlog, ?_⟩
  have hasked : .asked [⟨"b"⟩, ⟨"a"⟩, ⟨"b"⟩] (.error "no network") ∈ r.1.2 := by
    rw [hlog]
    simp
  rw [hr] at hasked ⊢
  exact htree id (treeStages_onTree source) _ _ hasked

end RuleHarvest
