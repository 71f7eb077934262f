/-
# How a run ends

A run that is not asked for a text of its own either succeeds or fails. When
it succeeds the tree has the directories of the data path and the output file,
with one record for each page in the order of the pages. When it fails, at
whatever point, no file has changed and none is new, and at most directories
along the data path were made.

How the pages are fetched is left open as far as the window of a batch leaves it
open (`Fetcher`): the fetches under way take their turns in any order. The records
of a run are made of the pages that the last attempts of these very fetches
received, and what the network has received is what they sent.

Key definitions: `Fetcher`, `Network.RecordsOf`, `RunSucceeds`, `RunFails`.
Key theorems: `runStages_ends`, `runOptions_ends`, `run_succeeds_or_fails`.
-/
import RuleHarvest.Proofs.Fetch.LastPage
import RuleHarvest.Proofs.Store.Calls
import RuleHarvest.Run.Program

namespace RuleHarvest

open Files CommandLine

instance (here : Place) (l : Location) (p : Place) : Decidable (l.Passes here p) :=
  inferInstanceAs
    (Decidable (∃ k < l.names.length, p = resolve (l.origin here) (l.names.take (k + 1))))

/-- A way to fetch pages: each batch goes by some schedule that its window allows,
and ends as the window does, with the requests that were received of it. -/
structure Fetcher (network : Network) where
  fetch : Config → List Request → Except FetchError (List Record) × Trail
  scheduled : ∀ config requests, checkConfig config = .ok () →
    ∃ w, Window.Steps network config (.ofRequests requests []) w ∧ w.Ends (fetch config requests).1 ∧
      w.traffic = (fetch config requests).2.traffic

/-- One page after the other. -/
def Fetcher.inOrder (network : Network) (now : String) : Fetcher network where
  fetch config := harvest network config now
  scheduled config requests h := by
    obtain ⟨w, hsteps, hends, htraffic⟩ :=
      Window.exists_steps_harvestAll network config now requests {} []
    unfold harvest
    rw [h]
    refine ⟨w, hsteps, ?_, htraffic⟩
    dsimp only
    generalize (harvestAll network config now requests {}).1 = result at hends ⊢
    cases result <;> exact hends

/-- The records of pages when the network has received `traffic`: the fetches of the
pages took their turns in some order that keeps to the window and sent these
requests, and each record is made of the URL as it was asked for and the page that
the last attempt of its own fetch received. -/
def Network.RecordsOf (network : Network) (config : Config) (traffic : Traffic)
    (urls : List String) (records : List Record) : Prop :=
  ∃ order, Underway.KeepsWindow network config (buildRequests urls) [] order ∧
    (Underway.after network config (buildRequests urls) [] order).traffic = traffic ∧
    List.Forall₂ (fun url record => ∃ page now,
      LastPage network config (buildRequests urls) [] order url.2 page ∧
      record = extract url.1 page now) urls.zipIdx records

/-- A window that ends well has the records of its pages. -/
theorem recordsOf_of_steps {network : Network} {config : Config} {urls : List String} {w : Window}
    {records : List Record} (h : Window.Steps network config (.ofRequests (buildRequests urls) []) w)
    (hends : w.Ends (.ok records)) : network.RecordsOf config w.traffic urls records := by
  obtain ⟨order, hkeeps, htraffic, hrecords⟩ := Window.Steps.exists_order h hends
  refine ⟨order, hkeeps, htraffic, ?_⟩
  rw [buildRequests, List.zipIdx_map, List.forall₂_map_left_iff] at hrecords
  exact hrecords

/-! ### Stages -/

/-- The tree after a run that succeeds: the directories of the path, the output
file, and the rest as before. -/
def StoredIn (t : FileTree) (directory path : String) (content : List UInt8) (t' : FileTree) :
    Prop :=
  t'.here = t.here ∧ ∀ p, t'.node? p =
    if p = (Location.ofString path).place t.here then some (.file content)
    else if (Location.ofString directory).Passes t.here p then some .directory
    else t.node? p

theorem storedIn_of_stores {t t₀ t' : FileTree} {directory path : String} {content : List UInt8}
    (hadds : FileTree.AddsDirectories t t₀ ((Location.ofString directory).Passes t.here))
    (h : Stores t₀ directory path content t') : StoredIn t directory path content t' := by
  obtain ⟨t₁, hadds₁, hdir, -, hnode⟩ := h.prepared
  rw [hadds.here] at hadds₁ hnode
  have hall : FileTree.AddsDirectories t t₁ ((Location.ofString directory).Passes t.here) :=
    hadds.trans hadds₁
  refine ⟨h.here.trans hadds.here, fun p => ?_⟩
  rw [hnode]
  by_cases hout : p = (Location.ofString path).place t.here
  · rw [if_pos hout, if_pos hout]
  · rw [if_neg hout, if_neg hout]
    by_cases hpass : (Location.ofString directory).Passes t.here p
    · rw [if_pos hpass]
      rcases hdir with rfl | hdir
      · -- the empty path passes nothing
        obtain ⟨k, hk, -⟩ := hpass
        exact absurd hk (Nat.not_lt_zero k)
      · rw [← hall.here] at hpass
        exact FileTree.directory_of_passes hdir hpass
    · rw [if_neg hpass]
      rcases hall.node p with hsame | ⟨-, -, hnew⟩
      · exact hsame
      · exact absurd hnew hpass

section Stages

variable (fetch : Config → List Request → Except FetchError (List Record) × Trail)

/-- What follows an action goes on from where the action got to. -/
theorem run_bind_of {σ α β : Type} {x : StateM σ α} {s s' : σ} {a : α}
    (h : x.run s = (a, s')) (f : α → StateM σ β) : (x >>= f).run s = (f a).run s' := by
  rw [StateT.run_bind, h]
  rfl

/-- The stages on a file tree, one after the other. -/
theorem runStages_run (config : Config) (urls : List String) (directory filename : String)
    (s : Session) :
    (runStages ((Session.world fetch).stages config) urls directory filename).run s =
      match ensureDirectory s.tree directory with
      | (t, .error e) => (.error (.preparing directory e), { s with tree := t })
      | (t, .ok ()) =>
        match fetch config (buildRequests urls) with
        | (.error e, trail) => (.error (.scraping e), ⟨t, trail⟩)
        | (.ok records, trail) =>
          match saveRecords t directory filename records with
          | (t, .error e) => (.error (.writing e), ⟨t, trail⟩)
          | (t, .ok output) =>
            (.ok ⟨(buildRequests urls).length, records.length, output⟩, ⟨t, trail⟩) := by
  have hprepare : (((Session.world fetch).stages config).prepare directory).run s =
      ((ensureDirectory s.tree directory).2,
        { s with tree := (ensureDirectory s.tree directory).1 }) := rfl
  rw [runStages, run_bind_of hprepare]
  rcases ensureDirectory s.tree directory with ⟨t, e | ⟨⟩⟩
  · rfl
  · have hfetch : (((Session.world fetch).stages config).fetch (buildRequests urls)).run
        { s with tree := t } =
        ((fetch config (buildRequests urls)).1, ⟨t, (fetch config (buildRequests urls)).2⟩) := rfl
    dsimp only
    rw [run_bind_of hfetch]
    rcases fetch config (buildRequests urls) with ⟨e | records, trail⟩
    · rfl
    · have hpersist : (((Session.world fetch).stages config).persist records directory filename).run
          ⟨t, trail⟩ = ((saveRecords t directory filename records).2,
            ⟨(saveRecords t directory filename records).1, trail⟩) := rfl
      dsimp only
      rw [run_bind_of hpersist]
      rcases saveRecords t directory filename records with ⟨t', e | output⟩
      · rfl
      · rfl

/-- How the stages end: with an error and at most new directories, or with the
records of the pages in the output file. -/
theorem runStages_ends (config : Config) (urls : List String) (directory filename : String)
    (s : Session) {result : Except (PipelineError FetchError) RunStats} {s' : Session}
    (h : (runStages ((Session.world fetch).stages config) urls directory filename).run s =
      (result, s')) :
    (∃ e, result = .error e ∧
      FileTree.AddsDirectories s.tree s'.tree ((Location.ofString directory).Passes s.tree.here)) ∨
    ∃ stats records path content, result = .ok stats ∧
      fetch config (buildRequests urls) = (.ok records, s'.trail) ∧
      outputPath directory filename = .ok path ∧
      contentOf (records.map (·.toJson)) = .ok content ∧
      StoredIn s.tree directory path content s'.tree := by
  rw [runStages_run] at h
  have hadds := ensureDirectory_adds s.tree directory
  rcases hensure : ensureDirectory s.tree directory with ⟨t, e | ⟨⟩⟩
  · rw [hensure] at h hadds
    cases h
    exact .inl ⟨_, rfl, hadds⟩
  · rw [hensure] at h hadds
    rcases hfetch : fetch config (buildRequests urls) with ⟨e | records, trail⟩
    · rw [hfetch] at h
      cases h
      exact .inl ⟨_, rfl, hadds⟩
    · rw [hfetch] at h
      dsimp only at h
      rcases hsave : saveRecords t directory filename records with ⟨t', e | path⟩
      · rw [hsave] at h
        cases h
        have herror : (saveRecords t directory filename records).2 = .error e :=
          congrArg Prod.snd hsave
        have hmore := (saveValues_error herror).1
        rw [← saveRecords, hsave, hadds.here] at hmore
        exact .inl ⟨_, rfl, hadds.trans hmore⟩
      · rw [hsave] at h
        cases h
        have hok : (saveRecords t directory filename records).2 = .ok path :=
          congrArg Prod.snd hsave
        obtain ⟨hpath, content, hcontent, hstores⟩ := saveValues_ok hok
        rw [← saveRecords, hsave] at hstores
        exact .inr ⟨_, records, path, content, rfl, rfl, hpath, hcontent,
          storedIn_of_stores hadds hstores⟩

/-- The addresses of a run are found without touching the tree. -/
theorem readTargets_run (o : Options) (s : Session) :
    (o.readTargets (Session.world fetch).readText).run s =
      (o.readTargets (m := Id) s.tree.readText, s) := by
  unfold Options.readTargets
  rcases o.value .input with _ | path
  · rfl
  · have hread : ((Session.world fetch).readText path).run s = (s.tree.readText path, s) := rfl
    dsimp only
    rw [run_bind_of hread]
    rcases s.tree.readText path with fault | text
    · rfl
    · rfl

/-- A run with its options read: it finds its pages, checks its settings and
goes through the stages. -/
theorem runOptions_run (o : Options) (s : Session) :
    (runOptions (Session.world fetch) o).run s =
      match o.readTargets (m := Id) s.tree.readText with
      | .error e => (.error (.unreadable e), s)
      | .ok urls =>
        match checkConfig o.config with
        | .error e => (.error (.unusable e), s)
        | .ok () =>
          let (result, s) := (runStages ((Session.world fetch).stages o.config) urls
            (o.value .dataPath) (o.value .filename)).run s
          (result.mapError .stage, s) := by
  rw [runOptions, run_bind_of (readTargets_run fetch o s)]
  rcases o.readTargets (m := Id) s.tree.readText with e | urls
  · rfl
  · dsimp only
    rcases checkConfig o.config with e | ⟨⟩
    · rfl
    · rfl

end Stages

/-! ### Runs -/

/-- A run that succeeds prints its time and nothing else. The tree gains the
directories of the data path and the output file, with the pretty text of the
records of all pages and a line end, and is else as it was. -/
structure RunSucceeds (network : Network) (o : Options) (t : FileTree) (r : Ending × Session) :
    Prop where
  exitCode : r.1.exitCode = 0
  output : ∀ seconds, r.1.output seconds = "Elapsed CPU time: " ++ seconds ++ "s\n"
  stored : ∃ urls records path text,
    o.readTargets (m := Id) t.readText = .ok urls ∧
    network.RecordsOf o.config r.2.trail.traffic urls records ∧
    outputPath (o.value .dataPath) (o.value .filename) = .ok path ∧
    (Json.Value.list (records.map (·.toJson))).pretty = .ok text ∧
    StoredIn t (o.value .dataPath) path (Text.Utf8.encode (text.toList ++ ['\n'])) r.2.tree

/-- A run that fails prints nothing and tells so by its exit code. It leaves all
that was there as it was, and adds nothing but directories along the data path,
if it got as far as to know one. -/
structure RunFails (environment : Environment) (arguments : List String) (t : FileTree)
    (r : Ending × Session) : Prop where
  exitCode : r.1.exitCode ≠ 0
  output : ∀ seconds, r.1.output seconds = ""
  kept : r.2.tree = t ∨ ∃ o, Options.ofArguments environment arguments = .ok o ∧
    FileTree.AddsDirectories t r.2.tree ((Location.ofString (o.value .dataPath)).Passes t.here)

/-- How a run ends that has its options read. -/
theorem runOptions_ends {network : Network} (fetcher : Fetcher network) (o : Options) (t : FileTree)
    {result : Except RunError RunStats} {s : Session}
    (h : (runOptions (Session.world fetcher.fetch) o).run { tree := t } = (result, s)) :
    (∃ e, result = .error e ∧
      FileTree.AddsDirectories t s.tree ((Location.ofString (o.value .dataPath)).Passes t.here)) ∨
    ∃ stats, result = .ok stats ∧ RunSucceeds network o t (.done stats, s) := by
  rw [runOptions_run] at h
  dsimp only at h
  rcases htargets : o.readTargets (m := Id) t.readText with e | urls
  · rw [htargets] at h
    cases h
    exact .inl ⟨_, rfl, .refl t _⟩
  · rw [htargets] at h
    dsimp only at h
    rcases hconfig : checkConfig o.config with e | ⟨⟩
    · rw [hconfig] at h
      cases h
      exact .inl ⟨_, rfl, .refl t _⟩
    · rw [hconfig] at h
      dsimp only at h
      rcases hstages : (runStages ((Session.world fetcher.fetch).stages o.config) urls
        (o.value .dataPath) (o.value .filename)).run { tree := t } with ⟨result', s'⟩
      rw [hstages] at h
      cases h
      rcases runStages_ends fetcher.fetch o.config urls _ _ _ hstages with
        ⟨e, rfl, hadds⟩ | ⟨stats, records, path, content, rfl, hfetch, hpath, hcontent, hstored⟩
      · exact .inl ⟨_, rfl, hadds⟩
      · obtain ⟨w, hsteps, hends, htraffic⟩ := fetcher.scheduled o.config (buildRequests urls) hconfig
        rw [hfetch] at hends htraffic
        have hrecords : network.RecordsOf o.config s.trail.traffic urls records :=
          htraffic ▸ recordsOf_of_steps hsteps hends
        obtain ⟨text, htext, rfl⟩ := contentOf_eq_ok.1 hcontent
        exact .inr ⟨stats, rfl, rfl, fun _ => rfl, urls, records, path, text, htargets, hrecords,
          hpath, htext, hstored⟩

theorem runWith_of_options
    {fetch : Config → List Request → Except FetchError (List Record) × Trail}
    {environment : Environment} {arguments : List String} {o : Options} {t : FileTree}
    (h : Options.ofArguments environment arguments = .ok o) :
    runWith fetch environment arguments t =
      match (runOptions (Session.world fetch) o).run { tree := t } with
      | (.ok stats, s) => (.done stats, s)
      | (.error e, s) => (.failed e, s) := by
  unfold runWith runProgram
  rw [h]
  rcases hrun : (runOptions (Session.world fetch) o).run { tree := t } with ⟨e | stats, s⟩
  · simp only [StateT.run_bind, hrun]
    rfl
  · simp only [StateT.run_bind, hrun]
    rfl

/-- **A run does all of its work or none of it.** However its pages are fetched,
a run that is not asked for help or for its version either succeeds, and then
the output file holds one record for each page, or fails, and then no file has
changed and none is new. Fetching one page after the other is one of the ways.
-/
theorem run_succeeds_or_fails {network : Network} (fetcher : Fetcher network)
    (environment : Environment) (arguments : List String) (t : FileTree) :
    (Options.ofArguments environment arguments = .error .help ∨
      Options.ofArguments environment arguments = .error .version ∨
      Xor
        (∃ o, Options.ofArguments environment arguments = .ok o ∧
          RunSucceeds network o t (runWith fetcher.fetch environment arguments t))
        (RunFails environment arguments t (runWith fetcher.fetch environment arguments t))) ∧
    ∀ now, runSession network now environment arguments t =
      runWith (Fetcher.inOrder network now).fetch environment arguments t := by
  refine ⟨?_, fun now => rfl⟩
  rcases hoptions : Options.ofArguments environment arguments with (_ | _ | e) | o
  · exact .inl rfl
  · exact .inr (.inl rfl)
  · have hrun : runWith fetcher.fetch environment arguments t = (.refused e, { tree := t }) := by
      unfold runWith runProgram
      rw [hoptions]
      rfl
    have hfails : RunFails environment arguments t
        (runWith fetcher.fetch environment arguments t) := by
      rw [hrun]
      exact ⟨Nat.succ_ne_zero 1, fun _ => rfl, .inl rfl⟩
    refine .inr (.inr (.inr ⟨hfails, ?_⟩))
    rintro ⟨o, ho, -⟩
    cases ho
  · refine .inr (.inr ?_)
    rcases hrun : (runOptions (Session.world fetcher.fetch) o).run { tree := t } with ⟨result, s⟩
    rw [runWith_of_options hoptions, hrun]
    rcases runOptions_ends fetcher o t hrun with ⟨e, rfl, hadds⟩ | ⟨stats, rfl, hsucceeds⟩
    · have hfails : RunFails environment arguments t (.failed e, s) :=
        ⟨Nat.succ_ne_zero 0, fun _ => rfl, .inr ⟨o, hoptions, hadds⟩⟩
      refine .inr ⟨hfails, ?_⟩
      rintro ⟨o, -, hsucceeds⟩
      exact hfails.exitCode hsucceeds.exitCode
    · refine .inl ⟨⟨o, rfl, hsucceeds⟩, fun hfails => ?_⟩
      exact hfails.exitCode hsucceeds.exitCode

end RuleHarvest
