/-
# Runs of store calls

A run calls the store any number of times: it makes directories and stores
values or records, in any directories and under any names. What a call does is
told by places, so it does not matter how a path is spelled. After a run every
file is as it was before or holds what the last successful call that leads to
it wrote; the temporary files of the calls are gone. A call lasts until its
result is dropped, because the error about a file that could not be moved keeps
this file so long.

Key definitions: `FileTree.file?`, `StoreCall`, `StoreCall.run`,
`StoreCall.written?`, `runCalls`.
Key theorems: `StoreCall.run_error`, `StoreCall.run_ok`, `runCalls_file?`,
`store_calls_all_or_nothing`.
-/
import RuleHarvest.Proofs.Store.Frame

namespace RuleHarvest

open Files

/-- The content of the file at a place, if there is a file. -/
def Files.FileTree.file? (t : FileTree) (p : Place) : Option (List UInt8) :=
  match t.node? p with
  | some (.file content) => some content
  | _ => none

/-- A call of the store. -/
inductive StoreCall where
  | prepare (directory : String)
  | store (directory filename : String) (values : List Json.Value)
  | storeRecords (directory filename : String) (records : List Record)

namespace StoreCall

def directory : StoreCall → String
  | prepare directory => directory
  | store directory _ _ => directory
  | storeRecords directory _ _ => directory

/-- The name of the output file and what is to be stored in it. -/
def output? : StoreCall → Option (String × List Json.Value)
  | prepare _ => none
  | store _ filename values => some (filename, values)
  | storeRecords _ filename records => some (filename, records.map (·.toJson))

/-- What a call does up to the drop of its result, and the path that it wrote. -/
def run (t : FileTree) : StoreCall → FileTree × Except StoreError (Option String)
  | prepare directory =>
    let (t, result) := ensureDirectory t directory
    (t, result.map fun _ => none)
  | store directory filename values =>
    let (t, result) := saveValues t directory filename values
    (t, result.map some)
  | storeRecords directory filename records =>
    let (t, result) := saveRecords t directory filename records
    (t, result.map some)

/-- What a call with this result wrote to a place. -/
def written? (here : Place) (call : StoreCall) (result : Except StoreError (Option String))
    (p : Place) : Option (List UInt8) :=
  match call.output?, result with
  | some (_, values), .ok (some path) =>
    if (Location.ofString path).place here = p then (contentOf values).toOption else none
  | _, _ => none

end StoreCall

/-- The calls of a run one after the other: the tree at the end, and each call
with its result. -/
def runCalls (t : FileTree) : List StoreCall →
    FileTree × List (StoreCall × Except StoreError (Option String))
  | [] => (t, [])
  | call :: calls =>
    let (t, result) := call.run t
    let (t, log) := runCalls t calls
    (t, (call, result) :: log)

/-- New directories change no file. -/
theorem Files.FileTree.AddsDirectories.file? {t t' : FileTree} {new : Place → Prop}
    (h : FileTree.AddsDirectories t t' new) (p : Place) : t'.file? p = t.file? p := by
  unfold FileTree.file?
  rcases h.node p with hp | ⟨hnone, hdir, -⟩
  · rw [hp]
  · rw [hdir, hnone]

/-! ### Stored values -/

/-- Cutting bytes into pieces loses none. -/
theorem flatten_piecesOf (n : Nat) (bytes : List UInt8) : (piecesOf n bytes).flatten = bytes := by
  induction bytes using piecesOf.induct n with
  | case1 => rw [piecesOf, List.flatten_nil]
  | case2 b bs ih =>
    rw [piecesOf, List.flatten_cons, ih, List.cons_append, List.take_append_drop]

/-- The tree has gained a directory, and the output file has a content. -/
structure Stores (t : FileTree) (directory path : String) (content : List UInt8) (t' : FileTree) :
    Prop where
  prepared : ∃ t₁, FileTree.AddsDirectories t t₁ ((Location.ofString directory).Passes t.here) ∧
    t₁.HasDirectory directory ∧
    t₁.node? ((Location.ofString path).place t.here) ≠ some .directory ∧
    ∀ p, t'.node? p =
      if p = (Location.ofString path).place t.here then some (.file content) else t₁.node? p
  here : t'.here = t.here

/-- **Values that were stored are in the output file.** -/
theorem saveValues_ok {t : FileTree} {directory filename path : String} {values : List Json.Value}
    (h : (saveValues t directory filename values).2 = .ok path) :
    outputPath directory filename = .ok path ∧ ∃ content, contentOf values = .ok content ∧
      Stores t directory path content (saveValues t directory filename values).1 := by
  unfold saveValues at h ⊢
  obtain ⟨⟨t₁, hprep, hdir, hnode⟩, hcomplete, hhere⟩ := save_ok h
  rcases hcontent : contentOf values with fault | content
  · rw [hcontent] at hcomplete
    cases hcomplete
  · rw [hcontent] at hprep hnode hhere
    have hflatten : (piecesOf 8191 content).flatten = content := flatten_piecesOf 8191 content
    simp only [Save.ofContent, hflatten] at hnode
    exact ⟨hprep.path, content, rfl, ⟨t₁, hprep.adds, hprep.directory, hdir, hnode⟩, hhere⟩

theorem saveValues_error {t : FileTree} {directory filename : String} {values : List Json.Value}
    {e : StoreError} (h : (saveValues t directory filename values).2 = .error e) :
    FileTree.AddsDirectories t (saveValues t directory filename values).1
        ((Location.ofString directory).Passes t.here) ∧
      ∀ name, e = .invalidFilename name → (saveValues t directory filename values).1 = t := by
  have hdirectory : (Save.ofContent directory filename (contentOf values)).directory = directory := by
    rcases contentOf values with fault | content <;> rfl
  unfold saveValues at h ⊢
  have hsave := save_error h
  rwa [hdirectory] at hsave

/-- The content of an output file is the pretty text of its values and a line
end. -/
theorem contentOf_eq_ok {values : List Json.Value} {content : List UInt8} :
    contentOf values = .ok content ↔ ∃ text, (Json.Value.list values).pretty = .ok text ∧
      content = Text.Utf8.encode (text.toList ++ ['\n']) := by
  unfold contentOf
  rcases (Json.Value.list values).pretty with fault | text
  · simp [Except.map]
  · simp [Except.map, eq_comm]

namespace Stores

variable {t t' : FileTree} {directory path : String} {content : List UInt8} {p : Place}

theorem file? (h : Stores t directory path content t') :
    t'.file? p = if p = (Location.ofString path).place t.here then some content else t.file? p := by
  obtain ⟨t₁, hadds, -, -, hnode⟩ := h.prepared
  rw [← hadds.file? p]
  unfold FileTree.file?
  rw [hnode]
  split_ifs <;> rfl

theorem directory_keeps (h : Stores t directory path content t')
    (hp : t.node? p = some .directory) : t'.node? p = some .directory := by
  obtain ⟨t₁, hadds, -, hout, hnode⟩ := h.prepared
  have h₁ : t₁.node? p = some .directory := hadds.keeps hp
  rw [hnode, if_neg]
  · exact h₁
  · rintro rfl
    exact hout h₁

theorem directory_new (h : Stores t directory path content t')
    (hp : t'.node? p = some .directory) :
    t.node? p = some .directory ∨ (Location.ofString directory).Passes t.here p := by
  obtain ⟨t₁, hadds, -, -, hnode⟩ := h.prepared
  rw [hnode] at hp
  split_ifs at hp with hout
  · cases hp
  · rcases hadds.node p with h₁ | ⟨-, -, hpass⟩
    · exact .inl (h₁ ▸ hp)
    · exact .inr hpass

/-- The directory is made, and what comes then takes nothing away. -/
theorem prepared_grows (h : Stores t directory path content t') : ∃ t₁,
    FileTree.AddsDirectories t t₁ ((Location.ofString directory).Passes t.here) ∧
      t₁.HasDirectory directory ∧ FileTree.Grows t₁ t' := by
  obtain ⟨t₁, hadds, hhas, hout, hnode⟩ := h.prepared
  refine ⟨t₁, hadds, hhas, h.here.trans hadds.here.symm, fun p hp => ?_, fun p hp => ?_⟩
  · rw [hnode]
    split_ifs
    · rfl
    · exact hp
  · rw [hnode, if_neg]
    · exact hp
    · rintro rfl
      exact hout hp

theorem hasDirectory (h : Stores t directory path content t') : t'.HasDirectory directory := by
  obtain ⟨t₁, -, hhas, hgrows⟩ := h.prepared_grows
  exact hgrows.hasDirectory hhas

theorem grows (h : Stores t directory path content t') : FileTree.Grows t t' := by
  obtain ⟨t₁, hadds, -, hgrows⟩ := h.prepared_grows
  exact hadds.grows.trans hgrows

end Stores

/-- Saving takes nothing away. -/
theorem saveValues_grows (t : FileTree) (directory filename : String) (values : List Json.Value) :
    FileTree.Grows t (saveValues t directory filename values).1 := by
  rcases hsave : (saveValues t directory filename values).2 with e | path
  · exact (saveValues_error hsave).1.grows
  · obtain ⟨-, content, -, hstores⟩ := saveValues_ok hsave
    exact hstores.grows

/-! ### Calls -/

namespace StoreCall

variable {t : FileTree} {call : StoreCall} {filename : String} {values : List Json.Value}

/-- A call with an output file saves its values. -/
theorem run_of_output? (h : call.output? = some (filename, values)) : call.run t =
    ((saveValues t call.directory filename values).1,
      (saveValues t call.directory filename values).2.map some) := by
  cases call with
  | prepare directory => cases h
  | store directory name stored =>
    cases h
    rfl
  | storeRecords directory name records =>
    cases h
    rfl

/-- A call without an output file makes its directory. -/
theorem run_of_output?_none (h : call.output? = none) : call.run t =
    ((ensureDirectory t call.directory).1,
      (ensureDirectory t call.directory).2.map fun _ => none) := by
  cases call with
  | prepare directory => rfl
  | store directory name stored => cases h
  | storeRecords directory name records => cases h

/-- **A call that fails adds nothing but directories along its path**, and
nothing at all when it refuses the file name. -/
theorem run_error {e : StoreError} (h : (call.run t).2 = .error e) :
    FileTree.AddsDirectories t (call.run t).1 ((Location.ofString call.directory).Passes t.here) ∧
      ∀ name, e = .invalidFilename name → (call.run t).1 = t := by
  rcases houtput : call.output? with _ | ⟨filename, values⟩
  · rw [run_of_output?_none houtput] at h ⊢
    refine ⟨ensureDirectory_adds t _, fun name hname => ?_⟩
    rcases hensure : (ensureDirectory t call.directory).2 with e' | ⟨⟩
    · rw [hensure] at h
      cases h
      obtain ⟨fault, hfault⟩ := ensureDirectory_error hensure
      rw [hfault] at hname
      cases hname
    · rw [hensure] at h
      cases h
  · rw [run_of_output? houtput] at h ⊢
    rcases hsave : (saveValues t call.directory filename values).2 with e' | path
    · rw [hsave] at h
      cases h
      exact saveValues_error hsave
    · rw [hsave] at h
      cases h

/-- **A call that succeeds with an output file has stored its values there.** -/
theorem run_ok {written : Option String} (houtput : call.output? = some (filename, values))
    (h : (call.run t).2 = .ok written) :
    ∃ path content, written = some path ∧ outputPath call.directory filename = .ok path ∧
      contentOf values = .ok content ∧ Stores t call.directory path content (call.run t).1 := by
  rw [run_of_output? houtput] at h ⊢
  rcases hsave : (saveValues t call.directory filename values).2 with e | path
  · rw [hsave] at h
    cases h
  · rw [hsave] at h
    obtain ⟨hpath, content, hcontent, hstores⟩ := saveValues_ok hsave
    exact ⟨path, content, (Except.ok.inj h).symm, hpath, hcontent, hstores⟩

/-- A call that succeeds without an output file has made its directory, and
does nothing when it is made again. -/
theorem run_prepare {written : Option String} (houtput : call.output? = none)
    (h : (call.run t).2 = .ok written) :
    FileTree.AddsDirectories t (call.run t).1 ((Location.ofString call.directory).Passes t.here) ∧
      (call.run t).1.HasDirectory call.directory ∧
      call.run (call.run t).1 = ((call.run t).1, .ok none) := by
  have hensure : (ensureDirectory t call.directory).2 = .ok () := by
    rw [run_of_output?_none houtput] at h
    rcases hensure : (ensureDirectory t call.directory).2 with e | ⟨⟩
    · rw [hensure] at h
      cases h
    · rfl
  have hdir := ensureDirectory_ok hensure
  rw [run_of_output?_none houtput, run_of_output?_none houtput]
  refine ⟨ensureDirectory_adds t _, hdir, ?_⟩
  rw [ensureDirectory_again hdir]
  rfl

/-- What a call does to the files: the one that it wrote has a new content. -/
theorem run_file? (t : FileTree) (call : StoreCall) (p : Place) : (call.run t).1.file? p =
    (call.written? t.here (call.run t).2 p).or (t.file? p) := by
  rcases houtput : call.output? with _ | ⟨filename, values⟩
  · have hwritten : call.written? t.here (call.run t).2 p = none := by
      unfold written?
      rw [houtput]
    rw [hwritten, Option.none_or, run_of_output?_none houtput]
    exact (ensureDirectory_adds t _).file? p
  · rcases hresult : (call.run t).2 with e | written
    · have hwritten : call.written? t.here (.error e) p = none := by
        unfold written?
        rw [houtput]
      rw [hwritten, Option.none_or]
      exact (run_error hresult).1.file? p
    · obtain ⟨path, content, rfl, -, hcontent, hstores⟩ := run_ok houtput hresult
      unfold written?
      rw [houtput]
      dsimp only
      rw [hstores.file?, hcontent]
      by_cases hp : p = (Location.ofString path).place t.here
      · rw [if_pos hp, if_pos hp.symm]
        rfl
      · rw [if_neg hp, if_neg (Ne.symm hp), Option.none_or]

/-- A call leaves the directories where they are, and makes new ones along its
path only. -/
theorem run_directories (t : FileTree) (call : StoreCall) :
    (call.run t).1.here = t.here ∧
      ∀ p, (t.node? p = some .directory → (call.run t).1.node? p = some .directory) ∧
        ((call.run t).1.node? p = some .directory →
          t.node? p = some .directory ∨ (Location.ofString call.directory).Passes t.here p) := by
  have hadded : ∀ {t' : FileTree},
      FileTree.AddsDirectories t t' ((Location.ofString call.directory).Passes t.here) →
      t'.here = t.here ∧ ∀ p, (t.node? p = some .directory → t'.node? p = some .directory) ∧
        (t'.node? p = some .directory →
          t.node? p = some .directory ∨ (Location.ofString call.directory).Passes t.here p) := by
    intro t' hadds
    refine ⟨hadds.here, fun p => ⟨hadds.keeps, fun hp => ?_⟩⟩
    rcases hadds.node p with h | ⟨-, -, hpass⟩
    · exact .inl (h ▸ hp)
    · exact .inr hpass
  rcases houtput : call.output? with _ | ⟨filename, values⟩
  · rw [run_of_output?_none houtput]
    exact hadded (ensureDirectory_adds t _)
  · rcases hresult : (call.run t).2 with e | written
    · exact hadded (run_error hresult).1
    · obtain ⟨path, content, -, -, -, hstores⟩ := run_ok houtput hresult
      exact ⟨hstores.here, fun p => ⟨hstores.directory_keeps, hstores.directory_new⟩⟩

end StoreCall

/-! ### Runs -/

theorem runCalls_here : ∀ (t : FileTree) (calls : List StoreCall),
    (runCalls t calls).1.here = t.here
  | _, [] => rfl
  | t, call :: calls => by
    rw [runCalls]
    exact (runCalls_here (call.run t).1 calls).trans (call.run_directories t).1

/-- **After a run every file is as it was or as the last call wrote it.** -/
theorem runCalls_file? (p : Place) : ∀ (t : FileTree) (calls : List StoreCall),
    (runCalls t calls).1.file? p =
      ((runCalls t calls).2.filterMap fun (call, result) =>
        call.written? t.here result p).getLast?.or (t.file? p)
  | t, [] => by simp [runCalls]
  | t, call :: calls => by
    have hrest := runCalls_file? p (call.run t).1 calls
    rw [(call.run_directories t).1, call.run_file? t p] at hrest
    rw [runCalls]
    dsimp only
    rw [hrest, List.filterMap_cons]
    rcases call.written? t.here (call.run t).2 p with _ | content
    · rw [Option.none_or]
    · dsimp only
      rw [List.getLast?_cons]
      rcases List.getLast? _ with _ | last <;> rfl

/-- The directories after a run are those before it and some along the paths of
its calls. -/
theorem runCalls_directories (p : Place) : ∀ (t : FileTree) (calls : List StoreCall),
    (t.node? p = some .directory → (runCalls t calls).1.node? p = some .directory) ∧
      ((runCalls t calls).1.node? p = some .directory → t.node? p = some .directory ∨
        ∃ call ∈ calls, (Location.ofString call.directory).Passes t.here p)
  | t, [] => ⟨id, .inl⟩
  | t, call :: calls => by
    obtain ⟨hhere, hdirs⟩ := call.run_directories t
    obtain ⟨hkept, hnew⟩ := hdirs p
    obtain ⟨hkept', hnew'⟩ := runCalls_directories p (call.run t).1 calls
    rw [hhere] at hnew'
    rw [runCalls]
    refine ⟨fun hp => hkept' (hkept hp), fun hp => ?_⟩
    rcases hnew' hp with hp | ⟨call', hcall', hpass⟩
    · exact (hnew hp).imp id fun hpass => ⟨call, List.mem_cons_self, hpass⟩
    · exact .inr ⟨call', List.mem_cons_of_mem _ hcall', hpass⟩

/-- **A store call does all of its work or none of it.** One that fails leaves
at most directories behind, all along its path, once its error is dropped, and
one that refuses the file name leaves nothing. One that stores values leaves its
directory in place and changes one file, the one that the output path names,
which then holds the pretty text of the values and a line end. One that makes a
directory leaves it in place, and doing it again changes nothing. After any run
of calls a file is as it was before or as the last successful call that leads to
its place wrote it, and no other file is there, temporary ones included. -/
theorem store_calls_all_or_nothing :
    (∀ (t : FileTree) (call : StoreCall),
      match call.output?, (call.run t).2 with
      | _, .error e =>
        FileTree.AddsDirectories t (call.run t).1
            ((Location.ofString call.directory).Passes t.here) ∧
          ∀ name, e = .invalidFilename name → (call.run t).1 = t
      | some (filename, values), .ok written =>
        ∃ path text, written = some path ∧ outputPath call.directory filename = .ok path ∧
          (Json.Value.list values).pretty = .ok text ∧
          (call.run t).1.HasDirectory call.directory ∧
          (∀ p, (call.run t).1.file? p =
            if p = (Location.ofString path).place t.here then
              some (Text.Utf8.encode (text.toList ++ ['\n']))
            else t.file? p) ∧
          ∀ p, (t.node? p = some .directory → (call.run t).1.node? p = some .directory) ∧
            ((call.run t).1.node? p = some .directory →
              t.node? p = some .directory ∨ (Location.ofString call.directory).Passes t.here p)
      | none, .ok _ =>
        (call.run t).1.HasDirectory call.directory ∧
          call.run (call.run t).1 = ((call.run t).1, .ok none) ∧
          FileTree.AddsDirectories t (call.run t).1
            ((Location.ofString call.directory).Passes t.here)) ∧
    ∀ (t : FileTree) (calls : List StoreCall) (p : Place),
      (runCalls t calls).1.file? p =
        ((runCalls t calls).2.filterMap fun (call, result) =>
          call.written? t.here result p).getLast?.or (t.file? p) ∧
      (t.node? p = some .directory → (runCalls t calls).1.node? p = some .directory) ∧
      ((runCalls t calls).1.node? p = some .directory → t.node? p = some .directory ∨
        ∃ call ∈ calls, (Location.ofString call.directory).Passes t.here p) := by
  refine ⟨fun t call => ?_, fun t calls p => ?_⟩
  · rcases hresult : (call.run t).2 with e | written
    · have hfailed := StoreCall.run_error hresult
      rcases call.output? with _ | ⟨filename, values⟩
      · exact hfailed
      · exact hfailed
    · rcases houtput : call.output? with _ | ⟨filename, values⟩
      · obtain ⟨hadds, hdir, hagain⟩ := StoreCall.run_prepare houtput hresult
        exact ⟨hdir, hagain, hadds⟩
      · obtain ⟨path, content, hwritten, hpath, hcontent, hstores⟩ :=
          StoreCall.run_ok houtput hresult
        obtain ⟨text, htext, rfl⟩ := contentOf_eq_ok.1 hcontent
        refine ⟨path, text, hwritten, hpath, htext, hstores.hasDirectory, ?_, ?_⟩
        · exact fun p => hstores.file?
        · exact (call.run_directories t).2
  · obtain ⟨hkept, hnew⟩ := runCalls_directories p t calls
    exact ⟨runCalls_file? p t calls, hkept, hnew⟩

end RuleHarvest
