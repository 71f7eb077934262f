/-
# What a save changes

`Save.Stage` says for every state of a save how the tree differs from the one
that the save began with: first not at all, then by directories along the
path, then by the temporary file as well; at the end either by directories
only or by these and the output file. Each step goes from one stage to the
next whatever name is chosen for the temporary file (`Save.step_stage`), and
the steps of `save` reach the end (`Save.steps_length_finished`). So a save
that fails leaves nothing but directories behind, and one that succeeds
changes one file (`save_error`, `save_ok`).

Key definitions: `FileTree.HasDirectory`, `Save.Prepared`, `Save.Open`,
`Save.Stored`, `Save.Stage`, `Save.left`.
Key theorems: `ensureDirectory_adds`, `ensureDirectory_ok`, `ensureDirectory_again`,
`Save.step_stage`, `save_error`, `save_ok`.
-/
import RuleHarvest.Proofs.Files.Growth
import RuleHarvest.Store.Save

namespace RuleHarvest

open Files

/-! ### Directories -/

/-- A path names a directory. The working directory, which the empty path
names, is always there. -/
def Files.FileTree.HasDirectory (t : FileTree) (path : String) : Prop :=
  path = "" ∨ t.isDirectory (.ofString path) = true

theorem Files.FileTree.Grows.hasDirectory {t t' : FileTree} {path : String}
    (h : FileTree.Grows t t') (hp : t.HasDirectory path) : t'.HasDirectory path :=
  hp.imp id h.isDirectory

theorem Text.runs_cons_ne_nil {p : Char → Bool} {c : Char} (hc : p c = true) (cs : List Char) :
    Text.runs p (c :: cs) ≠ [] := by
  unfold Text.runs
  rw [Text.splitWhere, if_neg (by simpa using hc)]
  split
  · simp
  · simp

/-- Only the empty path is empty. -/
theorem Files.Location.isEmpty_ofString {path : String} :
    (Location.ofString path).isEmpty = true ↔ path = "" := by
  constructor
  · intro h
    unfold Location.isEmpty Location.ofString at h
    rcases hpath : path.toList with _ | ⟨c, cs⟩
    · exact String.toList_eq_nil_iff.1 hpath
    · rw [hpath] at h
      simp only [List.head?_cons, Bool.and_eq_true, Bool.not_eq_true', decide_eq_false_iff_not,
        Option.some.injEq, List.isEmpty_iff, List.map_eq_nil_iff] at h
      exact absurd h.2 (Text.runs_cons_ne_nil (by simpa using h.1) cs)
  · rintro rfl
    rfl

theorem ensureDirectory_eq (t : FileTree) (directory : String) : ensureDirectory t directory =
    ((t.makeAll (.ofString directory)).1,
      match (t.makeAll (.ofString directory)).2 with
      | none => .ok ()
      | some fault => .error (.createDirectory directory fault)) := by
  unfold ensureDirectory
  split <;> rename_i h <;> rw [h]

/-- Making the directory of a path adds directories along the path only. -/
theorem ensureDirectory_adds (t : FileTree) (directory : String) :
    FileTree.AddsDirectories t (ensureDirectory t directory).1
      ((Location.ofString directory).Passes t.here) := by
  rw [ensureDirectory_eq]
  exact FileTree.makeAll_adds t _

/-- A directory that was made is there. -/
theorem ensureDirectory_ok {t : FileTree} {directory : String}
    (h : (ensureDirectory t directory).2 = .ok ()) :
    (ensureDirectory t directory).1.HasDirectory directory := by
  rw [ensureDirectory_eq] at h ⊢
  by_cases hempty : (Location.ofString directory).isEmpty = true
  · exact .inl (Location.isEmpty_ofString.1 hempty)
  · refine .inr (FileTree.makeAll_isDirectory ?_ (by simpa using hempty))
    rcases hfault : (t.makeAll (.ofString directory)).2 with _ | fault
    · rfl
    · rw [hfault] at h
      cases h

/-- Making a directory that is there succeeds and changes nothing. -/
theorem ensureDirectory_again {t : FileTree} {directory : String} (h : t.HasDirectory directory) :
    ensureDirectory t directory = (t, .ok ()) := by
  rw [ensureDirectory_eq]
  rcases h with rfl | h
  · rw [FileTree.makeAll_of_isEmpty t (Location.isEmpty_ofString.2 rfl)]
  · rw [FileTree.makeAll_of_isDirectory h]

theorem ensureDirectory_error {t : FileTree} {directory : String} {e : StoreError}
    (h : (ensureDirectory t directory).2 = .error e) :
    ∃ fault, e = .createDirectory directory fault := by
  rw [ensureDirectory_eq] at h
  dsimp only at h
  split at h
  · cases h
  · rename_i fault _
    cases h
    exact ⟨fault, rfl⟩

/-! ### The stages of a save -/

namespace Save

/-- The file name is accepted, and the tree has gained the directory of the save
and nothing else. -/
structure Prepared (s : Save) (t : FileTree) (path : String) (t' : FileTree) : Prop where
  path : outputPath s.directory s.filename = .ok path
  adds : FileTree.AddsDirectories t t' ((Location.ofString s.directory).Passes t.here)
  directory : t'.HasDirectory s.directory

/-- Beside the prepared directory there is a new file, the temporary one, with
this content. -/
structure Beside (s : Save) (t : FileTree) (path : String) (temp : Place) (written : List UInt8)
    (t' : FileTree) : Prop where
  prepared : ∃ t₁, s.Prepared t path t₁ ∧ t₁.node? temp = none ∧
    ∀ p, t'.node? p = if p = temp then some (.file written) else t₁.node? p
  here : t'.here = t.here
  temp : temp ≠ []

/-- The temporary file holds all but the pieces that are still to come. -/
def Open (s : Save) (t : FileTree) (path : String) (temp : Place) (pieces : List (List UInt8))
    (t' : FileTree) : Prop :=
  ∃ written, s.Beside t path temp written t' ∧ s.pieces.flatten = written ++ pieces.flatten

/-- The output file is there with its whole content; of the rest of the tree
only the directory of the save may be new. -/
structure Stored (s : Save) (t : FileTree) (path : String) (t' : FileTree) : Prop where
  stored : ∃ t₁, s.Prepared t path t₁ ∧
    t₁.node? ((Location.ofString path).place t.here) ≠ some .directory ∧
      ∀ p, t'.node? p =
        if p = (Location.ofString path).place t.here then some (.file s.pieces.flatten)
        else t₁.node? p
  complete : s.fault = none
  here : t'.here = t.here

/-- How the tree stands to the one that the save began with. -/
def Stage (s : Save) (t : FileTree) : FileTree × SaveState → Prop
  | (t', .naming) => t' = t
  | (t', .preparing path) => t' = t ∧ outputPath s.directory s.filename = .ok path
  | (t', .opening path) => s.Prepared t path t'
  | (t', .writing path temp pieces) => s.Open t path temp pieces t'
  | (t', .moving path temp) => s.Open t path temp [] t' ∧ s.fault = none
  | (t', .finished (.ok path)) => s.Stored t path t'
  | (t', .finished (.error e)) =>
    FileTree.AddsDirectories t t' ((Location.ofString s.directory).Passes t.here) ∧
      ∀ name, e = .invalidFilename name → t' = t

variable {s : Save} {t t' : FileTree} {path : String} {temp : Place} {pieces : List (List UInt8)}

/-- Giving up in time: without its temporary file the tree has gained the
directory only, and the error is not one of the file name. -/
theorem Beside.abandon {written : List UInt8} (h : s.Beside t path temp written t')
    {e : StoreError} (he : ∀ name, e ≠ .invalidFilename name) :
    s.Stage t (Save.abandon t' temp e) := by
  obtain ⟨t₁, hprep, hnone, hnode⟩ := h.prepared
  refine ⟨⟨h.here, fun p => ?_⟩, fun name hname => absurd hname (he name)⟩
  have hp : (t'.remove temp).node? p = t₁.node? p := by
    rw [FileTree.node?_remove h.temp, hnode]
    by_cases hp : p = temp
    · rw [if_pos hp, hp, hnone]
    · rw [if_neg hp, if_neg hp]
  rw [hp]
  exact hprep.adds.node p

/-- Moving the temporary file puts its content in the place of the output. -/
theorem Open.rename {t₂ : FileTree} (h : s.Open t path temp [] t') (hfault : s.fault = none)
    (hrename : t'.rename temp (.ofString path) = .ok t₂) : s.Stored t path t₂ := by
  obtain ⟨written, hbeside, hwritten⟩ := h
  obtain ⟨t₁, hprep, hnone, hnode⟩ := hbeside.prepared
  obtain ⟨hne, hdir, n, hn, rfl⟩ := FileTree.rename_eq_ok hrename
  rw [hbeside.here] at hne hdir
  have hcontent : n = .file s.pieces.flatten := by
    rw [hnode, if_pos rfl, Option.some.injEq] at hn
    rw [← hn, hwritten]
    simp
  refine ⟨⟨t₁, hprep, fun hout => ?_, fun p => ?_⟩, hfault, hbeside.here⟩
  · rw [hnode] at hdir
    split_ifs at hdir with htemp
    · rw [htemp, hnone] at hout
      cases hout
    · exact hdir hout
  · rw [hbeside.here, FileTree.node?_put hne, FileTree.node?_remove hbeside.temp, hnode, hcontent]
    -- where the temporary file was there is nothing again, as before it was made
    split_ifs with hout htemp
    · rfl
    · rw [htemp, hnone]
    · rfl

/-- **Each step of a save goes to the next stage**, whatever the name of the
temporary file. -/
theorem step_stage {r : FileTree × SaveState} (name : String) (h : s.Stage t r) :
    s.Stage t (s.step name r.1 r.2) := by
  obtain ⟨t', state⟩ := r
  cases state with
  | naming =>
    cases h
    simp only [step]
    rcases hpath : outputPath s.directory s.filename with e | path
    · refine ⟨.refl t _, fun _ _ => rfl⟩
    · exact ⟨rfl, hpath⟩
  | preparing path =>
    obtain ⟨rfl, hpath⟩ := h
    have hadds := ensureDirectory_adds t' s.directory
    simp only [step]
    rcases hensure : ensureDirectory t' s.directory with ⟨t₁, e | ⟨⟩⟩
    · rw [hensure] at hadds
      refine ⟨hadds, fun name hname => ?_⟩
      obtain ⟨fault, hfault⟩ := ensureDirectory_error (congrArg Prod.snd hensure)
      rw [hfault] at hname
      cases hname
    · rw [hensure] at hadds
      have hdir := ensureDirectory_ok (congrArg Prod.snd hensure)
      rw [hensure] at hdir
      exact ⟨hpath, hadds, hdir⟩
  | opening path =>
    have hprep : s.Prepared t path t' := h
    simp only [step]
    rcases hcreate : t'.createFile (.ofString (joinPath s.directory name)) with fault | ⟨t₁, temp⟩
    · exact ⟨hprep.adds, fun _ h => by cases h⟩
    · obtain ⟨hne, hnone, rfl⟩ := FileTree.createFile_eq_ok hcreate
      have hbeside : s.Beside t path temp [] (t'.put temp (.file [])) :=
        ⟨⟨t', hprep, hnone, FileTree.node?_put hne _⟩, hprep.adds.here, hne⟩
      exact ⟨[], hbeside, rfl⟩
  | writing path temp pieces =>
    have hopen : s.Open t path temp pieces t' := h
    rcases pieces with _ | ⟨piece, pieces⟩
    · simp only [step]
      rcases hfault : s.fault with _ | fault
      · exact ⟨hopen, hfault⟩
      · obtain ⟨written, hbeside, -⟩ := hopen
        exact hbeside.abandon fun _ h => by cases h
    · obtain ⟨written, hbeside, hwritten⟩ := hopen
      obtain ⟨t₁, hprep, hnone, hnode⟩ := hbeside.prepared
      have htemp : t'.node? temp = some (.file written) := by rw [hnode, if_pos rfl]
      have hmore : s.Beside t path temp (written ++ piece) (t'.append temp piece) := by
        refine ⟨⟨t₁, hprep, hnone, fun p => ?_⟩, ?_, hbeside.temp⟩
        · rw [FileTree.node?_append htemp, hnode]
          split_ifs <;> rfl
        · rw [FileTree.append_here]
          exact hbeside.here
      refine ⟨written ++ piece, hmore, ?_⟩
      rw [hwritten, List.flatten_cons, List.append_assoc]
  | moving path temp =>
    obtain ⟨hopen, hfault⟩ : s.Open t path temp [] t' ∧ s.fault = none := h
    simp only [step]
    rcases hrename : t'.rename temp (.ofString path) with fault | t₁
    · obtain ⟨written, hbeside, -⟩ := hopen
      exact hbeside.abandon fun _ h => by cases h
    · exact hopen.rename hfault hrename
  | finished result => exact h

theorem steps_stage : ∀ (n : Nat) {r : FileTree × SaveState}, s.Stage t r → s.Stage t (s.steps n r)
  | 0, _, h => h
  | n + 1, (t', _), h => steps_stage n (step_stage (freshTempName t' s.directory) h)

/-! ### The end of a save -/

/-- How many steps are left at most. -/
def left (s : Save) : SaveState → Nat
  | .naming => s.length
  | .preparing _ => s.length - 1
  | .opening _ => s.length - 2
  | .writing _ _ pieces => pieces.length + 2
  | .moving .. => 1
  | .finished _ => 0

theorem step_left (s : Save) (name : String) (t : FileTree) (state : SaveState) :
    s.left (s.step name t state).2 ≤ s.left state - 1 := by
  cases state with
  | naming =>
    simp only [step]
    split <;> simp only [left, length] <;> omega
  | preparing path =>
    simp only [step]
    split <;> simp only [left, length] <;> omega
  | opening path =>
    simp only [step]
    split
    · exact Nat.zero_le _
    · simp only [left, length]
      omega
  | writing path temp pieces =>
    rcases pieces with _ | ⟨piece, pieces⟩
    · simp only [step]
      split
      · simp only [left, List.length_nil]
        omega
      · exact Nat.zero_le _
    · simp only [step, left, List.length_cons]
      omega
  | moving path temp =>
    simp only [step]
    split <;> exact Nat.zero_le _
  | finished result => exact Nat.zero_le _

theorem steps_left (s : Save) : ∀ (n : Nat) (r : FileTree × SaveState),
    s.left (s.steps n r).2 ≤ s.left r.2 - n
  | 0, _ => Nat.le_refl _
  | n + 1, (t, state) => by
    have hstep := step_left s (freshTempName t s.directory) t state
    have hsteps := steps_left s n (s.step (freshTempName t s.directory) t state)
    rw [steps]
    dsimp only
    omega

/-- All steps of a save end it. -/
theorem steps_length_finished (s : Save) (t : FileTree) :
    ∃ t' result, s.steps s.length (t, .naming) = (t', .finished result) := by
  have hleft := s.steps_left s.length (t, .naming)
  rcases hsteps : s.steps s.length (t, .naming) with ⟨t', state⟩
  rw [hsteps] at hleft
  cases state with
  | finished result => exact ⟨t', result, rfl⟩
  | naming | preparing _ | opening _ | writing _ _ _ | moving _ _ =>
    simp only [left, length] at hleft
    omega

/-- How a save ends. -/
theorem save_stage (t : FileTree) (s : Save) :
    s.Stage t ((save t s).1, .finished (save t s).2) := by
  obtain ⟨t', result, hsteps⟩ := s.steps_length_finished t
  have hstage : s.Stage t (s.steps s.length (t, .naming)) := steps_stage s.length rfl
  unfold save
  rw [hsteps] at hstage ⊢
  exact hstage

end Save

/-- **A save that fails leaves nothing behind but directories along its path**,
and not even these when the file name is refused. -/
theorem save_error {t : FileTree} {s : Save} {e : StoreError} (h : (save t s).2 = .error e) :
    FileTree.AddsDirectories t (save t s).1 ((Location.ofString s.directory).Passes t.here) ∧
      ∀ name, e = .invalidFilename name → (save t s).1 = t := by
  have hstage := Save.save_stage t s
  rw [h] at hstage
  exact hstage

/-- **A save that succeeds stores its content in one file.** -/
theorem save_ok {t : FileTree} {s : Save} {path : String} (h : (save t s).2 = .ok path) :
    s.Stored t path (save t s).1 := by
  have hstage := Save.save_stage t s
  rw [h] at hstage
  exact hstage

end RuleHarvest
