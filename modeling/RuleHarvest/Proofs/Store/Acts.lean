/-
# Calls that act on one tree

A call saves values in operations: it makes the directories of its path,
creates its temporary file, writes to it piece by piece, moves it. Between two
of them other calls may act, each operation may fail, and the run may stop
behind each of them. A `Scene` is the tree with how far every call has come; a
list of events is one interleaving. A save on its own is the run of a single
call (`save_eq_run`).

`SaveCall.Sound` is what a call knows of its own files, and `SaveCall.Does`
what an act of a call may do: it touches its temporary file and, when it moves
this, its output file; the rest of the tree gains directories along its path
and nothing else (`SaveCall.act_does`).

Key definitions: `Save.Writes`, `SaveCall`, `Act`, `Save.act`, `Scene`,
`Scene.run`, `SaveCall.Sound`, `SaveCall.Does`.
Key theorems: `save_eq_run`, `SaveCall.act_does`.
-/
import Mathlib.Logic.Function.Basic
import RuleHarvest.Proofs.Store.Calls
import RuleHarvest.Proofs.Store.Names

namespace RuleHarvest

open Files

/-! ### Calls -/

/-- A save writes values: its pieces are their content, or they are what comes
before the fault on which the writer gives up. -/
def Save.Writes (s : Save) (values : List Json.Value) : Prop :=
  match s.fault with
  | none => contentOf values = .ok s.pieces.flatten
  | some fault => contentOf values = .error fault

/-- A call that saves values, in pieces of any sizes. -/
structure SaveCall where
  values : List Json.Value
  save : Save
  writes : save.Writes values

namespace SaveCall

/-- The call of `saveValues`. -/
def ofValues (directory filename : String) (values : List Json.Value) : SaveCall where
  values := values
  save := .ofContent directory filename (contentOf values)
  writes := by
    unfold Save.Writes
    rcases contentOf values with fault | content
    · rfl
    · simp only [Save.ofContent, flatten_piecesOf]

/-- The pieces of a call that meets no fault are its whole content. -/
theorem contentOf_of_fault (c : SaveCall) (h : c.save.fault = none) :
    contentOf c.values = .ok c.save.pieces.flatten := by
  have hwrites := c.writes
  unfold Save.Writes at hwrites
  rwa [h] at hwrites

/-- Where the output file of a call is. -/
def place? (c : SaveCall) (here : Place) : Option Place :=
  match outputPath c.save.directory c.save.filename with
  | .ok path => some ((Location.ofString path).place here)
  | .error _ => none

/-- What a call is to put at a place. -/
def content? (c : SaveCall) (here : Place) (p : Place) : Option (List UInt8) :=
  if c.place? here = some p then (contentOf c.values).toOption else none

end SaveCall

/-- What a call does next. -/
inductive Act where
  /-- Its next operation. The name is for the temporary file. -/
  | go (name : TempName)
  /-- It makes one of the directories of its path, the innermost being first. -/
  | makeDirectory (k : Nat)
  /-- Its next operation fails. -/
  | fail (e : StoreError)

namespace SaveState

/-- The temporary file. -/
def temp? : SaveState → Option Place
  | .writing _ temp _ | .moving _ temp => some temp
  | _ => none

/-- The path of the output file, once it is there. -/
def written? : SaveState → Option String
  | .finished (.ok path) => some path
  | _ => none

/-- The call has ended. -/
def isFinished : SaveState → Bool
  | .finished _ => true
  | _ => false

end SaveState

/-- What an act of a call does to the tree, and how far the call has come then.
A call that fails takes away its temporary file, at the latest when its error is
dropped, with which the call ends. -/
def Save.act (s : Save) (t : FileTree) (state : SaveState) : Act → FileTree × SaveState
  | .go name => s.step name.name t state
  | .makeDirectory k =>
    match state, (Location.ofString s.directory).ancestors[k]? with
    | .preparing path, some l => ((t.makeDirectory l).toOption.getD t, .preparing path)
    | state, _ => (t, state)
  | .fail e =>
    match state with
    | .finished result => (t, .finished result)
    | .writing _ temp _ | .moving _ temp => Save.abandon t temp e
    | _ => (t, .finished (.error e))

/-! ### Scenes -/

/-- The tree, how far every call has come, and the calls that have moved their
file to its place, the last one first. -/
structure Scene (ι : Type) where
  tree : FileTree
  states : ι → SaveState
  moved : List ι

namespace Scene

variable {ι : Type} [DecidableEq ι]

/-- No call has begun. -/
def start (t : FileTree) : Scene ι where
  tree := t
  states _ := .naming
  moved := []

/-- One call has come to a state, and left the tree so. -/
def after (σ : Scene ι) (i : ι) (r : FileTree × SaveState) : Scene ι where
  tree := r.1
  states := Function.update σ.states i r.2
  moved := if (σ.states i).written?.isNone && r.2.written?.isSome then i :: σ.moved else σ.moved

/-- One call acts. -/
def step (calls : ι → SaveCall) (σ : Scene ι) : ι × Act → Scene ι
  | (i, act) => σ.after i ((calls i).save.act σ.tree (σ.states i) act)

/-- An interleaving: calls act in any order. -/
def run (calls : ι → SaveCall) (σ : Scene ι) (events : List (ι × Act)) : Scene ι :=
  events.foldl (step calls) σ

/-- What the last call to move a file to a place has put there. -/
def stored? (calls : ι → SaveCall) (here : Place) (σ : Scene ι) (p : Place) :
    Option (List UInt8) :=
  σ.moved.findSome? fun i => (calls i).content? here p

end Scene

/-! ### A save on its own -/

theorem freshTempName_eq (t : FileTree) (directory : String) :
    ∃ name : TempName, freshTempName t directory = name.name :=
  ⟨.ofNat _, (TempName.name_ofNat _).symm⟩

/-- The steps of one call alone are a run of it. -/
theorem Save.steps_eq_run (c : SaveCall) : ∀ (n : Nat) (σ : Scene Unit), ∃ events,
    c.save.steps n (σ.tree, σ.states ()) =
      ((σ.run (fun _ => c) events).tree, (σ.run (fun _ => c) events).states ())
  | 0, _ => ⟨[], rfl⟩
  | n + 1, σ => by
    obtain ⟨name, hname⟩ := freshTempName_eq σ.tree c.save.directory
    obtain ⟨events, hsteps⟩ := steps_eq_run c n (σ.step (fun _ => c) ((), .go name))
    refine ⟨((), .go name) :: events, ?_⟩
    rw [Save.steps, hname]
    exact hsteps

/-- **A save is the run of a single call.** -/
theorem save_eq_run (t : FileTree) (c : SaveCall) : ∃ events,
    let σ := (Scene.start t).run (fun _ : Unit => c) events
    σ.tree = (save t c.save).1 ∧ σ.states () = .finished (save t c.save).2 := by
  obtain ⟨events, hrun⟩ := Save.steps_eq_run c c.save.length (Scene.start t)
  obtain ⟨t', result, hsteps⟩ := c.save.steps_length_finished t
  have hsave : save t c.save = (t', result) := by
    unfold save
    rw [hsteps]
  rw [hsave]
  have hend := hrun.symm.trans hsteps
  exact ⟨events, congrArg Prod.fst hend, congrArg Prod.snd hend⟩

/-! ### What one operation does -/

/-- A place at which a call may have its temporary file. -/
def SaveCall.IsTemp (c : SaveCall) (here : Place) (p : Place) : Prop :=
  ∃ name : TempName, p = (Location.ofString c.save.directory).place here ++ [name.name]

/-- The temporary file of a call has a place at which there was no file at
first, and holds all but the pieces that are still to come. -/
structure SaveCall.Holds (c : SaveCall) (t₀ t : FileTree) (temp : Place)
    (rest : List (List UInt8)) : Prop where
  place : c.IsTemp t₀.here temp
  new : t₀.file? temp = none
  content : ∃ written, t.node? temp = some (.file written) ∧
    c.save.pieces.flatten = written ++ rest.flatten

/-- What a call knows while others go on: `t₀` is the tree at first, `t` the
one of now. -/
def SaveCall.Sound (c : SaveCall) (t₀ t : FileTree) : SaveState → Prop
  | .naming => True
  | .preparing path | .opening path => outputPath c.save.directory c.save.filename = .ok path
  | .writing path temp pieces =>
    outputPath c.save.directory c.save.filename = .ok path ∧ c.Holds t₀ t temp pieces
  | .moving path temp =>
    outputPath c.save.directory c.save.filename = .ok path ∧ c.Holds t₀ t temp [] ∧
      c.save.fault = none
  | .finished (.ok path) =>
    outputPath c.save.directory c.save.filename = .ok path ∧ c.save.fault = none
  | .finished (.error _) => True

/-- What an operation of a call may do to the tree and to the state of the
call. -/
structure SaveCall.Does (c : SaveCall) (t₀ t : FileTree) (state : SaveState) (t' : FileTree)
    (state' : SaveState) : Prop where
  here : t'.here = t.here
  sound : c.Sound t₀ t' state'
  /-- It was not the end. -/
  going : state.written? = none
  /-- A temporary file is made where nothing was. -/
  made : ∀ p, state'.temp? = some p → state.temp? = some p ∨ t.node? p = none
  /-- A temporary file is taken away with what it held. -/
  gone : ∀ p, state.temp? = some p → state'.temp? = some p ∨ t'.node? p = none
  /-- The output file is written over no directory. -/
  landed : ∀ path, state'.written? = some path →
    t.node? ((Location.ofString path).place t.here) ≠ some .directory ∧
      t'.node? ((Location.ofString path).place t.here) = some (.file c.save.pieces.flatten)
  /-- Nothing else happens to files, and directories are made along the path. -/
  frame : ∀ p, state.temp? ≠ some p → state'.temp? ≠ some p →
    (∀ path, state'.written? = some path → (Location.ofString path).place t.here ≠ p) →
    t'.node? p = t.node? p ∨ (t.node? p = none ∧ t'.node? p = some .directory ∧
      (Location.ofString c.save.directory).Passes t.here p)

namespace SaveCall

variable {c : SaveCall} {t₀ t t' : FileTree} {state state' : SaveState} {path : String}
  {temp : Place} {rest : List (List UInt8)}

theorem Sound.outputPath_of_written? (h : c.Sound t₀ t state) (hpath : state.written? = some path) :
    outputPath c.save.directory c.save.filename = .ok path ∧ c.save.fault = none := by
  unfold SaveState.written? at hpath
  split at hpath
  · cases hpath
    exact h
  · cases hpath

theorem Sound.holds (h : c.Sound t₀ t state) (htemp : state.temp? = some temp) :
    ∃ rest, c.Holds t₀ t temp rest := by
  cases state with
  | writing path place pieces =>
    cases htemp
    exact ⟨pieces, h.2⟩
  | moving path place =>
    cases htemp
    exact ⟨[], h.2.1⟩
  | naming | preparing _ | opening _ | finished _ => cases htemp

/-- The temporary file of a call is there. -/
theorem Sound.isFile (h : c.Sound t₀ t state) (htemp : state.temp? = some temp) :
    ∃ written, t.node? temp = some (.file written) := by
  obtain ⟨rest, -, -, written, hwritten, -⟩ := h.holds htemp
  exact ⟨written, hwritten⟩

/-- What a call knows is about its temporary file only. -/
theorem Sound.frame (h : c.Sound t₀ t state)
    (hnode : ∀ temp, state.temp? = some temp → t'.node? temp = t.node? temp) :
    c.Sound t₀ t' state := by
  have hholds : ∀ {temp rest}, state.temp? = some temp → c.Holds t₀ t temp rest →
      c.Holds t₀ t' temp rest := by
    rintro temp rest htemp ⟨hplace, hnew, written, hwritten, hrest⟩
    exact ⟨hplace, hnew, written, (hnode temp htemp).trans hwritten, hrest⟩
  cases state with
  | writing path temp pieces => exact ⟨h.1, hholds rfl h.2⟩
  | moving path temp => exact ⟨h.1, hholds rfl h.2.1, h.2.2⟩
  | finished result => cases result <;> exact h
  | naming | preparing _ | opening _ => exact h

/-! #### One lemma for each operation -/

theorem Does.adds (hadds : FileTree.AddsDirectories t t'
      ((Location.ofString c.save.directory).Passes t.here)) (hsound : c.Sound t₀ t' state')
    (hgoing : state.written? = none) (htemp : state.temp? = none) (htemp' : state'.temp? = none)
    (hwritten' : state'.written? = none) : c.Does t₀ t state t' state' where
  here := hadds.here
  sound := hsound
  going := hgoing
  made p hp := by rw [htemp'] at hp; cases hp
  gone p hp := by rw [htemp] at hp; cases hp
  landed path hpath := by rw [hwritten'] at hpath; cases hpath
  frame p _ _ _ := hadds.node p

theorem Does.opened (hpath : outputPath c.save.directory c.save.filename = .ok path)
    (hplace : c.IsTemp t₀.here temp) (hnew : t₀.file? temp = none) (hnone : t.node? temp = none)
    (hne : temp ≠ []) : c.Does t₀ t (.opening path) (t.put temp (.file []))
      (.writing path temp c.save.pieces) where
  here := rfl
  sound := ⟨hpath, hplace, hnew, [], by rw [FileTree.node?_put hne, if_pos rfl], rfl⟩
  going := rfl
  made p hp := by cases hp; exact .inr hnone
  gone p hp := by cases hp
  landed path hpath := by cases hpath
  frame p _ hp _ := by
    refine .inl ?_
    rw [FileTree.node?_put hne, if_neg]
    rintro rfl
    exact hp rfl

theorem Does.wrote {piece : List UInt8} (h : c.Sound t₀ t (.writing path temp (piece :: rest))) :
    c.Does t₀ t (.writing path temp (piece :: rest)) (t.append temp piece)
      (.writing path temp rest) := by
  obtain ⟨hpath, hplace, hnew, written, hwritten, hrest⟩ := h
  have hnode := FileTree.node?_append hwritten piece
  have hmore : c.Holds t₀ (t.append temp piece) temp rest := by
    refine ⟨hplace, hnew, written ++ piece, by rw [hnode, if_pos rfl], ?_⟩
    rw [hrest, List.flatten_cons, List.append_assoc]
  exact {
    here := FileTree.append_here t temp piece
    sound := ⟨hpath, hmore⟩
    going := rfl
    made := fun p hp => .inl hp
    gone := fun p hp => .inl hp
    landed := fun path hpath => by cases hpath
    frame := fun p hp _ _ => by
      refine .inl ?_
      rw [hnode, if_neg]
      rintro rfl
      exact hp rfl }

theorem Does.closed (h : c.Sound t₀ t (.writing path temp [])) (hfault : c.save.fault = none) :
    c.Does t₀ t (.writing path temp []) t (.moving path temp) where
  here := rfl
  sound := ⟨h.1, h.2, hfault⟩
  going := rfl
  made _ hp := .inl hp
  gone _ hp := .inl hp
  landed _ hpath := by cases hpath
  frame _ _ _ _ := .inl rfl

theorem Does.abandoned (h : c.Sound t₀ t state) (htemp : state.temp? = some temp)
    (hgoing : state.written? = none) (e : StoreError) :
    c.Does t₀ t state (Save.abandon t temp e).1 (Save.abandon t temp e).2 := by
  obtain ⟨written, hwritten⟩ := h.isFile htemp
  have hne : temp ≠ [] := by
    rintro rfl
    cases hwritten
  have hnode := FileTree.node?_remove (t := t) hne
  exact {
    here := rfl
    sound := trivial
    going := hgoing
    made := fun p hp => by cases hp
    gone := fun p hp => by
      rw [htemp] at hp
      cases hp
      exact .inr (by rw [Save.abandon, hnode, if_pos rfl])
    landed := fun path hpath => by cases hpath
    frame := fun p hp _ _ => by
      refine .inl ?_
      rw [Save.abandon, hnode, if_neg]
      rintro rfl
      exact hp htemp }

theorem Does.moved (h : c.Sound t₀ t (.moving path temp)) (hhere : t.here = t₀.here)
    (hrename : t.rename temp (.ofString path) = .ok t') :
    c.Does t₀ t (.moving path temp) t' (.finished (.ok path)) := by
  obtain ⟨hpath, ⟨⟨name, hname⟩, -, written, hwritten, hrest⟩, hfault⟩ := h
  obtain ⟨hne, hdir, n, hn, rfl⟩ := FileTree.rename_eq_ok hrename
  have htemp : temp ≠ [] := by
    rintro rfl
    cases hwritten
  have hcontent : n = .file c.save.pieces.flatten := by
    rw [hwritten, Option.some.injEq] at hn
    rw [← hn, hrest, List.flatten_nil, List.append_nil]
  have hnode : ∀ p, ((t.remove temp).put ((Location.ofString path).place t.here) n).node? p =
      if p = (Location.ofString path).place t.here then some n
      else if p = temp then none else t.node? p := by
    intro p
    rw [FileTree.node?_put hne, FileTree.node?_remove htemp]
  exact {
    here := rfl
    sound := ⟨hpath, hfault⟩
    going := rfl
    made := fun p hp => by cases hp
    gone := fun p hp => by
      cases hp
      -- the temporary file is not where the output file is
      have hout : temp ≠ (Location.ofString path).place t.here := by
        rw [hname, hhere]
        exact (name.place_ne_output _ _ hpath).symm
      exact .inr (by rw [hnode, if_neg hout, if_pos rfl])
    landed := fun path hpath => by
      cases hpath
      exact ⟨hdir, by rw [hnode, if_pos rfl, hcontent]⟩
    frame := fun p hp _ hout => by
      refine .inl ?_
      rw [hnode, if_neg (Ne.symm (hout path rfl)), if_neg]
      rintro rfl
      exact hp rfl }

/-- What the next operation of a call may do. A temporary file is made where
there was nothing at first. -/
theorem step_does (h : c.Sound t₀ t state) (hhere : t.here = t₀.here)
    (hnew : ∀ p, c.IsTemp t₀.here p → t.node? p = none → t₀.file? p = none) (name : TempName) :
    c.save.step name.name t state = (t, state) ∨
      c.Does t₀ t state (c.save.step name.name t state).1 (c.save.step name.name t state).2 := by
  cases state with
  | naming =>
    refine .inr ?_
    simp only [Save.step]
    rcases hpath : outputPath c.save.directory c.save.filename with e | path
    · exact .adds (.refl t _) trivial rfl rfl rfl rfl
    · exact .adds (.refl t _) hpath rfl rfl rfl rfl
  | preparing path =>
    refine .inr ?_
    have hadds := ensureDirectory_adds t c.save.directory
    simp only [Save.step]
    rcases hensure : ensureDirectory t c.save.directory with ⟨t₁, e | ⟨⟩⟩
    · rw [hensure] at hadds
      exact .adds hadds trivial rfl rfl rfl rfl
    · rw [hensure] at hadds
      exact .adds hadds h rfl rfl rfl rfl
  | opening path =>
    refine .inr ?_
    simp only [Save.step]
    rcases hcreate : t.createFile (.ofString (joinPath c.save.directory name.name)) with
      fault | ⟨t₁, temp⟩
    · exact .adds (.refl t _) trivial rfl rfl rfl rfl
    · obtain ⟨hne, hnone, rfl⟩ := FileTree.createFile_eq_ok hcreate
      have hplace : c.IsTemp t₀.here temp := by
        refine ⟨name, ?_⟩
        rw [FileTree.createFile_place hcreate, hhere, Location.place_joinPath _ name.isName]
      exact .opened h hplace (hnew temp hplace hnone) hnone hne
  | writing path temp pieces =>
    refine .inr ?_
    rcases pieces with _ | ⟨piece, pieces⟩
    · simp only [Save.step]
      rcases hfault : c.save.fault with _ | fault
      · exact .closed h hfault
      · exact .abandoned h rfl rfl _
    · exact .wrote h
  | moving path temp =>
    refine .inr ?_
    simp only [Save.step]
    rcases hrename : t.rename temp (.ofString path) with fault | t₁
    · exact .abandoned h rfl rfl _
    · exact .moved h hhere hrename
  | finished result => exact .inl rfl

/-- **What an act of a call may do**, if it does anything. -/
theorem act_does (h : c.Sound t₀ t state) (hhere : t.here = t₀.here)
    (hnew : ∀ p, c.IsTemp t₀.here p → t.node? p = none → t₀.file? p = none) (act : Act) :
    c.save.act t state act = (t, state) ∨
      c.Does t₀ t state (c.save.act t state act).1 (c.save.act t state act).2 := by
  cases act with
  | go name => exact step_does h hhere hnew name
  | makeDirectory k =>
    cases state with
    | preparing path =>
      simp only [Save.act]
      rcases hl : (Location.ofString c.save.directory).ancestors[k]? with _ | l
      · exact .inl rfl
      · rcases hmake : t.makeDirectory l with fault | t₁
        · simp only [hmake]
          exact .inl rfl
        · have hadds : FileTree.AddsDirectories t t₁
              ((Location.ofString c.save.directory).Passes t.here) := by
            refine (FileTree.makeDirectory_eq_ok hmake).1.mono fun p ⟨hne, hp⟩ => ?_
            rw [hp]
            exact Location.passes_of_mem_ancestors (List.mem_of_getElem? hl) hne
          simp only [hmake]
          exact .inr (.adds hadds h rfl rfl rfl rfl)
    | naming | opening _ | writing _ _ _ | moving _ _ | finished _ => exact .inl rfl
  | fail e =>
    cases state with
    | finished result => exact .inl rfl
    | writing path temp pieces => exact .inr (.abandoned h rfl rfl e)
    | moving path temp => exact .inr (.abandoned h rfl rfl e)
    | naming | preparing _ | opening _ =>
      exact .inr (.adds (.refl t _) trivial rfl rfl rfl rfl)

/-! #### What others see of it -/

section Frame

variable {p : Place} {n : Node}

/-- A temporary file is not made where something is. -/
theorem Does.temp?_ne (h : c.Does t₀ t state t' state') (hp : t.node? p = some n)
    (hold : state.temp? ≠ some p) : state'.temp? ≠ some p := by
  intro hnew
  rcases h.made p hnew with htemp | hnone
  · exact hold htemp
  · rw [hp] at hnone
    cases hnone

/-- What is there stays, but for the files of the call. -/
theorem Does.keeps (h : c.Does t₀ t state t' state') (hp : t.node? p = some n)
    (hold : state.temp? ≠ some p)
    (hout : ∀ path, state'.written? = some path → (Location.ofString path).place t.here ≠ p) :
    t'.node? p = some n := by
  rcases h.frame p hold (h.temp?_ne hp hold) hout with hsame | ⟨hnone, -⟩
  · rw [hsame, hp]
  · rw [hp] at hnone
    cases hnone

theorem Does.file? (h : c.Does t₀ t state t' state') (hold : state.temp? ≠ some p)
    (hnew : state'.temp? ≠ some p)
    (hout : ∀ path, state'.written? = some path → (Location.ofString path).place t.here ≠ p) :
    t'.file? p = t.file? p := by
  unfold FileTree.file?
  rcases h.frame p hold hnew hout with hsame | ⟨hnone, hdir, -⟩
  · rw [hsame]
  · rw [hnone, hdir]

end Frame

end SaveCall

end RuleHarvest
