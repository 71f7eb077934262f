/-
# Saves that run at the same time

The temporary files of two calls are at different places, and none is where an
output file can be. So what a call knows of its files stays true while the
others act (`Scene.Inv.other`), and each act of a call keeps `Scene.Inv`: a
place without a temporary file holds what it held at first, or all of what the
last call to move its file there was to write. This is so at every moment of
every interleaving (`Scene.run_inv`), which is all that a reader of the output
files can see (`readers_see_whole_files`).

Key definitions: `Scene.Inv`, `Scene.Shows`.
Key theorems: `Scene.Inv.does`, `Scene.step_inv`, `Scene.run_inv`,
`readers_see_whole_files`.
-/
import RuleHarvest.Proofs.Store.Acts

namespace RuleHarvest

open Files

/-! ### What stays true -/

/-- What is true at every moment of a run that began with the tree `t₀`. -/
structure Scene.Inv {ι : Type} (t₀ : FileTree) (calls : ι → SaveCall) (σ : Scene ι) : Prop where
  here : σ.tree.here = t₀.here
  sound : ∀ i, (calls i).Sound t₀ σ.tree (σ.states i)
  /-- Two calls have two temporary files. -/
  apart : ∀ i j p, (σ.states i).temp? = some p → (σ.states j).temp? = some p → i = j
  moved : ∀ i, i ∈ σ.moved ↔ (σ.states i).written?.isSome
  once : σ.moved.Nodup
  /-- But for the temporary files, a file is as at first or as the last call to
  move one there was to write it. -/
  files : ∀ p, (∀ i, (σ.states i).temp? ≠ some p) →
    σ.tree.file? p = (σ.stored? calls t₀.here p).or (t₀.file? p)
  kept : ∀ p, t₀.node? p = some .directory → σ.tree.node? p = some .directory
  fresh : ∀ p, σ.tree.node? p = some .directory → t₀.node? p = some .directory ∨
    ∃ i, (Location.ofString (calls i).save.directory).Passes t₀.here p

namespace SaveCall

variable {c : SaveCall} {t₀ t t' : FileTree} {state state' : SaveState} {p : Place}

/-- No call is to put anything where a temporary file may be. -/
theorem IsTemp.place?_ne (h : c.IsTemp t₀.here p) (d : SaveCall) : d.place? t₀.here ≠ some p := by
  obtain ⟨name, rfl⟩ := h
  unfold place?
  split
  · rename_i path hpath
    intro hplace
    exact name.place_ne_output _ _ hpath (Option.some.inj hplace)
  · intro hplace
    cases hplace

theorem content?_of_written (h : c.Sound t₀ t state) {path : String}
    (hpath : state.written? = some path) (p : Place) : c.content? t₀.here p =
      if (Location.ofString path).place t₀.here = p then some c.save.pieces.flatten else none := by
  obtain ⟨houtput, hfault⟩ := h.outputPath_of_written? hpath
  unfold content? place?
  rw [houtput, c.contentOf_of_fault hfault]
  simp only [Option.some.injEq]
  rfl

end SaveCall

namespace Scene

variable {ι : Type} {calls : ι → SaveCall} {σ : Scene ι} {t₀ : FileTree} {i : ι} {t' : FileTree}
  {state' : SaveState}

theorem start_inv (t : FileTree) (calls : ι → SaveCall) : Inv t calls (start t) where
  here := rfl
  sound _ := trivial
  apart _ _ _ hp := by cases hp
  moved _ := ⟨fun h => absurd h List.not_mem_nil, fun h => by cases h⟩
  once := List.nodup_nil
  files _ _ := rfl
  kept _ hp := hp
  fresh _ hp := .inl hp

/-- Where a call may have a temporary file nothing is stored. -/
theorem stored?_of_isTemp {c : SaveCall} {p : Place} (h : c.IsTemp t₀.here p) :
    σ.stored? calls t₀.here p = none := by
  have hnone : ∀ i, (calls i).content? t₀.here p = none := fun i =>
    if_neg (h.place?_ne (calls i))
  unfold stored?
  simp [hnone]

/-- Where a temporary file may be and nothing is, there was no file at first. -/
theorem Inv.new (h : Inv t₀ calls σ) {c : SaveCall} {p : Place} (hp : c.IsTemp t₀.here p)
    (hnone : σ.tree.node? p = none) : t₀.file? p = none := by
  have hfree : ∀ i, (σ.states i).temp? ≠ some p := by
    intro i hi
    obtain ⟨written, hwritten⟩ := (h.sound i).isFile hi
    rw [hnone] at hwritten
    cases hwritten
  have hfiles := h.files p hfree
  unfold FileTree.file? at hfiles
  rw [hnone, stored?_of_isTemp hp, Option.none_or] at hfiles
  exact hfiles.symm

/-- The temporary file of another call is left alone. -/
theorem Inv.other (h : Inv t₀ calls σ) (hdoes : (calls i).Does t₀ σ.tree (σ.states i) t' state')
    {j : ι} (hj : j ≠ i) {p : Place} (htemp : (σ.states j).temp? = some p) :
    state'.temp? ≠ some p ∧ t'.node? p = σ.tree.node? p := by
  obtain ⟨written, hwritten⟩ := (h.sound j).isFile htemp
  obtain ⟨rest, ⟨name, hname⟩, -⟩ := (h.sound j).holds htemp
  have hold : (σ.states i).temp? ≠ some p := fun hi => hj (h.apart j i p htemp hi)
  have hout : ∀ path, state'.written? = some path →
      (Location.ofString path).place σ.tree.here ≠ p := by
    intro path hpath
    rw [h.here, hname]
    exact name.place_ne_output _ _ (hdoes.sound.outputPath_of_written? hpath).1
  exact ⟨hdoes.temp?_ne hwritten hold, (hdoes.keeps hwritten hold hout).trans hwritten.symm⟩

/-- Directories stay. -/
theorem Inv.keeps (h : Inv t₀ calls σ) (hdoes : (calls i).Does t₀ σ.tree (σ.states i) t' state')
    {p : Place} (hp : σ.tree.node? p = some .directory) : t'.node? p = some .directory := by
  have hold : (σ.states i).temp? ≠ some p := by
    intro htemp
    obtain ⟨written, hwritten⟩ := (h.sound i).isFile htemp
    rw [hp] at hwritten
    cases hwritten
  refine hdoes.keeps hp hold ?_
  rintro path hpath rfl
  exact (hdoes.landed path hpath).1 hp

/-- New directories are along the path of the call. -/
theorem Inv.adds (h : Inv t₀ calls σ) (hdoes : (calls i).Does t₀ σ.tree (σ.states i) t' state')
    {p : Place} (hp : t'.node? p = some .directory) : σ.tree.node? p = some .directory ∨
      (Location.ofString (calls i).save.directory).Passes t₀.here p := by
  have hnew : state'.temp? ≠ some p := by
    intro htemp
    obtain ⟨written, hwritten⟩ := hdoes.sound.isFile htemp
    rw [hp] at hwritten
    cases hwritten
  have hold : (σ.states i).temp? ≠ some p := by
    intro htemp
    rcases hdoes.gone p htemp with htemp | hnone
    · exact hnew htemp
    · rw [hp] at hnone
      cases hnone
  have hout : ∀ path, state'.written? = some path →
      (Location.ofString path).place σ.tree.here ≠ p := by
    rintro path hpath rfl
    rw [(hdoes.landed path hpath).2] at hp
    cases hp
  rcases hdoes.frame p hold hnew hout with hsame | ⟨-, -, hpass⟩
  · exact .inl (hsame ▸ hp)
  · exact .inr (h.here ▸ hpass)

section After

variable [DecidableEq ι]

theorem after_states_self (r : FileTree × SaveState) : (σ.after i r).states i = r.2 := by
  simp [after]

theorem after_states_of_ne {j : ι} (hj : j ≠ i) (r : FileTree × SaveState) :
    (σ.after i r).states j = σ.states j := by
  simp [after, hj]

theorem after_moved (hgoing : (σ.states i).written? = none) (r : FileTree × SaveState) :
    (σ.after i r).moved = if r.2.written?.isSome then i :: σ.moved else σ.moved := by
  unfold after
  rw [hgoing, Option.isNone_none, Bool.true_and]

theorem stored?_after (hgoing : (σ.states i).written? = none) (here p : Place) :
    (σ.after i (t', state')).stored? calls here p =
      if state'.written?.isSome then ((calls i).content? here p).or (σ.stored? calls here p)
      else σ.stored? calls here p := by
  unfold stored?
  rw [after_moved hgoing]
  split
  · rw [List.findSome?_cons]
    rcases (calls i).content? here p with _ | content <;> rfl
  · rfl

theorem Inv.files_after (h : Inv t₀ calls σ)
    (hdoes : (calls i).Does t₀ σ.tree (σ.states i) t' state') {p : Place}
    (hp : ∀ j, ((σ.after i (t', state')).states j).temp? ≠ some p) : t'.file? p =
      ((σ.after i (t', state')).stored? calls t₀.here p).or (t₀.file? p) := by
  have hnew : state'.temp? ≠ some p := by
    have hi := hp i
    rwa [after_states_self] at hi
  by_cases hold : (σ.states i).temp? = some p
  · -- the temporary file is gone, and nothing is ever stored where it was
    obtain ⟨rest, hplace, hfirst, -⟩ := (h.sound i).holds hold
    have hnone : t'.node? p = none := (hdoes.gone p hold).resolve_left hnew
    rw [stored?_of_isTemp hplace, hfirst]
    unfold FileTree.file?
    rw [hnone]
    rfl
  · have hfree : ∀ j, (σ.states j).temp? ≠ some p := by
      intro j
      by_cases hj : j = i
      · rw [hj]
        exact hold
      · have hpj := hp j
        rwa [after_states_of_ne hj] at hpj
    have hfiles := h.files p hfree
    rw [stored?_after hdoes.going]
    rcases hwritten : state'.written? with _ | path
    · rw [hdoes.file? hold hnew (by simp [hwritten]), hfiles]
      rfl
    · rw [Option.isSome_some, if_pos rfl, SaveCall.content?_of_written hdoes.sound hwritten]
      by_cases hout : (Location.ofString path).place t₀.here = p
      · have hlanded := (hdoes.landed path hwritten).2
        rw [h.here, hout] at hlanded
        rw [if_pos hout]
        unfold FileTree.file?
        rw [hlanded]
        rfl
      · have hsame : t'.file? p = σ.tree.file? p := by
          refine hdoes.file? hold hnew fun path' hpath' => ?_
          rw [hwritten, Option.some.injEq] at hpath'
          rwa [← hpath', h.here]
        rw [if_neg hout, Option.none_or, hsame, hfiles]

/-- **What one call does keeps everything true for all.** -/
theorem Inv.does (h : Inv t₀ calls σ)
    (hdoes : (calls i).Does t₀ σ.tree (σ.states i) t' state') :
    Inv t₀ calls (σ.after i (t', state')) where
  here := hdoes.here.trans h.here
  sound j := by
    by_cases hj : j = i
    · rw [hj, after_states_self]
      exact hdoes.sound
    · rw [after_states_of_ne hj]
      exact (h.sound j).frame fun temp htemp => (h.other hdoes hj htemp).2
  apart j k p hpj hpk := by
    have hother : ∀ {l}, l ≠ i → (σ.states l).temp? = some p → state'.temp? ≠ some p :=
      fun hl htemp => (h.other hdoes hl htemp).1
    by_cases hj : j = i <;> by_cases hk : k = i
    · rw [hj, hk]
    · rw [hj, after_states_self] at hpj
      rw [after_states_of_ne hk] at hpk
      exact absurd hpj (hother hk hpk)
    · rw [after_states_of_ne hj] at hpj
      rw [hk, after_states_self] at hpk
      exact absurd hpk (hother hj hpj)
    · rw [after_states_of_ne hj] at hpj
      rw [after_states_of_ne hk] at hpk
      exact h.apart j k p hpj hpk
  moved j := by
    rw [after_moved hdoes.going]
    by_cases hj : j = i
    · rw [hj, after_states_self]
      split
      · rename_i hwritten
        simpa using hwritten
      · rename_i hwritten
        simp [h.moved, hdoes.going, hwritten]
    · rw [after_states_of_ne hj, ← h.moved j]
      split
      · simp [hj]
      · rfl
  once := by
    have hnot : i ∉ σ.moved := by
      rw [h.moved, hdoes.going]
      exact Bool.false_ne_true
    rw [after_moved hdoes.going]
    split
    · exact List.nodup_cons.2 ⟨hnot, h.once⟩
    · exact h.once
  files p hp := h.files_after hdoes hp
  kept p hp := h.keeps hdoes (h.kept p hp)
  fresh p hp := by
    rcases h.adds hdoes hp with hp | hpass
    · exact h.fresh p hp
    · exact .inr ⟨i, hpass⟩

/-- A step that does nothing. -/
theorem after_same : σ.after i (σ.tree, σ.states i) = σ := by
  unfold after
  rw [Function.update_eq_self]
  rcases (σ.states i).written? with _ | path <;> rfl

/-- **Each act of a call keeps everything true.** -/
theorem step_inv (h : Inv t₀ calls σ) (event : ι × Act) : Inv t₀ calls (σ.step calls event) := by
  obtain ⟨i, act⟩ := event
  rw [step]
  have hnew : ∀ p, (calls i).IsTemp t₀.here p → σ.tree.node? p = none → t₀.file? p = none :=
    fun p hp hnone => h.new hp hnone
  rcases (calls i).act_does (h.sound i) h.here hnew act with hsame | hdoes
  · rw [hsame, after_same]
    exact h
  · exact h.does hdoes

/-- **What is true at every moment of a run**, in whatever order the calls
act. -/
theorem run_inv (h : Inv t₀ calls σ) (events : List (ι × Act)) :
    Inv t₀ calls (σ.run calls events) := by
  unfold run
  induction events generalizing σ with
  | nil => exact h
  | cons event events ih => exact ih (step_inv h event)

end After

end Scene

/-! ### What readers see -/

theorem SaveState.temp?_of_isFinished {state : SaveState} (h : state.isFinished = true)
    (p : Place) : state.temp? ≠ some p := by
  cases state with
  | finished result => simp [temp?]
  | naming | preparing _ | opening _ | writing _ _ _ | moving _ _ => cases h

theorem SaveState.written?_isSome {state : SaveState} :
    state.written?.isSome ↔ ∃ path, state = .finished (.ok path) := by
  cases state with
  | finished result =>
    cases result with
    | ok path => simp [written?]
    | error e => simp [written?]
  | naming | preparing _ | opening _ | writing _ _ _ | moving _ _ => simp [written?]

/-- What is at a place: the file of the beginning if no call has moved its file
there, and else the whole text and a line end of the last call that has. -/
def Scene.Shows {ι : Type} (t₀ : FileTree) (calls : ι → SaveCall) (σ : Scene ι) (p : Place) :
    Prop :=
  (σ.tree.file? p = t₀.file? p ∧ ∀ i ∈ σ.moved, (calls i).place? t₀.here ≠ some p) ∨
    ∃ later i earlier, σ.moved = later ++ i :: earlier ∧ (calls i).place? t₀.here = some p ∧
      (∀ j ∈ later, (calls j).place? t₀.here ≠ some p) ∧
      ∃ text, (Json.Value.list (calls i).values).pretty = .ok text ∧
        σ.tree.file? p = some (Text.Utf8.encode (text.toList ++ ['\n']))

namespace Scene

variable {ι : Type} {calls : ι → SaveCall} {σ : Scene ι} {t₀ : FileTree} {p : Place}

/-- A call that has moved its file had a content to write. -/
theorem Inv.content?_eq_none (h : Inv t₀ calls σ) {i : ι} (hi : i ∈ σ.moved) :
    (calls i).content? t₀.here p = none ↔ (calls i).place? t₀.here ≠ some p := by
  obtain ⟨path, hpath⟩ := Option.isSome_iff_exists.1 ((h.moved i).1 hi)
  obtain ⟨-, hfault⟩ := (h.sound i).outputPath_of_written? hpath
  unfold SaveCall.content?
  rw [(calls i).contentOf_of_fault hfault]
  simp [Except.toOption]

theorem Inv.shows (h : Inv t₀ calls σ) (hp : ∀ i, (σ.states i).temp? ≠ some p) :
    σ.Shows t₀ calls p := by
  have hfile := h.files p hp
  rcases hstored : σ.stored? calls t₀.here p with _ | content
  · rw [hstored] at hfile
    have hnone := List.findSome?_eq_none_iff.1 hstored
    exact .inl ⟨hfile, fun i hi => (h.content?_eq_none hi).1 (hnone i hi)⟩
  · obtain ⟨later, i, earlier, hmoved, hcontent, hlater⟩ := List.findSome?_eq_some_iff.1 hstored
    have hother : ∀ j ∈ later, (calls j).place? t₀.here ≠ some p := by
      intro j hj
      have hj' : j ∈ σ.moved := by rw [hmoved]; exact List.mem_append_left _ hj
      exact (h.content?_eq_none hj').1 (hlater j hj)
    unfold SaveCall.content? at hcontent
    split_ifs at hcontent with hplace
    rcases hvalues : contentOf (calls i).values with fault | bytes
    · rw [hvalues] at hcontent
      cases hcontent
    · obtain ⟨text, htext, hbytes⟩ := contentOf_eq_ok.1 hvalues
      rw [hvalues] at hcontent
      cases hcontent
      refine .inr ⟨later, i, earlier, hmoved, hplace, hother, text, htext, ?_⟩
      rw [hfile, hstored, hbytes]
      rfl

end Scene

/-- **Readers never see a partial file.** Calls save values, each in pieces of
any sizes, and their operations come in any order; some may fail. At every
moment, so also when everything stops there, the file at a path that
`outputPath` gives is the one of the beginning, or holds the whole text of one
call and a line end: that of the last call to move its file there. When all
calls have ended and their results are dropped this is so at every place, so no
temporary file is left. The calls that have moved their file are those that have
succeeded. Directories stay, and new ones are along the paths of the calls. -/
theorem readers_see_whole_files {ι : Type} [DecidableEq ι] (t : FileTree) (calls : ι → SaveCall)
    (events : List (ι × Act)) :
    let σ := (Scene.start t).run calls events
    (∀ directory filename path, outputPath directory filename = .ok path →
      σ.Shows t calls ((Location.ofString path).place t.here)) ∧
    ((∀ i, (σ.states i).isFinished) → ∀ p, σ.Shows t calls p) ∧
    (∀ i, i ∈ σ.moved ↔ ∃ path, σ.states i = .finished (.ok path) ∧
      outputPath (calls i).save.directory (calls i).save.filename = .ok path) ∧
    σ.moved.Nodup ∧
    ∀ p, (t.node? p = some .directory → σ.tree.node? p = some .directory) ∧
      (σ.tree.node? p = some .directory → t.node? p = some .directory ∨
        ∃ i, (Location.ofString (calls i).save.directory).Passes t.here p) := by
  intro σ
  have hinv : Scene.Inv t calls σ := Scene.run_inv (Scene.start_inv t calls) events
  refine ⟨fun directory filename path hpath => ?_, fun hfinished p => ?_, fun i => ?_, hinv.once,
    fun p => ⟨hinv.kept p, hinv.fresh p⟩⟩
  · refine hinv.shows fun i htemp => ?_
    obtain ⟨rest, ⟨name, hname⟩, -⟩ := (hinv.sound i).holds htemp
    exact name.place_ne_output _ _ hpath hname
  · exact hinv.shows fun i => SaveState.temp?_of_isFinished (hfinished i) p
  · rw [hinv.moved, SaveState.written?_isSome]
    constructor
    · rintro ⟨path, hpath⟩
      have hsound := hinv.sound i
      rw [hpath] at hsound
      exact ⟨path, hpath, hsound.1⟩
    · rintro ⟨path, hpath, -⟩
      exact ⟨path, hpath⟩

/-- Two calls for one file, the first in pieces of the usual size. -/
def racingCalls : Bool → SaveCall
  | false => .ofValues "out" "rules" []
  | true => {
      values := [.null]
      save := {
        directory := "out"
        filename := " rules.json "
        pieces := [[91, 10, 32, 32], [110, 117, 108, 108, 10], [93, 10]] }
      writes := by rfl }

/-- The two calls take turns. -/
def racingEvents : List (Bool × Act) :=
  let a := (false, Act.go (.ofNat 1))
  let b := (true, Act.go (.ofNat 2))
  [b, a, b, b, a, a, b, a, a, b, b, b, b, a, a]

theorem readers_see_whole_files_racing :
    let σ := (Scene.start { entries := [] }).run racingCalls racingEvents
    (∀ i, (σ.states i).isFinished) ∧ σ.moved = [false, true] ∧
      σ.Shows { entries := [] } racingCalls ["out", "rules.json"] ∧
      σ.tree.file? ["out", "rules.json"] = some [91, 93, 10] := by
  intro σ
  have hfinished : ∀ i, (σ.states i).isFinished = true := by decide +kernel
  have hshows := (readers_see_whole_files { entries := [] } racingCalls racingEvents).2.1 hfinished
  exact ⟨hfinished, by decide +kernel, hshows ["out", "rules.json"], by decide +kernel⟩

end RuleHarvest
