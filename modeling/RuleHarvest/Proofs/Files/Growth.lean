/-
# What operations do to a file tree

Making a directory and all that it stands in adds directories along the path
and touches nothing else, also when it fails half-way (`makeAll_adds`). When
it succeeds the path names a directory (`makeAll_isDirectory`), and doing it
again changes nothing (`makeAll_of_isDirectory`). A file is made where nothing
was, and moved to where no directory is.

Key definitions: `FileTree.AddsDirectories`.
Key theorems: `makeAll_adds`, `makeAll_isDirectory`, `makeAll_of_isDirectory`,
`createFile_eq_ok`, `rename_eq_ok`.
-/
import RuleHarvest.Proofs.Files.Place

namespace RuleHarvest
namespace Files
namespace FileTree

variable {t t' : FileTree} {l : Location} {p q : Place}

/-! ### New directories -/

/-- The second tree is the first with more directories, all at places with a
property. -/
structure AddsDirectories (t t' : FileTree) (new : Place → Prop) : Prop where
  here : t'.here = t.here
  node : ∀ p, t'.node? p = t.node? p ∨
    (t.node? p = none ∧ t'.node? p = some .directory ∧ new p)

theorem AddsDirectories.refl (t : FileTree) (new : Place → Prop) : AddsDirectories t t new :=
  ⟨rfl, fun _ => .inl rfl⟩

theorem AddsDirectories.mono {new new' : Place → Prop} (h : AddsDirectories t t' new)
    (hnew : ∀ p, new p → new' p) : AddsDirectories t t' new' :=
  ⟨h.here, fun p => (h.node p).imp id fun ⟨hnone, hdir, hp⟩ => ⟨hnone, hdir, hnew p hp⟩⟩

theorem AddsDirectories.trans {t₁ t₂ t₃ : FileTree} {new : Place → Prop}
    (h : AddsDirectories t₁ t₂ new) (h' : AddsDirectories t₂ t₃ new) :
    AddsDirectories t₁ t₃ new := by
  refine ⟨h'.here.trans h.here, fun p => ?_⟩
  rcases h.node p with hp | ⟨hnone, hdir, hp⟩ <;> rcases h'.node p with hp' | ⟨hnone', hdir', hp'⟩
  · exact .inl (hp'.trans hp)
  · exact .inr ⟨hp ▸ hnone', hdir', hp'⟩
  · exact .inr ⟨hnone, hp'.trans hdir, hp⟩
  · rw [hdir] at hnone'
    cases hnone'

/-- Nothing that was there has changed. -/
theorem AddsDirectories.keeps {new : Place → Prop} {n : Node} (h : AddsDirectories t t' new)
    (hp : t.node? p = some n) : t'.node? p = some n := by
  rcases h.node p with hp' | ⟨hnone, -, -⟩
  · exact hp'.trans hp
  · rw [hp] at hnone
    cases hnone

theorem AddsDirectories.grows {new : Place → Prop} (h : AddsDirectories t t' new) :
    Grows t t' := by
  refine ⟨h.here, fun p hp => ?_, fun p hp => h.keeps hp⟩
  obtain ⟨n, hn⟩ := Option.isSome_iff_exists.1 hp
  rw [h.keeps hn]
  rfl

/-! ### Where a new node goes -/

theorem slot_eq_ok {name : String} (h : t.slot l = .ok (p, name)) :
    ∃ ns, l.names = ns ++ [name] ∧ t.walk (t.start l) ns = .ok p ∧
      t.node? p = some .directory ∧ name ≠ "." ∧ name ≠ ".." ∧ isTooLong name = false := by
  unfold slot at h
  rcases hlast : l.names.getLast? with _ | last
  · rw [hlast] at h
    cases h
  · rw [hlast] at h
    dsimp only at h
    rcases hwalk : t.walk (t.start l) l.names.dropLast with e | r
    · rw [hwalk] at h
      cases h
    · rw [hwalk] at h
      simp only [bind, Except.bind] at h
      rcases hr : t.node? r with _ | (_ | content)
      · rw [hr] at h
        cases h
      · rw [hr] at h
        dsimp only at h
        split_ifs at h with hdots hlong
        cases h
        have hne : name ≠ "." ∧ name ≠ ".." := by simpa using hdots
        refine ⟨l.names.dropLast, ?_, hwalk, hr, hne.1, hne.2, by simpa using hlong⟩
        obtain ⟨ns, hns⟩ := List.getLast?_eq_some_iff.1 hlast
        rw [hns, List.dropLast_concat]
      · rw [hr] at h
        cases h

/-- The place of a new node is the one that its path names. -/
theorem slot_place {name : String} (h : t.slot l = .ok (p, name)) :
    l.place t.here = p ++ [name] := by
  obtain ⟨ns, hns, hwalk, -, hdot, hup, -⟩ := slot_eq_ok h
  unfold Location.place
  rw [hns, resolve_append, resolve_singleton hdot hup]
  exact congrArg (· ++ [name]) (walk_eq_resolve hwalk).symm

/-- A node at the place of a path's last name makes the whole path walkable. -/
theorem walk_of_slot {name : String} (h : t.slot l = .ok (p, name)) (hg : Grows t t')
    (hnode : (t'.node? (p ++ [name])).isSome) :
    t'.walk (t'.start l) l.names = .ok (p ++ [name]) := by
  obtain ⟨ns, hns, hwalk, hdir, hdot, hup, hlong⟩ := slot_eq_ok h
  have hstart : t'.start l = t.start l := by unfold start; rw [hg.here]
  rw [hns, hstart]
  refine walk_append_iff.2 ⟨p, hg.walk hwalk, walk_cons_iff.2 ⟨p ++ [name], ⟨?_, ?_, ?_⟩, rfl⟩⟩
  · exact hg.directory p hdir
  · rw [resolve_singleton hdot hup]
  · exact fun _ _ => ⟨hlong, hnode⟩

/-! ### Making directories -/

theorem makeDirectory_eq_ok (h : t.makeDirectory l = .ok t') :
    AddsDirectories t t' (fun p => l.names ≠ [] ∧ p = l.place t.here) ∧
      t'.isDirectory l = true := by
  unfold makeDirectory at h
  split_ifs at h with hnul
  rcases hslot : t.slot l with e | ⟨p, name⟩
  · rw [hslot] at h
    cases h
  · rw [hslot] at h
    simp only [bind, Except.bind] at h
    split_ifs at h with hsome hclosed
    cases h
    have hplace := slot_place hslot
    obtain ⟨ns, hns, -⟩ := slot_eq_ok hslot
    have hne : l.names ≠ [] := by rw [hns]; simp
    have hnew : ∀ q, (t.put (p ++ [name]) .directory).node? q =
        if q = p ++ [name] then some .directory else t.node? q := node?_put (by simp) _
    have hadds : AddsDirectories t (t.put (p ++ [name]) .directory)
        (fun p => l.names ≠ [] ∧ p = l.place t.here) := by
      refine ⟨rfl, fun q => ?_⟩
      rw [hnew q]
      split_ifs with hq
      · refine .inr ⟨?_, rfl, hne, hq.trans hplace.symm⟩
        rw [hq]
        exact Option.not_isSome_iff_eq_none.1 hsome
      · exact .inl rfl
    refine ⟨hadds, isDirectory_iff.2 ⟨?_, ?_, ?_, ?_⟩⟩
    · simpa using hnul
    · unfold Location.isEmpty
      rw [hns]
      simp
    · rw [put_here, hplace]
      exact walk_of_slot hslot hadds.grows (by rw [hnew, if_pos rfl]; rfl)
    · rw [put_here, hplace, hnew, if_pos rfl]

/-- A directory that is there is not made again, and not for want of what it
stands in. -/
theorem makeDirectory_of_isDirectory (h : t.isDirectory l = true) :
    ∃ e, e ≠ .notFound ∧ t.makeDirectory l = .error e := by
  obtain ⟨hnul, hempty, hwalk, hdir⟩ := isDirectory_iff.1 h
  refine ⟨.exists, by decide, ?_⟩
  unfold makeDirectory slot
  rw [if_neg (by simpa using hnul)]
  rcases List.eq_nil_or_concat l.names with hnil | ⟨ns, name, hns⟩
  · have habsolute : l.absolute = true := by
      unfold Location.isEmpty at hempty
      simpa [hnil] using hempty
    rw [hnil, habsolute]
    rfl
  · rw [List.concat_eq_append] at hns
    rw [hns] at hwalk
    obtain ⟨p, hp, hlast⟩ := walk_append_iff.1 hwalk
    obtain ⟨q, ⟨hpdir, hq, hname⟩, -⟩ := walk_cons_iff.1 hlast
    rw [hns, List.getLast?_concat, List.dropLast_concat]
    dsimp only
    rw [hp]
    simp only [bind, Except.bind, hpdir]
    by_cases hdots : (name = "." || name = "..") = true
    · rw [if_pos hdots]
    · have hne : name ≠ "." ∧ name ≠ ".." := by simpa using hdots
      obtain ⟨hlong, hsome⟩ := hname hne.1 hne.2
      rw [hq, resolve_singleton hne.1 hne.2] at hsome
      rw [if_neg hdots, if_neg (by simpa using hlong)]
      dsimp only
      rw [if_pos hsome]

theorem unlessThere_eq_none {e : FileFault} :
    t.unlessThere l e = none ↔ t.isDirectory l = true := by
  unfold unlessThere
  split_ifs with h
  · exact iff_of_true rfl h
  · exact iff_of_false (by simp) h

/-- Nested directories are made at their own places only. -/
theorem makeNested_adds : ∀ (t : FileTree) (ls : List Location),
    AddsDirectories t (t.makeNested ls).1
      fun p => ∃ l ∈ ls, l.names ≠ [] ∧ p = l.place t.here
  | t, [] => .refl t _
  | t, l :: outer => by
    have hfirst : ∀ {t₁ t₂ : FileTree}, t₁.here = t.here → t₁.makeDirectory l = .ok t₂ →
        AddsDirectories t₁ t₂ fun p => ∃ m ∈ l :: outer, m.names ≠ [] ∧ p = m.place t.here := by
      intro t₁ t₂ hhere h
      rw [← hhere]
      exact (makeDirectory_eq_ok h).1.mono fun p hp => ⟨l, List.mem_cons_self, hp⟩
    have houter : AddsDirectories t (t.makeNested outer).1
        fun p => ∃ m ∈ l :: outer, m.names ≠ [] ∧ p = m.place t.here :=
      (makeNested_adds t outer).mono fun p ⟨m, hm, hp⟩ => ⟨m, List.mem_cons_of_mem _ hm, hp⟩
    rw [makeNested]
    split
    · rename_i t' hmake
      exact hfirst rfl hmake
    · split
      · rename_i t' e hnested
        rw [hnested] at houter
        exact houter
      · rename_i t' hnested
        rw [hnested] at houter
        split
        · rename_i t'' hmake
          exact houter.trans (hfirst houter.here hmake)
        · exact houter
    · exact .refl t _

/-- When nested directories were made the innermost one is there. -/
theorem makeNested_isDirectory {outer : List Location}
    (h : (t.makeNested (l :: outer)).2 = none) :
    (t.makeNested (l :: outer)).1.isDirectory l = true := by
  rw [makeNested] at h ⊢
  split at h
  · rename_i t' hmake
    exact (makeDirectory_eq_ok hmake).2
  · split at h
    · cases h
    · split at h
      · rename_i t'' hmake
        exact (makeDirectory_eq_ok hmake).2
      · exact unlessThere_eq_none.1 h
  · exact unlessThere_eq_none.1 h

/-- **Making a directory adds directories along its path and nothing else**,
whether it succeeds or not. -/
theorem makeAll_adds (t : FileTree) (l : Location) :
    AddsDirectories t (t.makeAll l).1 (l.Passes t.here) :=
  (makeNested_adds t l.ancestors).mono fun p ⟨m, hm, hne, hp⟩ => by
    rw [hp]
    exact Location.passes_of_mem_ancestors hm hne

/-- The empty path names no directory to make. -/
theorem makeAll_of_isEmpty (t : FileTree) (h : l.isEmpty = true) : t.makeAll l = (t, none) := by
  unfold makeAll Location.ancestors
  rw [if_pos h]
  rfl

theorem makeAll_isDirectory (h : (t.makeAll l).2 = none) (hl : l.isEmpty = false) :
    (t.makeAll l).1.isDirectory l = true := by
  unfold makeAll Location.ancestors at h ⊢
  rw [if_neg (by simpa using hl)] at h ⊢
  exact makeNested_isDirectory h

/-- A directory that is there is made without any change. -/
theorem makeAll_of_isDirectory (h : t.isDirectory l = true) : t.makeAll l = (t, none) := by
  obtain ⟨e, he, hmake⟩ := makeDirectory_of_isDirectory h
  have hl : l.isEmpty = false := (isDirectory_iff.1 h).2.1
  have hthere : t.unlessThere l e = none := unlessThere_eq_none.2 h
  unfold makeAll Location.ancestors
  rw [if_neg (by simpa using hl), makeNested, hmake]
  split
  · rename_i h
    cases h
  · rename_i h
    exact absurd (Except.error.inj h) he
  · rename_i h
    cases h
    exact congrArg (t, ·) hthere

/-! ### Files -/

theorem createFile_slot (h : t.createFile l = .ok (t', q)) : ∃ p name,
    t.slot l = .ok (p, name) ∧ q = p ++ [name] ∧ t.node? q = none ∧
      t' = t.put q (.file []) := by
  unfold createFile at h
  split_ifs at h with hnul
  rcases hslot : t.slot l with e | ⟨p, name⟩
  · rw [hslot] at h
    cases h
  · rw [hslot] at h
    simp only [bind, Except.bind] at h
    split_ifs at h with hsome hclosed
    cases h
    exact ⟨p, name, rfl, rfl, Option.not_isSome_iff_eq_none.1 hsome, rfl⟩

/-- A file is made where nothing was. -/
theorem createFile_eq_ok (h : t.createFile l = .ok (t', q)) :
    q ≠ [] ∧ t.node? q = none ∧ t' = t.put q (.file []) := by
  obtain ⟨p, name, -, rfl, hnone, hput⟩ := createFile_slot h
  exact ⟨by simp, hnone, hput⟩

/-- A file is made at the place that its path names. -/
theorem createFile_place (h : t.createFile l = .ok (t', q)) : q = l.place t.here := by
  obtain ⟨p, name, hslot, rfl, -⟩ := createFile_slot h
  exact (slot_place hslot).symm

/-- A file is moved to the place that a path names, unless a directory is
there. -/
theorem rename_eq_ok (h : t.rename p l = .ok t') :
    l.place t.here ≠ [] ∧ t.node? (l.place t.here) ≠ some .directory ∧
      ∃ n, t.node? p = some n ∧ t' = (t.remove p).put (l.place t.here) n := by
  unfold rename at h
  split_ifs at h with hnul
  rcases hslot : t.slot l with e | ⟨r, name⟩
  · rw [hslot] at h
    cases h
  · rw [hslot] at h
    rw [slot_place hslot]
    simp only [bind, Except.bind] at h
    split at h
    · cases h
    · rename_i n hnode hdir
      cases h
      exact ⟨by simp, fun hd => hdir hd, n, hnode, rfl⟩
    · cases h

end FileTree
end Files
end RuleHarvest
