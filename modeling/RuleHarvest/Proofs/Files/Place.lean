/-
# The places that paths name

A path names one place whatever the tree holds: its names are followed one
after the other, `.` stays and `..` goes back. Walking along the path in a
tree gets there or fails (`walk_eq_resolve`), and every place on the way is a
directory (`walk_directory`). So two spellings of a path can be told to name
the same place, and a tree that only gained nodes is walked as before
(`Grows.walk`).

Key definitions: `resolve`, `Location.place`, `Location.Passes`,
`FileTree.Grows`.
Key theorems: `walk_eq_resolve`, `walk_directory`, `Grows.walk`,
`passes_of_mem_ancestors`, `directory_of_passes`.
-/
import Mathlib.Tactic.SplitIfs
import RuleHarvest.Files.FileTree

namespace RuleHarvest
namespace Files

/-- The place that names lead to from a place on. -/
def resolve (p : Place) : List String → Place
  | [] => p
  | n :: ns =>
    if n = "." then resolve p ns
    else if n = ".." then resolve p.dropLast ns
    else resolve (p ++ [n]) ns

namespace Location

/-- Where a path starts, seen from a working directory. -/
def origin (here : Place) (l : Location) : Place := if l.absolute then [] else here

/-- The place that a path names. -/
def place (here : Place) (l : Location) : Place := resolve (l.origin here) l.names

/-- A path passes a place if one of its beginnings names it, the whole path
included. -/
def Passes (here : Place) (l : Location) (p : Place) : Prop :=
  ∃ k < l.names.length, p = resolve (l.origin here) (l.names.take (k + 1))

end Location

/-! ### Names -/

theorem resolve_append (ns ms : List String) :
    ∀ p, resolve p (ns ++ ms) = resolve (resolve p ns) ms := by
  induction ns with
  | nil => intro p; rfl
  | cons n ns ih =>
    intro p
    rw [List.cons_append, resolve, resolve]
    split
    · exact ih p
    · split
      · exact ih p.dropLast
      · exact ih (p ++ [n])

theorem resolve_singleton {n : String} (h : n ≠ ".") (h' : n ≠ "..") (p : Place) :
    resolve p [n] = p ++ [n] := by
  rw [resolve, if_neg h, if_neg h', resolve]

/-- The name `.` leads nowhere. -/
theorem resolve_filter (ns : List String) :
    ∀ p, resolve p (ns.filter (· ≠ ".")) = resolve p ns := by
  induction ns with
  | nil => intro p; rfl
  | cons n ns ih =>
    intro p
    by_cases h : n = "."
    · rw [List.filter_cons_of_neg (by simpa using h), resolve, if_pos h]
      exact ih p
    · rw [List.filter_cons_of_pos (by simpa using h), resolve, resolve, if_neg h, if_neg h]
      simp only [ih]

/-- A beginning of what is left of a list comes from a beginning of the list. -/
theorem exists_take_of_prefix_filter {α : Type} (f : α → Bool) :
    ∀ (l : List α) {m : List α}, m <+: l.filter f → ∃ k ≤ l.length, (l.take k).filter f = m
  | [], m, h => ⟨0, Nat.le_refl _, (List.prefix_nil.1 h).symm⟩
  | a :: l, [], _ => ⟨0, Nat.zero_le _, rfl⟩
  | a :: l, b :: m, h => by
    by_cases ha : f a
    · rw [List.filter_cons_of_pos ha, List.cons_prefix_cons] at h
      obtain ⟨k, hk, hm⟩ := exists_take_of_prefix_filter f l h.2
      refine ⟨k + 1, Nat.succ_le_succ hk, ?_⟩
      rw [List.take_succ_cons, List.filter_cons_of_pos ha, hm, h.1]
    · rw [List.filter_cons_of_neg ha] at h
      obtain ⟨k, hk, hm⟩ := exists_take_of_prefix_filter f l h
      refine ⟨k + 1, Nat.succ_le_succ hk, ?_⟩
      rw [List.take_succ_cons, List.filter_cons_of_neg ha, hm]

namespace Location

/-- A beginning of the names that count leads where a beginning of the path
does. -/
theorem exists_take_of_prefix_significant {l : Location} {m : List String}
    (h : m <+: l.significant) (hm : m ≠ []) (p : Place) :
    ∃ k < l.names.length, resolve p m = resolve p (l.names.take (k + 1)) := by
  have hfilter : ∀ {ns m : List String}, m <+: ns.filter (· ≠ ".") →
      ∃ k ≤ ns.length, (m ≠ [] → k ≠ 0) ∧ resolve p m = resolve p (ns.take k) := by
    intro ns m h
    obtain ⟨k, hk, rfl⟩ := exists_take_of_prefix_filter _ ns h
    refine ⟨k, hk, ?_, resolve_filter (ns.take k) p⟩
    rintro hm rfl
    exact hm rfl
  unfold significant at h
  split at h
  · -- a relative path that starts with `.`, the one that counts
    rename_i rest _ hnames
    rw [hnames]
    obtain ⟨n, m, rfl⟩ := List.exists_cons_of_ne_nil hm
    rw [List.cons_prefix_cons] at h
    obtain ⟨k, hk, -, hm⟩ := hfilter h.2
    refine ⟨k, Nat.lt_succ_of_le hk, ?_⟩
    rw [List.take_succ_cons, h.1, resolve, resolve, if_pos rfl, if_pos rfl]
    exact hm
  · obtain ⟨k, hk, hpos, hm'⟩ := hfilter h
    obtain ⟨k, rfl⟩ := Nat.exists_eq_succ_of_ne_zero (hpos hm)
    exact ⟨k, hk, hm'⟩

theorem mem_shorter : ∀ {ns m : List String}, m ∈ shorter ns → m <+: ns
  | [], m, h => by
    obtain rfl := List.mem_singleton.1 h
    exact List.prefix_rfl
  | n :: ns, m, h => by
    rcases List.mem_append.1 h with h | h
    · obtain ⟨m, hm, rfl⟩ := List.mem_map.1 h
      exact List.cons_prefix_cons.2 ⟨rfl, mem_shorter hm⟩
    · obtain rfl := List.mem_singleton.1 h
      exact List.nil_prefix

/-- The places that a path and the directories it stands in name are on the
path. A path without names is the root or the empty path. -/
theorem passes_of_mem_ancestors {here : Place} {l m : Location} (h : m ∈ l.ancestors)
    (hm : m.names ≠ []) : l.Passes here (m.place here) := by
  unfold ancestors at h
  split at h
  · exact absurd h List.not_mem_nil
  · rcases List.mem_cons.1 h with rfl | h
    · have hpos : 0 < m.names.length := List.length_pos_iff.2 hm
      refine ⟨m.names.length - 1, by omega, ?_⟩
      rw [Nat.sub_add_cancel hpos, List.take_length]
      rfl
    · obtain ⟨ns, hns, rfl⟩ := List.mem_map.1 (List.mem_filter.1 h).1
      have hprefix : ns <+: l.significant := (mem_shorter hns).trans (List.dropLast_prefix _)
      exact exists_take_of_prefix_significant hprefix hm (l.origin here)

end Location

/-! ### Walks -/

namespace FileTree

variable {t t' : FileTree} {l : Location} {p q : Place} {ns ms : List String}

/-- From a directory one name leads on: back, nowhere, or to a node that is
there. -/
def Leads (t : FileTree) (p : Place) (n : String) (q : Place) : Prop :=
  t.node? p = some .directory ∧ q = resolve p [n] ∧
    (n ≠ "." → n ≠ ".." → isTooLong n = false ∧ (t.node? q).isSome)

theorem walk_nil_iff : t.walk p [] = .ok q ↔ p = q := by
  rw [walk, Except.ok.injEq]

theorem walk_cons_iff {n : String} :
    t.walk p (n :: ns) = .ok q ↔ ∃ r, t.Leads p n r ∧ t.walk r ns = .ok q := by
  unfold Leads
  rw [walk, resolve]
  rcases t.node? p with _ | (_ | content)
  · simp
  · simp only [resolve, true_and, and_assoc, exists_eq_left]
    by_cases hdot : n = "."
    · simp [hdot]
    · by_cases hup : n = ".."
      · simp [hup]
      · rw [if_neg hdot, if_neg hup, if_neg hdot, if_neg hup]
        by_cases hlong : isTooLong n = true
        · simp [hdot, hup, hlong]
        · by_cases hnone : (t.node? (p ++ [n])).isNone = true
          · rw [if_neg hlong, if_pos hnone]
            simp only [Option.isNone_iff_eq_none] at hnone
            simp [hdot, hup, hnone]
          · rw [if_neg hlong, if_neg hnone]
            simp only [Option.isNone_iff_eq_none, ← ne_eq, Option.ne_none_iff_isSome] at hnone
            simp [hdot, hup, hlong, hnone]
  · simp

theorem walk_append_iff : ∀ {p : Place} {ns : List String},
    t.walk p (ns ++ ms) = .ok q ↔ ∃ r, t.walk p ns = .ok r ∧ t.walk r ms = .ok q
  | p, [] => by simp [walk_nil_iff]
  | p, n :: ns => by
    have ih : ∀ r, t.walk r (ns ++ ms) = .ok q ↔ ∃ s, t.walk r ns = .ok s ∧ t.walk s ms = .ok q :=
      fun r => walk_append_iff
    simp only [List.cons_append, walk_cons_iff, ih]
    constructor
    · rintro ⟨r, hr, s, hs, hq⟩
      exact ⟨s, ⟨r, hr, hs⟩, hq⟩
    · rintro ⟨s, ⟨r, hr, hs⟩, hq⟩
      exact ⟨r, hr, s, hs, hq⟩

theorem walk_dot_iff :
    t.walk p (ns ++ ["."]) = .ok q ↔ t.walk p ns = .ok q ∧ t.node? q = some .directory := by
  simp only [walk_append_iff, walk_cons_iff, walk_nil_iff, Leads, resolve, if_pos]
  constructor
  · rintro ⟨r, hr, q, ⟨hdir, rfl, -⟩, rfl⟩
    exact ⟨hr, hdir⟩
  · rintro ⟨hq, hdir⟩
    exact ⟨q, hq, q, ⟨hdir, rfl, fun h => absurd rfl h⟩, rfl⟩

/-- A walk that gets somewhere gets to the place that the names lead to. -/
theorem walk_eq_resolve : ∀ {p : Place} {ns : List String},
    t.walk p ns = .ok q → q = resolve p ns
  | _, [], h => (walk_nil_iff.1 h).symm
  | p, n :: ns, h => by
    obtain ⟨r, ⟨-, rfl, -⟩, hq⟩ := walk_cons_iff.1 h
    rw [walk_eq_resolve hq, ← resolve_append, List.singleton_append]

/-- Every place that a walk goes on from is a directory. -/
theorem walk_directory : ∀ {p : Place} {ns : List String}, t.walk p ns = .ok q →
    ∀ k < ns.length, t.node? (resolve p (ns.take k)) = some .directory
  | _, [], _, k, hk => absurd hk (Nat.not_lt_zero k)
  | p, n :: ns, h, k, hk => by
    obtain ⟨r, ⟨hp, rfl, -⟩, hq⟩ := walk_cons_iff.1 h
    rcases k with _ | k
    · exact hp
    · have hrest := walk_directory hq k (Nat.lt_of_succ_lt_succ hk)
      rwa [← resolve_append, List.singleton_append] at hrest

/-! ### Trees that grow -/

/-- The second tree has a node wherever the first has one, and a directory
wherever the first has a directory. -/
structure Grows (t t' : FileTree) : Prop where
  here : t'.here = t.here
  node : ∀ p, (t.node? p).isSome → (t'.node? p).isSome
  directory : ∀ p, t.node? p = some .directory → t'.node? p = some .directory

theorem Grows.trans {t₁ t₂ t₃ : FileTree} (h : Grows t₁ t₂) (h' : Grows t₂ t₃) : Grows t₁ t₃ :=
  ⟨h'.here.trans h.here, fun p hp => h'.node p (h.node p hp),
    fun p hp => h'.directory p (h.directory p hp)⟩

/-- A walk gets to the same place when the tree has grown. -/
theorem Grows.walk (h : Grows t t') : ∀ {p : Place} {ns : List String},
    t.walk p ns = .ok q → t'.walk p ns = .ok q
  | _, [], hw => hw
  | p, n :: ns, hw => by
    obtain ⟨r, ⟨hp, hr, hname⟩, hq⟩ := walk_cons_iff.1 hw
    refine walk_cons_iff.2 ⟨r, ⟨h.directory p hp, hr, fun hdot hup => ?_⟩, h.walk hq⟩
    obtain ⟨hlong, hsome⟩ := hname hdot hup
    exact ⟨hlong, h.node r hsome⟩

/-! ### Paths that name a directory -/

/-- What it is for a path to name a directory: it can be walked, and a
directory is where it leads. -/
theorem isDirectory_iff : t.isDirectory l = true ↔
    hasNul l = false ∧ l.isEmpty = false ∧ t.walk (t.start l) l.names = .ok (l.place t.here) ∧
      t.node? (l.place t.here) = some .directory := by
  unfold isDirectory locate
  by_cases hnul : hasNul l = true
  · simp [hnul]
  by_cases hempty : l.isEmpty = true
  · simp [hnul, hempty]
  rw [if_neg hnul, if_neg hempty]
  simp only [Bool.not_eq_true] at hnul hempty
  simp only [hnul, hempty, true_and]
  constructor
  · intro h
    split at h
    · rename_i q hwalk
      have hdir : t.node? q = some .directory := of_decide_eq_true h
      have hnames : t.walk (t.start l) l.names = .ok q := by
        split_ifs at hwalk
        · exact (walk_dot_iff.1 hwalk).1
        · exact hwalk
      have hq : q = l.place t.here := walk_eq_resolve hnames
      rw [← hq]
      exact ⟨hnames, hdir⟩
    · cases h
  · rintro ⟨hwalk, hdir⟩
    have hnames : t.walk (t.start l) (if l.trailing then l.names ++ ["."] else l.names) =
        .ok (l.place t.here) := by
      split_ifs
      · exact walk_dot_iff.2 ⟨hwalk, hdir⟩
      · exact hwalk
    rw [hnames]
    exact decide_eq_true hdir

theorem Grows.isDirectory (h : Grows t t') (hl : t.isDirectory l = true) :
    t'.isDirectory l = true := by
  obtain ⟨hnul, hempty, hwalk, hdir⟩ := isDirectory_iff.1 hl
  have hstart : t'.start l = t.start l := by unfold start; rw [h.here]
  refine isDirectory_iff.2 ⟨hnul, hempty, ?_, ?_⟩
  · rw [hstart, h.here]
    exact h.walk hwalk
  · rw [h.here]
    exact h.directory _ hdir

/-- All that a path to a directory passes are directories. -/
theorem directory_of_passes (hl : t.isDirectory l = true) (hp : l.Passes t.here p) :
    t.node? p = some .directory := by
  obtain ⟨-, -, hwalk, hdir⟩ := isDirectory_iff.1 hl
  obtain ⟨k, hk, rfl⟩ := hp
  rcases Nat.lt_or_ge (k + 1) l.names.length with h | h
  · exact walk_directory hwalk (k + 1) h
  · rw [List.take_of_length_le h]
    exact hdir

end FileTree
end Files
end RuleHarvest
