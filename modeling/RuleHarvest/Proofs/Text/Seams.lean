/-
# Runs across seams

A text that comes in pieces has a seam between each two. A run goes on across a
seam when the characters on both sides have the property; taken piece by piece
it is then two runs instead of one (`length_runs_append`). At all other seams
the runs of the two sides are those of the whole (`runs_append`). So pieces have
the runs of the text they make up exactly when none of their seams lies inside a
run (`flatMap_runs`, `length_flatMap_runs_iff`). Empty pieces do not matter: what
is compared at a seam is all that stands before it with all that stands after it.

Key definitions: `RunsOn`, `CutsRun`.
Key theorems: `runs_append`, `length_runs_append`, `cutsRun_cons`,
`flatMap_runs`, `length_flatMap_runs_iff`, `length_flatMap_runs_split_iff`.
-/
import Mathlib.Data.List.DropRight
import RuleHarvest.Proofs.Text.Words

namespace RuleHarvest
namespace Text

variable {p : Char → Bool} {a b : List Char} {pieces : List (List Char)}

/-- A run goes on from the end of one text into the next one. -/
def RunsOn (p : Char → Bool) (a b : List Char) : Prop :=
  a.getLast?.any p = true ∧ b.head?.any p = true

instance (p : Char → Bool) (a b : List Char) : Decidable (RunsOn p a b) :=
  inferInstanceAs (Decidable (_ ∧ _))

/-- A seam of the pieces lies inside a run. -/
def CutsRun (p : Char → Bool) (pieces : List (List Char)) : Prop :=
  ∃ before after, pieces = before ++ after ∧ RunsOn p before.flatten after.flatten

/-! ### One seam -/

theorem not_runsOn_of_last (h : a.getLast?.any p = false) : ¬ RunsOn p a b :=
  fun hruns => Bool.false_ne_true (h.symm.trans hruns.1)

theorem not_runsOn_of_first (h : b.head?.any p = false) : ¬ RunsOn p a b :=
  fun hruns => Bool.false_ne_true (h.symm.trans hruns.2)

/-- **A seam outside of runs leaves them.** -/
theorem runs_append (h : ¬ RunsOn p a b) : runs p (a ++ b) = runs p a ++ runs p b := by
  rcases List.eq_nil_or_concat a with rfl | ⟨a, c, rfl⟩
  · rfl
  · by_cases hc : p c = true
    · rcases b with _ | ⟨d, b⟩
      · simp [runs, splitWhere]
      · have hd : p d = false := by simpa [RunsOn, hc] using h
        rw [runs_append_cut hd, runs_cons_cut hd]
    · have hc : p c = false := by simpa using hc
      have hlast : runs p (a ++ [c]) = runs p a ++ runs p [] := runs_append_cut hc a []
      rw [List.concat_eq_append, hlast, List.append_assoc, List.singleton_append,
        runs_append_cut hc, show runs p [] = [] from rfl, List.append_nil]

/-- A text ends with characters of the property, as many as there are. -/
theorem exists_last_run (p : Char → Bool) (a : List Char) : ∃ s r, a = s ++ r ∧
    (∀ c ∈ r, p c = true) ∧ s.getLast?.any p = false := by
  refine ⟨a.rdropWhile p, a.rtakeWhile p, List.rdropWhile_append_rtakeWhile.symm,
    fun c hc => List.mem_rtakeWhile_imp hc, ?_⟩
  by_cases hs : a.rdropWhile p = []
  · simp [hs]
  · have hlast := List.rdropWhile_last_not p a hs
    simpa [List.getLast?_eq_some_getLast hs] using hlast

/-- A text begins with characters of the property, as many as there are. -/
theorem exists_first_run (p : Char → Bool) (b : List Char) : ∃ r s, b = r ++ s ∧
    (∀ c ∈ r, p c = true) ∧ s.head?.any p = false := by
  refine ⟨b.takeWhile p, b.dropWhile p, List.takeWhile_append_dropWhile.symm, ?_, ?_⟩
  · exact List.all_eq_true.1 List.all_takeWhile
  · have hhead := List.head?_dropWhile_not p b
    cases hs : (b.dropWhile p).head? with
    | none => rfl
    | some c =>
      rw [hs] at hhead
      simpa using hhead

/-- **A seam inside a run makes one run more.** -/
theorem length_runs_append (h : RunsOn p a b) :
    (runs p (a ++ b)).length + 1 = (runs p a).length + (runs p b).length := by
  obtain ⟨s, r, rfl, hr, hs⟩ := exists_last_run p a
  obtain ⟨r', s', rfl, hr', hs'⟩ := exists_first_run p b
  obtain ⟨hend, hstart⟩ := h
  have hne : r ≠ [] := by
    rintro rfl
    rw [List.append_nil, hs] at hend
    cases hend
  have hne' : r' ≠ [] := by
    rintro rfl
    rw [List.nil_append, hs'] at hstart
    cases hstart
  -- the run of the seam is the two halves together
  have hbefore : ∀ t, runs p (s ++ t) = runs p s ++ runs p t := fun t =>
    runs_append (not_runsOn_of_last hs)
  have hafter : ∀ t, runs p (t ++ s') = runs p t ++ runs p s' := fun t =>
    runs_append (not_runsOn_of_first hs')
  have hwhole : runs p (r ++ r') = [r ++ r'] := by
    apply runs_of_all
    · exact List.forall_mem_append.2 ⟨hr, hr'⟩
    · simp [hne]
  have hsplit : s ++ r ++ (r' ++ s') = s ++ (r ++ r' ++ s') := by simp
  rw [hsplit, hbefore, hafter, hwhole, hbefore, hafter, runs_of_all hr hne, runs_of_all hr' hne']
  simp only [List.length_append, List.length_singleton]
  omega

/-! ### All seams -/

/-- The first seam, or one of the others. -/
theorem cutsRun_cons :
    CutsRun p (a :: pieces) ↔ RunsOn p a pieces.flatten ∨ CutsRun p pieces := by
  constructor
  · rintro ⟨before, after, hpieces, hruns⟩
    rcases before with _ | ⟨t, before⟩
    · exact absurd hruns.1 (by simp)
    · obtain ⟨rfl, rfl⟩ := List.cons.inj hpieces
      by_cases hempty : before.flatten = []
      · left
        simpa [hempty] using hruns
      · right
        refine ⟨before, after, rfl, ?_, hruns.2⟩
        have hend := hruns.1
        rwa [List.flatten_cons, List.getLast?_append_of_ne_nil _ hempty] at hend
  · rintro (hruns | ⟨before, after, rfl, hruns⟩)
    · exact ⟨[a], pieces, rfl, by simpa using hruns⟩
    · refine ⟨a :: before, after, rfl, ?_, hruns.2⟩
      have hempty : before.flatten ≠ [] := by
        intro hempty
        have hend := hruns.1
        rw [hempty] at hend
        cases hend
      rw [List.flatten_cons, List.getLast?_append_of_ne_nil _ hempty]
      exact hruns.1

theorem not_cutsRun_nil : ¬ CutsRun p [] := by
  rintro ⟨before, after, hpieces, hruns⟩
  obtain ⟨rfl, rfl⟩ := List.append_eq_nil_iff.1 hpieces.symm
  exact absurd hruns.1 (by simp)

theorem flatMap_runs (h : ¬ CutsRun p pieces) :
    pieces.flatMap (runs p) = runs p pieces.flatten := by
  induction pieces with
  | nil => rfl
  | cons a pieces ih =>
    rw [cutsRun_cons, not_or] at h
    rw [List.flatMap_cons, List.flatten_cons, ih h.2, runs_append h.1]

/-- The pieces have at least the runs of the whole. -/
theorem length_runs_flatten_le :
    (runs p pieces.flatten).length ≤ (pieces.flatMap (runs p)).length := by
  induction pieces with
  | nil => exact Nat.zero_le _
  | cons a pieces ih =>
    rw [List.flatMap_cons, List.flatten_cons, List.length_append]
    by_cases hruns : RunsOn p a pieces.flatten
    · have hmore := length_runs_append hruns
      omega
    · rw [runs_append hruns, List.length_append]
      omega

theorem length_runs_flatten_lt (h : CutsRun p pieces) :
    (runs p pieces.flatten).length < (pieces.flatMap (runs p)).length := by
  induction pieces with
  | nil => exact absurd h not_cutsRun_nil
  | cons a pieces ih =>
    rw [List.flatMap_cons, List.flatten_cons, List.length_append]
    by_cases hruns : RunsOn p a pieces.flatten
    · have hmore := length_runs_append hruns
      have hrest : (runs p pieces.flatten).length ≤ (pieces.flatMap (runs p)).length :=
        length_runs_flatten_le
      omega
    · have hrest := ih ((cutsRun_cons.1 h).resolve_left hruns)
      rw [runs_append hruns, List.length_append]
      omega

/-- **Pieces have as many runs as the text they make up** exactly when no seam
lies inside a run. -/
theorem length_flatMap_runs_iff :
    (pieces.flatMap (runs p)).length = (runs p pieces.flatten).length ↔ ¬ CutsRun p pieces := by
  constructor
  · intro hlength hcuts
    have hlt := length_runs_flatten_lt hcuts
    omega
  · intro h
    rw [flatMap_runs h]

/-- **A piece that is cut in two** has one run more exactly when it is cut inside
a run. -/
theorem length_flatMap_runs_split_iff (before after : List (List Char)) :
    ((before ++ a :: b :: after).flatMap (runs p)).length =
        ((before ++ (a ++ b) :: after).flatMap (runs p)).length ↔ ¬ RunsOn p a b := by
  simp only [List.flatMap_append, List.flatMap_cons, List.length_append]
  by_cases hruns : RunsOn p a b
  · have hmore := length_runs_append hruns
    exact iff_of_false (by omega) (not_not_intro hruns)
  · rw [runs_append hruns, List.length_append]
    exact iff_of_true (by omega) hruns

theorem flatMap_runs_split (h : ¬ RunsOn p a b) (before after : List (List Char)) :
    (before ++ a :: b :: after).flatMap (runs p) =
      (before ++ (a ++ b) :: after).flatMap (runs p) := by
  simp [List.flatMap_append, List.flatMap_cons, runs_append h]

end Text
end RuleHarvest
