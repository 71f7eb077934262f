/-
# Maximal runs

The runs of a text are what a reader sees in it: a gap without the property, a
run of characters with it that goes on as far as it can, and so on up to a last
gap. Between two runs the gap is not empty, since a run ends only where a
character without the property stands or the text ends. A text can be taken
apart in this way, and in one way only (`hasRuns_iff`).

Key definitions: `HasRuns`.
Key theorems: `hasRuns_iff`, `runs_eq_nil_iff`, `join_append`,
`join_append_last`.
-/
import RuleHarvest.Proofs.Text.Seams

namespace RuleHarvest
namespace Text

variable {p : Char → Bool} {a b gap r s : List Char} {rs ws vs : List (List Char)}

/-- A text and its maximal runs of characters with the property. -/
inductive HasRuns (p : Char → Bool) : List Char → List (List Char) → Prop
  /-- There is no such character, or none is left. -/
  | gap {gap : List Char} (h : ∀ c ∈ gap, p c = false) : HasRuns p gap []
  | run {gap r rest : List Char} {rs : List (List Char)} (hgap : ∀ c ∈ gap, p c = false)
      (hne : r ≠ []) (hr : ∀ c ∈ r, p c = true) (hend : ∀ c ∈ rest.head?, p c = false)
      (hrest : HasRuns p rest rs) : HasRuns p (gap ++ r ++ rest) (r :: rs)

theorem runs_eq_nil_iff : runs p s = [] ↔ ∀ c ∈ s, p c = false := by
  constructor
  · intro h c hc
    by_contra hp
    obtain ⟨r, hr, -⟩ := exists_mem_runs_iff.2 ⟨hc, by simpa using hp⟩
    rw [h] at hr
    exact List.not_mem_nil hr
  · intro h
    refine List.eq_nil_iff_forall_not_mem.2 fun r hr => ?_
    obtain ⟨hne, hall⟩ := of_mem_runs hr
    obtain ⟨c, t, rfl⟩ := List.exists_cons_of_ne_nil hne
    obtain ⟨hc, hp⟩ := exists_mem_runs_iff.1 ⟨_, hr, List.mem_cons_self⟩
    rw [h c hc] at hp
    cases hp

/-- A gap does not count. -/
theorem runs_gap_append (hgap : ∀ c ∈ gap, p c = false) (s : List Char) :
    runs p (gap ++ s) = runs p s := by
  have hlast : gap.getLast?.any p = false :=
    (Option.any_eq_false _ _).2 fun c hc => hgap c (List.mem_of_getLast? hc)
  rw [runs_append (not_runsOn_of_last hlast), runs_eq_nil_iff.2 hgap, List.nil_append]

theorem HasRuns.runs_eq (h : HasRuns p s rs) : runs p s = rs := by
  induction h with
  | gap h => exact runs_eq_nil_iff.2 h
  | @run gap r rest rs hgap hne hr hend hrest ih =>
    have hfirst : rest.head?.any p = false := (Option.any_eq_false _ _).2 hend
    rw [List.append_assoc, runs_gap_append hgap, runs_append (not_runsOn_of_first hfirst),
      runs_of_all hr hne, ih]
    rfl

/-- A text can be taken apart: the gap as far as it goes, then the run as far as
it goes, then what is left. -/
theorem exists_hasRuns (p : Char → Bool) (s : List Char) : ∃ rs, HasRuns p s rs := by
  obtain ⟨gap, behind, hs, hgap, hbehind⟩ := exists_first_run (fun c => !p c) s
  have hgap : ∀ c ∈ gap, p c = false := by simpa using hgap
  rcases behind with _ | ⟨d, t⟩
  · exact ⟨[], by simpa [hs] using HasRuns.gap hgap⟩
  · have hd : p d = true := by simpa using hbehind
    obtain ⟨r, rest, hcut, hr, hrest⟩ := exists_first_run p (d :: t)
    have hne : r ≠ [] := by
      rintro rfl
      rw [List.nil_append] at hcut
      rw [← hcut, List.head?_cons, Option.any_some, hd] at hrest
      cases hrest
    have hend : ∀ c ∈ rest.head?, p c = false := by
      intro c hc
      rw [Option.mem_def.1 hc] at hrest
      exact hrest
    obtain ⟨rs, hruns⟩ := exists_hasRuns p rest
    refine ⟨r :: rs, ?_⟩
    rw [hs, hcut, ← List.append_assoc]
    exact .run hgap hne hr hend hruns
termination_by s.length
decreasing_by
  have hpositive := List.length_pos_iff.2 hne
  rw [hs, hcut]
  simp only [List.length_append]
  omega

/-- **The runs of a text are its maximal runs**, and there is one way to take it
apart. -/
theorem hasRuns_iff : HasRuns p s rs ↔ rs = runs p s := by
  constructor
  · intro h
    exact h.runs_eq.symm
  · rintro rfl
    obtain ⟨rs, h⟩ := exists_hasRuns p s
    rwa [h.runs_eq]

/-! ### Joined pieces -/

theorem join_append (separator : List Char) (hvs : vs ≠ []) : ∀ {ws : List (List Char)}, ws ≠ [] →
    join separator (ws ++ vs) = join separator ws ++ separator ++ join separator vs
  | [], hne => absurd rfl hne
  | [w], _ => by
    obtain ⟨v, vs, rfl⟩ := List.exists_cons_of_ne_nil hvs
    simp [join]
  | w :: u :: ws, _ => by
    have ih := join_append separator hvs (List.cons_ne_nil u ws)
    rw [List.cons_append] at ih
    simp [join, ih]

/-- What is added to the last piece is added to the whole. -/
theorem join_append_last (separator : List Char) (ws : List (List Char)) (a b : List Char) :
    join separator (ws ++ [a ++ b]) = join separator (ws ++ [a]) ++ b := by
  by_cases hws : ws = []
  · simp [hws, join]
  · rw [join_append separator (by simp) hws, join_append separator (by simp) hws]
    simp [join]

/-- Pieces that are not empty make up a text that is not. -/
theorem join_eq_nil_iff {separator : List Char} (h : ∀ w ∈ ws, w ≠ []) :
    join separator ws = [] ↔ ws = [] := by
  constructor
  · intro hjoin
    rcases ws with _ | ⟨w, _ | ⟨v, ws⟩⟩
    · rfl
    · exact absurd hjoin (h w List.mem_cons_self)
    · have hw := h w List.mem_cons_self
      simp [join, hw] at hjoin
  · rintro rfl
    rfl

end Text
end RuleHarvest
