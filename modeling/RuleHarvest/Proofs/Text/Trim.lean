/-
# Trimming

Trimming takes the blanks off the two ends of a text and nothing else. So a
text is its trimmed form with blanks around it, and the trimmed form neither
begins nor ends with one; these two facts say what it is (`trimsTo_iff`).
Blanks that are put around a text are not seen (`trim_blanks`).

Key definitions: `IsTrimmed`, `AllBlank`, `TrimsTo`.
Key theorems: `takeWhile_append_stop`, `dropEndWhile_append`, `trim_blanks`,
`trim_of_isTrimmed`, `isTrimmed_trim`, `exists_blanks_trim`, `trimsTo_iff`.
-/
import Mathlib.Data.List.DropRight
import RuleHarvest.Text.Blank

namespace RuleHarvest
namespace Text

variable {p : Char → Bool} {s a b : List Char}

/-! ### Ends of a text -/

/-- A run of characters with the property ends where one without it stands. -/
theorem takeWhile_append_stop (hs : ∀ c ∈ s, p c = true) (hb : ∀ c ∈ b.head?, p c = false) :
    (s ++ b).takeWhile p = s := by
  rw [List.takeWhile_append_of_pos hs]
  cases b with
  | nil => simp
  | cons c b => rw [List.takeWhile_cons_of_neg (by simpa using hb c rfl), List.append_nil]

theorem head?_dropWhile (p : Char → Bool) (s : List Char) :
    ∀ c ∈ (s.dropWhile p).head?, p c = false := by
  intro c hc
  have hnot := List.head?_dropWhile_not p s
  rw [Option.mem_def.1 hc] at hnot
  simpa using hnot

/-- What is dropped at the end does not matter. -/
theorem dropEndWhile_append (hb : ∀ c ∈ b, p c = true) :
    dropEndWhile p (s ++ b) = dropEndWhile p s := by
  have hreverse : ∀ c ∈ b.reverse, p c = true := by simpa using hb
  unfold dropEndWhile
  rw [List.reverse_append, List.dropWhile_append_of_pos hreverse]

/-- Nothing is dropped behind a character without the property. -/
theorem dropEndWhile_eq_self (h : ∀ c ∈ s.getLast?, p c = false) : dropEndWhile p s = s := by
  show s.rdropWhile p = s
  rw [List.rdropWhile_eq_self_iff]
  intro hne
  simpa using h _ (List.getLast?_eq_some_getLast hne)

theorem getLast?_dropEndWhile (p : Char → Bool) (s : List Char) :
    ∀ c ∈ (dropEndWhile p s).getLast?, p c = false := by
  intro c hc
  have hne : s.rdropWhile p ≠ [] := fun hnil => by
    change c ∈ (s.rdropWhile p).getLast? at hc
    simp [hnil] at hc
  have hlast := List.rdropWhile_last_not p s hne
  change c ∈ (s.rdropWhile p).getLast? at hc
  rw [List.getLast?_eq_some_getLast hne, Option.mem_some_iff] at hc
  simpa [hc] using hlast

/-- A text is what is left of it and then what is dropped. -/
theorem exists_dropEndWhile (p : Char → Bool) (s : List Char) :
    ∃ b, s = dropEndWhile p s ++ b ∧ ∀ c ∈ b, p c = true :=
  ⟨s.rtakeWhile p, List.rdropWhile_append_rtakeWhile.symm, fun _ => List.mem_rtakeWhile_imp⟩

/-! ### Blanks around a text -/

/-- No blank at either end. -/
def IsTrimmed (s : List Char) : Prop :=
  (∀ c ∈ s.head?, isBlank c = false) ∧ ∀ c ∈ s.getLast?, isBlank c = false

/-- Blanks and nothing else. -/
def AllBlank (s : List Char) : Prop := ∀ c ∈ s, isBlank c = true

theorem allBlank_nil : AllBlank [] := List.forall_mem_nil _

/-- **Blanks around a text are not seen.** -/
theorem trim_blanks (ha : AllBlank a) (hb : AllBlank b) (s : List Char) :
    trim (a ++ s ++ b) = trim s := by
  unfold trim
  rw [List.append_assoc, List.dropWhile_append_of_pos ha, List.dropWhile_append]
  by_cases hs : (s.dropWhile isBlank).isEmpty = true
  · have hnil : s.dropWhile isBlank = [] := by simpa using hs
    have hb' : b.dropWhile isBlank = [] := by simpa [AllBlank] using hb
    rw [if_pos hs, hnil, hb']
  · rw [if_neg hs, dropEndWhile_append hb]

theorem trim_of_isTrimmed (h : IsTrimmed s) : trim s = s := by
  have hhead : s.dropWhile isBlank = s := by
    cases s with
    | nil => rfl
    | cons c s => exact List.dropWhile_cons_of_neg (by simpa using h.1 c rfl)
  unfold trim
  rw [hhead, dropEndWhile_eq_self h.2]

theorem trim_allBlank (h : AllBlank s) : trim s = [] := by
  simpa [trim, dropEndWhile] using trim_blanks h allBlank_nil []

theorem isTrimmed_trim (s : List Char) : IsTrimmed (trim s) := by
  refine ⟨fun c hc => ?_, getLast?_dropEndWhile _ _⟩
  obtain ⟨b, hb, -⟩ := exists_dropEndWhile isBlank (s.dropWhile isBlank)
  have hhead : c ∈ (s.dropWhile isBlank).head? := by
    rw [hb]
    exact List.mem_head?_append_of_mem_head? hc
  exact head?_dropWhile isBlank s c hhead

/-- A text is its trimmed form with blanks around it. -/
theorem exists_blanks_trim (s : List Char) :
    ∃ a b, AllBlank a ∧ AllBlank b ∧ s = a ++ trim s ++ b := by
  obtain ⟨b, hb, hblank⟩ := exists_dropEndWhile isBlank (s.dropWhile isBlank)
  refine ⟨s.takeWhile isBlank, b, fun c hc => List.mem_takeWhile_imp hc, hblank, ?_⟩
  rw [List.append_assoc]
  show s = s.takeWhile isBlank ++ (dropEndWhile isBlank (s.dropWhile isBlank) ++ b)
  rw [← hb, List.takeWhile_append_dropWhile]

/-- A text is another one with blanks around it, and has none at its ends. -/
def TrimsTo (s t : String) : Prop :=
  IsTrimmed t.toList ∧ ∃ a b, AllBlank a ∧ AllBlank b ∧ s.toList = a ++ t.toList ++ b

/-- **What trimming does.** -/
theorem trimsTo_iff {s t : String} : TrimsTo s t ↔ t = String.ofList (trim s.toList) := by
  constructor
  · rintro ⟨ht, a, b, ha, hb, hs⟩
    rw [hs, trim_blanks ha hb, trim_of_isTrimmed ht, String.ofList_toList]
  · rintro rfl
    rw [TrimsTo, String.toList_ofList]
    exact ⟨isTrimmed_trim s.toList, exists_blanks_trim s.toList⟩

end Text
end RuleHarvest
