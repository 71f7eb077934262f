/-
# Runs and words

A character without the property cuts a text, and the runs of the text are
those of its two sides (`runs_append_cut`); everything else about runs follows.
Runs that are joined by such a character are found again (`runs_join_self`).
When no blank has the property, the runs of a text are the runs of its words,
so they do not change when the words are put together again with single spaces
(`runs_join_words`). Letters and digits are not blanks, so the key of a label
depends on its words only (`keyChars_join_words`).

Key definitions: `collapsed`.
Key theorems: `runs_append_cut`, `runs_eq_flatMap`, `runs_join`,
`runs_join_self`, `runs_join_words`, `collapsed_inj`, `keyChars_join_words`.
-/
import RuleHarvest.Rule.Key

namespace RuleHarvest
namespace Text

variable {p q : Char → Bool} {c : Char}

theorem splitWhere_append_cut (h : p c = true) :
    ∀ a b : List Char, splitWhere p (a ++ c :: b) = splitWhere p a ++ splitWhere p b
  | [], b => by
    rw [List.nil_append, splitWhere.eq_2, if_pos h, splitWhere.eq_1, List.singleton_append]
  | d :: a, b => by
    have ih := splitWhere_append_cut h a b
    rw [List.cons_append, splitWhere, splitWhere]
    by_cases hd : p d = true
    · rw [if_pos hd, if_pos hd, ih, List.cons_append]
    · rw [if_neg hd, if_neg hd, ih]
      rcases ha : splitWhere p a with _ | ⟨w, ws⟩
      · exact absurd ha (splitWhere_ne_nil a)
      · rfl
where
  splitWhere_ne_nil : ∀ a : List Char, splitWhere p a ≠ []
    | [] => by simp [splitWhere]
    | d :: a => by
      rw [splitWhere]
      split
      · simp
      · split <;> simp

theorem splitWhere_of_all : ∀ {a : List Char}, (∀ c ∈ a, p c = false) → splitWhere p a = [a]
  | [], _ => rfl
  | d :: a, h => by
    have hd : p d = false := h d List.mem_cons_self
    rw [splitWhere, if_neg (by simpa using hd),
      splitWhere_of_all fun c hc => h c (List.mem_cons_of_mem _ hc)]

/-! ### Runs -/

/-- **A character without the property cuts the runs.** -/
theorem runs_append_cut (h : p c = false) (a b : List Char) :
    runs p (a ++ c :: b) = runs p a ++ runs p b := by
  unfold runs
  rw [splitWhere_append_cut (by simpa using h), List.filter_append]

theorem runs_cons_cut (h : p c = false) (a : List Char) : runs p (c :: a) = runs p a :=
  runs_append_cut h [] a

/-- A text of characters with the property is one run. -/
theorem runs_of_all {a : List Char} (h : ∀ c ∈ a, p c = true) (hne : a ≠ []) : runs p a = [a] := by
  unfold runs
  rw [splitWhere_of_all (by simpa using h)]
  simp [hne]

/-- A text is empty, all of one kind, or cut somewhere. -/
theorem exists_cut (p : Char → Bool) (s : List Char) : (∀ c ∈ s, p c = true) ∨
    ∃ a c b, s = a ++ c :: b ∧ p c = false ∧ ∀ c ∈ a, p c = true := by
  induction s with
  | nil => exact .inl fun c hc => absurd hc List.not_mem_nil
  | cons d s ih =>
    by_cases hd : p d = true
    · rcases ih with hall | ⟨a, c, b, rfl, hc, ha⟩
      · exact .inl (List.forall_mem_cons.2 ⟨hd, hall⟩)
      · exact .inr ⟨d :: a, c, b, rfl, hc, List.forall_mem_cons.2 ⟨hd, ha⟩⟩
    · exact .inr ⟨[], d, s, rfl, by simpa using hd, fun c hc => absurd hc List.not_mem_nil⟩

/-- When `p` is narrower than `q` the runs of `p` lie in the runs of `q`. -/
theorem runs_eq_flatMap (h : ∀ c, q c = false → p c = false) (s : List Char) :
    runs p s = (runs q s).flatMap (runs p) := by
  rcases exists_cut q s with hall | ⟨a, c, b, hs, hc, ha⟩
  · rcases s with _ | ⟨d, s⟩
    · rfl
    · rw [runs_of_all hall (by simp), List.flatMap_singleton]
  · have hb : runs p b = (runs q b).flatMap (runs p) := runs_eq_flatMap h b
    rw [hs, runs_append_cut hc, runs_append_cut (h c hc), List.flatMap_append, ← hb]
    rcases a with _ | ⟨d, a⟩
    · rfl
    · rw [runs_of_all ha (by simp), List.flatMap_singleton]
termination_by s.length
decreasing_by
  rw [hs]
  simp only [List.length_append, List.length_cons]
  omega

/-- The runs of pieces that are joined by a separator without the property. -/
theorem runs_join (h : p c = false) : ∀ ws : List (List Char),
    runs p (join [c] ws) = ws.flatMap (runs p)
  | [] => rfl
  | [w] => by rw [join, List.flatMap_singleton]
  | w :: v :: ws => by
    have hjoin : join [c] (w :: v :: ws) = w ++ c :: join [c] (v :: ws) := by
      simp [join]
    rw [hjoin, runs_append_cut h, runs_join h (v :: ws)]
    rfl

/-- **Runs that are joined by a separator are found again.** -/
theorem runs_join_self (h : p c = false) {ws : List (List Char)}
    (hws : ∀ w ∈ ws, w ≠ [] ∧ ∀ d ∈ w, p d = true) : runs p (join [c] ws) = ws := by
  have heach : ws.map (runs p) = ws.map fun w => [w] :=
    List.map_congr_left fun w hw => runs_of_all (hws w hw).2 (hws w hw).1
  rw [runs_join h, List.flatMap_def, heach, ← List.flatMap_def, List.flatMap_singleton']

theorem flatten_splitWhere : ∀ s : List Char, (splitWhere p s).flatten = s.filter fun c => !p c
  | [] => rfl
  | c :: s => by
    have ih := flatten_splitWhere s
    rw [splitWhere]
    by_cases hc : p c = true
    · rw [if_pos hc, List.flatten_cons, List.nil_append, ih, List.filter_cons_of_neg (by simp [hc])]
    · rw [if_neg hc, List.filter_cons_of_pos (by simp [hc]), ← ih]
      split
      · rename_i hnil
        rw [hnil]
        rfl
      · rename_i w ws hcons
        rw [hcons]
        rfl

/-- The runs hold the characters with the property, in their order. -/
theorem flatten_runs (s : List Char) : (runs p s).flatten = s.filter p := by
  unfold runs
  rw [List.flatten_filter_not_isEmpty, flatten_splitWhere]
  simp only [Bool.not_not]

theorem exists_mem_runs_iff {s : List Char} : (∃ r ∈ runs p s, c ∈ r) ↔ c ∈ s ∧ p c = true := by
  rw [← List.mem_flatten, flatten_runs, List.mem_filter]

theorem ne_nil_of_mem_runs {r s : List Char} (h : r ∈ runs p s) : r ≠ [] := by
  simpa using (List.mem_filter.1 h).2

theorem of_mem_runs {r s : List Char} (h : r ∈ runs p s) : r ≠ [] ∧ ∀ c ∈ r, p c = true :=
  ⟨ne_nil_of_mem_runs h, fun _ hc => (exists_mem_runs_iff.1 ⟨r, h, hc⟩).2⟩

/-- What is not in the separator comes from a piece. -/
theorem mem_join_iff {separator : List Char} (hc : c ∉ separator) :
    ∀ ws : List (List Char), c ∈ join separator ws ↔ ∃ w ∈ ws, c ∈ w
  | [] => by simp [join]
  | [w] => by simp [join]
  | w :: v :: ws => by
    have ih := mem_join_iff hc (v :: ws)
    have hjoin : join separator (w :: v :: ws) = w ++ separator ++ join separator (v :: ws) := by
      simp [join]
    rw [hjoin, List.mem_append, List.mem_append, ih]
    simp only [hc, or_false, List.mem_cons, exists_eq_or_imp]

theorem join_eq_intercalate (separator : List Char) : ∀ ws : List (List Char),
    join separator ws = separator.intercalate ws
  | [] => rfl
  | [w] => by simp [join]
  | w :: v :: ws => by
    rw [join, join_eq_intercalate separator (v :: ws)]
    · simp [List.intercalate_cons_cons]
    · simp

/-- **Runs without blanks stay when the words are joined again.** -/
theorem runs_join_words (h : ∀ c, isBlank c = true → p c = false) (s : List Char) :
    runs p (join [' '] (words s)) = runs p s := by
  have hwords : runs p s = (words s).flatMap (runs p) :=
    runs_eq_flatMap (fun c hc => h c (by simpa using hc)) s
  rw [runs_join (h ' ' (by decide)), ← hwords]

/-- The words of a text, one space between each two. -/
def collapsed (s : List Char) : String := String.ofList (join [' '] (words s))

/-- The words of a text are found again when it is collapsed. -/
@[simp] theorem words_collapsed (s : List Char) : words (collapsed s).toList = words s := by
  rw [collapsed, String.toList_ofList]
  exact runs_join_self rfl fun _ => of_mem_runs

/-- Texts are the same when they are collapsed exactly when their words are. -/
theorem collapsed_inj {a b : List Char} : collapsed a = collapsed b ↔ words a = words b := by
  constructor
  · intro h
    rw [← words_collapsed, h, words_collapsed]
  · intro h
    rw [collapsed, h, collapsed]

/-! ### Keys -/

/-- A blank is neither a letter nor a digit. -/
theorem isAlphanumeric_of_isBlank (h : isBlank c = true) : isAlphanumeric c = false := by
  have hblanks : ∀ n ∈ [9, 10, 11, 12, 13, 0x20, 0x85, 0xA0, 0x1680, 0x2000, 0x2001, 0x2002, 0x2003,
      0x2004, 0x2005, 0x2006, 0x2007, 0x2008, 0x2009, 0x200A, 0x2028, 0x2029, 0x202F, 0x205F, 0x3000],
      isAlphanumeric (Char.ofNat n) = false := by decide +kernel
  rw [← Char.ofNat_toNat c]
  refine hblanks c.toNat ?_
  simp only [isBlank, Bool.or_eq_true, Bool.and_eq_true, decide_eq_true_eq] at h
  simp only [List.mem_cons, List.not_mem_nil, or_false]
  omega

/-- The key of a label depends on its words only. -/
theorem keyChars_join_words (label : List Char) :
    keyChars (join [' '] (words label)) = keyChars label := by
  unfold keyChars keyRuns
  rw [runs_join_words fun c => isAlphanumeric_of_isBlank]

end Text
end RuleHarvest
