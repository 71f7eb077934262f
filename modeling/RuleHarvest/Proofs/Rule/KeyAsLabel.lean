/-
# Keys as labels

A key is made of runs of letters and digits with an underscore between each
two, and an underscore is neither. So when a key is taken as a label its runs
are found again, and as each is its own lower case the key is its own key. One
letter breaks this: the lower case of U+0130 has a combining dot, which is no
letter. A key with the dot is cut there, so its own key is another one
(`keyChars_keyChars_iff`), and a record that has a text under it does not find
it by its key.

Key definitions: `IsKeyText`.
Key theorems: `keyRuns_keyChars`, `dot_mem_keyChars_iff`,
`keyChars_keyChars_iff`, `fieldKey_inj`, `fieldKey_fixed_iff_no_dotted_capital`.
-/
import RuleHarvest.Proofs.Rule.FirstPair
import RuleHarvest.Proofs.Text.Lowercase
import RuleHarvest.Proofs.Text.Words

namespace RuleHarvest

open Text

/-- Runs of letters and digits with one underscore between each two. -/
def IsKeyText (key : List Char) : Prop :=
  ∃ rs : List (List Char), key = join ['_'] rs ∧ ∀ r ∈ rs, r ≠ [] ∧ ∀ c ∈ r, isAlphanumeric c = true

variable {label : List Char}

/-! ### Runs in lower case -/

theorem isAlphanumeric_underscore : isAlphanumeric '_' = false := by decide

theorem isAlphanumeric_dotted : isAlphanumeric '\u0130' = true := by decide +kernel

theorem isAlphanumeric_dot : isAlphanumeric '\u0307' = false := by decide +kernel

theorem lowercase_ne_nil {c : Char} (h : isAlphanumeric c = true) : lowercase c ≠ [] := by
  by_cases hdot : c = '\u0130'
  · rw [hdot, lowercase_dotted]
    simp
  · obtain ⟨d, hd, -⟩ := lowercase_of_isAlphanumeric h hdot
    rw [hd]
    simp

/-- A run without U+0130 in lower case: letters and digits that are their own
lower case. -/
theorem lowercase_run {r : List Char} (h : ∀ c ∈ r, isAlphanumeric c = true) (hdot : '\u0130' ∉ r) :
    (∀ c ∈ r.flatMap lowercase, isAlphanumeric c = true) ∧
      (r.flatMap lowercase).flatMap lowercase = r.flatMap lowercase := by
  induction r with
  | nil => exact ⟨fun c hc => absurd hc List.not_mem_nil, rfl⟩
  | cons c r ih =>
    obtain ⟨hc, hr⟩ := List.forall_mem_cons.1 h
    have hne : c ≠ '\u0130' := fun heq => hdot (heq ▸ List.mem_cons_self)
    obtain ⟨hletters, hagain⟩ := ih hr fun hmem => hdot (List.mem_cons_of_mem _ hmem)
    obtain ⟨d, hd, halphanumeric, hlower⟩ := lowercase_of_isAlphanumeric hc hne
    rw [List.flatMap_cons, hd, List.singleton_append, List.flatMap_cons, hlower, hagain]
    exact ⟨List.forall_mem_cons.2 ⟨halphanumeric, hletters⟩, rfl⟩

/-! ### The runs of a key -/

theorem mem_keyRuns_ne_nil {r : List Char} (h : r ∈ keyRuns label) : r ≠ [] := by
  obtain ⟨run, hrun, rfl⟩ := List.mem_map.1 h
  obtain ⟨c, rest, rfl⟩ := List.exists_cons_of_ne_nil (ne_nil_of_mem_runs hrun)
  have hc := (exists_mem_runs_iff.1 ⟨_, hrun, List.mem_cons_self⟩).2
  rw [List.flatMap_cons]
  exact fun hnil => lowercase_ne_nil hc (List.append_eq_nil_iff.1 hnil).1

/-- The runs of a label without U+0130 are letters and digits that are their own
lower case. -/
theorem mem_keyRuns (hdot : '\u0130' ∉ label) {r : List Char} (h : r ∈ keyRuns label) :
    (∀ c ∈ r, isAlphanumeric c = true) ∧ r.flatMap lowercase = r := by
  obtain ⟨run, hrun, rfl⟩ := List.mem_map.1 h
  refine lowercase_run (fun c hc => (exists_mem_runs_iff.1 ⟨run, hrun, hc⟩).2) fun hmem => ?_
  exact hdot (exists_mem_runs_iff.1 ⟨run, hrun, hmem⟩).1

/-- **The runs of a key are found again** when it is taken as a label. -/
theorem keyRuns_keyChars (hdot : '\u0130' ∉ label) : keyRuns (keyChars label) = keyRuns label := by
  have hruns : runs isAlphanumeric (keyChars label) = keyRuns label :=
    runs_join_self isAlphanumeric_underscore fun r hr =>
      ⟨mem_keyRuns_ne_nil hr, (mem_keyRuns hdot hr).1⟩
  rw [keyRuns, hruns]
  exact (List.map_congr_left fun r hr => (mem_keyRuns hdot hr).2).trans (List.map_id _)

/-! ### Dots in keys -/

/-- A character of a key that is no underscore comes from a letter or digit of
the label. -/
theorem mem_keyChars_iff {c : Char} (hc : c ≠ '_') :
    c ∈ keyChars label ↔ ∃ d ∈ label, isAlphanumeric d = true ∧ c ∈ lowercase d := by
  rw [keyChars, mem_join_iff (by simpa using hc)]
  constructor
  · rintro ⟨r, hr, hmem⟩
    obtain ⟨run, hrun, rfl⟩ := List.mem_map.1 hr
    obtain ⟨d, hd, hlower⟩ := List.mem_flatMap.1 hmem
    obtain ⟨hlabel, halphanumeric⟩ := exists_mem_runs_iff.1 ⟨run, hrun, hd⟩
    exact ⟨d, hlabel, halphanumeric, hlower⟩
  · rintro ⟨d, hlabel, halphanumeric, hlower⟩
    obtain ⟨run, hrun, hd⟩ := exists_mem_runs_iff.2 ⟨hlabel, halphanumeric⟩
    exact ⟨_, List.mem_map.2 ⟨run, hrun, rfl⟩, List.mem_flatMap.2 ⟨d, hd, hlower⟩⟩

/-- **A key has the combining dot exactly when its label has U+0130.** -/
theorem dot_mem_keyChars_iff : '\u0307' ∈ keyChars label ↔ '\u0130' ∈ label := by
  rw [mem_keyChars_iff (by decide)]
  constructor
  · rintro ⟨d, hlabel, halphanumeric, hlower⟩
    rw [← (dot_mem_lowercase_iff halphanumeric).1 hlower]
    exact hlabel
  · intro hlabel
    exact ⟨_, hlabel, isAlphanumeric_dotted, (dot_mem_lowercase_iff isAlphanumeric_dotted).2 rfl⟩

theorem dotted_not_mem_keyChars : '\u0130' ∉ keyChars label := by
  rw [mem_keyChars_iff (by decide)]
  rintro ⟨d, -, halphanumeric, hlower⟩
  exact dotted_not_mem_lowercase halphanumeric hlower

/-- **A key is its own key** exactly when its label does not have U+0130. -/
theorem keyChars_keyChars_iff : keyChars (keyChars label) = keyChars label ↔ '\u0130' ∉ label := by
  constructor
  · intro hkey hdot
    have hmem : '\u0307' ∈ keyChars (keyChars label) := by
      rw [hkey]
      exact dot_mem_keyChars_iff.2 hdot
    exact dotted_not_mem_keyChars (dot_mem_keyChars_iff.1 hmem)
  · intro hdot
    rw [keyChars, keyRuns_keyChars hdot]
    rfl

/-- A key is runs of letters and digits exactly when its label does not have
U+0130. -/
theorem isKeyText_iff : IsKeyText (keyChars label) ↔ '\u0130' ∉ label := by
  constructor
  · rintro ⟨rs, hrs, hletters⟩ hdot
    have hmem := dot_mem_keyChars_iff.2 hdot
    rw [hrs, mem_join_iff (by decide)] at hmem
    obtain ⟨r, hr, hmem⟩ := hmem
    exact absurd ((hletters r hr).2 _ hmem) (by rw [isAlphanumeric_dot]; decide)
  · intro hdot
    exact ⟨keyRuns label, rfl, fun r hr => ⟨mem_keyRuns_ne_nil hr, (mem_keyRuns hdot hr).1⟩⟩

/-- In general the runs of a key have combining dots too. -/
theorem of_mem_keyRuns {r : List Char} (hr : r ∈ keyRuns label) {c : Char} (hc : c ∈ r) :
    isAlphanumeric c = true ∨ c = '\u0307' := by
  obtain ⟨run, hrun, rfl⟩ := List.mem_map.1 hr
  obtain ⟨d, hd, hlower⟩ := List.mem_flatMap.1 hc
  have halphanumeric := (exists_mem_runs_iff.1 ⟨run, hrun, hd⟩).2
  by_cases hdot : d = '\u0130'
  · rw [hdot, lowercase_dotted] at hlower
    rcases List.mem_cons.1 hlower with rfl | hlower
    · exact .inl (by decide)
    · exact .inr (List.mem_singleton.1 hlower)
  · obtain ⟨e, he, hletter, -⟩ := lowercase_of_isAlphanumeric halphanumeric hdot
    rw [he, List.mem_singleton] at hlower
    exact .inl (hlower ▸ hletter)

theorem keyChars_eq_join (label : List Char) : ∃ rs : List (List Char),
    keyChars label = join ['_'] rs ∧
      ∀ r ∈ rs, r ≠ [] ∧ ∀ c ∈ r, isAlphanumeric c = true ∨ c = '\u0307' :=
  ⟨keyRuns label, rfl, fun _ hr => ⟨mem_keyRuns_ne_nil hr, fun _ hc => of_mem_keyRuns hr hc⟩⟩

/-- No run of a key has an underscore, so the runs can be told from the key. -/
theorem runs_keyChars (label : List Char) : runs (· ≠ '_') (keyChars label) = keyRuns label := by
  refine runs_join_self rfl fun r hr => ⟨mem_keyRuns_ne_nil hr, fun c hc => ?_⟩
  have hc : c ≠ '_' := by
    rintro rfl
    rcases of_mem_keyRuns hr hc with h | h
    · rw [isAlphanumeric_underscore] at h
      cases h
    · exact absurd h (by decide)
  simpa using hc

/-- **Labels have the same key exactly when they have the same runs.** -/
theorem fieldKey_inj {label label' : String} :
    fieldKey label = fieldKey label' ↔ keyRuns label.toList = keyRuns label'.toList := by
  unfold fieldKey
  rw [String.ofList_inj]
  constructor
  · intro h
    rw [← runs_keyChars, ← runs_keyChars label'.toList, h]
  · intro h
    rw [keyChars, keyChars, h]

/-! ### Keys of a record -/

/-- The keys of a record are those of labels on its page. -/
theorem exists_label_of_get? {url now key value : String} {d : Html.Document}
    (h : (recordOf url d now).fields.get? key = some value) :
    ∃ pair ∈ labelPairs d, fieldKey pair.1 = key := by
  obtain ⟨label, hpair, hcounts⟩ := exists_pair_of_get? h
  exact ⟨_, hpair, hcounts.1⟩

theorem fieldKey_fieldKey_iff (label : String) :
    fieldKey (fieldKey label) = fieldKey label ↔ '\u0130' ∉ label.toList := by
  unfold fieldKey
  rw [String.toList_ofList, String.ofList_inj, keyChars_keyChars_iff]

/-- The key of a label is its own key exactly when it has no combining dot. -/
theorem fieldKey_key_iff {label key : String} (h : fieldKey label = key) :
    fieldKey key = key ↔ '\u0307' ∉ key.toList := by
  have hdot : '\u0307' ∈ key.toList ↔ '\u0130' ∈ label.toList := by
    rw [← h, fieldKey, String.toList_ofList, dot_mem_keyChars_iff]
  rw [hdot, ← h, fieldKey_fieldKey_iff]

/-- **A key is its own label unless it comes from U+0130.** The key of a label
is its own key, and is runs of letters and digits with single underscores
between them, exactly when the label does not have this letter; otherwise there
are combining dots in the runs. A record finds the text under each of its keys
by the key that has no such dot. -/
theorem fieldKey_fixed_iff_no_dotted_capital (label : String) :
    (fieldKey (fieldKey label) = fieldKey label ↔ '\u0130' ∉ label.toList) ∧
    (IsKeyText (fieldKey label).toList ↔ '\u0130' ∉ label.toList) ∧
    (∃ rs : List (List Char), (fieldKey label).toList = join ['_'] rs ∧
      ∀ r ∈ rs, r ≠ [] ∧ ∀ c ∈ r, isAlphanumeric c = true ∨ c = '\u0307') ∧
    ∀ url page now key value, (extract url page now).fields.get? key = some value →
      (fieldKey key = key ↔ '\u0307' ∉ key.toList) ∧
        ('\u0307' ∉ key.toList → (extract url page now).field? key = some value) := by
  have hkey : (fieldKey label).toList = keyChars label.toList := String.toList_ofList
  refine ⟨fieldKey_fieldKey_iff label, ?_, ?_, fun url page now key value h => ?_⟩
  · rw [hkey]
    exact isKeyText_iff
  · rw [hkey]
    exact keyChars_eq_join label.toList
  · obtain ⟨pair, -, hpair⟩ := exists_label_of_get? h
    have hfixed := fieldKey_key_iff hpair
    refine ⟨hfixed, fun hdot => ?_⟩
    rw [Record.field?, hfixed.2 hdot]
    exact h

/-- A page with a label that has U+0130. -/
def dottedPage : String :=
  "<div class=\"field\"><div class=\"field__label\">\u0130l</div>" ++
    "<div class=\"field__item\">Ankara</div></div>"

/-- The record of the page has a text under the key of the label, but does not
find it by this key. -/
theorem dotted_key_not_found :
    fieldKey "\u0130l" = "i\u0307l" ∧ fieldKey "i\u0307l" = "i_l" ∧
    ¬ IsKeyText (fieldKey "\u0130l").toList ∧
    (extract "https://www.gao.gov/fedrules/1" dottedPage "now").fields.get? "i\u0307l" =
      some "Ankara" ∧
    (extract "https://www.gao.gov/fedrules/1" dottedPage "now").field? "i\u0307l" = none := by
  have hlabel : fieldKey "\u0130l" = "i\u0307l" := by decide +kernel
  have hkey : fieldKey "i\u0307l" = "i_l" := by decide +kernel
  have hfields : (extract "https://www.gao.gov/fedrules/1" dottedPage "now").fields.entries =
      [("i\u0307l", "Ankara")] := by decide +kernel
  refine ⟨hlabel, hkey, ?_, ?_, ?_⟩
  · rw [fieldKey, String.toList_ofList, isKeyText_iff]
    decide
  · rw [FieldMap.get?, hfields]
    rfl
  · rw [Record.field?, hkey, FieldMap.get?, hfields]
    rfl

end RuleHarvest
