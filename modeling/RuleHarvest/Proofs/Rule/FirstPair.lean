/-
# What a record says of its page

A record is told by its page without the order in which it is put together.
Its title is the first text of a heading that is not empty, or else the first
such text of a title element. The text under a key is the value of the first
pair of the page that counts for the key: the label has the key, and neither
the key nor the value is empty. The pairs of blocks come before those of
definition lists, wherever they stand on the page. One record fits this
description, and it is the one that is read (`describes_iff`).

Key definitions: `CountsFor`, `IsFirstFor`, `IsFirstText`, `Record.Describes`.
Key theorems: `get?_recordOf`, `get?_eq_some_iff`, `describes_iff`,
`record_of_first_pairs`.
-/
import RuleHarvest.Proofs.Rule.FieldMap

namespace RuleHarvest

open Html (Node Document)

/-! ### First pairs and first texts -/

/-- A pair of a label and a value counts for a key. -/
def CountsFor (key : String) (pair : String × String) : Prop :=
  fieldKey pair.1 = key ∧ key ≠ "" ∧ pair.2 ≠ ""

instance (key : String) : DecidablePred (CountsFor key) := fun pair =>
  inferInstanceAs (Decidable (fieldKey pair.1 = key ∧ key ≠ "" ∧ pair.2 ≠ ""))

/-- The value of the first pair that counts for a key. -/
def IsFirstFor (pairs : List (String × String)) (key value : String) : Prop :=
  ∃ before label after, pairs = before ++ (label, value) :: after ∧ CountsFor key (label, value) ∧
    ∀ pair ∈ before, ¬ CountsFor key pair

/-- The first text that is not empty. -/
def IsFirstText (texts : List String) (text : String) : Prop :=
  ∃ before after, texts = before ++ text :: after ∧ text ≠ "" ∧ ∀ t ∈ before, t = ""

theorem find?_counts_eq_some_iff {pairs : List (String × String)} {key value : String} :
    (pairs.find? (CountsFor key ·)).map (·.2) = some value ↔ IsFirstFor pairs key value := by
  rw [Option.map_eq_some_iff]
  simp only [List.find?_eq_some_iff_append, decide_eq_true_eq, Bool.not_eq_true',
    decide_eq_false_iff_not]
  constructor
  · rintro ⟨⟨label, value⟩, ⟨hcounts, before, after, rfl, hbefore⟩, rfl⟩
    exact ⟨before, label, after, rfl, hcounts, hbefore⟩
  · rintro ⟨before, label, after, rfl, hcounts, hbefore⟩
    exact ⟨(label, value), ⟨hcounts, before, after, rfl, hbefore⟩, rfl⟩

theorem head?_nonempty_eq_some_iff {texts : List String} {text : String} :
    (nonempty texts).head? = some text ↔ IsFirstText texts text := by
  have hhead : (nonempty texts).head? = texts.find? (· ≠ "") := List.head?_filter
  rw [hhead, List.find?_eq_some_iff_append]
  simp only [ne_eq, decide_not, Bool.not_eq_true', decide_eq_false_iff_not, Bool.not_not,
    decide_eq_true_eq]
  constructor
  · rintro ⟨hne, before, after, rfl, hbefore⟩
    exact ⟨before, after, rfl, hne, hbefore⟩
  · rintro ⟨before, after, rfl, hne, hbefore⟩
    exact ⟨hne, before, after, rfl, hbefore⟩

theorem head?_nonempty_eq_none_iff {texts : List String} :
    (nonempty texts).head? = none ↔ ∀ t ∈ texts, t = "" := by
  rw [List.head?_eq_none_iff, nonempty, List.filter_eq_nil_iff]
  simp

/-! ### The description of a record -/

/-- The pairs of a page: those of its blocks, then those of its definition
lists. -/
def labelPairs (d : Document) : List (String × String) := blockPairs d ++ definitionPairs d

/-- The texts of the elements of a name, in the order of the page. -/
def textsOf (d : Document) (name : String) : List String :=
  (d.elements.filter (·.isNamed name)).map textOf

/-- The title of a page: the first heading with a text, or else the first title
element with one. -/
def IsTitle (d : Document) (title : String) : Prop :=
  IsFirstText (textsOf d "h1") title ∨
    (∀ t ∈ textsOf d "h1", t = "") ∧ IsFirstText (textsOf d "title") title

/-- What a record has to say of a page. -/
structure Record.Describes (r : Record) (address : String) (d : Document) (now : String) : Prop where
  url : r.url = address
  scrapedAt : r.scrapedAt = now
  ruleId : r.ruleId = ruleId? address
  title : ∀ title, r.title = some title ↔ IsTitle d title
  fields : ∀ key value, r.fields.get? key = some value ↔ IsFirstFor (labelPairs d) key value

/-! ### What is read -/

theorem lookup_usable (key : String) : ∀ pairs : List (String × String),
    ((pairs.map fun (label, value) => (fieldKey label, value)).filter
        fun (key, value) => key ≠ "" && value ≠ "").lookup key =
      (pairs.find? (CountsFor key ·)).map (·.2)
  | [] => rfl
  | (label, value) :: pairs => by
    have ih := lookup_usable key pairs
    rw [List.map_cons, List.find?_cons, List.filter_cons]
    by_cases hcounts : CountsFor key (label, value)
    · obtain ⟨hkey, hne, hvalue⟩ := hcounts
      have husable : (fieldKey label ≠ "" && value ≠ "") = true := by simp [hkey, hne, hvalue]
      rw [if_pos husable, FieldMap.lookup_cons, if_pos hkey.symm, decide_eq_true ⟨hkey, hne, hvalue⟩]
      rfl
    · rw [decide_eq_false hcounts]
      dsimp only
      split
      · rename_i husable
        have hparts : fieldKey label ≠ "" ∧ value ≠ "" := by simpa using husable
        have hother : key ≠ fieldKey label := by
          intro heq
          exact hcounts ⟨heq.symm, heq ▸ hparts.1, hparts.2⟩
        rw [FieldMap.lookup_cons, if_neg hother, ih]
      · exact ih

/-- **The text under a key is that of the first pair that counts.** -/
theorem get?_recordOf (url : String) (d : Document) (now key : String) :
    (recordOf url d now).fields.get? key =
      ((labelPairs d).find? (CountsFor key ·)).map (·.2) := by
  show (firstWins (usablePairs d)).get? key = _
  rw [get?_firstWins]
  exact lookup_usable key (labelPairs d)

/-- What stands in a record comes from a pair of the page. -/
theorem exists_pair_of_get? {url now key value : String} {d : Document}
    (h : (recordOf url d now).fields.get? key = some value) :
    ∃ label, (label, value) ∈ labelPairs d ∧ CountsFor key (label, value) := by
  rw [get?_recordOf, Option.map_eq_some_iff] at h
  obtain ⟨⟨label, value⟩, hpair, rfl⟩ := h
  exact ⟨label, List.mem_of_find?_eq_some hpair, by simpa using List.find?_some hpair⟩

theorem title_recordOf (url : String) (d : Document) (now title : String) :
    (recordOf url d now).title = some title ↔ IsTitle d title := by
  have htitle : (recordOf url d now).title =
      ((nonempty (textsOf d "h1")).head?).or (nonempty (textsOf d "title")).head? := rfl
  rw [htitle, Option.or_eq_some_iff, head?_nonempty_eq_some_iff, head?_nonempty_eq_none_iff,
    head?_nonempty_eq_some_iff]
  rfl

theorem describes_recordOf (url : String) (d : Document) (now : String) :
    (recordOf url d now).Describes url d now where
  url := rfl
  scrapedAt := rfl
  ruleId := rfl
  title := title_recordOf url d now
  fields key value := by rw [get?_recordOf, find?_counts_eq_some_iff]

/-- **The record that is read is the only one that describes the page.** -/
theorem describes_iff {url : String} {d : Document} {now : String} {r : Record} :
    r.Describes url d now ↔ r = recordOf url d now := by
  constructor
  · intro h
    have hread := describes_recordOf url d now
    have htitle : r.title = (recordOf url d now).title :=
      Option.ext fun title => (h.title title).trans (hread.title title).symm
    have hfields : r.fields = (recordOf url d now).fields :=
      FieldMap.eq_of_get?_eq fun key =>
        Option.ext fun value => (h.fields key value).trans (hread.fields key value).symm
    rcases r with ⟨url', ruleId, title, fields, scrapedAt⟩
    obtain ⟨hurl, hscrapedAt, hruleId, -, -⟩ := h
    dsimp only at hurl hscrapedAt hruleId htitle hfields
    rw [hurl, hscrapedAt, hruleId, htitle, hfields]
    rfl
  · rintro rfl
    exact describes_recordOf url d now

/-! ### What first pairs depend on -/

theorem isFirstFor_iff_of_find?_eq {pairs pairs' : List (String × String)} {key value : String}
    (h : pairs.find? (CountsFor key ·) = pairs'.find? (CountsFor key ·)) :
    IsFirstFor pairs key value ↔ IsFirstFor pairs' key value := by
  rw [← find?_counts_eq_some_iff, ← find?_counts_eq_some_iff, h]

/-- Pairs without a value can be left out. -/
theorem find?_counts_filter (key : String) (pairs : List (String × String)) :
    (pairs.filter (·.2 ≠ "")).find? (CountsFor key ·) = pairs.find? (CountsFor key ·) := by
  have hcounts : ∀ pair : String × String, (pair.2 ≠ "" ∧ CountsFor key pair) ↔ CountsFor key pair :=
    fun pair => and_iff_right_of_imp fun h => h.2.2
  rw [List.find?_filter]
  simp only [decide_eq_true_eq, hcounts]

/-- Blocks come before definition lists. -/
theorem find?_counts_labelPairs (key : String) (d : Document) :
    (labelPairs d).find? (CountsFor key ·) =
      ((blockPairs d).find? (CountsFor key ·)).or ((definitionPairs d).find? (CountsFor key ·)) :=
  List.find?_append

/-- **A record holds the first of each.** It is the one record that describes
its page, and its look-up by a label gives the value of the first pair whose
label has the same key. A key is missing when no pair counts for it. Pairs
without a value could as well be missing from the page. A pair of a block that
counts for a key comes before all of definition lists. -/
theorem record_of_first_pairs (url now : String) (d : Document) :
    (∀ r : Record, r.Describes url d now ↔ r = recordOf url d now) ∧
    (∀ label value, (recordOf url d now).field? label = some value ↔
      IsFirstFor (labelPairs d) (fieldKey label) value) ∧
    (∀ key, (recordOf url d now).fields.get? key = none ↔
      ∀ pair ∈ labelPairs d, ¬ CountsFor key pair) ∧
    ((recordOf url d now).title = none ↔
      ∀ t ∈ textsOf d "h1" ++ textsOf d "title", t = "") ∧
    (∀ key value, IsFirstFor (labelPairs d) key value ↔
      IsFirstFor ((labelPairs d).filter (·.2 ≠ "")) key value) ∧
    (∀ key, (recordOf url d now).fields.get? key =
      (((blockPairs d).find? (CountsFor key ·)).or
        ((definitionPairs d).find? (CountsFor key ·))).map (·.2)) ∧
    ∀ page, extract url page now = recordOf url (Document.parse page) now := by
  refine ⟨fun r => describes_iff, fun label value => ?_, fun key => ?_, ?_, fun key value => ?_,
    fun key => ?_, fun page => rfl⟩
  · exact (describes_recordOf url d now).fields (fieldKey label) value
  · rw [get?_recordOf, Option.map_eq_none_iff, List.find?_eq_none]
    simp only [decide_eq_true_eq]
  · have htitle : (recordOf url d now).title =
        ((nonempty (textsOf d "h1")).head?).or (nonempty (textsOf d "title")).head? := rfl
    rw [htitle, Option.or_eq_none_iff, head?_nonempty_eq_none_iff, head?_nonempty_eq_none_iff,
      List.forall_mem_append]
  · exact isFirstFor_iff_of_find?_eq (find?_counts_filter key _).symm
  · rw [get?_recordOf, find?_counts_labelPairs]

end RuleHarvest
