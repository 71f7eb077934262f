/-
# Which labels have the same key

A key can be made while a label is read from left to right (`KeyScan`): a letter
or digit is added in lower case, behind an underscore if something else has been
passed since the last one and there was one. What has been made after each
character is the key of what has been read (`scan_eq`).

A key tells its label but for case and for what stands between the runs. The
lower case of a run tells the lower case of each of its characters
(`lowerRun_inj`): only U+0130 has two characters, and the second of them, the
combining dot, comes from no other letter and so shows where it ends. Labels
have the same key exactly when they are spelled alike (`fieldKey_eq_iff`): their
maximal runs are as many, and correspond in length and in the lower case of
each character.

Key definitions: `KeyScan`, `KeyScan.read`, `lowerRun`, `SpelledAlike`.
Key theorems: `read_scanned`, `scan_eq`, `lowerRun_inj`, `fieldKey_eq_iff`,
`keyChars_append_cut`, `key_tells_runs`.
-/
import RuleHarvest.Proofs.Rule.KeyAsLabel
import RuleHarvest.Proofs.Text.MaximalRuns

namespace RuleHarvest

open Html (Document)
open Text

variable {a b label : List Char} {c d : Char} {r r' : List Char}

/-! ### The runs of a label -/

theorem keyRuns_append (h : ¬ RunsOn isAlphanumeric a b) :
    keyRuns (a ++ b) = keyRuns a ++ keyRuns b := by
  rw [keyRuns, runs_append h, List.map_append]
  rfl

theorem keyRuns_append_cut (h : isAlphanumeric c = false) (a b : List Char) :
    keyRuns (a ++ c :: b) = keyRuns a ++ keyRuns b := by
  rw [keyRuns, runs_append_cut h, List.map_append]
  rfl

theorem keyRuns_singleton (h : isAlphanumeric c = true) : keyRuns [c] = [lowercase c] := by
  rw [keyRuns, runs_of_all (by simpa using h) (by simp)]
  simp

theorem keyRuns_eq_nil_iff : keyRuns label = [] ↔ ∀ c ∈ label, isAlphanumeric c = false := by
  rw [keyRuns, List.map_eq_nil_iff, runs_eq_nil_iff]

theorem keyChars_eq_nil_iff : keyChars label = [] ↔ keyRuns label = [] :=
  join_eq_nil_iff fun _ => mem_keyRuns_ne_nil

/-- **Something between two labels parts their keys.** A key that is empty leaves
no underscore. -/
theorem keyChars_append_cut (h : isAlphanumeric c = false) (a b : List Char) :
    keyChars (a ++ c :: b) = join ['_'] ([keyChars a, keyChars b].filter (· ≠ [])) := by
  rw [keyChars, keyRuns_append_cut h]
  by_cases ha : keyChars a = []
  · rw [keyChars_eq_nil_iff.1 ha, List.nil_append]
    show keyChars b = _
    by_cases hb : keyChars b = []
    · simp [ha, hb, join]
    · simp [ha, hb, join]
  · have ha' : keyRuns a ≠ [] := fun hnil => ha (keyChars_eq_nil_iff.2 hnil)
    by_cases hb : keyChars b = []
    · rw [keyChars_eq_nil_iff.1 hb, List.append_nil]
      show keyChars a = _
      simp [ha, hb, join]
    · have hb' : keyRuns b ≠ [] := fun hnil => hb (keyChars_eq_nil_iff.2 hnil)
      rw [join_append _ hb' ha']
      show keyChars a ++ ['_'] ++ keyChars b = _
      simp [ha, hb, join]

/-! ### Keys from left to right -/

/-- How far a label has been read. -/
structure KeyScan where
  key : List Char := []
  /-- Something that is no letter or digit stands behind what was read last. -/
  parted : Bool := false

/-- Reads a character. -/
def KeyScan.read (k : KeyScan) (c : Char) : KeyScan :=
  if isAlphanumeric c then
    ⟨(if k.parted && !k.key.isEmpty then k.key ++ ['_'] else k.key) ++ lowercase c, false⟩
  else ⟨k.key, true⟩

/-- What there is when a text has been read. -/
def KeyScan.scanned (label : List Char) : KeyScan :=
  ⟨keyChars label, label.getLast?.any fun c => !isAlphanumeric c⟩

theorem keyChars_concat_other (h : isAlphanumeric c = false) (a : List Char) :
    keyChars (a ++ [c]) = keyChars a := by
  rw [keyChars, keyRuns_append_cut h, show keyRuns [] = [] from rfl, List.append_nil]
  rfl

/-- A letter or digit that begins a run. -/
theorem keyChars_concat_first (h : isAlphanumeric c = true)
    (ha : a.getLast?.any isAlphanumeric = false) : keyChars (a ++ [c]) =
      (if keyChars a = [] then [] else keyChars a ++ ['_']) ++ lowercase c := by
  rw [keyChars, keyRuns_append (not_runsOn_of_last ha), keyRuns_singleton h]
  by_cases hnil : keyRuns a = []
  · rw [if_pos (keyChars_eq_nil_iff.2 hnil), hnil]
    rfl
  · rw [if_neg (fun hkey => hnil (keyChars_eq_nil_iff.1 hkey)), join_append _ (by simp) hnil]
    rfl

/-- A letter or digit that goes on with the last run. -/
theorem keyChars_concat_more (h : isAlphanumeric c = true)
    (ha : a.getLast?.any isAlphanumeric = true) : keyChars (a ++ [c]) = keyChars a ++ lowercase c := by
  obtain ⟨s, r, rfl, hr, hs⟩ := exists_last_run isAlphanumeric a
  have hne : r ≠ [] := by
    rintro rfl
    rw [List.append_nil, hs] at ha
    cases ha
  have hrun : ∀ t : List Char, (∀ c ∈ t, isAlphanumeric c = true) → t ≠ [] →
      keyChars (s ++ t) = join ['_'] (keyRuns s ++ [t.flatMap lowercase]) := by
    intro t ht hne
    rw [keyChars, keyRuns_append (not_runsOn_of_last hs), keyRuns, keyRuns, runs_of_all ht hne]
    rfl
  have hlonger : ∀ d ∈ r ++ [c], isAlphanumeric d = true :=
    List.forall_mem_append.2 ⟨hr, by simpa using h⟩
  rw [List.append_assoc, hrun (r ++ [c]) hlonger (by simp), hrun r hr hne, List.flatMap_append,
    join_append_last, List.flatMap_singleton]

/-- **What one character adds.** -/
theorem read_scanned (a : List Char) (c : Char) :
    (KeyScan.scanned a).read c = KeyScan.scanned (a ++ [c]) := by
  unfold KeyScan.read KeyScan.scanned
  rw [List.getLast?_concat, Option.any_some]
  by_cases hc : isAlphanumeric c = true
  · rw [if_pos hc, hc]
    dsimp only
    rcases hlast : a.getLast? with _ | e
    · obtain rfl := List.getLast?_eq_none_iff.1 hlast
      rw [keyChars_concat_first hc rfl]
      rfl
    · by_cases he : isAlphanumeric e = true
      · rw [keyChars_concat_more hc (by simpa [hlast] using he)]
        simp [he]
      · rw [keyChars_concat_first hc (by simpa [hlast] using he)]
        by_cases hkey : keyChars a = []
        · simp [hkey]
        · simp [he, hkey]
  · have hc : isAlphanumeric c = false := by simpa using hc
    rw [if_neg (by simp [hc]), keyChars_concat_other hc, hc]
    rfl

/-- **The key is what has been made when the label has been read.** -/
theorem scan_eq (label : List Char) : label.foldl KeyScan.read {} = KeyScan.scanned label := by
  induction label using List.reverseRecOn with
  | nil => rfl
  | append_singleton a c ih => rw [List.foldl_append, ih, List.foldl_cons, List.foldl_nil, read_scanned]

/-! ### Runs in lower case -/

/-- A run in lower case. -/
def lowerRun (r : List Char) : List Char := r.flatMap lowercase

theorem lowercase_cases (h : isAlphanumeric c = true) :
    (∃ d, lowercase c = [d] ∧ d ≠ '\u0307') ∨ lowercase c = ['i', '\u0307'] := by
  by_cases hdot : c = '\u0130'
  · right
    rw [hdot, lowercase_dotted]
  · left
    obtain ⟨d, hd, halphanumeric, -⟩ := lowercase_of_isAlphanumeric h hdot
    refine ⟨d, hd, ?_⟩
    rintro rfl
    rw [isAlphanumeric_dot] at halphanumeric
    cases halphanumeric

/-- No run in lower case begins with the combining dot. -/
theorem head?_lowerRun (h : ∀ c ∈ r, isAlphanumeric c = true) :
    (lowerRun r).head? ≠ some '\u0307' := by
  rcases r with _ | ⟨c, r⟩
  · simp [lowerRun]
  · rw [lowerRun, List.flatMap_cons]
    rcases lowercase_cases (h c List.mem_cons_self) with ⟨d, hd, hdot⟩ | hc
    · simpa [hd] using hdot
    · rw [hc, List.cons_append, List.head?_cons]
      decide

/-- Where no dot follows, the lower case of a letter is told from what it stands
before. -/
theorem lowercase_append_inj (hc : isAlphanumeric c = true) (hd : isAlphanumeric d = true)
    (ha : a.head? ≠ some '\u0307') (hb : b.head? ≠ some '\u0307') :
    lowercase c ++ a = lowercase d ++ b ↔ lowercase c = lowercase d ∧ a = b := by
  constructor
  · intro h
    rcases lowercase_cases hc with ⟨x, hx, -⟩ | hx
    · rcases lowercase_cases hd with ⟨y, hy, -⟩ | hy
      · simpa [hx, hy] using h
      · obtain ⟨-, rfl⟩ : x = 'i' ∧ a = '\u0307' :: b := by simpa [hx, hy] using h
        exact absurd rfl ha
    · rcases lowercase_cases hd with ⟨y, hy, -⟩ | hy
      · obtain ⟨-, rfl⟩ : 'i' = y ∧ '\u0307' :: a = b := by simpa [hx, hy] using h
        exact absurd rfl hb
      · simpa [hx, hy] using h
  · rintro ⟨hlower, rfl⟩
    rw [hlower]

/-- **A run in lower case tells the lower case of each of its characters.** -/
theorem lowerRun_inj : ∀ {r r' : List Char}, (∀ c ∈ r, isAlphanumeric c = true) →
    (∀ c ∈ r', isAlphanumeric c = true) →
      (lowerRun r = lowerRun r' ↔ List.Forall₂ (fun c d => lowercase c = lowercase d) r r')
  | [], [], _, _ => by simp
  | [], d :: r', _, h' => by
    have hne := lowercase_ne_nil (h' d List.mem_cons_self)
    simp [lowerRun, hne]
  | c :: r, [], h, _ => by
    have hne := lowercase_ne_nil (h c List.mem_cons_self)
    simp [lowerRun, hne]
  | c :: r, d :: r', h, h' => by
    obtain ⟨hc, hr⟩ := List.forall_mem_cons.1 h
    obtain ⟨hd, hr'⟩ := List.forall_mem_cons.1 h'
    rw [List.forall₂_cons, ← lowerRun_inj hr hr']
    exact lowercase_append_inj hc hd (head?_lowerRun hr) (head?_lowerRun hr')

theorem map_lowerRun_inj : ∀ {rs rs' : List (List Char)},
    (∀ r ∈ rs, ∀ c ∈ r, isAlphanumeric c = true) → (∀ r ∈ rs', ∀ c ∈ r, isAlphanumeric c = true) →
      (rs.map lowerRun = rs'.map lowerRun ↔
        List.Forall₂ (List.Forall₂ fun c d => lowercase c = lowercase d) rs rs')
  | [], [], _, _ => by simp
  | [], r' :: rs', _, _ => by simp
  | r :: rs, [], _, _ => by simp
  | r :: rs, r' :: rs', h, h' => by
    obtain ⟨hr, hrs⟩ := List.forall_mem_cons.1 h
    obtain ⟨hr', hrs'⟩ := List.forall_mem_cons.1 h'
    rw [List.map_cons, List.map_cons, List.cons.injEq, lowerRun_inj hr hr', map_lowerRun_inj hrs hrs',
      List.forall₂_cons]

/-! ### Labels that are spelled alike -/

/-- Two labels that differ in case and in what stands between their runs, and in
nothing else. -/
def SpelledAlike (label label' : String) : Prop :=
  ∃ rs rs' : List (List Char), HasRuns isAlphanumeric label.toList rs ∧
    HasRuns isAlphanumeric label'.toList rs' ∧
      List.Forall₂ (List.Forall₂ fun c d => lowercase c = lowercase d) rs rs'

theorem fieldKey_eq_iff_runs {label label' : String} {rs rs' : List (List Char)}
    (h : HasRuns isAlphanumeric label.toList rs) (h' : HasRuns isAlphanumeric label'.toList rs') :
    fieldKey label = fieldKey label' ↔ rs.map lowerRun = rs'.map lowerRun := by
  obtain rfl := hasRuns_iff.1 h
  obtain rfl := hasRuns_iff.1 h'
  exact fieldKey_inj

/-- **Labels have the same key exactly when they are spelled alike.** -/
theorem fieldKey_eq_iff {label label' : String} :
    fieldKey label = fieldKey label' ↔ SpelledAlike label label' := by
  have hletters : ∀ s : List Char, ∀ r ∈ runs isAlphanumeric s, ∀ c ∈ r, isAlphanumeric c = true :=
    fun s r hr => (of_mem_runs hr).2
  rw [fieldKey_eq_iff_runs (hasRuns_iff.2 rfl) (hasRuns_iff.2 rfl),
    map_lowerRun_inj (hletters _) (hletters _)]
  constructor
  · intro halike
    exact ⟨_, _, hasRuns_iff.2 rfl, hasRuns_iff.2 rfl, halike⟩
  · rintro ⟨rs, rs', hrs, hrs', halike⟩
    rwa [← hasRuns_iff.1 hrs, ← hasRuns_iff.1 hrs']

/-! ### Keys as texts -/

theorem fieldKey_eq_intercalate {label : String} {rs : List (List Char)}
    (h : HasRuns isAlphanumeric label.toList rs) :
    fieldKey label = "_".intercalate (rs.map fun r => String.ofList (lowerRun r)) := by
  obtain rfl := hasRuns_iff.1 h
  have hlists : ∀ rs : List (List Char),
      (rs.map fun r => String.ofList (lowerRun r)).map String.toList = rs.map lowerRun := by
    intro rs
    simp
  rw [← String.toList_inj, String.toList_intercalate, hlists, fieldKey, String.toList_ofList,
    keyChars, join_eq_intercalate]
  rfl

theorem fieldKey_append_cut (h : isAlphanumeric c = false) (label other : String) :
    fieldKey (label ++ String.singleton c ++ other) =
      "_".intercalate ([fieldKey label, fieldKey other].filter (· ≠ "")) := by
  have hcut : (label ++ String.singleton c ++ other).toList = label.toList ++ c :: other.toList := by
    simp
  have hparts : ([fieldKey label, fieldKey other].filter (· ≠ "")).map String.toList =
      [keyChars label.toList, keyChars other.toList].filter (· ≠ []) := by
    have hkeys : [fieldKey label, fieldKey other] =
        [keyChars label.toList, keyChars other.toList].map String.ofList := rfl
    rw [hkeys, List.filter_map, List.map_map]
    simp [Function.comp_def]
  rw [← String.toList_inj, String.toList_intercalate, hparts, fieldKey, String.toList_ofList, hcut,
    keyChars_append_cut h, join_eq_intercalate]
  rfl

theorem fieldKey_eq_empty_iff {label : String} :
    fieldKey label = "" ↔ ∀ c ∈ label.toList, isAlphanumeric c = false := by
  rw [← keyRuns_eq_nil_iff, ← keyChars_eq_nil_iff, fieldKey]
  simp

/-! ### Labels in a record -/

/-- A record with one field. -/
def oneField (key value : String) : Record where
  url := ""
  ruleId := none
  title := none
  fields := FieldMap.empty.insert key value
  scrapedAt := ""

theorem field?_oneField (key value label : String) :
    (oneField key value).field? label = if fieldKey label = key then some value else none := by
  show (FieldMap.empty.insert key value).get? (fieldKey label) = _
  rw [FieldMap.get?_insert]
  rfl

/-- **Labels find the same in every record** exactly when they are spelled
alike. -/
theorem field?_eq_iff {label label' : String} :
    (∀ r : Record, r.field? label = r.field? label') ↔ SpelledAlike label label' := by
  rw [← fieldKey_eq_iff]
  constructor
  · intro h
    have hfound := h (oneField (fieldKey label) "found")
    rw [field?_oneField, field?_oneField, if_pos rfl] at hfound
    by_contra hne
    rw [if_neg fun hkey => hne hkey.symm] at hfound
    cases hfound
  · intro hkey r
    rw [Record.field?, Record.field?, hkey]

/-- What a record has under a label stands on the page under a label that is
spelled alike. -/
theorem exists_label_of_field? {url page now label value : String}
    (h : (extract url page now).field? label = some value) :
    ∃ shown, (shown, value) ∈ labelPairs (Document.parse page) ∧ SpelledAlike shown label := by
  obtain ⟨shown, hpair, hcounts⟩ := exists_pair_of_get? h
  exact ⟨shown, hpair, fieldKey_eq_iff.1 hcounts.1⟩

/-- **A key tells the runs of its label, in lower case, and nothing else.** Each
label has its maximal runs of letters and digits; the key is these in lower case
with an underscore between each two, and is what has been made when the label
has been read from left to right. Labels have the same key exactly when their
runs are the same in lower case, which is to say that they are spelled alike: so
these labels, and no others, find the same in every record, and what a record
has under a label stands on its page under one that is spelled alike. What
stands between two labels parts their keys, where both have one; and a label has
none exactly when it has no letter and no digit. -/
theorem key_tells_runs (label other : String) :
    ∃ rs rs' : List (List Char),
      (∀ cut, HasRuns isAlphanumeric label.toList cut ↔ cut = rs) ∧
      (∀ cut, HasRuns isAlphanumeric other.toList cut ↔ cut = rs') ∧
      fieldKey label = "_".intercalate (rs.map fun r => String.ofList (r.flatMap lowercase)) ∧
      fieldKey label = String.ofList (label.toList.foldl KeyScan.read {}).key ∧
      (fieldKey label = fieldKey other ↔
        (rs.map fun r => r.flatMap lowercase) = rs'.map fun r => r.flatMap lowercase) ∧
      (fieldKey label = fieldKey other ↔ SpelledAlike label other) ∧
      (fieldKey label = fieldKey other ↔ ∀ r : Record, r.field? label = r.field? other) ∧
      (∀ url page now value, (extract url page now).field? label = some value →
        ∃ shown, (shown, value) ∈ labelPairs (Document.parse page) ∧ SpelledAlike shown label) ∧
      (∀ c, isAlphanumeric c = false → fieldKey (label ++ String.singleton c ++ other) =
        "_".intercalate ([fieldKey label, fieldKey other].filter (· ≠ ""))) ∧
      (fieldKey label = "" ↔ ∀ c ∈ label.toList, isAlphanumeric c = false) := by
  have hrs : HasRuns isAlphanumeric label.toList (runs isAlphanumeric label.toList) :=
    hasRuns_iff.2 rfl
  have hrs' : HasRuns isAlphanumeric other.toList (runs isAlphanumeric other.toList) :=
    hasRuns_iff.2 rfl
  refine ⟨_, _, fun _ => hasRuns_iff, fun _ => hasRuns_iff, fieldKey_eq_intercalate hrs, ?_,
    fieldKey_eq_iff_runs hrs hrs', fieldKey_eq_iff, fieldKey_eq_iff.trans field?_eq_iff.symm,
    fun url page now value => exists_label_of_field?, fun c h => fieldKey_append_cut h label other,
    fieldKey_eq_empty_iff⟩
  rw [scan_eq]
  rfl

end RuleHarvest
