/-
# The number that an address names

An address names the rule `d` if it is made of four parts: a path up to and
with a slash, or nothing; the digits of `d`; slashes, if any; and a query or a
fragment, if any. `ruleId?` finds exactly these numbers (`ruleId?_eq_some_iff`).
It cuts off the query and the fragment, then the slashes, and then takes what is
behind the last slash, so each cut gives one part back.

Key definitions: `NumberParts`.
Key theorems: `ruleId?_of_parts`, `exists_parts_of_ruleId?`,
`ruleId?_eq_some_iff`, `numberParts_ruleUrl`.
-/
import RuleHarvest.Proofs.Text.Trim
import RuleHarvest.Rule.PageUrl

namespace RuleHarvest

/-- A query or a fragment, or nothing. -/
def IsQueryOrFragment (s : String) : Prop :=
  s = "" ∨ s.toList.head? = some '?' ∨ s.toList.head? = some '#'

/-- A number of a rule: digits, at least one. -/
def IsRuleNumber (d : String) : Prop := d ≠ "" ∧ ∀ c ∈ d.toList, c.isDigit = true

/-- The parts of an address that names the rule `d`. -/
structure NumberParts (url path d slashes behind : String) : Prop where
  parts : url = path ++ d ++ slashes ++ behind
  number : IsRuleNumber d
  endsInSlash : path = "" ∨ path.toList.getLast? = some '/'
  noQuery : '?' ∉ path.toList
  noFragment : '#' ∉ path.toList
  slashes : ∀ c ∈ slashes.toList, c = '/'
  behind : IsQueryOrFragment behind

theorem ne_of_isDigit {c d : Char} (h : c.isDigit = true) (hd : d.isDigit = false) : c ≠ d := by
  rintro rfl
  rw [h] at hd
  cases hd

/-- The path of an address ends where the query or the fragment begins. -/
theorem pathPart_append {path behind : List Char} (hquery : '?' ∉ path) (hfragment : '#' ∉ path)
    (h : behind = [] ∨ behind.head? = some '?' ∨ behind.head? = some '#') :
    pathPart (path ++ behind) = path := by
  refine Text.takeWhile_append_stop (fun c hc => ?_) (fun c hc => ?_)
  · simpa using ⟨ne_of_mem_of_not_mem hc hquery, ne_of_mem_of_not_mem hc hfragment⟩
  · rcases h with rfl | h | h
    · cases hc
    all_goals
      rw [h, Option.mem_some_iff] at hc
      rw [← hc]
      decide

/-- The last segment stands behind the last slash that has something behind
it. -/
theorem lastSegment_append {path segment slashes : List Char}
    (hpath : path = [] ∨ path.getLast? = some '/') (hsegment : '/' ∉ segment) (hne : segment ≠ [])
    (hslashes : ∀ c ∈ slashes, c = '/') : lastSegment (path ++ segment ++ slashes) = segment := by
  have hlast : ∀ c ∈ (path ++ segment).getLast?, decide (c = '/') = false := by
    intro c hc
    rw [List.getLast?_append_of_ne_nil _ hne] at hc
    exact decide_eq_false (ne_of_mem_of_not_mem (List.mem_of_getLast? hc) hsegment)
  have hdrop : Text.dropEndWhile (· = '/') (path ++ segment ++ slashes) = path ++ segment := by
    rw [Text.dropEndWhile_append (by simpa using hslashes), Text.dropEndWhile_eq_self hlast]
  have htake : (segment.reverse ++ path.reverse).takeWhile (· ≠ '/') = segment.reverse := by
    refine Text.takeWhile_append_stop (fun c hc => ?_) (fun c hc => ?_)
    · exact decide_eq_true (ne_of_mem_of_not_mem (List.mem_reverse.1 hc) hsegment)
    · rcases hpath with rfl | hpath
      · cases hc
      · rw [List.head?_reverse, hpath, Option.mem_some_iff] at hc
        rw [← hc]
        decide
  unfold lastSegment
  rw [hdrop, List.reverse_append, htake, List.reverse_reverse]

/-- A path is what stands before its last segment, the segment and slashes. -/
theorem exists_lastSegment (path : List Char) :
    ∃ front slashes, path = front ++ lastSegment path ++ slashes ∧
      (front = [] ∨ front.getLast? = some '/') ∧ ∀ c ∈ slashes, c = '/' := by
  obtain ⟨slashes, hpath, hslashes⟩ := Text.exists_dropEndWhile (· = '/') path
  have hsplit : Text.dropEndWhile (· = '/') path =
      ((Text.dropEndWhile (· = '/') path).reverse.dropWhile (· ≠ '/')).reverse ++
        lastSegment path := by
    rw [lastSegment, ← List.reverse_append, List.takeWhile_append_dropWhile, List.reverse_reverse]
  refine ⟨((Text.dropEndWhile (· = '/') path).reverse.dropWhile (· ≠ '/')).reverse, slashes, ?_, ?_,
    by simpa using hslashes⟩
  · rw [← hsplit]
    exact hpath
  · have hstop := Text.head?_dropWhile (· ≠ '/') (Text.dropEndWhile (· = '/') path).reverse
    rw [List.getLast?_reverse]
    cases hdrop : (Text.dropEndWhile (· = '/') path).reverse.dropWhile (· ≠ '/') with
    | nil => exact .inl rfl
    | cons c cs =>
      rw [hdrop] at hstop
      have hc : c = '/' := by simpa using hstop c rfl
      exact .inr (congrArg some hc)

/-- An address is its path and then its query or fragment. -/
theorem exists_pathPart (url : List Char) :
    ∃ behind, url = pathPart url ++ behind ∧ '?' ∉ pathPart url ∧ '#' ∉ pathPart url ∧
      (behind = [] ∨ behind.head? = some '?' ∨ behind.head? = some '#') := by
  have hmem : ∀ c ∈ pathPart url, c ≠ '?' ∧ c ≠ '#' := by
    intro c hc
    simpa using List.mem_takeWhile_imp hc
  refine ⟨_, List.takeWhile_append_dropWhile.symm, fun h => (hmem _ h).1 rfl,
    fun h => (hmem _ h).2 rfl, ?_⟩
  have hstop := Text.head?_dropWhile (fun c => c ≠ '?' && c ≠ '#') url
  cases hdrop : url.dropWhile fun c => c ≠ '?' && c ≠ '#' with
  | nil => exact .inl rfl
  | cons c cs =>
    rw [hdrop] at hstop
    have hc : c = '?' ∨ c = '#' := by
      have := hstop c rfl
      by_cases hquery : c = '?'
      · exact .inl hquery
      · exact .inr (by simpa [hquery] using this)
    rcases hc with rfl | rfl
    · exact .inr (.inl rfl)
    · exact .inr (.inr rfl)

theorem ruleId?_of_parts {url path d slashes behind : String}
    (h : NumberParts url path d slashes behind) : ruleId? url = some d := by
  obtain ⟨rfl, ⟨hne, hdigits⟩, hpath, hquery, hfragment, hslashes, hbehind⟩ := h
  have hno : ∀ e : Char, e.isDigit = false → e ∉ d.toList := fun e he hmem =>
    ne_of_isDigit (hdigits e hmem) he rfl
  have hnoSlashes : ∀ e : Char, e ≠ '/' → e ∉ slashes.toList := fun e he hmem =>
    he (hslashes e hmem)
  have hne' : d.toList ≠ [] := by simpa using hne
  have hurl : (path ++ d ++ slashes ++ behind).toList =
      path.toList ++ d.toList ++ slashes.toList ++ behind.toList := by
    simp only [String.toList_append]
  have hpathPart : pathPart (path ++ d ++ slashes ++ behind).toList =
      path.toList ++ d.toList ++ slashes.toList := by
    rw [hurl]
    refine pathPart_append ?_ ?_ ?_
    · simp only [List.mem_append, not_or]
      exact ⟨⟨hquery, hno '?' (by decide)⟩, hnoSlashes '?' (by decide)⟩
    · simp only [List.mem_append, not_or]
      exact ⟨⟨hfragment, hno '#' (by decide)⟩, hnoSlashes '#' (by decide)⟩
    · simpa [IsQueryOrFragment] using hbehind
  have hsegment : lastSegment (path.toList ++ d.toList ++ slashes.toList) = d.toList :=
    lastSegment_append (by simpa using hpath) (hno '/' (by decide)) hne' hslashes
  unfold ruleId?
  simp only [hpathPart, hsegment]
  rw [if_pos ⟨hne', List.all_eq_true.2 hdigits⟩, String.ofList_toList]

theorem exists_parts_of_ruleId? {url d : String} (h : ruleId? url = some d) :
    ∃ path slashes behind, NumberParts url path d slashes behind := by
  unfold ruleId? at h
  dsimp only at h
  split at h
  · rename_i hsegment
    obtain ⟨behind, hurl, hquery, hfragment, hbehind⟩ := exists_pathPart url.toList
    obtain ⟨front, slashes, hpath, hfront, hslashes⟩ := exists_lastSegment (pathPart url.toList)
    have hsub : ∀ c ∈ front, c ∈ pathPart url.toList := by
      intro c hc
      rw [hpath]
      simp [hc]
    have hd : d.toList = lastSegment (pathPart url.toList) := by
      rw [← Option.some.inj h, String.toList_ofList]
    refine ⟨String.ofList front, String.ofList slashes, String.ofList behind, ?_⟩
    refine ⟨?_, ⟨?_, ?_⟩, ?_, ?_, ?_, ?_, ?_⟩
    · rw [String.ext_iff]
      simp only [String.toList_append, String.toList_ofList, hd]
      rw [← hpath]
      exact hurl
    · have hne : d.toList ≠ [] := hd ▸ hsegment.1
      simpa using hne
    · rw [hd]
      exact List.all_eq_true.1 hsegment.2
    · simpa using hfront
    · simpa using fun hmem => hquery (hsub _ hmem)
    · simpa using fun hmem => hfragment (hsub _ hmem)
    · simpa using hslashes
    · simpa [IsQueryOrFragment] using hbehind
  · cases h

/-- **Which number an address names.** -/
theorem ruleId?_eq_some_iff {url d : String} :
    ruleId? url = some d ↔ ∃ path slashes behind, NumberParts url path d slashes behind :=
  ⟨exists_parts_of_ruleId?, fun ⟨_, _, _, h⟩ => ruleId?_of_parts h⟩

/-! ### Addresses of rule pages -/

theorem isTrimmed_of_isRuleNumber {d : String} (h : IsRuleNumber d) : Text.IsTrimmed d.toList := by
  have hblank : ∀ c ∈ d.toList, Text.isBlank c = false := by
    intro c hc
    have hdigit : 48 ≤ c.toNat ∧ c.toNat ≤ 57 := by
      simpa [Char.isDigit, UInt32.le_iff_toNat_le] using h.2 c hc
    simp only [Text.isBlank, Bool.or_eq_false_iff, Bool.and_eq_false_iff, decide_eq_false_iff_not]
    omega
  exact ⟨fun c hc => hblank c (List.mem_of_mem_head? hc), fun c hc =>
    hblank c (List.mem_of_getLast? hc)⟩

/-- The address of a rule page is that of the pages and the number, whatever
blanks stand around the number. -/
theorem ruleUrl_of_trimsTo {id d : String} (h : Text.TrimsTo id d) :
    ruleUrl id = baseUrl ++ "/" ++ d := by
  rw [Text.trimsTo_iff.1 h]
  rfl

/-- The address of a rule page names the rule, with slashes behind it and then a
query or a fragment. -/
theorem numberParts_ruleUrl {id d slashes behind : String} (hd : IsRuleNumber d)
    (hid : Text.TrimsTo id d) (hslashes : ∀ c ∈ slashes.toList, c = '/')
    (hbehind : IsQueryOrFragment behind) :
    NumberParts (ruleUrl id ++ slashes ++ behind) (baseUrl ++ "/") d slashes behind where
  parts := by rw [ruleUrl_of_trimsTo hid]
  number := hd
  endsInSlash := .inr (by decide)
  noQuery := by decide
  noFragment := by decide
  slashes := hslashes
  behind := hbehind

theorem ruleId?_ruleUrl {id d : String} (hd : IsRuleNumber d) (hid : Text.TrimsTo id d) :
    ruleId? (ruleUrl id) = some d := by
  have hparts : NumberParts (ruleUrl id ++ "" ++ "") (baseUrl ++ "/") d "" "" :=
    numberParts_ruleUrl hd hid (by simp) (.inl rfl)
  simpa using ruleId?_of_parts hparts

end RuleHarvest
