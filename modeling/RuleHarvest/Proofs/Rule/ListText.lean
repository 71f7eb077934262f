/-
# Lists of addresses as they are written

A list of addresses is written in lines. A line is blank, or a comment, or an
address, each with white space around it, and ends in a line feed with or
without a carriage return before it; the last one may have no end
(`ListText`). Every text is such a list in exactly one way, and `urlList` reads
it (`urlList_eq_iff`). A carriage return at the end of a line is white space
behind the line, so nothing more has to be said about it.

What is read from a text that ends in a line feed and then goes on is what is
read from its two parts (`urlList_append`), so a list that was read and is
written again, one address to a line, is read again as it is.

Key definitions: `IsEntry`, `ListLine`, `ListText`, `listed?`.
Key theorems: `listed?_eq_iff`, `urlList_append`, `urlList_eq_iff`,
`urlList_reads_lists`.
-/
import RuleHarvest.Proofs.Text.Trim
import RuleHarvest.Proofs.Text.Words
import RuleHarvest.Rule.PageUrl

namespace RuleHarvest

/-! ### Written lists -/

/-- An address that can stand in a list: it is not empty, on one line, has no
white space at its ends and does not look like a comment. -/
structure IsEntry (url : String) : Prop where
  nonempty : url ≠ ""
  oneLine : '\n' ∉ url.toList
  trimmed : Text.IsTrimmed url.toList
  noComment : url.toList.head? ≠ some '#'

/-- White space within a line. -/
def IsSpace (s : List Char) : Prop := Text.AllBlank s ∧ '\n' ∉ s

theorem isSpace_nil : IsSpace [] := ⟨Text.allBlank_nil, List.not_mem_nil⟩

/-- A line without its end, and the address that stands in it, if there is
one. -/
inductive ListLine : List Char → Option String → Prop
  | blank {space : List Char} (hspace : IsSpace space) : ListLine space none
  | comment {indent text : List Char} (hindent : IsSpace indent) (htext : '\n' ∉ text) :
    ListLine (indent ++ '#' :: text) none
  | entry {indent trailing : List Char} {url : String} (hindent : IsSpace indent)
    (htrailing : IsSpace trailing) (hurl : IsEntry url) :
    ListLine (indent ++ url.toList ++ trailing) (some url)

/-- The text of a list, and the addresses in it. -/
inductive ListText : List Char → List String → Prop
  | last {line : List Char} {url? : Option String} (hline : ListLine line url?) :
    ListText line url?.toList
  | lf {line rest : List Char} {url? : Option String} {urls : List String}
    (hline : ListLine line url?) (hrest : ListText rest urls) :
    ListText (line ++ '\n' :: rest) (url?.toList ++ urls)
  | crlf {line rest : List Char} {url? : Option String} {urls : List String}
    (hline : ListLine line url?) (hrest : ListText rest urls) :
    ListText (line ++ '\r' :: '\n' :: rest) (url?.toList ++ urls)

/-! ### Lines -/

/-- The address that is read from a line. -/
def listed? (line : List Char) : Option String :=
  if isListed (Text.trim line) then some (String.ofList (Text.trim line)) else none

theorem isListed_iff {line : List Char} :
    isListed line = true ↔ line ≠ [] ∧ line.head? ≠ some '#' := by
  simp [isListed]

theorem ListLine.oneLine {line : List Char} {url? : Option String} (h : ListLine line url?) :
    '\n' ∉ line := by
  cases h with
  | blank hspace => exact hspace.2
  | comment hindent htext =>
    simp only [List.mem_append, List.mem_cons, not_or]
    exact ⟨hindent.2, by decide, htext⟩
  | entry hindent htrailing hurl =>
    simp only [List.mem_append, not_or]
    exact ⟨⟨hindent.2, hurl.oneLine⟩, htrailing.2⟩

/-- A comment is one also when what is behind it is trimmed. -/
theorem head?_trim_comment {indent : List Char} (hindent : Text.AllBlank indent)
    (text : List Char) : (Text.trim (indent ++ '#' :: text)).head? = some '#' := by
  have htrim : Text.trim (indent ++ '#' :: text) = Text.trim ('#' :: text) := by
    simpa using Text.trim_blanks hindent Text.allBlank_nil ('#' :: text)
  have hkept : Text.trim ('#' :: text) = Text.dropEndWhile Text.isBlank ('#' :: text) := by
    unfold Text.trim
    rw [List.dropWhile_cons_of_neg (by decide)]
  obtain ⟨b, hb, hblank⟩ := Text.exists_dropEndWhile Text.isBlank ('#' :: text)
  rw [htrim, hkept]
  cases hdrop : Text.dropEndWhile Text.isBlank ('#' :: text) with
  | nil =>
    rw [hdrop, List.nil_append] at hb
    have hhash := hblank '#' (hb ▸ List.mem_cons_self)
    revert hhash
    decide
  | cons c cs =>
    rw [hdrop] at hb
    exact congrArg some (List.cons.inj hb).1.symm

theorem ListLine.listed? {line : List Char} {url? : Option String} (h : ListLine line url?) :
    listed? line = url? := by
  unfold RuleHarvest.listed?
  cases h with
  | blank hspace =>
    rw [Text.trim_allBlank hspace.1]
    rfl
  | comment hindent htext =>
    have hhead := head?_trim_comment hindent.1
    rw [if_neg fun hlisted => (isListed_iff.1 hlisted).2 (hhead _)]
  | @entry indent trailing url hindent htrailing hurl =>
    have htrim : Text.trim (indent ++ url.toList ++ trailing) = url.toList := by
      rw [Text.trim_blanks hindent.1 htrailing.1, Text.trim_of_isTrimmed hurl.trimmed]
    have hlisted : isListed url.toList = true :=
      isListed_iff.2 ⟨by simpa using hurl.nonempty, hurl.noComment⟩
    rw [htrim, if_pos hlisted, String.ofList_toList]

/-- Every line is blank, a comment or an address. -/
theorem listLine_listed? {line : List Char} (h : '\n' ∉ line) :
    ListLine line (listed? line) := by
  obtain ⟨a, b, ha, hb, hline⟩ := Text.exists_blanks_trim line
  have hno : ∀ part ⊆ line, '\n' ∉ part := fun part hsub hmem => h (hsub hmem)
  have ha' : IsSpace a := ⟨ha, hno a fun c hc => by rw [hline]; simp [hc]⟩
  have hb' : IsSpace b := ⟨hb, hno b fun c hc => by rw [hline]; simp [hc]⟩
  have htrim : '\n' ∉ Text.trim line := hno _ fun c hc => by rw [hline]; simp [hc]
  unfold listed?
  by_cases hnil : Text.trim line = []
  · rw [hnil, if_neg (by decide)]
    rw [hnil, List.append_nil] at hline
    have hspace : IsSpace (a ++ b) := by
      refine ⟨fun c hc => ?_, hline ▸ h⟩
      exact (List.mem_append.1 hc).elim (ha c) (hb c)
    rw [hline]
    exact .blank hspace
  · by_cases hcomment : (Text.trim line).head? = some '#'
    · rw [if_neg fun hlisted => (isListed_iff.1 hlisted).2 hcomment]
      obtain ⟨text, htext⟩ : ∃ text, Text.trim line = '#' :: text :=
        ⟨_, (List.cons_head?_tail hcomment).symm⟩
      rw [htext, List.append_assoc, List.cons_append] at hline
      have hrest : '\n' ∉ text ++ b := hno _ fun c hc => by rw [hline]; simp [List.mem_append.1 hc]
      rw [hline]
      exact .comment ha' hrest
    · rw [if_pos (isListed_iff.2 ⟨hnil, hcomment⟩)]
      have hentry : IsEntry (String.ofList (Text.trim line)) := by
        refine ⟨by simpa using hnil, ?_, ?_, ?_⟩
        all_goals rw [String.toList_ofList]
        · exact htrim
        · exact Text.isTrimmed_trim line
        · exact hcomment
      have hwritten := ListLine.entry ha' hb' hentry
      rw [String.toList_ofList, ← hline] at hwritten
      exact hwritten

/-- **What is read from a line.** -/
theorem listed?_eq_iff {line : List Char} {url? : Option String} (h : '\n' ∉ line) :
    listed? line = url? ↔ ListLine line url? :=
  ⟨fun heq => heq ▸ listLine_listed? h, fun hline => hline.listed?⟩

/-! ### Texts -/

/-- The addresses in the characters of a text. -/
def listedIn (text : List Char) : List String := (Text.lines text).filterMap listed?

theorem urlList_eq (text : String) : urlList text = listedIn text.toList := by
  unfold urlList listedIn
  induction Text.lines text.toList with
  | nil => rfl
  | cons line rest ih =>
    rw [List.map_cons, List.filterMap_cons, ← ih, listed?]
    by_cases hlisted : isListed (Text.trim line) = true
    · rw [List.filter_cons_of_pos hlisted, if_pos hlisted, List.map_cons]
    · rw [List.filter_cons_of_neg hlisted, if_neg hlisted]

theorem listedIn_line {line : List Char} (h : '\n' ∉ line) :
    listedIn line = (listed? line).toList := by
  have hno : ∀ c ∈ line, decide (c = '\n') = false := fun c hc =>
    decide_eq_false (ne_of_mem_of_not_mem hc h)
  unfold listedIn Text.lines
  rw [Text.splitWhere_of_all hno]
  cases hline : listed? line <;> simp [hline]

/-- A line feed parts what is read. -/
theorem listedIn_append (a b : List Char) : listedIn (a ++ '\n' :: b) = listedIn a ++ listedIn b := by
  have hcut : decide ('\n' = '\n') = true := rfl
  unfold listedIn Text.lines
  rw [Text.splitWhere_append_cut hcut, List.filterMap_append]

/-- **What is read from a text with a line feed in it** is what is read from the
text before it and then from the text behind it. -/
theorem urlList_append (a b : String) : urlList (a ++ "\n" ++ b) = urlList a ++ urlList b := by
  have htext : (a ++ "\n" ++ b).toList = a.toList ++ '\n' :: b.toList := by
    simp only [String.toList_append, List.append_assoc]
    rfl
  simp only [urlList_eq, htext, listedIn_append]

theorem ListText.listedIn {text : List Char} {urls : List String} (h : ListText text urls) :
    listedIn text = urls := by
  induction h with
  | last hline => rw [listedIn_line hline.oneLine, hline.listed?]
  | lf hline _ ih => rw [listedIn_append, listedIn_line hline.oneLine, hline.listed?, ih]
  | @crlf line rest url? urls hline _ ih =>
    -- the carriage return is white space behind the line
    have hreturn : Text.AllBlank ['\r'] := by simp [Text.AllBlank, Text.isBlank]
    have htrim : Text.trim (line ++ ['\r']) = Text.trim line := by
      simpa using Text.trim_blanks Text.allBlank_nil hreturn line
    have hlisted : RuleHarvest.listed? (line ++ ['\r']) = url? := by
      rw [← hline.listed?, RuleHarvest.listed?, RuleHarvest.listed?, htrim]
    have honeLine : '\n' ∉ line ++ ['\r'] := by
      simpa using hline.oneLine
    have htext : line ++ '\r' :: '\n' :: rest = (line ++ ['\r']) ++ '\n' :: rest := by simp
    rw [htext, listedIn_append, listedIn_line honeLine, hlisted, ih]

/-- Every text is a list. -/
theorem listText_listedIn (text : List Char) : ListText text (listedIn text) := by
  rcases Text.exists_cut (fun c => c ≠ '\n') text with hall | ⟨a, c, b, htext, hc, ha⟩
  · have hno : '\n' ∉ text := fun hmem => by simpa using hall _ hmem
    rw [listedIn_line hno]
    exact .last (listLine_listed? hno)
  · have hno : '\n' ∉ a := fun hmem => by simpa using ha _ hmem
    have hc' : c = '\n' := by simpa using hc
    have hb : ListText b (listedIn b) := listText_listedIn b
    rw [htext, hc', listedIn_append, listedIn_line hno]
    exact .lf (listLine_listed? hno) hb
termination_by text.length
decreasing_by
  rw [htext, List.length_append, List.length_cons]
  omega

/-- **What is read from a text.** -/
theorem urlList_eq_iff {text : String} {urls : List String} :
    urlList text = urls ↔ ListText text.toList urls := by
  rw [urlList_eq]
  exact ⟨fun h => h ▸ listText_listedIn _, ListText.listedIn⟩

theorem ListLine.isEntry {line : List Char} {url? : Option String} (h : ListLine line url?) :
    ∀ url ∈ url?.toList, IsEntry url := by
  intro url hurl
  cases h with
  | blank => cases hurl
  | comment => cases hurl
  | entry _ _ hentry => exact List.mem_singleton.1 hurl ▸ hentry

theorem ListText.isEntry {text : List Char} {urls : List String} (h : ListText text urls) :
    ∀ url ∈ urls, IsEntry url := by
  induction h with
  | last hline => exact hline.isEntry
  | lf hline _ ih => exact List.forall_mem_append.2 ⟨hline.isEntry, ih⟩
  | crlf hline _ ih => exact List.forall_mem_append.2 ⟨hline.isEntry, ih⟩

theorem urlList_of_isEntry {url : String} (h : IsEntry url) : urlList url = [url] := by
  have hline : ListLine ([] ++ url.toList ++ []) (some url) :=
    .entry isSpace_nil isSpace_nil h
  rw [List.nil_append, List.append_nil] at hline
  exact urlList_eq_iff.2 (.last hline)

/-- Addresses that are written one to a line are read back. -/
theorem urlList_intercalate : ∀ {urls : List String}, (∀ url ∈ urls, IsEntry url) →
    urlList (String.intercalate "\n" urls) = urls
  | [], _ => by decide
  | [url], h => by
    rw [String.intercalate_singleton, urlList_of_isEntry (h url List.mem_cons_self)]
  | url :: next :: urls, h => by
    have hrest := urlList_intercalate fun u hu => h u (List.mem_cons_of_mem _ hu)
    rw [String.intercalate_cons_cons, urlList_append, urlList_of_isEntry (h url List.mem_cons_self),
      hrest]
    rfl

/-- **Lists of addresses are read as they are written.** The lists that a text
can be written for are those of addresses that are not empty, on one line,
without white space at their ends and without `#` in front. From a text in
which they stand one to a line, with white space around them and with blank
lines and comments between them, with line ends of either kind and with or
without the last one, exactly they are read, in their order. So what was read
is read again when it is written one address to a line, and what is read from
two texts with a line feed between them is what is read from each. -/
theorem urlList_reads_lists (text : String) (urls : List String) :
    (ListText text.toList urls ↔ urlList text = urls) ∧
      (∀ url ∈ urlList text, url ≠ "" ∧ '\n' ∉ url.toList ∧ Text.IsTrimmed url.toList ∧
        url.toList.head? ≠ some '#') ∧
      urlList (String.intercalate "\n" (urlList text)) = urlList text ∧
      ∀ other, urlList (text ++ "\n" ++ other) = urlList text ++ urlList other := by
  have hentries := (urlList_eq_iff.1 (rfl : urlList text = urlList text)).isEntry
  refine ⟨urlList_eq_iff.symm, fun url hurl => ?_, urlList_intercalate hentries,
    urlList_append text⟩
  obtain ⟨hnonempty, honeLine, htrimmed, hcomment⟩ := hentries url hurl
  exact ⟨hnonempty, honeLine, htrimmed, hcomment⟩

end RuleHarvest
