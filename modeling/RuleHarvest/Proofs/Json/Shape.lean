/-
# Written lists and maps are read back

A reader reads a text as a value when it finds the value in the text wherever
the text stands, with blanks before it or not, and goes on right behind it
(`ReadsAs`). Brackets carry this over from entries to lists (`readsAs_list`),
to maps of texts (`readsAs_textMap`) and to values of a shape
(`Shape.readsAs_map`), in both layouts: what stands between the entries are
commas and blanks. The readers count their entries down from the length of the
text, which is no less than the number of entries (`length_lt_moreEntries`).

Key definitions: `ReadsAs`, `Fills`, `entryText`.
Key theorems: `readsAs_quote`, `readsAs_list`, `readsAs_textMap`,
`Shape.readsAs_map`, `decode_readsAs`.
-/
import Mathlib.Data.List.Forall2
import RuleHarvest.Json.Shape
import RuleHarvest.Proofs.Json.Text

namespace RuleHarvest
namespace Json

variable {α δ : Type}

/-! ### Blanks -/

def AllBlank (s : List Char) : Prop := ∀ c ∈ s, isBlank c = true

theorem skipBlank_append {blanks : List Char} (h : AllBlank blanks) (s : List Char) :
    skipBlank (blanks ++ s) = skipBlank s := List.dropWhile_append_of_pos h

theorem skipBlank_cons {c : Char} (h : isBlank c = false) (s : List Char) :
    skipBlank (c :: s) = c :: s := List.dropWhile_cons_of_neg (by simp [h])

theorem isBlank_brace : isBlank '\x7b' = false := rfl

theorem isBlank_square : isBlank '[' = false := rfl

/-- Blanks are passed over up to a character that is none. -/
theorem skipBlank_to {blanks : List Char} (h : AllBlank blanks) {c : Char} (hc : isBlank c = false)
    (s : List Char) : skipBlank (blanks ++ c :: s) = c :: s := by
  rw [skipBlank_append h, skipBlank_cons hc]

theorem allBlank_nil : AllBlank [] := fun _ h => absurd h List.not_mem_nil

theorem allBlank_lineBreak (layout : Layout) (depth : Nat) : AllBlank (layout.lineBreak depth) := by
  intro c hc
  cases layout with
  | compact => exact absurd hc List.not_mem_nil
  | pretty =>
    rcases List.mem_cons.1 hc with rfl | hc
    · rfl
    · rw [(List.mem_replicate.1 hc).2]
      rfl

/-- What stands between the colon and the value. -/
def Layout.gap : Layout → List Char
  | .compact => []
  | .pretty => [' ']

theorem Layout.colon_eq (layout : Layout) : layout.colon = ':' :: layout.gap := by
  cases layout <;> rfl

theorem allBlank_gap (layout : Layout) : AllBlank layout.gap := by
  intro c hc
  cases layout with
  | compact => exact absurd hc List.not_mem_nil
  | pretty =>
    rw [List.mem_singleton.1 hc]
    rfl

/-! ### Values -/

/-- The reader finds the value in the text, wherever the text stands, and goes
on behind it. -/
def ReadsAs (read : Reader α) (text : List Char) (a : α) : Prop :=
  ∀ blanks rest, AllBlank blanks → read (blanks ++ (text ++ rest)) = .ok (a, rest)

theorem ReadsAs.here {read : Reader α} {text : List Char} {a : α} (h : ReadsAs read text a)
    (rest : List Char) : read (text ++ rest) = .ok (a, rest) := h [] rest allBlank_nil

/-- A text that holds one value, with blanks behind it or not, is decoded as
the value. -/
theorem decode_readsAs {read : Reader α} {text blanks : List Char} {a : α}
    (h : ReadsAs read text a) (hblanks : AllBlank blanks) : decode read (text ++ blanks) = .ok a := by
  have hend : skipBlank blanks = [] := by
    have hskip := skipBlank_append hblanks []
    rw [List.append_nil] at hskip
    exact hskip
  rw [decode, h.here]
  simp only [bind, Except.bind, hend]

/-- A text in quotation marks is read as the text. -/
theorem readsAs_quote (s : String) : ReadsAs textValue (quote s.toList) s := by
  intro blanks rest hblanks
  have hskip : skipBlank (blanks ++ (quote s.toList ++ rest)) =
      '"' :: (s.toList.flatMap escape ++ '"' :: rest) := by
    rw [skipBlank_append hblanks, quote, List.cons_append, List.cons_append, List.append_assoc]
    exact skipBlank_cons rfl _
  simp only [textValue, hskip, readText_escape, Except.map, String.ofList_toList]

/-- The two forms of a text that may be missing. -/
def orNull : Option String → List Char
  | some s => quote s.toList
  | none => ['n', 'u', 'l', 'l']

theorem readsAs_orNull (s : Option String) : ReadsAs textOrNull (orNull s) s := by
  intro blanks rest hblanks
  cases s with
  | none =>
    have hskip : skipBlank (blanks ++ (orNull none ++ rest)) = 'n' :: 'u' :: 'l' :: 'l' :: rest :=
      skipBlank_to hblanks rfl _
    simp only [textOrNull, hskip]
    rfl
  | some s =>
    have hskip : skipBlank (blanks ++ (orNull (some s) ++ rest)) = quote s.toList ++ rest :=
      skipBlank_to hblanks rfl _
    have hvalue : (textValue (quote s.toList ++ rest)).map (Prod.map some id) =
        .ok (some s, rest) := by
      rw [(readsAs_quote s).here]
      rfl
    rw [textOrNull, hskip]
    exact hvalue

/-! ### Entries between brackets -/

/-- The rest of a bracket: the entries that are still to come, each behind a
comma, and the end. -/
def moreEntries (layout : Layout) (depth : Nat) (closing : Char) (entries : List (List Char)) :
    List Char :=
  entries.flatMap (fun e => ',' :: layout.lineBreak (depth + 1) ++ e) ++
    (layout.lineBreak depth ++ [closing])

variable {layout : Layout} {depth : Nat} {closing : Char} {e : List Char} {es : List (List Char)}

theorem moreEntries_nil :
    moreEntries layout depth closing [] = layout.lineBreak depth ++ [closing] := rfl

theorem moreEntries_cons : moreEntries layout depth closing (e :: es) =
    ',' :: (layout.lineBreak (depth + 1) ++ (e ++ moreEntries layout depth closing es)) := by
  simp only [moreEntries, List.flatMap_cons, List.cons_append, List.append_assoc]

theorem bracket_nil (opening : Char) :
    bracket layout depth opening closing [] = [opening, closing] := rfl

theorem bracket_cons (opening : Char) : bracket layout depth opening closing (e :: es) =
    opening :: (layout.lineBreak (depth + 1) ++ (e ++ moreEntries layout depth closing es)) := by
  simp only [bracket, moreEntries, List.cons_append, List.append_assoc]

theorem skipBlank_bracket (layout : Layout) (depth : Nat) (closing : Char) (e : List Char)
    (es : List (List Char)) (rest : List Char) {blanks : List Char} (h : AllBlank blanks)
    {opening : Char} (hopening : isBlank opening = false) :
    skipBlank (blanks ++ (bracket layout depth opening closing (e :: es) ++ rest)) =
      opening :: (layout.lineBreak (depth + 1) ++
        (e ++ (moreEntries layout depth closing es ++ rest))) := by
  rw [skipBlank_append h, bracket_cons]
  simp only [List.cons_append, List.append_assoc]
  exact skipBlank_cons hopening _

/-- There is a character for each entry, and one more for the end. -/
theorem length_lt_moreEntries (layout : Layout) (depth : Nat) (closing : Char) :
    ∀ es : List (List Char), es.length < (moreEntries layout depth closing es).length
  | [] => by
    rw [moreEntries_nil, List.length_append, List.length_singleton, List.length_nil]
    omega
  | e :: es => by
    have ih := length_lt_moreEntries layout depth closing es
    rw [moreEntries_cons, List.length_cons, List.length_cons, List.length_append, List.length_append]
    omega

/-! ### Lists -/

/-- The text of an item begins with its own character, not with one that parts
or ends items. -/
def StartsItem (text : List Char) : Prop :=
  ∃ c cs, text = c :: cs ∧ isBlank c = false ∧ c ≠ ',' ∧ c ≠ ']'

theorem nextItem_first {blanks text : List Char} (hblanks : AllBlank blanks) (h : StartsItem text)
    (rest : List Char) : Shape.nextItem true (blanks ++ (text ++ rest)) = .ok (.ok (text ++ rest)) := by
  obtain ⟨c, cs, rfl, hc, hcomma, hend⟩ := h
  have hskip : skipBlank (blanks ++ (c :: cs ++ rest)) = c :: (cs ++ rest) :=
    skipBlank_to hblanks hc _
  unfold Shape.nextItem
  rw [hskip]
  split
  · rename_i heq
    cases heq
  · rename_i heq
    exact absurd (List.cons.inj heq).1 hend
  · rename_i heq
    exact absurd (List.cons.inj heq).1 hcomma
  · rfl

theorem nextItem_more {blanks text : List Char} (hblanks : AllBlank blanks) (h : StartsItem text)
    (rest : List Char) :
    Shape.nextItem false (',' :: (blanks ++ (text ++ rest))) = .ok (.ok (text ++ rest)) := by
  obtain ⟨c, cs, rfl, hc, -, hend⟩ := h
  have hcomma : skipBlank (',' :: (blanks ++ (c :: cs ++ rest))) =
      ',' :: (blanks ++ (c :: cs ++ rest)) := skipBlank_cons rfl _
  have hskip : skipBlank (blanks ++ (c :: cs ++ rest)) = c :: (cs ++ rest) :=
    skipBlank_to hblanks hc _
  simp only [Shape.nextItem, hcomma, Bool.false_eq_true, if_false, hskip]
  split
  · rename_i heq
    exact absurd (List.cons.inj heq).1 hend
  · rename_i heq
    cases heq
  · rfl

theorem nextItem_end (first : Bool) {blanks : List Char} (hblanks : AllBlank blanks)
    (rest : List Char) : Shape.nextItem first (blanks ++ ']' :: rest) = .ok (.error rest) := by
  have hskip : skipBlank (blanks ++ ']' :: rest) = ']' :: rest :=
    skipBlank_to hblanks rfl _
  rw [Shape.nextItem, hskip]
  rfl

variable {item : Reader α}

/-- One item, then the others. -/
theorem readList_item {n : Nat} {first : Bool} {s text rest rest' : List Char} {a : α} {as : List α}
    (hnext : Shape.nextItem first s = .ok (.ok (text ++ rest))) (hitem : ReadsAs item text a)
    (hmore : readList item n false rest = .ok (as, rest')) :
    readList item (n + 1) first s = .ok (a :: as, rest') := by
  simp only [readList, hnext, hitem.here, hmore, bind, Except.bind]

theorem readList_end {n : Nat} {first : Bool} {s rest : List Char}
    (hnext : Shape.nextItem first s = .ok (.error rest)) :
    readList item (n + 1) first s = .ok ([], rest) := by
  simp only [readList, hnext, bind, Except.bind]

/-- Items behind the first one. -/
theorem readList_more (rest : List Char) : ∀ {texts : List (List Char)} {as : List α} {n : Nat},
    List.Forall₂ (fun text a => StartsItem text ∧ ReadsAs item text a) texts as →
    texts.length < n →
    readList item n false (moreEntries layout depth ']' texts ++ rest) = .ok (as, rest)
  | _, _, 0, _, hn => absurd hn (Nat.not_lt_zero _)
  | _, _, n + 1, .nil, _ => by
    rw [moreEntries_nil, List.append_assoc]
    exact readList_end (nextItem_end false (allBlank_lineBreak layout depth) rest)
  | _, _, n + 1, .cons ⟨hstart, hread⟩ hrest, hn => by
    have hmore := readList_more rest hrest (Nat.lt_of_succ_lt_succ hn)
    rw [moreEntries_cons, List.cons_append, List.append_assoc, List.append_assoc]
    exact readList_item (nextItem_more (allBlank_lineBreak layout (depth + 1)) hstart _) hread hmore

/-- **A list is read back** when its items are. -/
theorem readsAs_list {texts : List (List Char)} {as : List α}
    (h : List.Forall₂ (fun text a => StartsItem text ∧ ReadsAs item text a) texts as) :
    ReadsAs (listOf item) (bracket layout depth '[' ']' texts) as := by
  intro blanks rest hblanks
  cases h with
  | nil =>
    have hskip : skipBlank (blanks ++ (['[', ']'] ++ rest)) = '[' :: ']' :: rest :=
      skipBlank_to hblanks rfl _
    simp only [listOf, bracket_nil, hskip]
    exact readList_end (nextItem_end true allBlank_nil rest)
  | @cons text a texts as hitem hrest =>
    obtain ⟨hstart, hread⟩ := hitem
    have hskip := skipBlank_bracket layout depth ']' text texts rest hblanks isBlank_square
    have hlength := length_lt_moreEntries layout depth ']' texts
    simp only [listOf, hskip]
    refine readList_item (nextItem_first (allBlank_lineBreak layout (depth + 1)) hstart _) hread
      (readList_more rest hrest ?_)
    simp only [List.length_append]
    omega

/-! ### Entries of a map -/

/-- An entry as it is written. -/
def entryText (layout : Layout) (key : String) (text : List Char) : List Char :=
  quote key.toList ++ layout.colon ++ text

theorem entryText_append (key : String) (text rest : List Char) :
    entryText layout key text ++ rest =
      '"' :: (key.toList.flatMap escape ++ '"' :: ':' :: (layout.gap ++ (text ++ rest))) := by
  simp only [entryText, quote, layout.colon_eq, List.cons_append, List.nil_append, List.append_assoc]

theorem nextKey_first {blanks : List Char} (hblanks : AllBlank blanks) (rest : List Char) :
    nextKey true (blanks ++ '"' :: rest) = .ok (.ok rest) := by
  have hskip : skipBlank (blanks ++ '"' :: rest) = '"' :: rest :=
    skipBlank_to hblanks rfl _
  rw [nextKey, hskip]
  rfl

theorem nextKey_more {blanks : List Char} (hblanks : AllBlank blanks) (rest : List Char) :
    nextKey false (',' :: (blanks ++ '"' :: rest)) = .ok (.ok rest) := by
  have hcomma : skipBlank (',' :: (blanks ++ '"' :: rest)) = ',' :: (blanks ++ '"' :: rest) :=
    skipBlank_cons rfl _
  have hskip : skipBlank (blanks ++ '"' :: rest) = '"' :: rest :=
    skipBlank_to hblanks rfl _
  simp only [nextKey, hcomma, Bool.false_eq_true, if_false, hskip]

theorem nextKey_end (first : Bool) {blanks : List Char} (hblanks : AllBlank blanks)
    (rest : List Char) : nextKey first (blanks ++ '\x7d' :: rest) = .ok (.error rest) := by
  have hskip : skipBlank (blanks ++ '\x7d' :: rest) = '\x7d' :: rest :=
    skipBlank_to hblanks rfl _
  rw [nextKey, hskip]
  rfl

theorem readColon_colon (s : List Char) : readColon (':' :: s) = .ok s := by
  rw [readColon, skipBlank_cons rfl]
  rfl

/-! ### Maps of texts -/

/-- One entry, then the others. -/
theorem readEntries_entry {n : Nat} {first : Bool} {before : List (String × String)}
    {s rest : List Char} {key value : String}
    (hnext : nextKey first s = .ok (.ok (key.toList.flatMap escape ++
      '"' :: ':' :: (layout.gap ++ (quote value.toList ++ rest))))) :
    readEntries (n + 1) first before s = readEntries n false (before ++ [(key, value)]) rest := by
  have hvalue := readsAs_quote value layout.gap rest (allBlank_gap layout)
  simp only [readEntries, hnext, readText_escape, readColon_colon, hvalue, bind, Except.bind,
    String.ofList_toList]

theorem readEntries_end {n : Nat} {first : Bool} {before : List (String × String)}
    {s rest : List Char} (hnext : nextKey first s = .ok (.error rest)) :
    readEntries (n + 1) first before s = .ok (before, rest) := by
  simp only [readEntries, hnext, bind, Except.bind]

/-- The entry of a text. -/
def textEntry (layout : Layout) (entry : String × String) : List Char :=
  entryText layout entry.1 (quote entry.2.toList)

/-- Entries behind the first one. -/
theorem readEntries_more (rest : List Char) :
    ∀ (entries before : List (String × String)) {n : Nat}, entries.length < n →
      readEntries n false before
          (moreEntries layout depth '\x7d' (entries.map (textEntry layout)) ++ rest) =
        .ok (before ++ entries, rest)
  | _, _, 0, hn => absurd hn (Nat.not_lt_zero _)
  | [], before, n + 1, _ => by
    rw [List.map_nil, moreEntries_nil, List.append_assoc, List.append_nil]
    exact readEntries_end (nextKey_end false (allBlank_lineBreak layout depth) rest)
  | (key, value) :: entries, before, n + 1, hn => by
    have hmore := readEntries_more rest entries (before ++ [(key, value)])
      (Nat.lt_of_succ_lt_succ hn)
    rw [List.append_assoc, List.singleton_append] at hmore
    rw [List.map_cons, moreEntries_cons, List.cons_append, List.append_assoc, List.append_assoc,
      textEntry, entryText_append, ← hmore]
    exact readEntries_entry (nextKey_more (allBlank_lineBreak layout (depth + 1)) _)

/-- **A map of texts is read back**, its entries in the order in which they are
written. -/
theorem readsAs_textMap (entries : List (String × String)) :
    ReadsAs textMap (bracket layout depth '\x7b' '\x7d' (entries.map (textEntry layout))) entries := by
  intro blanks rest hblanks
  rcases entries with _ | ⟨⟨key, value⟩, entries⟩
  · have hskip : skipBlank (blanks ++ (['\x7b', '\x7d'] ++ rest)) = '\x7b' :: '\x7d' :: rest :=
      skipBlank_to hblanks rfl _
    simp only [textMap, List.map_nil, bracket_nil, hskip]
    exact readEntries_end (nextKey_end true allBlank_nil rest)
  · have hskip := skipBlank_bracket layout depth '\x7d' (textEntry layout (key, value))
      (entries.map (textEntry layout)) rest hblanks isBlank_brace
    have hlength := length_lt_moreEntries layout depth '\x7d'
      (entries.map (textEntry layout))
    rw [List.length_map] at hlength
    simp only [textMap, List.map_cons, hskip]
    rw [textEntry, entryText_append, readEntries_entry (nextKey_first (allBlank_lineBreak layout _) _)]
    refine readEntries_more rest entries [(key, value)] ?_
    simp only [List.length_append, List.length_cons]
    omega

/-! ### Shapes -/

/-- The members fill the draft up to a value, one after the other. -/
inductive Shape.Fills (shape : Shape δ α) (layout : Layout) : δ → List (List Char) → α → Prop where
  | done {draft : δ} {a : α} (h : shape.finish draft = .ok a) : Fills shape layout draft [] a
  | member {draft draft' : δ} {slot : Slot δ} {key : String} {text : List Char}
      {members : List (List Char)} {a : α}
      (hslot : shape.slots.find? (fun slot => slot.name = key) = some slot)
      (hempty : slot.isFilled draft = false) (hread : ReadsAs (slot.read draft) text draft')
      (hrest : Fills shape layout draft' members a) :
      Fills shape layout draft (entryText layout key text :: members) a

namespace Shape

variable {shape : Shape δ α} {draft draft' : δ} {a : α}

/-- One member, then the others. -/
theorem readMembers_member {n : Nat} {first : Bool} {s text rest : List Char} {slot : Slot δ}
    {key : String}
    (hnext : nextKey first s = .ok (.ok (key.toList.flatMap escape ++
      '"' :: ':' :: (layout.gap ++ (text ++ rest)))))
    (hslot : shape.slots.find? (fun slot => slot.name = key) = some slot)
    (hempty : slot.isFilled draft = false) (hread : ReadsAs (slot.read draft) text draft') :
    shape.readMembers (n + 1) first draft s = shape.readMembers n false draft' rest := by
  have hvalue := hread layout.gap rest (allBlank_gap layout)
  simp only [readMembers, hnext, readText_escape, readColon_colon, String.ofList_toList, hslot, hempty,
    hvalue, bind, Except.bind, Bool.false_eq_true, if_false]

theorem readMembers_end {n : Nat} {first : Bool} {s rest : List Char}
    (hnext : nextKey first s = .ok (.error rest)) (h : shape.finish draft = .ok a) :
    shape.readMembers (n + 1) first draft s = .ok (a, rest) := by
  simp only [readMembers, hnext, h, bind, Except.bind]

/-- Members behind the first one. -/
theorem readMembers_more (rest : List Char) : ∀ {draft : δ} {members : List (List Char)} {n : Nat},
    shape.Fills layout draft members a → members.length < n →
    shape.readMembers n false draft (moreEntries layout depth '\x7d' members ++ rest) = .ok (a, rest)
  | _, _, 0, _, hn => absurd hn (Nat.not_lt_zero _)
  | _, _, n + 1, .done h, _ => by
    rw [moreEntries_nil, List.append_assoc]
    exact readMembers_end (nextKey_end false (allBlank_lineBreak layout depth) rest) h
  | _, _, n + 1, .member hslot hempty hread hrest, hn => by
    have hmore := readMembers_more rest hrest (Nat.lt_of_succ_lt_succ hn)
    rw [moreEntries_cons, List.cons_append, List.append_assoc, List.append_assoc, entryText_append,
      ← hmore]
    exact readMembers_member (nextKey_more (allBlank_lineBreak layout (depth + 1)) _) hslot hempty hread

/-- **A value of a shape is read back** when its members fill the empty draft. -/
theorem readsAs_map {members : List (List Char)} (h : shape.Fills layout shape.start members a) :
    ReadsAs shape.read (bracket layout depth '\x7b' '\x7d' members) a := by
  intro blanks rest hblanks
  cases h with
  | done h =>
    have hskip : skipBlank (blanks ++ (['\x7b', '\x7d'] ++ rest)) = '\x7b' :: '\x7d' :: rest :=
      skipBlank_to hblanks rfl _
    simp only [Shape.read, bracket_nil, hskip]
    exact readMembers_end (nextKey_end true allBlank_nil rest) h
  | @member _ _ _ key text members _ hslot hempty hread hrest =>
    have hskip := skipBlank_bracket layout depth '\x7d' (entryText layout key text) members rest hblanks
      isBlank_brace
    have hlength := length_lt_moreEntries layout depth '\x7d' members
    simp only [Shape.read, hskip]
    rw [entryText_append,
      readMembers_member (nextKey_first (allBlank_lineBreak layout _) _) hslot hempty hread]
    refine readMembers_more rest hrest ?_
    simp only [List.length_append, List.length_cons]
    omega

end Shape

end Json
end RuleHarvest
