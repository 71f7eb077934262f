/-
# Records in normal form

The texts in a record are collapsed: a text that is not empty, with no blank at
its ends and none but single spaces in it. A text node gives words, and words
that are joined by spaces are collapsed (`isCollapsed_textOf`). A value joins
texts that are collapsed themselves by a semicolon and a space, and is collapsed
again (`isCollapsed_joinValues`): the semicolon goes to the text before it, and
what is left is one space between two texts. Both kinds of pairs leave out blank
texts before they join, so no value begins or ends with the separator.

The keys of a record are those of labels on the page, and ascend.

Key definitions: `Text.IsCollapsed`, `Document.Holds`.
Key theorems: `Text.isCollapsed_join`, `isCollapsed_textOf`,
`isCollapsed_joinValues`, `of_mem_labelPairs`, `record_in_normal_form`.
-/
import Mathlib.Data.List.Chain
import RuleHarvest.Proofs.Html.Position
import RuleHarvest.Proofs.Rule.FirstPair
import RuleHarvest.Proofs.Rule.ReadBack
import RuleHarvest.Proofs.Rule.TermGroups
import RuleHarvest.Proofs.Text.Words

namespace RuleHarvest

open Html (Node Document)

/-! ### Collapsed texts -/

namespace Text

variable {a b mark : List Char} {c : Char}

/-- A text whose words stand one space apart, with nothing before the first and
after the last. -/
structure IsCollapsed (s : List Char) : Prop where
  ne_nil : s ≠ []
  head : ∀ c ∈ s.head?, isBlank c = false
  last : ∀ c ∈ s.getLast?, isBlank c = false
  space : ∀ c ∈ s, isBlank c = true → c = ' '
  apart : s.IsChain fun c d => isBlank c = false ∨ isBlank d = false

theorem isCollapsed_of_word (hne : a ≠ []) (h : ∀ c ∈ a, isBlank c = false) : IsCollapsed a where
  ne_nil := hne
  head c hc := h c (List.mem_of_mem_head? hc)
  last c hc := h c (List.mem_of_mem_getLast? hc)
  space c hc hblank := by
    rw [h c hc] at hblank
    cases hblank
  apart := by
    apply List.Pairwise.isChain
    exact List.pairwise_of_forall_mem_list fun c hc _ _ => .inl (h c hc)

/-- Two collapsed texts side by side, without a space. -/
theorem IsCollapsed.append (ha : IsCollapsed a) (hb : IsCollapsed b) : IsCollapsed (a ++ b) where
  ne_nil := by simp [ha.ne_nil]
  head c hc := by
    rw [List.head?_append_of_ne_nil _ ha.ne_nil] at hc
    exact ha.head c hc
  last c hc := by
    rw [List.getLast?_append_of_ne_nil _ hb.ne_nil] at hc
    exact hb.last c hc
  space c hc := (List.mem_append.1 hc).elim (ha.space c) (hb.space c)
  apart := List.isChain_append.2 ⟨ha.apart, hb.apart, fun c hc _ _ => .inl (ha.last c hc)⟩

/-- Two collapsed texts with a space between them. -/
theorem IsCollapsed.append_space (ha : IsCollapsed a) (hb : IsCollapsed b) :
    IsCollapsed (a ++ ' ' :: b) where
  ne_nil := by simp
  head c hc := by
    rw [List.head?_append_of_ne_nil _ ha.ne_nil] at hc
    exact ha.head c hc
  last c hc := by
    rw [List.getLast?_append_of_ne_nil _ (List.cons_ne_nil _ _), List.getLast?_cons_of_ne_nil
      hb.ne_nil] at hc
    exact hb.last c hc
  space c hc hblank := by
    rcases List.mem_append.1 hc with hc | hc
    · exact ha.space c hc hblank
    · rcases List.mem_cons.1 hc with rfl | hc
      · rfl
      · exact hb.space c hc hblank
  apart := by
    rw [List.isChain_append]
    refine ⟨ha.apart, ?_, fun c hc _ _ => .inl (ha.last c hc)⟩
    rw [List.isChain_cons]
    exact ⟨fun c hc => .inr (hb.head c hc), hb.apart⟩

/-- A mark without blanks goes to the text before it. -/
theorem IsCollapsed.append_mark (ha : IsCollapsed a) (h : ∀ c ∈ mark, isBlank c = false) :
    IsCollapsed (a ++ mark) := by
  by_cases hempty : mark = []
  · simpa [hempty] using ha
  · exact ha.append (isCollapsed_of_word hempty h)

/-- **Collapsed texts that are joined by a mark and a space are collapsed.** -/
theorem isCollapsed_join (hmark : ∀ c ∈ mark, isBlank c = false) : ∀ {ws : List (List Char)},
    ws ≠ [] → (∀ w ∈ ws, IsCollapsed w) → IsCollapsed (join (mark ++ [' ']) ws)
  | [], hne, _ => absurd rfl hne
  | [w], _, h => by
    rw [join]
    exact h w List.mem_cons_self
  | w :: v :: ws, _, h => by
    obtain ⟨hw, hrest⟩ := List.forall_mem_cons.1 h
    have ih := isCollapsed_join hmark (List.cons_ne_nil v ws) hrest
    have hjoin : join (mark ++ [' ']) (w :: v :: ws) =
        w ++ mark ++ ' ' :: join (mark ++ [' ']) (v :: ws) := by simp [join]
    rw [hjoin]
    exact (hw.append_mark hmark).append_space ih

end Text

open Text

/-! ### Texts of a page -/

/-- **The text of a node is collapsed** if it has one. -/
theorem isCollapsed_textOf {n : Node} (h : textOf n ≠ "") : IsCollapsed (textOf n).toList := by
  have hne : n.texts.flatMap words ≠ [] := by
    intro hempty
    apply h
    rw [textOf, hempty]
    rfl
  rw [textOf, String.toList_ofList]
  show IsCollapsed (join ([] ++ [' ']) _)
  refine isCollapsed_join (by simp) hne fun w hw => ?_
  obtain ⟨s, -, hw⟩ := List.mem_flatMap.1 hw
  obtain ⟨hw, hword⟩ := of_mem_runs hw
  exact isCollapsed_of_word hw fun c hc => by simpa using hword c hc

/-- **Values that are collapsed are so when they are joined.** -/
theorem isCollapsed_joinValues {values : List String} (hne : values ≠ [])
    (h : ∀ v ∈ values, IsCollapsed v.toList) : IsCollapsed (joinValues values).toList := by
  have hjoin : (joinValues values).toList = join ([';'] ++ [' ']) (values.map (·.toList)) := by
    rw [joinValues, String.toList_intercalate, join_eq_intercalate]
    rfl
  have hmark : ∀ c ∈ [';'], isBlank c = false := by
    intro c hc
    rw [List.mem_singleton.1 hc]
    rfl
  rw [hjoin]
  refine isCollapsed_join hmark (by simpa using hne) ?_
  simpa using h

theorem isCollapsed_of_mem_nonempty {ns : List Node} {text : String}
    (h : text ∈ nonempty (ns.map textOf)) : IsCollapsed text.toList := by
  obtain ⟨hmem, hne⟩ := List.mem_filter.1 h
  obtain ⟨n, -, rfl⟩ := List.mem_map.1 hmem
  exact isCollapsed_textOf (by simpa using hne)

/-! ### Pairs of a page -/

/-- The page has the node: as one of its elements, or inside one. -/
def Html.Document.Holds (d : Document) (n : Node) : Prop :=
  ∃ m ∈ d.elements, n = m ∨ n ∈ m.descendants

/-- An element that shows the label of a field. -/
def IsLabel (n : Node) : Prop := n.hasClass "field__label" = true ∨ n.isNamed "dt" = true

theorem of_blockPair? {block : Node} {label value : String}
    (h : blockPair? block = some (label, value)) :
    (∃ n ∈ block.descendants, n.hasClass "field__label" = true ∧ label = textOf n) ∧
      (value ≠ "" → IsCollapsed value.toList) := by
  obtain ⟨n, hfound, hpair⟩ := Option.map_eq_some_iff.1 h
  obtain ⟨rfl, rfl⟩ := Prod.mk.inj hpair
  have hclass : n.hasClass "field__label" = true := by simpa using List.find?_some hfound
  refine ⟨⟨n, List.mem_of_find?_eq_some hfound, hclass, rfl⟩, fun hvalue => ?_⟩
  refine isCollapsed_joinValues ?_ fun v hv => isCollapsed_of_mem_nonempty hv
  intro hempty
  exact hvalue (congrArg joinValues hempty)

theorem of_mem_listPairs {list : Node} {label value : String}
    (h : (label, value) ∈ listPairs list) :
    (∃ n ∈ list.descendants, n.isNamed "dt" = true ∧ label = textOf n) ∧
      IsCollapsed value.toList := by
  rw [listPairs_eq, List.mem_filterMap] at h
  obtain ⟨g, hg, hpair⟩ := h
  have hcut := cut_groupsOf list.children
  have hterm := (hcut.groups g hg).1
  have hmem : g.term ∈ list.descendants := by
    rw [Node.descendantsAll_children]
    apply Node.mem_descendantsAll (Node.isElement_of_isNamed hterm)
    rw [hcut.nodes]
    exact List.mem_append_right _ (List.mem_flatMap.2 ⟨g, hg, List.mem_cons_self⟩)
  unfold TermGroup.pair? at hpair
  split at hpair
  · cases hpair
  · rename_i hempty
    obtain ⟨rfl, rfl⟩ := Prod.mk.inj (Option.some.inj hpair)
    refine ⟨⟨g.term, hmem, hterm, rfl⟩, ?_⟩
    refine isCollapsed_joinValues (by simpa using hempty) fun v hv => ?_
    obtain ⟨n, hn, rfl⟩ := List.mem_map.1 hv
    have hfilled := (List.mem_filter.1 hn).2
    exact isCollapsed_textOf (by simp_all [isFilled])

/-- **The pairs of a page have labels of the page**, and values that are collapsed
unless they are empty. -/
theorem of_mem_labelPairs {d : Document} {label value : String}
    (h : (label, value) ∈ labelPairs d) :
    (∃ n, d.Holds n ∧ IsLabel n ∧ label = textOf n) ∧ (value ≠ "" → IsCollapsed value.toList) := by
  rcases List.mem_append.1 h with h | h
  · obtain ⟨block, hblock, hpair⟩ := List.mem_filterMap.1 h
    obtain ⟨⟨n, hn, hclass, htext⟩, hvalue⟩ := of_blockPair? hpair
    exact ⟨⟨n, ⟨block, (List.mem_filter.1 hblock).1, .inr hn⟩, .inl hclass, htext⟩, hvalue⟩
  · obtain ⟨list, hlist, hpair⟩ := List.mem_flatMap.1 h
    obtain ⟨⟨n, hn, hname, htext⟩, hvalue⟩ := of_mem_listPairs hpair
    exact ⟨⟨n, ⟨list, (List.mem_filter.1 hlist).1, .inr hn⟩, .inr hname, htext⟩, fun _ => hvalue⟩

/-! ### Records -/

theorem isCollapsed_title {d : Document} {title : String} (h : title? d = some title) :
    IsCollapsed title.toList := by
  rcases Option.or_eq_some_iff.1 h with h | ⟨-, h⟩
  · exact isCollapsed_of_mem_nonempty (List.mem_of_head? h)
  · exact isCollapsed_of_mem_nonempty (List.mem_of_head? h)

/-- **The record of a page is in normal form.** Its title, if it has one, and the
texts of its fields are collapsed: they are not empty, neither begin nor end
with a blank, and have no blanks but single spaces. Each key is that of a label
on the page, and not empty. No key comes twice, and the keys ascend by their
bytes. -/
theorem record_in_normal_form (url page now : String) :
    (∀ title, (extract url page now).title = some title → IsCollapsed title.toList) ∧
    (∀ key value, (key, value) ∈ (extract url page now).fields.entries →
      IsCollapsed value.toList ∧ key ≠ "" ∧
        ∃ n, (Document.parse page).Holds n ∧ IsLabel n ∧ key = fieldKey (textOf n)) ∧
    ((extract url page now).fields.entries.map (·.1)).Nodup ∧
    ((extract url page now).fields.entries.map (·.1)).Pairwise fun key later =>
      Utf8.encode key.toList < Utf8.encode later.toList := by
  have hdistinct : ((extract url page now).fields.entries.map (·.1)).Nodup := by
    rw [List.Nodup, List.pairwise_map]
    refine (extract url page now).fields.ascending.imp fun hlt heq => ?_
    rw [heq] at hlt
    exact String.lt_irrefl _ hlt
  refine ⟨fun title h => isCollapsed_title h, fun key value h => ?_, hdistinct, ?_⟩
  · obtain ⟨label, hpair, hkey, hne, hvalue⟩ :=
      exists_pair_of_get? (FieldMap.mem_entries_iff.1 h)
    obtain ⟨⟨n, hholds, hlabel, rfl⟩, hcollapsed⟩ := of_mem_labelPairs hpair
    exact ⟨hcollapsed hvalue, hne, n, hholds, hlabel, hkey.symm⟩
  · exact List.pairwise_map.2 (extract url page now).fields.ascending_bytes

end RuleHarvest
