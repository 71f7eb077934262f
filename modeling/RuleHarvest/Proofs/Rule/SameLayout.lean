/-
# Pages that differ in layout

What is read from an element does not depend on its layout: an element and its
tidy form have the same text, the same pair as a block and the same pairs as a
definition list. So a record depends on four lists of elements, up to layout:
the headings, the titles, the blocks and the definition lists of the page
(`ReadsAlike`). Alike trees have the same elements up to layout, so layout does
not matter for documents that were made from alike trees in the same order
(`readsAlike_of_alike`). Pages that are written from trees of headings, blocks and
definition lists are made in the order of the trees (`madeFrom_page`).

A tree does not say in which order its elements were made. A heading that is
written inside a table and not in a cell is put before the table, but made after
the headings in the cells before it. So two pages can have the very same tree
and not the same title (`title_by_order_of_making`).

Key definitions: `ReadsAlike`, `Html.Document.MadeFrom`.
Key theorems: `textOf_tidy`, `blockPair?_tidy`, `listPairs_tidy`,
`ReadsAlike.recordOf_eq`, `readsAlike_of_alike`, `madeFrom_page`,
`readsAlike_page`, `layout_does_not_show`.
-/
import RuleHarvest.Proofs.Html.Alike
import RuleHarvest.Proofs.Html.Building
import RuleHarvest.Proofs.Rule.CutWords

namespace RuleHarvest

open Html (Node Document Alike page pageNode)
open Html.Node (tidy tidyAll)
open Html.Tree
open Text (words collapsed)

variable {d d' : Document} {n : Node} {ns ms : List Node}

/-! ### One element -/

@[simp] theorem textOf_tidy (n : Node) : textOf (tidy n) = textOf n :=
  textOf_inj.2 (Node.texts_tidy n)

theorem textOf_of_isSilent (h : n.isSilent = true) : textOf n = "" := by
  rw [textOf, Node.words_texts_of_isSilent h]
  rfl

theorem textOf_comp_tidy : textOf ∘ tidy = textOf := funext textOf_tidy

theorem hasClass_comp_tidy (c : String) : (fun n => n.hasClass c) ∘ tidy = fun n => n.hasClass c :=
  funext fun n => Node.hasClass_tidy n c

theorem blockPair?_tidy (block : Node) : blockPair? (tidy block) = blockPair? block := by
  rw [blockPair?, blockPair?, Node.descendants_tidy, List.find?_map, List.filter_map,
    hasClass_comp_tidy, hasClass_comp_tidy, List.map_map, textOf_comp_tidy, Option.map_map]
  congr 1
  funext label
  rw [Function.comp_apply, textOf_tidy]

theorem blockPair?_of_isSilent (h : n.isSilent = true) : blockPair? n = none := by
  cases n with
  | element => cases h
  | text | comment => rfl

/-- The groups of a definition list are those of its tidy form. -/
theorem groupsFrom_tidyAll : ∀ (ns : List Node) (open? : Option (String × List String)),
    groupsFrom open? (tidyAll ns) = groupsFrom open? ns
  | [], _ => rfl
  | n :: ns, open? => by
    by_cases hn : n.isSilent = true
    · rw [Node.tidyAll_silent hn, groupsFrom_tidyAll ns]
      simp [groupsFrom, Node.isNamed_of_isSilent hn]
    · rw [Node.tidyAll_shown (by simpa using hn)]
      simp only [groupsFrom, Node.isNamed_tidy, textOf_tidy, groupsFrom_tidyAll ns]

theorem listPairs_tidy (list : Node) : listPairs (tidy list) = listPairs list := by
  rw [listPairs, listPairs, Node.children_tidy, groupsFrom_tidyAll]

theorem listPairs_of_isSilent (h : n.isSilent = true) : listPairs n = [] := by
  cases n with
  | element => cases h
  | text | comment => rfl

/-! ### Lists of elements -/

/-- Alike nodes have the same texts, but for empty ones. -/
theorem nonempty_textOf_eq (h : Alike ns ms) :
    nonempty (ns.map textOf) = nonempty (ms.map textOf) := by
  have heach : ∀ ls : List Node, nonempty (ls.map textOf) =
      ls.flatMap fun n => nonempty [textOf n] := by
    intro ls
    induction ls with
    | nil => rfl
    | cons n ls ih =>
      rw [List.flatMap_cons, ← ih, nonempty, nonempty, nonempty, List.map_cons,
        ← List.filter_append, List.singleton_append]
  rw [heach, heach]
  apply h.flatMap_eq
  · intro n hn
    rw [textOf_of_isSilent hn]
    rfl
  · intro n
    rw [textOf_tidy]

theorem filterMap_blockPair?_eq (h : Alike ns ms) :
    ns.filterMap blockPair? = ms.filterMap blockPair? := by
  rw [List.filterMap_eq_flatMap_toList, List.filterMap_eq_flatMap_toList]
  apply h.flatMap_eq
  · intro n hn
    rw [blockPair?_of_isSilent hn]
    rfl
  · intro n
    rw [blockPair?_tidy]

theorem flatMap_listPairs_eq (h : Alike ns ms) : ns.flatMap listPairs = ms.flatMap listPairs :=
  h.flatMap_eq (fun _ => listPairs_of_isSilent) listPairs_tidy

/-! ### Pages -/

/-- The elements that records are read from are alike, each kind in the order in
which its elements were made. -/
structure ReadsAlike (d d' : Document) : Prop where
  headings : Alike (d.elements.filter (·.isNamed "h1")) (d'.elements.filter (·.isNamed "h1"))
  titles : Alike (d.elements.filter (·.isNamed "title")) (d'.elements.filter (·.isNamed "title"))
  blocks : Alike (d.elements.filter (·.hasClass "field")) (d'.elements.filter (·.hasClass "field"))
  lists : Alike (d.elements.filter (·.isNamed "dl")) (d'.elements.filter (·.isNamed "dl"))

instance (d d' : Document) : Decidable (ReadsAlike d d') :=
  decidable_of_iff
    (Alike (d.elements.filter (·.isNamed "h1")) (d'.elements.filter (·.isNamed "h1")) ∧
      Alike (d.elements.filter (·.isNamed "title")) (d'.elements.filter (·.isNamed "title")) ∧
      Alike (d.elements.filter (·.hasClass "field")) (d'.elements.filter (·.hasClass "field")) ∧
      Alike (d.elements.filter (·.isNamed "dl")) (d'.elements.filter (·.isNamed "dl")))
    ⟨fun ⟨headings, titles, blocks, lists⟩ => ⟨headings, titles, blocks, lists⟩,
      fun ⟨headings, titles, blocks, lists⟩ => ⟨headings, titles, blocks, lists⟩⟩

/-- **Pages that read alike have the same record.** -/
theorem ReadsAlike.recordOf_eq (h : ReadsAlike d d') (url now : String) :
    recordOf url d now = recordOf url d' now := by
  have htitle : title? d = title? d' := by
    rw [title?, title?, firstText?, firstText?, firstText?, firstText?,
      nonempty_textOf_eq h.headings, nonempty_textOf_eq h.titles]
  have hblocks : blockPairs d = blockPairs d' := filterMap_blockPair?_eq h.blocks
  have hlists : definitionPairs d = definitionPairs d' := flatMap_listPairs_eq h.lists
  rw [recordOf, recordOf, usablePairs, usablePairs, htitle, hblocks, hlists]

/-! ### Orders of making -/

/-- The elements of a document are those of a tree, made in some order: the
numbers tell which one of the tree was made first, which one then, and so on. -/
def Html.Document.MadeFrom (d : Document) (order : List Nat) (ns : List Node) : Prop :=
  d.elements = order.filterMap fun i => (Node.descendantsAll ns)[i]?

instance (d : Document) (order : List Nat) (ns : List Node) : Decidable (d.MadeFrom order ns) :=
  inferInstanceAs (Decidable (_ = _))

/-- The elements were made in the order of the tree. -/
theorem madeFrom_range (h : d.elements = Node.descendantsAll ns) :
    d.MadeFrom (List.range (Node.descendantsAll ns).length) ns := by
  have hall : ∀ ls : List Node, ((List.range ls.length).filterMap fun i => ls[i]?) = ls := by
    intro ls
    induction ls with
    | nil => rfl
    | cons n ls ih =>
      have hrest : (fun i => (n :: ls)[i]?) ∘ Nat.succ = fun i => ls[i]? :=
        funext fun i => List.getElem?_cons_succ
      rw [List.length_cons, List.range_succ_eq_map, List.filterMap_cons, List.filterMap_map, hrest,
        ih]
      rfl
  rw [Document.MadeFrom, hall, h]

/-- **Alike trees read alike** when their elements are made in the same order. -/
theorem readsAlike_of_alike {order : List Nat} (h : Alike ns ms) (hd : d.MadeFrom order ns)
    (hd' : d'.MadeFrom order ms) : ReadsAlike d d' := by
  have htidy : ∀ ls : List Node, (order.filterMap fun i => ls[i]?).map tidy =
      order.filterMap fun i => (ls.map tidy)[i]? := by
    intro ls
    rw [List.map_filterMap]
    simp only [List.getElem?_map]
  have hsame : d.elements.map tidy = d'.elements.map tidy := by
    rw [hd, hd', htidy, htidy, h.map_tidy_descendantsAll]
  exact {
    headings := Html.alike_filter (fun n => Node.isNamed_tidy n "h1") hsame
    titles := Html.alike_filter (fun n => Node.isNamed_tidy n "title") hsame
    blocks := Html.alike_filter (fun n => Node.hasClass_tidy n "field") hsame
    lists := Html.alike_filter (fun n => Node.isNamed_tidy n "dl") hsame }

/-! ### Pages written from trees -/

theorem tidyAll_textNodes (text : List Char) : tidyAll (textNodes text) =
    if (words text).isEmpty then [] else [.text (collapsed text)] := by
  unfold textNodes
  by_cases hempty : text.isEmpty = true
  · rw [if_pos hempty, List.isEmpty_iff.1 hempty]
    rfl
  · rw [if_neg hempty, tidyAll, Node.isSilent, Node.tidy, String.toList_ofList]
    rfl

/-- Line ends are layout. -/
theorem tidyAll_readAll_uniformAll : ∀ trees : List Html.Tree,
    tidyAll (readAll (uniformAll trees)) = tidyAll (readAll trees)
  | [] => rfl
  | .node part text children :: trees => by
    have hwords : words (Html.normalizeLineEnds text) = words text :=
      Html.runs_normalizeLineEnds (by decide) (by decide) text
    have htext : tidyAll (textNodes (Html.normalizeLineEnds text)) = tidyAll (textNodes text) := by
      rw [tidyAll_textNodes, tidyAll_textNodes, hwords, Text.collapsed_inj.2 hwords]
    have hchildren := tidyAll_readAll_uniformAll children
    have hrest := tidyAll_readAll_uniformAll trees
    rw [uniformAll, uniform, readAll, readAll, Html.Tree.read, Html.Tree.read,
      Node.tidyAll_shown rfl, Node.tidyAll_shown rfl, tidy, tidy, Node.tidyAll_append,
      Node.tidyAll_append, htext, hchildren, hrest]

theorem alike_pageNode {trees trees' : List Html.Tree} (h : Alike (readAll trees) (readAll trees')) :
    Alike [pageNode (uniformAll trees)] [pageNode (uniformAll trees')] := by
  have hbody : Alike (readAll (uniformAll trees)) (readAll (uniformAll trees')) := by
    rw [Html.alike_iff, tidyAll_readAll_uniformAll, tidyAll_readAll_uniformAll, Html.alike_iff.1 h]
  exact .element (.element .nil (.element hbody .nil)) .nil

/-- **The elements of written pages are made in the order of the trees**, and those
of alike trees are as many. -/
theorem madeFrom_page {trees trees' : List Html.Tree} (hplain : PlainAll none trees)
    (hplain' : PlainAll none trees') (h : Alike (readAll trees) (readAll trees')) :
    ∃ n, (Document.parse (String.ofList (page trees))).MadeFrom (List.range n)
        [pageNode (uniformAll trees)] ∧
      (Document.parse (String.ofList (page trees'))).MadeFrom (List.range n)
        [pageNode (uniformAll trees')] := by
  have hlength : (Node.descendantsAll [pageNode (uniformAll trees)]).length =
      (Node.descendantsAll [pageNode (uniformAll trees')]).length := by
    simpa using congrArg List.length (alike_pageNode h).map_tidy_descendantsAll
  refine ⟨_, madeFrom_range (Html.parse_page hplain), ?_⟩
  rw [hlength]
  exact madeFrom_range (Html.parse_page hplain')

/-- **Pages that are written from alike trees read alike**, whatever line ends
they have. -/
theorem readsAlike_page {trees trees' : List Html.Tree} (hplain : PlainAll none trees)
    (hplain' : PlainAll none trees') (h : Alike (readAll trees) (readAll trees')) :
    ReadsAlike (Document.parse (String.ofList (page trees)))
      (Document.parse (String.ofList (page trees'))) := by
  obtain ⟨n, hmade, hmade'⟩ := madeFrom_page hplain hplain' h
  exact readsAlike_of_alike (alike_pageNode h) hmade hmade'

/-! ### Records -/

/-- **Layout does not show in a record.** Documents have the same record when they
were made from alike trees in the same order. Only four lists of elements matter
for it: pages have the same record when the headings, titles, blocks and
definition lists of one are alike with those of the other, each kind in the order
in which its elements were made. Pages that are written from alike trees of
headings, blocks and definition lists are such pages: their elements are made in
the order of the trees. -/
theorem layout_does_not_show (url now : String) :
    (∀ d d' order ns ns', Alike ns ns' → d.MadeFrom order ns → d'.MadeFrom order ns' →
      ReadsAlike d d' ∧ recordOf url d now = recordOf url d' now) ∧
    (∀ page page', ReadsAlike (Document.parse page) (Document.parse page') →
      extract url page now = extract url page' now) ∧
    ∀ trees trees', PlainAll none trees → PlainAll none trees' →
      Alike (readAll trees) (readAll trees') →
        (∃ n, (Document.parse (String.ofList (page trees))).MadeFrom (List.range n)
            [pageNode (uniformAll trees)] ∧
          (Document.parse (String.ofList (page trees'))).MadeFrom (List.range n)
            [pageNode (uniformAll trees')]) ∧
        extract url (String.ofList (page trees)) now =
          extract url (String.ofList (page trees')) now := by
  refine ⟨?_, fun page page' h => h.recordOf_eq url now, ?_⟩
  · intro d d' order ns ns' h hd hd'
    have hreads := readsAlike_of_alike h hd hd'
    exact ⟨hreads, hreads.recordOf_eq url now⟩
  · intro trees trees' hplain hplain' h
    exact ⟨madeFrom_page hplain hplain' h, (readsAlike_page hplain hplain' h).recordOf_eq url now⟩

/-- A page without any layout. -/
def densePage : String := "<h1>A b</h1><dl><dt>T</dt><dd>v w</dd></dl>"

/-- The same page with comments, blank lines and other blanks. -/
def spacedPage : String :=
  "\r\n<h1><!-- -->\n A \tb\n</h1> <dl>\n <dt> T</dt>\n <!-- x --><dd>v\u00a0 w </dd>\n</dl>\n"

theorem layout_does_not_show_spaced :
    ReadsAlike (Document.parse densePage) (Document.parse spacedPage) ∧
    extract "https://www.gao.gov/fedrules/1" densePage "now" =
      extract "https://www.gao.gov/fedrules/1" spacedPage "now" ∧
    (extract "https://www.gao.gov/fedrules/1" spacedPage "now").fields.entries =
      [("t", "v w")] := by
  have hreads : ReadsAlike (Document.parse densePage) (Document.parse spacedPage) := by
    decide +kernel
  exact ⟨hreads, (layout_does_not_show _ _).2.1 _ _ hreads, by decide +kernel⟩

/-- A page with a heading before a table and one in it. -/
def headedTable : Node :=
  .element "html" [] [
    .element "head" [] [],
    .element "body" [] [
      .element "h1" [] [.text "A"],
      .element "table" [] [
        .element "tbody" [] [
          .element "tr" [] [
            .element "td" [] [.element "h1" [] [.text "B"]]]]]]]

def headingWrittenFirst : String := "<h1>A</h1><table><tr><td><h1>B</h1></td></tr></table>"

/-- The first heading is written last, in the table but in no cell. It is put before
the table. -/
def headingWrittenLast : String := "<table><tr><td><h1>B</h1></td></tr><h1>A</h1></table>"

/-- **Pages with the same tree can have different titles**, if their headings were
made in different orders. -/
theorem title_by_order_of_making :
    (Document.parse headingWrittenFirst).MadeFrom [0, 1, 2, 3, 4, 5, 6, 7, 8] [headedTable] ∧
    (Document.parse headingWrittenLast).MadeFrom [0, 1, 2, 4, 5, 6, 7, 8, 3] [headedTable] ∧
    Alike [headedTable] [headedTable] ∧
    (extract "https://www.gao.gov/fedrules/1" headingWrittenFirst "now").title = some "A" ∧
    (extract "https://www.gao.gov/fedrules/1" headingWrittenLast "now").title = some "B" := by
  refine ⟨?_, ?_, ?_, ?_, ?_⟩
  all_goals decide +kernel

end RuleHarvest
