/-
# Blocks inside blocks

A block is read with all that is inside it, however deep: its label is the
first label there, its value joins all items there that are not blank. So the
label and the items of a pair need not belong to the same block. They do
exactly when every block inside lies around all of them or around none
(`Node.exists_nearest_iff`), and no text is taken twice exactly when no item
lies inside another (`Node.nodup_flatMap_textsUnder`).

A block that is put around some nodes of a page adds its own pair and leaves
those of all other blocks: the ones around it have the same labels and items as
before, with the same texts, and the ones in it are the same
(`Wrapped.blockPairs_eq`). Its pair has the first label in it with all items in
it, and takes the field of this label if it comes first.

Key definitions: `textAt`, `Reading`, `Wraps`, `Wrapped`.
Key theorems: `blockPair?_eq_some_iff`, `Wrapped.blockPairs_eq`,
`Wraps.wrapped`, `wrapped_of_written`, `pairs_of_nested_blocks`.
-/
import Mathlib.Data.List.Forall2
import RuleHarvest.Proofs.Html.Position
import RuleHarvest.Proofs.Rule.FirstPair
import RuleHarvest.Proofs.Rule.Written

namespace RuleHarvest

open Html (Node Document)
open Html.NodeTable (descendantsAll_append)

variable {block n n' w : Node} {ns ns' : List Node} {c : String}

/-! ### The reading of a block -/

/-- The words of all text nodes in the node at a place. -/
def textAt (n : Node) (p : List Nat) : String :=
  String.ofList (Text.join [' '] (((n.textsUnder p).filterMap n.contentAt?).flatMap Text.words))

/-- How a block is read: the place of its label, the places of its items that
are not blank, and the pair that is made of them. -/
structure Reading (block : Node) (label : List Nat) (items : List (List Nat))
    (pair : String × String) : Prop where
  first : (block.placesOf "field__label").head? = some label
  filled : items = (block.placesOf "field__item").filter (textAt block · ≠ "")
  key : pair.1 = textAt block label
  value : pair.2 = joinValues (items.map (textAt block))

/-- The texts of the elements of a class among some nodes and inside them. -/
def textsOfClass (c : String) (ns : List Node) : List String :=
  ((Node.descendantsAll ns).filter (·.hasClass c)).map textOf

theorem textAt_eq {n m : Node} {p : List Nat} (h : n.at? p = some m) : textAt n p = textOf m := by
  rw [textAt, ← Node.texts_eq_filterMap h]
  rfl

theorem map_textAt_placesOf (c : String) (n : Node) :
    (n.placesOf c).map (textAt n) = textsOfClass c n.children := by
  have hplaces := congrArg (List.map fun found => (found.map textOf).getD "")
    (Node.map_at?_placesOf c n)
  rw [List.map_map, List.map_map, Node.descendantsAll_children] at hplaces
  refine Eq.trans (List.map_congr_left fun p hp => ?_) hplaces
  obtain ⟨m, hm, -⟩ := (Option.any_eq_true _ _).1 (List.mem_filter.1 hp).2
  rw [Function.comp_apply, hm, textAt_eq hm]
  rfl

theorem blockPair?_eq (block : Node) : blockPair? block =
    (textsOfClass "field__label" block.children).head?.map fun label =>
      (label, joinValues (nonempty (textsOfClass "field__item" block.children))) := by
  unfold blockPair? textsOfClass
  rw [List.head?_map, List.head?_filter, Option.map_map, Node.descendantsAll_children]
  rfl

/-- **The pair of a block is that of its reading.** -/
theorem blockPair?_eq_some_iff {pair : String × String} :
    blockPair? block = some pair ↔ ∃ label items, Reading block label items pair := by
  have hitems : nonempty (textsOfClass "field__item" block.children) =
      ((block.placesOf "field__item").filter (textAt block · ≠ "")).map (textAt block) := by
    rw [← map_textAt_placesOf, nonempty, List.filter_map]
    rfl
  rw [blockPair?_eq, hitems, ← map_textAt_placesOf, List.head?_map, Option.map_map]
  constructor
  · intro h
    obtain ⟨label, hlabel, rfl⟩ := Option.map_eq_some_iff.1 h
    exact ⟨label, _, hlabel, rfl, rfl, rfl⟩
  · rintro ⟨label, items, hlabel, rfl, hkey, hvalue⟩
    rw [hlabel, Option.map_some]
    exact congrArg some (Prod.ext hkey.symm hvalue.symm)

theorem mem_blockPairs_iff {d : Document} {pair : String × String} : pair ∈ blockPairs d ↔
    ∃ block ∈ d.elements, block.hasClass "field" = true ∧
      ∃ label items, Reading block label items pair := by
  unfold blockPairs
  simp only [List.mem_filterMap, List.mem_filter, blockPair?_eq_some_iff, and_assoc]

namespace Reading

variable {label : List Nat} {items : List (List Nat)} {pair : String × String}

/-- The block itself lies around its label. -/
theorem encloses_label (h : Reading block label items pair)
    (hblock : block.hasClass "field" = true) : block.Encloses "field" [] label := by
  obtain ⟨hinside, -⟩ := List.mem_filter.1 (List.mem_of_head? h.first)
  refine ⟨hblock, List.nil_prefix, ?_⟩
  rintro rfl
  exact Node.nil_not_mem_placesAll 0 _ hinside

theorem nodup_items (h : Reading block label items pair) : items.Nodup := by
  rw [h.filled]
  exact ((Node.nodup_placesAll 0 _).filter _).filter _

/-- An item that is not blank has a text node. -/
theorem textsUnder_ne_nil (h : Reading block label items pair) :
    ∀ p ∈ items, block.textsUnder p ≠ [] := by
  intro p hp hnone
  rw [h.filled] at hp
  have hfilled : textAt block p ≠ "" := by simpa using (List.mem_filter.1 hp).2
  refine hfilled ?_
  rw [textAt, hnone]
  rfl

end Reading

/-! ### Wrapped nodes -/

/-- The element `w` is put around its children, which were neighbours in a list
of nodes, or among the children of an element in it. -/
inductive Wraps (w : Node) : List Node → List Node → Prop
  | here (before after : List Node) :
      Wraps w (before ++ (w.children ++ after)) (before ++ w :: after)
  | inside (before after : List Node) (name : String) (classes : List String)
      {children children' : List Node} (h : Wraps w children children') :
      Wraps w (before ++ .element name classes children :: after)
        (before ++ .element name classes children' :: after)

/-- A node stays as it is, or an element is put around nodes inside it. -/
inductive SameUpTo (w : Node) : Node → Node → Prop
  | same (n : Node) : SameUpTo w n n
  | inside (name : String) (classes : List String) {children children' : List Node}
      (h : Wraps w children children') :
      SameUpTo w (.element name classes children) (.element name classes children')

/-- An element is put around nodes of a page. It may have been made at any
time. -/
inductive Wrapped (w : Node) : Document → Document → Prop
  | intro {before before' after after' : List Node}
      (hbefore : List.Forall₂ (SameUpTo w) before before')
      (hafter : List.Forall₂ (SameUpTo w) after after') :
      Wrapped w ⟨before ++ after⟩ ⟨before' ++ w :: after'⟩

/-- Wrapped nodes have the same texts. -/
theorem Wraps.textsAll_eq (hw : w.isElement = true) (h : Wraps w ns ns') :
    Node.textsAll ns' = Node.textsAll ns := by
  induction h with
  | here before after =>
    rw [Node.textsAll_append, Node.textsAll_append, Node.textsAll_append, Node.textsAll,
      Node.textsAll_children hw]
  | inside before after name classes h ih =>
    rw [Node.textsAll_append, Node.textsAll_append, Node.textsAll, Node.textsAll, Node.texts,
      Node.texts, ih]

theorem textsOfClass_append (c : String) (ns ms : List Node) :
    textsOfClass c (ns ++ ms) = textsOfClass c ns ++ textsOfClass c ms := by
  unfold textsOfClass
  rw [descendantsAll_append, List.filter_append, List.map_append]

/-- An element comes before those inside it. -/
theorem textsOfClass_cons (c : String) : ∀ (n : Node) (ns : List Node), textsOfClass c (n :: ns) =
    (if n.hasClass c then [textOf n] else []) ++ textsOfClass c n.children ++ textsOfClass c ns
  | .element name classes children, ns => by
    unfold textsOfClass
    rw [Node.descendantsAll_element, List.filter_cons, List.filter_append]
    split <;> simp [Node.children]
  | .text _, _ => by simp [textsOfClass, Node.descendantsAll, Node.isElement, Node.hasClass,
      Node.children]
  | .comment, _ => by simp [textsOfClass, Node.descendantsAll, Node.isElement, Node.hasClass,
      Node.children]

/-- **Wrapped nodes have the same texts of each class** that the element around
them does not have. -/
theorem Wraps.textsOfClass_eq (hw : w.isElement = true) (hclass : w.hasClass c = false)
    (h : Wraps w ns ns') : textsOfClass c ns' = textsOfClass c ns := by
  induction h with
  | here before after =>
    rw [textsOfClass_append, textsOfClass_append, textsOfClass_append, textsOfClass_cons, hclass]
    rfl
  | @inside before after name classes children children' h ih =>
    have htext :
        textOf (.element name classes children') = textOf (.element name classes children) := by
      rw [textOf, textOf, Node.texts, Node.texts, h.textsAll_eq hw]
    rw [textsOfClass_append, textsOfClass_append, textsOfClass_cons, textsOfClass_cons, htext]
    exact congrArg (fun inner => _ ++ (_ ++ inner ++ _)) ih

/-- A block that is neither a label nor an item of another one. -/
structure OnlyBlock (w : Node) : Prop where
  block : w.hasClass "field" = true
  not_label : w.hasClass "field__label" = false
  not_item : w.hasClass "field__item" = false

theorem OnlyBlock.isElement (hw : OnlyBlock w) : w.isElement = true :=
  Node.isElement_of_hasClass hw.block

/-- **A node around the wrapped ones makes the same pair** as before. -/
theorem SameUpTo.blockPair?_eq (hw : OnlyBlock w) (h : SameUpTo w n n') :
    n'.hasClass "field" = n.hasClass "field" ∧ blockPair? n' = blockPair? n := by
  cases h with
  | same => exact ⟨rfl, rfl⟩
  | inside name classes h =>
    rw [RuleHarvest.blockPair?_eq, RuleHarvest.blockPair?_eq]
    dsimp only [Node.children]
    rw [h.textsOfClass_eq hw.isElement hw.not_label, h.textsOfClass_eq hw.isElement hw.not_item]
    exact ⟨rfl, rfl⟩

theorem blockPairs_append (ns ms : List Node) :
    blockPairs ⟨ns ++ ms⟩ = blockPairs ⟨ns⟩ ++ blockPairs ⟨ms⟩ := by
  unfold blockPairs
  rw [List.filter_append, List.filterMap_append]

theorem blockPairs_cons (n : Node) (ns : List Node) : blockPairs ⟨n :: ns⟩ =
    (if n.hasClass "field" then (blockPair? n).toList else []) ++ blockPairs ⟨ns⟩ := by
  unfold blockPairs
  rw [List.filter_cons]
  split
  · rw [List.filterMap_cons]
    rcases blockPair? n with _ | pair <;> rfl
  · rfl

theorem blockPairs_of_sameUpTo (hw : OnlyBlock w) (h : List.Forall₂ (SameUpTo w) ns ns') :
    blockPairs ⟨ns'⟩ = blockPairs ⟨ns⟩ := by
  induction h with
  | nil => rfl
  | cons hn _ ih =>
    obtain ⟨hclass, hpair⟩ := hn.blockPair?_eq hw
    rw [blockPairs_cons, blockPairs_cons, hclass, hpair, ih]

/-- **A block put around nodes of a page adds its own pair** to those of the
page and leaves the others. -/
theorem Wrapped.blockPairs_eq {d d' : Document} (hw : OnlyBlock w) (h : Wrapped w d d') :
    ∃ before after, blockPairs d = before ++ after ∧
      blockPairs d' = before ++ ((blockPair? w).toList ++ after) := by
  obtain ⟨hbefore, hafter⟩ := h
  refine ⟨_, _, blockPairs_append _ _, ?_⟩
  rw [blockPairs_append, blockPairs_cons, if_pos hw.block, blockPairs_of_sameUpTo hw hbefore,
    blockPairs_of_sameUpTo hw hafter]

theorem Wrapped.mem {d d' : Document} (h : Wrapped w d d') : w ∈ d'.elements := by
  obtain ⟨-, -⟩ := h
  exact List.mem_append_right _ List.mem_cons_self

/-! ### Wrapped pages -/

theorem sameUpTo_refl (w : Node) (ns : List Node) : List.Forall₂ (SameUpTo w) ns ns :=
  List.forall₂_same.2 fun n _ => .same n

/-- **What is wrapped in a tree of nodes is wrapped in its document.** -/
theorem Wraps.wrapped (hw : w.isElement = true) (h : Wraps w ns ns') :
    Wrapped w ⟨Node.descendantsAll ns⟩ ⟨Node.descendantsAll ns'⟩ := by
  have hsplit : ∃ before before' after after', Node.descendantsAll ns = before ++ after ∧
      Node.descendantsAll ns' = before' ++ w :: after' ∧
      List.Forall₂ (SameUpTo w) before before' ∧ List.Forall₂ (SameUpTo w) after after' := by
    induction h with
    | here before after =>
      refine ⟨Node.descendantsAll before, Node.descendantsAll before,
        Node.descendantsAll (w.children ++ after), Node.descendantsAll (w.children ++ after),
        descendantsAll_append _ _, ?_, sameUpTo_refl w _, sameUpTo_refl w _⟩
      rw [descendantsAll_append, descendantsAll_append, Node.descendantsAll, if_pos hw,
        Node.descendantsAll_children]
      rfl
    | @inside before after name classes children children' h ih =>
      obtain ⟨inner, inner', rest, rest', hinner, hinner', hsame, hrest⟩ := ih
      refine ⟨Node.descendantsAll before ++ .element name classes children :: inner,
        Node.descendantsAll before ++ .element name classes children' :: inner',
        rest ++ Node.descendantsAll after, rest' ++ Node.descendantsAll after, ?_, ?_,
        List.rel_append (sameUpTo_refl w _) (.cons (.inside name classes h) hsame),
        List.rel_append hrest (sameUpTo_refl w _)⟩
      · rw [descendantsAll_append, Node.descendantsAll_element, hinner]
        simp
      · rw [descendantsAll_append, Node.descendantsAll_element, hinner']
        simp
  obtain ⟨before, before', after, after', hns, hns', hbefore, hafter⟩ := hsplit
  rw [hns, hns']
  exact .intro hbefore hafter

/-- The page of some parts. -/
def pageOf (parts : List Html.Tree) : String := String.ofList (Html.page parts)

/-- The block of some parts, as it is read. -/
def blockOf (parts : List Html.Tree) : Node :=
  .element "div" ["field"] (Html.Tree.readAll (Html.Tree.uniformAll parts))

/-- A page is read as the nodes of its parts. -/
theorem parse_pageOf {parts : List Html.Tree} (h : Html.Tree.PlainAll none parts) :
    Document.parse (pageOf parts) =
      ⟨Node.descendantsAll [Html.pageNode (Html.Tree.uniformAll parts)]⟩ := by
  have helements := Html.parse_page h
  rw [← pageOf] at helements
  rcases hparse : Document.parse (pageOf parts) with ⟨elements⟩
  rw [hparse] at helements
  exact congrArg Document.mk helements

theorem plain_in_block : ∀ {t : Html.Tree}, t.Plain none → t.Plain (some .block)
  | .node part text children, h => by
    rw [Html.Tree.Plain] at h ⊢
    refine ⟨?_, h.2⟩
    cases part with
    | heading | block | label | item | list => rfl
    | term | definition => exact absurd h.1 (by decide)

/-- **A block written around parts of a page** is put around their nodes. -/
theorem wrapped_of_written (before inner after : List Html.Tree)
    (h : Html.Tree.PlainAll none (before ++ (inner ++ after))) :
    Wrapped (blockOf inner) (Document.parse (pageOf (before ++ (inner ++ after))))
      (Document.parse (pageOf (before ++ .node .block [] inner :: after))) := by
  have hplain := RulePage.plainAll_iff.1 h
  have hinner : ∀ t ∈ inner, t.Plain (some .block) := fun t ht =>
    plain_in_block (hplain t (by simp [ht]))
  have hblock : (Html.Tree.node .block [] inner).Plain none := by
    rw [Html.Tree.Plain]
    exact ⟨rfl, List.not_mem_nil, RulePage.plainAll_iff.2 hinner⟩
  have hwritten : Html.Tree.PlainAll none (before ++ .node .block [] inner :: after) := by
    refine RulePage.plainAll_iff.2 fun t ht => ?_
    rcases List.mem_append.1 ht with ht | ht
    · exact hplain t (List.mem_append_left _ ht)
    · rcases List.mem_cons.1 ht with rfl | ht
      · exact hblock
      · exact hplain t (by simp [ht])
  have hread : (Html.Tree.node .block [] inner).uniform.read =
      .element "div" ["field"] (inner.map (·.uniform.read)) := by
    rw [Html.Tree.uniform, Html.Tree.read, RulePage.readAll_uniformAll]
    rfl
  rw [parse_pageOf h, parse_pageOf hwritten, Html.pageNode, Html.pageNode, blockOf,
    RulePage.readAll_uniformAll inner, RulePage.readAll_uniformAll, RulePage.readAll_uniformAll,
    List.map_append, List.map_append, List.map_append, List.map_cons, hread]
  have hbody := Wraps.here (w := .element "div" ["field"] (inner.map (·.uniform.read)))
    (before.map (·.uniform.read)) (after.map (·.uniform.read))
  exact Wraps.wrapped rfl (.inside [] [] "html" [] (.inside [_] [] "body" [] hbody))

/-! ### Pairs of nested blocks -/

/-- A field that comes from a block has the value of the first pair of a block
that counts for its key. -/
theorem get?_recordOf_of_block {d : Document} {key : String} {pair : String × String}
    (h : (blockPairs d).find? (CountsFor key ·) = some pair) (url now : String) :
    (recordOf url d now).fields.get? key = some pair.2 := by
  rw [get?_recordOf, find?_counts_labelPairs, h]
  rfl

/-- **What the pairs of nested blocks hold.** Each pair of a page is the reading
of one block: its label is the first one inside, and its value joins all items
inside that are not blank. Label and items have the same nearest block exactly
when every block inside lies around all of them or around none, and no text node
is taken twice exactly when none of these items lies inside another. (The block
lies around all of them itself, so their nearest block in the page is no further
out.) A block that is put around nodes of a page adds its own pair and leaves
the others. So of the fields that come from blocks only the one of its label can
change, and this one has the value of the new block unless an earlier one counts
for it. -/
theorem pairs_of_nested_blocks (d : Document) :
    (∀ pair, pair ∈ blockPairs d ↔ ∃ block ∈ d.elements, block.hasClass "field" = true ∧
      ∃ label items, Reading block label items pair) ∧
    (∀ block ∈ d.elements, block.hasClass "field" = true →
      ∀ label items pair, Reading block label items pair →
        ((∃ q, ∀ p ∈ label :: items, block.nearest? "field" p = some q) ↔
          ∀ q, (∃ p ∈ label :: items, block.Encloses "field" q p) →
            ∀ p ∈ label :: items, block.Encloses "field" q p) ∧
        ((items.flatMap block.textsUnder).Nodup ↔
          ∀ p ∈ items, ∀ q ∈ items, p <+: q → p = q)) ∧
    (∀ w d', OnlyBlock w → Wrapped w d d' →
      ∃ before after, blockPairs d = before ++ after ∧
        blockPairs d' = before ++ ((blockPair? w).toList ++ after) ∧
        ∀ url now key,
          ((∃ pair ∈ blockPairs d, CountsFor key pair) →
            (∀ pair, blockPair? w = some pair → ¬ CountsFor key pair) →
              (recordOf url d' now).fields.get? key = (recordOf url d now).fields.get? key) ∧
          ∀ pair, blockPair? w = some pair → CountsFor key pair →
            (∀ other ∈ before, ¬ CountsFor key other) →
              (recordOf url d' now).fields.get? key = some pair.2) := by
  refine ⟨fun pair => mem_blockPairs_iff, fun block _ hblock label items pair h => ⟨?_, ?_⟩,
    fun w d' hw h => ?_⟩
  · exact Node.exists_nearest_iff List.mem_cons_self (h.encloses_label hblock)
  · exact Node.nodup_flatMap_textsUnder h.nodup_items h.textsUnder_ne_nil
  · obtain ⟨before, after, hpairs, hpairs'⟩ := h.blockPairs_eq hw
    refine ⟨before, after, hpairs, hpairs', fun url now key => ⟨fun hcounts hnot => ?_, ?_⟩⟩
    · have hfind :
          (blockPairs d').find? (CountsFor key ·) = (blockPairs d).find? (CountsFor key ·) := by
        have hown : (blockPair? w).toList.find? (CountsFor key ·) = none := by
          simpa [List.find?_eq_none] using hnot
        rw [hpairs, hpairs', List.find?_append, List.find?_append, List.find?_append, hown,
          Option.none_or]
      obtain ⟨pair, hpair⟩ : ∃ pair, (blockPairs d).find? (CountsFor key ·) = some pair := by
        rw [← Option.isSome_iff_exists, List.find?_isSome]
        simpa using hcounts
      rw [get?_recordOf_of_block hpair, get?_recordOf_of_block (hfind.trans hpair)]
    · intro pair hpair hcounts hbefore
      refine get?_recordOf_of_block ?_ url now
      have hnone : before.find? (CountsFor key ·) = none := by
        simpa [List.find?_eq_none] using hbefore
      rw [hpairs', hpair, List.find?_append, hnone, Option.none_or, Option.toList_some,
        List.singleton_append, List.find?_cons, decide_eq_true hcounts]

/-- Two blocks, each with a label and an item. -/
def agencyAndType : List Html.Tree := [
  .node .block [] [.node .label "Agency".toList [], .node .item "EPA".toList []],
  .node .block [] [.node .label "Type".toList [], .node .item "Major".toList []]]

/-- A label, and an item with another one in it. -/
def itemInItem : List Html.Tree := [
  .node .label "Topics".toList [],
  .node .item "Air".toList [.node .item "Ozone".toList []]]

/-- **A block around two others takes the items of both** under the first label,
so the field of this label is no longer the one of its own block. An item in an
item has its text taken twice. -/
theorem outer_block_takes_items :
    Wrapped (blockOf agencyAndType) (Document.parse (pageOf agencyAndType))
      (Document.parse (pageOf [.node .block [] agencyAndType])) ∧
    (extract "https://www.gao.gov/fedrules/1" (pageOf agencyAndType) "now").fields.entries =
      [("agency", "EPA"), ("type", "Major")] ∧
    (extract "https://www.gao.gov/fedrules/1" (pageOf [.node .block [] agencyAndType])
      "now").fields.entries = [("agency", "EPA; Major"), ("type", "Major")] ∧
    (Reading (blockOf agencyAndType) [0, 0] [[0, 1], [1, 1]] ("Agency", "EPA; Major") ∧
      (blockOf agencyAndType).nearest? "field" [0, 0] = some [0] ∧
      (blockOf agencyAndType).nearest? "field" [1, 1] = some [1]) ∧
    blockOf itemInItem ∈ (Document.parse (pageOf [.node .block [] itemInItem])).elements ∧
    Reading (blockOf itemInItem) [0] [[1], [1, 1]] ("Topics", "Air Ozone; Ozone") ∧
    (blockOf itemInItem).textsUnder [1] = [[1, 0], [1, 1, 0]] ∧
    (blockOf itemInItem).textsUnder [1, 1] = [[1, 1, 0]] := by
  have hplain : Html.Tree.PlainAll none agencyAndType := by
    simp [agencyAndType, Html.Tree.PlainAll, Html.Tree.Plain, Html.Part.goesIn]
  have hnested : Html.Tree.PlainAll none [.node .block [] agencyAndType] := by
    simp [agencyAndType, Html.Tree.PlainAll, Html.Tree.Plain, Html.Part.goesIn]
  have hitem : Html.Tree.PlainAll none itemInItem := by
    simp [itemInItem, Html.Tree.PlainAll, Html.Tree.Plain, Html.Part.goesIn]
  have hwrapped := wrapped_of_written [] agencyAndType [] (by simpa using hplain)
  have hflat : (extract "https://www.gao.gov/fedrules/1" (pageOf agencyAndType)
      "now").fields.entries = [("agency", "EPA"), ("type", "Major")] := by
    rw [extract, parse_pageOf hplain]
    decide +kernel
  have houter : (extract "https://www.gao.gov/fedrules/1" (pageOf [.node .block [] agencyAndType])
      "now").fields.entries = [("agency", "EPA; Major"), ("type", "Major")] := by
    rw [extract, parse_pageOf hnested]
    decide +kernel
  have hmem := (wrapped_of_written [] itemInItem [] (by simpa using hitem)).mem
  refine ⟨by simpa using hwrapped, hflat, houter, ⟨⟨?_, ?_, ?_, ?_⟩, ?_, ?_⟩, hmem,
    ⟨?_, ?_, ?_, ?_⟩, ?_, ?_⟩
  all_goals decide +kernel

end RuleHarvest
