/-
# Rule pages that are written and read

A rule page has a title, blocks and definition lists, whose labels and values
are any texts without U+0000. It is written as tags and text with `&` and `<`
as references, and what is read from it are the texts that went in: the title
and the values with their words one space apart, the values of a label joined,
the first of several groups under one key (`extract_write`).

Key definitions: `PageText`, `PageGroup`, `RulePage`, `RulePage.write`,
`PageGroup.field?`.
Key theorems: `RulePage.elements`, `RulePage.usablePairs_eq`, `extract_write`.
-/
import RuleHarvest.Proofs.Html.Building
import RuleHarvest.Proofs.Rule.FieldMap

namespace RuleHarvest

open Html (Node Document Part Tree)

/-! ### Rule pages -/

/-- A text that a page can show: U+0000 is dropped from pages. -/
structure PageText where
  text : String
  noNull : '\x00' ∉ text.toList

/-- A label with its values. -/
structure PageGroup where
  label : PageText
  values : List PageText

/-- What is on a rule page. -/
structure RulePage where
  title : PageText
  blocks : List PageGroup
  lists : List (List PageGroup)

namespace RulePage

/-- A part that holds a text and nothing else. -/
def leaf (part : Part) (s : PageText) : Tree := .node part s.text.toList []

/-- A label and its values, each in a part of its own. -/
def groupTrees (first other : Part) (g : PageGroup) : List Tree :=
  leaf first g.label :: g.values.map (leaf other)

def blockTree (g : PageGroup) : Tree := .node .block [] (groupTrees .label .item g)

def listTree (gs : List PageGroup) : Tree := .node .list [] (gs.flatMap (groupTrees .term .definition))

/-- The parts in the body of a rule page. -/
def trees (p : RulePage) : List Tree :=
  leaf .heading p.title :: (p.blocks.map blockTree ++ p.lists.map listTree)

/-- A rule page as text. -/
def write (p : RulePage) : String := String.ofList (Html.page p.trees)

example : write ⟨⟨"A & B", by decide⟩, [⟨⟨"C", by decide⟩, [⟨"<1", by decide⟩]⟩],
    [[⟨⟨"D", by decide⟩, [⟨"2", by decide⟩]⟩]]⟩ =
      "<html><body><h1>A &amp; B</h1><div class=\"field\"><div class=\"field__label\">C</div>" ++
        "<div class=\"field__item\">&lt;1</div></div><dl><dt>D</dt><dd>2</dd></dl></body></html>" := by
  decide +kernel

end RulePage

/-! ### What is to be read -/

namespace PageText

def words (s : PageText) : List (List Char) := Text.words s.text.toList

/-- The words of a text, one space between each two. -/
def shown (s : PageText) : String := String.ofList (Text.join [' '] s.words)

end PageText

namespace PageGroup

/-- The values that are not blank. -/
def shownValues (g : PageGroup) : List String :=
  (g.values.filter fun v => v.words ≠ []).map (·.shown)

/-- The field of a group, if its label has a key and a value is not blank. -/
def field? (g : PageGroup) : Option (String × String) :=
  if fieldKey g.label.text = "" ∨ g.shownValues = [] then none
  else some (fieldKey g.label.text, String.intercalate "; " g.shownValues)

end PageGroup

/-! ### Texts -/

namespace PageText

theorem words_uniform (s : PageText) :
    Text.words (Html.normalizeLineEnds s.text.toList) = s.words :=
  Html.runs_normalizeLineEnds (by decide) (by decide) _

/-- A text with words is not shown as an empty one. -/
theorem shown_eq_empty (s : PageText) : s.shown = "" ↔ s.words = [] := by
  unfold shown
  rw [← String.toList_inj, String.toList_ofList]
  constructor
  · intro h
    rcases hwords : s.words with _ | ⟨w, ws⟩
    · rfl
    · have hw : w ∈ s.words := by
        rw [hwords]
        exact List.mem_cons_self
      have hne : w ≠ [] := by simpa using (List.mem_filter.1 hw).2
      rw [hwords] at h
      rcases ws with _ | ⟨v, ws⟩
      · exact absurd h hne
      · exact absurd (List.append_eq_nil_iff.1 (List.append_eq_nil_iff.1 h).1).1 hne
  · intro h
    rw [h]
    rfl

/-- The key of a label is that of its words. -/
theorem fieldKey_shown (s : PageText) : fieldKey s.shown = fieldKey s.text := by
  unfold fieldKey shown
  rw [String.toList_ofList]
  exact congrArg String.ofList (Text.keyChars_join_words s.text.toList)

end PageText

/-- The values of a group as they are read. -/
theorem nonempty_shown (values : List PageText) :
    nonempty (values.map (·.shown)) = (values.filter fun v => v.words ≠ []).map (·.shown) := by
  unfold nonempty
  have hkept : values.filter ((· ≠ "") ∘ fun v : PageText => v.shown) =
      values.filter fun v => v.words ≠ [] :=
    List.filter_congr fun v _ => by simp [PageText.shown_eq_empty]
  rw [List.filter_map, hkept]

/-! ### Nodes -/

namespace RulePage

open Html.Tree

/-- The node of a part that holds a text. -/
def leafNode (part : Part) (s : PageText) : Node :=
  .element part.name (Html.classesOf part.attributes)
    (textNodes (Html.normalizeLineEnds s.text.toList))

/-- The nodes of a label and its values. -/
def groupNodes (first other : Part) (g : PageGroup) : List Node :=
  leafNode first g.label :: g.values.map (leafNode other)

def blockNode (g : PageGroup) : Node :=
  .element "div" (Html.classesOf Part.block.attributes) (groupNodes .label .item g)

def listNode (gs : List PageGroup) : Node :=
  .element "dl" [] (gs.flatMap (groupNodes .term .definition))

/-- The nodes in the body of a rule page. -/
def bodyNodes (p : RulePage) : List Node :=
  leafNode .heading p.title :: (p.blocks.map blockNode ++ p.lists.map listNode)

theorem readAll_uniformAll (ts : List Tree) :
    readAll (uniformAll ts) = ts.map fun t => t.uniform.read := by
  induction ts with
  | nil => rfl
  | cons t ts ih => rw [uniformAll, readAll, ih, List.map_cons]

theorem read_leaf (part : Part) (s : PageText) : (leaf part s).uniform.read = leafNode part s := by
  unfold leaf leafNode
  rw [uniform, Html.Tree.read]
  exact congrArg _ (List.append_nil _)

theorem read_groupTrees (first other : Part) (g : PageGroup) :
    (groupTrees first other g).map (fun t => t.uniform.read) = groupNodes first other g := by
  unfold groupTrees groupNodes
  rw [List.map_cons, List.map_map, read_leaf]
  exact congrArg _ (List.map_congr_left fun v _ => read_leaf other v)

theorem read_blockTree (g : PageGroup) : (blockTree g).uniform.read = blockNode g := by
  unfold blockTree blockNode
  rw [uniform, Html.Tree.read, readAll_uniformAll, read_groupTrees]
  rfl

theorem read_listTree (gs : List PageGroup) : (listTree gs).uniform.read = listNode gs := by
  unfold listTree listNode
  rw [uniform, Html.Tree.read, readAll_uniformAll, List.map_flatMap]
  simp only [read_groupTrees]
  rfl

theorem readAll_trees (p : RulePage) : readAll (uniformAll p.trees) = p.bodyNodes := by
  rw [readAll_uniformAll, trees, bodyNodes, List.map_cons, List.map_append, List.map_map,
    List.map_map, read_leaf]
  simp only [Function.comp_def, read_blockTree, read_listTree]

/-! ### Plain pages -/

theorem plainAll_iff {outer : Option Part} {ts : List Tree} :
    PlainAll outer ts ↔ ∀ t ∈ ts, t.Plain outer := by
  induction ts with
  | nil => simp [PlainAll]
  | cons t ts ih => rw [PlainAll, ih, List.forall_mem_cons]

theorem plain_leaf {outer : Option Part} {part : Part} (h : part.goesIn outer = true)
    (s : PageText) : (leaf part s).Plain outer := by
  rw [leaf, Plain]
  exact ⟨h, s.noNull, trivial⟩

theorem plain_groupTrees {outer : Option Part} {first other : Part}
    (hfirst : first.goesIn outer = true) (hother : other.goesIn outer = true) (g : PageGroup) :
    ∀ t ∈ groupTrees first other g, t.Plain outer := by
  intro t ht
  rcases List.mem_cons.1 ht with rfl | ht
  · exact plain_leaf hfirst g.label
  · obtain ⟨v, -, rfl⟩ := List.mem_map.1 ht
    exact plain_leaf hother v

/-- Every part of a rule page stands where it may. -/
theorem plainAll_trees (p : RulePage) : PlainAll none p.trees := by
  refine plainAll_iff.2 fun t ht => ?_
  rcases List.mem_cons.1 ht with rfl | ht
  · exact plain_leaf rfl p.title
  · rcases List.mem_append.1 ht with ht | ht
    · obtain ⟨g, -, rfl⟩ := List.mem_map.1 ht
      rw [blockTree, Plain]
      exact ⟨rfl, List.not_mem_nil, plainAll_iff.2 (plain_groupTrees rfl rfl g)⟩
    · obtain ⟨gs, -, rfl⟩ := List.mem_map.1 ht
      rw [listTree, Plain]
      refine ⟨rfl, List.not_mem_nil, plainAll_iff.2 fun t ht => ?_⟩
      obtain ⟨g, -, ht⟩ := List.mem_flatMap.1 ht
      exact plain_groupTrees rfl rfl g t ht

/-! ### Elements -/

/-- A list of parts that hold text is the list of its elements. -/
theorem descendantsAll_of_leaves {ns : List Node}
    (h : ∀ n ∈ ns, ∃ part s, n = leafNode part s) : Node.descendantsAll ns = ns := by
  induction ns with
  | nil => rfl
  | cons n ns ih =>
    obtain ⟨part, s, rfl⟩ := h n List.mem_cons_self
    have hinside : (leafNode part s).descendants = [] :=
      Html.NodeTable.descendantsAll_textNodes _
    rw [Node.descendantsAll, hinside, ih fun m hm => h m (List.mem_cons_of_mem _ hm)]
    rfl

theorem mem_groupNodes {first other : Part} {g : PageGroup} {n : Node}
    (h : n ∈ groupNodes first other g) : ∃ part s, (part = first ∨ part = other) ∧
      n = leafNode part s := by
  rcases List.mem_cons.1 h with rfl | h
  · exact ⟨first, g.label, .inl rfl, rfl⟩
  · obtain ⟨v, -, rfl⟩ := List.mem_map.1 h
    exact ⟨other, v, .inr rfl, rfl⟩

theorem descendants_blockNode (g : PageGroup) :
    (blockNode g).descendants = groupNodes .label .item g := by
  refine descendantsAll_of_leaves fun n hn => ?_
  obtain ⟨part, s, -, rfl⟩ := mem_groupNodes hn
  exact ⟨part, s, rfl⟩

theorem descendants_listNode (gs : List PageGroup) :
    (listNode gs).descendants = gs.flatMap (groupNodes .term .definition) := by
  refine descendantsAll_of_leaves fun n hn => ?_
  obtain ⟨g, -, hn⟩ := List.mem_flatMap.1 hn
  obtain ⟨part, s, -, rfl⟩ := mem_groupNodes hn
  exact ⟨part, s, rfl⟩

/-- The elements of some kind among nodes and in them are among the nodes, if no
node has one of the kind in it. -/
theorem filter_descendantsAll {f : Node → Bool} {ns : List Node}
    (h : ∀ n ∈ ns, n.isElement = true ∧ n.descendants.filter f = []) :
    (Node.descendantsAll ns).filter f = ns.filter f := by
  induction ns with
  | nil => rfl
  | cons n ns ih =>
    obtain ⟨helement, hinside⟩ := h n List.mem_cons_self
    rw [Node.descendantsAll, if_pos helement, List.filter_append, List.filter_cons, hinside,
      List.filter_cons, ih fun m hm => h m (List.mem_cons_of_mem _ hm)]
    split <;> rfl

/-- An element whose name and classes are of a kind. -/
def isOfKind (kind : String → List String → Bool) : Node → Bool
  | .element name classes _ => kind name classes
  | _ => false

theorem isNamed_eq (name : String) :
    (fun n : Node => n.isNamed name) = isOfKind fun own _ => own = name := by
  funext n
  cases n <;> rfl

theorem hasClass_eq (c : String) :
    (fun n : Node => n.hasClass c) = isOfKind fun _ classes => classes.contains c := by
  funext n
  cases n <;> rfl

theorem filter_map_kind {kind : String → List String → Bool} {α : Type} {node : α → Node}
    (xs : List α) {b : Bool} (h : ∀ x, isOfKind kind (node x) = b) :
    (xs.map node).filter (isOfKind kind) = if b then xs.map node else [] := by
  induction xs with
  | nil => cases b <;> rfl
  | cons x xs ih =>
    rw [List.map_cons, List.filter_cons, h x, ih]
    cases b <;> rfl

/-- **The elements of a rule page** that are of a kind which neither the outline
of the page nor the parts in blocks and lists have. -/
theorem filter_elements (p : RulePage) {kind : String → List String → Bool}
    (houtline : ∀ name ∈ ["html", "head", "body"], kind name [] = false)
    (hparts : ∀ part ∈ [Part.label, .item, .term, .definition],
      kind part.name (Html.classesOf part.attributes) = false) :
    (Document.parse p.write).elements.filter (isOfKind kind) =
      (if kind "h1" [] then [leafNode .heading p.title] else []) ++
        ((if kind "div" ["field"] then p.blocks.map blockNode else []) ++
          if kind "dl" [] then p.lists.map listNode else []) := by
  have hleaf : ∀ {first other : Part} {g : PageGroup},
      first ∈ [Part.label, .item, .term, .definition] →
      other ∈ [Part.label, .item, .term, .definition] →
      ∀ n ∈ groupNodes first other g, ¬ isOfKind kind n = true := by
    intro first other g hfirst hother n hn
    obtain ⟨part, s, hpart, rfl⟩ := mem_groupNodes hn
    have hpart : part ∈ [Part.label, .item, .term, .definition] := by
      rcases hpart with rfl | rfl
      · exact hfirst
      · exact hother
    exact Bool.eq_false_iff.1 (hparts part hpart)
  have hbody : ∀ n ∈ p.bodyNodes,
      n.isElement = true ∧ n.descendants.filter (isOfKind kind) = [] := by
    intro n hn
    rcases List.mem_cons.1 hn with rfl | hn
    · have hinside : (leafNode .heading p.title).descendants = [] :=
        Html.NodeTable.descendantsAll_textNodes _
      rw [hinside]
      exact ⟨rfl, rfl⟩
    · rcases List.mem_append.1 hn with hn | hn
      · obtain ⟨g, -, rfl⟩ := List.mem_map.1 hn
        rw [descendants_blockNode]
        exact ⟨rfl, List.filter_eq_nil_iff.2 (hleaf (by decide) (by decide))⟩
      · obtain ⟨gs, -, rfl⟩ := List.mem_map.1 hn
        rw [descendants_listNode]
        refine ⟨rfl, List.filter_eq_nil_iff.2 fun n hn => ?_⟩
        obtain ⟨g, -, hn⟩ := List.mem_flatMap.1 hn
        exact hleaf (by decide) (by decide) n hn
  have hblock : ∀ g, isOfKind kind (blockNode g) = kind "div" ["field"] := fun _ => rfl
  have hlist : ∀ gs, isOfKind kind (listNode gs) = kind "dl" [] := fun _ => rfl
  have hheading : isOfKind kind (leafNode .heading p.title) = kind "h1" [] := rfl
  have hshape : (Document.parse p.write).elements =
      .element "html" [] [.element "head" [] [], .element "body" [] p.bodyNodes] ::
        .element "head" [] [] :: .element "body" [] p.bodyNodes ::
          Node.descendantsAll p.bodyNodes := by
    unfold write
    rw [Html.parse_page p.plainAll_trees, Html.pageNode, readAll_trees]
    simp [Node.descendantsAll, Node.descendants, Node.isElement]
  have hnot : ∀ name ∈ ["html", "head", "body"], ∀ children,
      ¬ isOfKind kind (.element name [] children) = true :=
    fun name hname children => Bool.eq_false_iff.1 (houtline name hname)
  rw [hshape, List.filter_cons_of_neg (hnot _ (by decide) _),
    List.filter_cons_of_neg (hnot _ (by decide) _), List.filter_cons_of_neg (hnot _ (by decide) _),
    filter_descendantsAll hbody, bodyNodes, List.filter_cons, List.filter_append,
    filter_map_kind _ hblock, filter_map_kind _ hlist, hheading]
  split <;> rfl

/-! ### Title -/

theorem textOf_leafNode (part : Part) (s : PageText) : textOf (leafNode part s) = s.shown := by
  have htexts : (leafNode part s).texts.flatMap Text.words = s.words := by
    rw [← s.words_uniform, leafNode, Node.texts]
    unfold textNodes
    by_cases hempty : (Html.normalizeLineEnds s.text.toList).isEmpty = true
    · rw [if_pos hempty, List.isEmpty_iff.1 hempty]
      rfl
    · rw [if_neg hempty]
      simp [Node.textsAll, Node.texts]
  unfold textOf PageText.shown
  rw [htexts]

/-- The title is the text of the only heading. -/
theorem title?_eq (p : RulePage) : title? (Document.parse p.write) =
    if p.title.words = [] then none else some p.title.shown := by
  have hheadings : (Document.parse p.write).elements.filter (·.isNamed "h1") =
      [leafNode .heading p.title] := by
    rw [isNamed_eq, p.filter_elements (by decide) (by decide)]
    rfl
  have htitles : (Document.parse p.write).elements.filter (·.isNamed "title") = [] := by
    rw [isNamed_eq, p.filter_elements (by decide) (by decide)]
    rfl
  unfold title? firstText?
  rw [hheadings, htitles, List.map_singleton, textOf_leafNode]
  unfold nonempty
  by_cases hwords : p.title.words = []
  · rw [if_pos hwords, p.title.shown_eq_empty.2 hwords]
    rfl
  · have hshown : p.title.shown ≠ "" := fun h => hwords (p.title.shown_eq_empty.1 h)
    rw [if_neg hwords]
    simp [hshown]

/-! ### Fields -/

theorem shown_leafNodes (part : Part) (values : List PageText) :
    (values.map (leafNode part)).map textOf = values.map (·.shown) := by
  rw [List.map_map]
  exact List.map_congr_left fun v _ => textOf_leafNode part v

/-- What is read from a block: its label and its values. -/
theorem blockPair?_blockNode (g : PageGroup) :
    blockPair? (blockNode g) = some (g.label.shown, joinValues g.shownValues) := by
  have hlabel : (groupNodes .label .item g).find? (·.hasClass "field__label") =
      some (leafNode .label g.label) := rfl
  have hitems : (groupNodes .label .item g).filter (·.hasClass "field__item") =
      g.values.map (leafNode .item) := by
    have hlabel : (leafNode .label g.label).hasClass "field__item" = false := rfl
    rw [groupNodes, List.filter_cons_of_neg (by rw [hlabel]; exact Bool.false_ne_true)]
    refine List.filter_eq_self.2 fun n hn => ?_
    obtain ⟨v, -, rfl⟩ := List.mem_map.1 hn
    rfl
  unfold blockPair?
  rw [descendants_blockNode, hlabel, hitems, shown_leafNodes, nonempty_shown, Option.map_some,
    textOf_leafNode]
  rfl

theorem blockPairs_eq (p : RulePage) : blockPairs (Document.parse p.write) =
    p.blocks.map fun g => (g.label.shown, joinValues g.shownValues) := by
  have hblocks : (Document.parse p.write).elements.filter (·.hasClass "field") =
      p.blocks.map blockNode := by
    rw [hasClass_eq, p.filter_elements (by decide) (by decide)]
    exact List.append_nil _
  unfold blockPairs
  rw [hblocks, List.filterMap_map, ← List.filterMap_eq_map]
  exact congrArg (List.filterMap · p.blocks) (funext blockPair?_blockNode)

/-- Definitions go to the group under way. -/
theorem groupsFrom_definitions (rest : List Node) :
    ∀ (values : List PageText) (label : String) (found : List String),
      groupsFrom (some (label, found)) (values.map (leafNode .definition) ++ rest) =
        groupsFrom (some (label, found ++ nonempty (values.map (·.shown)))) rest
  | [], label, found => by simp [nonempty]
  | v :: values, label, found => by
    have hterm : ¬ (leafNode .definition v).isNamed "dt" = true := Bool.false_ne_true
    have hdefinition : (leafNode .definition v).isNamed "dd" = true := rfl
    have hnonempty : nonempty ((v :: values).map (·.shown)) =
        nonempty [v.shown] ++ nonempty (values.map (·.shown)) := by
      unfold nonempty
      rw [← List.filter_append]
      rfl
    rw [List.map_cons, List.cons_append, groupsFrom, if_neg hterm, if_pos hdefinition,
      textOf_leafNode, Option.map_some, groupsFrom_definitions rest values, hnonempty,
      List.append_assoc]

/-- Each term starts a group with the definitions after it. -/
theorem groupsFrom_groups : ∀ (gs : List PageGroup) (open? : Option (String × List String)),
    groupsFrom open? (gs.flatMap (groupNodes .term .definition)) =
      open?.toList ++ gs.map fun g => (g.label.shown, g.shownValues)
  | [], open? => by rw [List.flatMap_nil, groupsFrom, List.map_nil, List.append_nil]
  | g :: gs, open? => by
    have hterm : (leafNode .term g.label).isNamed "dt" = true := rfl
    rw [List.flatMap_cons, groupNodes, List.cons_append, groupsFrom, if_pos hterm,
      groupsFrom_definitions, groupsFrom_groups gs, textOf_leafNode, nonempty_shown]
    rfl

/-- What is read from a definition list: its groups that have a value. -/
theorem listPairs_listNode (gs : List PageGroup) : listPairs (listNode gs) =
    ((gs.map fun g => (g.label.shown, g.shownValues)).filter (!·.2.isEmpty)).map
      fun (label, values) => (label, joinValues values) := by
  unfold listPairs
  rw [listNode, Node.children, groupsFrom_groups]
  rfl

theorem definitionPairs_eq (p : RulePage) : definitionPairs (Document.parse p.write) =
    p.lists.flatMap fun gs => listPairs (listNode gs) := by
  have hlists : (Document.parse p.write).elements.filter (·.isNamed "dl") =
      p.lists.map listNode := by
    rw [isNamed_eq, p.filter_elements (by decide) (by decide)]
    rfl
  unfold definitionPairs
  rw [hlists, List.flatMap_map]

end RulePage

/-! ### Usable pairs -/

/-- The field of a label and a value, if neither is empty. -/
def usable? (pair : String × String) : Option (String × String) :=
  if fieldKey pair.1 ≠ "" ∧ pair.2 ≠ "" then some (fieldKey pair.1, pair.2) else none

theorem usablePairs_eq_filterMap (d : Document) :
    usablePairs d = (blockPairs d ++ definitionPairs d).filterMap usable? := by
  unfold usablePairs
  generalize blockPairs d ++ definitionPairs d = pairs
  induction pairs with
  | nil => rfl
  | cons pair pairs ih =>
    obtain ⟨label, value⟩ := pair
    rw [List.map_cons, List.filter_cons, ih, List.filterMap_cons]
    unfold usable?
    by_cases h : fieldKey label ≠ "" ∧ value ≠ ""
    · rw [if_pos (by simpa using h), if_pos h]
    · rw [if_neg (by simpa using h), if_neg h]

/-- Values that are not empty are not empty when they are joined. -/
theorem joinValues_eq_empty {values : List String} (h : ∀ v ∈ values, v ≠ "") :
    joinValues values = "" ↔ values = [] := by
  constructor
  · intro hjoin
    rcases values with _ | ⟨v, _ | ⟨w, values⟩⟩
    · rfl
    · exact absurd hjoin (h v List.mem_cons_self)
    · -- what stands between the values is there
      unfold joinValues at hjoin
      rw [← String.toList_inj, String.toList_intercalate] at hjoin
      simp [List.intercalate] at hjoin
  · rintro rfl
    rfl

theorem PageGroup.shownValues_ne (g : PageGroup) : ∀ v ∈ g.shownValues, v ≠ "" := by
  intro v hv
  obtain ⟨s, hs, rfl⟩ := List.mem_map.1 hv
  have hwords : s.words ≠ [] := by simpa using (List.mem_filter.1 hs).2
  exact fun h => hwords (s.shown_eq_empty.1 h)

/-- The pair that is read for a group is usable if the group has a field. -/
theorem PageGroup.usable?_eq (g : PageGroup) :
    usable? (g.label.shown, joinValues g.shownValues) = g.field? := by
  have hjoin := joinValues_eq_empty g.shownValues_ne
  unfold usable? field?
  dsimp only
  rw [g.label.fieldKey_shown]
  by_cases hkey : fieldKey g.label.text = ""
  · rw [if_neg (fun h => h.1 hkey), if_pos (.inl hkey)]
  · by_cases hvalues : g.shownValues = []
    · rw [if_neg (fun h => h.2 (hjoin.2 hvalues)), if_pos (.inr hvalues)]
    · rw [if_pos ⟨hkey, fun h => hvalues (hjoin.1 h)⟩, if_neg (not_or.2 ⟨hkey, hvalues⟩)]
      rfl

namespace RulePage

theorem filterMap_listPairs (gs : List PageGroup) :
    (listPairs (listNode gs)).filterMap usable? = gs.filterMap (·.field?) := by
  rw [listPairs_listNode]
  induction gs with
  | nil => rfl
  | cons g gs ih =>
    rw [List.map_cons, List.filter_cons, List.filterMap_cons]
    by_cases hvalues : g.shownValues = []
    · have hentry : g.field? = none := by
        unfold PageGroup.field?
        rw [if_pos (.inr hvalues)]
      rw [hentry, if_neg (by simp [hvalues]), ih]
    · rw [if_pos (by simp [hvalues]), List.map_cons, List.filterMap_cons, ih]
      dsimp only
      rw [g.usable?_eq]

/-- **The fields that are read from a rule page are those of its groups**, blocks
before lists. -/
theorem usablePairs_eq (p : RulePage) : usablePairs (Document.parse p.write) =
    (p.blocks ++ p.lists.flatten).filterMap (·.field?) := by
  have hblocks :
      (p.blocks.map fun g => (g.label.shown, joinValues g.shownValues)).filterMap usable? =
        p.blocks.filterMap (·.field?) := by
    rw [List.filterMap_map]
    simp only [Function.comp_def, PageGroup.usable?_eq]
  have hlists : (p.lists.flatMap fun gs => listPairs (listNode gs)).filterMap usable? =
      p.lists.flatten.filterMap (·.field?) := by
    induction p.lists with
    | nil => rfl
    | cons gs lists ih =>
      rw [List.flatMap_cons, List.filterMap_append, ih, filterMap_listPairs, List.flatten_cons,
        List.filterMap_append]
  rw [usablePairs_eq_filterMap, p.blockPairs_eq, p.definitionPairs_eq, List.filterMap_append,
    List.filterMap_append, hblocks, hlists]

end RulePage

/-- **A rule page is read as it was written.** Whatever its texts are, the title
is that of the page with its words one space apart, or none if it has no word.
The text under a key is that of the first group with this key, blocks before
lists: the values that are not blank, joined. Groups without a key or without
such a value count for nothing. -/
theorem extract_write (p : RulePage) (url now : String) :
    (extract url p.write now).title = (if p.title.words = [] then none else some p.title.shown) ∧
    ∀ key, (extract url p.write now).fields.get? key =
      ((p.blocks ++ p.lists.flatten).filterMap (·.field?)).lookup key := by
  unfold extract recordOf
  dsimp only
  rw [p.title?_eq, p.usablePairs_eq]
  exact ⟨rfl, get?_firstWins _⟩

end RuleHarvest
