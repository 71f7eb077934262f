/-
# Building pages from written trees

While the tags of plain trees are taken in the builder stays in the body of the
page, with nothing to reopen and nothing to foster (`Builder.Steady`), and the
open elements are parts inside parts (`Nested`). In such a state a start tag
opens its element and no more, an end tag closes the innermost element and no
more, and a run of text becomes one text node. So a tree that is taken in adds
its rows to the node table (`run_write`), and a page made of trees is read as
these trees (`parse_page`).

Key definitions: `Nested`, `Builder.Steady`, `page`.
Key theorems: `Builder.Steady.opening`, `Builder.Steady.closing`,
`Builder.Steady.text`, `run_write`, `parse_page`.
-/
import RuleHarvest.Proofs.Html.Layout

namespace RuleHarvest
namespace Html

/-! ### Open elements -/

/-- The open elements inside the body: parts in parts, the innermost one first.
-/
inductive Nested : List OpenElement → Option Part → Prop where
  | body : Nested [⟨3, .html, "body"⟩, ⟨1, .html, "html"⟩] none
  | part {stack outer id p} (inside : Nested stack outer) :
    Nested (⟨id, .html, p.name⟩ :: stack) (some p)

namespace Nested

variable {stack : List OpenElement} {outer : Option Part}

theorem exists_cons (h : Nested stack outer) : ∃ e rest, stack = e :: rest ∧ e.family = .html := by
  cases h with
  | body => exact ⟨_, _, rfl, rfl⟩
  | part _ => exact ⟨_, _, rfl, rfl⟩

/-- No paragraph is open. -/
theorem no_paragraph (h : Nested stack outer) :
    inScope (·.boundsButtonScope) (·.isNamed "p") stack = false := by
  induction h with
  | body => rfl
  | @part stack outer id p _ ih =>
    have hname : (OpenElement.mk id .html p.name).isNamed "p" = false := by cases p <;> rfl
    rw [inScope, if_neg (by simpa using hname)]
    split
    · rfl
    · exact ih

/-- No heading is innermost unless the outer part is one. -/
theorem no_heading (h : Nested stack outer) (houter : outer ≠ some .heading) :
    stack.head?.any (·.isOneOf headingNames) = false := by
  cases h with
  | body => rfl
  | @part stack _ id p _ =>
    cases p with
    | heading => exact absurd rfl houter
    | block | label | item | list | term | definition => rfl

/-- In a list there is no term or definition to close. -/
theorem no_item (h : Nested stack (some .list)) :
    inScope (fun e => e.isOneOf specialNames && !e.isOneOf ["address", "div", "p"])
      (·.isOneOf ["dd", "dt"]) stack = false := by
  cases h
  rfl

end Nested

/-! ### Steady states -/

namespace Builder

/-- The builder is in the body of the page and waits for plain content. -/
structure Steady (b : Builder) (t : NodeTable) (stack : List OpenElement) : Prop where
  table : b.table = t
  stack : b.stack = stack
  mode : b.mode = .inBody
  formatting : b.formatting = []
  fostering : b.fostering = false
  skipLineFeed : b.skipLineFeed = false
  model : b.model = .markup

variable {b : Builder} {t : NodeTable} {stack : List OpenElement} {outer : Option Part}
  {e : OpenElement} {p : Part}

/-- An event that is dealt with at once. -/
theorem feed_of_done {b' : Builder} {event : Event} (h : b.step event = .done b') :
    b.feed event = b' := by
  unfold feed
  rw [feedRounds, h]

namespace Steady

theorem isForeign (h : b.Steady t stack) (hn : Nested stack outer) : b.isForeign = false := by
  obtain ⟨e, rest, rfl, he⟩ := hn.exists_cons
  unfold Builder.isForeign current?
  rw [h.stack]
  simp [he]

/-- In a steady state the rules of the body count. -/
theorem step (h : b.Steady t stack) (hn : Nested stack outer) (event : Event) :
    b.step event = b.inBody event := by
  obtain ⟨e, rest, rfl, he⟩ := hn.exists_cons
  have hforeign : b.followsForeign event = false := by
    unfold followsForeign current?
    rw [h.stack]
    simp [he]
  unfold Builder.step byMode
  rw [hforeign, h.mode]
  rfl

theorem fresh (h : b.Steady t stack) : Steady { b with skipLineFeed := false } t stack :=
  ⟨h.table, h.stack, h.mode, h.formatting, h.fostering, rfl, h.model⟩

theorem forbidFrameset (h : b.Steady t stack) : b.forbidFrameset.Steady t stack :=
  ⟨h.table, h.stack, h.mode, h.formatting, h.fostering, h.skipLineFeed, h.model⟩

theorem closeParagraphInScope (h : b.Steady t stack) (hn : Nested stack outer) :
    b.closeParagraphInScope = b := by
  unfold Builder.closeParagraphInScope
  rw [h.stack, hn.no_paragraph]
  rfl

theorem reopenFormatting (h : b.Steady t stack) : b.reopenFormatting = b := by
  unfold Builder.reopenFormatting
  rw [h.formatting]
  rfl

/-- Nothing is fostered. -/
theorem place (h : b.Steady t stack) (target : OpenElement) :
    b.place target = .lastChildOf target.id := by
  unfold Builder.place
  rw [h.fostering]
  rfl

/-! ### Start tags -/

/-- A new element goes to the end of the innermost one and is open. -/
theorem insertElement (h : b.Steady t (e :: stack)) (he : e.id < t.size) (tag : Tag) :
    (b.insertElement tag).Steady
      (t.grow e.id [t.size]
        [{ kind := .element .html tag.name tag.attributes, parent := some e.id }])
      (⟨t.size, .html, tag.name⟩ :: e :: stack) := by
  have hcurrent : ∀ table, ({ b with table } : Builder).current? = some e := by
    intro table
    unfold current?
    rw [h.stack]
    rfl
  have hplace : ∀ table, ({ b with table } : Builder).place e = .lastChildOf e.id := by
    intro table
    unfold Builder.place
    rw [h.fostering]
    rfl
  have hinsert : b.insertElement tag = { b with
      table := (b.table.add (.element .html tag.name tag.attributes)).append e.id b.table.size
      stack := ⟨b.table.size, .html, tag.name⟩ :: b.stack } := by
    unfold Builder.insertElement openForeign create putHere
    dsimp only
    rw [hcurrent]
    dsimp only
    rw [hplace]
    rfl
  rw [hinsert, h.table, h.stack, NodeTable.append_new _ he]
  exact ⟨rfl, rfl, h.mode, h.formatting, h.fostering, h.skipLineFeed, h.model⟩

/-- The start tag of a part opens the part and does nothing else. -/
theorem bodyStart (h : b.Steady t (e :: stack)) (hn : Nested (e :: stack) outer)
    (hp : p.goesIn outer = true) (he : e.id < t.size) :
    (b.bodyStart p.tag).Steady
      (t.grow e.id [t.size] [{ kind := .element .html p.name p.attributes, parent := some e.id }])
      (⟨t.size, .html, p.name⟩ :: e :: stack) := by
  have hparagraph := h.closeParagraphInScope hn
  have hinsert := h.insertElement he p.tag
  -- a new term or definition ends the one before, but inside a list there is none
  have hitem (hlist : outer = some .list) :
      (b.insertItem p.tag ["dd", "dt"]).Steady
        (t.grow e.id [t.size] [{ kind := .element .html p.name p.attributes, parent := some e.id }])
        (⟨t.size, .html, p.name⟩ :: e :: stack) := by
    subst hlist
    have hclose : b.forbidFrameset.closeItem ["dd", "dt"] = b.forbidFrameset := by
      have hnone := hn.no_item
      rw [← h.stack] at hnone
      exact if_neg (Bool.eq_false_iff.1 hnone)
    unfold insertItem
    rw [hclose, h.forbidFrameset.closeParagraphInScope hn]
    exact h.forbidFrameset.insertElement he p.tag
  cases p with
  | block | label | item | list =>
    change (b.closeParagraphInScope.insertElement _).Steady _ _
    rw [hparagraph]
    exact hinsert
  | heading =>
    have hheading : b.current?.any (·.isOneOf headingNames) = false := by
      have hnone := hn.no_heading (by simpa [Part.goesIn] using hp)
      rw [← h.stack] at hnone
      exact hnone
    change (b.insertHeading _).Steady _ _
    unfold insertHeading
    rw [hparagraph]
    dsimp only
    rw [hheading]
    exact hinsert
  | term | definition => exact hitem (by simpa [Part.goesIn] using hp)

/-- **A start tag opens its element.** -/
theorem opening (h : b.Steady t (e :: stack)) (hn : Nested (e :: stack) outer)
    (hp : p.goesIn outer = true) (he : e.id < t.size) :
    (b.take (.startTag p.tag)).Steady
      (t.grow e.id [t.size] [{ kind := .element .html p.name p.attributes, parent := some e.id }])
      (⟨t.size, .html, p.name⟩ :: e :: stack) := by
  have hfeed : ({ b with skipLineFeed := false } : Builder).feed (.startTag p.tag) =
      ({ b with skipLineFeed := false } : Builder).bodyStart p.tag :=
    feed_of_done (h.fresh.step hn (.startTag p.tag))
  unfold Builder.take
  dsimp only
  rw [hfeed]
  exact h.fresh.bodyStart hn hp he

/-! ### End tags -/

/-- The end tag of the innermost part closes the part and does nothing else. -/
theorem bodyEnd {id : Nat} (hstack : b.stack = ⟨id, .html, p.name⟩ :: stack) :
    b.bodyEnd p.name = .done { b with stack } := by
  cases b
  simp only at hstack
  subst hstack
  cases p <;> rfl

/-- **An end tag closes the innermost element.** -/
theorem closing {id : Nat} (h : b.Steady t (⟨id, .html, p.name⟩ :: stack))
    (hn : Nested (⟨id, .html, p.name⟩ :: stack) (some p)) :
    (b.take (.endTag p.name)).Steady t stack := by
  have hfeed : ({ b with skipLineFeed := false } : Builder).feed (.endTag p.name) =
      { b with skipLineFeed := false, stack } :=
    feed_of_done ((h.fresh.step hn (.endTag p.name)).trans (bodyEnd h.fresh.stack))
  unfold Builder.take
  dsimp only
  rw [hfeed]
  exact ⟨h.table, rfl, h.mode, h.formatting, h.fostering, rfl, h.model⟩

/-! ### Text -/

/-- A character goes to the end of the innermost element. -/
theorem char (h : b.Steady t (e :: stack)) (hn : Nested (e :: stack) outer) {c : Char}
    (hc : c ≠ '\x00') : (b.feed (.char c)).Steady (t.appendChar e.id c) (e :: stack) := by
  have hinsert : ∀ {b : Builder}, b.Steady t (e :: stack) →
      (b.insertChar c).Steady (t.appendChar e.id c) (e :: stack) := by
    intro b h
    have hcurrent : b.current? = some e := by
      unfold current?
      rw [h.stack]
      rfl
    unfold insertChar
    rw [hcurrent]
    dsimp only
    rw [h.place e, h.table]
    exact ⟨rfl, h.stack, h.mode, h.formatting, h.fostering, h.skipLineFeed, h.model⟩
  have hfeed : b.feed (.char c) = b.bodyChar c := feed_of_done (h.step hn (.char c))
  rw [hfeed, bodyChar, if_neg hc, h.reopenFormatting]
  dsimp only
  by_cases hspace : isSpace c = true
  · rw [if_pos hspace]
    exact hinsert h
  · rw [if_neg hspace]
    exact hinsert h.forbidFrameset

/-- Characters after the first are added to the text that it began. -/
theorem feedText_more (hn : Nested (e :: stack) outer) (he : e.id < t.size) :
    ∀ (more : List Char) {b : Builder} {text : List Char},
      b.Steady (t.grow e.id [t.size] (Tree.textRows e.id text)) (e :: stack) → text ≠ [] →
      '\x00' ∉ more →
      (b.feedText more).Steady (t.grow e.id [t.size] (Tree.textRows e.id (text ++ more)))
        (e :: stack)
  | [], b, text, h, _, _ => by
    rw [List.append_nil]
    exact h
  | c :: more, b, text, h, hne, hnull => by
    have hc : c ≠ '\x00' := fun hc => hnull (hc ▸ List.mem_cons_self)
    have hfirst := h.char hn hc
    rw [NodeTable.appendChar_more he hne] at hfirst
    have hrest := feedText_more hn he more hfirst (by simp)
      fun hmem => hnull (List.mem_cons_of_mem _ hmem)
    rw [List.append_assoc, List.singleton_append] at hrest
    exact hrest

/-- **A run of text becomes one text node.** -/
theorem text (h : b.Steady t (e :: stack)) (hn : Nested (e :: stack) outer) (he : e.id < t.size)
    (hopen : t.EndsOpen e.id) {text : List Char} (hne : text ≠ []) (hnull : '\x00' ∉ text) :
    (b.take (.text text)).Steady
      (t.grow e.id (Tree.textIds t.size text) (Tree.textRows e.id text)) (e :: stack) := by
  obtain ⟨c, more, rfl⟩ := List.exists_cons_of_ne_nil hne
  have hc : c ≠ '\x00' := fun hc => hnull (hc ▸ List.mem_cons_self)
  have hfirst := h.fresh.char hn hc
  rw [NodeTable.appendChar_new he hopen] at hfirst
  unfold Builder.take
  dsimp only
  rw [h.skipLineFeed]
  exact feedText_more hn he more hfirst (by simp) fun hmem => hnull (List.mem_cons_of_mem _ hmem)

end Steady

/-! ### Runs -/

theorem run_skip (b : Builder) (xs rest : List Char) :
    b.run xs.length (xs ++ rest) = b.run 0 rest := by
  induction xs with
  | nil => rfl
  | cons x xs ih => exact ih

/-- A lexeme is taken in, and the page goes on after it. -/
theorem run_lexeme {token : Token} {xs rest : List Char} (hne : xs ≠ [])
    (h : lex b.model b.isForeign (xs ++ rest) = ⟨some token, xs.length⟩) :
    b.run 0 (xs ++ rest) = (b.take token).run 0 rest := by
  obtain ⟨x, xs, rfl⟩ := List.exists_cons_of_ne_nil hne
  rw [List.cons_append] at h ⊢
  rw [run, h]
  exact run_skip _ xs rest

end Builder

/-! ### Trees -/

open Builder Html.Tree

variable {b : Builder} {t : NodeTable} {stack : List OpenElement} {outer : Option Part}
  {e : OpenElement}

theorem lex_opening (p : Part) (rest : List Char) : lex .markup false (p.opening.toList ++ rest) =
    ⟨some (.startTag p.tag), p.opening.toList.length⟩ := by
  cases p <;> rfl

theorem lex_closing (p : Part) (rest : List Char) : lex .markup false (p.closing.toList ++ rest) =
    ⟨some (.endTag p.name), p.closing.toList.length⟩ := by
  cases p <;> rfl

theorem run_opening (h : b.Steady t stack) (hn : Nested stack outer) (p : Part) (rest : List Char) :
    b.run 0 (p.opening.toList ++ rest) = (b.take (.startTag p.tag)).run 0 rest := by
  refine run_lexeme (by cases p <;> decide) ?_
  rw [h.model, h.isForeign hn, lex_opening]

theorem run_closing (h : b.Steady t stack) (hn : Nested stack outer) (p : Part) (rest : List Char) :
    b.run 0 (p.closing.toList ++ rest) = (b.take (.endTag p.name)).run 0 rest := by
  refine run_lexeme (by cases p <;> decide) ?_
  rw [h.model, h.isForeign hn, lex_closing]

/-- A written text is taken in. An empty one does nothing. -/
theorem run_text (h : b.Steady t (e :: stack)) (hn : Nested (e :: stack) outer) (he : e.id < t.size)
    (hopen : t.EndsOpen e.id) {text : List Char} (hnull : '\x00' ∉ text) :
    ∃ b' : Builder,
      b'.Steady (t.grow e.id (textIds t.size text) (textRows e.id text)) (e :: stack) ∧
      ∀ rest, (∃ cs, rest = '<' :: cs) → b.run 0 (escape text ++ rest) = b'.run 0 rest := by
  rcases text with _ | ⟨c, text⟩
  · refine ⟨b, ?_, fun rest _ => rfl⟩
    change b.Steady (t.grow e.id [] []) _
    rw [NodeTable.grow_nil]
    exact h
  · have hne : c :: text ≠ [] := List.cons_ne_nil c text
    refine ⟨_, h.text hn he hopen hne hnull, ?_⟩
    rintro _ ⟨cs, rfl⟩
    have hescape : escape (c :: text) ≠ [] := by
      rw [escape_cons]
      exact List.append_ne_nil_of_left_ne_nil (escapeChar_ne_nil c) _
    refine run_lexeme hescape ?_
    rw [h.model, lex_escape hne]

mutual

/-- **A written tree adds its rows to the table.** -/
theorem run_write : ∀ {tree : Tree} {b : Builder} {t : NodeTable} {e : OpenElement}
    {stack : List OpenElement} {outer : Option Part}, Nested (e :: stack) outer →
    b.Steady t (e :: stack) → e.id < t.size → tree.Plain outer →
    ∃ b' : Builder, b'.Steady (t.grow e.id [t.size] (tree.rows t.size e.id)) (e :: stack) ∧
      ∀ rest, b.run 0 (tree.write ++ rest) = b'.run 0 rest
  | .node part text children, b, t, e, stack, outer, hn, h, he, hplain => by
    rw [Plain] at hplain
    obtain ⟨hpart, hnull, hchildren⟩ := hplain
    have hn' : Nested (⟨t.size, .html, part.name⟩ :: e :: stack) (some part) := .part hn
    have hsize : ∀ rows ids row, ((t.grow e.id [t.size] [row]).grow t.size ids rows).size =
        t.size + 1 + rows.length := fun rows ids row => by
      rw [NodeTable.size_grow, NodeTable.size_grow, List.length_singleton]
    have hopened := h.opening hn hpart he
    obtain ⟨b₂, htext, hruntext⟩ :=
      run_text hopened hn' (by simp) (NodeTable.endsOpen_grow _ _) hnull
    obtain ⟨b₃, hinner, hruninner⟩ := run_writeAll hn' htext (by rw [hsize]; simp; omega) hchildren
    refine ⟨b₃.take (.endTag part.name), ?_, fun rest => ?_⟩
    · have hclosed := hinner.closing hn'
      rw [NodeTable.grow_grow (by simp), NodeTable.grow_inside, hsize, NodeTable.size_grow,
        List.length_singleton, length_textRows t.size 0] at hclosed
      rw [Tree.rows]
      simpa only [NodeRow.gain, Array.empty_append] using hclosed
    · have htag : ∃ cs, writeAll children ++ (part.closing.toList ++ rest) = '<' :: cs := by
        obtain ⟨cs, hcs⟩ := closing_eq part
        exact exists_writeAll_append children ⟨cs ++ rest, by rw [hcs, List.cons_append]⟩
      rw [Tree.write]
      simp only [List.append_assoc]
      rw [run_opening h hn, hruntext _ htag, hruninner, run_closing hinner hn']

/-- Written trees one after the other. -/
theorem run_writeAll : ∀ {trees : List Tree} {b : Builder} {t : NodeTable} {e : OpenElement}
    {stack : List OpenElement} {outer : Option Part}, Nested (e :: stack) outer →
    b.Steady t (e :: stack) → e.id < t.size → PlainAll outer trees →
    ∃ b' : Builder,
      b'.Steady (t.grow e.id (roots t.size trees) (rowsAll t.size e.id trees)) (e :: stack) ∧
      ∀ rest, b.run 0 (writeAll trees ++ rest) = b'.run 0 rest
  | [], b, t, e, stack, _, _, h, _, _ => by
    refine ⟨b, ?_, fun rest => rfl⟩
    change b.Steady (t.grow e.id [] []) _
    rw [NodeTable.grow_nil]
    exact h
  | tree :: trees, b, t, e, _, _, hn, h, he, hplain => by
    rw [PlainAll] at hplain
    have hsize : (t.grow e.id [t.size] (tree.rows t.size e.id)).size = t.size + tree.size := by
      rw [NodeTable.size_grow, length_rows]
    obtain ⟨b₁, hfirst, hrunfirst⟩ := run_write hn h he hplain.1
    obtain ⟨b₂, hrest, hrunrest⟩ := run_writeAll hn hfirst (by omega) hplain.2
    refine ⟨b₂, ?_, fun rest => ?_⟩
    · rw [hsize, NodeTable.grow_grow he] at hrest
      exact hrest
    · rw [writeAll, List.append_assoc, hrunfirst, hrunrest]

end

/-! ### Pages -/

/-- The page of trees: they are the content of its body. -/
def page (trees : List Tree) : List Char :=
  "<html><body>".toList ++ (writeAll trees ++ "</body></html>".toList)

/-- The builder after the start tags of the page and of its body. -/
def bodyBuilder : Builder := ({} : Builder).run 0 "<html><body>".toList

/-- The node table of a page whose body is empty. -/
def bodyTable : NodeTable := #[
  { kind := .page, children := #[1] },
  { kind := .element .html "html" [], parent := some 0, children := #[2, 3] },
  { kind := .element .html "head" [], parent := some 1 },
  { kind := .element .html "body" [], parent := some 1 }]

theorem bodyBuilder_steady :
    bodyBuilder.Steady bodyTable [⟨3, .html, "body"⟩, ⟨1, .html, "html"⟩] :=
  ⟨rfl, rfl, rfl, rfl, rfl, rfl, rfl⟩

theorem run_page_start (rest : List Char) :
    ({} : Builder).run 0 ("<html><body>".toList ++ rest) = bodyBuilder.run 0 rest := by
  rfl

/-- The end tags of a page add nothing to it. -/
theorem run_page_end (h : b.Steady t [⟨3, .html, "body"⟩, ⟨1, .html, "html"⟩]) :
    ((b.run 0 "</body></html>".toList).take .finish).table = t := by
  obtain ⟨table, hstack, mode, formatting, fostering, skip, hmodel⟩ := h
  cases b
  simp only at *
  subst table hstack mode formatting fostering skip hmodel
  rfl

/-- The node table of a page of trees. -/
theorem build_page {trees : List Tree} (h : PlainAll none trees) :
    build (page trees) =
      bodyTable.grow 3 (roots 4 (uniformAll trees)) (rowsAll 4 3 (uniformAll trees)) := by
  have hlines : normalizeLineEnds (page trees) =
      "<html><body>".toList ++ (writeAll (uniformAll trees) ++ "</body></html>".toList) := by
    unfold page
    rw [normalizeLineEnds_of_no_cr (by decide), normalizeLineEnds_writeAll]
    rfl
  obtain ⟨b, hb, hrun⟩ := run_writeAll .body bodyBuilder_steady (by decide) (uniform_plainAll h)
  change ((({} : Builder).run 0 (normalizeLineEnds (page trees))).take .finish).table = _
  rw [hlines, run_page_start, hrun]
  exact run_page_end hb

/-- The document of a page of trees. -/
def pageNode (trees : List Tree) : Node :=
  .element "html" [] [.element "head" [] [], .element "body" [] (readAll trees)]

/-- The document of a table whose body holds trees. -/
theorem elements_of_body {t : NodeTable} {trees : List Tree} (hsize : t.size = sizeAll trees + 4)
    (hpage : t[0]? = some { kind := .page, children := #[1] })
    (hhtml : t[1]? =
      some { kind := .element .html "html" [], parent := some 0, children := #[2, 3] })
    (hhead : t[2]? = some { kind := .element .html "head" [], parent := some 1 })
    (hbody : t[3]? = some
      { kind := .element .html "body" [], parent := some 1, children := (roots 4 trees).toArray })
    (hrows : t.Holds 4 (rowsAll 4 3 trees)) :
    t.document.elements = Node.descendantsAll [pageNode trees] := by
  have hbodyNode : ∀ k, sizeAll trees ≤ k →
      t.node (k + 1) 3 = .element "body" [] (readAll trees) := by
    intro k hk
    rw [NodeTable.node, hbody]
    dsimp only
    rw [NodeTable.nodes_of_rows hrows hk]
    rfl
  have hheadNode : ∀ k, t.node (k + 1) 2 = .element "head" [] [] := by
    intro k
    rw [NodeTable.node, hhead]
    rfl
  have hhtmlNode : ∀ k, sizeAll trees ≤ k → t.node (k + 2) 1 = pageNode trees := by
    intro k hk
    rw [NodeTable.node, hhtml]
    change Node.element "html" [] [t.node (k + 1) 2, t.node (k + 1) 3] = _
    rw [hheadNode, hbodyNode k hk]
    rfl
  have h₀ : t.elementAt 0 = none := by
    unfold NodeTable.elementAt
    rw [hpage]
    rfl
  have h₁ : t.elementAt 1 = some (pageNode trees) := by
    unfold NodeTable.elementAt
    rw [hhtml, hsize, hhtmlNode _ (by omega)]
    rfl
  have h₂ : t.elementAt 2 = some (.element "head" [] []) := by
    unfold NodeTable.elementAt
    rw [hhead, hsize, hheadNode]
    rfl
  have h₃ : t.elementAt 3 = some (.element "body" [] (readAll trees)) := by
    unfold NodeTable.elementAt
    rw [hbody, hsize, hbodyNode _ (by omega)]
    rfl
  have hinner := NodeTable.elements_of_rowsAll hrows (by omega)
  have hrange : List.range t.size = [0, 1, 2, 3] ++ List.range' 4 (sizeAll trees) := by
    rw [hsize, Nat.add_comm, List.range_eq_range', ← List.range'_append_1]
    rfl
  change (List.range t.size).filterMap t.elementAt = _
  rw [hrange, List.filterMap_append, hinner]
  simp [h₀, h₁, h₂, h₃, pageNode, Node.descendantsAll, Node.descendants, Node.isElement]

/-- **A page is read as the trees that it was made of**, with uniform line ends. -/
theorem parse_page {trees : List Tree} (h : PlainAll none trees) :
    (Document.parse (String.ofList (page trees))).elements =
      Node.descendantsAll [pageNode (uniformAll trees)] := by
  unfold Document.parse
  rw [String.toList_ofList, build_page h]
  refine elements_of_body ?_ ?_ ?_ ?_ ?_ NodeTable.holds_grow
  · rw [NodeTable.size_grow, length_rowsAll, Nat.add_comm]
    rfl
  · rw [NodeTable.getElem?_grow_of_lt (by decide) (by decide)]
    rfl
  · rw [NodeTable.getElem?_grow_of_lt (by decide) (by decide)]
    rfl
  · rw [NodeTable.getElem?_grow_of_lt (by decide) (by decide)]
    rfl
  · rw [NodeTable.getElem?_grow_self (by decide)]
    simp [bodyTable, NodeRow.gain]

end Html
end RuleHarvest
