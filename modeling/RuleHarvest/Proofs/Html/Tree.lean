/-
# Pages written from trees

A tree of the parts that a rule page is made of, written as tags and text. A
part begins with its own text and goes on with the parts in it. Where a part
may stand is limited so that no tag is taken to close more than its own
element (`Part.goesIn`): headings do not nest, and terms and definitions stand
in lists.

Key definitions: `Part`, `Tree`, `Tree.write`, `Tree.read`, `Tree.Plain`,
`Tree.uniform`.
Key theorems: `Tree.normalizeLineEnds_writeAll`, `Tree.uniform_plainAll`.
-/
import RuleHarvest.Html.Document
import RuleHarvest.Proofs.Html.Escape

namespace RuleHarvest
namespace Html

/-! ### Parts -/

/-- The parts of a rule page. -/
inductive Part where
  | heading
  | block
  | label
  | item
  | list
  | term
  | definition
deriving Repr, DecidableEq

namespace Part

def name : Part → String
  | heading => "h1"
  | block | label | item => "div"
  | list => "dl"
  | term => "dt"
  | definition => "dd"

def attributes : Part → List Attribute
  | block => [⟨"class", "field"⟩]
  | label => [⟨"class", "field__label"⟩]
  | item => [⟨"class", "field__item"⟩]
  | heading | list | term | definition => []

def tag (p : Part) : Tag := { name := p.name, attributes := p.attributes }

/-- The start tag of a part. -/
def opening : Part → String
  | heading => "<h1>"
  | block => "<div class=\"field\">"
  | label => "<div class=\"field__label\">"
  | item => "<div class=\"field__item\">"
  | list => "<dl>"
  | term => "<dt>"
  | definition => "<dd>"

/-- The end tag of a part. -/
def closing : Part → String
  | heading => "</h1>"
  | block | label | item => "</div>"
  | list => "</dl>"
  | term => "</dt>"
  | definition => "</dd>"

/-- Where a part may stand: in another part, or in the body of the page. -/
def goesIn (outer : Option Part) : Part → Bool
  | heading => outer ≠ some heading
  | term | definition => outer = some list
  | block | label | item | list => true

end Part

/-! ### Trees -/

/-- A part with its text and the parts in it. -/
inductive Tree where
  | node (part : Part) (text : List Char) (children : List Tree)

namespace Tree

mutual

/-- A tree as it is written in a page. -/
def write : Tree → List Char
  | node part text children =>
    part.opening.toList ++ (escape text ++ (writeAll children ++ part.closing.toList))

/-- The trees of a list, one after the other. -/
def writeAll : List Tree → List Char
  | [] => []
  | t :: ts => write t ++ writeAll ts

end

/-- The node of a text, which is none if the text is empty. -/
def textNodes (text : List Char) : List Node :=
  if text.isEmpty then [] else [.text (String.ofList text)]

mutual

/-- A tree as a node of a document. -/
def read : Tree → Node
  | node part text children =>
    .element part.name (classesOf part.attributes) (textNodes text ++ readAll children)

def readAll : List Tree → List Node
  | [] => []
  | t :: ts => read t :: readAll ts

end

mutual

/-- Every part stands where it may, and no text has the character U+0000, which
a page cannot show. -/
def Plain (outer : Option Part) : Tree → Prop
  | node part text children =>
    part.goesIn outer = true ∧ '\x00' ∉ text ∧ PlainAll (some part) children

def PlainAll (outer : Option Part) : List Tree → Prop
  | [] => True
  | t :: ts => Plain outer t ∧ PlainAll outer ts

end

mutual

/-- A tree with the line ends of all texts made uniform. -/
def uniform : Tree → Tree
  | node part text children => node part (normalizeLineEnds text) (uniformAll children)

def uniformAll : List Tree → List Tree
  | [] => []
  | t :: ts => uniform t :: uniformAll ts

end

/-! ### Line ends -/

theorem opening_no_cr (p : Part) : '\r' ∉ p.opening.toList := by
  cases p <;> decide

theorem closing_no_cr (p : Part) : '\r' ∉ p.closing.toList := by
  cases p <;> decide

theorem opening_eq (p : Part) : ∃ cs, p.opening.toList = '<' :: cs := by
  cases p <;> exact ⟨_, rfl⟩

theorem closing_eq (p : Part) : ∃ cs, p.closing.toList = '<' :: cs := by
  cases p <;> exact ⟨_, rfl⟩

/-- What follows a text in a page begins with a tag. -/
theorem exists_writeAll_append (ts : List Tree) {rest : List Char} (h : ∃ cs, rest = '<' :: cs) :
    ∃ cs, writeAll ts ++ rest = '<' :: cs := by
  rcases ts with _ | ⟨⟨part, text, children⟩, ts⟩
  · exact h
  · obtain ⟨cs, hcs⟩ := opening_eq part
    refine ⟨cs ++ (escape text ++ (writeAll children ++ part.closing.toList)) ++ writeAll ts ++ rest,
      ?_⟩
    rw [writeAll, write, hcs]
    simp

theorem normalizeLineEnds_tag {s rest : List Char} (h : ∃ cs, rest = '<' :: cs) :
    normalizeLineEnds (escape s ++ rest) =
      escape (normalizeLineEnds s) ++ normalizeLineEnds rest := by
  obtain ⟨cs, rfl⟩ := h
  have hhead : ('<' :: cs).head? ≠ some '\n' := by
    change some '<' ≠ some '\n'
    decide
  rw [normalizeLineEnds_append hhead, normalizeLineEnds_escape]

mutual

theorem normalizeLineEnds_write (rest : List Char) :
    ∀ t : Tree, normalizeLineEnds (write t ++ rest) = write (uniform t) ++ normalizeLineEnds rest
  | node part text children => by
    have hclosing := normalizeLineEnds_of_no_cr (closing_no_cr part) rest
    have hchildren := normalizeLineEnds_writeAll (part.closing.toList ++ rest) children
    have htag : ∃ cs, writeAll children ++ (part.closing.toList ++ rest) = '<' :: cs := by
      refine exists_writeAll_append children ?_
      obtain ⟨cs, hcs⟩ := closing_eq part
      exact ⟨cs ++ rest, by rw [hcs, List.cons_append]⟩
    rw [uniform, write, write]
    simp only [List.append_assoc]
    rw [normalizeLineEnds_of_no_cr (opening_no_cr part), normalizeLineEnds_tag htag, hchildren,
      hclosing]

/-- **Line ends made uniform are the same before and after trees are written.** -/
theorem normalizeLineEnds_writeAll (rest : List Char) : ∀ ts : List Tree,
    normalizeLineEnds (writeAll ts ++ rest) = writeAll (uniformAll ts) ++ normalizeLineEnds rest
  | [] => rfl
  | t :: ts => by
    rw [writeAll, uniformAll, writeAll, List.append_assoc, List.append_assoc,
      normalizeLineEnds_write (writeAll ts ++ rest) t, normalizeLineEnds_writeAll rest ts]

end

theorem mem_normalizeLineEnds {c : Char} (hc : c ≠ '\n') (s : List Char)
    (h : c ∈ normalizeLineEnds s) :
    c ∈ s := by
  induction s using normalizeLineEnds.induct with
  | case1 => exact h
  | case2 cs ih =>
    rw [normalizeLineEnds] at h
    exact List.mem_cons_of_mem _ (List.mem_cons_of_mem _ (ih ((List.mem_cons.1 h).resolve_left hc)))
  | case3 cs hcs ih =>
    rw [normalizeLineEnds.eq_3 cs hcs] at h
    exact List.mem_cons_of_mem _ (ih ((List.mem_cons.1 h).resolve_left hc))
  | case4 d cs _ hd ih =>
    rw [normalizeLineEnds_cons hd] at h
    rcases List.mem_cons.1 h with rfl | h
    · exact List.mem_cons_self
    · exact List.mem_cons_of_mem _ (ih h)

mutual

theorem uniform_plain {outer : Option Part} : ∀ {t : Tree}, Plain outer t → Plain outer (uniform t)
  | node part text children, h => by
    rw [Plain] at h
    rw [uniform, Plain]
    obtain ⟨hpart, htext, hchildren⟩ := h
    exact ⟨hpart, fun hc => htext (mem_normalizeLineEnds (by decide) text hc),
      uniform_plainAll hchildren⟩

/-- Uniform line ends bring no U+0000 into a tree. -/
theorem uniform_plainAll {outer : Option Part} :
    ∀ {ts : List Tree}, PlainAll outer ts → PlainAll outer (uniformAll ts)
  | [], h => h
  | t :: ts, h => by
    rw [PlainAll] at h
    rw [uniformAll, PlainAll]
    exact ⟨uniform_plain h.1, uniform_plainAll h.2⟩

end

end Tree
end Html
end RuleHarvest
