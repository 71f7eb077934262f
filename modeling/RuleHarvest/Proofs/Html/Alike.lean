/-
# Nodes that differ in layout

The layout of a page is what it has besides elements and words: comments, text
nodes without a word, and the blanks around the words of all others. Nodes are
alike when they differ in nothing else. Their relation goes along the nodes of
both sides and leaves out silent ones on either (`Alike`).

The `tidy` form of nodes is what is left without their layout: silent nodes are
left out, and the words of a text stand one space apart. Nodes are alike exactly
when they have the same tidy form (`alike_iff`), so whether they are can be
computed, and a law about alike nodes needs only one tree to be followed.

Key definitions: `Node.isSilent`, `Alike`, `Node.tidy`.
Key theorems: `alike_iff`, `Node.descendantsAll_tidyAll`,
`Node.textsAll_tidyAll`, `Alike.flatMap_eq`, `alike_filter`.
-/
import RuleHarvest.Proofs.Html.Position
import RuleHarvest.Proofs.Text.Words

namespace RuleHarvest
namespace Html

open Text (words collapsed)

namespace Node

mutual

/-- Whether nodes are equal, along both. -/
def decEq : (n m : Node) → Decidable (n = m)
  | .element name classes children, .element name' classes' children' =>
    have := decEqAll children children'
    decidable_of_iff (name = name' ∧ classes = classes' ∧ children = children') (by simp)
  | .text content, .text content' => decidable_of_iff (content = content') (by simp)
  | .comment, .comment => .isTrue rfl
  | .element .., .text _ => .isFalse (by simp)
  | .element .., .comment => .isFalse (by simp)
  | .text _, .element .. => .isFalse (by simp)
  | .text _, .comment => .isFalse (by simp)
  | .comment, .element .. => .isFalse (by simp)
  | .comment, .text _ => .isFalse (by simp)

def decEqAll : (ns ms : List Node) → Decidable (ns = ms)
  | [], [] => .isTrue rfl
  | n :: ns, m :: ms =>
    have := decEq n m
    have := decEqAll ns ms
    decidable_of_iff (n = m ∧ ns = ms) (by simp)
  | [], _ :: _ => .isFalse (by simp)
  | _ :: _, [] => .isFalse (by simp)

end

instance : DecidableEq Node := decEq

/-- A comment, or a text without a word. -/
def isSilent : Node → Bool
  | .element .. => false
  | .text content => (words content.toList).isEmpty
  | .comment => true

end Node

open Node

variable {n : Node} {ns ms : List Node}

/-- Nodes with the same elements and the same words, up to silent nodes on either
side. -/
inductive Alike : List Node → List Node → Prop
  | nil : Alike [] []
  | element {name : String} {classes : List String} {children children' ns ms : List Node} :
    Alike children children' → Alike ns ms →
      Alike (.element name classes children :: ns) (.element name classes children' :: ms)
  | text {content content' : String} {ns ms : List Node} :
    words content.toList = words content'.toList → Alike ns ms →
      Alike (.text content :: ns) (.text content' :: ms)
  | skip_left {n : Node} {ns ms : List Node} : n.isSilent = true → Alike ns ms → Alike (n :: ns) ms
  | skip_right {n : Node} {ns ms : List Node} : n.isSilent = true → Alike ns ms → Alike ns (n :: ms)

namespace Node

/-! ### Tidy forms -/

mutual

/-- A node without its layout. -/
def tidy : Node → Node
  | .element name classes children => .element name classes (tidyAll children)
  | .text content => .text (collapsed content.toList)
  | .comment => .comment

/-- Nodes without their layout. -/
def tidyAll : List Node → List Node
  | [] => []
  | n :: ns => if n.isSilent then tidyAll ns else tidy n :: tidyAll ns

end

theorem tidyAll_silent (h : n.isSilent = true) (ns : List Node) :
    tidyAll (n :: ns) = tidyAll ns := by
  rw [tidyAll, if_pos h]

theorem tidyAll_shown (h : n.isSilent = false) (ns : List Node) :
    tidyAll (n :: ns) = tidy n :: tidyAll ns := by
  rw [tidyAll, if_neg (by simp [h])]

theorem tidyAll_append (ns ms : List Node) : tidyAll (ns ++ ms) = tidyAll ns ++ tidyAll ms := by
  induction ns with
  | nil => rfl
  | cons n ns ih =>
    rw [List.cons_append, tidyAll, tidyAll, ih]
    cases n.isSilent <;> rfl

@[simp] theorem isSilent_tidy (n : Node) : (tidy n).isSilent = n.isSilent := by
  cases n with
  | text content => rw [tidy, isSilent, isSilent, Text.words_collapsed]
  | element | comment => rfl

theorem tidyAll_eq_filter (ns : List Node) : tidyAll ns = (ns.map tidy).filter (!·.isSilent) := by
  induction ns with
  | nil => rfl
  | cons n ns ih =>
    rw [List.map_cons, List.filter_cons, isSilent_tidy, tidyAll, ih]
    cases n.isSilent <;> rfl

@[simp] theorem isNamed_tidy (n : Node) (name : String) :
    (tidy n).isNamed name = n.isNamed name := by
  cases n <;> rfl

@[simp] theorem hasClass_tidy (n : Node) (c : String) : (tidy n).hasClass c = n.hasClass c := by
  cases n <;> rfl

@[simp] theorem isElement_tidy (n : Node) : (tidy n).isElement = n.isElement := by
  cases n <;> rfl

@[simp] theorem children_tidy (n : Node) : (tidy n).children = tidyAll n.children := by
  cases n <;> rfl

/-- Of texts with the same words both are silent or none. -/
theorem isSilent_text_congr {content content' : String}
    (h : words content.toList = words content'.toList) :
    (text content).isSilent = (text content').isSilent := by
  rw [isSilent, isSilent, h]

end Node

/-! ### One form for alike nodes -/

theorem Alike.tidyAll_eq (h : Alike ns ms) : tidyAll ns = tidyAll ms := by
  induction h with
  | nil => rfl
  | element _ _ hchildren hrest =>
    rw [tidyAll_shown rfl, tidyAll_shown rfl, tidy, tidy, hchildren, hrest]
  | text hwords _ hrest =>
    rw [tidyAll, tidyAll, isSilent_text_congr hwords, tidy, tidy, Text.collapsed_inj.2 hwords,
      hrest]
  | skip_left hsilent _ hrest => rw [tidyAll_silent hsilent, hrest]
  | skip_right hsilent _ hrest => rw [tidyAll_silent hsilent, hrest]

/-- Nodes with the same tidy form are alike, by recursion on both sides: silent
nodes are left out until a node stands on both. -/
theorem alike_of_tidyAll_eq : ∀ ns ms : List Node, tidyAll ns = tidyAll ms → Alike ns ms
  | [], [], _ => .nil
  | n :: ns, [], h => by
    by_cases hn : n.isSilent = true
    · rw [tidyAll_silent hn] at h
      exact .skip_left hn (alike_of_tidyAll_eq ns [] h)
    · rw [tidyAll_shown (by simpa using hn)] at h
      cases h
  | [], m :: ms, h => by
    by_cases hm : m.isSilent = true
    · rw [tidyAll_silent hm] at h
      exact .skip_right hm (alike_of_tidyAll_eq [] ms h)
    · rw [tidyAll_shown (by simpa using hm)] at h
      cases h
  | n :: ns, m :: ms, h => by
    by_cases hn : n.isSilent = true
    · rw [tidyAll_silent hn] at h
      exact .skip_left hn (alike_of_tidyAll_eq ns (m :: ms) h)
    by_cases hm : m.isSilent = true
    · rw [tidyAll_silent hm] at h
      exact .skip_right hm (alike_of_tidyAll_eq (n :: ns) ms h)
    rw [tidyAll_shown (by simpa using hn), tidyAll_shown (by simpa using hm)] at h
    obtain ⟨hfirst, hrest⟩ := List.cons.inj h
    have hrest := alike_of_tidyAll_eq ns ms hrest
    cases n with
    | element name classes children =>
      cases m with
      | element name' classes' children' =>
        obtain ⟨rfl, rfl, hchildren⟩ := Node.element.inj hfirst
        exact .element (alike_of_tidyAll_eq children children' hchildren) hrest
      | text | comment => cases hfirst
    | text content =>
      cases m with
      | text content' => exact .text (Text.collapsed_inj.1 (Node.text.inj hfirst)) hrest
      | element | comment => cases hfirst
    | comment => exact absurd rfl hn
termination_by ns ms => sizeOf ns + sizeOf ms

/-- **Nodes are alike exactly when they have the same tidy form.** -/
theorem alike_iff : Alike ns ms ↔ tidyAll ns = tidyAll ms :=
  ⟨Alike.tidyAll_eq, alike_of_tidyAll_eq ns ms⟩

instance (ns ms : List Node) : Decidable (Alike ns ms) := decidable_of_iff _ alike_iff.symm

theorem alike_equivalence : Equivalence Alike where
  refl _ := alike_iff.2 rfl
  symm h := alike_iff.2 (alike_iff.1 h).symm
  trans h h' := alike_iff.2 ((alike_iff.1 h).trans (alike_iff.1 h'))

/-! ### What alike nodes share -/

namespace Node

/-- What is read node by node, and nothing from silent ones, is read from the tidy
form. -/
theorem flatMap_tidyAll {α : Type} {f : Node → List α}
    (hsilent : ∀ n, n.isSilent = true → f n = []) (htidy : ∀ n, f (tidy n) = f n)
    (ns : List Node) : (tidyAll ns).flatMap f = ns.flatMap f := by
  induction ns with
  | nil => rfl
  | cons n ns ih =>
    by_cases hn : n.isSilent = true
    · rw [tidyAll_silent hn, List.flatMap_cons, hsilent n hn, List.nil_append, ih]
    · rw [tidyAll_shown (by simpa using hn), List.flatMap_cons, List.flatMap_cons, htidy, ih]

theorem words_texts_of_isSilent (h : n.isSilent = true) : n.texts.flatMap words = [] := by
  cases n with
  | element => cases h
  | text content => simpa [texts, isSilent] using h
  | comment => rfl

theorem isElement_of_isSilent (h : n.isSilent = true) : n.isElement = false := by
  cases n with
  | element => cases h
  | text | comment => rfl

theorem isNamed_of_isSilent (h : n.isSilent = true) (name : String) : n.isNamed name = false := by
  cases n with
  | element => cases h
  | text | comment => rfl

mutual

/-- The words in a node are those in its tidy form. -/
theorem texts_tidy : ∀ n : Node, (tidy n).texts.flatMap words = n.texts.flatMap words
  | .element _ _ children => textsAll_tidyAll children
  | .text content => by simp [tidy, texts]
  | .comment => rfl

/-- **The words in nodes are those in their tidy form.** -/
theorem textsAll_tidyAll : ∀ ns : List Node,
    (textsAll (tidyAll ns)).flatMap words = (textsAll ns).flatMap words
  | [] => rfl
  | n :: ns => by
    have ih := textsAll_tidyAll ns
    by_cases hn : n.isSilent = true
    · rw [tidyAll_silent hn, textsAll, List.flatMap_append, words_texts_of_isSilent hn,
        List.nil_append, ih]
    · rw [tidyAll_shown (by simpa using hn), textsAll, textsAll, List.flatMap_append,
        List.flatMap_append, texts_tidy n, ih]

end

mutual

theorem descendants_tidy : ∀ n : Node, (tidy n).descendants = n.descendants.map tidy
  | .element _ _ children => descendantsAll_tidyAll children
  | .text _ => rfl
  | .comment => rfl

/-- **The elements of nodes are, without layout, those of their tidy form.** -/
theorem descendantsAll_tidyAll : ∀ ns : List Node,
    descendantsAll (tidyAll ns) = (descendantsAll ns).map tidy
  | [] => rfl
  | n :: ns => by
    have ih := descendantsAll_tidyAll ns
    by_cases hn : n.isSilent = true
    · rw [tidyAll_silent hn, descendantsAll, isElement_of_isSilent hn, ih]
      rfl
    · rw [tidyAll_shown (by simpa using hn), descendantsAll, descendantsAll, isElement_tidy,
        descendants_tidy n, ih, List.map_append]
      cases n.isElement <;> rfl

end

end Node

/-- What is read node by node is the same from alike nodes. -/
theorem Alike.flatMap_eq (h : Alike ns ms) {α : Type} {f : Node → List α}
    (hsilent : ∀ n, n.isSilent = true → f n = []) (htidy : ∀ n, f (tidy n) = f n) :
    ns.flatMap f = ms.flatMap f := by
  rw [← flatMap_tidyAll hsilent htidy ns, alike_iff.1 h, flatMap_tidyAll hsilent htidy]

/-- **Alike nodes have the same elements** but for layout, in the same order. -/
theorem Alike.map_tidy_descendantsAll (h : Alike ns ms) :
    (descendantsAll ns).map tidy = (descendantsAll ms).map tidy := by
  rw [← descendantsAll_tidyAll, alike_iff.1 h, descendantsAll_tidyAll]

/-- Of nodes that are alike one by one, those of one kind are alike, if layout
does not matter for the kind. -/
theorem alike_filter {kind : Node → Bool} (hkind : ∀ n, kind (tidy n) = kind n)
    (h : ns.map tidy = ms.map tidy) : Alike (ns.filter kind) (ms.filter kind) := by
  have hmap : ∀ ls : List Node, (ls.filter kind).map tidy = (ls.map tidy).filter kind := by
    intro ls
    have hcomp : kind ∘ tidy = kind := funext hkind
    rw [List.filter_map, hcomp]
  rw [alike_iff, tidyAll_eq_filter, tidyAll_eq_filter, hmap, hmap, h]

end Html
end RuleHarvest
