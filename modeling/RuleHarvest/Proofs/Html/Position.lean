/-
# Places in a node

A place in a node is the way down to it: the numbers of the children to go to,
from the outside in. One place is inside another when the other is a proper
prefix of it. So what a page only says by the order of its tags is said by
lists of numbers: which elements lie around a place (`Encloses`), which of them
is the innermost (`nearest?`), and which text nodes lie in it (`textsUnder`).

The places in a node, in order, are those of the nodes listed by `descendants`
and by `texts` (`map_at?_placesOf`, `texts_eq_filterMap`), so whatever is
selected from a node can be told by its place.

Key definitions: `Node.at?`, `Node.places`, `Node.placesOf`, `Node.textPlaces`,
`Node.textsUnder`, `Node.Encloses`, `Node.nearest?`.
Key theorems: `Node.mem_places_iff`, `Node.map_at?_placesOf`,
`Node.texts_eq_filterMap`, `Node.nearest?_eq_some_iff`,
`Node.exists_nearest_iff`, `Node.nodup_flatMap_textsUnder`.
-/
import Mathlib.Data.List.Nodup
import Mathlib.Data.List.Pairwise
import RuleHarvest.Html.Document

namespace RuleHarvest
namespace Html
namespace Node

variable {n m : Node} {c : String} {p q r : List Nat}

/-! ### Places -/

/-- The node at a place. -/
def at? : Node → List Nat → Option Node
  | n, [] => some n
  | n, i :: p => n.children[i]?.bind (at? · p)

theorem at?_append : ∀ (n : Node) (p q : List Nat), n.at? (p ++ q) = (n.at? p).bind (·.at? q)
  | _, [], _ => rfl
  | n, i :: p, q => by
    rw [List.cons_append, at?, at?, Option.bind_assoc]
    exact congrArg _ (funext fun m => at?_append m p q)

mutual

/-- The places in a node, each before those inside it. The node itself is the
first. -/
def places : Node → List (List Nat)
  | .element _ _ children => [] :: placesAll 0 children
  | .text _ => [[]]
  | .comment => [[]]

/-- The places in children that are numbered from `k` on. -/
def placesAll (k : Nat) : List Node → List (List Nat)
  | [] => []
  | n :: rest => (places n).map (k :: ·) ++ placesAll (k + 1) rest

end

/-- The places inside a node. -/
def inside (n : Node) : List (List Nat) := placesAll 0 n.children

theorem places_eq : ∀ n : Node, n.places = [] :: n.inside
  | .element _ _ _ => rfl
  | .text _ => rfl
  | .comment => rfl

/-- A place in one of some children. -/
theorem cons_mem_placesAll {i : Nat} : ∀ {k : Nat} {ns : List Node},
    i :: p ∈ placesAll k ns ↔ k ≤ i ∧ ∃ m, ns[i - k]? = some m ∧ p ∈ m.places
  | k, [] => by simp [placesAll]
  | k, n :: ns => by
    rw [placesAll, List.mem_append, cons_mem_placesAll (k := k + 1)]
    have hfirst : i :: p ∈ n.places.map (k :: ·) ↔ i = k ∧ p ∈ n.places := by
      rw [List.mem_map]
      constructor
      · rintro ⟨p', hp', hcons⟩
        obtain ⟨rfl, rfl⟩ := List.cons.inj hcons
        exact ⟨rfl, hp'⟩
      · rintro ⟨rfl, hp⟩
        exact ⟨p, hp, rfl⟩
    rw [hfirst]
    rcases Nat.lt_trichotomy i k with hlt | rfl | hgt
    · exact iff_of_false (by omega) (by omega)
    · rw [Nat.sub_self, List.getElem?_cons_zero, or_iff_left fun h => Nat.not_succ_le_self i h.1]
      simp
    · obtain ⟨j, rfl⟩ : ∃ j, i = k + 1 + j := ⟨i - (k + 1), by omega⟩
      have hindex : k + 1 + j - k = j + 1 := by omega
      have hrest : k + 1 + j - (k + 1) = j := by omega
      rw [hindex, hrest, List.getElem?_cons_succ]
      simp only [show k + 1 + j ≠ k by omega, false_and, false_or, Nat.le_add_right, true_and,
        show k ≤ k + 1 + j by omega]

/-- **The places in a node are those that have a node.** -/
theorem mem_places_iff : ∀ {n : Node} {p : List Nat}, p ∈ n.places ↔ ∃ m, n.at? p = some m
  | n, [] => by simp [places_eq, at?]
  | n, i :: p => by
    have hnil : i :: p ≠ [] := List.cons_ne_nil i p
    rw [places_eq, List.mem_cons, inside, cons_mem_placesAll, at?]
    simp only [hnil, false_or, Nat.zero_le, true_and, Nat.sub_zero, Option.bind_eq_some_iff]
    constructor
    · rintro ⟨child, hchild, hp⟩
      obtain ⟨m, hm⟩ := mem_places_iff.1 hp
      exact ⟨m, child, hchild, hm⟩
    · rintro ⟨m, child, hchild, hm⟩
      exact ⟨child, hchild, mem_places_iff.2 ⟨m, hm⟩⟩

mutual

theorem nodup_places : ∀ n : Node, n.places.Nodup
  | .element name classes children => by
    rw [places, List.nodup_cons]
    refine ⟨fun h => ?_, nodup_placesAll 0 children⟩
    exact nil_not_mem_placesAll 0 children h
  | .text _ => List.pairwise_singleton _ _
  | .comment => List.pairwise_singleton _ _

theorem nodup_placesAll (k : Nat) : ∀ ns : List Node, (placesAll k ns).Nodup
  | [] => List.nodup_nil
  | n :: ns => by
    rw [placesAll, List.nodup_append]
    refine ⟨(nodup_places n).map fun a b h => (List.cons.inj h).2, nodup_placesAll (k + 1) ns, ?_⟩
    rintro a ha b hb rfl
    obtain ⟨p, -, rfl⟩ := List.mem_map.1 ha
    exact absurd (cons_mem_placesAll.1 hb).1 (Nat.not_succ_le_self k)

theorem nil_not_mem_placesAll (k : Nat) : ∀ ns : List Node, [] ∉ placesAll k ns
  | [] => List.not_mem_nil
  | n :: ns => by
    rw [placesAll, List.mem_append, not_or]
    exact ⟨by simp, nil_not_mem_placesAll (k + 1) ns⟩

end

/-- The places that a place is a prefix of are the places in its node. -/
theorem filter_prefix_places : ∀ (n : Node) (p : List Nat), n.places.filter (p <+: ·) =
    ((n.at? p).map fun m => m.places.map (p ++ ·)).getD []
  | n, [] => by simp [at?]
  | n, i :: p => by
    have hchildren := filter_prefix_placesAll i p 0 n.children
    rw [if_pos (Nat.zero_le i), Nat.sub_zero] at hchildren
    rw [places_eq, List.filter_cons_of_neg (by simp), inside, hchildren, at?]
    rcases n.children[i]? with _ | child
    · rfl
    · dsimp only [Option.map_some, Option.getD_some, Option.bind_some]
      rw [filter_prefix_places child p]
      rcases child.at? p with _ | m
      · rfl
      · simp [Function.comp_def]
where
  filter_prefix_placesAll (i : Nat) (p : List Nat) : ∀ (k : Nat) (ns : List Node),
      (placesAll k ns).filter (i :: p <+: ·) =
        if k ≤ i then
          ((ns[i - k]?).map fun m => (m.places.filter (p <+: ·)).map (i :: ·)).getD []
        else []
    | k, [] => by simp [placesAll]
    | k, n :: ns => by
      rw [placesAll, List.filter_append, filter_prefix_placesAll i p (k + 1) ns, List.filter_map]
      rcases Nat.lt_trichotomy i k with hlt | rfl | hgt
      · have hnone : n.places.filter ((i :: p <+: ·) ∘ (k :: ·)) = [] := by
          simp [List.cons_prefix_cons, Nat.ne_of_lt hlt]
        rw [hnone, if_neg (by omega), if_neg (by omega)]
        rfl
      · have hsome : n.places.filter ((i :: p <+: ·) ∘ (i :: ·)) = n.places.filter (p <+: ·) := by
          simp [Function.comp_def, List.cons_prefix_cons]
        rw [hsome, if_neg (Nat.not_succ_le_self i), if_pos (Nat.le_refl i), Nat.sub_self]
        simp
      · have hnone : n.places.filter ((i :: p <+: ·) ∘ (k :: ·)) = [] := by
          simp [List.cons_prefix_cons, Nat.ne_of_gt hgt]
        obtain ⟨j, rfl⟩ : ∃ j, i = k + 1 + j := ⟨i - (k + 1), by omega⟩
        have hindex : k + 1 + j - k = j + 1 := by omega
        have hrest : k + 1 + j - (k + 1) = j := by omega
        rw [hnone, hindex, hrest, if_pos (by omega), if_pos (by omega), List.getElem?_cons_succ]
        rfl

/-! ### What is at the places -/

mutual

/-- A node and all nodes inside it, in order. -/
def nodes : Node → List Node
  | .element name classes children => .element name classes children :: nodesAll children
  | .text content => [.text content]
  | .comment => [.comment]

/-- The nodes of a list and all nodes inside them. -/
def nodesAll : List Node → List Node
  | [] => []
  | n :: rest => nodes n ++ nodesAll rest

end

/-- The content of a text node. -/
def content? : Node → Option (List Char)
  | .text content => some content.toList
  | _ => none

theorem nodes_eq : ∀ n : Node, n.nodes = n :: nodesAll n.children
  | .element _ _ _ => rfl
  | .text _ => rfl
  | .comment => rfl

mutual

theorem map_at?_places : ∀ n : Node, n.places.map n.at? = n.nodes.map some
  | .element name classes children => by
    have hchildren := map_at?_placesAll name classes [] children
    rw [places, nodes, List.map_cons, List.map_cons]
    exact congrArg (_ :: ·) hchildren
  | .text _ => rfl
  | .comment => rfl

/-- Children are numbered after those before them. -/
theorem map_at?_placesAll (name : String) (classes : List String) (before : List Node) :
    ∀ ns : List Node,
      (placesAll before.length ns).map (at? (.element name classes (before ++ ns))) =
        (nodesAll ns).map some
  | [] => rfl
  | n :: ns => by
    have hfirst : ∀ p, at? (.element name classes (before ++ n :: ns)) (before.length :: p) =
        n.at? p := by
      intro p
      rw [at?, children, List.getElem?_append_right (Nat.le_refl _), Nat.sub_self]
      rfl
    have hrest := map_at?_placesAll name classes (before ++ [n]) ns
    rw [List.length_append, List.length_singleton, List.append_assoc,
      List.singleton_append] at hrest
    rw [placesAll, nodesAll, List.map_append, List.map_append, hrest, List.map_map,
      ← map_at?_places n]
    exact congrArg (· ++ _) (List.map_congr_left fun p _ => hfirst p)

end

theorem map_at?_inside (n : Node) : n.inside.map n.at? = (nodesAll n.children).map some := by
  have h := map_at?_places n
  rw [places_eq, nodes_eq, List.map_cons, List.map_cons] at h
  exact (List.cons.inj h).2

mutual

theorem descendants_eq : ∀ n : Node, n.descendants = (nodesAll n.children).filter (·.isElement)
  | .element _ _ children => descendantsAll_eq children
  | .text _ => rfl
  | .comment => rfl

theorem descendantsAll_eq : ∀ ns : List Node,
    descendantsAll ns = (nodesAll ns).filter (·.isElement)
  | [] => rfl
  | n :: ns => by
    rw [descendantsAll, nodesAll, List.filter_append, ← descendantsAll_eq ns, nodes_eq,
      List.filter_cons, ← descendants_eq n]
    split
    · rfl
    · cases n with
      | element => contradiction
      | text | comment => rfl

end

mutual

theorem texts_eq : ∀ n : Node, n.texts = n.nodes.filterMap (·.content?)
  | .element _ _ children => textsAll_eq children
  | .text _ => rfl
  | .comment => rfl

theorem textsAll_eq : ∀ ns : List Node, textsAll ns = (nodesAll ns).filterMap (·.content?)
  | [] => rfl
  | n :: ns => by
    rw [textsAll, nodesAll, List.filterMap_append, ← texts_eq n, ← textsAll_eq ns]

end

theorem descendantsAll_children : ∀ n : Node, n.descendants = descendantsAll n.children
  | .element _ _ _ => rfl
  | .text _ => rfl
  | .comment => rfl

theorem descendantsAll_element (name : String) (classes : List String) (children ns : List Node) :
    descendantsAll (.element name classes children :: ns) =
      .element name classes children :: (descendantsAll children ++ descendantsAll ns) := rfl

theorem textsAll_children (h : n.isElement = true) : textsAll n.children = n.texts := by
  cases n with
  | element => rfl
  | text | comment => cases h

theorem textsAll_append (ns ms : List Node) : textsAll (ns ++ ms) = textsAll ns ++ textsAll ms := by
  induction ns with
  | nil => rfl
  | cons n ns ih => rw [List.cons_append, textsAll, ih, textsAll, List.append_assoc]

theorem isElement_of_hasClass (h : n.hasClass c = true) : n.isElement = true := by
  cases n with
  | element => rfl
  | text | comment => exact absurd h (by simp [hasClass])

theorem isElement_of_isNamed {name : String} (h : n.isNamed name = true) : n.isElement = true := by
  cases n with
  | element => rfl
  | text | comment => cases h

theorem mem_descendantsAll (h : n.isElement = true) :
    ∀ {ns : List Node}, n ∈ ns → n ∈ descendantsAll ns
  | m :: ns, hmem => by
    rw [descendantsAll]
    rcases List.mem_cons.1 hmem with rfl | hmem
    · simp [h]
    · exact List.mem_append_right _ (mem_descendantsAll h hmem)

/-- An element of the class is at the place. -/
def hasClassAt (n : Node) (c : String) (p : List Nat) : Bool := (n.at? p).any (·.hasClass c)

/-- The places of the elements of a class inside a node. -/
def placesOf (c : String) (n : Node) : List (List Nat) := n.inside.filter (n.hasClassAt c)

/-- **The elements of a class inside a node are at the places of the class.** -/
theorem map_at?_placesOf (c : String) (n : Node) :
    (n.placesOf c).map n.at? = (n.descendants.filter (·.hasClass c)).map some := by
  have hclass : ∀ m : Node, (m.hasClass c && m.isElement) = m.hasClass c := by
    intro m
    rw [Bool.eq_iff_iff, Bool.and_eq_true]
    exact and_iff_left_of_imp isElement_of_hasClass
  rw [placesOf, descendants_eq, List.filter_filter]
  simp only [hclass]
  have hinside := congrArg (List.filter (Option.any (·.hasClass c))) (map_at?_inside n)
  rw [List.filter_map, List.filter_map] at hinside
  exact hinside

/-! ### Texts -/

/-- The content of the text node at a place. -/
def contentAt? (n : Node) (p : List Nat) : Option (List Char) := (n.at? p).bind (·.content?)

/-- The places of the text nodes in a node. -/
def textPlaces (n : Node) : List (List Nat) := n.places.filter fun p => (n.contentAt? p).isSome

/-- The places of the text nodes in the node at a place. -/
def textsUnder (n : Node) (p : List Nat) : List (List Nat) := n.textPlaces.filter (p <+: ·)

/-- The text nodes in the node at a place are those whose place goes on from
there. -/
theorem mem_textsUnder_iff : q ∈ n.textsUnder p ↔
    (∃ content, n.at? q = some (.text content)) ∧ p <+: q := by
  rw [textsUnder, textPlaces, List.mem_filter, List.mem_filter, decide_eq_true_iff, mem_places_iff,
    contentAt?]
  refine and_congr_left fun _ => ⟨?_, ?_⟩
  · rintro ⟨⟨m, hm⟩, hcontent⟩
    rw [hm] at hcontent
    cases m with
    | text content => exact ⟨content, hm⟩
    | element | comment => cases hcontent
  · rintro ⟨content, hq⟩
    rw [hq]
    exact ⟨⟨_, rfl⟩, rfl⟩

theorem nodup_textsUnder (n : Node) (p : List Nat) : (n.textsUnder p).Nodup :=
  ((nodup_places n).filter _).filter _

/-- **The texts of a node in another one** are those at the places in it. -/
theorem texts_eq_filterMap (h : n.at? p = some m) :
    m.texts = (n.textsUnder p).filterMap n.contentAt? := by
  have hcontent : ∀ q, n.contentAt? (p ++ q) = m.contentAt? q := by
    intro q
    rw [contentAt?, at?_append, h]
    rfl
  have hnodes : m.nodes.filterMap (·.content?) = m.places.filterMap m.contentAt? := by
    have hmap := congrArg (List.filterMap fun found => found.bind content?) (map_at?_places m)
    rw [List.filterMap_map, List.filterMap_map] at hmap
    exact hmap.symm
  have hsome : (n.textsUnder p).filterMap n.contentAt? =
      (n.places.filter (p <+: ·)).filterMap n.contentAt? := by
    rw [textsUnder, textPlaces, List.filterMap_filter, List.filterMap_filter, List.filterMap_filter]
    congr 1
    funext q
    rcases n.contentAt? q with _ | content
    · simp
    · rfl
  rw [texts_eq, hnodes, hsome, filter_prefix_places, h, Option.map_some, Option.getD_some,
    List.filterMap_map]
  exact congrArg (List.filterMap · m.places) (funext fun q => (hcontent q).symm)

/-- **Several places have no text node in common** exactly when none of them is
inside another, if there is text in each. -/
theorem nodup_flatMap_textsUnder {ps : List (List Nat)} (hnodup : ps.Nodup)
    (htext : ∀ p ∈ ps, n.textsUnder p ≠ []) :
    (ps.flatMap n.textsUnder).Nodup ↔ ∀ p ∈ ps, ∀ q ∈ ps, p <+: q → p = q := by
  rw [List.nodup_flatMap]
  constructor
  · rintro ⟨-, hdisjoint⟩ p hp q hq hlead
    have hsymm : Std.Symm (Function.onFun List.Disjoint n.textsUnder) :=
      ⟨fun _ _ h => List.disjoint_comm.1 h⟩
    obtain ⟨t, ht⟩ := List.exists_mem_of_ne_nil _ (htext q hq)
    obtain ⟨htext, hunder⟩ := mem_textsUnder_iff.1 ht
    have ht' : t ∈ n.textsUnder p := mem_textsUnder_iff.2 ⟨htext, hlead.trans hunder⟩
    exact Decidable.byContradiction fun hne => hdisjoint.forall hp hq hne ht' ht
  · intro hapart
    refine ⟨fun p _ => nodup_textsUnder n p, hnodup.imp_of_mem fun hp hq hne t ht ht' => hne ?_⟩
    have hlead := (mem_textsUnder_iff.1 ht).2
    have hlead' := (mem_textsUnder_iff.1 ht').2
    rcases List.prefix_or_prefix_of_prefix hlead hlead' with h | h
    · exact hapart _ hp _ hq h
    · exact (hapart _ hq _ hp h).symm

/-! ### What lies around a place -/

/-- The element at the place `q` has the class, and the place `p` is inside it. -/
def Encloses (c : String) (n : Node) (q p : List Nat) : Prop :=
  n.hasClassAt c q = true ∧ q <+: p ∧ q ≠ p

/-- The innermost element of a class that a place is inside. -/
def nearest? (c : String) : Node → List Nat → Option (List Nat)
  | _, [] => none
  | n, i :: p =>
    match n.children[i]?.bind (nearest? c · p) with
    | some q => some (i :: q)
    | none => if n.hasClass c then some [] else none

theorem encloses_cons {i : Nat} : Encloses c n q (i :: p) ↔
    q = [] ∧ n.hasClass c = true ∨
      ∃ child r, n.children[i]? = some child ∧ q = i :: r ∧ Encloses c child r p := by
  unfold Encloses hasClassAt
  rcases q with _ | ⟨j, r⟩
  · simp [at?]
  · rw [List.cons_prefix_cons, at?]
    constructor
    · rintro ⟨hclass, ⟨rfl, hlead⟩, hne⟩
      rcases hchild : n.children[j]? with _ | child
      · rw [hchild] at hclass
        exact absurd hclass Bool.false_ne_true
      · rw [hchild] at hclass
        exact .inr ⟨child, r, rfl, rfl, hclass, hlead, fun h => hne (h ▸ rfl)⟩
    · rintro (⟨hnil, -⟩ | ⟨child, r', hchild, hr, hclass, hlead, hne⟩)
      · exact absurd hnil (List.cons_ne_nil j r)
      · obtain ⟨rfl, rfl⟩ := List.cons.inj hr
        rw [hchild]
        exact ⟨hclass, ⟨rfl, hlead⟩, fun h => hne (List.cons.inj h).2⟩

/-- What is found lies around the place and inside all else that does, and
nothing is found only if nothing lies around the place. -/
theorem nearest?_spec : ∀ {n : Node} {p : List Nat},
    (∀ q, nearest? c n p = some q →
      Encloses c n q p ∧ ∀ r, Encloses c n r p → r <+: q) ∧
    (nearest? c n p = none → ∀ r, ¬ Encloses c n r p)
  | n, [] => by
    have hnone : ∀ r, ¬ Encloses c n r [] := fun r h => h.2.2 (List.prefix_nil.1 h.2.1)
    exact ⟨fun q h => absurd h (Option.some_ne_none q).symm, fun _ => hnone⟩
  | n, i :: p => by
    rcases hinner : n.children[i]?.bind (nearest? c · p) with _ | q
    · -- in the child nothing lies around the place
      have hchild : ∀ r, Encloses c n r (i :: p) ↔ r = [] ∧ n.hasClass c = true := by
        intro r
        rw [encloses_cons, or_iff_left]
        rintro ⟨child, r, hchild, -, h⟩
        rw [hchild] at hinner
        exact nearest?_spec.2 hinner r h
      rw [nearest?, hinner]
      dsimp only
      by_cases hclass : n.hasClass c = true
      · rw [if_pos hclass]
        refine ⟨fun q hq => ?_, fun h => absurd h (Option.some_ne_none _)⟩
        obtain rfl := Option.some.inj hq
        refine ⟨(hchild []).2 ⟨rfl, hclass⟩, fun r hr => ?_⟩
        obtain ⟨rfl, -⟩ := (hchild r).1 hr
        exact List.nil_prefix
      · rw [if_neg hclass]
        exact ⟨fun q hq => absurd hq (Option.some_ne_none q).symm,
          fun _ r hr => hclass ((hchild r).1 hr).2⟩
    · obtain ⟨child, hchild, hq⟩ := Option.bind_eq_some_iff.1 hinner
      obtain ⟨haround, hinnermost⟩ := nearest?_spec.1 q hq
      rw [nearest?, hinner]
      refine ⟨fun q' hq' => ?_, fun h => absurd h (Option.some_ne_none _)⟩
      obtain rfl := Option.some.inj hq'
      refine ⟨encloses_cons.2 (.inr ⟨child, q, hchild, rfl, haround⟩), fun r hr => ?_⟩
      rcases encloses_cons.1 hr with ⟨rfl, -⟩ | ⟨child', r, hchild', rfl, hr⟩
      · exact List.nil_prefix
      · obtain rfl := Option.some.inj (hchild.symm.trans hchild')
        exact List.cons_prefix_cons.2 ⟨rfl, hinnermost r hr⟩

/-- **The nearest element of a class** is the one around the place that is
inside all the others. -/
theorem nearest?_eq_some_iff : nearest? c n p = some q ↔
    Encloses c n q p ∧ ∀ r, Encloses c n r p → r <+: q := by
  refine ⟨nearest?_spec.1 q, fun ⟨haround, hinnermost⟩ => ?_⟩
  rcases hfound : nearest? c n p with _ | q'
  · exact absurd haround (nearest?_spec.2 hfound q)
  · obtain ⟨haround', hinnermost'⟩ := nearest?_spec.1 q' hfound
    have hq := hinnermost q' haround'
    have hq' := hinnermost' q haround
    rw [hq.eq_of_length (Nat.le_antisymm hq.length_le hq'.length_le)]

/-- **Several places have the same nearest element of a class**, one of them
having any, exactly when each element that lies around one of them lies around
all. -/
theorem exists_nearest_iff {ps : List (List Nat)} (hp : p ∈ ps) (haround : Encloses c n r p) :
    (∃ q, ∀ p ∈ ps, nearest? c n p = some q) ↔
      ∀ q, (∃ p ∈ ps, Encloses c n q p) → ∀ p ∈ ps, Encloses c n q p := by
  constructor
  · rintro ⟨nearest, hnearest⟩ q ⟨p₁, hp₁, hq⟩ p₂ hp₂
    have hlead := (nearest?_eq_some_iff.1 (hnearest p₁ hp₁)).2 q hq
    obtain ⟨hnear, -⟩ := nearest?_eq_some_iff.1 (hnearest p₂ hp₂)
    refine ⟨hq.1, hlead.trans hnear.2.1, ?_⟩
    -- otherwise the nearest element would be the place itself
    rintro rfl
    exact hnear.2.2 (hnear.2.1.eq_of_length (Nat.le_antisymm hnear.2.1.length_le hlead.length_le))
  · intro hall
    rcases hfound : nearest? c n p with _ | q
    · exact absurd haround (nearest?_spec.2 hfound r)
    · obtain ⟨hq, hinnermost⟩ := nearest?_eq_some_iff.1 hfound
      refine ⟨q, fun p' hp' => nearest?_eq_some_iff.2 ⟨hall q ⟨p, hp, hq⟩ p' hp', fun r' hr' => ?_⟩⟩
      exact hinnermost r' (hall r' ⟨p', hp', hr'⟩ p hp)

end Node
end Html
end RuleHarvest
