/-
# Terms and their definitions

The children of a definition list are cut before each `dt`: first the nodes
before any `dt`, then groups that begin with a `dt` and have no other. A list of
nodes has one such cut (`cut_iff`). A definition list is read in one pass, with
the group under way as the only memory, and what comes out are the groups of the
cut, each with the texts of its `dd` that are not blank (`groupsFrom_eq`). So
there is one pair for each group that has such a `dd`, in the order of the
groups, and all else in the list could as well be missing
(`groupsFrom_append_uncounted`).

Key definitions: `isFilled`, `TermGroup`, `TermGroup.pair?`, `Cut`, `leadOf`,
`groupsOf`, `isCounted`.
Key theorems: `cut_iff`, `groupsFrom_eq`, `listPairs_eq`,
`flatMap_definitions`, `one_pair_per_term`.
-/
import RuleHarvest.Rule.Extract

namespace RuleHarvest

open Html (Node Document)

/-! ### Cuts -/

/-- A `dd` that is not blank. -/
def isFilled (n : Node) : Bool := n.isNamed "dd" && textOf n ≠ ""

/-- A term with the nodes after it, up to the next term. -/
structure TermGroup where
  term : Node
  body : List Node

namespace TermGroup

def nodes (g : TermGroup) : List Node := g.term :: g.body

/-- The definitions of the term that are not blank. -/
def definitions (g : TermGroup) : List Node := g.body.filter isFilled

/-- The pair of a term that has a definition. -/
def pair? (g : TermGroup) : Option (String × String) :=
  if g.definitions.isEmpty then none
  else some (textOf g.term, String.intercalate "; " (g.definitions.map textOf))

end TermGroup

/-- Nodes cut before each `dt`. -/
structure Cut (ns lead : List Node) (groups : List TermGroup) : Prop where
  nodes : ns = lead ++ groups.flatMap (·.nodes)
  lead : ∀ n ∈ lead, n.isNamed "dt" = false
  groups : ∀ g ∈ groups, g.term.isNamed "dt" = true ∧ ∀ n ∈ g.body, n.isNamed "dt" = false

/-- The nodes before the first term. -/
def leadOf (ns : List Node) : List Node := ns.takeWhile (!·.isNamed "dt")

/-- The groups of all terms. -/
def groupsOf : List Node → List TermGroup
  | [] => []
  | n :: ns => if n.isNamed "dt" then ⟨n, leadOf ns⟩ :: groupsOf ns else groupsOf ns

variable {ns lead body : List Node} {groups : List TermGroup} {n t : Node}

theorem leadOf_term (h : t.isNamed "dt" = true) : leadOf (t :: ns) = [] := by
  simp [leadOf, h]

theorem leadOf_other (h : n.isNamed "dt" = false) : leadOf (n :: ns) = n :: leadOf ns := by
  simp [leadOf, h]

theorem groupsOf_term (h : t.isNamed "dt" = true) :
    groupsOf (t :: ns) = ⟨t, leadOf ns⟩ :: groupsOf ns := by
  rw [groupsOf, if_pos h]

theorem groupsOf_other (h : n.isNamed "dt" = false) : groupsOf (n :: ns) = groupsOf ns := by
  simp [groupsOf, h]

theorem leadOf_append (h : ∀ n ∈ lead, n.isNamed "dt" = false) :
    leadOf (lead ++ ns) = lead ++ leadOf ns := by
  unfold leadOf
  apply List.takeWhile_append_of_pos
  simpa using h

theorem groupsOf_append (h : ∀ n ∈ lead, n.isNamed "dt" = false) :
    groupsOf (lead ++ ns) = groupsOf ns := by
  induction lead with
  | nil => rfl
  | cons n lead ih =>
    obtain ⟨hn, hlead⟩ := List.forall_mem_cons.1 h
    rw [List.cons_append, groupsOf_other hn, ih hlead]

/-- The lead and the groups are a cut. -/
theorem cut_groupsOf (ns : List Node) : Cut ns (leadOf ns) (groupsOf ns) := by
  induction ns with
  | nil => exact ⟨rfl, by simp [leadOf], by simp [groupsOf]⟩
  | cons n ns ih =>
    by_cases hn : n.isNamed "dt" = true
    · rw [leadOf_term hn, groupsOf_term hn]
      refine ⟨?_, by simp, ?_⟩
      · have hnodes : (⟨n, leadOf ns⟩ :: groupsOf ns).flatMap (·.nodes) =
            n :: (leadOf ns ++ (groupsOf ns).flatMap (·.nodes)) := rfl
        rw [hnodes, ← ih.nodes, List.nil_append]
      · exact List.forall_mem_cons.2 ⟨⟨hn, ih.lead⟩, ih.groups⟩
    · have hn : n.isNamed "dt" = false := by simpa using hn
      rw [leadOf_other hn, groupsOf_other hn]
      refine ⟨?_, List.forall_mem_cons.2 ⟨hn, ih.lead⟩, ih.groups⟩
      rw [List.cons_append, ← ih.nodes]

/-- Groups that each begin with their only term are found again. -/
theorem groupsOf_nodes :
    (∀ g ∈ groups, g.term.isNamed "dt" = true ∧ ∀ n ∈ g.body, n.isNamed "dt" = false) →
      leadOf (groups.flatMap (·.nodes)) = [] ∧ groupsOf (groups.flatMap (·.nodes)) = groups := by
  induction groups with
  | nil => exact fun _ => ⟨rfl, rfl⟩
  | cons g groups ih =>
    intro h
    obtain ⟨⟨hterm, hbody⟩, hgroups⟩ := List.forall_mem_cons.1 h
    obtain ⟨hlead, hrest⟩ := ih hgroups
    have hnodes : (g :: groups).flatMap (·.nodes) =
        g.term :: (g.body ++ groups.flatMap (·.nodes)) := rfl
    rw [hnodes, leadOf_term hterm, groupsOf_term hterm, leadOf_append hbody, hlead,
      List.append_nil, groupsOf_append hbody, hrest]
    exact ⟨rfl, rfl⟩

/-- **Nodes have one cut.** -/
theorem cut_iff : Cut ns lead groups ↔ lead = leadOf ns ∧ groups = groupsOf ns := by
  constructor
  · intro h
    obtain ⟨hlead, hgroups⟩ := groupsOf_nodes h.groups
    rw [h.nodes, leadOf_append h.lead, groupsOf_append h.lead, hlead, hgroups, List.append_nil]
    exact ⟨rfl, rfl⟩
  · rintro ⟨rfl, rfl⟩
    exact cut_groupsOf ns

/-! ### One pass -/

/-- A group under way takes the definitions before the next term. -/
def withDefinitions (open? : Option (String × List String)) (ns : List Node) :
    Option (String × List String) :=
  open?.map fun (label, values) => (label, values ++ (ns.filter isFilled).map textOf)

theorem withDefinitions_nil (open? : Option (String × List String)) :
    withDefinitions open? [] = open? := by
  cases open? <;> simp [withDefinitions]

/-- The text of a definition is what the group under way gets from it. -/
theorem nonempty_textOf (h : n.isNamed "dd" = true) :
    nonempty [textOf n] = ([n].filter isFilled).map textOf := by
  by_cases hblank : textOf n = ""
  · simp [nonempty, isFilled, hblank]
  · simp [nonempty, isFilled, hblank, h]

/-- **The groups that are read in one pass are those of the cut**, after the group
under way with the definitions before the first term. -/
theorem groupsFrom_eq : ∀ (ns : List Node) (open? : Option (String × List String)),
    groupsFrom open? ns = (withDefinitions open? (leadOf ns)).toList ++
      (groupsOf ns).map fun g => (textOf g.term, g.definitions.map textOf)
  | [], open? => by
    rw [groupsFrom, groupsOf, leadOf, List.takeWhile_nil, withDefinitions_nil, List.map_nil,
      List.append_nil]
  | n :: ns, open? => by
    by_cases hterm : n.isNamed "dt" = true
    · rw [groupsFrom, if_pos hterm, leadOf_term hterm, groupsOf_term hterm, withDefinitions_nil,
        groupsFrom_eq ns]
      rfl
    · have hother : n.isNamed "dt" = false := by simpa using hterm
      rw [leadOf_other hother, groupsOf_other hother, groupsFrom, if_neg hterm]
      by_cases hdefinition : n.isNamed "dd" = true
      · rw [if_pos hdefinition, groupsFrom_eq ns]
        have hmore : withDefinitions (open?.map fun (label, values) =>
            (label, values ++ nonempty [textOf n])) (leadOf ns) =
              withDefinitions open? (n :: leadOf ns) := by
          rw [nonempty_textOf hdefinition, withDefinitions, withDefinitions, Option.map_map]
          congr 1
          funext ⟨label, values⟩
          simp only [Function.comp_apply, List.append_assoc, ← List.map_append,
            ← List.filter_append, List.singleton_append]
        rw [hmore]
      · have hskip : withDefinitions open? (n :: leadOf ns) =
            withDefinitions open? (leadOf ns) := by
          simp [withDefinitions, isFilled, hdefinition]
        rw [if_neg hdefinition, groupsFrom_eq ns, hskip]

namespace TermGroup

theorem pair?_eq (g : TermGroup) : g.pair? =
    if (g.definitions.map textOf).isEmpty then none
    else some (textOf g.term, joinValues (g.definitions.map textOf)) := by
  rw [List.isEmpty_map]
  rfl

theorem isSome_pair? (g : TermGroup) : g.pair?.isSome = !g.definitions.isEmpty := by
  unfold pair?
  cases g.definitions.isEmpty <;> rfl

end TermGroup

/-- **A definition list makes the pairs of its groups.** -/
theorem listPairs_eq (list : Node) :
    listPairs list = (groupsOf list.children).filterMap (·.pair?) := by
  have hgroups : groupsFrom none list.children =
      (groupsOf list.children).map fun g => (textOf g.term, g.definitions.map textOf) :=
    groupsFrom_eq list.children none
  rw [listPairs, hgroups]
  induction groupsOf list.children with
  | nil => rfl
  | cons g groups ih =>
    rw [List.map_cons, List.filter_cons, List.filterMap_cons, g.pair?_eq]
    dsimp only
    by_cases hempty : (g.definitions.map textOf).isEmpty = true
    · rw [hempty, if_neg (by decide), if_pos rfl, ih]
    · rw [if_pos (by simpa using hempty), if_neg hempty, List.map_cons, ih]

/-! ### What counts -/

/-- A term is not a definition. -/
theorem isFilled_of_term (h : n.isNamed "dt" = true) : isFilled n = false := by
  cases n with
  | element name classes children =>
    have hname : name = "dt" := by simpa [Node.isNamed] using h
    simp [isFilled, Node.isNamed, hname]
  | text | comment => rfl

/-- **Each definition after the first term is in one group that makes a pair**, and
no other one is. -/
theorem flatMap_definitions (h : Cut ns lead groups) :
    (groups.filter (·.pair?.isSome)).flatMap (·.definitions) =
      (ns.drop lead.length).filter isFilled := by
  have hall : ∀ groups : List TermGroup, (∀ g ∈ groups, g.term.isNamed "dt" = true) →
      (groups.filter (·.pair?.isSome)).flatMap (·.definitions) =
        (groups.flatMap (·.nodes)).filter isFilled := by
    intro groups hterms
    induction groups with
    | nil => rfl
    | cons g groups ih =>
      obtain ⟨hg, hgroups⟩ := List.forall_mem_cons.1 hterms
      have hnodes : g.nodes.filter isFilled = g.definitions := by
        simp [TermGroup.nodes, TermGroup.definitions, isFilled_of_term hg]
      rw [List.flatMap_cons, List.filter_append, hnodes, ← ih hgroups, List.filter_cons,
        g.isSome_pair?]
      by_cases hempty : g.definitions = []
      · simp [hempty]
      · simp [hempty]
  have hdrop : ns.drop lead.length = groups.flatMap (·.nodes) := by
    rw [h.nodes, List.drop_left]
  rw [hdrop, hall groups fun g hg => (h.groups g hg).1]

/-- Terms, and definitions that are not blank. -/
def isCounted (n : Node) : Bool := n.isNamed "dt" || isFilled n

/-- A node that does not count leaves the group under way. -/
theorem groupsFrom_uncounted (h : isCounted n = false) (open? : Option (String × List String)) :
    groupsFrom open? (n :: ns) = groupsFrom open? ns := by
  obtain ⟨hterm, hfilled⟩ : n.isNamed "dt" = false ∧ isFilled n = false := by
    simpa [isCounted] using h
  rw [groupsFrom, if_neg (by simp [hterm])]
  by_cases hdefinition : n.isNamed "dd" = true
  · have hsame : (open?.map fun (label, values) => (label, values ++ nonempty [textOf n])) =
        open? := by
      rw [nonempty_textOf hdefinition]
      cases open? <;> simp [hfilled]
    rw [if_pos hdefinition, hsame]
  · rw [if_neg hdefinition]

/-- **What does not count could as well be missing.** -/
theorem groupsFrom_append_uncounted (h : isCounted n = false) (after : List Node) :
    ∀ (before : List Node) (open? : Option (String × List String)),
      groupsFrom open? (before ++ n :: after) = groupsFrom open? (before ++ after)
  | [], open? => groupsFrom_uncounted h open?
  | m :: before, open? => by
    rw [List.cons_append, List.cons_append, groupsFrom, groupsFrom]
    simp only [groupsFrom_append_uncounted h after before]

/-! ### Pairs -/

/-- **A definition list makes one pair for each term that has a definition.** The
nodes in it have one cut into what is before the first `dt` and a group for each
`dt`. The pairs are those of the groups, in order: the text of the `dt` with the
texts of the `dd` in the group that are not blank, joined, or no pair if there
is no such `dd`. So the `dd` behind the pairs are all that are not blank after
the first `dt`, each once and in order. A node that is neither a `dt` nor such a
`dd` can be taken out. -/
theorem one_pair_per_term :
    (∀ d : Document, definitionPairs d = (d.elements.filter (·.isNamed "dl")).flatMap fun list =>
      (groupsOf list.children).filterMap (·.pair?)) ∧
    (∀ ns lead groups, Cut ns lead groups ↔ lead = leadOf ns ∧ groups = groupsOf ns) ∧
    (∀ ns, ((groupsOf ns).filter (·.pair?.isSome)).flatMap (·.definitions) =
      (ns.drop (leadOf ns).length).filter isFilled) ∧
    ∀ name classes before n after, isCounted n = false →
      listPairs (.element name classes (before ++ n :: after)) =
        listPairs (.element name classes (before ++ after)) := by
  refine ⟨fun d => ?_, fun ns lead groups => cut_iff, fun ns => ?_, ?_⟩
  · rw [definitionPairs, funext listPairs_eq]
  · exact flatMap_definitions (cut_groupsOf ns)
  · intro name classes before n after hcounted
    have hgroups := groupsFrom_append_uncounted hcounted after before none
    simp only [listPairs, Node.children, hgroups]

-- a definition before any term, a blank one, a term without one and a comment
example :
    let term (text : String) : Node := .element "dt" [] [.text text]
    let definition (text : String) : Node := .element "dd" [] [.text text]
    listPairs (.element "dl" [] [definition "0", term "A", definition "1", definition " ",
      definition "2", term "B", .comment, term "C", definition "3"]) =
      [("A", "1; 2"), ("C", "3")] := by decide +kernel

end RuleHarvest
