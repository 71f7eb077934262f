/-
# The elements of a page

What is read from a page: its elements, each with its name, its classes and
its content. `Document.elements` lists all of them in the order in which they
were made; an element that was moved later keeps its place in the list. For a
page whose tags nest well this is the order of the start tags.

Key definitions: `Node`, `Node.descendants`, `Document`, `Document.parse`.
-/
import RuleHarvest.Html.Page
import RuleHarvest.Text.Blank

namespace RuleHarvest
namespace Html

/-- A node of a page. -/
inductive Node where
  | element (name : String) (classes : List String) (children : List Node)
  | text (content : String)
  | comment
deriving Repr

namespace Node

/-- The node is an element of this name. -/
def isNamed (n : Node) (name : String) : Bool :=
  match n with
  | .element own _ _ => own = name
  | _ => false

/-- The node is an element of this class. -/
def hasClass (n : Node) (c : String) : Bool :=
  match n with
  | .element _ classes _ => classes.contains c
  | _ => false

def isElement : Node → Bool
  | .element .. => true
  | _ => false

def children : Node → List Node
  | .element _ _ children => children
  | _ => []

mutual

/-- All elements inside a node, in the order of their start tags. -/
def descendants : Node → List Node
  | .element _ _ children => descendantsAll children
  | .text _ => []
  | .comment => []

/-- The elements of a list of nodes and all elements inside them. -/
def descendantsAll : List Node → List Node
  | [] => []
  | n :: rest => (if n.isElement then n :: descendants n else []) ++ descendantsAll rest

end

mutual

/-- The text nodes inside a node, in order. -/
def texts : Node → List (List Char)
  | .element _ _ children => textsAll children
  | .text content => [content.toList]
  | .comment => []

/-- The text nodes of a list of nodes. -/
def textsAll : List Node → List (List Char)
  | [] => []
  | n :: rest => texts n ++ textsAll rest

end

end Node

/-- A page as its elements, in the order in which they were made. -/
structure Document where
  elements : List Node
deriving Repr

/-- The classes in the value of a `class` attribute. -/
def classesOf (attributes : List Attribute) : List String :=
  match attributes.find? (·.name = "class") with
  | some a => (Text.words a.value.toList).map String.ofList
  | none => []

/-- A row that holds an element which stands in the page or in a part taken out
of it. -/
def NodeRow.isPlacedElement (row : NodeRow) : Bool :=
  match row.kind with
  | .element .. => row.parent.isSome
  | _ => false

namespace NodeTable

/-- The node of a number with its content, down to a depth of `n`. -/
def node (t : NodeTable) : Nat → Nat → Node
  | 0, _ => .comment
  | n + 1, id =>
    match t[id]? with
    | some { kind := .element _ name attributes, children, .. } =>
      .element name (classesOf attributes) (children.toList.map (node t n))
    | some { kind := .text content, .. } => .text content
    | _ => .comment

/-- The document of a node table. -/
def document (t : NodeTable) : Document where
  elements := (List.range t.size).filterMap fun id =>
    match t[id]? with
    | some row => if row.isPlacedElement then some (t.node t.size id) else none
    | none => none

end NodeTable

/-- The document of a page. -/
def Document.parse (page : String) : Document := (build page.toList).document

end Html
end RuleHarvest
