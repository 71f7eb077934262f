/-
# The node table of a page under construction

While a page is built its nodes move: text and elements that may not stand in
a table are put before it, and badly nested inline elements are taken apart.
So the nodes are kept in a table, numbered in the order in which they were
made, each with its parent and its children. Node 0 is the page itself.

Two texts never stand side by side: text put next to a text node is added to
it.

Key definitions: `NodeTable`, `append`, `appendChar`, `insertBefore`,
`insertCharBefore`, `detach`, `moveChildren`, `page`.
-/
import RuleHarvest.Html.Element
import RuleHarvest.Html.Token

namespace RuleHarvest
namespace Html

/-- What a node is. -/
inductive NodeKind where
  | page
  | element (family : Family) (name : String) (attributes : List Attribute)
  | text (content : String)
  | comment
deriving Repr, DecidableEq

/-- A row of the table. -/
structure NodeRow where
  kind : NodeKind
  parent : Option Nat := none
  children : Array Nat := #[]
deriving Repr

/-- The nodes of a page, by number. -/
abbrev NodeTable := Array NodeRow

namespace NodeTable

/-- The table of an empty page. -/
def empty : NodeTable := #[{ kind := .page }]

/-- A new node without parent or children. Its number is the old size. -/
def add (t : NodeTable) (kind : NodeKind) : NodeTable := t.push { kind }

def parent? (t : NodeTable) (id : Nat) : Option Nat := t[id]?.bind (·.parent)

/-- Puts a node without a parent at the end of another's children. -/
def append (t : NodeTable) (parent child : Nat) : NodeTable :=
  (t.modify parent fun row => { row with children := row.children.push child }).modify child
    fun row => { row with parent := some parent }

/-- Takes a node out of its parent's children. -/
def detach (t : NodeTable) (id : Nat) : NodeTable :=
  match t.parent? id with
  | none => t
  | some parent =>
    (t.modify parent fun row => { row with children := row.children.filter (· ≠ id) }).modify id
      fun row => { row with parent := none }

/-- A text node's content, if the node is one. -/
def text? (t : NodeTable) (id : Nat) : Option String :=
  match t[id]? with
  | some { kind := .text content, .. } => some content
  | _ => none

/-- Adds a character to a text node. -/
def pushChar (t : NodeTable) (id : Nat) (c : Char) : NodeTable :=
  t.modify id fun row =>
    match row with
    | { kind := .text content, parent, children } => { kind := .text (content.push c), parent, children }
    | row => row

/-- Puts a character at the end of a node's children. -/
def appendChar (t : NodeTable) (parent : Nat) (c : Char) : NodeTable :=
  match (t[parent]?.bind (·.children.back?)).filter (fun last => (t.text? last).isSome) with
  | some last => t.pushChar last c
  | none => (t.add (.text (String.singleton c))).append parent t.size

/-- The children of a node, cut before one of them. -/
def childrenAround (t : NodeTable) (parent child : Nat) : Array Nat × Array Nat :=
  let children := (t[parent]?.map (·.children)).getD #[]
  let place := (children.findIdx? (· = child)).getD children.size
  (children.extract 0 place, children.extract place children.size)

/-- Puts a node without a parent before another one, which has one. -/
def insertBefore (t : NodeTable) (sibling child : Nat) : NodeTable :=
  match t.parent? sibling with
  | none => t
  | some parent =>
    let (before, after) := t.childrenAround parent sibling
    (t.modify parent fun row => { row with children := before.push child ++ after }).modify child
      fun row => { row with parent := some parent }

/-- Puts a character before a node that has a parent. -/
def insertCharBefore (t : NodeTable) (sibling : Nat) (c : Char) : NodeTable :=
  match t.parent? sibling with
  | none => t
  | some parent =>
    let (before, _) := t.childrenAround parent sibling
    match before.back?.filter (fun last => (t.text? last).isSome) with
    | some last => t.pushChar last c
    | none => (t.add (.text (String.singleton c))).insertBefore sibling t.size

/-- Moves all children of a node to the end of another's. -/
def moveChildren (t : NodeTable) (source target : Nat) : NodeTable :=
  let moved := (t[source]?.map (·.children)).getD #[]
  let t := t.modify source fun row => { row with children := #[] }
  let t := t.modify target fun row => { row with children := row.children ++ moved }
  moved.foldl (fun t id => t.modify id fun row => { row with parent := some target }) t

/-- Gives an element the attributes of a list that it does not have. -/
def addMissing (t : NodeTable) (id : Nat) (more : List Attribute) : NodeTable :=
  t.modify id fun row =>
    match row with
    | { kind := .element family name attributes, parent, children } =>
      let missing := more.filter fun a => !attributes.any (·.name = a.name)
      { kind := .element family name (attributes ++ missing), parent, children }
    | row => row

end NodeTable
end Html
end RuleHarvest
