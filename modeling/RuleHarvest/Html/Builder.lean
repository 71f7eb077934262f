/-
# A page under construction

A `Builder` is the state of building: the node table, the open elements
(innermost first), the inline elements to reopen (latest first), the
insertion mode and a few marks. The functions here are the steps that the
rules of all insertion modes share.

An element goes to the end of the innermost open element, with one exception:
while foster parenting is on, what would go into a table, outside its cells,
is put before the table.

Key definitions: `Mode`, `Builder`, `place`, `insertElement`, `insertChar`,
`reopenFormatting`, `popUntilNamed`, `resetMode`.
-/
import RuleHarvest.Html.NodeTable

namespace RuleHarvest
namespace Html

/-- The insertion modes: which rules the next token follows. -/
inductive Mode where
  | initial
  | beforeHtml
  | beforeHead
  | inHead
  | afterHead
  | inBody
  | text
  | inTable
  | inTableText
  | inCaption
  | inColumnGroup
  | inTableBody
  | inRow
  | inCell
  | inSelect
  | inSelectInTable
  | inTemplate
  | afterBody
  | inFrameset
  | afterFrameset
  | afterAfterBody
  | afterAfterFrameset
deriving Repr, DecidableEq

/-- An entry of the list of inline elements to reopen. A marker keeps elements
outside a cell, caption, object or template from being reopened in it. -/
inductive Formatting where
  | marker
  | element (id : Nat) (tag : Tag)
deriving Repr, DecidableEq

def Formatting.isElement (f : Formatting) (id : Nat) : Bool :=
  match f with
  | .marker => false
  | .element i _ => i = id

/-- The state of building a page. -/
structure Builder where
  table : NodeTable := .empty
  /-- The open elements, innermost first. -/
  stack : List OpenElement := []
  /-- The inline elements to reopen, latest first. -/
  formatting : List Formatting := []
  head : Option OpenElement := none
  form : Option Nat := none
  mode : Mode := .initial
  /-- The mode to go back to after a run of text or of table text. -/
  returnMode : Mode := .initial
  /-- The modes of the open templates, innermost first. -/
  templateModes : List Mode := []
  framesetAllowed : Bool := true
  fostering : Bool := false
  quirks : Bool := true
  /-- A line feed that comes next is not part of the page. -/
  skipLineFeed : Bool := false
  /-- Text met in a table, not placed yet, last character first. -/
  tableText : List Char := []
  model : TextModel := .markup

/-- Where a node goes. -/
inductive Place where
  | lastChildOf (id : Nat)
  | before (id : Nat)

namespace Builder

/-! ### Questions about the open elements -/

def current? (b : Builder) : Option OpenElement := b.stack.head?

/-- The innermost open element is this HTML element. -/
def currentIs (b : Builder) (name : String) : Bool := b.current?.any (·.isNamed name)

def hasInScope (b : Builder) (name : String) : Bool :=
  inScope (·.boundsScope) (·.isNamed name) b.stack

def hasInTableScope (b : Builder) (name : String) : Bool :=
  inScope (·.boundsTableScope) (·.isNamed name) b.stack

/-- A template is open. -/
def inTemplate (b : Builder) : Bool := b.stack.any (·.isNamed "template")

/-- The element just inside the root, if it is the body. -/
def body? (b : Builder) : Option OpenElement :=
  match b.stack.reverse with
  | _ :: e :: _ => if e.isNamed "body" then some e else none
  | _ => none

/-! ### Placing nodes -/

/-- Where foster parenting puts a node, seen from the open elements: in the
innermost template, or before the innermost table. A table that has no parent
any more passes the node to the element it was opened in. -/
def fosterPlace (table : NodeTable) : List OpenElement → Place
  | [] => .lastChildOf 0
  | [root] => .lastChildOf root.id
  | e :: outer :: rest =>
    if e.isNamed "template" then .lastChildOf e.id
    else if e.isNamed "table" then
      if (table.parent? e.id).isSome then .before e.id else .lastChildOf outer.id
    else fosterPlace table (outer :: rest)

/-- Where a node goes that is meant for `target`. -/
def place (b : Builder) (target : OpenElement) : Place :=
  if b.fostering && target.isOneOf ["table", "tbody", "tfoot", "thead", "tr"] then
    fosterPlace b.table b.stack
  else .lastChildOf target.id

/-- Puts a node without a parent in its place. -/
def put (b : Builder) (place : Place) (id : Nat) : Builder :=
  match place with
  | .lastChildOf parent => { b with table := b.table.append parent id }
  | .before sibling => { b with table := b.table.insertBefore sibling id }

/-- Puts a node where the innermost open element wants it. -/
def putHere (b : Builder) (id : Nat) : Builder :=
  match b.current? with
  | none => b.put (.lastChildOf 0) id
  | some e => b.put (b.place e) id

/-- A new element of an HTML tag, not placed yet. -/
def create (b : Builder) (tag : Tag) (family : Family) : Builder × OpenElement :=
  ({ b with table := b.table.add (.element family tag.name tag.attributes) },
    ⟨b.table.size, family, tag.name⟩)

def push (b : Builder) (e : OpenElement) : Builder := { b with stack := e :: b.stack }

def pop (b : Builder) : Builder := { b with stack := b.stack.tail }

/-- Makes the element of a tag, places and opens it. -/
def openForeign (b : Builder) (tag : Tag) (family : Family) : Builder :=
  let (b, e) := b.create tag family
  (b.putHere e.id).push e

/-- Makes an HTML element, places and opens it. -/
def insertElement (b : Builder) (tag : Tag) : Builder := b.openForeign tag .html

/-- Makes and places an element that has no content. -/
def insertVoid (b : Builder) (tag : Tag) : Builder := (b.insertElement tag).pop

/-- Opens an element that the page leaves out. -/
def insertMissing (b : Builder) (name : String) : Builder := b.insertElement { name }

/-- Places a character of text. -/
def insertChar (b : Builder) (c : Char) : Builder :=
  match b.current? with
  | none => b
  | some e =>
    match b.place e with
    | .lastChildOf parent => { b with table := b.table.appendChar parent c }
    | .before sibling => { b with table := b.table.insertCharBefore sibling c }

/-- Places a comment. -/
def insertComment (b : Builder) : Builder :=
  ({ b with table := b.table.add .comment }).putHere b.table.size

/-- Places a comment at the end of a node. -/
def insertCommentIn (b : Builder) (id : Nat) : Builder :=
  { b with table := (b.table.add .comment).append id b.table.size }

/-! ### Closing elements -/

/-- Closes the innermost elements while they have the property `p`. -/
def popWhile (b : Builder) (p : OpenElement → Bool) : Builder :=
  { b with stack := b.stack.dropWhile p }

/-- Closes elements up to and including the first with the property `p`. -/
def popUntil (b : Builder) (p : OpenElement → Bool) : Builder :=
  { b with stack := popThrough p b.stack }

def popUntilNamed (b : Builder) (name : String) : Builder := b.popUntil (·.isNamed name)

/-- Closes elements until the innermost one is an HTML element of the list. -/
def popUntilCurrent (b : Builder) (names : List String) : Builder :=
  b.popWhile fun e => !e.isOneOf names

/-- Closes elements whose end tag may be left out. -/
def closeImplied (b : Builder) : Builder := b.popWhile (·.isOneOf impliedEndNames)

/-- The same, but stops at an element of this name. -/
def closeImpliedExcept (b : Builder) (name : String) : Builder :=
  b.popWhile fun e => e.isOneOf impliedEndNames && !e.isNamed name

/-- Closes the paragraph that is open. -/
def closeParagraph (b : Builder) : Builder := (b.closeImpliedExcept "p").popUntilNamed "p"

/-- Closes a paragraph if one is open in the scope of buttons. -/
def closeParagraphInScope (b : Builder) : Builder :=
  if inScope (·.boundsButtonScope) (·.isNamed "p") b.stack then b.closeParagraph else b

/-- Takes an element off the open ones, wherever it stands among them. -/
def removeOpen (b : Builder) (id : Nat) : Builder :=
  { b with stack := b.stack.filter (·.id ≠ id) }

/-! ### Inline elements to reopen -/

def isOpen (b : Builder) (id : Nat) : Bool := b.stack.any (·.id = id)

/-- Opens an entry's element anew and puts it in the entry's place. -/
def reopen (b : Builder) (entry : Formatting) : Builder :=
  match entry with
  | .marker => b
  | .element id tag =>
    let fresh := b.table.size
    let b := b.insertElement tag
    { b with
      formatting := b.formatting.map fun f => if f.isElement id then .element fresh tag else f }

/-- Reopens, earliest first, the inline elements that were closed since the
last marker or the last one that is still open. -/
def reopenFormatting (b : Builder) : Builder :=
  let closed := b.formatting.takeWhile fun f =>
    match f with
    | .marker => false
    | .element id _ => !b.isOpen id
  closed.reverse.foldl reopen b

/-- The entries since the last marker. -/
def sinceMarker (b : Builder) : List Formatting :=
  b.formatting.takeWhile (· ≠ .marker)

/-- Takes an element off the list. -/
def forgetFormatting (b : Builder) (id : Nat) : Builder :=
  { b with formatting := b.formatting.filter fun f => !f.isElement id }

/-- The earliest of the entries since the last marker that equal a tag, if
there are three of them. -/
def thirdAlike? (b : Builder) (tag : Tag) : Option Nat :=
  let alike := b.sinceMarker.filterMap fun f =>
    match f with
    | .marker => none
    | .element id t => if t.sameAs tag then some id else none
  if alike.length ≥ 3 then alike.getLast? else none

/-- Opens an inline element that will be reopened where it is cut off. Of more
than three alike, the earliest is forgotten. -/
def insertFormatting (b : Builder) (tag : Tag) : Builder :=
  let b := match b.thirdAlike? tag with
    | some id => b.forgetFormatting id
    | none => b
  let id := b.table.size
  let b := b.insertElement tag
  { b with formatting := .element id tag :: b.formatting }

def pushMarker (b : Builder) : Builder := { b with formatting := .marker :: b.formatting }

/-- Forgets the entries up to and including the last marker. -/
def clearToMarker (b : Builder) : Builder :=
  { b with formatting := (b.formatting.dropWhile (· ≠ .marker)).tail }

/-! ### Modes -/

/-- Opens an element whose content is text up to its end tag. -/
def insertTextElement (b : Builder) (tag : Tag) (model : TextModel) : Builder :=
  { b.insertElement tag with mode := .text, returnMode := b.mode, model }

/-- The mode inside a selection list, seen from the elements outside it. -/
def selectMode : List OpenElement → Mode
  | [] => .inSelect
  | e :: rest =>
    if e.isNamed "template" then .inSelect
    else if e.isNamed "table" then .inSelectInTable
    else selectMode rest

/-- The mode that the open elements call for. -/
def modeFor (b : Builder) : List OpenElement → Mode
  | [] => .inBody
  | e :: rest =>
    if e.family ≠ .html then modeFor b rest
    else
      match e.name with
      | "select" => selectMode rest
      | "td" | "th" => if rest.isEmpty then modeFor b rest else .inCell
      | "tr" => .inRow
      | "tbody" | "thead" | "tfoot" => .inTableBody
      | "caption" => .inCaption
      | "colgroup" => .inColumnGroup
      | "table" => .inTable
      | "template" => b.templateModes.headD .inTemplate
      | "head" => if rest.isEmpty then modeFor b rest else .inHead
      | "body" => .inBody
      | "frameset" => .inFrameset
      | "html" => if b.head.isNone then .beforeHead else .afterHead
      | _ => modeFor b rest

/-- Sets the mode that the open elements call for. -/
def resetMode (b : Builder) : Builder := { b with mode := b.modeFor b.stack }

end Builder
end Html
end RuleHarvest
