/-
# Tables

The rules inside a table. A table holds captions, column groups and rows; a
part left out is opened, and what has no place in a table is put before it
(`fosterInBody`).

Text is held back until the next event that is not text. If it is white space
it stays in the table, otherwise all of it goes before the table.

Key definitions: `fosterInBody`, `inTable`, `inTableText`, `inCaption`,
`inColumnGroup`, `inTableBody`, `inRow`, `inCell`.
-/
import RuleHarvest.Html.Modes.Body

namespace RuleHarvest
namespace Html
namespace Builder

/-- Elements that bound a table. -/
def tableContextNames : List String := ["table", "template", "html"]

/-- Elements that rows stand in. -/
def tableBodyContextNames : List String := ["tbody", "tfoot", "thead", "template", "html"]

/-- Elements that cells stand in. -/
def rowContextNames : List String := ["tr", "template", "html"]

/-- Follows the rules of the body, but puts before the table what would go into
it outside its cells. -/
def fosterInBody (b : Builder) (e : Event) : Outcome :=
  match { b with fostering := true }.inBody e with
  | .done b => .done { b with fostering := false }
  | .again b => .again { b with fostering := false }

/-- A character in a table is held back, unless a cell's content was opened
without a cell. -/
def tableChar (b : Builder) (c : Char) : Outcome :=
  if b.current?.any (·.isOneOf ["table", "tbody", "tfoot", "thead", "tr"]) then
    .again { b with returnMode := b.mode, mode := .inTableText }
  else b.fosterInBody (.char c)

/-- A start tag in a table. -/
def tableStart (b : Builder) (tag : Tag) : Outcome :=
  let cleared := b.popUntilCurrent tableContextNames
  match tag.name with
  | "caption" => .done ((cleared.pushMarker.insertElement tag).switch .inCaption)
  | "colgroup" => .done ((cleared.insertElement tag).switch .inColumnGroup)
  | "col" => .again ((cleared.insertMissing "colgroup").switch .inColumnGroup)
  | "tbody" | "tfoot" | "thead" => .done ((cleared.insertElement tag).switch .inTableBody)
  | "td" | "th" | "tr" => .again ((cleared.insertMissing "tbody").switch .inTableBody)
  | "table" =>
    if b.hasInTableScope "table" then .again (b.popUntilNamed "table").resetMode else .done b
  | "style" | "script" | "template" => .done (b.insertHeadContent tag)
  | "input" => if tag.isHidden then .done (b.insertVoid tag) else b.fosterInBody (.startTag tag)
  | "form" =>
    if b.inTemplate || b.form.isSome then .done b
    else .done { b.insertVoid tag with form := some b.table.size }
  | _ => b.fosterInBody (.startTag tag)

/-- An end tag in a table. -/
def tableEnd (b : Builder) (name : String) : Outcome :=
  match name with
  | "table" =>
    .done (if b.hasInTableScope "table" then (b.popUntilNamed "table").resetMode else b)
  | "body" | "caption" | "col" | "colgroup" | "html" | "tbody" | "td" | "tfoot" | "th" | "thead"
  | "tr" => .done b
  | "template" => .done b.closeTemplate
  | _ => b.fosterInBody (.endTag name)

/-- The rules inside a table, outside its parts. -/
def inTable (b : Builder) (e : Event) : Outcome :=
  match e with
  | .char c => b.tableChar c
  | .comment => .done b.insertComment
  | .startTag tag => b.tableStart tag
  | .endTag name => b.tableEnd name
  | .finish => b.inBody .finish

/-- Places the text that was held back. -/
def placeTableText (b : Builder) : Builder :=
  let held := b.tableText.reverse
  let b := { b with tableText := [] }
  if held.all isSpace then held.foldl insertChar b
  else { held.foldl bodyChar { b with fostering := true } with fostering := false }

/-- The rules for text in a table. -/
def inTableText (b : Builder) (e : Event) : Outcome :=
  match e with
  | .char c => .done (if c = '\x00' then b else { b with tableText := c :: b.tableText })
  | _ => .again (b.placeTableText.switch b.returnMode)

/-- Closes the caption that is open. -/
def closeCaption (b : Builder) : Builder :=
  (b.closeImplied.popUntilNamed "caption").clearToMarker.switch .inTable

/-- The rules inside a caption. -/
def inCaption (b : Builder) (e : Event) : Outcome :=
  match e with
  | .startTag tag =>
    match tag.name with
    | "caption" | "col" | "colgroup" | "tbody" | "td" | "tfoot" | "th" | "thead" | "tr" =>
      if b.hasInTableScope "caption" then .again b.closeCaption else .done b
    | _ => b.inBody e
  | .endTag name =>
    match name with
    | "caption" => .done (if b.hasInTableScope "caption" then b.closeCaption else b)
    | "table" => if b.hasInTableScope "caption" then .again b.closeCaption else .done b
    | "body" | "col" | "colgroup" | "html" | "tbody" | "td" | "tfoot" | "th" | "thead" | "tr" =>
      .done b
    | _ => b.inBody e
  | _ => b.inBody e

/-- The rules inside a column group. -/
def inColumnGroup (b : Builder) (e : Event) : Outcome :=
  let leave := if b.currentIs "colgroup" then Outcome.again (b.pop.switch .inTable) else .done b
  match e with
  | .char c => if isSpace c then .done (b.insertChar c) else leave
  | .comment => .done b.insertComment
  | .startTag tag =>
    match tag.name with
    | "html" => .done (b.mergeRoot tag)
    | "col" => .done (b.insertVoid tag)
    | "template" => .done (b.insertHeadContent tag)
    | _ => leave
  | .endTag name =>
    match name with
    | "colgroup" => .done (if b.currentIs "colgroup" then b.pop.switch .inTable else b)
    | "col" => .done b
    | "template" => .done b.closeTemplate
    | _ => leave
  | .finish => b.inBody .finish

/-- Closes the group of rows that is open. -/
def closeTableBody (b : Builder) : Builder :=
  (b.popUntilCurrent tableBodyContextNames).pop.switch .inTable

/-- Leaves the group of rows for what cannot stand in it. -/
def leaveTableBody (b : Builder) : Outcome :=
  if inScope (·.boundsTableScope) (·.isOneOf ["table", "tbody", "tfoot"]) b.stack then
    .again b.closeTableBody
  else .done b

/-- The rules inside a group of rows. -/
def inTableBody (b : Builder) (e : Event) : Outcome :=
  match e with
  | .startTag tag =>
    match tag.name with
    | "tr" => .done (((b.popUntilCurrent tableBodyContextNames).insertElement tag).switch .inRow)
    | "th" | "td" =>
      .again (((b.popUntilCurrent tableBodyContextNames).insertMissing "tr").switch .inRow)
    | "caption" | "col" | "colgroup" | "tbody" | "tfoot" | "thead" => b.leaveTableBody
    | _ => b.inTable e
  | .endTag name =>
    match name with
    | "tbody" | "tfoot" | "thead" =>
      .done (if b.hasInTableScope name then b.closeTableBody else b)
    | "table" => b.leaveTableBody
    | "body" | "caption" | "col" | "colgroup" | "html" | "td" | "th" | "tr" => .done b
    | _ => b.inTable e
  | _ => b.inTable e

/-- Closes the row that is open. -/
def closeRow (b : Builder) : Builder :=
  (b.popUntilCurrent rowContextNames).pop.switch .inTableBody

/-- Leaves the row for what cannot stand in it. -/
def leaveRow (b : Builder) : Outcome :=
  if b.hasInTableScope "tr" then .again b.closeRow else .done b

/-- The rules inside a row. -/
def inRow (b : Builder) (e : Event) : Outcome :=
  match e with
  | .startTag tag =>
    match tag.name with
    | "th" | "td" =>
      .done (((b.popUntilCurrent rowContextNames).insertElement tag).switch .inCell).pushMarker
    | "caption" | "col" | "colgroup" | "tbody" | "tfoot" | "thead" | "tr" => b.leaveRow
    | _ => b.inTable e
  | .endTag name =>
    match name with
    | "tr" => .done (if b.hasInTableScope "tr" then b.closeRow else b)
    | "table" => b.leaveRow
    | "tbody" | "tfoot" | "thead" => if b.hasInTableScope name then b.leaveRow else .done b
    | "body" | "caption" | "col" | "colgroup" | "html" | "td" | "th" => .done b
    | _ => b.inTable e
  | _ => b.inTable e

/-- Closes the cell that is open. -/
def closeCell (b : Builder) : Builder :=
  (b.closeImplied.popUntil (·.isOneOf ["td", "th"])).clearToMarker.switch .inRow

/-- The rules inside a cell. -/
def inCell (b : Builder) (e : Event) : Outcome :=
  match e with
  | .startTag tag =>
    match tag.name with
    | "caption" | "col" | "colgroup" | "tbody" | "td" | "tfoot" | "th" | "thead" | "tr" =>
      if inScope (·.boundsTableScope) (·.isOneOf ["td", "th"]) b.stack then .again b.closeCell
      else .done b
    | _ => b.inBody e
  | .endTag name =>
    match name with
    | "td" | "th" =>
      .done (if b.hasInTableScope name then
        (b.closeImplied.popUntilNamed name).clearToMarker.switch .inRow else b)
    | "body" | "caption" | "col" | "colgroup" | "html" => .done b
    | "table" | "tbody" | "tfoot" | "thead" | "tr" =>
      if b.hasInTableScope name then .again b.closeCell else .done b
    | _ => b.inBody e
  | _ => b.inBody e

end Builder
end Html
end RuleHarvest
