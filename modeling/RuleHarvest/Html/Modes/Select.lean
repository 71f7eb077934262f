/-
# Selection lists and templates

A selection list holds options, groups of options and text; other tags in it
are ignored. A template holds anything: its first tag tells which rules its
content follows.

Key definitions: `inSelect`, `inSelectInTable`, `inTemplateContent`.
-/
import RuleHarvest.Html.Modes.Body

namespace RuleHarvest
namespace Html
namespace Builder

/-- A selection list is open, with nothing but its parts inside. -/
def hasSelect (b : Builder) : Bool :=
  inScope (·.boundsSelectScope) (·.isNamed "select") b.stack

def closeSelect (b : Builder) : Builder := (b.popUntilNamed "select").resetMode

/-- Closes the innermost element if it has this name. -/
def popIf (b : Builder) (name : String) : Builder := if b.currentIs name then b.pop else b

/-- The end tag of a group of options closes an open option of the group too. -/
def closeOptionGroup (b : Builder) : Builder :=
  let b :=
    match b.stack with
    | e :: outer :: _ => if e.isNamed "option" && outer.isNamed "optgroup" then b.pop else b
    | _ => b
  b.popIf "optgroup"

/-- The rules inside a selection list. -/
def inSelect (b : Builder) (e : Event) : Outcome :=
  match e with
  | .char c => .done (if c = '\x00' then b else b.insertChar c)
  | .comment => .done b.insertComment
  | .startTag tag =>
    match tag.name with
    | "html" => .done (b.mergeRoot tag)
    | "option" => .done ((b.popIf "option").insertElement tag)
    | "optgroup" => .done (((b.popIf "option").popIf "optgroup").insertElement tag)
    | "select" => .done (if b.hasSelect then b.closeSelect else b)
    | "input" | "keygen" | "textarea" => if b.hasSelect then .again b.closeSelect else .done b
    | "script" | "template" => .done (b.insertHeadContent tag)
    | _ => .done b
  | .endTag name =>
    match name with
    | "optgroup" => .done b.closeOptionGroup
    | "option" => .done (b.popIf "option")
    | "select" => .done (if b.hasSelect then b.closeSelect else b)
    | "template" => .done b.closeTemplate
    | _ => .done b
  | .finish => b.inBody .finish

/-- The rules inside a selection list in a table: parts of the table end the
list. -/
def inSelectInTable (b : Builder) (e : Event) : Outcome :=
  match e with
  | .startTag tag =>
    match tag.name with
    | "caption" | "table" | "tbody" | "tfoot" | "thead" | "tr" | "td" | "th" => .again b.closeSelect
    | _ => b.inSelect e
  | .endTag name =>
    match name with
    | "caption" | "table" | "tbody" | "tfoot" | "thead" | "tr" | "td" | "th" =>
      if b.hasInTableScope name then .again b.closeSelect else .done b
    | _ => b.inSelect e
  | _ => b.inSelect e

/-- From now on the innermost template follows the rules of `mode`. -/
def enterTemplateMode (b : Builder) (mode : Mode) : Builder :=
  { b with mode, templateModes := mode :: b.templateModes.tail }

/-- The rules at the start of a template. -/
def inTemplateContent (b : Builder) (e : Event) : Outcome :=
  match e with
  | .char _ | .comment => b.inBody e
  | .startTag tag =>
    match tag.name with
    | "base" | "basefont" | "bgsound" | "link" | "meta" | "noframes" | "script" | "style"
    | "template" | "title" => .done (b.insertHeadContent tag)
    | "caption" | "colgroup" | "tbody" | "tfoot" | "thead" => .again (b.enterTemplateMode .inTable)
    | "col" => .again (b.enterTemplateMode .inColumnGroup)
    | "tr" => .again (b.enterTemplateMode .inTableBody)
    | "td" | "th" => .again (b.enterTemplateMode .inRow)
    | _ => .again (b.enterTemplateMode .inBody)
  | .endTag name => .done (if name = "template" then b.closeTemplate else b)
  | .finish => b.finishTemplate

end Builder
end Html
end RuleHarvest
