/-
# What the rules of the insertion modes see

The rules take a page one event at a time: a character of text, a start tag,
an end tag, a comment or the end. A rule either deals with the event or
changes the mode and hands the event on to the rules of the new mode.

Two things happen in most modes and are defined here: the tags that may stand
in the head, and the end of a template.

Key definitions: `Event`, `Outcome`, `insertHeadContent`, `closeTemplate`,
`finishTemplate`.
-/
import RuleHarvest.Html.Builder

namespace RuleHarvest
namespace Html

/-- A piece of a page, small enough for one rule. -/
inductive Event where
  | char (c : Char)
  | startTag (tag : Tag)
  | endTag (name : String)
  | comment
  | finish
deriving Repr, DecidableEq

/-- What a rule makes of an event: it is dealt with, or it meets the rules of
the mode that is now set. -/
inductive Outcome where
  | done (b : Builder)
  | again (b : Builder)

namespace Builder

def switch (b : Builder) (mode : Mode) : Builder := { b with mode }

def forbidFrameset (b : Builder) : Builder := { b with framesetAllowed := false }

/-- A second `html` tag gives its attributes to the root. Inside a template it
is ignored. -/
def mergeRoot (b : Builder) (tag : Tag) : Builder :=
  if b.inTemplate then b
  else
    match b.stack.getLast? with
    | some root => { b with table := b.table.addMissing root.id tag.attributes }
    | none => b

/-- Elements of the head that have no content. -/
def headVoidNames : List String := ["base", "basefont", "bgsound", "link", "meta"]

/-- Elements of the head, wherever their tags stand. -/
def headContentNames : List String :=
  headVoidNames ++ ["noframes", "script", "style", "template", "title"]

/-- The start tag of an element of the head. -/
def insertHeadContent (b : Builder) (tag : Tag) : Builder :=
  if headVoidNames.contains tag.name then b.insertVoid tag
  else if tag.name = "title" then b.insertTextElement tag (.references "title")
  else if tag.name = "script" then b.insertTextElement tag .script
  else if tag.name = "template" then
    let b := (b.insertElement tag).pushMarker.forbidFrameset
    { b with mode := .inTemplate, templateModes := .inTemplate :: b.templateModes }
  else b.insertTextElement tag (.raw tag.name)

/-- The end tag of a template. -/
def closeTemplate (b : Builder) : Builder :=
  if b.inTemplate then
    let b := ((b.popWhile (·.isOneOf templateEndNames)).popUntilNamed "template").clearToMarker
    { b with templateModes := b.templateModes.tail }.resetMode
  else b

/-- The end of the page inside a template: the template is closed and the end
comes again. -/
def finishTemplate (b : Builder) : Outcome :=
  if b.inTemplate then
    let b := (b.popUntilNamed "template").clearToMarker
    .again { b with templateModes := b.templateModes.tail }.resetMode
  else .done b

end Builder
end Html
end RuleHarvest
