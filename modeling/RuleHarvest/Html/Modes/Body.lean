/-
# The body of a page

The rules inside `body`, and the rule for text elements such as `title`. The
start tags fall into kinds, and each kind has one rule. Most of the work is
closing what the new element may not stand in: a paragraph ends before a
block, a list item before the next one.

Key definitions: `BodyTag`, `bodyTag`, `bodyStart`, `bodyEnd`, `inBody`,
`inText`.
-/
import RuleHarvest.Html.Adoption
import RuleHarvest.Html.Event

namespace RuleHarvest
namespace Html

/-- The kinds of start tags in a body. -/
inductive BodyTag where
  | root
  | headContent
  | body
  | frameset
  /-- A block: it ends a paragraph. -/
  | block
  | heading
  /-- Text in which line ends count. A first line feed does not. -/
  | preformatted
  | form
  | listItem
  | definition
  | plaintext
  | button
  | anchor
  /-- An inline element that is reopened where it is cut off. -/
  | formatting
  | nobr
  /-- An element that inline elements from outside are not reopened in. -/
  | embedded
  | table
  /-- An inline element without content. -/
  | void
  /-- An element without content that does not show. -/
  | hiddenVoid
  | rule
  | textarea
  | xmp
  | iframe
  | rawText
  | select
  | option
  | rubyBase
  | rubyText
  | math
  | svg
  /-- A part of a table or of the head, out of its place. -/
  | stray
  | other
deriving Repr, DecidableEq

/-- The kind of a start tag. -/
def bodyTag (name : String) : BodyTag :=
  match name with
  | "html" => .root
  | "base" | "basefont" | "bgsound" | "link" | "meta" | "noframes" | "script" | "style"
  | "template" | "title" => .headContent
  | "body" => .body
  | "frameset" => .frameset
  | "address" | "article" | "aside" | "blockquote" | "center" | "details" | "dialog" | "dir"
  | "div" | "dl" | "fieldset" | "figcaption" | "figure" | "footer" | "header" | "hgroup" | "main"
  | "menu" | "nav" | "ol" | "p" | "search" | "section" | "summary" | "ul" => .block
  | "h1" | "h2" | "h3" | "h4" | "h5" | "h6" => .heading
  | "pre" | "listing" => .preformatted
  | "form" => .form
  | "li" => .listItem
  | "dd" | "dt" => .definition
  | "plaintext" => .plaintext
  | "button" => .button
  | "a" => .anchor
  | "b" | "big" | "code" | "em" | "font" | "i" | "s" | "small" | "strike" | "strong" | "tt"
  | "u" => .formatting
  | "nobr" => .nobr
  | "applet" | "marquee" | "object" => .embedded
  | "table" => .table
  | "area" | "br" | "embed" | "image" | "img" | "input" | "keygen" | "wbr" => .void
  | "param" | "source" | "track" => .hiddenVoid
  | "hr" => .rule
  | "textarea" => .textarea
  | "xmp" => .xmp
  | "iframe" => .iframe
  | "noembed" | "noscript" => .rawText
  | "select" => .select
  | "optgroup" | "option" => .option
  | "rb" | "rtc" => .rubyBase
  | "rp" | "rt" => .rubyText
  | "math" => .math
  | "svg" => .svg
  | "caption" | "col" | "colgroup" | "frame" | "head" | "tbody" | "td" | "tfoot" | "th" | "thead"
  | "tr" => .stray
  | _ => .other

/-- An `input` that does not show. -/
def Tag.isHidden (t : Tag) : Bool :=
  (t.attribute? "type").any fun type => type.toList.map Char.toLower = "hidden".toList

namespace Builder

/-! ### Steps of the start tags -/

/-- A second `body` tag gives its attributes to the body. -/
def mergeBody (b : Builder) (tag : Tag) : Builder :=
  match b.body? with
  | some body =>
    if b.inTemplate then b
    else { b.forbidFrameset with table := b.table.addMissing body.id tag.attributes }
  | none => b

/-- A `frameset` takes the place of a body in which nothing was shown yet. -/
def replaceBody (b : Builder) (tag : Tag) : Builder :=
  match b.body? with
  | some body =>
    if b.framesetAllowed then
      let b := { b with table := b.table.detach body.id, stack := b.stack.drop (b.stack.length - 1) }
      (b.insertElement tag).switch .inFrameset
    else b
  | none => b

/-- Closes the item of a list that is open, if the new one would stand in it:
nothing but inline elements, addresses, `div` and paragraphs lie between. -/
def closeItem (b : Builder) (names : List String) : Builder :=
  let bounds (e : OpenElement) := e.isOneOf specialNames && !e.isOneOf ["address", "div", "p"]
  if inScope bounds (·.isOneOf names) b.stack then
    match b.stack.find? (·.isOneOf names) with
    | some e => (b.closeImpliedExcept e.name).popUntilNamed e.name
    | none => b
  else b

/-- A new item of a list. -/
def insertItem (b : Builder) (tag : Tag) (names : List String) : Builder :=
  ((b.forbidFrameset.closeItem names).closeParagraphInScope).insertElement tag

/-- A `form`. Forms do not nest. -/
def insertForm (b : Builder) (tag : Tag) : Builder :=
  if b.form.isSome && !b.inTemplate then b
  else
    let b := b.closeParagraphInScope
    let id := b.table.size
    let b := b.insertElement tag
    if b.inTemplate then b else { b with form := some id }

/-- A `button`. Buttons do not nest. -/
def insertButton (b : Builder) (tag : Tag) : Builder :=
  let b := if b.hasInScope "button" then b.closeImplied.popUntilNamed "button" else b
  (b.reopenFormatting.insertElement tag).forbidFrameset

/-- An `a` ends the one that is open before. -/
def insertAnchor (b : Builder) (tag : Tag) : Builder :=
  let b :=
    match b.formattingNamed? "a" with
    | some (id, _) => ((b.adopt "a").forgetFormatting id).removeOpen id
    | none => b
  b.reopenFormatting.insertFormatting tag

/-- A `nobr` ends the one that is open before. -/
def insertNobr (b : Builder) (tag : Tag) : Builder :=
  let b := b.reopenFormatting
  let b := if b.hasInScope "nobr" then (b.adopt "nobr").reopenFormatting else b
  b.insertFormatting tag

/-- The `select` of a table has a mode of its own. -/
def insertSelect (b : Builder) (tag : Tag) : Builder :=
  let b := (b.reopenFormatting.insertElement tag).forbidFrameset
  let inTable := [Mode.inTable, .inCaption, .inTableBody, .inRow, .inCell].contains b.mode
  b.switch (if inTable then .inSelectInTable else .inSelect)

/-- An SVG or MathML element. A slash at the end of its tag closes it. -/
def insertForeign (b : Builder) (tag : Tag) (family : Family) : Builder :=
  let b := b.openForeign tag family
  if tag.selfClosing then b.pop else b

/-- The start tag of a heading ends a heading that is innermost. -/
def insertHeading (b : Builder) (tag : Tag) : Builder :=
  let b := b.closeParagraphInScope
  let b := if b.current?.any (·.isOneOf headingNames) then b.pop else b
  b.insertElement tag

/-- A start tag in the body. -/
def bodyStart (b : Builder) (tag : Tag) : Builder :=
  match bodyTag tag.name with
  | .root => b.mergeRoot tag
  | .headContent => b.insertHeadContent tag
  | .body => b.mergeBody tag
  | .frameset => b.replaceBody tag
  | .block => b.closeParagraphInScope.insertElement tag
  | .heading => b.insertHeading tag
  | .preformatted =>
    { (b.closeParagraphInScope.insertElement tag).forbidFrameset with skipLineFeed := true }
  | .form => b.insertForm tag
  | .listItem => b.insertItem tag ["li"]
  | .definition => b.insertItem tag ["dd", "dt"]
  | .plaintext => { b.closeParagraphInScope.insertElement tag with model := .verbatim }
  | .button => b.insertButton tag
  | .anchor => b.insertAnchor tag
  | .formatting => b.reopenFormatting.insertFormatting tag
  | .nobr => b.insertNobr tag
  | .embedded => (b.reopenFormatting.insertElement tag).pushMarker.forbidFrameset
  | .table =>
    let b := if b.quirks then b else b.closeParagraphInScope
    (b.insertElement tag).forbidFrameset.switch .inTable
  | .void =>
    let shown := if tag.name = "image" then { tag with name := "img" } else tag
    let b := b.reopenFormatting.insertVoid shown
    if tag.name = "input" && tag.isHidden then b else b.forbidFrameset
  | .hiddenVoid => b.insertVoid tag
  | .rule => (b.closeParagraphInScope.insertVoid tag).forbidFrameset
  | .textarea =>
    { b.forbidFrameset.insertTextElement tag (.references "textarea") with skipLineFeed := true }
  | .xmp => b.closeParagraphInScope.reopenFormatting.forbidFrameset.insertTextElement tag (.raw "xmp")
  | .iframe => b.forbidFrameset.insertTextElement tag (.raw "iframe")
  | .rawText => b.insertTextElement tag (.raw tag.name)
  | .select => b.insertSelect tag
  | .option => (if b.currentIs "option" then b.pop else b).reopenFormatting.insertElement tag
  | .rubyBase => (if b.hasInScope "ruby" then b.closeImplied else b).insertElement tag
  | .rubyText => (if b.hasInScope "ruby" then b.closeImpliedExcept "rtc" else b).insertElement tag
  | .math => b.insertForeign tag .mathml
  | .svg => b.insertForeign tag .svg
  | .stray => b
  | .other => b.reopenFormatting.insertElement tag

/-! ### End tags -/

/-- Closes an element that is open in scope. -/
def closeInScope (b : Builder) (name : String) : Builder :=
  if b.hasInScope name then b.closeImplied.popUntilNamed name else b

/-- The end tag of a form. Outside a template it ends the form that was opened
last, without closing what is still open in it. -/
def closeForm (b : Builder) : Builder :=
  if b.inTemplate then b.closeInScope "form"
  else
    match b.form with
    | none => b
    | some id =>
      let b := { b with form := none }
      if inScope (·.boundsScope) (·.id = id) b.stack then b.closeImplied.removeOpen id else b

/-- The end tag of a paragraph. Without a paragraph it stands for an empty
one. -/
def closeOrInsertParagraph (b : Builder) : Builder :=
  if inScope (·.boundsButtonScope) (·.isNamed "p") b.stack then b.closeParagraph
  else (b.insertMissing "p").closeParagraph

/-- The end tag of a list item. -/
def closeListItem (b : Builder) : Builder :=
  if inScope (·.boundsListScope) (·.isNamed "li") b.stack then
    (b.closeImpliedExcept "li").popUntilNamed "li"
  else b

/-- The end tag of `dd` or `dt`. -/
def closeDefinition (b : Builder) (name : String) : Builder :=
  if b.hasInScope name then (b.closeImpliedExcept name).popUntilNamed name else b

/-- The end tag of a heading ends a heading of any rank. -/
def closeHeading (b : Builder) : Builder :=
  if inScope (·.boundsScope) (·.isOneOf headingNames) b.stack then
    b.closeImplied.popUntil (·.isOneOf headingNames)
  else b

/-- An end tag in the body. -/
def bodyEnd (b : Builder) (name : String) : Outcome :=
  match name with
  | "template" => .done b.closeTemplate
  | "body" => .done (if b.hasInScope "body" then b.switch .afterBody else b)
  | "html" => if b.hasInScope "body" then .again (b.switch .afterBody) else .done b
  | "address" | "article" | "aside" | "blockquote" | "button" | "center" | "details" | "dialog"
  | "dir" | "div" | "dl" | "fieldset" | "figcaption" | "figure" | "footer" | "header" | "hgroup"
  | "listing" | "main" | "menu" | "nav" | "ol" | "pre" | "search" | "section" | "summary"
  | "ul" => .done (b.closeInScope name)
  | "form" => .done b.closeForm
  | "p" => .done b.closeOrInsertParagraph
  | "li" => .done b.closeListItem
  | "dd" | "dt" => .done (b.closeDefinition name)
  | "h1" | "h2" | "h3" | "h4" | "h5" | "h6" => .done b.closeHeading
  | "a" | "b" | "big" | "code" | "em" | "font" | "i" | "nobr" | "s" | "small" | "strike"
  | "strong" | "tt" | "u" => .done (b.adopt name)
  | "applet" | "marquee" | "object" =>
    .done (if b.hasInScope name then (b.closeInScope name).clearToMarker else b)
  | "br" => .done (b.bodyStart { name := "br" })
  | _ => .done (b.closeOther name)

/-- A character of text in the body. U+0000 is dropped. -/
def bodyChar (b : Builder) (c : Char) : Builder :=
  if c = '\x00' then b
  else
    let b := b.reopenFormatting
    (if isSpace c then b else b.forbidFrameset).insertChar c

/-- The rules inside the body. -/
def inBody (b : Builder) (e : Event) : Outcome :=
  match e with
  | .char c => .done (b.bodyChar c)
  | .comment => .done b.insertComment
  | .startTag tag => .done (b.bodyStart tag)
  | .endTag name => b.bodyEnd name
  | .finish => if b.templateModes.isEmpty then .done b else b.finishTemplate

/-- The rules inside an element whose content is text. Its end, and the end of
the page, bring the mode back that was set before. -/
def inText (b : Builder) (e : Event) : Outcome :=
  match e with
  | .char c => .done (b.insertChar c)
  | .endTag _ => .done { b.pop with mode := b.returnMode, model := .markup }
  | .finish => .again { b.pop with mode := b.returnMode, model := .markup }
  | .startTag _ | .comment => .done b

end Builder
end Html
end RuleHarvest
