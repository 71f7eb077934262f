/-
# SVG and MathML in a page

Inside SVG and MathML the insertion mode is set aside: any element may stand
in any other. A start tag that is plainly HTML breaks out of them. Some
elements of both hold HTML or text of the page, and there the insertion mode
counts again.

Key definitions: `followsForeign`, `byMode`, `inForeign`, `step`.
-/
import RuleHarvest.Html.Modes.Outline
import RuleHarvest.Html.Modes.Table
import RuleHarvest.Html.Modes.Select

namespace RuleHarvest
namespace Html

/-- Start tags that break out of SVG and MathML. -/
def breakoutNames : List String := [
  "b", "big", "blockquote", "body", "br", "center", "code", "dd", "div", "dl", "dt", "em",
  "embed", "h1", "h2", "h3", "h4", "h5", "h6", "head", "hr", "i", "img", "li", "listing", "menu",
  "meta", "nobr", "ol", "p", "pre", "ruby", "s", "small", "span", "strong", "strike", "sub",
  "sup", "table", "tt", "u", "ul", "var"]

/-- Whether a start tag breaks out. A `font` does if it has an attribute of the
HTML one. -/
def Tag.breaksOut (t : Tag) : Bool :=
  breakoutNames.contains t.name ||
    (t.name = "font" && ["color", "face", "size"].any fun a => (t.attribute? a).isSome)

namespace Builder

/-- Whether an event meets the rules of SVG and MathML. -/
def followsForeign (b : Builder) (e : Event) : Bool :=
  match b.current? with
  | none => false
  | some cur =>
    if cur.family = .html then false
    else
      match e with
      | .char _ => !cur.holdsMathText && !cur.holdsHtml
      | .startTag tag =>
        !(cur.holdsMathText && tag.name ≠ "mglyph" && tag.name ≠ "malignmark") &&
          !cur.holdsHtml &&
          !(cur.family = .mathml && cur.name = "annotation-xml" && tag.name = "svg")
      | .endTag _ | .comment => true
      | .finish => false

/-- The rules of the insertion mode. -/
def byMode (b : Builder) (e : Event) : Outcome :=
  match b.mode with
  | .initial => b.initial e
  | .beforeHtml => b.beforeHtml e
  | .beforeHead => b.beforeHead e
  | .inHead => b.inHead e
  | .afterHead => b.afterHead e
  | .inBody => b.inBody e
  | .text => b.inText e
  | .inTable => b.inTable e
  | .inTableText => b.inTableText e
  | .inCaption => b.inCaption e
  | .inColumnGroup => b.inColumnGroup e
  | .inTableBody => b.inTableBody e
  | .inRow => b.inRow e
  | .inCell => b.inCell e
  | .inSelect => b.inSelect e
  | .inSelectInTable => b.inSelectInTable e
  | .inTemplate => b.inTemplateContent e
  | .afterBody => b.afterBody e
  | .inFrameset => b.inFrameset e
  | .afterFrameset => b.afterFrameset e
  | .afterAfterBody => b.afterAfterBody e
  | .afterAfterFrameset => b.afterAfterFrameset e

/-- Breaks out of SVG and MathML. -/
def breakOut (b : Builder) (e : Event) : Outcome :=
  (b.popWhile fun e => e.family ≠ .html && !e.holdsMathText && !e.holdsHtml).byMode e

/-- What an end tag in SVG or MathML does: it closes the innermost element of
its name, if no HTML element stands before it. -/
inductive ForeignEnd where
  | close (rest : List OpenElement)
  | asHtml
  | ignore

/-- Looks for the element that an end tag closes. The root is out of reach. -/
def foreignEnd (name : String) : List OpenElement → ForeignEnd
  | [] | [_] => .ignore
  | e :: rest =>
    if e.family = .html then .asHtml
    else if e.name = name then .close rest
    else foreignEnd name rest

/-- The rules inside SVG and MathML. -/
def inForeign (b : Builder) (e : Event) : Outcome :=
  match e with
  | .char c =>
    if c = '\x00' then .done (b.insertChar '\ufffd')
    else .done ((if isSpace c then b else b.forbidFrameset).insertChar c)
  | .comment => .done b.insertComment
  | .startTag tag =>
    if tag.breaksOut then b.breakOut e
    else .done (b.insertForeign tag ((b.current?.map (·.family)).getD .html))
  | .endTag name =>
    if name = "br" || name = "p" then b.breakOut e
    else
      match foreignEnd name b.stack with
      | .close rest => .done { b with stack := rest }
      | .asHtml => b.byMode e
      | .ignore => .done b
  | .finish => .done b

/-- The rules for an event. -/
def step (b : Builder) (e : Event) : Outcome :=
  if b.followsForeign e then b.inForeign e else b.byMode e

end Builder
end Html
end RuleHarvest
