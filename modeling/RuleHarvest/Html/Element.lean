/-
# Kinds of elements

How a page is built depends on the names of the elements that are open. An
element belongs to HTML, SVG or MathML; the lists here are of HTML elements
unless they say otherwise. Names of foreign elements stay in lower case.

Key definitions: `Family`, `OpenElement` and the tests on it.
-/
namespace RuleHarvest
namespace Html

/-- The vocabularies of elements. -/
inductive Family where
  | html
  | svg
  | mathml
deriving Repr, DecidableEq

/-- An element whose end has not been reached: its number in the node table,
its vocabulary and its name. -/
structure OpenElement where
  id : Nat
  family : Family
  name : String
deriving Repr, DecidableEq

namespace OpenElement

/-- An HTML element of this name. -/
def isNamed (e : OpenElement) (name : String) : Bool := e.family = .html && e.name = name

/-- An HTML element with one of these names. -/
def isOneOf (e : OpenElement) (names : List String) : Bool :=
  e.family = .html && names.contains e.name

end OpenElement

/-- Elements that end a search for an open inline element. -/
def specialNames : List String := [
  "address", "applet", "area", "article", "aside", "base", "basefont", "bgsound", "blockquote",
  "body", "br", "button", "caption", "center", "col", "colgroup", "dd", "details", "dir", "div",
  "dl", "dt", "embed", "fieldset", "figcaption", "figure", "footer", "form", "frame", "frameset",
  "h1", "h2", "h3", "h4", "h5", "h6", "head", "header", "hgroup", "hr", "html", "iframe", "img",
  "input", "isindex", "li", "link", "listing", "main", "marquee", "menu", "meta", "nav", "noembed",
  "noframes", "noscript", "object", "ol", "p", "param", "plaintext", "pre", "script", "section",
  "select", "source", "style", "summary", "table", "tbody", "td", "template", "textarea", "tfoot",
  "th", "thead", "title", "tr", "track", "ul", "wbr", "xmp"]

def headingNames : List String := ["h1", "h2", "h3", "h4", "h5", "h6"]

/-- Elements whose end tag may be left out. -/
def impliedEndNames : List String := [
  "dd", "dt", "li", "optgroup", "option", "p", "rb", "rp", "rt", "rtc"]

/-- Elements that the end of a template closes. -/
def templateEndNames : List String :=
  impliedEndNames ++ ["caption", "colgroup", "tbody", "td", "tfoot", "th", "thead", "tr"]

/-- A MathML element that holds text of the page. -/
def OpenElement.holdsMathText (e : OpenElement) : Bool :=
  e.family = .mathml && ["mi", "mo", "mn", "ms", "mtext"].contains e.name

/-- An SVG element that holds HTML. -/
def OpenElement.holdsHtml (e : OpenElement) : Bool :=
  e.family = .svg && ["foreignobject", "desc", "title"].contains e.name

/-! ### Scopes

Whether an element is open "in scope" is asked from the innermost open element
outwards, up to the first element that bounds the scope. -/

/-- Bounds of the ordinary scope. -/
def OpenElement.boundsScope (e : OpenElement) : Bool :=
  e.isOneOf ["applet", "caption", "html", "table", "td", "th", "marquee", "object", "template"] ||
    e.holdsMathText || e.holdsHtml

/-- Bounds of the scope of list items. -/
def OpenElement.boundsListScope (e : OpenElement) : Bool :=
  e.boundsScope || e.isOneOf ["ol", "ul"]

/-- Bounds of the scope of paragraphs. -/
def OpenElement.boundsButtonScope (e : OpenElement) : Bool :=
  e.boundsScope || e.isNamed "button"

/-- Bounds of the scope of table parts. -/
def OpenElement.boundsTableScope (e : OpenElement) : Bool :=
  e.isOneOf ["html", "table", "template"]

/-- Bounds of the scope of a selection list: all but its parts. -/
def OpenElement.boundsSelectScope (e : OpenElement) : Bool :=
  !e.isOneOf ["optgroup", "option"]

/-- Whether an element with the property `target` is open, innermost first,
before one that bounds the scope. -/
def inScope (bounds target : OpenElement → Bool) : List OpenElement → Bool
  | [] => false
  | e :: rest => if target e then true else if bounds e then false else inScope bounds target rest

/-- The open elements below the first one with the property `p`, which is gone
too. -/
def popThrough (p : OpenElement → Bool) : List OpenElement → List OpenElement
  | [] => []
  | e :: rest => if p e then rest else popThrough p rest

end Html
end RuleHarvest
