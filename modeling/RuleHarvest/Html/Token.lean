/-
# Tokens of an HTML page

A page is cut into tokens: runs of text, tags, comments and document types.
Character references in text and in attribute values are already replaced,
names are in lower case, and U+0000 in a name is U+FFFD. Of a comment nothing
is kept but that it stood there, since it parts two text nodes; of a document
type only whether it asks for quirks mode.

Key definitions: `Attribute`, `Tag`, `Token`, `TextModel`.
-/
namespace RuleHarvest
namespace Html

/-- The white space of HTML syntax. -/
def isSpace (c : Char) : Bool :=
  c = ' ' || c = '\n' || c = '\t' || c = '\x0c' || c = '\r'

/-- An attribute, its name in lower case. -/
structure Attribute where
  name : String
  value : String
deriving Repr, DecidableEq

/-- A start tag. No two attributes have the same name. -/
structure Tag where
  name : String
  attributes : List Attribute := []
  selfClosing : Bool := false
deriving Repr, DecidableEq

/-- The value of a tag's attribute. -/
def Tag.attribute? (t : Tag) (name : String) : Option String :=
  (t.attributes.find? (·.name = name)).map (·.value)

/-- Same name and same attributes in any order. -/
def Tag.sameAs (s t : Tag) : Bool :=
  s.name = t.name && s.attributes.length = t.attributes.length &&
    s.attributes.all (t.attributes.contains ·)

/-- A token of a page. `finish` stands for the end of the page. -/
inductive Token where
  | text (run : List Char)
  | startTag (tag : Tag)
  | endTag (name : String)
  | comment
  | doctype (quirks : Bool)
  | finish
deriving Repr, DecidableEq

/-- How text is read. `markup` is the normal way. In the others text runs to
the end tag of the element that is open: `references` replaces character
references, `raw` takes text as it is, `script` does too but hides end tags
inside a commented script. `verbatim` is text to the end of the page. -/
inductive TextModel where
  | markup
  | references (element : String)
  | raw (element : String)
  | script
  | verbatim
deriving Repr, DecidableEq

end Html
end RuleHarvest
