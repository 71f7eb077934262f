/-
# Reading a rule page

A rule page shows its fields in one of two shapes: as blocks of the class
`field`, with a label and items in elements of their own, or as definition
lists. Several values under one label are joined with `; `. Blocks come before
lists, and the first value of a key counts. The title is the first heading
that is not blank, or else the title of the document.

The text of an element is the words of all text nodes in it, one space
between each two. Words end where a text node ends.

Key definitions: `textOf`, `blockPairs`, `definitionPairs`, `usablePairs`,
`recordOf`, `extract`.
-/
import RuleHarvest.Html.Document
import RuleHarvest.Rule.PageUrl
import RuleHarvest.Rule.Record

namespace RuleHarvest

open Html (Node Document)

/-- The text of a node. -/
def textOf (n : Node) : String :=
  String.ofList (Text.join [' '] (n.texts.flatMap Text.words))

/-- What stands between the values of one label. -/
def joinValues (values : List String) : String := String.intercalate "; " values

/-- The texts that are not empty. -/
def nonempty (texts : List String) : List String := texts.filter (· ≠ "")

/-! ### Blocks -/

/-- The label and the value of a block, if it has a label. -/
def blockPair? (block : Node) : Option (String × String) :=
  (block.descendants.find? (·.hasClass "field__label")).map fun label =>
    (textOf label,
      joinValues (nonempty ((block.descendants.filter (·.hasClass "field__item")).map textOf)))

/-- The pairs of all blocks of a page. -/
def blockPairs (d : Document) : List (String × String) :=
  (d.elements.filter (·.hasClass "field")).filterMap blockPair?

/-! ### Definition lists -/

/-- The groups of a definition list from some child on: each `dt` with the texts
of the `dd` elements up to the next `dt`. `open?` is the group under way. -/
def groupsFrom (open? : Option (String × List String)) : List Node → List (String × List String)
  | [] => open?.toList
  | n :: rest =>
    if n.isNamed "dt" then open?.toList ++ groupsFrom (some (textOf n, [])) rest
    else if n.isNamed "dd" then
      groupsFrom (open?.map fun (label, values) => (label, values ++ nonempty [textOf n])) rest
    else groupsFrom open? rest

/-- The pairs of a definition list. A `dt` without a value makes none. -/
def listPairs (list : Node) : List (String × String) :=
  ((groupsFrom none list.children).filter (!·.2.isEmpty)).map fun (label, values) =>
    (label, joinValues values)

/-- The pairs of all definition lists of a page. -/
def definitionPairs (d : Document) : List (String × String) :=
  (d.elements.filter (·.isNamed "dl")).flatMap listPairs

/-! ### Records -/

/-- The text of the first element of a name that has one. -/
def firstText? (d : Document) (name : String) : Option String :=
  (nonempty ((d.elements.filter (·.isNamed name)).map textOf)).head?

/-- The title of a page. -/
def title? (d : Document) : Option String := (firstText? d "h1").or (firstText? d "title")

/-- All keys and values of a page that are not empty. -/
def usablePairs (d : Document) : List (String × String) :=
  ((blockPairs d ++ definitionPairs d).map fun (label, value) => (fieldKey label, value)).filter
    fun (key, value) => key ≠ "" && value ≠ ""

/-- The map of a list of pairs. Of several under one key the first counts. -/
def firstWins (pairs : List (String × String)) : FieldMap :=
  pairs.foldl (fun m (key, value) => m.insertNew key value) .empty

/-- The record of a page that was read as a document. -/
def recordOf (url : String) (d : Document) (scrapedAt : String) : Record where
  url := url
  ruleId := ruleId? url
  title := title? d
  fields := firstWins (usablePairs d)
  scrapedAt := scrapedAt

/-- The record of a page. -/
def extract (url page scrapedAt : String) : Record := recordOf url (Document.parse page) scrapedAt

end RuleHarvest
