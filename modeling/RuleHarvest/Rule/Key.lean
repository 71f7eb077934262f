/-
# Field keys

A page shows its fields under labels such as `Received by GAO:`. A key is what
is left of a label when only its letters and digits count: the runs of
alphanumeric characters in lower case, with an underscore between each two.
Labels that differ in case or in other characters have the same key.

Key definitions: `keyRuns`, `fieldKey`.
-/
import RuleHarvest.Text.Alphanumeric
import RuleHarvest.Text.Blank
import RuleHarvest.Text.Lowercase

namespace RuleHarvest

/-- The runs of alphanumeric characters of a label, in lower case. -/
def keyRuns (label : List Char) : List (List Char) :=
  (Text.runs Text.isAlphanumeric label).map fun run => run.flatMap Text.lowercase

/-- The key of a label, on characters. -/
def keyChars (label : List Char) : List Char := Text.join ['_'] (keyRuns label)

/-- The key of a label. It is empty if the label has no letter or digit. -/
def fieldKey (label : String) : String := String.ofList (keyChars label.toList)

end RuleHarvest
