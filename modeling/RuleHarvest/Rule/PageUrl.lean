/-
# Addresses of rule pages

Rule pages stand at one address each, which ends in the number of the rule.
This module goes from numbers to addresses and back, and reads lists of
addresses.

Key definitions: `baseUrl`, `ruleUrl`, `ruleId?`, `urlList`.
-/
import RuleHarvest.Text.Blank

namespace RuleHarvest

/-- The address under which the rule pages stand. -/
def baseUrl : String := "https://www.gao.gov/fedrules"

/-- The page of the rule with this number. White space around it is dropped. -/
def ruleUrl (id : String) : String :=
  baseUrl ++ "/" ++ String.ofList (Text.trim id.toList)

/-- The pages that are harvested when none are asked for. -/
def defaultUrls : List String := [
  "https://www.gao.gov/fedrules/207897",
  "https://www.gao.gov/fedrules/207898",
  "https://www.gao.gov/fedrules/207899"]

/-- The address without query and fragment. -/
def pathPart (url : List Char) : List Char := url.takeWhile fun c => c ≠ '?' && c ≠ '#'

/-- The last segment of a path that is not empty. Slashes at its end do not
count. -/
def lastSegment (path : List Char) : List Char :=
  ((Text.dropEndWhile (· = '/') path).reverse.takeWhile (· ≠ '/')).reverse

/-- The number of the rule that an address names: its last segment, if that
consists of digits. -/
def ruleId? (url : String) : Option String :=
  let segment := lastSegment (pathPart url.toList)
  if segment ≠ [] ∧ segment.all Char.isDigit then some (String.ofList segment) else none

/-- A line of a list of addresses counts unless it is blank or a comment. -/
def isListed (line : List Char) : Bool := !line.isEmpty && line.head? ≠ some '#'

/-- The addresses in a text, one to a line. -/
def urlList (text : String) : List String :=
  (((Text.lines text.toList).map Text.trim).filter isListed).map String.ofList

end RuleHarvest
