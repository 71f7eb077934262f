/-
# Requests and records

A request asks for one page; a record is what was read from it.

Key definitions: `Request`, `Record`, `Record.field?`.
-/
import RuleHarvest.Rule.FieldMap
import RuleHarvest.Rule.Key

namespace RuleHarvest

/-- A page to fetch. -/
structure Request where
  url : String
deriving Repr, DecidableEq

/-- One request for each address, in the same order. Nothing is checked, changed
or left out. -/
def buildRequests (urls : List String) : List Request := urls.map Request.mk

/-- What was read from the page of a rule. -/
structure Record where
  /-- The address as it was asked for. -/
  url : String
  ruleId : Option String
  title : Option String
  fields : FieldMap
  /-- When the page was read, as an ISO 8601 text. -/
  scrapedAt : String
deriving DecidableEq

/-- The field under a label, or under its key. -/
def Record.field? (r : Record) (label : String) : Option String := r.fields.get? (fieldKey label)

end RuleHarvest
