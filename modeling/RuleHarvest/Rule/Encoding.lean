/-
# Requests and records as JSON

A request is written as a map with its address, a record as a map with its
five members in a fixed order; what a record lacks is `null`. Read back, the
members may come in any order, and the two that a record may lack may be left
out.

Key definitions: `Request.toJson`, `Record.toJson`, `requestShape`,
`recordShape`, `decodeRequest`, `decodeRecord`, `decodeRecords`.
-/
import RuleHarvest.Json.Shape
import RuleHarvest.Json.Value
import RuleHarvest.Rule.Record

namespace RuleHarvest

open Json

/-- A text, or `null` for none. -/
def textJson : Option String → Value
  | some s => .text s
  | none => .null

def Request.toJson (r : Request) : Value := .map [(.text "url", .text r.url)]

/-- The fields by key, in ascending order. -/
def FieldMap.toJson (m : FieldMap) : Value :=
  .map (m.entries.map fun (key, value) => (.text key, .text value))

def Record.toJson (r : Record) : Value :=
  .map [
    (.text "url", .text r.url),
    (.text "rule_id", textJson r.ruleId),
    (.text "title", textJson r.title),
    (.text "fields", r.fields.toJson),
    (.text "scraped_at", .text r.scrapedAt)]

/-! ### Reading -/

/-- A member that must be there. -/
def required {α : Type} (name : String) : Option α → Except String α
  | some a => .ok a
  | none => .error name

/-- The shape of a request. Its draft is the address. -/
def requestShape : Shape (Option String) Request where
  title := "struct ScrapeRequest"
  size := " with 1 element"
  start := none
  slots := [.of "url" textValue id fun _ url => url]
  finish url := do .ok { url := ← required "url" url }

/-- A record with members still missing. -/
structure RecordDraft where
  url : Option String := none
  ruleId : Option (Option String) := none
  title : Option (Option String) := none
  fields : Option (List (String × String)) := none
  scrapedAt : Option String := none

/-- The record of a draft. -/
def RecordDraft.finish (d : RecordDraft) : Except String Record := do
  .ok {
    url := ← required "url" d.url
    ruleId := d.ruleId.join
    title := d.title.join
    fields := .ofList (← required "fields" d.fields)
    scrapedAt := ← required "scraped_at" d.scrapedAt }

/-- The shape of a record. -/
def recordShape : Shape RecordDraft Record where
  title := "struct RuleDetailRecord"
  size := " with 5 elements"
  start := {}
  slots := [
    .of "url" textValue (·.url) fun d url => { d with url },
    .of "rule_id" textOrNull (·.ruleId) fun d ruleId => { d with ruleId },
    .of "title" textOrNull (·.title) fun d title => { d with title },
    .of "fields" textMap (·.fields) fun d fields => { d with fields },
    .of "scraped_at" textValue (·.scrapedAt) fun d scrapedAt => { d with scrapedAt }]
  finish := RecordDraft.finish

/-- The request in a text. -/
def decodeRequest (text : String) : Except Fault Request := decode requestShape.read text.toList

/-- The record in a text. -/
def decodeRecord (text : String) : Except Fault Record := decode recordShape.read text.toList

/-- The records in a text. -/
def decodeRecords (text : String) : Except Fault (List Record) :=
  decode (listOf recordShape.read) text.toList

end RuleHarvest
