/-
# Harvesting pages

A harvest fetches the page of each request and makes a record of it. The
records come in the order of the requests. The first request, in that order,
that cannot be fetched fails the whole harvest, and no later page is asked
for.

The pages are fetched here one after the other. A harvest that keeps several
fetches in flight takes their outcomes in the same order (`Batch`).

Key definitions: `checkConfig`, `harvestOne`, `harvestAll`, `harvest`.
-/
import RuleHarvest.Fetch.Network
import RuleHarvest.Fetch.Retry
import RuleHarvest.Rule.Extract

namespace RuleHarvest

/-- A character that a header can carry: not a control character, but for the
tab. -/
def isHeaderChar (c : Char) : Bool := c = '\t' || (32 ≤ c.toNat && c.toNat ≠ 127)

/-- Refuses settings under which no request can be made. -/
def checkConfig (c : Config) : Except FetchError Unit :=
  if (Text.trim c.userAgent.toList).isEmpty then .error (.config "user agent must not be empty")
  else if !c.userAgent.toList.all isHeaderChar then .error (.http (.unbuildable none))
  else .ok ()

/-- What a harvest leaves behind: the requests that were received and the
warnings. -/
structure Trail where
  traffic : Traffic := []
  warnings : List RetryWarning := []
deriving Repr, DecidableEq

/-- Fetches one page and makes a record of it. `now` is the time. -/
def harvestOne (network : Network) (config : Config) (now : String) (r : Request) (trail : Trail) :
    Except FetchError Record × Trail :=
  let (page, warnings, traffic) := retrying config r.url (fetchPage network config r.url) trail.traffic
  (page.map fun html => extract r.url html now, ⟨traffic, trail.warnings ++ warnings⟩)

/-- Fetches pages up to the first that fails. -/
def harvestAll (network : Network) (config : Config) (now : String) :
    List Request → Trail → Except FetchError (List Record) × Trail
  | [], trail => (.ok [], trail)
  | r :: rs, trail =>
    match harvestOne network config now r trail with
    | (.error e, trail) => (.error e, trail)
    | (.ok record, trail) =>
      let (records, trail) := harvestAll network config now rs trail
      (records.map (record :: ·), trail)

/-- A harvest, if the settings allow one. -/
def harvest (network : Network) (config : Config) (now : String) (requests : List Request) :
    Except FetchError (List Record) × Trail :=
  match checkConfig config with
  | .error e => (.error e, {})
  | .ok () => harvestAll network config now requests {}

end RuleHarvest
