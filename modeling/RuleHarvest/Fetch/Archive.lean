/-
# Pages kept from before

An archive holds pages by URL. It can take the place of the network: a page
that it does not hold is answered as a server answers a page it does not know.

Key definitions: `Archive`, `Archive.harvest`.
-/
import RuleHarvest.Fetch.Error
import RuleHarvest.Rule.Extract

namespace RuleHarvest

/-- Pages by URL. -/
abbrev Archive := List (String × String)

/-- The record of one request. `now` is the time. -/
def Archive.harvestOne (a : Archive) (now : String) (r : Request) : Except FetchError Record :=
  match a.lookup r.url with
  | some html => .ok (extract r.url html now)
  | none => .error (.server r.url 404)

/-- The records of some requests, up to the first that fails. -/
def Archive.harvest (a : Archive) (now : String) (requests : List Request) :
    Except FetchError (List Record) :=
  requests.mapM (a.harvestOne now)

end RuleHarvest
