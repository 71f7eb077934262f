/-
# Why a page is not fetched

A request may fail on its way, the server may refuse it, or the settings may
not allow any request. Some failures are transient: the same request may
succeed later.

Key definitions: `HttpFault`, `FetchError`, `FetchError.message`,
`FetchError.isTransient`.
-/
namespace RuleHarvest

/-- A failure of a request or of its answer. -/
inductive HttpFault where
  /-- A request that cannot be made, with its URL if it has one. -/
  | unbuildable (url : Option String)
  /-- No valid answer. -/
  | noAnswer (url : String)
  /-- One redirect too many, with the URL that redirected. -/
  | tooManyRedirects (url : String)
  /-- An answer whose body breaks off, or does not end before the deadline. -/
  | brokenBody
deriving Repr, DecidableEq

def HttpFault.message : HttpFault → String
  | .unbuildable none => "builder error"
  | .unbuildable (some url) => "builder error for url (" ++ url ++ ")"
  | .noAnswer url => "error sending request for url (" ++ url ++ ")"
  | .tooManyRedirects url => "error following redirect for url (" ++ url ++ ")"
  | .brokenBody => "error decoding response body"

/-- Why a page is not fetched. -/
inductive FetchError where
  | http (fault : HttpFault)
  /-- An answer without success. -/
  | server (url : String) (status : Nat)
  | config (reason : String)
deriving Repr, DecidableEq

namespace FetchError

def message : FetchError → String
  | .http fault => "HTTP request failed: " ++ fault.message
  | .server url status => url ++ " returned " ++ toString status
  | .config reason => "invalid scraper configuration: " ++ reason

/-- Whether another attempt at the same request may succeed. -/
def isTransient : FetchError → Bool
  | .http (.unbuildable _) | .http .brokenBody => false
  | .http (.noAnswer _) | .http (.tooManyRedirects _) => true
  | .server _ status => status ≥ 500 || status = 429
  | .config _ => false

end FetchError
end RuleHarvest
