/-
# Settings of a harvest

How many pages are fetched at once, how long each may take, under which name
the program asks, and how often and after which wait a page is asked for
again. The wait doubles from one attempt to the next, sixteen times at most.

Key definitions: `Config`, `Config.backoff`.
-/
import RuleHarvest.Fetch.Duration

namespace RuleHarvest

/-- The version of the program. -/
def version : String := "0.1.0"

/-- Settings of a harvest. -/
structure Config where
  /-- How many pages are fetched at once. Zero counts as one. -/
  concurrency : Nat := 4
  /-- How long one attempt may take. -/
  timeout : Duration := .ofSeconds 30
  userAgent : String := "fedrules/" ++ version
  /-- How many attempts may follow the first. -/
  maxRetries : Nat := 0
  /-- The wait before the second attempt. -/
  retryBackoff : Duration := .ofMillis 500
deriving DecidableEq

/-- The wait after attempt number `attempt`, counted from zero. -/
def Config.backoff (c : Config) (attempt : Nat) : Duration :=
  c.retryBackoff.times (Nat.pow 2 (min attempt 16))

end RuleHarvest
