/-
# Asking again

A request that fails in a way that may pass is made again, after a wait, as
often as the settings allow. The last outcome counts. Each further attempt is
announced by a warning that tells what went wrong before.

Key definitions: `RetryWarning`, `retryFrom`, `retrying`.
-/
import RuleHarvest.Fetch.Config
import RuleHarvest.Fetch.Error

namespace RuleHarvest

/-- The announcement of a further attempt. -/
structure RetryWarning where
  url : String
  /-- The number of the attempt that failed, counted from one. -/
  attempt : Nat
  delayMillis : Nat
  /-- What went wrong. -/
  error : String
deriving Repr, DecidableEq

variable {σ α : Type}

/-- The warning after attempt number `attempt`, counted from zero. -/
def retryWarning (config : Config) (url : String) (attempt : Nat) (e : FetchError) : RetryWarning :=
  ⟨url, attempt + 1, (config.backoff attempt).millis, e.message⟩

/-- Attempts from number `attempt` on, with at most `left` more after the first
of them. `ask` makes one attempt, and `s` is what it depends on. -/
def retryFrom (config : Config) (url : String) (ask : σ → Except FetchError α × σ) :
    Nat → Nat → σ → Except FetchError α × List RetryWarning × σ
  | left, attempt, s =>
    match ask s, left with
    | (.error e, s), left + 1 =>
      if e.isTransient then
        let (result, warnings, s) := retryFrom config url ask left (attempt + 1) s
        (result, retryWarning config url attempt e :: warnings, s)
      else (.error e, [], s)
    | (result, s), _ => (result, [], s)

/-- All attempts at a request. -/
def retrying (config : Config) (url : String) (ask : σ → Except FetchError α × σ) (s : σ) :
    Except FetchError α × List RetryWarning × σ :=
  retryFrom config url ask config.maxRetries 0 s

end RuleHarvest
