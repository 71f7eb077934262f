/-
# The options of a run

Where the command line gives no value, the environment is asked. A variable
counts only if its setting is not on the command line; then its value must be
one that the setting admits. The settings are looked up in a fixed order, and
the first fault counts.

Key definitions: `Options`, `Given.lookup`, `Given.resolve`,
`Options.ofArguments`, `Options.config`.
-/
import RuleHarvest.CommandLine.Given

namespace RuleHarvest
namespace CommandLine

/-- What a run is to do. -/
structure Options where
  urls : List String
  ruleIds : List String
  value : (s : Setting) → s.Value
  verbose : Bool

namespace Given

/-- The value of a setting. -/
def lookup (g : Given) (environment : Environment) (s : Setting) : Except UsageError s.Value :=
  match g.value? s, environment s.variableName with
  | some v, _ => .ok v
  | none, some text => (s.read text).mapError (.ofFault s text)
  | none, none => .ok s.default

/-- Looks up all settings. -/
def resolve (g : Given) (environment : Environment) : Except UsageError Options := do
  let input ← g.lookup environment .input
  let dataPath ← g.lookup environment .dataPath
  let filename ← g.lookup environment .filename
  let concurrency ← g.lookup environment .concurrency
  let timeoutSecs ← g.lookup environment .timeoutSecs
  let maxRetries ← g.lookup environment .maxRetries
  let retryBackoffMs ← g.lookup environment .retryBackoffMs
  let userAgent ← g.lookup environment .userAgent
  let value : (s : Setting) → s.Value := fun
    | .input => input
    | .dataPath => dataPath
    | .filename => filename
    | .concurrency => concurrency
    | .timeoutSecs => timeoutSecs
    | .maxRetries => maxRetries
    | .retryBackoffMs => retryBackoffMs
    | .userAgent => userAgent
  .ok { g with value }

end Given

namespace Options

/-- The options that a command line and an environment ask for. -/
def ofArguments (environment : Environment) (arguments : List String) : Except Stop Options := do
  let g ← Given.ofArguments arguments
  (g.resolve environment).mapError .refused

/-- The settings of the harvest. -/
def config (o : Options) : Config where
  concurrency := o.value .concurrency
  timeout := .ofSeconds (o.value .timeoutSecs)
  userAgent := o.value .userAgent
  maxRetries := o.value .maxRetries
  retryBackoff := .ofMillis (o.value .retryBackoffMs)

end Options
end CommandLine
end RuleHarvest
