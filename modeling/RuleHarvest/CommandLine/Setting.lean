/-
# Settings

A setting has a value for each run. The value comes from the command line, or
else from a variable of the environment, or else is the default. Here stand
the settings, their names, what values they have and how these are read.

The output directory and the input file are paths, which must not be empty.
The name of the output file and the name of the program may be any text.

Key definitions: `Setting`, `Setting.Value`, `Setting.default`,
`Setting.read`, `Environment`.
-/
import RuleHarvest.CommandLine.Number
import RuleHarvest.Fetch.Config

namespace RuleHarvest
namespace CommandLine

inductive Setting where
  | input
  | dataPath
  | filename
  | concurrency
  | timeoutSecs
  | maxRetries
  | retryBackoffMs
  | userAgent
deriving Repr, DecidableEq

namespace Setting

/-- All settings, in the order in which they are looked up. -/
def all : List Setting :=
  [input, dataPath, filename, concurrency, timeoutSecs, maxRetries, retryBackoffMs, userAgent]

theorem mem_all (s : Setting) : s ∈ all := by cases s <;> decide

/-- What a setting's value is. Only the input file may be missing. -/
abbrev Value : Setting → Type
  | input => Option String
  | dataPath | filename | userAgent => String
  | concurrency | timeoutSecs | maxRetries | retryBackoffMs => Nat

/-! ### Names -/

/-- The name after the two dashes. -/
def name : Setting → String
  | input => "input"
  | dataPath => "data-path"
  | filename => "filename"
  | concurrency => "concurrency"
  | timeoutSecs => "timeout-secs"
  | maxRetries => "max-retries"
  | retryBackoffMs => "retry-backoff-ms"
  | userAgent => "user-agent"

/-- What messages call the value. -/
def valueName : Setting → String
  | input => "INPUT"
  | dataPath => "DATA_PATH"
  | filename => "FILENAME"
  | concurrency => "CONCURRENCY"
  | timeoutSecs => "TIMEOUT_SECS"
  | maxRetries => "MAX_RETRIES"
  | retryBackoffMs => "RETRY_BACKOFF_MS"
  | userAgent => "USER_AGENT"

/-- The variable of the environment. -/
def variableName (s : Setting) : String := "FEDRULES_" ++ s.valueName

/-! ### Values -/

/-- The value when neither the command line nor the environment gives one. -/
def default : (s : Setting) → s.Value
  | input => none
  | dataPath => "raw_data"
  | filename => "rule_detail_test"
  | concurrency => 4
  | timeoutSecs => 30
  | maxRetries => 0
  | retryBackoffMs => 500
  | userAgent => ({} : Config).userAgent

/-- Why a text is not a value. -/
inductive Fault where
  /-- A path is empty. -/
  | missing
  | number (fault : NumberFault)
deriving Repr, DecidableEq

/-- Reads a path. -/
def readPath (text : String) : Except Fault String :=
  if text.isEmpty then .error .missing else .ok text

/-- The largest number of 64 bits. -/
def most64 : Nat := UInt64.size - 1

/-- The largest number of 32 bits. -/
def most32 : Nat := UInt32.size - 1

/-- Reads a value. -/
def read : (s : Setting) → String → Except Fault s.Value
  | input, text => (readPath text).map some
  | dataPath, text => readPath text
  | filename, text | userAgent, text => .ok text
  | concurrency, text | timeoutSecs, text | retryBackoffMs, text =>
    (readNatural most64 text.toList).mapError .number
  | maxRetries, text => (readCount most32 text.toList).mapError .number

end Setting

/-- The variables that are set, by name. -/
abbrev Environment := String → Option String

end CommandLine
end RuleHarvest
