/-
# What stands on a command line

Words with a meaning of their own: parameters, which take a value, and flags,
which take none. A keyword is written out after two dashes, and some have a
letter that is written after one.

A number of rule may be given any number of times, everything else once.

Key definitions: `Parameter`, `Flag`, `Keyword`, `Keyword.ofName?`,
`Keyword.ofLetter?`, `UsageError`, `UsageError.message`.
-/
import RuleHarvest.CommandLine.Setting

namespace RuleHarvest
namespace CommandLine

/-- Takes a value. -/
inductive Parameter where
  | ruleId
  | setting (s : Setting)
deriving Repr, DecidableEq

/-- Takes no value. -/
inductive Flag where
  | verbose
  | help
  | version
deriving Repr, DecidableEq

inductive Keyword where
  | parameter (p : Parameter)
  | flag (f : Flag)
deriving Repr, DecidableEq

def Parameter.name : Parameter → String
  | .ruleId => "rule-id"
  | .setting s => s.name

/-- What messages call the value. -/
def Parameter.valueName : Parameter → String
  | .ruleId => "ID"
  | .setting s => s.valueName

def Flag.name : Flag → String
  | .verbose => "verbose"
  | .help => "help"
  | .version => "version"

namespace Keyword

/-- All keywords, in the order of the help text. -/
def all : List Keyword :=
  .parameter .ruleId :: Setting.all.map (.parameter ∘ .setting) ++
    [.flag .verbose, .flag .help, .flag .version]

def name : Keyword → String
  | .parameter p => p.name
  | .flag f => f.name

def letter? : Keyword → Option Char
  | .parameter (.setting .input) => some 'i'
  | .parameter _ => none
  | .flag .verbose => some 'v'
  | .flag .help => some 'h'
  | .flag .version => some 'V'

/-- How texts show a keyword. -/
def shown : Keyword → String
  | .parameter p => "--" ++ p.name ++ " <" ++ p.valueName ++ ">"
  | .flag f => "--" ++ f.name

/-- The keyword of a name. A name counts only in full. -/
def ofName? (name : String) : Option Keyword := all.find? (·.name = name)

def ofLetter? (c : Char) : Option Keyword := all.find? (·.letter? = some c)

end Keyword

/-! ### Refusals -/

/-- Why a command line is refused. -/
inductive UsageError where
  /-- No keyword; `shown` is as much of it as tells that. -/
  | unknown (shown : String)
  /-- A keyword without its value, or with an empty one that may not be. -/
  | missingValue (p : Parameter)
  /-- A flag with a value. -/
  | unwantedValue (f : Flag) (value : String)
  /-- A keyword a second time. -/
  | repeated (k : Keyword)
  | badValue (s : Setting) (value : String) (fault : NumberFault)
deriving Repr, DecidableEq

namespace UsageError

def message : UsageError → String
  | .unknown shown => "error: unexpected argument '" ++ shown ++ "' found"
  | .missingValue p =>
    "error: a value is required for '" ++ (Keyword.parameter p).shown ++ "' but none was supplied"
  | .unwantedValue f value =>
    "error: unexpected value '" ++ value ++ "' for '" ++ (Keyword.flag f).shown ++
      "' found; no more were expected"
  | .repeated k => "error: the argument '" ++ k.shown ++ "' cannot be used multiple times"
  | .badValue s value fault =>
    "error: invalid value '" ++ value ++ "' for '" ++ (Keyword.parameter (.setting s)).shown ++
      "': " ++ fault.message

/-- The message up to its first line end. -/
def firstLine (e : UsageError) : String := String.ofList (e.message.toList.takeWhile (· ≠ '\n'))

/-- A value that a setting does not admit. -/
def ofFault (s : Setting) (value : String) : Setting.Fault → UsageError
  | .missing => .missingValue (.setting s)
  | .number fault => .badValue s value fault

end UsageError
end CommandLine
end RuleHarvest
