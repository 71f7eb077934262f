/-
# Reading a command line

A command line is read from left to right. An argument that starts with a dash
is made of keywords, `--` ends the keywords, and everything else is the value
of the parameter before it or an address. The dash alone is an address.

The value of a parameter may follow in the next argument or be attached to the
keyword, as in `--input=list` or `-ilist`. A value in the next argument may
not start with a dash. It is taken in only when the argument after it has
been recognised, so an unknown keyword there is refused first.

The first fault ends the reading, and so does a request for help or for the
version.

Key definitions: `Given`, `Stop`, `Scan`, `Scan.argument`, `scan`,
`Given.ofArguments`.
-/
import RuleHarvest.CommandLine.Keyword

namespace RuleHarvest
namespace CommandLine

/-- What a command line gives. -/
structure Given where
  urls : List String := []
  ruleIds : List String := []
  value? : (s : Setting) → Option s.Value := fun _ => none
  verbose : Bool := false

/-- Why a command line is not acted upon. -/
inductive Stop where
  | help
  | version
  | refused (e : UsageError)
deriving Repr, DecidableEq

namespace Given

/-- Gives a setting its value. -/
def set (g : Given) (s : Setting) (v : s.Value) : Given :=
  { g with value? := fun t => if h : s = t then some (h ▸ v) else g.value? t }

/-- Takes in the value of a parameter. -/
def take (g : Given) : Parameter → String → Except Stop Given
  | .ruleId, text => .ok { g with ruleIds := g.ruleIds ++ [text] }
  | .setting s, text =>
    if (g.value? s).isSome then .error (.refused (.repeated (.parameter (.setting s))))
    else
      match s.read text with
      | .ok v => .ok (g.set s v)
      | .error fault => .error (.refused (.ofFault s text fault))

/-- Takes in a flag. -/
def raise (g : Given) : Flag → Except Stop Given
  | .verbose =>
    if g.verbose then .error (.refused (.repeated (.flag .verbose))) else .ok { g with verbose := true }
  | .help => .error .help
  | .version => .error .version

end Given

/-! ### Arguments -/

/-- The kinds of arguments. -/
inductive Argument where
  /-- The two dashes after which there are no keywords. -/
  | separator
  | keyword (name : String) (value : Option String)
  | letters (cs : List Char)
  | plain (text : String)
deriving Repr, DecidableEq

def Argument.ofString (text : String) : Argument :=
  match text.toList with
  | ['-', '-'] => .separator
  | '-' :: '-' :: cs =>
    .keyword (String.ofList (cs.takeWhile (· ≠ '=')))
      (if cs.contains '=' then some (String.ofList ((cs.dropWhile (· ≠ '=')).drop 1)) else none)
  | ['-'] => .plain text
  | '-' :: cs => .letters cs
  | _ => .plain text

/-- What the reading waits for. -/
inductive Waiting where
  | nothing
  /-- The value of a parameter is to come. -/
  | value (p : Parameter)
  /-- The value has come and is to be taken in. -/
  | taking (p : Parameter) (text : String)
deriving Repr, DecidableEq

/-- How far the reading has come. -/
structure Scan where
  given : Given := {}
  waiting : Waiting := .nothing

namespace Scan

/-- Takes in the value that waits. -/
def settle (s : Scan) : Except Stop Given :=
  match s.waiting with
  | .nothing => .ok s.given
  | .value p => .error (.refused (.missingValue p))
  | .taking p text => s.given.take p text

/-- A parameter whose value is in the next argument. -/
def await (s : Scan) (p : Parameter) : Except Stop Scan := do
  let g ← s.settle
  .ok ⟨g, .value p⟩

/-- A parameter with its value. -/
def attach (s : Scan) (p : Parameter) (text : String) : Except Stop Scan := do
  let g ← s.settle
  let g ← g.take p text
  .ok ⟨g, .nothing⟩

def flag (s : Scan) (f : Flag) : Except Stop Scan := do
  let g ← s.settle
  let g ← g.raise f
  .ok ⟨g, .nothing⟩

/-- An argument without keywords. -/
def plain (s : Scan) (text : String) : Except Stop Scan :=
  match s.waiting with
  | .value p => .ok { s with waiting := .taking p text }
  | _ => do
    let g ← s.settle
    .ok ⟨{ g with urls := g.urls ++ [text] }, .nothing⟩

/-- A keyword by name, perhaps with a value. -/
def keyword (s : Scan) (name : String) (value : Option String) : Except Stop Scan :=
  match Keyword.ofName? name, value with
  | none, _ => .error (.refused (.unknown ("--" ++ name)))
  | some (.parameter p), some text => s.attach p text
  | some (.parameter p), none => s.await p
  | some (.flag f), some text => .error (.refused (.unwantedValue f text))
  | some (.flag f), none => s.flag f

/-- Keywords by letter. What follows the letter of a parameter is its value. -/
def letters (s : Scan) : List Char → Except Stop Scan
  | [] => .ok s
  | c :: cs =>
    match Keyword.ofLetter? c, cs with
    | none, _ => .error (.refused (.unknown ("-" ++ String.singleton c)))
    | some (.flag f), _ => do letters (← s.flag f) cs
    | some (.parameter p), [] => s.await p
    | some (.parameter p), '=' :: text => s.attach p (String.ofList text)
    | some (.parameter p), text => s.attach p (String.ofList text)

/-- The last part of a command line, in which there are no keywords. -/
def finish (s : Scan) (rest : List String) : Except Stop Given := do
  let g ← s.settle
  .ok { g with urls := g.urls ++ rest }

end Scan

/-- Reads the arguments that are left. -/
def scan : List String → Scan → Except Stop Given
  | [], s => s.finish []
  | text :: rest, s =>
    match Argument.ofString text with
    | .separator => s.finish rest
    | .keyword name value => do scan rest (← s.keyword name value)
    | .letters cs => do scan rest (← s.letters cs)
    | .plain text => do scan rest (← s.plain text)

/-- Reads a command line. -/
def Given.ofArguments (arguments : List String) : Except Stop Given := scan arguments {}

end CommandLine
end RuleHarvest
