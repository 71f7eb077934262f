/-
# Faults in a JSON text

Why a text is refused, and where. A fault keeps what of the text was left
unread when it was found; from that and the whole text come line and column.
Columns count bytes.

Key definitions: `Found`, `Problem`, `Problem.message`, `Fault`,
`Fault.message`.
-/
import RuleHarvest.Number.Shortest
import RuleHarvest.Text.Quoted
import RuleHarvest.Text.Utf8

namespace RuleHarvest
namespace Json

/-- A value that stands where another kind was expected. -/
inductive Found where
  | null
  | bool (b : Bool)
  | int (n : Int)
  | float (negative : Bool) (x : Number.Binary64)
  | text (s : List Char)
  | list
  | map
deriving Repr, DecidableEq

/-- The value as messages show it. -/
def Found.show : Found → String
  | .null => "null"
  | .bool b => "boolean \x60" ++ (if b then "true" else "false") ++ "\x60"
  | .int n => "integer \x60" ++ toString n ++ "\x60"
  | .float negative x => "floating point \x60" ++ Number.showFloat negative x ++ "\x60"
  | .text s => "string " ++ Text.quoted (String.ofList s)
  | .list => "sequence"
  | .map => "map"

/-- Why a text is refused. -/
inductive Problem where
  | endInValue
  | endInText
  | endInList
  | endInMap
  | noValue
  | noWord
  | noColon
  | noListEnd
  | noMapEnd
  | trailingComma
  | trailingCharacters
  | keyNotText
  | badNumber
  | numberTooLarge
  | controlCharacter
  | badEscape
  | loneSurrogate
  | endOfPair
  | wrongKind (found : Found) (expected : String)
  | missingMember (name : String)
  | repeatedMember (name : String)
  | wrongLength (length : Nat) (expected : String)
deriving Repr, DecidableEq

def Problem.message : Problem → String
  | .endInValue => "EOF while parsing a value"
  | .endInText => "EOF while parsing a string"
  | .endInList => "EOF while parsing a list"
  | .endInMap => "EOF while parsing an object"
  | .noValue => "expected value"
  | .noWord => "expected ident"
  | .noColon => "expected \x60:\x60"
  | .noListEnd => "expected \x60,\x60 or \x60]\x60"
  | .noMapEnd => "expected \x60,\x60 or \x60\x7d\x60"
  | .trailingComma => "trailing comma"
  | .trailingCharacters => "trailing characters"
  | .keyNotText => "key must be a string"
  | .badNumber => "invalid number"
  | .numberTooLarge => "number out of range"
  | .controlCharacter => "control character (\\u0000-\\u001F) found while parsing a string"
  | .badEscape => "invalid escape"
  | .loneSurrogate => "lone leading surrogate in hex escape"
  | .endOfPair => "unexpected end of hex escape"
  | .wrongKind found expected => "invalid type: " ++ found.show ++ ", expected " ++ expected
  | .missingMember name => "missing field \x60" ++ name ++ "\x60"
  | .repeatedMember name => "duplicate field \x60" ++ name ++ "\x60"
  | .wrongLength length expected => "invalid length " ++ toString length ++ ", expected " ++ expected

/-- A problem and its place: `rest` is the end of the text from there on, and
`ahead` is the number of its bytes that count as seen. -/
structure Fault where
  problem : Problem
  rest : List Char
  ahead : Nat
deriving Repr, DecidableEq

/-- A fault after what was read. -/
def Fault.here (problem : Problem) (rest : List Char) : Fault := ⟨problem, rest, 0⟩

/-- A fault at the byte that comes next. -/
def Fault.next (problem : Problem) (rest : List Char) : Fault := ⟨problem, rest, 1⟩

/-- The bytes of a text up to the place of a fault in it. -/
def Fault.seen (f : Fault) (text : List Char) : List UInt8 :=
  let bytes := Text.Utf8.encode text
  bytes.take (bytes.length - (Text.Utf8.encode f.rest).length + f.ahead)

/-- The line of a fault, counted from one. -/
def Fault.line (f : Fault) (text : List Char) : Nat := 1 + (f.seen text).count 10

/-- The number of bytes of the line up to the place of a fault. -/
def Fault.column (f : Fault) (text : List Char) : Nat :=
  ((f.seen text).reverse.takeWhile (· ≠ 10)).length

/-- The message about a fault in a text. -/
def Fault.message (f : Fault) (text : List Char) : String :=
  f.problem.message ++ " at line " ++ toString (f.line text) ++ " column " ++ toString (f.column text)

end Json
end RuleHarvest
