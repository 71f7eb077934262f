/-
# Numbers on the command line

A number is a row of ASCII digits with an optional sign in front. It is read
digit by digit, and the first fault ends the reading: so a number that is too
large is refused as such even if something else than a digit comes later.

A number that may not be negative has no minus sign: the sign is refused like
any other character that is not a digit. A count is read with its sign first
and then held against its range.

Key definitions: `NumberFault`, `NumberFault.message`, `readNatural`,
`readInteger`, `readCount`.
-/
namespace RuleHarvest
namespace CommandLine

/-- Why a text is not a number of the kind that is asked for. -/
inductive NumberFault where
  | empty
  | notDigit
  | tooLarge
  | tooSmall
  /-- A number out of the range from zero to `most`. -/
  | outOfRange (n : Int) (most : Nat)
deriving Repr, DecidableEq

def NumberFault.message : NumberFault → String
  | .empty => "cannot parse integer from empty string"
  | .notDigit => "invalid digit found in string"
  | .tooLarge => "number too large to fit in target type"
  | .tooSmall => "number too small to fit in target type"
  | .outOfRange n most => toString n ++ " is not in 0..=" ++ toString most

/-- Reads digits after a number `n`. `most` is the largest number allowed. -/
def readDigits (most : Nat) : Nat → List Char → Except NumberFault Nat
  | n, [] => .ok n
  | n, c :: cs =>
    if !c.isDigit then .error .notDigit
    else
      let next := 10 * n + (c.toNat - '0'.toNat)
      if next ≤ most then readDigits most next cs else .error .tooLarge

/-- Reads a number from zero to `most`. -/
def readNatural (most : Nat) : List Char → Except NumberFault Nat
  | [] => .error .empty
  | ['+'] => .error .notDigit
  | '+' :: cs => readDigits most 0 cs
  | cs => readDigits most 0 cs

/-- Reads a number that fits 64 bits with a sign. -/
def readInteger : List Char → Except NumberFault Int
  | ['-'] => .error .notDigit
  | '-' :: cs =>
    match readDigits (UInt64.size / 2) 0 cs with
    | .ok n => .ok (-n)
    | .error .tooLarge => .error .tooSmall
    | .error fault => .error fault
  | cs => (readNatural (UInt64.size / 2 - 1) cs).map Int.ofNat

/-- Reads a number and holds it against the range from zero to `most`. -/
def readCount (most : Nat) (s : List Char) : Except NumberFault Nat :=
  match readInteger s with
  | .ok n => if 0 ≤ n ∧ n ≤ most then .ok n.toNat else .error (.outOfRange n most)
  | .error fault => .error fault

end CommandLine
end RuleHarvest
