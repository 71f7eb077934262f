/-
# The shortest decimal that reads back

A number of the binary format is shown by the fewest decimal digits that
round to it, and among those by the nearest to it. From `10 ^ -5` up to
`10 ^ 16` it is written out, with `.0` if it is whole; other numbers have an
exponent with a sign and at least two digits.

The digits are found on the decimal grids of one, two, … seventeen digits: on
each the two neighbours of the number are tried, and the first grid with a
neighbour that rounds to the number has the digits.

Key definitions: `Binary64.shortest`, `showFloat`.
-/
import RuleHarvest.Number.Binary64

namespace RuleHarvest
namespace Number

/-- A decimal `digits · 10 ^ exponent`. -/
structure Decimal where
  digits : Nat
  exponent : Int
deriving Repr, DecidableEq

/-- `10 ^ k` as a fraction. -/
def tenRatio (k : Int) : Nat × Nat :=
  if 0 ≤ k then (Nat.pow 10 k.toNat, 1) else (1, Nat.pow 10 (-k).toNat)

/-- The exponent of the first digit of a positive fraction, by trying from `k`
downwards. -/
def firstExponent (num den : Nat) : Nat → Int → Int
  | 0, k => k
  | n + 1, k =>
    let (p, q) := tenRatio k
    if p * den ≤ num * q then k else firstExponent num den n (k - 1)

namespace Binary64

/-- Whether a fraction rounds to the number: it lies between the midpoints to
the neighbours, the midpoints included if the mantissa is even. -/
def isNearest (x : Binary64) (num den : Nat) : Bool :=
  let narrow := x.mantissa = leastMantissa && x.exponent > minExponent
  let (low, lowDen) := scale (4 * x.mantissa - (if narrow then 1 else 2)) 4 x.exponent
  let (high, highDen) := scale (4 * x.mantissa + 2) 4 x.exponent
  if x.mantissa % 2 = 0 then low * den ≤ num * lowDen && num * highDen ≤ high * den
  else low * den < num * lowDen && num * highDen < high * den

/-- The decimal with `digits` on the grid `10 ^ k` if it rounds to the number. -/
def decimal? (x : Binary64) (digits : Nat) (k : Int) : Option Decimal :=
  let (p, q) := tenRatio k
  if x.isNearest (digits * p) q then some ⟨digits, k⟩ else none

/-- The nearest decimal on the grid `10 ^ k` that rounds to the number. -/
def onGrid? (x : Binary64) (k : Int) : Option Decimal :=
  let (a, b) := x.toRatio
  let (p, q) := tenRatio k
  let num := a * q
  let den := b * p
  let down := num / den
  let up := down + 1
  let nearer := roundHalfEven num den
  let other := if nearer = down then up else down
  (x.decimal? nearer k).or (x.decimal? other k)

/-- The first decimal found on the grids of `17 - n`, …, 17 digits. -/
def shortestFrom (x : Binary64) (first : Int) : Nat → Decimal
  | 0 => ⟨0, 0⟩
  | n + 1 =>
    match x.onGrid? (first - (16 - n)) with
    | some d => d
    | none => shortestFrom x first n

/-- The shortest decimal of a number. -/
def shortest (x : Binary64) : Decimal :=
  if x.mantissa = 0 then ⟨0, 0⟩
  else
    let (a, b) := x.toRatio
    x.shortestFrom (firstExponent a b 640 310) 17

end Binary64

/-- The decimal digits of a number. -/
def digitsOf (n : Nat) : List Char := Nat.toDigits 10 n

/-- An exponent with its sign and at least two digits. -/
def showExponent (k : Int) : List Char :=
  let digits := digitsOf k.natAbs
  (if k < 0 then '-' else '+') :: (if digits.length < 2 then '0' :: digits else digits)

/-- The digits with zeros at the end taken off, but for one digit. -/
def stripZeros (digits : List Char) : List Char :=
  let kept := (digits.reverse.dropWhile (· = '0')).reverse
  if kept.isEmpty then ['0'] else kept

/-- A decimal as text. `point` is the exponent of its first digit. -/
def Decimal.show (d : Decimal) : List Char :=
  let all := digitsOf d.digits
  let point : Int := d.exponent + all.length - 1
  let digits := stripZeros all
  if point < -5 || 15 < point then
    match digits with
    | [] => []
    | [c] => c :: 'e' :: showExponent point
    | c :: cs => c :: '.' :: cs ++ 'e' :: showExponent point
  else if point < 0 then '0' :: '.' :: List.replicate ((-point).toNat - 1) '0' ++ digits
  else
    let n := point.toNat + 1
    let whole := digits.take n ++ List.replicate (n - digits.length) '0'
    let rest := digits.drop n
    whole ++ '.' :: (if rest.isEmpty then ['0'] else rest)

/-- A number of the binary format as text. -/
def showFloat (negative : Bool) (x : Binary64) : String :=
  String.ofList ((if negative then ['-'] else []) ++ x.shortest.show)

end Number
end RuleHarvest
