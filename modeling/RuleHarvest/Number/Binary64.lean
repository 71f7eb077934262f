/-
# Binary floating-point numbers of 64 bits

A non-negative finite number of the format is `mantissa · 2 ^ exponent` with a
mantissa below `2 ^ 53`. All arithmetic is exact on fractions of natural
numbers and rounded once at the end, to the nearest number of the format and
to an even mantissa halfway between two.

Key definitions: `Binary64`, `ofRatio?`, `mul?`, `div?`, `ofScaled?`.
-/
namespace RuleHarvest
namespace Number

/-- A non-negative finite number, `mantissa · 2 ^ exponent`. -/
structure Binary64 where
  mantissa : Nat
  exponent : Int
deriving Repr, DecidableEq

/-- A quotient rounded to the nearest natural number, to an even one halfway
between two. -/
def roundHalfEven (num den : Nat) : Nat :=
  let q := num / den
  let r := num % den
  if 2 * r < den then q
  else if 2 * r > den then q + 1
  else if q % 2 = 0 then q else q + 1

/-- The fraction `num / den` times `2 ^ k`. -/
def scale (num den : Nat) (k : Int) : Nat × Nat :=
  if 0 ≤ k then (num * Nat.pow 2 k.toNat, den) else (num, den * Nat.pow 2 (-k).toNat)

namespace Binary64

def zero : Binary64 := ⟨0, -1074⟩

/-- The least exponent of the format. -/
def minExponent : Int := -1074

/-- The greatest exponent of the format. -/
def maxExponent : Int := 971

/-- The least mantissa of 53 bits, `2 ^ 52`. -/
def leastMantissa : Nat := 4503599627370496

/-- The exponent that gives a positive fraction a mantissa of 53 bits, or the
least exponent if that is greater. -/
def exponentFor (num den : Nat) : Int :=
  let guess : Int := (Nat.log2 num : Int) - Nat.log2 den - 52
  let (n, d) := scale num den (-guess)
  max minExponent (if n / d < leastMantissa then guess - 1 else guess)

/-- The number nearest to a fraction. There is none beyond the greatest. -/
def ofRatio? (num den : Nat) : Option Binary64 :=
  if num = 0 then some zero
  else
    let q := exponentFor num den
    let (n, d) := scale num den (-q)
    let m := roundHalfEven n d
    let x : Binary64 := if m = 2 * leastMantissa then ⟨leastMantissa, q + 1⟩ else ⟨m, q⟩
    if x.exponent > maxExponent then none else some x

/-- The number as a fraction. -/
def toRatio (x : Binary64) : Nat × Nat := scale x.mantissa 1 x.exponent

def mul? (x y : Binary64) : Option Binary64 :=
  let (a, b) := x.toRatio
  let (c, d) := y.toRatio
  ofRatio? (a * c) (b * d)

def div? (x y : Binary64) : Option Binary64 :=
  let (a, b) := x.toRatio
  let (c, d) := y.toRatio
  ofRatio? (a * d) (b * c)

/-- The number nearest to a power of ten up to `10 ^ 308`. -/
def tenPow? (k : Nat) : Option Binary64 := ofRatio? (Nat.pow 10 k) 1

/-- `x · 10 ^ k`, rounded at each step: powers of ten beyond `10 ^ 308` are
divided by in steps of `10 ^ 308`. Three steps reach zero from any number. -/
def scaleTen? : Nat → Binary64 → Int → Option Binary64
  | 0, _, _ => some zero
  | n + 1, x, k =>
    if x.mantissa = 0 then some x
    else if 308 < k then none
    else if 0 ≤ k then (tenPow? k.toNat).bind x.mul?
    else if -308 ≤ k then (tenPow? (-k).toNat).bind x.div?
    else ((tenPow? 308).bind x.div?).bind fun y => scaleTen? n y (k + 308)

/-- `significand · 10 ^ k`. The significand is rounded first. There is none
beyond the greatest number. -/
def ofScaled? (significand : Nat) (k : Int) : Option Binary64 :=
  (ofRatio? significand 1).bind fun x => scaleTen? 4 x k

end Binary64
end Number
end RuleHarvest
