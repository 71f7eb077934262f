/-
# Punycode

Host names with characters beyond ASCII are sent in ASCII: the ASCII
characters of a label first, then for every other character, in ascending
order, the distance to the one before as a number with digits of varying
weight.

Key definitions: `Punycode.encode`, `Punycode.decode?`.
-/
namespace RuleHarvest
namespace Url
namespace Punycode

/-- The digits are the letters and then the ten digits. -/
def digitChar (n : Nat) : Char := if n < 26 then Char.ofNat (97 + n) else Char.ofNat (22 + n)

def digitValue? (c : Char) : Option Nat :=
  if 'a' ≤ c && c ≤ 'z' then some (c.toNat - 97)
  else if 'A' ≤ c && c ≤ 'Z' then some (c.toNat - 65)
  else if c.isDigit then some (c.toNat - 22)
  else none

/-- Below which value a digit ends a number, at position `k` (36, 72, …). -/
def threshold (k bias : Nat) : Nat := min 26 (max 1 (k - bias))

/-- How often 35 divides a number until at most 455 is left, times 36, and what
is left. -/
def reduce (delta k : Nat) : Nat × Nat :=
  if h : 455 < delta then reduce (delta / 35) (k + 36) else (delta, k)
termination_by delta
decreasing_by omega

/-- The bias after a distance. -/
def adapt (delta points : Nat) (first : Bool) : Nat :=
  let scaled := if first then delta / 700 else delta / 2
  let (left, k) := reduce (scaled + scaled / points) 0
  k + 36 * left / (left + 38)

/-- The digits of a distance, from position `k` on. -/
def digitsFrom (bias k q : Nat) : List Char :=
  let t := threshold k bias
  if h : q < t then [digitChar q]
  else digitChar (t + (q - t) % (36 - t)) :: digitsFrom bias (k + 36) ((q - t) / (36 - t))
termination_by q
decreasing_by
  have h1 : 1 ≤ threshold k bias := by unfold threshold; omega
  have h2 : threshold k bias ≤ 26 := by unfold threshold; omega
  have h3 : (q - threshold k bias) / (36 - threshold k bias) ≤ q - threshold k bias := Nat.div_le_self _ _
  omega

/-- The state of encoding. -/
structure Encoder where
  /-- The code point whose turn it is. -/
  turn : Nat := 128
  delta : Nat := 0
  bias : Nat := 72
  /-- How many characters are encoded. -/
  done : Nat
  output : List Char := []

/-- One character of the label while `turn` has its turn. -/
def Encoder.meet (basic : Nat) (e : Encoder) (c : Nat) : Encoder :=
  if c < e.turn then { e with delta := e.delta + 1 }
  else if c = e.turn then
    { e with
      output := e.output ++ digitsFrom e.bias 36 e.delta
      bias := adapt e.delta (e.done + 1) (e.done = basic)
      delta := 0
      done := e.done + 1 }
  else e

/-- Gives a code point its turn. -/
def Encoder.give (basic : Nat) (label : List Nat) (e : Encoder) (c : Nat) : Encoder :=
  let e := { e with delta := e.delta + (c - e.turn) * (e.done + 1), turn := c }
  let e := label.foldl (meet basic) e
  { e with delta := e.delta + 1, turn := c + 1 }

/-- The ASCII form of a label, without `xn--`. -/
def encode (label : List Char) : List Char :=
  let basic := label.filter fun c => c.toNat < 128
  let points := label.map Char.toNat
  let turns := ((points.filter (128 ≤ ·)).mergeSort).eraseDups
  let start : Encoder := { done := basic.length }
  basic ++ (if basic.isEmpty then [] else ['-']) ++ (turns.foldl (Encoder.give basic.length points) start).output

/-- The number whose digits start here, from position `k` on, and the rest. -/
def numberFrom? (bias : Nat) : Nat → Nat → Nat → List Char → Option (Nat × List Char)
  | _, _, _, [] => none
  | k, weight, value, c :: cs =>
    match digitValue? c with
    | none => none
    | some d =>
      let t := threshold k bias
      let value := value + d * weight
      if d < t then some (value, cs) else numberFrom? bias (k + 36) (weight * (36 - t)) value cs

/-- Puts the characters of the distances that follow into a label. -/
def decodeFrom? : Nat → Nat → Nat → Nat → List Nat → List Char → Option (List Nat)
  | 0, _, _, _, _, _ => none
  | _ + 1, _, _, _, label, [] => some label
  | n + 1, turn, place, bias, label, c :: cs => do
    let (delta, rest) ← numberFrom? bias 36 1 0 (c :: cs)
    let size := label.length + 1
    let place' := place + delta
    let turn := turn + place' / size
    if turn > 0x10FFFF then none
    else
      let at' := place' % size
      decodeFrom? n turn (at' + 1) (adapt delta size (label.all (· < 128)))
        (label.take at' ++ turn :: label.drop at') rest

/-- The label of an ASCII form without `xn--`. -/
def decode? (s : List Char) : Option (List Char) := do
  let tail := (s.reverse.takeWhile (· ≠ '-')).reverse
  let basic := if tail.length = s.length then [] else s.take (s.length - tail.length - 1)
  let points ← decodeFrom? (tail.length + 1) 128 0 72 (basic.map Char.toNat) tail
  if points.all fun p => p < 0xD800 || 0xDFFF < p then some (points.map Char.ofNat) else none

end Punycode
end Url
end RuleHarvest
