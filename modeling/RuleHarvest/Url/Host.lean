/-
# Hosts

The host of a URL is a domain name or an address. A domain name is decoded,
brought to lower case and to ASCII; if its last part is a number the whole is
an IPv4 address, whose parts may be decimal, octal or hexadecimal. An IPv6
address stands in brackets. Outside the web schemes a host is any text.

Lower case is taken one character at a time, and a few invisible characters
are dropped; other foldings of look-alike characters are not made.

Key definitions: `Host`, `parseIpv4?`, `parseIpv6?`, `domainToAscii?`,
`Host.parse?`, `Host.write`.
-/
import RuleHarvest.Text.Blank
import RuleHarvest.Text.Lowercase
import RuleHarvest.Url.Percent
import RuleHarvest.Url.Punycode

namespace RuleHarvest
namespace Url

/-- The host of a URL. -/
inductive Host where
  | name (s : String)
  | ipv4 (address : Nat)
  | ipv6 (pieces : List Nat)
deriving Repr, DecidableEq

/-! ### IPv4 -/

/-- The value of digits in a base, if all are digits of it. -/
def digitsValue? (base : Nat) (ds : List Char) : Option Nat :=
  ds.foldl (fun n c => do
    let n ← n
    let d ← hexValue? c
    if d < base then some (n * base + d) else none) (some 0)

/-- A part of an IPv4 address: `0x` starts a hexadecimal number, `0` an octal
one. -/
def ipv4Part? (s : List Char) : Option Nat :=
  match s with
  | [] => none
  | '0' :: 'x' :: ds | '0' :: 'X' :: ds => digitsValue? 16 ds
  | '0' :: d :: ds => digitsValue? 8 (d :: ds)
  | ds => digitsValue? 10 ds

/-- The parts of a name between dots, without an empty last part. -/
def hostParts (s : List Char) : List (List Char) :=
  let parts := Text.splitWhere (· = '.') s
  if parts.length > 1 && parts.getLast? = some [] then parts.dropLast else parts

/-- Whether the last part of a name is a number. -/
def endsInNumber (s : List Char) : Bool :=
  match (hostParts s).getLast? with
  | none | some [] => false
  | some part => part.all Char.isDigit || (ipv4Part? part).isSome

/-- The address of a name whose last part is a number. The last part stands for
all bytes that are left. -/
def parseIpv4? (s : List Char) : Option Nat := do
  let parts := hostParts s
  if parts.length > 4 then none
  else
    let numbers ← parts.mapM ipv4Part?
    let last ← numbers.getLast?
    let front := numbers.dropLast
    if front.any (· > 255) || last ≥ Nat.pow 256 (5 - numbers.length) then none
    else some (front.foldl (fun n b => n * 256 + b) 0 * Nat.pow 256 (4 - front.length) + last)

def writeIpv4 (n : Nat) : String :=
  String.intercalate "." ([n / 16777216, n / 65536 % 256, n / 256 % 256, n % 256].map toString)

/-! ### IPv6 -/

/-- The two pieces of an IPv4 address at the end of an IPv6 address: four
decimal numbers without zeros in front. -/
def embeddedIpv4? (s : List Char) : Option (List Nat) := do
  let parts := Text.splitWhere (· = '.') s
  let numbers ← parts.mapM fun p =>
    if p.isEmpty || (p.length > 1 && p.head? = some '0') || !p.all Char.isDigit then none
    else (digitsValue? 10 p).filter (· ≤ 255)
  match numbers with
  | [a, b, c, d] => some [a * 256 + b, c * 256 + d]
  | _ => none

/-- Pieces between colons. The last may be an IPv4 address. -/
def ipv6Pieces? (s : List Char) : Option (List Nat) :=
  if s.isEmpty then some []
  else
    let parts := Text.splitWhere (· = ':') s
    let read (p : List Char) : Option (List Nat) :=
      if p.isEmpty || p.length > 4 then none else (digitsValue? 16 p).map ([·])
    match parts.getLast? with
    | some last =>
      if last.contains '.' then do
        let front ← parts.dropLast.mapM read
        let tail ← embeddedIpv4? last
        some (front.flatten ++ tail)
      else (parts.mapM read).map (·.flatten)
    | none => none

/-- The text before and after the first `::`. -/
def splitDoubleColon : List Char → Option (List Char × List Char)
  | [] => none
  | ':' :: ':' :: rest => some ([], rest)
  | c :: rest => (splitDoubleColon rest).map fun (a, b) => (c :: a, b)

/-- The eight pieces of an IPv6 address. `::` stands for at least one zero. -/
def parseIpv6? (s : List Char) : Option (List Nat) := do
  match splitDoubleColon s with
  | none =>
    let pieces ← ipv6Pieces? s
    if pieces.length = 8 then some pieces else none
  | some (before, after) =>
    if before.contains '.' then none
    else
      let front ← ipv6Pieces? before
      let back ← ipv6Pieces? after
      if front.length + back.length > 7 then none
      else some (front ++ List.replicate (8 - front.length - back.length) 0 ++ back)

/-- The length of the run of zeros at the start. -/
def zerosAtStart (pieces : List Nat) : Nat := (pieces.takeWhile (· = 0)).length

/-- The first longest run of at least two zeros: its place and its length. -/
def longestZeros (pieces : List Nat) : Option (Nat × Nat) :=
  (List.range pieces.length).foldl (fun best i =>
    let n := zerosAtStart (pieces.drop i)
    if n > 1 && best.all (fun b => b.2 < n) then some (i, n) else best) none

def hexText (n : Nat) : String := String.ofList (Nat.toDigits 16 n)

def writeIpv6 (pieces : List Nat) : String :=
  let join (ps : List Nat) := String.intercalate ":" (ps.map hexText)
  match longestZeros pieces with
  | none => "[" ++ join pieces ++ "]"
  | some (i, n) => "[" ++ join (pieces.take i) ++ "::" ++ join (pieces.drop (i + n)) ++ "]"

/-! ### Names -/

/-- Characters that may not stand in a domain name. -/
def forbiddenInDomain (c : Char) : Bool :=
  c.toNat ≤ 0x20 || c.toNat = 0x7F ||
    ['#', '%', '/', ':', '<', '>', '?', '@', '[', '\\', ']', '^', '|'].contains c

/-- Characters that may not stand in any host. -/
def forbiddenInHost (c : Char) : Bool :=
  ['\x00', '\t', '\n', '\r', ' ', '#', '/', ':', '<', '>', '?', '@', '[', '\\', ']', '^', '|'].contains c

/-- A character of a domain name in its common form: full stops of other scripts
are dots, wide forms are narrow, letters are small, and invisible characters
are dropped. -/
def foldDomainChar (c : Char) : List Char :=
  let n := c.toNat
  if n = 0x3002 || n = 0xFF0E || n = 0xFF61 then ['.']
  else if n = 0xAD || n = 0x200B || n = 0x2060 || n = 0xFEFF then []
  else if 0xFF01 ≤ n && n ≤ 0xFF5E then Text.lowercase (Char.ofNat (n - 0xFEE0))
  else Text.lowercase c

/-- Not one of the control characters beyond ASCII. -/
def isVisible (c : Char) : Bool := !(0x80 ≤ c.toNat && c.toNat ≤ 0x9F)

/-- A label in ASCII. One that claims to be in ASCII form must be one. -/
def labelToAscii? (label : List Char) : Option (List Char) :=
  if label.all fun c => c.toNat < 128 then
    if "xn--".toList.isPrefixOf label then
      match Punycode.decode? (label.drop 4) with
      | some decoded =>
        let common := decoded.flatMap foldDomainChar = decoded && decoded.all (isVisible ·)
        if common && decoded.any (128 ≤ ·.toNat) then some label else none
      | none => none
    else some label
  else some ("xn--".toList ++ Punycode.encode label)

/-- A domain name in ASCII. -/
def domainToAscii? (s : List Char) : Option (List Char) := do
  let labels ← (Text.splitWhere (· = '.') (s.flatMap foldDomainChar)).mapM labelToAscii?
  let name := Text.join ['.'] labels
  if name.any forbiddenInDomain then none else some name

/-- An address in brackets. -/
def bracketed? (s : List Char) : Option Host :=
  match s.reverse with
  | ']' :: inner => (parseIpv6? (inner.reverse.drop 1)).map Host.ipv6
  | _ => none

/-- The host of a web address. -/
def Host.parseWeb? (s : List Char) : Option Host := do
  if s.head? = some '[' then bracketed? s
  else
    let decoded ← Text.Utf8.decode? (percentDecode s)
    let name ← domainToAscii? decoded
    if name.isEmpty then none
    else if endsInNumber name then (parseIpv4? name).map Host.ipv4
    else some (.name (String.ofList name))

/-- The host of any other URL. -/
def Host.parseOther? (s : List Char) : Option Host :=
  if s.head? = some '[' then bracketed? s
  else if s.any forbiddenInHost then none
  else some (.name (String.ofList (percentEncode isControl s)))

/-- The host as a URL shows it. -/
def Host.write : Host → String
  | .name s => s
  | .ipv4 n => writeIpv4 n
  | .ipv6 pieces => writeIpv6 pieces

end Url
end RuleHarvest
