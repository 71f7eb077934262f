/-
# Character references

`&name;`, `&#65;` and `&#x41;` stand for characters. A reference that names
nothing stands for itself. The longest name counts. A name without its
semicolon counts too if it is one of the old ones; in an attribute value it
then stands for itself when a letter, a digit or `=` follows, since it is
most likely part of an address.

Key definitions: `numericValue`, `reference?`, `expand`.
-/
import RuleHarvest.Html.CharacterNames

namespace RuleHarvest
namespace Html

/-- What the code points 0x80 to 0x9F stand for: the characters that Windows-1252
has there, or themselves where it has none. -/
def westernControls : List Nat := [
  0x20AC, 0x81, 0x201A, 0x0192, 0x201E, 0x2026, 0x2020, 0x2021, 0x02C6, 0x2030, 0x0160, 0x2039,
  0x0152, 0x8D, 0x017D, 0x8F, 0x90, 0x2018, 0x2019, 0x201C, 0x201D, 0x2022, 0x2013, 0x2014,
  0x02DC, 0x2122, 0x0161, 0x203A, 0x0153, 0x9D, 0x017E, 0x0178]

/-- The character of a numeric reference. Zero, surrogates and numbers beyond
U+10FFFF give U+FFFD. -/
def numericValue (n : Nat) : Char :=
  if n = 0 || n > 0x10FFFF || (0xD800 ≤ n && n ≤ 0xDFFF) then '\ufffd'
  else if 0x80 ≤ n && n ≤ 0x9F then Char.ofNat (westernControls.getD (n - 0x80) n)
  else Char.ofNat n

/-- The value of an ASCII digit in bases up to sixteen. -/
def digitValue (c : Char) : Nat :=
  if c.isDigit then c.toNat - 48 else if c.isLower then c.toNat - 87 else c.toNat - 55

def isHexDigit (c : Char) : Bool :=
  c.isDigit || ('a' ≤ c && c ≤ 'f') || ('A' ≤ c && c ≤ 'F')

/-- The digits at the start of a text as a number, with a semicolon after them:
the character and the length of both. -/
def digits? (isDigit : Char → Bool) (base : Nat) (s : List Char) : Option (List Char × Nat) :=
  match s.takeWhile isDigit with
  | [] => none
  | ds =>
    let value := ds.foldl (fun n c => n * base + digitValue c) 0
    let semicolon := if (s.dropWhile isDigit).head? = some ';' then 1 else 0
    some ([numericValue value], ds.length + semicolon)

/-- The reference after an ampersand: what it stands for and its length without
the ampersand. -/
def reference? (inAttribute : Bool) : List Char → Option (List Char × Nat)
  | '#' :: cs =>
    match cs with
    | c :: r =>
      if c = 'x' || c = 'X' then (digits? isHexDigit 16 r).map fun (v, n) => (v, n + 2)
      else (digits? Char.isDigit 10 cs).map fun (v, n) => (v, n + 1)
    | [] => none
  | cs =>
    match longestName? cs with
    | none => none
    | some (n, closed, value) =>
      let next := (cs.drop n).head?
      if inAttribute && !closed && next.any (fun c => c = '=' || c.isAlphanum) then none
      else some (value, n)

/-- Replaces the references in a text after skipping some characters. -/
def expandFrom (inAttribute : Bool) : Nat → List Char → List Char
  | _, [] => []
  | n + 1, _ :: cs => expandFrom inAttribute n cs
  | 0, c :: cs =>
    if c = '&' then
      match reference? inAttribute cs with
      | some (value, n) => value ++ expandFrom inAttribute n cs
      | none => '&' :: expandFrom inAttribute 0 cs
    else c :: expandFrom inAttribute 0 cs

/-- A text with its character references replaced. -/
def expand (inAttribute : Bool) (s : List Char) : List Char := expandFrom inAttribute 0 s

end Html
end RuleHarvest
