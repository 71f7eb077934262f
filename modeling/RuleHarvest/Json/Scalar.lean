/-
# Reading the parts of a JSON text

White space, words, numbers and texts. A reader takes the text from some place
on and returns what it read with the rest, or a fault.

Texts are read in two ways. A text that counts must have its surrogates in
pairs; a text that is skipped is only checked for its end.

Key definitions: `skipBlank`, `readWord`, `readNumber`, `skipNumber`,
`readText`, `skipText`.
-/
import RuleHarvest.Json.Fault

namespace RuleHarvest
namespace Json

/-- The white space of JSON. -/
def isBlank (c : Char) : Bool := c = ' ' || c = '\n' || c = '\t' || c = '\r'

/-- The text after white space. -/
def skipBlank (s : List Char) : List Char := s.dropWhile isBlank

/-- The rest of a word. -/
def readWord : List Char → List Char → Except Fault (List Char)
  | [], s => .ok s
  | _ :: _, [] => .error (.here .endInValue [])
  | w :: ws, c :: cs => if c = w then readWord ws cs else .error (.next .noWord (c :: cs))

/-! ### Numbers -/

def digit (c : Char) : Nat := c.toNat - 48

/-- The greatest significand that is kept. -/
def maxSignificand : Nat := UInt64.size - 1

/-- Adds digits to a significand as long as it stays in range, and counts the
digits from the first that does not fit on. -/
def pile (significand : Nat) : List Char → Nat × Nat
  | [] => (significand, 0)
  | d :: ds =>
    if significand * 10 + digit d > maxSignificand then (significand, ds.length + 1)
    else pile (significand * 10 + digit d) ds

/-- A finite number read as `significand · 10 ^ exponent`. -/
def floatFound (negative : Bool) (significand : Nat) (exponent : Int) (rest : List Char) :
    Except Fault (Found × List Char) :=
  match Number.Binary64.ofScaled? significand exponent with
  | some x => .ok (.float negative x, rest)
  | none => .error (.here .numberTooLarge rest)

/-- The digits of an exponent, up to the first with which it exceeds the range
of 32 bits. The digits after that one are the last part. -/
def pileExponent (k : Nat) : List Char → Nat × Option (List Char)
  | [] => (k, none)
  | d :: ds => if k * 10 + digit d > 2147483647 then (k, some ds) else pileExponent (k * 10 + digit d) ds

/-- A number whose exponent follows. -/
def readExponent (negative : Bool) (significand : Nat) (start : Int) (s : List Char) :
    Except Fault (Found × List Char) :=
  let (down, s) := match s with
    | '-' :: cs => (true, cs)
    | '+' :: cs => (false, cs)
    | cs => (false, cs)
  let digits := s.takeWhile Char.isDigit
  let rest := s.dropWhile Char.isDigit
  match digits, s with
  | [], [] => .error (.here .endInValue [])
  | [], _ => .error (.next .badNumber s)
  | _, _ =>
    match pileExponent 0 digits with
    | (_, some unread) =>
      if significand ≠ 0 && !down then .error (.here .numberTooLarge (unread ++ rest))
      else .ok (.float negative .zero, rest)
    | (k, none) => floatFound negative significand (if down then start - k else start + k) rest

/-- A number whose fraction follows. -/
def readFraction (negative : Bool) (significand : Nat) (start : Int) (s : List Char) :
    Except Fault (Found × List Char) :=
  let digits := s.takeWhile Char.isDigit
  let rest := s.dropWhile Char.isDigit
  let (significand, left) := pile significand digits
  let exponent := start - (digits.length - left)
  match digits, rest with
  | [], [] => .error (.here .endInValue [])
  | [], _ => .error (.next .badNumber rest)
  | _, 'e' :: cs | _, 'E' :: cs => readExponent negative significand exponent cs
  | _, _ => floatFound negative significand exponent rest

/-- A number after its whole part. -/
def readNumberTail (negative : Bool) (significand left : Nat) (s : List Char) :
    Except Fault (Found × List Char) :=
  match s with
  | '.' :: cs => readFraction negative significand left cs
  | 'e' :: cs | 'E' :: cs => readExponent negative significand left cs
  | _ =>
    if left ≠ 0 then floatFound negative significand left s
    else if !negative then .ok (.int significand, s)
    else if 0 < significand && significand ≤ UInt64.size / 2 then .ok (.int (-significand), s)
    else floatFound true significand 0 s

/-- A number after its sign. -/
def readNumber (negative : Bool) (s : List Char) : Except Fault (Found × List Char) :=
  match s with
  | [] => .error (.here .endInValue [])
  | '0' :: cs =>
    if cs.head?.any Char.isDigit then .error (.next .badNumber cs) else readNumberTail negative 0 0 cs
  | c :: _ =>
    if c.isDigit then
      let (significand, left) := pile 0 (s.takeWhile Char.isDigit)
      readNumberTail negative significand left (s.dropWhile Char.isDigit)
    else .error (.next .badNumber s)

/-- The text after the digits of an exponent. -/
def skipExponent (s : List Char) : Except Fault (List Char) :=
  let s := match s with
    | '-' :: cs | '+' :: cs => cs
    | cs => cs
  match s with
  | [] => .error (.here .badNumber [])
  | c :: cs => if c.isDigit then .ok (cs.dropWhile Char.isDigit) else .error (.next .badNumber s)

/-- The text after a fraction. -/
def skipFraction (s : List Char) : Except Fault (List Char) :=
  if s.head?.any Char.isDigit then
    match s.dropWhile Char.isDigit with
    | 'e' :: cs | 'E' :: cs => skipExponent cs
    | rest => .ok rest
  else .error (.next .badNumber s)

/-- The text after a number, from behind its sign. Its value does not count. -/
def skipNumber (s : List Char) : Except Fault (List Char) :=
  let tail (s : List Char) : Except Fault (List Char) :=
    match s with
    | '.' :: cs => skipFraction cs
    | 'e' :: cs | 'E' :: cs => skipExponent cs
    | _ => .ok s
  match s with
  | [] => .error (.here .badNumber [])
  | '0' :: cs => if cs.head?.any Char.isDigit then .error (.next .badNumber cs) else tail cs
  | c :: _ =>
    if c.isDigit then tail (s.dropWhile Char.isDigit) else .error (.next .badNumber s)

/-! ### Texts -/

/-- The value of a hexadecimal digit. -/
def hexValue? (c : Char) : Option Nat :=
  if c.isDigit then some (c.toNat - 48)
  else if 'a' ≤ c && c ≤ 'f' then some (c.toNat - 87)
  else if 'A' ≤ c && c ≤ 'F' then some (c.toNat - 55)
  else none

/-- Four hexadecimal digits. What is too short for four bytes is an end. -/
def readHex (s : List Char) : Except Fault (Nat × List Char) :=
  if (Text.Utf8.encode (s.take 4)).length < 4 then .error (.here .endInText [])
  else
    match s with
    | a :: b :: c :: d :: rest =>
      match hexValue? a, hexValue? b, hexValue? c, hexValue? d with
      | some a, some b, some c, some d => .ok (((a * 16 + b) * 16 + c) * 16 + d, rest)
      | _, _, _, _ => .error ⟨.badEscape, s, 4⟩
    | _ => .error ⟨.badEscape, s, 4⟩

def isHighSurrogate (n : Nat) : Bool := 0xD800 ≤ n && n ≤ 0xDBFF

def isLowSurrogate (n : Nat) : Bool := 0xDC00 ≤ n && n ≤ 0xDFFF

/-- The second half of a surrogate pair whose first half is `high`. -/
def readLowHalf (high : Nat) (s : List Char) : Except Fault (Char × List Char) :=
  match s with
  | [] => .error (.here .endInText [])
  | '\\' :: cs =>
    match cs with
    | [] => .error (.here .endInText [])
    | 'u' :: ds => do
      let (low, rest) ← readHex ds
      if isLowSurrogate low then
        .ok (Char.ofNat ((high - 0xD800) * 1024 + (low - 0xDC00) + 0x10000), rest)
      else .error (.here .loneSurrogate rest)
    | _ => .error (.next .endOfPair cs)
  | _ => .error (.next .endOfPair s)

/-- The character of an escape, from behind the backslash. -/
def readEscape (s : List Char) : Except Fault (Char × List Char) :=
  match s with
  | [] => .error (.here .endInText [])
  | '"' :: cs => .ok ('"', cs)
  | '\\' :: cs => .ok ('\\', cs)
  | '/' :: cs => .ok ('/', cs)
  | 'b' :: cs => .ok ('\x08', cs)
  | 'f' :: cs => .ok ('\x0c', cs)
  | 'n' :: cs => .ok ('\n', cs)
  | 'r' :: cs => .ok ('\r', cs)
  | 't' :: cs => .ok ('\t', cs)
  | 'u' :: cs => do
    let (n, rest) ← readHex cs
    if isLowSurrogate n then .error (.here .loneSurrogate rest)
    else if isHighSurrogate n then readLowHalf n rest
    else .ok (Char.ofNat n, rest)
  | _ => .error (.next .badEscape s)

/-- The characters up to the closing quotation mark, after the first `n`, which
belong to an escape. -/
def readTextFrom : Nat → List Char → Except Fault (List Char × List Char)
  | _, [] => .error (.here .endInText [])
  | n + 1, _ :: cs => readTextFrom n cs
  | 0, c :: cs =>
    if c = '"' then .ok ([], cs)
    else if c = '\\' then do
      let (e, after) ← readEscape cs
      let (s, rest) ← readTextFrom (cs.length - after.length) cs
      .ok (e :: s, rest)
    else if c.toNat < 32 then .error (.next .controlCharacter (c :: cs))
    else do
      let (s, rest) ← readTextFrom 0 cs
      .ok (c :: s, rest)

/-- A text, from behind its opening quotation mark. -/
def readText (s : List Char) : Except Fault (List Char × List Char) := readTextFrom 0 s

/-- The text after an escape that does not count, from behind the backslash. -/
def skipEscape (s : List Char) : Except Fault (List Char) :=
  match s with
  | [] => .error (.here .endInText [])
  | 'u' :: cs => (readHex cs).map (·.2)
  | c :: cs =>
    if ['"', '\\', '/', 'b', 'f', 'n', 'r', 't'].contains c then .ok cs
    else .error (.next .badEscape s)

/-- The text after the closing quotation mark, without the first `n`
characters. -/
def skipTextFrom : Nat → List Char → Except Fault (List Char)
  | _, [] => .error (.here .endInText [])
  | n + 1, _ :: cs => skipTextFrom n cs
  | 0, c :: cs =>
    if c = '"' then .ok cs
    else if c = '\\' then do
      let after ← skipEscape cs
      skipTextFrom (cs.length - after.length) cs
    else if c.toNat < 32 then .error (.here .controlCharacter (c :: cs))
    else skipTextFrom 0 cs

/-- The text after a text that does not count, from behind its opening
quotation mark. -/
def skipText (s : List Char) : Except Fault (List Char) := skipTextFrom 0 s

end Json
end RuleHarvest
