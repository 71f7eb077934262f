/-
# Blanks, words and lines

Text is handled as a list of characters. A blank is a character with the
Unicode property White_Space. The words of a text are its maximal runs
without a blank; more generally `runs p` are the maximal runs of characters
with the property `p`. Both come from one split: cut at every separator, then
drop the empty pieces.

Key definitions: `isBlank`, `splitWhere`, `runs`, `words`, `trim`, `lines`.
-/
namespace RuleHarvest
namespace Text

/-- The 25 characters with the property White_Space. -/
def isBlank (c : Char) : Bool :=
  let n := c.toNat
  (9 ≤ n && n ≤ 13) || n = 0x20 || n = 0x85 || n = 0xA0 || n = 0x1680 ||
    (0x2000 ≤ n && n ≤ 0x200A) || n = 0x2028 || n = 0x2029 || n = 0x202F || n = 0x205F ||
    n = 0x3000

/-- Cuts a text at every character with the property `p`. There is always one
piece more than there are cuts. -/
def splitWhere (p : Char → Bool) : List Char → List (List Char)
  | [] => [[]]
  | c :: cs =>
    if p c then [] :: splitWhere p cs
    else
      match splitWhere p cs with
      | [] => [[c]]
      | w :: ws => (c :: w) :: ws

/-- The maximal runs of characters with the property `p`, in order. -/
def runs (p : Char → Bool) (s : List Char) : List (List Char) :=
  (splitWhere (fun c => !p c) s).filter (fun w => !w.isEmpty)

/-- The words of a text: its maximal runs without a blank. -/
def words (s : List Char) : List (List Char) := runs (fun c => !isBlank c) s

/-- The pieces with `separator` between each two. -/
def join (separator : List Char) : List (List Char) → List Char
  | [] => []
  | [w] => w
  | w :: ws => w ++ separator ++ join separator ws

/-- A text without its last characters that have the property `p`. -/
def dropEndWhile (p : Char → Bool) (s : List Char) : List Char :=
  (s.reverse.dropWhile p).reverse

/-- A text without the blanks at its two ends. -/
def trim (s : List Char) : List Char := dropEndWhile isBlank (s.dropWhile isBlank)

/-- The lines of a text. A carriage return before a line feed stays at the end
of its line; whoever trims a line drops it there. -/
def lines (s : List Char) : List (List Char) := splitWhere (· = '\n') s

end Text
end RuleHarvest
