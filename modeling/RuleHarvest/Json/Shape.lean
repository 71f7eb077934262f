/-
# Reading values of a fixed shape

A shape says which members a value has. A value of a shape is written as a map
with the members' names, in any order, or as a list of the members in the
order of the shape. Members with other names are skipped; a member that occurs
twice is refused.

The shape is read into a draft, in which members may still be missing.

Key definitions: `textValue`, `textMap`, `Slot`, `Shape`, `Shape.read`,
`decode`.
-/
import RuleHarvest.Json.Skip

namespace RuleHarvest
namespace Json

/-- A reader of something at the start of a text. -/
abbrev Reader (α : Type) := List Char → Except Fault (α × List Char)

/-! ### Values of one kind -/

/-- The fault of a value that is not of the kind `expected`. The value is read
first if it is a word, a number or a text, and may itself be at fault. -/
def wrongKind (expected : String) (s : List Char) : Fault :=
  let found (r : Except Fault (Found × List Char)) : Fault :=
    match r with
    | .ok (f, rest) => .here (.wrongKind f expected) rest
    | .error e => e
  match s with
  | 'n' :: cs => found ((readWord ['u', 'l', 'l'] cs).map (.null, ·))
  | 't' :: cs => found ((readWord ['r', 'u', 'e'] cs).map (.bool true, ·))
  | 'f' :: cs => found ((readWord ['a', 'l', 's', 'e'] cs).map (.bool false, ·))
  | '-' :: cs => found (readNumber true cs)
  | '"' :: cs => found ((readText cs).map fun (t, rest) => (.text t, rest))
  | '[' :: _ => .here (.wrongKind .list expected) s
  | '\x7b' :: _ => .here (.wrongKind .map expected) s
  | c :: _ => if c.isDigit then found (readNumber false s) else .next .noValue s
  | [] => .here .endInValue []

/-- A text. -/
def textValue : Reader String := fun s =>
  match skipBlank s with
  | '"' :: cs => (readText cs).map fun (t, rest) => (String.ofList t, rest)
  | s => .error (wrongKind "a string" s)

/-- A text or `null`. -/
def textOrNull : Reader (Option String) := fun s =>
  match skipBlank s with
  | 'n' :: cs => (readWord ['u', 'l', 'l'] cs).map (none, ·)
  | s => (textValue s).map fun (t, rest) => (some t, rest)

/-! ### Entries of a map -/

/-- The place of the next key behind its quotation mark, or the rest after the
end of the map. -/
def nextKey (first : Bool) (s : List Char) : Except Fault (Except (List Char) (List Char)) :=
  match skipBlank s with
  | [] => .error (.here .endInMap [])
  | '\x7d' :: cs => .ok (.error cs)
  | '"' :: cs => if first then .ok (.ok cs) else .error (.next .noMapEnd ('"' :: cs))
  | ',' :: cs =>
    if first then .error (.next .keyNotText (',' :: cs))
    else
      match skipBlank cs with
      | '"' :: ds => .ok (.ok ds)
      | '\x7d' :: ds => .error (.next .trailingComma ('\x7d' :: ds))
      | [] => .error (.here .endInValue [])
      | s => .error (.next .keyNotText s)
  | s => .error (.next (if first then .keyNotText else .noMapEnd) s)

/-- The text after the colon that follows a key. -/
def readColon (s : List Char) : Except Fault (List Char) :=
  match skipBlank s with
  | ':' :: cs => .ok cs
  | [] => .error (.here .endInMap [])
  | s => .error (.next .noColon s)

/-- The entries of a map of texts, at most `n`. -/
def readEntries : Nat → Bool → List (String × String) → Reader (List (String × String))
  | 0, _, _, s => .error (.here .endInMap s)
  | n + 1, first, entries, s => do
    match ← nextKey first s with
    | .error rest => .ok (entries, rest)
    | .ok s =>
      let (key, s) ← readText s
      let (value, s) ← textValue (← readColon s)
      readEntries n false (entries ++ [(String.ofList key, value)]) s

/-- A map of texts, as the list of its entries. -/
def textMap : Reader (List (String × String)) := fun s =>
  match skipBlank s with
  | '\x7b' :: cs => readEntries (cs.length + 1) true [] cs
  | s => .error (wrongKind "a map" s)

/-! ### Shapes -/

/-- A member of a shape: its name, whether a draft has it, and how it is read
into a draft. -/
structure Slot (δ : Type) where
  name : String
  isFilled : δ → Bool
  read : δ → Reader δ

/-- A member that is kept in the draft as `some` of what was read. -/
def Slot.of {δ α : Type} (name : String) (read : Reader α) (get : δ → Option α)
    (set : δ → Option α → δ) : Slot δ where
  name := name
  isFilled d := (get d).isSome
  read d := fun s => (read s).map fun (a, rest) => (set d (some a), rest)

/-- What a value of a fixed shape is called, how many members it has, its empty
draft, its members, and how a draft becomes a value or misses a member. -/
structure Shape (δ α : Type) where
  title : String
  size : String
  start : δ
  slots : List (Slot δ)
  finish : δ → Except String α

namespace Shape

variable {δ α : Type}

/-- A value written as a map, at most `n` entries of it. -/
def readMembers (shape : Shape δ α) : Nat → Bool → δ → Reader α
  | 0, _, _, s => .error (.here .endInMap s)
  | n + 1, first, draft, s => do
    match ← nextKey first s with
    | .error rest =>
      match shape.finish draft with
      | .ok a => .ok (a, rest)
      | .error name => .error (.here (.missingMember name) rest)
    | .ok s =>
      let (key, s) ← readText s
      match shape.slots.find? (fun slot => slot.name = String.ofList key) with
      | none => readMembers shape n false draft (← skipValue (← readColon s))
      | some slot =>
        if slot.isFilled draft then
          let after := skipBlank s
          .error (.here (.repeatedMember slot.name) (if after.head? = some '\x7d' then after.tail else after))
        else
          let (draft, s) ← slot.read draft (← readColon s)
          readMembers shape n false draft s

/-- The place of the next item of a list, or the rest after its end. -/
def nextItem (first : Bool) (s : List Char) : Except Fault (Except (List Char) (List Char)) :=
  match skipBlank s with
  | [] => .error (.here .endInList [])
  | ']' :: cs => .ok (.error cs)
  | ',' :: cs =>
    if first then .ok (.ok (',' :: cs))
    else
      match skipBlank cs with
      | ']' :: ds => .error (.next .trailingComma (']' :: ds))
      | [] => .error (.here .endInValue [])
      | s => .ok (.ok s)
  | s => if first then .ok (.ok s) else .error (.next .noListEnd s)

/-- The end of a list that has all its items. -/
def endOfItems (s : List Char) : Except Fault (List Char) :=
  match skipBlank s with
  | [] => .error (.here .endInList [])
  | ']' :: cs => .ok cs
  | ',' :: cs =>
    match skipBlank cs with
    | ']' :: ds => .error (.next .trailingComma (']' :: ds))
    | s => .error (.next .trailingCharacters s)
  | s => .error (.next .trailingCharacters s)

/-- A value written as a list, after `count` members. -/
def readItems (shape : Shape δ α) (count : Nat) : List (Slot δ) → δ → Reader α
  | [], draft, s => do
    let rest ← endOfItems s
    match shape.finish draft with
    | .ok a => .ok (a, rest)
    | .error name => .error (.here (.missingMember name) rest)
  | slot :: slots, draft, s => do
    match ← nextItem (count = 0) s with
    | .error rest => .error (.here (.wrongLength count (shape.title ++ shape.size)) rest)
    | .ok s =>
      let (draft, s) ← slot.read draft s
      readItems shape (count + 1) slots draft s

/-- A value of a shape. -/
def read (shape : Shape δ α) : Reader α := fun s =>
  match skipBlank s with
  | '\x7b' :: cs => shape.readMembers (cs.length + 1) true shape.start cs
  | '[' :: cs => shape.readItems 0 shape.slots shape.start cs
  | s => .error (wrongKind shape.title s)

end Shape

/-! ### Lists and whole texts -/

/-- The items of a list, at most `n`. -/
def readList {α : Type} (item : Reader α) : Nat → Bool → Reader (List α)
  | 0, _, s => .error (.here .endInList s)
  | n + 1, first, s => do
    match ← Shape.nextItem first s with
    | .error rest => .ok ([], rest)
    | .ok s =>
      let (a, s) ← item s
      let (rest, s) ← readList item n false s
      .ok (a :: rest, s)

/-- A list of values. -/
def listOf {α : Type} (item : Reader α) : Reader (List α) := fun s =>
  match skipBlank s with
  | '[' :: cs => readList item (cs.length + 1) true cs
  | s => .error (wrongKind "a sequence" s)

/-- A text that holds one value and nothing else. -/
def decode {α : Type} (read : Reader α) (text : List Char) : Except Fault α := do
  let (a, rest) ← read text
  match skipBlank rest with
  | [] => .ok a
  | s => .error (.next .trailingCharacters s)

end Json
end RuleHarvest
