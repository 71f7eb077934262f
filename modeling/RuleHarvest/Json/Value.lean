/-
# JSON values and their text

A value has two written forms: compact, without any white space, and pretty,
with one entry to a line, indented by two blanks for each level. An empty list
or map is written without a line break in both.

A map may have any values as keys, but only a text can be written as one.

Key definitions: `Value`, `Layout`, `quote`, `Value.write`, `Value.compact`,
`Value.pretty`.
-/
namespace RuleHarvest
namespace Json

/-- A value. A map keeps the order of its entries. -/
inductive Value where
  | null
  | bool (b : Bool)
  | int (n : Int)
  | text (s : String)
  | list (items : List Value)
  | map (entries : List (Value × Value))
deriving Repr

/-- Why a value cannot be written. -/
inductive WriteFault where
  | keyNotText
deriving Repr, DecidableEq

def WriteFault.message : WriteFault → String
  | .keyNotText => "key must be a string"

/-- The two written forms. -/
inductive Layout where
  | compact
  | pretty
deriving Repr, DecidableEq

/-- What stands before an entry at this depth. -/
def Layout.lineBreak (layout : Layout) (depth : Nat) : List Char :=
  match layout with
  | .compact => []
  | .pretty => '\n' :: List.replicate (2 * depth) ' '

/-- What stands between key and value. -/
def Layout.colon : Layout → List Char
  | .compact => [':']
  | .pretty => [':', ' ']

/-! ### Texts -/

/-- A hexadecimal digit, in lower case. -/
def hexDigit (n : Nat) : Char := if n < 10 then Char.ofNat (48 + n) else Char.ofNat (87 + n)

/-- A character inside quotation marks. Quotation marks, backslashes and control
characters are escaped. -/
def escape (c : Char) : List Char :=
  match c with
  | '"' => ['\\', '"']
  | '\\' => ['\\', '\\']
  | '\x08' => ['\\', 'b']
  | '\x0c' => ['\\', 'f']
  | '\n' => ['\\', 'n']
  | '\r' => ['\\', 'r']
  | '\t' => ['\\', 't']
  | c =>
    if c.toNat < 32 then ['\\', 'u', '0', '0', hexDigit (c.toNat / 16), hexDigit (c.toNat % 16)]
    else [c]

/-- A text in quotation marks. -/
def quote (s : List Char) : List Char := '"' :: s.flatMap escape ++ ['"']

/-! ### Values -/

/-- A key as it is written. -/
def writeKey : Value → Except WriteFault (List Char)
  | .text s => .ok (quote s.toList)
  | _ => .error .keyNotText

/-- Entries between brackets. -/
def bracket (layout : Layout) (depth : Nat) (opening closing : Char) (entries : List (List Char)) :
    List Char :=
  match entries with
  | [] => [opening, closing]
  | e :: es =>
    opening :: layout.lineBreak (depth + 1) ++ e ++
      es.flatMap (fun e => ',' :: layout.lineBreak (depth + 1) ++ e) ++
      layout.lineBreak depth ++ [closing]

namespace Value

mutual

/-- The text of a value at a depth. -/
def write (layout : Layout) (depth : Nat) : Value → Except WriteFault (List Char)
  | .null => .ok "null".toList
  | .bool b => .ok (if b then "true".toList else "false".toList)
  | .int n => .ok (toString n).toList
  | .text s => .ok (quote s.toList)
  | .list items => (writeItems layout (depth + 1) items).map (bracket layout depth '[' ']')
  | .map entries => (writeEntries layout (depth + 1) entries).map (bracket layout depth '\x7b' '\x7d')

/-- The texts of the items of a list. -/
def writeItems (layout : Layout) (depth : Nat) : List Value → Except WriteFault (List (List Char))
  | [] => .ok []
  | v :: vs => do
    let s ← write layout depth v
    let rest ← writeItems layout depth vs
    .ok (s :: rest)

/-- The texts of the entries of a map. -/
def writeEntries (layout : Layout) (depth : Nat) :
    List (Value × Value) → Except WriteFault (List (List Char))
  | [] => .ok []
  | (k, v) :: es => do
    let key ← writeKey k
    let s ← write layout depth v
    let rest ← writeEntries layout depth es
    .ok ((key ++ layout.colon ++ s) :: rest)

end

/-- The compact text of a value. -/
def compact (v : Value) : Except WriteFault String := (v.write .compact 0).map String.ofList

/-- The pretty text of a value. -/
def pretty (v : Value) : Except WriteFault String := (v.write .pretty 0).map String.ofList

/-- A map whose keys are texts, in ascending order. -/
def ofMembers (members : List (String × Value)) : Value :=
  .map ((members.mergeSort fun a b => a.1 ≤ b.1).map fun (k, v) => (.text k, v))

end Value
end Json
end RuleHarvest
