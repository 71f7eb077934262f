/-
# UTF-8

Bytes to characters and back. Reading never fails: a byte that starts no
sequence, and a sequence that breaks off, each count as one damaged piece,
and the byte that broke a sequence is read again as the start of the next
piece. `decodeLossy` shows every damaged piece as U+FFFD; `decode?` refuses
bytes with a damaged piece.

Key definitions: `encode`, `pieces`, `decode?`, `decodeLossy`.
-/
namespace RuleHarvest
namespace Text
namespace Utf8

/-- The UTF-8 bytes of a text. -/
def encode (s : List Char) : List UInt8 := s.flatMap String.utf8EncodeChar

/-- A sequence under way: how many bytes are missing, the range the next one
must lie in, and the value of the bytes so far. -/
structure Pending where
  missing : Nat
  low : Nat
  high : Nat
  value : Nat

/-- What a byte starts: a finished piece (`none` for a damaged one) or a longer
sequence. The ranges of the second byte keep out overlong forms, surrogates
and values beyond U+10FFFF. -/
def start (b : Nat) : Except (Option Char) Pending :=
  if b < 0x80 then .error (some (Char.ofNat b))
  else if b < 0xC2 then .error none
  else if b < 0xE0 then .ok ⟨1, 0x80, 0xBF, b - 0xC0⟩
  else if b < 0xF0 then
    .ok ⟨2, if b = 0xE0 then 0xA0 else 0x80, if b = 0xED then 0x9F else 0xBF, b - 0xE0⟩
  else if b < 0xF5 then
    .ok ⟨3, if b = 0xF0 then 0x90 else 0x80, if b = 0xF4 then 0x8F else 0xBF, b - 0xF0⟩
  else .error none

/-- The pieces of the bytes after a sequence under way, `none` for a damaged
piece. -/
def piecesFrom : Option Pending → List UInt8 → List (Option Char)
  | none, [] => []
  | some _, [] => [none]
  | none, b :: bs =>
    match start b.toNat with
    | .error piece => piece :: piecesFrom none bs
    | .ok p => piecesFrom (some p) bs
  | some p, b :: bs =>
    if p.low ≤ b.toNat && b.toNat ≤ p.high then
      let value := p.value * 64 + (b.toNat - 0x80)
      if p.missing ≤ 1 then some (Char.ofNat value) :: piecesFrom none bs
      else piecesFrom (some ⟨p.missing - 1, 0x80, 0xBF, value⟩) bs
    else
      match start b.toNat with
      | .error piece => none :: piece :: piecesFrom none bs
      | .ok p => none :: piecesFrom (some p) bs

/-- The pieces of a byte text. -/
def pieces (bytes : List UInt8) : List (Option Char) := piecesFrom none bytes

/-- The text, if no piece is damaged. -/
def decode? (bytes : List UInt8) : Option (List Char) := (pieces bytes).mapM id

/-- The text with U+FFFD for every damaged piece. -/
def decodeLossy (bytes : List UInt8) : List Char := (pieces bytes).map (·.getD '\ufffd')

end Utf8
end Text
end RuleHarvest
