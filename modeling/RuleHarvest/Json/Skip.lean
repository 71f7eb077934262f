/-
# Skipping a JSON value

A member with an unknown name is skipped: its value is read for its end only,
however deep it is. The brackets that are open are kept in a list, innermost
first.

Key definitions: `Bracket`, `skipScalar?`, `skipValue`.
-/
import RuleHarvest.Json.Scalar

namespace RuleHarvest
namespace Json

/-- An open bracket. -/
inductive Bracket where
  | list
  | map
deriving Repr, DecidableEq

/-- What closes a bracket. -/
def Bracket.closing : Bracket → Char
  | .list => ']'
  | .map => '\x7d'

/-- The fault of a text that ends inside a bracket. -/
def Bracket.endFault : Bracket → Problem
  | .list => .endInList
  | .map => .endInMap

/-- The fault of a text in which neither a comma nor the end follows. -/
def Bracket.noEndFault : Bracket → Problem
  | .list => .noListEnd
  | .map => .noMapEnd

/-- The text after a value that is not a list or a map. `none` at the start of
one of those. -/
def skipScalar? (s : List Char) : Except Fault (Option (List Char)) :=
  match s with
  | [] => .error (.here .endInValue [])
  | 'n' :: cs => (readWord ['u', 'l', 'l'] cs).map some
  | 't' :: cs => (readWord ['r', 'u', 'e'] cs).map some
  | 'f' :: cs => (readWord ['a', 'l', 's', 'e'] cs).map some
  | '-' :: cs => (skipNumber cs).map some
  | '"' :: cs => (skipText cs).map some
  | '[' :: _ | '\x7b' :: _ => .ok none
  | c :: _ => if c.isDigit then (skipNumber s).map some else .error (.next .noValue s)

/-- The text after the key of a map's entry and its colon. -/
def skipKey (s : List Char) : Except Fault (List Char) :=
  match skipBlank s with
  | [] => .error (.here .endInMap [])
  | '"' :: cs => do
    match skipBlank (← skipText cs) with
    | [] => .error (.here .endInMap [])
    | ':' :: ds => .ok ds
    | s => .error (.next .noColon s)
  | s => .error (.next .keyNotText s)

/-- What comes after a value or an opening bracket: the end of all brackets, or
the place of the next value with the brackets that are still open. -/
inductive SkipStep where
  | finished (rest : List Char)
  | value (brackets : List Bracket) (rest : List Char)

/-- Goes on inside the open brackets to the next value. `afterValue` says that a
comma may follow. Each round closes one bracket. -/
def skipAhead : List Bracket → Bool → List Char → Except Fault SkipStep
  | [], _, s => .ok (.finished s)
  | b :: outer, afterValue, s =>
    match skipBlank s with
    | [] => .error (.here b.endFault [])
    | c :: cs =>
      if c = ',' && afterValue then do
        .ok (.value (b :: outer) (← if b = .map then skipKey cs else pure cs))
      else if c = b.closing then skipAhead outer true cs
      else if afterValue then .error (.next b.noEndFault (c :: cs))
      else do
        .ok (.value (b :: outer) (← if b = .map then skipKey (c :: cs) else pure (c :: cs)))

/-- Skips the value that starts here inside the open brackets, and all that
follows up to the end of the outermost. Every round takes at least one
character, so as many rounds as characters are enough. -/
def skipRounds : Nat → List Bracket → List Char → Except Fault (List Char)
  | 0, _, s => .error (.here .endInValue s)
  | n + 1, brackets, s => do
    let s := skipBlank s
    let step ← match ← skipScalar? s with
      | some rest => skipAhead brackets true rest
      | none => skipAhead ((if s.head? = some '[' then .list else .map) :: brackets) false (s.drop 1)
    match step with
    | .finished rest => .ok rest
    | .value brackets rest => skipRounds n brackets rest

/-- The text after a value. -/
def skipValue (s : List Char) : Except Fault (List Char) := skipRounds (s.length + 1) [] s

end Json
end RuleHarvest
