/-
# URLs that a request can carry

A request carries its URL in a form with narrower bounds than those of reading:
the text is not longer than a word of 16 bits counts, and the authority has no
character outside a small set, no escape in a host that is not in brackets and
one colon at most before the port. A URL without an authority passes only if
its whole text would be one.

Key definitions: `isAuthority`, `Url.isSendable`.
-/
import RuleHarvest.Url.Basic

namespace RuleHarvest
namespace Url

/-- What was read of an authority: the colons that may still belong to a port,
whether an escape may still belong to the host, and the brackets. -/
structure AuthorityScan where
  colons : Nat := 0
  percent : Bool := false
  opened : Bool := false
  closed : Bool := false

/-- A character that may stand anywhere in an authority. -/
def inAuthority (c : Char) : Bool :=
  c.isAlphanum ||
    ['!', '$', '&', '\x27', '(', ')', '*', '+', ',', '-', '.', ';', '=', '_', '~'].contains c

/-- Reads one more character. Colons and escapes before an `@` belong to the
credentials and those before a `]` to the address, so they are forgotten. -/
def AuthorityScan.next? (s : AuthorityScan) (c : Char) : Option AuthorityScan :=
  if c = ':' then if s.colons < 8 then some { s with colons := s.colons + 1 } else none
  else if c = '[' then if s.percent || s.opened then none else some { s with opened := true }
  else if c = ']' then
    if s.opened && !s.closed then some { s with closed := true, colons := 0, percent := false }
    else none
  else if c = '@' then some { s with colons := 0, percent := false }
  else if c = '%' then some { s with percent := true }
  else if inAuthority c then some s
  else none

/-- A text that a request takes for an authority. -/
def isAuthority (s : List Char) : Bool :=
  match s.foldlM AuthorityScan.next? {} with
  | none => false
  | some e =>
    e.opened == e.closed && e.colons ≤ 1 && !e.percent && s.getLast? != some '@'

/-- The number of bytes that the text of a request's URL may have. -/
def maxLength : Nat := 65534

/-- The number of characters that the scheme of a request's URL may have. -/
def maxSchemeLength : Nat := 64

/-- A URL that a request can carry. -/
def isSendable (u : Url) : Bool :=
  u.write.utf8ByteSize ≤ maxLength &&
    match u.authority with
    | none => isAuthority u.write.toList
    | some a =>
      let text := (writeAuthority a).toList.drop 2
      u.scheme.length ≤ maxSchemeLength && !text.isEmpty && isAuthority text

end Url
end RuleHarvest
