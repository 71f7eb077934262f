/-
# Ending a badly nested inline element

`<b>1<p>2</b>3` ends an inline element while a block opened in it is still
open. The inline element is then cut: the part before the block keeps it, and
inside the block a copy of it takes the content so far. Inline elements
between the two are copied as well, the three nearest to the block at most;
the rest are closed.

This is done up to eight times for one end tag, since the copy may itself be
cut by the next block. An end tag without an inline element to end is an
ordinary end tag.

Key definitions: `closeOther`, `adoptOnce`, `adopt`.
-/
import RuleHarvest.Html.Builder

namespace RuleHarvest
namespace Html
namespace Builder

/-- The open elements after an ordinary end tag: closed down to the innermost
one of that name, unless a special element stands before it. -/
def closeOther (b : Builder) (name : String) : Builder :=
  if inScope (·.isOneOf specialNames) (·.isNamed name) b.stack then
    (b.closeImpliedExcept name).popUntilNamed name
  else b

/-- The latest inline element of this name since the last marker. -/
def formattingNamed? (b : Builder) (name : String) : Option (Nat × Tag) :=
  b.sinceMarker.findSome? fun f =>
    match f with
    | .marker => none
    | .element id tag => if tag.name = name then some (id, tag) else none

def formattingTag? (b : Builder) (id : Nat) : Option Tag :=
  b.formatting.findSome? fun f =>
    match f with
    | .marker => none
    | .element i tag => if i = id then some tag else none

/-- The copying of the inline elements between a block and the element that
ends, from the block outwards. -/
structure Copying where
  builder : Builder
  /-- The node that goes into the next copy. -/
  last : Nat
  /-- The copy after which the copy of the ending element is listed, if any. -/
  bookmark : Option Nat
  /-- The open elements that stay, outermost first. -/
  kept : List OpenElement
  /-- How many elements were looked at. -/
  seen : Nat

/-- Copies one element, or closes it if it is not listed or too far out. -/
def Copying.step (s : Copying) (e : OpenElement) : Copying :=
  let seen := s.seen + 1
  match s.builder.formattingTag? e.id with
  | none => { s with seen }
  | some tag =>
    if seen > 3 then { s with builder := s.builder.forgetFormatting e.id, seen }
    else
      let (b, copy) := s.builder.create tag .html
      let formatting := b.formatting.map fun f => if f.isElement e.id then .element copy.id tag else f
      { builder := { b with formatting, table := (b.table.detach s.last).append copy.id s.last }
        last := copy.id
        bookmark := some (s.bookmark.getD copy.id)
        kept := copy :: s.kept
        seen }

/-- Lists `entry` in the place of the element `id`, or, if there is a bookmark,
right after that one. -/
def relist (formatting : List Formatting) (id : Nat) (bookmark : Option Nat) (entry : Formatting) :
    List Formatting :=
  match bookmark with
  | none => formatting.map fun f => if f.isElement id then entry else f
  | some mark =>
    (formatting.flatMap fun f => if f.isElement mark then [entry, f] else [f]).filter
      fun f => !f.isElement id

/-- One round: ends the inline element `id` inside its outermost open block.
`none` means that the end tag is dealt with. -/
def adoptOnce (b : Builder) (name : String) : Builder × Bool :=
  match b.formattingNamed? name with
  | none => (b.closeOther name, false)
  | some (id, tag) =>
    if !b.isOpen id then (b.forgetFormatting id, false)
    else if !inScope (·.boundsScope) (·.id = id) b.stack then (b, false)
    else
      let above := b.stack.takeWhile (·.id ≠ id)
      let below := (b.stack.dropWhile (·.id ≠ id)).tail
      match above.reverse.find? (·.isOneOf specialNames), below.head? with
      | some block, some outer =>
        let inner := above.takeWhile (·.id ≠ block.id)
        let between := (above.dropWhile (·.id ≠ block.id)).tail
        let copied := between.foldl Copying.step ⟨b, block.id, none, [], 0⟩
        let b := { copied.builder with table := copied.builder.table.detach copied.last }
        let b := b.put (b.place outer) copied.last
        let (b, copy) := b.create tag .html
        let table := (b.table.moveChildren block.id copy.id).append block.id copy.id
        let formatting := relist b.formatting id copied.bookmark (.element copy.id tag)
        ({ b with table, formatting, stack := inner ++ copy :: block :: copied.kept.reverse ++ below },
          true)
      | _, _ => ({ b with stack := below }.forgetFormatting id, false)

/-- At most `n` rounds. -/
def adoptRounds : Nat → Builder → String → Builder
  | 0, b, _ => b
  | n + 1, b, name =>
    match b.adoptOnce name with
    | (b, true) => adoptRounds n b name
    | (b, false) => b

/-- The end tag of an inline element. -/
def adopt (b : Builder) (name : String) : Builder :=
  match b.current? with
  | some e =>
    if e.isNamed name && !b.formatting.any (·.isElement e.id) then b.pop
    else adoptRounds 8 b name
  | none => b

end Builder
end Html
end RuleHarvest
