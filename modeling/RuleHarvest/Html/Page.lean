/-
# Building a page from its text

The text is cut into lexemes, each token is taken apart into events, and each
event is handed from mode to mode until it is dealt with. The two sides
depend on each other: how the text is cut depends on the elements that are
open.

An event is handed on a bounded number of times. Nearly every time an element
is closed; the exceptions are the few steps that open missing elements and
those that leave a run of table text.

Key definitions: `feed`, `take`, `run`, `build`.
-/
import RuleHarvest.Html.Lexer
import RuleHarvest.Html.Modes.Foreign

namespace RuleHarvest
namespace Html
namespace Builder

/-- Hands an event on at most `n` times. -/
def feedRounds : Nat → Builder → Event → Builder
  | 0, b, _ => b
  | n + 1, b, e =>
    match b.step e with
    | .done b => b
    | .again b => feedRounds n b e

/-- Takes in an event. -/
def feed (b : Builder) (e : Event) : Builder := feedRounds (4 * b.stack.length + 16) b e

/-- Takes in a run of text. -/
def feedText (b : Builder) (run : List Char) : Builder :=
  run.foldl (fun b c => b.feed (.char c)) b

/-- A text without its first line feed. -/
def dropLineFeed : List Char → List Char
  | '\n' :: cs => cs
  | cs => cs

/-- Takes in a token. A document type counts only before anything else. -/
def take (b : Builder) (t : Token) : Builder :=
  let fresh := { b with skipLineFeed := false }
  match t with
  | .text run => fresh.feedText (if b.skipLineFeed then dropLineFeed run else run)
  | .startTag tag => fresh.feed (.startTag tag)
  | .endTag name => fresh.feed (.endTag name)
  | .comment => fresh.feed .comment
  | .doctype quirks => if b.mode = .initial then { fresh with quirks, mode := .beforeHtml } else fresh
  | .finish => fresh.feed .finish

/-- The innermost open element belongs to SVG or MathML. -/
def isForeign (b : Builder) : Bool := b.current?.any (·.family ≠ .html)

/-- Takes in a lexeme's token, if it has one. -/
def takeLexeme (b : Builder) (l : Lexeme) : Builder :=
  match l.token with
  | some t => b.take t
  | none => b

/-- Takes in a text after its first `n` characters. -/
def run : Builder → Nat → List Char → Builder
  | b, _, [] => b
  | b, n + 1, _ :: cs => run b n cs
  | b, 0, c :: cs =>
    let l := lex b.model b.isForeign (c :: cs)
    run (b.takeLexeme l) (l.size - 1) cs

end Builder

/-- The node table of a page. A byte order mark at its start is dropped. -/
def build (page : List Char) : NodeTable :=
  let text := match page with
    | '\ufeff' :: cs => cs
    | cs => cs
  ((({} : Builder).run 0 (normalizeLineEnds text)).take .finish).table

end Html
end RuleHarvest
