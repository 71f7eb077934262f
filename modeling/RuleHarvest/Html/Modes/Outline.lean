/-
# The outline of a page

The rules outside the body: before and inside the head, between head and
body, after the body, and in pages made of frames. Tags of `html`, `head` and
`body` may be left out, so most of these rules open what is missing and hand
the event on.

Key definitions: `initial`, `beforeHtml`, `beforeHead`, `inHead`, `afterHead`,
`afterBody`, `inFrameset`, `afterFrameset`.
-/
import RuleHarvest.Html.Modes.Body

namespace RuleHarvest
namespace Html

/-- End tags that count as content where the body has not begun. -/
def outlineEndNames : List String := ["body", "br", "html"]

namespace Builder

/-- Opens the root of the page. -/
def insertRoot (b : Builder) (tag : Tag) : Builder := (b.insertElement tag).switch .beforeHead

/-- Opens the head. -/
def insertHead (b : Builder) (tag : Tag) : Builder :=
  let b := b.insertElement tag
  { b with head := b.current?, mode := .inHead }

/-- The rules before anything but comments and a document type. -/
def initial (b : Builder) (e : Event) : Outcome :=
  match e with
  | .comment => .done (b.insertCommentIn 0)
  | .char c => if isSpace c then .done b else .again (b.switch .beforeHtml)
  | _ => .again (b.switch .beforeHtml)

/-- The rules before the root. -/
def beforeHtml (b : Builder) (e : Event) : Outcome :=
  let missing := Outcome.again (b.insertRoot { name := "html" })
  match e with
  | .comment => .done (b.insertCommentIn 0)
  | .char c => if isSpace c then .done b else missing
  | .startTag tag => if tag.name = "html" then .done (b.insertRoot tag) else missing
  | .endTag name => if name = "head" || outlineEndNames.contains name then missing else .done b
  | .finish => missing

/-- The rules between the root's start and the head. -/
def beforeHead (b : Builder) (e : Event) : Outcome :=
  let missing := Outcome.again (b.insertHead { name := "head" })
  match e with
  | .comment => .done b.insertComment
  | .char c => if isSpace c then .done b else missing
  | .startTag tag =>
    if tag.name = "html" then .done (b.mergeRoot tag)
    else if tag.name = "head" then .done (b.insertHead tag)
    else missing
  | .endTag name => if name = "head" || outlineEndNames.contains name then missing else .done b
  | .finish => missing

/-- The rules inside the head. -/
def inHead (b : Builder) (e : Event) : Outcome :=
  let leave := Outcome.again (b.pop.switch .afterHead)
  match e with
  | .comment => .done b.insertComment
  | .char c => if isSpace c then .done (b.insertChar c) else leave
  | .startTag tag =>
    if tag.name = "html" then .done (b.mergeRoot tag)
    else if tag.name = "head" then .done b
    else if headContentNames.contains tag.name || tag.name = "noscript" then
      .done (b.insertHeadContent tag)
    else leave
  | .endTag name =>
    if name = "head" then .done (b.pop.switch .afterHead)
    else if name = "template" then .done b.closeTemplate
    else if outlineEndNames.contains name then leave
    else .done b
  | .finish => leave

/-- A tag of the head after the head is closed: it still goes there. -/
def insertInHead (b : Builder) (tag : Tag) : Builder :=
  match b.head with
  | some head => ((b.push head).insertHeadContent tag).removeOpen head.id
  | none => b.insertHeadContent tag

/-- The rules between head and body. -/
def afterHead (b : Builder) (e : Event) : Outcome :=
  let missing := Outcome.again ((b.insertMissing "body").switch .inBody)
  match e with
  | .comment => .done b.insertComment
  | .char c => if isSpace c then .done (b.insertChar c) else missing
  | .startTag tag =>
    if tag.name = "html" then .done (b.mergeRoot tag)
    else if tag.name = "body" then .done ((b.insertElement tag).forbidFrameset.switch .inBody)
    else if tag.name = "frameset" then .done ((b.insertElement tag).switch .inFrameset)
    else if headContentNames.contains tag.name then .done (b.insertInHead tag)
    else if tag.name = "head" then .done b
    else missing
  | .endTag name =>
    if name = "template" then .done b.closeTemplate
    else if outlineEndNames.contains name then missing
    else .done b
  | .finish => missing

/-- The rules after the body. What is shown there still goes into the body. -/
def afterBody (b : Builder) (e : Event) : Outcome :=
  let back := Outcome.again (b.switch .inBody)
  match e with
  | .comment => .done (match b.stack.getLast? with
    | some root => b.insertCommentIn root.id
    | none => b)
  | .char c => if isSpace c then .done (b.bodyChar c) else back
  | .startTag tag => if tag.name = "html" then .done (b.mergeRoot tag) else back
  | .endTag name => if name = "html" then .done (b.switch .afterAfterBody) else back
  | .finish => .done b

/-- The rules after the root's end. -/
def afterAfterBody (b : Builder) (e : Event) : Outcome :=
  let back := Outcome.again (b.switch .inBody)
  match e with
  | .comment => .done (b.insertCommentIn 0)
  | .char c => if isSpace c then .done (b.bodyChar c) else back
  | .startTag tag => if tag.name = "html" then .done (b.mergeRoot tag) else back
  | .endTag _ => back
  | .finish => .done b

/-! ### Pages made of frames -/

/-- The end tag of a `frameset`. -/
def closeFrameset (b : Builder) : Builder :=
  if b.stack.length = 1 then b
  else
    let b := b.pop
    if b.currentIs "frameset" then b else b.switch .afterFrameset

/-- The rules inside a `frameset`. Text other than white space is dropped. -/
def inFrameset (b : Builder) (e : Event) : Outcome :=
  .done (match e with
    | .comment => b.insertComment
    | .char c => if isSpace c then b.insertChar c else b
    | .startTag tag =>
      if tag.name = "html" then b.mergeRoot tag
      else if tag.name = "frameset" then b.insertElement tag
      else if tag.name = "frame" then b.insertVoid tag
      else if tag.name = "noframes" then b.insertHeadContent tag
      else b
    | .endTag name => if name = "frameset" then b.closeFrameset else b
    | .finish => b)

/-- The rules after the outermost `frameset`. -/
def afterFrameset (b : Builder) (e : Event) : Outcome :=
  .done (match e with
    | .comment => b.insertComment
    | .char c => if isSpace c then b.insertChar c else b
    | .startTag tag =>
      if tag.name = "html" then b.mergeRoot tag
      else if tag.name = "noframes" then b.insertHeadContent tag
      else b
    | .endTag name => if name = "html" then b.switch .afterAfterFrameset else b
    | .finish => b)

/-- The rules after the end of a page made of frames. -/
def afterAfterFrameset (b : Builder) (e : Event) : Outcome :=
  .done (match e with
    | .comment => b.insertCommentIn 0
    | .char c => if isSpace c then b.bodyChar c else b
    | .startTag tag =>
      if tag.name = "html" then b.mergeRoot tag
      else if tag.name = "noframes" then b.insertHeadContent tag
      else b
    | .endTag _ | .finish => b)

end Builder
end Html
end RuleHarvest
