/-
# Cutting a page into tokens

`lex model foreign s` is the first lexeme of a text that is not empty: the
token it makes, if it makes one, and the number of characters it takes. The
text model says how text is read at this point; `foreign` says that the
element that is open belongs to SVG or MathML, where `<![CDATA[` starts a
run of plain text. A tag that the page breaks off makes no token.

Line ends are made uniform before (`normalizeLineEnds`): a carriage return,
with the line feed after it if there is one, is one line feed.

Key definitions: `normalizeLineEnds`, `Lexeme`, `lex`.
-/
import RuleHarvest.Html.Doctype
import RuleHarvest.Html.Reference

namespace RuleHarvest
namespace Html

/-- Makes every line end a single line feed. -/
def normalizeLineEnds : List Char → List Char
  | [] => []
  | '\r' :: '\n' :: cs => '\n' :: normalizeLineEnds cs
  | '\r' :: cs => '\n' :: normalizeLineEnds cs
  | c :: cs => c :: normalizeLineEnds cs

/-- U+0000 shown as U+FFFD. -/
def showNull (c : Char) : Char := if c = '\x00' then '\ufffd' else c

/-- A token and the number of characters it takes. -/
structure Lexeme where
  token : Option Token
  size : Nat
deriving Repr, DecidableEq

/-! ### Tags

A tag is a name and a list of attributes up to `>`. The reading of attributes
is a machine that takes one character at a time. -/

/-- Where in a tag the reading is. -/
inductive TagPlace where
  | beforeName
  | name
  | afterName
  | beforeValue
  | quoted (quote : Char)
  | unquoted
  | afterQuoted
  | slash
deriving Repr, DecidableEq

/-- The attributes read so far and the one under way, its name and value with
the last character first. -/
structure TagDraft where
  attributes : List Attribute := []
  name : List Char := []
  value : List Char := []

/-- Ends the attribute under way. A second attribute of the same name is
dropped. -/
def TagDraft.close (d : TagDraft) : TagDraft :=
  let name := String.ofList d.name.reverse
  if d.name.isEmpty || d.attributes.any (·.name = name) then { attributes := d.attributes }
  else { attributes := d.attributes ++ [⟨name, String.ofList (expand true d.value.reverse)⟩] }

/-- Adds a character to the name of the attribute under way. -/
def TagDraft.pushName (d : TagDraft) (c : Char) : TagDraft :=
  { d with name := (showNull c).toLower :: d.name }

/-- Adds a character to the value of the attribute under way. -/
def TagDraft.pushValue (d : TagDraft) (c : Char) : TagDraft :=
  { d with value := showNull c :: d.value }

/-- What one character of a tag leads to: the end of the tag, with a slash
before it or not, or the next place. -/
inductive TagStep where
  | finish (draft : TagDraft) (selfClosing : Bool)
  | go (place : TagPlace) (draft : TagDraft)

/-- A character where an attribute may start. -/
def beforeNameStep (d : TagDraft) (c : Char) : TagStep :=
  if isSpace c then .go .beforeName d
  else if c = '/' then .go .slash d
  else if c = '>' then .finish d false
  else .go .name (d.pushName c)

/-- A character of a tag. -/
def tagStep (d : TagDraft) (c : Char) : TagPlace → TagStep
  | .beforeName => beforeNameStep d c
  | .name =>
    if isSpace c then .go .afterName d
    else if c = '/' then .go .slash d.close
    else if c = '>' then .finish d.close false
    else if c = '=' then .go .beforeValue d
    else .go .name (d.pushName c)
  | .afterName =>
    if isSpace c then .go .afterName d
    else if c = '/' then .go .slash d.close
    else if c = '>' then .finish d.close false
    else if c = '=' then .go .beforeValue d
    else .go .name (d.close.pushName c)
  | .beforeValue =>
    if isSpace c then .go .beforeValue d
    else if c = '"' || c = '\x27' then .go (.quoted c) d
    else if c = '>' then .finish d.close false
    else .go .unquoted (d.pushValue c)
  | .quoted quote => if c = quote then .go .afterQuoted d.close else .go (.quoted quote) (d.pushValue c)
  | .unquoted =>
    if isSpace c then .go .beforeName d.close
    else if c = '>' then .finish d.close false
    else .go .unquoted (d.pushValue c)
  | .afterQuoted => beforeNameStep d c
  | .slash => if c = '>' then .finish d true else beforeNameStep d c

/-- Reads a tag from a place in it: its attributes, whether a slash ends it, and
the number of characters, counted from `size`. -/
def readTag : TagPlace → TagDraft → Nat → List Char → Option (List Attribute × Bool × Nat)
  | _, _, _, [] => none
  | place, d, size, c :: cs =>
    match tagStep d c place with
    | .finish d selfClosing => some (d.attributes, selfClosing, size + 1)
    | .go place d => readTag place d (size + 1) cs

/-- The end of a tag's name. -/
def endsTagName (c : Char) : Bool := isSpace c || c = '/' || c = '>'

/-- A tag's name as written in a page. -/
def tagName (s : List Char) : String := String.ofList (s.map fun c => (showNull c).toLower)

/-- A start or end tag, from its name on. -/
def lexTag (isEnd : Bool) (s : List Char) : Lexeme :=
  let name := s.takeWhile (fun c => !endsTagName c)
  match readTag .beforeName {} name.length (s.dropWhile (fun c => !endsTagName c)) with
  | none => ⟨none, s.length⟩
  | some (attributes, selfClosing, size) =>
    if isEnd then ⟨some (.endTag (tagName name)), size⟩
    else ⟨some (.startTag ⟨tagName name, attributes, selfClosing⟩), size⟩

/-! ### Comments and declarations -/

/-- Where in a comment the reading is: the number of hyphens just read, the
start counting as if it had none to its left, and a `!` after two hyphens. -/
inductive CommentPlace where
  | start
  | startHyphen
  | inside
  | hyphen
  | twoHyphens
  | bang

/-- The length of a comment after `<!--`, its end mark included. -/
def commentSize : CommentPlace → List Char → Nat
  | _, [] => 0
  | place, c :: cs =>
    match place with
    | .start =>
      if c = '-' then commentSize .startHyphen cs + 1
      else if c = '>' then 1 else commentSize .inside cs + 1
    | .startHyphen =>
      if c = '-' then commentSize .twoHyphens cs + 1
      else if c = '>' then 1 else commentSize .inside cs + 1
    | .inside => if c = '-' then commentSize .hyphen cs + 1 else commentSize .inside cs + 1
    | .hyphen => if c = '-' then commentSize .twoHyphens cs + 1 else commentSize .inside cs + 1
    | .twoHyphens =>
      if c = '>' then 1
      else if c = '-' then commentSize .twoHyphens cs + 1
      else if c = '!' then commentSize .bang cs + 1
      else commentSize .inside cs + 1
    | .bang =>
      if c = '>' then 1
      else if c = '-' then commentSize .hyphen cs + 1
      else commentSize .inside cs + 1

/-- The length of a text up to and including its first `>`. -/
def sizeToClose (s : List Char) : Nat :=
  min s.length ((s.takeWhile (· ≠ '>')).length + 1)

/-- The text before `]]>`. -/
def beforeSectionEnd : List Char → List Char
  | [] => []
  | c :: cs => if [']', ']', '>'].isPrefixOf (c :: cs) then [] else c :: beforeSectionEnd cs

/-- A text of plain characters, or nothing if there is none. -/
def textToken (run : List Char) : Option Token := if run.isEmpty then none else some (.text run)

/-- A declaration, from what follows `<!`. -/
def lexDeclaration (foreign : Bool) (s : List Char) : Lexeme :=
  if ['-', '-'].isPrefixOf s then ⟨some .comment, 2 + commentSize .start (s.drop 2)⟩
  else if (s.take 7).map Char.toLower = "doctype".toList then
    ⟨some (.doctype (Doctype.read ((s.drop 7).takeWhile (· ≠ '>'))).quirks), sizeToClose s⟩
  else if foreign && "[CDATA[".toList.isPrefixOf s then
    let run := beforeSectionEnd (s.drop 7)
    ⟨textToken run, min s.length (run.length + 10)⟩
  else ⟨some .comment, sizeToClose s⟩

/-! ### Text up to an end tag -/

/-- Whether a text, after `<`, is an end tag of the named element. -/
def isEndTagOf (element : String) (s : List Char) : Bool :=
  match s with
  | '/' :: cs =>
    let n := element.length
    (cs.take n).map Char.toLower = element.toList && (cs.drop n).head?.any endsTagName
  | _ => false

/-- The text before the first end tag of the named element. -/
def beforeEndTag (element : String) : List Char → List Char
  | [] => []
  | c :: cs => if c = '<' && isEndTagOf element cs then [] else c :: beforeEndTag element cs

/-- Where in a script the reading is. A script may open a comment, and a second
script inside the comment, whose end tag does not end the outer one. -/
inductive ScriptPlace where
  | plain
  | opening (hyphens : Nat)
  | commented (hyphens : Nat)
  | commentedTag
  | innerName (letters : List Char)
  | inner (hyphens : Nat)
  | innerTag
  | innerEndName (letters : List Char)

/-- A character of a plain script. -/
def plainStep (last : Option Char) (c : Char) : ScriptPlace :=
  if last = some '<' && c = '!' then .opening 0 else .plain

/-- A character inside a commented script, outside an inner script. -/
def commentedStep (hyphens : Nat) (c : Char) : ScriptPlace :=
  if c = '-' then .commented (min 2 (hyphens + 1))
  else if c = '<' then .commentedTag
  else if c = '>' && hyphens = 2 then .plain
  else .commented 0

/-- A character inside an inner script. -/
def innerStep (hyphens : Nat) (c : Char) : ScriptPlace :=
  if c = '-' then .inner (min 2 (hyphens + 1))
  else if c = '<' then .innerTag
  else if c = '>' && hyphens = 2 then .plain
  else .inner 0

/-- A character of a script after `last`. -/
def scriptStep (last : Option Char) (c : Char) : ScriptPlace → ScriptPlace
  | .plain => plainStep last c
  | .opening hyphens =>
    if c = '-' then (if hyphens = 0 then .opening 1 else .commented 2) else plainStep last c
  | .commented hyphens => commentedStep hyphens c
  | .commentedTag => if c.isAlpha then .innerName [c.toLower] else commentedStep 0 c
  | .innerName letters =>
    if endsTagName c then (if letters.reverse = "script".toList then .inner 0 else .commented 0)
    else if c.isAlpha then .innerName (c.toLower :: letters)
    else commentedStep 0 c
  | .inner hyphens => innerStep hyphens c
  | .innerTag => if c = '/' then .innerEndName [] else innerStep 0 c
  | .innerEndName letters =>
    if endsTagName c then (if letters.reverse = "script".toList then .commented 0 else .inner 0)
    else if c.isAlpha then .innerEndName (c.toLower :: letters)
    else innerStep 0 c

/-- Whether an end tag that starts here would end the script. -/
def ScriptPlace.closable : ScriptPlace → Bool
  | .inner _ | .innerTag | .innerEndName _ => false
  | _ => true

/-- The text of a script, up to the end tag that ends it. -/
def beforeScriptEnd : ScriptPlace → Option Char → List Char → List Char
  | _, _, [] => []
  | place, last, c :: cs =>
    if c = '<' && place.closable && isEndTagOf "script" cs then []
    else c :: beforeScriptEnd (scriptStep last c place) (some c) cs

/-! ### The first lexeme -/

/-- A lexeme that starts with `<`, from what follows it. -/
def lexMarkup (foreign : Bool) (s : List Char) : Lexeme :=
  match s with
  | '!' :: cs => let l := lexDeclaration foreign cs; ⟨l.token, l.size + 2⟩
  | '?' :: _ => ⟨some .comment, sizeToClose s + 1⟩
  | '/' :: cs =>
    match cs with
    | [] => ⟨some (.text ['<', '/']), 2⟩
    | c :: _ =>
      if c.isAlpha then let l := lexTag true cs; ⟨l.token, l.size + 2⟩
      else if c = '>' then ⟨none, 3⟩
      else ⟨some .comment, sizeToClose cs + 2⟩
  | c :: _ =>
    if c.isAlpha then let l := lexTag false s; ⟨l.token, l.size + 1⟩
    else ⟨some (.text ['<']), 1⟩
  | [] => ⟨some (.text ['<']), 1⟩

/-- A run of text, or the markup that ends it. -/
def lexRun (run : List Char) (show' : List Char → List Char) (s : List Char) : Lexeme :=
  if run.isEmpty then lexMarkup false (s.drop 1) else ⟨some (.text (show' run)), run.length⟩

/-- The first lexeme of a text that is not empty. -/
def lex (model : TextModel) (foreign : Bool) (s : List Char) : Lexeme :=
  match model with
  | .markup =>
    let run := s.takeWhile (· ≠ '<')
    if run.isEmpty then lexMarkup foreign (s.drop 1) else ⟨some (.text (expand false run)), run.length⟩
  | .references element =>
    lexRun (beforeEndTag element s) (fun run => expand false (run.map showNull)) s
  | .raw element => lexRun (beforeEndTag element s) (·.map showNull) s
  | .script => lexRun (beforeScriptEnd .plain none s) (·.map showNull) s
  | .verbatim => ⟨some (.text (s.map showNull)), s.length⟩

end Html
end RuleHarvest
