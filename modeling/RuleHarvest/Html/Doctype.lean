/-
# Document types and quirks mode

A page without a document type, or with one that is not `html`, is in quirks
mode, and so is one whose identifiers are those of an early version of HTML.
In quirks mode a table does not end the paragraph it stands in; nothing else
of the mode is visible here.

Key definitions: `Doctype`, `Doctype.read`, `Doctype.quirks`.
-/
import RuleHarvest.Html.Token

namespace RuleHarvest
namespace Html

/-- A document type. `broken` marks one that is not well formed. -/
structure Doctype where
  name : Option String
  publicId : Option String
  systemId : Option String
  broken : Bool
deriving Repr, DecidableEq

/-- A quoted identifier at the start of a text and what follows it. The last
component tells whether the closing quote is there. -/
def quotedIdentifier? : List Char → Option (String × List Char × Bool)
  | q :: cs =>
    if q = '"' || q = '\x27' then
      match cs.dropWhile (· ≠ q) with
      | [] => some (String.ofList cs, [], false)
      | _ :: rest => some (String.ofList (cs.takeWhile (· ≠ q)), rest, true)
    else none
  | [] => none

/-- The system identifier of a document type, and whether what stands there is
well formed. It may be missing if `optional`. -/
def readSystemId (optional : Bool) (s : List Char) : Option String × Bool :=
  match s.dropWhile isSpace with
  | [] => (none, optional)
  | cs =>
    match quotedIdentifier? cs with
    | some (id, _, closed) => (some id, closed)
    | none => (none, false)

/-- Reads what stands between `<!doctype` and `>`. -/
def Doctype.read (s : List Char) : Doctype :=
  match s.dropWhile isSpace with
  | [] => ⟨none, none, none, true⟩
  | cs =>
    let name := String.ofList ((cs.takeWhile (fun c => !isSpace c)).map Char.toLower)
    let rest := (cs.dropWhile (fun c => !isSpace c)).dropWhile isSpace
    let keyword := String.ofList ((rest.take 6).map Char.toLower)
    let identifiers := (rest.drop 6).dropWhile isSpace
    if rest.isEmpty then ⟨some name, none, none, false⟩
    else if keyword = "public" then
      match quotedIdentifier? identifiers with
      | none => ⟨some name, none, none, true⟩
      | some (id, _, false) => ⟨some name, some id, none, true⟩
      | some (id, after, true) =>
        let (systemId, wellFormed) := readSystemId true after
        ⟨some name, some id, systemId, !wellFormed⟩
    else if keyword = "system" then
      let (systemId, wellFormed) := readSystemId false identifiers
      ⟨some name, none, systemId, !wellFormed⟩
    else ⟨some name, none, none, true⟩

/-- Public identifiers, in lower case, that ask for quirks mode by how they
start. -/
def quirkyPublicStarts : List String := [
  "+//silmaril//dtd html pro v0r11 19970101//",
  "-//as//dtd html 3.0 aswedit + extensions//",
  "-//advasoft ltd//dtd html 3.0 aswedit + extensions//",
  "-//ietf//dtd html 2.0 level 1//",
  "-//ietf//dtd html 2.0 level 2//",
  "-//ietf//dtd html 2.0 strict level 1//",
  "-//ietf//dtd html 2.0 strict level 2//",
  "-//ietf//dtd html 2.0 strict//",
  "-//ietf//dtd html 2.0//",
  "-//ietf//dtd html 2.1e//",
  "-//ietf//dtd html 3.0//",
  "-//ietf//dtd html 3.2 final//",
  "-//ietf//dtd html 3.2//",
  "-//ietf//dtd html 3//",
  "-//ietf//dtd html level 0//",
  "-//ietf//dtd html level 1//",
  "-//ietf//dtd html level 2//",
  "-//ietf//dtd html level 3//",
  "-//ietf//dtd html strict level 0//",
  "-//ietf//dtd html strict level 1//",
  "-//ietf//dtd html strict level 2//",
  "-//ietf//dtd html strict level 3//",
  "-//ietf//dtd html strict//",
  "-//ietf//dtd html//",
  "-//metrius//dtd metrius presentational//",
  "-//microsoft//dtd internet explorer 2.0 html strict//",
  "-//microsoft//dtd internet explorer 2.0 html//",
  "-//microsoft//dtd internet explorer 2.0 tables//",
  "-//microsoft//dtd internet explorer 3.0 html strict//",
  "-//microsoft//dtd internet explorer 3.0 html//",
  "-//microsoft//dtd internet explorer 3.0 tables//",
  "-//netscape comm. corp.//dtd html//",
  "-//netscape comm. corp.//dtd strict html//",
  "-//o'reilly and associates//dtd html 2.0//",
  "-//o'reilly and associates//dtd html extended 1.0//",
  "-//o'reilly and associates//dtd html extended relaxed 1.0//",
  "-//sq//dtd html 2.0 hotmetal + extensions//",
  "-//softquad software//dtd hotmetal pro 6.0::19990601::extensions to html 4.0//",
  "-//softquad//dtd hotmetal pro 4.0::19971010::extensions to html 4.0//",
  "-//spyglass//dtd html 2.0 extended//",
  "-//sun microsystems corp.//dtd hotjava html//",
  "-//sun microsystems corp.//dtd hotjava strict html//",
  "-//w3c//dtd html 3 1995-03-24//",
  "-//w3c//dtd html 3.2 draft//",
  "-//w3c//dtd html 3.2 final//",
  "-//w3c//dtd html 3.2//",
  "-//w3c//dtd html 3.2s draft//",
  "-//w3c//dtd html 4.0 frameset//",
  "-//w3c//dtd html 4.0 transitional//",
  "-//w3c//dtd html experimental 19960712//",
  "-//w3c//dtd html experimental 970421//",
  "-//w3c//dtd w3 html//",
  "-//w3o//dtd w3 html 3.0//",
  "-//webtechs//dtd mozilla html 2.0//",
  "-//webtechs//dtd mozilla html//"]

/-- Public identifiers, in lower case, that ask for quirks mode as a whole. -/
def quirkyPublicIds : List String := [
  "-//w3o//dtd w3 html strict 3.0//en//", "-/w3c/dtd html 4.0 transitional/en", "html"]

/-- Public identifiers that ask for quirks mode unless a system identifier
stands beside them. -/
def oldTransitionalStarts : List String := [
  "-//w3c//dtd html 4.01 frameset//", "-//w3c//dtd html 4.01 transitional//"]

/-- System identifiers, in lower case, that ask for quirks mode. -/
def quirkySystemIds : List String := [
  "http://www.ibm.com/data/dtd/v11/ibmxhtml1-transitional.dtd"]

/-- Whether a text starts with one of the words of a list. -/
def startsWithAny (starts : List String) (s : String) : Bool :=
  starts.any fun w => w.toList.isPrefixOf s.toList

/-- Whether the document type asks for quirks mode. -/
def Doctype.quirks (d : Doctype) : Bool :=
  let publicId := d.publicId.map String.toLower
  let systemId := d.systemId.map String.toLower
  d.broken || d.name != some "html" || publicId.any (quirkyPublicIds.contains ·) ||
    systemId.any (quirkySystemIds.contains ·) || publicId.any (startsWithAny quirkyPublicStarts) ||
    (systemId.isNone && publicId.any (startsWithAny oldTransitionalStarts))

end Html
end RuleHarvest
