/-
# URLs

A URL is a scheme, perhaps an authority (credentials, host and port), a path,
and perhaps a query and a fragment. Reading brings it to its normal form: the
scheme and the host are in lower case, the default port is left out, `.` and
`..` in the path are resolved, and what may not stand in a part is
percent-encoded.

White space around a URL does not count, nor do tabs and line ends in it. In
web addresses a backslash is a slash.

A URL may also be given relative to another (`resolve?`), as redirects do.

Key definitions: `Url`, `Url.parse?`, `Url.resolve?`, `Url.write`.
-/
import RuleHarvest.Url.Host

namespace RuleHarvest
namespace Url

structure Credentials where
  username : String
  password : Option String
deriving Repr, DecidableEq

structure Authority where
  credentials : Option Credentials := none
  host : Host
  /-- The port, if it is not the default one of the scheme. -/
  port : Option Nat := none
deriving Repr, DecidableEq

/-- A path is a list of segments; a URL such as `mailto:a@b` has a text that is
not taken apart. -/
inductive Path where
  | plain (s : String)
  | segments (names : List String)
deriving Repr, DecidableEq

end Url

/-- A URL in its normal form. -/
structure Url where
  scheme : String
  authority : Option Url.Authority := none
  path : Url.Path
  query : Option String := none
  fragment : Option String := none
deriving Repr, DecidableEq

namespace Url

/-! ### Schemes -/

/-- The default port of a web scheme. -/
def defaultPort? (scheme : String) : Option Nat :=
  match scheme with
  | "http" | "ws" => some 80
  | "https" | "wss" => some 443
  | "ftp" => some 21
  | _ => none

/-- A scheme whose URLs have a host and a path that is taken apart at
backslashes too. -/
def isWeb (scheme : String) : Bool := (defaultPort? scheme).isSome || scheme = "file"

/-- A text without what does not count in a URL. -/
def cleaned (s : List Char) : List Char :=
  let blank (c : Char) : Bool := c.toNat ≤ 0x20
  (Text.dropEndWhile blank (s.dropWhile blank)).filter fun c => c ≠ '\t' && c ≠ '\n' && c ≠ '\r'

/-- The scheme of a text, in lower case, and what follows its colon. -/
def splitScheme (s : List Char) : Option (String × List Char) :=
  let name := s.takeWhile fun c => c.isAlphanum || c = '+' || c = '-' || c = '.'
  match s.drop name.length with
  | ':' :: rest =>
    if name.head?.any Char.isAlpha then some (String.ofList (name.map Char.toLower), rest) else none
  | _ => none

/-- Cuts a text at the first character `c`. -/
def cutAt (c : Char) (s : List Char) : List Char × Option (List Char) :=
  match s.dropWhile (· ≠ c) with
  | [] => (s, none)
  | _ :: rest => (s.takeWhile (· ≠ c), some rest)

/-! ### Authorities -/

/-- The text before and after the last `@`. -/
def cutCredentials (s : List Char) : Option (List Char) × List Char :=
  let after := (s.reverse.takeWhile (· ≠ '@')).reverse
  if after.length = s.length then (none, s) else (some (s.take (s.length - after.length - 1)), after)

/-- The credentials in a text. Empty ones do not count. -/
def parseCredentials (s : List Char) : Option Credentials :=
  let (name, word) := cutAt ':' s
  let encode (t : List Char) := String.ofList (percentEncode inCredentials t)
  let password := word.filter (!·.isEmpty)
  if name.isEmpty && password.isNone then none else some ⟨encode name, password.map encode⟩

/-- The host and what follows it: the text up to a colon outside brackets. -/
def cutHost : Bool → List Char → List Char × List Char
  | _, [] => ([], [])
  | inside, c :: cs =>
    if c = ':' && !inside then ([], c :: cs)
    else
      let (host, rest) := cutHost (if c = '[' then true else if c = ']' then false else inside) cs
      (c :: host, rest)

/-- The port in a text after the host. `some none` is the default port. -/
def parsePort? (scheme : String) (s : List Char) : Option (Option Nat) :=
  match s with
  | [] => some none
  | _ :: digits =>
    if !digits.all Char.isDigit then none
    else if digits.isEmpty then some none
    else
      let port := digits.foldl (fun n c => min 65536 (n * 10 + (c.toNat - 48))) 0
      if port > 65535 then none
      else if defaultPort? scheme = some port then some none
      else some (some port)

/-- The authority in a text. -/
def parseAuthority? (scheme : String) (s : List Char) : Option Authority := do
  let (before, after) := cutCredentials s
  if before.isSome && after.isEmpty then none
  else
    let (hostText, portText) := cutHost false after
    let credentials := before.bind parseCredentials
    if hostText.isEmpty && (isWeb scheme || !portText.isEmpty || credentials.isSome) then none
    else
      let host ← if isWeb scheme then Host.parseWeb? hostText else Host.parseOther? hostText
      let port ← parsePort? scheme portText
      some { credentials, host, port }

/-! ### Paths -/

/-- A segment that stands for the directory it is in. -/
def isHere (segment : List Char) : Bool := [".", "%2e"].contains (String.ofList (segment.map Char.toLower))

/-- A segment that stands for the directory above. -/
def isAbove (segment : List Char) : Bool :=
  ["..", ".%2e", "%2e.", "%2e%2e"].contains (String.ofList (segment.map Char.toLower))

/-- A letter and a colon or a bar, as Windows names its drives. -/
def isDrive (segment : List Char) : Bool :=
  match segment with
  | [a, b] => a.isAlpha && (b = ':' || b = '|')
  | _ => false

/-- The segments without the last one. A drive stays. -/
def goUp (scheme : String) (names : List String) : List String :=
  match names with
  | [name] => if scheme = "file" && isDrive name.toList then names else []
  | _ => names.dropLast

/-- Adds segments to a path one by one, resolving `.` and `..`. -/
def addSegments (scheme : String) (names : List String) : List (List Char) → List String
  | [] => names
  | s :: rest =>
    let atEnd := rest.isEmpty
    if isAbove s then
      addSegments scheme (if atEnd then goUp scheme names ++ [""] else goUp scheme names) rest
    else if isHere s then addSegments scheme (if atEnd then names ++ [""] else names) rest
    else
      let shown := if scheme = "file" && names.isEmpty && isDrive s then s.take 1 ++ [':'] else s
      addSegments scheme (names ++ [String.ofList (percentEncode inPath shown)]) rest

/-- A character that parts two segments. -/
def isSlash (scheme : String) (c : Char) : Bool := c = '/' || (isWeb scheme && c = '\\')

/-- The path of a text that starts with a slash or is empty. -/
def parsePath (scheme : String) (s : List Char) : Path :=
  match s with
  | [] => .segments (if isWeb scheme then [""] else [])
  | _ :: rest => .segments (addSegments scheme [] (Text.splitWhere (isSlash scheme) rest))

/-! ### Reading -/

/-- A text in its parts: what stands before query and fragment, and these two in
their written form. -/
structure Parts where
  front : List Char
  query : Option String
  fragment : Option String

def Parts.of (scheme : String) (s : List Char) : Parts :=
  let (body, fragment) := cutAt '#' s
  let (front, query) := cutAt '?' body
  ⟨front, query.map fun q => String.ofList (percentEncode (inQuery (isWeb scheme)) q),
    fragment.map fun f => String.ofList (percentEncode inFragment f)⟩

/-- A URL with an authority, from behind the slashes. -/
def withAuthority? (scheme : String) (p : Parts) (front : List Char) : Option Url := do
  let text := front.takeWhile (!isSlash scheme ·)
  let authority ← parseAuthority? scheme text
  some { scheme, authority := some authority, path := parsePath scheme (front.drop text.length),
         query := p.query, fragment := p.fragment }

/-- A URL of a file, from behind the colon. -/
def fileUrl? (p : Parts) : Option Url := do
  let local' (host : Host) (path : Path) : Url :=
    { scheme := "file", authority := some { host }, path, query := p.query, fragment := p.fragment }
  let slash := isSlash "file"
  match p.front with
  | a :: b :: rest =>
    if slash a && slash b then
      let text := rest.takeWhile (!slash ·)
      if isDrive text then some (local' (.name "") (parsePath "file" ('/' :: rest)))
      else
        let host ← if text.isEmpty then some (Host.name "") else Host.parseWeb? text
        some (local' (if host = .name "localhost" then .name "" else host)
          (parsePath "file" (rest.drop text.length)))
    else some (local' (.name "") (parsePath "file" (if slash a then p.front else '/' :: p.front)))
  | front => some (local' (.name "") (parsePath "file" (if front.head?.any slash then front else '/' :: front)))

/-- A URL from behind its scheme and colon. -/
def parseAfterScheme? (scheme : String) (rest : List Char) : Option Url :=
  let p := Parts.of scheme rest
  if scheme = "file" then fileUrl? p
  else if isWeb scheme then withAuthority? scheme p (p.front.dropWhile (isSlash scheme))
  else
    match p.front with
    | '/' :: '/' :: front => withAuthority? scheme p front
    | '/' :: front =>
      some { scheme, path := parsePath scheme ('/' :: front), query := p.query, fragment := p.fragment }
    | front =>
      some { scheme, path := .plain (String.ofList (percentEncode isControl front)), query := p.query,
             fragment := p.fragment }

/-- Reads a URL. -/
def parse? (s : String) : Option Url := do
  let (scheme, rest) ← splitScheme (cleaned s.toList)
  parseAfterScheme? scheme rest

/-- Reads a URL that is relative to a web address. -/
def resolveRelative? (base : Url) (rest : List Char) : Option Url :=
  let p := Parts.of base.scheme rest
  let slash := isSlash base.scheme
  let names := match base.path with
    | .segments names => names
    | .plain _ => []
  match p.front with
  | [] => some { base with query := if p.query.isSome then p.query else base.query, fragment := p.fragment }
  | a :: front =>
    if slash a then
      if front.head?.any slash then withAuthority? base.scheme p (front.dropWhile slash)
      else some { base with path := parsePath base.scheme p.front, query := p.query, fragment := p.fragment }
    else
      let path := .segments (addSegments base.scheme names.dropLast (Text.splitWhere slash p.front))
      some { base with path, query := p.query, fragment := p.fragment }

/-- Reads a URL that may be relative to a web address. -/
def resolve? (base : Url) (s : String) : Option Url :=
  let text := cleaned s.toList
  match splitScheme text with
  | none => base.resolveRelative? text
  | some (scheme, rest) =>
    if scheme = base.scheme && (rest.takeWhile (isSlash scheme)).length < 2 then
      base.resolveRelative? rest
    else parseAfterScheme? scheme rest

/-! ### Writing -/

def Credentials.write (c : Credentials) : String :=
  match c.password with
  | some word => c.username ++ ":" ++ word ++ "@"
  | none => c.username ++ "@"

def writeAuthority (a : Authority) : String :=
  let credentials := match a.credentials with
    | some c => Credentials.write c
    | none => ""
  let port := match a.port with
    | some n => ":" ++ toString n
    | none => ""
  "//" ++ credentials ++ a.host.write ++ port

def writePath (hasAuthority : Bool) : Path → String
  | .plain s => s
  | .segments names =>
    let guard := if !hasAuthority && names.length > 1 && names.head? = some "" then "/." else ""
    guard ++ String.join (names.map ("/" ++ ·))

/-- The URL as text, without its fragment. -/
def writeWithoutFragment (u : Url) : String :=
  u.scheme ++ ":" ++ (u.authority.map writeAuthority).getD "" ++
    writePath u.authority.isSome u.path ++ (u.query.map ("?" ++ ·)).getD ""

/-- The URL as text. -/
def write (u : Url) : String :=
  u.writeWithoutFragment ++ (u.fragment.map ("#" ++ ·)).getD ""

end Url
end RuleHarvest
