/-
# The network

A network says what the n-th request of a URL meets: an answer, a fault on the
way, or nothing at all when no connection can be made. It keeps the requests
it has received.

An attempt at a page sends one request and follows up to ten redirects. There
is one deadline for the whole attempt, up to the end of the last body.

Key definitions: `Reply`, `Network`, `Traffic`, `send`, `follow`, `fetchPage`.
-/
import RuleHarvest.Fetch.Config
import RuleHarvest.Fetch.Error
import RuleHarvest.Url.Sendable

namespace RuleHarvest

/-- An answer of a server. -/
structure Response where
  status : Nat := 200
  body : List UInt8 := []
  headers : List (String × String) := []
  /-- The body ends before it is complete. -/
  truncated : Bool := false
  /-- How long the answer takes up to its body. -/
  delay : Duration := .ofMillis 0
  /-- How long the body takes. -/
  bodyDelay : Duration := .ofMillis 0
deriving DecidableEq

/-- What a request meets. -/
inductive Reply where
  | answer (r : Response)
  /-- The request is received, but no valid answer comes. -/
  | silence
  /-- No connection can be made, so the request is not received. -/
  | unreachable

/-- A network: what the `n`-th request (from zero) of a URL meets. URLs are in
their normal form and without a fragment. -/
abbrev Network := String → Nat → Reply

/-- The network of one plain server, on which each URL has a list of replies. The
last one repeats; a URL without replies is answered with status 404. The server
knows no encryption, so other URLs than those of plain HTTP cannot be reached. -/
def Network.scripted (replies : List (String × List Reply)) : Network := fun url n =>
  if !"http:".toList.isPrefixOf url.toList then .unreachable
  else
    match replies.lookup url with
    | none | some [] => .answer { status := 404 }
    | some (r :: rs) => ((r :: rs)[n]?).getD ((r :: rs).getLast?.getD r)

/-- The network in which nothing can be reached. -/
def Network.offline : Network := fun _ _ => .unreachable

/-- A request as it was received: the URL and the name of the program. -/
structure Received where
  url : String
  userAgent : String
deriving Repr, DecidableEq

/-- The requests received so far, the first one first. -/
abbrev Traffic := List Received

/-- How many requests of a URL were received. -/
def Traffic.count (t : Traffic) (url : String) : Nat := (t.filter (·.url = url)).length

/-! ### One request -/

/-- The URL of a request, without credentials: these are sent apart. They stay
if they are not UTF-8. -/
def Url.withoutCredentials (u : Url) : Url :=
  let isText (s : String) : Bool := (Text.Utf8.decode? (Url.percentDecode s.toList)).isSome
  match u.authority with
  | some a =>
    match a.credentials with
    | some c =>
      let word := c.password.filter isText
      if isText c.username && (c.username ≠ "" || word.isSome) then
        { u with authority := some { a with credentials := none } }
      else u
    | none => u
  | none => u

/-- A URL of the web, encrypted or not. -/
def Url.isHttp (u : Url) : Bool := u.scheme = "http" || u.scheme = "https"

/-- The URL to ask for: one that can be read, belongs to the web and can be
carried by a request. -/
def requestUrl (text : String) : Except HttpFault Url :=
  match Url.parse? text with
  | none => .error (.unbuildable none)
  | some u =>
    let u := u.withoutCredentials
    if u.isHttp && u.isSendable then .ok u else .error (.unbuildable (some u.write))

/-- An answer as it comes when so many nanoseconds of its attempt have passed:
not at all if the deadline is over, and without the end of its body if that is
late. -/
def Response.inTime? (r : Response) (config : Config) (spent : Nat) : Option Response :=
  let begins := spent + r.delay.totalNanos
  if config.timeout.totalNanos ≤ begins then none
  else
    let late : Bool := config.timeout.totalNanos ≤ begins + r.bodyDelay.totalNanos
    some { r with truncated := r.truncated || late }

/-- The answer that a URL meets when so many nanoseconds of the attempt have
passed, and the traffic with the request. -/
def send (network : Network) (config : Config) (spent : Nat) (u : Url) (t : Traffic) :
    Option Response × Traffic :=
  let url := u.writeWithoutFragment
  let received := t ++ [⟨url, config.userAgent⟩]
  match network url (t.count url) with
  | .unreachable => (none, t)
  | .silence => (none, received)
  | .answer r => (r.inTime? config spent, received)

/-! ### Redirects -/

/-- The value of a header, whatever the case of its name. -/
def Response.header? (r : Response) (name : String) : Option String :=
  (r.headers.find? fun h => h.1.toLower = name).map (·.2)

/-- The URL that an answer redirects to. A location that no request can carry
does not count. -/
def Response.redirect? (r : Response) (u : Url) : Option Url :=
  if [301, 302, 303, 307, 308].contains r.status then
    ((r.header? "location").bind u.resolve?).filter Url.isSendable
  else none

/-- Asks for a URL, when so many nanoseconds of the attempt have passed, and
follows at most `n` redirects. -/
def follow (network : Network) (config : Config) :
    Nat → Nat → Url → Traffic → Except HttpFault Response × Traffic
  | n, spent, u, t =>
    match send network config spent u t with
    | (none, t) => (.error (.noAnswer u.write), t)
    | (some r, t) =>
      match r.redirect? u, n with
      | none, _ => (.ok r, t)
      | some _, 0 => (.error (.tooManyRedirects u.write), t)
      | some next, n + 1 =>
        if next.isHttp then follow network config n (spent + r.delay.totalNanos) next t
        else (.error (.unbuildable (some next.write)), t)

/-- How many redirects are followed. -/
def maxRedirects : Nat := 10

/-- Asks for a page once. -/
def fetchPage (network : Network) (config : Config) (url : String) (t : Traffic) :
    Except FetchError String × Traffic :=
  match requestUrl url with
  | .error fault => (.error (.http fault), t)
  | .ok u =>
    match follow network config maxRedirects 0 u t with
    | (.error fault, t) => (.error (.http fault), t)
    | (.ok r, t) =>
      if !(200 ≤ r.status && r.status < 300) then (.error (.server url r.status), t)
      else if r.truncated then (.error (.http .brokenBody), t)
      else (.ok (String.ofList (Text.Utf8.decodeLossy r.body)), t)

end RuleHarvest
