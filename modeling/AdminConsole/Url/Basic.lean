import AdminConsole.Url.Host
import AdminConsole.Text.Form

/-!
# URLs

The parts of a URL, each in the form in which it is written, and the text they make. Pairs can be
added to the query (`addPairs`), which leaves every other part as it is. -/

namespace AdminConsole

/-- What a scheme says about the rest of a URL. -/
inductive SchemeKind where
  | web
  | file
  | other
  deriving DecidableEq

structure Authority where
  username : String
  /-- No colon is written where there is none. -/
  password : Option String
  /-- No host is an empty host. -/
  host : Option Host
  /-- The port, unless it is the scheme's own. -/
  port : Option Nat
  deriving DecidableEq

structure Url where
  scheme : String
  authority : Option Authority
  path : String
  query : Option String
  fragment : Option String
  deriving DecidableEq

namespace SchemeKind

def ofScheme (s : String) : SchemeKind :=
  if s ∈ ["http", "https", "ws", "wss", "ftp"] then web else if s = "file" then file else other

def isSpecial (k : SchemeKind) : Bool := k != other

end SchemeKind

def defaultPort? (scheme : String) : Option Nat :=
  match scheme with
  | "http" | "ws" => some 80
  | "https" | "wss" => some 443
  | "ftp" => some 21
  | _ => none

namespace Authority

def hasUser (a : Authority) : Bool := a.username != "" || a.password.isSome

def userText (a : Authority) : String :=
  let password := match a.password with
    | some p => ":" ++ p
    | none => ""
  if a.hasUser then a.username ++ password ++ "@" else ""

def portText (a : Authority) : String :=
  match a.port with
  | some p => ":" ++ toString p
  | none => ""

def text (a : Authority) : String :=
  a.userText ++ ((a.host.map Host.text).getD "") ++ a.portText

end Authority

namespace Url

/-- A path that starts with two slashes would be taken for an authority. -/
def pathText (u : Url) : String :=
  match u.authority with
  | some a => "//" ++ a.text ++ u.path
  | none => (if u.path.startsWith "//" then "/." else "") ++ u.path

def queryText (u : Url) : String :=
  match u.query with
  | some q => "?" ++ q
  | none => ""

def fragmentText (u : Url) : String :=
  match u.fragment with
  | some f => "#" ++ f
  | none => ""

def text (u : Url) : String := u.scheme ++ ":" ++ u.pathText ++ u.queryText ++ u.fragmentText

/-- The path and the query, as a request names them. -/
def target (u : Url) : String := u.path ++ u.queryText

def host? (u : Url) : Option Host := u.authority.bind (·.host)

/-- Adds a pair to a query. -/
def addPair (query : String) (p : String × String) : String :=
  (if query.isEmpty then "" else query ++ "&") ++ String.ofList (Form.encodePair p)

/-- Adds pairs at the end of the query. -/
def addPairs (u : Url) (ps : List (String × String)) : Url :=
  { u with query := some (ps.foldl addPair (u.query.getD "")) }

/-- The URL without the name and password in it. -/
def withoutUser (u : Url) : Url :=
  { u with authority := u.authority.map fun a => { a with username := "", password := none } }

end Url

end AdminConsole
