import AdminConsole.Url.Basic
import AdminConsole.Url.Path

/-!
# Reading URLs

A text as a URL, on its own and not relative to another. White space and controls around it and line
breaks in it are passed over. The fragment and the query are cut off first; what the rest means is
up to the scheme (`SchemeKind`). -/

namespace AdminConsole.Url

/-! ### Parts -/

def isEdge (c : Char) : Bool := c.toNat ≤ 0x20

def isBreak (c : Char) : Bool := c == '\t' || c == '\n' || c == '\r'

def isSchemeChar (c : Char) : Bool := c.isAlphanum || c == '+' || c == '-' || c == '.'

/-- The scheme in small letters, and what follows its colon. -/
def cutScheme? (cs : List Char) : Option (String × List Char) :=
  match cs.dropWhile isSchemeChar with
  | ':' :: rest =>
    if cs.head?.any Char.isAlpha then
      some (Text.toAsciiLower (String.ofList (cs.takeWhile isSchemeChar)), rest)
    else none
  | _ => none

/-- The text before a mark, and the text after it if the mark is there. -/
def cutMark (mark : Char) (cs : List Char) : List Char × Option (List Char) :=
  match Text.cutAt? (· == mark) cs with
  | some (before, after) => (before, some after)
  | none => (cs, none)

def isQuerySpecial (kind : SchemeKind) (c : Char) : Bool :=
  Host.isControl c || " \"#<>".toList.contains c || (kind.isSpecial && c == '\'')

def isFragmentSpecial (c : Char) : Bool := Host.isControl c || " \"<>\x60".toList.contains c

def isUserSpecial (c : Char) : Bool := UrlPath.isSpecial c || "/:;=@[\\]^|".toList.contains c

def encodeQuery (kind : SchemeKind) (cs : List Char) : String :=
  String.ofList (Percent.encode (isQuerySpecial kind) cs)

def encodeFragment (cs : List Char) : String :=
  String.ofList (Percent.encode isFragmentSpecial cs)

def encodeUser (cs : List Char) : String := String.ofList (Percent.encode isUserSpecial cs)

/-! ### Authorities -/

/-- The text before the last at sign, if there is one, and the text after it. -/
def cutUser (cs : List Char) : Option (List Char) × List Char :=
  match Text.cutAt? (· == '@') cs.reverse with
  | some (after, before) => (some before.reverse, after.reverse)
  | none => (none, cs)

/-- A name and a password, which may be left out. -/
def parseUser (cs : List Char) : String × Option String :=
  let (name, password) := cutMark ':' cs
  (encodeUser name, (password.filter (!·.isEmpty)).map encodeUser)

/-- The length of a host, up to a colon that is not in brackets. -/
def hostLength : Bool → List Char → Nat
  | _, [] => 0
  | inside, c :: cs =>
    if c = ':' && !inside then 0
    else hostLength (c == '[' || (inside && c != ']')) cs + 1

def parseHost (kind : SchemeKind) (cs : List Char) : Except UrlError Host :=
  if !kind.isSpecial then Host.parseText cs
  else if cs.isEmpty then .error .emptyHost
  else Host.parse cs

/-- A port, unless it is left out or the scheme's own, and what follows its digits. -/
def parsePort (scheme : String) (cs : List Char) : Except UrlError (Option Nat × List Char) :=
  let digits := cs.takeWhile Char.isDigit
  let rest := cs.dropWhile Char.isDigit
  let port := Host.digitsToNat 10 digits
  if port > 65535 then .error .badPort
  else if rest.head?.any (· != '\\') then .error .badPort
  else
    let written := if digits.isEmpty then none else some port
    .ok (written.filter (some · != defaultPort? scheme), rest)

/-- The authority that a text starts with, and the rest of the text. `more` says that the URL goes
on after the text. -/
def parseAuthority (kind : SchemeKind) (scheme : String) (more : Bool) (cs : List Char) :
    Except UrlError (Authority × List Char) := do
  let ends := UrlPath.isSeparator kind.isSpecial
  let after := cs.dropWhile (!ends ·)
  let (user, place) := cutUser (cs.takeWhile (!ends ·))
  if user == some [] && place.isEmpty && (more || !after.isEmpty) then throw .emptyHost
  let (username, password) := parseUser (user.getD [])
  let length := hostLength false place
  let host ← parseHost kind (place.take length)
  let hasUser := username != "" || password.isSome
  if host == .domain "" && (hasUser || !(place.drop length).isEmpty) then throw .emptyHost
  let (port, rest) ← parsePort scheme (place.drop (length + 1))
  return (⟨username, password, if host = .domain "" then none else some host, port⟩, rest ++ after)

/-! ### What follows the scheme -/

/-- A text in which only controls are encoded, for a URL that is no place in a hierarchy. -/
def opaquePath (cs : List Char) : List Char := Percent.encode Host.isControl cs

def dropSeparator (special : Bool) (cs : List Char) : List Char :=
  match cs with
  | c :: rest => if UrlPath.isSeparator special c then rest else cs
  | [] => []

def parseWeb (scheme : String) (more : Bool) (cs : List Char) :
    Except UrlError (Option Authority × List Char) := do
  let (authority, rest) ←
    parseAuthority .web scheme more (cs.dropWhile (UrlPath.isSeparator true))
  return (some authority, UrlPath.ofText true false (dropSeparator true rest))

def parseOther (scheme : String) (more : Bool) (cs : List Char) :
    Except UrlError (Option Authority × List Char) :=
  match cs with
  | '/' :: '/' :: cs => do
    let (authority, rest) ← parseAuthority .other scheme more cs
    let path := if rest.isEmpty then [] else UrlPath.ofText false false (dropSeparator false rest)
    return (some authority, path)
  | '/' :: cs => .ok (none, UrlPath.ofText false false cs)
  | _ => .ok (none, opaquePath cs)

/-- The host of a file; this machine is no host. -/
def parseFileHost (cs : List Char) : Except UrlError (Option Host) := do
  if cs.isEmpty then return none
  let host ← Host.parse cs
  return if host = .domain "localhost" then none else some host

def parseFile (cs : List Char) : Except UrlError (Option Authority × List Char) := do
  let isSlash := UrlPath.isSeparator true
  let place (host : Option Host) : Option Authority := some ⟨"", none, host, none⟩
  let alone (cs : List Char) := (place none, UrlPath.ofText true true cs)
  if (cs.take 2).length = 2 && (cs.take 2).all isSlash then
    let rest := cs.drop 2
    let name := rest.takeWhile (!isSlash ·)
    if UrlPath.isDrive name then return alone rest
    let after := rest.dropWhile (!isSlash ·)
    match ← parseFileHost name with
    | none => return alone after
    | some host =>
      let after := dropSeparator true after
      if UrlPath.startsWithDrive after then return alone after
      return (place (some host), UrlPath.ofText true true after)
  else return alone (dropSeparator true cs)

/-- The URL that a text is. -/
def parse (text : String) : Except UrlError Url := do
  let cs := (Text.stripChars isEdge text.toList).filter (!isBreak ·)
  match cutScheme? cs with
  | none => throw .noScheme
  | some (scheme, rest) =>
    let kind := SchemeKind.ofScheme scheme
    let (rest, fragment) := cutMark '#' rest
    let (rest, query) := cutMark '?' rest
    let more := query.isSome || fragment.isSome
    let (authority, path) ← match kind with
      | .web => parseWeb scheme more rest
      | .file => parseFile rest
      | .other => parseOther scheme more rest
    return {
      scheme, authority
      path := String.ofList path
      query := query.map (encodeQuery kind)
      fragment := fragment.map encodeFragment }

end AdminConsole.Url
