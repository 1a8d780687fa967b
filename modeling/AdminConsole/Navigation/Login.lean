import AdminConsole.App
import AdminConsole.Settings
import AdminConsole.Storage.TabNotes

/-!
# Logging in

A login sends the user to the identity provider, and is completed once the provider sends the user
back with a grant. On the way back the location may also carry hints of where the user is to go,
which are kept first. -/

namespace AdminConsole

/-- What comes after a login or after the terms. -/
inductive NextStep where
  | navigate (location : Location)
  | external (url : String)
  | display (view : View)
  deriving DecidableEq

structure Login where
  siteMap : SiteMap
  provider : Provider
  redirectUri : String

namespace Login

def failed : Notice :=
  .failure
    "Failed to authenticate with provider. Try again or contact administrator if error persists."

def clientIdMissing : Notice :=
  .failure "Client ID is not provided. Please update the identity provider settings."

def goTo (l : Login) (route : Route) : NextStep := .navigate (.ofPath (l.siteMap.pathFor route))

/-- Sends the user to the provider, or says why there is none. -/
def initiate (l : Login) : App NextStep :=
  match l.provider.authorizationUrl l.redirectUri with
  | .ok url => return .external url.text
  | .error e => do
    App.notify clientIdMissing
    return .display (.login e.message)

/-- The grant that the provider sent; a token comes before a code. -/
def grant? (l : Login) (location : Location) : Option Grant :=
  match location.param? "access_token" with
  | some token => some (.accessToken token l.redirectUri)
  | none => (location.param? "code").map fun code => .code code l.redirectUri

def captureHint (slot : Slot) (location : Location) : Storage Unit :=
  match location.param? slot.key with
  | some url => discard (TabNotes.setHint slot url)
  | none => return

/-- Keeps the hints. A storage that does not keep them does no harm. -/
def captureHints (location : Location) : Storage Unit := do
  captureHint .redirectionUrl location
  captureHint .notAuthorizedUrl location

def fail (l : Login) : App NextStep := do
  App.notify failed
  match ← TabNotes.notAuthorizedUrl? with
  | some url => return .external url
  | none => return l.goTo .notAuthorized

/-- Where a new session goes: to the terms, to where the hint says, or to the first page. -/
def afterLogin (l : Login) (session : Session) : App NextStep := do
  if session.acceptedTos then
    match ← TabNotes.redirectionUrl? with
    | some url => return .external url
    | none => return l.goTo .userManagement
  else return l.goTo .tos

def complete (l : Login) (grant : Grant) : App NextStep := do
  match ← App.ask (.exchange grant) with
  | .error _ => l.fail
  | .ok claims =>
    match ← SessionStore.establish claims with
    | .error _ => l.fail
    | .ok session => l.afterLogin session

/-- What is done at the login route. -/
def start (l : Login) (location : Location) : App NextStep := do
  captureHints location
  match l.grant? location with
  | some grant => l.complete grant
  | none => l.initiate

end Login

end AdminConsole
