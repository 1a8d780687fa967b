import AdminConsole.Session
import AdminConsole.Storage.Basic

/-!
# The stored session

The session lives in its slot as a text. A text that cannot be read, or cannot be decoded, is no
session; an update decodes the session, changes it and writes it back (`update`), and writes nothing
where nothing changes. -/

namespace AdminConsole

inductive SessionError where
  | storage (cause : StorageError)
  | invalidClaims (cause : ClaimsError)
  | noSession
  deriving DecidableEq

def SessionError.message : SessionError → String
  | storage cause => "storage error: " ++ cause.message
  | invalidClaims cause => "invalid claims: " ++ cause.message
  | noSession => "no active session"

namespace SessionStore

def get : Storage (Option Session) := do
  match ← Storage.read .session with
  | .ok (some text) => return Session.decode? text
  | _ => return none

def replace (s : Session) : Storage (Except SessionError Unit) := do
  return (← Storage.write .session s.encode).mapError .storage

/-- Starts a session from the claims of an identity exchange. -/
def establish (c : Claims) : Storage (Except SessionError Session) := do
  match c.validate with
  | .error e => return .error (.invalidClaims e)
  | .ok _ =>
    let session := Session.ofClaims c
    return (← replace session).map fun _ => session

/-- The username of a session that counts. -/
def validUser? : Storage (Option String) := do
  return (← get).bind fun s => if s.isAuthenticated then s.username? else none

def acceptedTos : Storage Bool := do
  return (← get).any (·.acceptedTos)

def token? : Storage (Option String) := do
  return (← get).bind Session.token?

/-! ### Updates -/

/-- Changes the session; a change that answers none leaves it alone. -/
def update (change : Session → Option Session) : Storage (Except SessionError Unit) := do
  match ← get with
  | none => return .error .noSession
  | some session =>
    match change session with
    | none => return .ok ()
    | some session => replace session

def setAcceptedTos : Storage (Except SessionError Unit) :=
  update fun s => if s.acceptedTos then none else some { s with acceptedTos := true }

def setToken (token : String) : Storage (Except SessionError Unit) :=
  update fun s => some { s with token := some token }

def setPrivileges (privileges : TextSet) : Storage (Except SessionError Unit) :=
  update fun s => if s.privileges = privileges then none else some { s with privileges }

def clear : Storage (Except SessionError Unit) := do
  return (← Storage.wipe).mapError .storage

/-- Ends the session, and forgets everything kept beside it. -/
def logout : Storage (Except SessionError Unit) := do
  discard validUser?
  clear

end SessionStore

end AdminConsole
