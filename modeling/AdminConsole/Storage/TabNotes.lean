import AdminConsole.Connection
import AdminConsole.Storage.SessionStore

/-!
# Notes of a tab

What the console keeps beside the session: the connections, once they are loaded, and two hints of
where to send the user. A note that is blank or cannot be read is not there. -/

namespace AdminConsole.TabNotes

def read (slot : Slot) : Storage (Option String) := do
  match ← Storage.read slot with
  | .ok text => return Text.given? text
  | .error _ => return none

def connections? : Storage (Option (List Connection)) := do
  return (← read .connections).bind Connection.decodeList?

def cacheConnections (cs : List Connection) : Storage (Except SessionError Unit) := do
  return (← Storage.write .connections (Connection.encodeList cs)).mapError .storage

/-- Where to go once a login is complete. -/
def redirectionUrl? : Storage (Option String) := read .redirectionUrl

/-- Where to go instead of the page that says access is denied. -/
def notAuthorizedUrl? : Storage (Option String) := read .notAuthorizedUrl

def setHint (slot : Slot) (url : String) : Storage (Except SessionError Unit) := do
  return (← Storage.write slot (Text.trim url)).mapError .storage

def setRedirectionUrl (url : String) : Storage (Except SessionError Unit) :=
  setHint .redirectionUrl url

def setNotAuthorizedUrl (url : String) : Storage (Except SessionError Unit) :=
  setHint .notAuthorizedUrl url

end AdminConsole.TabNotes
