import AdminConsole.Navigation.Login

/-!
# Accepting the terms

The terms count as accepted once the backend has taken note and the session says so. -/

namespace AdminConsole.Terms

def accepted : Notice := .success "Terms of Service accepted."

def notAccepted : Notice := .failure "Failed to accept Terms of Service. Please try again."

/-- The backend takes note first, then the session. -/
def record : App Bool := do
  match ← App.ask .acceptTerms with
  | .error _ => return false
  | .ok _ =>
    match ← SessionStore.setAcceptedTos with
    | .error _ => return false
    | .ok _ => return true

def accept (siteMap : SiteMap) : App NextStep := do
  if ← record then
    App.notify accepted
    match ← TabNotes.redirectionUrl? with
    | some url => return .external url
    | none => return .navigate (.ofPath (siteMap.pathFor .userManagement))
  else
    App.notify notAccepted
    return .navigate (.ofPath (siteMap.pathFor .tos))

end AdminConsole.Terms
