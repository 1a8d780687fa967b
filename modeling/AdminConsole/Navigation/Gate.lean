import AdminConsole.App
import AdminConsole.Settings
import AdminConsole.Storage.TabNotes

/-!
# The gate

What stands between a user and a route. A public route is open. Any other route needs a session, the
terms accepted and the connections loaded, in this order; the terms themselves need only the
session. -/

namespace AdminConsole

structure Gate where
  siteMap : SiteMap
  policy : ConnectionPolicy

namespace Gate

inductive Decision where
  | login
  | redirect (route : Route)
  | dispatch
  | abort
  deriving DecidableEq

/-- Asks for the connections and keeps them. A storage that does not keep them does no harm. -/
def loadConnections : App Bool := do
  match ← App.ask .connections with
  | .ok connections =>
    discard (TabNotes.cacheConnections connections)
    return true
  | .error _ => return false

/-- Loads the connections unless they are there. -/
def passConnections (g : Gate) : App Decision := do
  if (← TabNotes.connections?).isSome then return .dispatch
  if ← loadConnections then return .dispatch
  return if g.policy = .required then .abort else .dispatch

def check (g : Gate) (route : Route) : App Decision := do
  if g.siteMap.isPublic route then return .dispatch
  if (← SessionStore.validUser?).isNone then return .login
  if route = .tos then return .dispatch
  if ← SessionStore.acceptedTos then g.passConnections
  else return .redirect .tos

end Gate

end AdminConsole
