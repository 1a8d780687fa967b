import AdminConsole.Location
import AdminConsole.Route
import AdminConsole.Session

/-!
# Render contexts

What the handler of a route may look at. -/

namespace AdminConsole

structure RenderContext where
  route : Route
  location : Location
  /-- The session as it is when the handler is called. -/
  session : Option Session
  deriving DecidableEq

end AdminConsole
