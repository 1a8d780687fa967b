import AdminConsole.App
import AdminConsole.SiteMap
import AdminConsole.Storage.SessionStore

/-!
# Handlers

A handler makes the view of a route. The registry knows the handlers and guards every one of them:
a route that requires permissions is denied to a session that lacks one, whatever its handler
(`Registry.render`). -/

namespace AdminConsole

abbrev Handler := RenderContext → App View

namespace Handler

def page : Handler := fun ctx => return .page ctx.route

/-- Always the same view. -/
def fixed (view : View) : Handler := fun _ => return view

def terms : Handler := fun _ => do
  match ← App.ask .latestTerms with
  | .ok content => return .terms (some content)
  | .error _ =>
    App.notify (.failure "Failed to load Terms of Service.")
    return .terms none

/-- The backend's privileges are shown and kept; the session's stand in where it does not
answer. -/
def profile : Handler := fun ctx => do
  let session := ctx.session.getD {}
  let privileges ← do
    match ← App.ask .currentUser with
    | .ok user =>
      discard (SessionStore.setPrivileges user.privileges)
      pure user.privileges
    | .error _ => pure session.privileges
  return .profile (session.username?.getD "") session.email privileges

end Handler

structure Registry where
  siteMap : SiteMap
  /-- Shown where access is denied. -/
  helpLink : Option String
  handlers : Route → Option Handler

namespace Registry

/-- A login and a logout have no view of their own. -/
def standardHandler (helpLink : Option String) : Route → Option Handler
  | .tos => some Handler.terms
  | .notAuthorized => some (Handler.fixed (.denied helpLink))
  | .userProfile => some Handler.profile
  | .login | .logout => none
  | _ => some Handler.page

def standard (siteMap : SiteMap) (helpLink : Option String) : Registry :=
  ⟨siteMap, helpLink, standardHandler helpLink⟩

/-- Puts a handler in the place of the one that the route has. -/
def withHandler (r : Registry) (route : Route) (h : Handler) : Registry :=
  { r with handlers := fun route' => if route' = route then some h else r.handlers route' }

/-- The required permissions that the session lacks; no session has none of them. -/
def missing (r : Registry) (route : Route) (session : Option Session) : List String :=
  match session with
  | some s => s.missing (r.siteMap.required route)
  | none => (r.siteMap.required route).toList

/-- The view of a registered route; a route that is not registered is a page. -/
def render (r : Registry) (route : Route) (ctx : RenderContext) : App View :=
  match r.handlers route with
  | some h => if (r.missing route ctx.session).isEmpty then h ctx else return .denied r.helpLink
  | none => Handler.page ctx

end Registry

end AdminConsole
