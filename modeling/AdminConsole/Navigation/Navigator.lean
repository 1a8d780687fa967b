import AdminConsole.Navigation.Gate
import AdminConsole.Navigation.Handler
import AdminConsole.Navigation.Terms

/-!
# Navigation

Following a location to a view. The location names a route; the login and the logout are done, and
any other route passes the gate, which may send the navigation on to another location (`follow`).
The last operation that the user starts is the one that counts: every operation takes a ticket, and
only the newest mounts its view. -/

namespace AdminConsole

inductive NavigationError where
  | session (cause : SessionError)
  | tooManyRedirects (path : String) (hops : Nat)
  deriving DecidableEq

def NavigationError.message : NavigationError → String
  | session cause => "session error: " ++ cause.message
  | tooManyRedirects path hops =>
    "navigation to '" ++ path ++ "' did not settle after " ++ toString hops ++ " redirects"

inductive Outcome where
  | rendered (view : View)
  | loginInitiated (step : NextStep)
  | external (url : String)
  | aborted
  /-- A later operation has taken over. -/
  | superseded
  deriving DecidableEq

structure Navigator where
  siteMap : SiteMap
  registry : Registry
  provider : Provider
  redirectUri : String
  policy : ConnectionPolicy

namespace Navigator

abbrev Result := Except NavigationError Outcome

/-- How often one navigation may be sent on. -/
def maxRedirects : Nat := 8

def ofSettings (s : Settings) (siteMap : SiteMap) : Navigator where
  siteMap
  registry := .standard siteMap s.helpLink
  provider := s.provider
  redirectUri := s.effectiveRedirectUri
  policy := s.connectionPolicy

def gate (n : Navigator) : Gate := ⟨n.siteMap, n.policy⟩

def login (n : Navigator) : Login := ⟨n.siteMap, n.provider, n.redirectUri⟩

/-! ### Ways to end -/

def mount (ticket : Nat) (view : View) (location : Location) : App Outcome := do
  return if ← App.mount ticket view location then .rendered view else .superseded

/-- Ends with a step that does not go on inside the console. -/
def settle (step : NextStep) (location : Location) (ticket : Nat) : App Outcome :=
  match step with
  | .external url => return .external url
  | .display view => mount ticket view location
  | .navigate _ => return .aborted

def logout (n : Navigator) : App Result := do
  discard App.ticket
  match ← SessionStore.logout with
  | .error e => return .error (.session e)
  | .ok _ =>
    App.leave
    return .ok (.external (n.siteMap.pathFor .logout))

/-- Shows what the route's handler makes of the session as it is now. -/
def dispatch (n : Navigator) (route : Route) (location : Location) (ticket : Nat) :
    App Outcome := do
  let ctx : RenderContext := ⟨route, location, ← SessionStore.get⟩
  App.dispatch ctx
  mount ticket (← n.registry.render route ctx) location

def beginLogin (n : Navigator) (location : Location) (ticket : Nat) : App Outcome := do
  let step ← n.login.initiate
  match step with
  | .display view =>
    if ← App.mount ticket view location then return .loginInitiated step else return .superseded
  | _ => return .loginInitiated step

/-! ### Following a location -/

/-- Goes from a location to its end, or to the location to go on with. -/
def visit (n : Navigator) (location : Location) (ticket : Nat) : App (Result ⊕ Location) := do
  match n.siteMap.resolve location.path with
  | .login =>
    match ← n.login.start location with
    | .navigate next => return .inr next
    | step => return .inl (.ok (← settle step location ticket))
  | .logout => return .inl (← n.logout)
  | route =>
    match ← n.gate.check route with
    | .dispatch => return .inl (.ok (← n.dispatch route location ticket))
    | .login => return .inl (.ok (← n.beginLogin location ticket))
    | .abort => return .inl (.ok .aborted)
    | .redirect target => return .inr (.ofPath (n.siteMap.pathFor target))

/-- Visits a location and those it is sent on to, while it may be sent on. -/
def followWithin (n : Navigator) (ticket : Nat) (origin : String) : Nat → Location → App Result
  | 0, location => do
    match ← n.visit location ticket with
    | .inl result => return result
    | .inr _ => return .error (.tooManyRedirects origin (maxRedirects + 1))
  | left + 1, location => do
    match ← n.visit location ticket with
    | .inl result => return result
    | .inr next => followWithin n ticket origin left next

def follow (n : Navigator) (start : Location) (ticket : Nat) : App Result :=
  n.followWithin ticket start.path maxRedirects start

/-! ### Operations -/

def navigate (n : Navigator) (path : String) : App Result := do
  let ticket ← App.ticket
  n.follow (.parse path) ticket

def navigateTo (n : Navigator) (route : Route) : App Result := n.navigate (n.siteMap.pathFor route)

def acceptTerms (n : Navigator) : App Result := do
  let ticket ← App.ticket
  match ← Terms.accept n.siteMap with
  | .navigate location => n.follow location ticket
  | step =>
    let location := (← App.location).getD (.ofPath "")
    return .ok (← settle step location ticket)

/-- The page that says access is denied, with the parameters of a location. -/
def deniedLocation (n : Navigator) (location : Option Location) : Location where
  path := n.siteMap.pathFor .notAuthorized
  params := ((location.map (·.params)).getD .empty)

/-- What is done about a rejected request. A session without a token ends. -/
def recover (n : Navigator) : Rejection → App Result
  | .unauthenticated => do
    if (← SessionStore.token?).isNone then n.logout
    else match ← TabNotes.notAuthorizedUrl? with
      | some url => return .ok (.external url)
      | none =>
        let location ← App.location
        let ticket ← App.ticket
        n.follow (n.deniedLocation location) ticket
  | .forbidden => n.navigateTo .notAuthorized
  | .termsNotAccepted => n.navigateTo .tos

end Navigator

end AdminConsole
