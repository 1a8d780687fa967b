import AdminConsole.App
import AdminConsole.Storage.SessionStore

/-!
# Refreshing the token

The session's token is replaced by one that lasts longer. -/

namespace AdminConsole.TokenRefresh

inductive RefreshError where
  | backend (cause : BackendError)
  | session (cause : SessionError)
  deriving DecidableEq

def RefreshError.message : RefreshError → String
  | backend cause => "backend error: " ++ cause.message
  | session cause => "session error: " ++ cause.message

/-- Without a token to begin with the backend is not asked. -/
def refresh : App (Except RefreshError String) := do
  if (← SessionStore.token?).isNone then return .error (.session .noSession)
  match ← App.ask .refreshToken with
  | .error e => return .error (.backend e)
  | .ok token => return ((← SessionStore.setToken token).mapError .session).map fun _ => token

end AdminConsole.TokenRefresh
