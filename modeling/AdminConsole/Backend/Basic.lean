import AdminConsole.Connection
import AdminConsole.Session

/-!
# The backend

The six things the console asks of its backend, what each is answered with, and how asking can
fail. -/

namespace AdminConsole

inductive BackendError where
  | network (detail : String)
  | status (code : Nat) (body : String)
  | decode (detail : String)
  | invalidEndpoint (detail : String)
  deriving DecidableEq

namespace BackendError

def message : BackendError → String
  | network detail => "network error: " ++ detail
  | status code body => "backend returned status " ++ toString code ++ ": " ++ body
  | decode detail => "failed to decode response: " ++ detail
  | invalidEndpoint detail => "invalid endpoint: " ++ detail

/-- The status that the backend answered with, if it is the status that failed. -/
def status? : BackendError → Option Nat
  | status code _ => some code
  | _ => none

end BackendError

/-- What an identity provider sends a user back with. -/
inductive Grant where
  | accessToken (token redirectUri : String)
  | code (code redirectUri : String)
  deriving DecidableEq

inductive Call where
  /-- Turns a grant into claims. -/
  | exchange (grant : Grant)
  | connections
  /-- The text of the terms in force. -/
  | latestTerms
  | acceptTerms
  | currentUser
  /-- A token that lasts long. -/
  | refreshToken
  deriving DecidableEq

abbrev Call.Answer : Call → Type
  | exchange _ => Claims
  | connections => List Connection
  | latestTerms => String
  | acceptTerms => Unit
  | currentUser => CurrentUser
  | refreshToken => String

/-- The answer to a call, or why there is none. -/
abbrev Call.Result (c : Call) : Type := Except BackendError c.Answer

end AdminConsole
