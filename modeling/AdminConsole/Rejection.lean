/-!
# Rejected requests

A backend answers 401 or 403 when it does not accept who is asking. `Rejection.ofStatus?` reads a
status as such an answer; what 403 means is up to the deployment. -/

namespace AdminConsole

/-- What 403 stands for in a deployment. -/
inductive ForbiddenPolicy where
  | notAuthorized
  | redirectToTos
  deriving DecidableEq, Inhabited

inductive Rejection where
  /-- The token is missing, expired or wrong. -/
  | unauthenticated
  /-- The token does not carry the permission. -/
  | forbidden
  /-- The terms have to be accepted first. -/
  | termsNotAccepted
  deriving DecidableEq

def Rejection.ofStatus? (policy : ForbiddenPolicy) (status : Nat) : Option Rejection :=
  if status = 401 then some .unauthenticated
  else if status = 403 then
    match policy with
    | .notAuthorized => some .forbidden
    | .redirectToTos => some .termsNotAccepted
  else none

/-! ### Tokens -/

/-- The value of the header that carries a token. -/
def bearerValue (token : String) : String := "Bearer " ++ token

/-- Enough of a token to tell it from others: a long one is cut after eight characters. -/
def tokenPreview (token : String) : String :=
  if token.length > 12 then String.ofList (token.toList.take 8) ++ "..." else token

end AdminConsole
