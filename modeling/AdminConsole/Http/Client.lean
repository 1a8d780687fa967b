import AdminConsole.Http.Wire
import AdminConsole.Settings
import AdminConsole.Storage.SessionStore

/-!
# The client

How each call is put to the backend. A call for the session carries the session's token as it is
when the request is sent, and its rejection is reported; the identity exchange is made for nobody
and does neither (`perform`). -/

namespace AdminConsole.Http.Client

/-! ### Requests -/

def endpoint : Call → String
  | .exchange (.accessToken _ _) => "/authentication"
  | .exchange (.code _ _) => "/authentication-fence"
  | .connections => "/connection/"
  | .latestTerms => "/tos/latest"
  | .acceptTerms => "/tos/accept"
  | .currentUser => "/user/me"
  | .refreshToken => "/user/me/refresh_long_term_token"

def method : Call → Method
  | .exchange _ | .acceptTerms => .post
  | _ => .get

def grantData : Grant → Json.Data
  | .accessToken token uri =>
    .object [("access_token", .string token), ("redirectURI", .string uri)]
  | .code code _ => .object [("code", .string code)]

def body? : Call → Option String
  | .exchange grant => some (Json.compact (grantData grant))
  | _ => none

/-- Whether a call is made for whoever is signed in. -/
def isForSession : Call → Bool
  | .exchange _ => false
  | _ => true

/-- The request of a call, if the settings give it a URL. -/
def request (s : Settings) (c : Call) : Except BackendError Request :=
  match s.apiUrl (endpoint c) with
  | .error e => .error (.invalidEndpoint e.message)
  | .ok url => .ok (.to (method c) url (body? c))

def urlSuffix (r : Request) : String := " for url (" ++ r.url.text ++ ")"

def sendError (r : Request) : SendError → BackendError
  | .refused => .network ("connection failed: error sending request" ++ urlSuffix r)
  | .dropped => .network ("error sending request" ++ urlSuffix r)
  | .timedOut => .network ("request timed out: error sending request" ++ urlSuffix r)

/-- The text of a body. One that does not arrive in time is a failure of the network, and one that
breaks off is a body that cannot be read. -/
def readBody (r : Request) : Body → Except BackendError String
  | .whole text => .ok text
  | .brokenOff => .error (.decode ("error decoding response body" ++ urlSuffix r))
  | .timedOut =>
    .error (.network ("request timed out: error decoding response body" ++ urlSuffix r))

/-- Requests go over the web's own protocol, plain or encrypted. -/
def checkScheme (r : Request) : Except BackendError Unit :=
  if r.url.scheme = "http" ∨ r.url.scheme = "https" then .ok ()
  else .error (.invalidEndpoint ("builder error" ++ urlSuffix r))

/-! ### Sending -/

/-- The header value of the session's token. -/
def authorization? : Storage (Option String) := do
  return (← SessionStore.token?).map bearerValue

/-- The request with the token of the session, if that can stand in a header. -/
def authorize (r : Request) (authorization : Option String) : Request :=
  match authorization.filter isHeaderValue with
  | some value => { r with authorization := some value }
  | none => r

def intercept (policy : ForbiddenPolicy) (status : Nat) : Wire Unit :=
  match Rejection.ofStatus? policy status with
  | some rejection => Wire.report rejection
  | none => return

/-- Sends a request that is ready. -/
def exchange (policy : ForbiddenPolicy) (forSession : Bool) (r : Request) :
    Wire (Except BackendError Response) := do
  match checkScheme r with
  | .error e => return .error e
  | .ok _ =>
    match ← Wire.send r with
    | .error e => return .error (sendError r e)
    | .ok arrival =>
      if forSession then intercept policy arrival.status
      return (readBody r arrival.body).map (⟨arrival.status, ·⟩)

def send (policy : ForbiddenPolicy) (forSession : Bool) (r : Request) :
    Wire (Except BackendError Response) := do
  if forSession then
    let authorization ← authorization?
    exchange policy forSession (authorize r authorization)
  else exchange policy forSession r

/-! ### Answers -/

/-- A token that lasts long, in the record that the backend sends it in. -/
def longTermToken : Json.Decoder String :=
  (Json.Record.requiredField "userLongTermToken" .text).decoder "struct LongTermToken"

/-- What a response answers to a call. The terms are plain text. -/
def answer : (c : Call) → Response → Except BackendError c.Answer
  | .exchange _, r => r.decode Claims.decoder
  | .connections, r => r.decode Connection.listDecoder
  | .latestTerms, r => .ok r.body
  | .acceptTerms, _ => .ok ()
  | .currentUser, r => r.decode CurrentUser.decoder
  | .refreshToken, r => r.decode longTermToken

def perform (s : Settings) (c : Call) : Wire c.Result := do
  match request s c with
  | .error e => return .error e
  | .ok r =>
    let response ← send s.forbiddenPolicy (isForSession c) r
    return do answer c (← (← response).check)

end AdminConsole.Http.Client
