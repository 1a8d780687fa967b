import AdminConsole.Backend.Basic
import AdminConsole.Text.Base64
import AdminConsole.Url.Basic

/-!
# Requests and responses

What is sent to the backend and what it sends back. A URL with a user's name in it stands for the
same URL without the name and a header that carries it (`Request.to`). -/

namespace AdminConsole.Http

inductive Method where
  | get
  | post
  deriving DecidableEq

def Method.name : Method → String
  | get => "GET"
  | post => "POST"

structure Request where
  method : Method
  url : Url
  authorization : Option String
  /-- A JSON text. -/
  body : Option String
  deriving DecidableEq

/-- What the body is said to be, if there is one. -/
def Request.contentType (r : Request) : Option String := r.body.map fun _ => "application/json"

structure Response where
  status : Nat
  body : String
  deriving DecidableEq

namespace Response

def isSuccess (r : Response) : Bool := 200 ≤ r.status && r.status < 300

/-- The response, unless its status says that the request failed. -/
def check (r : Response) : Except BackendError Response :=
  if r.isSuccess then .ok r else .error (.status r.status r.body)

def decode {α : Type} (r : Response) (d : Json.Decoder α) : Except BackendError α :=
  (Json.decodeText d r.body).mapError fun cause => .decode cause.message

end Response

/-! ### Names in URLs -/

/-- A part of a URL without percent triples, if that is a text. -/
def decodePart? (s : String) : Option String := Utf8.decode? (Percent.decode (Utf8.encode s))

/-- The name and the password that a URL carries. -/
def user? (u : Url) : Option (String × Option String) := do
  let a ← u.authority
  let name ← decodePart? a.username
  let password := a.password.bind decodePart?
  if name.isEmpty && password.isNone then none else return (name, password)

def basicValue (name : String) (password : Option String) : String :=
  "Basic " ++ Base64.encode (Utf8.encode (name ++ ":" ++ password.getD ""))

def Request.to (method : Method) (url : Url) (body : Option String) : Request :=
  match user? url with
  | some (name, password) => ⟨method, url.withoutUser, some (basicValue name password), body⟩
  | none => ⟨method, url, none, body⟩

/-- A header is one line, so its value holds no control character but tabs. -/
def isHeaderValue (s : String) : Bool :=
  s.toList.all fun c => (c.toNat ≥ 32 && c.toNat ≠ 127) || c == '\t'

end AdminConsole.Http
