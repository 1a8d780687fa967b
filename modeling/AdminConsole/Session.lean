import AdminConsole.Json.Decode
import AdminConsole.Json.Writer

/-!
# Sessions and identities

A session is what the console keeps about the user who is signed in; claims are what an identity
exchange answers, and a session starts from them (`Session.ofClaims`). Both are stored and sent as
JSON, and what `toData` writes, `decoder` reads back. -/

namespace AdminConsole

structure Session where
  userId : Option String := none
  token : Option String := none
  username : Option String := none
  email : Option String := none
  permissions : TextSet := .empty
  privileges : TextSet := .empty
  acceptedTos : Bool := false
  deriving DecidableEq, Inhabited

structure Claims where
  userId : String
  token : String
  email : String
  permissions : TextSet
  acceptedTos : Bool
  deriving DecidableEq

/-- The user as the backend knows them. -/
structure CurrentUser where
  uuid : Option String
  email : Option String
  privileges : TextSet
  queryScopes : TextSet
  acceptedTos : Bool
  token : Option String
  deriving DecidableEq

/-! ### Claims -/

inductive ClaimsError where
  | emptyToken
  | emptyEmail
  deriving DecidableEq

def ClaimsError.message : ClaimsError → String
  | emptyToken => "invalid identity claims: token is empty"
  | emptyEmail => "invalid identity claims: email is empty"

namespace Claims

/-- Claims can start a session if they have a token and an email. -/
def validate (c : Claims) : Except ClaimsError Unit :=
  if Text.isAllBlank c.token then .error .emptyToken
  else if Text.isAllBlank c.email then .error .emptyEmail
  else .ok ()

open Json Json.Record in
def record : Record Claims :=
  Claims.mk <$> field "userId" "" .text <*> field "token" "" .text <*> field "email" "" .text
    <*> field "permissions" .empty .textSet <*> field "acceptedTOS" false .flag

def decoder : Json.Decoder Claims := record.decoder "struct IdentityClaims"

def toData (c : Claims) : Json.Data :=
  .object [("userId", .string c.userId), ("token", .string c.token), ("email", .string c.email),
    ("permissions", .ofTexts c.permissions.toList), ("acceptedTOS", .bool c.acceptedTos)]

end Claims

/-! ### Sessions -/

namespace Session

def ofClaims (c : Claims) : Session where
  userId := some c.userId |>.filter fun id => !id.isEmpty
  token := some c.token
  username := some c.email
  email := some c.email
  permissions := c.permissions
  privileges := .empty
  acceptedTos := c.acceptedTos

/-- The username, if it is not blank. -/
def username? (s : Session) : Option String := Text.given? s.username

/-- The token, if it is not blank. -/
def token? (s : Session) : Option String := Text.given? s.token

/-- Only a session with a username and a token counts. -/
def isAuthenticated (s : Session) : Bool := s.username?.isSome && s.token?.isSome

def hasPermission (s : Session) (tag : String) : Bool := s.permissions.contains tag

/-- The required tags that the session lacks, in order. -/
def missing (s : Session) (required : TextSet) : List String :=
  required.toList.filter fun tag => !s.hasPermission tag

open Json Json.Record in
def record : Record Session :=
  Session.mk <$> optionalText "userId" <*> optionalText "token" <*> optionalText "username"
    <*> optionalText "email" <*> field "permissions" .empty .textSet
    <*> field "privileges" .empty .textSet <*> field "acceptedTOS" false .flag

def decoder : Json.Decoder Session := record.decoder "struct Session"

def toData (s : Session) : Json.Data :=
  .object [("userId", .ofOption s.userId), ("token", .ofOption s.token),
    ("username", .ofOption s.username), ("email", .ofOption s.email),
    ("permissions", .ofTexts s.permissions.toList), ("privileges", .ofTexts s.privileges.toList),
    ("acceptedTOS", .bool s.acceptedTos)]

/-- The text under which the session is stored. -/
def encode (s : Session) : String := Json.compact s.toData

/-- The session that a stored text holds; a text that cannot be read holds none. -/
def decode? (text : String) : Option Session := (Json.decodeText decoder text).toOption

end Session

/-! ### The backend's view of the user -/

namespace CurrentUser

open Json Json.Record in
def record : Record CurrentUser :=
  CurrentUser.mk <$> optionalText "uuid" <*> optionalText "email"
    <*> field "privileges" .empty .textSet <*> field "queryScopes" .empty .textSet
    <*> field "acceptedTOS" false .flag <*> optionalText "token"

def decoder : Json.Decoder CurrentUser := record.decoder "struct CurrentUser"

def toData (u : CurrentUser) : Json.Data :=
  .object [("uuid", .ofOption u.uuid), ("email", .ofOption u.email),
    ("privileges", .ofTexts u.privileges.toList), ("queryScopes", .ofTexts u.queryScopes.toList),
    ("acceptedTOS", .bool u.acceptedTos), ("token", .ofOption u.token)]

end CurrentUser

end AdminConsole
