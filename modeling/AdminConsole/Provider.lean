import AdminConsole.Json.Variant
import AdminConsole.Json.Writer
import AdminConsole.Url.Parse

/-!
# Identity providers

Where users prove who they are. A login starts at the provider's authorization URL, which carries
four pairs after whatever query the endpoint has of its own (`pairs`). -/

namespace AdminConsole

inductive Provider where
  /-- Gives the token out at once, in the fragment. -/
  | auth0 (clientId domain : String)
  /-- Gives a code out, which the backend turns into a token. -/
  | fence (clientId authorizeUrl : String)
  deriving DecidableEq

/-- Why the settings name no endpoint. -/
inductive EndpointError where
  | invalidUrl (cause : UrlError) (text : String)
  | missingClientId (provider : String)
  deriving DecidableEq

def EndpointError.message : EndpointError → String
  | invalidUrl cause text => "invalid URL: " ++ cause.message ++ ": " ++ text
  | missingClientId provider =>
    "client id is not configured for identity provider '" ++ provider ++ "'"

def parseUrl (text : String) : Except EndpointError Url :=
  (Url.parse text).mapError (.invalidUrl · text)

namespace Provider

def initial : Provider := .auth0 "" "avillachlab"

instance : Inhabited Provider := ⟨initial⟩

def name : Provider → String
  | auth0 _ _ => "auth0"
  | fence _ _ => "fence"

def clientId : Provider → String
  | auth0 id _ => id
  | fence id _ => id

def endpoint : Provider → String
  | auth0 _ domain => "https://" ++ domain ++ ".auth0.com/authorize"
  | fence _ url => url

/-- What a login tells the provider. -/
def pairs (p : Provider) (redirectUri : String) : List (String × String) :=
  match p with
  | auth0 id _ =>
    [("response_type", "token"), ("client_id", id), ("redirect_uri", redirectUri),
      ("scope", "openid email")]
  | fence id _ =>
    [("response_type", "code"), ("scope", "user openid"), ("client_id", id),
      ("redirect_uri", redirectUri)]

/-- Where a login starts. Without a client id there is no such place. -/
def authorizationUrl (p : Provider) (redirectUri : String) : Except EndpointError Url := do
  if Text.isAllBlank p.clientId then throw (.missingClientId p.name)
  return (← parseUrl p.endpoint).addPairs (p.pairs redirectUri)

/-! ### In settings -/

open Json Json.Record in
def variants : List (Variant Provider) := [
  { tag := "auth0"
    kind := "struct variant IdentityProviderSettings::Auth0"
    record := auth0 <$> field "client_id" "" .text <*> field "domain" "avillachlab" .text },
  { tag := "fence"
    kind := "struct variant IdentityProviderSettings::Fence"
    record := fence <$> field "client_id" "" .text <*> requiredField "authorize_url" .text }]

def decoder : Json.Decoder Provider :=
  Json.Variant.decoder "internally tagged enum IdentityProviderSettings" "kind" variants

def toData : Provider → Json.Data
  | auth0 id domain =>
    .object [("kind", .string "auth0"), ("client_id", .string id), ("domain", .string domain)]
  | fence id url =>
    .object [("kind", .string "fence"), ("client_id", .string id), ("authorize_url", .string url)]

end Provider

end AdminConsole
