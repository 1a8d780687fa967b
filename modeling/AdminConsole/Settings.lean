import AdminConsole.Provider
import AdminConsole.Rejection
import AdminConsole.SiteMap

/-!
# Settings

What a deployment of the console is told: its backend, its paths, its policies and its identity
provider. Every setting has a value when it is left out. -/

namespace AdminConsole

/-- What becomes of a navigation when the connections cannot be loaded. -/
inductive ConnectionPolicy where
  /-- It goes on without them. -/
  | bestEffort
  /-- It is given up. -/
  | required
  deriving DecidableEq

structure Settings where
  backendUrl : String := "http://localhost:8080"
  apiBasePath : String := "/psama"
  uiBasePath : String := "/psamaui"
  forbiddenPolicy : ForbiddenPolicy := .notAuthorized
  connectionPolicy : ConnectionPolicy := .bestEffort
  provider : Provider := .initial
  redirectUri : Option String := none
  helpLink : Option String := none
  /-- How long a request may take, in seconds. -/
  timeout : Nat := 30
  deriving DecidableEq, Inhabited

namespace ForbiddenPolicy

def names : List (String × ForbiddenPolicy) :=
  [("not_authorized", .notAuthorized), ("redirect_to_tos", .redirectToTos)]

def name : ForbiddenPolicy → String
  | notAuthorized => "not_authorized"
  | redirectToTos => "redirect_to_tos"

end ForbiddenPolicy

namespace ConnectionPolicy

def names : List (String × ConnectionPolicy) :=
  [("best_effort", .bestEffort), ("required", .required)]

def name : ConnectionPolicy → String
  | bestEffort => "best_effort"
  | required => "required"

end ConnectionPolicy

namespace Settings

def siteMap (s : Settings) : SiteMap := .ofBase s.uiBasePath

/-- The URL of an endpoint of the backend, with one slash between its parts. -/
def apiUrl (s : Settings) (endpoint : String) : Except EndpointError Url :=
  let base := Text.stripEnd SiteMap.isSlash s.backendUrl
  let api := Text.strip SiteMap.isSlash s.apiBasePath
  let endpoint := Text.stripStart SiteMap.isSlash endpoint
  parseUrl (base ++ "/" ++ (if api.isEmpty then "" else api ++ "/") ++ endpoint)

/-- Where the identity provider sends users back to. -/
def effectiveRedirectUri (s : Settings) : String :=
  s.redirectUri.getD
    (Text.stripEnd SiteMap.isSlash s.backendUrl ++ s.siteMap.basePath ++ "/login/")

def authorizationUrl (s : Settings) (redirectUri : String) : Except EndpointError Url :=
  s.provider.authorizationUrl redirectUri

/-- A backend that the environment names comes before the one in the settings. -/
def withBackend (s : Settings) (backend : Option String) : Settings :=
  match Text.given? backend with
  | some url => { s with backendUrl := Text.trim url }
  | none => s

/-! ### As a document -/

open Json Json.Record in
def record : Record Settings :=
  Settings.mk <$> field "backend_url" "http://localhost:8080" .text
    <*> field "api_base_path" "/psama" .text <*> field "ui_base_path" "/psamaui" .text
    <*> field "forbidden_policy" .notAuthorized (.name ForbiddenPolicy.names)
    <*> field "session_variables_policy" .bestEffort (.name ConnectionPolicy.names)
    <*> field "identity_provider" .initial Provider.decoder
    <*> optionalText "redirect_uri" <*> optionalText "help_link"
    <*> field "request_timeout_secs" 30 .natural

def decoder : Json.Decoder Settings := record.decoder "struct ConsoleSettings"

def toData (s : Settings) : Json.Data :=
  .object [("backend_url", .string s.backendUrl), ("api_base_path", .string s.apiBasePath),
    ("ui_base_path", .string s.uiBasePath), ("forbidden_policy", .string s.forbiddenPolicy.name),
    ("session_variables_policy", .string s.connectionPolicy.name),
    ("identity_provider", s.provider.toData), ("redirect_uri", .ofOption s.redirectUri),
    ("help_link", .ofOption s.helpLink), ("request_timeout_secs", .natural s.timeout)]

end Settings

end AdminConsole
