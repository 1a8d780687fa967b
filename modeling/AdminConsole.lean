import AdminConsole.App
import AdminConsole.Backend.Basic
import AdminConsole.Command
import AdminConsole.Connection
import AdminConsole.Console.Basic
import AdminConsole.Console.Input
import AdminConsole.Files.Disk
import AdminConsole.Files.SettingsFile
import AdminConsole.Files.StorageFile
import AdminConsole.Files.Tree
import AdminConsole.Http.Client
import AdminConsole.Http.Message
import AdminConsole.Http.Wire
import AdminConsole.Json.Cause
import AdminConsole.Json.Decode
import AdminConsole.Json.Numeral
import AdminConsole.Json.Reader
import AdminConsole.Json.Token
import AdminConsole.Json.Tree
import AdminConsole.Json.Variant
import AdminConsole.Json.Writer
import AdminConsole.Location
import AdminConsole.Main
import AdminConsole.Navigation.Gate
import AdminConsole.Navigation.Handler
import AdminConsole.Navigation.Login
import AdminConsole.Navigation.Navigator
import AdminConsole.Navigation.Terms
import AdminConsole.Navigation.TokenRefresh
import AdminConsole.Number.Binary64
import AdminConsole.Number.Shortest
import AdminConsole.OsError
import AdminConsole.Program
import AdminConsole.Proofs.Conduct.Gate
import AdminConsole.Proofs.Conduct.Operations
import AdminConsole.Proofs.Conduct.Rules
import AdminConsole.Proofs.Conduct.Steps
import AdminConsole.Proofs.Enactment
import AdminConsole.Proofs.History
import AdminConsole.Proofs.Interleaving
import AdminConsole.Proofs.Json.Reader
import AdminConsole.Proofs.Json.Record
import AdminConsole.Proofs.Json.Strings
import AdminConsole.Proofs.Json.Writer
import AdminConsole.Proofs.Logout
import AdminConsole.Proofs.NewestTicket
import AdminConsole.Proofs.Program
import AdminConsole.Proofs.Provenance
import AdminConsole.Proofs.Session
import AdminConsole.Proofs.SiteMap
import AdminConsole.Proofs.Storage
import AdminConsole.Proofs.StoredSession
import AdminConsole.Proofs.TermsGate
import AdminConsole.Proofs.Text.Utf8
import AdminConsole.Provider
import AdminConsole.Rejection
import AdminConsole.RenderContext
import AdminConsole.Route
import AdminConsole.Session
import AdminConsole.Settings
import AdminConsole.Simulation.Bench
import AdminConsole.Simulation.Home
import AdminConsole.Simulation.Memory
import AdminConsole.Simulation.Script
import AdminConsole.Simulation.Server
import AdminConsole.Simulation.Stage
import AdminConsole.SiteMap
import AdminConsole.Sorted.TextMap
import AdminConsole.Sorted.TextSet
import AdminConsole.Storage.Basic
import AdminConsole.Storage.SessionStore
import AdminConsole.Storage.TabNotes
import AdminConsole.Text.Base64
import AdminConsole.Text.Blank
import AdminConsole.Text.Form
import AdminConsole.Text.Percent
import AdminConsole.Text.Quoted
import AdminConsole.Text.Unprintable
import AdminConsole.Text.Utf8
import AdminConsole.Url.Basic
import AdminConsole.Url.Compose
import AdminConsole.Url.ComposeTable
import AdminConsole.Url.Direction
import AdminConsole.Url.DirectionTable
import AdminConsole.Url.DomainName
import AdminConsole.Url.FoldTable
import AdminConsole.Url.Host
import AdminConsole.Url.Parse
import AdminConsole.Url.Path
import AdminConsole.Url.Punycode
import AdminConsole.Url.ValidTable
import AdminConsole.View
import AdminConsole.Proofs.Connection
import AdminConsole.Proofs.Json.Variant
import AdminConsole.Proofs.Settings
import AdminConsole.Proofs.Files.Tree
import AdminConsole.Proofs.Files.StorageFile
import AdminConsole.Proofs.ReadBack
import AdminConsole.Proofs.Redirects
import AdminConsole.Proofs.LateAnswer
import AdminConsole.Proofs.Uses
import AdminConsole.Proofs.Identity
import AdminConsole.Proofs.Deployment
import AdminConsole.Proofs.Restart
import AdminConsole.Proofs.Http.Client
import AdminConsole.Proofs.Http.Traffic
import AdminConsole.Proofs.OwnTrace
import AdminConsole.Proofs.Passage
import AdminConsole.Proofs.Arrival
import AdminConsole.Proofs.LoadedOnce
import AdminConsole.Proofs.Text.Blank
import AdminConsole.Proofs.PathNames
import AdminConsole.Proofs.Guard
import AdminConsole.Proofs.Location
import AdminConsole.Proofs.LocationText
import AdminConsole.Proofs.Recovery
import AdminConsole.Proofs.Draining
import AdminConsole.Proofs.Text.Form
import AdminConsole.Proofs.Url.Domain
import AdminConsole.Proofs.Url.Path
import AdminConsole.Proofs.Url.Parse
import AdminConsole.Proofs.Grants
import AdminConsole.Proofs.WayBack
import AdminConsole.Proofs.Aftermath
import AdminConsole.Proofs.Alone
import AdminConsole.Proofs.Amendment
import AdminConsole.Proofs.TokenRefresh
import AdminConsole.Proofs.Acceptance
import AdminConsole.Proofs.SignIn
import AdminConsole.Proofs.Json.Members
import AdminConsole.Proofs.Layouts
import AdminConsole.Proofs.TermsFlag
import AdminConsole.Proofs.Command
import AdminConsole.Proofs.RoutePaths
import AdminConsole.Proofs.AbsoluteLocation
import AdminConsole.Proofs.AuthorizationUrl
