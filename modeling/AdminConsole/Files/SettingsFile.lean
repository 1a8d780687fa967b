import AdminConsole.Files.Disk
import AdminConsole.Settings

/-!
# The settings file

The settings of a deployment as an object in a file. Without a file every setting has the value it
has when it is left out. -/

namespace AdminConsole

inductive SettingsError where
  | io (cause : OsError)
  | malformed (cause : Json.Cause)
  deriving DecidableEq

def SettingsError.message : SettingsError → String
  | io cause => "IO error: " ++ cause.message
  | malformed cause =>
    "Serialization error: JSON deserialization failed: " ++ cause.message

namespace SettingsFile

def load (p : Place) : Disk (Except SettingsError Settings) := do
  match ← Disk.readFile p with
  | .ok bytes => return (Json.decode Settings.decoder bytes).mapError .malformed
  | .error .notFound => return .ok {}
  | .error e => return .error (.io e)

/-- The settings in the file, with the backend that the environment names. -/
def loadWith (p : Place) (backend : Option String) : Disk (Except SettingsError Settings) := do
  return (← load p).map (·.withBackend backend)

def encode (s : Settings) : List UInt8 := Utf8.encode (Json.stable s.toData)

def save (p : Place) (s : Settings) : Disk (Except SettingsError Unit) := do
  match ← Disk.makeDirectories p.dropLast with
  | .error e => return .error (.io e)
  | .ok _ => return (← Disk.writeFile p (encode s)).mapError .io

end SettingsFile

end AdminConsole
