import AdminConsole.Console.Basic
import AdminConsole.Console.Input
import AdminConsole.Files.SettingsFile
import AdminConsole.Files.StorageFile
import AdminConsole.Http.Client
import AdminConsole.Simulation.Memory

/-!
# The command line

The console on a terminal: settings and storage in the user's files, commands from standard input,
views and replies on standard output. It has no network, so every request is refused. -/

namespace AdminConsole.Main

open Http

/-! ### The user's files -/

def osError : IO.Error → OsError
  | .noFileOrDirectory _ _ _ | .noSuchThing _ _ _ => .notFound
  | .alreadyExists _ _ _ => .alreadyExists
  | .inappropriateType _ code details =>
    if code = 20 then .notDirectory else if code = 21 then .isDirectory
    else .other code.toNat details
  | .resourceBusy _ _ => .busy
  | e => .other 0 (toString e)

def attempt {α : Type} (act : IO α) : IO (Except OsError α) := do
  try return .ok (← act) catch e => return .error (osError e)

def wayPath (base : String) (names : List String) : String := "/".intercalate (base :: names)

def path (base : String) (p : Place) : String :=
  wayPath base p.names ++ if p.name?.isNone then "/." else if p.slash then "/" else ""

/-- Operations on the files below a directory. -/
def disk (base : String) : (op : DiskOp) → IO op.Answer
  | .readFile p => attempt do return (← IO.FS.readBinFile (path base p)).toList
  | .writeFile p bytes => attempt (IO.FS.writeBinFile (path base p) ⟨bytes.toArray⟩)
  | .makeDirectories p => attempt (IO.FS.createDirAll (wayPath base p.names))
  | .renameFile source target => attempt (IO.FS.rename (path base source) (path base target))
  | .removeFile p => attempt (IO.FS.removeFile (path base p))

/-- A directory of the user's: the one that a variable names, or one in the home directory. -/
def directory? (name inHome : String) : IO (Option String) := do
  match (← IO.getEnv name).filter (·.startsWith "/") with
  | some base => return some base
  | none => return (← IO.getEnv "HOME").map (· ++ "/" ++ inHome)

/-! ### The console's operations -/

structure State where
  settings : Settings
  /-- Where the storage's file is; without a directory the storage is lost at the end. -/
  base : Option String
  memory : Simulation.Memory := {}
  tab : Tab := {}

abbrev Run := StateT State IO

def storagePlace : Place := .file ["bastion"] "storage.json"

def storage (op : StorageOp) : Run op.Answer := do
  match (← get).base with
  | some base => (StorageFile.answer storagePlace op).runIn fun op => disk base op
  | none =>
    let (answer, memory) := (← get).memory.answer op
    modify fun s => { s with memory }
    return answer

def wire : (op : WireOp) → Run op.Answer
  | .storage op => storage op
  | .send _ => return .error .refused
  | .report _ => return

def write (text : String) : Run Unit := do
  let out ← IO.getStdout
  out.putStr text
  out.flush

def app : (op : AppOp) → Run op.Answer
  | .storage op => storage op
  | .ask c => do (Client.perform (← get).settings c).runIn wire
  | .notify _ => return
  | .dispatch _ => return
  | .ticket => do
    let (ticket, tab) := (← get).tab.issue
    modify fun s => { s with tab }
    return ticket
  | .mount ticket view location => do
    let (mounted, tab) := (← get).tab.moveTo ticket location
    modify fun s => { s with tab }
    if mounted then write view.line
    return mounted
  | .location => return (← get).tab.location
  | .leave => modify fun s => { s with tab := s.tab.leave }

def console : (op : ConsoleOp) → Run op.Answer
  | .app op => app op
  | .nextRejection => return none
  | .print line => write (line ++ "\n")

/-! ### The session -/

/-- Reads up to a line feed or to the end. -/
partial def readLine (input : IO.FS.Stream) (line : List UInt8) : IO (List UInt8) := do
  match (← input.read 1).toList with
  | [] => return line.reverse
  | b :: _ => if b = 10 then return (b :: line).reverse else readLine input (b :: line)

/-- Does what the user says, and answers whether the input ends well. -/
partial def session (n : Navigator) : Run Bool := do
  let bytes ← readLine (← IO.getStdin) []
  match (Input.lines bytes).lines with
  | line :: _ => if ← (Console.handleLine n line).runIn console then session n else return true
  | [] => return bytes.isEmpty

def run (settings : Settings) : Run Bool := do
  let n := Navigator.ofSettings settings settings.siteMap
  (Console.greet n).runIn console
  session n

def loadSettings : IO (Except SettingsError Settings) := do
  let backend ← IO.getEnv "BASTION_BACKEND_URL"
  match ← directory? "XDG_CONFIG_HOME" ".config" with
  | some base =>
    (SettingsFile.loadWith (.file ["bastion"] "settings.json") backend).runIn fun op => disk base op
  | none => return .ok (({} : Settings).withBackend backend)

end AdminConsole.Main

section

open AdminConsole AdminConsole.Main

def main : IO UInt32 := do
  match ← loadSettings with
  | .error e =>
    IO.eprintln ("configuration error: " ++ e.message)
    return 1
  | .ok settings =>
    let base ← directory? "XDG_DATA_HOME" ".local/share"
    let (good, _) ← (run settings).run { settings, base }
    if good then return 0
    IO.eprintln Input.notText
    return 1

end
