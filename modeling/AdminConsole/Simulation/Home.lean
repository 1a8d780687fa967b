import AdminConsole.Console.Basic
import AdminConsole.Console.Input
import AdminConsole.Files.SettingsFile
import AdminConsole.Files.StorageFile
import AdminConsole.Http.Client

/-!
# A home for the console

The whole console over a tree of files, with no backend in reach: every request is refused. Views
and replies go to one text, as they do on a terminal. -/

namespace AdminConsole.Simulation

open Http

structure Home where
  files : FileTree := {}
  settings : Settings := {}
  tab : Tab := {}
  rejections : List Rejection := []
  output : String := ""
  deriving Inhabited

namespace Home

def settingsPlace : Place := .file ["config", "bastion"] "settings.json"

def storagePlace : Place := .file ["data", "bastion"] "storage.json"

abbrev Run := StateM Home

def disk {α : Type} (p : Disk α) : Run α := fun h =>
  let (a, files) := (p.runIn FileTree.answer).run h.files
  (a, { h with files })

def write (text : String) : Run Unit := fun h => ((), { h with output := h.output ++ text })

def storage (op : StorageOp) : Run op.Answer := disk (StorageFile.answer storagePlace op)

def wire : (op : WireOp) → Run op.Answer
  | .storage op => storage op
  | .send _ => return .error .refused
  | .report rejection => fun h => ((), { h with rejections := h.rejections ++ [rejection] })

def app : (op : AppOp) → Run op.Answer
  | .storage op => storage op
  | .ask c => do (Client.perform (← get).settings c).runIn wire
  | .notify _ => return
  | .dispatch _ => return
  | .ticket => fun h => (h.tab.issue.1, { h with tab := h.tab.issue.2 })
  | .mount ticket view location => do
    let (mounted, tab) := (← get).tab.moveTo ticket location
    modify fun h => { h with tab }
    if mounted then write view.line
    return mounted
  | .location => return (← get).tab.location
  | .leave => modify fun h => { h with tab := h.tab.leave }

def console : (op : ConsoleOp) → Run op.Answer
  | .app op => app op
  | .nextRejection => fun h =>
    match h.rejections with
    | [] => (none, h)
    | r :: rs => (some r, { h with rejections := rs })
  | .print line => write (line ++ "\n")

/-- Runs the console on the bytes that the user types, and answers whether it ends well. -/
def run (limit : Nat) (backend : Option String) (input : List UInt8) : Run Bool := do
  match ← disk (SettingsFile.loadWith settingsPlace backend) with
  | .error _ => return false
  | .ok settings =>
    modify fun h => { h with settings }
    let n := Navigator.ofSettings settings settings.siteMap
    let input := Input.lines input
    (Console.greet n).runIn console
    let wholly ← (Console.runLines n limit input.lines).runIn console
    return !(wholly && input.broken)

end Home

end AdminConsole.Simulation
