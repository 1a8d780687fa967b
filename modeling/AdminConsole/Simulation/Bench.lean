import AdminConsole.Console.Basic
import AdminConsole.Http.Client
import AdminConsole.Simulation.Memory
import AdminConsole.Simulation.Server

/-!
# A bench for the console

The whole console over a storage in memory and a scripted server: calls go through the client, and
the rejections that it reports wait until the console takes them. -/

namespace AdminConsole.Simulation

open Http

structure Bench where
  settings : Settings := {}
  memory : Memory := {}
  server : Server := {}
  tab : Tab := {}
  rejections : List Rejection := []
  mounted : List View := []
  notices : List Notice := []
  printed : List String := []
  deriving Inhabited

namespace Bench

abbrev Run := StateM Bench

def storage (op : StorageOp) : Run op.Answer := fun b =>
  let (answer, memory) := b.memory.answer op
  (answer, { b with memory })

def wire : (op : WireOp) → Run op.Answer
  | .storage op => storage op
  | .send request => fun b =>
    let (answer, server) := b.server.answer request
    (answer, { b with server })
  | .report rejection => fun b => ((), { b with rejections := b.rejections ++ [rejection] })

def call (c : Call) : Run c.Result := do
  (Client.perform (← get).settings c).runIn wire

def app : (op : AppOp) → Run op.Answer
  | .storage op => storage op
  | .ask c => call c
  | .notify notice => fun b => ((), { b with notices := b.notices ++ [notice] })
  | .dispatch _ => fun b => ((), b)
  | .ticket => fun b => (b.tab.issue.1, { b with tab := b.tab.issue.2 })
  | .mount ticket view location => fun b =>
    match b.tab.moveTo ticket location with
    | (true, tab) => (true, { b with tab, mounted := b.mounted ++ [view] })
    | (false, _) => (false, b)
  | .location => fun b => (b.tab.location, b)
  | .leave => fun b => ((), { b with tab := b.tab.leave })

def console : (op : ConsoleOp) → Run op.Answer
  | .app op => app op
  | .nextRejection => fun b =>
    match b.rejections with
    | [] => (none, b)
    | r :: rs => (some r, { b with rejections := rs })
  | .print line => fun b => ((), { b with printed := b.printed ++ [line] })

/-- The navigator of the bench's settings. -/
def navigator (b : Bench) : Navigator := .ofSettings b.settings b.settings.siteMap

/-- Clears the notes of what was shown, said, asked and printed. -/
def fresh (b : Bench) : Bench :=
  { b with
    mounted := []
    notices := []
    printed := []
    server := { b.server with received := [] } }

end Bench

end AdminConsole.Simulation
