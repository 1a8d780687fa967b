import AdminConsole.App
import AdminConsole.Simulation.Memory
import AdminConsole.Simulation.Script

/-!
# A stage for the console

A stage answers every operation of the console from a storage in memory and a scripted backend, and
notes what is shown, said and asked. Programs on the stage are tasks: a task runs until it ends or
waits for an answer that is held back, and the answer that has waited longest is released first. -/

namespace AdminConsole.Simulation

structure Stage where
  memory : Memory := {}
  tab : Tab := {}
  script : Script := {}
  /-- How many answers are free to go before they are waited for. -/
  released : Nat := 0
  mounted : List View := []
  notices : List Notice := []
  calls : List Call := []
  deriving Inhabited

namespace Stage

def note (s : Stage) (call : Call) : Stage := { s with calls := s.calls ++ [call] }

/-- Answers a call, unless its answer is held back. -/
def ask (call : Call) (s : Stage) : Program.Reaction call.Result × Stage :=
  let s := s.note call
  let reply := s.script.reply call
  if !reply.held then (.now reply.result, s)
  else match s.released with
    | 0 => (.later reply.result, s)
    | n + 1 => (.now reply.result, { s with released := n })

def react : (op : AppOp) → Stage → Program.Reaction op.Answer × Stage
  | .storage op, s =>
    let (answer, memory) := s.memory.answer op
    (.now answer, { s with memory })
  | .ask call, s => s.ask call
  | .notify notice, s => (.now (), { s with notices := s.notices ++ [notice] })
  | .dispatch _, s => (.now (), s)
  | .ticket, s => (.now s.tab.issue.1, { s with tab := s.tab.issue.2 })
  | .mount ticket view location, s =>
    match s.tab.moveTo ticket location with
    | (true, tab) => (.now true, { s with tab, mounted := s.mounted ++ [view] })
    | (false, _) => (.now false, s)
  | .location, s => (.now s.tab.location, s)
  | .leave, s => (.now (), { s with tab := s.tab.leave })

/-- Clears the notes of what was shown, said and asked. -/
def fresh (s : Stage) : Stage := { s with mounted := [], notices := [], calls := [] }

end Stage

/-! ### Tasks -/

/-- A stage and the tasks on it, which have names. Of tasks with one name the last counts. -/
structure Rehearsal (α : Type) where
  stage : Stage := {}
  /-- The names of the tasks, the last first, each with the task's number. -/
  names : List (String × Nat) := []
  waiting : List (Nat × App α) := []
  finished : List (Nat × α) := []

inductive TaskState (α : Type) where
  | unknown
  | pending
  | finished (a : α)

namespace Rehearsal

variable {α : Type}

instance : Inhabited (Rehearsal α) := ⟨{}⟩

/-- Lets a task run as far as it comes. -/
def go (r : Rehearsal α) (task : Nat) (p : App α) : Rehearsal α :=
  match p.advance Stage.react r.stage with
  | (.finished a, stage) => { r with stage, finished := (task, a) :: r.finished }
  | (.waiting rest, stage) => { r with stage, waiting := r.waiting ++ [(task, rest)] }

def start (r : Rehearsal α) (name : String) (p : App α) : Rehearsal α :=
  let task := r.names.length
  { r with names := (name, task) :: r.names }.go task p

/-- Releases the answer that has waited longest, or else the next one. -/
def release (r : Rehearsal α) : Rehearsal α :=
  match r.waiting with
  | [] => { r with stage := { r.stage with released := r.stage.released + 1 } }
  | (task, rest) :: waiting => { r with waiting }.go task rest

def state (r : Rehearsal α) (name : String) : TaskState α :=
  match r.names.lookup name with
  | none => .unknown
  | some task =>
    match r.finished.lookup task with
    | some a => .finished a
    | none => .pending

end Rehearsal

end AdminConsole.Simulation
