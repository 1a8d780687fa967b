import AdminConsole.Proofs.Program
import AdminConsole.Simulation.Bench

/-!
# Deployments

A deployment is a console's settings, a storage and a backend, both of any kind: what either answers
may depend on what it has been asked before, and on nothing else. A console works in a deployment at
a desk, which also holds its tab and notes what it has sent, reported and shown. The bench on which
the console is tried out is the desk of a deployment with a storage in memory and a scripted server
(`Simulation.Bench.run_fits`). -/

namespace AdminConsole

open Http

structure Deployment (σ τ : Type) where
  settings : Settings
  storage : (op : StorageOp) → StateM σ op.Answer
  backend : Request → StateM τ (Except SendError Arrival)

/-- A request that was sent, and what came back. -/
abbrev Exchanged : Type := Request × Except SendError Arrival

structure Desk (σ τ : Type) where
  storage : σ
  backend : τ
  sent : List Exchanged := []
  /-- The rejections that have been reported, and wait. -/
  reported : List Rejection := []
  mounted : List View := []
  notices : List Notice := []
  tab : Tab := {}

namespace Deployment

variable {σ τ α : Type} (c : Deployment σ τ)

def onStorage (op : StorageOp) : StateM (Desk σ τ) op.Answer := fun d =>
  let (answer, storage) := c.storage op d.storage
  (answer, { d with storage })

def wire : (op : WireOp) → StateM (Desk σ τ) op.Answer
  | .storage op => c.onStorage op
  | .send request => fun d =>
    let (answer, backend) := c.backend request d.backend
    (answer, { d with backend, sent := d.sent ++ [(request, answer)] })
  | .report rejection => fun d => ((), { d with reported := d.reported ++ [rejection] })

/-- Puts a call to the backend. -/
def call (call : Call) : StateM (Desk σ τ) call.Result :=
  (Client.perform c.settings call).runIn c.wire

def app : (op : AppOp) → StateM (Desk σ τ) op.Answer
  | .storage op => c.onStorage op
  | .ask call => c.call call
  | .notify notice => fun d => ((), { d with notices := d.notices ++ [notice] })
  | .dispatch _ => fun d => ((), d)
  | .ticket => fun d => (d.tab.issue.1, { d with tab := d.tab.issue.2 })
  | .mount ticket view location => fun d =>
    match d.tab.moveTo ticket location with
    | (true, tab) => (true, { d with tab, mounted := d.mounted ++ [view] })
    | (false, _) => (false, d)
  | .location => fun d => (d.tab.location, d)
  | .leave => fun d => ((), { d with tab := d.tab.leave })

end Deployment

/-! ### The bench as a desk -/

namespace Simulation.Bench

def deployment (settings : Settings) : Deployment Memory Server where
  settings
  storage := Memory.answer
  backend request server := server.answer request

/-- The bench and the desk hold the same. -/
structure Fits (settings : Settings) (b : Bench) (d : Desk Memory Server) : Prop where
  settings : b.settings = settings
  memory : b.memory = d.storage
  server : b.server = d.backend
  tab : b.tab = d.tab
  rejections : b.rejections = d.reported
  mounted : b.mounted = d.mounted
  notices : b.notices = d.notices

variable {settings : Settings}

theorem wire_fits (op : WireOp) (b : Bench) (d : Desk Memory Server) (h : Fits settings b d) :
    Program.Same (Fits settings) (wire op b).1 ((deployment settings).wire op d).1 (wire op b).2
      ((deployment settings).wire op d).2 := by
  obtain ⟨rfl, hm, hs, ht, hr, hv, hn⟩ := h
  cases op with
  | storage op =>
    refine ⟨congrArg (fun m => (Memory.answer op m).1) hm, rfl, ?_, hs, ht, hr, hv, hn⟩
    exact congrArg (fun m => (Memory.answer op m).2) hm
  | send request =>
    refine ⟨congrArg (fun s => (Server.answer s request).1) hs, rfl, hm, ?_, ht, hr, hv, hn⟩
    exact congrArg (fun s => (Server.answer s request).2) hs
  | report rejection =>
    exact ⟨rfl, rfl, hm, hs, ht, congrArg (· ++ [rejection]) hr, hv, hn⟩

theorem run_call (c : Call) (b : Bench) :
    call c b = (Client.perform b.settings c).runIn wire b := by
  unfold call
  generalize Client.perform = perform
  rfl

theorem call_fits (c : Call) (b : Bench) (d : Desk Memory Server) (h : Fits settings b d) :
    Program.Same (Fits settings) (call c b).1 ((deployment settings).call c d).1 (call c b).2
      ((deployment settings).call c d).2 := by
  have performed : Program.Related wire (deployment settings).wire (Fits settings)
      (Client.perform settings c) (Client.perform settings c) (Program.Same (Fits settings)) :=
    .of_step wire_fits _
  rw [run_call, h.settings]
  unfold Deployment.call
  exact performed b d h

theorem app_fits (op : AppOp) (b : Bench) (d : Desk Memory Server) (h : Fits settings b d) :
    Program.Same (Fits settings) (app op b).1 ((deployment settings).app op d).1 (app op b).2
      ((deployment settings).app op d).2 := by
  cases op with
  | storage op => exact wire_fits (.storage op) b d h
  | ask c => exact call_fits c b d h
  | notify notice => exact ⟨rfl, { h with notices := congrArg (· ++ [notice]) h.notices }⟩
  | dispatch ctx => exact ⟨rfl, h⟩
  | ticket =>
    refine ⟨congrArg (fun t => t.issue.1) h.tab, { h with tab := ?_ }⟩
    exact congrArg (fun t => t.issue.2) h.tab
  | mount ticket view location =>
    obtain ⟨hs, hm, hv, ht, hr, hd, hn⟩ := h
    rcases moved : d.tab.moveTo ticket location with ⟨_ | _, tab⟩
    · simp only [app, Deployment.app, ht, moved]
      exact ⟨rfl, hs, hm, hv, ht, hr, hd, hn⟩
    · simp only [app, Deployment.app, ht, moved]
      exact ⟨rfl, hs, hm, hv, rfl, hr, congrArg (· ++ [view]) hd, hn⟩
  | location => exact ⟨congrArg Tab.location h.tab, h⟩
  | leave => exact ⟨rfl, { h with tab := congrArg Tab.leave h.tab }⟩

/-- A program of the console does at the desk what it does on the bench. -/
theorem run_fits {α : Type} (p : App α) {b : Bench} {d : Desk Memory Server}
    (h : Fits settings b d) :
    (p.runIn app b).1 = (p.runIn (deployment settings).app d).1 ∧
      Fits settings (p.runIn app b).2 (p.runIn (deployment settings).app d).2 :=
  have related : Program.Related app (deployment settings).app (Fits settings) p p
      (Program.Same (Fits settings)) := .of_step app_fits p
  related b d h

end Simulation.Bench

end AdminConsole
