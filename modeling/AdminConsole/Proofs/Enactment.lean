import AdminConsole.Proofs.Conduct.Gate

/-!
# Runs that are carried out

Runs can be computed: in a world in which nothing fails, an operation is started or answered, and its
task goes on as far as it comes. Every run that is computed in this way is one that can be reached,
so that what is said of all runs can be looked at in a few. -/

namespace AdminConsole

/-- The answer of a world in which nothing fails; the backend's has to be waited for. -/
def World.answer? (w : World) : (op : AppOp) → Option op.Answer
  | .storage (.read slot) => some (.ok (w.entries.get? slot.key))
  | .storage (.write _ _) => some (.ok ())
  | .storage .wipe => some (.ok ())
  | .ask _ => none
  | .notify _ => some ()
  | .dispatch _ => some ()
  | .ticket => some w.tab.issue.1
  | .mount ticket _ location => some (w.tab.moveTo ticket location).1
  | .location => some w.tab.location
  | .leave => some ()

theorem World.allows_answer {w : World} {op : AppOp} {answer : op.Answer}
    (h : w.answer? op = some answer) (i : Nat) : w.Allows ⟨i, op, answer⟩ ∧ ¬ op.IsAsk := by
  cases op with
  | ask call => exact nomatch h
  | storage op =>
    cases op <;> obtain rfl := (Option.some.inj h).symm <;> exact ⟨by trivial, not_false⟩
  | notify | dispatch | leave => exact ⟨trivial, not_false⟩
  | ticket | mount | location =>
    obtain rfl := (Option.some.inj h).symm
    exact ⟨rfl, not_false⟩

/-- The navigator of a console with the usual settings. -/
def Navigator.usual : Navigator := .ofSettings {} (.ofBase SiteMap.defaultBase)

theorem Navigator.built_usual : Navigator.usual.registry.Built Navigator.usual.siteMap :=
  .standard none

namespace Run

/-- Goes on until the task is over or waits for the backend. -/
def enact (w : World) (i : Nat) : App Reply → History → App Reply × History
  | .done reply, h => (.done reply, h)
  | .step op next, h =>
    match (w.replay h).answer? op with
    | none => (.step op next, h)
    | some answer => enact w i (next answer) (⟨i, op, answer⟩ :: h)

def begin (n : Navigator) (w : World) (o : Operation) (r : Run) : Run :=
  let (p, h) := enact w r.tasks.length (o.program n) r.history
  ⟨h, r.tasks ++ [⟨o, p⟩]⟩

/-- Answers a task that waits. -/
def answer (w : World) (i : Nat) (backend : (call : Call) → call.Result) (r : Run) : Run :=
  match r.tasks[i]? with
  | some ⟨o, .step (.ask call) next⟩ =>
    let (p, h) := enact w i (next (backend call)) (⟨i, .ask call, backend call⟩ :: r.history)
    ⟨h, r.tasks.set i ⟨o, p⟩⟩
  | _ => r

/-- What a navigation has ended with, if it is over. -/
def outcome? (r : Run) (i : Nat) : Option Outcome :=
  match r.tasks[i]? with
  | some ⟨_, .done (.navigation (.ok outcome))⟩ => some outcome
  | _ => none

/-- Someone who has accepted the terms. -/
def firstUser : Claims := ⟨"1", "t1", "first@x.org", .empty, true⟩

/-- Someone who has not. -/
def secondUser : Claims := ⟨"2", "t2", "second@x.org", .empty, false⟩

def firstUserWorld : World :=
  .start (TextMap.empty.insert Slot.session.key (Session.ofClaims firstUser).encode)

/-- A backend that signs a user in and loads the connections, and is out of reach otherwise. -/
def backendOf (user : Claims) : (call : Call) → call.Result
  | .exchange _ => .ok user
  | .connections => .ok []
  | _ => .error (.network "offline")

def isOver : App Reply → Bool
  | .done _ => true
  | .step _ _ => false

theorem isOver_iff {p : App Reply} : isOver p = true ↔ ∃ reply, p = .done reply := by
  cases p with
  | done reply => simp [isOver]
  | step op next => simp [isOver]

instance (r : Run) : Decidable r.Idle :=
  decidable_of_iff (∀ task ∈ r.tasks, isOver task.rest = true) (by simp only [isOver_iff, Idle])

variable {n : Navigator} {w : World} {r : Run}

theorem stretch_enact (w : World) (i : Nat) (p : App Reply) (h : History) :
    Stretch w i p h (enact w i p h).1 (enact w i p h).2 := by
  induction p generalizing h with
  | done reply => exact .ends reply h
  | step op next ih =>
    unfold enact
    cases known : (w.replay h).answer? op with
    | none =>
      cases op with
      | ask call => exact .waits call next h
      | storage op => cases op <;> exact nomatch known
      | _ => exact nomatch known
    | some answer =>
      obtain ⟨allowed, own⟩ := World.allows_answer known i
      exact .goes answer own allowed (ih answer _)

theorem starts_begin (o : Operation) : Starts n w o r (r.begin n w o) :=
  .mk (stretch_enact w _ _ _)

theorem resumes_answer (i : Nat) (backend : (call : Call) → call.Result) :
    r.answer w i backend = r ∨ Resumes w r (r.answer w i backend) := by
  unfold answer
  split
  · next o call next waiting => exact .inr (.mk (backend call) waiting (stretch_enact w _ _ _))
  · exact .inl rfl

theorem Reachable.begin (h : Reachable n w r) (o : Operation) : Reachable n w (r.begin n w o) :=
  .start h (starts_begin o)

theorem Reachable.answer (h : Reachable n w r) (i : Nat) (backend : (call : Call) → call.Result) :
    Reachable n w (r.answer w i backend) := by
  rcases resumes_answer (w := w) (r := r) i backend with same | step
  · rw [same]
    exact h
  · exact .resume h step

theorem InTurn.begin (h : InTurn n w r) (idle : r.Idle) (o : Operation) :
    InTurn n w (r.begin n w o) :=
  .start h idle (starts_begin o)

theorem InTurn.answer (h : InTurn n w r) (i : Nat) (backend : (call : Call) → call.Result) :
    InTurn n w (r.answer w i backend) := by
  rcases resumes_answer (w := w) (r := r) i backend with same | step
  · rw [same]
    exact h
  · exact .resume h step

theorem Continues.answer {r' : Run} (h : Continues w r r') (i : Nat)
    (backend : (call : Call) → call.Result) : Continues w r (r'.answer w i backend) := by
  rcases resumes_answer (w := w) (r := r') i backend with same | step
  · rw [same]
    exact h
  · exact .tail h step

end Run

end AdminConsole
