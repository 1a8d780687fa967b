/-!
# Programs

A program asks for operations one at a time and goes on with each answer. Every operation has a type
of answers. What an operation does is left open: a program can be run in any monad that answers the
operations (`runIn`), or step by step where an answer may have to be waited for (`advance`). -/

namespace AdminConsole

inductive Program {Op : Type} (Answer : Op → Type) (α : Type) where
  | done (a : α)
  | step (op : Op) (next : Answer op → Program Answer α)

namespace Program

variable {Op : Type} {Answer : Op → Type} {α β γ : Type}

def bind : Program Answer α → (α → Program Answer β) → Program Answer β
  | done a, f => f a
  | step op next, f => step op fun answer => (next answer).bind f

instance : Monad (Program Answer) where
  pure := done
  bind := bind

theorem bind_done (p : Program Answer α) : p.bind done = p := by
  induction p with
  | done a => rfl
  | step op next ih => simp only [bind, ih]

theorem bind_assoc (p : Program Answer α) (f : α → Program Answer β) (g : β → Program Answer γ) :
    (p.bind f).bind g = p.bind fun a => (f a).bind g := by
  induction p with
  | done a => rfl
  | step op next ih => simp only [bind, ih]

instance : LawfulMonad (Program Answer) :=
  LawfulMonad.mk' _ (fun p => bind_done p) (fun _ _ => rfl) bind_assoc

/-! ### Running to the end -/

section RunIn

variable {m : Type → Type} [Monad m]

/-- The program in another monad, which answers each operation. -/
def runIn (answer : (op : Op) → m (Answer op)) : Program Answer α → m α
  | done a => pure a
  | step op next => do runIn answer (next (← answer op))

theorem runIn_bind [LawfulMonad m] (answer : (op : Op) → m (Answer op)) (p : Program Answer α)
    (f : α → Program Answer β) :
    (p >>= f).runIn answer = p.runIn answer >>= fun a => (f a).runIn answer := by
  induction p with
  | done a => exact (pure_bind a fun a => (f a).runIn answer).symm
  | step op next ih =>
    change (answer op >>= fun a => runIn answer (next a >>= f)) = _
    simp only [ih, runIn, LawfulMonad.bind_assoc]

@[simp] theorem run_pure {σ : Type} (answer : (op : Op) → StateM σ (Answer op)) (a : α) (s : σ) :
    (pure a : Program Answer α).runIn answer s = (a, s) := rfl

theorem run_bind {σ : Type} (answer : (op : Op) → StateM σ (Answer op)) (p : Program Answer α)
    (f : α → Program Answer β) (s : σ) : (p >>= f).runIn answer s =
      (f (p.runIn answer s).1).runIn answer (p.runIn answer s).2 :=
  congrFun (runIn_bind answer p f) s

end RunIn

/-! ### Running step by step -/

/-- What is made of an operation. -/
inductive Reaction (α : Type) where
  | now (answer : α)
  /-- The answer is settled, but the program has to wait for it. -/
  | later (answer : α)

/-- How far a program has come. -/
inductive Progress (Answer : Op → Type) (α : Type) where
  | finished (a : α)
  | waiting (rest : Program Answer α)

/-- Goes on until the program ends or has to wait. -/
def advance {σ : Type} (react : (op : Op) → σ → Reaction (Answer op) × σ) :
    Program Answer α → σ → Progress Answer α × σ
  | done a, s => (.finished a, s)
  | step op next, s =>
    match react op s with
    | (.now answer, s) => advance react (next answer) s
    | (.later answer, s) => (.waiting (next answer), s)

end Program

end AdminConsole
