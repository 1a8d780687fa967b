import AdminConsole.App

/-!
# Conditions on programs

A rule says, for each operation, what has to hold before it for a condition on its answer to hold
after it. `wp` carries a rule through a program, and `wp_bind` is the law by which a program is
taken part by part. Parts that carry out only operations that do no harm are passed over
(`wp_of_uses`).

Where any answer may come, a program has runs (`Runs`, `Reaches`), and they are taken part by part
as well (`runs_bind`). Two programs that are run side by side are related by what they start from
and end in (`Related`). -/

namespace AdminConsole.Program

variable {Op : Type} {Answer : Op → Type} {σ α β : Type}

abbrev Rule (Answer : Op → Type) (σ : Type) : Type :=
  (op : Op) → (Answer op → σ → Prop) → σ → Prop

/-- What has to hold for every run of a program to end in `Q`. -/
def wp (T : Rule Answer σ) (Q : α → σ → Prop) : Program Answer α → σ → Prop
  | done a => Q a
  | step op next => T op fun answer => wp T Q (next answer)

section laws

variable (T : Rule Answer σ)

@[simp] theorem wp_pure (Q : α → σ → Prop) (a : α) : wp T Q (pure a : Program Answer α) = Q a := rfl

@[simp] theorem wp_bind (Q : β → σ → Prop) (p : Program Answer α) (f : α → Program Answer β) :
    wp T Q (p >>= f) = wp T (fun a => wp T Q (f a)) p := by
  change wp T Q (p.bind f) = _
  induction p with
  | done a => rfl
  | step op next ih => exact congrArg (T op) (funext ih)

@[simp] theorem wp_map (Q : β → σ → Prop) (f : α → β) (p : Program Answer α) :
    wp T Q (f <$> p) = wp T (fun a => Q (f a)) p := by
  rw [map_eq_pure_bind, wp_bind]
  rfl

@[simp] theorem wp_discard (Q : PUnit → σ → Prop) (p : Program Answer α) :
    wp T Q (discard p) = wp T (fun _ => Q ⟨⟩) p :=
  wp_map T Q (fun _ => PUnit.unit) p

end laws

/-! ### Operations that occur -/

/-- The program carries out no operation but those of a kind. -/
def Uses (P : Op → Prop) : Program Answer α → Prop
  | done _ => True
  | step op next => P op ∧ ∀ answer, (next answer).Uses P

section uses

variable {P : Op → Prop}

/-- What every operation of a kind keeps, a program of such operations keeps. -/
theorem wp_of_uses {T : Rule Answer σ} {R : σ → Prop}
    (hT : ∀ op, P op → ∀ (K : Answer op → σ → Prop) s, R s → (∀ a s', R s' → K a s') → T op K s)
    {Q : α → σ → Prop} {p : Program Answer α} (hp : p.Uses P) {s : σ} (hs : R s)
    (hQ : ∀ a s', R s' → Q a s') : wp T Q p s := by
  induction p generalizing s with
  | done a => exact hQ a s hs
  | step op next ih => exact hT op hp.1 _ s hs fun a s' hs' => ih a (hp.2 a) hs'

theorem Uses.mono {P' : Op → Prop} (h : ∀ op, P op → P' op) {p : Program Answer α}
    (hp : p.Uses P) : p.Uses P' := by
  induction p with
  | done a => trivial
  | step op next ih => exact ⟨h op hp.1, fun answer => ih answer (hp.2 answer)⟩

theorem Uses.bind {p : Program Answer α} {f : α → Program Answer β} (hp : p.Uses P)
    (hf : ∀ a, (f a).Uses P) : (p >>= f).Uses P := by
  change (p.bind f).Uses P
  induction p with
  | done a => exact hf a
  | step op next ih => exact ⟨hp.1, fun answer => ih answer (hp.2 answer)⟩

theorem Uses.discard {p : Program Answer α} (hp : p.Uses P) : (discard p).Uses P := by
  change ((fun _ => PUnit.unit) <$> p : Program Answer PUnit).Uses P
  rw [map_eq_pure_bind]
  exact hp.bind fun _ => trivial

end uses

/-! ### Runs with any answers -/

/-- An operation that was carried out, with the answer it got. -/
structure Answered (Answer : Op → Type) where
  op : Op
  answer : Answer op

/-- What a program has carried out when it ends; every operation may have got any answer. -/
inductive Runs : Program Answer α → List (Answered Answer) → α → Prop
  | done (a : α) : Runs (.done a) [] a
  | step {op : Op} {next : Answer op → Program Answer α} {es : List (Answered Answer)} {a : α}
    (answer : Answer op) (rest : Runs (next answer) es a) :
    Runs (.step op next) (⟨op, answer⟩ :: es) a

section runs

variable {es : List (Answered Answer)} {a : α} {b : β}

@[simp] theorem runs_pure {a' : α} : Runs (pure a' : Program Answer α) es a ↔ es = [] ∧ a = a' := by
  constructor
  · intro h
    cases h
    exact ⟨rfl, rfl⟩
  · rintro ⟨rfl, rfl⟩
    exact .done a

@[simp] theorem runs_step_done {op : Op} {answer : Answer op} :
    Runs (.step op .done) es answer ↔ es = [⟨op, answer⟩] := by
  constructor
  · intro h
    cases h with
    | step answer rest =>
      cases rest
      rfl
  · rintro rfl
    exact .step answer (.done answer)

/-- A run of two programs in a row is a run of the one and then of the other. -/
theorem runs_bind {p : Program Answer α} {f : α → Program Answer β} :
    Runs (p >>= f) es b ↔ ∃ before a after, es = before ++ after ∧ Runs p before a ∧
      Runs (f a) after b := by
  change Runs (p.bind f) es b ↔ _
  induction p generalizing es with
  | done a =>
    constructor
    · intro h
      exact ⟨[], a, es, rfl, .done a, h⟩
    · rintro ⟨before, a', after, rfl, first, last⟩
      cases first
      exact last
  | step op next ih =>
    constructor
    · intro h
      cases h with
      | step answer rest =>
        obtain ⟨before, a, after, rfl, first, last⟩ := (ih answer).mp rest
        exact ⟨_, a, after, rfl, .step answer first, last⟩
    · rintro ⟨before, a, after, rfl, first, last⟩
      cases first with
      | step answer first => exact .step answer ((ih answer).mpr ⟨_, a, after, rfl, first, last⟩)

theorem runs_map {f : α → β} {p : Program Answer α} :
    Runs (f <$> p) es b ↔ ∃ a, b = f a ∧ Runs p es a := by
  rw [map_eq_pure_bind, runs_bind]
  constructor
  · rintro ⟨before, a, after, rfl, first, last⟩
    obtain ⟨rfl, rfl⟩ := runs_pure.mp last
    exact ⟨a, rfl, by rwa [List.append_nil]⟩
  · rintro ⟨a, rfl, h⟩
    exact ⟨es, a, [], by rw [List.append_nil], h, runs_pure.mpr ⟨rfl, rfl⟩⟩

theorem Runs.uses {P : Op → Prop} {p : Program Answer α} (h : Runs p es a) (hp : p.Uses P) :
    ∀ e ∈ es, P e.op := by
  induction h with
  | done a => simp
  | step answer rest ih => exact List.forall_mem_cons.mpr ⟨hp.1, ih (hp.2 answer)⟩

/-- Runs a program on fixed answers. -/
def carryOut (answer : (op : Op) → Answer op) : Program Answer α → List (Answered Answer) × α
  | done a => ([], a)
  | step op next =>
    let (es, a) := carryOut answer (next (answer op))
    (⟨op, answer op⟩ :: es, a)

theorem runs_carryOut (answer : (op : Op) → Answer op) (p : Program Answer α) :
    Runs p (p.carryOut answer).1 (p.carryOut answer).2 := by
  induction p with
  | done a => exact .done a
  | step op next ih => exact .step (answer op) (ih (answer op))

/-- A program that is run to its end ends where the operations of a run of it lead. -/
theorem exists_runs_runIn (answer : (op : Op) → StateM σ (Answer op)) (p : Program Answer α)
    (s : σ) : ∃ es, Runs p es (p.runIn answer s).1 ∧
      (p.runIn answer s).2 = es.foldl (fun s e => (answer e.op s).2) s := by
  induction p generalizing s with
  | done a => exact ⟨[], .done a, rfl⟩
  | step op next ih =>
    obtain ⟨es, run, ends⟩ := ih (answer op s).1 (answer op s).2
    exact ⟨⟨op, (answer op s).1⟩ :: es, .step _ run, ends⟩

end runs

/-! ### Runs that are under way -/

/-- What is left of a program once it has carried out these operations. -/
inductive Reaches : Program Answer α → List (Answered Answer) → Program Answer α → Prop
  | refl (p : Program Answer α) : Reaches p [] p
  | step {op : Op} {next : Answer op → Program Answer α} {es : List (Answered Answer)}
    {q : Program Answer α} (answer : Answer op) (rest : Reaches (next answer) es q) :
    Reaches (.step op next) (⟨op, answer⟩ :: es) q

section reaches

variable {es es' : List (Answered Answer)} {p q r : Program Answer α} {a : α}

theorem Reaches.trans (h : Reaches p es q) (h' : Reaches q es' r) : Reaches p (es ++ es') r := by
  induction h with
  | refl p => exact h'
  | step answer rest ih => exact .step answer (ih h')

/-- A run of what is left completes the run. -/
theorem Reaches.runs (h : Reaches p es q) (h' : Runs q es' a) : Runs p (es ++ es') a := by
  induction h with
  | refl p => exact h'
  | step answer rest ih => exact .step answer (ih h')

theorem reaches_done : Reaches p es (.done a) ↔ Runs p es a := by
  constructor
  · intro h
    have completed := h.runs (.done a)
    rwa [List.append_nil] at completed
  · intro h
    induction h with
    | done a => exact .refl _
    | step answer rest ih => exact .step answer ih

theorem exists_run [∀ op, Nonempty (Answer op)] (p : Program Answer α) : ∃ es a, Runs p es a := by
  induction p with
  | done a => exact ⟨[], a, .done a⟩
  | step op next ih =>
    obtain ⟨answer⟩ : Nonempty (Answer op) := inferInstance
    obtain ⟨es, a, run⟩ := ih answer
    exact ⟨_, a, .step answer run⟩

/-- A program that is left with nothing to carry out has ended. -/
theorem ended_of_runs [∀ op, Nonempty (Answer op)] (h : ∀ es a, Runs p es a → es = []) :
    ∃ a, p = .done a := by
  cases p with
  | done a => exact ⟨a, rfl⟩
  | step op next =>
    obtain ⟨es, a, run⟩ := exists_run (.step op next)
    obtain rfl := h es a run
    exact nomatch run

theorem Reaches.bind (h : Reaches p es q) (f : α → Program Answer β) :
    Reaches (p >>= f) es (q >>= f) := by
  induction h with
  | refl p => exact .refl _
  | step answer rest ih => exact .step answer ih

/-- After the first of two programs the second is left. -/
theorem Runs.reaches_bind (h : Runs p es a) (f : α → Program Answer β) :
    Reaches (p >>= f) es (f a) :=
  (reaches_done.mpr h).bind f

end reaches

/-! ### Two runs -/

section related

variable {τ : Type} {f : (op : Op) → StateM σ (Answer op)} {g : (op : Op) → StateM τ (Answer op)}

/-- Run from states that `R` relates, the two programs end in what `Q` relates. -/
def Related (f : (op : Op) → StateM σ (Answer op)) (g : (op : Op) → StateM τ (Answer op))
    (R : σ → τ → Prop) (p : Program Answer α) (q : Program Answer β)
    (Q : α → β → σ → τ → Prop) : Prop :=
  ∀ s t, R s t → Q (p.runIn f s).1 (q.runIn g t).1 (p.runIn f s).2 (q.runIn g t).2

/-- The same result, in related states. -/
def Same (R : σ → τ → Prop) (a b : α) (s : σ) (t : τ) : Prop := a = b ∧ R s t

variable {R : σ → τ → Prop}

theorem Related.pure (a : α) :
    Related f g R (pure a : Program Answer α) (pure a : Program Answer α) (Same R) :=
  fun _ _ h => ⟨rfl, h⟩

theorem Related.bind {γ δ : Type} {p : Program Answer α} {q : Program Answer β}
    {Q : α → β → σ → τ → Prop} {k : α → Program Answer γ} {l : β → Program Answer δ}
    {S : γ → δ → σ → τ → Prop} (h : Related f g R p q Q)
    (next : ∀ a b, Related f g (Q a b) (k a) (l b) S) : Related f g R (p >>= k) (q >>= l) S := by
  intro s t hR
  rw [run_bind, run_bind]
  exact next _ _ _ _ (h s t hR)

/-- A first part that gives both runs the same result. -/
theorem Related.bind_same {p q : Program Answer α} {R' : σ → τ → Prop}
    {k l : α → Program Answer β} {S : β → β → σ → τ → Prop} (h : Related f g R p q (Same R'))
    (next : ∀ a, Related f g R' (k a) (l a) S) : Related f g R (p >>= k) (q >>= l) S := by
  refine h.bind fun a b s t ⟨same, hR'⟩ => ?_
  subst same
  exact next a s t hR'

/-- What is related stays related by operations that answer both sides alike. -/
theorem Related.of_uses {P : Op → Prop}
    (step : ∀ op, P op → ∀ s t, R s t → Same R (f op s).1 (g op t).1 (f op s).2 (g op t).2)
    {p : Program Answer α} (hp : p.Uses P) : Related f g R p p (Same R) := by
  induction p with
  | done a => exact .pure a
  | step op next ih =>
    intro s t hR
    obtain ⟨same, hR'⟩ := step op hp.1 s t hR
    have rest := ih (f op s).1 (hp.2 _) _ _ hR'
    change Same R ((next (f op s).1).runIn f (f op s).2).1 ((next (g op t).1).runIn g (g op t).2).1
      ((next (f op s).1).runIn f (f op s).2).2 ((next (g op t).1).runIn g (g op t).2).2
    rw [← same]
    exact rest

theorem uses_all (p : Program Answer α) : p.Uses fun _ => True := by
  induction p with
  | done a => trivial
  | step op next ih => exact ⟨trivial, ih⟩

theorem Related.of_step
    (step : ∀ op s t, R s t → Same R (f op s).1 (g op t).1 (f op s).2 (g op t).2)
    (p : Program Answer α) : Related f g R p p (Same R) :=
  .of_uses (P := fun _ => True) (fun op _ => step op) (uses_all p)

end related

end AdminConsole.Program

/-! ### Programs of the console -/

namespace AdminConsole

/-- What a program of the console has carried out, in its order. -/
abbrev Trace : Type := List (Program.Answered AppOp.Answer)

instance (op : AppOp) : Nonempty op.Answer := by
  cases op with
  | storage op => cases op <;> exact ⟨.error (.corrupt "")⟩
  | ask call => exact ⟨.error (.network "")⟩
  | ticket => exact ⟨0⟩
  | mount => exact ⟨false⟩
  | location => exact ⟨none⟩
  | notify | dispatch | leave => exact ⟨()⟩

end AdminConsole

namespace AdminConsole.App

open Program

variable {σ α : Type} (T : Rule AppOp.Answer σ)

/-- The rule for the operations of the storage. -/
def onStorage : Rule StorageOp.Answer σ := fun op => T (.storage op)

@[simp] theorem wp_lift (Q : α → σ → Prop) (p : Storage α) :
    wp T Q (liftM p : App α) = wp (onStorage T) Q p := by
  change wp T Q (ofStorage p) = _
  induction p with
  | done a => rfl
  | step op next ih => exact congrArg (T (.storage op)) (funext ih)

/-- A program that only uses the storage carries out operations of the storage. -/
theorem uses_lift {P : AppOp → Prop} (storage : ∀ op, P (.storage op)) (p : Storage α) :
    (liftM p : App α).Uses P := by
  change (ofStorage p).Uses P
  induction p with
  | done a => trivial
  | step op next ih => exact ⟨storage op, ih⟩

@[simp] theorem wp_ask (call : Call) (Q : call.Result → σ → Prop) :
    wp T Q (ask call) = T (.ask call) Q := rfl

@[simp] theorem wp_notify (notice : Notice) (Q : Unit → σ → Prop) :
    wp T Q (notify notice) = T (.notify notice) Q := rfl

@[simp] theorem wp_dispatch (ctx : RenderContext) (Q : Unit → σ → Prop) :
    wp T Q (dispatch ctx) = T (.dispatch ctx) Q := rfl

@[simp] theorem wp_ticket (Q : Nat → σ → Prop) : wp T Q ticket = T .ticket Q := rfl

@[simp] theorem wp_mount (t : Nat) (view : View) (place : Location) (Q : Bool → σ → Prop) :
    wp T Q (mount t view place) = T (.mount t view place) Q := rfl

@[simp] theorem wp_location (Q : Option Location → σ → Prop) :
    wp T Q location = T .location Q := rfl

@[simp] theorem wp_leave (Q : Unit → σ → Prop) : wp T Q leave = T .leave Q := rfl

end AdminConsole.App
