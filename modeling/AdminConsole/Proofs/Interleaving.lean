import Mathlib.Logic.Relation
import AdminConsole.Navigation.Navigator
import AdminConsole.Navigation.TokenRefresh
import AdminConsole.Proofs.History
import AdminConsole.Proofs.Program

/-!
# Interleaved operations

Any number of operations under way at once. Each is a task that runs until it ends or waits for the
backend; whenever the backend answers, its task goes on. So the entries of one task between two
answers stand together in the history, and anything may stand between them and the next ones.

A discipline says what an entry may come after and how a task may end. It is checked task by task
(`Discipline.Sound`), each against histories that the others have gone on with in any way, and then
holds in every run (`Run.Reachable.keeps`). -/

namespace AdminConsole

/-- What the user starts, and what is started for the user. -/
inductive Operation where
  | navigate (path : String)
  | navigateTo (route : Route)
  | recover (rejection : Rejection)
  | acceptTerms
  | logout
  | refreshToken
  deriving DecidableEq

/-- What an operation ends with. -/
inductive Reply where
  | navigation (result : Navigator.Result)
  | token (result : Except TokenRefresh.RefreshError String)

def Operation.program (n : Navigator) : Operation → App Reply
  | navigate path => .navigation <$> n.navigate path
  | navigateTo route => .navigation <$> n.navigateTo route
  | recover rejection => .navigation <$> n.recover rejection
  | acceptTerms => .navigation <$> n.acceptTerms
  | logout => .navigation <$> n.logout
  | refreshToken => .token <$> TokenRefresh.refresh

structure Task where
  operation : Operation
  /-- What is left to do. -/
  rest : App Reply

/-- Tasks are known by their place in the list; the last started comes last. -/
structure Run where
  history : History
  tasks : List Task

def AppOp.IsAsk : AppOp → Prop
  | ask _ => True
  | _ => False

namespace Run

def empty : Run := ⟨[], []⟩

def operation? (r : Run) (i : Nat) : Option Operation := r.tasks[i]?.map (·.operation)

/-- Goes on until the task ends or has to wait for the backend. -/
inductive Stretch (w : World) (i : Nat) : App Reply → History → App Reply → History → Prop
  | ends (reply : Reply) (h : History) : Stretch w i (.done reply) h (.done reply) h
  | waits (call : Call) (next : call.Result → App Reply) (h : History) :
    Stretch w i (.step (.ask call) next) h (.step (.ask call) next) h
  | goes {op : AppOp} {next : op.Answer → App Reply} {h h' : History} {p : App Reply}
    (answer : op.Answer) (own : ¬ op.IsAsk) (allowed : (w.replay h).Allows ⟨i, op, answer⟩)
    (rest : Stretch w i (next answer) (⟨i, op, answer⟩ :: h) p h') :
    Stretch w i (.step op next) h p h'

/-- An operation is started. -/
inductive Starts (n : Navigator) (w : World) (o : Operation) (r : Run) : Run → Prop
  | mk {p : App Reply} {h : History} (stretch : Stretch w r.tasks.length (o.program n) r.history p h) :
    Starts n w o r ⟨h, r.tasks ++ [⟨o, p⟩]⟩

/-- The backend answers a task that waits. -/
inductive Resumes (w : World) (r : Run) : Run → Prop
  | mk {i : Nat} {o : Operation} {call : Call} {next : call.Result → App Reply} {p : App Reply}
    {h : History} (result : call.Result) (waiting : r.tasks[i]? = some ⟨o, .step (.ask call) next⟩)
    (stretch : Stretch w i (next result) (⟨i, .ask call, result⟩ :: r.history) p h) :
    Resumes w r ⟨h, r.tasks.set i ⟨o, p⟩⟩

/-- Runs in which operations are started and answered in any order. -/
inductive Reachable (n : Navigator) (w : World) : Run → Prop
  | empty : Reachable n w empty
  | start {o : Operation} {r r' : Run} (before : Reachable n w r) (step : Starts n w o r r') :
    Reachable n w r'
  | resume {r r' : Run} (before : Reachable n w r) (step : Resumes w r r') : Reachable n w r'

def Idle (r : Run) : Prop := ∀ task ∈ r.tasks, ∃ reply, task.rest = .done reply

/-- Runs in which an operation is started only when all the others are over. -/
inductive InTurn (n : Navigator) (w : World) : Run → Prop
  | empty : InTurn n w empty
  | start {o : Operation} {r r' : Run} (before : InTurn n w r) (idle : r.Idle)
    (step : Starts n w o r r') : InTurn n w r'
  | resume {r r' : Run} (before : InTurn n w r) (step : Resumes w r r') : InTurn n w r'

/-- No operation is started, and those under way go on in any order. -/
abbrev Continues (w : World) : Run → Run → Prop := Relation.ReflTransGen (Resumes w)

variable {n : Navigator} {w : World} {o : Operation} {r r' : Run}

theorem InTurn.reachable (h : InTurn n w r) : Reachable n w r := by
  induction h with
  | empty => exact .empty
  | start _ _ step ih => exact .start ih step
  | resume _ step ih => exact .resume ih step

theorem Reachable.continues (h : Reachable n w r) (hc : Continues w r r') : Reachable n w r' := by
  induction hc with
  | refl => exact h
  | tail _ step ih => exact .resume ih step

/-! ### What a step changes -/

theorem Stretch.of_done {i : Nat} {reply : Reply} {p : App Reply} {h h' : History}
    (hs : Stretch w i (.done reply) h p h') : p = .done reply ∧ h' = h := by
  cases hs
  exact ⟨rfl, rfl⟩

theorem Stretch.of_step {i : Nat} (op : AppOp) {next : op.Answer → App Reply} {p : App Reply}
    {h h' : History} (own : ¬ op.IsAsk) (hs : Stretch w i (.step op next) h p h') :
    ∃ answer, Stretch w i (next answer) (⟨i, op, answer⟩ :: h) p h' := by
  cases hs with
  | waits => exact absurd trivial own
  | goes answer _ _ rest => exact ⟨answer, rest⟩

/-- A stretch adds entries of its own task, and nothing else. -/
theorem Stretch.adds {i : Nat} {p p' : App Reply} {h h' : History} (hs : Stretch w i p h p' h') :
    ∃ mine : History, h' = mine ++ h ∧ ∀ e ∈ mine, e.task = i := by
  induction hs with
  | ends | waits => exact ⟨[], rfl, by simp⟩
  | @goes op _ h _ _ answer _ _ _ ih =>
    obtain ⟨mine, rfl, own⟩ := ih
    refine ⟨mine ++ [⟨i, op, answer⟩], by simp, fun e he => ?_⟩
    rcases List.mem_append.mp he with he | he
    · exact own e he
    · rw [List.mem_singleton.mp he]

theorem Stretch.consistent {i : Nat} {p p' : App Reply} {h h' : History}
    (hs : Stretch w i p h p' h') (hc : w.Consistent h) : w.Consistent h' := by
  induction hs with
  | ends | waits => exact hc
  | goes answer _ allowed _ ih => exact ih ⟨allowed, hc⟩

theorem Reachable.consistent (h : Reachable n w r) : w.Consistent r.history := by
  induction h with
  | empty => trivial
  | start _ step ih =>
    obtain ⟨stretch⟩ := step
    exact stretch.consistent ih
  | resume _ step ih =>
    obtain ⟨result, _, stretch⟩ := step
    exact stretch.consistent ⟨trivial, ih⟩

theorem operation?_of_starts (h : Starts n w o r r') (i : Nat) :
    r'.operation? i = if i = r.tasks.length then some o else r.operation? i := by
  obtain ⟨_⟩ := h
  simp only [operation?, List.getElem?_append]
  split
  · next lt => rw [if_neg (Nat.ne_of_lt lt)]
  · split
    · next eq => simp [eq]
    · next ge ne =>
      rw [List.getElem?_eq_none (by simp; omega), List.getElem?_eq_none (by omega)]

theorem operation?_of_resumes (h : Resumes w r r') (i : Nat) : r'.operation? i = r.operation? i := by
  obtain @⟨j, o, call, next, p, h, result, waiting, stretch⟩ := h
  simp only [operation?, List.getElem?_set]
  split
  · next eq =>
    subst eq
    obtain ⟨lt, _⟩ := List.getElem?_eq_some_iff.mp waiting
    rw [if_pos lt, waiting]
    rfl
  · rfl

/-! ### Operations in turn -/

/-- Tasks follow one another, and only the last may still be under way. -/
structure OneAfterAnother (r : Run) : Prop where
  started : ∀ e ∈ r.history, e.task < r.tasks.length
  ordered : r.history.Pairwise fun later earlier => earlier.task ≤ later.task
  finished : ∀ (i : Nat) (task : Task), r.tasks[i]? = some task →
    (∃ reply, task.rest = .done reply) ∨ i + 1 = r.tasks.length

theorem pairwise_append_own {i : Nat} {mine h : History} (own : ∀ e ∈ mine, e.task = i)
    (below : ∀ e ∈ h, e.task ≤ i) (ordered : h.Pairwise fun later earlier => earlier.task ≤ later.task) :
    (mine ++ h).Pairwise fun later earlier => earlier.task ≤ later.task := by
  refine List.pairwise_append.mpr ⟨List.pairwise_of_forall_mem_list ?_, ordered, ?_⟩
  · intro e he e' he'
    exact Nat.le_of_eq ((own e' he').trans (own e he).symm)
  · intro e he e' he'
    rw [own e he]
    exact below e' he'

theorem InTurn.oneAfterAnother (h : InTurn n w r) : r.OneAfterAnother := by
  induction h with
  | empty => exact ⟨by simp [Run.empty], .nil, fun i task ht => by simp [Run.empty] at ht⟩
  | start _ idle step ih =>
    obtain ⟨stretch⟩ := step
    obtain ⟨mine, rfl, own⟩ := stretch.adds
    refine ⟨fun e he => ?_, ?_, fun i task ht => ?_⟩
    · rw [List.length_append, List.length_singleton]
      rcases List.mem_append.mp he with he | he
      · rw [own e he]
        exact Nat.lt_succ_self _
      · exact Nat.lt_succ_of_lt (ih.started e he)
    · exact pairwise_append_own own (fun e he => Nat.le_of_lt (ih.started e he)) ih.ordered
    · rcases Nat.lt_or_ge i _ with lt | ge
      · rw [List.getElem?_append_left lt] at ht
        exact .inl (idle task (List.mem_of_getElem? ht))
      · rw [List.getElem?_append_right ge, List.getElem?_singleton] at ht
        split at ht
        · refine .inr ?_
          rw [List.length_append, List.length_singleton]
          omega
        · simp at ht
  | @resume r r' _ step ih =>
    obtain @⟨i, o, call, next, p, h, result, waiting, stretch⟩ := step
    have last : i + 1 = r.tasks.length := by
      rcases ih.finished i _ waiting with ⟨reply, eq⟩ | last
      · exact nomatch eq
      · exact last
    obtain ⟨mine, rfl, own⟩ := stretch.adds
    have own' : ∀ e ∈ mine ++ [⟨i, .ask call, result⟩], e.task = i := by
      intro e he
      rcases List.mem_append.mp he with he | he
      · exact own e he
      · rw [List.mem_singleton.mp he]
    have below : ∀ e ∈ r.history, e.task ≤ i := fun e he => by
      have := ih.started e he
      omega
    have split : mine ++ ⟨i, .ask call, result⟩ :: r.history =
        (mine ++ [⟨i, .ask call, result⟩]) ++ r.history := by simp
    refine ⟨fun e he => ?_, ?_, fun j task ht => ?_⟩
    · rw [List.length_set]
      rw [split] at he
      rcases List.mem_append.mp he with he | he
      · rw [own' e he]
        omega
      · exact ih.started e he
    · rw [split]
      exact pairwise_append_own own' below ih.ordered
    · rw [List.length_set]
      rw [List.getElem?_set] at ht
      split at ht
      · next ij => exact .inr (ij ▸ last)
      · exact ih.finished j task ht

/-- Nothing of another task stands between two entries of a task. -/
theorem OneAfterAnother.own_between (h : r.OneAfterAnother) {a b c : History} {e e' : Entry}
    (hr : r.history = a ++ e :: (b ++ e' :: c)) (same : e.task = e'.task) :
    ∀ x ∈ b, x.task = e.task := by
  intro x hx
  have ordered := h.ordered
  rw [hr, List.pairwise_append, List.pairwise_cons, List.pairwise_append] at ordered
  obtain ⟨_, ⟨below, _, _, above⟩, _⟩ := ordered
  exact Nat.le_antisymm (below x (by simp [hx])) (same ▸ above x hx e' (by simp))

end Run

/-! ### Disciplines -/

structure Discipline where
  /-- How a history may look where a task stops. -/
  settled : History → Prop
  /-- What an entry of an operation may come after. -/
  guard : Operation → Entry → History → Prop
  /-- What an operation may end with, by its task and the history then. -/
  ending : Operation → Nat → Reply → History → Prop

namespace Discipline

open Program Run

variable (d : Discipline)

/-- While a task waits, the others may add to the history. -/
def turn (o : Operation) (i : Nat) : Rule AppOp.Answer History
  | .ask call, K, h => d.settled h ∧ ∀ (others : History) (result : call.Result),
      (∀ e ∈ others, e.task ≠ i) → d.settled (others ++ h) →
        d.guard o ⟨i, .ask call, result⟩ (others ++ h) ∧
          K result (⟨i, .ask call, result⟩ :: (others ++ h))
  | .storage op, K, h => ∀ answer, d.guard o ⟨i, .storage op, answer⟩ h ∧
      K answer (⟨i, .storage op, answer⟩ :: h)
  | .notify notice, K, h => d.guard o ⟨i, .notify notice, ()⟩ h ∧
      K () (⟨i, .notify notice, ()⟩ :: h)
  | .dispatch ctx, K, h => d.guard o ⟨i, .dispatch ctx, ()⟩ h ∧ K () (⟨i, .dispatch ctx, ()⟩ :: h)
  | .ticket, K, h => ∀ ticket, d.guard o ⟨i, .ticket, ticket⟩ h ∧ K ticket (⟨i, .ticket, ticket⟩ :: h)
  | .mount t v l, K, h => ∀ mounted, d.guard o ⟨i, .mount t v l, mounted⟩ h ∧
      K mounted (⟨i, .mount t v l, mounted⟩ :: h)
  | .location, K, h => ∀ location, d.guard o ⟨i, .location, location⟩ h ∧
      K location (⟨i, .location, location⟩ :: h)
  | .leave, K, h => d.guard o ⟨i, .leave, ()⟩ h ∧ K () (⟨i, .leave, ()⟩ :: h)

theorem turn_of_not_isAsk {o : Operation} {i : Nat} {op : AppOp} (own : ¬ op.IsAsk)
    {K : op.Answer → History → Prop} {h : History} (ht : d.turn o i op K h) (answer : op.Answer) :
    d.guard o ⟨i, op, answer⟩ h ∧ K answer (⟨i, op, answer⟩ :: h) := by
  cases op with
  | ask call => exact absurd trivial own
  | storage | ticket | mount | location => exact ht answer
  | notify | dispatch | leave => exact ht

/-- A program that keeps to the discipline from a history on, as a task. -/
def Holds (o : Operation) (i : Nat) (p : App Reply) (h : History) : Prop :=
  wp (d.turn o i) (fun reply h => d.settled h ∧ d.ending o i reply h) p h

/-- Every operation keeps to the discipline, whenever it is started. -/
structure Sound (n : Navigator) : Prop where
  settled : d.settled []
  holds : ∀ (o : Operation) (i : Nat) (h : History), (∀ e ∈ h, e.task ≠ i) → d.settled h →
    d.Holds o i (o.program n) h

/-- Every entry comes after what the discipline asks for. -/
def Guarded (operation? : Nat → Option Operation) : History → Prop
  | [] => True
  | e :: h => (∃ o, operation? e.task = some o ∧ d.guard o e h) ∧ Guarded operation? h

/-- What a discipline comes to in a run. -/
structure Keeps (r : Run) : Prop where
  settled : d.settled r.history
  guarded : d.Guarded r.operation? r.history
  /-- Since its last entry, a task has been where it is. -/
  holds : ∀ (i : Nat) (task : Task), r.tasks[i]? = some task → ∃ others own : History,
    r.history = others ++ own ∧ (∀ e ∈ others, e.task ≠ i) ∧
      d.Holds task.operation i task.rest own

variable {d} {f g : Nat → Option Operation}

theorem Guarded.mono (hfg : ∀ i o, f i = some o → g i = some o) {h : History}
    (hg : d.Guarded f h) : d.Guarded g h := by
  induction h with
  | nil => trivial
  | cons e h ih =>
    obtain ⟨⟨o, ho, guard⟩, hg⟩ := hg
    exact ⟨⟨o, hfg _ _ ho, guard⟩, ih hg⟩

theorem Guarded.of_append {new old : History} (hg : d.Guarded f (new ++ old)) : d.Guarded f old := by
  induction new with
  | nil => exact hg
  | cons e new ih => exact ih hg.2

theorem Guarded.guard {new old : History} {e : Entry} (hg : d.Guarded f (new ++ e :: old)) :
    ∃ o, f e.task = some o ∧ d.guard o e old :=
  hg.of_append.1

/-- A stretch of a task that holds to the discipline leaves it where it holds to it. -/
theorem Holds.stretch {w : World} {i : Nat} {o : Operation} {p p' : App Reply} {h h' : History}
    (hs : Stretch w i p h p' h') (hp : d.Holds o i p h) (ho : f i = some o)
    (hg : d.Guarded f h) : d.Guarded f h' ∧ d.settled h' ∧ d.Holds o i p' h' := by
  induction hs with
  | ends reply h => exact ⟨hg, hp.1, hp⟩
  | waits call next h => exact ⟨hg, hp.1, hp⟩
  | goes answer own allowed rest ih =>
    obtain ⟨guard, hp⟩ := d.turn_of_not_isAsk own hp answer
    exact ih hp ⟨⟨o, ho, guard⟩, hg⟩

end Discipline

namespace Run

variable {n : Navigator} {w : World} {d : Discipline}

theorem task_lt_of_guarded {r : Run} {h : History} (hg : d.Guarded r.operation? h) :
    ∀ e ∈ h, e.task < r.tasks.length := by
  intro e he
  obtain ⟨new, old, rfl⟩ := List.append_of_mem he
  obtain ⟨o, ho, _⟩ := hg.guard
  rw [operation?, Option.map_eq_some_iff] at ho
  obtain ⟨task, ht, _⟩ := ho
  exact (List.getElem?_eq_some_iff.mp ht).1

theorem keeps_of_starts (hd : d.Sound n) {o : Operation} {r r' : Run} (hk : d.Keeps r)
    (step : Starts n w o r r') : d.Keeps r' := by
  have operations := operation?_of_starts step
  obtain ⟨stretch⟩ := step
  have fresh : ∀ e ∈ r.history, e.task ≠ r.tasks.length := fun e he =>
    Nat.ne_of_lt (task_lt_of_guarded hk.guarded e he)
  have grown : d.Guarded (operation? _) r.history := hk.guarded.mono fun i o' hi => by
    obtain ⟨task, ht, _⟩ := Option.map_eq_some_iff.mp hi
    rw [operations, if_neg (Nat.ne_of_lt (List.getElem?_eq_some_iff.mp ht).1), hi]
  obtain ⟨guarded, settled, holds⟩ := Discipline.Holds.stretch stretch
    (hd.holds o _ r.history fresh hk.settled) ((operations _).trans (if_pos rfl)) grown
  refine ⟨settled, guarded, fun i task ht => ?_⟩
  obtain ⟨mine, rfl, own⟩ := stretch.adds
  rcases Nat.lt_or_ge i r.tasks.length with lt | ge
  · rw [List.getElem?_append_left lt] at ht
    obtain ⟨others, before, eq, foreign, holds⟩ := hk.holds i task ht
    refine ⟨mine ++ others, before, by simp [eq], fun e he => ?_, holds⟩
    rcases List.mem_append.mp he with he | he
    · exact own e he ▸ (Nat.ne_of_lt lt).symm
    · exact foreign e he
  · rw [List.getElem?_append_right ge, List.getElem?_singleton] at ht
    split at ht
    · obtain rfl := Option.some.inj ht
      obtain rfl : i = r.tasks.length := by omega
      exact ⟨[], _, rfl, by simp, holds⟩
    · simp at ht

theorem keeps_of_resumes {r r' : Run} (hk : d.Keeps r) (step : Resumes w r r') : d.Keeps r' := by
  have operations := operation?_of_resumes step
  obtain @⟨i, o, call, next, p, h, result, waiting, stretch⟩ := step
  obtain ⟨others, before, eq, foreign, holds⟩ := hk.holds i _ waiting
  obtain ⟨guard, holds⟩ := holds.2 others result foreign (eq ▸ hk.settled)
  rw [← eq] at guard holds
  have known : r.operation? i = some o := by simp [operation?, waiting]
  obtain ⟨guarded, settled, holds⟩ := Discipline.Holds.stretch stretch holds known
    ⟨⟨o, known, guard⟩, hk.guarded⟩
  refine ⟨settled, guarded.mono fun j o' hj => by rw [operations, hj], fun j task ht => ?_⟩
  obtain ⟨mine, rfl, own⟩ := stretch.adds
  obtain ⟨lt, _⟩ := List.getElem?_eq_some_iff.mp waiting
  rw [List.getElem?_set] at ht
  split at ht
  · next ij =>
    subst ij
    obtain rfl : _ = task := by simpa [lt] using ht
    exact ⟨[], _, rfl, by simp, holds⟩
  · next ij =>
    obtain ⟨others, before, eq, foreign, holds⟩ := hk.holds j task ht
    refine ⟨mine ++ ⟨i, .ask call, result⟩ :: others, before, by simp [eq], fun e he => ?_, holds⟩
    rcases List.mem_append.mp he with he | he
    · exact own e he ▸ ij
    · rcases List.mem_cons.mp he with rfl | he
      · exact ij
      · exact foreign e he

/-- A sound discipline holds in every run, whatever the order of the steps. -/
theorem Reachable.keeps (hd : d.Sound n) {r : Run} (hr : Reachable n w r) : d.Keeps r := by
  induction hr with
  | empty => exact ⟨hd.settled, trivial, fun i task ht => by simp [Run.empty] at ht⟩
  | start _ step ih => exact keeps_of_starts hd ih step
  | resume _ step ih => exact keeps_of_resumes ih step

end Run

end AdminConsole
