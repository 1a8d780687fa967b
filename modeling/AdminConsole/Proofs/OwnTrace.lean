import AdminConsole.Proofs.Conduct.Rules

/-!
# What a task has carried out

The entries of a task in a history are its trace. What is left of a task is what its program leaves
after that trace (`Run.InTurn.traced`), so what holds of all runs of a program holds of every task,
as far as it has come. Where operations follow one another, the entries of a task stand together. -/

namespace AdminConsole

open Program

def Entry.answered (e : Entry) : Answered AppOp.Answer := ⟨e.op, e.answer⟩

namespace History

/-- What the task has carried out, in its order. -/
def trace (i : Nat) (h : History) : Trace := ((own i h).map Entry.answered).reverse

/-- A history in which one task carries out a trace. -/
def ofTrace (i : Nat) (es : Trace) : History := (es.map fun x => ⟨i, x.op, x.answer⟩).reverse

variable {i : Nat} {h others : History}

theorem trace_append (i : Nat) (new old : History) :
    trace i (new ++ old) = trace i old ++ trace i new := by
  simp [trace, own]

@[simp] theorem trace_cons (op : AppOp) (answer : op.Answer) :
    trace i (⟨i, op, answer⟩ :: h) = trace i h ++ [⟨op, answer⟩] := by
  rw [trace, own_cons, List.map_cons, List.reverse_cons]
  rfl

theorem trace_of_foreign (foreign : ∀ e ∈ h, e.task ≠ i) : trace i h = [] := by
  rw [trace, own_of_foreign foreign]
  rfl

theorem mem_trace {e : Entry} (he : e ∈ h) : e.answered ∈ trace e.task h := by
  have mem : e ∈ own e.task h := List.mem_filter.mpr ⟨he, decide_eq_true rfl⟩
  exact List.mem_reverse.mpr (List.mem_map_of_mem mem)

theorem mem_of_mem_trace {x : Answered AppOp.Answer} (hx : x ∈ trace i h) :
    (⟨i, x.op, x.answer⟩ : Entry) ∈ h := by
  obtain ⟨e, he, rfl⟩ := List.mem_map.mp (List.mem_reverse.mp hx)
  obtain ⟨there, own⟩ := List.mem_filter.mp he
  obtain rfl := of_decide_eq_true own
  exact there

theorem own_of_own (own : ∀ e ∈ h, e.task = i) : History.own i h = h :=
  List.filter_eq_self.mpr fun e he => decide_eq_true (own e he)

theorem ofTrace_append (i : Nat) (es es' : Trace) :
    ofTrace i (es ++ es') = ofTrace i es' ++ ofTrace i es := by
  simp [ofTrace]

theorem trace_ofTrace (i : Nat) (es : Trace) : trace i (ofTrace i es) = es := by
  have own : ∀ e ∈ ofTrace i es, e.task = i := by simp [ofTrace]
  rw [trace, own_of_own own, ofTrace, List.map_reverse, List.reverse_reverse, List.map_map]
  exact List.map_id es

theorem ofTrace_trace (own : ∀ e ∈ h, e.task = i) : ofTrace i (trace i h) = h := by
  rw [ofTrace, trace, own_of_own own, ← List.map_reverse, List.reverse_reverse, List.map_map]
  refine (List.map_congr_left fun e he => ?_).trans (List.map_id h)
  obtain ⟨j, op, answer⟩ := e
  obtain rfl := own _ he
  rfl

end History

open History

namespace Run

variable {n : Navigator} {w : World} {r : Run} {i : Nat}

/-- A stretch carries the program on. -/
theorem Stretch.reaches {p q : App Reply} {h h' : History} (hs : Stretch w i p h q h') :
    ∃ es, trace i h' = trace i h ++ es ∧ Reaches p es q := by
  induction hs with
  | ends | waits => exact ⟨[], (List.append_nil _).symm, .refl _⟩
  | @goes op next h _ _ answer _ _ rest ih =>
    obtain ⟨es, eq, reaches⟩ := ih
    rw [trace_cons, List.append_assoc] at eq
    exact ⟨_, eq, .step answer reaches⟩

/-- **What is left of a task is what its program leaves after its trace.** -/
theorem InTurn.traced (h : InTurn n w r) {task : Task} (found : r.tasks[i]? = some task) :
    Reaches (task.operation.program n) (trace i r.history) task.rest := by
  induction h generalizing i task with
  | empty => simp [Run.empty] at found
  | @start o r r' before idle step ih =>
    have started := before.oneAfterAnother.started
    obtain @⟨p, h, stretch⟩ := step
    obtain ⟨mine, rfl, own⟩ := stretch.adds
    rcases Nat.lt_or_ge i r.tasks.length with lt | ge
    · rw [List.getElem?_append_left lt] at found
      have foreign : ∀ e ∈ mine, e.task ≠ i := fun e he => own e he ▸ (Nat.ne_of_lt lt).symm
      rw [trace_append, trace_of_foreign foreign, List.append_nil]
      exact ih found
    · rw [List.getElem?_append_right ge, List.getElem?_singleton] at found
      split at found
      · next first =>
        obtain rfl := Option.some.inj found
        obtain rfl : i = r.tasks.length := by omega
        obtain ⟨es, eq, reaches⟩ := stretch.reaches
        have none : trace r.tasks.length r.history = [] :=
          trace_of_foreign fun e he => Nat.ne_of_lt (started e he)
        rw [eq, none, List.nil_append]
        exact reaches
      · simp at found
  | @resume r r' before step ih =>
    obtain @⟨j, o, call, next, p, h, result, waiting, stretch⟩ := step
    obtain ⟨mine, rfl, own⟩ := stretch.adds
    by_cases same : j = i
    · subst same
      obtain ⟨lt, _⟩ := List.getElem?_eq_some_iff.mp waiting
      rw [List.getElem?_set_self lt] at found
      obtain rfl := Option.some.inj found
      obtain ⟨es, eq, reaches⟩ := stretch.reaches
      rw [trace_cons, List.append_assoc] at eq
      rw [eq]
      have went : Reaches (.step (.ask call) next : App Reply) (⟨.ask call, result⟩ :: es) p := by
        apply Reaches.step
        exact reaches
      exact (ih waiting).trans went
    · rw [List.getElem?_set_ne same] at found
      have foreign : ∀ e ∈ mine ++ [⟨j, .ask call, result⟩], e.task ≠ i := by
        intro e he
        rcases List.mem_append.mp he with he | he
        · exact own e he ▸ same
        · exact List.mem_singleton.mp he ▸ same
      have split : mine ++ ⟨j, .ask call, result⟩ :: r.history =
          (mine ++ [⟨j, .ask call, result⟩]) ++ r.history := by simp
      rw [split, trace_append, trace_of_foreign foreign, List.append_nil]
      exact ih found

/-- A run of what is left completes the trace around an entry. -/
theorem InTurn.completes (h : InTurn n w r) {new old : History} {op : AppOp} {answer : op.Answer}
    (hr : r.history = new ++ ⟨i, op, answer⟩ :: old) :
    ∃ task, r.tasks[i]? = some task ∧ ∀ after reply, Runs task.rest after reply →
      Runs (task.operation.program n)
        (trace i old ++ ⟨op, answer⟩ :: (trace i new ++ after)) reply := by
  have started : i < r.tasks.length := h.oneAfterAnother.started ⟨i, op, answer⟩ (by simp [hr])
  refine ⟨r.tasks[i], List.getElem?_eq_getElem started, fun after reply rest => ?_⟩
  have reaches := h.traced (List.getElem?_eq_getElem started)
  rw [hr, trace_append, trace_cons] at reaches
  have run := reaches.runs rest
  simpa using run

/-! ### Operations in turn -/

namespace OneAfterAnother

variable {e : Entry} {new old : History}

/-- Where another task's entry stands before it, an entry is the first of its task. -/
theorem foreign_of_head (h : r.OneAfterAnother) {y : Entry} (hr : r.history = new ++ e :: y :: old)
    (other : y.task ≠ e.task) : ∀ x ∈ y :: old, x.task ≠ e.task := by
  intro x hx own
  rcases List.mem_cons.mp hx with rfl | hx
  · exact other own
  · obtain ⟨b, c, rfl⟩ := List.append_of_mem hx
    exact other (h.own_between (b := y :: b) hr own.symm y List.mem_cons_self)

/-- The entries of a task stand together. -/
theorem block (h : r.OneAfterAnother) (hr : r.history = new ++ e :: old) :
    ∃ mine before, old = mine ++ before ∧ (∀ x ∈ mine, x.task = e.task) ∧
      ∀ x ∈ before, x.task ≠ e.task := by
  induction old generalizing new e with
  | nil => exact ⟨[], [], rfl, by simp, by simp⟩
  | cons y old ih =>
    by_cases same : y.task = e.task
    · have hr' : r.history = (new ++ [e]) ++ y :: old := by simp [hr]
      obtain ⟨mine, before, rfl, own, foreign⟩ := ih hr'
      rw [same] at own foreign
      exact ⟨y :: mine, before, rfl, List.forall_mem_cons.mpr ⟨same, own⟩, foreign⟩
    · exact ⟨[], y :: old, rfl, by simp, h.foreign_of_head hr same⟩

/-- What a task has carried out last stands right before its next entry. -/
theorem head_of_trace (h : r.OneAfterAnother) (hr : r.history = new ++ e :: old) {way last : Trace}
    (eq : trace e.task old = way ++ last) :
    ∃ before, old = ofTrace e.task last ++ before ∧ trace e.task before = way := by
  obtain ⟨mine, before, rfl, own, foreign⟩ := h.block hr
  rw [trace_append, trace_of_foreign foreign, List.nil_append] at eq
  refine ⟨ofTrace e.task way ++ before, ?_, ?_⟩
  · rw [← ofTrace_trace own, eq, ofTrace_append, List.append_assoc]
  · rw [trace_append, trace_of_foreign foreign, List.nil_append, trace_ofTrace]

end OneAfterAnother

end Run

end AdminConsole
