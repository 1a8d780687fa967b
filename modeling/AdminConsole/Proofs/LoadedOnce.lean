import AdminConsole.Proofs.Arrival
import AdminConsole.Proofs.Connection
import AdminConsole.Proofs.Enactment
import AdminConsole.Proofs.OwnTrace
import AdminConsole.Proofs.TermsGate

/-!
# The connections are loaded once

Where operations follow one another, the connections are asked for only behind a session that is
cleared, and once they have been answered, nobody asks again until a logout succeeds. Where they are
required, no handler is called without them, and a navigation that does not get them leaves
everything as it was (`loads_once`). -/

namespace AdminConsole

open Program History

/-! ### Programs that ask -/

/-- Nothing of a kind is carried out. -/
def Avoids (P : AppOp → Prop) (es : Trace) : Prop := ∀ e ∈ es, ¬ P e.op

section avoids

variable {P : AppOp → Prop} {before after : Trace}

theorem avoids_nil : Avoids P [] := fun _ he => absurd he List.not_mem_nil

theorem Avoids.cons {e : Answered AppOp.Answer} (first : ¬ P e.op) (h : Avoids P after) :
    Avoids P (e :: after) :=
  List.forall_mem_cons.mpr ⟨first, h⟩

theorem Avoids.append (first : Avoids P before) (next : Avoids P after) :
    Avoids P (before ++ after) :=
  forall_mem_append (P := fun op => ¬ P op) first next

/-- What is carried out only once stands in one place. -/
theorem Avoids.eq_of_append_cons {l u : Trace} {x y : Answered AppOp.Answer} (hl : Avoids P l)
    (hu : Avoids P u) (eq : l ++ x :: u = before ++ y :: after) (hy : P y.op) :
    before = l ∧ y = x ∧ after = u := by
  rcases List.append_eq_append_iff.mp eq with ⟨mid, rfl, tail⟩ | ⟨mid, rfl, tail⟩
  · cases mid with
    | nil =>
      obtain ⟨rfl, rfl⟩ := List.cons.inj tail
      exact ⟨List.append_nil l, rfl, rfl⟩
    | cons z mid =>
      obtain ⟨rfl, rfl⟩ := List.cons.inj tail
      exact absurd hy (hu y (by simp))
  · cases mid with
    | nil =>
      obtain ⟨rfl, rfl⟩ := List.cons.inj tail
      exact ⟨(List.append_nil before).symm, rfl, rfl⟩
    | cons z mid =>
      obtain ⟨rfl, rfl⟩ := List.cons.inj tail
      exact absurd hy (hl y (by simp))

end avoids

/-- The connections are asked for. -/
def AppOp.Inquires (op : AppOp) : Prop := op = .ask .connections

/-- A handler is called. -/
def AppOp.Dispatches (op : AppOp) : Prop := ∃ ctx, op = .dispatch ctx

/-- Nothing is kept as the connections but a list of them. -/
def AppOp.Encodes : AppOp → Prop
  | storage (.write .connections text) => ∃ connections, text = Connection.encodeList connections
  | _ => True

theorem AppOp.IsAloof.not_inquires {op : AppOp} (h : op.IsAloof) : ¬ op.Inquires := by
  rintro rfl
  exact h rfl

theorem AppOp.not_dispatches_storage (op : StorageOp) : ¬ (AppOp.storage op).Dispatches := by
  rintro ⟨ctx, eq⟩
  exact nomatch eq

theorem AppOp.IsAloof.not_dispatches {op : AppOp} (h : op.IsAloof) : ¬ op.Dispatches := by
  rintro ⟨ctx, rfl⟩
  exact h

theorem AppOp.IsAloof.encodes {op : AppOp} (h : op.IsAloof) : op.Encodes := by
  cases op with
  | storage op =>
    cases op with
    | write slot text => cases slot <;> trivial
    | read | wipe => trivial
  | _ => trivial

namespace Gate

/-- What comes after the connections have been asked for. -/
inductive Sequel (g : Gate) : Call.connections.Result → Trace → Navigator.Result → Prop
  | kept {connections : List Connection} {k : Except StorageError Unit} {rest : Trace}
    {result : Navigator.Result} :
    Sequel g (.ok connections)
      (⟨.storage (.write .connections (Connection.encodeList connections)), k⟩ :: rest) result
  | goesOn {e : BackendError} {rest : Trace} {result : Navigator.Result}
    (policy : g.policy ≠ .required) : Sequel g (.error e) rest result
  | aborts {e : BackendError} (policy : g.policy = .required) : Sequel g (.error e) [] (.ok .aborted)

theorem Passes.avoids_dispatches {g : Gate} {route : Route} {es : Trace} {d : Decision}
    (h : g.Passes route es d) : Avoids AppOp.Dispatches es := by
  cases h <;> simp [Avoids, AppOp.Dispatches]

theorem avoids_looks {P : AppOp → Prop} (unread : ∀ slot, ¬ P (.storage (.read slot)))
    (a b c : Except StorageError (Option String)) : Avoids P (looks a b c) :=
  .cons (unread _) (.cons (unread _) (.cons (unread _) avoids_nil))

end Gate

section programs

variable {n : Navigator} {o : Operation} {route : Route} {es before after : Trace}
  {result : Navigator.Result} {reply : Reply}

/-- Where the connections are asked for, it is once, and the route warrants it. -/
theorem Arrives.asks (h : Arrives n route es result) : Avoids AppOp.Inquires es ∨
    ∃ a b c x after, es = Gate.looks a b c ++ ⟨.ask .connections, x⟩ :: after ∧
      n.gate.Warrants route a b ∧ connectionsIn c = none ∧ n.gate.Sequel x after result ∧
      Avoids AppOp.Inquires after := by
  cases h with
  | aloof aloof => exact .inl fun e he => (aloof e he).not_inquires
  | aborted passes =>
    cases passes with
    | aborted warrants missing policy =>
      exact .inr ⟨_, _, _, _, [], rfl, warrants, missing, .aborts policy, avoids_nil⟩
  | @shown passed rest x ctx _ passes called aloof =>
    have calls : Avoids AppOp.Inquires
        (⟨.storage (.read .session), x⟩ :: ⟨.dispatch ctx, ()⟩ :: rest) :=
      .cons nofun (.cons nofun fun e he => (aloof e he).not_inquires)
    cases passes with
    | isPublic => exact .inl calls
    | terms => exact .inl (.cons nofun calls)
    | cached => exact .inl ((Gate.avoids_looks (fun _ => nofun) _ _ _).append calls)
    | loaded k warrants missing =>
      exact .inr ⟨_, _, _, _, _, rfl, warrants, missing, .kept, .cons nofun calls⟩
    | failed warrants missing policy =>
      exact .inr ⟨_, _, _, _, _, rfl, warrants, missing, .goesOn policy, calls⟩

/-- An operation has come to a route that warrants the connections, and has found none kept. -/
inductive Approaches (n : Navigator) (o : Operation) : Trace → Prop
  | mk {p : App Navigator.Result} {way : Trace} {ticket left : Nat} {origin : String}
    {location : Location} {a b c : Except StorageError (Option String)}
    (program : o.program n = .navigation <$> p) (still : ∀ e ∈ way, e.op.IsStill)
    (comes : Reaches p way (n.followWithin ticket origin left location))
    (warrants : n.gate.Warrants (n.siteMap.resolve location.path) a b)
    (missing : connectionsIn c = none) : Approaches n o (way ++ Gate.looks a b c)

theorem Approaches.still (h : Approaches n o es) : ∀ e ∈ es, e.op.IsStill := by
  cases h with
  | mk _ still =>
    refine forall_mem_append still ?_
    simp

/-- An operation asks for the connections once, where it has come to a route that warrants them. -/
theorem asks_of_runs (modest : n.registry.IsModest) {x : Call.connections.Result}
    (h : Runs (o.program n) (before ++ ⟨.ask .connections, x⟩ :: after) reply) :
    Approaches n o before ∧ ∃ result, reply = .navigation result ∧ n.gate.Sequel x after result ∧
      Avoids AppOp.Inquires after := by
  generalize eq : before ++ (⟨.ask .connections, x⟩ : Answered AppOp.Answer) :: after = es at h
  have asked : (⟨.ask .connections, x⟩ : Answered AppOp.Answer) ∈ es := by simp [← eq]
  rcases course_of_runs modest h with aloof | ⟨p, result, program, rfl, course⟩
  · exact absurd rfl (aloof _ asked).not_inquires
  cases course with
  | aloof aloof => exact absurd rfl (aloof _ asked).not_inquires
  | @arrives way rest _ _ _ _ _ still comes arrives =>
    have unasked : Avoids AppOp.Inquires way := fun e he => (still e he).isAloof.not_inquires
    rcases arrives.asks with none | ⟨a, b, c, y, tail, rfl, warrants, missing, sequel, once⟩
    · exact absurd rfl (unasked.append none _ asked)
    · rw [← List.append_assoc] at eq
      obtain ⟨rfl, same, rfl⟩ := Avoids.eq_of_append_cons
        (unasked.append (Gate.avoids_looks (fun _ => nofun) a b c)) once eq.symm rfl
      obtain ⟨-, same⟩ := Answered.mk.inj same
      obtain rfl := eq_of_heq same
      exact ⟨.mk program still comes warrants missing, result, rfl, sequel, once⟩

/-- Nothing but a list of connections is kept as the connections. -/
theorem encodes_of_runs (modest : n.registry.IsModest) (h : Runs (o.program n) es reply) :
    ∀ e ∈ es, e.op.Encodes := by
  have passed {route : Route} {d : Gate.Decision} {es : Trace}
      (h : n.gate.Passes route es d) : ∀ e ∈ es, e.op.Encodes := by
    cases h <;> simp [AppOp.Encodes]
  rcases course_of_runs modest h with aloof | ⟨p, result, _, _, course⟩
  · exact fun e he => (aloof e he).encodes
  cases course with
  | aloof aloof => exact fun e he => (aloof e he).encodes
  | arrives still _ arrives =>
    refine forall_mem_append (fun e he => (still e he).isAloof.encodes) ?_
    cases arrives with
    | aloof aloof => exact fun e he => (aloof e he).encodes
    | aborted passes => exact passed passes
    | shown passes _ aloof =>
      refine forall_mem_append (passed passes) (List.forall_mem_cons.mpr ⟨trivial, ?_⟩)
      exact List.forall_mem_cons.mpr ⟨trivial, fun e he => (aloof e he).encodes⟩

/-- A handler is called behind the gate, with the session as it is read after that. -/
theorem passes_of_dispatch (modest : n.registry.IsModest) {ctx : RenderContext}
    (h : Runs (o.program n) (before ++ ⟨.dispatch ctx, ()⟩ :: after) reply) :
    ∃ way passed x, before = way ++ passed ++ [⟨.storage (.read .session), x⟩] ∧
      n.gate.Passes ctx.route passed .dispatch := by
  generalize eq : before ++ (⟨.dispatch ctx, ()⟩ : Answered AppOp.Answer) :: after = es at h
  have called : (⟨.dispatch ctx, ()⟩ : Answered AppOp.Answer) ∈ es := by simp [← eq]
  rcases course_of_runs modest h with aloof | ⟨p, result, program, rfl, course⟩
  · exact absurd ⟨ctx, rfl⟩ (aloof _ called).not_dispatches
  cases course with
  | aloof aloof => exact absurd ⟨ctx, rfl⟩ (aloof _ called).not_dispatches
  | @arrives way rest _ _ _ _ _ still comes arrives =>
    have quiet : Avoids AppOp.Dispatches way := fun e he => (still e he).isAloof.not_dispatches
    cases arrives with
    | aloof aloof =>
      have none : Avoids AppOp.Dispatches rest := fun e he => (aloof e he).not_dispatches
      exact absurd ⟨ctx, rfl⟩ (quiet.append none _ called)
    | aborted passes =>
      have none := passes.avoids_dispatches
      exact absurd ⟨ctx, rfl⟩ (quiet.append none _ called)
    | @shown passed rest x ctx' _ passes route aloof =>
      have none : Avoids AppOp.Dispatches rest := fun e he => (aloof e he).not_dispatches
      have first : Avoids AppOp.Dispatches (way ++ passed ++ [⟨.storage (.read .session), x⟩]) :=
        (quiet.append passes.avoids_dispatches).append
          (.cons (AppOp.not_dispatches_storage _) avoids_nil)
      have split : way ++ (passed ++ ⟨.storage (.read .session), x⟩ ::
          ⟨.dispatch ctx', ()⟩ :: rest) =
            way ++ passed ++ [⟨.storage (.read .session), x⟩] ++ ⟨.dispatch ctx', ()⟩ :: rest := by
        simp
      rw [split] at eq
      obtain ⟨rfl, same, -⟩ := first.eq_of_append_cons none eq.symm ⟨ctx, rfl⟩
      obtain ⟨same, -⟩ := Answered.mk.inj same
      obtain rfl := AppOp.dispatch.inj same
      exact ⟨way, passed, x, rfl, route ▸ passes⟩

end programs

/-! ### What is kept -/

/-- The connections that are kept, if they can be read. -/
def World.connections? (w : World) : Option (List Connection) :=
  connectionsIn (.ok (w.entries.get? Slot.connections.key))

/-- The storage did not do what it was asked for. -/
def Entry.Failed : Entry → Prop
  | ⟨_, .storage (.read _), .error _⟩ => True
  | ⟨_, .storage (.write _ _), .error _⟩ => True
  | ⟨_, .storage .wipe, .error _⟩ => True
  | _ => False

/-- Where the console is and what is kept as the connections are the same. -/
def World.Alike (w w' : World) : Prop :=
  w.tab.location = w'.tab.location ∧
    w.entries.get? Slot.connections.key = w'.entries.get? Slot.connections.key

section worlds

variable {w : World} {i : Nat} {new old : History}

theorem after_read (slot : Slot) (a : Except StorageError (Option String)) :
    w.after ⟨i, .storage (.read slot), a⟩ = w := by
  cases a <;> rfl

theorem connections?_of_read {text : Option String}
    (allowed : w.Allows ⟨i, .storage (.read .connections), .ok text⟩) :
    w.connections? = connectionsIn (.ok text) := by
  have there : text = w.entries.get? Slot.connections.key := allowed
  rw [there]
  rfl

theorem connectionsIn_encodeList (connections : List Connection) :
    connectionsIn (.ok (some (Connection.encodeList connections))) = some connections := by
  rw [connectionsIn, noteIn, Text.given?, Option.filter_some, Connection.isAllBlank_encodeList,
    Bool.not_false, if_pos rfl, Option.bind_some, Connection.decodeList?_encodeList]

/-- Connections that have been kept can be read until the storage is emptied. -/
theorem isSome_connections?_of_wrote (old : History) {connections : List Connection}
    (wrote : ⟨i, .storage (.write .connections (Connection.encodeList connections)), .ok ()⟩ ∈ new)
    (encodes : ∀ e ∈ new, e.op.Encodes) (unwiped : ∀ e ∈ new, ¬ e.Wiped) :
    (w.replay (new ++ old)).connections?.isSome := by
  induction new with
  | nil => simp at wrote
  | cons e new ih =>
    rw [List.forall_mem_cons] at encodes unwiped
    by_cases now : e.Wrote .connections
    · obtain ⟨j, text, rfl⟩ := now
      obtain ⟨kept, rfl⟩ := encodes.1
      simp only [List.cons_append, World.replay, World.after, World.connections?,
        TextMap.get?_insert, if_true, connectionsIn_encodeList, Option.isSome_some]
    · have older := (List.mem_cons.mp wrote).resolve_left fun eq => now ⟨_, _, eq.symm⟩
      rw [List.cons_append, World.replay, World.connections?, get?_after .connections now unwiped.1]
      exact ih older encodes.2 unwiped.2

/-- Where connections that were kept are not found, the storage has failed or been emptied. -/
theorem exists_failed_or_wiped {j : Nat} {connections : List Connection}
    {c : Except StorageError (Option String)} {k : Except StorageError Unit}
    (allowed : (w.replay (new ++ old)).Allows ⟨j, .storage (.read .connections), c⟩)
    (missing : connectionsIn c = none)
    (wrote : ⟨i, .storage (.write .connections (Connection.encodeList connections)), k⟩ ∈ new)
    (encodes : ∀ e ∈ new, e.op.Encodes) :
    ∃ e ∈ ⟨j, .storage (.read .connections), c⟩ :: new, e.Failed ∨ e.Wiped := by
  cases c with
  | error e => exact ⟨_, List.mem_cons_self, .inl trivial⟩
  | ok text =>
    cases k with
    | error e => exact ⟨_, List.mem_cons_of_mem _ wrote, .inl trivial⟩
    | ok u =>
      by_cases wiped : ∃ e ∈ new, e.Wiped
      · obtain ⟨e, he, wiped⟩ := wiped
        exact ⟨e, List.mem_cons_of_mem _ he, .inr wiped⟩
      · have unwiped : ∀ e ∈ new, ¬ e.Wiped := fun e he wiped' => wiped ⟨e, he, wiped'⟩
        have kept := isSome_connections?_of_wrote (w := w) old wrote encodes unwiped
        rw [connections?_of_read allowed, missing] at kept
        exact nomatch kept

theorem alike_after {e : Entry} (h : e.op.IsStill ∨ e.op.Inquires) : (w.after e).Alike w := by
  obtain ⟨j, op, a⟩ := e
  rcases h with still | rfl
  · cases op with
    | storage op =>
      cases op with
      | read slot =>
        rw [after_read]
        exact ⟨rfl, rfl⟩
      | write slot text =>
        have unwritten : ¬ Entry.Wrote ⟨j, .storage (.write slot text), a⟩ .connections := by
          rintro ⟨_, _, eq⟩
          obtain ⟨-, same, -⟩ := Entry.mk.inj eq
          obtain ⟨rfl, -⟩ := StorageOp.write.inj (AppOp.storage.inj same)
          exact still rfl
        exact ⟨by cases a <;> rfl, get?_after .connections unwritten nofun⟩
      | wipe => exact absurd still not_false
    | ask | notify | ticket | location => exact ⟨rfl, rfl⟩
    | dispatch | mount | leave => exact absurd still not_false
  · exact ⟨rfl, rfl⟩

theorem alike_replay (h : ∀ e ∈ new, e.op.IsStill ∨ e.op.Inquires) :
    (w.replay (new ++ old)).Alike (w.replay old) := by
  induction new with
  | nil => exact ⟨rfl, rfl⟩
  | cons e new ih =>
    rw [List.forall_mem_cons] at h
    obtain ⟨place, kept⟩ := alike_after (w := w.replay (new ++ old)) h.1
    obtain ⟨place', kept'⟩ := ih h.2
    exact ⟨place.trans place', kept.trans kept'⟩

end worlds

/-! ### Runs -/

namespace Run

/-- A navigation that asks for the connections has come to a route that warrants them, with a
session that is cleared. -/
structure Warranted (n : Navigator) (w : World) (r : Run) (i : Nat) (old : History) : Prop where
  route : ∃ o, r.operation? i = some o ∧ Approaches n o (trace i old)
  session : ∃ s, (w.replay old).session? = some s ∧ s.IsCleared

/-- A navigation that has been given up has left everything as it was before it. -/
structure GivenUp (w : World) (r : Run) (i : Nat) : Prop where
  ended : r.outcome? i = some .aborted
  unmounted : mounts i r.history = []
  unchanged : ∃ later mine earlier : History, r.history = later ++ (mine ++ earlier) ∧
    (∀ e ∈ mine, e.task = i) ∧ (∀ e ∈ later ++ earlier, e.task ≠ i) ∧
      (w.replay (mine ++ earlier)).Alike (w.replay earlier)

/-- How the connections are loaded and what depends on them. -/
structure LoadsOnce (n : Navigator) (w : World) (r : Run) : Prop where
  /-- Once they have been answered, they are asked for only after a logout, or if the storage has
  failed. -/
  once {new mid old : History} {i j : Nat} {connections : List Connection}
    {x : Call.connections.Result} : r.history = new ++ ⟨j, .ask .connections, x⟩ ::
      (mid ++ ⟨i, .ask .connections, .ok connections⟩ :: old) → ∃ e ∈ mid, e.Failed ∨ e.Wiped
  warranted {new old : History} {i : Nat} {x : Call.connections.Result} :
    r.history = new ++ ⟨i, .ask .connections, x⟩ :: old → Warranted n w r i old
  /-- A handler is called only with the connections there, or loaded by its own navigation. -/
  loaded {new old : History} {i : Nat} {ctx : RenderContext} : n.policy = .required →
    r.history = new ++ ⟨i, .dispatch ctx, ()⟩ :: old → n.siteMap.isPublic ctx.route = false →
      ctx.route ≠ .tos → (w.replay old).connections?.isSome ∨
        ∃ connections, ⟨i, .ask .connections, .ok connections⟩ ∈ old
  givenUp {new old : History} {i : Nat} {e : BackendError} : n.policy = .required →
    r.history = new ++ ⟨i, .ask .connections, .error e⟩ :: old → GivenUp w r i

section runs

variable {n : Navigator} {w : World} {r : Run} {i j : Nat} {new mid old : History}

theorem operation?_eq {task : Task} (found : r.tasks[i]? = some task) :
    r.operation? i = some task.operation := by
  rw [operation?, found]
  rfl

/-- What a task has read last stands at the head of the history. -/
theorem OneAfterAnother.looks_of_trace (h : r.OneAfterAnother) {e : Entry}
    (hr : r.history = new ++ e :: old) {way : Trace} {a b c : Except StorageError (Option String)}
    (seen : trace e.task old = way ++ Gate.looks a b c) :
    ∃ before, old = ⟨e.task, .storage (.read .connections), c⟩ ::
      ⟨e.task, .storage (.read .session), b⟩ :: ⟨e.task, .storage (.read .session), a⟩ :: before ∧
        trace e.task before = way :=
  h.head_of_trace hr seen

theorem InTurn.encodes (modest : n.registry.IsModest) (h : InTurn n w r) :
    ∀ e ∈ r.history, e.op.Encodes := by
  intro ⟨i, op, answer⟩ he
  obtain ⟨new, old, hr⟩ := List.append_of_mem he
  obtain ⟨task, _, completes⟩ := h.completes hr
  obtain ⟨after, reply, rest⟩ := exists_run task.rest
  exact encodes_of_runs modest (completes after reply rest) ⟨op, answer⟩ (by simp)

theorem InTurn.approaches (modest : n.registry.IsModest) (h : InTurn n w r)
    {x : Call.connections.Result} (hr : r.history = new ++ ⟨i, .ask .connections, x⟩ :: old) :
    ∃ o, r.operation? i = some o ∧ Approaches n o (trace i old) := by
  obtain ⟨task, found, completes⟩ := h.completes hr
  obtain ⟨after, reply, rest⟩ := exists_run task.rest
  exact ⟨_, operation?_eq found, (asks_of_runs modest (completes after reply rest)).1⟩

theorem InTurn.warranted (modest : n.registry.IsModest) (h : InTurn n w r)
    {x : Call.connections.Result} (hr : r.history = new ++ ⟨i, .ask .connections, x⟩ :: old) :
    Warranted n w r i old := by
  have route := h.approaches modest hr
  refine ⟨route, ?_⟩
  obtain ⟨o, _, approaches⟩ := route
  generalize seen : trace i old = before at approaches
  cases approaches with
  | mk _ _ _ warrants missing =>
    obtain ⟨before, rfl, _⟩ := h.oneAfterAnother.looks_of_trace hr seen
    have hc := h.reachable.consistent
    rw [hr] at hc
    exact cleared_of_reads hc.of_append.2 warrants.signedIn warrants.accepted

/-- A task that others have come after is over. -/
theorem OneAfterAnother.over_of_lt (h : r.OneAfterAnother) {task : Task}
    (found : r.tasks[i]? = some task) {e : Entry} (he : e ∈ r.history) (later : i < e.task) :
    ∃ reply, task.rest = .done reply := by
  have started := h.started e he
  exact (h.finished i task found).resolve_right (by omega)

/-- Where the question of a later task comes after one that was answered, the answer has been kept
in between, if the storage could do it. -/
theorem InTurn.kept (modest : n.registry.IsModest) (h : InTurn n w r)
    {connections : List Connection} {e : Entry} (other : e.task ≠ i)
    (hr : r.history = new ++ e :: (mid ++ ⟨i, .ask .connections, .ok connections⟩ :: old)) :
    ∃ k, (⟨i, .storage (.write .connections (Connection.encodeList connections)), k⟩ : Entry) ∈
      mid := by
  have turns := h.oneAfterAnother
  have ordered := turns.ordered
  rw [hr, List.pairwise_append, List.pairwise_cons] at ordered
  obtain ⟨-, ⟨below, -⟩, above⟩ := ordered
  have later : i < e.task :=
    Nat.lt_of_le_of_ne (below ⟨i, .ask .connections, .ok connections⟩ (by simp)) other.symm
  have split : new ++ e :: (mid ++ ⟨i, .ask .connections, .ok connections⟩ :: old) =
      (new ++ e :: mid) ++ ⟨i, .ask .connections, .ok connections⟩ :: old := by simp
  obtain ⟨task, found, completes⟩ := h.completes (hr.trans split)
  obtain ⟨reply, done⟩ := turns.over_of_lt found (by simp [hr]) later
  have run := completes [] reply (done ▸ .done reply)
  have newer : trace i (new ++ [e]) = [] := by
    refine trace_of_foreign fun x hx => ?_
    rcases List.mem_append.mp hx with hx | hx
    · have above := above x hx e List.mem_cons_self
      omega
    · exact List.mem_singleton.mp hx ▸ other
  have own : trace i (new ++ e :: mid) ++ [] = trace i mid := by
    rw [List.append_nil, List.append_cons, trace_append, newer, List.append_nil]
  rw [own] at run
  obtain ⟨-, result, -, sequel, -⟩ := asks_of_runs modest run
  generalize kept : trace i mid = after at sequel
  cases sequel with
  | @kept _ k rest _ =>
    have there : (⟨.storage (.write .connections (Connection.encodeList connections)), k⟩ :
        Program.Answered AppOp.Answer) ∈ trace i mid := by simp [kept]
    exact ⟨k, mem_of_mem_trace there⟩

theorem InTurn.once (modest : n.registry.IsModest) (h : InTurn n w r)
    {connections : List Connection} {x : Call.connections.Result}
    (hr : r.history = new ++ ⟨j, .ask .connections, x⟩ ::
      (mid ++ ⟨i, .ask .connections, .ok connections⟩ :: old)) :
    ∃ e ∈ mid, e.Failed ∨ e.Wiped := by
  have turns := h.oneAfterAnother
  by_cases same : j = i
  · -- One navigation asks only once.
    subst same
    have split : new ++ ⟨j, .ask .connections, x⟩ ::
        (mid ++ ⟨j, .ask .connections, .ok connections⟩ :: old) =
          (new ++ ⟨j, .ask .connections, x⟩ :: mid) ++
            ⟨j, .ask .connections, .ok connections⟩ :: old := by simp
    obtain ⟨task, _, completes⟩ := h.completes (hr.trans split)
    obtain ⟨after, reply, rest⟩ := exists_run task.rest
    obtain ⟨-, _, -, -, once⟩ := asks_of_runs modest (completes after reply rest)
    rw [trace_append, trace_cons] at once
    exact absurd rfl (once ⟨.ask .connections, x⟩ (by simp))
  obtain ⟨k, wrote⟩ := h.kept modest same hr
  obtain ⟨o, _, approaches⟩ := h.approaches modest hr
  generalize seen : trace j (mid ++ _) = before at approaches
  cases approaches with
  | mk _ _ _ _ missing =>
    -- The later navigation has looked for the connections right before.
    obtain ⟨before, eq, -⟩ := turns.looks_of_trace hr seen
    cases mid with
    | nil => exact nomatch eq
    | cons e mid =>
      obtain ⟨rfl, -⟩ := List.cons.inj eq
      have hc := h.reachable.consistent
      rw [hr] at hc
      have wrote := (List.mem_cons.mp wrote).resolve_left nofun
      exact exists_failed_or_wiped hc.of_append.2.1 missing wrote fun e he =>
        h.encodes modest e (by simp [hr, he])

theorem InTurn.loaded (modest : n.registry.IsModest) (h : InTurn n w r)
    (policy : n.policy = .required) {ctx : RenderContext}
    (hr : r.history = new ++ ⟨i, .dispatch ctx, ()⟩ :: old)
    (guarded : n.siteMap.isPublic ctx.route = false) (other : ctx.route ≠ .tos) :
    (w.replay old).connections?.isSome ∨
      ∃ connections, ⟨i, .ask .connections, .ok connections⟩ ∈ old := by
  obtain ⟨task, _, completes⟩ := h.completes hr
  obtain ⟨after, reply, rest⟩ := exists_run task.rest
  obtain ⟨way, passed, x, seen, passes⟩ := passes_of_dispatch modest (completes after reply rest)
  cases passes with
  | isPublic isPublic => exact absurd isPublic (Bool.eq_false_iff.mp guarded)
  | terms isTos => exact absurd isTos other
  | failed _ _ lax => exact absurd policy lax
  | @loaded a b c connections k =>
    have there : (⟨.ask .connections, .ok connections⟩ : Program.Answered AppOp.Answer) ∈
        trace i old := by
      simp [seen]
    exact .inr ⟨connections, mem_of_mem_trace there⟩
  | @cached a b c _ there =>
    rw [List.append_assoc] at seen
    obtain ⟨before, rfl, -⟩ := h.oneAfterAnother.head_of_trace hr seen
    have hc := h.reachable.consistent
    rw [hr] at hc
    cases c with
    | error e => exact nomatch there
    | ok text =>
      have read := connections?_of_read hc.of_append.2.2.1
      refine .inl ?_
      change ((w.replay (_ :: _ :: _)).connections?).isSome = true
      rw [World.replay, after_read, World.replay, after_read, read]
      exact there

theorem InTurn.givenUp (modest : n.registry.IsModest) (h : InTurn n w r)
    (policy : n.policy = .required) {e : BackendError}
    (hr : r.history = new ++ ⟨i, .ask .connections, .error e⟩ :: old) : GivenUp w r i := by
  obtain ⟨task, found, completes⟩ := h.completes hr
  have ends {after : Trace} {reply : Reply} (rest : Runs task.rest after reply) :
      trace i new ++ after = [] ∧ reply = .navigation (.ok .aborted) := by
    obtain ⟨-, result, rfl, sequel, -⟩ := asks_of_runs modest (completes after reply rest)
    generalize trace i new ++ after = later at sequel
    cases sequel with
    | goesOn lax => exact absurd policy lax
    | aborts => exact ⟨rfl, rfl⟩
  obtain ⟨reply, done⟩ := ended_of_runs fun after reply rest =>
    (List.append_eq_nil_iff.mp (ends rest).1).2
  obtain ⟨nothing, rfl⟩ := ends (done ▸ Runs.done reply)
  rw [List.append_nil] at nothing
  have newer : ∀ x ∈ new, x.task ≠ i := by
    rintro x hx rfl
    exact List.ne_nil_of_mem (mem_trace hx) nothing
  -- The task has done still things, and asked in the end.
  have unmoved : ∀ x ∈ r.history, x.task = i → x.op.IsStill ∨ x.op.Inquires := by
    rintro x hx rfl
    obtain ⟨o, _, approaches⟩ := h.approaches modest hr
    have there := mem_trace hx
    rw [hr, trace_append, nothing, List.append_nil, trace_cons] at there
    rcases List.mem_append.mp there with there | there
    · exact .inl (approaches.still _ there)
    · exact .inr (congrArg Program.Answered.op (List.mem_singleton.mp there))
  refine ⟨?_, ?_, ?_⟩
  · obtain ⟨o, rest⟩ := task
    obtain rfl : rest = .done (.navigation (.ok .aborted)) := done
    rw [outcome?, found]
  · refine List.eq_nil_iff_forall_not_mem.mpr fun ⟨t, v, shown⟩ tried => ?_
    obtain ⟨l, there⟩ := mem_mounts.mp tried
    rcases unmoved _ there rfl with still | asks
    · exact still
    · exact nomatch asks
  · obtain ⟨mine, earlier, rfl, own, foreign⟩ := h.oneAfterAnother.block hr
    have own : ∀ x ∈ ⟨i, .ask .connections, .error e⟩ :: mine, x.task = i :=
      List.forall_mem_cons.mpr ⟨rfl, own⟩
    refine ⟨new, _, earlier, hr, own, fun x hx => ?_, alike_replay fun x hx => ?_⟩
    · exact (List.mem_append.mp hx).elim (newer x) (foreign x)
    · have there : x ∈ r.history := hr ▸ List.mem_append_right new (List.mem_append_left earlier hx)
      exact unmoved x there (own x hx)

/-- **The connections are loaded once, and never left out where they are required.** -/
theorem loads_once (modest : n.registry.IsModest) (h : InTurn n w r) : LoadsOnce n w r where
  once hr := h.once modest hr
  warranted hr := h.warranted modest hr
  loaded policy hr guarded other := h.loaded modest policy hr guarded other
  givenUp policy hr := h.givenUp modest policy hr

end runs

/-! ### A user who has to wait for the connections -/

/-- A console that requires the connections. -/
def strict : Navigator := { Navigator.usual with policy := .required }

/-- The connections that are kept are blank. -/
def blankWorld : World :=
  .start ((TextMap.empty.insert Slot.session.key (Session.ofClaims firstUser).encode).insert
    Slot.connections.key " ")

/-- The profile is asked for while the backend is out of reach. -/
def refused : Run :=
  (Run.empty.begin strict blankWorld (.navigateTo .userProfile)).answer blankWorld 0 fun _ =>
    .error (.network "offline")

/-- It is asked for again, and there are no connections. -/
def admitted : Run :=
  ((refused.begin strict blankWorld (.navigateTo .userProfile)).answer blankWorld 1
    (backendOf firstUser)).answer blankWorld 1 (backendOf firstUser)

/-- The next route does not ask for them. -/
def unasked : Run := admitted.begin strict blankWorld (.navigateTo .userManagement)

theorem loads_once_unasked :
    unasked.outcome? 0 = some .aborted ∧
      unasked.outcome? 1 = some (.rendered (.profile "first@x.org" (some "first@x.org") .empty)) ∧
        unasked.outcome? 2 = some (.rendered (.page .userManagement)) ∧
          LoadsOnce strict blankWorld unasked := by
  obtain ⟨idle, idle', outcomes⟩ : refused.Idle ∧ admitted.Idle ∧
      unasked.outcome? 0 = some .aborted ∧
      unasked.outcome? 1 = some (.rendered (.profile "first@x.org" (some "first@x.org") .empty)) ∧
        unasked.outcome? 2 = some (.rendered (.page .userManagement)) := by decide +kernel
  have first : InTurn strict blankWorld refused :=
    (InTurn.empty.begin (by simp [Idle, empty]) _).answer 0 _
  have second : InTurn strict blankWorld admitted := ((first.begin idle _).answer 1 _).answer 1 _
  have third : InTurn strict blankWorld unasked := second.begin idle' _
  have modest : strict.registry.IsModest := Registry.isModest_standard _ _
  exact ⟨outcomes.1, outcomes.2.1, outcomes.2.2, loads_once modest third⟩

end Run

end AdminConsole
