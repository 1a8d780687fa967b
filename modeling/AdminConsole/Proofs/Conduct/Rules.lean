import AdminConsole.Proofs.Interleaving

/-!
# The order of entries

What each entry of a history comes after. The session is written right after what it is made from
has been answered or read; the storage is emptied right after a ticket is taken, and the console
leaves right after that; a view is mounted for the only ticket of its task, and once; a handler is
called right after the session has been read, behind a gate that has let the route through
(`Admitted`). `conduct` puts this together, with what an operation may end with. -/

namespace AdminConsole

namespace Entry

def ticket? : Entry → Option Nat
  | ⟨_, .ticket, ticket⟩ => some ticket
  | _ => none

/-- A view that was to be shown: its ticket, and whether it was mounted. -/
def mount? : Entry → Option (Nat × View × Bool)
  | ⟨_, .mount ticket view _, mounted⟩ => some (ticket, view, mounted)
  | _ => none

def context? : Entry → Option RenderContext
  | ⟨_, .dispatch ctx, _⟩ => some ctx
  | _ => none

end Entry

namespace History

/-- The entries of a task. -/
def own (i : Nat) (h : History) : History := h.filter (·.task = i)

def tickets (i : Nat) (h : History) : List Nat := (own i h).filterMap Entry.ticket?

def mounts (i : Nat) (h : History) : List (Nat × View × Bool) := (own i h).filterMap Entry.mount?

/-- What the task has called handlers with. -/
def contexts (i : Nat) (h : History) : List RenderContext := (own i h).filterMap Entry.context?

/-- The task has not asked the backend for anything. -/
def Fresh (i : Nat) (h : History) : Prop := ∀ e ∈ own i h, ¬ e.op.IsAsk

/-- The storage has not been emptied just now. -/
def Settled (h : History) : Prop := ∀ i, h.head? ≠ some ⟨i, .storage .wipe, .ok ()⟩

variable {i : Nat} {h others : History}

@[simp] theorem own_cons (op : AppOp) (answer : op.Answer) :
    own i (⟨i, op, answer⟩ :: h) = ⟨i, op, answer⟩ :: own i h := by
  simp [own]

theorem tickets_cons (op : AppOp) (answer : op.Answer) :
    tickets i (⟨i, op, answer⟩ :: h) = (Entry.ticket? ⟨i, op, answer⟩).toList ++ tickets i h := by
  rw [tickets, own_cons, List.filterMap_cons]
  cases Entry.ticket? ⟨i, op, answer⟩ <;> rfl

theorem mounts_cons (op : AppOp) (answer : op.Answer) :
    mounts i (⟨i, op, answer⟩ :: h) = (Entry.mount? ⟨i, op, answer⟩).toList ++ mounts i h := by
  rw [mounts, own_cons, List.filterMap_cons]
  cases Entry.mount? ⟨i, op, answer⟩ <;> rfl

theorem contexts_cons (op : AppOp) (answer : op.Answer) :
    contexts i (⟨i, op, answer⟩ :: h) = (Entry.context? ⟨i, op, answer⟩).toList ++ contexts i h := by
  rw [contexts, own_cons, List.filterMap_cons]
  cases Entry.context? ⟨i, op, answer⟩ <;> rfl

theorem settled_cons {op : AppOp} (stays : op ≠ .storage .wipe) (answer : op.Answer) :
    Settled (⟨i, op, answer⟩ :: h) := by
  intro j eq
  rw [List.head?_cons] at eq
  obtain ⟨_, rfl, _⟩ := Entry.mk.inj (Option.some.inj eq)
  exact stays rfl

theorem own_append (foreign : ∀ e ∈ others, e.task ≠ i) : own i (others ++ h) = own i h := by
  have : others.filter (·.task = i) = [] := List.filter_eq_nil_iff.mpr fun e he => by
    simpa using foreign e he
  rw [own, List.filter_append, this, List.nil_append, own]

theorem own_of_foreign (foreign : ∀ e ∈ h, e.task ≠ i) : own i h = [] :=
  List.filter_eq_nil_iff.mpr fun e he => by simpa using foreign e he

theorem Fresh.cons (hf : Fresh i h) (op : AppOp) (answer : op.Answer) (own : ¬ op.IsAsk) :
    Fresh i (⟨i, op, answer⟩ :: h) := by
  intro e he
  rw [own_cons] at he
  rcases List.mem_cons.mp he with rfl | he
  · exact own
  · exact hf e he

end History

open History

/-! ### Sessions that are written -/

/-- What the backend's answer makes of the session, if it changes it. -/
def Call.amend : (call : Call) → call.Answer → Session → Option Session
  | .acceptTerms, _ => fun s => if s.acceptedTos then none else some { s with acceptedTos := true }
  | .currentUser, user => fun s =>
    if s.privileges = user.privileges then none else some { s with privileges := user.privileges }
  | .refreshToken, token => fun s => some { s with token := some token }
  | .exchange _, _ | .connections, _ | .latestTerms, _ => fun _ => none

/-- The session that a read answers. -/
def sessionIn : Except StorageError (Option String) → Option Session
  | .ok (some text) => Session.decode? text
  | _ => none

/-- A text that is written as the session: one of new claims, or the stored one amended. -/
inductive SessionText (i : Nat) (text : String) : History → Prop
  | signIn {grant : Grant} {c : Claims} {old : History} (valid : c.validate = .ok ())
    (made : text = (Session.ofClaims c).encode) :
    SessionText i text (⟨i, .ask (.exchange grant), .ok c⟩ :: old)
  | amendment {call : Call} {x : call.Answer} {stored : String} {s s' : Session} {old : History}
    (read : Session.decode? stored = some s) (amended : call.amend x s = some s')
    (made : text = s'.encode) :
    SessionText i text (⟨i, .storage (.read .session), .ok (some stored)⟩ ::
      ⟨i, .ask call, .ok x⟩ :: old)

/-! ### Handlers that are called -/

def IsSignedIn (session : Option Session) : Prop := ∃ s, session = some s ∧ s.isAuthenticated = true

def HasAccepted (session : Option Session) : Prop := ∃ s, session = some s ∧ s.acceptedTos = true

/-- What a task has seen where the gate lets a route through. While it waits for the connections,
the others go on. -/
inductive Admitted (g : Gate) (i : Nat) (route : Route) : History → Prop
  | isPublic {old : History} (h : g.siteMap.isPublic route = true) : Admitted g i route old
  | terms {a : Except StorageError (Option String)} {old : History} (isTos : route = .tos)
    (signedIn : IsSignedIn (sessionIn a)) :
    Admitted g i route (⟨i, .storage (.read .session), a⟩ :: old)
  | cached {a b c : Except StorageError (Option String)} {old : History}
    (signedIn : IsSignedIn (sessionIn a)) (accepted : HasAccepted (sessionIn b)) :
    Admitted g i route (⟨i, .storage (.read .connections), c⟩ ::
      ⟨i, .storage (.read .session), b⟩ :: ⟨i, .storage (.read .session), a⟩ :: old)
  | loaded {a b c : Except StorageError (Option String)} {result : Call.connections.Result}
    {kept others old : History} (signedIn : IsSignedIn (sessionIn a))
    (accepted : HasAccepted (sessionIn b))
    (hk : kept = [] ∨ ∃ text k, kept = [⟨i, .storage (.write .connections text), k⟩])
    (foreign : ∀ e ∈ others, e.task ≠ i) :
    Admitted g i route (kept ++ ⟨i, .ask .connections, result⟩ :: (others ++
      ⟨i, .storage (.read .connections), c⟩ :: ⟨i, .storage (.read .session), b⟩ ::
        ⟨i, .storage (.read .session), a⟩ :: old))

/-- A handler is called with the session as it has just been read. -/
structure Called (n : Navigator) (i : Nat) (ctx : RenderContext) (h : History) : Prop where
  reads : ∃ (a : Except StorageError (Option String)) (old : History),
    h = ⟨i, .storage (.read .session), a⟩ :: old ∧ ctx.session = sessionIn a ∧
      Admitted n.gate i ctx.route old
  not_login : ctx.route ≠ .login
  not_logout : ctx.route ≠ .logout
  ticket : ∃ ticket, tickets i h = [ticket]
  unmounted : mounts i h = []

/-! ### The conduct of the operations -/

/-- What an entry comes after. -/
def Follows (n : Navigator) (o : Operation) : Entry → History → Prop
  | ⟨i, .storage (.write .session text), _⟩, h => SessionText i text h
  | ⟨i, .storage (.write .connections _), _⟩, h =>
    ∃ connections old, h = ⟨i, .ask .connections, .ok connections⟩ :: old
  | ⟨i, .storage (.write _ _), _⟩, h => Fresh i h
  | ⟨i, .storage .wipe, _⟩, h => Fresh i h ∧
    ∃ a ticket old, h = ⟨i, .storage (.read .session), a⟩ :: ⟨i, .ticket, ticket⟩ :: old
  | ⟨_, .ask .refreshToken, _⟩, _ => o = .refreshToken
  | ⟨i, .dispatch ctx, _⟩, h => Called n i ctx h
  | ⟨i, .mount ticket view _, _⟩, h => tickets i h = [ticket] ∧ mounts i h = [] ∧
    ∀ ctx ∈ contexts i h, n.registry.missing ctx.route ctx.session ≠ [] →
      view = .denied n.registry.helpLink
  | _, _ => True

/-- The console leaves right after the storage is emptied, and does nothing else then. -/
def guard (n : Navigator) (o : Operation) : Entry → History → Prop
  | ⟨i, .leave, _⟩, h => h.head? = some ⟨i, .storage .wipe, .ok ()⟩
  | e, h => Settled h ∧ Follows n o e h

/-- A navigation that ends by showing a view has mounted it; one that a later one has taken over
tried to; any other has not. -/
def Ended : Navigator.Result → List (Nat × View × Bool) → Prop
  | .ok (.rendered view), ms => ∃ ticket, ms = [(ticket, view, true)]
  | .ok (.loginInitiated (.display view)), ms => ∃ ticket, ms = [(ticket, view, true)]
  | .ok .superseded, ms => ∃ ticket view, ms = [(ticket, view, false)]
  | _, ms => ms = []

def conduct (n : Navigator) : Discipline where
  settled := Settled
  guard := guard n
  ending _ i
    | .navigation result, h => Ended result (mounts i h)
    | .token _, h => mounts i h = []

end AdminConsole
