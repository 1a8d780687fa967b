import AdminConsole.Proofs.Conduct.Gate

/-!
# Passing the gate

What the gate carries out for each decision, with any answers. It reads the session twice before it
looks for the connections, and asks for them only where none are kept (`Gate.passes_of_check`). -/

namespace AdminConsole

open Program

/-- The connections that a read answers. -/
def connectionsIn (a : Except StorageError (Option String)) : Option (List Connection) :=
  (noteIn a).bind Connection.decodeList?

/-! ### Reads -/

section reads

variable {α β : Type} {es : Trace}

theorem App.lift_bind (p : Storage α) (f : α → Storage β) :
    (liftM (p >>= f) : App β) = liftM p >>= fun a => liftM (f a) :=
  runIn_bind (m := App) (fun op => .step (.storage op) .done) p f

theorem App.lift_map (f : α → β) (p : Storage α) : (liftM (f <$> p) : App β) = f <$> liftM p := by
  rw [map_eq_pure_bind, map_eq_pure_bind, lift_bind]
  rfl

/-- A part that makes something of what the storage answers once. -/
theorem runs_lift_op {op : StorageOp} {f : op.Answer → α} {a : α} :
    Runs (liftM (f <$> (.step op .done : Storage op.Answer)) : App α) es a ↔
      ∃ x, es = [⟨.storage op, x⟩] ∧ a = f x := by
  rw [App.lift_map, runs_map]
  constructor
  · rintro ⟨x, rfl, read⟩
    exact ⟨x, runs_step_done.mp read, rfl⟩
  · rintro ⟨x, rfl, rfl⟩
    exact ⟨x, rfl, runs_step_done.mpr rfl⟩

theorem validUser?_eq : SessionStore.validUser? =
    (fun a => (sessionIn a).bind fun s => if s.isAuthenticated then s.username? else none) <$>
      Storage.read .session := by
  unfold SessionStore.validUser?
  rw [get_eq_map]
  rfl

theorem acceptedTos_eq : SessionStore.acceptedTos =
    (fun a => (sessionIn a).any (·.acceptedTos)) <$> Storage.read .session := by
  unfold SessionStore.acceptedTos
  rw [get_eq_map]
  rfl

theorem connections?_eq : TabNotes.connections? = connectionsIn <$> Storage.read .connections := by
  unfold TabNotes.connections?
  rw [note_eq_map]
  rfl

end reads

/-! ### The gate -/

namespace Gate

/-- What the gate has read when it looks for the connections, and the route is one that needs
them. -/
structure Warrants (g : Gate) (route : Route) (a b : Except StorageError (Option String)) :
    Prop where
  guarded : g.siteMap.isPublic route = false
  other : route ≠ .tos
  signedIn : IsSignedIn (sessionIn a)
  accepted : HasAccepted (sessionIn b)

/-- The session is read twice, and the connections are looked for. -/
abbrev looks (a b c : Except StorageError (Option String)) : Trace :=
  [⟨.storage (.read .session), a⟩, ⟨.storage (.read .session), b⟩,
    ⟨.storage (.read .connections), c⟩]

abbrev keeps (connections : List Connection) (k : Except StorageError Unit) : Trace :=
  [⟨.ask .connections, .ok connections⟩,
    ⟨.storage (.write .connections (Connection.encodeList connections)), k⟩]

/-- What the gate carries out for a decision. -/
inductive Passes (g : Gate) (route : Route) : Trace → Decision → Prop
  | isPublic (h : g.siteMap.isPublic route = true) : Passes g route [] .dispatch
  | terms {a : Except StorageError (Option String)} (h : route = .tos) :
    Passes g route [⟨.storage (.read .session), a⟩] .dispatch
  | login {a : Except StorageError (Option String)} :
    Passes g route [⟨.storage (.read .session), a⟩] .login
  | redirect {a b : Except StorageError (Option String)} (other : route ≠ .tos) :
    Passes g route [⟨.storage (.read .session), a⟩, ⟨.storage (.read .session), b⟩]
      (.redirect .tos)
  | cached {a b c : Except StorageError (Option String)} (h : Warrants g route a b)
    (there : (connectionsIn c).isSome) : Passes g route (looks a b c) .dispatch
  | loaded {a b c : Except StorageError (Option String)} {connections : List Connection}
    (k : Except StorageError Unit) (h : Warrants g route a b) (missing : connectionsIn c = none) :
    Passes g route (looks a b c ++ keeps connections k) .dispatch
  | failed {a b c : Except StorageError (Option String)} {e : BackendError}
    (h : Warrants g route a b) (missing : connectionsIn c = none) (policy : g.policy ≠ .required) :
    Passes g route (looks a b c ++ [⟨.ask .connections, .error e⟩]) .dispatch
  | aborted {a b c : Except StorageError (Option String)} {e : BackendError}
    (h : Warrants g route a b) (missing : connectionsIn c = none) (policy : g.policy = .required) :
    Passes g route (looks a b c ++ [⟨.ask .connections, .error e⟩]) .abort

theorem loadConnections_inv {es : Trace} {loaded : Bool} (h : Runs loadConnections es loaded) :
    (∃ connections k, es = keeps connections k ∧ loaded = true) ∨
      ∃ e, es = [⟨.ask .connections, .error e⟩] ∧ loaded = false := by
  unfold loadConnections at h
  rw [runs_bind] at h
  obtain ⟨asked, result, after, rfl, ask, h⟩ := h
  obtain rfl := runs_step_done.mp ask
  cases result with
  | error e =>
    obtain ⟨rfl, rfl⟩ := runs_pure.mp h
    exact .inr ⟨e, rfl, rfl⟩
  | ok connections =>
    rw [runs_bind] at h
    obtain ⟨kept, _, after, rfl, keep, h⟩ := h
    obtain ⟨rfl, rfl⟩ := runs_pure.mp h
    obtain ⟨_, _, write⟩ := runs_map.mp keep
    obtain ⟨k, rfl, -⟩ := runs_lift_op.mp write
    exact .inl ⟨connections, k, rfl, rfl⟩

theorem passConnections_inv {g : Gate} {es : Trace} {d : Decision}
    (h : Runs g.passConnections es d) : ∃ c rest, es = ⟨.storage (.read .connections), c⟩ :: rest ∧
      ((connectionsIn c).isSome ∧ rest = [] ∧ d = .dispatch ∨
        connectionsIn c = none ∧
          ((∃ connections k, rest = keeps connections k ∧ d = .dispatch) ∨
            ∃ e, rest = [⟨.ask .connections, .error e⟩] ∧
              d = if g.policy = .required then .abort else .dispatch)) := by
  unfold passConnections at h
  rw [runs_bind, connections?_eq] at h
  obtain ⟨looked, connections, rest, rfl, look, h⟩ := h
  obtain ⟨c, rfl, rfl⟩ := runs_lift_op.mp look
  refine ⟨c, rest, rfl, ?_⟩
  split at h
  · next there =>
    obtain ⟨rfl, rfl⟩ := runs_pure.mp h
    exact .inl ⟨there, rfl, rfl⟩
  · next missing =>
    rw [runs_bind] at h
    obtain ⟨asked, loaded, after, rfl, load, h⟩ := h
    refine .inr ⟨by simpa using missing, ?_⟩
    rcases loadConnections_inv load with ⟨connections, k, rfl, rfl⟩ | ⟨e, rfl, rfl⟩
    · obtain ⟨rfl, rfl⟩ := runs_pure.mp h
      exact .inl ⟨connections, k, by rw [List.append_nil], rfl⟩
    · obtain ⟨rfl, rfl⟩ := runs_pure.mp h
      exact .inr ⟨e, by rw [List.append_nil], rfl⟩

/-- **What the gate carries out for each decision.** -/
theorem passes_of_check {g : Gate} {route : Route} {es : Trace} {d : Decision}
    (h : Runs (g.check route) es d) : Passes g route es d := by
  unfold check at h
  split at h
  · next isPublic =>
    obtain ⟨rfl, rfl⟩ := runs_pure.mp h
    exact .isPublic isPublic
  next guarded =>
  rw [runs_bind, validUser?_eq] at h
  obtain ⟨first, user, after, rfl, read, h⟩ := h
  obtain ⟨a, rfl, rfl⟩ := runs_lift_op.mp read
  split at h
  · obtain ⟨rfl, rfl⟩ := runs_pure.mp h
    exact .login
  next valid =>
  have signedIn := isSignedIn_of_validUser (Bool.eq_false_iff.mpr valid)
  split at h
  · next isTos =>
    obtain ⟨rfl, rfl⟩ := runs_pure.mp h
    exact .terms isTos
  next other =>
  rw [runs_bind, acceptedTos_eq] at h
  obtain ⟨second, accepts, after, rfl, read, h⟩ := h
  obtain ⟨b, rfl, rfl⟩ := runs_lift_op.mp read
  split at h
  · next accepts =>
    have accepted : HasAccepted (sessionIn b) := by
      rw [Option.any_eq_true] at accepts
      exact accepts
    have warrants : g.Warrants route a b :=
      ⟨Bool.eq_false_iff.mpr guarded, other, signedIn, accepted⟩
    obtain ⟨c, rest, rfl, cases⟩ := passConnections_inv h
    rcases cases with ⟨there, rfl, rfl⟩ | ⟨missing, ⟨connections, k, rfl, rfl⟩ | ⟨e, rfl, rfl⟩⟩
    · exact .cached warrants there
    · exact .loaded k warrants missing
    · split
      · next policy => exact .aborted warrants missing policy
      · next policy => exact .failed warrants missing policy
  · obtain ⟨rfl, rfl⟩ := runs_pure.mp h
    exact .redirect other

end Gate

end AdminConsole
