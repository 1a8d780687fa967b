import AdminConsole.Proofs.Alone

/-!
# Amendments of the session

The terms, the token and the privileges of a stored session can be changed one at a time. Such an
amendment sets its field and leaves every other field and every other text as it is
(`Amendment.changes_one_field`), wherever the storage fails and whatever the stored text looks like:
the session is decoded, changed and encoded again, and nothing is written where it is so already. -/

namespace AdminConsole

open Program

inductive Amendment where
  | acceptTerms
  | token (text : String)
  | privileges (tags : TextSet)

namespace Amendment

def program : Amendment → Storage (Except SessionError Unit)
  | acceptTerms => SessionStore.setAcceptedTos
  | token text => SessionStore.setToken text
  | privileges tags => SessionStore.setPrivileges tags

theorem setAcceptedTos_eq : SessionStore.setAcceptedTos = acceptTerms.program := rfl

theorem setToken_eq (text : String) : SessionStore.setToken text = (token text).program := rfl

inductive Field where
  | acceptedTos
  | token
  | privileges
  deriving DecidableEq

/-- The field that is set. -/
def field : Amendment → Field
  | acceptTerms => .acceptedTos
  | token _ => .token
  | privileges _ => .privileges

def apply : Amendment → Session → Session
  | acceptTerms, x => { x with acceptedTos := true }
  | token text, x => { x with token := some text }
  | privileges tags, x => { x with privileges := tags }

/-- The session is so already, and is not written. A token is written even where it is the same. -/
def Idle : Amendment → Session → Prop
  | acceptTerms, x => x.acceptedTos = true
  | token _, _ => False
  | privileges tags, x => x.privileges = tags

instance (a : Amendment) (x : Session) : Decidable (a.Idle x) :=
  match a with
  | acceptTerms => inferInstanceAs (Decidable (x.acceptedTos = true))
  | token _ => inferInstanceAs (Decidable False)
  | privileges tags => inferInstanceAs (Decidable (x.privileges = tags))

/-- The session that is written, unless there is nothing to write. -/
def change (a : Amendment) (x : Session) : Option Session :=
  if a.Idle x then none else some (a.apply x)

section fields

variable {a b : Amendment} {x : Session}

theorem program_eq (a : Amendment) : a.program = SessionStore.update a.change := by
  cases a <;> rfl

theorem change_of_idle (idle : a.Idle x) : a.change x = none := if_pos idle

theorem change_of_not_idle (busy : ¬ a.Idle x) : a.change x = some (a.apply x) := if_neg busy

theorem apply_of_idle (idle : a.Idle x) : a.apply x = x := by
  cases a with
  | acceptTerms => exact congrArg (fun acceptedTos => { x with acceptedTos }) idle.symm
  | token text => exact idle.elim
  | privileges tags => exact congrArg (fun privileges => { x with privileges }) idle.symm

/-- What an amendment sets is set, and only the token is set again. -/
theorem idle_apply (a : Amendment) (notToken : a.field ≠ .token) (x : Session) :
    a.Idle (a.apply x) := by
  cases a with
  | acceptTerms => rfl
  | token text => exact absurd rfl notToken
  | privileges tags => rfl

/-- An amendment of another field makes no difference to what there is to write. -/
theorem idle_apply_iff (other : a.field ≠ b.field) : b.Idle (a.apply x) ↔ b.Idle x := by
  cases a <;> cases b <;> first | exact absurd rfl other | exact Iff.rfl

theorem apply_comm (other : a.field ≠ b.field) (x : Session) :
    b.apply (a.apply x) = a.apply (b.apply x) := by
  cases a <;> cases b <;> first | exact absurd rfl other | rfl

end fields

/-! ### What is carried out -/

/-- Where there is nothing to write, the session is read and nothing else is done, whatever the
storage. -/
theorem unwritten_of_idle {a : Amendment} {x : Session}
    {answer : Except StorageError (Option String)} {es : List (Answered StorageOp.Answer)}
    {result : Except SessionError Unit} (h : Runs a.program (⟨.read .session, answer⟩ :: es) result)
    (found : sessionIn answer = some x) (idle : a.Idle x) : es = [] ∧ result = .ok () := by
  rw [program_eq, SessionStore.update, runs_bind, get_eq_map] at h
  obtain ⟨before, session, after, split, got, rest⟩ := h
  obtain ⟨answer', rfl, read⟩ := runs_map.mp got
  obtain rfl := runs_step_done.mp read
  obtain ⟨same, rfl⟩ := List.cons.inj split
  cases same
  simp only [found, change_of_idle idle] at rest
  exact runs_pure.mp rest

/-! ### What is left -/

section run

variable {a b : Amendment} {o o' : Outage} {m : TextMap String} {x : Session}

theorem run_eq (a : Amendment) (o : Outage) (m : TextMap String) :
    o.run a.program m = match o.session? m with
      | none => (.error .noSession, m)
      | some x => if a.Idle x then (.ok (), m) else o.run (SessionStore.replace (a.apply x)) m := by
  rw [program_eq, Outage.run_update]
  cases o.session? m with
  | none => rfl
  | some x =>
    by_cases idle : a.Idle x
    · simp only [change_of_idle idle, if_pos idle]
    · simp only [change_of_not_idle idle, if_neg idle]

theorem run_of_missing (missing : o.session? m = none) :
    o.run a.program m = (.error .noSession, m) := by
  rw [run_eq, missing]

theorem run_of_idle (found : o.session? m = some x) (idle : a.Idle x) :
    o.run a.program m = (.ok (), m) := by
  simp only [run_eq, found, if_pos idle]

theorem run_of_failed (found : o.session? m = some x) (busy : ¬ a.Idle x) {e : StorageError}
    (fails : o.writes .session = some e) : o.run a.program m = (.error (.storage e), m) := by
  simp only [run_eq, found, if_neg busy, Outage.run_replace, fails]

theorem run_of_written (found : o.session? m = some x) (busy : ¬ a.Idle x)
    (writable : o.writes .session = none) :
    o.run a.program m = (.ok (), m.insert Slot.session.key (a.apply x).encode) := by
  simp only [run_eq, found, if_neg busy, Outage.run_replace, writable]

/-- All that an amendment can come to. -/
inductive Ends (a : Amendment) (o : Outage) (m : TextMap String) :
    Except SessionError Unit × TextMap String → Prop
  | missing (none : o.session? m = none) : Ends a o m (.error .noSession, m)
  | idle (x : Session) (found : o.session? m = some x) (idle : a.Idle x) : Ends a o m (.ok (), m)
  | failed (x : Session) (e : StorageError) (found : o.session? m = some x) (busy : ¬ a.Idle x)
    (fails : o.writes .session = some e) : Ends a o m (.error (.storage e), m)
  | written (x : Session) (found : o.session? m = some x) (busy : ¬ a.Idle x)
    (writable : o.writes .session = none) :
    Ends a o m (.ok (), m.insert Slot.session.key (a.apply x).encode)

theorem ends_run (a : Amendment) (o : Outage) (m : TextMap String) :
    a.Ends o m (o.run a.program m) := by
  cases found : o.session? m with
  | none =>
    rw [run_of_missing found]
    exact .missing found
  | some x =>
    by_cases idle : a.Idle x
    · rw [run_of_idle found idle]
      exact .idle x found idle
    · cases fails : o.writes .session with
      | some e =>
        rw [run_of_failed found idle fails]
        exact .failed x e found idle fails
      | none =>
        rw [run_of_written found idle fails]
        exact .written x found idle fails

theorem get?_run (a : Amendment) (o : Outage) (m : TextMap String) {key : String}
    (other : key ≠ Slot.session.key) : (o.run a.program m).2.get? key = m.get? key := by
  have ends := a.ends_run o m
  generalize o.run a.program m = r at ends ⊢
  cases ends with
  | missing | idle | failed => rfl
  | written => rw [TextMap.get?_insert, if_neg other]

/-- What an amendment makes of a session where the storage fails in this way. -/
def settle (a : Amendment) (o : Outage) (x : Session) : Session :=
  if o.reads .session = none ∧ o.writes .session = none then a.apply x else x

theorem settle_eq_or (a : Amendment) (o : Outage) (x : Session) :
    a.settle o x = x ∨ a.settle o x = a.apply x := by
  unfold settle
  split
  · exact .inr rfl
  · exact .inl rfl

theorem settle_comm (other : a.field ≠ b.field) (o o' : Outage) (x : Session) :
    b.settle o' (a.settle o x) = a.settle o (b.settle o' x) := by
  unfold settle
  split <;> split <;> first | exact apply_comm other x | rfl

theorem idle_settle_iff (other : a.field ≠ b.field) (o : Outage) (x : Session) :
    b.Idle (a.settle o x) ↔ b.Idle x := by
  rcases a.settle_eq_or o x with same | amended
  · rw [same]
  · rw [amended, idle_apply_iff other]

/-- **The stored session is amended, or stays as it is.** -/
theorem storedSession?_run (a : Amendment) (o : Outage) (m : TextMap String) :
    storedSession? (o.run a.program m).2 = (storedSession? m).map (a.settle o) := by
  have ends := a.ends_run o m
  generalize o.run a.program m = r at ends ⊢
  cases ends with
  | missing missing =>
    cases reads : o.reads .session with
    | none =>
      rw [Outage.session?_of_readable m reads] at missing
      rw [missing, Option.map_none]
    | some e =>
      have same : a.settle o = id := funext fun x => if_neg (by simp [reads])
      rw [same, Option.map_id, id]
  | idle x found idle =>
    obtain ⟨-, stored⟩ := (o.session?_eq_some_iff m).mp found
    have same : a.settle o x = x := (a.settle_eq_or o x).elim id fun eq =>
      eq.trans (apply_of_idle idle)
    rw [stored, Option.map_some, same]
  | failed x e found busy fails =>
    obtain ⟨-, stored⟩ := (o.session?_eq_some_iff m).mp found
    have same : a.settle o x = x := if_neg (by simp [fails])
    rw [stored, Option.map_some, same]
  | written x found busy writable =>
    obtain ⟨readable, stored⟩ := (o.session?_eq_some_iff m).mp found
    have amended : a.settle o x = a.apply x := if_pos ⟨readable, writable⟩
    rw [storedSession?_insert, stored, Option.map_some, amended]

/-- What an amendment answers hangs on what there is to write, and on nothing else in the
session. -/
theorem run_fst_congr {m' : TextMap String} {f : Session → Session}
    (changed : storedSession? m' = (storedSession? m).map f) (same : ∀ x, a.Idle (f x) ↔ a.Idle x) :
    (o.run a.program m').1 = (o.run a.program m).1 := by
  have found : o.session? m' = (o.session? m).map f := by
    cases reads : o.reads .session with
    | none =>
      rw [Outage.session?_of_readable m reads, Outage.session?_of_readable m' reads, changed]
    | some e =>
      rw [Outage.session?_of_unreadable m reads, Outage.session?_of_unreadable m' reads,
        Option.map_none]
  have ends := a.ends_run o m
  generalize o.run a.program m = r at ends ⊢
  cases ends with
  | missing none =>
    rw [none] at found
    rw [run_of_missing found]
  | idle x there idle =>
    rw [there] at found
    rw [run_of_idle found ((same x).mpr idle)]
  | failed x e there busy fails =>
    rw [there] at found
    rw [run_of_failed found (mt (same x).mp busy) fails]
  | written x there busy writable =>
    rw [there] at found
    rw [run_of_written found (mt (same x).mp busy) writable]

/-- An amendment succeeds on a session that can be read, and it is made then. -/
theorem made_of_ok (ok : (o.run a.program m).1 = .ok ()) : ∃ x, storedSession? m = some x ∧
    storedSession? (o.run a.program m).2 = some (a.apply x) := by
  have ends := a.ends_run o m
  generalize o.run a.program m = r at ends ok ⊢
  cases ends with
  | missing none => exact nomatch ok
  | idle x found idle =>
    obtain ⟨-, stored⟩ := (o.session?_eq_some_iff m).mp found
    exact ⟨x, stored, by rw [stored, apply_of_idle idle]⟩
  | failed x e found busy fails => exact nomatch ok
  | written x found busy writable =>
    obtain ⟨-, stored⟩ := (o.session?_eq_some_iff m).mp found
    exact ⟨x, stored, storedSession?_insert m _⟩

/-- An amendment succeeds where there is a session and it is so already or can be written. -/
theorem ok_iff : (o.run a.program m).1 = .ok () ↔
    ∃ x, o.session? m = some x ∧ (a.Idle x ∨ o.writes .session = none) := by
  have ends := a.ends_run o m
  generalize o.run a.program m = r at ends ⊢
  cases ends with
  | missing none => simp [none]
  | idle x found idle => simp [found, idle]
  | failed x e found busy fails => simp [found, busy, fails]
  | written x found busy writable => simp [found, writable]

theorem run_snd_of_not_ok (fails : (o.run a.program m).1 ≠ .ok ()) :
    (o.run a.program m).2 = m := by
  have ends := a.ends_run o m
  generalize o.run a.program m = r at ends fails ⊢
  cases ends with
  | missing | failed => rfl
  | idle | written => exact absurd rfl fails

/-- Where it has been made, an amendment is not made again. -/
theorem run_snd_of_made (notToken : a.field ≠ .token)
    (made : storedSession? m = some (a.apply x)) : (o.run a.program m).2 = m := by
  have ends := a.ends_run o m
  generalize o.run a.program m = r at ends ⊢
  cases ends with
  | missing | idle | failed => rfl
  | written x' there busy writable =>
    obtain ⟨-, there⟩ := (o.session?_eq_some_iff m).mp there
    obtain rfl := Option.some.inj (made.symm.trans there)
    exact absurd (a.idle_apply notToken x) busy

theorem run_twice (notToken : a.field ≠ .token) :
    o.run a.program (o.run a.program m).2 = o.run a.program m := by
  have ends := a.ends_run o m
  generalize once : o.run a.program m = r at ends ⊢
  cases ends with
  | missing | idle | failed => exact once
  | written x found busy writable =>
    obtain ⟨readable, -⟩ := (o.session?_eq_some_iff m).mp found
    refine run_of_idle ?_ (a.idle_apply notToken x)
    exact (o.session?_eq_some_iff _).mpr ⟨readable, storedSession?_insert m _⟩

end run

/-! ### The law of amendments -/

/-- **An amendment changes one field and nothing else.** Where no session can be read, or it cannot
be written, it fails and changes nothing; where the session is so already, it does nothing but read
it. Made twice it changes nothing more, and amendments of different fields can change places. -/
theorem changes_one_field (a : Amendment) (o : Outage) (m : TextMap String) :
    ((∃ e, o.reads .session = some e) ∨ storedSession? m = none →
      o.run a.program m = (.error .noSession, m)) ∧
    (∀ x, o.reads .session = none → storedSession? m = some x →
      (a.Idle x → a.apply x = x ∧ o.run a.program m = (.ok (), m)) ∧
      (¬ a.Idle x → ∀ e, o.writes .session = some e →
        o.run a.program m = (.error (.storage e), m)) ∧
      (¬ a.Idle x → o.writes .session = none → (o.run a.program m).1 = .ok ()) ∧
      ((o.run a.program m).1 = .ok () →
        storedSession? (o.run a.program m).2 = some (a.apply x) ∧
        ∀ key, key ≠ Slot.session.key → (o.run a.program m).2.get? key = m.get? key)) ∧
    (∀ answer es result x, Runs a.program (⟨.read .session, answer⟩ :: es) result →
      sessionIn answer = some x → a.Idle x → es = [] ∧ result = .ok ()) ∧
    (a.field ≠ .token → o.run a.program (o.run a.program m).2 = o.run a.program m ∧
      ((o.run a.program m).1 = .ok () → ∀ o' : Outage,
        (o'.run a.program (o.run a.program m).2).2 = (o.run a.program m).2)) ∧
    ∀ (b : Amendment) (o' : Outage), a.field ≠ b.field →
      storedSession? (o'.run b.program (o.run a.program m).2).2 =
        storedSession? (o.run a.program (o'.run b.program m).2).2 ∧
      (o'.run b.program (o.run a.program m).2).1 = (o'.run b.program m).1 ∧
      (o.run a.program (o'.run b.program m).2).1 = (o.run a.program m).1 := by
  refine ⟨?_, fun x readable stored => ?_, fun answer es result x run found idle =>
    unwritten_of_idle run found idle, fun notToken => ⟨run_twice notToken, fun ok o' => ?_⟩,
    fun b o' other => ⟨?_, ?_, ?_⟩⟩
  · rintro (⟨e, fails⟩ | none)
    · exact run_of_missing (Outage.session?_of_unreadable m fails)
    · refine run_of_missing (Option.eq_none_iff_forall_ne_some.mpr fun x found => ?_)
      simp [((o.session?_eq_some_iff m).mp found).2] at none
  · have found := (o.session?_eq_some_iff m).mpr ⟨readable, stored⟩
    refine ⟨fun idle => ⟨apply_of_idle idle, run_of_idle found idle⟩,
      fun busy e fails => run_of_failed found busy fails, fun busy writable => ?_,
      fun ok => ⟨?_, fun key => a.get?_run o m⟩⟩
    · rw [run_of_written found busy writable]
    · obtain ⟨x', there, made⟩ := made_of_ok ok
      obtain rfl := Option.some.inj (stored.symm.trans there)
      exact made
  · obtain ⟨x, -, made⟩ := made_of_ok ok
    exact run_snd_of_made notToken made
  · simp only [storedSession?_run, Option.map_map]
    exact congrArg (Option.map · _) (funext (settle_comm other o o'))
  · exact run_fst_congr (a.storedSession?_run o m) (idle_settle_iff other o)
  · exact run_fst_congr (b.storedSession?_run o' m) (idle_settle_iff other.symm o')

/-- A session in an older layout: most fields are missing, and the flag is a text. -/
def olderText : String :=
  "\x7b\"token\":\"t1\",\"permissions\":null,\"acceptedTOS\":\" TRUE\"\x7d"

/-- A storage that nothing can be written to. -/
def readOnly : Outage where
  writes _ := some (.corrupt "read-only")

theorem changes_one_field_olderText :
    let m := TextMap.empty.insert Slot.session.key olderText
    let token := Amendment.token "t2"
    let tags := Amendment.privileges (.ofList ["a"])
    readOnly.run acceptTerms.program m = (.ok (), m) ∧
    readOnly.run token.program m = (.error (.storage (.corrupt "read-only")), m) ∧
    storedSession? (Outage.run {} token.program m).2 =
      some { token := some "t2", acceptedTos := true } ∧
    storedSession? (Outage.run {} tags.program (Outage.run {} token.program m).2).2 =
      storedSession? (Outage.run {} token.program (Outage.run {} tags.program m).2).2 := by
  intro m token tags
  let x : Session := { token := some "t1", acceptedTos := true }
  have stored : storedSession? m = some x := by decide +kernel
  have amended := fun a o => (changes_one_field a o m).2.1 x
  refine ⟨((amended acceptTerms readOnly rfl stored).1 rfl).2,
    (amended token readOnly rfl stored).2.1 not_false _ rfl, ?_, ?_⟩
  · have written := amended token {} rfl stored
    exact (written.2.2.2 (written.2.2.1 not_false rfl)).1
  · exact ((changes_one_field token {} m).2.2.2.2 tags {} (by decide)).1

end Amendment

end AdminConsole
