import AdminConsole.Proofs.Enactment
import AdminConsole.Proofs.Passage
import AdminConsole.Proofs.Session
import AdminConsole.Simulation.Stage

/-!
# Programs that run alone

A program runs alone where nothing else uses the storage or the tab. What fails in the storage then
fails throughout (`Outage`), and the backend answers each call in its own way (`Surroundings`). The
program finds a scene and leaves one: the stored texts, the tab, and what has been asked, said and
shown. Each program of the storage has its lemma here (`run_get`, `run_update`), and a stage on
which no answer is held back does the same (`Simulation.Stage.advance_of_shows`). -/

namespace AdminConsole

open Program

/-- The operations of a storage that fail, each with its error. -/
structure Outage where
  reads : Slot → Option StorageError := fun _ => none
  writes : Slot → Option StorageError := fun _ => none
  wipes : Option StorageError := none

/-- An operation that fails changes nothing. -/
def Outage.answer (o : Outage) : (op : StorageOp) → StateM (TextMap String) op.Answer
  | .read slot => fun m =>
    match o.reads slot with
    | some e => (.error e, m)
    | none => (.ok (m.get? slot.key), m)
  | .write slot text => fun m =>
    match o.writes slot with
    | some e => (.error e, m)
    | none => (.ok (), m.insert slot.key text)
  | .wipe => fun m =>
    match o.wipes with
    | some e => (.error e, m)
    | none => (.ok (), .empty)

/-- What a program of the storage answers, and the texts it leaves. -/
def Outage.run {α : Type} (o : Outage) (p : Storage α) (m : TextMap String) : α × TextMap String :=
  p.runIn o.answer m

/-- The session that the stored texts hold, whether it can be read or not. -/
def storedSession? (m : TextMap String) : Option Session :=
  (m.get? Slot.session.key).bind Session.decode?

/-- What was stored is what is found there. -/
@[simp] theorem storedSession?_insert (m : TextMap String) (x : Session) :
    storedSession? (m.insert Slot.session.key x.encode) = some x := by
  rw [storedSession?, TextMap.get?_insert, if_pos rfl, Option.bind_some, Session.decode?_encode]

/-- What stays as it is while a program runs. -/
structure Surroundings where
  outage : Outage := {}
  backend : (call : Call) → call.Result

structure Scene where
  entries : TextMap String
  tab : Tab := {}
  calls : List Call := []
  notices : List Notice := []
  dispatched : List RenderContext := []
  mounted : List View := []

/-- The first user has signed in. -/
def Scene.signedIn : Scene := { entries := Run.firstUserWorld.entries }

namespace Surroundings

def answer (c : Surroundings) : (op : AppOp) → StateM Scene op.Answer
  | .storage op => fun s => ((c.outage.answer op s.entries).1,
      { s with entries := (c.outage.answer op s.entries).2 })
  | .ask call => fun s => (c.backend call, { s with calls := s.calls ++ [call] })
  | .notify notice => fun s => ((), { s with notices := s.notices ++ [notice] })
  | .dispatch ctx => fun s => ((), { s with dispatched := s.dispatched ++ [ctx] })
  | .ticket => fun s => (s.tab.issue.1, { s with tab := s.tab.issue.2 })
  | .mount ticket view location => fun s =>
    match s.tab.moveTo ticket location with
    | (true, tab) => (true, { s with tab, mounted := s.mounted ++ [view] })
    | (false, _) => (false, s)
  | .location => fun s => (s.tab.location, s)
  | .leave => fun s => ((), { s with tab := s.tab.leave })

/-- What a program of the console answers, and the scene it leaves. -/
def run {α : Type} (c : Surroundings) (p : App α) (s : Scene) : α × Scene := p.runIn c.answer s

section run

variable {α β : Type} (c : Surroundings) (s : Scene)

@[simp] theorem run_pure (a : α) : c.run (pure a : App α) s = (a, s) := rfl

theorem run_bind (p : App α) (f : α → App β) :
    c.run (p >>= f) s = c.run (f (c.run p s).1) (c.run p s).2 :=
  Program.run_bind c.answer p f s

@[simp] theorem run_ask (call : Call) :
    c.run (App.ask call) s = (c.backend call, { s with calls := s.calls ++ [call] }) := rfl

@[simp] theorem run_notify (notice : Notice) :
    c.run (App.notify notice) s = ((), { s with notices := s.notices ++ [notice] }) := rfl

@[simp] theorem run_dispatch (ctx : RenderContext) :
    c.run (App.dispatch ctx) s = ((), { s with dispatched := s.dispatched ++ [ctx] }) := rfl

@[simp] theorem run_ticket :
    c.run App.ticket s = (s.tab.issue.1, { s with tab := s.tab.issue.2 }) := rfl

@[simp] theorem run_location : c.run App.location s = (s.tab.location, s) := rfl

@[simp] theorem run_leave : c.run App.leave s = ((), { s with tab := s.tab.leave }) := rfl

/-- With the newest ticket the view is mounted. -/
theorem run_mount (view : View) (location : Location) {ticket : Nat}
    (newest : s.tab.accepts ticket = true) : c.run (App.mount ticket view location) s =
      (true, { s with
        tab := { s.tab with location := some location }
        mounted := s.mounted ++ [view] }) := by
  change c.answer (.mount ticket view location) s = _
  simp only [answer, Tab.moveTo, if_pos newest]

/-- A program of the storage changes the texts of the scene alone. -/
@[simp] theorem run_lift (p : Storage α) : c.run (liftM p : App α) s =
    ((c.outage.run p s.entries).1, { s with entries := (c.outage.run p s.entries).2 }) := by
  change (App.ofStorage p).runIn c.answer s = _
  induction p generalizing s with
  | done a => rfl
  | step op next ih => exact ih (c.outage.answer op s.entries).1 _

end run

end Surroundings

/-! ### Programs of the storage -/

namespace Outage

section run

variable {α β : Type} (o : Outage) (m : TextMap String)

@[simp] theorem run_pure (a : α) : o.run (pure a : Storage α) m = (a, m) := rfl

theorem run_bind (p : Storage α) (f : α → Storage β) :
    o.run (p >>= f) m = o.run (f (o.run p m).1) (o.run p m).2 :=
  Program.run_bind o.answer p f m

theorem run_map (f : α → β) (p : Storage α) :
    o.run (f <$> p) m = (f (o.run p m).1, (o.run p m).2) := by
  rw [map_eq_pure_bind, run_bind, run_pure]

theorem run_discard (p : Storage α) : o.run (discard p) m = (⟨⟩, (o.run p m).2) :=
  o.run_map m (fun _ => PUnit.unit) p

/-- A read leaves the texts as they are. -/
theorem run_read (slot : Slot) :
    o.run (Storage.read slot) m = ((o.answer (.read slot) m).1, m) := by
  change o.answer (.read slot) m = _
  simp only [answer]
  split <;> rfl

end run

/-! What the storage answers about the session and the notes. -/

def session? (o : Outage) (m : TextMap String) : Option Session := (o.run SessionStore.get m).1

def validUser? (o : Outage) (m : TextMap String) : Option String :=
  (o.run SessionStore.validUser? m).1

def acceptedTos (o : Outage) (m : TextMap String) : Bool := (o.run SessionStore.acceptedTos m).1

def token? (o : Outage) (m : TextMap String) : Option String := (o.run SessionStore.token? m).1

def note? (o : Outage) (slot : Slot) (m : TextMap String) : Option String :=
  (o.run (TabNotes.read slot) m).1

section reads

variable (o : Outage) (m : TextMap String)

theorem session?_eq : o.session? m = sessionIn (o.answer (.read .session) m).1 := by
  rw [session?, get_eq_map, run_map, run_read]

@[simp] theorem run_get : o.run SessionStore.get m = (o.session? m, m) := by
  rw [session?_eq, get_eq_map, run_map, run_read]

theorem note?_eq (slot : Slot) : o.note? slot m = noteIn (o.answer (.read slot) m).1 := by
  rw [note?, note_eq_map, run_map, run_read]

@[simp] theorem run_note (slot : Slot) : o.run (TabNotes.read slot) m = (o.note? slot m, m) := by
  rw [note?_eq, note_eq_map, run_map, run_read]

theorem validUser?_eq : o.validUser? m =
    (o.session? m).bind fun x => if x.isAuthenticated then x.username? else none := by
  rw [validUser?, SessionStore.validUser?, run_bind, run_get, run_pure]

theorem acceptedTos_eq : o.acceptedTos m = (o.session? m).any (·.acceptedTos) := by
  rw [acceptedTos, SessionStore.acceptedTos, run_bind, run_get, run_pure]

theorem token?_eq : o.token? m = (o.session? m).bind Session.token? := by
  rw [token?, SessionStore.token?, run_bind, run_get, run_pure]

@[simp] theorem run_token? : o.run SessionStore.token? m = (o.token? m, m) := by
  rw [token?_eq, SessionStore.token?, run_bind, run_get, run_pure]

theorem session?_of_readable {o : Outage} (readable : o.reads .session = none) :
    o.session? m = storedSession? m := by
  rw [session?_eq, storedSession?]
  simp only [answer, readable]
  cases m.get? Slot.session.key <;> rfl

theorem session?_of_unreadable {o : Outage} {e : StorageError} (fails : o.reads .session = some e) :
    o.session? m = none := by
  rw [session?_eq]
  simp only [answer, fails]
  rfl

theorem session?_eq_some_iff {x : Session} :
    o.session? m = some x ↔ o.reads .session = none ∧ storedSession? m = some x := by
  cases fails : o.reads .session with
  | none => rw [session?_of_readable m fails]; simp
  | some e => rw [session?_of_unreadable m fails]; simp

end reads

/-- What a note says, if it can be read and is not blank. -/
theorem note?_eq_some_iff (o : Outage) (m : TextMap String) {slot : Slot} {text : String} :
    o.note? slot m = some text ↔ o.reads slot = none ∧ m.get? slot.key = some text ∧
      Text.isAllBlank text = false := by
  rw [note?_eq]
  cases fails : o.reads slot with
  | none => simp [answer, fails, noteIn, Text.given?, Option.filter_eq_some_iff]
  | some e => simp [answer, fails, noteIn]

/-! ### Changing a slot -/

/-- The slot is written, or the write fails. -/
theorem run_write (o : Outage) (slot : Slot) (text : String) (m : TextMap String) :
    o.run (do return (← Storage.write slot text).mapError SessionError.storage) m =
      match o.writes slot with
      | some e => (.error (.storage e), m)
      | none => (.ok (), m.insert slot.key text) := by
  change ((o.answer (.write slot text) m).1.mapError SessionError.storage,
    (o.answer (.write slot text) m).2) = _
  simp only [answer]
  cases o.writes slot <;> rfl

theorem run_replace (o : Outage) (x : Session) (m : TextMap String) :
    o.run (SessionStore.replace x) m = match o.writes .session with
      | some e => (.error (.storage e), m)
      | none => (.ok (), m.insert Slot.session.key x.encode) :=
  run_write o .session x.encode m

theorem run_setHint (o : Outage) (slot : Slot) (url : String) (m : TextMap String) :
    o.run (TabNotes.setHint slot url) m = match o.writes slot with
      | some e => (.error (.storage e), m)
      | none => (.ok (), m.insert slot.key (Text.trim url)) :=
  run_write o slot (Text.trim url) m

theorem run_establish (o : Outage) (x : Claims) (m : TextMap String) :
    o.run (SessionStore.establish x) m = match x.validate with
      | .error e => (.error (.invalidClaims e), m)
      | .ok _ => match o.writes .session with
        | some e => (.error (.storage e), m)
        | none => (.ok (.ofClaims x), m.insert Slot.session.key (Session.ofClaims x).encode) := by
  unfold SessionStore.establish
  cases x.validate with
  | error e => rfl
  | ok _ =>
    simp only [run_bind, run_replace]
    cases o.writes .session <;> rfl

theorem run_update (o : Outage) (change : Session → Option Session) (m : TextMap String) :
    o.run (SessionStore.update change) m = match o.session? m with
      | none => (.error .noSession, m)
      | some x => match change x with
        | none => (.ok (), m)
        | some x' => o.run (SessionStore.replace x') m := by
  rw [SessionStore.update, run_bind, run_get]
  cases o.session? m with
  | none => rfl
  | some x =>
    cases changed : change x with
    | none => simp only [changed, run_pure]
    | some x' => simp only [changed]

theorem run_logout (o : Outage) (m : TextMap String) :
    o.run SessionStore.logout m = match o.wipes with
      | some e => (.error (.storage e), m)
      | none => (.ok (), .empty) := by
  have ended : o.run SessionStore.clear m =
      ((o.answer .wipe m).1.mapError SessionError.storage, (o.answer .wipe m).2) := rfl
  rw [SessionStore.logout, run_bind, run_discard, SessionStore.validUser?, run_bind, run_get,
    run_pure, ended]
  simp only [answer]
  cases o.wipes <;> rfl

end Outage

/-! ### Following a hint -/

/-- To where a hint says, or else to a page of the console. -/
def NextStep.hinted (hint : Option String) (page : Location) : NextStep :=
  match hint with
  | some url => .external url
  | none => .navigate page

theorem Surroundings.run_hinted (c : Surroundings) (slot : Slot) (page : Location) (s : Scene) :
    c.run (do
      match ← TabNotes.read slot with
      | some url => return NextStep.external url
      | none => return NextStep.navigate page) s =
    (.hinted (c.outage.note? slot s.entries) page, s) := by
  simp only [run_bind, run_lift, Outage.run_note]
  cases c.outage.note? slot s.entries <;> rfl

/-! ### The stage -/

namespace Simulation

/-- The faults that are on. -/
def Memory.outage (m : Memory) : Outage where
  reads slot :=
    if .reads ∈ m.faults ∨ .readsOf slot.key ∈ m.faults then some (.corrupt "unreadable") else none
  writes slot :=
    if .writes ∈ m.faults ∨ .writesOf slot.key ∈ m.faults then some (.corrupt "unwritable")
    else none
  wipes := if .wipes ∈ m.faults then some (.corrupt "unclearable") else none

theorem Memory.answer_eq (m : Memory) (op : StorageOp) : m.answer op =
    ((m.outage.answer op m.entries).1,
      { m with entries := (m.outage.answer op m.entries).2 }) := by
  cases op with
  | read slot =>
    simp only [Memory.answer, Memory.get, Outage.answer, outage]
    split <;> rfl
  | write slot text =>
    simp only [Memory.answer, Memory.set, Outage.answer, outage]
    split <;> rfl
  | wipe =>
    simp only [Memory.answer, Memory.clear, Outage.answer, outage]
    split <;> rfl

/-- No answer is held back. -/
def Script.IsFree (script : Script) : Prop := ∀ call, (script.reply call).held = false

namespace Stage

def surroundings (s : Stage) : Surroundings where
  outage := s.memory.outage
  backend call := (s.script.reply call).result

/-- The stage holds what the scene holds. -/
structure Shows (c : Surroundings) (s : Stage) (x : Scene) : Prop where
  surroundings : s.surroundings = c
  free : s.script.IsFree
  entries : s.memory.entries = x.entries
  tab : s.tab = x.tab
  calls : s.calls = x.calls
  notices : s.notices = x.notices
  mounted : s.mounted = x.mounted

variable {c : Surroundings} {s : Stage} {x : Scene}

/-- A stage on which no answer is held back answers at once, and as the surroundings do. -/
theorem react_of_shows (h : Shows c s x) (op : AppOp) :
    ∃ s', react op s = (.now (c.answer op x).1, s') ∧ Shows c s' (c.answer op x).2 := by
  obtain ⟨rfl, free, he, ht, hc, hn, hm⟩ := h
  cases op with
  | storage op =>
    simp only [react, Memory.answer_eq, he]
    exact ⟨_, rfl, rfl, free, rfl, ht, hc, hn, hm⟩
  | ask call =>
    refine ⟨s.note call, ?_, rfl, free, he, ht, congrArg (· ++ [call]) hc, hn, hm⟩
    have unheld : ((s.note call).script.reply call).held = false := free call
    simp only [react, ask, unheld]
    rfl
  | notify notice => exact ⟨_, rfl, rfl, free, he, ht, hc, congrArg (· ++ [notice]) hn, hm⟩
  | dispatch ctx => exact ⟨s, rfl, rfl, free, he, ht, hc, hn, hm⟩
  | ticket =>
    refine ⟨{ s with tab := s.tab.issue.2 }, ?_, rfl, free, he, ?_, hc, hn, hm⟩
    · simp only [react, Surroundings.answer, ht]
    · exact congrArg (fun t => t.issue.2) ht
  | mount ticket view location =>
    rcases moved : x.tab.moveTo ticket location with ⟨_ | _, tab⟩
    · simp only [react, Surroundings.answer, ht, moved]
      exact ⟨s, rfl, rfl, free, he, ht, hc, hn, hm⟩
    · simp only [react, Surroundings.answer, ht, moved]
      exact ⟨_, rfl, rfl, free, he, rfl, hc, hn, congrArg (· ++ [view]) hm⟩
  | location =>
    refine ⟨s, ?_, rfl, free, he, ht, hc, hn, hm⟩
    simp only [react, Surroundings.answer, ht]
  | leave => exact ⟨_, rfl, rfl, free, he, congrArg Tab.leave ht, hc, hn, hm⟩

/-- **A stage on which no answer is held back does with a program what the program does alone.** -/
theorem advance_of_shows {α : Type} (p : App α) (h : Shows c s x) :
    ∃ s', p.advance react s = (.finished (c.run p x).1, s') ∧ Shows c s' (c.run p x).2 := by
  induction p generalizing s x with
  | done a => exact ⟨s, rfl, h⟩
  | step op next ih =>
    obtain ⟨s₁, reacted, shows⟩ := react_of_shows h op
    obtain ⟨s₂, finished, shows⟩ := ih (c.answer op x).1 shows
    refine ⟨s₂, ?_, shows⟩
    rw [Program.advance, reacted]
    exact finished

end Stage

end Simulation

end AdminConsole
