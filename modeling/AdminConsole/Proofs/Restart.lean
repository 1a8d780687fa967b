import AdminConsole.Proofs.Deployment
import AdminConsole.Proofs.Enactment
import AdminConsole.Proofs.Uses

/-!
# Restarts

A console that starts anew has a tab of its own and no rejections that wait; the storage and the
backend are as the last one left them. Main statement (`Deployment.sessions_of_parts`): however a
list of commands is cut into parts, each done by a new console, the replies are those of one console
that does them all, and what was shown, said, sent and stored is the same. So no command depends on
the tab that earlier ones have left: a navigation takes a ticket of its own first, and afterwards
the tickets matter only as being the newest. -/

namespace AdminConsole

open Program Http

variable {σ τ α : Type}

/-- The desk of a console that starts anew. -/
def Desk.reopen (d : Desk σ τ) : Desk σ τ := { d with tab := {}, reported := [] }

namespace Deployment

variable (c : Deployment σ τ)

abbrev CommandReply : Type := Except NavigationError (Option String)

def execute (command : Command) : StateM (Desk σ τ) CommandReply :=
  (Console.execute (.ofSettings c.settings c.settings.siteMap) command).runIn c.app

/-- Commands one after another, with one console. -/
def session : List Command → StateM (Desk σ τ) (List CommandReply)
  | [] => return []
  | command :: commands => return (← c.execute command) :: (← session commands)

/-- The parts one after another, each with a new console. -/
def sessions : List (List Command) → StateM (Desk σ τ) (List CommandReply)
  | [] => return []
  | part :: parts => do
    modify Desk.reopen
    return (← c.session part) ++ (← sessions parts)

end Deployment

/-! ### Desks with different tabs -/

/-- The desks differ at most in the rejections that wait and in their tabs, which are related. -/
def Desk.Beside (T : Tab → Tab → Prop) (d d' : Desk σ τ) : Prop :=
  ∃ reported tab, d' = { d with reported, tab } ∧ T d.tab tab

/-- Any tabs. -/
abbrev Desk.Alike (d d' : Desk σ τ) : Prop := Beside (fun _ _ => True) d d'

/-- These are the newest tickets of two tabs. -/
def Tab.Newest (ticket ticket' : Nat) (t t' : Tab) : Prop := t.newest = ticket ∧ t'.newest = ticket'

theorem Desk.Beside.alike {T : Tab → Tab → Prop} {d d' : Desk σ τ} (h : Beside T d d') :
    Alike d d' := by
  obtain ⟨reported, tab, eq, _⟩ := h
  exact ⟨reported, tab, eq, trivial⟩

/-- The operation has nothing to do with the tab. -/
def AppOp.IsOffTab : AppOp → Prop
  | ticket | mount _ _ _ | location | leave => False
  | _ => True

theorem AppOp.IsModest.isOffTab {op : AppOp} (h : op.IsModest) : op.IsOffTab := by
  cases op <;> trivial

theorem App.offTab_lift (p : Storage α) : (liftM p : App α).Uses AppOp.IsOffTab :=
  App.uses_lift (fun _ => trivial) p

/-! ### The gate -/

theorem Gate.offTab_loadConnections : loadConnections.Uses AppOp.IsOffTab := by
  refine ⟨trivial, fun result => ?_⟩
  cases result with
  | error e => trivial
  | ok cs => exact (App.offTab_lift (TabNotes.cacheConnections cs)).discard.bind fun _ => trivial

theorem Gate.offTab_passConnections (g : Gate) : g.passConnections.Uses AppOp.IsOffTab := by
  refine (App.offTab_lift TabNotes.connections?).bind fun connections => ?_
  cases connections with
  | some cs => trivial
  | none =>
    refine offTab_loadConnections.bind fun loaded => ?_
    cases loaded <;> trivial

theorem Gate.offTab_check (g : Gate) (route : Route) : (g.check route).Uses AppOp.IsOffTab := by
  unfold check
  split
  · trivial
  refine (App.offTab_lift SessionStore.validUser?).bind fun user => ?_
  split
  · trivial
  split
  · trivial
  refine (App.offTab_lift SessionStore.acceptedTos).bind fun accepted => ?_
  cases accepted with
  | true => exact g.offTab_passConnections
  | false => trivial

namespace Deployment

open Desk

variable (c : Deployment σ τ) {T : Tab → Tab → Prop}

theorem wire_beside (op : WireOp) (d d' : Desk σ τ) (h : Beside T d d') :
    Same (Beside T) (c.wire op d).1 (c.wire op d').1 (c.wire op d).2 (c.wire op d').2 := by
  obtain ⟨reported, tab, rfl, tabs⟩ := h
  cases op with
  | storage op => exact ⟨rfl, reported, tab, rfl, tabs⟩
  | send request => exact ⟨rfl, reported, tab, rfl, tabs⟩
  | report rejection => exact ⟨rfl, reported ++ [rejection], tab, rfl, tabs⟩

theorem offTab_beside (op : AppOp) (off : op.IsOffTab) (d d' : Desk σ τ) (h : Beside T d d') :
    Same (Beside T) (c.app op d).1 (c.app op d').1 (c.app op d).2 (c.app op d').2 := by
  cases op with
  | storage op => exact c.wire_beside (.storage op) d d' h
  | ask call => exact Related.of_step c.wire_beside (Client.perform c.settings call) d d' h
  | notify notice =>
    obtain ⟨reported, tab, rfl, tabs⟩ := h
    exact ⟨rfl, reported, tab, rfl, tabs⟩
  | dispatch ctx => exact ⟨rfl, h⟩
  | ticket | mount | location | leave => exact off.elim

/-! ### Programs that give two desks the same -/

/-- At desks with such tabs the programs come to the same result, and leave such tabs. -/
abbrev Twins (T : Tab → Tab → Prop) (p q : App α) : Prop :=
  Related c.app c.app (Beside T) p q (Same (Beside T))

variable {c}

theorem twins_of_uses {p : App α} (hp : p.Uses AppOp.IsOffTab) : c.Twins T p p :=
  .of_uses c.offTab_beside hp

theorem twins_lift (p : Storage α) : c.Twins T (liftM p) (liftM p) :=
  twins_of_uses (App.offTab_lift p)

section holding

variable {t t' : Nat}

theorem related_ticket : Related c.app c.app Alike App.ticket App.ticket
    fun t t' => Beside (Tab.Newest t t') := by
  rintro d _ ⟨reported, tab, rfl, _⟩
  exact ⟨reported, _, rfl, rfl, rfl⟩

theorem related_location : Related c.app c.app (Beside T) App.location App.location
    fun _ _ => Beside T :=
  fun _ _ h => h

theorem twins_leave : c.Twins (fun _ _ => True) App.leave App.leave := by
  rintro d _ ⟨reported, tab, rfl, _⟩
  exact ⟨rfl, reported, _, rfl, trivial⟩

theorem run_mount_of_newest {d : Desk σ τ} (newest : d.tab.newest = t) (view : View)
    (l : Location) : (App.mount t view l).runIn c.app d =
      (true, { d with tab := { d.tab with location := some l }, mounted := d.mounted ++ [view] }) := by
  have moved : d.tab.moveTo t l = (true, { d.tab with location := some l }) := by
    simp [Tab.moveTo, Tab.accepts, newest]
  change c.app (.mount t view l) d = _
  simp only [app, moved]

/-- Either console mounts the view, wherever it then is. -/
theorem twins_app_mount (view : View) (l l' : Location) :
    c.Twins (Tab.Newest t t') (App.mount t view l) (App.mount t' view l') := by
  rintro d _ ⟨reported, tab, rfl, newest, newest'⟩
  rw [run_mount_of_newest newest, run_mount_of_newest newest']
  exact ⟨rfl, reported, _, rfl, newest, newest'⟩

/-! ### The navigator -/

variable {n : Navigator}

theorem twins_mount (view : View) (l l' : Location) :
    c.Twins (Tab.Newest t t') (Navigator.mount t view l) (Navigator.mount t' view l') :=
  (twins_app_mount view l l').bind_same fun mounted => by
    cases mounted <;> exact .pure _

theorem twins_settle (step : NextStep) (l l' : Location) :
    c.Twins (Tab.Newest t t') (Navigator.settle step l t) (Navigator.settle step l' t') := by
  cases step with
  | navigate next => exact .pure _
  | external url => exact .pure _
  | display view => exact twins_mount view l l'

theorem twins_beginLogin (location : Location) :
    c.Twins (Tab.Newest t t') (n.beginLogin location t) (n.beginLogin location t') := by
  unfold Navigator.beginLogin
  have modest := n.login.uses_initiate AppOp.covers_modest
  refine (twins_of_uses (modest.mono fun _ => AppOp.IsModest.isOffTab)).bind_same fun step => ?_
  cases step with
  | navigate next => exact .pure _
  | external url => exact .pure _
  | display view =>
    refine (twins_app_mount view location location).bind_same fun mounted => ?_
    cases mounted <;> exact .pure _

/-- Handlers that have nothing to do with the tab. -/
def OffTab (r : Registry) : Prop :=
  ∀ route handler, r.handlers route = some handler → ∀ ctx, (handler ctx).Uses AppOp.IsOffTab

theorem twins_dispatch (offTab : OffTab n.registry) (route : Route) (location : Location) :
    c.Twins (Tab.Newest t t') (n.dispatch route location t) (n.dispatch route location t') := by
  unfold Navigator.dispatch
  refine (twins_lift SessionStore.get).bind_same fun session => ?_
  refine (twins_of_uses (p := App.dispatch ⟨route, location, session⟩)
    ⟨trivial, fun _ => trivial⟩).bind_same fun _ => ?_
  refine (twins_of_uses (Registry.uses_render (offTab route) _)).bind_same fun view => ?_
  exact twins_mount view location location

/-! A navigation that goes on holds its ticket; one that has ended may have lost it to a logout. -/

def AfterVisit (t t' : Nat) (r r' : Navigator.Result ⊕ Location) (d d' : Desk σ τ) : Prop :=
  r = r' ∧ match r with
    | .inl _ => Alike d d'
    | .inr _ => Beside (Tab.Newest t t') d d'

theorem related_discard_ticket : Related c.app c.app Alike (discard App.ticket)
    (discard App.ticket) (Same Alike) := by
  rintro d _ ⟨reported, tab, rfl, _⟩
  exact ⟨rfl, reported, _, rfl, trivial⟩

theorem twins_logout : c.Twins (fun _ _ => True) n.logout n.logout := by
  unfold Navigator.logout
  refine related_discard_ticket.bind_same fun _ => ?_
  refine (twins_lift SessionStore.logout).bind_same fun ended => ?_
  cases ended with
  | error e => exact .pure _
  | ok u => exact twins_leave.bind_same fun _ => .pure _

theorem related_visit (offTab : OffTab n.registry) (location : Location) :
    Related c.app c.app (Beside (Tab.Newest t t')) (n.visit location t) (n.visit location t')
      (AfterVisit t t') := by
  -- What ends the visit with an outcome.
  have ends : ∀ {p q : App Outcome}, c.Twins (Tab.Newest t t') p q →
      Related c.app c.app (Beside (Tab.Newest t t'))
        (do return .inl (.ok (← p))) (do return .inl (.ok (← q))) (AfterVisit t t') :=
    fun same => same.bind_same fun _ _ _ beside => ⟨rfl, beside.alike⟩
  unfold Navigator.visit
  generalize n.siteMap.resolve location.path = route
  cases route
  case login =>
    refine (twins_of_uses ((n.login.modest_start location).mono
      fun _ => AppOp.IsModest.isOffTab)).bind_same fun step => ?_
    cases step with
    | navigate next => exact fun _ _ beside => ⟨rfl, beside⟩
    | external url => exact ends (twins_settle (.external url) location location)
    | display view => exact ends (twins_settle (.display view) location location)
  case logout =>
    intro d d' beside
    exact twins_logout.bind_same (fun _ _ _ alike => ⟨rfl, alike⟩) d d' beside.alike
  all_goals
    refine (twins_of_uses (n.gate.offTab_check _)).bind_same fun d => ?_
    cases d with
    | dispatch => exact ends (twins_dispatch offTab _ location)
    | login => exact ends (twins_beginLogin location)
    | abort => exact fun _ _ beside => ⟨rfl, beside.alike⟩
    | redirect target => exact fun _ _ beside => ⟨rfl, beside⟩

theorem related_followWithin (offTab : OffTab n.registry) (origin : String) (left : Nat)
    (location : Location) :
    Related c.app c.app (Beside (Tab.Newest t t')) (n.followWithin t origin left location)
      (n.followWithin t' origin left location) (Same Alike) := by
  induction left generalizing location with
  | zero =>
    refine (related_visit offTab location).bind fun r r' d d' ⟨same, h⟩ => ?_
    subst same
    cases r with
    | inl result => exact ⟨rfl, h⟩
    | inr next => exact ⟨rfl, h.alike⟩
  | succ left ih =>
    refine (related_visit offTab location).bind fun r r' d d' ⟨same, h⟩ => ?_
    subst same
    cases r with
    | inl result => exact ⟨rfl, h⟩
    | inr next => exact ih next d d' h

theorem twins_navigate (offTab : OffTab n.registry) (path : String) :
    c.Twins (fun _ _ => True) (n.navigate path) (n.navigate path) :=
  related_ticket.bind fun _ _ => related_followWithin offTab _ _ _

theorem twins_acceptTerms (offTab : OffTab n.registry) :
    c.Twins (fun _ _ => True) n.acceptTerms n.acceptTerms := by
  refine related_ticket.bind fun t t' => ?_
  refine (twins_of_uses ((Terms.modest_accept n.siteMap).mono
    fun _ => AppOp.IsModest.isOffTab)).bind_same fun step => ?_
  -- Where a tab is decides where the view is mounted, and nothing else.
  have ends : Related c.app c.app (Beside (Tab.Newest t t'))
      (do
        let location := (← App.location).getD (.ofPath "")
        return .ok (← Navigator.settle step location t) : App Navigator.Result)
      (do
        let location := (← App.location).getD (.ofPath "")
        return .ok (← Navigator.settle step location t')) (Same Alike) :=
    related_location.bind fun l l' =>
      (twins_settle step _ _).bind_same fun _ _ _ beside => ⟨rfl, beside.alike⟩
  cases step with
  | navigate next => exact related_followWithin offTab _ _ _
  | external url | display view => exact ends

theorem twins_execute (offTab : OffTab n.registry) (command : Command) :
    c.Twins (fun _ _ => True) (Console.execute n command) (Console.execute n command) := by
  cases command with
  | go path => exact (twins_navigate offTab path).bind_same fun _ => .pure _
  | accept => exact (twins_acceptTerms offTab).bind_same fun _ => .pure _
  | logout => exact twins_logout.bind_same fun _ => .pure _
  | whoami => exact (twins_lift Console.whoami).bind_same fun _ => .pure _
  | refresh =>
    have refresh : Console.refresh.Uses AppOp.IsOffTab := by
      refine (TokenRefresh.modest_refresh.mono fun _ => AppOp.IsModest.isOffTab).bind ?_
      rintro (e | token) <;> trivial
    exact (twins_of_uses refresh).bind_same fun _ => .pure _
  | help | quit => exact .pure _

end holding

theorem offTab_standard (m : SiteMap) (helpLink : Option String) :
    OffTab (.standard m helpLink) := fun _ _ found ctx =>
  (Registry.modest_standard found ctx).mono fun _ => AppOp.IsModest.isOffTab

variable (c : Deployment σ τ)

/-- A command is answered alike at desks that differ in what a new console does not have. -/
theorem execute_alike (command : Command) {d d' : Desk σ τ} (h : Alike d d') :
    Same Alike (c.execute command d).1 (c.execute command d').1 (c.execute command d).2
      (c.execute command d').2 := by
  have offTab : OffTab (Navigator.ofSettings c.settings c.settings.siteMap).registry :=
    offTab_standard _ _
  have twins := twins_execute (c := c) offTab command
  unfold execute
  exact twins d d' h

/-! ### Sessions -/

theorem session_alike (commands : List Command) {d d' : Desk σ τ} (h : Alike d d') :
    Same Alike (c.session commands d).1 (c.session commands d').1 (c.session commands d).2
      (c.session commands d').2 := by
  induction commands generalizing d d' with
  | nil => exact ⟨rfl, h⟩
  | cons command commands ih =>
    obtain ⟨reply, h⟩ := c.execute_alike command h
    obtain ⟨replies, h⟩ := ih h
    exact ⟨List.cons_eq_cons.mpr ⟨reply, replies⟩, h⟩

theorem session_cons (command : Command) (commands : List Command) (d : Desk σ τ) :
    c.session (command :: commands) d =
      ((c.execute command d).1 :: (c.session commands (c.execute command d).2).1,
        (c.session commands (c.execute command d).2).2) :=
  rfl

theorem session_append (first rest : List Command) (d : Desk σ τ) :
    c.session (first ++ rest) d =
      ((c.session first d).1 ++ (c.session rest (c.session first d).2).1,
        (c.session rest (c.session first d).2).2) := by
  induction first generalizing d with
  | nil => rfl
  | cons command first ih =>
    rw [List.cons_append, session_cons, ih, session_cons]
    rfl

theorem sessions_cons (part : List Command) (parts : List (List Command)) (d : Desk σ τ) :
    c.sessions (part :: parts) d =
      ((c.session part d.reopen).1 ++ (c.sessions parts (c.session part d.reopen).2).1,
        (c.sessions parts (c.session part d.reopen).2).2) :=
  rfl

theorem alike_reopen (d : Desk σ τ) : Alike d d.reopen := ⟨[], {}, rfl, trivial⟩

theorem sessions_alike (parts : List (List Command)) {d d' : Desk σ τ} (h : Alike d d') :
    Same Alike (c.sessions parts d).1 (c.session parts.flatten d').1 (c.sessions parts d).2
      (c.session parts.flatten d').2 := by
  induction parts generalizing d d' with
  | nil => exact ⟨rfl, h⟩
  | cons part parts ih =>
    have fresh : Alike d.reopen d' := by
      obtain ⟨reported, tab, rfl, _⟩ := h
      exact ⟨reported, tab, rfl, trivial⟩
    obtain ⟨replies, h⟩ := c.session_alike part fresh
    obtain ⟨rest, h⟩ := ih h
    rw [sessions_cons, List.flatten_cons, session_append]
    exact ⟨by rw [replies, rest], h⟩

/-- **A restart changes nothing**: commands that are cut into parts, each done by a new console, get
the replies that they get from one console, and show, say, send and store the same. -/
theorem sessions_of_parts (parts : List (List Command)) (d : Desk σ τ) :
    let parted := c.sessions parts d
    let whole := c.session parts.flatten d.reopen
    parted.1 = whole.1 ∧ parted.2.mounted = whole.2.mounted ∧ parted.2.notices = whole.2.notices ∧
      parted.2.sent = whole.2.sent ∧ parted.2.storage = whole.2.storage ∧
      parted.2.backend = whole.2.backend := by
  intro parted whole
  obtain ⟨replies, reported, tab, desk, _⟩ := c.sessions_alike parts (alike_reopen d)
  have same : whole.2 = { parted.2 with reported, tab } := desk
  rw [same]
  exact ⟨replies, rfl, rfl, rfl, rfl, rfl⟩

/-- The usual settings, with a server that knows of no connections and gives out a new token. -/
def renewing : Deployment Simulation.Memory Simulation.Server :=
  Simulation.Bench.deployment { backendUrl := "http://[::1]:8080" }

def signedIn : Desk Simulation.Memory Simulation.Server where
  storage := { entries := .ofList [("session", (Session.ofClaims Run.firstUser).encode)] }
  backend :=
    { table := .ofList [
        ("GET /psama/connection/", .respond 200 (Utf8.encode "[]")),
        ("GET /psama/user/me/refresh_long_term_token",
          .respond 200 (Utf8.encode "\x7b\"userLongTermToken\":\"t2\"\x7d"))] }

def beforeRestart : List Command := [.go "/psamaui/userManagement", .whoami]

def afterRestart : List Command := [.refresh, .go "/psamaui/userProfile"]

/-- A page is shown before the restart, and after it a new token comes, which the next request
carries. -/
theorem sessions_of_parts_newToken :
    let first := renewing.session beforeRestart signedIn.reopen
    let parted := renewing.sessions [beforeRestart, afterRestart] signedIn
    let whole := renewing.session [beforeRestart, afterRestart].flatten signedIn.reopen
    (first.2.mounted = [.page .userManagement] ∧
      first.2.sent.map (·.1.authorization) = [some "Bearer t1"] ∧
      parted.2.mounted =
        [.page .userManagement, .profile "first@x.org" (some "first@x.org") .empty] ∧
      parted.2.sent.map (·.1.authorization) =
        [some "Bearer t1", some "Bearer t1", some "Bearer t2"] ∧
      parted.1.map (·.toOption) =
        [some none, some (some "first@x.org (1)"), some (some "token refreshed"), some none]) ∧
    parted.1 = whole.1 ∧ parted.2.mounted = whole.2.mounted ∧ parted.2.sent = whole.2.sent ∧
      parted.2.storage = whole.2.storage := by
  have same := renewing.sessions_of_parts [beforeRestart, afterRestart] signedIn
  dsimp only at same ⊢
  obtain ⟨replies, mounted, -, sent, storage, -⟩ := same
  exact ⟨by decide +kernel, replies, mounted, sent, storage⟩

end Deployment

end AdminConsole
