import AdminConsole.Proofs.Alone
import AdminConsole.Proofs.Recovery

/-!
# What a recovery leaves

A rejected request is recovered from where the stored texts are read, and where the connections may
be kept, but where nothing else is written and nothing is wiped (`Spares`). Only a request that is
rejected for want of a session ends one, and only where the storage has no token
(`Navigator.recover_spares`). -/

namespace AdminConsole

open Program (Runs exists_runs_runIn)

/-! ### Programs that spare the stored texts -/

/-- Nothing is written but the connections, and nothing is wiped. -/
def AppOp.IsSparing : AppOp → Prop
  | storage (.read _) | storage (.write .connections _) => True
  | storage _ => False
  | _ => True

theorem isSparing_of_isPassive {op : AppOp} (h : op.IsPassive) : op.IsSparing := by
  cases op with
  | storage op =>
    cases op with
    | read slot => trivial
    | write | wipe => exact h.elim
  | _ => trivial

/-- Every text but the connections is as it was. -/
def Scene.Keeps (s s' : Scene) : Prop :=
  ∀ key, key ≠ Slot.connections.key → s'.entries.get? key = s.entries.get? key

namespace Scene.Keeps

variable {s s' s'' : Scene}

theorem of_entries (same : s'.entries = s.entries) : s.Keeps s' :=
  fun key _ => congrArg (TextMap.get? · key) same

theorem trans (first : s.Keeps s') (next : s'.Keeps s'') : s.Keeps s'' :=
  fun key other => (next key other).trans (first key other)

end Scene.Keeps

namespace Surroundings

variable {α β : Type} {c : Surroundings} {p : App α} {f : α → App β} {Q : α → Prop}
  {R : β → Prop}

theorem keeps_answer {op : AppOp} (h : op.IsSparing) (s : Scene) : s.Keeps (c.answer op s).2 := by
  cases op with
  | storage op =>
    cases op with
    | read slot => exact .of_entries (congrArg Prod.snd (c.outage.run_read s.entries slot))
    | wipe => exact h.elim
    | write slot text =>
      cases slot with
      | connections =>
        intro key other
        simp only [answer, Outage.answer]
        split
        · rfl
        · exact (TextMap.get?_insert ..).trans (if_neg other)
      | session | redirectionUrl | notAuthorizedUrl => exact h.elim
  | mount ticket view location =>
    refine .of_entries ?_
    simp only [answer]
    split <;> rfl
  | ask | notify | dispatch | ticket | location | leave => exact .of_entries rfl

theorem keeps_run (h : p.Uses AppOp.IsSparing) (s : Scene) : s.Keeps (c.run p s).2 := by
  induction p generalizing s with
  | done a => exact .of_entries rfl
  | step op next ih => exact (keeps_answer h.1 s).trans (ih (c.answer op s).1 (h.2 _) _)

/-- The program keeps what it finds, and ends in what `Q` says. -/
def Spares (c : Surroundings) (p : App α) (Q : α → Prop) : Prop :=
  ∀ s : Scene, s.Keeps (c.run p s).2 ∧ Q (c.run p s).1

theorem Spares.of_runs (h : p.Uses AppOp.IsSparing) (ends : ∀ es a, Runs p es a → Q a) :
    c.Spares p Q := by
  intro s
  obtain ⟨es, run, -⟩ := exists_runs_runIn c.answer p s
  exact ⟨keeps_run h s, ends es _ run⟩

theorem Spares.of_uses (h : p.Uses AppOp.IsSparing) : c.Spares p fun _ => True :=
  .of_runs h fun _ _ _ => trivial

theorem Spares.pure {a : α} (h : Q a) : c.Spares (pure a) Q := fun _ => ⟨.of_entries rfl, h⟩

theorem Spares.bind (h : c.Spares p Q) (next : ∀ a, Q a → c.Spares (f a) R) :
    c.Spares (p >>= f) R := by
  intro s
  rw [run_bind]
  obtain ⟨first, met⟩ := h s
  obtain ⟨rest, ends⟩ := next _ met (c.run p s).2
  exact ⟨first.trans rest, ends⟩

end Surroundings

open Surroundings

/-! ### The gate, the views and a login -/

/-- A part that makes something of what is read in a slot. -/
theorem sparing_read {α : Type} (f : Except StorageError (Option String) → α) (slot : Slot) :
    (liftM (f <$> Storage.read slot) : App α).Uses AppOp.IsSparing :=
  App.uses_lift_of ⟨trivial, fun _ => trivial⟩

theorem sparing_session : (liftM SessionStore.get : App (Option Session)).Uses AppOp.IsSparing := by
  rw [get_eq_map]
  exact sparing_read _ _

namespace Gate

theorem sparing_loadConnections : loadConnections.Uses AppOp.IsSparing := by
  refine ⟨trivial, fun result => ?_⟩
  cases result with
  | error e => trivial
  | ok connections =>
    have kept : (TabNotes.cacheConnections connections).Uses fun op =>
        (AppOp.storage op).IsSparing := ⟨trivial, fun _ => trivial⟩
    exact (App.uses_lift_of kept).discard.bind fun _ => trivial

theorem sparing_check (g : Gate) (route : Route) : (g.check route).Uses AppOp.IsSparing := by
  unfold check
  rw [validUser?_eq, acceptedTos_eq]
  split
  · trivial
  refine (sparing_read _ _).bind fun user => ?_
  split
  · trivial
  split
  · trivial
  refine (sparing_read _ _).bind fun accepted => ?_
  split
  · rw [passConnections, connections?_eq]
    refine (sparing_read _ _).bind fun connections => ?_
    split
    · trivial
    refine sparing_loadConnections.bind fun loaded => ?_
    cases loaded <;> trivial
  · trivial

/-- The gate sends on to the terms only. -/
theorem spares_check (c : Surroundings) (g : Gate) (route : Route) :
    c.Spares (g.check route) fun d => ∀ target, d = .redirect target → target = .tos :=
  .of_runs (g.sparing_check route) fun _ _ run target sent => ((runs_check run).2.2 target sent).2.1

end Gate

theorem Login.sparing_initiate (l : Login) : l.initiate.Uses AppOp.IsSparing := by
  unfold initiate
  split
  · trivial
  · exact ⟨trivial, fun _ => trivial⟩

namespace Navigator

variable {n : Navigator} {c : Surroundings} {helpLink : Option String} {location : Location}
  {ticket : Nat} {route : Route} {s : Scene}

theorem sparing_beginLogin (n : Navigator) (location : Location) (ticket : Nat) :
    (n.beginLogin location ticket).Uses AppOp.IsSparing := by
  refine n.login.sparing_initiate.bind fun step => ?_
  cases step with
  | display view => exact ⟨trivial, fun mounted => by cases mounted <;> trivial⟩
  | navigate | external => trivial

theorem sparing_dispatch (made : ∀ ctx, (n.registry.render route ctx).Uses AppOp.IsSparing)
    (location : Location) (ticket : Nat) :
    (n.dispatch route location ticket).Uses AppOp.IsSparing := by
  refine sparing_session.bind fun session => ?_
  refine ⟨trivial, fun _ => (made _).bind fun view => ?_⟩
  exact ⟨trivial, fun _ => trivial⟩

/-! ### Navigations that spare the stored texts -/

/-- A recovery leads to the page that says access is denied or to the terms. -/
inductive IsRefuge : Route → Prop
  | denied : IsRefuge .notAuthorized
  | terms : IsRefuge .tos

theorem sparing_render (registry : n.registry = .standard n.siteMap helpLink)
    (refuge : IsRefuge route) (ctx : RenderContext) :
    (n.registry.render route ctx).Uses AppOp.IsSparing := by
  rw [registry]
  refine Registry.uses_render (fun handler found ctx => ?_) ctx
  cases refuge with
  | denied => exact Option.some.inj found ▸ trivial
  | terms =>
    have passive := Handler.isPassive_terms ctx
    exact Option.some.inj found ▸ passive.mono fun op => isSparing_of_isPassive

/-- A visit at such a route is sent on to the terms only. -/
theorem spares_visit (registry : n.registry = .standard n.siteMap helpLink)
    (refuge : IsRefuge (n.siteMap.resolve location.path)) :
    c.Spares (n.visit location ticket) fun r =>
      ∀ next, r = .inr next → IsRefuge (n.siteMap.resolve next.path) := by
  unfold visit
  generalize n.siteMap.resolve location.path = route at refuge ⊢
  split
  · exact nomatch refuge
  · exact nomatch refuge
  refine (n.gate.spares_check c _).bind fun d onward => ?_
  cases d with
  | dispatch =>
    have shown := sparing_dispatch (sparing_render registry refuge) location ticket
    exact (Spares.of_uses shown).bind fun _ _ => .pure nofun
  | login =>
    have asked := n.sparing_beginLogin location ticket
    exact (Spares.of_uses asked).bind fun _ _ => .pure nofun
  | abort => exact .pure nofun
  | redirect target =>
    obtain rfl := onward target rfl
    refine .pure fun next sent => ?_
    obtain rfl := Sum.inr.inj sent
    rw [Location.ofPath, n.siteMap.resolve_pathFor]
    exact .terms

theorem spares_followWithin (registry : n.registry = .standard n.siteMap helpLink)
    (origin : String) (left : Nat) (refuge : IsRefuge (n.siteMap.resolve location.path)) :
    c.Spares (n.followWithin ticket origin left location) fun _ => True := by
  induction left generalizing location with
  | zero =>
    refine (spares_visit registry refuge).bind fun r _ => ?_
    cases r <;> exact .pure trivial
  | succ left ih =>
    refine (spares_visit registry refuge).bind fun r onward => ?_
    cases r with
    | inl result => exact .pure trivial
    | inr next => exact ih (onward next rfl)

theorem spares_follow (registry : n.registry = .standard n.siteMap helpLink)
    (refuge : IsRefuge (n.siteMap.resolve location.path)) :
    c.Spares (n.follow location ticket) fun _ => True :=
  spares_followWithin registry _ _ refuge

theorem spares_navigateTo (unmarked : n.siteMap.IsUnmarked)
    (registry : n.registry = .standard n.siteMap helpLink) (refuge : IsRefuge route) :
    c.Spares (n.navigateTo route) fun _ => True := by
  rw [navigateTo, navigate, SiteMap.parse_pathFor unmarked]
  have issued : App.ticket.Uses AppOp.IsSparing := ⟨trivial, fun _ => trivial⟩
  refine (Spares.of_uses issued).bind fun ticket _ => ?_
  refine spares_follow registry ?_
  rwa [Location.ofPath, n.siteMap.resolve_pathFor]

/-! ### Where a recovery ends -/

/-- A logout that cannot empty the storage leaves the texts and the location. -/
theorem run_logout (n : Navigator) (c : Surroundings) (s : Scene) :
    c.run n.logout s = match c.outage.wipes with
      | some e => (.error (.session (.storage e)), { s with tab := s.tab.issue.2 })
      | none => (.ok (.external (n.siteMap.pathFor .logout)),
          { s with entries := .empty, tab := s.tab.issue.2.leave }) := by
  have issued : c.run (discard App.ticket) s = (⟨⟩, { s with tab := s.tab.issue.2 }) := rfl
  rw [logout, run_bind, issued, run_bind, run_lift, Outage.run_logout]
  cases c.outage.wipes <;> rfl

theorem run_dispatch_denied (registry : n.registry = .standard n.siteMap helpLink)
    (newest : s.tab.accepts ticket = true) :
    c.run (n.dispatch .notAuthorized location ticket) s = (.rendered (.denied helpLink),
      { s with
        tab := { s.tab with location := some location }
        dispatched := s.dispatched ++ [⟨.notAuthorized, location, c.outage.session? s.entries⟩]
        mounted := s.mounted ++ [.denied helpLink] }) := by
  have made : ∀ ctx, n.registry.render .notAuthorized ctx = pure (.denied helpLink) := by
    intro ctx
    rw [registry, Registry.render]
    exact ite_self _
  simp only [dispatch, mount, made, run_bind, run_lift, Outage.run_get, run_dispatch, run_pure]
  rw [run_mount c]
  · rfl
  · exact newest

theorem run_follow_denied (isPublic : n.siteMap.isPublic .notAuthorized = true)
    (registry : n.registry = .standard n.siteMap helpLink)
    (resolved : n.siteMap.resolve location.path = .notAuthorized)
    (newest : s.tab.accepts ticket = true) :
    c.run (n.follow location ticket) s = (.ok (.rendered (.denied helpLink)),
      { s with
        tab := { s.tab with location := some location }
        dispatched := s.dispatched ++ [⟨.notAuthorized, location, c.outage.session? s.entries⟩]
        mounted := s.mounted ++ [.denied helpLink] }) := by
  rw [follow, maxRedirects, followWithin, visit_denied isPublic resolved]
  simp only [run_bind, run_pure, run_dispatch_denied registry newest]

theorem run_recover_of_token (token : (c.outage.token? s.entries).isSome) :
    c.run (n.recover .unauthenticated) s =
      match c.outage.note? .notAuthorizedUrl s.entries with
      | some url => (.ok (.external url), s)
      | none => c.run (n.follow (n.deniedLocation s.tab.location) s.tab.issue.1)
          { s with tab := s.tab.issue.2 } := by
  have there : (c.outage.token? s.entries).isNone = false := by
    rwa [Option.isNone_eq_false_iff]
  have read : c.run (liftM TabNotes.notAuthorizedUrl?) s =
      (c.outage.note? .notAuthorizedUrl s.entries, s) := by
    rw [run_lift, TabNotes.notAuthorizedUrl?, Outage.run_note]
  simp only [recover, run_bind, run_lift, Outage.run_token?, there, Bool.false_eq_true, if_false,
    read]
  cases c.outage.note? .notAuthorizedUrl s.entries with
  | some url => rfl
  | none => simp only [run_bind, run_location, run_ticket]

theorem run_recover_of_no_token (token : c.outage.token? s.entries = none) :
    c.run (n.recover .unauthenticated) s = c.run n.logout s := by
  simp only [recover, run_bind, run_lift, Outage.run_token?, token]
  rfl

/-- A recovery where there is a token keeps every text but the connections. -/
theorem keeps_recover (unmarked : n.siteMap.IsUnmarked)
    (registry : n.registry = .standard n.siteMap helpLink)
    (token : (c.outage.token? s.entries).isSome) (rejection : Rejection) :
    s.Keeps (c.run (n.recover rejection) s).2 := by
  cases rejection with
  | forbidden => exact (spares_navigateTo unmarked registry .denied s).1
  | termsNotAccepted => exact (spares_navigateTo unmarked registry .terms s).1
  | unauthenticated =>
    rw [run_recover_of_token token]
    cases c.outage.note? .notAuthorizedUrl s.entries with
    | some url => exact .of_entries rfl
    | none =>
      have refuge : IsRefuge (n.siteMap.resolve (n.deniedLocation s.tab.location).path) := by
        rw [deniedLocation, n.siteMap.resolve_pathFor]
        exact .denied
      have issued : s.Keeps { s with tab := s.tab.issue.2 } := .of_entries rfl
      exact issued.trans (spares_follow registry refuge _).1

/-- **A recovery does no harm to a session that has a token.** Whatever the rejection, it leaves
every stored text but the connections as it was. Without a token a request that needs a session ends
what there is: the storage is emptied and the console left, or, if the storage cannot be emptied,
nothing is changed. With a token such a request leads to where the hint says, and nothing is shown,
or the page that says access is denied is shown with the parameters of where the user was, and
nothing is written. -/
theorem recover_spares (unmarked : n.siteMap.IsUnmarked)
    (registry : n.registry = .standard n.siteMap helpLink) (c : Surroundings) (s : Scene) :
    let r := c.run (n.recover .unauthenticated) s
    ((c.outage.token? s.entries).isSome → ∀ rejection (slot : Slot), slot ≠ .connections →
      (c.run (n.recover rejection) s).2.entries.get? slot.key = s.entries.get? slot.key) ∧
    (c.outage.token? s.entries = none →
      (c.outage.wipes = none ∧ r.1 = .ok (.external (n.siteMap.pathFor .logout)) ∧
        r.2.entries = .empty ∧ r.2.tab.location = none) ∨
      (∃ e, c.outage.wipes = some e ∧ r.1 = .error (.session (.storage e)) ∧
        r.2.entries = s.entries ∧ r.2.tab.location = s.tab.location)) ∧
    ((c.outage.token? s.entries).isSome → n.siteMap.isPublic .notAuthorized = true →
      (∀ url, c.outage.note? .notAuthorizedUrl s.entries = some url →
        r = (.ok (.external url), s)) ∧
      (c.outage.note? .notAuthorizedUrl s.entries = none → ∃ there : Location,
        there.path = n.siteMap.pathFor .notAuthorized ∧
        (∀ here, s.tab.location = some here → there.params = here.params) ∧
        (s.tab.location = none → there.params = .empty) ∧
        r = (.ok (.rendered (.denied helpLink)),
          { s with
            tab := ⟨s.tab.newest + 1, some there⟩
            dispatched :=
              s.dispatched ++ [⟨.notAuthorized, there, c.outage.session? s.entries⟩]
            mounted := s.mounted ++ [.denied helpLink] }))) := by
  intro r
  refine ⟨fun token rejection slot other => ?_, fun token => ?_, fun token isPublic => ?_⟩
  · have apart : slot.key ≠ Slot.connections.key := fun same => other (Slot.key_injective same)
    exact keeps_recover unmarked registry token rejection _ apart
  · have ended : r = _ := (run_recover_of_no_token token).trans (run_logout n c s)
    cases wipes : c.outage.wipes with
    | none =>
      rw [wipes] at ended
      exact .inl ⟨rfl, by rw [ended], by rw [ended], by rw [ended]; rfl⟩
    | some e =>
      rw [wipes] at ended
      exact .inr ⟨e, rfl, by rw [ended], by rw [ended], by rw [ended]; rfl⟩
  · have recovered : r = _ := run_recover_of_token token
    refine ⟨fun url hint => ?_, fun hint => ⟨n.deniedLocation s.tab.location, rfl, ?_, ?_, ?_⟩⟩
    · rw [recovered, hint]
    · rintro here located
      rw [deniedLocation, located]
      rfl
    · intro nowhere
      rw [deniedLocation, nowhere]
      rfl
    · have newest : s.tab.issue.2.accepts s.tab.issue.1 = true := beq_self_eq_true _
      rw [recovered, hint]
      exact run_follow_denied isPublic registry (n.siteMap.resolve_pathFor .notAuthorized) newest

end Navigator

/-- The first user looks at the roles. -/
def Scene.atRoles : Scene :=
  { Scene.signedIn with tab := ⟨4, some ⟨"/psamaui/roleManagement", .ofList [("page", "2")]⟩⟩ }

/-- The page that says access is denied, with the parameters of where the first user was. -/
def deniedRoles : Location := ⟨"/psamaui/not_authorized", .ofList [("page", "2")]⟩

theorem Navigator.recover_spares_atRoles :
    let c : Surroundings := { backend := Run.backendOf Run.firstUser }
    let r := c.run (Navigator.usual.recover .unauthenticated) .atRoles
    let r' := c.run (Navigator.usual.recover .unauthenticated)
      { Scene.atRoles with entries := .empty }
    r.1 = .ok (.rendered (.denied none)) ∧ r.2.tab = ⟨5, some deniedRoles⟩ ∧
      r.2.dispatched = [⟨.notAuthorized, deniedRoles, some (.ofClaims Run.firstUser)⟩] ∧
      r.2.entries.get? Slot.session.key = some (Session.ofClaims Run.firstUser).encode ∧
      r'.1 = .ok (.external "/psamaui/logout") ∧ r'.2.tab.location = none := by
  intro c r r'
  have unmarked : Navigator.usual.siteMap.IsUnmarked :=
    SiteMap.isUnmarked_ofBase (by decide) (by decide)
  have stored : c.outage.session? Scene.atRoles.entries = some (.ofClaims Run.firstUser) :=
    (Outage.session?_of_readable _ rfl).trans (storedSession?_insert _ _)
  have token : (c.outage.token? Scene.atRoles.entries).isSome := by
    rw [Outage.token?_eq, stored]
    decide
  have unhinted : c.outage.note? .notAuthorizedUrl Scene.atRoles.entries = none := by
    rw [Outage.note?_eq]
    decide +kernel
  obtain ⟨kept, -, shown⟩ := recover_spares unmarked rfl c .atRoles
  obtain ⟨there, path, params, -, ended⟩ := (shown token rfl).2 unhinted
  obtain rfl : there = deniedRoles := by
    obtain ⟨_, _⟩ := there
    obtain rfl := path
    obtain rfl := params _ rfl
    decide +kernel
  have same := kept token .unauthenticated .session (by decide)
  obtain ⟨-, left, -⟩ :=
    recover_spares unmarked rfl c { Scene.atRoles with entries := .empty }
  obtain ⟨-, away, -, nowhere⟩ | ⟨e, fails, -⟩ := left (by decide +kernel)
  · have path : Navigator.usual.siteMap.pathFor .logout = "/psamaui/logout" := by decide +kernel
    have ended : r = _ := ended
    refine ⟨by rw [ended], by rw [ended]; rfl, by rw [ended, stored]; rfl, ?_, path ▸ away, nowhere⟩
    rw [same]
    decide +kernel
  · exact nomatch fails

end AdminConsole
