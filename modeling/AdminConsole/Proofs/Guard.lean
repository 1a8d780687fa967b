import AdminConsole.Navigation.Handler
import AdminConsole.Proofs.Program
import Mathlib.Data.List.Induction

/-!
# The guard of the handlers

Of the handlers that are registered for a route one after the other the last one makes its view
(`Registry.handlers_register`). It makes it for a session that has every permission the route
requires; anyone else is denied, and nothing else is done (`Registry.render_guarded`). It comes to
the same whether the guard is looked for when the view is made, or every handler is put behind the
guard when it is registered (`Registry.render_eq_behindGuard`). -/

namespace AdminConsole

open Program

/-- The route requires a permission that the session, if there is one, does not have. -/
def SiteMap.Denies (m : SiteMap) (route : Route) (session : Option Session) : Prop :=
  ∃ tag ∈ m.required route, ∀ s, session = some s → tag ∉ s.permissions

theorem SiteMap.required_setPublic (m : SiteMap) (route route' : Route) (isPublic : Bool) :
    (m.setPublic route' isPublic).required route = m.required route := by
  by_cases same : route = route' <;> simp [setPublic, update, required, same]

/-- A handler and the route that it is registered for. -/
structure Registration where
  route : Route
  handler : Handler

namespace Registry

/-- Registers handlers one after the other. -/
def register (r : Registry) (os : List Registration) : Registry :=
  os.foldl (fun r o => r.withHandler o.route o.handler) r

/-- The handler that was registered for the route last. -/
inductive Registered (helpLink : Option String) (os : List Registration) (route : Route) :
    Handler → Prop
  | standard {h : Handler} (isStandard : standardHandler helpLink route = some h)
    (kept : ∀ o ∈ os, o.route ≠ route) : Registered helpLink os route h
  | replaced {h : Handler} (before after : List Registration)
    (split : os = before ++ ⟨route, h⟩ :: after) (kept : ∀ o ∈ after, o.route ≠ route) :
    Registered helpLink os route h

variable {r : Registry} {route : Route} {h : Handler} {os : List Registration}
  {o : Registration} {helpLink : Option String} {m : SiteMap} {session : Option Session}

/-! ### One registration after the other -/

theorem handlers_withHandler (r : Registry) (o : Registration) (route : Route) :
    (r.withHandler o.route o.handler).handlers route =
      if route = o.route then some o.handler else r.handlers route := rfl

theorem register_concat :
    r.register (os ++ [o]) = (r.register os).withHandler o.route o.handler := by
  rw [register, List.foldl_append]
  rfl

/-- The site map and the link are those of the start. -/
theorem register_frame (r : Registry) (os : List Registration) :
    (r.register os).siteMap = r.siteMap ∧ (r.register os).helpLink = r.helpLink := by
  induction os using List.reverseRecOn with
  | nil => exact ⟨rfl, rfl⟩
  | append_singleton os o ih =>
    rw [register_concat]
    exact ih

theorem registered_concat : Registered helpLink (os ++ [o]) route h ↔
    (o.route = route ∧ o.handler = h) ∨ (o.route ≠ route ∧ Registered helpLink os route h) := by
  constructor
  · rintro (⟨isStandard, kept⟩ | ⟨before, after, split, kept⟩)
    · rw [List.forall_mem_append, List.forall_mem_singleton] at kept
      exact .inr ⟨kept.2, .standard isStandard kept.1⟩
    · -- The last registration is the one for the route, or it comes after it.
      cases after using List.reverseRecOn with
      | nil =>
        obtain rfl : o = ⟨route, h⟩ := List.singleton_inj.mp (List.append_inj_right' split rfl)
        exact .inl ⟨rfl, rfl⟩
      | append_singleton after o' =>
        rw [← List.cons_append, ← List.append_assoc] at split
        obtain ⟨rfl, eq⟩ := List.append_inj' split rfl
        obtain rfl := List.singleton_inj.mp eq
        rw [List.forall_mem_append, List.forall_mem_singleton] at kept
        exact .inr ⟨kept.2, .replaced before after rfl kept.1⟩
  · rintro (⟨rfl, rfl⟩ | ⟨other, ⟨isStandard, kept⟩ | ⟨before, after, rfl, kept⟩⟩)
    · exact .replaced os [] rfl (by simp)
    · refine .standard isStandard ?_
      rw [List.forall_mem_append, List.forall_mem_singleton]
      exact ⟨kept, other⟩
    · refine .replaced before (after ++ [o]) (by simp) ?_
      rw [List.forall_mem_append, List.forall_mem_singleton]
      exact ⟨kept, other⟩

/-- **A registry keeps the handler that was registered for a route last.** -/
theorem handlers_register (m : SiteMap) (helpLink : Option String) (os : List Registration) :
    ((standard m helpLink).register os).handlers route = some h ↔
      Registered helpLink os route h := by
  induction os using List.reverseRecOn with
  | nil =>
    constructor
    · intro found
      exact .standard found (by simp)
    · rintro (⟨isStandard, -⟩ | ⟨before, after, split, -⟩)
      · exact isStandard
      · simp at split
  | append_singleton os o ih =>
    rw [register_concat, registered_concat, ← ih, handlers_withHandler]
    by_cases same : o.route = route
    · simp [same]
    · simp [same, Ne.symm same]

theorem exists_registered_iff (helpLink : Option String) (os : List Registration)
    (route : Route) : (∃ h, Registered helpLink os route h) ↔
      (route ≠ .login ∧ route ≠ .logout) ∨ ∃ o ∈ os, o.route = route := by
  induction os using List.reverseRecOn with
  | nil =>
    have found : ∀ h, ((standard (.ofBase "") helpLink).register []).handlers route = some h ↔
        Registered helpLink [] route h := fun h => handlers_register (.ofBase "") helpLink []
    simp only [← found]
    cases route <;> simp [register, standard, standardHandler]
  | append_singleton os o ih =>
    by_cases same : o.route = route
    · simp [registered_concat, same]
    · simp [registered_concat, same, ih, or_and_right, exists_or]

/-! ### The guard -/

theorem missing_eq_nil_iff : r.missing route session = [] ↔ ¬ r.siteMap.Denies route session := by
  cases session with
  | none =>
    simp only [missing, SiteMap.Denies, List.eq_nil_iff_forall_not_mem]
    simp [Membership.mem]
  | some s => simp [missing, SiteMap.Denies, Session.missing, Session.hasPermission,
      TextSet.contains, List.filter_eq_nil_iff, Membership.mem]

/-- The handler as it is registered behind the guard; where nothing is required there is none. -/
def behindGuard (r : Registry) (route : Route) (h : Handler) : Handler :=
  if (r.siteMap.required route).isEmpty then h
  else fun ctx =>
    if (r.missing route ctx.session).isEmpty then h ctx else return .denied r.helpLink

/-- The handlers of a registry, each put behind the guard when it is registered. -/
def guardedHandlers (r : Registry) (os : List Registration) : Route → Option Handler :=
  os.foldl (fun handlers o route => if route = o.route then some (r.behindGuard o.route o.handler)
    else handlers route) fun route => (r.handlers route).map (r.behindGuard route)

theorem guardedHandlers_eq (r : Registry) (os : List Registration) (route : Route) :
    r.guardedHandlers os route = ((r.register os).handlers route).map (r.behindGuard route) := by
  induction os using List.reverseRecOn with
  | nil => rfl
  | append_singleton os o ih =>
    rw [guardedHandlers] at ih ⊢
    rw [List.foldl_append, List.foldl_cons, List.foldl_nil, register_concat, handlers_withHandler]
    by_cases same : route = o.route
    · rw [if_pos same, if_pos same, same]
      rfl
    · rw [if_neg same, if_neg same, ih]

theorem render_of_handlers (found : r.handlers route = some h) (ctx : RenderContext) :
    r.render route ctx = r.behindGuard route h ctx := by
  rw [render, found, behindGuard]
  by_cases free : (r.siteMap.required route).isEmpty
  · have nothing : r.missing route ctx.session = [] := by
      rw [missing_eq_nil_iff]
      rintro ⟨tag, required, -⟩
      exact absurd (List.isEmpty_iff.mp free) (List.ne_nil_of_mem required)
    simp only [nothing, List.isEmpty_nil, if_true, if_pos free]
  · rw [if_neg free]

/-- **To look for permissions when a view is made is to put every handler behind the guard when it
is registered.** -/
theorem render_eq_behindGuard (r : Registry) (os : List Registration) (route : Route)
    (ctx : RenderContext) : (r.register os).render route ctx =
      ((r.guardedHandlers os route).getD Handler.page) ctx := by
  rw [guardedHandlers_eq]
  cases found : (r.register os).handlers route with
  | none =>
    rw [render, found]
    rfl
  | some h =>
    obtain ⟨siteMap, helpLink⟩ := r.register_frame os
    have missing : (r.register os).missing = r.missing := by
      unfold Registry.missing
      rw [siteMap]
    rw [render_of_handlers found, behindGuard, siteMap, helpLink, missing]
    rfl

/-- **The guard is kept, whatever handlers are registered.** Where the session lacks a permission
that the route requires, or there is none, access is denied and no operation is carried out;
otherwise the view is made by the handler that was registered last. It does not matter to the guard
whether a route is public, nor which privileges the session has. -/
theorem render_guarded (m : SiteMap) (helpLink : Option String) (os : List Registration)
    (route : Route) (ctx : RenderContext) :
    ((∃ h, Registered helpLink os route h) ↔
      (route ≠ .login ∧ route ≠ .logout) ∨ ∃ o ∈ os, o.route = route) ∧
    ((standard m helpLink).register os).render route ctx =
      (((standard m helpLink).guardedHandlers os route).getD Handler.page) ctx ∧
    (∀ h, Registered helpLink os route h →
      (m.Denies route ctx.session → ∀ es view,
        Runs (((standard m helpLink).register os).render route ctx) es view ↔
          es = [] ∧ view = .denied helpLink) ∧
      (¬ m.Denies route ctx.session →
        ((standard m helpLink).register os).render route ctx = h ctx)) ∧
    ∀ route' isPublic privileges, (m.setPublic route' isPublic).Denies route
      (ctx.session.map fun s => { s with privileges }) ↔ m.Denies route ctx.session := by
  obtain ⟨siteMap, link⟩ := (standard m helpLink).register_frame os
  refine ⟨exists_registered_iff helpLink os route, render_eq_behindGuard _ os route ctx, ?_, ?_⟩
  · intro h registered
    have found := (handlers_register m helpLink os).mpr registered
    have granted : ((standard m helpLink).register os).missing route ctx.session = [] ↔
        ¬ m.Denies route ctx.session := by
      rw [missing_eq_nil_iff, siteMap]
      rfl
    constructor
    · intro denied es view
      have lacking := mt granted.mp (not_not_intro denied)
      rw [render, found]
      simp only [List.isEmpty_iff, if_neg lacking, link]
      exact runs_pure
    · intro notDenied
      rw [render, found]
      simp only [granted.mpr notDenied, List.isEmpty_nil, if_true]
  · intro route' isPublic privileges
    rw [SiteMap.Denies, SiteMap.Denies, SiteMap.required_setPublic]
    cases ctx.session with
    | none => simp
    | some s => simp

/-- A login that is public and requires a tag. -/
def guestLogin : SiteMap :=
  (SiteMap.ofBase "").setPublic .login true |>.setRequired .login (.ofList ["guest"])

/-- Another handler for the roles, and two for the login. -/
def replacements : List Registration :=
  [⟨.login, Handler.terms⟩, ⟨.roleManagement, Handler.terms⟩, ⟨.login, Handler.page⟩]

theorem render_guarded_replacements :
    let r := (standard guestLogin none).register replacements
    let privileged : Session := { privileges := .ofList [superAdmin] }
    let guest : Session := { permissions := .ofList ["guest"] }
    (∀ es view, Runs (r.render .roleManagement ⟨.roleManagement, .ofPath "", some privileged⟩)
      es view ↔ es = [] ∧ view = .denied none) ∧
    (∀ es view, Runs (r.render .login ⟨.login, .ofPath "", none⟩) es view ↔
      es = [] ∧ view = .denied none) ∧
    r.render .login ⟨.login, .ofPath "", some guest⟩ = pure (.page .login) := by
  intro r privileged guest
  have guarded := fun route ctx => (render_guarded guestLogin none replacements route ctx).2.2.1
  have roles : Registered none replacements .roleManagement Handler.terms :=
    .replaced [_] [_] rfl (by simp)
  have login : Registered none replacements .login Handler.page := .replaced [_, _] [] rfl (by simp)
  refine ⟨(guarded _ _ _ roles).1 ⟨superAdmin, by decide, ?_⟩,
    (guarded _ _ _ login).1 ⟨"guest", by decide, nofun⟩, (guarded _ _ _ login).2 ?_⟩
  · rintro _ ⟨⟩
    decide
  · rintro ⟨tag, required, lacks⟩
    have members : (guestLogin.required .login).toList = ["guest"] := by decide
    obtain rfl : tag = "guest" := List.mem_singleton.mp (members ▸ required)
    exact lacks guest rfl (by decide)

end Registry

end AdminConsole
