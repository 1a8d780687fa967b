import AdminConsole.Proofs.Conduct.Steps

/-!
# The conduct of the gate and the handlers

The gate lets a route through only after it has seen what `Admitted` says. A handler goes on from
there without a ticket and without a view; one that stands in for the standard handler of its route
only looks and asks (`Handler.IsPassive`), and so does any that always shows the same view. -/

namespace AdminConsole

open Program History

section gate

variable {n : Navigator} {o : Operation} {i : Nat} {ts : List Nat} {cs : List RenderContext}
  {h : History}

theorem wp_loadConnections (hg : Going i ts cs h) {Q : Bool → History → Prop}
    (hQ : ∀ a (kept others : History) (result : Call.connections.Result),
      (kept = [] ∨ ∃ text k, kept = [⟨i, .storage (.write .connections text), k⟩]) →
      (∀ e ∈ others, e.task ≠ i) →
      Going i ts cs (kept ++ ⟨i, .ask .connections, result⟩ :: (others ++ h)) →
        Q a (kept ++ ⟨i, .ask .connections, result⟩ :: (others ++ h))) :
    wp ((conduct n).turn o i) Q Gate.loadConnections h := by
  unfold Gate.loadConnections
  rw [wp_bind, App.wp_ask]
  refine turn_ask hg (fun eq => by simp at eq) fun others result foreign hg => ?_
  cases result with
  | error e => exact hQ false [] others (.error e) (.inl rfl) foreign hg
  | ok connections =>
    simp only [wp_bind, wp_pure, wp_discard, App.wp_lift]
    refine wp_cacheConnections hg fun _ text k hg => ?_
    exact hQ true [_] others (.ok connections) (.inr ⟨text, k, rfl⟩) foreign hg

variable (g : Gate) (route : Route)

/-- The connections, once the session has passed. -/
theorem wp_passConnections {a b : Except StorageError (Option String)} {old : History}
    (hg : Going i ts cs
      (⟨i, .storage (.read .session), b⟩ :: ⟨i, .storage (.read .session), a⟩ :: old))
    (signedIn : IsSignedIn (sessionIn a)) (accepted : HasAccepted (sessionIn b))
    {Q : Gate.Decision → History → Prop}
    (hQ : ∀ d h', d = .dispatch ∨ d = .abort → Going i ts cs h' → Admitted g i route h' → Q d h') :
    wp ((conduct n).turn o i) Q g.passConnections
      (⟨i, .storage (.read .session), b⟩ :: ⟨i, .storage (.read .session), a⟩ :: old) := by
  unfold Gate.passConnections TabNotes.connections?
  simp only [wp_bind, App.wp_lift, wp_note, wp_pure]
  refine turn_read hg fun c hg => ?_
  split
  · exact hQ _ _ (.inl rfl) hg (.cached signedIn accepted)
  · rw [wp_bind]
    refine wp_loadConnections hg fun loaded kept others result hk foreign hg => ?_
    have admitted : Admitted g i route (kept ++ ⟨i, .ask .connections, result⟩ :: (others ++
        ⟨i, .storage (.read .connections), c⟩ :: ⟨i, .storage (.read .session), b⟩ ::
          ⟨i, .storage (.read .session), a⟩ :: old)) :=
      .loaded signedIn accepted hk foreign
    cases loaded with
    | true => exact hQ _ _ (.inl rfl) hg admitted
    | false =>
      by_cases required : g.policy = .required
      · simp only [required, Bool.false_eq_true, if_false, if_true, wp_pure]
        exact hQ _ _ (.inr rfl) hg admitted
      · simp only [required, Bool.false_eq_true, if_false, wp_pure]
        exact hQ _ _ (.inl rfl) hg admitted

theorem isSignedIn_of_validUser {session : Option Session}
    (h : (session.bind fun s => if s.isAuthenticated then s.username? else none).isNone = false) :
    IsSignedIn session := by
  cases session with
  | none => simp at h
  | some s =>
    refine ⟨s, rfl, ?_⟩
    cases absent : s.isAuthenticated with
    | true => rfl
    | false => simp [absent] at h

/-- **The gate lets a route through only as `Admitted` says, and sends on to the terms only.** -/
theorem wp_check (hg : Going i ts cs h) {Q : Gate.Decision → History → Prop}
    (hQ : ∀ d h', Going i ts cs h' → (d = .dispatch → Admitted g i route h') →
      (∀ target, d = .redirect target → target = .tos) → Q d h') :
    wp ((conduct n).turn o i) Q (g.check route) h := by
  unfold Gate.check
  split
  · next isPublic => exact hQ _ _ hg (fun _ => .isPublic isPublic) fun target eq => nomatch eq
  · simp only [SessionStore.validUser?, SessionStore.acceptedTos, wp_bind, App.wp_lift, wp_get,
      wp_pure]
    refine turn_read hg fun a hg => ?_
    split
    · exact hQ _ _ hg (fun eq => nomatch eq) fun target eq => nomatch eq
    · next valid =>
      have signedIn := isSignedIn_of_validUser (Bool.eq_false_iff.mpr valid)
      split
      · next isTos => exact hQ _ _ hg (fun _ => .terms isTos signedIn) fun target eq => nomatch eq
      · simp only [wp_bind, App.wp_lift, wp_get, wp_pure]
        refine turn_read hg fun b hg => ?_
        split
        · next accepts =>
          have accepted : HasAccepted (sessionIn b) := by
            rw [Option.any_eq_true] at accepts
            exact accepts
          refine wp_passConnections g route hg signedIn accepted fun d h' which hg admitted => ?_
          refine hQ _ _ hg (fun _ => admitted) fun target eq => ?_
          rcases which with rfl | rfl <;> exact nomatch eq
        · exact hQ _ _ hg (fun eq => nomatch eq) fun target eq =>
            (Gate.Decision.redirect.inj eq).symm

end gate

/-! ### Handlers -/

/-- The operation leaves no trace on the storage or the tab. -/
def AppOp.IsPassive : AppOp → Prop
  | storage (.read _) | notify _ | ask .latestTerms | ask .currentUser | ask .connections => True
  | _ => False

def Handler.IsPassive (handler : Handler) : Prop := ∀ ctx, (handler ctx).Uses AppOp.IsPassive

theorem Handler.isPassive_fixed (view : View) : (Handler.fixed view).IsPassive := fun _ => trivial

theorem Handler.isPassive_page : Handler.page.IsPassive := fun _ => trivial

theorem Handler.isPassive_terms : Handler.terms.IsPassive := by
  intro ctx
  refine ⟨trivial, fun result => ?_⟩
  cases result with
  | ok content => trivial
  | error e => exact ⟨trivial, fun _ => trivial⟩

/-- The standard registry, or one with passive handlers in the place of some that it has. -/
inductive Registry.Built (m : SiteMap) : Registry → Prop
  | standard (helpLink : Option String) : Built m (.standard m helpLink)
  | withHandler {r : Registry} (route : Route) {handler : Handler} (before : Built m r)
    (passive : handler.IsPassive) : Built m (r.withHandler route handler)

namespace Registry.Built

variable {m : SiteMap} {r : Registry}

theorem siteMap_eq (hr : r.Built m) : r.siteMap = m := by
  induction hr with
  | standard => rfl
  | withHandler _ _ _ ih => exact ih

/-- Every route that is shown has a handler. -/
theorem isSome_handlers (hr : r.Built m) {route : Route} (notLogin : route ≠ .login)
    (notLogout : route ≠ .logout) : (r.handlers route).isSome := by
  induction hr with
  | standard => cases route <;> first | rfl | contradiction
  | withHandler _ _ _ ih =>
    simp only [Registry.withHandler]
    split
    · rfl
    · exact ih

theorem handler_cases (hr : r.Built m) {route : Route} {handler : Handler}
    (found : r.handlers route = some handler) :
    handler.IsPassive ∨ handler = Handler.profile := by
  induction hr with
  | standard helpLink =>
    cases route <;> simp only [Registry.standard, standardHandler, Option.some.injEq] at found
    case login | logout => exact nomatch found
    case userProfile => exact .inr found.symm
    case tos => exact .inl (found ▸ Handler.isPassive_terms)
    case notAuthorized => exact .inl (found ▸ Handler.isPassive_fixed _)
    all_goals exact .inl (found ▸ Handler.isPassive_page)
  | withHandler _ _ passive ih =>
    simp only [Registry.withHandler] at found
    split at found
    · exact .inl (Option.some.inj found ▸ passive)
    · exact ih found

end Registry.Built

section handlers

variable {n : Navigator} {o : Operation} {i : Nat} {ts : List Nat} {cs : List RenderContext}
  {h : History}

theorem wp_passive {handler : Handler} (passive : handler.IsPassive) (ctx : RenderContext)
    (hg : Going i ts cs h) {Q : View → History → Prop} (hQ : ∀ v h', Going i ts cs h' → Q v h') :
    wp ((conduct n).turn o i) Q (handler ctx) h := by
  refine wp_of_uses (R := Going i ts cs) ?_ (passive ctx) hg hQ
  intro op passive K h hg hK
  cases op with
  | storage op =>
    cases op with
    | read slot => exact turn_read hg fun a hg => hK a _ hg
    | write | wipe => exact passive.elim
  | notify notice => exact turn_notify hg fun hg => hK () _ hg
  | ask call =>
    refine turn_ask hg (fun eq => ?_) fun others result _ hg => hK result _ hg
    rw [eq] at passive
    exact passive.elim
  | ticket | mount | dispatch | location | leave => exact passive.elim

theorem wp_profile (ctx : RenderContext) (hg : Going i ts cs h) {Q : View → History → Prop}
    (hQ : ∀ v h', Going i ts cs h' → Q v h') :
    wp ((conduct n).turn o i) Q (Handler.profile ctx) h := by
  unfold Handler.profile
  rw [wp_bind, App.wp_ask]
  refine turn_ask hg (fun eq => by simp at eq) fun others result _ hg => ?_
  cases result with
  | error e => exact hQ _ _ hg
  | ok user =>
    simp only [wp_bind, wp_pure, wp_discard, App.wp_lift]
    exact wp_update .currentUser user hg fun _ h' hg => hQ _ h' hg

/-- **A view that is made for a route is the one that says access is denied wherever the session
lacks a permission.** -/
theorem wp_render {r : Registry} {m : SiteMap} (hr : r.Built m) (ctx : RenderContext)
    (notLogin : ctx.route ≠ .login) (notLogout : ctx.route ≠ .logout) (hg : Going i ts cs h)
    {Q : View → History → Prop} (hQ : ∀ v h', Going i ts cs h' →
      (r.missing ctx.route ctx.session ≠ [] → v = .denied r.helpLink) → Q v h') :
    wp ((conduct n).turn o i) Q (r.render ctx.route ctx) h := by
  unfold Registry.render
  obtain ⟨handler, found⟩ := Option.isSome_iff_exists.mp (hr.isSome_handlers notLogin notLogout)
  simp only [found]
  split
  · next granted =>
    have hQ' : ∀ v h', Going i ts cs h' → Q v h' := fun v h' hg =>
      hQ v h' hg fun lacking => absurd (List.isEmpty_iff.mp granted) lacking
    rcases hr.handler_cases found with passive | rfl
    · exact wp_passive passive ctx hg hQ'
    · exact wp_profile ctx hg hQ'
  · exact hQ _ _ hg fun _ => rfl

end handlers

end AdminConsole
