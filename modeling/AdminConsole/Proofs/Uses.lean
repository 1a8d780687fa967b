import AdminConsole.Navigation.Navigator
import AdminConsole.Navigation.TokenRefresh
import AdminConsole.Proofs.Program

/-!
# What the parts of an operation use

Logging in, accepting the terms, refreshing the token and the standard handlers are modest
(`AppOp.IsModest`): they read and write the storage, but not the connections, they ask the backend,
but not for the connections, and they tell the user. They take no ticket, mount nothing and do not
care where the console is. -/

namespace AdminConsole

open Program

/-- The storage is read, or a text other than the connections is written. -/
def StorageOp.IsModest : StorageOp → Prop
  | read _ => True
  | write slot _ => slot ≠ .connections
  | wipe => False

def AppOp.IsModest : AppOp → Prop
  | storage op => op.IsModest
  | ask call => call ≠ .connections
  | notify _ => True
  | dispatch _ | ticket | mount _ _ _ | location | leave => False

theorem App.uses_lift_of {P : AppOp → Prop} {α : Type} {p : Storage α}
    (hp : p.Uses fun op => P (.storage op)) : (liftM p : App α).Uses P := by
  change (ofStorage p).Uses P
  induction p with
  | done a => trivial
  | step op next ih => exact ⟨hp.1, fun answer => ih answer (hp.2 answer)⟩

theorem App.modest_lift {α : Type} {p : Storage α} (hp : p.Uses StorageOp.IsModest) :
    (liftM p : App α).Uses AppOp.IsModest :=
  uses_lift_of hp

/-- A kind of operations in which the storage is used modestly and the user is told. -/
structure AppOp.Covers (P : AppOp → Prop) : Prop where
  storage : ∀ op : StorageOp, op.IsModest → P (.storage op)
  notify : ∀ notice, P (.notify notice)

/-- A kind of operations with those that end a navigation or a session. -/
structure AppOp.CoversEnds (P : AppOp → Prop) : Prop extends AppOp.Covers P where
  mount : ∀ ticket view location, P (.mount ticket view location)
  ticket : P .ticket
  wipe : P (.storage .wipe)
  leave : P .leave

theorem AppOp.covers_modest : Covers IsModest := ⟨fun _ modest => modest, fun _ => trivial⟩

theorem AppOp.Covers.lift {P : AppOp → Prop} (h : Covers P) {α : Type} {p : Storage α}
    (hp : p.Uses StorageOp.IsModest) : (liftM p : App α).Uses P :=
  App.uses_lift_of (hp.mono h.storage)

/-! ### The storage -/

namespace SessionStore

theorem modest_get : get.Uses StorageOp.IsModest := by
  refine ⟨trivial, fun a => ?_⟩
  rcases a with e | _ | text <;> trivial

theorem modest_replace (s : Session) : (replace s).Uses StorageOp.IsModest :=
  ⟨by simp [StorageOp.IsModest], fun _ => trivial⟩

theorem modest_establish (c : Claims) : (establish c).Uses StorageOp.IsModest := by
  unfold establish
  cases c.validate with
  | error e => trivial
  | ok u => exact (modest_replace _).bind fun _ => trivial

theorem modest_update (change : Session → Option Session) :
    (update change).Uses StorageOp.IsModest := by
  refine modest_get.bind fun session => ?_
  cases session with
  | none => trivial
  | some s =>
    cases h : change s with
    | none => simp only [h]; trivial
    | some s' => simp only [h]; exact modest_replace s'

theorem modest_setPrivileges (privileges : TextSet) :
    (setPrivileges privileges).Uses StorageOp.IsModest :=
  modest_update _

theorem modest_setToken (token : String) : (setToken token).Uses StorageOp.IsModest :=
  modest_update _

theorem modest_token? : token?.Uses StorageOp.IsModest := modest_get.bind fun _ => trivial

end SessionStore

theorem TabNotes.modest_read (slot : Slot) : (read slot).Uses StorageOp.IsModest := by
  refine ⟨trivial, fun a => ?_⟩
  cases a <;> trivial

theorem TabNotes.modest_setHint {slot : Slot} (other : slot ≠ .connections) (url : String) :
    (setHint slot url).Uses StorageOp.IsModest :=
  ⟨other, fun _ => trivial⟩

/-! ### Logging in -/

namespace Login

variable (l : Login) {P : AppOp → Prop}

theorem modest_captureHint {slot : Slot} (other : slot ≠ .connections) (location : Location) :
    (captureHint slot location).Uses StorageOp.IsModest := by
  unfold captureHint
  split
  · exact (TabNotes.modest_setHint other _).discard
  · trivial

theorem modest_captureHints (location : Location) :
    (captureHints location).Uses StorageOp.IsModest :=
  (modest_captureHint (by decide) location).bind fun _ => modest_captureHint (by decide) location

theorem uses_initiate (h : AppOp.Covers P) : l.initiate.Uses P := by
  unfold initiate
  split
  · trivial
  · exact ⟨h.notify _, fun _ => trivial⟩

theorem uses_fail (h : AppOp.Covers P) : l.fail.Uses P := by
  refine ⟨h.notify _, fun _ => (h.lift (TabNotes.modest_read _)).bind fun url => ?_⟩
  cases url <;> trivial

theorem uses_afterLogin (h : AppOp.Covers P) (session : Session) :
    (l.afterLogin session).Uses P := by
  unfold afterLogin
  split
  · refine (h.lift (TabNotes.modest_read _)).bind fun url => ?_
    cases url <;> trivial
  · trivial

theorem modest_complete (grant : Grant) : (l.complete grant).Uses AppOp.IsModest := by
  refine ⟨by simp [AppOp.IsModest], fun result => ?_⟩
  cases result with
  | error e => exact l.uses_fail AppOp.covers_modest
  | ok claims =>
    refine (App.modest_lift (SessionStore.modest_establish claims)).bind fun established => ?_
    cases established with
    | error e => exact l.uses_fail AppOp.covers_modest
    | ok session => exact l.uses_afterLogin AppOp.covers_modest session

theorem modest_start (location : Location) : (l.start location).Uses AppOp.IsModest := by
  refine (App.modest_lift (modest_captureHints location)).bind fun _ => ?_
  split
  · exact l.modest_complete _
  · exact l.uses_initiate AppOp.covers_modest

end Login

/-! ### The terms and the token -/

theorem Terms.uses_record {P : AppOp → Prop} (h : AppOp.Covers P) (ask : P (.ask .acceptTerms)) :
    record.Uses P := by
  refine ⟨ask, fun result => ?_⟩
  cases result with
  | error e => trivial
  | ok u =>
    refine (h.lift (SessionStore.modest_update _)).bind fun a => ?_
    cases a <;> trivial

theorem Terms.uses_accept {P : AppOp → Prop} (h : AppOp.Covers P) (ask : P (.ask .acceptTerms))
    (m : SiteMap) : (accept m).Uses P := by
  refine (uses_record h ask).bind fun accepted => ?_
  cases accepted with
  | false => exact ⟨h.notify _, fun _ => trivial⟩
  | true =>
    refine ⟨h.notify _, fun _ => (h.lift (TabNotes.modest_read _)).bind fun url => ?_⟩
    cases url <;> trivial

theorem Terms.modest_accept (m : SiteMap) : (accept m).Uses AppOp.IsModest :=
  uses_accept AppOp.covers_modest (by simp [AppOp.IsModest]) m

theorem TokenRefresh.modest_refresh : refresh.Uses AppOp.IsModest := by
  refine (App.modest_lift SessionStore.modest_token?).bind fun token => ?_
  split
  · trivial
  · refine ⟨by simp [AppOp.IsModest], fun result => ?_⟩
    cases result with
    | error e => trivial
    | ok token =>
      exact (App.modest_lift (SessionStore.modest_setToken token)).bind fun _ => trivial

/-! ### Ending -/

namespace Navigator

variable (n : Navigator) {P : AppOp → Prop} (h : AppOp.CoversEnds P)

include h

theorem uses_settle (step : NextStep) (location : Location) (ticket : Nat) :
    (settle step location ticket).Uses P := by
  cases step with
  | display view => exact ⟨h.mount _ _ _, fun _ => trivial⟩
  | navigate | external => trivial

theorem uses_beginLogin (location : Location) (ticket : Nat) :
    (n.beginLogin location ticket).Uses P := by
  refine (n.login.uses_initiate h.toCovers).bind fun step => ?_
  cases step with
  | display view => exact ⟨h.mount _ _ _, fun mounted => by cases mounted <;> trivial⟩
  | navigate | external => trivial

theorem uses_logout : n.logout.Uses P := by
  have valid : SessionStore.validUser?.Uses StorageOp.IsModest :=
    SessionStore.modest_get.bind fun _ => trivial
  have cleared : SessionStore.clear.Uses fun op => P (.storage op) := ⟨h.wipe, fun _ => trivial⟩
  have ended : SessionStore.logout.Uses fun op => P (.storage op) :=
    (valid.mono h.storage).discard.bind fun _ => cleared
  refine ⟨h.ticket, fun _ => (App.uses_lift_of ended).bind fun ended => ?_⟩
  cases ended with
  | error e => trivial
  | ok u => exact ⟨h.leave, fun _ => trivial⟩

end Navigator

/-! ### Handlers -/

section handlers

variable {P : AppOp → Prop}

theorem Handler.uses_terms (h : AppOp.Covers P) (ask : P (.ask .latestTerms))
    (ctx : RenderContext) : (terms ctx).Uses P := by
  refine ⟨ask, fun result => ?_⟩
  cases result with
  | ok content => trivial
  | error e => exact ⟨h.notify _, fun _ => trivial⟩

theorem Handler.uses_profile (h : AppOp.Covers P) (ask : P (.ask .currentUser))
    (ctx : RenderContext) : (profile ctx).Uses P := by
  refine ⟨ask, fun result => ?_⟩
  cases result with
  | error e => trivial
  | ok user =>
    have kept := (h.lift (SessionStore.modest_setPrivileges user.privileges)).discard
    exact kept.bind fun _ => trivial

theorem Registry.uses_standard (h : AppOp.Covers P) (terms : P (.ask .latestTerms))
    (profile : P (.ask .currentUser)) {m : SiteMap} {helpLink : Option String} {route : Route}
    {handler : Handler} (found : (standard m helpLink).handlers route = some handler)
    (ctx : RenderContext) : (handler ctx).Uses P := by
  cases route <;> simp only [standard, standardHandler, Option.some.injEq, reduceCtorEq] at found
  case tos => exact found ▸ Handler.uses_terms h terms ctx
  case userProfile => exact found ▸ Handler.uses_profile h profile ctx
  all_goals exact found ▸ trivial

theorem Registry.modest_standard {m : SiteMap} {helpLink : Option String} {route : Route}
    {handler : Handler} (found : (standard m helpLink).handlers route = some handler)
    (ctx : RenderContext) : (handler ctx).Uses AppOp.IsModest :=
  uses_standard AppOp.covers_modest (by simp [AppOp.IsModest]) (by simp [AppOp.IsModest]) found ctx

/-- The view of a route is made with what its handler uses. -/
theorem Registry.uses_render {r : Registry} {route : Route}
    (handlers : ∀ handler, r.handlers route = some handler → ∀ ctx, (handler ctx).Uses P)
    (ctx : RenderContext) : (r.render route ctx).Uses P := by
  unfold render
  cases found : r.handlers route with
  | none => trivial
  | some handler =>
    simp only
    split
    · exact handlers handler found ctx
    · trivial

end handlers

end AdminConsole
