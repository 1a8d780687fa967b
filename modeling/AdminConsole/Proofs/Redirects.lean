import AdminConsole.Proofs.Enactment
import AdminConsole.Proofs.Passage
import AdminConsole.Proofs.SiteMap
import AdminConsole.Proofs.Uses

/-!
# Redirects settle

Whatever the storage and the backend answer, one operation after another, a navigation is sent on
at most twice (`Journey.redirects_le`): a login leads to a page, a page to the terms, and the terms
nowhere (`hops`). So the limit on redirects is never met, and apart from what a handler does, the
backend is asked for one exchange and one list of connections at most (`Sparing`). No standard
handler asks for either, so that with these handlers a whole run asks no more than that
(`Sparing.total`). -/

namespace AdminConsole

open Program

namespace AppOp

def isExchange : AppOp → Bool
  | ask (.exchange _) => true
  | _ => false

def isLoading : AppOp → Bool
  | ask .connections => true
  | _ => false

/-- Neither an exchange nor the connections are asked for. -/
def IsQuiet (op : AppOp) : Prop := op.isExchange = false ∧ op.isLoading = false

end AppOp

namespace Trace

variable {es before after : Trace}

def exchanges (es : Trace) : Nat := es.countP (·.op.isExchange)

/-- How often the connections were asked for. -/
def loads (es : Trace) : Nat := es.countP (·.op.isLoading)

@[simp] theorem exchanges_append : exchanges (before ++ after) = exchanges before + exchanges after :=
  List.countP_append

@[simp] theorem loads_append : loads (before ++ after) = loads before + loads after :=
  List.countP_append

def Quiet (es : Trace) : Prop := exchanges es = 0 ∧ loads es = 0

theorem Quiet.append (first : Quiet before) (next : Quiet after) : Quiet (before ++ after) :=
  ⟨by simp [first.1, next.1], by simp [first.2, next.2]⟩

theorem quiet_of_uses {α : Type} {p : App α} {a : α} (h : Runs p es a) (hp : p.Uses AppOp.IsQuiet) :
    es.Quiet := by
  have quiet := h.uses hp
  simp only [Quiet, exchanges, loads, List.countP_eq_zero]
  exact ⟨fun e he => by simp [(quiet e he).1], fun e he => by simp [(quiet e he).2]⟩

end Trace

open Trace

/-! ### Programs that are quiet -/

theorem isQuiet_storage (op : StorageOp) : (AppOp.storage op).IsQuiet := ⟨rfl, rfl⟩

theorem covers_quiet : AppOp.CoversEnds AppOp.IsQuiet :=
  ⟨⟨fun op _ => isQuiet_storage op, fun _ => ⟨rfl, rfl⟩⟩, fun _ _ _ => ⟨rfl, rfl⟩, ⟨rfl, rfl⟩,
    ⟨rfl, rfl⟩, ⟨rfl, rfl⟩⟩

/-- No handler asks for an exchange or for the connections. -/
def Registry.IsQuiet (r : Registry) : Prop :=
  ∀ route handler, r.handlers route = some handler → ∀ ctx, (handler ctx).Uses AppOp.IsQuiet

theorem Registry.isQuiet_standard (m : SiteMap) (helpLink : Option String) :
    (standard m helpLink).IsQuiet :=
  fun _ _ found => uses_standard covers_quiet.toCovers ⟨rfl, rfl⟩ ⟨rfl, rfl⟩ found

/-! ### Single steps -/

/-- How often a navigation that has come to a route can be sent on. -/
def Route.hops : Route → Nat
  | .login => 2
  | .tos | .logout => 0
  | _ => 1

theorem Route.hops_le (route : Route) : route.hops ≤ 2 := by cases route <;> decide

theorem Route.hops_pos {route : Route} (notTos : route ≠ .tos) (notLogout : route ≠ .logout) :
    0 < route.hops := by
  cases route <;> first | exact Nat.succ_pos _ | contradiction

theorem hops_ofPath (m : SiteMap) (route : Route) :
    (m.resolve (Location.ofPath (m.pathFor route)).path).hops = route.hops :=
  congrArg Route.hops (m.resolve_pathFor route)

section login

variable {l : Login} {es : Trace} {step : NextStep}

/-- A step leads out of the console, to a page or to the terms. -/
def Login.Leads (l : Login) (step : NextStep) : Prop :=
  ∀ next, step = .navigate next →
    ∃ route : Route, next = .ofPath (l.siteMap.pathFor route) ∧ route.hops ≤ 1

theorem leads_goTo {route : Route} (short : route.hops ≤ 1) : l.Leads (l.goTo route) :=
  fun _ eq => ⟨route, (NextStep.navigate.inj eq).symm, short⟩

theorem leads_initiate (h : Runs l.initiate es step) : l.Leads step := by
  unfold Login.initiate at h
  split at h
  · obtain ⟨-, rfl⟩ := runs_pure.mp h
    exact nofun
  · rw [runs_bind] at h
    obtain ⟨_, _, _, -, -, h⟩ := h
    obtain ⟨-, rfl⟩ := runs_pure.mp h
    exact nofun

theorem leads_fail (h : Runs l.fail es step) : l.Leads step := by
  rw [Login.fail, runs_bind] at h
  obtain ⟨_, _, _, -, -, h⟩ := h
  rw [runs_bind] at h
  obtain ⟨_, url, _, -, -, h⟩ := h
  cases url with
  | some url =>
    obtain ⟨-, rfl⟩ := runs_pure.mp h
    exact nofun
  | none =>
    obtain ⟨-, rfl⟩ := runs_pure.mp h
    exact leads_goTo (by decide)

theorem leads_afterLogin {session : Session} (h : Runs (l.afterLogin session) es step) :
    l.Leads step := by
  unfold Login.afterLogin at h
  split at h
  · rw [runs_bind] at h
    obtain ⟨_, url, _, -, -, h⟩ := h
    cases url with
    | some url =>
      obtain ⟨-, rfl⟩ := runs_pure.mp h
      exact nofun
    | none =>
      obtain ⟨-, rfl⟩ := runs_pure.mp h
      exact leads_goTo (by decide)
  · obtain ⟨-, rfl⟩ := runs_pure.mp h
    exact leads_goTo (by decide)

/-- What follows the exchange is quiet. -/
theorem runs_complete {grant : Grant} (h : Runs (l.complete grant) es step) :
    es.exchanges = 1 ∧ es.loads = 0 ∧ l.Leads step := by
  unfold Login.complete at h
  rw [runs_bind] at h
  obtain ⟨asked, result, rest, rfl, ask, h⟩ := h
  obtain rfl := runs_step_done.mp ask
  suffices Quiet rest ∧ l.Leads step by
    obtain ⟨⟨noExchange, noLoading⟩, leads⟩ := this
    refine ⟨?_, ?_, leads⟩
    · rw [exchanges_append, noExchange]
      rfl
    · rw [loads_append, noLoading]
      rfl
  cases result with
  | error e => exact ⟨quiet_of_uses h (l.uses_fail covers_quiet.toCovers), leads_fail h⟩
  | ok claims =>
    rw [runs_bind] at h
    obtain ⟨stored, established, rest, rfl, store, h⟩ := h
    have quiet := quiet_of_uses store (App.uses_lift isQuiet_storage _)
    cases established with
    | error e =>
      exact ⟨quiet.append (quiet_of_uses h (l.uses_fail covers_quiet.toCovers)), leads_fail h⟩
    | ok session =>
      exact ⟨quiet.append (quiet_of_uses h (l.uses_afterLogin covers_quiet.toCovers session)),
        leads_afterLogin h⟩

/-- **A login asks for one exchange at most, and leads to a page or to the terms.** -/
theorem runs_start {location : Location} (h : Runs (l.start location) es step) :
    es.exchanges ≤ 1 ∧ es.loads = 0 ∧ l.Leads step := by
  unfold Login.start at h
  rw [runs_bind] at h
  obtain ⟨kept, _, rest, rfl, keep, h⟩ := h
  have quiet := quiet_of_uses keep (App.uses_lift isQuiet_storage _)
  rw [exchanges_append, loads_append, quiet.1, quiet.2, Nat.zero_add, Nat.zero_add]
  split at h
  · obtain ⟨one, none, leads⟩ := runs_complete h
    exact ⟨Nat.le_of_eq one, none, leads⟩
  · obtain ⟨none, none'⟩ := quiet_of_uses h (l.uses_initiate covers_quiet.toCovers)
    exact ⟨by omega, none', leads_initiate h⟩

end login

section gate

variable {g : Gate} {es : Trace}

/-- **The gate asks for the connections once at most, and sends on to the terms only.** -/
theorem runs_check {route : Route} {d : Gate.Decision} (h : Runs (g.check route) es d) :
    es.exchanges = 0 ∧ es.loads ≤ 1 ∧ ∀ target, d = .redirect target →
      es.loads = 0 ∧ target = .tos ∧ route ≠ .tos := by
  cases Gate.passes_of_check h with
  | isPublic | terms | login | cached => exact ⟨rfl, Nat.zero_le _, nofun⟩
  | redirect other =>
    exact ⟨rfl, Nat.zero_le _, fun target eq => ⟨rfl, (Gate.Decision.redirect.inj eq).symm, other⟩⟩
  | loaded | failed | aborted => exact ⟨rfl, Nat.le_refl _, nofun⟩

end gate

section steps

variable {n : Navigator} {es : Trace}

/-- A handler is called, and its view is shown. -/
inductive Handled (n : Navigator) : Trace → Prop
  | nothing : Handled n []
  | view {ctx : RenderContext} {made : Trace} {view : View} (ticket : Nat) (location : Location)
    (shown : Bool) (render : Runs (n.registry.render ctx.route ctx) made view) :
    Handled n (⟨.dispatch ctx, ()⟩ :: (made ++ [⟨.mount ticket view location, shown⟩]))

/-- Apart from what a handler does, no more than one exchange and the connections once are asked
for. -/
def Sparing (n : Navigator) (bound : Nat) (es : Trace) : Prop :=
  ∃ own handled, es = own ++ handled ∧ own.exchanges ≤ bound ∧ own.loads ≤ 1 ∧ Handled n handled

theorem Sparing.of_quiet (quiet : es.Quiet) (bound : Nat) : Sparing n bound es :=
  ⟨es, [], (List.append_nil es).symm, by simp [quiet.1], by simp [quiet.2], .nothing⟩

theorem Handled.quiet (h : Handled n es) (registry : n.registry.IsQuiet) : es.Quiet := by
  cases h with
  | nothing => exact ⟨rfl, rfl⟩
  | @view ctx made view ticket location shown render =>
    have quiet := quiet_of_uses render (Registry.uses_render (registry ctx.route) ctx)
    have called : Quiet [⟨.dispatch ctx, ()⟩] := ⟨rfl, rfl⟩
    exact called.append (quiet.append ⟨rfl, rfl⟩)

/-- Where no handler asks for either, the bounds are on all that is asked for. -/
theorem Sparing.total {bound : Nat} (h : Sparing n bound es) (registry : n.registry.IsQuiet) :
    es.exchanges ≤ bound ∧ es.loads ≤ 1 := by
  obtain ⟨own, handled, rfl, few, once, called⟩ := h
  obtain ⟨none, none'⟩ := called.quiet registry
  rw [exchanges_append, loads_append, none, none']
  exact ⟨few, once⟩

/-- The navigation has not been given up. -/
def Navigator.Result.Settles (result : Navigator.Result) : Prop :=
  ∀ origin hops, result ≠ .error (.tooManyRedirects origin hops)

/-- A step ends the navigation, or sends it on to where it can be sent on less often. -/
def Advances (n : Navigator) (location : Location) (es : Trace) :
    Navigator.Result ⊕ Location → Prop
  | .inl result =>
    Sparing n ((n.siteMap.resolve location.path).hops - 1) es ∧ Navigator.Result.Settles result
  | .inr next => es.exchanges ≤ (n.siteMap.resolve location.path).hops - 1 ∧ es.loads = 0 ∧
    (n.siteMap.resolve next.path).hops < (n.siteMap.resolve location.path).hops

theorem settles_logout {result : Navigator.Result} (h : Runs n.logout es result) :
    result.Settles := by
  unfold Navigator.logout at h
  rw [runs_bind] at h
  obtain ⟨_, _, _, -, -, h⟩ := h
  rw [runs_bind] at h
  obtain ⟨_, ended, _, -, -, h⟩ := h
  cases ended with
  | error e =>
    obtain ⟨-, rfl⟩ := runs_pure.mp h
    exact nofun
  | ok u =>
    rw [runs_bind] at h
    obtain ⟨_, _, _, -, -, h⟩ := h
    obtain ⟨-, rfl⟩ := runs_pure.mp h
    exact nofun

/-- The session is read, the handler called and its view shown. -/
theorem runs_dispatch {route : Route} {location : Location} {ticket : Nat} {outcome : Outcome}
    (h : Runs (n.dispatch route location ticket) es outcome) :
    ∃ read handled, es = read ++ handled ∧ Quiet read ∧ Handled n handled := by
  unfold Navigator.dispatch at h
  rw [runs_bind] at h
  obtain ⟨read, session, after, rfl, get, h⟩ := h
  rw [runs_bind] at h
  obtain ⟨called, _, after, rfl, call, h⟩ := h
  obtain rfl := runs_step_done.mp call
  rw [runs_bind] at h
  obtain ⟨made, view, shown, rfl, render, h⟩ := h
  unfold Navigator.mount at h
  rw [runs_bind] at h
  obtain ⟨tried, mounted, after, rfl, mount, h⟩ := h
  obtain rfl := runs_step_done.mp mount
  obtain ⟨rfl, -⟩ := runs_pure.mp h
  refine ⟨read, _, rfl, quiet_of_uses get (App.uses_lift isQuiet_storage _), ?_⟩
  rw [List.append_nil]
  exact Handled.view ticket location mounted render

/-- **A step ends the navigation or sends it on.** -/
theorem runs_visit {location : Location} {ticket : Nat} {r : Navigator.Result ⊕ Location}
    (h : Runs (n.visit location ticket) es r) : Advances n location es r := by
  unfold Navigator.visit at h
  split at h
  · next login =>
    rw [runs_bind] at h
    obtain ⟨before, step, after, rfl, start, h⟩ := h
    obtain ⟨once, none, leads⟩ := runs_start start
    cases step with
    | navigate next =>
      obtain ⟨rfl, rfl⟩ := runs_pure.mp h
      obtain ⟨route, rfl, short⟩ : ∃ route : Route,
          next = .ofPath (n.siteMap.pathFor route) ∧ route.hops ≤ 1 := leads next rfl
      rw [List.append_nil, Advances, login, hops_ofPath]
      exact ⟨once, none, Nat.lt_succ_of_le short⟩
    | external url | display view =>
      rw [runs_bind] at h
      obtain ⟨settled, outcome, after, rfl, settle, h⟩ := h
      obtain ⟨rfl, rfl⟩ := runs_pure.mp h
      have quiet := quiet_of_uses settle (Navigator.uses_settle covers_quiet _ _ _)
      refine ⟨⟨_, [], (List.append_nil _).symm, ?_, ?_, .nothing⟩, nofun⟩
      · rw [login, List.append_nil, exchanges_append, quiet.1]
        exact once
      · rw [List.append_nil, loads_append, quiet.2, none]
        exact Nat.zero_le _
  · next logout =>
    rw [runs_bind] at h
    obtain ⟨before, result, after, rfl, ended, h⟩ := h
    obtain ⟨rfl, rfl⟩ := runs_pure.mp h
    rw [List.append_nil]
    exact ⟨.of_quiet (quiet_of_uses ended (n.uses_logout covers_quiet)) _, settles_logout ended⟩
  · next notLogin notLogout =>
    rw [runs_bind] at h
    obtain ⟨before, d, after, rfl, check, h⟩ := h
    obtain ⟨none, once, onward⟩ := runs_check check
    cases d with
    | dispatch =>
      rw [runs_bind] at h
      obtain ⟨shown, outcome, after, rfl, dispatch, h⟩ := h
      obtain ⟨rfl, rfl⟩ := runs_pure.mp h
      obtain ⟨read, handled, rfl, quiet, called⟩ := runs_dispatch dispatch
      refine ⟨⟨before ++ read, handled, by simp, ?_, ?_, called⟩, nofun⟩
      · simp [none, quiet.1]
      · simp [once, quiet.2]
    | login =>
      rw [runs_bind] at h
      obtain ⟨begun, outcome, after, rfl, begin, h⟩ := h
      obtain ⟨rfl, rfl⟩ := runs_pure.mp h
      have quiet := quiet_of_uses begin (n.uses_beginLogin covers_quiet _ _)
      refine ⟨⟨_, [], (List.append_nil _).symm, ?_, ?_, .nothing⟩, nofun⟩
      · simp [none, quiet.1]
      · simp [once, quiet.2]
    | abort =>
      obtain ⟨rfl, rfl⟩ := runs_pure.mp h
      exact ⟨⟨_, [], rfl, by simp [none], by simp [once], .nothing⟩, nofun⟩
    | redirect target =>
      obtain ⟨rfl, rfl⟩ := runs_pure.mp h
      obtain ⟨unloaded, rfl, notTos⟩ := onward target rfl
      rw [List.append_nil, Advances, hops_ofPath, none]
      exact ⟨Nat.zero_le _, unloaded, Route.hops_pos notTos notLogout⟩

end steps

/-! ### Journeys -/

/-- A navigation from a location to its end, however often it is sent on. -/
inductive Journey (n : Navigator) (ticket : Nat) :
    Location → Nat → Trace → Navigator.Result → Prop
  | ends {location : Location} {es : Trace} {result : Navigator.Result}
    (step : Runs (n.visit location ticket) es (.inl result)) :
    Journey n ticket location 0 es result
  | goesOn {location next : Location} {redirects : Nat} {es rest : Trace}
    {result : Navigator.Result} (step : Runs (n.visit location ticket) es (.inr next))
    (journey : Journey n ticket next redirects rest result) :
    Journey n ticket location (redirects + 1) (es ++ rest) result

section journeys

variable {n : Navigator} {es : Trace} {location : Location} {ticket redirects : Nat}
  {result : Navigator.Result}

theorem Journey.redirects_le (h : Journey n ticket location redirects es result) :
    redirects ≤ (n.siteMap.resolve location.path).hops := by
  induction h with
  | ends => exact Nat.zero_le _
  | goesOn step journey ih =>
    obtain ⟨-, -, fewer⟩ := runs_visit step
    omega

theorem Sparing.mono {bound bound' : Nat} (h : Sparing n bound es) (le : bound ≤ bound') :
    Sparing n bound' es := by
  obtain ⟨own, handled, rfl, few, once, called⟩ := h
  exact ⟨own, handled, rfl, Nat.le_trans few le, once, called⟩

theorem Sparing.after {bound before : Nat} {first : Trace} (h : Sparing n bound es)
    (exchanges : first.exchanges ≤ before) (loads : first.loads = 0) :
    Sparing n (before + bound) (first ++ es) := by
  obtain ⟨own, handled, rfl, few, once, called⟩ := h
  refine ⟨first ++ own, handled, (List.append_assoc ..).symm, ?_, ?_, called⟩
  · rw [exchanges_append]
    omega
  · rw [loads_append]
    omega

/-- Only the first location can be a login, and only at the last one the connections are asked
for. -/
theorem Journey.sparing (h : Journey n ticket location redirects es result) :
    Sparing n ((n.siteMap.resolve location.path).hops - 1) es ∧ result.Settles := by
  induction h with
  | ends step => exact runs_visit step
  | @goesOn location next redirects es rest result step journey ih =>
    obtain ⟨few, unloaded, fewer⟩ := runs_visit step
    have most := Route.hops_le (n.siteMap.resolve location.path)
    exact ⟨(ih.1.after few unloaded).mono (by omega), ih.2⟩

/-- A navigation that may still be sent on often enough comes to its end. -/
theorem journey_of_followWithin {origin : String} {left : Nat}
    (enough : (n.siteMap.resolve location.path).hops ≤ left)
    (h : Runs (n.followWithin ticket origin left location) es result) :
    ∃ redirects, Journey n ticket location redirects es result := by
  induction left generalizing location es with
  | zero =>
    unfold Navigator.followWithin at h
    rw [runs_bind] at h
    obtain ⟨before, r, after, rfl, step, h⟩ := h
    cases r with
    | inl result =>
      obtain ⟨rfl, rfl⟩ := runs_pure.mp h
      rw [List.append_nil]
      exact ⟨0, .ends step⟩
    | inr next =>
      obtain ⟨-, -, fewer⟩ := runs_visit step
      omega
  | succ left ih =>
    unfold Navigator.followWithin at h
    rw [runs_bind] at h
    obtain ⟨before, r, after, rfl, step, h⟩ := h
    cases r with
    | inl result =>
      obtain ⟨rfl, rfl⟩ := runs_pure.mp h
      rw [List.append_nil]
      exact ⟨0, .ends step⟩
    | inr next =>
      obtain ⟨-, -, fewer⟩ := runs_visit step
      obtain ⟨redirects, journey⟩ := ih (by omega) h
      exact ⟨redirects + 1, .goesOn step journey⟩

theorem journey_of_follow (h : Runs (n.follow location ticket) es result) :
    ∃ redirects, Journey n ticket location redirects es result :=
  journey_of_followWithin (Nat.le_trans (Route.hops_le _) (by decide)) h

theorem sparing_follow (h : Runs (n.follow location ticket) es result) :
    Sparing n 1 es ∧ result.Settles := by
  obtain ⟨redirects, journey⟩ := journey_of_follow h
  have most := Route.hops_le (n.siteMap.resolve location.path)
  exact ⟨journey.sparing.1.mono (by omega), journey.sparing.2⟩

end journeys

/-! ### Operations -/

section operations

variable {n : Navigator} {es : Trace} {result : Navigator.Result}

theorem Sparing.after_quiet {first : Trace} (h : Sparing n 1 es) (quiet : first.Quiet) :
    Sparing n 1 (first ++ es) :=
  (h.after (Nat.le_of_eq quiet.1) quiet.2).mono (by omega)

theorem sparing_navigate {path : String} (h : Runs (n.navigate path) es result) :
    Sparing n 1 es ∧ result.Settles := by
  unfold Navigator.navigate at h
  rw [runs_bind] at h
  obtain ⟨issued, ticket, after, rfl, issue, h⟩ := h
  obtain ⟨sparing, settles⟩ := sparing_follow h
  exact ⟨sparing.after_quiet (quiet_of_uses issue ⟨⟨rfl, rfl⟩, fun _ => trivial⟩), settles⟩

theorem sparing_acceptTerms (h : Runs n.acceptTerms es result) :
    Sparing n 1 es ∧ result.Settles := by
  unfold Navigator.acceptTerms at h
  rw [runs_bind] at h
  obtain ⟨issued, ticket, after, rfl, issue, h⟩ := h
  have quiet : Quiet issued := quiet_of_uses issue ⟨⟨rfl, rfl⟩, fun _ => trivial⟩
  rw [runs_bind] at h
  obtain ⟨accepted, step, after, rfl, accept, h⟩ := h
  have quiet' := quiet_of_uses accept (Terms.uses_accept covers_quiet.toCovers ⟨rfl, rfl⟩ n.siteMap)
  suffices Sparing n 1 after ∧ result.Settles from
    ⟨(this.1.after_quiet quiet').after_quiet quiet, this.2⟩
  cases step with
  | navigate location => exact sparing_follow h
  | external url | display view =>
    rw [runs_bind] at h
    obtain ⟨asked, location, after, rfl, ask, h⟩ := h
    have quiet : Quiet asked := quiet_of_uses ask ⟨⟨rfl, rfl⟩, fun _ => trivial⟩
    rw [runs_bind] at h
    obtain ⟨settled, outcome, after, rfl, settle, h⟩ := h
    obtain ⟨rfl, rfl⟩ := runs_pure.mp h
    have quiet' := quiet_of_uses settle (Navigator.uses_settle covers_quiet _ _ _)
    rw [List.append_nil]
    exact ⟨.of_quiet (quiet.append quiet') 1, nofun⟩

theorem sparing_logout (h : Runs n.logout es result) : Sparing n 1 es ∧ result.Settles :=
  ⟨.of_quiet (quiet_of_uses h (n.uses_logout covers_quiet)) 1, settles_logout h⟩

theorem sparing_recover {rejection : Rejection} (h : Runs (n.recover rejection) es result) :
    Sparing n 1 es ∧ result.Settles := by
  cases rejection with
  | forbidden | termsNotAccepted => exact sparing_navigate h
  | unauthenticated =>
    unfold Navigator.recover at h
    rw [runs_bind] at h
    obtain ⟨read, token, after, rfl, get, h⟩ := h
    have quiet := quiet_of_uses get (App.uses_lift isQuiet_storage _)
    suffices Sparing n 1 after ∧ result.Settles from ⟨this.1.after_quiet quiet, this.2⟩
    split at h
    · exact sparing_logout h
    · rw [runs_bind] at h
      obtain ⟨read, url, after, rfl, note, h⟩ := h
      have quiet := quiet_of_uses note (App.uses_lift isQuiet_storage _)
      suffices Sparing n 1 after ∧ result.Settles from ⟨this.1.after_quiet quiet, this.2⟩
      cases url with
      | some url =>
        obtain ⟨rfl, rfl⟩ := runs_pure.mp h
        exact ⟨.of_quiet ⟨rfl, rfl⟩ 1, nofun⟩
      | none =>
        rw [runs_bind] at h
        obtain ⟨asked, location, after, rfl, ask, h⟩ := h
        have quiet : Quiet asked := quiet_of_uses ask ⟨⟨rfl, rfl⟩, fun _ => trivial⟩
        rw [runs_bind] at h
        obtain ⟨issued, ticket, after, rfl, issue, h⟩ := h
        have quiet' : Quiet issued := quiet_of_uses issue ⟨⟨rfl, rfl⟩, fun _ => trivial⟩
        obtain ⟨sparing, settles⟩ := sparing_follow h
        exact ⟨(sparing.after_quiet quiet').after_quiet quiet, settles⟩

theorem quiet_refresh {token : Except TokenRefresh.RefreshError String}
    (h : Runs TokenRefresh.refresh es token) : es.Quiet := by
  refine quiet_of_uses h ((App.uses_lift isQuiet_storage _).bind fun token => ?_)
  split
  · trivial
  · refine ⟨⟨rfl, rfl⟩, fun result => ?_⟩
    cases result with
    | error e => trivial
    | ok token => exact (App.uses_lift isQuiet_storage _).bind fun _ => trivial

theorem sparing_program (o : Operation) {reply : Reply} (h : Runs (o.program n) es reply) :
    Sparing n 1 es ∧ ∀ result, reply = .navigation result → result.Settles := by
  have navigation {p : App Navigator.Result} (h : Runs (Reply.navigation <$> p) es reply)
      (hp : ∀ result, Runs p es result → Sparing n 1 es ∧ result.Settles) :
      Sparing n 1 es ∧ ∀ result, reply = .navigation result → result.Settles := by
    obtain ⟨result, rfl, run⟩ := runs_map.mp h
    obtain ⟨sparing, settles⟩ := hp result run
    exact ⟨sparing, fun _ eq => Reply.navigation.inj eq ▸ settles⟩
  cases o with
  | navigate path => exact navigation h fun _ => sparing_navigate
  | navigateTo route => exact navigation h fun _ => sparing_navigate
  | recover rejection => exact navigation h fun _ => sparing_recover
  | acceptTerms => exact navigation h fun _ => sparing_acceptTerms
  | logout => exact navigation h fun _ => sparing_logout
  | refreshToken =>
    obtain ⟨token, rfl, run⟩ := runs_map.mp h
    exact ⟨.of_quiet (quiet_refresh run) 1, nofun⟩

/-- **Redirects settle**, whatever the storage and the backend answer. With any handlers, what is
asked for apart from what the handler of the last route does is sparing; with handlers that ask
neither for an exchange nor for the connections, such as the standard ones, a whole run asks for
each once at most. -/
theorem redirects_settle (n : Navigator) :
    (∀ (start : Location) (ticket redirects : Nat) (es : Trace) (result : Navigator.Result),
      Journey n ticket start redirects es result → redirects ≤ 2) ∧
    (∀ (start : Location) (ticket : Nat) (es : Trace) (result : Navigator.Result),
      Runs (n.follow start ticket) es result →
        (∃ redirects, Journey n ticket start redirects es result) ∧ Sparing n 1 es ∧
          (n.registry.IsQuiet → es.exchanges ≤ 1 ∧ es.loads ≤ 1) ∧ result.Settles) ∧
    (∀ (o : Operation) (es : Trace) (reply : Reply), Runs (o.program n) es reply →
      Sparing n 1 es ∧ (n.registry.IsQuiet → es.exchanges ≤ 1 ∧ es.loads ≤ 1) ∧
        ∀ result, reply = .navigation result → result.Settles) ∧
    ∀ (m : SiteMap) (helpLink : Option String), (Registry.standard m helpLink).IsQuiet := by
  refine ⟨fun start ticket redirects es result journey => ?_, fun start ticket es result h => ?_,
    fun o es reply h => ?_, Registry.isQuiet_standard⟩
  · exact Nat.le_trans journey.redirects_le (Route.hops_le _)
  · obtain ⟨sparing, settles⟩ := sparing_follow h
    exact ⟨journey_of_follow h, sparing, sparing.total, settles⟩
  · obtain ⟨sparing, settles⟩ := sparing_program o h
    exact ⟨sparing, sparing.total, settles⟩

/-- The session never has the terms accepted, though the claims of every exchange do. -/
def contrary : (op : AppOp) → op.Answer
  | .storage (.read .session) => .ok (some (Session.ofClaims Run.secondUser).encode)
  | .storage (.read _) => .ok none
  | .storage (.write _ _) => .ok ()
  | .storage .wipe => .ok ()
  | .ask call => Run.backendOf Run.firstUser call
  | .notify _ => ()
  | .dispatch _ => ()
  | .ticket => 1
  | .mount _ _ _ => true
  | .location => none
  | .leave => ()

/-- A login, sent on to a page and from there to the terms. -/
theorem redirects_settle_contrary :
    ∃ redirects es result, Journey .usual 1 (.parse "/psamaui/login?code=c") redirects es result ∧
      redirects ≤ 2 ∧ es.exchanges = 1 ∧ es.loads ≤ 1 ∧ Sparing .usual 1 es ∧
        result.Settles := by
  have run := runs_carryOut contrary (Navigator.usual.follow (.parse "/psamaui/login?code=c") 1)
  have exchanges : ((Navigator.usual.follow (.parse "/psamaui/login?code=c") 1).carryOut
    contrary).1.countP (·.op.isExchange) = 1 := by decide +kernel
  obtain ⟨settle, follows, -, standard⟩ := redirects_settle Navigator.usual
  obtain ⟨⟨redirects, journey⟩, sparing, total, settles⟩ := follows _ _ _ _ run
  exact ⟨redirects, _, _, journey, settle _ _ _ _ _ journey, exchanges, (total (standard _ _)).2,
    sparing, settles⟩

end operations

end AdminConsole
