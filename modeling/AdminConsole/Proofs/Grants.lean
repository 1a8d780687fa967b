import AdminConsole.Proofs.Recovery

/-!
# Grants that are exchanged

Coming to the login with a grant, a navigation exchanges it once, and no grant besides
(`Navigator.grants_navigate`): the login leads on to a page or to the terms at most, and no standard
handler asks for an exchange. -/

namespace AdminConsole

open Program

def Call.grant? : Call → Option Grant
  | exchange grant => some grant
  | _ => none

namespace Trace

variable {es before after : Trace}

/-- The grants that were exchanged, in their order. -/
def grants (es : Trace) : List Grant := (calls es).filterMap Call.grant?

@[simp] theorem grants_append : grants (before ++ after) = grants before ++ grants after := by
  rw [grants, calls, List.filterMap_append, List.filterMap_append]
  rfl

theorem length_grants (es : Trace) : (grants es).length = exchanges es := by
  have single : ∀ e : Answered AppOp.Answer, (grants [e]).length = exchanges [e] := by
    rintro ⟨op, answer⟩
    cases op with
    | ask call => cases call <;> rfl
    | _ => rfl
  induction es with
  | nil => rfl
  | cons e es ih =>
    have parts : e :: es = [e] ++ es := rfl
    rw [parts, grants_append, exchanges_append, List.length_append, single, ih]

theorem grants_of_none (h : exchanges es = 0) : grants es = [] :=
  List.eq_nil_of_length_eq_zero ((length_grants es).trans h)

end Trace

open Trace

/-! ### The login -/

section login

variable {l : Login} {g : Grant} {es : Trace} {step : NextStep}

/-- The grant is exchanged first, and what follows is quiet. -/
theorem grants_complete (h : Runs (l.complete g) es step) : es.grants = [g] := by
  have once := (runs_complete h).1
  rw [Login.complete, runs_bind] at h
  obtain ⟨asked, result, rest, rfl, ask, -⟩ := h
  obtain rfl := runs_step_done.mp ask
  rw [exchanges_append] at once
  have none : exchanges rest = 0 := Nat.add_left_cancel once
  rw [grants_append, grants_of_none none]
  rfl

theorem grants_start {location : Location} (found : l.grant? location = some g)
    (h : Runs (l.start location) es step) : es.grants = [g] := by
  rw [Login.start, runs_bind] at h
  obtain ⟨kept, _, rest, rfl, keep, h⟩ := h
  rw [found] at h
  have quiet := quiet_of_uses keep (App.uses_lift isQuiet_storage _)
  rw [grants_append, grants_of_none quiet.1, grants_complete h, List.nil_append]

end login

/-! ### Navigations that come to the login -/

namespace Navigator

variable {n : Navigator} {location : Location} {g : Grant} {es : Trace} {ticket : Nat}

theorem grants_visit (login : n.siteMap.resolve location.path = .login)
    (found : n.login.grant? location = some g) {r : Result ⊕ Location}
    (h : Runs (n.visit location ticket) es r) : es.grants = [g] := by
  rw [visit, login] at h
  obtain ⟨before, step, after, rfl, start, h⟩ := runs_bind.mp h
  have given := grants_start found start
  cases step with
  | navigate next =>
    obtain ⟨rfl, -⟩ := runs_pure.mp h
    rw [List.append_nil, given]
  | external | display =>
    obtain ⟨settled, _, rest, rfl, settle, h⟩ := runs_bind.mp h
    obtain ⟨rfl, -⟩ := runs_pure.mp h
    have quiet := quiet_of_uses settle (uses_settle covers_quiet _ _ _)
    rw [List.append_nil, grants_append, given, grants_of_none quiet.1, List.append_nil]

/-- Where the login leads to, nothing is exchanged. -/
theorem exchanges_journey {helpLink : Option String}
    (registry : n.registry = .standard n.siteMap helpLink)
    (short : (n.siteMap.resolve location.path).hops ≤ 1) {redirects : Nat} {result : Result}
    (h : Journey n ticket location redirects es result) : es.exchanges = 0 := by
  have few := (h.sparing.1.total (registry ▸ Registry.isQuiet_standard _ _)).1
  omega

theorem grants_follow {helpLink : Option String}
    (registry : n.registry = .standard n.siteMap helpLink)
    (login : n.siteMap.resolve location.path = .login) (found : n.login.grant? location = some g)
    {result : Result} (h : Runs (n.follow location ticket) es result) : es.grants = [g] := by
  obtain ⟨redirects, journey⟩ := journey_of_follow h
  cases journey with
  | ends step => exact grants_visit login found step
  | goesOn step journey =>
    -- Sent on, it comes to a page or to the terms, and nothing is exchanged there.
    obtain ⟨-, -, fewer⟩ := runs_visit step
    rw [login] at fewer
    have none := exchanges_journey registry (Nat.le_of_lt_succ fewer) journey
    rw [grants_append, grants_visit login found step, grants_of_none none, List.append_nil]

/-- **A navigation that comes to the login with a grant exchanges that grant**, once, and no
other. -/
theorem grants_navigate {helpLink : Option String}
    (registry : n.registry = .standard n.siteMap helpLink) {path : String}
    (login : n.siteMap.resolve (Location.parse path).path = .login)
    (found : n.login.grant? (.parse path) = some g) {result : Result}
    (h : Runs (n.navigate path) es result) : es.grants = [g] := by
  rw [navigate, runs_bind] at h
  obtain ⟨issued, ticket, rest, rfl, issue, h⟩ := h
  obtain rfl := runs_step_done.mp issue
  rw [grants_append, grants_follow registry login found h]
  rfl

end Navigator

end AdminConsole
