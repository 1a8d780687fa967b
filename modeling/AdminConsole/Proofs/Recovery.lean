import AdminConsole.Proofs.Location
import AdminConsole.Proofs.Redirects

/-!
# What a recovery asks for

A rejected request is recovered from at a page that needs nothing of the backend, or at the terms,
which ask for their text. So a recovery puts no call, or the one for the terms
(`Navigator.puts_recover`). -/

namespace AdminConsole

open Program

/-! ### Calls that are put -/

def AppOp.call? : AppOp → Option Call
  | ask call => some call
  | _ => none

/-- The calls that were put, in their order. -/
def Trace.calls (es : Trace) : List Call := es.filterMap (·.op.call?)

/-- Every run of the program puts calls of the list alone, in their order and each once at most. -/
def Puts {α : Type} (p : App α) (cs : List Call) : Prop :=
  ∀ es a, Runs p es a → (Trace.calls es).Sublist cs

section puts

variable {α β : Type} {p : App α} {f : α → App β} {cs cs' : List Call}

theorem Puts.mono (h : Puts p cs) (le : cs.Sublist cs') : Puts p cs' :=
  fun es a run => (h es a run).trans le

theorem puts_of_uses (h : p.Uses fun op => op.call? = none) : Puts p [] := by
  intro es a run
  have noCalls : Trace.calls es = [] := List.filterMap_eq_nil_iff.mpr (run.uses h)
  exact noCalls ▸ List.Sublist.refl _

theorem puts_lift (p : Storage α) : Puts (liftM p : App α) [] :=
  puts_of_uses (App.uses_lift (fun _ => rfl) p)

theorem puts_pure (a : α) : Puts (pure a : App α) [] := puts_of_uses trivial

theorem puts_ask (call : Call) : Puts (App.ask call) [call] := by
  intro es a run
  obtain rfl := runs_step_done.mp run
  exact List.Sublist.refl _

/-- What follows a part is put after what the part puts. -/
theorem Puts.bind_of_runs (h : Puts p cs) (next : ∀ es a, Runs p es a → Puts (f a) cs') :
    Puts (p >>= f) (cs ++ cs') := by
  intro es b run
  obtain ⟨before, a, after, rfl, first, rest⟩ := runs_bind.mp run
  rw [Trace.calls, List.filterMap_append]
  exact (h before a first).append (next before a first after b rest)

/-- Nothing is put after the part. -/
theorem Puts.last (h : Puts p cs) (next : ∀ es a, Runs p es a → Puts (f a) []) :
    Puts (p >>= f) cs := by
  have both := h.bind_of_runs next
  rwa [List.append_nil] at both

/-- Nothing is put before the part. -/
theorem Puts.first (h : Puts p []) (next : ∀ es a, Runs p es a → Puts (f a) cs) :
    Puts (p >>= f) cs :=
  h.bind_of_runs next

theorem Puts.bind (h : Puts p cs) (next : ∀ a, Puts (f a) cs') : Puts (p >>= f) (cs ++ cs') :=
  h.bind_of_runs fun _ a _ => next a

end puts

theorem covers_puts : AppOp.CoversEnds fun op => op.call? = none :=
  ⟨⟨fun _ _ => rfl, fun _ => rfl⟩, fun _ _ _ => rfl, rfl, rfl, rfl⟩

/-! ### Views -/

theorem Registry.puts_render {r : Registry} {route : Route} {h : Handler} {cs : List Call}
    (found : r.handlers route = some h) (made : ∀ ctx, Puts (h ctx) cs) (ctx : RenderContext) :
    Puts (r.render route ctx) cs := by
  rw [render, found]
  simp only
  split
  · exact made ctx
  · exact (puts_pure _).mono (List.nil_sublist cs)

theorem Handler.puts_terms (ctx : RenderContext) : Puts (terms ctx) [.latestTerms] := by
  refine (puts_ask .latestTerms).last fun _ result _ => ?_
  cases result with
  | ok content => exact puts_pure _
  | error e => exact puts_of_uses ⟨rfl, fun _ => trivial⟩

/-- The gate lets a session through to the terms, and asks for nothing. -/
theorem Gate.check_terms {g : Gate} {es : Trace} {d : Decision} (h : Runs (g.check .tos) es d) :
    (Trace.calls es).Sublist [] ∧ (d = .dispatch ∨ d = .login) := by
  cases passes_of_check h with
  | isPublic | terms => exact ⟨List.Sublist.refl _, .inl rfl⟩
  | login => exact ⟨List.Sublist.refl _, .inr rfl⟩
  | redirect other => exact absurd rfl other
  | cached warrants => exact absurd rfl warrants.other
  | loaded _ warrants => exact absurd rfl warrants.other
  | failed warrants => exact absurd rfl warrants.other
  | aborted warrants => exact absurd rfl warrants.other

/-! ### Navigations that end where they start -/

namespace Navigator

variable {n : Navigator} {cs : List Call} {location : Location} {ticket left : Nat}
  {origin : String} {route : Route}

theorem puts_dispatch (made : ∀ ctx, Puts (n.registry.render route ctx) cs) :
    Puts (n.dispatch route location ticket) cs := by
  have shown : ∀ view, Puts (mount ticket view location) [] := fun view =>
    puts_of_uses ⟨rfl, fun _ => trivial⟩
  have rendered : ∀ ctx, Puts (n.registry.render route ctx >>= (mount ticket · location)) cs :=
    fun ctx => ((made ctx).bind shown).mono (by simp)
  have called : ∀ ctx, Puts (App.dispatch ctx) [] := fun ctx =>
    puts_of_uses ⟨rfl, fun _ => trivial⟩
  unfold dispatch
  exact (puts_lift SessionStore.get).bind fun session => (called _).bind fun _ => rendered _

/-- A visit that is not sent on is all there is of a navigation. -/
theorem puts_follow (visited : Puts (n.visit location ticket) cs)
    (ends : ∀ es r, Runs (n.visit location ticket) es r → r.isLeft) :
    Puts (n.follow location ticket) cs := by
  unfold follow
  generalize location.path = origin
  rw [maxRedirects, followWithin]
  refine visited.last fun es r run => ?_
  cases r with
  | inl result => exact puts_pure _
  | inr next => exact nomatch ends es _ run

/-- The page that says access is denied is shown at once. -/
theorem visit_denied (isPublic : n.siteMap.isPublic .notAuthorized = true)
    (resolved : n.siteMap.resolve location.path = .notAuthorized) : n.visit location ticket =
      n.dispatch .notAuthorized location ticket >>= fun outcome => pure (.inl (.ok outcome)) := by
  have opens : n.gate.check .notAuthorized = pure .dispatch := if_pos isPublic
  rw [visit, resolved]
  simp only [opens]
  rfl

/-- The page that says access is denied needs nothing. -/
theorem puts_follow_denied (isPublic : n.siteMap.isPublic .notAuthorized = true)
    (made : ∀ ctx, Puts (n.registry.render .notAuthorized ctx) [])
    (resolved : n.siteMap.resolve location.path = .notAuthorized) :
    Puts (n.follow location ticket) [] := by
  refine puts_follow ?_ ?_
  · rw [visit_denied isPublic resolved]
    exact (puts_dispatch made).bind fun _ => puts_pure _
  · intro es r run
    rw [visit_denied isPublic resolved, runs_bind] at run
    obtain ⟨_, outcome, _, -, -, run⟩ := run
    obtain ⟨-, rfl⟩ := runs_pure.mp run
    rfl

/-- The terms need their text. -/
theorem puts_follow_terms (made : ∀ ctx, Puts (n.registry.render .tos ctx) [.latestTerms])
    (resolved : n.siteMap.resolve location.path = .tos) :
    Puts (n.follow location ticket) [.latestTerms] := by
  refine puts_follow ?_ ?_
  · rw [visit, resolved]
    refine Puts.first (fun es d run => (Gate.check_terms run).1) fun es d run => ?_
    obtain rfl | rfl := (Gate.check_terms run).2
    · exact (puts_dispatch made).bind fun _ => puts_pure _
    · have begun := puts_of_uses (n.uses_beginLogin covers_puts location ticket)
      exact (begun.bind fun _ => puts_pure _).mono (by simp)
  · intro es r run
    rw [visit, resolved] at run
    obtain ⟨_, d, _, -, check, run⟩ := runs_bind.mp run
    obtain rfl | rfl := (Gate.check_terms check).2
    all_goals
      obtain ⟨_, outcome, _, -, -, run⟩ := runs_bind.mp run
      obtain ⟨-, rfl⟩ := runs_pure.mp run
      rfl

/-! ### Recoveries -/

/-- A console whose page for denied access is open to all, with the standard handlers. -/
structure IsStandard (n : Navigator) : Prop where
  unmarked : n.siteMap.IsUnmarked
  isPublic : n.siteMap.isPublic .notAuthorized = true
  registry : ∃ helpLink, n.registry = .standard n.siteMap helpLink

theorem isStandard_ofSettings {s : Settings} (noQuery : '?' ∉ s.uiBasePath.toList)
    (noFragment : '#' ∉ s.uiBasePath.toList) : (ofSettings s s.siteMap).IsStandard where
  unmarked := SiteMap.isUnmarked_ofBase noQuery noFragment
  isPublic := rfl
  registry := ⟨s.helpLink, rfl⟩

theorem puts_navigateTo (unmarked : n.siteMap.IsUnmarked)
    (followed : ∀ location ticket, n.siteMap.resolve location.path = route →
      Puts (n.follow location ticket) cs) : Puts (n.navigateTo route) cs := by
  have issued : Puts App.ticket [] := puts_of_uses ⟨rfl, fun _ => trivial⟩
  rw [navigateTo, navigate, SiteMap.parse_pathFor unmarked]
  exact issued.bind fun ticket => followed _ ticket (n.siteMap.resolve_pathFor route)

/-- The calls that a rejection is recovered from with. -/
def callsFor : Rejection → List Call
  | .termsNotAccepted => [.latestTerms]
  | .unauthenticated | .forbidden => []

theorem eq_of_mem_callsFor {rejection : Rejection} {call : Call} (h : call ∈ callsFor rejection) :
    call = .latestTerms := by
  cases rejection with
  | termsNotAccepted => exact List.mem_singleton.mp h
  | unauthenticated | forbidden => exact nomatch h

/-- **A recovery puts no call but the one for the terms**, and that once at most and only where the
terms have to be accepted first. -/
theorem puts_recover (standard : n.IsStandard) (rejection : Rejection) :
    Puts (n.recover rejection) (callsFor rejection) := by
  obtain ⟨helpLink, registry⟩ := standard.registry
  have denied : ∀ location ticket, n.siteMap.resolve location.path = .notAuthorized →
      Puts (n.follow location ticket) [] := fun location ticket =>
    puts_follow_denied standard.isPublic fun ctx => by
      rw [registry]
      exact Registry.puts_render rfl (fun _ => puts_pure _) ctx
  cases rejection with
  | termsNotAccepted =>
    refine puts_navigateTo standard.unmarked fun location ticket => puts_follow_terms fun ctx => ?_
    rw [registry]
    exact Registry.puts_render rfl Handler.puts_terms ctx
  | forbidden => exact puts_navigateTo standard.unmarked denied
  | unauthenticated =>
    refine (puts_lift SessionStore.token?).bind fun token => ?_
    split
    · exact puts_of_uses (n.uses_logout covers_puts)
    · refine (puts_lift TabNotes.notAuthorizedUrl?).bind fun url => ?_
      cases url with
      | some url => exact puts_pure _
      | none =>
        have asked : Puts App.location [] := puts_of_uses ⟨rfl, fun _ => trivial⟩
        have issued : Puts App.ticket [] := puts_of_uses ⟨rfl, fun _ => trivial⟩
        refine asked.bind fun location => issued.bind fun ticket => ?_
        exact denied _ ticket (n.siteMap.resolve_pathFor .notAuthorized)

end Navigator

end AdminConsole
