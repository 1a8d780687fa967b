import AdminConsole.Proofs.Passage
import AdminConsole.Proofs.Uses

/-!
# Where operations arrive

What an operation carries out on its way, with any answers. It does nothing but still things, as long
as it is sent on, and then passes a gate or does something else, which neither calls a handler nor
touches the connections (`course_of_runs`). -/

namespace AdminConsole

open Program

/-- Where the console is and what connections are kept stays as it is. -/
def AppOp.IsStill : AppOp → Prop
  | ticket | location => True
  | op => op.IsModest

/-- No handler is called, and the connections are neither asked for nor kept. -/
def AppOp.IsAloof : AppOp → Prop
  | ask call => call ≠ .connections
  | storage (.write slot _) => slot ≠ .connections
  | dispatch _ => False
  | _ => True

@[simp] theorem AppOp.isStill_read (slot : Slot) : (storage (.read slot)).IsStill := trivial

theorem AppOp.IsModest.isStill {op : AppOp} (h : op.IsModest) : op.IsStill := by
  cases op <;> first | exact h | trivial

theorem AppOp.IsStill.isAloof {op : AppOp} (h : op.IsStill) : op.IsAloof := by
  cases op with
  | storage op => cases op <;> first | exact h | trivial
  | _ => first | exact h | trivial

/-- Handlers that keep away from the connections. -/
def Registry.IsModest (r : Registry) : Prop :=
  ∀ route handler, r.handlers route = some handler → ∀ ctx, (handler ctx).Uses AppOp.IsModest

theorem Registry.isModest_standard (m : SiteMap) (helpLink : Option String) :
    (standard m helpLink).IsModest :=
  fun _ _ found => modest_standard found

theorem covers_aloof : AppOp.CoversEnds AppOp.IsAloof :=
  ⟨⟨fun _ modest => AppOp.IsStill.isAloof modest, fun _ => trivial⟩, fun _ _ _ => trivial, trivial,
    trivial, trivial⟩

/-! ### Operations -/

/-- A navigation that is not sent on from a route. -/
inductive Arrives (n : Navigator) (route : Route) : Trace → Navigator.Result → Prop
  | aloof {es : Trace} {result : Navigator.Result} (aloof : ∀ e ∈ es, e.op.IsAloof) :
    Arrives n route es result
  | shown {passed rest : Trace} {x : Except StorageError (Option String)} {ctx : RenderContext}
    {result : Navigator.Result} (passes : n.gate.Passes route passed .dispatch)
    (called : ctx.route = route) (aloof : ∀ e ∈ rest, e.op.IsAloof) :
    Arrives n route
      (passed ++ ⟨.storage (.read .session), x⟩ :: ⟨.dispatch ctx, ()⟩ :: rest) result
  | aborted {passed : Trace} (passes : n.gate.Passes route passed .abort) :
    Arrives n route passed (.ok .aborted)

/-- A visit ends with an arrival, or goes on and has left everything still. -/
def Visits (n : Navigator) (location : Location) (es : Trace) :
    Navigator.Result ⊕ Location → Prop
  | .inl result => Arrives n (n.siteMap.resolve location.path) es result
  | .inr _ => ∀ e ∈ es, e.op.IsStill

/-- A program on its way to where it arrives, or one that keeps away from the connections. -/
inductive Course (n : Navigator) (p : App Navigator.Result) : Trace → Navigator.Result → Prop
  | aloof {es : Trace} {result : Navigator.Result} (aloof : ∀ e ∈ es, e.op.IsAloof) :
    Course n p es result
  | arrives {way rest : Trace} {ticket left : Nat} {origin : String} {location : Location}
    {result : Navigator.Result} (still : ∀ e ∈ way, e.op.IsStill)
    (comes : Reaches p way (n.followWithin ticket origin left location))
    (arrives : Arrives n (n.siteMap.resolve location.path) rest result) :
    Course n p (way ++ rest) result

theorem Course.here {n : Navigator} {ticket left : Nat} {origin : String} {location : Location}
    {es : Trace} {result : Navigator.Result}
    (h : Arrives n (n.siteMap.resolve location.path) es result) :
    Course n (n.followWithin ticket origin left location) es result := by
  have still : ∀ e ∈ ([] : Trace), e.op.IsStill := by simp
  exact .arrives still (.refl _) h

theorem forall_mem_append {P : AppOp → Prop} {before after : Trace} (first : ∀ e ∈ before, P e.op)
    (next : ∀ e ∈ after, P e.op) : ∀ e ∈ before ++ after, P e.op :=
  fun e he => (List.mem_append.mp he).elim (first e) (next e)

/-- A program that goes on from still things. -/
theorem Course.after {n : Navigator} {α : Type} {p : App α} {f : α → App Navigator.Result} {a : α}
    {before after : Trace} {result : Navigator.Result} (h : Course n (f a) after result)
    (first : Runs p before a) (still : ∀ e ∈ before, e.op.IsStill) :
    Course n (p >>= f) (before ++ after) result := by
  cases h with
  | aloof aloof => exact .aloof (forall_mem_append (fun e he => (still e he).isAloof) aloof)
  | @arrives way rest _ _ _ _ _ still' comes arrives =>
    rw [← List.append_assoc]
    exact .arrives (forall_mem_append still still') ((first.reaches_bind f).trans comes) arrives

section course

variable {n : Navigator} {es : Trace}

theorem dispatch_inv (modest : n.registry.IsModest) {route : Route} {location : Location}
    {ticket : Nat} {outcome : Outcome} (h : Runs (n.dispatch route location ticket) es outcome) :
    ∃ x ctx rest, es = ⟨.storage (.read .session), x⟩ :: ⟨.dispatch ctx, ()⟩ :: rest ∧
      ctx.route = route ∧ ∀ e ∈ rest, e.op.IsAloof := by
  unfold Navigator.dispatch at h
  rw [runs_bind, get_eq_map] at h
  obtain ⟨read, session, after, rfl, get, h⟩ := h
  obtain ⟨x, rfl, rfl⟩ := runs_lift_op.mp get
  rw [runs_bind] at h
  obtain ⟨called, _, after, rfl, call, h⟩ := h
  obtain rfl := runs_step_done.mp call
  refine ⟨x, _, after, rfl, rfl, h.uses (P := AppOp.IsAloof) ?_⟩
  have made (ctx : RenderContext) : (n.registry.render route ctx).Uses AppOp.IsAloof :=
    (Registry.uses_render (modest route) ctx).mono fun _ modest => modest.isStill.isAloof
  refine (made _).bind fun view => ?_
  exact ⟨trivial, fun mounted => by cases mounted <;> trivial⟩

theorem visits_of_runs (modest : n.registry.IsModest) {location : Location} {ticket : Nat}
    {r : Navigator.Result ⊕ Location} (h : Runs (n.visit location ticket) es r) :
    Visits n location es r := by
  unfold Navigator.visit at h
  split at h
  · rw [runs_bind] at h
    obtain ⟨before, step, after, rfl, start, h⟩ := h
    have still := start.uses ((n.login.modest_start location).mono fun _ => AppOp.IsModest.isStill)
    cases step with
    | navigate next =>
      obtain ⟨rfl, rfl⟩ := runs_pure.mp h
      rwa [List.append_nil]
    | external url | display view =>
      rw [runs_bind] at h
      obtain ⟨settled, outcome, after, rfl, settle, h⟩ := h
      obtain ⟨rfl, rfl⟩ := runs_pure.mp h
      have aloof := settle.uses (Navigator.uses_settle covers_aloof _ _ _)
      rw [List.append_nil]
      refine .aloof fun e he => ?_
      rcases List.mem_append.mp he with he | he
      · exact (still e he).isAloof
      · exact aloof e he
  · rw [runs_bind] at h
    obtain ⟨before, result, after, rfl, ended, h⟩ := h
    obtain ⟨rfl, rfl⟩ := runs_pure.mp h
    rw [List.append_nil]
    exact .aloof (ended.uses (n.uses_logout covers_aloof))
  · rw [runs_bind] at h
    obtain ⟨before, d, after, rfl, check, h⟩ := h
    have passes := Gate.passes_of_check check
    cases d with
    | dispatch =>
      rw [runs_bind] at h
      obtain ⟨shown, outcome, after, rfl, dispatch, h⟩ := h
      obtain ⟨rfl, rfl⟩ := runs_pure.mp h
      obtain ⟨x, ctx, rest, rfl, called, aloof⟩ := dispatch_inv modest dispatch
      rw [List.append_nil]
      exact .shown passes called aloof
    | abort =>
      obtain ⟨rfl, rfl⟩ := runs_pure.mp h
      rw [List.append_nil]
      exact .aborted passes
    | login =>
      rw [runs_bind] at h
      obtain ⟨begun, outcome, after, rfl, begin, h⟩ := h
      obtain ⟨rfl, rfl⟩ := runs_pure.mp h
      have aloof := begin.uses (n.uses_beginLogin covers_aloof location ticket)
      rw [List.append_nil]
      cases passes with
      | login => exact .aloof (List.forall_mem_cons.mpr ⟨trivial, aloof⟩)
    | redirect target =>
      obtain ⟨rfl, rfl⟩ := runs_pure.mp h
      rw [List.append_nil]
      cases passes with
      | redirect => simp [Visits]

/-- **A navigation leaves everything still until it arrives.** -/
theorem course_of_followWithin (modest : n.registry.IsModest) {origin : String}
    {ticket left : Nat} {location : Location} {result : Navigator.Result}
    (h : Runs (n.followWithin ticket origin left location) es result) :
    Course n (n.followWithin ticket origin left location) es result := by
  induction left generalizing location es with
  | zero =>
    unfold Navigator.followWithin at h
    obtain ⟨before, r, after, rfl, step, h⟩ := runs_bind.mp h
    have visited := visits_of_runs modest step
    cases r with
    | inl result =>
      obtain ⟨rfl, rfl⟩ := runs_pure.mp h
      rw [List.append_nil]
      exact .here visited
    | inr next =>
      obtain ⟨rfl, rfl⟩ := runs_pure.mp h
      rw [List.append_nil]
      exact .aloof fun e he => (visited e he).isAloof
  | succ left ih =>
    rw [Navigator.followWithin] at h
    obtain ⟨before, r, after, rfl, step, h⟩ := runs_bind.mp h
    have visited := visits_of_runs modest step
    cases r with
    | inl result =>
      obtain ⟨rfl, rfl⟩ := runs_pure.mp h
      rw [List.append_nil]
      exact .here visited
    | inr next =>
      rw [Navigator.followWithin]
      refine Course.after ?_ step visited
      exact ih h

theorem course_of_follow (modest : n.registry.IsModest) {location : Location} {ticket : Nat}
    {result : Navigator.Result} (h : Runs (n.follow location ticket) es result) :
    Course n (n.follow location ticket) es result :=
  course_of_followWithin modest h

/-! ### Where an operation arrives -/

section operations

variable {result : Navigator.Result}

theorem course_navigate (modest : n.registry.IsModest) {path : String}
    (h : Runs (n.navigate path) es result) : Course n (n.navigate path) es result := by
  unfold Navigator.navigate at h ⊢
  obtain ⟨taken, ticket, after, rfl, take, h⟩ := runs_bind.mp h
  refine Course.after ?_ take (take.uses (P := AppOp.IsStill) ⟨trivial, fun _ => trivial⟩)
  exact course_of_follow modest h

theorem course_acceptTerms (modest : n.registry.IsModest) (h : Runs n.acceptTerms es result) :
    Course n n.acceptTerms es result := by
  unfold Navigator.acceptTerms at h ⊢
  obtain ⟨taken, ticket, after, rfl, take, h⟩ := runs_bind.mp h
  refine Course.after ?_ take (take.uses (P := AppOp.IsStill) ⟨trivial, fun _ => trivial⟩)
  obtain ⟨before, step, after, rfl, accept, h⟩ := runs_bind.mp h
  refine Course.after ?_ accept
    (accept.uses ((Terms.modest_accept n.siteMap).mono fun _ => AppOp.IsModest.isStill))
  cases step with
  | navigate location => exact course_of_follow modest h
  | external url | display view =>
    refine .aloof (h.uses (P := AppOp.IsAloof) ⟨trivial, fun location => ?_⟩)
    exact (Navigator.uses_settle covers_aloof _ _ _).bind fun _ => trivial

theorem course_recover (modest : n.registry.IsModest) {rejection : Rejection}
    (h : Runs (n.recover rejection) es result) : Course n (n.recover rejection) es result := by
  cases rejection with
  | forbidden | termsNotAccepted => exact course_navigate modest h
  | unauthenticated =>
    unfold Navigator.recover at h ⊢
    obtain ⟨read, token, after, rfl, look, h⟩ := runs_bind.mp h
    refine Course.after ?_ look (look.uses ((App.modest_lift SessionStore.modest_token?).mono
      fun _ => AppOp.IsModest.isStill))
    by_cases missing : token.isNone = true
    · rw [if_pos missing] at h
      exact .aloof (h.uses (n.uses_logout covers_aloof))
    rw [if_neg missing] at h ⊢
    obtain ⟨read, url, after, rfl, note, h⟩ := runs_bind.mp h
    refine Course.after ?_ note (note.uses ((App.modest_lift (TabNotes.modest_read _)).mono
      fun _ => AppOp.IsModest.isStill))
    cases url with
    | some url =>
      obtain ⟨rfl, rfl⟩ := runs_pure.mp h
      exact .aloof (by simp)
    | none =>
      obtain ⟨looked, location, after, rfl, look, h⟩ := runs_bind.mp h
      refine Course.after ?_ look (look.uses (P := AppOp.IsStill) ⟨trivial, fun _ => trivial⟩)
      obtain ⟨taken, ticket, after, rfl, take, h⟩ := runs_bind.mp h
      refine Course.after ?_ take (take.uses (P := AppOp.IsStill) ⟨trivial, fun _ => trivial⟩)
      exact course_of_follow modest h

/-- **Every operation runs its course.** -/
theorem course_of_runs (modest : n.registry.IsModest) {o : Operation} {reply : Reply}
    (h : Runs (o.program n) es reply) : (∀ e ∈ es, e.op.IsAloof) ∨
      ∃ p result, o.program n = .navigation <$> p ∧ reply = .navigation result ∧
        Course n p es result := by
  have navigation {p : App Navigator.Result} (eq : o.program n = .navigation <$> p)
      (hp : ∀ result, Runs p es result → Course n p es result) :
      ∃ p result, o.program n = .navigation <$> p ∧ reply = .navigation result ∧
        Course n p es result := by
    rw [eq, runs_map] at h
    obtain ⟨result, rfl, run⟩ := h
    exact ⟨p, result, eq, rfl, hp result run⟩
  cases o with
  | navigate path => exact .inr (navigation rfl fun _ => course_navigate modest)
  | navigateTo route => exact .inr (navigation rfl fun _ => course_navigate modest)
  | recover rejection => exact .inr (navigation rfl fun _ => course_recover modest)
  | acceptTerms => exact .inr (navigation rfl fun _ => course_acceptTerms modest)
  | logout => exact .inr (navigation rfl fun _ h => .aloof (h.uses (n.uses_logout covers_aloof)))
  | refreshToken =>
    obtain ⟨token, rfl, run⟩ := runs_map.mp h
    exact .inl (run.uses (TokenRefresh.modest_refresh.mono fun _ modest => modest.isStill.isAloof))

end operations

end course

end AdminConsole
