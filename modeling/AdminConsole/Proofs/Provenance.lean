import AdminConsole.Proofs.NewestTicket
import AdminConsole.Proofs.StoredSession

/-!
# Where a session comes from

A stored session goes back to the claims of the last sign-in (`goesBack_of_session`). It has their
permissions, and has accepted the terms only if they had or the backend has taken the acceptance
since. So, where operations follow one another, whatever a handler is called for goes back to claims
that warrant it (`dispatch_goes_back`). -/

namespace AdminConsole

open History

/-- The session of new claims has just been stored. -/
inductive SignsIn (c : Claims) : History → Prop
  | mk {i : Nat} {text : String} {grant : Grant} {old : History} (valid : c.validate = .ok ()) :
    SignsIn c (⟨i, .storage (.write .session text), .ok ()⟩ :: ⟨i, .ask (.exchange grant), .ok c⟩ ::
      old)

/-- The last sign-in of a history, and what came since. -/
structure LastSignIn (c : Claims) (since signIn : History) : Prop where
  signsIn : SignsIn c signIn
  last : ∀ c', .signIn c' ∉ changes since signIn
  unwiped : ∀ e ∈ since, ¬ e.Wiped

/-- The session is that of the claims, with the terms accepted at most if the backend says so. -/
structure GoesBack (s : Session) (c : Claims) (since : History) : Prop where
  permissions : s.permissions = c.permissions
  accepted : s.acceptedTos = true →
    c.acceptedTos = true ∨ ∃ k, (⟨k, .ask .acceptTerms, .ok ()⟩ : Entry) ∈ since

section session

variable {n : Navigator} {w : World} {f : Nat → Option Operation} {c : Claims} {s : Session}
  {since signIn h : History}

theorem LastSignIn.cons (hl : LastSignIn c since signIn) {e : Entry}
    (unsigned : ∀ c', change? e (since ++ signIn) ≠ some (.signIn c')) (unwiped : ¬ e.Wiped) :
    LastSignIn c (e :: since) signIn := by
  refine ⟨hl.signsIn, fun c' signs => ?_, List.forall_mem_cons.mpr ⟨unwiped, hl.unwiped⟩⟩
  rcases List.mem_append.mp signs with here | before
  · exact unsigned c' (Option.mem_toList.mp here)
  · exact hl.last c' before

theorem GoesBack.cons (hb : GoesBack s c since) (e : Entry) : GoesBack s c (e :: since) :=
  ⟨hb.permissions, fun accepts => (hb.accepted accepts).imp_right fun ⟨k, he⟩ =>
    ⟨k, List.mem_cons_of_mem e he⟩⟩

theorem signsIn_of_change {e : Entry} (guard : ∃ o, (conduct n).guard o e h)
    (signs : change? e h = some (.signIn c)) : SignsIn c (e :: h) := by
  obtain ⟨o, guard⟩ := guard
  cases makes_of_change signs with
  | signIn =>
    obtain ⟨_, written⟩ := guard
    cases (written : SessionText ..) with
    | signIn valid made => exact .mk valid

/-- An acceptance that is recorded has been answered since the sign-in. -/
theorem mem_of_acceptTerms (signsIn : SignsIn c signIn) {e : Entry}
    (accepts : change? e (since ++ signIn) = some .acceptTerms) :
    ∃ k, (⟨k, .ask .acceptTerms, .ok ()⟩ : Entry) ∈ since := by
  generalize whole : since ++ signIn = before at accepts
  cases makes_of_change accepts with
  | @acceptTerms _ k _ x old =>
    refine ⟨k, ?_⟩
    cases signsIn
    match since with
    | [] => simp at whole
    | [y] => simp at whole
    | y :: z :: rest =>
      obtain ⟨-, eq⟩ := List.cons.inj whole
      obtain ⟨rfl, -⟩ := List.cons.inj eq
      exact List.mem_cons_of_mem y List.mem_cons_self

/-- A session that is kept or amended goes back to where the one before it does. -/
theorem goesBack_cons {s₀ : Session} {e : Entry}
    (before : ∃ c since signIn, h = since ++ signIn ∧ LastSignIn c since signIn ∧
      GoesBack s₀ c since)
    (permissions : s.permissions = s₀.permissions)
    (accepts : s.acceptedTos = true → s₀.acceptedTos = true ∨ change? e h = some .acceptTerms)
    (unsigned : ∀ c, change? e h ≠ some (.signIn c)) (stays : change? e h ≠ some .logout) :
    ∃ c since signIn, e :: h = since ++ signIn ∧ LastSignIn c since signIn ∧
      GoesBack s c since := by
  obtain ⟨c, since, signIn, rfl, last, back⟩ := before
  have unwiped : ¬ e.Wiped := by
    rintro ⟨i, rfl⟩
    exact stays rfl
  refine ⟨c, e :: since, signIn, rfl, last.cons unsigned unwiped,
    permissions.trans back.permissions, fun now => ?_⟩
  rcases accepts now with accepted | change
  · exact (back.cons e).accepted accepted
  · obtain ⟨k, he⟩ := mem_of_acceptTerms last.signsIn change
    exact .inr ⟨k, List.mem_cons_of_mem e he⟩

/-- **A stored session goes back to the last sign-in.** -/
theorem goesBack_of_session (signedOut : w.session? = none) (hg : (conduct n).Guarded f h)
    (hc : w.Consistent h) (stored : (w.replay h).session? = some s) :
    ∃ c since signIn, h = since ++ signIn ∧ LastSignIn c since signIn ∧ GoesBack s c since := by
  induction h generalizing s with
  | nil => exact absurd stored (by simp [World.replay, signedOut])
  | cons e h ih =>
    obtain ⟨⟨o, _, guard⟩, hg⟩ := hg
    rw [session?_step guard hc.2] at stored
    cases change : change? e h with
    | none =>
      simp only [change, Option.elim_none] at stored
      exact goesBack_cons (ih hg hc.2 stored) rfl .inl (by simp [change]) (by simp [change])
    | some made =>
      simp only [change, Option.elim_some] at stored
      cases made with
      | signIn c =>
        obtain rfl := Option.some.inj stored
        have signsIn := signsIn_of_change ⟨o, guard⟩ change
        exact ⟨c, [], e :: h, rfl, ⟨signsIn, by simp [changes], by simp⟩, rfl, .inl⟩
      | acceptTerms =>
        obtain ⟨s₀, before, rfl⟩ := Option.map_eq_some_iff.mp stored
        exact goesBack_cons (ih hg hc.2 before) rfl (fun _ => .inr change) (by simp [change])
          (by simp [change])
      | privileges tags =>
        obtain ⟨s₀, before, rfl⟩ := Option.map_eq_some_iff.mp stored
        exact goesBack_cons (ih hg hc.2 before) rfl .inl (by simp [change]) (by simp [change])
      | token text =>
        obtain ⟨s₀, before, rfl⟩ := Option.map_eq_some_iff.mp stored
        exact goesBack_cons (ih hg hc.2 before) rfl .inl (by simp [change]) (by simp [change])
      | logout => simp [Change.apply] at stored

end session

/-! ### Behind the gate -/

section gate

variable {g : Gate} {w : World} {i : Nat} {route : Route} {new old h : History}

theorem Alone.of_append (alone : Alone i (new ++ old)) : Alone i old := by
  intro a b c e e' eq own own'
  exact alone (new ++ a) b c e e' (by rw [eq, List.append_assoc]) own own'

/-- Where no other task comes between, the session that the gate has seen is still the stored
one. -/
theorem session_of_admitted (hc : w.Consistent h) (alone : Alone i h)
    (guarded : g.siteMap.isPublic route = false) (admitted : Admitted g i route h) :
    ∃ s, (w.replay h).session? = some s ∧ (route ≠ .tos → s.acceptedTos = true) := by
  cases admitted with
  | isPublic isPublic => simp [guarded] at isPublic
  | @terms a old isTos signedIn =>
    obtain ⟨s, read, _⟩ := signedIn
    have stored := sessionIn_of_allows hc.1 read
    exact ⟨s, by cases a <;> exact stored, fun other => absurd isTos other⟩
  | @cached a b c old signedIn accepted =>
    obtain ⟨s, read, accepts⟩ := accepted
    have stored := sessionIn_of_allows hc.2.1 read
    exact ⟨s, by cases b <;> cases c <;> exact stored, fun _ => accepts⟩
  | @loaded a b c result kept others old signedIn accepted hk foreign =>
    obtain ⟨s, read, accepts⟩ := accepted
    -- The task has waited alone.
    obtain rfl : others = [] := List.eq_nil_iff_forall_not_mem.mpr fun x hx =>
      foreign x hx (alone kept others _ ⟨i, .ask .connections, result⟩
        ⟨i, .storage (.read .connections), c⟩ rfl rfl rfl x hx)
    have stored := sessionIn_of_allows hc.of_append.2.2.1 read
    refine ⟨s, ?_, fun _ => accepts⟩
    rw [session?_replay_of_unwritten ?_ ?_]
    · cases b <;> cases c <;> exact stored
    · rcases hk with rfl | ⟨text, k, rfl⟩
      · simp
      · simp [Entry.Wrote]
    · rcases hk with rfl | ⟨text, k, rfl⟩
      · simp
      · simp [Entry.Wiped]

end gate

namespace Run

variable {n : Navigator} {r : Run}

theorem OneAfterAnother.alone (h : r.OneAfterAnother) (i : Nat) : Alone i r.history := by
  rintro a b c e e' eq rfl own
  exact h.own_between eq own.symm

/-- Nothing but the view that says so is shown where a permission is missing. -/
theorem denied_of_missing (hk : (conduct n).Keeps r) {i : Nat} {ctx : RenderContext}
    {new old : History} (dispatched : r.history = new ++ ⟨i, .dispatch ctx, ()⟩ :: old)
    (lacking : n.registry.missing ctx.route ctx.session ≠ []) {t : Nat} {v : View} {l : Location}
    {mounted : Bool} (shown : (⟨i, .mount t v l, mounted⟩ : Entry) ∈ r.history) :
    v = .denied n.registry.helpLink := by
  have guarded := hk.guarded
  obtain ⟨a, b, rfl⟩ := List.append_of_mem (mounted_since_dispatched hk dispatched shown)
  rw [dispatched, List.append_assoc, List.cons_append] at guarded
  obtain ⟨_, _, _, _, _, only⟩ := guarded.guard
  exact only ctx (mem_contexts.mpr (by simp)) lacking

theorem missing_of_goesBack {m : SiteMap} (hr : n.registry.Built m) {route : Route}
    {session : Option Session} {c : Claims} {since : History} {tag : String}
    (back : ∀ s, session = some s → GoesBack s c since) (required : tag ∈ m.required route)
    (absent : tag ∉ c.permissions) : n.registry.missing route session ≠ [] := by
  refine List.ne_nil_of_mem (a := tag) ?_
  cases session with
  | none =>
    rw [← hr.siteMap_eq] at required
    exact required
  | some s =>
    have lacks : s.hasPermission tag = false := by
      rw [Session.hasPermission, (back s rfl).permissions]
      exact decide_eq_false absent
    rw [← hr.siteMap_eq] at required
    exact List.mem_filter.mpr ⟨required, by rw [lacks]; rfl⟩

/-- **What a handler is called for goes back to claims that warrant it**, where operations follow
one another and there is no session at first. Someone has signed in, and not logged out since; the
claims of the last sign-in had the terms accepted, or the backend has taken the acceptance since; and
if they lack a permission, the page that says access is denied is shown, whatever the handler. -/
theorem dispatch_goes_back (hr : n.registry.Built n.siteMap) {entries : TextMap String}
    (signedOut : (World.start entries).session? = none) (h : InTurn n (.start entries) r) {i : Nat}
    {ctx : RenderContext} {new old : History}
    (dispatched : r.history = new ++ ⟨i, .dispatch ctx, ()⟩ :: old)
    (guarded : n.siteMap.isPublic ctx.route = false) :
    ∃ c since signIn, old = since ++ signIn ∧ LastSignIn c since signIn ∧
      (ctx.route ≠ .tos →
        c.acceptedTos = true ∨ ∃ k, (⟨k, .ask .acceptTerms, .ok ()⟩ : Entry) ∈ since) ∧
      ∀ tag ∈ n.siteMap.required ctx.route, tag ∉ c.permissions →
        n.registry.render ctx.route ctx = pure (.denied n.registry.helpLink) ∧
          ∀ t v l mounted, (⟨i, .mount t v l, mounted⟩ : Entry) ∈ r.history →
            v = .denied n.registry.helpLink := by
  have hk := h.reachable.keeps (conduct_sound hr)
  have hg := hk.guarded
  have hc := h.reachable.consistent
  have alone := h.oneAfterAnother.alone i
  rw [dispatched] at hg hc alone
  have called := called_of_dispatched hk dispatched
  obtain ⟨a, before, rfl, read, admitted⟩ := called.reads
  -- The session that the gate has seen is the one that is read next, if it can be read.
  obtain ⟨s, stored, accepts⟩ := session_of_admitted hc.of_append.2.2
    (@Alone.of_append i [_, _] before alone.of_append) guarded admitted
  have read' : ∀ s', ctx.session = some s' → s' = s := by
    intro s' eq
    have stored' := sessionIn_of_allows hc.of_append.2.1 (read.symm.trans eq)
    exact Option.some.inj (stored'.symm.trans stored)
  have now : ((World.start entries).replay (⟨i, .storage (.read .session), a⟩ :: before)).session? =
      some s := by
    cases a <;> exact stored
  obtain ⟨c, since, signIn, eq, last, back⟩ :=
    goesBack_of_session signedOut hg.of_append.2 hc.of_append.2 now
  refine ⟨c, since, signIn, eq, last, fun other => back.accepted (accepts other),
    fun tag required absent => ?_⟩
  have lacking : n.registry.missing ctx.route ctx.session ≠ [] :=
    missing_of_goesBack hr (fun s' eq => by rw [read' s' eq]; exact back) required absent
  refine ⟨?_, fun t v l mounted shown => denied_of_missing hk dispatched lacking shown⟩
  obtain ⟨handler, found⟩ :=
    Option.isSome_iff_exists.mp (hr.isSome_handlers called.not_login called.not_logout)
  simp [Registry.render, found, lacking]

/-- Someone signs in. -/
def signedIn : Run :=
  ((Run.empty.begin .usual (.start .empty) (.navigate "/psamaui/login?code=c")).answer
    (.start .empty) 0 (backendOf firstUser)).answer (.start .empty) 0 (backendOf firstUser)

/-- They ask for the roles, without the permission. -/
def askedForRoles : Run := signedIn.begin .usual (.start .empty) (.navigateTo .roleManagement)

theorem inTurn_signedIn : InTurn .usual (.start .empty) signedIn :=
  ((InTurn.empty.begin (by simp [Idle, Run.empty]) _).answer 0 _).answer 0 _

theorem inTurn_askedForRoles : InTurn .usual (.start .empty) askedForRoles :=
  inTurn_signedIn.begin (by decide +kernel) _

def rolesContext : RenderContext :=
  ⟨.roleManagement, .ofPath "/psamaui/roleManagement", some (.ofClaims firstUser)⟩

theorem dispatch_goes_back_askedForRoles :
    rolesContext ∈ contexts 1 askedForRoles.history ∧
      ∃ c since signIn, LastSignIn c since signIn ∧
        (c.acceptedTos = true ∨ ∃ k, (⟨k, .ask .acceptTerms, .ok ()⟩ : Entry) ∈ since) ∧
        (superAdmin ∉ c.permissions →
          Navigator.usual.registry.render .roleManagement rolesContext = pure (.denied none)) := by
  have called : rolesContext ∈ contexts 1 askedForRoles.history := by decide +kernel
  refine ⟨called, ?_⟩
  obtain ⟨new, old, dispatched⟩ := List.append_of_mem (mem_contexts.mp called)
  obtain ⟨c, since, signIn, -, last, accepted, denied⟩ :=
    dispatch_goes_back Navigator.built_usual (by decide +kernel) inTurn_askedForRoles dispatched rfl
  exact ⟨c, since, signIn, last, accepted (by nofun), fun absent =>
    (denied superAdmin (by decide +kernel) absent).1⟩

end Run

end AdminConsole
