import AdminConsole.Proofs.Conduct.Gate
import AdminConsole.Proofs.SiteMap

/-!
# The conduct of the operations

Every operation keeps to the conduct, whenever it is started and whatever the others do while it
waits (`conduct_sound`). The hints are kept, and a logout is carried out, only before the backend is
asked for anything: from then on a navigation is sent only to routes that do neither (`Onward`). -/

namespace AdminConsole

open Program History

-- Goals on programs are looked through for binders, which would look the route up.
attribute [local irreducible] SiteMap.resolve

/-- Where a navigation is sent on to. -/
def Onward (m : SiteMap) (location : Location) : Prop :=
  ∃ route : Route, (route = .tos ∨ route = .userManagement ∨ route = .notAuthorized) ∧
    location = .ofPath (m.pathFor route)

theorem Onward.resolve {m : SiteMap} {location : Location} (h : Onward m location) :
    m.resolve location.path ≠ .login ∧ m.resolve location.path ≠ .logout := by
  obtain ⟨route, which, rfl⟩ := h
  rw [Location.ofPath, SiteMap.resolve_pathFor]
  rcases which with rfl | rfl | rfl <;> decide

section login

variable {n : Navigator} {o : Operation} {i : Nat} {ts : List Nat} {cs : List RenderContext}
  {h : History} (l : Login)

theorem wp_captureHint {slot : Slot} (hint : slot = .redirectionUrl ∨ slot = .notAuthorizedUrl)
    (location : Location) (hg : Going i ts cs h) (hf : Fresh i h) {Q : Unit → History → Prop}
    (hQ : ∀ h', Going i ts cs h' → Fresh i h' → Q () h') :
    wp (App.onStorage ((conduct n).turn o i)) Q (Login.captureHint slot location) h := by
  unfold Login.captureHint
  split
  · next url _ =>
    simp only [TabNotes.setHint, wp_discard, wp_bind, wp_write, wp_pure]
    refine turn_write hg (fun a => ?_) fun a hg => hQ _ hg (hf.cons _ a not_false)
    rcases hint with rfl | rfl <;> exact hf
  · exact hQ h hg hf

theorem wp_captureHints (location : Location) (hg : Going i ts cs h) (hf : Fresh i h)
    {Q : Unit → History → Prop} (hQ : ∀ h', Going i ts cs h' → Fresh i h' → Q () h') :
    wp (App.onStorage ((conduct n).turn o i)) Q (Login.captureHints location) h := by
  unfold Login.captureHints
  rw [wp_bind]
  refine wp_captureHint (.inl rfl) location hg hf fun h hg hf => ?_
  exact wp_captureHint (.inr rfl) location hg hf hQ

theorem wp_initiate (hg : Going i ts cs h) {Q : NextStep → History → Prop}
    (hQ : ∀ step h', Going i ts cs h' → (∀ next, step ≠ .navigate next) → Q step h') :
    wp ((conduct n).turn o i) Q l.initiate h := by
  unfold Login.initiate
  split
  · exact hQ _ _ hg fun next eq => nomatch eq
  · simp only [wp_bind, App.wp_notify, wp_pure]
    exact turn_notify hg fun hg => hQ _ _ hg fun next eq => nomatch eq

theorem onward_goTo {route : Route}
    (which : route = .tos ∨ route = .userManagement ∨ route = .notAuthorized) {next : Location}
    (eq : l.goTo route = .navigate next) : Onward l.siteMap next :=
  ⟨route, which, (NextStep.navigate.inj eq).symm⟩

theorem wp_fail (hg : Going i ts cs h) {Q : NextStep → History → Prop}
    (hQ : ∀ step h', Going i ts cs h' → (∀ next, step = .navigate next → Onward l.siteMap next) →
      Q step h') :
    wp ((conduct n).turn o i) Q l.fail h := by
  unfold Login.fail TabNotes.notAuthorizedUrl?
  simp only [wp_bind, App.wp_notify, App.wp_lift, wp_note]
  refine turn_notify hg fun hg => turn_read hg fun a hg => ?_
  split
  · exact hQ _ _ hg fun next eq => nomatch eq
  · exact hQ _ _ hg fun next => onward_goTo l (.inr (.inr rfl))

theorem wp_afterLogin (session : Session) (hg : Going i ts cs h) {Q : NextStep → History → Prop}
    (hQ : ∀ step h', Going i ts cs h' → (∀ next, step = .navigate next → Onward l.siteMap next) →
      Q step h') :
    wp ((conduct n).turn o i) Q (l.afterLogin session) h := by
  unfold Login.afterLogin TabNotes.redirectionUrl?
  split
  · simp only [wp_bind, App.wp_lift, wp_note]
    refine turn_read hg fun a hg => ?_
    split
    · exact hQ _ _ hg fun next eq => nomatch eq
    · exact hQ _ _ hg fun next => onward_goTo l (.inr (.inl rfl))
  · exact hQ _ _ hg fun next => onward_goTo l (.inl rfl)

theorem wp_complete (grant : Grant) (hg : Going i ts cs h) {Q : NextStep → History → Prop}
    (hQ : ∀ step h', Going i ts cs h' → (∀ next, step = .navigate next → Onward l.siteMap next) →
      Q step h') :
    wp ((conduct n).turn o i) Q (l.complete grant) h := by
  unfold Login.complete
  rw [wp_bind, App.wp_ask]
  refine turn_ask hg (by nofun) fun others result _ hg => ?_
  cases result with
  | error e => exact wp_fail l hg hQ
  | ok c =>
    simp only [wp_bind, App.wp_lift]
    refine wp_establish hg fun a h' hg => ?_
    cases a with
    | error e => exact wp_fail l hg hQ
    | ok session => exact wp_afterLogin l session hg hQ

/-- A login keeps the hints before it asks for anything. -/
theorem wp_start (location : Location) (hg : Going i ts cs h) (hf : Fresh i h)
    {Q : NextStep → History → Prop}
    (hQ : ∀ step h', Going i ts cs h' → (∀ next, step = .navigate next → Onward l.siteMap next) →
      Q step h') :
    wp ((conduct n).turn o i) Q (l.start location) h := by
  unfold Login.start
  rw [wp_bind, App.wp_lift]
  refine wp_captureHints location hg hf fun h hg _ => ?_
  split
  · exact wp_complete l _ hg hQ
  · exact wp_initiate l hg fun step h' hg external => hQ step h' hg fun next eq =>
      absurd eq (external next)

end login

section terms

variable {n : Navigator} {o : Operation} {i : Nat} {ts : List Nat} {cs : List RenderContext}
  {h : History}

theorem wp_record (hg : Going i ts cs h) {Q : Bool → History → Prop}
    (hQ : ∀ a h', Going i ts cs h' → Q a h') : wp ((conduct n).turn o i) Q Terms.record h := by
  unfold Terms.record
  rw [wp_bind, App.wp_ask]
  refine turn_ask hg (by nofun) fun others result _ hg => ?_
  cases result with
  | error e => exact hQ _ _ hg
  | ok u =>
    rw [wp_bind, App.wp_lift]
    refine wp_update .acceptTerms () hg fun a h' hg => ?_
    cases a <;> exact hQ _ _ hg

theorem wp_accept (m : SiteMap) (hg : Going i ts cs h) {Q : NextStep → History → Prop}
    (hQ : ∀ step h', Going i ts cs h' → (∀ next, step = .navigate next → Onward m next) →
      Q step h') :
    wp ((conduct n).turn o i) Q (Terms.accept m) h := by
  unfold Terms.accept TabNotes.redirectionUrl?
  rw [wp_bind]
  refine wp_record hg fun recorded h hg => ?_
  split
  · simp only [wp_bind, App.wp_notify, App.wp_lift, wp_note]
    refine turn_notify hg fun hg => turn_read hg fun a hg => ?_
    split
    · exact hQ _ _ hg fun next eq => nomatch eq
    · exact hQ _ _ hg fun next eq => ⟨.userManagement, .inr (.inl rfl), (NextStep.navigate.inj eq).symm⟩
  · simp only [wp_bind, App.wp_notify, wp_pure]
    refine turn_notify hg fun hg => hQ _ _ hg fun next eq => ?_
    exact ⟨.tos, .inl rfl, (NextStep.navigate.inj eq).symm⟩

end terms

/-! ### Ways to end -/

/-- An operation is over. -/
def Over (i : Nat) (result : Navigator.Result) (h : History) : Prop :=
  Settled h ∧ Ended result (mounts i h)

section endings

variable {n : Navigator} {o : Operation} {i t : Nat} {ts : List Nat} {cs : List RenderContext}
  {h : History}

/-- An end that shows nothing. -/
theorem Going.finished (hg : Going i ts cs h) {result : Navigator.Result} (quiet : Ended result []) :
    Over i result h :=
  ⟨hg.settled, hg.mounts.symm ▸ quiet⟩

/-- A view is mounted or comes too late. -/
theorem turn_mount {view : View} {location : Location} (hg : Going i [t] cs h)
    (denied : ∀ ctx ∈ cs, n.registry.missing ctx.route ctx.session ≠ [] →
      view = .denied n.registry.helpLink) {K : Bool → History → Prop}
    (hK : ∀ mounted h', Settled h' → mounts i h' = [(t, view, mounted)] → K mounted h') :
    (conduct n).turn o i (.mount t view location) K h := by
  intro mounted
  refine ⟨⟨hg.settled, hg.tickets, hg.mounts, hg.contexts.symm ▸ denied⟩, hK mounted _ ?_ ?_⟩
  · exact settled_cons (by simp) mounted
  · rw [mounts_cons, hg.mounts]
    rfl

theorem wp_mount {view : View} {location : Location} (hg : Going i [t] cs h)
    (denied : ∀ ctx ∈ cs, n.registry.missing ctx.route ctx.session ≠ [] →
      view = .denied n.registry.helpLink) {Q : Outcome → History → Prop}
    (hQ : ∀ outcome h', Over i (.ok outcome) h' → Q outcome h') :
    wp ((conduct n).turn o i) Q (Navigator.mount t view location) h := by
  unfold Navigator.mount
  rw [wp_bind, App.wp_mount]
  refine turn_mount hg denied fun mounted h' settled shown => ?_
  cases mounted with
  | true => exact hQ _ _ ⟨settled, t, shown⟩
  | false => exact hQ _ _ ⟨settled, t, view, shown⟩

theorem wp_settle (step : NextStep) (location : Location) (hg : Going i [t] [] h)
    {Q : Outcome → History → Prop} (hQ : ∀ outcome h', Over i (.ok outcome) h' → Q outcome h') :
    wp ((conduct n).turn o i) Q (Navigator.settle step location t) h := by
  cases step with
  | navigate next => exact hQ _ _ (hg.finished rfl)
  | external url => exact hQ _ _ (hg.finished rfl)
  | display view => exact wp_mount hg (fun ctx hc => by simp at hc) hQ

theorem wp_beginLogin (location : Location) (hg : Going i [t] [] h) {Q : Outcome → History → Prop}
    (hQ : ∀ outcome h', Over i (.ok outcome) h' → Q outcome h') :
    wp ((conduct n).turn o i) Q (n.beginLogin location t) h := by
  unfold Navigator.beginLogin
  rw [wp_bind]
  refine wp_initiate n.login hg fun step h hg _ => ?_
  cases step with
  | display view =>
    rw [wp_bind, App.wp_mount]
    refine turn_mount hg (fun ctx hc => by simp at hc) fun mounted h' settled shown => ?_
    cases mounted with
    | true => exact hQ _ _ ⟨settled, t, shown⟩
    | false => exact hQ _ _ ⟨settled, t, view, shown⟩
  | navigate next | external url => exact hQ _ _ (hg.finished rfl)

/-- A handler is called with the session read just before. -/
theorem wp_navigator_dispatch {m : SiteMap} (hr : n.registry.Built m) {route : Route}
    (notLogin : route ≠ .login) (notLogout : route ≠ .logout) (location : Location)
    (hg : Going i [t] [] h) (admitted : Admitted n.gate i route h) {Q : Outcome → History → Prop}
    (hQ : ∀ outcome h', Over i (.ok outcome) h' → Q outcome h') :
    wp ((conduct n).turn o i) Q (n.dispatch route location t) h := by
  unfold Navigator.dispatch
  simp only [wp_bind, App.wp_lift, wp_get, App.wp_dispatch]
  refine turn_read hg fun a hg => turn_dispatch hg ⟨⟨a, h, rfl, rfl, admitted⟩, notLogin, notLogout,
    ⟨t, hg.tickets⟩, hg.mounts⟩ fun hg => ?_
  refine wp_render hr ⟨route, location, sessionIn a⟩ notLogin notLogout hg fun view h' hg denied => ?_
  refine wp_mount hg (fun ctx hc => ?_) hQ
  rw [List.mem_singleton.mp hc]
  exact denied

theorem wp_logout (hg : Going i ts cs h) (hf : Fresh i h) {Q : Navigator.Result → History → Prop}
    (hQ : ∀ result h', Over i result h' → Q result h') :
    wp ((conduct n).turn o i) Q n.logout h := by
  unfold Navigator.logout SessionStore.logout SessionStore.validUser? SessionStore.clear
  simp only [wp_bind, wp_discard, App.wp_ticket, App.wp_lift, wp_get, wp_pure, wp_wipe]
  refine turn_ticket hg fun t hg => turn_read hg fun a hg => fun wiped => ?_
  have fresh := (hf.cons .ticket t not_false).cons (.storage (.read .session)) a not_false
  refine ⟨⟨hg.settled, fresh, a, t, h, rfl⟩, ?_⟩
  have unshown := hg.mounts
  cases wiped with
  | error e =>
    refine hQ _ _ ⟨fun j eq => by simp at eq, ?_⟩
    rw [mounts_cons]
    exact unshown
  | ok u =>
    refine ⟨rfl, hQ _ _ ⟨settled_cons (by simp) _, ?_⟩⟩
    rw [mounts_cons, mounts_cons]
    exact unshown

end endings

/-! ### Operations -/

section navigation

variable {n : Navigator} {o : Operation} {i t : Nat} {h : History}

/-- One step of following a location: it ends the navigation, or sends it on to a place inside. -/
theorem wp_visit {m : SiteMap} (hr : n.registry.Built m) (location : Location) (hg : Going i [t] [] h)
    (inner : Fresh i h ∨ Onward n.siteMap location) {Q : Navigator.Result ⊕ Location → History → Prop}
    (ended : ∀ result h', Over i result h' → Q (.inl result) h')
    (onward : ∀ next h', Going i [t] [] h' → Onward n.siteMap next → Q (.inr next) h') :
    wp ((conduct n).turn o i) Q (n.visit location t) h := by
  unfold Navigator.visit
  split
  · next login =>
    have fresh := inner.resolve_right fun away => away.resolve.1 login
    rw [wp_bind]
    refine wp_start n.login location hg fresh fun step h hg away => ?_
    cases step with
    | navigate next => exact onward next h hg (away next rfl)
    | external url | display view =>
      rw [wp_bind]
      exact wp_settle _ location hg fun outcome h' finished => ended _ _ finished
  · next logout =>
    have fresh := inner.resolve_right fun away => away.resolve.2 logout
    rw [wp_bind]
    exact wp_logout hg fresh fun result h' finished => ended _ _ finished
  · next notLogin notLogout =>
    rw [wp_bind]
    refine wp_check n.gate _ hg fun d h hg admitted target => ?_
    cases d with
    | dispatch =>
      rw [wp_bind]
      exact wp_navigator_dispatch hr notLogin notLogout location hg (admitted rfl)
        fun outcome h' finished => ended _ _ finished
    | login =>
      rw [wp_bind]
      exact wp_beginLogin location hg fun outcome h' finished => ended _ _ finished
    | abort => exact ended _ _ (hg.finished rfl)
    | redirect route =>
      obtain rfl := target route rfl
      exact onward _ _ hg ⟨.tos, .inl rfl, rfl⟩

theorem wp_followWithin {m : SiteMap} (hr : n.registry.Built m) (origin : String) (left : Nat)
    {Q : Navigator.Result → History → Prop} (hQ : ∀ result h', Over i result h' → Q result h') :
    ∀ (location : Location) (h : History), Going i [t] [] h →
      (Fresh i h ∨ Onward n.siteMap location) →
        wp ((conduct n).turn o i) Q (n.followWithin t origin left location) h := by
  induction left with
  | zero =>
    intro location h hg inner
    unfold Navigator.followWithin
    rw [wp_bind]
    refine wp_visit hr location hg inner (fun result h' finished => ?_) fun next h' hg _ => ?_
    · exact hQ _ _ finished
    · exact hQ _ _ (hg.finished rfl)
  | succ left ih =>
    intro location h hg inner
    unfold Navigator.followWithin
    rw [wp_bind]
    refine wp_visit hr location hg inner (fun result h' finished => ?_) fun next h' hg away => ?_
    · exact hQ _ _ finished
    · exact ih next h' hg (.inr away)

theorem wp_follow {m : SiteMap} (hr : n.registry.Built m) (location : Location) (hg : Going i [t] [] h)
    (inner : Fresh i h ∨ Onward n.siteMap location) {Q : Navigator.Result → History → Prop}
    (hQ : ∀ result h', Over i result h' → Q result h') :
    wp ((conduct n).turn o i) Q (n.follow location t) h :=
  wp_followWithin hr _ _ hQ location h hg inner

theorem wp_navigate {m : SiteMap} (hr : n.registry.Built m) (path : String) (hg : Going i [] [] h)
    (hf : Fresh i h) {Q : Navigator.Result → History → Prop}
    (hQ : ∀ result h', Over i result h' → Q result h') :
    wp ((conduct n).turn o i) Q (n.navigate path) h := by
  unfold Navigator.navigate
  rw [wp_bind, App.wp_ticket]
  refine turn_ticket hg fun t hg => ?_
  exact wp_follow hr _ hg (.inl (hf.cons .ticket t not_false)) hQ

theorem wp_acceptTerms {m : SiteMap} (hr : n.registry.Built m) (hg : Going i [] [] h)
    {Q : Navigator.Result → History → Prop} (hQ : ∀ result h', Over i result h' → Q result h') :
    wp ((conduct n).turn o i) Q n.acceptTerms h := by
  unfold Navigator.acceptTerms
  rw [wp_bind, App.wp_ticket]
  refine turn_ticket hg fun t hg => ?_
  rw [wp_bind]
  refine wp_accept n.siteMap hg fun step h hg away => ?_
  cases step with
  | navigate next => exact wp_follow hr next hg (.inr (away next rfl)) hQ
  | external url | display view =>
    simp only [wp_bind, App.wp_location]
    exact turn_location hg fun a hg => wp_settle _ _ hg fun outcome h' finished => hQ _ _ finished

theorem wp_recover {m : SiteMap} (hr : n.registry.Built m) (rejection : Rejection)
    (hg : Going i [] [] h) (hf : Fresh i h) {Q : Navigator.Result → History → Prop}
    (hQ : ∀ result h', Over i result h' → Q result h') :
    wp ((conduct n).turn o i) Q (n.recover rejection) h := by
  cases rejection with
  | forbidden | termsNotAccepted => exact wp_navigate hr _ hg hf hQ
  | unauthenticated =>
    unfold Navigator.recover SessionStore.token? TabNotes.notAuthorizedUrl?
    simp only [wp_bind, App.wp_lift, wp_get, wp_pure]
    refine turn_read hg fun a hg => ?_
    have hf := hf.cons (.storage (.read .session)) a not_false
    split
    · exact wp_logout hg hf hQ
    · simp only [wp_bind, App.wp_lift, wp_note]
      refine turn_read hg fun b hg => ?_
      have hf := hf.cons (.storage (.read .notAuthorizedUrl)) b not_false
      split
      · exact hQ _ _ (hg.finished rfl)
      · simp only [wp_bind, App.wp_location, App.wp_ticket]
        refine turn_location hg fun c hg => turn_ticket hg fun t hg => ?_
        have hf := hf.cons .location c not_false
        exact wp_follow hr _ hg (.inl (hf.cons .ticket t not_false)) hQ

theorem wp_refresh {Q : Except TokenRefresh.RefreshError String → History → Prop}
    (hg : Going i [] [] h) (hQ : ∀ a h', Going i [] [] h' → Q a h') :
    wp ((conduct n).turn .refreshToken i) Q TokenRefresh.refresh h := by
  unfold TokenRefresh.refresh SessionStore.token?
  simp only [wp_bind, App.wp_lift, wp_get, wp_pure]
  refine turn_read hg fun a hg => ?_
  split
  · exact hQ _ _ hg
  · rw [wp_bind, App.wp_ask]
    refine turn_ask hg (fun _ => rfl) fun others result _ hg => ?_
    cases result with
    | error e => exact hQ _ _ hg
    | ok token =>
      simp only [wp_bind, App.wp_lift, wp_pure]
      exact wp_update .refreshToken token hg fun _ h' hg => hQ _ h' hg

/-- **Every operation keeps to the conduct.** -/
theorem conduct_sound {m : SiteMap} (hr : n.registry.Built m) : (conduct n).Sound n := by
  refine ⟨fun i eq => by simp at eq, fun o i h foreign settled => ?_⟩
  have hg := Going.of_foreign settled foreign
  have hf : Fresh i h := by
    intro e he
    rw [own_of_foreign foreign] at he
    simp at he
  unfold Discipline.Holds
  cases o with
  | navigate path =>
    rw [Operation.program, wp_map]
    exact wp_navigate hr path hg hf fun result h' finished => finished
  | navigateTo route =>
    rw [Operation.program, wp_map]
    exact wp_navigate hr _ hg hf fun result h' finished => finished
  | recover rejection =>
    rw [Operation.program, wp_map]
    exact wp_recover hr rejection hg hf fun result h' finished => finished
  | acceptTerms =>
    rw [Operation.program, wp_map]
    exact wp_acceptTerms hr hg fun result h' finished => finished
  | logout =>
    rw [Operation.program, wp_map]
    exact wp_logout hg hf fun result h' finished => finished
  | refreshToken =>
    rw [Operation.program, wp_map]
    exact wp_refresh hg fun a h' hg => ⟨hg.settled, hg.mounts⟩

end navigation

end AdminConsole
