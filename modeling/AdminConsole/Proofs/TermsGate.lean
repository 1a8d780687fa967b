import AdminConsole.Proofs.NewestTicket
import AdminConsole.Proofs.StoredSession

/-!
# The terms and what comes between

The gate looks at the session first and for the connections last, and while these are loaded the
others go on. The handler is called with the session as it is after that, and it is one with the
terms accepted unless a login has ended meanwhile whose user has not accepted them
(`session_of_mounted_iff`). Nothing else that comes between does harm: a logout takes a ticket, so
that nothing is mounted, and every other change of the session leaves the terms accepted. -/

namespace AdminConsole

open History

/-- The session counts, and its user has accepted the terms. -/
def Session.IsCleared (s : Session) : Prop := s.isAuthenticated = true ∧ s.acceptedTos = true

/-- The last word on the terms is a sign-in without them. -/
def unaccepted : List Change → Bool
  | .signIn c :: _ => !c.acceptedTos
  | .acceptTerms :: _ => false
  | _ :: cs => unaccepted cs
  | [] => false

/-- The gate looks for the connections. It looks for nothing after that. -/
def Entry.looks (i : Nat) : Entry → Bool
  | ⟨j, .storage (.read .connections), _⟩ => decide (j = i)
  | _ => false

/-- Since the gate last looked, someone has signed in without having accepted the terms. -/
def Overtaken (i : Nat) (h : History) : Prop :=
  unaccepted (changes (h.takeWhile (!·.looks i)) (h.dropWhile (!·.looks i))) = true

/-! ### Changes of a session that has passed the gate -/

theorem isAuthenticated_ofClaims {c : Claims} (valid : c.validate = .ok ()) :
    (Session.ofClaims c).isAuthenticated = true := by
  obtain ⟨token, email⟩ := Claims.validate_eq_ok_iff.mp valid
  simp [Session.isAuthenticated, Session.username?, Session.token?, Session.ofClaims, Text.given?,
    token, email]

/-- Without a logout or a new token, a session that counts still does, and the terms are accepted
unless the last word on them is a sign-in. -/
theorem foldr_apply_cleared {s : Session} (cleared : s.IsCleared) {cs : List Change}
    (valid : ∀ c, .signIn c ∈ cs → c.validate = .ok ()) (stays : .logout ∉ cs)
    (unrenewed : ∀ text, .token text ∉ cs) :
    ∃ s', cs.foldr Change.apply (some s) = some s' ∧ s'.isAuthenticated = true ∧
      (s'.acceptedTos = true ↔ ¬ unaccepted cs = true) := by
  induction cs with
  | nil => exact ⟨s, rfl, cleared.1, by simp [unaccepted, cleared.2]⟩
  | cons change cs ih =>
    obtain ⟨s', before, counts, accepted⟩ := ih (fun c hc => valid c (List.mem_cons_of_mem _ hc))
      (fun hc => stays (List.mem_cons_of_mem _ hc))
      (fun text hc => unrenewed text (List.mem_cons_of_mem _ hc))
    rw [List.foldr_cons, before]
    cases change with
    | signIn c =>
      have counts := isAuthenticated_ofClaims (valid c List.mem_cons_self)
      exact ⟨.ofClaims c, rfl, counts, by simp [unaccepted, Session.ofClaims]⟩
    | acceptTerms => exact ⟨{ s' with acceptedTos := true }, rfl, counts, by simp [unaccepted]⟩
    | privileges tags => exact ⟨{ s' with privileges := tags }, rfl, counts, accepted⟩
    | token text => exact absurd List.mem_cons_self (unrenewed text)
    | logout => exact absurd List.mem_cons_self stays

/-! ### Since the gate last looked -/

section look

variable {n : Navigator} {w : World} {f : Nat → Option Operation} {i : Nat} {new old h : History}
  {c : Except StorageError (Option String)}

theorem overtaken_iff {x : Except StorageError (Option String)}
    (since : ∀ e ∈ new, e.looks i = false) :
    Overtaken i (⟨i, .storage (.read .session), x⟩ ::
        (new ++ ⟨i, .storage (.read .connections), c⟩ :: old)) ↔
      unaccepted (changes new (⟨i, .storage (.read .connections), c⟩ :: old)) = true := by
  have unseen : ∀ e ∈ new, (!e.looks i) = true := fun e he => by rw [since e he]; rfl
  have unchanged : change? ⟨i, .storage (.read .session), x⟩
      (new ++ ⟨i, .storage (.read .connections), c⟩ :: old) = none := by
    cases x <;> rfl
  rw [Overtaken, List.takeWhile_cons_of_pos rfl, List.dropWhile_cons_of_pos rfl,
    List.takeWhile_append_of_pos unseen, List.dropWhile_append_of_pos unseen,
    List.takeWhile_cons_of_neg (by simp [Entry.looks]),
    List.dropWhile_cons_of_neg (by simp [Entry.looks]), List.append_nil, changes, unchanged]
  rfl

/-- What the gate has seen when it lets a route through that needs the terms: the session, before
it looks for the connections. -/
theorem Admitted.look {g : Gate} {route : Route} (admitted : Admitted g i route h)
    (guarded : g.siteMap.isPublic route = false) (other : route ≠ .tos) :
    ∃ (new old : History) (a b c : Except StorageError (Option String)),
      h = new ++ ⟨i, .storage (.read .connections), c⟩ :: ⟨i, .storage (.read .session), b⟩ ::
        ⟨i, .storage (.read .session), a⟩ :: old ∧
      IsSignedIn (sessionIn a) ∧ HasAccepted (sessionIn b) ∧
      ∀ x ∈ new, x.looks i = false ∧ (x.task = i → x.ticket? = none) := by
  cases admitted with
  | isPublic isPublic => simp [guarded] at isPublic
  | terms isTos => exact absurd isTos other
  | cached signedIn accepted => exact ⟨[], _, _, _, _, rfl, signedIn, accepted, by simp⟩
  | @loaded a b c result kept others old signedIn accepted hk foreign =>
    refine ⟨kept ++ ⟨i, .ask .connections, result⟩ :: others, old, a, b, c, by simp, signedIn,
      accepted, fun x hx => ?_⟩
    rcases List.mem_append.mp hx with hx | hx
    · rcases hk with rfl | ⟨text, k, rfl⟩
      · simp at hx
      · obtain rfl := List.mem_singleton.mp hx
        exact ⟨rfl, fun _ => rfl⟩
    · rcases List.mem_cons.mp hx with rfl | hx
      · exact ⟨rfl, fun _ => rfl⟩
      · refine ⟨?_, fun own => absurd own (foreign x hx)⟩
        have foreign := foreign x hx
        obtain ⟨j, op, answer⟩ := x
        unfold Entry.looks
        split
        · next eq =>
          obtain ⟨rfl, -⟩ := Entry.mk.inj eq
          exact decide_eq_false foreign
        · rfl

/-- The two reads of the gate see the same session. -/
theorem cleared_of_reads {a b : Except StorageError (Option String)}
    (hc : w.Consistent (⟨i, .storage (.read .connections), c⟩ :: ⟨i, .storage (.read .session), b⟩ ::
      ⟨i, .storage (.read .session), a⟩ :: old))
    (signedIn : IsSignedIn (sessionIn a)) (accepted : HasAccepted (sessionIn b)) :
    ∃ s, (w.replay (⟨i, .storage (.read .connections), c⟩ :: ⟨i, .storage (.read .session), b⟩ ::
      ⟨i, .storage (.read .session), a⟩ :: old)).session? = some s ∧ s.IsCleared := by
  obtain ⟨s, read, counts⟩ := signedIn
  obtain ⟨s', read', accepts⟩ := accepted
  have first := sessionIn_of_allows hc.2.2.1 read
  have second := sessionIn_of_allows hc.2.1 read'
  obtain rfl : s = s' := by
    have same : some s = some s' := first.symm.trans (by cases a <;> exact second)
    exact Option.some.inj same
  exact ⟨s, by cases b <;> cases c <;> exact second, counts, accepts⟩

/-- The storage is not emptied unless a ticket is taken right before. -/
theorem logout_not_mem_changes
    (hg : (conduct n).Guarded f (new ++ ⟨i, .storage (.read .connections), c⟩ :: old))
    (untaken : ∀ x ∈ new, x.ticket? = none) :
    .logout ∉ changes new (⟨i, .storage (.read .connections), c⟩ :: old) := by
  intro wiped
  obtain ⟨a, b, e, rfl, made⟩ := change_of_mem wiped
  rw [List.append_assoc, List.cons_append] at hg
  obtain ⟨o, _, guard⟩ := hg.guard
  cases makes_of_change made with
  | @logout j =>
    obtain ⟨_, _, x, t, before, eq⟩ := guard
    match b with
    | [] => simp at eq
    | [y] => simp at eq
    | y :: z :: rest =>
      obtain ⟨-, eq⟩ := List.cons.inj eq
      obtain ⟨rfl, -⟩ := List.cons.inj eq
      have taken := untaken ⟨j, .ticket, t⟩ (by simp)
      simp [Entry.ticket?] at taken

/-- The token is renewed only by the operation for it. -/
theorem token_not_mem_changes (hg : (conduct n).Guarded f (new ++ old))
    (unrenewed : ∀ i, f i ≠ some .refreshToken) (text : String) :
    .token text ∉ changes new old := by
  intro renewed
  obtain ⟨a, b, e, rfl, made⟩ := change_of_mem renewed
  rw [List.append_assoc, List.cons_append] at hg
  have hg := hg.of_append.2
  generalize b ++ old = before at hg made
  cases makes_of_change made with
  | token =>
    obtain ⟨o, known, _, asked⟩ := hg.2.1
    have asked : o = .refreshToken := asked
    rw [asked] at known
    exact unrenewed _ known

/-- What the others have made of the session that the gate has seen. -/
theorem session_of_look {a b : Except StorageError (Option String)}
    (hg : (conduct n).Guarded f (new ++ ⟨i, .storage (.read .connections), c⟩ ::
      ⟨i, .storage (.read .session), b⟩ :: ⟨i, .storage (.read .session), a⟩ :: old))
    (hc : w.Consistent (new ++ ⟨i, .storage (.read .connections), c⟩ ::
      ⟨i, .storage (.read .session), b⟩ :: ⟨i, .storage (.read .session), a⟩ :: old))
    (signedIn : IsSignedIn (sessionIn a)) (accepted : HasAccepted (sessionIn b))
    (untaken : ∀ e ∈ new, e.ticket? = none) (unrenewed : ∀ i, f i ≠ some .refreshToken) :
    ∃ s, (w.replay (new ++ ⟨i, .storage (.read .connections), c⟩ ::
        ⟨i, .storage (.read .session), b⟩ :: ⟨i, .storage (.read .session), a⟩ :: old)).session? =
          some s ∧ s.isAuthenticated = true ∧
      (s.acceptedTos = true ↔ ¬ unaccepted (changes new (⟨i, .storage (.read .connections), c⟩ ::
        ⟨i, .storage (.read .session), b⟩ :: ⟨i, .storage (.read .session), a⟩ :: old)) = true) := by
  obtain ⟨s, stored, cleared⟩ := cleared_of_reads hc.of_append signedIn accepted
  obtain ⟨s', applied, counts, accepts⟩ := foldr_apply_cleared cleared
    (fun _ signs => validate_of_signIn hg signs) (logout_not_mem_changes hg untaken)
    (token_not_mem_changes hg unrenewed)
  refine ⟨s', ?_, counts, accepts⟩
  rw [session?_replay hg hc, stored, applied]

end look

namespace Run

variable {n : Navigator} {w : World} {r : Run} {i t : Nat} {v : View} {l : Location}

/-- Where a view is mounted, nobody has taken a ticket since its operation took its own. -/
theorem untaken_of_mounted (hk : (conduct n).Keeps r) (hc : w.Consistent r.history)
    {a b new old : History} (hr : r.history = a ++ ⟨i, .mount t v l, true⟩ :: (b ++ (new ++ old)))
    (ticketed : ∃ t', tickets i (new ++ old) = [t'])
    (own : ∀ x ∈ new, x.task = i → x.ticket? = none) : ∀ x ∈ new, x.ticket? = none := by
  obtain ⟨only, _⟩ := mount_guarded hk hr
  obtain ⟨t', eq⟩ := ticketed
  have taken : (⟨i, .ticket, t'⟩ : Entry) ∈ new ++ old := mem_tickets.mp (by simp [eq])
  -- It is the ticket of the view, and was taken before.
  obtain rfl : t' = t := by
    have there : t' ∈ tickets i (b ++ (new ++ old)) := by
      rw [tickets_append, eq]
      simp
    rw [only] at there
    exact List.mem_singleton.mp there
  have before : (⟨i, .ticket, t'⟩ : Entry) ∈ old :=
    (List.mem_append.mp taken).resolve_left fun he => by simpa [Entry.ticket?] using own _ he rfl
  obtain ⟨p, q, rfl⟩ := List.append_of_mem before
  rw [hr] at hc
  have newest := hc.mounted_iff.mp rfl
  have hc := hc.of_append.2
  have split : b ++ (new ++ (p ++ ⟨i, .ticket, t'⟩ :: q)) =
      (b ++ (new ++ p)) ++ ⟨i, .ticket, t'⟩ :: q := by simp
  rw [split] at hc newest
  exact fun x hx => hc.newest_iff.mp newest x (by simp [hx])

/-- **A handler whose view is mounted on a route that needs the terms has been called with a session
that has them accepted, if and only if the session could be read and nobody has signed in without
them since the gate last looked.** -/
theorem session_of_mounted_iff {m : SiteMap} (hr : n.registry.Built m) {entries : TextMap String}
    (h : Reachable n (.start entries) r)
    (navigations : ∀ task ∈ r.tasks, task.operation ≠ .refreshToken) {ctx : RenderContext}
    {since before : History} (dispatched : r.history = since ++ ⟨i, .dispatch ctx, ()⟩ :: before)
    (mounted : (⟨i, .mount t v l, true⟩ : Entry) ∈ r.history)
    (guarded : n.siteMap.isPublic ctx.route = false) (other : ctx.route ≠ .tos) :
    (∃ s, ctx.session = some s ∧ s.IsCleared) ↔
      (∃ text old, before = ⟨i, .storage (.read .session), .ok text⟩ :: old) ∧
        ¬ Overtaken i before := by
  have hk := h.keeps (conduct_sound hr)
  have hg := hk.guarded
  have hc := h.consistent
  have called := called_of_dispatched hk dispatched
  obtain ⟨p, q, rfl⟩ := List.append_of_mem (mounted_since_dispatched hk dispatched mounted)
  obtain ⟨x, old, rfl, read, admitted⟩ := called.reads
  obtain ⟨new, older, a, b, c, rfl, signedIn, accepted, looked⟩ := admitted.look guarded other
  have untaken : ∀ e ∈ new, e.ticket? = none := by
    refine untaken_of_mounted hk hc (a := p) (t := t) (v := v) (l := l)
      (b := q ++ [⟨i, .dispatch ctx, ()⟩, ⟨i, .storage (.read .session), x⟩])
      (by simpa using dispatched) ?_ fun e he => (looked e he).2
    obtain ⟨t', eq⟩ := called.ticket
    rw [tickets_cons] at eq
    exact ⟨t', eq⟩
  have unrenewed : ∀ i, r.operation? i ≠ some .refreshToken := by
    intro i known
    obtain ⟨task, there, eq⟩ := Option.map_eq_some_iff.mp known
    exact navigations task (List.mem_of_getElem? there) eq
  rw [dispatched] at hg hc
  have hg := hg.of_append.2
  have hc := hc.of_append.2
  obtain ⟨s, stored, counts, accepts⟩ :=
    session_of_look hg.2 hc.2 signedIn accepted untaken unrenewed
  rw [overtaken_iff fun e he => (looked e he).1, ← accepts, read]
  cases x with
  | error e =>
    constructor
    · rintro ⟨s', missing, _⟩
      simp [sessionIn] at missing
    · rintro ⟨⟨text, before, eq⟩, _⟩
      simp at eq
  | ok text =>
    rw [sessionIn_ok hc.1, stored]
    constructor
    · rintro ⟨s', eq, cleared⟩
      obtain rfl := Option.some.inj eq
      exact ⟨⟨text, _, rfl⟩, cleared.2⟩
    · rintro ⟨_, accepted⟩
      exact ⟨s, rfl, counts, accepted⟩

/-! ### A login that ends while the gate waits -/

/-- The first user asks for their profile while a login of the second waits for the identity
exchange. -/
def loginUnderWay : Run :=
  (Run.empty.begin .usual firstUserWorld (.navigate "/psamaui/login?code=c")).begin .usual
    firstUserWorld (.navigateTo .userProfile)

/-- The exchange is answered before the connections are. -/
def overtakenGate : Run :=
  ((loginUnderWay.answer firstUserWorld 0 (backendOf secondUser)).answer firstUserWorld 1
    (backendOf secondUser)).answer firstUserWorld 1 (backendOf secondUser)

theorem reachable_overtakenGate : Reachable .usual firstUserWorld overtakenGate := by
  have before : Reachable .usual firstUserWorld loginUnderWay := (Reachable.empty.begin _).begin _
  exact ((before.answer 0 _).answer 1 _).answer 1 _

def overtakenContext : RenderContext :=
  ⟨.userProfile, .ofPath "/psamaui/userProfile", some (.ofClaims secondUser)⟩

theorem session_of_mounted_iff_overtakenGate :
    ∃ since before : History,
      overtakenGate.history = since ++ ⟨1, .dispatch overtakenContext, ()⟩ :: before ∧
        (∀ s, overtakenContext.session = some s → ¬ s.IsCleared) ∧
          ((∃ text old, before = ⟨1, .storage (.read .session), .ok text⟩ :: old) →
            Overtaken 1 before) := by
  obtain ⟨called, shown, navigations⟩ : overtakenContext ∈ contexts 1 overtakenGate.history ∧
      (2, .profile "second@x.org" (some "second@x.org") .empty, true) ∈
        mounts 1 overtakenGate.history ∧
      ∀ task ∈ overtakenGate.tasks, task.operation ≠ .refreshToken := by decide +kernel
  obtain ⟨since, before, dispatched⟩ := List.append_of_mem (mem_contexts.mp called)
  obtain ⟨l, mounted⟩ := mem_mounts.mp shown
  have uncleared : ∀ s, overtakenContext.session = some s → ¬ s.IsCleared := by
    rintro s eq ⟨_, accepts⟩
    obtain rfl := Option.some.inj eq
    exact nomatch accepts
  have gate := session_of_mounted_iff Navigator.built_usual reachable_overtakenGate
    navigations dispatched mounted rfl (by decide)
  refine ⟨since, before, dispatched, uncleared, fun read => ?_⟩
  by_contra unnoticed
  obtain ⟨s, eq, cleared⟩ := gate.mpr ⟨read, unnoticed⟩
  exact uncleared s eq cleared

end Run

end AdminConsole
