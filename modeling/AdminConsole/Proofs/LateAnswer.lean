import AdminConsole.Proofs.Logout

/-!
# Answers that come late

A call that is under way outlives the session it was made under: the user can log out, and another
can log in, before the backend answers. What is then stored is what the later sign-in and the
changes since have made of it, and the answer amends it all the same, as it would have amended the
session that is gone. The newer session is left as it is if and only if the answer amends nothing,
or the amended session is not written (`late_answer_iff`). -/

namespace AdminConsole

open History

namespace Run

variable {n : Navigator} {w : World} {r₀ r r' : Run} {i : Nat}

/-- What a task waits for. -/
def asked? (r : Run) (i : Nat) : Option Call :=
  match r.tasks[i]? with
  | some ⟨_, .step (.ask call) _⟩ => some call
  | _ => none

/-- Operations are started and answered in any order. -/
abbrev Proceeds (n : Navigator) (w : World) : Run → Run → Prop :=
  Relation.ReflTransGen fun r r' => (∃ o, Starts n w o r r') ∨ Resumes w r r'

theorem Reachable.proceeds (h : Reachable n w r₀) (hp : Proceeds n w r₀ r) : Reachable n w r := by
  induction hp with
  | refl => exact h
  | tail _ step ih =>
    rcases step with ⟨o, step⟩ | step
    · exact .start ih step
    · exact .resume ih step

/-- A stretch does not ask the backend for anything. -/
theorem Stretch.unasked {p p' : App Reply} {h h' : History} (hs : Stretch w i p h p' h') :
    ∃ mine : History, h' = mine ++ h ∧ ∀ e ∈ mine, e.task = i ∧ ¬ e.op.IsAsk := by
  induction hs with
  | ends | waits => exact ⟨[], rfl, by simp⟩
  | @goes op _ h _ _ answer own _ _ ih =>
    obtain ⟨mine, rfl, quiet⟩ := ih
    refine ⟨mine ++ [⟨i, op, answer⟩], by simp, fun e he => ?_⟩
    rcases List.mem_append.mp he with he | he
    · exact quiet e he
    · obtain rfl := List.mem_singleton.mp he
      exact ⟨rfl, own⟩

/-- A task of which nothing is heard is where it was. -/
theorem task_of_proceeds (hp : Proceeds n w r₀ r) : ∃ new, r.history = new ++ r₀.history ∧
    ∀ i task, r₀.tasks[i]? = some task → (∀ e ∈ new, e.task ≠ i) → r.tasks[i]? = some task := by
  induction hp with
  | refl => exact ⟨[], rfl, fun i task there _ => there⟩
  | tail _ step ih =>
    obtain ⟨new, eq, stays⟩ := ih
    rcases step with ⟨o, step⟩ | step
    · obtain ⟨stretch⟩ := step
      obtain ⟨mine, rfl, _⟩ := stretch.unasked
      refine ⟨mine ++ new, by simp [eq], fun i task there silent => ?_⟩
      have there := stays i task there fun e he => silent e (List.mem_append_right _ he)
      rw [List.getElem?_append_left (List.getElem?_eq_some_iff.mp there).1, there]
    · obtain @⟨j, o, call, next, p, h, result, waiting, stretch⟩ := step
      obtain ⟨mine, rfl, _⟩ := stretch.unasked
      refine ⟨mine ++ ⟨j, .ask call, result⟩ :: new, by simp [eq], fun i task there silent => ?_⟩
      have other : j ≠ i := silent ⟨j, .ask call, result⟩ (by simp)
      have there := stays i task there fun e he => silent e (by simp [he])
      rw [List.getElem?_set_ne other, there]

theorem asked?_of_proceeds (hp : Proceeds n w r₀ r) {call : Call}
    (waiting : r₀.asked? i = some call) (unanswered : ∀ e ∈ r.since r₀, e.task ≠ i) :
    r.asked? i = some call := by
  obtain ⟨new, eq, stays⟩ := task_of_proceeds hp
  rw [since_of_append eq] at unanswered
  cases there : r₀.tasks[i]? with
  | none => simp [asked?, there] at waiting
  | some task =>
    rw [asked?, stays i task there unanswered, ← there]
    exact waiting

/-! ### What an answer is followed by -/

section answered

variable {f : Nat → Option Operation} {call : Call} {result : call.Result} {mine old : History}

/-- The session is written only if the answer amends it, and that right away. -/
theorem amended_of_wrote
    (hg : (conduct n).Guarded f (mine ++ ⟨i, .ask call, result⟩ :: old))
    (own : ∀ e ∈ mine, e.task = i ∧ ¬ e.op.IsAsk) (amending : ∀ grant, call ≠ .exchange grant)
    {a b : History} {e : Entry} (split : mine = a ++ e :: b) (wrote : e.Wrote .session) :
    ∃ (x : call.Answer) (stored : String) (s s' : Session), result = .ok x ∧
      b = [⟨i, .storage (.read .session), .ok (some stored)⟩] ∧ Session.decode? stored = some s ∧
      call.amend x s = some s' ∧ e = ⟨i, .storage (.write .session s'.encode), .ok ()⟩ := by
  obtain ⟨j, text, rfl⟩ := wrote
  subst split
  obtain rfl : j = i := (own ⟨j, .storage (.write .session text), .ok ()⟩ (by simp)).1
  rw [List.append_assoc, List.cons_append] at hg
  obtain ⟨o, _, _, written⟩ := hg.guard
  have unasked : ∀ e ∈ b, ¬ e.op.IsAsk := fun e he => (own e (by simp [he])).2
  generalize eq : b ++ ⟨j, .ask call, result⟩ :: old = before at written
  cases (written : SessionText j text before) with
  | signIn valid made =>
    cases b with
    | nil =>
      obtain ⟨same, -⟩ := List.cons.inj eq
      obtain ⟨-, same, -⟩ := Entry.mk.inj same
      exact absurd (AppOp.ask.inj same) (amending _)
    | cons y b =>
      obtain ⟨rfl, -⟩ := List.cons.inj eq
      exact absurd trivial (unasked _ List.mem_cons_self)
  | @amendment call' x stored s s' older read amended made =>
    match b with
    | [] => exact nomatch (Entry.mk.inj (List.cons.inj eq).1).2.1
    | [y] =>
      obtain ⟨rfl, rest⟩ := List.cons.inj eq
      obtain ⟨same, -⟩ := List.cons.inj rest
      obtain ⟨-, same, answer⟩ := Entry.mk.inj same
      obtain rfl := AppOp.ask.inj same
      exact ⟨x, stored, s, s', eq_of_heq answer, rfl, read, amended, by rw [made]⟩
    | y :: z :: b =>
      obtain ⟨-, rest⟩ := List.cons.inj eq
      obtain ⟨rfl, -⟩ := List.cons.inj rest
      exact absurd trivial (unasked ⟨j, .ask call', .ok x⟩ (by simp))

/-- The storage is not emptied once the backend has been asked. -/
theorem unwiped_of_asked (hg : (conduct n).Guarded f (mine ++ ⟨i, .ask call, result⟩ :: old))
    (own : ∀ e ∈ mine, e.task = i ∧ ¬ e.op.IsAsk) : ∀ e ∈ mine, ¬ e.Wiped := by
  have nothing : Answered [] := fun a b e eq => by simp at eq
  have answered : Answered (mine ++ [⟨i, .ask call, result⟩]) :=
    nothing.resume fun e he => (own e he).1
  rw [List.append_cons] at hg
  exact fun e he => unwiped_of_answered hg answered e (List.mem_append_left _ he)

/-- **The stored session after an answer**: as it was, or amended. -/
theorem session?_of_answered
    (hg : (conduct n).Guarded f (mine ++ ⟨i, .ask call, result⟩ :: old))
    (hc : w.Consistent (mine ++ ⟨i, .ask call, result⟩ :: old))
    (own : ∀ e ∈ mine, e.task = i ∧ ¬ e.op.IsAsk) (amending : ∀ grant, call ≠ .exchange grant) :
    (∀ e ∈ mine, ¬ e.Wrote .session) ∧
        (w.replay (mine ++ ⟨i, .ask call, result⟩ :: old)).session? = (w.replay old).session? ∨
      (∃ e ∈ mine, e.Wrote .session) ∧ ∃ (x : call.Answer) (s s' : Session), result = .ok x ∧
        (w.replay old).session? = some s ∧ call.amend x s = some s' ∧
        (w.replay (mine ++ ⟨i, .ask call, result⟩ :: old)).session? = some s' := by
  have unwiped := unwiped_of_asked hg own
  by_cases wrote : ∃ e ∈ mine, e.Wrote .session
  · obtain ⟨e, he, wrote⟩ := wrote
    obtain ⟨a, b, split⟩ := List.append_of_mem he
    obtain ⟨x, stored, s, s', rfl, rfl, read, amended, rfl⟩ :=
      amended_of_wrote hg own amending split wrote
    -- A second write would have to follow the answer as closely.
    have once : ∀ e ∈ a, ¬ e.Wrote .session := by
      intro e he wrote
      obtain ⟨c, d, rfl⟩ := List.append_of_mem he
      rw [List.append_assoc, List.cons_append] at split
      obtain ⟨_, _, _, _, _, close, _⟩ := amended_of_wrote hg own amending split wrote
      have length := congrArg List.length close
      simp at length
    refine .inr ⟨⟨_, he, wrote⟩, x, s, s', rfl, ?_, amended, ?_⟩
    · subst split
      rw [List.append_assoc] at hc
      have allowed := hc.of_append.2.1
      have there : some stored = (w.replay old).entries.get? Slot.session.key := allowed
      rw [World.session?, ← there]
      exact read
    · subst split
      rw [List.append_assoc, session?_replay_of_unwritten once fun e he => unwiped e (by simp [he])]
      simp only [List.cons_append, World.replay, World.after, World.session?, TextMap.get?_insert,
        if_true, Option.bind_some, Session.decode?_encode]
  · have unwritten : ∀ e ∈ mine, ¬ e.Wrote .session := fun e he wrote' => wrote ⟨e, he, wrote'⟩
    exact .inl ⟨unwritten, session?_replay_of_unwritten unwritten unwiped⟩

end answered

/-- A task that is answered goes on at once, without asking again. -/
theorem answered_of_resumes {call : Call} {result : call.Result} (step : Resumes w r r')
    (heard : (⟨i, .ask call, result⟩ : Entry) ∈ r'.since r) :
    ∃ mine : History, r'.history = mine ++ ⟨i, .ask call, result⟩ :: r.history ∧
      ∀ e ∈ mine, e.task = i ∧ ¬ e.op.IsAsk := by
  obtain @⟨j, o', call', next', p, h, result', waiting', stretch⟩ := step
  obtain ⟨mine, rfl, own⟩ := stretch.unasked
  have new : since ⟨mine ++ ⟨j, .ask call', result'⟩ :: r.history, r.tasks.set j ⟨o', p⟩⟩ r =
      mine ++ [⟨j, .ask call', result'⟩] := since_of_append (by simp)
  rw [new] at heard
  rcases List.mem_append.mp heard with heard | heard
  · exact absurd trivial (own _ heard).2
  · have same := List.mem_singleton.mp heard
    obtain rfl : i = j := (Entry.mk.inj same).1
    exact ⟨mine, by rw [same], own⟩

/-- A change that a logout or a sign-in makes does not depend on what was stored. -/
theorem apply_eq_of_replaces {change : Change}
    (replaces : change = .logout ∨ ∃ c, change = .signIn c) (s : Option Session) :
    change.apply s = change.apply none := by
  rcases replaces with rfl | ⟨c, rfl⟩ <;> rfl

/-- **A late answer leaves the newer session as it is if and only if it amends nothing in it, or the
amended session is not written.** A call is under way while the session it was made under is cleared
or replaced. What is stored then is what has been made of it since, and it is this session, whosever
it is, that the answer amends. -/
theorem late_answer_iff {m : SiteMap} (hr : n.registry.Built m) {entries : TextMap String}
    (h : Reachable n (.start entries) r₀) {call : Call} (waiting : r₀.asked? i = some call)
    (amending : ∀ grant, call ≠ .exchange grant) (meanwhile : Proceeds n (.start entries) r₀ r)
    (unanswered : ∀ e ∈ r.since r₀, e.task ≠ i) {later earlier : List Change} {change : Change}
    (replaced : changes (r.since r₀) r₀.history = later ++ change :: earlier)
    (replaces : change = .logout ∨ ∃ c, change = .signIn c) :
    r.asked? i = some call ∧
      ((World.start entries).replay r.history).session? =
        later.foldr Change.apply (change.apply none) ∧
      ∀ (r' : Run) (result : call.Result), Resumes (.start entries) r r' →
        (⟨i, .ask call, result⟩ : Entry) ∈ r'.since r →
        (((World.start entries).replay r'.history).session? =
            ((World.start entries).replay r.history).session? ↔
          ¬ ∃ (x : call.Answer) (s s' : Session), result = .ok x ∧
            ((World.start entries).replay r.history).session? = some s ∧
            call.amend x s = some s' ∧ s' ≠ s ∧ ∃ e ∈ r'.since r, e.Wrote .session) := by
  have reachable := h.proceeds meanwhile
  have sound := conduct_sound hr
  refine ⟨asked?_of_proceeds meanwhile waiting unanswered, ?_, fun r' result step heard => ?_⟩
  · obtain ⟨new, eq, -⟩ := task_of_proceeds meanwhile
    have guarded := (reachable.keeps sound).guarded
    have consistent := reachable.consistent
    rw [since_of_append eq] at replaced
    rw [eq] at guarded consistent ⊢
    rw [session?_replay guarded consistent, replaced, List.foldr_append, List.foldr_cons,
      apply_eq_of_replaces replaces]
  · have after := reachable.resume step
    obtain ⟨mine, eq', own⟩ := answered_of_resumes step heard
    have guarded := (after.keeps sound).guarded
    have consistent := after.consistent
    have now : r'.since r = mine ++ [⟨i, .ask call, result⟩] := since_of_append (by simp [eq'])
    rw [eq'] at guarded consistent
    rw [now, eq']
    rcases session?_of_answered guarded consistent own amending with
      ⟨unwritten, same⟩ | ⟨⟨e, he, wrote⟩, x, s, s', rfl, stored, amended, made⟩
    · refine iff_of_true same ?_
      rintro ⟨_, _, _, _, _, _, _, e, he, wrote⟩
      rcases List.mem_append.mp he with he | he
      · exact unwritten e he wrote
      · obtain ⟨_, _, rfl⟩ := wrote
        exact nomatch (Entry.mk.inj (List.mem_singleton.mp he)).2.1
    · rw [made, stored, Option.some.injEq]
      refine ⟨?_, fun unchanged => ?_⟩
      · rintro rfl ⟨_, _, _, answer, there, again, differs, _⟩
        obtain rfl := Except.ok.inj answer
        obtain rfl := Option.some.inj there
        exact differs (Option.some.inj (again.symm.trans amended))
      · refine Classical.byContradiction fun differs => unchanged ?_
        exact ⟨x, s, s', rfl, rfl, amended, differs, e, List.mem_append_left _ he, wrote⟩

/-! ### A token that is refreshed for another user -/

theorem Proceeds.begin (hp : Proceeds n w r₀ r) (o : Operation) :
    Proceeds n w r₀ (r.begin n w o) :=
  .tail hp (.inl ⟨o, starts_begin o⟩)

theorem Proceeds.answer (hp : Proceeds n w r₀ r) (i : Nat)
    (backend : (call : Call) → call.Result) : Proceeds n w r₀ (r.answer w i backend) := by
  rcases resumes_answer (w := w) (r := r) i backend with same | step
  · rw [same]
    exact hp
  · exact .tail hp (.inr step)

/-- A backend that makes a new token, and is out of reach otherwise. -/
def renewing : (call : Call) → call.Result
  | .refreshToken => .ok "long1"
  | call => backendOf firstUser call

/-- The first user has asked for a new token. -/
def refreshUnderWay : Run := Run.empty.begin .usual firstUserWorld .refreshToken

/-- They log out, and the second user logs in. -/
def userReplaced : Run :=
  ((refreshUnderWay.begin .usual firstUserWorld .logout).begin .usual firstUserWorld
    (.navigate "/psamaui/login?code=c")).answer firstUserWorld 2 (backendOf secondUser)

/-- The new token comes after that. -/
def refreshedLate : Run := userReplaced.answer firstUserWorld 0 renewing

theorem heard_of_answer (w : World) {call : Call} (waiting : r.asked? i = some call)
    (backend : (call : Call) → call.Result) :
    Resumes w r (r.answer w i backend) ∧
      (⟨i, .ask call, backend call⟩ : Entry) ∈ (r.answer w i backend).since r := by
  unfold asked? at waiting
  split at waiting
  · next o call' next there =>
    obtain rfl := Option.some.inj waiting
    have stretch := stretch_enact w i (next (backend call'))
      (⟨i, .ask call', backend call'⟩ :: r.history)
    obtain ⟨mine, eq, _⟩ := stretch.adds
    simp only [answer, there]
    refine ⟨.mk (backend call') there stretch, ?_⟩
    rw [List.append_cons] at eq
    rw [since, eq, List.length_append, Nat.add_sub_cancel, List.take_left]
    simp
  · simp at waiting

theorem late_answer_iff_refreshedLate :
    (firstUserWorld.replay userReplaced.history).session? = some (.ofClaims secondUser) ∧
      (firstUserWorld.replay refreshedLate.history).session? =
        some { Session.ofClaims secondUser with token := some "long1" } ∧
      ∃ e ∈ refreshedLate.since userReplaced, e.Wrote .session := by
  have meanwhile : Proceeds .usual firstUserWorld refreshUnderWay userReplaced :=
    ((Proceeds.begin .refl _).begin _).answer 2 _
  obtain ⟨waiting, unanswered, replaced, amended⟩ :
      refreshUnderWay.asked? 0 = some .refreshToken ∧
        (∀ e ∈ userReplaced.since refreshUnderWay, e.task ≠ 0) ∧
        changes (userReplaced.since refreshUnderWay) refreshUnderWay.history =
          [] ++ .signIn secondUser :: [.logout] ∧
        (firstUserWorld.replay refreshedLate.history).session? =
          some { Session.ofClaims secondUser with token := some "long1" } := by decide +kernel
  obtain ⟨waits, stored, late⟩ := late_answer_iff Navigator.built_usual (Reachable.empty.begin _)
    waiting (by simp) meanwhile unanswered replaced (.inr ⟨_, rfl⟩)
  obtain ⟨resumed, heard⟩ := heard_of_answer firstUserWorld waits renewing
  refine ⟨stored, amended, ?_⟩
  refine Classical.byContradiction fun unwritten => ?_
  have left := (late refreshedLate _ resumed heard).mpr
    fun ⟨_, _, _, _, _, _, _, wrote⟩ => unwritten wrote
  rw [stored] at left
  exact absurd (amended.symm.trans left) (by decide)

end Run

end AdminConsole
