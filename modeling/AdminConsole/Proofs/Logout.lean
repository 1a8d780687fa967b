import AdminConsole.Proofs.Enactment
import AdminConsole.Proofs.StoredSession

/-!
# After a logout

A logout empties the storage, but what was under way before it goes on, and two things that can be
under way are kept when they are done: a sign-in, and connections that are being loaded. The storage
stays empty if and only if neither comes to its end (`storage_after_logout`). Nothing else that is
under way is kept: an amendment finds no session to amend, and hints are kept only before the
backend is asked. -/

namespace AdminConsole

open History

/-! ### What is under way -/

namespace Run

variable {n : Navigator} {w : World} {r r' : Run}

/-- Every task that adds to a history has been answered before. -/
def Answered (new : History) : Prop :=
  ∀ (a b : History) (e : Entry), new = a ++ e :: b →
    e.op.IsAsk ∨ ∃ x ∈ b, x.task = e.task ∧ x.op.IsAsk

theorem Answered.resume {new mine : History} {i : Nat} {call : Call} {result : call.Result}
    (answered : Answered new) (own : ∀ e ∈ mine, e.task = i) :
    Answered (mine ++ ⟨i, .ask call, result⟩ :: new) := by
  intro a b e split
  rcases List.append_eq_append_iff.mp split with ⟨c, rfl, rest⟩ | ⟨c, rfl, rest⟩
  · cases c with
    | nil =>
      obtain ⟨rfl, -⟩ := List.cons.inj rest
      exact .inl trivial
    | cons x c =>
      obtain ⟨-, rfl⟩ := List.cons.inj rest
      exact answered c b e rfl
  · cases c with
    | nil =>
      obtain ⟨rfl, -⟩ := List.cons.inj rest
      exact .inl trivial
    | cons x c =>
      obtain ⟨rfl, rfl⟩ := List.cons.inj rest
      refine .inr ⟨⟨i, .ask call, result⟩, by simp, ?_, trivial⟩
      exact (own e (by simp)).symm

/-- Where nothing is started, a task adds nothing before the answer it waited for. -/
theorem answered_of_continues (hc : Continues w r r') :
    ∃ new, r'.history = new ++ r.history ∧ Answered new := by
  induction hc with
  | refl => exact ⟨[], rfl, fun a b e eq => by simp at eq⟩
  | @tail r₁ _ _ step ih =>
    obtain ⟨new, eq, answered⟩ := ih
    obtain @⟨i, o, call, next, p, h, result, waiting, stretch⟩ := step
    obtain ⟨mine, rfl, own⟩ := stretch.adds
    exact ⟨mine ++ ⟨i, .ask call, result⟩ :: new, by simp [eq], answered.resume own⟩

/-- What has happened since an earlier state of the run. -/
def since (r' r : Run) : History := r'.history.take (r'.history.length - r.history.length)

theorem since_of_append {new : History} (eq : r'.history = new ++ r.history) : r'.since r = new := by
  rw [since, eq, List.length_append, Nat.add_sub_cancel, List.take_left]

/-- The last thing that happened is that a logout came to its end. -/
def LoggedOut (r : Run) : Prop := ∃ i, r.history.head? = some ⟨i, .leave, ()⟩

/-- A logout that is started comes to its end at once, or fails. -/
theorem loggedOut_of_starts (hs : Starts n w .logout r r') {outcome : Outcome}
    (ended : r'.tasks[r.tasks.length]? = some ⟨.logout, .done (.navigation (.ok outcome))⟩) :
    r'.LoggedOut := by
  obtain @⟨p, h, stretch⟩ := hs
  obtain rfl : p = .done (.navigation (.ok outcome)) := by simpa using ended
  obtain ⟨t, stretch⟩ := Stretch.of_step .ticket not_false stretch
  obtain ⟨a, stretch⟩ := Stretch.of_step (.storage (.read .session)) not_false stretch
  -- Whatever is read, the storage is emptied next.
  rcases a with e | _ | text
  all_goals
    obtain ⟨wiped, stretch⟩ := Stretch.of_step (.storage .wipe) not_false stretch
    cases wiped with
    | error e => exact nomatch stretch.of_done.1
    | ok u =>
      obtain ⟨v, stretch⟩ := Stretch.of_step .leave not_false stretch
      rw [stretch.of_done.2]
      exact ⟨_, rfl⟩

theorem entries_of_loggedOut (hk : (conduct n).Keeps r) (out : r.LoggedOut) :
    (w.replay r.history).entries = .empty := by
  obtain ⟨i, last⟩ := out
  have guarded := hk.guarded
  cases eq : r.history with
  | nil => simp [eq] at last
  | cons e h =>
    rw [eq] at last guarded
    obtain rfl := Option.some.inj last
    obtain ⟨_, _, wiped⟩ := guarded.1
    cases h with
    | nil => exact nomatch wiped
    | cons e h =>
      obtain rfl := Option.some.inj wiped
      rfl

/-- What a task does once it has been answered is nothing that is kept for a task that has not
asked. -/
theorem not_fresh {new old : History} (answered : Answered new) {a b : History} {e : Entry}
    (split : new = a ++ e :: b) (own : ¬ e.op.IsAsk) : ¬ Fresh e.task (b ++ old) := by
  intro fresh
  obtain ⟨x, hx, same, isAsk⟩ := (answered a b e split).resolve_left own
  exact fresh x (List.mem_filter.mpr ⟨List.mem_append_left _ hx, by simpa using same⟩) isAsk

section guarded

variable {f : Nat → Option Operation} {new old : History}

theorem unwiped_of_answered (hg : (conduct n).Guarded f (new ++ old)) (answered : Answered new) :
    ∀ e ∈ new, ¬ e.Wiped := by
  rintro _ he ⟨i, rfl⟩
  obtain ⟨a, b, rfl⟩ := List.append_of_mem he
  rw [List.append_assoc, List.cons_append] at hg
  obtain ⟨o, _, _, fresh, _⟩ := hg.guard
  exact not_fresh answered rfl not_false fresh

theorem unhinted_of_answered (hg : (conduct n).Guarded f (new ++ old)) (answered : Answered new)
    {slot : Slot} (hint : slot = .redirectionUrl ∨ slot = .notAuthorizedUrl) :
    ∀ e ∈ new, ¬ e.Wrote slot := by
  rintro _ he ⟨i, text, rfl⟩
  obtain ⟨a, b, rfl⟩ := List.append_of_mem he
  rw [List.append_assoc, List.cons_append] at hg
  obtain ⟨o, _, _, follows⟩ := hg.guard
  have fresh : Fresh i (b ++ old) := by
    rcases hint with rfl | rfl <;> exact follows
  exact not_fresh answered rfl not_false fresh

/-- What is written after the storage was emptied would be there. -/
theorem unwritten_of_empty (empty : (w.replay (new ++ old)).entries = .empty)
    (unwiped : ∀ e ∈ new, ¬ e.Wiped) (slot : Slot) : ∀ e ∈ new, ¬ e.Wrote slot := by
  intro e he wrote
  have kept := isSome_get?_of_wrote (w := w) old he wrote unwiped
  rw [empty] at kept
  simp at kept

theorem wrote_of_signIn {c : Claims} (signs : .signIn c ∈ changes new old) :
    ∃ e ∈ new, e.Wrote .session := by
  obtain ⟨a, b, e, rfl, made⟩ := change_of_mem signs
  generalize b ++ old = before at made
  cases makes_of_change made
  exact ⟨_, List.mem_append_right _ List.mem_cons_self, _, _, rfl⟩

theorem foldr_apply_none {cs : List Change} (unsigned : ∀ c, .signIn c ∉ cs) :
    cs.foldr Change.apply none = none := by
  induction cs with
  | nil => rfl
  | cons change cs ih =>
    rw [List.foldr_cons, ih fun c hc => unsigned c (List.mem_cons_of_mem _ hc)]
    cases change with
    | signIn c => exact absurd List.mem_cons_self (unsigned c)
    | _ => rfl

/-- Without a session and a sign-in, no session is written. -/
theorem unwritten_of_unsigned (hg : (conduct n).Guarded f (new ++ old))
    (hc : w.Consistent (new ++ old)) (signedOut : (w.replay old).session? = none)
    (unsigned : ∀ c, .signIn c ∉ changes new old) : ∀ e ∈ new, ¬ e.Wrote .session := by
  rintro _ he ⟨i, text, rfl⟩
  obtain ⟨a, b, rfl⟩ := List.append_of_mem he
  rw [List.append_assoc, List.cons_append] at hg hc
  rw [changes_append] at unsigned
  have earlier : ∀ c, .signIn c ∉ changes b old := fun c hc =>
    unsigned c (List.mem_append_right _ (List.mem_append_right _ hc))
  obtain ⟨o, _, _, written⟩ := hg.guard
  rcases signIn_or_stored written hc.of_append.2 with ⟨c, known⟩ | stored
  · refine unsigned c (List.mem_append_right _ (List.mem_append_left _ ?_))
    rw [Option.mem_toList]
    exact known
  · rw [session?_replay hg.of_append.2 hc.of_append.2, signedOut, foldr_apply_none earlier] at stored
    simp at stored

end guarded

/-- **After a logout the storage stays empty if and only if no sign-in and no loading of the
connections that was under way comes to its end.** -/
theorem storage_after_logout {m : SiteMap} (hr : n.registry.Built m) {entries : TextMap String}
    (h : Reachable n (.start entries) r) (out : r.LoggedOut)
    (hc : Continues (.start entries) r r') :
    (((World.start entries).replay r'.history).entries = .empty ∧
        ((World.start entries).replay r'.history).validUser? = none ↔
      (∀ c, .signIn c ∉ changes (r'.since r) r.history) ∧
        ∀ e ∈ r'.since r, ¬ e.Wrote .connections) ∧
    ∀ slot : Slot, slot = .redirectionUrl ∨ slot = .notAuthorizedUrl →
      ((World.start entries).replay r'.history).entries.get? slot.key = none := by
  obtain ⟨new, eq, answered⟩ := answered_of_continues hc
  have sound := conduct_sound hr
  have empty := entries_of_loggedOut (w := .start entries) (h.keeps sound) out
  have after := h.continues hc
  have hg := (after.keeps sound).guarded
  have consistent := after.consistent
  rw [since_of_append eq]
  rw [eq] at hg consistent ⊢
  have unwiped := unwiped_of_answered hg answered
  refine ⟨⟨fun ⟨stays, _⟩ => ⟨fun c signs => ?_, fun e he wrote => ?_⟩,
    fun ⟨unsigned, unloaded⟩ => ?_⟩, fun slot hint => ?_⟩
  · obtain ⟨e, he, wrote⟩ := wrote_of_signIn signs
    exact unwritten_of_empty stays unwiped .session e he wrote
  · exact unwritten_of_empty stays unwiped .connections e he wrote
  · have signedOut : ((World.start entries).replay r.history).session? = none := by
      rw [World.session?, empty]
      rfl
    have unwritten : ∀ e ∈ new, ∀ slot, ¬ e.Wrote slot := by
      intro e he slot
      cases slot with
      | session => exact unwritten_of_unsigned hg consistent signedOut unsigned e he
      | connections => exact unloaded e he
      | redirectionUrl => exact unhinted_of_answered hg answered (.inl rfl) e he
      | notAuthorizedUrl => exact unhinted_of_answered hg answered (.inr rfl) e he
    have same := (entries_replay (w := .start entries) unwritten unwiped).trans empty
    refine ⟨same, ?_⟩
    rw [World.validUser?, World.session?, same]
    rfl
  · rw [get?_replay (unhinted_of_answered hg answered hint) unwiped, empty]
    rfl

/-! ### A sign-in that is under way -/

/-- A login waits for the identity exchange when the user logs out. -/
def loggedOutEarly : Run :=
  (Run.empty.begin .usual (.start .empty) (.navigate "/psamaui/login?code=c")).begin .usual
    (.start .empty) .logout

/-- The exchange is answered after the logout. -/
def signedInLate : Run := loggedOutEarly.answer (.start .empty) 0 (backendOf secondUser)

theorem loggedOut_loggedOutEarly : loggedOutEarly.LoggedOut := ⟨1, by rfl⟩

theorem storage_after_logout_signedInLate :
    ¬ (((World.start .empty).replay signedInLate.history).entries = .empty ∧
      ((World.start .empty).replay signedInLate.history).validUser? = none) := by
  have reachable : Reachable .usual (.start .empty) loggedOutEarly :=
    (Reachable.empty.begin _).begin _
  have after : Continues (.start .empty) loggedOutEarly signedInLate := Continues.answer .refl 0 _
  rw [(storage_after_logout Navigator.built_usual reachable loggedOut_loggedOutEarly after).1]
  exact fun kept => kept.1 secondUser (by decide +kernel)

end Run

end AdminConsole
