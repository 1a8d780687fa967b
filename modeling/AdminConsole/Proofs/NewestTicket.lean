import Mathlib.Tactic.ByContra
import AdminConsole.Proofs.Conduct.Operations
import AdminConsole.Proofs.Enactment

/-!
# The last operation counts

Whatever the order in which operations are started and answered, only the one that took the newest
ticket shows anything, and it shows one view (`Run.LastCounts`, `last_operation_counts`). Views are
mounted in the order of the tickets. An operation says that it has been superseded only if another
took a ticket between its own and its attempt to show a view, so one that runs alone never says
so. -/

namespace AdminConsole

open History

/-! ### Tickets and mounts in a history -/

section history

variable {i t : Nat} {h : History}

theorem mem_tickets : t ∈ tickets i h ↔ (⟨i, .ticket, t⟩ : Entry) ∈ h := by
  simp only [tickets, own, List.mem_filterMap, List.mem_filter, decide_eq_true_eq]
  constructor
  · rintro ⟨⟨j, op, a⟩, ⟨he, rfl⟩, ht⟩
    cases op <;> simp_all [Entry.ticket?]
  · intro he
    exact ⟨_, ⟨he, rfl⟩, rfl⟩

theorem mem_mounts {view : View} {mounted : Bool} :
    (t, view, mounted) ∈ mounts i h ↔
      ∃ location, (⟨i, .mount t view location, mounted⟩ : Entry) ∈ h := by
  simp only [mounts, own, List.mem_filterMap, List.mem_filter, decide_eq_true_eq]
  constructor
  · rintro ⟨⟨j, op, a⟩, ⟨he, rfl⟩, hm⟩
    cases op with
    | mount ticket view location =>
      simp only [Entry.mount?, Option.some.injEq, Prod.mk.injEq] at hm
      obtain ⟨rfl, rfl, rfl⟩ := hm
      exact ⟨location, he⟩
    | _ => simp [Entry.mount?] at hm
  · rintro ⟨location, he⟩
    exact ⟨_, ⟨he, rfl⟩, rfl⟩

theorem mem_contexts {i : Nat} {ctx : RenderContext} {h : History} :
    ctx ∈ contexts i h ↔ (⟨i, .dispatch ctx, ()⟩ : Entry) ∈ h := by
  simp only [contexts, own, List.mem_filterMap, List.mem_filter, decide_eq_true_eq]
  constructor
  · rintro ⟨⟨j, op, a⟩, ⟨he, rfl⟩, hx⟩
    cases op with
    | dispatch ctx' =>
      obtain rfl := Option.some.inj hx
      exact he
    | _ => simp [Entry.context?] at hx
  · intro he
    exact ⟨_, ⟨he, rfl⟩, rfl⟩

theorem tickets_append (new old : History) :
    tickets i (new ++ old) = tickets i new ++ tickets i old := by
  simp [tickets, own]

/-- The only ticket of a task, and what came after it. -/
theorem split_at_ticket (only : tickets i h = [t]) :
    ∃ new old : History, h = new ++ ⟨i, .ticket, t⟩ :: old ∧ tickets i new = [] := by
  obtain ⟨new, old, rfl⟩ := List.append_of_mem (mem_tickets.mp (by simp [only] : t ∈ tickets i h))
  refine ⟨new, old, rfl, ?_⟩
  have count := congrArg List.length only
  rw [tickets_append, tickets_cons, List.length_append, List.length_append] at count
  simp only [Entry.ticket?, Option.toList_some, List.length_cons, List.length_nil] at count
  exact List.length_eq_zero_iff.mp (by omega)

end history

namespace World

variable {w : World} {i t : Nat} {h : History}

theorem newest_after_of_no_ticket {e : Entry} (none : e.ticket? = none) :
    (w.after e).tab.newest = w.tab.newest := by
  obtain ⟨i, op, a⟩ := e
  cases op with
  | storage op => cases op <;> cases a <;> rfl
  | ticket => simp [Entry.ticket?] at none
  | mount ticket view location =>
    simp only [after, Tab.moveTo]
    split <;> rfl
  | _ => rfl

theorem newest_replay_of_no_ticket {new : History} (none : ∀ e ∈ new, e.ticket? = none) :
    (w.replay new).tab.newest = w.tab.newest := by
  induction new with
  | nil => rfl
  | cons e new ih =>
    rw [List.forall_mem_cons] at none
    rw [replay, newest_after_of_no_ticket none.1, ih none.2]

/-- A view is mounted if and only if its ticket is the newest. -/
theorem Consistent.mounted_iff {new old : History} {view : View} {location : Location}
    {mounted : Bool} (hc : w.Consistent (new ++ ⟨i, .mount t view location, mounted⟩ :: old)) :
    mounted = true ↔ (w.replay old).tab.newest = t := by
  have answer : mounted = ((w.replay old).tab.moveTo t location).1 := hc.allows
  rw [answer, Tab.moveTo]
  by_cases newest : (w.replay old).tab.newest = t
  · simp [Tab.accepts, newest]
  · simp [Tab.accepts, newest]

/-- The newest ticket is the last one that was taken. -/
theorem Consistent.newest_iff {new old : History}
    (hc : w.Consistent (new ++ ⟨i, .ticket, t⟩ :: old)) :
    (w.replay (new ++ ⟨i, .ticket, t⟩ :: old)).tab.newest = t ↔ ∀ e ∈ new, e.ticket? = none := by
  have taken : (w.replay (⟨i, .ticket, t⟩ :: old)).tab.newest = t := hc.of_append.1.symm
  constructor
  · intro newest e he
    obtain ⟨j, op, a⟩ := e
    cases op with
    | ticket =>
      obtain ⟨later, earlier, rfl⟩ := List.append_of_mem he
      rw [List.append_assoc, List.cons_append] at hc newest
      have above := hc.newest_lt
      have below := hc.of_append.2.newest_lt
      omega
    | _ => rfl
  · intro none
    rw [replay_append, newest_replay_of_no_ticket none, taken]

end World

/-! ### What a run shows -/

/-- Where the console is after a history: where the last view was mounted, unless the storage has
been emptied since. -/
def whereabouts (start : Option Location) : History → Option Location
  | [] => start
  | ⟨_, .mount _ _ location, true⟩ :: _ => some location
  | ⟨_, .storage .wipe, .ok _⟩ :: _ => none
  | _ :: h => whereabouts start h

/-- The result says that a view is shown. -/
def Shows (result : Navigator.Result) (view : View) : Prop :=
  result = .ok (.rendered view) ∨ result = .ok (.loginInitiated (.display view))

/-- No other task has an entry between two of a task's own. -/
def Alone (i : Nat) (h : History) : Prop :=
  ∀ (a b c : History) (e e' : Entry), h = a ++ e :: (b ++ e' :: c) → e.task = i → e'.task = i →
    ∀ x ∈ b, x.task = i

namespace Run

/-- The last operation counts. -/
structure LastCounts (w : World) (r : Run) : Prop where
  /-- An operation shows one view at most. -/
  once : ∀ {a b : History} {i t : Nat} {v : View} {l : Location},
    r.history = a ++ ⟨i, .mount t v l, true⟩ :: b → mounts i a = [] ∧ mounts i b = []
  /-- No ticket has been taken since the operation took its own. -/
  newest : ∀ {a b : History} {i t : Nat} {v : View} {l : Location},
    r.history = a ++ ⟨i, .mount t v l, true⟩ :: b →
      ∃ c d : History, b = c ++ ⟨i, .ticket, t⟩ :: d ∧ ∀ e ∈ c, e.ticket? = none
  inOrder : ∀ {a b c : History} {i j t u : Nat} {v v' : View} {l l' : Location},
    r.history = a ++ ⟨j, .mount u v' l', true⟩ :: (b ++ ⟨i, .mount t v l, true⟩ :: c) → t < u
  shows : ∀ {i : Nat} {o : Operation} {result : Navigator.Result},
    r.tasks[i]? = some ⟨o, .done (.navigation result)⟩ → ∀ v : View,
      Shows result v ↔ ∃ t l, (⟨i, .mount t v l, true⟩ : Entry) ∈ r.history
  /-- A superseded operation has mounted nothing, and another has taken a ticket between its own and
  its only attempt. -/
  superseded : ∀ {i : Nat} {o : Operation},
    r.tasks[i]? = some ⟨o, .done (.navigation (.ok .superseded))⟩ →
      (∀ t v l, (⟨i, .mount t v l, true⟩ : Entry) ∉ r.history) ∧
        ∃ (a b c d : History) (j t u : Nat) (v : View) (l : Location), j ≠ i ∧
          r.history = a ++ ⟨i, .mount t v l, false⟩ :: (b ++ ⟨j, .ticket, u⟩ ::
            (c ++ ⟨i, .ticket, t⟩ :: d))
  alone : ∀ {i : Nat} {o : Operation} {result : Navigator.Result},
    r.tasks[i]? = some ⟨o, .done (.navigation result)⟩ → Alone i r.history →
      result ≠ .ok .superseded
  location : (w.replay r.history).tab.location = whereabouts w.tab.location r.history

variable {n : Navigator} {w : World} {r : Run}

/-! ### Mounted views -/

/-- A view is mounted, or refused, for the only ticket of its task, and once. -/
theorem mount_guarded (hk : (conduct n).Keeps r) {a b : History} {i t : Nat} {v : View}
    {l : Location} {mounted : Bool} (hr : r.history = a ++ ⟨i, .mount t v l, mounted⟩ :: b) :
    tickets i b = [t] ∧ mounts i b = [] := by
  have guarded := hk.guarded
  rw [hr] at guarded
  obtain ⟨_, _, _, only, unshown, _⟩ := guarded.guard
  exact ⟨only, unshown⟩

theorem called_of_dispatched (hk : (conduct n).Keeps r) {new old : History} {i : Nat}
    {ctx : RenderContext} (dispatched : r.history = new ++ ⟨i, .dispatch ctx, ()⟩ :: old) :
    Called n i ctx old := by
  have guarded := hk.guarded
  rw [dispatched] at guarded
  obtain ⟨_, _, _, called⟩ := guarded.guard
  exact called

/-- A task that calls a handler has mounted nothing before. -/
theorem mounted_since_dispatched (hk : (conduct n).Keeps r) {new old : History} {i t : Nat}
    {ctx : RenderContext} (dispatched : r.history = new ++ ⟨i, .dispatch ctx, ()⟩ :: old) {v : View}
    {l : Location} {mounted : Bool} (shown : (⟨i, .mount t v l, mounted⟩ : Entry) ∈ r.history) :
    (⟨i, .mount t v l, mounted⟩ : Entry) ∈ new := by
  have before : (⟨i, .mount t v l, mounted⟩ : Entry) ∉ old := by
    intro he
    have tried : (t, v, mounted) ∈ mounts i old := mem_mounts.mpr ⟨l, he⟩
    rw [(called_of_dispatched hk dispatched).unmounted] at tried
    simp at tried
  rw [dispatched] at shown
  rcases List.mem_append.mp shown with he | he
  · exact he
  · exact absurd ((List.mem_cons.mp he).resolve_left (by simp)) before

theorem mounts_once (hk : (conduct n).Keeps r) {a b : History} {i t : Nat} {v : View}
    {l : Location} {mounted : Bool} (hr : r.history = a ++ ⟨i, .mount t v l, mounted⟩ :: b) :
    mounts i a = [] ∧ mounts i b = [] := by
  refine ⟨List.eq_nil_iff_forall_not_mem.mpr fun ⟨u, v', mounted'⟩ hm => ?_, (mount_guarded hk hr).2⟩
  -- A second mount would come after the first.
  obtain ⟨l', he⟩ := mem_mounts.mp hm
  obtain ⟨later, earlier, rfl⟩ := List.append_of_mem he
  rw [List.append_assoc, List.cons_append] at hr
  have first : (t, v, mounted) ∈ mounts i (earlier ++ ⟨i, .mount t v l, mounted⟩ :: b) :=
    mem_mounts.mpr ⟨l, by simp⟩
  rw [(mount_guarded hk hr).2] at first
  simp at first

/-- The tickets that were taken since, where a view is mounted or refused. -/
theorem mounted_iff_newest (hk : (conduct n).Keeps r) (hc : w.Consistent r.history) {a b : History}
    {i t : Nat} {v : View} {l : Location} {mounted : Bool}
    (hr : r.history = a ++ ⟨i, .mount t v l, mounted⟩ :: b) :
    ∃ c d : History, b = c ++ ⟨i, .ticket, t⟩ :: d ∧ tickets i c = [] ∧
      (mounted = true ↔ ∀ e ∈ c, e.ticket? = none) := by
  obtain ⟨c, d, rfl, own⟩ := split_at_ticket (mount_guarded hk hr).1
  rw [hr] at hc
  exact ⟨c, d, rfl, own, hc.mounted_iff.trans hc.of_append.2.newest_iff⟩

theorem ticket_lt_of_mounted (hk : (conduct n).Keeps r) (hc : w.Consistent r.history)
    {a b c : History} {i j t u : Nat} {v v' : View} {l l' : Location}
    (hr : r.history = a ++ ⟨j, .mount u v' l', true⟩ :: (b ++ ⟨i, .mount t v l, true⟩ :: c)) :
    t < u := by
  obtain ⟨since, before, eq, _, last⟩ := mounted_iff_newest hk hc hr
  have hr' : r.history = (a ++ ⟨j, .mount u v' l', true⟩ :: b) ++ ⟨i, .mount t v l, true⟩ :: c := by
    simpa using hr
  obtain ⟨newer, older, rfl, _⟩ := mounted_iff_newest hk hc hr'
  -- The ticket of the earlier view was taken before that of the later one.
  have taken : (⟨i, .ticket, t⟩ : Entry) ∈ since ++ ⟨j, .ticket, u⟩ :: before := by
    rw [← eq]
    simp
  rcases List.mem_append.mp taken with he | he
  · exact absurd (last.mp rfl _ he) (by simp [Entry.ticket?])
  · rcases List.mem_cons.mp he with same | he
    · obtain ⟨rfl, -⟩ := Entry.mk.inj same
      have shown : (t, v, true) ∈ mounts i (b ++ ⟨i, .mount t v l, true⟩ ::
          (newer ++ ⟨i, .ticket, t⟩ :: older)) := mem_mounts.mpr ⟨l, by simp⟩
      rw [(mounts_once hk hr).2] at shown
      simp at shown
    · obtain ⟨later, earlier, rfl⟩ := List.append_of_mem he
      rw [hr, eq] at hc
      have hb := hc.of_append.2.of_append.2
      have above := hb.newest_lt
      have below := (hc.of_append.2).newest_lt
      omega

/-! ### Results -/

theorem ended_of_over (hk : (conduct n).Keeps r) {i : Nat} {o : Operation}
    {result : Navigator.Result} (ht : r.tasks[i]? = some ⟨o, .done (.navigation result)⟩) :
    Ended result (mounts i r.history) := by
  obtain ⟨others, before, eq, foreign, _, ended⟩ := hk.holds i _ ht
  rw [eq, mounts, own_append foreign]
  exact ended

theorem shows_iff (hk : (conduct n).Keeps r) {i : Nat} {o : Operation} {result : Navigator.Result}
    (ht : r.tasks[i]? = some ⟨o, .done (.navigation result)⟩) (v : View) :
    Shows result v ↔ ∃ t l, (⟨i, .mount t v l, true⟩ : Entry) ∈ r.history := by
  have ended := ended_of_over hk ht
  simp only [← mem_mounts]
  unfold Ended at ended
  split at ended
  · obtain ⟨t, eq⟩ := ended
    simp [Shows, eq, eq_comm]
  · obtain ⟨t, eq⟩ := ended
    simp [Shows, eq, eq_comm]
  · obtain ⟨t, u, eq⟩ := ended
    simp [Shows, eq]
  · next notRendered notInitiated _ =>
    rw [ended]
    refine ⟨fun shows => ?_, fun ⟨t, shown⟩ => by simp at shown⟩
    rcases shows with eq | eq
    · exact absurd eq (notRendered v)
    · exact absurd eq (notInitiated v)

theorem superseded_by (hk : (conduct n).Keeps r) (hc : w.Consistent r.history) {i : Nat}
    {o : Operation} (ht : r.tasks[i]? = some ⟨o, .done (.navigation (.ok .superseded))⟩) :
    ∃ (a b c d : History) (j t u : Nat) (v : View) (l : Location), j ≠ i ∧
      r.history = a ++ ⟨i, .mount t v l, false⟩ :: (b ++ ⟨j, .ticket, u⟩ ::
        (c ++ ⟨i, .ticket, t⟩ :: d)) := by
  obtain ⟨t, v, only⟩ := ended_of_over hk ht
  obtain ⟨l, tried⟩ := mem_mounts.mp (by simp [only] : (t, v, false) ∈ mounts i r.history)
  obtain ⟨a, b, hr⟩ := List.append_of_mem tried
  obtain ⟨since, d, rfl, own, refused⟩ := mounted_iff_newest hk hc hr
  obtain ⟨e, he, taken⟩ : ∃ e ∈ since, e.ticket? ≠ none := by
    by_contra none
    simp only [not_exists, not_and, not_not] at none
    exact Bool.false_ne_true (refused.mpr none)
  obtain ⟨j, op, u⟩ := e
  cases op with
  | ticket =>
    obtain ⟨b, c, rfl⟩ := List.append_of_mem he
    refine ⟨a, b, c, d, j, t, u, v, l, ?_, by simpa using hr⟩
    rintro rfl
    exact List.eq_nil_iff_forall_not_mem.mp own u (mem_tickets.mpr (by simp))
  | _ => exact absurd rfl taken

theorem not_superseded_of_alone (hk : (conduct n).Keeps r) (hc : w.Consistent r.history) {i : Nat}
    {o : Operation} {result : Navigator.Result}
    (ht : r.tasks[i]? = some ⟨o, .done (.navigation result)⟩) (alone : Alone i r.history) :
    result ≠ .ok .superseded := by
  rintro rfl
  obtain ⟨a, b, c, d, j, t, u, v, l, other, hr⟩ := superseded_by hk hc ht
  refine other (alone a (b ++ ⟨j, .ticket, u⟩ :: c) d ⟨i, .mount t v l, false⟩ ⟨i, .ticket, t⟩ ?_
    rfl rfl ⟨j, .ticket, u⟩ (by simp))
  simpa using hr

/-! ### Where the console is -/

theorem location_replay {f : Nat → Option Operation} {h : History} (hg : (conduct n).Guarded f h)
    (hc : w.Consistent h) (settled : Settled h) :
    (w.replay h).tab.location = whereabouts w.tab.location h := by
  induction h with
  | nil => rfl
  | cons e h ih =>
    obtain ⟨⟨o, _, guard⟩, hg⟩ := hg
    obtain ⟨i, op, a⟩ := e
    cases op with
    | leave =>
      -- The storage has been emptied just before.
      obtain ⟨h, rfl⟩ : ∃ old, h = ⟨i, .storage .wipe, .ok ()⟩ :: old := by
        cases h with
        | nil => simp [conduct, AdminConsole.guard] at guard
        | cons e old => exact ⟨old, congrArg (· :: old) (Option.some.inj guard)⟩
      rfl
    | mount ticket view location =>
      have before := ih hg hc.2 guard.1
      have answer : a = ((w.replay h).tab.moveTo ticket location).1 := hc.1
      subst answer
      simp only [World.replay, World.after, Tab.moveTo]
      split
      · rfl
      · exact before
    | storage op =>
      have before := ih hg hc.2 guard.1
      cases op with
      | wipe =>
        cases a with
        | error e => exact before
        | ok u => exact absurd rfl (settled i)
      | read | write => cases a <;> exact before
    | ask | notify | dispatch | ticket | location => exact ih hg hc.2 guard.1

/-- **The last operation counts**, in every run on a new tab. -/
theorem last_operation_counts {m : SiteMap} (hr : n.registry.Built m) {entries : TextMap String}
    (h : Reachable n (.start entries) r) : r.LastCounts (.start entries) := by
  have hk := h.keeps (conduct_sound hr)
  have hc := h.consistent
  refine ⟨fun eq => mounts_once hk eq, fun eq => ?_, fun eq => ticket_lt_of_mounted hk hc eq,
    fun ht v => shows_iff hk ht v, fun ht => ⟨fun t v l shown => ?_, superseded_by hk hc ht⟩,
    fun ht alone => not_superseded_of_alone hk hc ht alone, location_replay hk.guarded hc hk.settled⟩
  · obtain ⟨c, d, rfl, _, newest⟩ := mounted_iff_newest hk hc eq
    exact ⟨c, d, rfl, newest.mp rfl⟩
  · obtain shows | shows := (shows_iff hk ht v).mpr ⟨t, l, shown⟩
    · exact nomatch shows
    · exact nomatch shows

/-- The terms are being accepted; before the backend answers, the user is told that access is
denied. -/
def overtaken : Run :=
  ((Run.empty.begin .usual (.start .empty) .acceptTerms).begin .usual (.start .empty)
    (.navigateTo .notAuthorized)).answer (.start .empty) 0 fun _ => .error (.network "offline")

theorem last_operation_counts_overtaken :
    overtaken.outcome? 0 = some .superseded ∧
      overtaken.outcome? 1 = some (.rendered (.denied none)) ∧
        overtaken.LastCounts (.start .empty) :=
  ⟨by decide +kernel, by decide +kernel,
    last_operation_counts Navigator.built_usual
      (((Reachable.empty.begin .acceptTerms).begin (.navigateTo .notAuthorized)).answer 0 _)⟩

end Run

end AdminConsole
