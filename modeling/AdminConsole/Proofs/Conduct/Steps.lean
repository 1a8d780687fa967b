import AdminConsole.Proofs.Conduct.Rules

/-!
# The conduct of single steps

What each operation asks for to be in order, and what it leaves of a task under way (`Going`). The
programs of the storage are taken in one piece: reading the session is one read, a change of it is a
read and at most one write. -/

namespace AdminConsole

open Program History

/-! ### Tasks under way -/

/-- A task that has mounted nothing yet, by its tickets and what it has called handlers with. -/
structure Going (i : Nat) (ts : List Nat) (cs : List RenderContext) (h : History) : Prop where
  settled : Settled h
  tickets : tickets i h = ts
  mounts : mounts i h = []
  contexts : contexts i h = cs

/-- The operation leaves a task where it is under way. -/
def AppOp.IsPlain : AppOp → Prop
  | storage .wipe | ticket | mount _ _ _ | dispatch _ | leave => False
  | _ => True

namespace Going

variable {i : Nat} {ts : List Nat} {cs : List RenderContext} {h : History}

theorem cons (hg : Going i ts cs h) (op : AppOp) (stays : op ≠ .storage .wipe) (answer : op.Answer)
    (unmounted : Entry.mount? ⟨i, op, answer⟩ = none) :
    Going i ((Entry.ticket? ⟨i, op, answer⟩).toList ++ ts)
      ((Entry.context? ⟨i, op, answer⟩).toList ++ cs) (⟨i, op, answer⟩ :: h) := by
  refine ⟨settled_cons stays answer, ?_, ?_, ?_⟩
  · rw [tickets_cons, hg.tickets]
  · rw [mounts_cons, hg.mounts, unmounted]
    rfl
  · rw [contexts_cons, hg.contexts]

theorem plain (hg : Going i ts cs h) (op : AppOp) (plain : op.IsPlain) (answer : op.Answer) :
    Going i ts cs (⟨i, op, answer⟩ :: h) := by
  cases op with
  | storage op =>
    cases op with
    | read | write => exact hg.cons _ (by simp) answer rfl
    | wipe => exact plain.elim
  | ask | notify | location => exact hg.cons _ (by simp) answer rfl
  | ticket | mount | dispatch | leave => exact plain.elim

theorem append (hg : Going i ts cs h) {others : History} (foreign : ∀ e ∈ others, e.task ≠ i)
    (settled : Settled (others ++ h)) : Going i ts cs (others ++ h) := by
  refine ⟨settled, ?_, ?_, ?_⟩
  · rw [← hg.tickets, History.tickets, own_append foreign, History.tickets]
  · rw [← hg.mounts, History.mounts, own_append foreign, History.mounts]
  · rw [← hg.contexts, History.contexts, own_append foreign, History.contexts]

theorem of_foreign (settled : Settled h) (foreign : ∀ e ∈ h, e.task ≠ i) : Going i [] [] h := by
  refine ⟨settled, ?_, ?_, ?_⟩
  · rw [History.tickets, own_of_foreign foreign, List.filterMap_nil]
  · rw [History.mounts, own_of_foreign foreign, List.filterMap_nil]
  · rw [History.contexts, own_of_foreign foreign, List.filterMap_nil]

end Going

/-! ### Operations -/

section operations

variable {n : Navigator} {o : Operation} {i : Nat} {ts : List Nat} {cs : List RenderContext}
  {h : History}

theorem turn_read (hg : Going i ts cs h) {slot : Slot} {K : _ → History → Prop}
    (hK : ∀ a, Going i ts cs (⟨i, .storage (.read slot), a⟩ :: h) →
      K a (⟨i, .storage (.read slot), a⟩ :: h)) :
    (conduct n).turn o i (.storage (.read slot)) K h :=
  fun a => ⟨⟨hg.settled, trivial⟩, hK a (hg.plain (.storage (.read slot)) trivial a)⟩

theorem turn_write (hg : Going i ts cs h) {slot : Slot} {text : String} {K : _ → History → Prop}
    (hf : ∀ a, Follows n o ⟨i, .storage (.write slot text), a⟩ h)
    (hK : ∀ a, Going i ts cs (⟨i, .storage (.write slot text), a⟩ :: h) →
      K a (⟨i, .storage (.write slot text), a⟩ :: h)) :
    (conduct n).turn o i (.storage (.write slot text)) K h :=
  fun a => ⟨⟨hg.settled, hf a⟩, hK a (hg.plain (.storage (.write slot text)) trivial a)⟩

theorem turn_notify (hg : Going i ts cs h) {notice : Notice} {K : Unit → History → Prop}
    (hK : Going i ts cs (⟨i, .notify notice, ()⟩ :: h) → K () (⟨i, .notify notice, ()⟩ :: h)) :
    (conduct n).turn o i (.notify notice) K h :=
  ⟨⟨hg.settled, trivial⟩, hK (hg.plain (.notify notice) trivial ())⟩

theorem turn_location (hg : Going i ts cs h) {K : Option Location → History → Prop}
    (hK : ∀ a, Going i ts cs (⟨i, .location, a⟩ :: h) → K a (⟨i, .location, a⟩ :: h)) :
    (conduct n).turn o i .location K h :=
  fun a => ⟨⟨hg.settled, trivial⟩, hK a (hg.plain .location trivial a)⟩

theorem turn_ticket (hg : Going i ts cs h) {K : Nat → History → Prop}
    (hK : ∀ t, Going i (t :: ts) cs (⟨i, .ticket, t⟩ :: h) → K t (⟨i, .ticket, t⟩ :: h)) :
    (conduct n).turn o i .ticket K h :=
  fun t => ⟨⟨hg.settled, trivial⟩, hK t (hg.cons .ticket (by simp) t rfl)⟩

theorem turn_dispatch {ctx : RenderContext} (hg : Going i ts cs h) (called : Called n i ctx h)
    {K : Unit → History → Prop}
    (hK : Going i ts (ctx :: cs) (⟨i, .dispatch ctx, ()⟩ :: h) →
      K () (⟨i, .dispatch ctx, ()⟩ :: h)) :
    (conduct n).turn o i (.dispatch ctx) K h :=
  ⟨⟨hg.settled, called⟩, hK (hg.cons (.dispatch ctx) (by simp) () rfl)⟩

/-- After it has waited, a task finds what the others have added. -/
theorem turn_ask (hg : Going i ts cs h) {call : Call}
    (permitted : call = .refreshToken → o = .refreshToken) {K : _ → History → Prop}
    (hK : ∀ (others : History) (result : call.Result), (∀ e ∈ others, e.task ≠ i) →
      Going i ts cs (⟨i, .ask call, result⟩ :: (others ++ h)) →
        K result (⟨i, .ask call, result⟩ :: (others ++ h))) :
    (conduct n).turn o i (.ask call) K h := by
  refine ⟨hg.settled, fun others result foreign settled => ⟨⟨settled, ?_⟩, ?_⟩⟩
  · cases call with
    | refreshToken => exact permitted rfl
    | _ => trivial
  · exact hK others result foreign ((hg.append foreign settled).plain (.ask call) trivial result)

end operations

/-! ### Programs of the storage -/

section storage

variable {σ : Type} (T : Rule StorageOp.Answer σ)

@[simp] theorem wp_read (slot : Slot) (Q : _ → σ → Prop) :
    wp T Q (Storage.read slot) = T (.read slot) Q := rfl

@[simp] theorem wp_write (slot : Slot) (text : String) (Q : _ → σ → Prop) :
    wp T Q (Storage.write slot text) = T (.write slot text) Q := rfl

@[simp] theorem wp_wipe (Q : _ → σ → Prop) : wp T Q Storage.wipe = T .wipe Q := rfl

theorem get_eq_map : SessionStore.get = sessionIn <$> Storage.read .session := by
  refine congrArg (Program.step _) (funext fun a => ?_)
  cases a with
  | error e => rfl
  | ok text => cases text <;> rfl

@[simp] theorem wp_get (Q : Option Session → σ → Prop) :
    wp T Q SessionStore.get = T (.read .session) fun a => Q (sessionIn a) := by
  rw [get_eq_map, wp_map, wp_read]

/-- The note that a read answers. -/
def noteIn : Except StorageError (Option String) → Option String
  | .ok text => Text.given? text
  | .error _ => none

theorem note_eq_map (slot : Slot) : TabNotes.read slot = noteIn <$> Storage.read slot := by
  refine congrArg (Program.step _) (funext fun a => ?_)
  cases a <;> rfl

@[simp] theorem wp_note (slot : Slot) (Q : Option String → σ → Prop) :
    wp T Q (TabNotes.read slot) = T (.read slot) fun a => Q (noteIn a) := by
  rw [note_eq_map, wp_map, wp_read]

end storage

section changes

variable {n : Navigator} {o : Operation} {i : Nat} {ts : List Nat} {cs : List RenderContext}
  {h : History}

theorem wp_establish {grant : Grant} {c : Claims}
    (hg : Going i ts cs (⟨i, .ask (.exchange grant), .ok c⟩ :: h))
    {Q : Except SessionError Session → History → Prop} (hQ : ∀ a h', Going i ts cs h' → Q a h') :
    wp (App.onStorage ((conduct n).turn o i)) Q (SessionStore.establish c)
      (⟨i, .ask (.exchange grant), .ok c⟩ :: h) := by
  unfold SessionStore.establish
  cases valid : c.validate with
  | error e => exact hQ _ _ hg
  | ok u =>
    simp only [SessionStore.replace, wp_bind, wp_write, wp_pure]
    refine turn_write hg (fun _ => .signIn valid rfl) fun a hg => hQ _ _ hg

/-- A change is written right after the session is read, and that right after the answer. -/
theorem wp_update (call : Call) (x : call.Answer)
    (hg : Going i ts cs (⟨i, .ask call, .ok x⟩ :: h))
    {Q : Except SessionError Unit → History → Prop} (hQ : ∀ a h', Going i ts cs h' → Q a h') :
    wp (App.onStorage ((conduct n).turn o i)) Q (SessionStore.update (call.amend x))
      (⟨i, .ask call, .ok x⟩ :: h) := by
  unfold SessionStore.update
  rw [wp_bind, wp_get]
  refine turn_read hg fun a hg => ?_
  cases found : sessionIn a with
  | none => exact hQ _ _ hg
  | some s =>
    cases amended : call.amend x s with
    | none =>
      simp only [amended, wp_pure]
      exact hQ _ _ hg
    | some s' =>
      obtain ⟨text, rfl⟩ : ∃ text, a = .ok (some text) := by
        cases a with
        | error e => simp [sessionIn] at found
        | ok text =>
          cases text with
          | none => simp [sessionIn] at found
          | some text => exact ⟨text, rfl⟩
      simp only [amended, SessionStore.replace, wp_bind, wp_write, wp_pure]
      exact turn_write hg (fun _ => .amendment found amended rfl) fun a hg => hQ _ _ hg

theorem wp_cacheConnections {connections : List Connection}
    (hg : Going i ts cs (⟨i, .ask .connections, .ok connections⟩ :: h))
    {Q : Except SessionError Unit → History → Prop}
    (hQ : ∀ a text k, Going i ts cs (⟨i, .storage (.write .connections text), k⟩ ::
      ⟨i, .ask .connections, .ok connections⟩ :: h) →
        Q a (⟨i, .storage (.write .connections text), k⟩ ::
          ⟨i, .ask .connections, .ok connections⟩ :: h)) :
    wp (App.onStorage ((conduct n).turn o i)) Q (TabNotes.cacheConnections connections)
      (⟨i, .ask .connections, .ok connections⟩ :: h) := by
  simp only [TabNotes.cacheConnections, wp_bind, wp_write, wp_pure]
  exact turn_write hg (fun _ => ⟨connections, h, rfl⟩) fun a hg => hQ _ _ a hg

end changes

end AdminConsole
