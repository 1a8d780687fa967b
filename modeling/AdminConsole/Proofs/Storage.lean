import AdminConsole.Proofs.History

/-!
# What a history leaves in the storage

Only a write changes a slot, and only the emptying of the storage takes a text away
(`get?_replay`, `isSome_get?_of_wrote`). -/

namespace AdminConsole

/-- A text was written. -/
def Entry.Wrote (e : Entry) (slot : Slot) : Prop :=
  ∃ i text, e = ⟨i, .storage (.write slot text), .ok ()⟩

def Entry.Wiped (e : Entry) : Prop := ∃ i, e = ⟨i, .storage .wipe, .ok ()⟩

section storage

variable {w : World} {new old : History}

theorem entries_after {e : Entry} (unwritten : ∀ slot, ¬ e.Wrote slot) (unwiped : ¬ e.Wiped) :
    (w.after e).entries = w.entries := by
  obtain ⟨i, op, a⟩ := e
  cases op with
  | storage op =>
    cases op with
    | read slot => cases a <;> rfl
    | write slot text =>
      cases a with
      | error e => rfl
      | ok u => exact absurd ⟨i, text, rfl⟩ (unwritten slot)
    | wipe =>
      cases a with
      | error e => rfl
      | ok u => exact absurd ⟨i, rfl⟩ unwiped
  | mount ticket view location => rfl
  | ask | notify | dispatch | ticket | location | leave => rfl

theorem entries_replay (unwritten : ∀ e ∈ new, ∀ slot, ¬ e.Wrote slot)
    (unwiped : ∀ e ∈ new, ¬ e.Wiped) :
    (w.replay (new ++ old)).entries = (w.replay old).entries := by
  induction new with
  | nil => rfl
  | cons e new ih =>
    rw [List.forall_mem_cons] at unwritten unwiped
    rw [← ih unwritten.2 unwiped.2]
    exact entries_after unwritten.1 unwiped.1

theorem get?_after {e : Entry} (slot : Slot) (unwritten : ¬ e.Wrote slot) (unwiped : ¬ e.Wiped) :
    (w.after e).entries.get? slot.key = w.entries.get? slot.key := by
  by_cases other : ∃ slot', e.Wrote slot'
  · obtain ⟨slot', i, text, rfl⟩ := other
    simp only [World.after, TextMap.get?_insert]
    rw [if_neg]
    intro eq
    exact unwritten ⟨i, text, by rw [Slot.key_injective eq]⟩
  · rw [entries_after (not_exists.mp other) unwiped]

theorem get?_replay {slot : Slot} (unwritten : ∀ e ∈ new, ¬ e.Wrote slot)
    (unwiped : ∀ e ∈ new, ¬ e.Wiped) :
    (w.replay (new ++ old)).entries.get? slot.key = (w.replay old).entries.get? slot.key := by
  induction new with
  | nil => rfl
  | cons e new ih =>
    rw [List.forall_mem_cons] at unwritten unwiped
    rw [← ih unwritten.2 unwiped.2]
    exact get?_after slot unwritten.1 unwiped.1

/-- A text that is written stays, or another in its place, until the storage is emptied. -/
theorem isSome_get?_of_wrote (old : History) {slot : Slot} {e : Entry} (he : e ∈ new) (wrote : e.Wrote slot)
    (unwiped : ∀ e ∈ new, ¬ e.Wiped) :
    ((w.replay (new ++ old)).entries.get? slot.key).isSome := by
  induction new with
  | nil => simp at he
  | cons x new ih =>
    rw [List.forall_mem_cons] at unwiped
    by_cases now : x.Wrote slot
    · obtain ⟨i, text, rfl⟩ := now
      simp only [List.cons_append, World.replay, World.after, TextMap.get?_insert, if_true,
        Option.isSome_some]
    · have older : e ∈ new := (List.mem_cons.mp he).resolve_left fun eq => now (eq ▸ wrote)
      rw [List.cons_append, World.replay, get?_after slot now unwiped.1]
      exact ih older unwiped.2

end storage

end AdminConsole
