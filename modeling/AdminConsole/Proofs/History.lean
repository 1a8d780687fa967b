import AdminConsole.App
import AdminConsole.Simulation.Stage

/-!
# Histories

A history lists what several tasks have carried out, with the answers they got. It settles the world
they share (`World.replay`): what is stored, the newest ticket and where the console is. A history
is consistent if every answer is one that the world could give at that time. The storage may fail at
any time, and then it changes nothing; the backend may answer anything. The stage on which the
console is tried out is such a world (`Stage.react_now`, `Stage.react_later`). -/

namespace AdminConsole

/-- An operation that a task carried out, and its answer. -/
structure Entry where
  task : Nat
  op : AppOp
  answer : op.Answer

/-- The latest entry comes first. -/
abbrev History := List Entry

structure World where
  entries : TextMap String
  tab : Tab

namespace World

/-- A new tab over a storage. -/
def start (entries : TextMap String) : World := ⟨entries, {}⟩

variable {w : World}

def after (w : World) : Entry → World
  | ⟨_, .storage (.write slot text), .ok _⟩ => { w with entries := w.entries.insert slot.key text }
  | ⟨_, .storage .wipe, .ok _⟩ => { w with entries := .empty }
  | ⟨_, .ticket, _⟩ => { w with tab := w.tab.issue.2 }
  | ⟨_, .mount ticket _ location, _⟩ => { w with tab := (w.tab.moveTo ticket location).2 }
  | ⟨_, .leave, _⟩ => { w with tab := w.tab.leave }
  | _ => w

/-- The answer is one that the world can give. -/
def Allows (w : World) : Entry → Prop
  | ⟨_, .storage (.read slot), .ok text⟩ => text = w.entries.get? slot.key
  | ⟨_, .ticket, ticket⟩ => ticket = w.tab.issue.1
  | ⟨_, .mount ticket _ location, mounted⟩ => mounted = (w.tab.moveTo ticket location).1
  | ⟨_, .location, location⟩ => location = w.tab.location
  | _ => True

/-- What a history makes of a world. -/
def replay (w : World) : History → World
  | [] => w
  | e :: h => (w.replay h).after e

def Consistent (w : World) : History → Prop
  | [] => True
  | e :: h => (w.replay h).Allows e ∧ w.Consistent h

theorem replay_append (new old : History) : w.replay (new ++ old) = (w.replay old).replay new := by
  induction new with
  | nil => rfl
  | cons e new ih => exact congrArg (World.after · e) ih

theorem Consistent.append {new old : History} :
    w.Consistent (new ++ old) ↔ (w.replay old).Consistent new ∧ w.Consistent old := by
  induction new with
  | nil => simp [Consistent]
  | cons e new ih => simp only [List.cons_append, Consistent, ih, replay_append, and_assoc]

theorem Consistent.of_append {new old : History} (h : w.Consistent (new ++ old)) :
    w.Consistent old :=
  (Consistent.append.mp h).2

theorem Consistent.allows {new old : History} {e : Entry} (h : w.Consistent (new ++ e :: old)) :
    (w.replay old).Allows e :=
  h.of_append.1

/-! ### Tickets -/

theorem newest_le_after (e : Entry) : w.tab.newest ≤ (w.after e).tab.newest := by
  obtain ⟨i, op, a⟩ := e
  cases op with
  | storage op => cases op <;> cases a <;> exact Nat.le_refl _
  | ticket => exact Nat.le_succ _
  | mount ticket view location =>
    simp only [after, Tab.moveTo]
    split <;> exact Nat.le_refl _
  | _ => exact Nat.le_refl _

theorem newest_le_replay (h : History) : w.tab.newest ≤ (w.replay h).tab.newest := by
  induction h with
  | nil => exact Nat.le_refl _
  | cons e h ih => exact Nat.le_trans ih (newest_le_after e)

/-- A ticket is above every ticket before it. -/
theorem Consistent.newest_lt {new old : History} {i ticket : Nat}
    (h : w.Consistent (new ++ ⟨i, .ticket, ticket⟩ :: old)) :
    (w.replay old).tab.newest < ticket ∧
      ticket ≤ (w.replay (new ++ ⟨i, .ticket, ticket⟩ :: old)).tab.newest := by
  have taken : ticket = (w.replay old).tab.newest + 1 := h.allows
  have grown := newest_le_replay (w := w.replay (⟨i, .ticket, ticket⟩ :: old)) new
  rw [← replay_append] at grown
  have now : (w.replay (⟨i, .ticket, ticket⟩ :: old)).tab.newest = ticket := taken.symm
  omega

end World

/-! ### The stage as a world -/

namespace Simulation.Stage

def world (s : Stage) : World := ⟨s.memory.entries, s.tab⟩

theorem answer_storage (s : Stage) (i : Nat) (op : StorageOp) :
    let (answer, memory) := s.memory.answer op
    s.world.Allows ⟨i, .storage op, answer⟩ ∧
      ({ s with memory } : Stage).world = s.world.after ⟨i, .storage op, answer⟩ := by
  cases op with
  | read slot =>
    simp only [Memory.answer, Memory.get]
    split
    · exact ⟨trivial, rfl⟩
    · exact ⟨rfl, rfl⟩
  | write slot text =>
    simp only [Memory.answer, Memory.set]
    split <;> exact ⟨trivial, rfl⟩
  | wipe =>
    simp only [Memory.answer, Memory.clear]
    split <;> exact ⟨trivial, rfl⟩

theorem react_now {s s' : Stage} {op : AppOp} {answer : op.Answer} (i : Nat)
    (h : react op s = (.now answer, s')) :
    s.world.Allows ⟨i, op, answer⟩ ∧ s'.world = s.world.after ⟨i, op, answer⟩ := by
  cases op with
  | storage op =>
    obtain ⟨rfl, rfl⟩ : (s.memory.answer op).1 = answer ∧
        { s with memory := (s.memory.answer op).2 } = s' := by
      simpa [react] using h
    exact answer_storage s i op
  | ask call =>
    simp only [react, ask] at h
    refine ⟨trivial, ?_⟩
    split at h
    · obtain ⟨-, rfl⟩ := Prod.mk.inj h
      rfl
    · split at h
      · simp at h
      · obtain ⟨-, rfl⟩ := Prod.mk.inj h
        rfl
  | mount ticket view location =>
    by_cases newest : s.tab.accepts ticket
    · simp only [react, Tab.moveTo, newest, if_true] at h
      obtain ⟨ha, rfl⟩ := Prod.mk.inj h
      obtain rfl := Program.Reaction.now.inj ha
      simp [World.Allows, World.after, world, Tab.moveTo, newest]
    · simp only [react, Tab.moveTo, newest] at h
      obtain ⟨ha, rfl⟩ := Prod.mk.inj h
      obtain rfl := Program.Reaction.now.inj ha
      simp [World.Allows, World.after, world, Tab.moveTo, newest]
  | notify notice | dispatch ctx | ticket | location | leave =>
    obtain ⟨ha, rfl⟩ := Prod.mk.inj h
    obtain rfl := Program.Reaction.now.inj ha
    exact ⟨by trivial, rfl⟩

/-- Only the backend is waited for. -/
theorem react_later {s s' : Stage} {op : AppOp} {answer : op.Answer}
    (h : react op s = (.later answer, s')) : (∃ call, op = .ask call) ∧ s'.world = s.world := by
  cases op with
  | ask call =>
    refine ⟨⟨call, rfl⟩, ?_⟩
    simp only [react, ask] at h
    split at h
    · simp at h
    · split at h
      · obtain ⟨-, rfl⟩ := Prod.mk.inj h
        rfl
      · simp at h
  | mount ticket view location =>
    simp only [react] at h
    split at h <;> simp at h
  | _ => simp [react] at h

end Simulation.Stage

end AdminConsole
