import AdminConsole.Sorted.TextMap
import AdminConsole.Storage.Basic

/-!
# A storage in memory

Texts under names, and the faults that are on. An operation that a fault stands in the way of fails
and changes nothing. -/

namespace AdminConsole.Simulation

inductive Fault where
  | reads
  | writes
  | wipes
  | readsOf (key : String)
  | writesOf (key : String)
  deriving DecidableEq

structure Memory where
  entries : TextMap String := .empty
  faults : List Fault := []
  deriving Inhabited

namespace Memory

def get (m : Memory) (key : String) : Except StorageError (Option String) :=
  if .reads ∈ m.faults ∨ .readsOf key ∈ m.faults then .error (.corrupt "unreadable")
  else .ok (m.entries.get? key)

def set (m : Memory) (key value : String) : Except StorageError Unit × Memory :=
  if .writes ∈ m.faults ∨ .writesOf key ∈ m.faults then (.error (.corrupt "unwritable"), m)
  else (.ok (), { m with entries := m.entries.insert key value })

def clear (m : Memory) : Except StorageError Unit × Memory :=
  if .wipes ∈ m.faults then (.error (.corrupt "unclearable"), m)
  else (.ok (), { m with entries := .empty })

/-- Answers an operation of the storage. -/
def answer : (op : StorageOp) → Memory → op.Answer × Memory
  | .read slot, m => (m.get slot.key, m)
  | .write slot text, m => m.set slot.key text
  | .wipe, m => m.clear

end Memory

end AdminConsole.Simulation
