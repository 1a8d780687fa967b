import AdminConsole.OsError
import AdminConsole.Program

/-!
# Storage

The console keeps a few texts between commands, each in a slot of its own. A storage can fail at any
time, so every operation answers a result. -/

namespace AdminConsole

inductive Slot where
  | session
  | connections
  | redirectionUrl
  | notAuthorizedUrl
  deriving DecidableEq

/-- The name under which a slot is kept. -/
def Slot.key : Slot → String
  | session => "session"
  | connections => "connections"
  | redirectionUrl => "redirection_url"
  | notAuthorizedUrl => "not_authorized_url"

theorem Slot.key_injective {a b : Slot} (h : a.key = b.key) : a = b := by
  cases a <;> cases b <;> first | rfl | exact absurd h (by decide)

inductive StorageError where
  | io (cause : OsError)
  | corrupt (detail : String)
  deriving DecidableEq

def StorageError.message : StorageError → String
  | io cause => "I/O error: " ++ cause.message
  | corrupt detail => "storage is corrupt: " ++ detail

inductive StorageOp where
  | read (slot : Slot)
  | write (slot : Slot) (text : String)
  | wipe
  deriving DecidableEq

abbrev StorageOp.Answer : StorageOp → Type
  | read _ => Except StorageError (Option String)
  | write _ _ => Except StorageError Unit
  | wipe => Except StorageError Unit

/-- Programs that do nothing but use the storage. -/
abbrev Storage := Program StorageOp.Answer

namespace Storage

def read (slot : Slot) : Storage (Except StorageError (Option String)) := .step (.read slot) .done

def write (slot : Slot) (text : String) : Storage (Except StorageError Unit) :=
  .step (.write slot text) .done

/-- Empties every slot. -/
def wipe : Storage (Except StorageError Unit) := .step .wipe .done

end Storage

end AdminConsole
