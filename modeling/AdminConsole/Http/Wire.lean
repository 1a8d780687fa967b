import AdminConsole.Http.Message
import AdminConsole.Rejection
import AdminConsole.Storage.Basic

/-!
# The wire

What a client of the backend does: it reads the storage, sends requests, and reports it when a
request is rejected. -/

namespace AdminConsole.Http

/-- Why a request has no response. -/
inductive SendError where
  | refused
  | dropped
  /-- No response came in the time that there is for a request. -/
  | timedOut
  deriving DecidableEq

/-- The body of a response, as far as it arrived. -/
inductive Body where
  | whole (text : String)
  | brokenOff
  | timedOut
  deriving DecidableEq

/-- What comes back for a request: the status first, and the body after it. -/
structure Arrival where
  status : Nat
  body : Body
  deriving DecidableEq

inductive WireOp where
  | storage (op : StorageOp)
  | send (request : Request)
  | report (rejection : Rejection)

abbrev WireOp.Answer : WireOp → Type
  | storage op => op.Answer
  | send _ => Except SendError Arrival
  | report _ => Unit

abbrev Wire := Program WireOp.Answer

namespace Wire

def ofStorage {α : Type} (p : Storage α) : Wire α := p.runIn fun op => .step (.storage op) .done

instance : MonadLift Storage Wire := ⟨ofStorage⟩

def send (request : Request) : Wire (Except SendError Arrival) := .step (.send request) .done

def report (rejection : Rejection) : Wire Unit := .step (.report rejection) .done

end Wire

end AdminConsole.Http
