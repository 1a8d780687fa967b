import AdminConsole.Backend.Basic
import AdminConsole.RenderContext
import AdminConsole.Storage.Basic
import AdminConsole.View

/-!
# What the console does

The operations of the console: it uses the storage, asks the backend, tells the user and shows
views. Several operations of the user can be under way at once. Each takes a ticket first, and a
view is mounted only while its ticket is the newest, so an answer that comes late changes nothing
that is shown. -/

namespace AdminConsole

/-- A short message beside the view. -/
inductive Notice where
  | success (text : String)
  | failure (text : String)
  deriving DecidableEq

inductive AppOp where
  | storage (op : StorageOp)
  | ask (call : Call)
  | notify (notice : Notice)
  /-- Calls the handler of a route. -/
  | dispatch (ctx : RenderContext)
  | ticket
  /-- Answers whether the view was mounted. -/
  | mount (ticket : Nat) (view : View) (location : Location)
  | location
  /-- Forgets where the console is. -/
  | leave

abbrev AppOp.Answer : AppOp → Type
  | storage op => op.Answer
  | ask call => call.Result
  | notify _ => Unit
  | dispatch _ => Unit
  | ticket => Nat
  | mount _ _ _ => Bool
  | location => Option Location
  | leave => Unit

abbrev App := Program AppOp.Answer

namespace App

/-- A program that only uses the storage, as a program of the console. -/
def ofStorage {α : Type} (p : Storage α) : App α :=
  p.runIn fun op => .step (.storage op) .done

instance : MonadLift Storage App := ⟨ofStorage⟩

def ask (call : Call) : App call.Result := .step (.ask call) .done

def notify (notice : Notice) : App Unit := .step (.notify notice) .done

def dispatch (ctx : RenderContext) : App Unit := .step (.dispatch ctx) .done

def ticket : App Nat := .step .ticket .done

def mount (ticket : Nat) (view : View) (location : Location) : App Bool :=
  .step (.mount ticket view location) .done

def location : App (Option Location) := .step .location .done

def leave : App Unit := .step .leave .done

end App

/-! ### The tab -/

/-- The newest ticket, and where the console is. -/
structure Tab where
  /-- Counted without a bound: a counter of 64 bits would come round after `2 ^ 64` tickets. -/
  newest : Nat := 0
  location : Option Location := none
  deriving DecidableEq, Inhabited

namespace Tab

def issue (t : Tab) : Nat × Tab := (t.newest + 1, { t with newest := t.newest + 1 })

def accepts (t : Tab) (ticket : Nat) : Bool := t.newest == ticket

/-- Moves to a location, if the ticket is the newest. -/
def moveTo (t : Tab) (ticket : Nat) (location : Location) : Bool × Tab :=
  if t.accepts ticket then (true, { t with location := some location }) else (false, t)

def leave (t : Tab) : Tab := { t with location := none }

end Tab

end AdminConsole
