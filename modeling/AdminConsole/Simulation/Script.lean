import AdminConsole.Backend.Basic

/-!
# A backend that follows a script

For each call the script says what is answered, and whether the caller has to wait for the
answer. -/

namespace AdminConsole.Simulation

structure Reply (α : Type) where
  result : Except BackendError α
  /-- The answer is held back until it is released. -/
  held : Bool := false

structure Script where
  exchange : Reply Claims := ⟨.error (.network "offline"), false⟩
  connections : Reply (List Connection) := ⟨.ok [], false⟩
  latestTerms : Reply String := ⟨.ok "terms", false⟩
  acceptTerms : Reply Unit := ⟨.ok (), false⟩
  currentUser : Reply CurrentUser := ⟨.error (.network "offline"), false⟩
  refreshToken : Reply String := ⟨.error (.network "offline"), false⟩

instance : Inhabited Script := ⟨{}⟩

def Script.reply (s : Script) : (c : Call) → Reply c.Answer
  | .exchange _ => s.exchange
  | .connections => s.connections
  | .latestTerms => s.latestTerms
  | .acceptTerms => s.acceptTerms
  | .currentUser => s.currentUser
  | .refreshToken => s.refreshToken

end AdminConsole.Simulation
