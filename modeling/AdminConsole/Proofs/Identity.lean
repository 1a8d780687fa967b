import AdminConsole.Proofs.Enactment
import AdminConsole.Proofs.StoredSession

/-!
# Whose session is stored

The stored session is for the user of the last login, unless there has been a logout since; before
the first of either it is for the user it was for at the start (`Run.identity_of_session`). What the
backend's answers amend is the token, the privileges and the terms, never the user, whatever the
order of the entries and wherever the storage fails. -/

namespace AdminConsole

open History

/-- Who a session is for. -/
structure Identity where
  userId : Option String
  username : Option String
  email : Option String
  permissions : TextSet
  deriving DecidableEq

def Session.identity (s : Session) : Identity := ⟨s.userId, s.username, s.email, s.permissions⟩

/-- What gives the storage to another user. -/
inductive Handover where
  /-- Claims have been answered, and a session for them written. -/
  | login (c : Claims)
  /-- The storage has been emptied. -/
  | logout
  deriving DecidableEq

/-- Who the storage is given to. -/
def Handover.identity? : Handover → Option Identity
  | login c => some (Session.ofClaims c).identity
  | logout => none

/-- The claims that have just been answered. -/
def answeredClaims? : History → Option Claims
  | ⟨_, .ask (.exchange _), .ok c⟩ :: _ => some c
  | _ => none

/-- The last login whose session was written, or the last logout that emptied the storage, whichever
came later. -/
def lastHandover : History → Option Handover
  | ⟨_, .storage (.write .session _), .ok _⟩ :: h =>
    (answeredClaims? h).elim (lastHandover h) fun c => some (.login c)
  | ⟨_, .storage .wipe, .ok _⟩ :: _ => some .logout
  | _ :: h => lastHandover h
  | [] => none

/-! ### Changes of the session -/

/-- The handover that a change of the session is; an amendment is none. -/
def Change.handover? : Change → Option Handover
  | signIn c => some (.login c)
  | logout => some .logout
  | acceptTerms | privileges _ | token _ => none

/-- **A change is a handover, or leaves the user as they are.** -/
theorem Change.identity_apply (change : Change) (s : Option Session) :
    (change.apply s).map Session.identity =
      change.handover?.elim (s.map Session.identity) Handover.identity? := by
  cases change with
  | signIn c | logout => rfl
  | acceptTerms | privileges tags | token text => cases s <;> rfl

theorem answeredClaims?_cons {e : Entry} {h : History}
    (other : ∀ j grant c, e = ⟨j, .ask (.exchange grant), .ok c⟩ → False) :
    answeredClaims? (e :: h) = none := by
  unfold answeredClaims?
  split
  · next eq => exact (other _ _ _ (List.cons.inj eq).1).elim
  · rfl

/-- Only an answer to an exchange makes a write a login. -/
theorem handover?_writtenFor (h : History) :
    (writtenFor h).bind Change.handover? = (answeredClaims? h).map .login := by
  unfold writtenFor
  split
  · rfl
  · next other => rw [answeredClaims?_cons other]; rfl
  · next other => rw [answeredClaims?_cons other]; rfl
  · next other => rw [answeredClaims?_cons other]; rfl
  · next notExchange _ _ _ =>
    unfold answeredClaims?
    split
    · exact (notExchange _ _ _ _ rfl).elim
    · rfl

theorem lastHandover_cons (e : Entry) (h : History) :
    lastHandover (e :: h) =
      ((change? e h).bind Change.handover?).elim (lastHandover h) some := by
  obtain ⟨i, op, a⟩ := e
  cases op with
  | storage op =>
    cases op with
    | read slot => cases a <;> rfl
    | wipe => cases a <;> rfl
    | write slot text =>
      cases a with
      | error e => cases slot <;> rfl
      | ok u =>
        cases slot with
        | connections | redirectionUrl | notAuthorizedUrl => rfl
        | session =>
          rw [change?, handover?_writtenFor, lastHandover]
          cases answeredClaims? h <;> rfl
  | ask | notify | dispatch | ticket | mount | location | leave => rfl

theorem identity_replay {n : Navigator} {w : World} {f : Nat → Option Operation} {h : History}
    (hg : (conduct n).Guarded f h) (hc : w.Consistent h) :
    (w.replay h).session?.map Session.identity =
      (lastHandover h).elim (w.session?.map Session.identity) Handover.identity? := by
  induction h with
  | nil => rfl
  | cons e h ih =>
    obtain ⟨⟨o, _, guard⟩, hg⟩ := hg
    have before := ih hg hc.2
    rw [session?_step guard hc.2, lastHandover_cons]
    cases change? e h with
    | none => exact before
    | some change =>
      rw [Option.elim_some, change.identity_apply, Option.bind_some, before]
      cases change.handover? <;> rfl

namespace Run

variable {n : Navigator} {r : Run}

/-- **The stored session is for the user of the last login since the last logout**, or for the user
that it was for at the start where there has been neither, and after a logout there is none before
the next login. So it is at every point of every run, wherever the storage fails. -/
theorem identity_of_session {m : SiteMap} (hr : n.registry.Built m) {entries : TextMap String}
    (h : Reachable n (.start entries) r) {new old : History} (now : r.history = new ++ old) :
    ((World.start entries).replay old).session?.map Session.identity =
      match lastHandover old with
      | some handover => handover.identity?
      | none => (World.start entries).session?.map Session.identity := by
  have guarded := (h.keeps (conduct_sound hr)).guarded
  have consistent := h.consistent
  rw [now] at guarded consistent
  rw [identity_replay guarded.of_append consistent.of_append]
  cases lastHandover old <;> rfl

/-! ### A profile that is loaded for another user -/

/-- A backend that signs the second user in, and knows of privileges. -/
def privileging : (call : Call) → call.Result
  | .currentUser => .ok ⟨none, none, .ofList ["AUDIT"], .empty, false, none⟩
  | call => backendOf secondUser call

/-- The first user's profile is under way when the second user logs in, and comes after that. -/
def profiledLate : Run :=
  ((((Run.empty.begin .usual firstUserWorld (.navigateTo .userProfile)).answer firstUserWorld 0
    privileging).begin .usual firstUserWorld (.navigate "/psamaui/login?code=c")).answer
      firstUserWorld 1 privileging).answer firstUserWorld 0 privileging

theorem reachable_profiledLate : Reachable .usual firstUserWorld profiledLate :=
  (((Reachable.empty.begin _).answer 0 _).begin _).answer 1 _ |>.answer 0 _

theorem identity_of_session_profiledLate :
    (firstUserWorld.replay profiledLate.history).session? =
        some { Session.ofClaims secondUser with privileges := .ofList ["AUDIT"] } ∧
      (firstUserWorld.replay profiledLate.history).session?.map Session.identity =
        some (Session.ofClaims secondUser).identity := by
  obtain ⟨amended, last⟩ : (firstUserWorld.replay profiledLate.history).session? =
        some { Session.ofClaims secondUser with privileges := .ofList ["AUDIT"] } ∧
      lastHandover profiledLate.history = some (.login secondUser) := by decide +kernel
  have identity := identity_of_session Navigator.built_usual reachable_profiledLate
    (List.nil_append profiledLate.history).symm
  rw [last] at identity
  exact ⟨amended, identity⟩

end Run

end AdminConsole
