import AdminConsole.Proofs.Conduct.Operations
import AdminConsole.Proofs.Session
import AdminConsole.Proofs.Storage

/-!
# What becomes of the stored session

A sign-in stores a new session, and the backend's answers change the one that is there. Every write
of the session in a history is one of these (`change?`), and the stored session is what they make of
the one at the start (`session?_replay`), whatever the order of the entries and wherever the storage
fails. -/

namespace AdminConsole

open History

inductive Change where
  /-- A new session, from the claims of an identity exchange. -/
  | signIn (c : Claims)
  | acceptTerms
  | privileges (tags : TextSet)
  | token (text : String)
  | logout
  deriving DecidableEq

def Change.apply : Change → Option Session → Option Session
  | signIn c, _ => some (.ofClaims c)
  | acceptTerms, s => s.map fun s => { s with acceptedTos := true }
  | privileges tags, s => s.map fun s => { s with privileges := tags }
  | token text, s => s.map fun s => { s with token := some text }
  | logout, _ => none

/-- What the session is written for, by what came before: the answer to an exchange, or a read of
the session right after another answer. -/
def writtenFor : History → Option Change
  | ⟨_, .ask (.exchange _), .ok c⟩ :: _ => some (.signIn c)
  | _ :: ⟨_, .ask .acceptTerms, .ok _⟩ :: _ => some .acceptTerms
  | _ :: ⟨_, .ask .currentUser, .ok user⟩ :: _ => some (.privileges user.privileges)
  | _ :: ⟨_, .ask .refreshToken, .ok token⟩ :: _ => some (.token token)
  | _ => none

/-- What an entry changes, after what came before it. -/
def change? : Entry → History → Option Change
  | ⟨_, .storage (.write .session _), .ok _⟩, h => writtenFor h
  | ⟨_, .storage .wipe, .ok _⟩, _ => some .logout
  | _, _ => none

/-- What the new entries of a history change, the latest change first. -/
def changes : History → History → List Change
  | [], _ => []
  | e :: new, old => (change? e (new ++ old)).toList ++ changes new old

theorem changes_append (a b c : History) : changes (a ++ b) c = changes a (b ++ c) ++ changes b c := by
  induction a with
  | nil => rfl
  | cons e a ih =>
    rw [List.cons_append, changes, changes, ih, List.append_assoc, List.append_assoc]

def World.session? (w : World) : Option Session :=
  (w.entries.get? Slot.session.key).bind Session.decode?

/-- The user whose session is stored, if the session counts. -/
def World.validUser? (w : World) : Option String :=
  w.session?.bind fun s => if s.isAuthenticated then s.username? else none

section stored

variable {n : Navigator} {o : Operation} {w : World} {f : Nat → Option Operation}

/-- An amendment is the change that its answer stands for. -/
theorem apply_of_amend {call : Call} {x : call.Answer} {s s' : Session}
    (amended : call.amend x s = some s') (i : Nat) (a : Except StorageError (Option String))
    (old : History) :
    ∃ change, writtenFor (⟨i, .storage (.read .session), a⟩ :: ⟨i, .ask call, .ok x⟩ :: old) =
      some change ∧ change.apply (some s) = some s' := by
  cases call with
  | exchange | connections | latestTerms => exact nomatch amended
  | acceptTerms =>
    refine ⟨.acceptTerms, rfl, ?_⟩
    rw [Call.amend, Option.ite_none_left_eq_some] at amended
    exact amended.2
  | currentUser =>
    refine ⟨.privileges x.privileges, rfl, ?_⟩
    rw [Call.amend, Option.ite_none_left_eq_some] at amended
    exact amended.2
  | refreshToken => exact ⟨.token x, rfl, amended⟩

theorem session?_replay_of_unwritten {new old : History} (unwritten : ∀ e ∈ new, ¬ e.Wrote .session)
    (unwiped : ∀ e ∈ new, ¬ e.Wiped) : (w.replay (new ++ old)).session? = (w.replay old).session? := by
  rw [World.session?, World.session?, get?_replay unwritten unwiped]

/-- A read that does not fail answers the stored session. -/
theorem sessionIn_ok {i : Nat} {text : Option String}
    (allowed : w.Allows ⟨i, .storage (.read .session), .ok text⟩) :
    sessionIn (.ok text) = w.session? := by
  have there : text = w.entries.get? Slot.session.key := allowed
  rw [World.session?, ← there]
  cases text <;> rfl

theorem sessionIn_of_allows {i : Nat} {a : Except StorageError (Option String)} {s : Session}
    (allowed : w.Allows ⟨i, .storage (.read .session), a⟩) (read : sessionIn a = some s) :
    w.session? = some s := by
  cases a with
  | error e => exact nomatch read
  | ok text =>
    rw [← sessionIn_ok allowed]
    exact read

/-- A text that is written as the session is the session changed. -/
theorem decode?_of_sessionText {i : Nat} {text : String} {h : History} (written : SessionText i text h)
    (hc : w.Consistent h) :
    ∃ change, writtenFor h = some change ∧
      Session.decode? text = change.apply (w.replay h).session? := by
  cases written with
  | @signIn grant c old valid made =>
    refine ⟨.signIn c, rfl, ?_⟩
    rw [made, Session.decode?_encode]
    rfl
  | @amendment call x stored s s' old read amended made =>
    obtain ⟨change, known, applied⟩ := apply_of_amend amended i (.ok (some stored)) old
    refine ⟨change, known, ?_⟩
    have there : some stored = (w.replay old).entries.get? Slot.session.key := hc.1
    have before : (w.replay (⟨i, .storage (.read .session), .ok (some stored)⟩ ::
        ⟨i, .ask call, .ok x⟩ :: old)).session? = some s := by
      rw [← read]
      exact congrArg (Option.bind · Session.decode?) there.symm
    rw [made, Session.decode?_encode, before, applied]

/-- A session is written for a sign-in, or there is one already. -/
theorem signIn_or_stored {i : Nat} {text : String} {h : History} (written : SessionText i text h)
    (hc : w.Consistent h) :
    (∃ c, writtenFor h = some (.signIn c)) ∨ (w.replay h).session?.isSome := by
  obtain ⟨change, known, applied⟩ := decode?_of_sessionText written hc
  have readable : (Session.decode? text).isSome := by
    cases written with
    | signIn valid made => rw [made, Session.decode?_encode, Option.isSome_some]
    | amendment read amended made => rw [made, Session.decode?_encode, Option.isSome_some]
  rw [applied] at readable
  cases change with
  | signIn c => exact .inl ⟨c, known⟩
  | acceptTerms | privileges | token => exact .inr (by simpa [Change.apply] using readable)
  | logout => simp [Change.apply] at readable

/-- **Every entry leaves the stored session as it is, or changes it as it says.** -/
theorem session?_step {e : Entry} {h : History} (guard : (conduct n).guard o e h)
    (hc : w.Consistent h) :
    (w.replay (e :: h)).session? =
      (change? e h).elim (w.replay h).session? fun c => c.apply (w.replay h).session? := by
  obtain ⟨i, op, a⟩ := e
  cases op with
  | storage op =>
    cases op with
    | read slot => cases a <;> rfl
    | write slot text =>
      cases slot with
      | session =>
        cases a with
        | error e => rfl
        | ok u =>
          obtain ⟨change, known, applied⟩ := decode?_of_sessionText guard.2 hc
          have stored : (w.replay (⟨i, .storage (.write .session text), .ok u⟩ :: h)).session? =
              Session.decode? text := by
            simp only [World.replay, World.after, World.session?, TextMap.get?_insert, if_true,
              Option.bind_some]
          rw [stored, applied, change?, known, Option.elim_some]
      | connections | redirectionUrl | notAuthorizedUrl =>
        refine congrArg (Option.bind · Session.decode?) (get?_after .session ?_ ?_)
        · rintro ⟨j, text', eq⟩
          simp at eq
        · rintro ⟨j, eq⟩
          simp at eq
    | wipe => cases a <;> rfl
  | mount ticket view location =>
    simp only [World.replay, World.after]
    rfl
  | ask | notify | dispatch | ticket | location | leave => rfl

/-- **The stored session is what the changes of a history make of it.** -/
theorem session?_replay {new old : History} (hg : (conduct n).Guarded f (new ++ old))
    (hc : w.Consistent (new ++ old)) :
    (w.replay (new ++ old)).session? =
      (changes new old).foldr Change.apply (w.replay old).session? := by
  induction new with
  | nil => rfl
  | cons e new ih =>
    obtain ⟨⟨o, _, guard⟩, hg⟩ := hg
    refine (session?_step guard hc.2).trans ?_
    change (change? e (new ++ old)).elim (w.replay (new ++ old)).session?
      (fun c => c.apply (w.replay (new ++ old)).session?) = _
    rw [ih hg hc.2, changes]
    cases change? e (new ++ old) <;> rfl

end stored

/-! ### What stands behind a change -/

section behind

variable {n : Navigator} {f : Nat → Option Operation} {change : Change} {new old h : History}
  {e : Entry}

/-- The entry of a change, and the answer before it that it is made for. -/
inductive Makes : Change → Entry → History → Prop
  | signIn {i j : Nat} {text : String} {grant : Grant} {c : Claims} {old : History} :
    Makes (.signIn c) ⟨i, .storage (.write .session text), .ok ()⟩
      (⟨j, .ask (.exchange grant), .ok c⟩ :: old)
  | acceptTerms {i j : Nat} {text : String} {x : Entry} {old : History} :
    Makes .acceptTerms ⟨i, .storage (.write .session text), .ok ()⟩
      (x :: ⟨j, .ask .acceptTerms, .ok ()⟩ :: old)
  | privileges {i j : Nat} {text : String} {x : Entry} {user : CurrentUser} {old : History} :
    Makes (.privileges user.privileges) ⟨i, .storage (.write .session text), .ok ()⟩
      (x :: ⟨j, .ask .currentUser, .ok user⟩ :: old)
  | token {i j : Nat} {text token : String} {x : Entry} {old : History} :
    Makes (.token token) ⟨i, .storage (.write .session text), .ok ()⟩
      (x :: ⟨j, .ask .refreshToken, .ok token⟩ :: old)
  | logout {i : Nat} {old : History} : Makes .logout ⟨i, .storage .wipe, .ok ()⟩ old

theorem makes_of_change (made : change? e h = some change) : Makes change e h := by
  unfold change? at made
  split at made
  · unfold writtenFor at made
    split at made
    · obtain rfl := Option.some.inj made
      exact .signIn
    · obtain rfl := Option.some.inj made
      exact .acceptTerms
    · obtain rfl := Option.some.inj made
      exact .privileges
    · obtain rfl := Option.some.inj made
      exact .token
    · exact nomatch made
  · obtain rfl := Option.some.inj made
    exact .logout
  · exact nomatch made

theorem change_of_mem (hm : change ∈ changes new old) :
    ∃ (a b : History) (e : Entry), new = a ++ e :: b ∧ change? e (b ++ old) = some change := by
  induction new with
  | nil => simp [changes] at hm
  | cons e new ih =>
    rcases List.mem_append.mp hm with here | before
    · exact ⟨[], new, e, rfl, Option.mem_toList.mp here⟩
    · obtain ⟨a, b, e', rfl, made⟩ := ih before
      exact ⟨e :: a, b, e', rfl, made⟩

/-- Only claims that can start a session sign anyone in. -/
theorem validate_of_signIn {c : Claims} (hg : (conduct n).Guarded f (new ++ old))
    (signs : .signIn c ∈ changes new old) : c.validate = .ok () := by
  obtain ⟨a, b, e, rfl, made⟩ := change_of_mem signs
  rw [List.append_assoc, List.cons_append] at hg
  obtain ⟨o, _, guard⟩ := hg.guard
  generalize b ++ old = before at guard made
  cases makes_of_change made with
  | signIn =>
    obtain ⟨_, written⟩ := guard
    cases (written : SessionText ..) with
    | signIn valid => exact valid

end behind

end AdminConsole
