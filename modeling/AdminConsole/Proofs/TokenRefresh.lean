import AdminConsole.Navigation.TokenRefresh
import AdminConsole.Proofs.Amendment

/-!
# What a refresh of the token leaves

A refresh that fails leaves the storage as it was. One that succeeds has put the new token into the
session and has changed nothing else there; but a token that is blank is no token, and a session
with such a token does not count. So the session is as usable as it was before if and only if the
token that the backend has made is not blank (`usable_iff`). -/

namespace AdminConsole.TokenRefresh

open Program

variable {c : Surroundings} {s : Scene}

/-- All that a refresh can come to. -/
inductive Ends (c : Surroundings) (s : Scene) : Except RefreshError String × Scene → Prop
  | signedOut (without : c.outage.token? s.entries = none) :
    Ends c s (.error (.session .noSession), s)
  | refused (e : BackendError) (answer : c.backend .refreshToken = .error e) :
    Ends c s (.error (.backend e), { s with calls := s.calls ++ [.refreshToken] })
  | unwritten (e : StorageError) (fails : c.outage.writes .session = some e) :
    Ends c s (.error (.session (.storage e)), { s with calls := s.calls ++ [.refreshToken] })
  | refreshed (x : Session) (token : String) (found : c.outage.session? s.entries = some x)
    (signedIn : x.token?.isSome) (answer : c.backend .refreshToken = .ok token)
    (writable : c.outage.writes .session = none) :
    Ends c s (.ok token,
      { s with
        calls := s.calls ++ [.refreshToken]
        entries := s.entries.insert Slot.session.key { x with token := some token }.encode })

theorem ends_run (c : Surroundings) (s : Scene) : Ends c s (c.run refresh s) := by
  rw [refresh, Surroundings.run_bind, Surroundings.run_lift, Outage.run_token?]
  cases signedIn : c.outage.token? s.entries with
  | none => exact .signedOut signedIn
  | some old =>
    have there := (c.outage.token?_eq _).symm.trans signedIn
    obtain ⟨x, found, given⟩ := Option.bind_eq_some_iff.mp there
    simp only [Option.isNone_some, Bool.false_eq_true, if_false, Surroundings.run_bind,
      c.run_ask _ .refreshToken]
    cases answer : c.backend .refreshToken with
    | error e => exact .refused e answer
    | ok token =>
      have busy : ¬ (Amendment.token token).Idle x := not_false
      simp only [Surroundings.run_bind, Surroundings.run_lift, Amendment.setToken_eq]
      cases fails : c.outage.writes .session with
      | some e =>
        rw [Amendment.run_of_failed found busy fails]
        exact .unwritten e fails
      | none =>
        rw [Amendment.run_of_written found busy fails]
        exact .refreshed x token found (Option.isSome_of_eq_some given) answer fails

/-! ### The session with the new token -/

section renewed

variable (x : Session) {token : String}

theorem token?_renewed_eq_some_iff :
    { x with token := some token : Session }.token? = some token ↔
      Text.isAllBlank token = false := by
  simp [Session.token?, Text.given?, Option.filter_some]

theorem token?_renewed_of_blank (blank : Text.isAllBlank token = true) :
    { x with token := some token : Session }.token? = none := by
  simp [Session.token?, Text.given?, Option.filter_some, blank]

/-- With another token that is one, a session that has a token counts as before. -/
theorem isAuthenticated_renewed (signedIn : x.token?.isSome)
    (given : Text.isAllBlank token = false) :
    { x with token := some token : Session }.isAuthenticated = x.isAuthenticated := by
  rw [Session.isAuthenticated, (token?_renewed_eq_some_iff x).mpr given, Session.isAuthenticated,
    signedIn]
  rfl

end renewed

/-- **A refresh that succeeds leaves the session as usable as it was if and only if the new token is
not blank.** It succeeds where there is a token, the backend makes another and the session can be
written; nothing but the token changes then, and nothing at all where it fails. -/
theorem usable_iff (c : Surroundings) (s : Scene) :
    let r := c.run refresh s
    (∀ token, r.1 = .ok token ↔ (c.outage.token? s.entries).isSome ∧
      c.backend .refreshToken = .ok token ∧ c.outage.writes .session = none) ∧
    (∀ token, r.1 = .ok token →
      (∃ x, c.outage.session? s.entries = some x ∧
        c.outage.session? r.2.entries = some { x with token := some token }) ∧
      (∀ key, key ≠ Slot.session.key → r.2.entries.get? key = s.entries.get? key) ∧
      (c.outage.token? r.2.entries = some token ∧
          c.outage.validUser? r.2.entries = c.outage.validUser? s.entries ↔
        Text.isAllBlank token = false) ∧
      (Text.isAllBlank token = true →
        c.outage.token? r.2.entries = none ∧ c.outage.validUser? r.2.entries = none)) ∧
    ∀ e, r.1 = .error e → r.2.entries = s.entries := by
  have ends := ends_run c s
  generalize c.run refresh s = r at ends
  dsimp only
  cases ends with
  | signedOut without =>
    refine ⟨fun token => ⟨nofun, fun ⟨signedIn, _⟩ => ?_⟩, nofun, fun e _ => rfl⟩
    simp [without] at signedIn
  | refused e answer =>
    refine ⟨fun token => ⟨nofun, fun ⟨_, made, _⟩ => ?_⟩, nofun, fun e _ => rfl⟩
    simp [answer] at made
  | unwritten e fails =>
    refine ⟨fun token => ⟨nofun, fun ⟨_, _, writable⟩ => ?_⟩, nofun, fun e _ => rfl⟩
    simp [fails] at writable
  | refreshed x token found signedIn answer writable =>
    obtain ⟨readable, -⟩ := (c.outage.session?_eq_some_iff _).mp found
    have renewed : c.outage.session? (s.entries.insert Slot.session.key
        { x with token := some token }.encode) = some { x with token := some token } :=
      (c.outage.session?_eq_some_iff _).mpr ⟨readable, storedSession?_insert _ _⟩
    simp only [Outage.token?_eq, Outage.validUser?_eq, found, renewed, Option.bind_some]
    refine ⟨fun token' => ⟨?_, ?_⟩, ?_, nofun⟩
    · rintro ⟨⟩
      exact ⟨signedIn, answer, writable⟩
    · rintro ⟨-, made, -⟩
      exact congrArg Except.ok (Except.ok.inj (answer.symm.trans made))
    · rintro _ ⟨⟩
      refine ⟨⟨x, rfl, rfl⟩, fun key other => ?_, ⟨fun ⟨given, _⟩ => ?_, fun given => ⟨?_, ?_⟩⟩,
        fun blank => ⟨?_, ?_⟩⟩
      · rw [TextMap.get?_insert, if_neg other]
      · exact (token?_renewed_eq_some_iff x).mp given
      · exact (token?_renewed_eq_some_iff x).mpr given
      · rw [isAuthenticated_renewed x signedIn given]
        rfl
      · exact token?_renewed_of_blank x blank
      · rw [Session.isAuthenticated, token?_renewed_of_blank x blank, Option.isSome_none,
          Bool.and_false]
        rfl

/-- The backend makes an empty token. -/
def blankToken : Surroundings where
  backend
    | .refreshToken => .ok ""
    | call => Run.backendOf Run.firstUser call

theorem usable_iff_blankToken :
    (blankToken.run refresh .signedIn).1 = .ok "" ∧
    blankToken.outage.validUser? Scene.signedIn.entries = some "first@x.org" ∧
    blankToken.outage.token? (blankToken.run refresh .signedIn).2.entries = none ∧
    blankToken.outage.validUser? (blankToken.run refresh .signedIn).2.entries = none := by
  obtain ⟨ok, usable, -⟩ := usable_iff blankToken Scene.signedIn
  obtain ⟨signedIn, user⟩ : (blankToken.outage.token? Scene.signedIn.entries).isSome ∧
      blankToken.outage.validUser? Scene.signedIn.entries = some "first@x.org" := by
    decide +kernel
  have refreshed := (ok "").mpr ⟨signedIn, rfl, rfl⟩
  exact ⟨refreshed, user, (usable "" refreshed).2.2.2 (by decide)⟩

end AdminConsole.TokenRefresh
