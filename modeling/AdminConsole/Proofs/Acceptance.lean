import AdminConsole.Navigation.Terms
import AdminConsole.Proofs.Amendment

/-!
# What accepting the terms leaves

The user is told that the terms are accepted if and only if the backend has taken note and the
stored session says so from then on. Whatever else comes of it, the backend is asked once, the user
is told once, and nothing is changed unless it is recorded (`reports_iff_recorded`). -/

namespace AdminConsole.Terms

open Program

/-- The backend takes note, and so does the session, which is there and can be written or says so
already. -/
structure Recordable (c : Surroundings) (m : TextMap String) (x : Session) : Prop where
  noted : c.backend .acceptTerms = .ok ()
  readable : c.outage.reads .session = none
  stored : storedSession? m = some x
  kept : x.acceptedTos = true ∨ c.outage.writes .session = none

variable {c : Surroundings} {s : Scene} {x : Session}

theorem recordable_iff {m : TextMap String} : (∃ x, Recordable c m x) ↔
    c.backend .acceptTerms = .ok () ∧
      (c.outage.run Amendment.acceptTerms.program m).1 = .ok () := by
  rw [Amendment.ok_iff]
  constructor
  · rintro ⟨x, h⟩
    exact ⟨h.noted, x, (c.outage.session?_eq_some_iff m).mpr ⟨h.readable, h.stored⟩, h.kept⟩
  · rintro ⟨noted, x, found, kept⟩
    obtain ⟨readable, stored⟩ := (c.outage.session?_eq_some_iff m).mp found
    exact ⟨x, noted, readable, stored, kept⟩

/-! ### The record -/

/-- The session takes note as an amendment does, and not at all unless the backend has. -/
theorem run_record_of_recordable (h : ∃ x, Recordable c s.entries x) :
    c.run record s = (true, { s with
      calls := s.calls ++ [.acceptTerms]
      entries := (c.outage.run Amendment.acceptTerms.program s.entries).2 }) := by
  obtain ⟨noted, ok⟩ := recordable_iff.mp h
  simp only [record, Surroundings.run_bind, c.run_ask _ .acceptTerms, noted,
    Amendment.setAcceptedTos_eq, Surroundings.run_lift, ok, Surroundings.run_pure]

theorem run_record_of_not_recordable (h : ¬ ∃ x, Recordable c s.entries x) :
    c.run record s = (false, { s with calls := s.calls ++ [.acceptTerms] }) := by
  simp only [record, Surroundings.run_bind, c.run_ask _ .acceptTerms,
    Amendment.setAcceptedTos_eq]
  cases noted : c.backend .acceptTerms with
  | error e => rfl
  | ok _ =>
    have fails : (c.outage.run Amendment.acceptTerms.program s.entries).1 ≠ .ok () :=
      fun ok => h (recordable_iff.mpr ⟨noted, ok⟩)
    simp only [Surroundings.run_bind, Surroundings.run_lift, Amendment.run_snd_of_not_ok fails]
    cases failed : (c.outage.run Amendment.acceptTerms.program s.entries).1 with
    | ok _ => exact absurd failed fails
    | error e => rfl

/-! ### What the user is told -/

section accept

variable (siteMap : SiteMap)

theorem run_accept_of_recordable (h : ∃ x, Recordable c s.entries x) :
    let entries := (c.outage.run Amendment.acceptTerms.program s.entries).2
    c.run (accept siteMap) s =
      (.hinted (c.outage.note? .redirectionUrl entries)
          (.ofPath (siteMap.pathFor .userManagement)),
        { s with
          calls := s.calls ++ [.acceptTerms]
          notices := s.notices ++ [accepted]
          entries }) := by
  intro entries
  rw [accept, Surroundings.run_bind, run_record_of_recordable h, if_pos rfl, Surroundings.run_bind,
    Surroundings.run_notify]
  exact c.run_hinted .redirectionUrl _ _

theorem run_accept_of_not_recordable (h : ¬ ∃ x, Recordable c s.entries x) :
    c.run (accept siteMap) s = (.navigate (.ofPath (siteMap.pathFor .tos)),
      { s with
        calls := s.calls ++ [.acceptTerms]
        notices := s.notices ++ [notAccepted] }) := by
  simp only [accept, Surroundings.run_bind, run_record_of_not_recordable h, Bool.false_eq_true,
    if_false, Surroundings.run_notify, Surroundings.run_pure]

end accept

/-- What is recorded stays, whether it can be recorded once more or not. -/
theorem entries_run_accept_of_accepted (siteMap : SiteMap)
    (stored : storedSession? s.entries = some { x with acceptedTos := true }) :
    (c.run (accept siteMap) s).2.entries = s.entries := by
  by_cases h : ∃ x, Recordable c s.entries x
  · rw [run_accept_of_recordable siteMap h]
    exact Amendment.run_snd_of_made (x := x) (by decide) stored
  · rw [run_accept_of_not_recordable siteMap h]

/-- **The terms are reported as accepted if and only if the acceptance is recorded**, and only then
is anything changed: the flag of the session, which leads the user on. Recorded once, it changes
nothing to accept the terms again, wherever the storage fails then. -/
theorem reports_iff_recorded (siteMap : SiteMap) (c : Surroundings) (s : Scene) :
    let r := c.run (accept siteMap) s
    (∀ x, Recordable c s.entries x →
      r = (.hinted (c.outage.note? .redirectionUrl r.2.entries)
          (.ofPath (siteMap.pathFor .userManagement)),
        { s with
          calls := s.calls ++ [.acceptTerms]
          notices := s.notices ++ [accepted]
          entries := r.2.entries }) ∧
      c.outage.acceptedTos r.2.entries = true ∧
      storedSession? r.2.entries = some { x with acceptedTos := true } ∧
      (∀ key, key ≠ Slot.session.key → r.2.entries.get? key = s.entries.get? key) ∧
      (x.acceptedTos = true → r.2.entries = s.entries) ∧
      ∀ (c' : Surroundings) (s' : Scene), s'.entries = r.2.entries →
        (c'.run (accept siteMap) s').2.entries = r.2.entries) ∧
    ((∀ x, ¬ Recordable c s.entries x) →
      r = (.navigate (.ofPath (siteMap.pathFor .tos)),
        { s with
          calls := s.calls ++ [.acceptTerms]
          notices := s.notices ++ [notAccepted] })) := by
  intro r
  refine ⟨fun x h => ?_, fun none => ?_⟩
  · have recorded : r = _ := run_accept_of_recordable siteMap ⟨x, h⟩
    have left : r.2.entries = (c.outage.run Amendment.acceptTerms.program s.entries).2 := by
      rw [recorded]
    have found := (c.outage.session?_eq_some_iff _).mpr ⟨h.readable, h.stored⟩
    obtain ⟨-, ok⟩ := recordable_iff.mp ⟨x, h⟩
    obtain ⟨x', there, made⟩ := Amendment.made_of_ok ok
    obtain rfl := Option.some.inj (h.stored.symm.trans there)
    rw [← left] at made
    refine ⟨?_, ?_, made, fun key other => ?_, fun already => ?_, fun c' s' same => ?_⟩
    · rw [left]
      exact recorded
    · rw [Outage.acceptedTos_eq, (c.outage.session?_eq_some_iff _).mpr ⟨h.readable, made⟩]
      rfl
    · rw [left, Amendment.get?_run _ _ _ other]
    · have idle : Amendment.acceptTerms.Idle x := already
      rw [left, Amendment.run_of_idle found idle]
    · rw [← same] at made ⊢
      exact entries_run_accept_of_accepted siteMap made
  · exact run_accept_of_not_recordable siteMap fun ⟨x, h⟩ => none x h

/-- A backend that takes note. -/
def noting (outage : Outage) : Surroundings where
  outage
  backend
    | .acceptTerms => .ok ()
    | call => Run.backendOf Run.secondUser call

/-- Someone who has signed in and is to go on to another site. -/
def hintedScene (session : String) : Scene where
  entries := (TextMap.empty.insert Slot.session.key session).insert Slot.redirectionUrl.key
    "https://a.org"

theorem reports_iff_recorded_readOnly :
    let m : SiteMap := .ofBase SiteMap.defaultBase
    let older := hintedScene Amendment.olderText
    let second := hintedScene (Session.ofClaims Run.secondUser).encode
    ((noting Amendment.readOnly).run (accept m) older).1 = .external "https://a.org" ∧
    ((noting Amendment.readOnly).run (accept m) older).2.entries = older.entries ∧
    ((noting Amendment.readOnly).run (accept m) second).2.notices = [notAccepted] ∧
    ((noting {}).run (accept m) second).2.notices = [accepted] := by
  intro m older second
  let x : Session := { token := some "t1", acceptedTos := true }
  have readable : Recordable (noting Amendment.readOnly) older.entries x :=
    ⟨rfl, rfl, by decide +kernel, .inl rfl⟩
  obtain ⟨told, -, -, -, same, -⟩ := (reports_iff_recorded m _ older).1 x readable
  have same := same rfl
  have stored : storedSession? second.entries = some (.ofClaims Run.secondUser) := by decide +kernel
  have unwritable : ∀ x, ¬ Recordable (noting Amendment.readOnly) second.entries x := by
    rintro x ⟨-, -, there, kept⟩
    obtain rfl := Option.some.inj (there.symm.trans stored)
    exact kept.elim nofun nofun
  have hint : (noting Amendment.readOnly).outage.note? .redirectionUrl older.entries =
      some "https://a.org" := by
    decide +kernel
  refine ⟨?_, same, ?_, ?_⟩
  · rw [told, same, hint]
    rfl
  · rw [(reports_iff_recorded m _ second).2 unwritable]
    rfl
  · rw [((reports_iff_recorded m _ second).1 _ ⟨rfl, rfl, stored, .inr rfl⟩).1]
    rfl

end AdminConsole.Terms
