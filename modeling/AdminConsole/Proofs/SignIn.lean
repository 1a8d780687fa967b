import AdminConsole.Proofs.Alone
import AdminConsole.Proofs.Text.Blank

/-!
# What a login leaves

A login that is completed puts a new session in the place of the old one, and a login that fails
leaves the old one as it was: there is nothing in between (`Login.all_or_nothing`). The hints that
came with the grant are kept before, and in either case lead the user on. -/

namespace AdminConsole

open Program

/-! ### The parameters of a location -/

/-- A parameter that is not blank says this, without the white space around it. -/
def Location.Gives (location : Location) (key text : String) : Prop :=
  ∃ value, location.params.get? key = some value ∧ Text.isAllBlank value = false ∧
    Text.trim value = text

section gives

variable {location : Location} {key text : String}

theorem Location.param?_eq_some_iff :
    location.param? key = some text ↔ location.Gives key text := by
  simp [Location.param?, Location.Gives, Text.given?, Option.filter_eq_some_iff, and_assoc]

theorem Location.param?_eq_none_iff :
    location.param? key = none ↔ ∀ text, ¬ location.Gives key text := by
  simp only [Option.eq_none_iff_forall_ne_some, ne_eq, Location.param?_eq_some_iff]

end gives

namespace Login

/-! ### The hints -/

/-- A text of the location that is kept in a slot. -/
def kept? (o : Outage) (location : Location) (slot : Slot) : Option String :=
  if o.writes slot = none then location.param? slot.key else none

/-- The texts once the hint for a slot is kept, if there is one. -/
def keep (o : Outage) (location : Location) (slot : Slot) (m : TextMap String) : TextMap String :=
  match kept? o location slot with
  | some text => m.insert slot.key text
  | none => m

/-- The slots of the hints. -/
def hints : List Slot := [.redirectionUrl, .notAuthorizedUrl]

/-- The texts with the hints of the location. -/
def keepHints (o : Outage) (location : Location) (m : TextMap String) : TextMap String :=
  keep o location .notAuthorizedUrl (keep o location .redirectionUrl m)

section hints

variable (o : Outage) (location : Location) (m : TextMap String)

theorem run_captureHint (slot : Slot) :
    o.run (captureHint slot location) m = ((), keep o location slot m) := by
  unfold captureHint keep kept?
  cases given : location.param? slot.key with
  | none => simp
  | some text =>
    obtain ⟨value, -, -, rfl⟩ := Location.param?_eq_some_iff.mp given
    simp only [Outage.run_discard, Outage.run_setHint, Text.trim_trim]
    cases o.writes slot <;> rfl

theorem run_captureHints :
    o.run (captureHints location) m = ((), keepHints o location m) := by
  rw [captureHints, Outage.run_bind, run_captureHint, run_captureHint]
  rfl

variable {o location m}

theorem get?_keep (slot : Slot) (key : String) :
    (keep o location slot m).get? key =
      if key = slot.key then (kept? o location slot).or (m.get? key) else m.get? key := by
  unfold keep
  cases kept? o location slot with
  | none => simp
  | some text => simp [TextMap.get?_insert]

/-- Each hint is kept on its own. -/
theorem get?_keepHints {slot : Slot} (hint : slot ∈ hints) :
    (keepHints o location m).get? slot.key = (kept? o location slot).or (m.get? slot.key) := by
  have apart : Slot.redirectionUrl.key ≠ Slot.notAuthorizedUrl.key := by decide
  simp only [hints, List.mem_cons, List.not_mem_nil, or_false] at hint
  rcases hint with rfl | rfl <;> simp [keepHints, get?_keep, apart, apart.symm]

theorem get?_keepHints_of_ne {key : String} (other : ∀ slot ∈ hints, key ≠ slot.key) :
    (keepHints o location m).get? key = m.get? key := by
  rw [keepHints, get?_keep, if_neg (other .notAuthorizedUrl (by simp [hints])), get?_keep,
    if_neg (other .redirectionUrl (by simp [hints]))]

end hints

/-! ### The grant -/

/-- What the location brings back from the provider; a token comes before a code. -/
inductive Brings (l : Login) (location : Location) : Grant → Prop
  | accessToken {token : String} (given : location.Gives "access_token" token) :
    Brings l location (.accessToken token l.redirectUri)
  | code {code : String} (given : location.Gives "code" code)
    (alone : ∀ token, ¬ location.Gives "access_token" token) :
    Brings l location (.code code l.redirectUri)

theorem grant?_eq_some_iff {l : Login} {location : Location} {g : Grant} :
    l.grant? location = some g ↔ l.Brings location g := by
  unfold grant?
  cases token : location.param? "access_token" with
  | some token =>
    have given := Location.param?_eq_some_iff.mp token
    constructor
    · rintro ⟨⟩
      exact .accessToken given
    · rintro (given' | ⟨-, alone⟩)
      · have same := token.symm.trans (Location.param?_eq_some_iff.mpr given')
        rw [Option.some.inj same]
      · exact absurd given (alone _)
  | none =>
    have alone := Location.param?_eq_none_iff.mp token
    simp only [Option.map_eq_some_iff, Location.param?_eq_some_iff]
    constructor
    · rintro ⟨code, given, rfl⟩
      exact .code given alone
    · rintro (given | ⟨given, -⟩)
      · exact absurd given (alone _)
      · exact ⟨_, given, rfl⟩

/-- The exchange answers claims that make a session, and the session can be written. -/
structure Establishes (c : Surroundings) (g : Grant) (x : Claims) : Prop where
  exchanged : c.backend (.exchange g) = .ok x
  token : Text.isAllBlank x.token = false
  email : Text.isAllBlank x.email = false
  writable : c.outage.writes .session = none

/-! ### The run of a login -/

section run

variable {l : Login} {c : Surroundings} {location : Location} {s : Scene} {g : Grant} {x : Claims}

theorem run_initiate : c.run l.initiate s =
    match l.provider.authorizationUrl l.redirectUri with
    | .ok url => (.external url.text, s)
    | .error e =>
      (.display (.login e.message), { s with notices := s.notices ++ [clientIdMissing] }) := by
  unfold initiate
  cases l.provider.authorizationUrl l.redirectUri <;> rfl

/-- The hint is read back from where it has been kept. -/
theorem run_afterLogin (x : Session) : c.run (l.afterLogin x) s =
    (if x.acceptedTos then
      .hinted (c.outage.note? .redirectionUrl s.entries)
        (.ofPath (l.siteMap.pathFor .userManagement))
    else l.goTo .tos, s) := by
  unfold afterLogin
  split
  · exact c.run_hinted .redirectionUrl _ s
  · rfl

theorem run_fail : c.run l.fail s =
    (.hinted (c.outage.note? .notAuthorizedUrl s.entries)
        (.ofPath (l.siteMap.pathFor .notAuthorized)),
      { s with notices := s.notices ++ [failed] }) := by
  rw [fail, Surroundings.run_bind, Surroundings.run_notify]
  exact c.run_hinted .notAuthorizedUrl _ _

theorem run_complete_of_establishes (h : Establishes c g x) :
    c.run (l.complete g) s = c.run (l.afterLogin (.ofClaims x))
      { s with
        calls := s.calls ++ [.exchange g]
        entries := s.entries.insert Slot.session.key (Session.ofClaims x).encode } := by
  have valid := Claims.validate_eq_ok_iff.mpr ⟨h.token, h.email⟩
  simp only [complete, Surroundings.run_bind, c.run_ask _ (.exchange g), h.exchanged,
    Surroundings.run_lift, Outage.run_establish, valid, h.writable]

/-- Whichever of the three is missing, the answer, what is in it or the storage, it comes to the
same. -/
theorem run_complete_of_not_establishes (h : ∀ x, ¬ Establishes c g x) :
    c.run (l.complete g) s = c.run l.fail { s with calls := s.calls ++ [.exchange g] } := by
  simp only [complete, Surroundings.run_bind, c.run_ask _ (.exchange g)]
  cases exchanged : c.backend (.exchange g) with
  | error e => rfl
  | ok x =>
    simp only [Surroundings.run_bind, Surroundings.run_lift, Outage.run_establish]
    cases valid : x.validate with
    | error e => rfl
    | ok _ =>
      cases writable : c.outage.writes .session with
      | some e => rfl
      | none =>
        obtain ⟨token, email⟩ := Claims.validate_eq_ok_iff.mp valid
        exact absurd ⟨exchanged, token, email, writable⟩ (h x)

theorem run_start_of_brings (brings : l.Brings location g) : c.run (l.start location) s =
    c.run (l.complete g) { s with entries := keepHints c.outage location s.entries } := by
  simp only [start, Surroundings.run_bind, Surroundings.run_lift, run_captureHints,
    grant?_eq_some_iff.mpr brings]

theorem run_start_of_grantless (grantless : ∀ g, ¬ l.Brings location g) :
    c.run (l.start location) s =
      c.run l.initiate { s with entries := keepHints c.outage location s.entries } := by
  have none : l.grant? location = none :=
    Option.eq_none_iff_forall_ne_some.mpr fun g brings => grantless g (grant?_eq_some_iff.mp brings)
  simp only [start, Surroundings.run_bind, Surroundings.run_lift, run_captureHints, none]

theorem run_start_of_establishes (brings : l.Brings location g) (h : Establishes c g x) :
    let entries := (keepHints c.outage location s.entries).insert Slot.session.key
      (Session.ofClaims x).encode
    c.run (l.start location) s =
      (if x.acceptedTos then
        .hinted (c.outage.note? .redirectionUrl entries)
          (.ofPath (l.siteMap.pathFor .userManagement))
      else l.goTo .tos,
      { s with calls := s.calls ++ [.exchange g], entries }) := by
  rw [run_start_of_brings brings, run_complete_of_establishes h, run_afterLogin]
  rfl

theorem run_start_of_not_establishes (brings : l.Brings location g)
    (h : ∀ x, ¬ Establishes c g x) :
    let entries := keepHints c.outage location s.entries
    c.run (l.start location) s =
      (.hinted (c.outage.note? .notAuthorizedUrl entries)
        (.ofPath (l.siteMap.pathFor .notAuthorized)),
      { s with
        calls := s.calls ++ [.exchange g]
        notices := s.notices ++ [failed]
        entries }) := by
  rw [run_start_of_brings brings, run_complete_of_not_establishes h, run_fail]

theorem start_of_grantless (grantless : ∀ g, ¬ l.Brings location g) :
    (c.run (l.start location) s).2.calls = s.calls ∧
      (c.run (l.start location) s).2.entries = keepHints c.outage location s.entries := by
  rw [run_start_of_grantless grantless, run_initiate]
  cases l.provider.authorizationUrl l.redirectUri <;> exact ⟨rfl, rfl⟩

/-- Beside the session, nothing but the hints is changed. -/
theorem get?_start {key : String} (other : key ≠ Slot.session.key) :
    (c.run (l.start location) s).2.entries.get? key =
      (keepHints c.outage location s.entries).get? key := by
  by_cases grantless : ∀ g, ¬ l.Brings location g
  · rw [(start_of_grantless grantless).2]
  · obtain ⟨g, brings⟩ := not_forall_not.mp grantless
    by_cases fails : ∀ x, ¬ Establishes c g x
    · rw [run_start_of_not_establishes brings fails]
    · obtain ⟨x, h⟩ := not_forall_not.mp fails
      rw [run_start_of_establishes brings h]
      exact (TextMap.get?_insert ..).trans (if_neg other)

end run

/-- **A login is all or nothing.** It asks for an exchange if and only if the location has brought
something to exchange. The session is then that of the claims, and the user is led on, or it is
exactly what it was, and the user is told so once. A hint is kept if the location gives it and the
storage takes it, whatever becomes of the login, and nothing else is changed. -/
theorem all_or_nothing (l : Login) (c : Surroundings) (location : Location) (s : Scene) :
    let r := c.run (l.start location) s
    (∀ g, l.Brings location g →
      r.2.calls = s.calls ++ [.exchange g] ∧
      (∀ x, Establishes c g x →
        r.2.entries.get? Slot.session.key = some (Session.ofClaims x).encode ∧
        r.2.notices = s.notices ∧
        r.1 = if x.acceptedTos then
            .hinted (c.outage.note? .redirectionUrl r.2.entries)
              (.ofPath (l.siteMap.pathFor .userManagement))
          else .navigate (.ofPath (l.siteMap.pathFor .tos))) ∧
      ((∀ x, ¬ Establishes c g x) →
        r.2.entries.get? Slot.session.key = s.entries.get? Slot.session.key ∧
        r.2.notices = s.notices ++ [failed] ∧
        r.1 = .hinted (c.outage.note? .notAuthorizedUrl r.2.entries)
          (.ofPath (l.siteMap.pathFor .notAuthorized)))) ∧
    ((∀ g, ¬ l.Brings location g) →
      r.2.calls = s.calls ∧
      r.2.entries.get? Slot.session.key = s.entries.get? Slot.session.key) ∧
    (∀ key, key ≠ Slot.session.key → (∀ slot ∈ hints, key ≠ slot.key) →
      r.2.entries.get? key = s.entries.get? key) ∧
    ∀ slot ∈ hints,
      (∀ text, location.Gives slot.key text → c.outage.writes slot = none →
        r.2.entries.get? slot.key = some text) ∧
      ((∀ text, location.Gives slot.key text → c.outage.writes slot ≠ none) →
        r.2.entries.get? slot.key = s.entries.get? slot.key) := by
  intro r
  have apart : ∀ slot ∈ hints, Slot.session.key ≠ slot.key := by decide
  refine ⟨fun g brings => ⟨?_, fun x h => ?_, fun fails => ?_⟩, fun grantless => ?_,
    fun key other others => ?_, fun slot hint => ⟨fun text given writable => ?_, fun lost => ?_⟩⟩
  · by_cases fails : ∀ x, ¬ Establishes c g x
    · simp only [r, run_start_of_not_establishes brings fails]
    · obtain ⟨x, h⟩ := not_forall_not.mp fails
      simp only [r, run_start_of_establishes brings h]
  · have completed : r = _ := run_start_of_establishes brings h
    rw [completed]
    exact ⟨(TextMap.get?_insert ..).trans (if_pos rfl), rfl, rfl⟩
  · have broken : r = _ := run_start_of_not_establishes brings fails
    rw [broken]
    exact ⟨get?_keepHints_of_ne apart, rfl, rfl⟩
  · obtain ⟨calls, entries⟩ := start_of_grantless (c := c) (s := s) grantless
    exact ⟨calls, by rw [entries, get?_keepHints_of_ne apart]⟩
  · rw [get?_start other, get?_keepHints_of_ne others]
  · rw [get?_start (apart slot hint).symm, get?_keepHints hint, kept?, if_pos writable,
      Location.param?_eq_some_iff.mpr given, Option.some_or]
  · have unkept : kept? c.outage location slot = none := by
      unfold kept?
      split
      · next writable =>
        exact Location.param?_eq_none_iff.mpr fun text given => lost text given writable
      · rfl
    rw [get?_start (apart slot hint).symm, get?_keepHints hint, unkept, Option.none_or]

/-- A code and a hint, with white space around them, and a token that is blank. -/
def handover : Location where
  path := "/psamaui/login"
  params := .ofList
    [("access_token", " "), ("code", " c "), ("not_authorized_url", " https://b.org")]

/-- The second user signs in where nobody can be signed in. -/
def sealed : Surroundings where
  outage := { writes slot := if slot = .session then some (.corrupt "sealed") else none }
  backend := Run.backendOf Run.secondUser

/-- The second user signs in. -/
def unsealed : Surroundings := { sealed with outage := {} }

theorem all_or_nothing_sealed :
    (sealed.run (Navigator.usual.login.start handover) .signedIn).1 = .external "https://b.org" ∧
    (sealed.run (Navigator.usual.login.start handover) .signedIn).2.entries.get?
      Slot.session.key = some (Session.ofClaims Run.firstUser).encode ∧
    (unsealed.run (Navigator.usual.login.start handover) .signedIn).1 =
      .navigate (.ofPath "/psamaui/tos") ∧
    (unsealed.run (Navigator.usual.login.start handover) .signedIn).2.entries.get?
      Slot.session.key = some (Session.ofClaims Run.secondUser).encode := by
  have brings : Navigator.usual.login.Brings handover (.code "c" Navigator.usual.redirectUri) :=
    grant?_eq_some_iff.mp (by decide +kernel)
  have fails : ∀ x, ¬ Establishes sealed (.code "c" Navigator.usual.redirectUri) x :=
    fun x h => nomatch h.writable
  have establishes : Establishes unsealed (.code "c" Navigator.usual.redirectUri) Run.secondUser :=
    ⟨rfl, by decide, by decide, rfl⟩
  have given : handover.Gives Slot.notAuthorizedUrl.key "https://b.org" :=
    Location.param?_eq_some_iff.mp (by decide +kernel)
  obtain ⟨asked, -, -, kept⟩ := all_or_nothing Navigator.usual.login sealed handover .signedIn
  obtain ⟨-, -, broken⟩ := asked _ brings
  obtain ⟨same, -, led⟩ := broken fails
  have hint := (kept .notAuthorizedUrl (by simp [hints])).1 _ given rfl
  have read := (sealed.outage.note?_eq_some_iff _).mpr ⟨rfl, hint, by decide⟩
  obtain ⟨asked, -⟩ := all_or_nothing Navigator.usual.login unsealed handover .signedIn
  obtain ⟨-, completed, -⟩ := asked _ brings
  obtain ⟨stored, -, welcomed⟩ := completed _ establishes
  refine ⟨?_, ?_, ?_, stored⟩
  · rw [led, read]
    rfl
  · rw [same]
    decide +kernel
  · rw [welcomed]
    decide +kernel

end Login

end AdminConsole
