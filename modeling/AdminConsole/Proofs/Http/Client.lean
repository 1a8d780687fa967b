import AdminConsole.Http.Client
import AdminConsole.Proofs.Program

/-!
# Calls on the wire

Every call comes to the same three steps: the token is read, if the call is made for the session
(`credential`); the request is sent, if there is one (`ready`); and what comes back is reported and
made an answer (`finish`). `perform_eq` says so, `ready_eq` says what the request is, and
`comesTo_received` what the answer is. -/

namespace AdminConsole.Http

open Program

variable {σ α β : Type}

theorem Wire.lift_bind (p : Storage α) (f : α → Storage β) :
    (liftM (p >>= f) : Wire β) = liftM p >>= fun a => liftM (f a) :=
  runIn_bind (m := Wire) (fun op => .step (.storage op) .done) p f

/-! ### A call as a request and what is made of its answer -/

namespace Client

/-- What a call is answered with once something has come back for its request. -/
def received (c : Call) (r : Request) : Except SendError Arrival → c.Result
  | .error e => .error (sendError r e)
  | .ok arrival => do answer c (← (Response.mk arrival.status (← readBody r arrival.body)).check)

/-- The rejection that is due when something comes back for a call: 401 and 403 reject whoever is
signed in, and an exchange is made for nobody. -/
def rejection? (policy : ForbiddenPolicy) : Call → Except SendError Arrival → Option Rejection
  | .exchange _, _ | _, .error _ => none
  | _, .ok ⟨401, _⟩ => some .unauthenticated
  | _, .ok ⟨403, _⟩ => some (if policy = .notAuthorized then .forbidden else .termsNotAccepted)
  | _, .ok _ => none

/-- The request of a call, ready to be sent for the holder of a token. -/
def ready (s : Settings) (c : Call) (token : Option String) : Except BackendError Request := do
  let r ← request s c
  let r := if isForSession c then authorize r (token.map bearerValue) else r
  checkScheme r
  return r

def report : Option Rejection → Wire Unit
  | some rejection => Wire.report rejection
  | none => return

/-- What is done when something has come back. -/
def finish (s : Settings) (c : Call) (r : Request) (back : Except SendError Arrival) :
    Wire c.Result := do
  report (rejection? s.forbiddenPolicy c back)
  return received c r back

/-- Sends a request that is ready, unless there is none. -/
def launch (s : Settings) (c : Call) : Except BackendError Request → Wire c.Result
  | .error e => return .error e
  | .ok r => do finish s c r (← Wire.send r)

theorem rejection?_error (policy : ForbiddenPolicy) (c : Call) (e : SendError) :
    rejection? policy c (.error e) = none := by
  cases c <;> rfl

/-- What is due is what the status says, if there is somebody to say it of. -/
theorem rejection?_ok (policy : ForbiddenPolicy) (c : Call) (arrival : Arrival) :
    rejection? policy c (.ok arrival) =
      if isForSession c then Rejection.ofStatus? policy arrival.status else none := by
  obtain ⟨status, body⟩ := arrival
  unfold Rejection.ofStatus?
  by_cases missing : status = 401
  · subst missing
    cases c <;> rfl
  by_cases refused : status = 403
  · subst refused
    cases c <;> cases policy <;> rfl
  rw [if_neg missing, if_neg refused, ite_self]
  cases c <;> simp [rejection?, missing, refused]

/-- What comes back is reported and answered. -/
theorem exchange_answer (s : Settings) (c : Call) (r : Request) :
    (do
      let response ← exchange s.forbiddenPolicy (isForSession c) r
      return do answer c (← (← response).check)) =
      launch s c (do checkScheme r; return r) := by
  unfold exchange
  cases checkScheme r with
  | error e => rfl
  | ok u =>
    refine congrArg (Program.step (WireOp.send r)) (funext fun back => ?_)
    change _ = finish s c r back
    unfold finish
    rcases back with e | ⟨status, body⟩
    · rw [rejection?_error]
      rfl
    · rw [rejection?_ok]
      unfold intercept
      dsimp only [Program.bind]
      cases isForSession c <;> cases Rejection.ofStatus? s.forbiddenPolicy status <;> cases body <;>
        rfl

/-- The token is read for a call that needs it. -/
def credential (s : Settings) (c : Call) : Storage (Option String) :=
  match request s c with
  | .error _ => return none
  | .ok _ => if isForSession c then SessionStore.token? else return none

/-- A call reads the token, and then has its request ready or none at all. -/
theorem perform_eq (s : Settings) (c : Call) :
    perform s c = liftM (credential s c) >>= fun token => launch s c (ready s c token) := by
  unfold perform credential ready
  cases request s c with
  | error e => rfl
  | ok r =>
    have answered := exchange_answer s c
    cases h : isForSession c with
    | false =>
      rw [h] at answered
      exact answered r
    | true =>
      rw [h] at answered
      change (liftM authorization? >>= fun authorization =>
        exchange s.forbiddenPolicy true (authorize r authorization)) >>= _ = _
      unfold authorization?
      rw [Wire.lift_bind, LawfulMonad.bind_assoc, LawfulMonad.bind_assoc]
      refine bind_congr fun token => ?_
      exact answered (authorize r (token.map bearerValue))

/-- Where the token is not read, the request does not depend on it. -/
theorem ready_credential (s : Settings) (c : Call)
    (storage : (op : StorageOp) → StateM σ op.Answer) (st : σ) :
    ready s c ((credential s c).runIn storage st).1 =
      ready s c (SessionStore.token?.runIn storage st).1 := by
  unfold ready credential
  cases request s c with
  | error e => rfl
  | ok r => cases isForSession c <;> rfl

/-! ### Requests -/

def IsWeb (url : Url) : Prop := url.scheme = "http" ∨ url.scheme = "https"

instance : DecidablePred IsWeb := fun _ => inferInstanceAs (Decidable (_ ∨ _))

variable {s : Settings} {c : Call} {token : Option String}

theorem not_newline_of_isHeaderValue {value : String} (h : isHeaderValue value) :
    '\n' ∉ value.toList ∧ '\r' ∉ value.toList := by
  have legal := List.all_eq_true.mp h
  constructor
  · intro mem
    exact absurd (legal _ mem) (by decide)
  · intro mem
    exact absurd (legal _ mem) (by decide)

theorem scheme_to (m : Method) (url : Url) (body : Option String) :
    (Request.to m url body).url.scheme = url.scheme := by
  unfold Request.to
  split <;> rfl

theorem url_authorize (r : Request) (authorization : Option String) :
    (authorize r authorization).url = r.url := by
  unfold authorize
  split <;> rfl

theorem checkScheme_eq (r : Request) : checkScheme r =
    if IsWeb r.url then .ok () else .error (.invalidEndpoint ("builder error" ++ urlSuffix r)) :=
  rfl

theorem authorize_eq {r : Request} (bare : r.authorization = none) (authorization : Option String) :
    authorize r authorization = { r with authorization := authorization.filter isHeaderValue } := by
  obtain ⟨method, url, _, body⟩ := r
  obtain rfl := bare
  unfold authorize
  cases authorization.filter isHeaderValue <;> rfl

/-- The request of a call to a URL, for the holder of a token. -/
def prepared (c : Call) (token : Option String) (url : Url) : Request :=
  let r := Request.to (method c) url (body? c)
  if isForSession c then authorize r (token.map bearerValue) else r

theorem isWeb_prepared (c : Call) (token : Option String) (url : Url) :
    IsWeb (prepared c token url).url ↔ IsWeb url := by
  have scheme : (prepared c token url).url.scheme = url.scheme := by
    unfold prepared
    split
    · rw [url_authorize, scheme_to]
    · exact scheme_to _ _ _
  unfold IsWeb
  rw [scheme]

/-- The header that goes with the request of a call: the token, if it can stand in a header. An
exchange goes without. -/
def header? : Call → Option String → Option String
  | .exchange _, _ => none
  | _, token => (token.map ("Bearer " ++ ·)).filter isHeaderValue

theorem header?_eq (c : Call) (token : Option String) : header? c token =
    if isForSession c then (token.map bearerValue).filter isHeaderValue else none := by
  cases c <;> rfl

/-- No token adds a line to the headers. -/
theorem not_newline_of_header? {value : String} (carried : header? c token = some value) :
    '\n' ∉ value.toList ∧ '\r' ∉ value.toList := by
  rw [header?_eq] at carried
  split at carried
  · obtain ⟨_, legal⟩ := Option.filter_eq_some_iff.mp carried
    exact not_newline_of_isHeaderValue legal
  · exact nomatch carried

theorem prepared_eq (c : Call) (token : Option String) {url : Url} (bare : user? url = none) :
    prepared c token url = ⟨method c, url, header? c token, body? c⟩ := by
  rw [header?_eq]
  unfold prepared Request.to
  rw [bare]
  cases isForSession c with
  | false => rfl
  | true => exact authorize_eq rfl _

theorem ready_eq (s : Settings) (c : Call) (token : Option String) : ready s c token =
    match s.apiUrl (endpoint c) with
    | .error e => .error (.invalidEndpoint e.message)
    | .ok url =>
      if IsWeb url then .ok (prepared c token url)
      else .error (.invalidEndpoint ("builder error" ++ urlSuffix (prepared c token url))) := by
  unfold ready request
  cases s.apiUrl (endpoint c) with
  | error e => rfl
  | ok url =>
    change (checkScheme (prepared c token url) >>= fun _ => .ok (prepared c token url)) = _
    simp only [checkScheme_eq, isWeb_prepared]
    split <;> rfl

/-- A request is ready for a call that has a URL of the web. -/
theorem ready_eq_ok_iff {r : Request} : ready s c token = .ok r ↔
    ∃ url, s.apiUrl (endpoint c) = .ok url ∧ IsWeb url ∧ r = prepared c token url := by
  rw [ready_eq]
  cases s.apiUrl (endpoint c) with
  | error e => simp
  | ok url => by_cases h : IsWeb url <;> simp [h, eq_comm]

theorem ready_eq_error {e : BackendError} (h : ready s c token = .error e) :
    ∃ detail, e = .invalidEndpoint detail := by
  rw [ready_eq] at h
  cases found : s.apiUrl (endpoint c) with
  | error e' => exact ⟨_, by simpa [found] using h.symm⟩
  | ok url =>
    by_cases web : IsWeb url
    · simp [found, web] at h
    · exact ⟨_, by simpa [found, web] using h.symm⟩

theorem ready_of_anonymous (anonymous : isForSession c = false) (token' : Option String) :
    ready s c token = ready s c token' := by
  unfold ready
  simp only [anonymous, Bool.false_eq_true, if_false]

/-! ### Results -/

/-- What the body of an answer says to each call. -/
def reading : (c : Call) → String → Except Json.Cause c.Answer
  | .exchange _, body => Json.decodeText Claims.decoder body
  | .connections, body => Json.decodeText Connection.listDecoder body
  | .latestTerms, body => .ok body
  | .acceptTerms, _ => .ok ()
  | .currentUser, body => Json.decodeText CurrentUser.decoder body
  | .refreshToken, body =>
    Json.decodeText ((Json.Record.requiredField "userLongTermToken" .text).decoder
      "struct LongTermToken") body

/-- What a call comes to, by what comes back for its request: an answer for a status from 200 to 299
with a body that can be read, and an error of its own kind for anything else. -/
inductive ComesTo (c : Call) : Except SendError Arrival → c.Result → Prop
  | unanswered (e : SendError) (detail : String) :
    ComesTo c (.error e) (.error (.network detail))
  | late (status : Nat) (detail : String) :
    ComesTo c (.ok ⟨status, .timedOut⟩) (.error (.network detail))
  | brokenOff (status : Nat) (detail : String) :
    ComesTo c (.ok ⟨status, .brokenOff⟩) (.error (.decode detail))
  | failed {status : Nat} (body : String) (failure : ¬ (200 ≤ status ∧ status < 300)) :
    ComesTo c (.ok ⟨status, .whole body⟩) (.error (.status status body))
  | unreadable {status : Nat} {body : String} {cause : Json.Cause}
    (success : 200 ≤ status ∧ status < 300) (read : reading c body = .error cause) :
    ComesTo c (.ok ⟨status, .whole body⟩) (.error (.decode cause.message))
  | answered {status : Nat} {body : String} {answer : c.Answer}
    (success : 200 ≤ status ∧ status < 300) (read : reading c body = .ok answer) :
    ComesTo c (.ok ⟨status, .whole body⟩) (.ok answer)

theorem answer_eq (c : Call) (response : Response) : answer c response =
    (reading c response.body).mapError fun cause => .decode cause.message := by
  cases c <;> rfl

theorem check_eq (status : Nat) (body : String) : (Response.mk status body).check =
    if 200 ≤ status ∧ status < 300 then .ok ⟨status, body⟩ else .error (.status status body) := by
  simp [Response.check, Response.isSuccess]

/-- A call comes to what it is answered with. -/
theorem comesTo_received (c : Call) (r : Request) (back : Except SendError Arrival) :
    ComesTo c back (received c r back) := by
  obtain e | ⟨status, body⟩ := back
  · cases e <;> exact .unanswered _ _
  cases body with
  | brokenOff => exact .brokenOff status _
  | timedOut => exact .late status _
  | whole body =>
    have whole : received c r (.ok ⟨status, .whole body⟩) =
        (Response.mk status body).check >>= answer c := rfl
    rw [whole, check_eq]
    split
    · next success =>
      change ComesTo c _ (answer c ⟨status, body⟩)
      rw [answer_eq]
      cases read : reading c body with
      | error cause => exact .unreadable success read
      | ok answer => exact .answered success read
    · next failure => exact .failed body failure

end Client

end AdminConsole.Http
