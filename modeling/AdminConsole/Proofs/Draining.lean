import AdminConsole.Proofs.Deployment
import AdminConsole.Proofs.Http.Client
import AdminConsole.Proofs.Recovery

/-!
# Recoveries come to an end

A console recovers from the rejections that wait, and a recovery can be rejected itself. Whatever
the storage and the backend answer, this ends: the only recovery that puts a call is the one that
leads to the terms, and where a request for the terms is not answered by asking for the terms again,
what it adds to the queue is recovered from without a call (`Deployment.drain_ends`). So every
rejection weighs at most two recoveries (`Deployment.weight`). -/

namespace AdminConsole

open Http Program

namespace Deployment

variable {σ τ α : Type} (c : Deployment σ τ)

/-! ### What a call leaves behind -/

theorem wire_lift (p : Storage α) (d : Desk σ τ) :
    ∃ st, ((liftM p : Wire α).runIn c.wire d).2 = { d with storage := st } := by
  change ∃ st, ((Wire.ofStorage p).runIn c.wire d).2 = { d with storage := st }
  induction p generalizing d with
  | done a => exact ⟨d.storage, rfl⟩
  | step op next ih =>
    obtain ⟨st, eq⟩ := ih (c.storage op d.storage).1
      { d with storage := (c.storage op d.storage).2 }
    exact ⟨st, eq⟩

/-- A call sends nothing, or the one request that is its own, and what comes back is reported if it
is a rejection. -/
theorem call_cases (call : Call) (d : Desk σ τ) :
    ∃ st, (c.call call d).2 = { d with storage := st } ∨
      ∃ token request, Client.ready c.settings call token = .ok request ∧
        (c.call call d).2 =
          { d with
            storage := st
            backend := (c.backend request d.backend).2
            sent := d.sent ++ [(request, (c.backend request d.backend).1)]
            reported := d.reported ++ (Client.rejection? c.settings.forbiddenPolicy call
              (c.backend request d.backend).1).toList } := by
  obtain ⟨st, read⟩ := c.wire_lift (Client.credential c.settings call) d
  refine ⟨st, ?_⟩
  rw [Deployment.call, Client.perform_eq, run_bind, read]
  generalize ((liftM (Client.credential c.settings call) : Wire _).runIn c.wire d).1 = token
  cases ready : Client.ready c.settings call token with
  | error e => exact .inl rfl
  | ok request =>
    refine .inr ⟨token, request, ready, ?_⟩
    change ((Client.finish c.settings call request (c.backend request d.backend).1).runIn c.wire
      { d with
        storage := st
        backend := (c.backend request d.backend).2
        sent := d.sent ++ [(request, (c.backend request d.backend).1)] }).2 = _
    unfold Client.finish
    cases Client.rejection? c.settings.forbiddenPolicy call (c.backend request d.backend).1 with
    | none => exact congrArg (fun reported => { d with
        storage := st
        backend := (c.backend request d.backend).2
        sent := d.sent ++ [(request, (c.backend request d.backend).1)]
        reported }) (List.append_nil _).symm
    | some rejection => rfl

/-- The rejection is one that a call can be answered with. -/
def Rejects (call : Call) (rejection : Rejection) : Prop :=
  ∃ token request b, Client.ready c.settings call token = .ok request ∧
    Client.rejection? c.settings.forbiddenPolicy call (c.backend request b).1 = some rejection

theorem reported_call (call : Call) (d : Desk σ τ) :
    ∃ added, (c.call call d).2.reported = d.reported ++ added ∧ added.length ≤ 1 ∧
      ∀ r ∈ added, c.Rejects call r := by
  obtain ⟨st, same | ⟨token, request, ready, sent⟩⟩ := c.call_cases call d
  · exact ⟨[], by rw [same, List.append_nil], Nat.zero_le 1, nofun⟩
  · rw [sent]
    refine ⟨_, rfl, ?_, fun r mem => ⟨token, request, d.backend, ready, Option.mem_toList.mp mem⟩⟩
    cases Client.rejection? c.settings.forbiddenPolicy call (c.backend request d.backend).1 with
    | none => exact Nat.zero_le 1
    | some rejection => exact Nat.le_refl 1

/-- An operation that is no call leaves the traffic of the desk as it is. -/
theorem app_silent {op : AppOp} (silent : op.call? = none) (d : Desk σ τ) :
    (c.app op d).2.backend = d.backend ∧ (c.app op d).2.sent = d.sent ∧
      (c.app op d).2.reported = d.reported := by
  cases op with
  | ask call => exact nomatch silent
  | mount ticket view location =>
    rcases moved : d.tab.moveTo ticket location with ⟨_ | _, tab⟩ <;> simp [app, moved]
  | storage | notify | dispatch | ticket | location | leave => exact ⟨rfl, rfl, rfl⟩

theorem reported_app (op : AppOp) (d : Desk σ τ) :
    ∃ added, (c.app op d).2.reported = d.reported ++ added ∧
      added.length ≤ op.call?.toList.length ∧
      ∀ r ∈ added, ∃ call ∈ op.call?.toList, c.Rejects call r := by
  cases named : op.call? with
  | none =>
    have same := (c.app_silent named d).2.2
    exact ⟨[], by rw [same, List.append_nil], Nat.zero_le _, nofun⟩
  | some call =>
    obtain rfl : op = .ask call := by
      cases op with
      | ask call' => exact congrArg AppOp.ask (Option.some.inj named)
      | _ => exact nomatch named
    have asked : (c.app (.ask call) d).2 = (c.call call d).2 := by simp only [app]
    obtain ⟨added, eq, few, rejects⟩ := c.reported_call call d
    rw [asked]
    exact ⟨added, eq, few, fun r mem => ⟨call, List.mem_singleton.mpr rfl, rejects r mem⟩⟩

/-- A program adds at most one rejection for each call that it puts. -/
theorem reported_runIn {p : App α} {cs : List Call} (h : Puts p cs) (d : Desk σ τ) :
    ∃ added, (p.runIn c.app d).2.reported = d.reported ++ added ∧ added.length ≤ cs.length ∧
      ∀ r ∈ added, ∃ call ∈ cs, c.Rejects call r := by
  obtain ⟨es, run, ends⟩ := exists_runs_runIn c.app p d
  have puts := h es _ run
  suffices ∃ added, (es.foldl (fun d e => (c.app e.op d).2) d).reported = d.reported ++ added ∧
      added.length ≤ (Trace.calls es).length ∧
      ∀ r ∈ added, ∃ call ∈ Trace.calls es, c.Rejects call r by
    obtain ⟨added, eq, few, rejects⟩ := this
    refine ⟨added, ends ▸ eq, few.trans puts.length_le, fun r mem => ?_⟩
    obtain ⟨call, put, rejects⟩ := rejects r mem
    exact ⟨call, puts.subset put, rejects⟩
  clear run ends puts
  induction es generalizing d with
  | nil => exact ⟨[], (List.append_nil _).symm, Nat.le_refl _, nofun⟩
  | cons e es ih =>
    obtain ⟨first, eq, few, rejects⟩ := c.reported_app e.op d
    obtain ⟨rest, eq', few', rejects'⟩ := ih (c.app e.op d).2
    have calls : Trace.calls (e :: es) = e.op.call?.toList ++ Trace.calls es := by
      cases named : e.op.call? <;> simp [Trace.calls, named]
    refine ⟨first ++ rest, ?_, ?_, ?_⟩
    · rw [List.foldl_cons, eq', eq, List.append_assoc]
    · rw [calls, List.length_append, List.length_append]
      exact Nat.add_le_add few few'
    · intro r mem
      rw [calls]
      rcases List.mem_append.mp mem with mem | mem
      · obtain ⟨call, put, rejects⟩ := rejects r mem
        exact ⟨call, List.mem_append_left _ put, rejects⟩
      · obtain ⟨call, put, rejects⟩ := rejects' r mem
        exact ⟨call, List.mem_append_right _ put, rejects⟩

/-- A program that puts no call leaves the backend as it is. -/
theorem backend_runIn {p : App α} (h : Puts p []) (d : Desk σ τ) :
    (p.runIn c.app d).2.backend = d.backend ∧ (p.runIn c.app d).2.sent = d.sent := by
  obtain ⟨es, run, ends⟩ := exists_runs_runIn c.app p d
  have silent : ∀ e ∈ es, e.op.call? = none :=
    List.filterMap_eq_nil_iff.mp (List.sublist_nil.mp (h es _ run))
  rw [ends]
  clear run ends
  induction es generalizing d with
  | nil => exact ⟨rfl, rfl⟩
  | cons e es ih =>
    obtain ⟨backend, sent⟩ := ih (c.app e.op d).2 fun e mem => silent e (List.mem_cons_of_mem _ mem)
    obtain ⟨kept, kept', -⟩ := c.app_silent (silent e List.mem_cons_self) d
    exact ⟨backend.trans kept, sent.trans kept'⟩

/-! ### Recovering from one rejection after the other -/

/-- The console at the desk, where the rejections wait. -/
def console : (op : ConsoleOp) → StateM (Desk σ τ) op.Answer
  | .app op => c.app op
  | .nextRejection => fun d => (d.reported.head?, { d with reported := d.reported.tail })
  | .print _ => fun d => ((), d)

def navigator : Navigator := .ofSettings c.settings c.settings.siteMap

theorem console_lift (p : App α) (d : Desk σ τ) :
    (liftM p : Console α).runIn c.console d = p.runIn c.app d := by
  change (Console.ofApp p).runIn c.console d = _
  induction p generalizing d with
  | done a => rfl
  | step op next ih => exact ih (c.app op d).1 (c.app op d).2

/-- A rejection that was taken from the queue, and what came of the recovery. -/
structure Recovered where
  rejection : Rejection
  result : Navigator.Result

/-- The rejections at a desk are recovered from until none is left or a recovery fails, and there is
no other bound on how many that are. -/
inductive Draining : Desk σ τ → List Recovered → Desk σ τ → Prop
  | ends {d : Desk σ τ} (empty : d.reported = []) : Draining d [] d
  | fails {d d' : Desk σ τ} {r : Rejection} {rest : List Rejection} {e : NavigationError}
    (next : d.reported = r :: rest) (recovered : (c.navigator.recover r).runIn c.app
      { d with reported := rest } = (.error e, d')) : Draining d [⟨r, .error e⟩] d'
  | goesOn {d d' d'' : Desk σ τ} {r : Rejection} {rest : List Rejection} {outcome : Outcome}
    {rs : List Recovered} (next : d.reported = r :: rest)
    (recovered : (c.navigator.recover r).runIn c.app { d with reported := rest } =
      (.ok outcome, d')) (later : Draining d' rs d'') : Draining d (⟨r, .ok outcome⟩ :: rs) d''

/-- What the user is told of recoveries, unless one has failed. -/
def replies (rs : List Recovered) : Except NavigationError (List String) :=
  return (← rs.mapM (·.result)).filterMap Console.describe

section draining

variable {c} {d d' : Desk σ τ} {rs : List Recovered}

theorem drain_empty (n : Navigator) (limit : Nat) (empty : d.reported = []) :
    (Console.drain n limit).runIn c.console d = (.ok [], d) := by
  cases limit with
  | zero => rfl
  | succ limit =>
    have same : { d with reported := d.reported.tail } = d := by
      obtain ⟨storage, backend, sent, reported, mounted, notices, tab⟩ := d
      obtain rfl : reported = [] := empty
      rfl
    have taken : Console.nextRejection.runIn c.console d = (none, d) := by
      change (d.reported.head?, { d with reported := d.reported.tail }) = (none, d)
      rw [same, empty]
      rfl
    rw [Console.drain, run_bind, taken]
    rfl

theorem drain_succ (n : Navigator) (limit : Nat) {r : Rejection} {rest : List Rejection}
    (next : d.reported = r :: rest) : (Console.drain n (limit + 1)).runIn c.console d =
      match (n.recover r).runIn c.app { d with reported := rest } with
      | (.error e, d') => (.error e, d')
      | (.ok outcome, d') =>
        (((Console.drain n limit).runIn c.console d').1.map
          ((Console.describe outcome).toList ++ ·),
          ((Console.drain n limit).runIn c.console d').2) := by
  have taken : Console.nextRejection.runIn c.console d = (some r, { d with reported := rest }) := by
    change (d.reported.head?, { d with reported := d.reported.tail }) = _
    rw [next]
    rfl
  rw [Console.drain, run_bind, taken]
  dsimp only
  rw [run_bind, console_lift]
  rcases (n.recover r).runIn c.app { d with reported := rest } with ⟨e | outcome, d'⟩
  · rfl
  · dsimp only
    rw [run_bind]
    rfl

theorem replies_error (r : Rejection) (e : NavigationError) :
    replies [⟨r, .error e⟩] = .error e := rfl

theorem replies_cons (r : Rejection) (outcome : Outcome) (rs : List Recovered) :
    replies (⟨r, .ok outcome⟩ :: rs) =
      (replies rs).map ((Console.describe outcome).toList ++ ·) := by
  unfold replies
  rw [List.mapM_cons]
  cases rs.mapM (·.result) with
  | error e => rfl
  | ok outcomes =>
    change Except.ok (List.filterMap Console.describe (outcome :: outcomes)) =
      .ok ((Console.describe outcome).toList ++ List.filterMap Console.describe outcomes)
    cases described : Console.describe outcome <;> simp [described]

/-- The bound on the number of rejections is no matter if it is not met. -/
theorem Draining.drain_eq (h : c.Draining d rs d') {limit : Nat} (enough : rs.length ≤ limit) :
    (Console.drain c.navigator limit).runIn c.console d = (replies rs, d') := by
  induction h generalizing limit with
  | ends empty => exact drain_empty _ limit empty
  | fails next recovered =>
    obtain ⟨limit, rfl⟩ := Nat.exists_eq_add_of_le' enough
    rw [List.length_singleton, drain_succ _ limit next, recovered, replies_error]
  | goesOn next recovered later ih =>
    obtain ⟨limit, rfl⟩ := Nat.exists_eq_add_of_le' enough
    rw [List.length_cons, ← Nat.add_assoc, drain_succ _ _ next, recovered, replies_cons]
    dsimp only
    rw [ih (Nat.le_add_left _ _)]

theorem Draining.stops (h : c.Draining d rs d') :
    d'.reported = [] ∨ ∃ last e, rs.getLast? = some last ∧ last.result = .error e := by
  induction h with
  | ends empty => exact .inl empty
  | fails => exact .inr ⟨_, _, rfl, rfl⟩
  | goesOn next recovered later ih =>
    refine ih.imp_right ?_
    rintro ⟨last, e, found, failed⟩
    exact ⟨last, e, by rw [List.getLast?_cons, found]; rfl, failed⟩

/-- What a recovery adds to the rejections that wait. -/
theorem reported_recover (standard : c.navigator.IsStandard) {r : Rejection}
    {rest : List Rejection} {result : Navigator.Result}
    (recovered : (c.navigator.recover r).runIn c.app { d with reported := rest } = (result, d')) :
    ∃ added, d'.reported = rest ++ added ∧ added.length ≤ (Navigator.callsFor r).length ∧
      ∀ r' ∈ added, ∃ call ∈ Navigator.callsFor r, c.Rejects call r' := by
  have step := c.reported_runIn (Navigator.puts_recover standard r) { d with reported := rest }
  rw [recovered] at step
  exact step

/-- Nothing is lost: what was handled and what waits is what waited and what was added. -/
theorem Draining.order (standard : c.navigator.IsStandard) (h : c.Draining d rs d') :
    ∃ added, rs.map (·.rejection) ++ d'.reported = d.reported ++ added := by
  induction h with
  | ends => exact ⟨[], by simp⟩
  | fails next recovered =>
    obtain ⟨added, eq, -⟩ := reported_recover standard recovered
    exact ⟨added, by simp [next, eq]⟩
  | goesOn next recovered later ih =>
    obtain ⟨added, eq, -⟩ := reported_recover standard recovered
    obtain ⟨added', ih⟩ := ih
    exact ⟨added ++ added', by simp [next, ih, eq]⟩

/-- Rejections that are recovered from without a call leave the backend as it is. -/
theorem Draining.offline (standard : c.navigator.IsStandard) (h : c.Draining d rs d')
    (silent : ∀ r ∈ d.reported, Navigator.callsFor r = []) :
    d'.backend = d.backend ∧ d'.sent = d.sent ∧
      rs.map (·.rejection) ++ d'.reported = d.reported := by
  have kept : ∀ {d d' : Desk σ τ} {r : Rejection} {rest : List Rejection} {result},
      d.reported = r :: rest → (∀ r ∈ d.reported, Navigator.callsFor r = []) →
      (c.navigator.recover r).runIn c.app { d with reported := rest } = (result, d') →
      d'.backend = d.backend ∧ d'.sent = d.sent ∧ d'.reported = rest := by
    intro d d' r rest result next silent recovered
    have noCalls := silent r (by simp [next])
    obtain ⟨added, eq, few, -⟩ := reported_recover standard recovered
    rw [noCalls] at few
    obtain rfl := List.length_eq_zero_iff.mp (Nat.le_zero.mp few)
    have unused := c.backend_runIn (noCalls ▸ Navigator.puts_recover standard r)
      { d with reported := rest }
    rw [recovered] at unused
    exact ⟨unused.1, unused.2, by rw [eq, List.append_nil]⟩
  induction h with
  | ends => exact ⟨rfl, rfl, rfl⟩
  | fails next recovered =>
    obtain ⟨backend, sent, reported⟩ := kept next silent recovered
    exact ⟨backend, sent, by simp [next, reported]⟩
  | goesOn next recovered later ih =>
    obtain ⟨backend, sent, reported⟩ := kept next silent recovered
    obtain ⟨backend', sent', order⟩ := ih fun r mem =>
      silent r (next ▸ List.mem_cons_of_mem _ (reported ▸ mem))
    exact ⟨backend'.trans backend, sent'.trans sent, by simp [next, order, reported]⟩

end draining

/-! ### Recoveries come to an end -/

/-- How many recoveries a rejection can lead to: its own, and one for the call that it puts. -/
def weight (r : Rejection) : Nat := 1 + (Navigator.callsFor r).length

theorem weight_le (r : Rejection) : weight r ≤ 2 := by cases r <;> decide

/-- How many recoveries the rejections that wait can lead to. -/
def load : List Rejection → Nat
  | [] => 0
  | r :: rest => weight r + load rest

theorem load_append (waiting added : List Rejection) :
    load (waiting ++ added) = load waiting + load added := by
  induction waiting with
  | nil => exact (Nat.zero_add _).symm
  | cons r rest ih => rw [List.cons_append, load, ih, load, Nat.add_assoc]

theorem load_le (rejections : List Rejection) : load rejections ≤ 2 * rejections.length := by
  induction rejections with
  | nil => exact Nat.le_refl _
  | cons r rest ih =>
    rw [load, List.length_cons]
    have := weight_le r
    omega

theorem load_of_silent {rejections : List Rejection}
    (silent : ∀ r ∈ rejections, Navigator.callsFor r = []) : load rejections = rejections.length := by
  induction rejections with
  | nil => rfl
  | cons r rest ih =>
    rw [List.forall_mem_cons] at silent
    rw [load, List.length_cons, ih silent.2, weight, silent.1]
    exact Nat.add_comm _ _

/-- **Each recovery makes what waits lighter**, if no request for the terms is answered by asking
for the terms. -/
theorem exists_draining (standard : c.navigator.IsStandard)
    (calm : ∀ r, c.Rejects .latestTerms r → Navigator.callsFor r = []) (d : Desk σ τ) :
    ∃ rs d', c.Draining d rs d' ∧ rs.length ≤ load d.reported := by
  -- A rejection weighs one more than the calls of its recovery, and these add no more than one silent
  -- rejection each. So what waits gets lighter, though there may be as much of it.
  generalize weighed : load d.reported = total
  induction total using Nat.strongRecOn generalizing d with
  | ind total ih =>
    cases next : d.reported with
    | nil => exact ⟨[], d, .ends next, Nat.zero_le _⟩
    | cons r rest =>
      rw [next, load, weight] at weighed
      rcases recovered : (c.navigator.recover r).runIn c.app { d with reported := rest } with
        ⟨e | outcome, d'⟩
      · exact ⟨_, d', .fails next recovered, by rw [List.length_singleton]; omega⟩
      · obtain ⟨added, eq, few, rejects⟩ := reported_recover standard recovered
        have light : load added = added.length := by
          refine load_of_silent fun r' mem => ?_
          obtain ⟨call, put, rejects⟩ := rejects r' mem
          obtain rfl := Navigator.eq_of_mem_callsFor put
          exact calm r' rejects
        have lighter : load d'.reported < total := by
          rw [eq, load_append, light]
          omega
        obtain ⟨rs, d'', later, bounded⟩ := ih _ lighter d' rfl
        exact ⟨_, d'', .goesOn next recovered later, by rw [List.length_cons]; omega⟩

theorem callsFor_of_ofStatus {policy : ForbiddenPolicy} {status : Nat} {r : Rejection}
    (rejected : Rejection.ofStatus? policy status = some r)
    (calm : policy = .redirectToTos → status ≠ 403) : Navigator.callsFor r = [] := by
  unfold Rejection.ofStatus? at rejected
  split at rejected
  · obtain rfl := Option.some.inj rejected
    rfl
  · split at rejected
    · next forbidden =>
      cases policy with
      | notAuthorized =>
        obtain rfl := Option.some.inj rejected
        rfl
      | redirectToTos => exact absurd forbidden (calm rfl)
    · exact nomatch rejected

/-- **Recoveries come to an end**, whatever the storage and the backend answer, if a request for the
terms is not itself answered by asking for the terms. With the rejections that the deployment's own
calls report, there are at most two recoveries for each, in the order in which they were reported;
where the terms are not asked for in this way there is at most one, and nothing is sent. The console
ends early only when a recovery fails, and a bound that is high enough does not matter. -/
theorem drain_ends (noQuery : '?' ∉ c.settings.uiBasePath.toList)
    (noFragment : '#' ∉ c.settings.uiBasePath.toList) (d : Desk σ τ)
    (reported : ∀ r ∈ d.reported,
      ∃ status, Rejection.ofStatus? c.settings.forbiddenPolicy status = some r)
    (calm : c.settings.forbiddenPolicy = .redirectToTos → ∀ token request b arrival,
      Client.ready c.settings .latestTerms token = .ok request →
        (c.backend request b).1 = .ok arrival → arrival.status ≠ 403) :
    ∃ rs d', c.Draining d rs d' ∧ rs.length ≤ 2 * d.reported.length ∧
      (c.settings.forbiddenPolicy = .notAuthorized → rs.length ≤ d.reported.length ∧
        d'.backend = d.backend ∧ d'.sent = d.sent ∧
        rs.map (·.rejection) ++ d'.reported = d.reported) ∧
      (∃ added, rs.map (·.rejection) ++ d'.reported = d.reported ++ added) ∧
      (d'.reported = [] ∨ ∃ last e, rs.getLast? = some last ∧ last.result = .error e) ∧
      ∀ limit, rs.length ≤ limit →
        (Console.drain c.navigator limit).runIn c.console d = (replies rs, d') := by
  have standard : c.navigator.IsStandard := Navigator.isStandard_ofSettings noQuery noFragment
  have light : ∀ r, c.Rejects .latestTerms r → Navigator.callsFor r = [] := by
    rintro r ⟨token, request, b, ready, rejected⟩
    cases back : (c.backend request b).1 with
    | error e =>
      rw [back] at rejected
      exact nomatch rejected
    | ok arrival =>
      rw [back, Client.rejection?_ok] at rejected
      exact callsFor_of_ofStatus rejected fun policy =>
        calm policy token request b arrival ready back
  obtain ⟨rs, d', draining, bounded⟩ := c.exists_draining standard light d
  refine ⟨rs, d', draining, bounded.trans (load_le _), fun policy => ?_,
    draining.order standard, draining.stops, fun limit => draining.drain_eq⟩
  have silent : ∀ r ∈ d.reported, Navigator.callsFor r = [] := by
    intro r mem
    obtain ⟨status, rejected⟩ := reported r mem
    exact callsFor_of_ofStatus rejected fun redirects => nomatch policy.symm.trans redirects
  exact ⟨load_of_silent silent ▸ bounded, draining.offline standard silent⟩

/-- A backend that answers every request with 401, where 403 stands for the terms. -/
def expired : Deployment Simulation.Memory Unit where
  settings := { backendUrl := "http://[::1]:8080", forbiddenPolicy := .redirectToTos }
  storage := Simulation.Memory.answer
  backend _ := pure (.ok ⟨401, .brokenOff⟩)

/-- Someone is signed in, and two requests were rejected. -/
def rejectedTwice : Desk Simulation.Memory Unit where
  storage := { entries := .ofList [("session", (Session.ofClaims Run.firstUser).encode)] }
  backend := ()
  reported := [.termsNotAccepted, .unauthenticated]

theorem reported_rejectedTwice : ∀ r ∈ rejectedTwice.reported,
    ∃ status, Rejection.ofStatus? expired.settings.forbiddenPolicy status = some r := by
  intro r mem
  obtain rfl | rfl : r = .termsNotAccepted ∨ r = .unauthenticated := by
    simpa [rejectedTwice] using mem
  · exact ⟨403, rfl⟩
  · exact ⟨401, rfl⟩

/-- The terms are asked for once, and this request is rejected as well. -/
theorem drain_ends_rejectedTwice : ∃ rs d', expired.Draining rejectedTwice rs d' ∧
    rs.length ≤ 4 ∧ d'.reported = [] ∧ d'.sent.length = 1 ∧
    ∃ added, rs.map (·.rejection) = [.termsNotAccepted, .unauthenticated] ++ added := by
  have calm : ∀ token request b arrival,
      Client.ready expired.settings .latestTerms token = .ok request →
        (expired.backend request b).1 = .ok arrival → arrival.status ≠ 403 := by
    rintro - - - - - ⟨⟩
    decide
  obtain ⟨rs, d', draining, bounded, -, ⟨added, order⟩, -, drained⟩ :=
    expired.drain_ends (by decide) (by decide) rejectedTwice reported_rejectedTwice fun _ => calm
  have ends : ((Console.drain expired.navigator 4).runIn expired.console rejectedTwice).2.reported =
      [] ∧ ((Console.drain expired.navigator 4).runIn expired.console
        rejectedTwice).2.sent.length = 1 := by decide +kernel
  rw [drained 4 bounded] at ends
  rw [ends.1, List.append_nil] at order
  exact ⟨rs, d', draining, bounded, ends.1, ends.2, added, order⟩

end Deployment

end AdminConsole
