import Mathlib.Data.List.Basic
import Mathlib.Data.List.Induction
import AdminConsole.Proofs.Http.Client
import AdminConsole.Simulation.Memory

/-!
# Traffic

Any number of calls to the backend under way at once, over a storage that is worked on in between. A
call runs until it ends or has sent a request; whenever something comes back, or is known not to
come, the call goes on. Every call sends at most the one request that is its own; a request for the
session carries the token that the storage gave when the call was put, and the identity exchange
carries none. What comes back decides what the call comes to (`Client.ComesTo`), and of all that
comes back exactly the rejections of calls for the session are reported, each once and in the order
in which they come (`Traffic.authorized_and_reported`). -/

namespace AdminConsole.Http

open Program

variable {σ α β : Type}

/-! ### Legs -/

/-- What a program of the wire comes to without waiting for what comes back. -/
structure Leg (σ α : Type) where
  rest : Wire α
  storage : σ
  sent : List Request := []
  reported : List Rejection := []

/-- Goes on until the program ends or has sent a request. -/
def Wire.leg (storage : (op : StorageOp) → StateM σ op.Answer) : Wire α → σ → Leg σ α
  | .done a, st => { rest := .done a, storage := st }
  | .step (.storage op) next, st => leg storage (next (storage op st).1) (storage op st).2
  | .step (.report rejection) next, st =>
    let l := leg storage (next ()) st
    { l with reported := rejection :: l.reported }
  | .step (.send r) next, st => { rest := .step (.send r) next, storage := st, sent := [r] }

section leg

variable (storage : (op : StorageOp) → StateM σ op.Answer)

theorem Wire.leg_lift_bind (p : Storage α) (f : α → Wire β) (st : σ) :
    leg storage (liftM p >>= f) st =
      leg storage (f (p.runIn storage st).1) (p.runIn storage st).2 := by
  change leg storage ((ofStorage p).bind f) st = _
  induction p generalizing st with
  | done a => rfl
  | step op next ih => exact ih _ _

theorem Client.leg_perform (s : Settings) (c : Call) (st : σ) :
    ∃ st', Wire.leg storage (perform s c) st =
      match ready s c (SessionStore.token?.runIn storage st).1 with
      | .error e => { rest := .done (.error e), storage := st' }
      | .ok r => { rest := .step (.send r) (finish s c r), storage := st', sent := [r] } := by
  refine ⟨((credential s c).runIn storage st).2, ?_⟩
  rw [perform_eq, Wire.leg_lift_bind, ready_credential]
  cases ready s c (SessionStore.token?.runIn storage st).1 <;> rfl

theorem Client.leg_finish (s : Settings) (c : Call) (r : Request)
    (back : Except SendError Arrival) (st : σ) :
    Wire.leg storage (finish s c r back) st =
      { rest := .done (received c r back), storage := st
        reported := (rejection? s.forbiddenPolicy c back).toList } := by
  unfold finish
  cases rejection? s.forbiddenPolicy c back <;> rfl

end leg

/-! ### Calls under way -/

/-- A call that was put, and how far it has come. -/
structure Deal where
  call : Call
  /-- What the storage gives as the token when the call is put. -/
  token : Option String
  sent : List Request
  /-- What came back, or that nothing will. -/
  back : List (Except SendError Arrival)
  /-- What is left to do. -/
  rest : Wire call.Result

/-- Calls are known by their place in the list; the last put comes last. -/
structure Traffic (σ : Type) where
  storage : σ
  deals : List Deal := []
  /-- What came back for which call, in the order in which it came. -/
  back : List (Nat × Except SendError Arrival) := []
  reported : List Rejection := []

namespace Traffic

inductive Event where
  | put (call : Call)
  | comeBack (i : Nat) (back : Except SendError Arrival)
  | update (p : Storage Unit)

def Event.call? : Event → Option Call
  | put call => some call
  | _ => none

section after

variable (s : Settings) (storage : (op : StorageOp) → StateM σ op.Answer) (t : Traffic σ)

/-- Puts a call, which goes on to its request. -/
def put (call : Call) : Traffic σ :=
  let leg := Wire.leg storage (Client.perform s call) t.storage
  let token := (SessionStore.token?.runIn storage t.storage).1
  { t with
    storage := leg.storage
    deals := t.deals ++ [⟨call, token, leg.sent, [], leg.rest⟩]
    reported := t.reported ++ leg.reported }

/-- Lets a call go on with what comes back. A call that waits for nothing is not concerned. -/
def comeBack (i : Nat) (back : Except SendError Arrival) : Traffic σ :=
  match t.deals[i]? with
  | some ⟨call, token, sent, earlier, .step (.send _) next⟩ =>
    let leg := Wire.leg storage (next back) t.storage
    { storage := leg.storage
      deals := t.deals.set i ⟨call, token, sent ++ leg.sent, earlier ++ [back], leg.rest⟩
      back := t.back ++ [(i, back)]
      reported := t.reported ++ leg.reported }
  | _ => t

def after : Event → Traffic σ
  | .put call => t.put s storage call
  | .comeBack i back => t.comeBack storage i back
  | .update p => { t with storage := (p.runIn storage t.storage).2 }

/-- All that happens from a storage on. -/
def run (st : σ) (events : List Event) : Traffic σ :=
  events.foldl (fun t event => t.after s storage event) { storage := st }

theorem run_snoc (st : σ) (events : List Event) (event : Event) :
    run s storage st (events ++ [event]) = (run s storage st events).after s storage event := by
  simp only [run, List.foldl_append, List.foldl_cons, List.foldl_nil]

end after

/-- The rejections of what came back, by the calls that were put. -/
def rejections (policy : ForbiddenPolicy) (calls : List Call)
    (back : List (Nat × Except SendError Arrival)) : List Rejection :=
  back.filterMap fun b => calls[b.1]?.bind fun call => Client.rejection? policy call b.2

end Traffic

/-! ### What stays so -/

/-- The three ways in which a call can stand. -/
inductive Deal.Stands (s : Settings) : Deal → Prop
  | unsent {c : Call} {token : Option String} {e : BackendError}
    (none : Client.ready s c token = .error e) : Stands s ⟨c, token, [], [], .done (.error e)⟩
  | waiting {c : Call} {token : Option String} {r : Request}
    (ready : Client.ready s c token = .ok r) :
    Stands s ⟨c, token, [r], [], .step (.send r) (Client.finish s c r)⟩
  | answered {c : Call} {token : Option String} {r : Request} (b : Except SendError Arrival)
    (ready : Client.ready s c token = .ok r) :
    Stands s ⟨c, token, [r], [b], .done (Client.received c r b)⟩

namespace Traffic

structure Steady (s : Settings) (calls : List Call) (t : Traffic σ) : Prop where
  put : t.deals.map (·.call) = calls
  stands : ∀ d ∈ t.deals, d.Stands s
  back : ∀ i b, (i, b) ∈ t.back ↔ ∃ d, t.deals[i]? = some d ∧ b ∈ d.back
  once : (t.back.map Prod.fst).Nodup
  reported : t.reported = rejections s.forbiddenPolicy calls t.back

variable {s : Settings} {storage : (op : StorageOp) → StateM σ op.Answer} {calls : List Call}
  {t : Traffic σ}

variable (storage) in
theorem put_eq (s : Settings) (t : Traffic σ) (c : Call) : ∃ (st : σ) (d : Deal),
    d.call = c ∧ d.back = [] ∧ d.Stands s ∧
      t.put s storage c = { t with storage := st, deals := t.deals ++ [d] } := by
  obtain ⟨st, leg⟩ := Client.leg_perform storage s c t.storage
  unfold put
  rw [leg]
  cases ready : Client.ready s c (SessionStore.token?.runIn storage t.storage).1 with
  | error e => exact ⟨st, _, rfl, rfl, .unsent ready, by simp⟩
  | ok r => exact ⟨st, _, rfl, rfl, .waiting ready, by simp⟩

variable (storage) in
theorem comeBack_eq (stands : ∀ d ∈ t.deals, d.Stands s) (i : Nat) (b : Except SendError Arrival) :
    t.comeBack storage i b = t ∨ ∃ d d' : Deal, t.deals[i]? = some d ∧ d.back = [] ∧
      d'.call = d.call ∧ d'.back = [b] ∧ d'.Stands s ∧
      t.comeBack storage i b =
        { t with
          deals := t.deals.set i d'
          back := t.back ++ [(i, b)]
          reported := t.reported ++ (Client.rejection? s.forbiddenPolicy d.call b).toList } := by
  unfold comeBack
  cases found : t.deals[i]? with
  | none => exact .inl rfl
  | some d =>
    cases stands d (List.mem_of_getElem? found) with
    | unsent none => exact .inl rfl
    | answered b' ready => exact .inl rfl
    | @waiting c token r ready =>
      refine .inr ⟨_, ⟨c, token, [r], [b], _⟩, rfl, rfl, rfl, rfl, .answered b ready, ?_⟩
      simp only [Client.leg_finish]
      rfl

theorem rejections_append (policy : ForbiddenPolicy) {back : List (Nat × Except SendError Arrival)}
    (known : ∀ b ∈ back, b.1 < calls.length) (c : Call) :
    rejections policy (calls ++ [c]) back = rejections policy calls back := by
  refine List.filterMap_congr fun b hb => ?_
  rw [List.getElem?_append_left (known b hb)]

theorem Steady.known (h : Steady s calls t) : ∀ b ∈ t.back, b.1 < calls.length := by
  intro b hb
  obtain ⟨d, found, _⟩ := (h.back b.1 b.2).mp hb
  rw [← h.put, List.length_map]
  exact (List.getElem?_eq_some_iff.mp found).1

theorem Steady.after_put (h : Steady s calls t) (c : Call) :
    Steady s (calls ++ [c]) (t.put s storage c) := by
  obtain ⟨st, d, call, fresh, stands, eq⟩ := put_eq storage s t c
  rw [eq]
  refine ⟨by simp [h.put, call], ?_, fun i b => ?_, h.once, ?_⟩
  · intro d' hd'
    rcases List.mem_append.mp hd' with old | new
    · exact h.stands d' old
    · exact List.mem_singleton.mp new ▸ stands
  · rw [h.back, List.getElem?_append]
    split
    · rfl
    · next ge =>
      rw [List.getElem?_eq_none (Nat.le_of_not_lt ge), List.getElem?_singleton]
      constructor
      · rintro ⟨d', found, _⟩
        exact nomatch found
      · rintro ⟨d', found, mem⟩
        split at found
        · rw [← Option.some.inj found, fresh] at mem
          exact absurd mem List.not_mem_nil
        · exact nomatch found
  · rw [rejections_append _ h.known]
    exact h.reported

theorem Steady.after_comeBack (h : Steady s calls t) (i : Nat) (b : Except SendError Arrival) :
    Steady s calls (t.comeBack storage i b) := by
  obtain eq | ⟨d, d', found, fresh, call, came, stands, eq⟩ :=
    comeBack_eq storage h.stands i b
  · rw [eq]
    exact h
  obtain ⟨lt, at_i⟩ := List.getElem?_eq_some_iff.mp found
  have new : ∀ b', (i, b') ∉ t.back := by
    intro b' mem
    obtain ⟨d₀, found₀, mem⟩ := (h.back i b').mp mem
    obtain rfl := Option.some.inj (found.symm.trans found₀)
    rw [fresh] at mem
    exact List.not_mem_nil mem
  have named : calls[i]? = some d.call := by
    rw [← h.put, List.getElem?_map, found]
    rfl
  have unset : (t.deals.set i d').map (·.call) = calls := by
    obtain ⟨known, called⟩ := List.getElem?_eq_some_iff.mp named
    rw [List.map_set, call, h.put, ← called, List.set_getElem_self]
  rw [eq]
  refine ⟨unset, fun d₀ h₀ => ?_, fun j b' => ?_, ?_, ?_⟩
  · rcases List.mem_or_eq_of_mem_set h₀ with old | rfl
    · exact h.stands d₀ old
    · exact stands
  · rw [List.mem_append, List.mem_singleton, h.back, List.getElem?_set]
    by_cases ij : i = j
    · subst ij
      simp [at_i, fresh, came, lt]
    · simp [ij, Ne.symm ij]
  · rw [List.map_append, List.nodup_append]
    refine ⟨h.once, by simp, fun j hj k hk => ?_⟩
    obtain ⟨⟨j, b'⟩, mem, rfl⟩ := List.mem_map.mp hj
    obtain rfl := List.mem_singleton.mp hk
    rintro rfl
    exact new b' mem
  · simp only [rejections, List.filterMap_append, List.filterMap_cons, List.filterMap_nil, named,
      Option.bind_some]
    rw [h.reported]
    cases Client.rejection? s.forbiddenPolicy d.call b <;> rfl

theorem steady_run (s : Settings) (storage : (op : StorageOp) → StateM σ op.Answer) (st : σ)
    (events : List Event) :
    Steady s (events.filterMap Event.call?) (run s storage st events) := by
  induction events using List.reverseRecOn with
  | nil => exact ⟨rfl, by simp [run], by simp [run], .nil, rfl⟩
  | append_singleton events event ih =>
    rw [run_snoc, List.filterMap_append]
    cases event with
    | put c => exact ih.after_put c
    | comeBack i b =>
      change Steady s (_ ++ []) _
      rw [List.append_nil]
      exact ih.after_comeBack i b
    | update p =>
      change Steady s (_ ++ []) _
      rw [List.append_nil]
      exact ⟨ih.put, ih.stands, ih.back, ih.once, ih.reported⟩

end Traffic

/-! ### What is sent -/

/-- How a call stands, by what may be seen of it. -/
structure Deal.Orderly (s : Settings) (d : Deal) : Prop where
  atMostOne : d.sent.length ≤ 1
  sent_iff : d.sent ≠ [] ↔ ∃ url, s.apiUrl (Client.endpoint d.call) = .ok url ∧ Client.IsWeb url
  /-- A request carries the token, if it is for the session and the token can stand in a header, and
  nothing otherwise. -/
  request : ∀ r ∈ d.sent, ∀ url, s.apiUrl (Client.endpoint d.call) = .ok url → user? url = none →
    r = ⟨Client.method d.call, url, Client.header? d.call d.token, Client.body? d.call⟩
  /-- No token adds a line to the headers. -/
  oneLine : ∀ r ∈ d.sent, ∀ url, s.apiUrl (Client.endpoint d.call) = .ok url → user? url = none →
    ∀ value, r.authorization = some value → '\n' ∉ value.toList ∧ '\r' ∉ value.toList
  unsent : d.sent = [] → d.back = [] ∧ ∃ detail, d.rest = .done (.error (.invalidEndpoint detail))
  waits : ∀ r ∈ d.sent, d.back = [] → ∃ next, d.rest = .step (.send r) next
  ends : ∀ r ∈ d.sent, ∀ b ∈ d.back, d.back = [b] ∧
    ∃ result, d.rest = .done result ∧ Client.ComesTo d.call b result

namespace Deal

variable {s : Settings} {d : Deal}

/-- What was sent is what was ready. -/
theorem Stands.sent_eq (h : d.Stands s) :
    d.sent = (Client.ready s d.call d.token).toOption.toList := by
  cases h with
  | unsent none => rw [none]; rfl
  | waiting ready => rw [ready]; rfl
  | answered b ready => rw [ready]; rfl

theorem Stands.mem_sent_iff (h : d.Stands s) {r : Request} :
    r ∈ d.sent ↔ Client.ready s d.call d.token = .ok r := by
  rw [h.sent_eq]
  cases Client.ready s d.call d.token <;> simp [Except.toOption, eq_comm]

theorem Stands.request (h : d.Stands s) {r : Request} (sent : r ∈ d.sent) {url : Url}
    (found : s.apiUrl (Client.endpoint d.call) = .ok url) (bare : user? url = none) :
    r = ⟨Client.method d.call, url, Client.header? d.call d.token, Client.body? d.call⟩ := by
  obtain ⟨url', found', _, rfl⟩ := Client.ready_eq_ok_iff.mp (h.mem_sent_iff.mp sent)
  obtain rfl := Except.ok.inj (found.symm.trans found')
  exact Client.prepared_eq d.call d.token bare

theorem Stands.sent_iff (h : d.Stands s) : d.sent ≠ [] ↔
    ∃ url, s.apiUrl (Client.endpoint d.call) = .ok url ∧ Client.IsWeb url := by
  constructor
  · intro some
    obtain ⟨r, sent⟩ := List.exists_mem_of_ne_nil d.sent some
    obtain ⟨url, found, web, _⟩ := Client.ready_eq_ok_iff.mp (h.mem_sent_iff.mp sent)
    exact ⟨url, found, web⟩
  · rintro ⟨url, found, web⟩
    have ready : Client.ready s d.call d.token = .ok (Client.prepared d.call d.token url) :=
      Client.ready_eq_ok_iff.mpr ⟨url, found, web, rfl⟩
    exact List.ne_nil_of_mem (h.mem_sent_iff.mpr ready)

theorem Stands.orderly (h : d.Stands s) : d.Orderly s where
  atMostOne := by cases h <;> simp
  sent_iff := h.sent_iff
  request r sent url found bare := h.request sent found bare
  oneLine r sent url found bare value carried := by
    rw [h.request sent found bare] at carried
    exact Client.not_newline_of_header? carried
  unsent none := by
    cases h with
    | unsent e =>
      obtain ⟨detail, rfl⟩ := Client.ready_eq_error e
      exact ⟨rfl, detail, rfl⟩
    | waiting | answered => exact nomatch none
  waits r sent idle := by
    cases h with
    | unsent => exact absurd sent List.not_mem_nil
    | waiting ready => exact List.mem_singleton.mp sent ▸ ⟨_, rfl⟩
    | answered => exact nomatch idle
  ends r sent b came := by
    cases h with
    | unsent => exact absurd sent List.not_mem_nil
    | waiting => exact absurd came List.not_mem_nil
    | answered b' ready =>
      obtain rfl := List.mem_singleton.mp came
      exact ⟨rfl, _, rfl, Client.comesTo_received _ _ b⟩

/-- The same deal, whatever token the storage gave. -/
def withoutToken (d : Deal) : Deal := { d with token := none }

/-- How a call stands that has this request ready, once this has come back. -/
def standing (s : Settings) (c : Call) (token : Option String) :
    Except BackendError Request → List (Except SendError Arrival) → Deal
  | .error e, _ => ⟨c, token, [], [], .done (.error e)⟩
  | .ok r, [] => ⟨c, token, [r], [], .step (.send r) (Client.finish s c r)⟩
  | .ok r, b :: _ => ⟨c, token, [r], [b], .done (Client.received c r b)⟩

theorem Stands.eq_standing (h : d.Stands s) :
    d = standing s d.call d.token (Client.ready s d.call d.token) d.back := by
  cases h with
  | unsent none => rw [none]; rfl
  | waiting ready => rw [ready]; rfl
  | answered b ready => rw [ready]; rfl

theorem withoutToken_standing (c : Call) (token : Option String)
    (ready : Except BackendError Request) (back : List (Except SendError Arrival)) :
    (standing s c token ready back).withoutToken = standing s c none ready back := by
  cases ready with
  | error e => rfl
  | ok r => cases back <;> rfl

/-- How an exchange stands depends on the grant and on what comes back, and on nothing else. -/
theorem Stands.withoutToken_eq (h : d.Stands s) (anonymous : Client.isForSession d.call = false) :
    d.withoutToken = standing s d.call none (Client.ready s d.call none) d.back := by
  calc d.withoutToken
    _ = (standing s d.call d.token (Client.ready s d.call d.token) d.back).withoutToken :=
      congrArg withoutToken h.eq_standing
    _ = standing s d.call none (Client.ready s d.call d.token) d.back :=
      withoutToken_standing _ _ _ _
    _ = standing s d.call none (Client.ready s d.call none) d.back := by
      rw [Client.ready_of_anonymous anonymous]

end Deal

/-! ### Tokens -/

namespace Traffic

variable {s : Settings} {storage : (op : StorageOp) → StateM σ op.Answer} {t : Traffic σ}

/-- A call stays in its place, with the token that was read for it. -/
theorem named_after (event : Event) {i : Nat} {d : Deal} (found : t.deals[i]? = some d) :
    ∃ d', (t.after s storage event).deals[i]? = some d' ∧ d'.call = d.call ∧ d'.token = d.token := by
  obtain ⟨lt, _⟩ := List.getElem?_eq_some_iff.mp found
  cases event with
  | put c => exact ⟨d, (List.getElem?_append_left lt).trans found, rfl, rfl⟩
  | update p => exact ⟨d, found, rfl, rfl⟩
  | comeBack j b =>
    change ∃ d', (t.comeBack storage j b).deals[i]? = _ ∧ _
    unfold comeBack
    split
    · next c token sent earlier r next at_j =>
      rw [List.getElem?_set]
      split
      · next ij =>
        subst ij
        obtain rfl := Option.some.inj (at_j.symm.trans found)
        exact ⟨_, if_pos lt, rfl, rfl⟩
      · exact ⟨d, found, rfl, rfl⟩
    · exact ⟨d, found, rfl, rfl⟩

/-- Every call that is put gets a place, and the token is read then. -/
theorem named_run (s : Settings) (storage : (op : StorageOp) → StateM σ op.Answer) (st : σ)
    (before after : List Event) (c : Call) :
    ∃ d, (run s storage st (before ++ .put c :: after)).deals[(run s storage st before).deals.length]? =
        some d ∧ d.call = c ∧
      d.token = (SessionStore.token?.runIn storage (run s storage st before).storage).1 := by
  induction after using List.reverseRecOn with
  | nil =>
    rw [run_snoc]
    exact ⟨_, List.getElem?_concat_length, rfl, rfl⟩
  | append_singleton after event ih =>
    obtain ⟨d, found, call, token⟩ := ih
    rw [← List.cons_append, ← List.append_assoc, run_snoc]
    obtain ⟨d', found', call', token'⟩ := named_after event found
    exact ⟨d', found', call'.trans call, token'.trans token⟩

end Traffic

/-! ### Runs -/

namespace Traffic

/-- Whatever is called, comes back and is done to the storage: every call that is put has its place,
with the token of that time, and is orderly; and the rejections of calls for the session are
reported as they come. How an exchange stands is the same in any other run, with any other
storage. -/
theorem authorized_and_reported (s : Settings)
    (storage storage' : (op : StorageOp) → StateM σ op.Answer) (st st' : σ)
    (events events' : List Event) :
    let t := run s storage st events
    let t' := run s storage' st' events'
    let calls := events.filterMap Event.call?
    (∀ before c after, events = before ++ .put c :: after →
        ∃ d, t.deals[(before.filterMap Event.call?).length]? = some d ∧ d.call = c ∧
          d.token = (SessionStore.token?.runIn storage (run s storage st before).storage).1) ∧
      (t.deals.map (·.call) = calls ∧ ∀ d ∈ t.deals, d.Orderly s) ∧
      ((∀ i b, (i, b) ∈ t.back ↔ ∃ d, t.deals[i]? = some d ∧ b ∈ d.back) ∧
        (t.back.map Prod.fst).Nodup) ∧
      t.reported = rejections s.forbiddenPolicy calls t.back ∧
      (∀ d ∈ t.deals, ∀ d' ∈ t'.deals, ∀ grant, d.call = .exchange grant →
        d'.call = .exchange grant →
          d.sent = d'.sent ∧ (d.back = d'.back → d.withoutToken = d'.withoutToken)) := by
  intro t t' calls
  have steady := steady_run s storage st events
  have steady' := steady_run s storage' st' events'
  have orderly : ∀ d ∈ t.deals, d.Orderly s := fun d hd => (steady.stands d hd).orderly
  refine ⟨fun before c after eq => ?_, ⟨steady.put, orderly⟩, ⟨steady.back, steady.once⟩,
    steady.reported, fun d hd d' hd' grant exchanges exchanges' => ?_⟩
  · have place : (run s storage st before).deals.length = (before.filterMap Event.call?).length := by
      rw [← (steady_run s storage st before).put, List.length_map]
    subst eq
    rw [← place]
    exact named_run s storage st before after c
  · have h := steady.stands d hd
    have h' := steady'.stands d' hd'
    have same : d.call = d'.call := exchanges.trans exchanges'.symm
    have anonymous : Client.isForSession d.call = false := exchanges ▸ rfl
    constructor
    · rw [h.sent_eq, h'.sent_eq, ← same, Client.ready_of_anonymous anonymous]
    · intro back
      rw [h.withoutToken_eq anonymous, h'.withoutToken_eq (same ▸ anonymous), same, back]

/-! A token that is replaced while the backend is asked. -/

def nearby : Settings := { backendUrl := "http://[::1]:8080" }

def exchangeCode : Call := .exchange (.code "c" "")

def signedIn : Event :=
  .update (discard (SessionStore.establish ⟨"u1", "t1", "first@x.org", .empty, true⟩))

/-- An answer to a refresh. -/
def longToken : String := "\x7b\"userLongTermToken\":\"t3\"\x7d"

def replacedToken : List Event := [signedIn, .put .currentUser, .put exchangeCode,
  .update (discard (SessionStore.setToken "t2")), .put .connections, .put .refreshToken,
  .comeBack 2 (.ok ⟨401, .whole ""⟩), .comeBack 3 (.ok ⟨200, .whole longToken⟩),
  .comeBack 1 (.ok ⟨403, .brokenOff⟩), .comeBack 0 (.error .timedOut)]

theorem isOk_of_comesTo {d : Deal} (call : d.call = .refreshToken) {result : d.call.Result}
    (h : Client.ComesTo d.call (.ok ⟨200, .whole longToken⟩) result) : result.isOk = true := by
  obtain ⟨_, token, sent, back, rest⟩ := d
  obtain rfl := call
  have readable : (Client.reading .refreshToken longToken).toOption = some "t3" := by
    decide +kernel
  cases h with
  | failed body failure => exact absurd (by decide) failure
  | unreadable success read =>
    rw [read] at readable
    exact nomatch readable
  | answered success read => rfl

open Simulation in
theorem authorized_and_reported_replacedToken :
    (∃ d, (run nearby Memory.answer {} replacedToken).deals[2]? = some d ∧ d.call = .connections ∧
        d.Orderly nearby ∧ d.token = some "t2" ∧
        d.sent.map (·.authorization) = [some "Bearer t2"]) ∧
      (∃ d, (run nearby Memory.answer {} replacedToken).deals[3]? = some d ∧
        d.call = .refreshToken ∧ ∃ result, d.rest = .done result ∧ result.isOk = true) ∧
      (run nearby Memory.answer {} replacedToken).reported = [.unauthenticated] ∧
      ∃ d ∈ (run nearby Memory.answer {} replacedToken).deals,
        ∃ d' ∈ (run nearby Memory.answer ⟨.empty, [.reads]⟩ [.put exchangeCode]).deals,
          d.sent = d'.sent ∧ d.sent.length = 1 := by
  obtain ⟨named, ⟨_, orderly⟩, _, _, alike⟩ := authorized_and_reported nearby Memory.answer
    Memory.answer {} ⟨.empty, [.reads]⟩ replacedToken [.put exchangeCode]
  obtain ⟨_, ⟨puts, _⟩, _⟩ := authorized_and_reported nearby Memory.answer Memory.answer
    ⟨.empty, [.reads]⟩ {} [.put exchangeCode] replacedToken
  obtain ⟨reported, second, third, fourth⟩ :
      (run nearby Memory.answer {} replacedToken).reported = [.unauthenticated] ∧
      (run nearby Memory.answer {} replacedToken).deals[1]?.map (fun d => (d.call, d.sent.length)) =
        some (exchangeCode, 1) ∧
      (run nearby Memory.answer {} replacedToken).deals[2]?.map (fun d =>
        (d.token, d.sent.map (·.authorization))) = some (some "t2", [some "Bearer t2"]) ∧
      (run nearby Memory.answer {} replacedToken).deals[3]?.map (fun d =>
        (d.call, d.sent.length, d.back.map (·.toOption))) =
          some (.refreshToken, 1, [some ⟨200, .whole longToken⟩]) := by
    decide +kernel
  refine ⟨?_, ?_, reported, ?_⟩
  · have placed := named (replacedToken.take 4) .connections (replacedToken.drop 5) rfl
    have place : ((replacedToken.take 4).filterMap Event.call?).length = 2 := rfl
    rw [place] at placed
    obtain ⟨d, found, call, _⟩ := placed
    rw [found] at third
    obtain ⟨token, sent⟩ := Prod.mk.inj (Option.some.inj third)
    exact ⟨d, found, call, orderly d (List.mem_of_getElem? found), token, sent⟩
  · obtain ⟨d, found, eq⟩ := Option.map_eq_some_iff.mp fourth
    obtain ⟨call, eq⟩ := Prod.mk.inj eq
    obtain ⟨sent, came⟩ := Prod.mk.inj eq
    obtain ⟨r, sent⟩ := List.length_eq_one_iff.mp sent
    obtain ⟨b, came, arrived⟩ := List.map_eq_singleton_iff.mp came
    obtain rfl : b = .ok ⟨200, .whole longToken⟩ := by
      cases b with
      | error e => exact nomatch arrived
      | ok arrival => exact congrArg Except.ok (Option.some.inj arrived)
    obtain ⟨_, result, ended, comes⟩ := (orderly d (List.mem_of_getElem? found)).ends r
      (by simp [sent]) (.ok ⟨200, .whole longToken⟩) (by simp [came])
    exact ⟨d, found, call, result, ended, isOk_of_comesTo call comes⟩
  · obtain ⟨d', only, call'⟩ := List.map_eq_singleton_iff.mp puts
    have mem' := only ▸ List.mem_singleton_self d'
    obtain ⟨d, found, eq⟩ := Option.map_eq_some_iff.mp second
    obtain ⟨call, sent⟩ := Prod.mk.inj eq
    have same := alike d (List.mem_of_getElem? found) d' mem' _ call call'
    exact ⟨d, List.mem_of_getElem? found, d', mem', same.1, sent⟩

end Traffic

end AdminConsole.Http
