import AdminConsole.Proofs.Url.Parse
import AdminConsole.Provider

/-!
# What a login tells the provider

The authorization URL is the endpoint with pairs added to its query. They are read back as they were
given, after the endpoint's own pairs (`Url.queryPairs_addPairs`), so that a client id or a redirect
URI stays one value whatever stands in it (`Provider.authorizationUrl_carries`). -/

namespace AdminConsole

/-! ### Pairs in a query -/

namespace Url

/-- The pairs that a URL has in its query. -/
def queryPairs (u : Url) : List (String × String) := Form.decode (u.query.getD "").toList

theorem decode_addPair (query : String) (pair : String × String) :
    Form.decode (addPair query pair).toList = Form.decode query.toList ++ [pair] := by
  have written : Form.decode (Form.encodePair pair) = [pair] :=
    Form.decode_encodePair pair.1 pair.2
  by_cases empty : query = ""
  · subst empty
    have alone : (addPair "" pair).toList = Form.encodePair pair := by simp [addPair]
    rw [alone, written]
    rfl
  · have after : (addPair query pair).toList = query.toList ++ '&' :: Form.encodePair pair := by
      simp [addPair, empty]
    rw [after, Form.decode_append, written]

theorem decode_foldl_addPair (query : String) (ps : List (String × String)) :
    Form.decode (ps.foldl addPair query).toList = Form.decode query.toList ++ ps := by
  -- The query is kept general, as each pair is added to a longer one.
  induction ps generalizing query with
  | nil => exact (List.append_nil _).symm
  | cons pair ps ih =>
    rw [List.foldl_cons, ih, decode_addPair, List.append_assoc, List.singleton_append]

/-- **Pairs that are added come after those that are there.** -/
theorem queryPairs_addPairs (u : Url) (ps : List (String × String)) :
    (u.addPairs ps).queryPairs = u.queryPairs ++ ps :=
  decode_foldl_addPair (u.query.getD "") ps

end Url

/-! ### Where a login starts -/

namespace Provider

variable {p : Provider} {redirectUri : String}

theorem authorizationUrl_of_blank (blank : Text.isAllBlank p.clientId = true) :
    p.authorizationUrl redirectUri = .error (.missingClientId p.name) := by
  rw [authorizationUrl, if_pos blank]
  rfl

theorem authorizationUrl_of_given (given : Text.isAllBlank p.clientId = false) :
    p.authorizationUrl redirectUri =
      ((Url.parse p.endpoint).mapError (.invalidUrl · p.endpoint)).map
        (·.addPairs (p.pairs redirectUri)) := by
  rw [authorizationUrl, if_neg (by simp [given]), parseUrl]
  cases Url.parse p.endpoint <;> rfl

/-- Between providers of one kind, only the two values that are passed on differ. -/
theorem lookup_pairs_of_name {q : Provider} (sameKind : q.name = p.name) (otherUri : String)
    {key : String} (notId : key ≠ "client_id") (notUri : key ≠ "redirect_uri") :
    (q.pairs otherUri).lookup key = (p.pairs redirectUri).lookup key := by
  have id : (key == "client_id") = false := beq_eq_false_iff_ne.mpr notId
  have uri : (key == "redirect_uri") = false := beq_eq_false_iff_ne.mpr notUri
  cases p <;> cases q
  · simp [pairs, List.lookup_cons, id, uri]
  · simp [name] at sameKind
  · simp [name] at sameKind
  · simp [pairs, List.lookup_cons, id, uri]

/-- **The provider is told what is configured.** A login has no place to start without a client id,
or else if the endpoint is no URL. It starts at the endpoint otherwise, whose query then has four
pairs more: among them the client id and the redirect URI, with which nothing else changes. -/
theorem authorizationUrl_carries (p : Provider) (redirectUri : String) :
    (∀ name, p.authorizationUrl redirectUri = .error (.missingClientId name) ↔
      Text.isAllBlank p.clientId = true ∧ name = p.name) ∧
    (∀ cause text, p.authorizationUrl redirectUri = .error (.invalidUrl cause text) ↔
      Text.isAllBlank p.clientId = false ∧ Url.parse p.endpoint = .error cause ∧
        text = p.endpoint) ∧
    (∀ start, Text.isAllBlank p.clientId = false → Url.parse p.endpoint = .ok start →
      ∃ url, p.authorizationUrl redirectUri = .ok url ∧ { url with query := start.query } = start ∧
        url.queryPairs = start.queryPairs ++ p.pairs redirectUri) ∧
    (p.pairs redirectUri).length = 4 ∧
    (p.pairs redirectUri).lookup "client_id" = some p.clientId ∧
    (p.pairs redirectUri).lookup "redirect_uri" = some redirectUri ∧
    ∀ (q : Provider) (otherUri key : String), q.name = p.name → key ≠ "client_id" →
      key ≠ "redirect_uri" → (q.pairs otherUri).lookup key = (p.pairs redirectUri).lookup key := by
  refine ⟨fun name => ?_, fun cause text => ?_, fun start given parsed => ?_, ?_, ?_, ?_,
    fun q otherUri key sameKind notId notUri => lookup_pairs_of_name sameKind otherUri notId notUri⟩
  · cases blank : Text.isAllBlank p.clientId with
    | true => simp [authorizationUrl_of_blank blank, eq_comm]
    | false =>
      rw [authorizationUrl_of_given blank]
      cases Url.parse p.endpoint <;> simp [Except.mapError, Except.map]
  · cases blank : Text.isAllBlank p.clientId with
    | true => simp [authorizationUrl_of_blank blank]
    | false =>
      rw [authorizationUrl_of_given blank]
      cases Url.parse p.endpoint <;> simp [Except.mapError, Except.map, eq_comm]
  · refine ⟨start.addPairs (p.pairs redirectUri), ?_, rfl, Url.queryPairs_addPairs start _⟩
    rw [authorizationUrl_of_given given, parsed]
    rfl
  · cases p <;> rfl
  · cases p <;> rfl
  · cases p <;> rfl

/-- Marks of a query in the client id and in the redirect URI, and an endpoint with a query and a
fragment. -/
theorem authorizationUrl_carries_marks :
    ∃ url, (fence "a&b=c #é" "https://hub/sign?x=1&&y=#top").authorizationUrl "/in?scope=+&%26" =
        .ok url ∧
      url.path = "/sign" ∧ url.fragment = some "top" ∧
      url.queryPairs = [("x", "1"), ("y", ""), ("response_type", "code"), ("scope", "user openid"),
        ("client_id", "a&b=c #é"), ("redirect_uri", "/in?scope=+&%26")] := by
  have sign : UrlPath.IsPlain "sign".toList := by
    have chars : "sign".toList.all (fun c => c.toNat < 128 && !UrlPath.isSpecial c &&
      !UrlPath.isSeparator true c && c != '.' && c != '%') = true := by decide
    simpa [UrlPath.IsPlain, and_assoc] using chars
  have place : Url.IsPlace "https" "hub".toList ["sign".toList] := {
    web := .inr rfl
    letters := List.all_eq_true.mp (by decide)
    hasHost := by decide
    segments := List.forall_mem_singleton.mpr sign.isFixed
    hasSegment := by decide }
  have query : ∀ c ∈ "x=1&&y=".toList, Form.isFormChar c = true := List.all_eq_true.mp (by decide)
  have top : ∀ c ∈ "top".toList, Form.isFormChar c = true := List.all_eq_true.mp (by decide)
  have endpoint : (fence "a&b=c #é" "https://hub/sign?x=1&&y=#top").endpoint =
      String.ofList (Url.place "https" "hub".toList ["sign".toList] ++
        Url.marked (some "x=1&&y=".toList) (some "top".toList)) := by decide
  have parsed : Url.parse (fence "a&b=c #é" "https://hub/sign?x=1&&y=#top").endpoint =
      .ok ⟨"https", some (Url.named "hub".toList), "/sign", some "x=1&&y=", some "top"⟩ := by
    rw [endpoint]
    exact place.parse_marked (Form.isForm_some query) (Form.isForm_some top)
  have given : Text.isAllBlank (fence "a&b=c #é" "https://hub/sign?x=1&&y=#top").clientId = false :=
    by decide
  obtain ⟨-, -, starts, -⟩ :=
    authorizationUrl_carries (fence "a&b=c #é" "https://hub/sign?x=1&&y=#top") "/in?scope=+&%26"
  obtain ⟨url, started, kept, carried⟩ := starts _ given parsed
  have own : Form.decode "x=1&&y=".toList = [("x", "1"), ("y", "")] := by decide +kernel
  have path := congrArg Url.path kept
  have fragment := congrArg Url.fragment kept
  refine ⟨url, started, path, fragment, carried.trans ?_⟩
  rw [Url.queryPairs, Option.getD_some, own]
  rfl

end Provider

end AdminConsole
