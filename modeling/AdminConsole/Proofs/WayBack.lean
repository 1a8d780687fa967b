import Mathlib.Data.List.Basic
import AdminConsole.Proofs.Grants
import AdminConsole.Proofs.LocationText

/-!
# The way back from the provider

The address that the provider is told to send users back to is put together from the settings, and
the provider adds its grant, as a code in the query or as a token in the fragment. When the user
comes back, the address is taken apart again: it is read as a URL, its path below the base path is
read as a route, and its query or its fragment as a form. For a plain deployment this gives the
login and the grant that was sent (`Settings.comes_back`). -/

namespace AdminConsole

open Program

/-! ### Plain deployments -/

/-- The characters of a segment of a base path. -/
def UrlPath.isNameChar (c : Char) : Bool := c.isAlphanum || c == '-' || c == '_' || c == '~'

namespace UrlPath

variable {cs : List Char}

theorem isPlain_of_names {s : List Char} (h : ∀ c ∈ s, isNameChar c = true) : IsPlain s := by
  intro c mem
  have name := h c mem
  have ascii : c.toNat < 128 := by
    simp only [isNameChar, Bool.or_eq_true, beq_iff_eq] at name
    rcases name with ((alphanum | rfl) | rfl) | rfl
    · exact Form.toNat_lt_of_isAlphanum alphanum
    all_goals decide
  exact ⟨ascii, Text.forall_ascii (P := fun c => isNameChar c = true → isSpecial c = false ∧
    isSeparator true c = false ∧ c ≠ '.' ∧ c ≠ '%') (by decide) ascii name⟩

/-- A text is what stands before its first slash, and the segments after it. -/
theorem exists_join (h : ∀ c ∈ cs, c = '/' ∨ isNameChar c = true) :
    ∃ s ss, cs = s ++ join ss ∧ ∀ t ∈ s :: ss, ∀ c ∈ t, isNameChar c = true := by
  obtain ⟨s, ss, parts⟩ := List.exists_cons_of_ne_nil (Form.pieces_ne_nil '/' cs)
  have joined := join_pieces cs
  rw [parts] at joined
  refine ⟨s, ss, (List.cons.inj joined).2.symm, fun t mem c hc => ?_⟩
  obtain ⟨inside, noSlash⟩ := Form.mem_pieces (parts ▸ mem) c hc
  exact (h c inside).resolve_left noSlash

end UrlPath

/-- The backend is found at a scheme and a host alone, with any number of slashes after it; the base
path has nothing but letters, digits, `-`, `_` and `~` between its slashes; and no other address is
set for the way back. -/
structure Settings.IsPlain (s : Settings) (scheme : String) (host : List Char) (slashes : Nat) :
    Prop where
  web : Url.IsWebScheme scheme
  letters : ∀ c ∈ host, isLetter c = true
  hasHost : host ≠ []
  backend : s.backendUrl.toList =
    scheme.toList ++ "://".toList ++ host ++ List.replicate slashes '/'
  base : ∀ c ∈ s.siteMap.basePath.toList, c = '/' ∨ UrlPath.isNameChar c = true
  redirectUri : s.redirectUri = none

namespace Settings.IsPlain

variable {s : Settings} {scheme : String} {host : List Char} {slashes : Nat}

/-- The base path is written with its segments. -/
theorem exists_segments (plain : s.IsPlain scheme host slashes) :
    ∃ ss, s.siteMap.basePath.toList = UrlPath.join ss ∧ ∀ t ∈ ss, UrlPath.IsPlain t := by
  obtain ⟨front, ss, joined, names⟩ := UrlPath.exists_join plain.base
  rw [List.forall_mem_cons] at names
  refine ⟨ss, ?_, fun t mem => UrlPath.isPlain_of_names (names.2 t mem)⟩
  -- A base path starts with a slash, so nothing stands before its first one.
  cases front with
  | nil => exact joined
  | cons c front =>
    have slash : c = '/' := s.siteMap.basePath_head c (by rw [joined]; rfl)
    exact absurd (slash ▸ names.1 c List.mem_cons_self) (by decide)

/-- The slashes after the host are left out. -/
theorem stripEnd_backend (plain : s.IsPlain scheme host slashes) :
    (Text.stripEnd SiteMap.isSlash s.backendUrl).toList =
      scheme.toList ++ "://".toList ++ host := by
  rw [Text.stripEnd, String.toList_ofList, plain.backend,
    Text.dropEndWhile_append SiteMap.isSlash_replicate, Text.dropEndWhile_of_last]
  intro c last
  rw [List.getLast?_append_of_ne_nil _ plain.hasHost] at last
  have letter := plain.letters c (List.mem_of_mem_getLast? last)
  exact beq_eq_false_iff_ne.mpr (Url.letter_ne letter (by decide))

/-- The address for the way back, as it is put together. -/
theorem exists_place (plain : s.IsPlain scheme host slashes) :
    ∃ ts, s.effectiveRedirectUri.toList = Url.place scheme host ts ∧
      UrlPath.join ts = s.siteMap.basePath.toList ++ "/login/".toList ∧
      (∀ t ∈ ts, UrlPath.IsPlain t) ∧ ts ≠ [] := by
  obtain ⟨ss, joined, segments⟩ := plain.exists_segments
  have login : UrlPath.join ["login".toList, []] = "/login/".toList := by decide
  have path : UrlPath.join (ss ++ ["login".toList, []]) =
      s.siteMap.basePath.toList ++ "/login/".toList := by
    rw [UrlPath.join_append, login, joined]
  refine ⟨ss ++ ["login".toList, []], ?_, path, ?_, by simp⟩
  · rw [effectiveRedirectUri, plain.redirectUri, Option.getD_none, String.toList_append,
      String.toList_append, plain.stripEnd_backend, Url.place, Url.hierarchy, path]
    simp
  · have names : "login".toList.all UrlPath.isNameChar = true := by decide
    have last : UrlPath.IsPlain "login".toList :=
      UrlPath.isPlain_of_names (List.all_eq_true.mp names)
    have empty : UrlPath.IsPlain [] := fun _ mem => absurd mem List.not_mem_nil
    rw [List.forall_mem_append]
    exact ⟨segments, List.forall_mem_cons.mpr ⟨last, List.forall_mem_singleton.mpr empty⟩⟩

end Settings.IsPlain

/-! ### Addresses with one parameter -/

/-- A map with one entry. -/
theorem TextMap.get?_ofList_pair (key value key' : String) :
    (ofList [(key, value)]).get? key' = if key' = key then some value else none :=
  get?_insert .empty key key' value

namespace Location

variable {scheme key value path : String} {host : List Char} {ts : List (List Char)}

theorem param?_pair (given : Text.isAllBlank value = false) :
    param? ⟨path, .ofList [(key, value)]⟩ key = some (Text.trim value) := by
  rw [param?, TextMap.get?_ofList_pair, if_pos rfl, Text.given?, Option.filter_some, given]
  rfl

theorem param?_pair_other {key' : String} (other : key' ≠ key) :
    param? ⟨path, .ofList [(key, value)]⟩ key' = none := by
  rw [param?, TextMap.get?_ofList_pair, if_neg other]
  rfl

theorem parse_query (h : Url.IsPlain scheme host ts (Form.encodePair (key, value))) :
    parse (String.ofList (Url.place scheme host ts ++ '?' :: Form.encodePair (key, value))) =
      ⟨String.ofList (UrlPath.join ts), .ofList [(key, value)]⟩ := by
  have nonempty : (Form.encodePair (key, value)).isEmpty = false := by simp [Form.encodePair]
  rw [← Url.marked_query, parse_place h.isPlace h.isForm Form.isForm_none]
  simp only [ofParts, Option.getD_some, nonempty, Bool.false_eq_true, if_false,
    Form.decode_encodePair]

theorem parse_fragment (h : Url.IsPlain scheme host ts (Form.encodePair (key, value))) :
    parse (String.ofList (Url.place scheme host ts ++ '#' :: Form.encodePair (key, value))) =
      ⟨String.ofList (UrlPath.join ts), .ofList [(key, value)]⟩ := by
  rw [← Url.marked_fragment, parse_place h.isPlace Form.isForm_none h.isForm]
  simp only [ofParts, Option.getD_some, Option.getD_none, List.isEmpty_nil, if_true,
    Form.decode_encodePair]

end Location

/-! ### The way back -/

/-- The text leads to the login, and the grant is exchanged there, once and no other. -/
def Navigator.Redeems (n : Navigator) (text : String) (grant : Grant) : Prop :=
  n.siteMap.resolve (Location.parse text).path = .login ∧
    ∀ (es : Trace) (result : Navigator.Result), Runs (n.navigate text) es result →
      es.grants = [grant]

namespace Settings

variable {s : Settings} {scheme : String} {host : List Char} {slashes : Nat} {c : String}

theorem resolve_login {ts : List (List Char)}
    (path : UrlPath.join ts = s.siteMap.basePath.toList ++ "/login/".toList) :
    s.siteMap.resolve (String.ofList (UrlPath.join ts)) = .login := by
  have written : String.ofList (UrlPath.join ts) = s.siteMap.pathFor .login ++ "/" := by
    rw [← String.toList_inj, String.toList_ofList, path, String.toList_append,
      SiteMap.toList_pathFor, List.append_assoc]
    rfl
  rw [written, SiteMap.resolve_pathFor_slash]

/-- A location that names the login and a grant redeems the grant. -/
theorem redeems {text path key : String} {grant : Grant}
    (parsed : Location.parse text = ⟨path, .ofList [(key, c)]⟩)
    (resolved : s.siteMap.resolve path = .login)
    (found : (Navigator.ofSettings s s.siteMap).login.grant? ⟨path, .ofList [(key, c)]⟩ =
      some grant) : (Navigator.ofSettings s s.siteMap).Redeems text grant := by
  have login : s.siteMap.resolve (Location.parse text).path = .login := by rw [parsed, resolved]
  refine ⟨login, fun es result run => ?_⟩
  have carried : (Navigator.ofSettings s s.siteMap).login.grant? (.parse text) = some grant := by
    rw [parsed, found]
  have registry : (Navigator.ofSettings s s.siteMap).registry =
      .standard s.siteMap s.helpLink := rfl
  exact Navigator.grants_navigate registry login carried run

/-- A parameter at the end of an address is written as a pair. -/
theorem append_pair (mark : Char) (key : String) {ts : List (List Char)} {uri front : String}
    (written : uri.toList = Url.place scheme host ts)
    (split : front.toList = mark :: (Form.encodeText key ++ ['='])) :
    uri ++ front ++ String.ofList (Form.encodeText c) =
      String.ofList (Url.place scheme host ts ++ mark :: Form.encodePair (key, c)) := by
  rw [← String.toList_inj, String.toList_append, String.toList_append, String.toList_ofList,
    String.toList_ofList, written, split, Form.encodePair]
  simp

/-- **The provider's redirect comes back to the login with its grant**, whatever the storage and the
backend answer. -/
theorem comes_back (plain : s.IsPlain scheme host slashes) (given : Text.isAllBlank c = false) :
    (Navigator.ofSettings s s.siteMap).Redeems
        (s.effectiveRedirectUri ++ "?code=" ++ String.ofList (Form.encodeText c))
        (.code (Text.trim c) s.effectiveRedirectUri) ∧
      (Navigator.ofSettings s s.siteMap).Redeems
        (s.effectiveRedirectUri ++ "#access_token=" ++ String.ofList (Form.encodeText c))
        (.accessToken (Text.trim c) s.effectiveRedirectUri) := by
  obtain ⟨ts, written, path, segments, hasSegment⟩ := plain.exists_place
  have params : ∀ key, Url.IsPlain scheme host ts (Form.encodePair (key, c)) := fun key =>
    ⟨plain.web, plain.letters, plain.hasHost, segments, hasSegment,
      fun _ => Form.isPairChar_of_mem⟩
  have resolved := resolve_login path
  constructor
  · rw [append_pair '?' "code" written (by decide)]
    refine redeems (Location.parse_query (params "code")) resolved ?_
    rw [Login.grant?, Location.param?_pair_other (by decide), Location.param?_pair given]
    rfl
  · rw [append_pair '#' "access_token" written (by decide)]
    refine redeems (Location.parse_fragment (params "access_token")) resolved ?_
    rw [Login.grant?, Location.param?_pair given]
    rfl

/-- Settings with more slashes and white space than there need to be. -/
def padded : Settings := { backendUrl := "https://hub//", uiBasePath := " /psama-ui/v2/ " }

theorem isPlain_padded : padded.IsPlain "https" "hub".toList 2 where
  web := .inr rfl
  letters := List.all_eq_true.mp (by decide)
  hasHost := by decide
  backend := by decide
  base := by
    have all : padded.siteMap.basePath.toList.all (fun c => c == '/' || UrlPath.isNameChar c) =
      true := by decide +kernel
    simpa using all
  redirectUri := rfl

theorem comes_back_padded :
    padded.IsPlain "https" "hub".toList 2 ∧ Text.isAllBlank " a+b " = false ∧
      (Navigator.ofSettings padded padded.siteMap).Redeems
        "https://hub/psama-ui/v2/login/?code=+a%2Bb+"
        (.code "a+b" "https://hub/psama-ui/v2/login/") ∧
      (Navigator.ofSettings padded padded.siteMap).Redeems
        "https://hub/psama-ui/v2/login/#access_token=+a%2Bb+"
        (.accessToken "a+b" "https://hub/psama-ui/v2/login/") ∧
      ∃ (es : Trace) (result : Navigator.Result),
        Runs ((Navigator.ofSettings padded padded.siteMap).navigate
          "https://hub/psama-ui/v2/login/?code=+a%2Bb+") es result ∧
        es.grants = [.code "a+b" "https://hub/psama-ui/v2/login/"] := by
  have given : Text.isAllBlank " a+b " = false := by decide
  obtain ⟨withCode, withToken⟩ := comes_back isPlain_padded given
  have uri : padded.effectiveRedirectUri = "https://hub/psama-ui/v2/login/" := by decide +kernel
  have code : "https://hub/psama-ui/v2/login/" ++ "?code=" ++
      String.ofList (Form.encodeText " a+b ") = "https://hub/psama-ui/v2/login/?code=+a%2Bb+" := by
    decide +kernel
  have token : "https://hub/psama-ui/v2/login/" ++ "#access_token=" ++
      String.ofList (Form.encodeText " a+b ") =
        "https://hub/psama-ui/v2/login/#access_token=+a%2Bb+" := by decide +kernel
  have trimmed : Text.trim " a+b " = "a+b" := by decide
  rw [uri, code, trimmed] at withCode
  rw [uri, token, trimmed] at withToken
  obtain ⟨es, result, run⟩ := exists_run ((Navigator.ofSettings padded padded.siteMap).navigate
    "https://hub/psama-ui/v2/login/?code=+a%2Bb+")
  exact ⟨isPlain_padded, given, withCode, withToken, es, result, run, withCode.2 es result run⟩

end Settings

end AdminConsole
