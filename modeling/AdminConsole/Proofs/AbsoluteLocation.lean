import AdminConsole.Proofs.WayBack

/-!
# Locations of whole URLs

A path inside the console, with parameters after it in any of the usual ways, is the same location
with a scheme and a host before it as without them (`Location.parse_absolute`). On one side the path
is taken apart into segments and put together again, on the other it is only cut off at the first
mark; the parameters are cut off at the same marks on both sides. -/

namespace AdminConsole.Location

/-- A path of letters, digits, `-`, `_`, `.` and `~` between its slashes, with no dots for a
segment. -/
structure IsSitePath (path : String) : Prop where
  slash : path.toList.head? = some '/'
  chars : ∀ c ∈ path.toList, c = '/' ∨ c = '.' ∨ UrlPath.isNameChar c = true
  noDots : ∀ s ∈ Form.pieces '/' path.toList, s ≠ ['.'] ∧ s ≠ ['.', '.']

/-- The ways in which parameters stand after a path. -/
inductive Attaches : List (String × String) → String → Prop
  | query (ps : List (String × String)) : Attaches ps ("?" ++ Form.encode ps)
  | fragment (ps : List (String × String)) : Attaches ps ("#" ++ Form.encode ps)
  | afterEmptyQuery (ps : List (String × String)) : Attaches ps ("?#" ++ Form.encode ps)
  | nothing : Attaches [] ""

variable {path suffix scheme host : String} {ps : List (String × String)}

/-! ### Paths -/

section path

variable (h : IsSitePath path)

include h

theorem IsSitePath.ascii {c : Char} (mem : c ∈ path.toList) : c.toNat < 128 := by
  rcases h.chars c mem with rfl | rfl | name
  · decide
  · decide
  · exact (UrlPath.isPlain_of_names (List.forall_mem_singleton.mpr name) c List.mem_cons_self).1

theorem IsSitePath.isPath : IsPath path where
  slash := h.slash
  noQuery mem := absurd (h.chars _ mem) (by decide)
  noFragment mem := absurd (h.chars _ mem) (by decide)
  unpadded c last := by
    have mem := List.mem_of_mem_getLast? last
    exact Text.forall_ascii (P := fun c => c = '/' ∨ c = '.' ∨ UrlPath.isNameChar c = true →
      Text.isBlank c = false) (by decide) (h.ascii mem) (h.chars c mem)

/-- Between its slashes the path has segments that are written as they were read. -/
theorem IsSitePath.exists_segments :
    ∃ ts, path.toList = UrlPath.join ts ∧ ts ≠ [] ∧ ∀ t ∈ ts, UrlPath.IsFixed t := by
  obtain ⟨cs, slash⟩ := List.head?_eq_some_iff.mp h.slash
  refine ⟨Form.pieces '/' cs, by rw [slash, UrlPath.join_pieces], Form.pieces_ne_nil '/' cs,
    fun t mem => ?_⟩
  have piece : t ∈ Form.pieces '/' path.toList := by
    rw [slash, ← List.nil_append ('/' :: cs), Form.pieces_append_cons List.not_mem_nil]
    exact List.mem_cons_of_mem _ mem
  have within : ∀ c ∈ t, c.toNat < 128 ∧ (c = '.' ∨ UrlPath.isNameChar c = true) := by
    intro c hc
    obtain ⟨inside, noSlash⟩ := Form.mem_pieces piece c hc
    exact ⟨h.ascii inside, (h.chars c inside).resolve_left noSlash⟩
  have noPercent : '%' ∉ t := fun mark => absurd (within _ mark).2 (by decide)
  have other : ∀ dots : List String, (∀ d ∈ dots, d = "." ∨ d = ".." ∨ '%' ∈ d.toList) →
      String.ofList t ∉ dots := by
    intro dots known found
    rcases known _ found with dot | dot | mark
    · exact (h.noDots t piece).1 (by simpa using congrArg String.toList dot)
    · exact (h.noDots t piece).2 (by simpa using congrArg String.toList dot)
    · exact noPercent (by simpa using mark)
  exact {
    chars := fun c hc => ⟨(within c hc).1, Text.forall_ascii
      (P := fun c => c = '.' ∨ UrlPath.isNameChar c = true →
        UrlPath.isSpecial c = false ∧ UrlPath.isSeparator true c = false) (by decide)
      (within c hc).1 (within c hc).2⟩
    noDot := decide_eq_false (other _ (by decide))
    noDots := decide_eq_false (other _ (by decide)) }

end path

/-! ### Parameters -/

theorem ofParts_query (path : String) (ps : List (String × String)) :
    ofParts path (Form.encode ps).toList [] = ⟨path, .ofList ps⟩ := by
  have none : Form.decode (Form.encode ps).toList = ps := Form.decode_encode ps
  unfold ofParts
  split
  · next empty => rw [← none, List.isEmpty_iff.mp empty]
  · rw [none]

theorem ofParts_fragment (path : String) (ps : List (String × String)) :
    ofParts path [] (Form.encode ps).toList = ⟨path, .ofList ps⟩ := by
  simp only [ofParts, List.isEmpty_nil, if_true, Form.decode_encode]

/-- Parameters are written in a query and a fragment, and read from the first that is not empty. -/
theorem Attaches.exists_marks (attached : Attaches ps suffix) : ∃ query fragment,
    Form.IsForm query ∧ Form.IsForm fragment ∧ suffix = String.ofList (Url.marked query fragment) ∧
      ∀ path, ofParts path (query.getD []) (fragment.getD []) = ⟨path, .ofList ps⟩ := by
  have formed := Form.isForm_encode ps
  cases attached with
  | query ps =>
    refine ⟨some (Form.encode ps).toList, none, formed, Form.isForm_none, ?_,
      fun path => ofParts_query path ps⟩
    rw [Url.marked_query, ← String.toList_inj]
    simp [String.toList_append]
  | fragment ps =>
    refine ⟨none, some (Form.encode ps).toList, Form.isForm_none, formed, ?_,
      fun path => ofParts_fragment path ps⟩
    rw [Url.marked_fragment, ← String.toList_inj]
    simp [String.toList_append]
  | afterEmptyQuery ps =>
    refine ⟨some [], some (Form.encode ps).toList, Form.isForm_some (by simp), formed, ?_,
      fun path => ofParts_fragment path ps⟩
    rw [← String.toList_inj]
    simp [String.toList_append, Url.marked]
  | nothing => exact ⟨none, none, Form.isForm_none, Form.isForm_none, rfl, fun path => rfl⟩

/-! ### The law of whole URLs -/

/-- **A console URL is the location of its path.** With a scheme and a host before it, a path with
its parameters is read as it is without them, and either is the path with these parameters; so both
are one navigation. -/
theorem parse_absolute (site : IsSitePath path) (web : Url.IsWebScheme scheme)
    (letters : ∀ c ∈ host.toList, isLetter c = true) (hasHost : host ≠ "")
    (attached : Attaches ps suffix) :
    parse (scheme ++ "://" ++ host ++ (path ++ suffix)) = parse (path ++ suffix) ∧
      parse (path ++ suffix) = ⟨path, .ofList ps⟩ ∧
      ∀ n : Navigator, n.navigate (scheme ++ "://" ++ host ++ (path ++ suffix)) =
        n.navigate (path ++ suffix) := by
  obtain ⟨ts, joined, hasSegment, segments⟩ := site.exists_segments
  obtain ⟨query, fragment, formedQuery, formedFragment, rfl, read⟩ := attached.exists_marks
  have place : Url.IsPlace scheme host.toList ts :=
    ⟨web, letters, by simpa using hasHost, segments, hasSegment⟩
  have written : scheme ++ "://" ++ host ++ (path ++ String.ofList (Url.marked query fragment)) =
      String.ofList (Url.place scheme host.toList ts ++ Url.marked query fragment) := by
    rw [← String.toList_inj]
    simp [String.toList_append, Url.place, Url.hierarchy, joined]
  have whole : parse (scheme ++ "://" ++ host ++
      (path ++ String.ofList (Url.marked query fragment))) = ⟨path, .ofList ps⟩ := by
    rw [written, parse_place place formedQuery formedFragment, read, ← joined, String.ofList_toList]
  have relative : parse (path ++ String.ofList (Url.marked query fragment)) =
      ⟨path, .ofList ps⟩ := by
    rw [parse_marked site.isPath formedQuery formedFragment, read]
  have same := whole.trans relative.symm
  refine ⟨same, relative, fun n => ?_⟩
  rw [Navigator.navigate, Navigator.navigate, same]

/-- Dots and slashes in the path, and marks in the parameters behind an empty query. -/
theorem parse_absolute_marks :
    parse ("https" ++ "://" ++ "hub" ++ ("/.../a.b//~" ++ "?#%C3%A9=%26%23&=+")) =
        parse ("/.../a.b//~" ++ "?#%C3%A9=%26%23&=+") ∧
      parse ("/.../a.b//~" ++ "?#%C3%A9=%26%23&=+") =
        ⟨"/.../a.b//~", .ofList [("é", "&#"), ("", " ")]⟩ := by
  have site : IsSitePath "/.../a.b//~" := by
    refine ⟨by decide, ?_, ?_⟩
    · have chars : "/.../a.b//~".toList.all
        (fun c => c == '/' || c == '.' || UrlPath.isNameChar c) = true := by decide
      simpa [or_assoc] using chars
    · have dots : (Form.pieces '/' "/.../a.b//~".toList).all
        (fun s => s != ['.'] && s != ['.', '.']) = true := by decide
      simpa using dots
  have attached : Attaches [("é", "&#"), ("", " ")] "?#%C3%A9=%26%23&=+" := by
    have written : "?#%C3%A9=%26%23&=+" = "?#" ++ Form.encode [("é", "&#"), ("", " ")] := by
      decide +kernel
    rw [written]
    exact .afterEmptyQuery _
  have letters : ∀ c ∈ "hub".toList, isLetter c = true := List.all_eq_true.mp (by decide)
  obtain ⟨same, read, -⟩ := parse_absolute site (.inr rfl) letters (by decide) attached
  exact ⟨same, read⟩

end AdminConsole.Location
