import AdminConsole.Proofs.Text.Blank
import AdminConsole.SiteMap

/-!
# Paths and routes

The path that is written for a route is read as that route (`resolve_pathFor`), whatever the base
path: a base path is empty or starts with a slash, so there is no white space at the ends of the
path, and no segment has a slash at its ends. Slashes around the segment do no harm
(`resolve_below`), and neither do slashes after the path and white space around it
(`resolve_pathFor_slashes`). -/

namespace AdminConsole

theorem Route.ofSegment?_eq_some_iff {s : String} {r : Route} :
    ofSegment? s = some r ↔ s = r.segment := by
  constructor
  · intro found
    unfold ofSegment? at found
    have named := List.find?_some found
    exact (beq_iff_eq.mp named).symm
  · rintro rfl
    exact ofSegment?_segment r

namespace SiteMap

theorem isSlash_replicate {n : Nat} : ∀ c ∈ List.replicate n '/', isSlash c = true := by
  simp [isSlash]

theorem eq_replicate_of_isSlash {cs : List Char} (h : ∀ c ∈ cs, isSlash c = true) :
    cs = List.replicate cs.length '/' :=
  List.eq_replicate_iff.mpr ⟨rfl, fun c hc => by simpa [isSlash] using h c hc⟩

theorem dropFront_append (front rest : List Char) : dropFront front (front ++ rest) = rest := by
  simp [dropFront]

theorem dropFront_of_other {front cs : List Char} (h : ¬ front <+: cs) :
    dropFront front cs = cs := by
  simp [dropFront, h]

/-- A base path is empty, or a slash and a text with no slash at either end. -/
theorem basePath_cases (m : SiteMap) : m.basePath = "" ∨
    ∃ core, m.basePath.toList = '/' :: core ∧ core ≠ [] ∧ (∀ c ∈ core.head?, isSlash c = false) ∧
      ∀ c ∈ core.getLast?, isSlash c = false := by
  obtain ⟨base, normal⟩ := m.normal
  have ends := Text.ends_stripChars isSlash (Text.trim base).toList
  rw [normal]
  unfold normalBase Text.strip
  generalize Text.stripChars isSlash (Text.trim base).toList = core at ends ⊢
  dsimp only
  split
  · exact .inl rfl
  · next some =>
    refine .inr ⟨core, by simp, ?_, ends⟩
    rintro rfl
    exact some (by simp)

theorem basePath_head (m : SiteMap) : ∀ c ∈ m.basePath.toList.head?, c = '/' := by
  intro c hc
  rcases m.basePath_cases with empty | ⟨core, base, -⟩
  · rw [empty] at hc
    exact nomatch hc
  · rw [base] at hc
    exact (Option.some.inj hc).symm

/-! ### Segments -/

/-- No segment starts or ends with white space or a slash. -/
theorem segment_ends (r : Route) :
    (∀ c ∈ r.segment.toList.head?, isSlash c = false) ∧
      ∀ c ∈ r.segment.toList.getLast?, Text.isBlank c = false ∧ isSlash c = false := by
  have first : r.segment.toList.head?.all (fun c => !isSlash c) = true := by
    cases r <;> decide
  have last : r.segment.toList.getLast?.all (fun c => !Text.isBlank c && !isSlash c) = true := by
    cases r <;> decide
  rw [Option.all_eq_true] at first last
  constructor
  · intro c hc
    simpa using first c hc
  · intro c hc
    simpa using last c hc

theorem segment_ne_nil (r : Route) : r.segment.toList ≠ [] := by cases r <;> decide

/-- Between slashes the segment is found. -/
theorem strip_segment (r : Route) (k j : Nat) :
    Text.stripChars isSlash (List.replicate k '/' ++ r.segment.toList ++ List.replicate j '/') =
      r.segment.toList :=
  Text.stripChars_between (segment_ends r).1 (fun c hc => ((segment_ends r).2 c hc).2)
    isSlash_replicate isSlash_replicate

/-! ### Reading what is left of a path -/

/-- The route whose segment stands between slashes, or user management. -/
def read (cs : List Char) : Route :=
  (Route.ofSegment? (String.ofList (Text.stripChars isSlash cs))).getD .userManagement

theorem resolve_eq (m : SiteMap) (path : String) :
    m.resolve path = read (dropFront m.basePath.toList (Text.trim path).toList) := rfl

theorem read_of_segment {cs : List Char} {r : Route}
    (h : Text.stripChars isSlash cs = r.segment.toList) : read cs = r := by
  rw [read, h, String.ofList_toList, Route.ofSegment?_segment, Option.getD_some]

theorem read_of_no_segment {cs : List Char}
    (h : ∀ r : Route, Text.stripChars isSlash cs ≠ r.segment.toList) :
    read cs = .userManagement := by
  rw [read]
  cases found : Route.ofSegment? (String.ofList (Text.stripChars isSlash cs)) with
  | none => rfl
  | some r =>
    have segment := congrArg String.toList (Route.ofSegment?_eq_some_iff.mp found)
    exact absurd (by rwa [String.toList_ofList] at segment) (h r)

/-! ### Paths below the base path -/

/-- **A segment below the base path leads to its route**, whatever slashes stand around it. -/
theorem resolve_below (m : SiteMap) (r : Route) {path : String} {k j : Nat}
    (h : (Text.trim path).toList = m.basePath.toList ++
      (List.replicate k '/' ++ r.segment.toList ++ List.replicate j '/')) : m.resolve path = r := by
  rw [resolve_eq, h, dropFront_append, read_of_segment (strip_segment r k j)]

theorem toList_pathFor (m : SiteMap) (r : Route) :
    (m.pathFor r).toList = m.basePath.toList ++ '/' :: r.segment.toList := by
  simp [pathFor]

theorem pathFor_head (m : SiteMap) (r : Route) : ∃ cs, (m.pathFor r).toList = '/' :: cs := by
  rw [toList_pathFor]
  rcases m.basePath_cases with root | ⟨core, base, -⟩
  · exact ⟨r.segment.toList, by rw [root]; rfl⟩
  · exact ⟨core ++ '/' :: r.segment.toList, by rw [base]; rfl⟩

/-- A path from a slash on has no white space around it, unless it ends in some. -/
theorem trim_of_slash {path : String} {cs : List Char} (slash : path.toList = '/' :: cs)
    (last : ∀ c ∈ path.toList.getLast?, Text.isBlank c = false) : Text.trim path = path := by
  have head : ∀ c ∈ path.toList.head?, Text.isBlank c = false := by
    intro c hc
    rw [slash] at hc
    exact Option.some.inj hc ▸ rfl
  rw [Text.trim, Text.strip, Text.stripChars_of_ends head last, String.ofList_toList]

theorem pathFor_last (m : SiteMap) (r : Route) :
    ∀ c ∈ (m.pathFor r).toList.getLast?, Text.isBlank c = false := by
  intro c hc
  rw [toList_pathFor] at hc
  have last : c ∈ r.segment.toList.getLast? := by
    cases r <;> simpa [List.getLast?_append, Route.segment] using hc
  exact ((segment_ends r).2 c last).1

theorem trim_pathFor (m : SiteMap) (r : Route) : Text.trim (m.pathFor r) = m.pathFor r := by
  obtain ⟨cs, slash⟩ := m.pathFor_head r
  exact trim_of_slash slash (m.pathFor_last r)

def slashes (n : Nat) : String := String.ofList (List.replicate n '/')

theorem toList_slashes (n : Nat) : (slashes n).toList = List.replicate n '/' :=
  String.toList_ofList

theorem pathFor_slashes_last (m : SiteMap) (r : Route) (n : Nat) :
    ∀ c ∈ (m.pathFor r ++ slashes n).toList.getLast?, Text.isBlank c = false := by
  intro c hc
  rw [String.toList_append, toList_slashes] at hc
  cases n with
  | zero =>
    rw [List.replicate_zero, List.append_nil] at hc
    exact m.pathFor_last r c hc
  | succ n =>
    rw [List.replicate_succ', ← List.append_assoc, List.getLast?_concat] at hc
    exact Option.some.inj hc ▸ rfl

/-- **The path of a route leads to the route**, with slashes after it and white space around it. -/
theorem resolve_pathFor_slashes (m : SiteMap) (r : Route) (n : Nat) (front back : String)
    (hf : Text.isAllBlank front = true) (hb : Text.isAllBlank back = true) :
    m.resolve (front ++ (m.pathFor r ++ slashes n) ++ back) = r := by
  obtain ⟨cs, slash⟩ := m.pathFor_head r
  have begins : (m.pathFor r ++ slashes n).toList = '/' :: (cs ++ (slashes n).toList) := by
    rw [String.toList_append, slash]
    rfl
  refine m.resolve_below r (k := 1) (j := n) ?_
  rw [Text.trim_append hf hb, trim_of_slash begins (m.pathFor_slashes_last r n),
    String.toList_append, toList_pathFor, toList_slashes]
  simp

theorem resolve_pathFor (m : SiteMap) (r : Route) : m.resolve (m.pathFor r) = r := by
  have alone := m.resolve_pathFor_slashes r 0 "" "" rfl rfl
  simpa [slashes] using alone

theorem resolve_pathFor_slash (m : SiteMap) (r : Route) : m.resolve (m.pathFor r ++ "/") = r := by
  have one := m.resolve_pathFor_slashes r 1 "" "" rfl rfl
  simpa [slashes] using one

end SiteMap

end AdminConsole
