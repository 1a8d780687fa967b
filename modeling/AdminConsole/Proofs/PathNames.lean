import AdminConsole.Proofs.SiteMap

/-!
# The routes that paths name

A path names a route if it is the route's segment between slashes, or the base path, slashes and the
segment (`SiteMap.Names`); any other path means user management (`SiteMap.Means`). The front that
equals the base path is taken off a path as it stands, wherever the segments end. So a path is read
as what it means unless the base path runs into a segment (`SiteMap.RunsInto`), or into a path that
names its route alone (`SiteMap.Swallows`). Main statement: `SiteMap.means_resolve_iff`. -/

namespace AdminConsole

/-- No segment ends in another one. -/
theorem Route.eq_of_suffix {r r' : Route} (h : r.segment.toList <:+ r'.segment.toList) :
    r = r' := by
  have apart : ∀ a ∈ all, ∀ b ∈ all, a.segment.toList <:+ b.segment.toList → a = b := by decide
  exact apart r (mem_all r) r' (mem_all r') h

theorem Route.eq_of_segment {r r' : Route} (h : r.segment.toList = r'.segment.toList) : r = r' :=
  eq_of_suffix (h ▸ List.suffix_rfl)

namespace SiteMap

/-! ### What a path means -/

/-- The path is the route's segment between slashes, or the base path, slashes and the segment;
white space around the path and slashes at its end are passed over. -/
def Names (m : SiteMap) (path : String) (r : Route) : Prop :=
  Text.stripChars isSlash (Text.trim path).toList = r.segment.toList ∨
    ∃ k j, (Text.trim path).toList = m.basePath.toList ++
      (List.replicate (k + 1) '/' ++ r.segment.toList ++ List.replicate j '/')

/-- A path that names no route means user management. -/
def Means (m : SiteMap) (path : String) (r : Route) : Prop :=
  m.Names path r ∨ r = .userManagement ∧ ∀ r', ¬ m.Names path r'

/-- The base path is followed by the segment with no slash in between. -/
def RunsInto (m : SiteMap) (path : String) (r : Route) : Prop :=
  m.basePath ≠ "" ∧ ∃ j, (Text.trim path).toList =
    m.basePath.toList ++ (r.segment.toList ++ List.replicate j '/')

/-- The path names the route alone, and it starts with the base path. -/
def Swallows (m : SiteMap) (path : String) (r : Route) : Prop :=
  m.basePath ≠ "" ∧ m.basePath.toList <+: (Text.trim path).toList ∧
    Text.stripChars isSlash (Text.trim path).toList = r.segment.toList

variable {m : SiteMap} {path : String} {r : Route} {cs rest : List Char}

/-! ### Ends of paths -/

theorem exists_slashes (h : Text.stripChars isSlash cs = r.segment.toList) :
    ∃ k j, cs = List.replicate k '/' ++ r.segment.toList ++ List.replicate j '/' := by
  obtain ⟨front, back, hf, hb, eq⟩ := Text.exists_ends isSlash cs
  rw [h, eq_replicate_of_isSlash hf, eq_replicate_of_isSlash hb] at eq
  exact ⟨_, _, eq⟩

/-- A route's segment alone on a path that starts with the base path begins with the core. -/
theorem strip_below {core : List Char} (base : m.basePath.toList = '/' :: core) (more : core ≠ [])
    (head : ∀ c ∈ core.head?, isSlash c = false) (last : ∀ c ∈ core.getLast?, isSlash c = false) :
    Text.stripChars isSlash (m.basePath.toList ++ rest) =
      core ++ Text.dropEndWhile isSlash rest := by
  have front : (m.basePath.toList ++ rest).dropWhile isSlash = core ++ rest := by
    rw [base, List.cons_append, List.dropWhile_cons_of_pos (by rfl), Text.dropWhile_of_head]
    cases core with
    | nil => exact absurd rfl more
    | cons c cs => exact head
  rw [Text.stripChars, front, Text.dropEndWhile_append_of_last last]

theorem dropEndWhile_segment (k j : Nat) (r : Route) :
    Text.dropEndWhile isSlash (List.replicate k '/' ++ r.segment.toList ++ List.replicate j '/') =
      List.replicate k '/' ++ r.segment.toList := by
  rw [Text.dropEndWhile_append isSlash_replicate, Text.dropEndWhile_of_last]
  intro c hc
  have last : c ∈ r.segment.toList.getLast? := by
    rw [List.getLast?_append] at hc
    cases segment : r.segment.toList.getLast? with
    | none => exact absurd (List.getLast?_eq_none_iff.mp segment) (segment_ne_nil r)
    | some d => rwa [segment] at hc
  exact ((segment_ends r).2 c last).2

/-- Where a path names a route alone, no segment is left of it after the base path: it would be the
end of the route's own. -/
theorem strip_ne_of_swallowed (notRoot : m.basePath ≠ "")
    (h : Text.stripChars isSlash (m.basePath.toList ++ rest) = r.segment.toList) (r' : Route) :
    Text.stripChars isSlash rest ≠ r'.segment.toList := by
  intro left
  obtain ⟨core, base, more, head, last⟩ := m.basePath_cases.resolve_left notRoot
  obtain ⟨k, j, rfl⟩ := exists_slashes left
  rw [strip_below base more head last, dropEndWhile_segment, ← List.append_assoc] at h
  obtain rfl : r' = r := Route.eq_of_suffix ⟨_, h⟩
  have short := congrArg List.length h
  simp only [List.length_append] at short
  exact more (List.length_eq_zero_iff.mp (by omega))

/-! ### What a path is read as -/

theorem segment_append_head (r : Route) (cs : List Char) :
    (r.segment.toList ++ cs).head? ≠ some '/' := by
  intro slash
  have head := (segment_ends r).1
  cases segment : r.segment.toList with
  | nil => exact segment_ne_nil r segment
  | cons c cs' =>
    rw [segment] at slash head
    exact absurd (head '/' slash) (by decide)

/-- Below the base path a route is named with a slash in between. -/
theorem below_iff (h : (Text.trim path).toList = m.basePath.toList ++ rest) :
    (∃ k j, (Text.trim path).toList = m.basePath.toList ++
      (List.replicate (k + 1) '/' ++ r.segment.toList ++ List.replicate j '/')) ↔
      rest.head? = some '/' ∧ Text.stripChars isSlash rest = r.segment.toList := by
  rw [h]
  constructor
  · rintro ⟨k, j, eq⟩
    rw [List.append_cancel_left eq]
    exact ⟨rfl, strip_segment r (k + 1) j⟩
  · rintro ⟨slash, left⟩
    obtain ⟨k, j, rfl⟩ := exists_slashes left
    cases k with
    | zero => exact absurd slash (segment_append_head r _)
    | succ k => exact ⟨k, j, rfl⟩

/-- The base path runs into a segment where the segment is left and no slash is before it. -/
theorem runsInto_iff (notRoot : m.basePath ≠ "")
    (h : (Text.trim path).toList = m.basePath.toList ++ rest) : m.RunsInto path r ↔
      rest.head? ≠ some '/' ∧ Text.stripChars isSlash rest = r.segment.toList := by
  rw [RunsInto, h]
  constructor
  · rintro ⟨-, j, eq⟩
    rw [List.append_cancel_left eq]
    exact ⟨segment_append_head r _, strip_segment r 0 j⟩
  · rintro ⟨noSlash, left⟩
    obtain ⟨k, j, rfl⟩ := exists_slashes left
    cases k with
    | zero => exact ⟨notRoot, j, rfl⟩
    | succ k => exact absurd rfl noSlash

/-- A path that names no route but alone is read by its own segment. -/
theorem means_read (alone : ∀ r, m.Names path r →
      Text.stripChars isSlash (Text.trim path).toList = r.segment.toList) :
    m.Means path (read (Text.trim path).toList) := by
  by_cases named : ∃ r, m.Names path r
  · obtain ⟨r, named⟩ := named
    rw [read_of_segment (alone r named)]
    exact .inl named
  · rw [not_exists] at named
    exact .inr ⟨read_of_no_segment fun r eq => named r (.inl eq), named⟩

/-- Where the base path runs into a segment, the path means user management and is read as the
segment's route. -/
theorem RunsInto.misread (h : m.RunsInto path r) :
    m.resolve path = r ∧ ∀ r', ¬ m.Names path r' := by
  obtain ⟨notRoot, j, eq⟩ := id h
  refine ⟨m.resolve_below r (k := 0) eq, fun r' => ?_⟩
  obtain ⟨noSlash, left⟩ := (runsInto_iff notRoot eq).mp h
  rintro (alone | below)
  · rw [eq] at alone
    exact strip_ne_of_swallowed notRoot alone r left
  · exact noSlash ((below_iff eq).mp below).1

/-- Where the base path runs into a path that names its route alone, the path is read as user
management. -/
theorem Swallows.misread (h : m.Swallows path r) :
    m.resolve path = .userManagement ∧ m.Names path r ∧ ∀ r', m.Names path r' → r' = r := by
  obtain ⟨notRoot, ⟨rest, eq⟩, alone⟩ := h
  have none : ∀ r' : Route, Text.stripChars isSlash rest ≠ r'.segment.toList :=
    strip_ne_of_swallowed notRoot (by rw [eq, alone])
  refine ⟨?_, .inl alone, ?_⟩
  · rw [resolve_eq, ← eq, dropFront_append, read_of_no_segment none]
  · rintro r' (alone' | below)
    · exact Route.eq_of_segment (alone'.symm.trans alone)
    · exact absurd ((below_iff eq.symm).mp below).2 (none r')

/-! ### Meaning and reading -/

theorem Names.unique {r' : Route} (h : m.Names path r) (h' : m.Names path r') : r = r' := by
  -- A route that is named below the base path is the only one that is.
  have only : ∀ {r r' : Route}, (∃ k j, (Text.trim path).toList = m.basePath.toList ++
      (List.replicate (k + 1) '/' ++ r.segment.toList ++ List.replicate j '/')) →
      m.Names path r' → r = r' := by
    rintro r r' ⟨k, j, eq⟩ (alone | below)
    · rw [eq] at alone
      by_cases root : m.basePath = ""
      · rw [root] at alone
        exact Route.eq_of_segment ((strip_segment r (k + 1) j).symm.trans alone)
      · exact absurd (strip_segment r (k + 1) j) (strip_ne_of_swallowed root alone r)
    · exact Route.eq_of_segment ((strip_segment r (k + 1) j).symm.trans ((below_iff eq).mp below).2)
  rcases h with alone | below
  · rcases h' with alone' | below'
    · exact Route.eq_of_segment (alone.symm.trans alone')
    · exact (only below' (.inl alone)).symm
  · exact only below h'

theorem Means.unique {r' : Route} (h : m.Means path r) (h' : m.Means path r') : r = r' := by
  rcases h with named | ⟨rfl, none⟩
  · rcases h' with named' | ⟨rfl, none⟩
    · exact named.unique named'
    · exact absurd named (none r)
  · rcases h' with named' | ⟨rfl, -⟩
    · exact absurd named' (none r')
    · rfl

/-- What is left of a path below the base path is read as the path means. -/
theorem means_rest (notRoot : m.basePath ≠ "")
    (eq : (Text.trim path).toList = m.basePath.toList ++ rest)
    (runsInto : ∀ r, r ≠ .userManagement → ¬ m.RunsInto path r)
    (swallows : ∀ r, r ≠ .userManagement → ¬ m.Swallows path r) : m.Means path (read rest) := by
  by_cases left : ∃ r : Route, Text.stripChars isSlash rest = r.segment.toList
  · obtain ⟨r, left⟩ := left
    rw [read_of_segment left]
    by_cases slash : rest.head? = some '/'
    · exact .inl (.inr ((below_iff eq).mpr ⟨slash, left⟩))
    · have into : m.RunsInto path r := (runsInto_iff notRoot eq).mpr ⟨slash, left⟩
      exact .inr ⟨by_contra fun other => runsInto r other into, into.misread.2⟩
  · rw [not_exists] at left
    rw [read_of_no_segment left]
    by_cases named : ∃ r, m.Names path r
    · obtain ⟨r, named⟩ := named
      rcases id named with alone | below
      · have swallowed : m.Swallows path r := ⟨notRoot, ⟨rest, eq.symm⟩, alone⟩
        obtain rfl : r = .userManagement := by_contra fun other => swallows r other swallowed
        exact .inl named
      · exact absurd ((below_iff eq).mp below).2 (left r)
    · exact .inr ⟨rfl, not_exists.mp named⟩

theorem means_resolve (runsInto : ∀ r, r ≠ .userManagement → ¬ m.RunsInto path r)
    (swallows : ∀ r, r ≠ .userManagement → ¬ m.Swallows path r) :
    m.Means path (m.resolve path) := by
  rw [resolve_eq]
  by_cases starts : m.basePath.toList <+: (Text.trim path).toList
  · by_cases root : m.basePath = ""
    · have whole : dropFront m.basePath.toList (Text.trim path).toList =
          (Text.trim path).toList := by
        rw [root]
        rfl
      rw [whole]
      refine means_read fun r named => ?_
      rcases named with alone | ⟨k, j, below⟩
      · exact alone
      · rw [below, root]
        exact strip_segment r (k + 1) j
    · obtain ⟨rest, eq⟩ := starts
      rw [← eq, dropFront_append]
      exact means_rest root eq.symm runsInto swallows
  · rw [dropFront_of_other starts]
    refine means_read fun r named => ?_
    rcases named with alone | ⟨k, j, below⟩
    · exact alone
    · exact absurd ⟨_, below.symm⟩ starts

/-- **A path is read as what it means, unless the base path runs into it.** -/
theorem means_resolve_iff (m : SiteMap) (path : String) :
    (m.Means path (m.resolve path) ↔
      ∀ r, r ≠ .userManagement → ¬ m.RunsInto path r ∧ ¬ m.Swallows path r) ∧
    (∀ r, m.RunsInto path r → m.resolve path = r ∧ m.Means path .userManagement) ∧
    (∀ r, m.Swallows path r → m.resolve path = .userManagement ∧ m.Means path r) ∧
    ∀ r r', m.Means path r → m.Means path r' → r = r' := by
  have into : ∀ r, m.RunsInto path r → m.resolve path = r ∧ m.Means path .userManagement :=
    fun r h => ⟨h.misread.1, .inr ⟨rfl, h.misread.2⟩⟩
  have swallowed : ∀ r, m.Swallows path r →
      m.resolve path = .userManagement ∧ m.Means path r :=
    fun r h => ⟨h.misread.1, .inl h.misread.2.1⟩
  refine ⟨⟨fun means r other => ⟨fun h => ?_, fun h => ?_⟩, fun h => ?_⟩, into, swallowed,
    fun r r' => Means.unique⟩
  · obtain ⟨read, means'⟩ := into r h
    exact other ((read ▸ means).unique means')
  · obtain ⟨read, means'⟩ := swallowed r h
    exact other (means'.unique (read ▸ means))
  · exact means_resolve (fun r other => (h r other).1) fun r other => (h r other).2

/-- A login alone below a base path that it starts with, and the terms with no slash before them. -/
theorem means_resolve_iff_runTogether :
    ((ofBase "/log").resolve "/login" = .userManagement ∧ (ofBase "/log").Means "/login" .login) ∧
      ((ofBase "/psamaui").resolve "/psamauitos" = .tos ∧
        (ofBase "/psamaui").Means "/psamauitos" .userManagement) := by
  have swallows : (ofBase "/log").Swallows "/login" .login := by
    unfold Swallows
    decide +kernel
  have runsInto : (ofBase "/psamaui").RunsInto "/psamauitos" .tos :=
    ⟨by decide +kernel, 0, by decide +kernel⟩
  exact ⟨(means_resolve_iff _ _).2.2.1 _ swallows, (means_resolve_iff _ _).2.1 _ runsInto⟩

end SiteMap

end AdminConsole
