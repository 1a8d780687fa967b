import AdminConsole.Navigation.Navigator
import AdminConsole.Proofs.Location
import AdminConsole.Proofs.LocationText

/-!
# Paths of routes lead back

A base path in which no query and no fragment starts gives every route a path that can be read up to
any mark (`SiteMap.isPath_pathFor`). So the path of a route, with slashes and a query or a fragment
after it, leads back to the route, and a navigation to the route starts there
(`SiteMap.pathFor_leads_back`). -/

namespace AdminConsole.SiteMap

variable {m : SiteMap}

theorem isPath_pathFor (unmarked : m.IsUnmarked) (r : Route) (n : Nat) :
    Location.IsPath (m.pathFor r ++ slashes n) where
  slash := by
    obtain ⟨cs, slash⟩ := m.pathFor_head r
    rw [String.toList_append, slash]
    rfl
  noQuery := by
    rw [String.toList_append, List.mem_append, toList_slashes, not_or]
    exact ⟨not_mem_pathFor (by decide) unmarked.1 r (by cases r <;> decide), by simp⟩
  noFragment := by
    rw [String.toList_append, List.mem_append, toList_slashes, not_or]
    exact ⟨not_mem_pathFor (by decide) unmarked.2 r (by cases r <;> decide), by simp⟩
  unpadded := m.pathFor_slashes_last r n

/-- **The path of a route leads back to the route.** Slashes after it and white space around it do
no harm, whatever the base path. If no query and no fragment starts in the base path, neither does
a query or a fragment after it, and a navigation to the route starts at the route. -/
theorem pathFor_leads_back {base : String} (built : m.basePath = normalBase base) (r : Route)
    (n : Nat) :
    (∀ front back : String, Text.isAllBlank front = true → Text.isAllBlank back = true →
      m.resolve (front ++ (m.pathFor r ++ slashes n) ++ back) = r) ∧
    ('?' ∉ base.toList → '#' ∉ base.toList →
      (∀ rest : String, (∀ c ∈ rest.toList.head?, Location.isMark c = true) →
        (Location.parse (m.pathFor r ++ slashes n ++ rest)).path = m.pathFor r ++ slashes n ∧
        m.resolve (Location.parse (m.pathFor r ++ slashes n ++ rest)).path = r) ∧
      ∀ nav : Navigator, nav.siteMap = m →
        ∃ start : Location, m.resolve start.path = r ∧
          nav.navigateTo r = App.ticket >>= nav.follow start) := by
  have leads : ∀ front back : String, Text.isAllBlank front = true →
      Text.isAllBlank back = true → m.resolve (front ++ (m.pathFor r ++ slashes n) ++ back) = r :=
    fun front back => m.resolve_pathFor_slashes r n front back
  refine ⟨leads, fun noQuery noFragment => ⟨fun rest marked => ?_, fun nav site => ?_⟩⟩
  · have unmarked := isUnmarked_of_base built noQuery noFragment
    have path := Location.path_parse_of_isPath (isPath_pathFor unmarked r n) marked
    have back := leads "" "" rfl rfl
    rw [path]
    exact ⟨rfl, by simpa using back⟩
  · subst site
    refine ⟨.ofPath (nav.siteMap.pathFor r), resolve_pathFor nav.siteMap r, ?_⟩
    rw [Navigator.navigateTo, Navigator.navigate,
      parse_pathFor (isUnmarked_of_base built noQuery noFragment)]

/-- A base path with white space and slashes in it, and marks and white space after the path. -/
theorem pathFor_leads_back_marks :
    (ofBase "\u3000//a b//é/ ").resolve "\t/a b//é/tos//\u2003" = .tos ∧
      (Location.parse "/a b//é/tos//?x#/login?y ").path = "/a b//é/tos//" ∧
      ∃ start : Location, (ofBase "\u3000//a b//é/ ").resolve start.path = .tos ∧
        (Navigator.ofSettings {} (ofBase "\u3000//a b//é/ ")).navigateTo .tos =
          App.ticket >>= (Navigator.ofSettings {} (ofBase "\u3000//a b//é/ ")).follow start := by
  obtain ⟨padded, unmarked⟩ := pathFor_leads_back (basePath_ofBase "\u3000//a b//é/ ") .tos 2
  obtain ⟨marked, starts⟩ := unmarked (by decide) (by decide)
  have written : (ofBase "\u3000//a b//é/ ").pathFor .tos ++ slashes 2 = "/a b//é/tos//" := by
    decide +kernel
  rw [written] at padded marked
  refine ⟨padded "\t" "\u2003" (by decide) (by decide), ?_, starts _ rfl⟩
  exact (marked "?x#/login?y " (by rintro c ⟨⟩; rfl)).1

end AdminConsole.SiteMap
