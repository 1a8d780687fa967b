import AdminConsole.Location
import AdminConsole.Proofs.SiteMap
import AdminConsole.Proofs.Url.Parse

/-!
# Locations of routes

The path that is written for a route is no URL, since it starts with a slash. So it is read as the
location of the route, unless the base path has a mark in it at which a path is cut off
(`Location.parse_pathFor`). -/

namespace AdminConsole

namespace SiteMap

/-- There is no mark in the base path at which a query or a fragment would start. -/
def IsUnmarked (m : SiteMap) : Prop := '?' ∉ m.basePath.toList ∧ '#' ∉ m.basePath.toList

theorem mem_normalBase {base : String} {c : Char} (h : c ∈ (normalBase base).toList) :
    c = '/' ∨ c ∈ base.toList := by
  have core : ∀ c ∈ (Text.strip isSlash (Text.trim base)).toList, c ∈ base.toList := by
    intro c hc
    rw [Text.strip, String.toList_ofList] at hc
    have trimmed := Text.mem_of_mem_stripChars hc
    rw [Text.trim, Text.strip, String.toList_ofList] at trimmed
    exact Text.mem_of_mem_stripChars trimmed
  rw [normalBase] at h
  split at h
  · exact absurd h List.not_mem_nil
  · rw [String.toList_append] at h
    exact (List.mem_cons.mp h).imp_right (core c)

theorem basePath_ofBase (base : String) : (ofBase base).basePath = normalBase base := by
  simp only [ofBase]

theorem isUnmarked_of_base {m : SiteMap} {base : String} (built : m.basePath = normalBase base)
    (noQuery : '?' ∉ base.toList) (noFragment : '#' ∉ base.toList) : m.IsUnmarked := by
  have unmarked : ∀ mark, mark ≠ '/' → mark ∉ base.toList → mark ∉ (normalBase base).toList :=
    fun mark other absent mem => absent ((mem_normalBase mem).resolve_left other)
  rw [IsUnmarked, built]
  exact ⟨unmarked '?' (by decide) noQuery, unmarked '#' (by decide) noFragment⟩

theorem isUnmarked_ofBase {base : String} (noQuery : '?' ∉ base.toList)
    (noFragment : '#' ∉ base.toList) : (ofBase base).IsUnmarked :=
  isUnmarked_of_base (basePath_ofBase base) noQuery noFragment

variable {m : SiteMap}

theorem not_mem_pathFor {mark : Char} (other : mark ≠ '/') (h : mark ∉ m.basePath.toList)
    (r : Route) (hr : mark ∉ r.segment.toList) : mark ∉ (m.pathFor r).toList := by
  rw [toList_pathFor, List.mem_append, List.mem_cons]
  rintro (mem | mem | mem)
  · exact h mem
  · exact other mem
  · exact hr mem

/-- **The path of a route is the location of the route.** -/
theorem parse_pathFor (unmarked : m.IsUnmarked) (r : Route) :
    Location.parse (m.pathFor r) = .ofPath (m.pathFor r) := by
  obtain ⟨cs, slash⟩ := m.pathFor_head r
  have noQuery := not_mem_pathFor (by decide) unmarked.1 r (by cases r <;> decide)
  have noFragment := not_mem_pathFor (by decide) unmarked.2 r (by cases r <;> decide)
  rw [Location.parse, trim_pathFor, Url.parse_of_slash slash]
  simp only [Location.parsePath, Url.cutMark_of_not_mem noFragment,
    Url.cutMark_of_not_mem noQuery, String.ofList_toList]
  rfl

end SiteMap

end AdminConsole
