import AdminConsole.Route
import AdminConsole.Sorted.TextSet
import AdminConsole.Text.Blank

/-!
# The site map

Where each route is found below the base path and what it asks of a session. `resolve` reads a
path as a route and `pathFor` writes a route as a path; every path leads somewhere, the unknown
ones to user management. -/

namespace AdminConsole

/-- Permission tag of the administration pages. -/
def superAdmin : String := "SUPER_ADMIN"

/-- Permission tag of the access rules. -/
def roleSuperAdmin : String := "ROLE_SUPER_ADMIN"

/-- What a route asks for before it is shown. -/
structure Access where
  /-- Shown without a session. -/
  isPublic : Bool
  /-- Every one of these tags must be held. -/
  required : TextSet
  deriving DecidableEq

namespace Access

def initial : Route → Access
  | .notAuthorized => ⟨true, .empty⟩
  | .roleManagement | .privilegeManagement | .applicationManagement | .connectionManagement =>
    ⟨false, .ofList [superAdmin]⟩
  | .accessRuleManagement => ⟨false, .ofList [roleSuperAdmin]⟩
  | _ => ⟨false, .empty⟩

end Access

namespace SiteMap

def isSlash (c : Char) : Bool := c == '/'

/-- Empty, or a slash and a text with no slash at either end. -/
def normalBase (base : String) : String :=
  let core := Text.strip isSlash (Text.trim base)
  if core.isEmpty then "" else "/" ++ core

end SiteMap

structure SiteMap where
  basePath : String
  access : Route → Access
  normal : ∃ base, basePath = SiteMap.normalBase base

namespace SiteMap

def ofBase (base : String) : SiteMap := ⟨normalBase base, Access.initial, base, rfl⟩

/-- The base path of a console that is given none. -/
def defaultBase : String := "/psamaui"

def update (m : SiteMap) (r : Route) (f : Access → Access) : SiteMap :=
  { m with access := fun r' => if r' = r then f (m.access r') else m.access r' }

def setPublic (m : SiteMap) (r : Route) (isPublic : Bool) : SiteMap :=
  m.update r fun a => { a with isPublic }

def setRequired (m : SiteMap) (r : Route) (required : TextSet) : SiteMap :=
  m.update r fun a => { a with required }

def isPublic (m : SiteMap) (r : Route) : Bool := (m.access r).isPublic

def required (m : SiteMap) (r : Route) : TextSet := (m.access r).required

def pathFor (m : SiteMap) (r : Route) : String := m.basePath ++ "/" ++ r.segment

/-- The text without the front it starts with, or as it is. -/
def dropFront (front cs : List Char) : List Char :=
  if front.isPrefixOf cs then cs.drop front.length else cs

/-- The base path and the slashes around the segment may be left out. -/
def resolve (m : SiteMap) (path : String) : Route :=
  let rest := dropFront m.basePath.toList (Text.trim path).toList
  (Route.ofSegment? (String.ofList (Text.stripChars isSlash rest))).getD .userManagement

end SiteMap

end AdminConsole
