/-!
# Routes

The console's destinations, each known by the last segment of its path. No two routes share a
segment, so looking a segment up undoes naming the route (`ofSegment?_segment`). -/

namespace AdminConsole

inductive Route where
  | userManagement
  | roleManagement
  | privilegeManagement
  | applicationManagement
  | connectionManagement
  | accessRuleManagement
  | tos
  | login
  | logout
  | notAuthorized
  | userProfile
  deriving DecidableEq, Inhabited

namespace Route

/-- In the order in which routes are listed. -/
def all : List Route :=
  [userManagement, roleManagement, privilegeManagement, applicationManagement,
    connectionManagement, accessRuleManagement, tos, login, logout, notAuthorized, userProfile]

theorem mem_all (r : Route) : r ∈ all := by cases r <;> decide

def segment : Route → String
  | userManagement => "userManagement"
  | roleManagement => "roleManagement"
  | privilegeManagement => "privilegeManagement"
  | applicationManagement => "applicationManagement"
  | connectionManagement => "connectionManagement"
  | accessRuleManagement => "accessRuleManagement"
  | tos => "tos"
  | login => "login"
  | logout => "logout"
  | notAuthorized => "not_authorized"
  | userProfile => "userProfile"

/-- The route whose segment the text is, letter for letter. -/
def ofSegment? (s : String) : Option Route := all.find? (·.segment == s)

theorem ofSegment?_segment (r : Route) : ofSegment? r.segment = some r := by cases r <;> decide

end Route

end AdminConsole
