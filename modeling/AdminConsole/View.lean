import AdminConsole.Route
import AdminConsole.Sorted.TextSet

/-!
# Views

What the console shows in its main region, and how a view reads on a terminal. -/

namespace AdminConsole

inductive View where
  /-- An administration page. -/
  | page (route : Route)
  /-- The terms of service, with their text if there is one. -/
  | terms (content : Option String)
  /-- A login form under a message. -/
  | login (message : String)
  /-- Access is denied; the link leads to where it can be asked for. -/
  | denied (helpLink : Option String)
  | profile (username : String) (email : Option String) (privileges : TextSet)
  deriving DecidableEq

namespace View

def isDenied : View → Bool
  | denied _ => true
  | _ => false

def text : View → String
  | page route => "[" ++ route.segment ++ "]"
  | terms content =>
    "[tos]\n" ++ content.getD "(terms of service could not be loaded)" ++
      "\n\ntype 'accept' to accept the terms"
  | login message => "[login]\n" ++ message
  | denied none => "[not authorized]"
  | denied (some link) => "[not authorized]\nrequest access: " ++ link
  | profile username email privileges =>
    "[userProfile]\nusername:   " ++ username ++ "\nemail:      " ++ email.getD "-" ++
      "\nprivileges: " ++ ", ".intercalate privileges.toList

/-- What showing the view writes to the terminal. -/
def line (v : View) : String := v.text ++ "\n"

end View

end AdminConsole
