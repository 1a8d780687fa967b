import AdminConsole.Command
import AdminConsole.Navigation.Navigator
import AdminConsole.Navigation.TokenRefresh

/-!
# The console

Commands become operations of the navigator, and what comes of them becomes a line for the user.
Requests that are rejected on the way wait in a queue, and each is recovered from in its turn. -/

namespace AdminConsole

inductive ConsoleOp where
  | app (op : AppOp)
  /-- Takes the rejection that has waited longest, if there is one. -/
  | nextRejection
  | print (line : String)

abbrev ConsoleOp.Answer : ConsoleOp → Type
  | app op => op.Answer
  | nextRejection => Option Rejection
  | print _ => Unit

abbrev Console := Program ConsoleOp.Answer

namespace Console

def ofApp {α : Type} (p : App α) : Console α := p.runIn fun op => .step (.app op) .done

instance : MonadLift App Console := ⟨ofApp⟩

def nextRejection : Console (Option Rejection) := .step .nextRejection .done

def print (line : String) : Console Unit := .step (.print line) .done

/-! ### Commands -/

/-- What the user has to be told of an outcome that shows no view. -/
def describe : Outcome → Option String
  | .external url => some ("open: " ++ url)
  | .loginInitiated (.external url) => some ("sign in at: " ++ url)
  | .aborted => some "navigation aborted"
  | .rendered _ | .loginInitiated _ | .superseded => none

def whoami : Storage String := do
  match ← SessionStore.get with
  | some s =>
    if s.isAuthenticated then
      return s.username?.getD "unknown" ++ " (" ++ s.userId.getD "-" ++ ")"
    else return "not signed in"
  | none => return "not signed in"

def refresh : App String := do
  match ← TokenRefresh.refresh with
  | .ok _ => return "token refreshed"
  | .error e => return "token refresh failed: " ++ e.message

/-- Runs a command, and answers the reply. -/
def execute (n : Navigator) : Command → App (Except NavigationError (Option String))
  | .go path => return (← n.navigate path).map describe
  | .accept => return (← n.acceptTerms).map describe
  | .logout => return (← n.logout).map describe
  | .whoami => return .ok (some (← whoami))
  | .refresh => return .ok (some (← refresh))
  | .help => return .ok (some Command.helpText)
  | .quit => return .ok none

/-! ### Rejections -/

/-- Recovers from the rejections that wait, at most as many as given, and answers the replies. The
first recovery that fails ends it. -/
def drain (n : Navigator) : Nat → Console (Except NavigationError (List String))
  | 0 => return .ok []
  | limit + 1 => do
    match ← nextRejection with
    | none => return .ok []
    | some rejection =>
      match ← n.recover rejection with
      | .error e => return .error e
      | .ok outcome => return (← drain n limit).map ((describe outcome).toList ++ ·)

/-! ### Sessions of the user -/

def errorLine (e : NavigationError) : String := "error: " ++ e.message

def printReply : Except NavigationError (Option String) → Console Unit
  | .ok (some reply) => print reply
  | .ok none => return
  | .error e => print (errorLine e)

/-- Recovers from the rejections that wait, at most as many as given, and prints the replies. -/
def settle (n : Navigator) : Nat → Console Unit
  | 0 => return
  | limit + 1 => do
    match ← nextRejection with
    | none => return
    | some rejection =>
      printReply ((← n.recover rejection).map describe)
      settle n limit

/-- Does what a line says. Answers whether the user goes on. -/
def handleLine (n : Navigator) (line : String) : Console Bool := do
  match Command.parse line with
  | .ok none => return true
  | .ok (some .quit) => return false
  | .ok (some command) =>
    printReply (← execute n command)
    return true
  | .error e =>
    print e.message
    return true

/-- Does what the lines say, and answers whether the last was reached. Before each line the
rejections that wait are recovered from, at most `limit` of them. -/
def runLines (n : Navigator) (limit : Nat) : List String → Console Bool
  | [] => do
    settle n limit
    return true
  | line :: lines => do
    settle n limit
    if ← handleLine n line then runLines n limit lines else return false

/-- What a console does before it reads its first line. -/
def greet (n : Navigator) : Console Unit := do
  match ← execute n (.go (n.siteMap.pathFor .userManagement)) with
  | .ok (some reply) => print reply
  | _ => return

end Console

end AdminConsole
