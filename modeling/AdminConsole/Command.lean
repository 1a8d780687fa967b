import AdminConsole.Text.Blank

/-!
# Commands

The lines a user types. White space around a line never matters, a path alone stands for `go` and
the path, and the word of any other command is read without regard to the case of its letters. -/

namespace AdminConsole

inductive Command where
  | go (path : String)
  | accept
  | logout
  | whoami
  | refresh
  | help
  | quit
  deriving DecidableEq

namespace Command

inductive ParseError where
  | unknown (word : String)
  | missingPath
  deriving DecidableEq

def ParseError.message : ParseError → String
  | unknown word => "unknown command '" ++ word ++ "', type 'help'"
  | missingPath => "'go' needs a path"

/-- The command named by a word in small letters, given the rest of its line. -/
def ofWord? (word rest : String) : Option (Except ParseError Command) :=
  match word with
  | "go" | "nav" =>
    let path := Text.trim rest
    some (if path.isEmpty then .error .missingPath else .ok (.go path))
  | "accept" => some (.ok .accept)
  | "logout" => some (.ok .logout)
  | "whoami" => some (.ok .whoami)
  | "refresh" => some (.ok .refresh)
  | "help" | "?" => some (.ok .help)
  | "quit" | "exit" => some (.ok .quit)
  | _ => none

/-- A blank line is no command. -/
def parse (line : String) : Except ParseError (Option Command) :=
  let line := Text.trim line
  match line.toList with
  | [] => .ok none
  | '/' :: _ => .ok (some (.go line))
  | cs =>
    let (word, rest) := (Text.cutAt? Text.isBlank cs).getD (cs, [])
    let word := String.ofList word
    match ofWord? (Text.toAsciiLower word) (String.ofList rest) with
    | some command => command.map some
    | none => .error (.unknown word)

def text : Command → String
  | go path => "go " ++ path
  | accept => "accept"
  | logout => "logout"
  | whoami => "whoami"
  | refresh => "refresh"
  | help => "help"
  | quit => "quit"

def helpLines : List String := [
  "commands:",
  "  go <path>   navigate, e.g. go /psamaui/roleManagement",
  "  accept      accept the terms of service",
  "  logout      clear the session",
  "  whoami      show the signed-in user",
  "  refresh     replace the session token with a long-term token",
  "  help        show this list",
  "  quit        exit"]

def helpText : String := "\n".intercalate helpLines

end Command

end AdminConsole
